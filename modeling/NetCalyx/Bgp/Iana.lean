import NetCalyx.Wire.Octets

/-!
# Registered BGP numbers

The enumerations of the BGP registries with their wire numbers. Each has a
`code` and a partial inverse `tryFrom`; `tryFrom_code` says that every member
is recovered from its number. The BGP-LS, Prefix-SID and SRv6 registries also
say why a number is not a member: `IanaValueError`.
-/

namespace NetCalyx.Bgp
open Wire

/-! ## Messages -/

inductive BgpMessageType where
  | openMessage | update | notification | keepAlive | routeRefresh
  deriving DecidableEq

def BgpMessageType.code : BgpMessageType → BitVec 8
  | .openMessage => 1 | .update => 2 | .notification => 3 | .keepAlive => 4
  | .routeRefresh => 5

def BgpMessageType.tryFrom : BitVec 8 → Option BgpMessageType := fromRepr 5 ofNat code

inductive BgpOpenMessageParameterType where
  | capability | extendedLength
  deriving DecidableEq

def BgpOpenMessageParameterType.code : BgpOpenMessageParameterType → BitVec 8
  | .capability => 2 | .extendedLength => 255

def BgpOpenMessageParameterType.tryFrom : BitVec 8 → Option BgpOpenMessageParameterType :=
  fromRepr 2 ofNat code

inductive BgpCapabilityCode where
  | multiProtocolExtensions | routeRefreshCapability | outboundRouteFilteringCapability
  | extendedNextHopEncoding | bgpExtendedMessage | bgpSecCapability | multipleLabelsCapability
  | bgpRole | gracefulRestartCapability | fourOctetAs | supportForDynamicCapability
  | multiSessionBgpCapability | addPathCapability | enhancedRouteRefresh
  | longLivedGracefulRestartLLGRCapability | routingPolicyDistribution | fqdn
  | ciscoRouteRefresh | experimental239 | experimental240 | experimental241 | experimental242
  | experimental243 | experimental244 | experimental245 | experimental246 | experimental247
  | experimental248 | experimental249 | experimental250 | experimental251 | experimental252
  | experimental253 | experimental254
  deriving DecidableEq

def BgpCapabilityCode.code : BgpCapabilityCode → BitVec 8
  | .multiProtocolExtensions => 1 | .routeRefreshCapability => 2
  | .outboundRouteFilteringCapability => 3 | .extendedNextHopEncoding => 5
  | .bgpExtendedMessage => 6 | .bgpSecCapability => 7 | .multipleLabelsCapability => 8
  | .bgpRole => 9 | .gracefulRestartCapability => 64 | .fourOctetAs => 65
  | .supportForDynamicCapability => 67 | .multiSessionBgpCapability => 68
  | .addPathCapability => 69 | .enhancedRouteRefresh => 70
  | .longLivedGracefulRestartLLGRCapability => 71 | .routingPolicyDistribution => 72
  | .fqdn => 73 | .ciscoRouteRefresh => 128 | .experimental239 => 239 | .experimental240 => 240
  | .experimental241 => 241 | .experimental242 => 242 | .experimental243 => 243
  | .experimental244 => 244 | .experimental245 => 245 | .experimental246 => 246
  | .experimental247 => 247 | .experimental248 => 248 | .experimental249 => 249
  | .experimental250 => 250 | .experimental251 => 251 | .experimental252 => 252
  | .experimental253 => 253 | .experimental254 => 254

def BgpCapabilityCode.tryFrom : BitVec 8 → Option BgpCapabilityCode := fromRepr 34 ofNat code

@[simp] theorem BgpCapabilityCode.tryFrom_code (a : BgpCapabilityCode) :
    tryFrom a.code = some a := by
  cases a <;> rfl

inductive RouteRefreshSubcode where
  | normalRequest | beginningOfRouteRefresh | endOfRouteRefresh
  deriving DecidableEq

def RouteRefreshSubcode.code : RouteRefreshSubcode → BitVec 8
  | .normalRequest => 0 | .beginningOfRouteRefresh => 1 | .endOfRouteRefresh => 2

def RouteRefreshSubcode.tryFrom : BitVec 8 → Option RouteRefreshSubcode := fromRepr 3 ofNat code

inductive BgpRoleValue where
  | provider | customer | rs | rsClient | peer
  deriving DecidableEq

def BgpRoleValue.code : BgpRoleValue → BitVec 8
  | .provider => 0x00 | .customer => 0x01 | .rs => 0x02 | .rsClient => 0x03 | .peer => 0x04

def BgpRoleValue.tryFrom : BitVec 8 → Option BgpRoleValue := fromRepr 5 ofNat code

@[simp] theorem BgpRoleValue.tryFrom_code (a : BgpRoleValue) : tryFrom a.code = some a := by
  cases a <;> rfl

/-! ## Notification codes -/

inductive BgpErrorNotificationCode where
  | messageHeaderError | openMessageError | updateMessageError | holdTimerExpired
  | finiteStateMachineError | cease | routeRefreshMessageError
  deriving DecidableEq

def BgpErrorNotificationCode.code : BgpErrorNotificationCode → BitVec 8
  | .messageHeaderError => 1 | .openMessageError => 2 | .updateMessageError => 3
  | .holdTimerExpired => 4 | .finiteStateMachineError => 5 | .cease => 6
  | .routeRefreshMessageError => 7

def BgpErrorNotificationCode.tryFrom : BitVec 8 → Option BgpErrorNotificationCode :=
  fromRepr 7 ofNat code

inductive MessageHeaderErrorSubCode where
  | unspecific | connectionNotSynchronized | badMessageLength | badMessageType
  deriving DecidableEq

def MessageHeaderErrorSubCode.code : MessageHeaderErrorSubCode → BitVec 8
  | .unspecific => 0 | .connectionNotSynchronized => 1 | .badMessageLength => 2
  | .badMessageType => 3

def MessageHeaderErrorSubCode.tryFrom : BitVec 8 → Option MessageHeaderErrorSubCode :=
  fromRepr 4 ofNat code

inductive OpenMessageErrorSubCode where
  | unspecific | unsupportedVersionNumber | badPeerAs | badBgpIdentifier
  | unsupportedOptionalParameter | unacceptableHoldTime | unsupportedCapability | roleMismatch
  deriving DecidableEq

def OpenMessageErrorSubCode.code : OpenMessageErrorSubCode → BitVec 8
  | .unspecific => 0 | .unsupportedVersionNumber => 1 | .badPeerAs => 2
  | .badBgpIdentifier => 3 | .unsupportedOptionalParameter => 4 | .unacceptableHoldTime => 6
  | .unsupportedCapability => 7 | .roleMismatch => 11

def OpenMessageErrorSubCode.tryFrom : BitVec 8 → Option OpenMessageErrorSubCode :=
  fromRepr 8 ofNat code

inductive UpdateMessageErrorSubCode where
  | unspecific | malformedAttributeList | unrecognizedWellKnownAttribute
  | missingWellKnownAttribute | attributeFlagsError | attributeLengthError
  | invalidOriginAttribute | invalidNextHopAttribute | optionalAttributeError
  | invalidNetworkField | malformedAsPath
  deriving DecidableEq

def UpdateMessageErrorSubCode.code : UpdateMessageErrorSubCode → BitVec 8
  | .unspecific => 0 | .malformedAttributeList => 1 | .unrecognizedWellKnownAttribute => 2
  | .missingWellKnownAttribute => 3 | .attributeFlagsError => 4 | .attributeLengthError => 5
  | .invalidOriginAttribute => 6 | .invalidNextHopAttribute => 8 | .optionalAttributeError => 9
  | .invalidNetworkField => 10 | .malformedAsPath => 11

def UpdateMessageErrorSubCode.tryFrom : BitVec 8 → Option UpdateMessageErrorSubCode :=
  fromRepr 11 ofNat code

inductive FiniteStateMachineErrorSubCode where
  | unspecifiedError | receiveUnexpectedMessageInOpenSentState
  | receiveUnexpectedMessageInOpenConfirmState | receiveUnexpectedMessageInEstablishedState
  deriving DecidableEq

def FiniteStateMachineErrorSubCode.code : FiniteStateMachineErrorSubCode → BitVec 8
  | .unspecifiedError => 0 | .receiveUnexpectedMessageInOpenSentState => 1
  | .receiveUnexpectedMessageInOpenConfirmState => 2
  | .receiveUnexpectedMessageInEstablishedState => 3

def FiniteStateMachineErrorSubCode.tryFrom : BitVec 8 → Option FiniteStateMachineErrorSubCode :=
  fromRepr 4 ofNat code

inductive CeaseErrorSubCode where
  | maximumNumberOfPrefixesReached | administrativeShutdown | peerDeConfigured
  | administrativeReset | connectionRejected | otherConfigurationChange
  | connectionCollisionResolution | outOfResources | hardReset | bfdDown
  deriving DecidableEq

def CeaseErrorSubCode.code : CeaseErrorSubCode → BitVec 8
  | .maximumNumberOfPrefixesReached => 1 | .administrativeShutdown => 2
  | .peerDeConfigured => 3 | .administrativeReset => 4 | .connectionRejected => 5
  | .otherConfigurationChange => 6 | .connectionCollisionResolution => 7 | .outOfResources => 8
  | .hardReset => 9 | .bfdDown => 10

def CeaseErrorSubCode.tryFrom : BitVec 8 → Option CeaseErrorSubCode := fromRepr 10 ofNat code

inductive RouteRefreshMessageErrorSubCode where
  | invalidMessageLength
  deriving DecidableEq

def RouteRefreshMessageErrorSubCode.code : RouteRefreshMessageErrorSubCode → BitVec 8
  | .invalidMessageLength => 1

def RouteRefreshMessageErrorSubCode.tryFrom : BitVec 8 → Option RouteRefreshMessageErrorSubCode :=
  fromRepr 1 ofNat code

/-! ## Path attributes -/

inductive PathAttributeType where
  | origin | asPath | nextHop | multiExitDiscriminator | localPreference | atomicAggregate
  | aggregator | communities | originatorId | clusterList | mpReachNlri | mpUnreachNlri
  | extendedCommunities | as4Path | as4Aggregator | pmsiTunnel | tunnelEncapsulation
  | trafficEngineering | extendedCommunitiesIpv6 | accumulatedIgp | peDistinguisherLabels
  | bgpLsAttribute | largeCommunities | bgpPSecPath | onlyToCustomer | bgpDomainPath
  | sfpAttribute | bfdDiscriminator | bgpPrefixSid | attributesSet | development
  deriving DecidableEq

def PathAttributeType.code : PathAttributeType → BitVec 8
  | .origin => 1 | .asPath => 2 | .nextHop => 3 | .multiExitDiscriminator => 4
  | .localPreference => 5 | .atomicAggregate => 6 | .aggregator => 7 | .communities => 8
  | .originatorId => 9 | .clusterList => 10 | .mpReachNlri => 14 | .mpUnreachNlri => 15
  | .extendedCommunities => 16 | .as4Path => 17 | .as4Aggregator => 18 | .pmsiTunnel => 22
  | .tunnelEncapsulation => 23 | .trafficEngineering => 24 | .extendedCommunitiesIpv6 => 25
  | .accumulatedIgp => 26 | .peDistinguisherLabels => 27 | .bgpLsAttribute => 29
  | .largeCommunities => 32 | .bgpPSecPath => 33 | .onlyToCustomer => 35 | .bgpDomainPath => 36
  | .sfpAttribute => 37 | .bfdDiscriminator => 38 | .bgpPrefixSid => 40 | .attributesSet => 128
  | .development => 255

def PathAttributeType.tryFrom : BitVec 8 → Option PathAttributeType := fromRepr 31 ofNat code

inductive AigpAttributeType where
  | accumulatedIgpMetric
  deriving DecidableEq

def AigpAttributeType.code : AigpAttributeType → BitVec 8
  | .accumulatedIgpMetric => 0x01

def AigpAttributeType.tryFrom : BitVec 8 → Option AigpAttributeType := fromRepr 1 ofNat code

inductive RouteDistinguisherTypeCode where
  | as2Administrator | ipv4Administrator | as4Administrator | leafAdRoutes
  deriving DecidableEq

def RouteDistinguisherTypeCode.code : RouteDistinguisherTypeCode → BitVec 16
  | .as2Administrator => 0 | .ipv4Administrator => 1 | .as4Administrator => 2
  | .leafAdRoutes => 65535

def RouteDistinguisherTypeCode.tryFrom : BitVec 16 → Option RouteDistinguisherTypeCode :=
  fromRepr 4 ofNat code

@[simp] theorem RouteDistinguisherTypeCode.tryFrom_code (a : RouteDistinguisherTypeCode) :
    tryFrom a.code = some a := by
  cases a <;> rfl

inductive L2EvpnRouteTypeCode where
  | ethernetAutoDiscovery | macIpAdvertisement | inclusiveMulticastEthernetTagRoute
  | ethernetSegmentRoute | ipPrefix | selectiveMulticastEthernetTagRoute
  | multicastMembershipReportSynchRoute | multicastLeaveSynchRoute
  deriving DecidableEq

def L2EvpnRouteTypeCode.code : L2EvpnRouteTypeCode → BitVec 8
  | .ethernetAutoDiscovery => 0x01 | .macIpAdvertisement => 0x02
  | .inclusiveMulticastEthernetTagRoute => 0x03 | .ethernetSegmentRoute => 0x04
  | .ipPrefix => 0x05 | .selectiveMulticastEthernetTagRoute => 0x06
  | .multicastMembershipReportSynchRoute => 0x07 | .multicastLeaveSynchRoute => 0x08

def L2EvpnRouteTypeCode.tryFrom : BitVec 8 → Option L2EvpnRouteTypeCode := fromRepr 8 ofNat code

@[simp] theorem L2EvpnRouteTypeCode.tryFrom_code (a : L2EvpnRouteTypeCode) :
    tryFrom a.code = some a := by
  cases a <;> rfl

/-! ## Communities -/

inductive BgpExtendedCommunityType where
  | transitiveTwoOctet | nonTransitiveTwoOctet | transitiveIpv4 | nonTransitiveIpv4
  | transitiveFourOctet | nonTransitiveFourOctet | transitiveOpaque | nonTransitiveOpaque
  | transitiveQosMarking | nonTransitiveQosMarking | cosCapability | evpn | flowSpecNextHop
  | flowSpecIndirectionId | transitiveTransportClass | nonTransitiveTransportClass
  | serviceFunctionChain | srv6MobileUserPlane | genericPart1 | genericPart2 | genericPart3
  | experimental83 | experimental84 | experimental85 | experimental86 | experimental87
  | experimental88 | experimental89 | experimental8A | experimental8B | experimental8C
  | experimental8D | experimental8E | experimental8F | experimentalC0 | experimentalC1
  | experimentalC2 | experimentalC3 | experimentalC4 | experimentalC5 | experimentalC6
  | experimentalC7 | experimentalC8 | experimentalC9 | experimentalCa | experimentalCb
  | experimentalCc | experimentalCd | experimentalCe | experimentalCf
  deriving DecidableEq

def BgpExtendedCommunityType.code : BgpExtendedCommunityType → BitVec 8
  | .transitiveTwoOctet => 0x00 | .nonTransitiveTwoOctet => 0x40 | .transitiveIpv4 => 0x01
  | .nonTransitiveIpv4 => 0x41 | .transitiveFourOctet => 0x02 | .nonTransitiveFourOctet => 0x42
  | .transitiveOpaque => 0x03 | .nonTransitiveOpaque => 0x43 | .transitiveQosMarking => 0x04
  | .nonTransitiveQosMarking => 0x44 | .cosCapability => 0x05 | .evpn => 0x06
  | .flowSpecNextHop => 0x08 | .flowSpecIndirectionId => 0x09
  | .transitiveTransportClass => 0x0a | .nonTransitiveTransportClass => 0x4a
  | .serviceFunctionChain => 0x0b | .srv6MobileUserPlane => 0x0c | .genericPart1 => 0x80
  | .genericPart2 => 0x81 | .genericPart3 => 0x82 | .experimental83 => 0x83
  | .experimental84 => 0x84 | .experimental85 => 0x85 | .experimental86 => 0x86
  | .experimental87 => 0x87 | .experimental88 => 0x88 | .experimental89 => 0x89
  | .experimental8A => 0x8a | .experimental8B => 0x8b | .experimental8C => 0x8c
  | .experimental8D => 0x8d | .experimental8E => 0x8e | .experimental8F => 0x8f
  | .experimentalC0 => 0xc0 | .experimentalC1 => 0xc1 | .experimentalC2 => 0xc2
  | .experimentalC3 => 0xc3 | .experimentalC4 => 0xc4 | .experimentalC5 => 0xc5
  | .experimentalC6 => 0xc6 | .experimentalC7 => 0xc7 | .experimentalC8 => 0xc8
  | .experimentalC9 => 0xc9 | .experimentalCa => 0xca | .experimentalCb => 0xcb
  | .experimentalCc => 0xcc | .experimentalCd => 0xcd | .experimentalCe => 0xce
  | .experimentalCf => 0xcf

def BgpExtendedCommunityType.tryFrom : BitVec 8 → Option BgpExtendedCommunityType :=
  fromRepr 50 ofNat code

inductive BgpExtendedCommunityIpv6Type where
  | transitiveIpv6 | nonTransitiveIpv6
  deriving DecidableEq

def BgpExtendedCommunityIpv6Type.code : BgpExtendedCommunityIpv6Type → BitVec 8
  | .transitiveIpv6 => 0x00 | .nonTransitiveIpv6 => 0x40

def BgpExtendedCommunityIpv6Type.tryFrom : BitVec 8 → Option BgpExtendedCommunityIpv6Type :=
  fromRepr 2 ofNat code

inductive TransitiveTwoOctetExtendedCommunitySubType where
  | routeTarget | routeOrigin | ospfDomainIdentifier | bgpDataCollection | sourceAs
  | l2VpnIdentifier | ciscoVpnDistinguisher | routeTargetRecord | rtDerivedEc
  | virtualNetworkIdentifier
  deriving DecidableEq

def TransitiveTwoOctetExtendedCommunitySubType.code : TransitiveTwoOctetExtendedCommunitySubType → BitVec 8
  | .routeTarget => 0x02 | .routeOrigin => 0x03 | .ospfDomainIdentifier => 0x05
  | .bgpDataCollection => 0x08 | .sourceAs => 0x09 | .l2VpnIdentifier => 0x0a
  | .ciscoVpnDistinguisher => 0x10 | .routeTargetRecord => 0x13 | .rtDerivedEc => 0x15
  | .virtualNetworkIdentifier => 0x80

def TransitiveTwoOctetExtendedCommunitySubType.tryFrom : BitVec 8 → Option TransitiveTwoOctetExtendedCommunitySubType :=
  fromRepr 10 ofNat code

inductive NonTransitiveTwoOctetExtendedCommunitySubType where
  | linkBandwidth | virtualNetworkIdentifier
  deriving DecidableEq

def NonTransitiveTwoOctetExtendedCommunitySubType.code : NonTransitiveTwoOctetExtendedCommunitySubType → BitVec 8
  | .linkBandwidth => 0x04 | .virtualNetworkIdentifier => 0x80

def NonTransitiveTwoOctetExtendedCommunitySubType.tryFrom : BitVec 8 → Option NonTransitiveTwoOctetExtendedCommunitySubType :=
  fromRepr 2 ofNat code

inductive TransitiveFourOctetExtendedCommunitySubType where
  | routeTarget | routeOrigin | ospfDomainIdentifier | bgpDataCollection | sourceAs
  | ciscoVpnDistinguisher | routeTargetRecord | rtDerivedEc
  deriving DecidableEq

def TransitiveFourOctetExtendedCommunitySubType.code : TransitiveFourOctetExtendedCommunitySubType → BitVec 8
  | .routeTarget => 0x02 | .routeOrigin => 0x03 | .ospfDomainIdentifier => 0x05
  | .bgpDataCollection => 0x08 | .sourceAs => 0x09 | .ciscoVpnDistinguisher => 0x10
  | .routeTargetRecord => 0x13 | .rtDerivedEc => 0x15

def TransitiveFourOctetExtendedCommunitySubType.tryFrom : BitVec 8 → Option TransitiveFourOctetExtendedCommunitySubType :=
  fromRepr 8 ofNat code

inductive TransitiveIpv4ExtendedCommunitySubType where
  | routeTarget | routeOrigin | ipv4Ifit | ospfDomainIdentifier | ospfRouteID | nodeTarget
  | l2VpnIdentifier | vrfRouteImport | flowSpecRedirectToIpv4 | ciscoVpnDistinguisher
  | interAreaP2MpSegmentedNextHop | routeTargetRecord | vrfRecursiveNextHop | rtDerivedEc
  | multicastVpnRpAddress
  deriving DecidableEq

def TransitiveIpv4ExtendedCommunitySubType.code : TransitiveIpv4ExtendedCommunitySubType → BitVec 8
  | .routeTarget => 0x02 | .routeOrigin => 0x03 | .ipv4Ifit => 0x04
  | .ospfDomainIdentifier => 0x05 | .ospfRouteID => 0x08 | .nodeTarget => 0x09
  | .l2VpnIdentifier => 0x0a | .vrfRouteImport => 0x0b | .flowSpecRedirectToIpv4 => 0x0c
  | .ciscoVpnDistinguisher => 0x10 | .interAreaP2MpSegmentedNextHop => 0x12
  | .routeTargetRecord => 0x13 | .vrfRecursiveNextHop => 0x14 | .rtDerivedEc => 0x15
  | .multicastVpnRpAddress => 0x80

def TransitiveIpv4ExtendedCommunitySubType.tryFrom : BitVec 8 → Option TransitiveIpv4ExtendedCommunitySubType :=
  fromRepr 15 ofNat code

inductive TransitiveIpv6ExtendedCommunitySubType where
  | routeTarget | routeOrigin | ipv6Ifit | vrfRouteImport | flowSpecRedirectToIpv6
  | flowSpecRtRedirectToIpv6 | ciscoVpnDistinguisher | interAreaP2MpSegmentedNextHop
  | rtDerivedEc
  deriving DecidableEq

def TransitiveIpv6ExtendedCommunitySubType.code : TransitiveIpv6ExtendedCommunitySubType → BitVec 8
  | .routeTarget => 0x02 | .routeOrigin => 0x03 | .ipv6Ifit => 0x05 | .vrfRouteImport => 0x0b
  | .flowSpecRedirectToIpv6 => 0x0c | .flowSpecRtRedirectToIpv6 => 0x0d
  | .ciscoVpnDistinguisher => 0x10 | .interAreaP2MpSegmentedNextHop => 0x12
  | .rtDerivedEc => 0x15

def TransitiveIpv6ExtendedCommunitySubType.tryFrom : BitVec 8 → Option TransitiveIpv6ExtendedCommunitySubType :=
  fromRepr 9 ofNat code

inductive EvpnExtendedCommunitySubType where
  | macMobility | esiLabel | esImportRouteTarget | evpnRoutersMac | evpnL2Attribute | eTree
  | dfSelection | arpNd | multicastFlags | eviRtType0 | eviRtType1 | eviRtType2 | eviRtType3
  deriving DecidableEq

def EvpnExtendedCommunitySubType.code : EvpnExtendedCommunitySubType → BitVec 8
  | .macMobility => 0x00 | .esiLabel => 0x01 | .esImportRouteTarget => 0x02
  | .evpnRoutersMac => 0x03 | .evpnL2Attribute => 0x04 | .eTree => 0x05 | .dfSelection => 0x06
  | .arpNd => 0x08 | .multicastFlags => 0x09 | .eviRtType0 => 0x0a | .eviRtType1 => 0x0b
  | .eviRtType2 => 0x0c | .eviRtType3 => 0x0d

def EvpnExtendedCommunitySubType.tryFrom : BitVec 8 → Option EvpnExtendedCommunitySubType :=
  fromRepr 13 ofNat code

inductive TransitiveOpaqueExtendedCommunitySubType where
  | defaultGateway
  deriving DecidableEq

def TransitiveOpaqueExtendedCommunitySubType.code : TransitiveOpaqueExtendedCommunitySubType → BitVec 8
  | .defaultGateway => 0x0d

def TransitiveOpaqueExtendedCommunitySubType.tryFrom : BitVec 8 → Option TransitiveOpaqueExtendedCommunitySubType :=
  fromRepr 1 ofNat code

/-! ## BGP-LS and segment routing -/

/-- Why a number is not a member of a registry. -/
inductive IanaValueError (w : Nat) where
  | reserved (v : BitVec w)
  | deprecated (v : BitVec w)
  | unknown (v : BitVec w)
  deriving DecidableEq

inductive BgpLsNlriType where
  | node | link | ipv4TopologyPrefix | ipv6TopologyPrefix | tePolicy | srv6Sid
  deriving DecidableEq

def BgpLsNlriType.code : BgpLsNlriType → BitVec 16
  | .node => 1 | .link => 2 | .ipv4TopologyPrefix => 3 | .ipv6TopologyPrefix => 4
  | .tePolicy => 5 | .srv6Sid => 6

def BgpLsNlriType.tryFrom : BitVec 16 → Option BgpLsNlriType := fromRepr 6 ofNat code

inductive BgpLsProtocolId where
  | isIsLevel1 | isIsLevel2 | ospfV2 | direct | staticConfiguration | ospfV3 | bgp | rsvpTe
  | segmentRouting
  deriving DecidableEq

def BgpLsProtocolId.code : BgpLsProtocolId → BitVec 8
  | .isIsLevel1 => 1 | .isIsLevel2 => 2 | .ospfV2 => 3 | .direct => 4
  | .staticConfiguration => 5 | .ospfV3 => 6 | .bgp => 7 | .rsvpTe => 8 | .segmentRouting => 9

def BgpLsProtocolId.tryFrom : BitVec 8 → Option BgpLsProtocolId := fromRepr 9 ofNat code

inductive BgpLsNodeDescriptorType where
  | localNodeDescriptor | remoteNodeDescriptor
  deriving DecidableEq

def BgpLsNodeDescriptorType.code : BgpLsNodeDescriptorType → BitVec 16
  | .localNodeDescriptor => 256 | .remoteNodeDescriptor => 257

def BgpLsNodeDescriptorType.tryFrom : BitVec 16 → Option BgpLsNodeDescriptorType :=
  fromRepr 2 ofNat code

inductive BgpLsNodeDescriptorSubType where
  | autonomousSystem | bgpLsIdentifier | ospfAreaId | igpRouterId | bgpRouterIdentifier
  | memberAsNumber
  deriving DecidableEq

def BgpLsNodeDescriptorSubType.code : BgpLsNodeDescriptorSubType → BitVec 16
  | .autonomousSystem => 512 | .bgpLsIdentifier => 513 | .ospfAreaId => 514
  | .igpRouterId => 515 | .bgpRouterIdentifier => 516 | .memberAsNumber => 517

def BgpLsNodeDescriptorSubType.tryFrom : BitVec 16 → Option BgpLsNodeDescriptorSubType :=
  fromRepr 6 ofNat code

inductive BgpLsPrefixDescriptorType where
  | multiTopologyIdentifier | ospfRouteType | ipReachabilityInformation
  deriving DecidableEq

def BgpLsPrefixDescriptorType.code : BgpLsPrefixDescriptorType → BitVec 16
  | .multiTopologyIdentifier => 263 | .ospfRouteType => 264 | .ipReachabilityInformation => 265

def BgpLsPrefixDescriptorType.tryFrom : BitVec 16 → Option BgpLsPrefixDescriptorType :=
  fromRepr 3 ofNat code

inductive BgpLsLinkDescriptorType where
  | linkLocalRemoteIdentifiers | ipv4InterfaceAddress | ipv4NeighborAddress
  | ipv6InterfaceAddress | ipv6NeighborAddress | multiTopologyIdentifier
  deriving DecidableEq

def BgpLsLinkDescriptorType.code : BgpLsLinkDescriptorType → BitVec 16
  | .linkLocalRemoteIdentifiers => 258 | .ipv4InterfaceAddress => 259
  | .ipv4NeighborAddress => 260 | .ipv6InterfaceAddress => 261 | .ipv6NeighborAddress => 262
  | .multiTopologyIdentifier => 263

def BgpLsLinkDescriptorType.tryFrom : BitVec 16 → Option BgpLsLinkDescriptorType :=
  fromRepr 6 ofNat code

inductive BgpLsAttributeType where
  | multiTopologyIdentifier | nodeFlagBits | opaqueNodeAttribute | nodeNameTlv | isIsArea
  | localNodeIpv4RouterId | localNodeIpv6RouterId | remoteNodeIpv4RouterId
  | remoteNodeIpv6RouterId | remoteNodeAdministrativeGroupColor | maximumLinkBandwidth
  | maximumReservableLinkBandwidth | unreservedBandwidth | teDefaultMetric | linkProtectionType
  | mplsProtocolMask | igpMetric | sharedRiskLinkGroup | opaqueLinkAttribute | linkName
  | igpFlags | igpRouteTag | igpExtendedRouteTag | prefixMetric | ospfForwardingAddress
  | opaquePrefixAttribute | peerNodeSid | peerAdjSid | peerSetSid
  deriving DecidableEq

def BgpLsAttributeType.code : BgpLsAttributeType → BitVec 16
  | .multiTopologyIdentifier => 263 | .nodeFlagBits => 1024 | .opaqueNodeAttribute => 1025
  | .nodeNameTlv => 1026 | .isIsArea => 1027 | .localNodeIpv4RouterId => 1028
  | .localNodeIpv6RouterId => 1029 | .remoteNodeIpv4RouterId => 1030
  | .remoteNodeIpv6RouterId => 1031 | .remoteNodeAdministrativeGroupColor => 1088
  | .maximumLinkBandwidth => 1089 | .maximumReservableLinkBandwidth => 1090
  | .unreservedBandwidth => 1091 | .teDefaultMetric => 1092 | .linkProtectionType => 1093
  | .mplsProtocolMask => 1094 | .igpMetric => 1095 | .sharedRiskLinkGroup => 1096
  | .opaqueLinkAttribute => 1097 | .linkName => 1098 | .igpFlags => 1152 | .igpRouteTag => 1153
  | .igpExtendedRouteTag => 1154 | .prefixMetric => 1155 | .ospfForwardingAddress => 1156
  | .opaquePrefixAttribute => 1157 | .peerNodeSid => 1101 | .peerAdjSid => 1102
  | .peerSetSid => 1103

def BgpLsAttributeType.tryFrom : BitVec 16 → Option BgpLsAttributeType := fromRepr 29 ofNat code

@[simp] theorem BgpLsAttributeType.tryFrom_code (a : BgpLsAttributeType) :
    tryFrom a.code = some a := by
  cases a <;> rfl

inductive BgpSidAttributeType where
  | labelIndex | originator | srv6ServiceL3 | srv6ServiceL2
  deriving DecidableEq

def BgpSidAttributeType.code : BgpSidAttributeType → BitVec 8
  | .labelIndex => 1 | .originator => 3 | .srv6ServiceL3 => 5 | .srv6ServiceL2 => 6

def BgpSidAttributeType.tryFrom : BitVec 8 → Option BgpSidAttributeType := fromRepr 4 ofNat code

inductive BgpSrv6ServiceSubTlvType where
  | srv6SIDInformation
  deriving DecidableEq

def BgpSrv6ServiceSubTlvType.code : BgpSrv6ServiceSubTlvType → BitVec 8
  | .srv6SIDInformation => 1

def BgpSrv6ServiceSubTlvType.tryFrom : BitVec 8 → Option BgpSrv6ServiceSubTlvType :=
  fromRepr 1 ofNat code

inductive BgpSrv6ServiceSubSubTlvType where
  | srv6SIDStructure
  deriving DecidableEq

def BgpSrv6ServiceSubSubTlvType.code : BgpSrv6ServiceSubSubTlvType → BitVec 8
  | .srv6SIDStructure => 1

def BgpSrv6ServiceSubSubTlvType.tryFrom : BitVec 8 → Option BgpSrv6ServiceSubSubTlvType :=
  fromRepr 1 ofNat code

end NetCalyx.Bgp
