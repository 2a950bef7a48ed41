import NetCalyx.Bgp.Message
import NetCalyx.Wire.Parser

/-!
# Parsing errors

The error types of the BGP parsers. The source also attaches the offending
span of input to each of them; only the errors themselves are modelled.
Sub-parsers whose errors have the same shape share one type here, under each
of the source's names.
-/

namespace NetCalyx.Bgp
open Wire NetCalyx.Iana

/-! ## Shared shapes -/

/-- A parser that can only run out of input. -/
inductive NomParsingError where
  | nomError (kind : ErrorKind)

instance : NomError NomParsingError := ⟨.nomError⟩

/-- A parser of a fixed-width value that may be handed a slice of another length. -/
inductive ValueLengthParsingError where
  | nomError (kind : ErrorKind)
  | invalidValueLength (length : Nat)

instance : NomError ValueLengthParsingError := ⟨.nomError⟩

/-- A list parser: either it fails itself or one of its items does. -/
inductive ItemsParsingError (ε : Type) where
  | nomError (kind : ErrorKind)
  | itemError (err : ε)

instance {ε : Type} : NomError (ItemsParsingError ε) := ⟨.nomError⟩

/-! ## Addresses and reachability information -/

inductive PrefixParsingError where
  | nomError (kind : ErrorKind)
  | invalidPrefixLen (len : BitVec 8)

instance : NomError PrefixParsingError := ⟨.nomError⟩

abbrev Ipv4PrefixParsingError := PrefixParsingError
abbrev Ipv6PrefixParsingError := PrefixParsingError

inductive IpAddrParsingError where
  | nomError (kind : ErrorKind)
  | invalidIpAddressType (type : BitVec 8)
  | invalidIpAddressLength (length : BitVec 8)

instance : NomError IpAddrParsingError := ⟨.nomError⟩

abbrev MplsLabelParsingError := NomParsingError

inductive RouteDistinguisherParsingError where
  | nomError (kind : ErrorKind)
  | undefinedRouteDistinguisherTypeCode (code : BitVec 16)
  | invalidLeafAdRoutes (value1 : BitVec 16) (value2 : BitVec 32)

instance : NomError RouteDistinguisherParsingError := ⟨.nomError⟩

inductive LabeledIpNextHopParsingError where
  | nomError (kind : ErrorKind)
  | routeDistinguisherError (err : RouteDistinguisherParsingError)

instance : NomError LabeledIpNextHopParsingError := ⟨.nomError⟩

abbrev LabeledIpv4NextHopParsingError := LabeledIpNextHopParsingError
abbrev LabeledIpv6NextHopParsingError := LabeledIpNextHopParsingError

inductive LabeledNextHopParsingError where
  | nomError (kind : ErrorKind)
  | invalidLength (length : BitVec 8)
  | labeledIpv4NextHopError (err : LabeledIpv4NextHopParsingError)
  | labeledIpv6NextHopError (err : LabeledIpv6NextHopParsingError)

instance : NomError LabeledNextHopParsingError := ⟨.nomError⟩

inductive NetworkParsingError (w : Nat) where
  | prefixError (err : PrefixParsingError)
  | invalidNetwork (net : IpNet w)

inductive NetworkAddressParsingError (w : Nat) where
  | nomError (kind : ErrorKind)
  | networkError (err : NetworkParsingError w)

instance {w : Nat} : NomError (NetworkAddressParsingError w) := ⟨.nomError⟩

abbrev Ipv4UnicastAddressParsingError := NetworkAddressParsingError 32
abbrev Ipv4MulticastAddressParsingError := NetworkAddressParsingError 32
abbrev Ipv6UnicastAddressParsingError := NetworkAddressParsingError 128
abbrev Ipv6MulticastAddressParsingError := NetworkAddressParsingError 128

inductive MplsVpnUnicastAddressParsingError (w : Nat) where
  | nomError (kind : ErrorKind)
  | invalidPrefixLength (len : BitVec 8)
  | routeDistinguisherError (err : RouteDistinguisherParsingError)
  | unicastError (err : NetworkParsingError w)
  | mplsLabelError (err : MplsLabelParsingError)

instance {w : Nat} : NomError (MplsVpnUnicastAddressParsingError w) := ⟨.nomError⟩

abbrev Ipv4MplsVpnUnicastAddressParsingError := MplsVpnUnicastAddressParsingError 32
abbrev Ipv6MplsVpnUnicastAddressParsingError := MplsVpnUnicastAddressParsingError 128

inductive NlriMplsLabelsAddressParsingError where
  | nomError (kind : ErrorKind)
  | mplsLabelError (err : MplsLabelParsingError)
  | prefixError (err : PrefixParsingError)
  | invalidLabelsLength (labels : Nat)
  | invalidPrefixLength (len : BitVec 8)

instance : NomError NlriMplsLabelsAddressParsingError := ⟨.nomError⟩

abbrev Ipv4NlriMplsLabelsAddressParsingError := NlriMplsLabelsAddressParsingError
abbrev Ipv6NlriMplsLabelsAddressParsingError := NlriMplsLabelsAddressParsingError

abbrev MacAddressParsingError := NomParsingError
abbrev EthernetSegmentIdentifierParsingError := NomParsingError
abbrev EthernetTagParsingError := NomParsingError

inductive EthernetAutoDiscoveryParsingError where
  | nomError (kind : ErrorKind)
  | routeDistinguisherError (err : RouteDistinguisherParsingError)
  | ethernetSegmentIdentifierError (err : EthernetSegmentIdentifierParsingError)
  | ethernetTagError (err : EthernetTagParsingError)
  | mplsLabelError (err : MplsLabelParsingError)

inductive MacIpAdvertisementParsingError where
  | nomError (kind : ErrorKind)
  | invalidMacAddressLength (length : BitVec 8)
  | invalidIpAddressAddressLength (length : BitVec 8)
  | routeDistinguisherError (err : RouteDistinguisherParsingError)
  | ethernetSegmentIdentifierError (err : EthernetSegmentIdentifierParsingError)
  | ethernetTagError (err : EthernetTagParsingError)
  | macAddressError (err : MacAddressParsingError)
  | mplsLabelError (err : MplsLabelParsingError)

instance : NomError MacIpAdvertisementParsingError := ⟨.nomError⟩

inductive InclusiveMulticastEthernetTagRouteParsingError where
  | nomError (kind : ErrorKind)
  | invalidIpAddressAddressLength (length : BitVec 8)
  | routeDistinguisherError (err : RouteDistinguisherParsingError)
  | ethernetTagError (err : EthernetTagParsingError)

instance : NomError InclusiveMulticastEthernetTagRouteParsingError := ⟨.nomError⟩

inductive EthernetSegmentRouteParsingError where
  | nomError (kind : ErrorKind)
  | invalidIpAddressAddressLength (length : BitVec 8)
  | routeDistinguisherError (err : RouteDistinguisherParsingError)
  | ethernetSegmentIdentifierError (err : EthernetSegmentIdentifierParsingError)

instance : NomError EthernetSegmentRouteParsingError := ⟨.nomError⟩

inductive L2EvpnFamilyPrefixRouteParsingError where
  | nomError (kind : ErrorKind)
  | routeDistinguisherError (err : RouteDistinguisherParsingError)
  | ethernetSegmentIdentifierError (err : EthernetSegmentIdentifierParsingError)
  | ethernetTagError (err : EthernetTagParsingError)
  | mplsLabelError (err : MplsLabelParsingError)
  | prefixError (err : PrefixParsingError)

instance : NomError L2EvpnFamilyPrefixRouteParsingError := ⟨.nomError⟩

abbrev L2EvpnIpv4PrefixRouteParsingError := L2EvpnFamilyPrefixRouteParsingError
abbrev L2EvpnIpv6PrefixRouteParsingError := L2EvpnFamilyPrefixRouteParsingError

inductive L2EvpnIpPrefixRouteParsingError where
  | invalidBufferLength (length : Nat)
  | l2EvpnIpv4PrefixRouteError (err : L2EvpnIpv4PrefixRouteParsingError)
  | l2EvpnIpv6PrefixRouteError (err : L2EvpnIpv6PrefixRouteParsingError)

inductive L2EvpnRouteParsingError where
  | nomError (kind : ErrorKind)
  | ethernetAutoDiscoveryError (err : EthernetAutoDiscoveryParsingError)
  | macIpAdvertisementError (err : MacIpAdvertisementParsingError)
  | inclusiveMulticastEthernetTagRouteError
      (err : InclusiveMulticastEthernetTagRouteParsingError)
  | ethernetSegmentRouteError (err : EthernetSegmentRouteParsingError)
  | l2EvpnIpPrefixRouteError (err : L2EvpnIpPrefixRouteParsingError)

instance : NomError L2EvpnRouteParsingError := ⟨.nomError⟩

inductive L2EvpnAddressParsingError where
  | nomError (kind : ErrorKind)
  | l2EvpnRouteError (err : L2EvpnRouteParsingError)

instance : NomError L2EvpnAddressParsingError := ⟨.nomError⟩

abbrev RouteTargetMembershipParsingError := NomParsingError

inductive RouteTargetMembershipAddressParsingError where
  | nomError (kind : ErrorKind)
  | invalidPrefixLen (len : BitVec 8)
  | routeTargetMembershipError (err : RouteTargetMembershipParsingError)

instance : NomError RouteTargetMembershipAddressParsingError := ⟨.nomError⟩

inductive BgpLsNlriParsingError where
  | nomError (kind : ErrorKind)
  | unknownNlriType (type : BitVec 16)
  | routeDistinguisherParsingError (err : RouteDistinguisherParsingError)
  | unknownProtocolId (err : IanaValueError 8)
  | unknownDescriptorTlvType (err : IanaValueError 16)
  | unknownNodeDescriptorSubTlvType (err : IanaValueError 16)
  | unknownPrefixDescriptorTlvType (err : IanaValueError 16)
  | unknownOspfRouteType (type : BitVec 8)
  | badNodeDescriptorTlvType (type : BgpLsNodeDescriptorType)
  | unknownLinkDescriptorTlvType (err : IanaValueError 16)
  | badTlvTypeInNlri (type : BgpLsNlriType)
  | ipv4PrefixError (err : Ipv4PrefixParsingError)
  | ipv6PrefixError (err : Ipv6PrefixParsingError)

instance : NomError BgpLsNlriParsingError := ⟨.nomError⟩

/-! ## Communities -/

abbrev CommunityParsingError := NomParsingError
abbrev LargeCommunityParsingError := NomParsingError

inductive EvpnExtendedCommunityParsingError where
  | nomError (kind : ErrorKind)
  | macAddressError (err : MacAddressParsingError)

instance : NomError EvpnExtendedCommunityParsingError := ⟨.nomError⟩

inductive ExtendedCommunityParsingError where
  | nomError (kind : ErrorKind)
  | transitiveTwoOctetExtendedCommunityError (err : NomParsingError)
  | nonTransitiveTwoOctetExtendedCommunityError (err : NomParsingError)
  | transitiveIpv4ExtendedCommunityError (err : NomParsingError)
  | nonTransitiveIpv4ExtendedCommunityError (err : NomParsingError)
  | transitiveFourOctetExtendedCommunityError (err : NomParsingError)
  | nonTransitiveFourOctetExtendedCommunityError (err : NomParsingError)
  | transitiveOpaqueExtendedCommunityError (err : NomParsingError)
  | nonTransitiveOpaqueExtendedCommunityError (err : ValueLengthParsingError)
  | evpnExtendedCommunityError (err : EvpnExtendedCommunityParsingError)
  | experimentalExtendedCommunityError (err : ValueLengthParsingError)
  | unknownExtendedCommunityError (err : ValueLengthParsingError)

instance : NomError ExtendedCommunityParsingError := ⟨.nomError⟩

inductive ExtendedCommunityIpv6ParsingError where
  | nomError (kind : ErrorKind)
  | transitiveIpv6ExtendedCommunityError (err : NomParsingError)
  | nonTransitiveIpv6ExtendedCommunityError (err : NomParsingError)
  | unknownExtendedCommunityIpv6Error (err : ValueLengthParsingError)

instance : NomError ExtendedCommunityIpv6ParsingError := ⟨.nomError⟩

/-! ## Path attributes -/

/-- A declared attribute length, in either width. -/
inductive PathAttributeLength where
  | u8 (length : BitVec 8)
  | u16 (length : BitVec 16)

def PathAttributeLength.toNat : PathAttributeLength → Nat
  | u8 length => length.toNat
  | u16 length => length.toNat

inductive OriginParsingError where
  | nomError (kind : ErrorKind)
  | invalidOriginLength (length : PathAttributeLength)
  | undefinedOrigin (value : BitVec 8)

instance : NomError OriginParsingError := ⟨.nomError⟩

inductive AsPathParsingError where
  | nomError (kind : ErrorKind)
  | zeroSegmentLength
  | invalidAsPathLength (expecting found : Nat)
  | undefinedAsPathSegmentType (type : BitVec 8)

instance : NomError AsPathParsingError := ⟨.nomError⟩

/-- The error of an attribute whose length is fixed by its type. -/
inductive FixedLengthParsingError where
  | nomError (kind : ErrorKind)
  | invalidLength (length : PathAttributeLength)

instance : NomError FixedLengthParsingError := ⟨.nomError⟩

abbrev NextHopParsingError := FixedLengthParsingError
abbrev MultiExitDiscriminatorParsingError := FixedLengthParsingError
abbrev LocalPreferenceParsingError := FixedLengthParsingError
abbrev AtomicAggregateParsingError := FixedLengthParsingError
abbrev AggregatorParsingError := FixedLengthParsingError

abbrev CommunitiesParsingError := ItemsParsingError CommunityParsingError
abbrev ExtendedCommunitiesParsingError := ItemsParsingError ExtendedCommunityParsingError
abbrev ExtendedCommunitiesIpv6ParsingError := ItemsParsingError ExtendedCommunityIpv6ParsingError
abbrev LargeCommunitiesParsingError := ItemsParsingError LargeCommunityParsingError
abbrev OriginatorParsingError := NomParsingError
abbrev ClusterIdParsingError := NomParsingError
abbrev ClusterListParsingError := ItemsParsingError ClusterIdParsingError
abbrev OnlyToCustomerParsingError := NomParsingError

inductive AigpParsingError where
  | nomError (kind : ErrorKind)
  | undefinedAigpAttributeType (type : BitVec 8)
  | invalidLength (length : BitVec 16)

instance : NomError AigpParsingError := ⟨.nomError⟩

inductive UnknownAttributeParsingError where
  | nomError (kind : ErrorKind)
  | invalidLength (expecting actual : Nat)

instance : NomError UnknownAttributeParsingError := ⟨.nomError⟩

inductive BgpLsAttributeParsingError where
  | nomError (kind : ErrorKind)
  | unknownTlvType (err : IanaValueError 16)
  | utf8Error
  | wrongIpAddrLength (length : Nat)
  | badUnreservedBandwidthLength (length : Nat)
  | mplsLabelParsingError (err : MplsLabelParsingError)
  | badSidValue (length : BitVec 8)

instance : NomError BgpLsAttributeParsingError := ⟨.nomError⟩

inductive BgpSRv6SRGBParsingError where
  | nomError (kind : ErrorKind)
  | mplsLabelParsingError (err : MplsLabelParsingError)

instance : NomError BgpSRv6SRGBParsingError := ⟨.nomError⟩

inductive BgpPrefixSidSubSubTlvParsingError where
  | nomError (kind : ErrorKind)
  | badBgpPrefixSidSubSubTlvType (err : IanaValueError 8)

instance : NomError BgpPrefixSidSubSubTlvParsingError := ⟨.nomError⟩

inductive BgpPrefixSidSubTlvParsingError where
  | nomError (kind : ErrorKind)
  | badBgpPrefixSidSubTlvType (err : IanaValueError 8)
  | sRv6ServiceSubTlvError (err : BgpPrefixSidSubSubTlvParsingError)

instance : NomError BgpPrefixSidSubTlvParsingError := ⟨.nomError⟩

inductive BgpPrefixSidTlvParsingError where
  | nomError (kind : ErrorKind)
  | badBgpPrefixSidTlvType (err : IanaValueError 8)
  | bgpSRv6SRGBError (err : BgpSRv6SRGBParsingError)
  | sRv6ServiceSubTlvError (err : BgpPrefixSidSubTlvParsingError)

instance : NomError BgpPrefixSidTlvParsingError := ⟨.nomError⟩

inductive SegmentIdentifierParsingError where
  | nomError (kind : ErrorKind)
  | bgpPrefixSidTlvError (err : BgpPrefixSidTlvParsingError)

instance : NomError SegmentIdentifierParsingError := ⟨.nomError⟩

inductive MpReachParsingError where
  | nomError (kind : ErrorKind)
  | undefinedAddressFamily (afi : BitVec 16)
  | undefinedSubsequentAddressFamily (safi : BitVec 8)
  | ipAddrError (addressType : AddressType) (err : IpAddrParsingError)
  | labeledNextHopError (addressType : AddressType) (err : LabeledNextHopParsingError)
  | ipv4UnicastAddressError (err : Ipv4UnicastAddressParsingError)
  | ipv4MulticastAddressError (err : Ipv4MulticastAddressParsingError)
  | ipv4NlriMplsLabelsAddressError (err : Ipv4NlriMplsLabelsAddressParsingError)
  | ipv4MplsVpnUnicastAddressError (err : Ipv4MplsVpnUnicastAddressParsingError)
  | ipv6UnicastAddressError (err : Ipv6UnicastAddressParsingError)
  | ipv6NlriMplsLabelsAddressError (err : Ipv6NlriMplsLabelsAddressParsingError)
  | ipv6MulticastAddressError (err : Ipv6MulticastAddressParsingError)
  | ipv6MplsVpnUnicastAddressError (err : Ipv6MplsVpnUnicastAddressParsingError)
  | l2EvpnAddressError (err : L2EvpnAddressParsingError)
  | routeTargetMembershipAddressError (err : RouteTargetMembershipAddressParsingError)
  | bgpLsNlriParsingError (err : BgpLsNlriParsingError)

instance : NomError MpReachParsingError := ⟨.nomError⟩

inductive MpUnreachParsingError where
  | nomError (kind : ErrorKind)
  | undefinedAddressFamily (afi : BitVec 16)
  | undefinedSubsequentAddressFamily (safi : BitVec 8)
  | ipv4UnicastAddressError (err : Ipv4UnicastAddressParsingError)
  | ipv4MulticastAddressError (err : Ipv4MulticastAddressParsingError)
  | ipv4NlriMplsLabelsAddressError (err : Ipv4NlriMplsLabelsAddressParsingError)
  | ipv4MplsVpnUnicastAddressError (err : Ipv4MplsVpnUnicastAddressParsingError)
  | ipv6UnicastAddressError (err : Ipv6UnicastAddressParsingError)
  | ipv6NlriMplsLabelsAddressError (err : Ipv6NlriMplsLabelsAddressParsingError)
  | ipv6MulticastAddressError (err : Ipv6MulticastAddressParsingError)
  | ipv6MplsVpnUnicastAddressError (err : Ipv6MplsVpnUnicastAddressParsingError)
  | l2EvpnAddressError (err : L2EvpnAddressParsingError)
  | routeTargetMembershipAddressError (err : RouteTargetMembershipAddressParsingError)
  | bgpLsError (err : BgpLsNlriParsingError)

instance : NomError MpUnreachParsingError := ⟨.nomError⟩

inductive PathAttributeParsingError where
  | nomError (kind : ErrorKind)
  | originError (err : OriginParsingError)
  | asPathError (err : AsPathParsingError)
  | nextHopError (err : NextHopParsingError)
  | multiExitDiscriminatorError (err : MultiExitDiscriminatorParsingError)
  | localPreferenceError (err : LocalPreferenceParsingError)
  | atomicAggregateError (err : AtomicAggregateParsingError)
  | aggregatorError (err : AggregatorParsingError)
  | communitiesError (err : CommunitiesParsingError)
  | extendedCommunitiesError (err : ExtendedCommunitiesParsingError)
  | extendedCommunitiesErrorIpv6 (err : ExtendedCommunitiesIpv6ParsingError)
  | largeCommunitiesError (err : LargeCommunitiesParsingError)
  | originatorError (err : OriginatorParsingError)
  | clusterListError (err : ClusterListParsingError)
  | mpReachErrorError (err : MpReachParsingError)
  | mpUnreachErrorError (err : MpUnreachParsingError)
  | onlyToCustomerError (err : OnlyToCustomerParsingError)
  | aigpError (err : AigpParsingError)
  | bgpLsError (err : BgpLsAttributeParsingError)
  | segmentIdentifierParsingError (err : SegmentIdentifierParsingError)
  | unknownAttributeError (err : UnknownAttributeParsingError)
  | invalidPathAttribute (err : InvalidPathAttribute) (value : PathAttributeValue)

instance : NomError PathAttributeParsingError := ⟨.nomError⟩

/-! ## Messages -/

inductive BgpUpdateMessageParsingError where
  | nomError (kind : ErrorKind)
  | pathAttributeError (err : PathAttributeParsingError)
  | ipv4PrefixError (err : Ipv4PrefixParsingError)
  | invalidIpv4UnicastNetwork (net : Ipv4Net)

instance : NomError BgpUpdateMessageParsingError := ⟨.nomError⟩

inductive FourOctetAsCapabilityParsingError where
  | nomError (kind : ErrorKind)
  | invalidLength (length : BitVec 8)

instance : NomError FourOctetAsCapabilityParsingError := ⟨.nomError⟩

inductive MultiProtocolExtensionsCapabilityParsingError where
  | nomError (kind : ErrorKind)
  | invalidLength (length : BitVec 8)
  | addressFamilyError (afi : BitVec 16)
  | subsequentAddressFamilyError (safi : BitVec 8)
  | addressTypeError (afi : AddressFamily) (safi : SubsequentAddressFamily)

instance : NomError MultiProtocolExtensionsCapabilityParsingError := ⟨.nomError⟩

/-- The shared error of capabilities that list address types. -/
inductive AddressTypesParsingError where
  | nomError (kind : ErrorKind)
  | addressFamilyError (afi : BitVec 16)
  | subsequentAddressFamilyError (safi : BitVec 8)
  | addressTypeError (afi : AddressFamily) (safi : SubsequentAddressFamily)

instance : NomError AddressTypesParsingError := ⟨.nomError⟩

abbrev GracefulRestartCapabilityParsingError := AddressTypesParsingError
abbrev ExtendedNextHopEncodingCapabilityParsingError := AddressTypesParsingError

inductive AddPathCapabilityParsingError where
  | nomError (kind : ErrorKind)
  | addressFamilyError (afi : BitVec 16)
  | subsequentAddressFamilyError (safi : BitVec 8)
  | addressTypeError (afi : AddressFamily) (safi : SubsequentAddressFamily)
  | invalidAddPathSendReceiveValue (value : BitVec 8)

instance : NomError AddPathCapabilityParsingError := ⟨.nomError⟩

inductive MultipleLabelParsingError where
  | nomError (kind : ErrorKind)
  | tooManyMultipleLabelsError (count : Nat)
  | addressFamilyError (afi : BitVec 16)
  | subsequentAddressFamilyError (safi : BitVec 8)
  | addressTypeError (afi : AddressFamily) (safi : SubsequentAddressFamily)

instance : NomError MultipleLabelParsingError := ⟨.nomError⟩

inductive BgpRoleCapabilityParsingError where
  | nomError (kind : ErrorKind)
  | invalidLength (length : BitVec 8)
  | undefinedBgpRoleValue (value : BitVec 8)

instance : NomError BgpRoleCapabilityParsingError := ⟨.nomError⟩

inductive BgpCapabilityParsingError where
  | nomError (kind : ErrorKind)
  | undefinedCapabilityCode (code : BitVec 8)
  | invalidRouteRefreshLength (length : BitVec 8)
  | invalidEnhancedRouteRefreshLength (length : BitVec 8)
  | invalidExtendedMessageLength (length : BitVec 8)
  | fourOctetAsCapabilityError (err : FourOctetAsCapabilityParsingError)
  | multiProtocolExtensionsCapabilityError
      (err : MultiProtocolExtensionsCapabilityParsingError)
  | gracefulRestartCapabilityError (err : GracefulRestartCapabilityParsingError)
  | addPathCapabilityError (err : AddPathCapabilityParsingError)
  | extendedNextHopEncodingCapabilityError
      (err : ExtendedNextHopEncodingCapabilityParsingError)
  | multipleLabelError (err : MultipleLabelParsingError)
  | bgpRoleCapabilityError (err : BgpRoleCapabilityParsingError)

instance : NomError BgpCapabilityParsingError := ⟨.nomError⟩

inductive BgpParameterParsingError where
  | nomError (kind : ErrorKind)
  | undefinedParameterType (type : BitVec 8)
  | capabilityError (err : BgpCapabilityParsingError)

instance : NomError BgpParameterParsingError := ⟨.nomError⟩

inductive BgpOpenMessageParsingError where
  | nomError (kind : ErrorKind)
  | unsupportedVersionNumber (version : BitVec 8)
  | unacceptableHoldTime (holdTime : BitVec 16)
  | invalidBgpId (bgpId : BitVec 32)
  | parameterError (err : BgpParameterParsingError)

instance : NomError BgpOpenMessageParsingError := ⟨.nomError⟩

/-- The error of each class of notification: its sub-code is not registered. -/
inductive SubCodeParsingError where
  | nomError (kind : ErrorKind)
  | undefinedSubCode (subCode : BitVec 8)

instance : NomError SubCodeParsingError := ⟨.nomError⟩

inductive BgpNotificationMessageParsingError where
  | nomError (kind : ErrorKind)
  | undefinedBgpErrorNotificationCode (code : BitVec 8)
  | messageHeaderError (err : SubCodeParsingError)
  | openMessageError (err : SubCodeParsingError)
  | updateMessageError (err : SubCodeParsingError)
  | holdTimerExpiredError (err : NomParsingError)
  | finiteStateMachineError (err : SubCodeParsingError)
  | ceaseError (err : SubCodeParsingError)
  | routeRefreshError (err : SubCodeParsingError)

instance : NomError BgpNotificationMessageParsingError := ⟨.nomError⟩

inductive BgpRouteRefreshMessageParsingError where
  | nomError (kind : ErrorKind)
  | undefinedOperation (op : BitVec 8)
  | undefinedAddressFamily (afi : BitVec 16)
  | undefinedSubsequentAddressFamily (safi : BitVec 8)
  | invalidAddressType (afi : AddressFamily) (safi : SubsequentAddressFamily)

instance : NomError BgpRouteRefreshMessageParsingError := ⟨.nomError⟩

inductive BgpMessageParsingError where
  | nomError (kind : ErrorKind)
  | connectionNotSynchronized (header : BitVec 128)
  | undefinedBgpMessageType (type : BitVec 8)
  | badMessageLength (length : BitVec 16)
  | bgpOpenMessageParsingError (err : BgpOpenMessageParsingError)
  | bgpUpdateMessageParsingError (err : BgpUpdateMessageParsingError)
  | bgpNotificationMessageParsingError (err : BgpNotificationMessageParsingError)
  | bgpRouteRefreshMessageParsingError (err : BgpRouteRefreshMessageParsingError)

instance : NomError BgpMessageParsingError := ⟨.nomError⟩

inductive BgpCodecDecoderError where
  | ioError
  | incomplete (needed : Option Nat)
  | bgpMessageParsingError (err : BgpMessageParsingError)

/-- The errors a lenient parser passed over. -/
structure BgpParsingIgnoredErrors where
  nonUnicastWithdrawNlri : List Ipv4Net
  nonUnicastUpdateNlri : List Ipv4Net
  capabilityErrors : List BgpCapabilityParsingError
  pathAttrErrors : List PathAttributeParsingError

def BgpParsingIgnoredErrors.default : BgpParsingIgnoredErrors := ⟨[], [], [], []⟩

end NetCalyx.Bgp
