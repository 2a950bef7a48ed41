import NetCalyx.Bgp.Nlri

/-!
# BGP-LS data

Link-state routes (`BgpLsNlri`), the values of the BGP-LS attribute
(`BgpLsAttributeValue`) and the Prefix-SID attribute. Every TLV kind has a
registered type or is `unknown` with its number, which `rawCode` puts on the
wire. A 32-bit float is kept as its bit pattern: that is what the wire carries
in both directions.
-/

namespace NetCalyx.Bgp
open Wire

/-- An IEEE 754 single by its bit pattern. -/
abbrev F32 := BitVec 32

/-- The number of a registered type, or the unregistered number itself. -/
def rawCode {κ : Type} {w : Nat} (code : κ → BitVec w) : Except (BitVec w) κ → BitVec w
  | .ok t => code t
  | .error v => v

/-! ## Shared pieces -/

structure MultiTopologyId where
  value : BitVec 16
  deriving DecidableEq

/-- Reading a topology identifier ignores the four reserved bits. -/
def MultiTopologyId.ofU16 (v : BitVec 16) : MultiTopologyId := ⟨v &&& 0x0fff⟩

structure MultiTopologyIdData where
  ids : List MultiTopologyId
  deriving DecidableEq

structure SharedRiskLinkGroupValue where
  value : BitVec 32
  deriving DecidableEq

inductive OspfRouteType where
  | intraArea | interArea | external1 | external2 | nssa1 | nssa2
  deriving DecidableEq

def OspfRouteType.code : OspfRouteType → BitVec 8
  | .intraArea => 1 | .interArea => 2 | .external1 => 3 | .external2 => 4
  | .nssa1 => 5 | .nssa2 => 6

def OspfRouteType.tryFrom : BitVec 8 → Option OspfRouteType := fromRepr 6 ofNat code

/-! ## Link-state routes -/

inductive IpNetAny where
  | v4 (net : Ipv4Net)
  | v6 (net : Ipv6Net)
  deriving DecidableEq

structure IpReachabilityInformationData where
  address : IpNetAny
  deriving DecidableEq

inductive BgpLsPrefixDescriptor where
  | multiTopologyIdentifier (data : MultiTopologyIdData)
  | ospfRouteType (routeType : OspfRouteType)
  | ipReachabilityInformation (data : IpReachabilityInformationData)
  | unknown (code : BitVec 16) (value : Octets)
  deriving DecidableEq

def BgpLsPrefixDescriptor.code :
    BgpLsPrefixDescriptor → Except (BitVec 16) BgpLsPrefixDescriptorType
  | multiTopologyIdentifier _ => .ok .multiTopologyIdentifier
  | ospfRouteType _ => .ok .ospfRouteType
  | ipReachabilityInformation _ => .ok .ipReachabilityInformation
  | unknown code _ => .error code

inductive BgpLsNodeDescriptorSubTlv where
  | autonomousSystem (v : BitVec 32)
  | bgpLsIdentifier (v : BitVec 32)
  | ospfAreaId (v : BitVec 32)
  | igpRouterId (v : Octets)
  | bgpRouterIdentifier (v : BitVec 32)
  | memberAsNumber (v : BitVec 32)
  | unknown (code : BitVec 16) (value : Octets)
  deriving DecidableEq

def BgpLsNodeDescriptorSubTlv.code :
    BgpLsNodeDescriptorSubTlv → Except (BitVec 16) BgpLsNodeDescriptorSubType
  | autonomousSystem _ => .ok .autonomousSystem
  | bgpLsIdentifier _ => .ok .bgpLsIdentifier
  | ospfAreaId _ => .ok .ospfAreaId
  | igpRouterId _ => .ok .igpRouterId
  | bgpRouterIdentifier _ => .ok .bgpRouterIdentifier
  | memberAsNumber _ => .ok .memberAsNumber
  | unknown code _ => .error code

structure BgpLsNodeDescriptors where
  subtlvs : List BgpLsNodeDescriptorSubTlv
  deriving DecidableEq

structure BgpLsLocalNodeDescriptors where
  descriptors : BgpLsNodeDescriptors
  deriving DecidableEq

structure BgpLsRemoteNodeDescriptors where
  descriptors : BgpLsNodeDescriptors
  deriving DecidableEq

inductive BgpLsLinkDescriptor where
  | linkLocalRemoteIdentifiers (linkLocalIdentifier linkRemoteIdentifier : BitVec 32)
  | ipv4InterfaceAddress (addr : Ipv4Addr)
  | ipv4NeighborAddress (addr : Ipv4Addr)
  | ipv6InterfaceAddress (addr : Ipv6Addr)
  | ipv6NeighborAddress (addr : Ipv6Addr)
  | multiTopologyIdentifier (data : MultiTopologyIdData)
  | unknown (code : BitVec 16) (value : Octets)
  deriving DecidableEq

def BgpLsLinkDescriptor.code :
    BgpLsLinkDescriptor → Except (BitVec 16) BgpLsLinkDescriptorType
  | linkLocalRemoteIdentifiers .. => .ok .linkLocalRemoteIdentifiers
  | ipv4InterfaceAddress _ => .ok .ipv4InterfaceAddress
  | ipv4NeighborAddress _ => .ok .ipv4NeighborAddress
  | ipv6InterfaceAddress _ => .ok .ipv6InterfaceAddress
  | ipv6NeighborAddress _ => .ok .ipv6NeighborAddress
  | multiTopologyIdentifier _ => .ok .multiTopologyIdentifier
  | unknown code _ => .error code

structure BgpLsNlriNode where
  protocolId : BgpLsProtocolId
  identifier : BitVec 64
  localNodeDescriptors : BgpLsLocalNodeDescriptors
  deriving DecidableEq

structure BgpLsNlriLink where
  protocolId : BgpLsProtocolId
  identifier : BitVec 64
  localNodeDescriptors : BgpLsLocalNodeDescriptors
  remoteNodeDescriptors : BgpLsRemoteNodeDescriptors
  linkDescriptors : List BgpLsLinkDescriptor
  deriving DecidableEq

structure BgpLsNlriIpPrefix where
  protocolId : BgpLsProtocolId
  identifier : BitVec 64
  localNodeDescriptors : BgpLsLocalNodeDescriptors
  prefixDescriptors : List BgpLsPrefixDescriptor
  deriving DecidableEq

inductive BgpLsNlriValue where
  | node (data : BgpLsNlriNode)
  | link (data : BgpLsNlriLink)
  | ipv4Prefix (data : BgpLsNlriIpPrefix)
  | ipv6Prefix (data : BgpLsNlriIpPrefix)
  | unknown (code : BitVec 16) (value : Octets)
  deriving DecidableEq

def BgpLsNlriValue.code : BgpLsNlriValue → Except (BitVec 16) BgpLsNlriType
  | node _ => .ok .node
  | link _ => .ok .link
  | ipv4Prefix _ => .ok .ipv4TopologyPrefix
  | ipv6Prefix _ => .ok .ipv6TopologyPrefix
  | unknown code _ => .error code

structure BgpLsNlri where
  pathId : Option (BitVec 32)
  value : BgpLsNlriValue
  deriving DecidableEq

structure BgpLsVpnNlri where
  pathId : Option (BitVec 32)
  rd : RouteDistinguisher
  value : BgpLsNlriValue
  deriving DecidableEq

/-! ## The BGP-LS attribute -/

/-- A peering segment: a label or an index. The V bit of `flags` says which,
but nothing ties it to the constructor. -/
inductive BgpLsPeerSid where
  | labelValue (flags weight : BitVec 8) (label : MplsLabel)
  | indexValue (flags weight : BitVec 8) (index : BitVec 32)
  deriving DecidableEq

def BgpLsPeerSid.flagsHaveVFlag (flags : BitVec 8) : Bool := flags &&& 0b10000000 == 0b10000000

inductive BgpLsAttributeValue where
  | localNodeIpv4RouterId (addr : Ipv4Addr)
  | localNodeIpv6RouterId (addr : Ipv6Addr)
  | remoteNodeIpv4RouterId (addr : Ipv4Addr)
  | remoteNodeIpv6RouterId (addr : Ipv6Addr)
  | remoteNodeAdministrativeGroupColor (color : BitVec 32)
  | maximumLinkBandwidth (bandwidth : F32)
  | maximumReservableLinkBandwidth (bandwidth : F32)
  | unreservedBandwidth (bandwidths : { xs : List F32 // xs.length = 8 })
  | teDefaultMetric (metric : BitVec 32)
  | linkProtectionType (extraTraffic unprotected shared dedicated1c1 dedicated1p1 enhanced : Bool)
  | mplsProtocolMask (ldp rsvpTe : Bool)
  | igpMetric (metric : Octets)
  | sharedRiskLinkGroup (values : List SharedRiskLinkGroupValue)
  | opaqueLinkAttribute (value : Octets)
  | linkName (name : String)
  | igpFlags (isisUpDown ospfNoUnicast ospfLocalAddress ospfPropagateNssa : Bool)
  | igpRouteTag (tags : List (BitVec 32))
  | igpExtendedRouteTag (tags : List (BitVec 64))
  | prefixMetric (metric : BitVec 32)
  | ospfForwardingAddress (addr : IpAddr)
  | opaquePrefixAttribute (value : Octets)
  | multiTopologyIdentifier (data : MultiTopologyIdData)
  | nodeFlagBits (overload attached external abr router v6 : Bool)
  | opaqueNodeAttribute (value : Octets)
  | nodeNameTlv (name : String)
  | isIsArea (area : Octets)
  | peerNodeSid (sid : BgpLsPeerSid)
  | peerAdjSid (sid : BgpLsPeerSid)
  | peerSetSid (sid : BgpLsPeerSid)
  | unknown (code : BitVec 16) (value : Octets)
  deriving DecidableEq

def BgpLsAttributeValue.code : BgpLsAttributeValue → Except (BitVec 16) BgpLsAttributeType
  | localNodeIpv4RouterId _ => .ok .localNodeIpv4RouterId
  | localNodeIpv6RouterId _ => .ok .localNodeIpv6RouterId
  | remoteNodeIpv4RouterId _ => .ok .remoteNodeIpv4RouterId
  | remoteNodeIpv6RouterId _ => .ok .remoteNodeIpv6RouterId
  | remoteNodeAdministrativeGroupColor _ => .ok .remoteNodeAdministrativeGroupColor
  | maximumLinkBandwidth _ => .ok .maximumLinkBandwidth
  | maximumReservableLinkBandwidth _ => .ok .maximumReservableLinkBandwidth
  | unreservedBandwidth _ => .ok .unreservedBandwidth
  | teDefaultMetric _ => .ok .teDefaultMetric
  | linkProtectionType .. => .ok .linkProtectionType
  | mplsProtocolMask .. => .ok .mplsProtocolMask
  | igpMetric _ => .ok .igpMetric
  | sharedRiskLinkGroup _ => .ok .sharedRiskLinkGroup
  | opaqueLinkAttribute _ => .ok .opaqueLinkAttribute
  | linkName _ => .ok .linkName
  | igpFlags .. => .ok .igpFlags
  | igpRouteTag _ => .ok .igpRouteTag
  | igpExtendedRouteTag _ => .ok .igpExtendedRouteTag
  | prefixMetric _ => .ok .prefixMetric
  | ospfForwardingAddress _ => .ok .ospfForwardingAddress
  | opaquePrefixAttribute _ => .ok .opaquePrefixAttribute
  | multiTopologyIdentifier _ => .ok .multiTopologyIdentifier
  | nodeFlagBits .. => .ok .nodeFlagBits
  | opaqueNodeAttribute _ => .ok .opaqueNodeAttribute
  | nodeNameTlv _ => .ok .nodeNameTlv
  | isIsArea _ => .ok .isIsArea
  | peerNodeSid _ => .ok .peerNodeSid
  | peerAdjSid _ => .ok .peerAdjSid
  | peerSetSid _ => .ok .peerSetSid
  | unknown code _ => .error code

def BgpLsAttributeValue.rawCode (v : BgpLsAttributeValue) : BitVec 16 :=
  Bgp.rawCode BgpLsAttributeType.code v.code

structure BgpLsAttribute where
  attributes : List BgpLsAttributeValue
  deriving DecidableEq

/-! ## The Prefix-SID attribute -/

structure SegmentRoutingGlobalBlock where
  firstLabel : MplsLabel
  rangeSize : OctetArray 3
  deriving DecidableEq

inductive SRv6ServiceSubSubTlv where
  | srv6SIDStructure (locatorBlockLen locatorNodeLen functionLen argLen transpositionLen
      transpositionOffset : BitVec 8)
  | unknown (code : BitVec 8) (value : Octets)
  deriving DecidableEq

def SRv6ServiceSubSubTlv.rawCode : SRv6ServiceSubSubTlv → BitVec 8
  | srv6SIDStructure .. => BgpSrv6ServiceSubSubTlvType.srv6SIDStructure.code
  | unknown code _ => code

inductive SRv6ServiceSubTlv where
  | srv6SIDInformation (reserved1 : BitVec 8) (sid : Ipv6Addr) (serviceSidFlags : BitVec 8)
      (endpointBehaviour : BitVec 16) (reserved2 : BitVec 8)
      (subsubtlvs : List SRv6ServiceSubSubTlv)
  | unknown (code : BitVec 8) (value : Octets)
  deriving DecidableEq

def SRv6ServiceSubTlv.rawCode : SRv6ServiceSubTlv → BitVec 8
  | srv6SIDInformation .. => BgpSrv6ServiceSubTlvType.srv6SIDInformation.code
  | unknown code _ => code

inductive BgpSidAttribute where
  | labelIndex (flags : BitVec 16) (labelIndex : BitVec 32)
  | originator (flags : BitVec 16) (srgbs : List SegmentRoutingGlobalBlock)
  | srv6ServiceL3 (reserved : BitVec 8) (subtlvs : List SRv6ServiceSubTlv)
  | srv6ServiceL2 (reserved : BitVec 8) (subtlvs : List SRv6ServiceSubTlv)
  | unknown (code : BitVec 8) (value : Octets)
  deriving DecidableEq

def BgpSidAttribute.rawCode : BgpSidAttribute → BitVec 8
  | labelIndex .. => BgpSidAttributeType.labelIndex.code
  | originator .. => BgpSidAttributeType.originator.code
  | srv6ServiceL3 .. => BgpSidAttributeType.srv6ServiceL3.code
  | srv6ServiceL2 .. => BgpSidAttributeType.srv6ServiceL2.code
  | unknown code _ => code

structure PrefixSegmentIdentifier where
  tlvs : List BgpSidAttribute
  deriving DecidableEq

end NetCalyx.Bgp
