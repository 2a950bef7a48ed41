import NetCalyx.Bgp.Codec.LinkStateAttribute

/-!
# Encoding of link-state routes

A link-state route is a type, a length and a body of descriptor TLVs. Node,
link and prefix descriptors share the TLV header of the BGP-LS attribute; a
descriptor of an unregistered type above 255 is kept with its data.
-/

namespace NetCalyx.Bgp
open Wire

/-! ## Descriptors -/

/-- What an unregistered TLV type is read as: `unknown` keeps the data, and the
numbers up to 255 are reserved. -/
def unregisteredTlv {ε α : Type} (reserved : IanaValueError 16 → ε) (unknown : Octets → α)
    (tlvType : BitVec 16) (data : Octets) : Parser ε α :=
  if tlvType ≤ 255 then .fail (reserved (.reserved tlvType)) else return unknown data

namespace BgpLsNodeDescriptorSubTlv

def rawCode (tlv : BgpLsNodeDescriptorSubTlv) : BitVec 16 :=
  Bgp.rawCode BgpLsNodeDescriptorSubType.code tlv.code

def len (tlv : BgpLsNodeDescriptorSubTlv) : Nat :=
  4 + match tlv with
    | autonomousSystem _ => 4
    | bgpLsIdentifier _ => 4
    | ospfAreaId _ => 4
    | igpRouterId inner => inner.length
    | bgpRouterIdentifier _ => 4
    | memberAsNumber _ => 4
    | unknown _ value => value.length

def writeValue : BgpLsNodeDescriptorSubTlv → Octets
  | autonomousSystem data => octets data
  | bgpLsIdentifier data => octets data
  | ospfAreaId data => octets data
  | igpRouterId data => data
  | bgpRouterIdentifier data => octets data
  | memberAsNumber data => octets data
  | unknown _ value => value

def write (tlv : BgpLsNodeDescriptorSubTlv) : Octets :=
  writeTlvHeaderT16L16 tlv.rawCode (BitVec.ofNat 16 tlv.len) ++ tlv.writeValue

def parseValue : BgpLsNodeDescriptorSubType → Parser BgpLsNlriParsingError BgpLsNodeDescriptorSubTlv
  | .autonomousSystem => do
    let value ← beU32
    return autonomousSystem value
  | .bgpLsIdentifier => do
    let value ← beU32
    return bgpLsIdentifier value
  | .ospfAreaId => do
    let value ← beU32
    return ospfAreaId value
  | .igpRouterId => do
    let data ← .input
    return igpRouterId data
  | .bgpRouterIdentifier => do
    let value ← beU32
    return bgpRouterIdentifier value
  | .memberAsNumber => do
    let value ← beU32
    return memberAsNumber value

def fromWire : Parser BgpLsNlriParsingError BgpLsNodeDescriptorSubTlv := do
  let (tlvType, _tlvLength, data) ← readTlvHeaderT16L16
  match BgpLsNodeDescriptorSubType.tryFrom tlvType with
  | some type => .within data (parseValue type)
  | none => unregisteredTlv .unknownNodeDescriptorSubTlvType (unknown tlvType) tlvType data

end BgpLsNodeDescriptorSubTlv

namespace BgpLsNodeDescriptors

def len (descriptors : BgpLsNodeDescriptors) : Nat :=
  4 + (descriptors.subtlvs.map BgpLsNodeDescriptorSubTlv.len).sum

def write (descriptors : BgpLsNodeDescriptors) (type : BgpLsNodeDescriptorType) : Octets :=
  writeTlvHeaderT16L16 type.code (BitVec.ofNat 16 descriptors.len) ++
    descriptors.subtlvs.flatMap BgpLsNodeDescriptorSubTlv.write

def fromWire (expected : BgpLsNodeDescriptorType) :
    Parser BgpLsNlriParsingError BgpLsNodeDescriptors := do
  let tlvType ← mapRes beU16 fun code => (BgpLsNodeDescriptorType.tryFrom code).elim
    (.error (.unknownDescriptorTlvType (if code ≤ 255 then .reserved code else .unknown code))) .ok
  if tlvType ≠ expected then .fail (.badNodeDescriptorTlvType tlvType)
  else
    let tlvLength ← beU16
    let data ← take tlvLength.toNat
    let subtlvs ← .within data (parseTillEmpty BgpLsNodeDescriptorSubTlv.fromWire)
    return ⟨subtlvs⟩

end BgpLsNodeDescriptors

def BgpLsLocalNodeDescriptors.len (d : BgpLsLocalNodeDescriptors) : Nat := d.descriptors.len
def BgpLsRemoteNodeDescriptors.len (d : BgpLsRemoteNodeDescriptors) : Nat := d.descriptors.len

def BgpLsLocalNodeDescriptors.write (d : BgpLsLocalNodeDescriptors) : Octets :=
  d.descriptors.write .localNodeDescriptor

def BgpLsRemoteNodeDescriptors.write (d : BgpLsRemoteNodeDescriptors) : Octets :=
  d.descriptors.write .remoteNodeDescriptor

def BgpLsLocalNodeDescriptors.fromWire :
    Parser BgpLsNlriParsingError BgpLsLocalNodeDescriptors := do
  let value ← BgpLsNodeDescriptors.fromWire .localNodeDescriptor
  return ⟨value⟩

def BgpLsRemoteNodeDescriptors.fromWire :
    Parser BgpLsNlriParsingError BgpLsRemoteNodeDescriptors := do
  let value ← BgpLsNodeDescriptors.fromWire .remoteNodeDescriptor
  return ⟨value⟩

namespace BgpLsLinkDescriptor

def rawCode (tlv : BgpLsLinkDescriptor) : BitVec 16 :=
  Bgp.rawCode BgpLsLinkDescriptorType.code tlv.code

def len (tlv : BgpLsLinkDescriptor) : Nat :=
  4 + match tlv with
    | linkLocalRemoteIdentifiers .. => 8
    | ipv4InterfaceAddress _ => 4
    | ipv4NeighborAddress _ => 4
    | ipv6InterfaceAddress _ => 16
    | ipv6NeighborAddress _ => 16
    | multiTopologyIdentifier data => data.len
    | unknown _ value => value.length

def writeValue : BgpLsLinkDescriptor → Octets
  | linkLocalRemoteIdentifiers linkLocalIdentifier linkRemoteIdentifier =>
    octets linkLocalIdentifier ++ octets linkRemoteIdentifier
  | ipv4InterfaceAddress addr => octets addr
  | ipv4NeighborAddress addr => octets addr
  | ipv6InterfaceAddress addr => octets addr
  | ipv6NeighborAddress addr => octets addr
  | multiTopologyIdentifier data => data.write
  | unknown _ value => value

def write (tlv : BgpLsLinkDescriptor) : Octets :=
  writeTlvHeaderT16L16 tlv.rawCode (BitVec.ofNat 16 tlv.len) ++ tlv.writeValue

def parseValue : BgpLsLinkDescriptorType → Parser BgpLsNlriParsingError BgpLsLinkDescriptor
  | .linkLocalRemoteIdentifiers => do
    let linkLocalIdentifier ← beU32
    let linkRemoteIdentifier ← beU32
    return linkLocalRemoteIdentifiers linkLocalIdentifier linkRemoteIdentifier
  | .ipv4InterfaceAddress => do
    let ipv4 ← beU32
    return ipv4InterfaceAddress ipv4
  | .ipv4NeighborAddress => do
    let ipv4 ← beU32
    return ipv4NeighborAddress ipv4
  | .ipv6InterfaceAddress => do
    let ipv6 ← beU128
    return ipv6InterfaceAddress ipv6
  | .ipv6NeighborAddress => do
    let ipv6 ← beU128
    return ipv6NeighborAddress ipv6
  | .multiTopologyIdentifier => do
    let mtid ← MultiTopologyIdData.fromWire
    return multiTopologyIdentifier mtid

def fromWire : Parser BgpLsNlriParsingError BgpLsLinkDescriptor := do
  let (tlvType, _tlvLength, data) ← readTlvHeaderT16L16
  match BgpLsLinkDescriptorType.tryFrom tlvType with
  | some type => .within data (parseValue type)
  | none => unregisteredTlv .unknownLinkDescriptorTlvType (unknown tlvType) tlvType data

end BgpLsLinkDescriptor

namespace IpReachabilityInformationData

def mostSignificantBytes (prefixLen : Nat) : Nat :=
  if prefixLen = 0 then 0 else 1 + (prefixLen - 1) / 8

def prefixLen : IpReachabilityInformationData → Nat
  | ⟨.v4 net⟩ => net.prefixLen
  | ⟨.v6 net⟩ => net.prefixLen

def networkOctets : IpReachabilityInformationData → Octets
  | ⟨.v4 net⟩ => octets net.network
  | ⟨.v6 net⟩ => octets net.network

variable (data : IpReachabilityInformationData)

def len : Nat := 1 + mostSignificantBytes data.prefixLen

def write : Octets :=
  BitVec.ofNat 8 data.prefixLen :: data.networkOctets.take (mostSignificantBytes data.prefixLen)

/-- The family of a prefix is that of the route it describes. -/
def fromWire : BgpLsNlriType → Parser BgpLsNlriParsingError IpReachabilityInformationData
  | .ipv4TopologyPrefix => do
    let ipv4 ← ipNetFromWireWithLen.mapErr .ipv4PrefixError
    return ⟨.v4 ipv4⟩
  | .ipv6TopologyPrefix => do
    let ipv6 ← ipNetFromWireWithLen.mapErr .ipv6PrefixError
    return ⟨.v6 ipv6⟩
  | nlriType => .fail (.badTlvTypeInNlri nlriType)

end IpReachabilityInformationData

def OspfRouteType.fromWire : Parser BgpLsNlriParsingError OspfRouteType :=
  mapRes beU8 fun code => (OspfRouteType.tryFrom code).elim (.error (.unknownOspfRouteType code)) .ok

namespace BgpLsPrefixDescriptor

def rawCode (tlv : BgpLsPrefixDescriptor) : BitVec 16 :=
  Bgp.rawCode BgpLsPrefixDescriptorType.code tlv.code

def len (tlv : BgpLsPrefixDescriptor) : Nat :=
  4 + match tlv with
    | multiTopologyIdentifier data => data.len
    | ospfRouteType _ => 1
    | ipReachabilityInformation data => data.len
    | unknown _ value => value.length

def writeValue : BgpLsPrefixDescriptor → Octets
  | multiTopologyIdentifier data => data.write
  | ospfRouteType routeType => [routeType.code]
  | ipReachabilityInformation data => data.write
  | unknown _ value => value

def write (tlv : BgpLsPrefixDescriptor) : Octets :=
  writeTlvHeaderT16L16 tlv.rawCode (BitVec.ofNat 16 tlv.len) ++ tlv.writeValue

def parseValue (nlriType : BgpLsNlriType) :
    BgpLsPrefixDescriptorType → Parser BgpLsNlriParsingError BgpLsPrefixDescriptor
  | .multiTopologyIdentifier => do
    let mtid ← MultiTopologyIdData.fromWire
    return multiTopologyIdentifier mtid
  | .ospfRouteType => do
    let routeType ← OspfRouteType.fromWire
    return ospfRouteType routeType
  | .ipReachabilityInformation => do
    let data ← IpReachabilityInformationData.fromWire nlriType
    return ipReachabilityInformation data

def fromWire (nlriType : BgpLsNlriType) : Parser BgpLsNlriParsingError BgpLsPrefixDescriptor := do
  let (tlvType, _tlvLength, data) ← readTlvHeaderT16L16
  match BgpLsPrefixDescriptorType.tryFrom tlvType with
  | some type => .within data (parseValue nlriType type)
  | none => unregisteredTlv .unknownPrefixDescriptorTlvType (unknown tlvType) tlvType data

end BgpLsPrefixDescriptor

/-! ## Route bodies -/

def BgpLsProtocolId.fromWire : Parser BgpLsNlriParsingError BgpLsProtocolId :=
  mapRes beU8 fun code => (BgpLsProtocolId.tryFrom code).elim
    (.error (.unknownProtocolId (if code = 0 then .reserved code else .unknown code))) .ok

def BgpLsNlriNode.len (node : BgpLsNlriNode) : Nat := 1 + 8 + node.localNodeDescriptors.len

def BgpLsNlriNode.write (node : BgpLsNlriNode) : Octets :=
  node.protocolId.code :: octets node.identifier ++ node.localNodeDescriptors.write

def BgpLsNlriNode.fromWire : Parser BgpLsNlriParsingError BgpLsNlriNode := do
  let protocolId ← BgpLsProtocolId.fromWire
  let identifier ← beU64
  let localNodeDescriptors ← BgpLsLocalNodeDescriptors.fromWire
  return ⟨protocolId, identifier, localNodeDescriptors⟩

def BgpLsNlriLink.len (link : BgpLsNlriLink) : Nat :=
  1 + 8 + link.localNodeDescriptors.len + link.remoteNodeDescriptors.len +
    (link.linkDescriptors.map BgpLsLinkDescriptor.len).sum

def BgpLsNlriLink.write (link : BgpLsNlriLink) : Octets :=
  link.protocolId.code :: octets link.identifier ++ link.localNodeDescriptors.write ++
    link.remoteNodeDescriptors.write ++ link.linkDescriptors.flatMap BgpLsLinkDescriptor.write

def BgpLsNlriLink.fromWire : Parser BgpLsNlriParsingError BgpLsNlriLink := do
  let protocolId ← BgpLsProtocolId.fromWire
  let identifier ← beU64
  let localNodeDescriptors ← BgpLsLocalNodeDescriptors.fromWire
  let remoteNodeDescriptors ← BgpLsRemoteNodeDescriptors.fromWire
  let linkDescriptors ← parseTillEmpty BgpLsLinkDescriptor.fromWire
  return ⟨protocolId, identifier, localNodeDescriptors, remoteNodeDescriptors, linkDescriptors⟩

def BgpLsNlriIpPrefix.len (data : BgpLsNlriIpPrefix) : Nat :=
  1 + 8 + data.localNodeDescriptors.len +
    (data.prefixDescriptors.map BgpLsPrefixDescriptor.len).sum

def BgpLsNlriIpPrefix.write (data : BgpLsNlriIpPrefix) : Octets :=
  data.protocolId.code :: octets data.identifier ++ data.localNodeDescriptors.write ++
    data.prefixDescriptors.flatMap BgpLsPrefixDescriptor.write

def BgpLsNlriIpPrefix.fromWire (nlriType : BgpLsNlriType) :
    Parser BgpLsNlriParsingError BgpLsNlriIpPrefix := do
  let protocolId ← BgpLsProtocolId.fromWire
  let identifier ← beU64
  let localNodeDescriptors ← BgpLsLocalNodeDescriptors.fromWire
  let prefixDescriptors ← parseTillEmpty (BgpLsPrefixDescriptor.fromWire nlriType)
  return ⟨protocolId, identifier, localNodeDescriptors, prefixDescriptors⟩

namespace BgpLsNlriValue

def rawCode (value : BgpLsNlriValue) : BitVec 16 := Bgp.rawCode BgpLsNlriType.code value.code

def len : BgpLsNlriValue → Nat
  | node data => data.len
  | link data => data.len
  | ipv4Prefix data => data.len
  | ipv6Prefix data => data.len
  | unknown _ value => value.length

def write : BgpLsNlriValue → Octets
  | node data => data.write
  | link data => data.write
  | ipv4Prefix data => data.write
  | ipv6Prefix data => data.write
  | unknown _ value => value

/-- Two registered types are kept with their data. -/
def fromWire : BgpLsNlriType → Parser BgpLsNlriParsingError BgpLsNlriValue
  | .node => do
    let value ← BgpLsNlriNode.fromWire
    return node value
  | .link => do
    let value ← BgpLsNlriLink.fromWire
    return link value
  | .ipv4TopologyPrefix => do
    let value ← BgpLsNlriIpPrefix.fromWire .ipv4TopologyPrefix
    return ipv4Prefix value
  | .ipv6TopologyPrefix => do
    let value ← BgpLsNlriIpPrefix.fromWire .ipv6TopologyPrefix
    return ipv6Prefix value
  | .tePolicy => do
    let value ← .input
    return unknown BgpLsNlriType.tePolicy.code value
  | .srv6Sid => do
    let value ← .input
    return unknown BgpLsNlriType.srv6Sid.code value

end BgpLsNlriValue

/-! ## Routes -/

/-- The type of a route, and the data its length covers. -/
def parseNlriHeader : Parser BgpLsNlriParsingError (BgpLsNlriType × Octets) := do
  let nlriType ← mapRes beU16 fun code => (BgpLsNlriType.tryFrom code).elim
    (.error (.unknownNlriType code)) .ok
  let nlriLen ← beU16
  let data ← take nlriLen.toNat
  return (nlriType, data)

def BgpLsNlri.len (nlri : BgpLsNlri) : Nat := 4 + pathIdLen nlri.pathId + nlri.value.len

def BgpLsNlri.write (nlri : BgpLsNlri) : Octets :=
  let tlvLen := BitVec.ofNat 16 nlri.len - BitVec.ofNat 16 (pathIdLen nlri.pathId)
  pathIdWrite nlri.pathId ++ writeTlvHeaderT16L16 nlri.value.rawCode tlvLen ++ nlri.value.write

def BgpLsNlri.fromWire (addPath : Bool) : Parser BgpLsNlriParsingError BgpLsNlri := do
  let pathId ← parsePathId addPath
  let (nlriType, data) ← parseNlriHeader
  let value ← .within data (BgpLsNlriValue.fromWire nlriType)
  return ⟨pathId, value⟩

def BgpLsVpnNlri.len (nlri : BgpLsVpnNlri) : Nat := 12 + pathIdLen nlri.pathId + nlri.value.len

def BgpLsVpnNlri.write (nlri : BgpLsVpnNlri) : Octets :=
  let tlvLen := BitVec.ofNat 16 nlri.len - BitVec.ofNat 16 (pathIdLen nlri.pathId)
  pathIdWrite nlri.pathId ++ writeTlvHeaderT16L16 nlri.value.rawCode tlvLen ++ nlri.rd.write ++
    nlri.value.write

def BgpLsVpnNlri.fromWire (addPath : Bool) : Parser BgpLsNlriParsingError BgpLsVpnNlri := do
  let pathId ← parsePathId addPath
  let (nlriType, data) ← parseNlriHeader
  let (rd, value) ← .within data do
    let rd ← RouteDistinguisher.fromWire.mapErr .routeDistinguisherParsingError
    let value ← BgpLsNlriValue.fromWire nlriType
    return (rd, value)
  return ⟨pathId, rd, value⟩

end NetCalyx.Bgp
