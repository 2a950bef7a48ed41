import NetCalyx.Bgp.Codec.AttributeLength
import NetCalyx.Bgp.Codec.Context
import NetCalyx.Bgp.Codec.Evpn
import NetCalyx.Bgp.Codec.Labelled
import NetCalyx.Bgp.Codec.LinkStateNlri

/-!
# Encoding of the multiprotocol attributes

Reachable and withdrawn routes of one address family: the two numbers of the
family, for reachable routes a next hop and a reserved octet, then routes until
the end of the attribute. A family that is not decoded is kept as its octets.

The length of an attribute of an unknown family counts one octet too many.
-/

namespace NetCalyx.Bgp
open Wire NetCalyx.Iana

/-- The numbers of a family. -/
def familyOctets : Except (AddressFamily × SubsequentAddressFamily) AddressType → Octets
  | .ok type => octets type.addressFamily.code ++ [type.subsequentAddressFamily.code]
  | .error (afi, safi) => octets afi.code ++ [safi.code]

/-- A family, of which both numbers must be registered. -/
def parseFamily {ε : Type} [NomError ε] (undefinedAfi : BitVec 16 → ε)
    (undefinedSafi : BitVec 8 → ε) : Parser ε (AddressFamily × SubsequentAddressFamily) := do
  let afi ← mapRes beU16 fun afi => (AddressFamily.tryFrom afi).elim (.error (undefinedAfi afi)) .ok
  let safi ← mapRes beU8 fun safi =>
    (SubsequentAddressFamily.tryFrom safi).elim (.error (undefinedSafi safi)) .ok
  return (afi, safi)

/-! ## Next hops -/

/-- The size of a next hop with an optional link-local address. -/
def nextHopLen (nextHop : IpAddr) (nextHopLocal : Option Ipv6Addr) : Nat :=
  ipAddrLen nextHop + nextHopLocal.elim 0 fun _ => 16

/-- A next hop behind its length. -/
def nextHopWrite (nextHop : IpAddr) (nextHopLocal : Option Ipv6Addr) : Octets :=
  BitVec.ofNat 8 (nextHopLen nextHop nextHopLocal) ::
    (ipAddrOctets nextHop ++ nextHopLocal.elim [] octets)

def LabeledNextHop.nextHop : LabeledNextHop → IpAddr
  | ipv4 nh => .v4 nh.nextHop
  | ipv6 nh => .v6 nh.nextHop

/-- The next hop of link-state VPN routes, with a route distinguisher of zeros. -/
def linkStateVpnNextHopWrite (nextHop : LabeledNextHop) : Octets :=
  BitVec.ofNat 8 (nextHop.len - 1) :: (List.replicate 8 0 ++ ipAddrOctets nextHop.nextHop)

variable (addressType : AddressType)

def parseIpNextHop : Parser MpReachParsingError IpAddr :=
  ipAddrFromWire.mapErr (.ipAddrError addressType)

def parseIp4OrIpv6NextHop : Parser MpReachParsingError (IpAddr × Option Ipv6Addr) := do
  let nextHopLen ← beU8
  if nextHopLen = 4 then
    let nextHop ← beU32
    return (.v4 nextHop, none)
  else if nextHopLen = 16 then
    let nextHop ← beU128
    return (.v6 nextHop, none)
  else if nextHopLen = 32 then
    let nextHop ← beU128
    let nextHopLocal ← beU128
    return (.v6 nextHop, some nextHopLocal)
  else .fail (.ipAddrError addressType (.invalidIpAddressLength nextHopLen))

def parseLabeledNextHop : Parser MpReachParsingError LabeledNextHop :=
  LabeledNextHop.fromWire.mapErr (.labeledNextHopError addressType)

/-- Any length other than that of two addresses is taken for one address. -/
def parseIpv6NextHop : Parser MpReachParsingError (Ipv6Addr × Option Ipv6Addr) := do
  let nextHopLen ← beU8
  let nextHopGlobal ← beU128
  if nextHopLen = 32 then
    let nextHopLocal ← beU128
    return (nextHopGlobal, some nextHopLocal)
  else return (nextHopGlobal, none)

/-! ## Reachable routes -/

namespace MpReach

/-- What follows the length, the family and the reserved octet. -/
def routesLen : MpReach → Nat
  | ipv4Unicast nextHop nextHopLocal nlri =>
    1 + nextHopLen nextHop nextHopLocal + (nlri.map NetworkAddress.len).sum
  | ipv4Multicast nextHop nextHopLocal nlri =>
    1 + nextHopLen nextHop nextHopLocal + (nlri.map NetworkAddress.len).sum
  | ipv4NlriMplsLabels nextHop nextHopLocal nlri =>
    1 + nextHopLen nextHop nextHopLocal + (nlri.map NlriMplsLabelsAddress.len).sum
  | ipv4MplsVpnUnicast nextHop nlri => nextHop.len + (nlri.map MplsVpnUnicastAddress.len).sum
  | ipv6Unicast nextHopGlobal nextHopLocal nlri =>
    1 + nextHopLen (.v6 nextHopGlobal) nextHopLocal + (nlri.map NetworkAddress.len).sum
  | ipv6Multicast nextHopGlobal nextHopLocal nlri =>
    1 + nextHopLen (.v6 nextHopGlobal) nextHopLocal + (nlri.map NetworkAddress.len).sum
  | ipv6NlriMplsLabels nextHop nextHopLocal nlri =>
    1 + nextHopLen nextHop nextHopLocal + (nlri.map NlriMplsLabelsAddress.len).sum
  | ipv6MplsVpnUnicast nextHop nlri => nextHop.len + (nlri.map MplsVpnUnicastAddress.len).sum
  | l2Evpn nextHop nlri => ipAddrLen nextHop + 1 + (nlri.map L2EvpnAddress.len).sum
  | routeTargetMembership nextHop nlri =>
    ipAddrLen nextHop + 1 + (nlri.map RouteTargetMembershipAddress.len).sum
  | bgpLs nextHop nlri => ipAddrLen nextHop + 1 + (nlri.map BgpLsNlri.len).sum
  | bgpLsVpn nextHop nlri => nextHop.len + (nlri.map BgpLsVpnNlri.len).sum
  | unknown _ _ value => value.length

/-- The size without the length field of the attribute. -/
def payloadLen (reach : MpReach) : Nat := 4 + reach.routesLen

def payload (reach : MpReach) : Octets :=
  familyOctets reach.addressType ++ match reach with
    | ipv4Unicast nextHop nextHopLocal nlri =>
      nextHopWrite nextHop nextHopLocal ++ 0 :: nlri.flatMap NetworkAddress.write
    | ipv4Multicast nextHop nextHopLocal nlri =>
      nextHopWrite nextHop nextHopLocal ++ 0 :: nlri.flatMap NetworkAddress.write
    | ipv4NlriMplsLabels nextHop nextHopLocal nlri =>
      nextHopWrite nextHop nextHopLocal ++ 0 :: nlri.flatMap NlriMplsLabelsAddress.write
    | ipv4MplsVpnUnicast nextHop nlri =>
      nextHop.write ++ 0 :: nlri.flatMap MplsVpnUnicastAddress.write
    | ipv6Unicast nextHopGlobal nextHopLocal nlri =>
      nextHopWrite (.v6 nextHopGlobal) nextHopLocal ++ 0 :: nlri.flatMap NetworkAddress.write
    | ipv6Multicast nextHopGlobal nextHopLocal nlri =>
      nextHopWrite (.v6 nextHopGlobal) nextHopLocal ++ 0 :: nlri.flatMap NetworkAddress.write
    | ipv6NlriMplsLabels nextHop nextHopLocal nlri =>
      nextHopWrite nextHop nextHopLocal ++ 0 :: nlri.flatMap NlriMplsLabelsAddress.write
    | ipv6MplsVpnUnicast nextHop nlri =>
      nextHop.write ++ 0 :: nlri.flatMap MplsVpnUnicastAddress.write
    | l2Evpn nextHop nlri => ipAddrWrite nextHop ++ 0 :: nlri.flatMap L2EvpnAddress.write
    | routeTargetMembership nextHop nlri =>
      ipAddrWrite nextHop ++ 0 :: nlri.flatMap RouteTargetMembershipAddress.write
    | bgpLs nextHop nlri => ipAddrWrite nextHop ++ 0 :: nlri.flatMap BgpLsNlri.write
    | bgpLsVpn nextHop nlri =>
      linkStateVpnNextHopWrite nextHop ++ 0 :: nlri.flatMap BgpLsVpnNlri.write
    -- without a reserved octet
    | unknown _ _ value => value

/-- Next hop, reserved octet and routes of a family. -/
def parseRoutes {α β : Type} (nextHop : Parser MpReachParsingError α)
    (route : Parser MpReachParsingError β) (build : α → List β → MpReach) :
    Parser MpReachParsingError MpReach := do
  let nextHop ← nextHop
  let _reserved ← beU8
  let nlri ← parseTillEmpty route
  return build nextHop nlri

/-- The routes of a known family, or what an unknown one carries. -/
def parseFamilyRoutes (ctx : BgpParsingContext) (direction : MessageDirection)
    (afi : AddressFamily) (safi : SubsequentAddressFamily) : Parser MpReachParsingError MpReach :=
  match AddressType.fromAfiSafi afi safi with
  | some .ipv4Unicast =>
    parseRoutes (parseIp4OrIpv6NextHop .ipv4Unicast)
      ((NetworkAddress.fromWire (ctx.addPathEnabled .ipv4Unicast direction)).mapErr
        .ipv4UnicastAddressError) fun nextHop => ipv4Unicast nextHop.1 nextHop.2
  | some .ipv4Multicast =>
    parseRoutes (parseIp4OrIpv6NextHop .ipv4Multicast)
      ((NetworkAddress.fromWire (ctx.addPathEnabled .ipv4Multicast direction)).mapErr
        .ipv4MulticastAddressError) fun nextHop => ipv4Multicast nextHop.1 nextHop.2
  | some .ipv4NlriMplsLabels =>
    parseRoutes (parseIp4OrIpv6NextHop .ipv4NlriMplsLabels)
      ((NlriMplsLabelsAddress.fromWire (ctx.addPathEnabled .ipv4NlriMplsLabels direction) false
        (ctx.multipleLabelsLimit .ipv4NlriMplsLabels direction)).mapErr
        .ipv4NlriMplsLabelsAddressError) fun nextHop => ipv4NlriMplsLabels nextHop.1 nextHop.2
  | some .ipv4MplsLabeledVpn =>
    parseRoutes (parseLabeledNextHop .ipv4MplsLabeledVpn)
      ((MplsVpnUnicastAddress.fromWire (ctx.addPathEnabled .ipv4MplsLabeledVpn direction) false
        (ctx.multipleLabelsLimit .ipv4MplsLabeledVpn direction)).mapErr
        .ipv4MplsVpnUnicastAddressError) ipv4MplsVpnUnicast
  | some .ipv6Unicast =>
    parseRoutes parseIpv6NextHop
      ((NetworkAddress.fromWire (ctx.addPathEnabled .ipv6Unicast direction)).mapErr
        .ipv6UnicastAddressError) fun nextHop => ipv6Unicast nextHop.1 nextHop.2
  | some .ipv6Multicast =>
    parseRoutes parseIpv6NextHop
      ((NetworkAddress.fromWire (ctx.addPathEnabled .ipv6Multicast direction)).mapErr
        .ipv6MulticastAddressError) fun nextHop => ipv6Multicast nextHop.1 nextHop.2
  | some .ipv6NlriMplsLabels =>
    parseRoutes (parseIp4OrIpv6NextHop .ipv6NlriMplsLabels)
      ((NlriMplsLabelsAddress.fromWire (ctx.addPathEnabled .ipv6NlriMplsLabels direction) false
        (ctx.multipleLabelsLimit .ipv6NlriMplsLabels direction)).mapErr
        .ipv6NlriMplsLabelsAddressError) fun nextHop => ipv6NlriMplsLabels nextHop.1 nextHop.2
  | some .ipv6MplsLabeledVpn =>
    parseRoutes (parseLabeledNextHop .ipv6MplsLabeledVpn)
      ((MplsVpnUnicastAddress.fromWire (ctx.addPathEnabled .ipv6MplsLabeledVpn direction) false
        (ctx.multipleLabelsLimit .ipv6MplsLabeledVpn direction)).mapErr
        .ipv6MplsVpnUnicastAddressError) ipv6MplsVpnUnicast
  | some .l2VpnBgpEvpn =>
    parseRoutes (parseIpNextHop .l2VpnBgpEvpn)
      ((L2EvpnAddress.fromWire (ctx.addPathEnabled .l2VpnBgpEvpn direction)).mapErr
        .l2EvpnAddressError) l2Evpn
  | some .routeTargetConstrains =>
    parseRoutes (parseIpNextHop .routeTargetConstrains)
      ((RouteTargetMembershipAddress.fromWire
        (ctx.addPathEnabled .routeTargetConstrains direction)).mapErr
        .routeTargetMembershipAddressError) routeTargetMembership
  | some .bgpLs =>
    parseRoutes (parseIpNextHop .bgpLs)
      ((BgpLsNlri.fromWire (ctx.addPathEnabled .bgpLs direction)).mapErr .bgpLsNlriParsingError)
      bgpLs
  | some .bgpLsVpn =>
    parseRoutes (parseLabeledNextHop .bgpLsVpn)
      ((BgpLsVpnNlri.fromWire (ctx.addPathEnabled .bgpLsVpn direction)).mapErr
        .bgpLsNlriParsingError) bgpLsVpn
  | _ => do
    let value ← .input
    return unknown afi safi value

def fromWire (extendedLength : Bool) (ctx : BgpParsingContext) (direction : MessageDirection) :
    Parser MpReachParsingError MpReach := do
  let mpBuf ← attributeData extendedLength
  .within mpBuf do
    let (afi, safi) ← parseFamily .undefinedAddressFamily .undefinedSubsequentAddressFamily
    parseFamilyRoutes ctx direction afi safi

end MpReach

/-! ## Withdrawn routes -/

namespace MpUnreach

def routesLen : MpUnreach → Nat
  | ipv4Unicast nlri => (nlri.map NetworkAddress.len).sum
  | ipv4Multicast nlri => (nlri.map NetworkAddress.len).sum
  | ipv4NlriMplsLabels nlri => (nlri.map NlriMplsLabelsAddress.len).sum
  | ipv4MplsVpnUnicast nlri => (nlri.map MplsVpnUnicastAddress.len).sum
  | ipv6Unicast nlri => (nlri.map NetworkAddress.len).sum
  | ipv6Multicast nlri => (nlri.map NetworkAddress.len).sum
  | ipv6NlriMplsLabels nlri => (nlri.map NlriMplsLabelsAddress.len).sum
  | ipv6MplsVpnUnicast nlri => (nlri.map MplsVpnUnicastAddress.len).sum
  | l2Evpn nlri => (nlri.map L2EvpnAddress.len).sum
  | routeTargetMembership nlri => (nlri.map RouteTargetMembershipAddress.len).sum
  | bgpLs nlri => (nlri.map BgpLsNlri.len).sum
  | bgpLsVpn nlri => (nlri.map BgpLsVpnNlri.len).sum
  | unknown _ _ nlri => nlri.length

/-- The size without the length field of the attribute. -/
def payloadLen (unreach : MpUnreach) : Nat := 3 + unreach.routesLen

def writeRoutes : MpUnreach → Octets
  | ipv4Unicast nlri => nlri.flatMap NetworkAddress.write
  | ipv4Multicast nlri => nlri.flatMap NetworkAddress.write
  | ipv4NlriMplsLabels nlri => nlri.flatMap NlriMplsLabelsAddress.write
  | ipv4MplsVpnUnicast nlri => nlri.flatMap MplsVpnUnicastAddress.write
  | ipv6Unicast nlri => nlri.flatMap NetworkAddress.write
  | ipv6Multicast nlri => nlri.flatMap NetworkAddress.write
  | ipv6NlriMplsLabels nlri => nlri.flatMap NlriMplsLabelsAddress.write
  | ipv6MplsVpnUnicast nlri => nlri.flatMap MplsVpnUnicastAddress.write
  | l2Evpn nlri => nlri.flatMap L2EvpnAddress.write
  | routeTargetMembership nlri => nlri.flatMap RouteTargetMembershipAddress.write
  | bgpLs nlri => nlri.flatMap BgpLsNlri.write
  | bgpLsVpn nlri => nlri.flatMap BgpLsVpnNlri.write
  | unknown _ _ nlri => nlri

def payload (unreach : MpUnreach) : Octets :=
  familyOctets unreach.addressType ++ unreach.writeRoutes

/-- The routes of a family. -/
def parseRoutes {β : Type} (route : Parser MpUnreachParsingError β)
    (build : List β → MpUnreach) : Parser MpUnreachParsingError MpUnreach := do
  let nlri ← parseTillEmpty route
  return build nlri

def parseFamilyRoutes (ctx : BgpParsingContext) (direction : MessageDirection)
    (afi : AddressFamily) (safi : SubsequentAddressFamily) :
    Parser MpUnreachParsingError MpUnreach :=
  match AddressType.fromAfiSafi afi safi with
  | some .ipv4Unicast =>
    parseRoutes ((NetworkAddress.fromWire (ctx.addPathEnabled .ipv4Unicast direction)).mapErr
      .ipv4UnicastAddressError) ipv4Unicast
  | some .ipv4Multicast =>
    parseRoutes ((NetworkAddress.fromWire (ctx.addPathEnabled .ipv4Multicast direction)).mapErr
      .ipv4MulticastAddressError) ipv4Multicast
  | some .ipv4NlriMplsLabels =>
    parseRoutes ((NlriMplsLabelsAddress.fromWire
      (ctx.addPathEnabled .ipv4NlriMplsLabels direction) true
      (ctx.multipleLabelsLimit .ipv4NlriMplsLabels direction)).mapErr
      .ipv4NlriMplsLabelsAddressError) ipv4NlriMplsLabels
  | some .ipv4MplsLabeledVpn =>
    parseRoutes ((MplsVpnUnicastAddress.fromWire
      (ctx.addPathEnabled .ipv4MplsLabeledVpn direction) true
      (ctx.multipleLabelsLimit .ipv4MplsLabeledVpn direction)).mapErr
      .ipv4MplsVpnUnicastAddressError) ipv4MplsVpnUnicast
  | some .ipv6Unicast =>
    parseRoutes ((NetworkAddress.fromWire (ctx.addPathEnabled .ipv6Unicast direction)).mapErr
      .ipv6UnicastAddressError) ipv6Unicast
  | some .ipv6Multicast =>
    parseRoutes ((NetworkAddress.fromWire (ctx.addPathEnabled .ipv6Multicast direction)).mapErr
      .ipv6MulticastAddressError) ipv6Multicast
  | some .ipv6NlriMplsLabels =>
    parseRoutes ((NlriMplsLabelsAddress.fromWire
      (ctx.addPathEnabled .ipv6NlriMplsLabels direction) true
      (ctx.multipleLabelsLimit .ipv6NlriMplsLabels direction)).mapErr
      .ipv6NlriMplsLabelsAddressError) ipv6NlriMplsLabels
  | some .ipv6MplsLabeledVpn =>
    parseRoutes ((MplsVpnUnicastAddress.fromWire
      (ctx.addPathEnabled .ipv6MplsLabeledVpn direction) true
      (ctx.multipleLabelsLimit .ipv6MplsLabeledVpn direction)).mapErr
      .ipv6MplsVpnUnicastAddressError) ipv6MplsVpnUnicast
  | some .l2VpnBgpEvpn =>
    parseRoutes ((L2EvpnAddress.fromWire (ctx.addPathEnabled .l2VpnBgpEvpn direction)).mapErr
      .l2EvpnAddressError) l2Evpn
  | some .routeTargetConstrains =>
    parseRoutes ((RouteTargetMembershipAddress.fromWire
      (ctx.addPathEnabled .routeTargetConstrains direction)).mapErr
      .routeTargetMembershipAddressError) routeTargetMembership
  | some .bgpLs =>
    parseRoutes ((BgpLsNlri.fromWire (ctx.addPathEnabled .bgpLs direction)).mapErr .bgpLsError)
      bgpLs
  | some .bgpLsVpn =>
    parseRoutes ((BgpLsVpnNlri.fromWire (ctx.addPathEnabled .bgpLsVpn direction)).mapErr
      .bgpLsError) bgpLsVpn
  | _ => do
    let nlri ← .input
    return unknown afi safi nlri

def fromWire (extendedLength : Bool) (ctx : BgpParsingContext) (direction : MessageDirection) :
    Parser MpUnreachParsingError MpUnreach := do
  let mpBuf ← attributeData extendedLength
  .within mpBuf do
    let (afi, safi) ← parseFamily .undefinedAddressFamily .undefinedSubsequentAddressFamily
    parseFamilyRoutes ctx direction afi safi

end MpUnreach

end NetCalyx.Bgp
