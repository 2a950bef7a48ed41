import NetCalyx.Bgp.Codec.Evpn

/-!
# Encoding of communities

All communities have a fixed size: four octets, eight for an extended one,
twelve for a large and twenty for an extended IPv6 community. The source writes
the sub-type of a route target for a source AS, and reads the fourth octet of two
EVPN communities as a copy of the third.
-/

namespace NetCalyx.Bgp
open Wire

def Community.len (_community : Community) : Nat := 4

def Community.write (community : Community) : Octets := octets community.value

def Community.fromWire : Parser CommunityParsingError Community := do
  let value ← beU32
  return ⟨value⟩

def LargeCommunity.len (_community : LargeCommunity) : Nat := 12

def LargeCommunity.write (community : LargeCommunity) : Octets :=
  octets community.globalAdmin ++ octets community.localData1 ++ octets community.localData2

def LargeCommunity.fromWire : Parser LargeCommunityParsingError LargeCommunity := do
  let globalAdmin ← beU32
  let localData1 ← beU32
  let localData2 ← beU32
  return ⟨globalAdmin, localData1, localData2⟩

/-! ## Communities with administrators -/

section Admin

variable {κ : Type} {g l : Nat}

/-- The sub-type octet, given the octets written for the registered ones. -/
def SubTypeOf.octet (code : κ → BitVec 8) : SubTypeOf κ → BitVec 8
  | assigned kind => code kind
  | unassigned subType => subType

def SubTypeOf.ofOctet (tryFrom : BitVec 8 → Option κ) (subType : BitVec 8) : SubTypeOf κ :=
  (tryFrom subType).elim (.unassigned subType) .assigned

/-- Sub-type and administrators; the type octet is written by the caller. -/
def AdminCommunity.write (code : κ → BitVec 8) (community : AdminCommunity κ g l) : Octets :=
  community.subType.octet code :: octets community.globalAdmin ++ octets community.localAdmin

def AdminCommunity.fromWire (tryFrom : BitVec 8 → Option κ) :
    Parser NomParsingError (AdminCommunity κ g l) := do
  let subType ← beU8
  let globalAdmin ← beUint g
  let localAdmin ← beUint l
  return ⟨.ofOctet tryFrom subType, globalAdmin, localAdmin⟩

end Admin

/-- A source AS is written as a route target. -/
def TransitiveTwoOctetExtendedCommunitySubType.written :
    TransitiveTwoOctetExtendedCommunitySubType → BitVec 8
  | .sourceAs => code .routeTarget
  | kind => kind.code

/-- A source AS is written as a route target. -/
def TransitiveFourOctetExtendedCommunitySubType.written :
    TransitiveFourOctetExtendedCommunitySubType → BitVec 8
  | .sourceAs => code .routeTarget
  | kind => kind.code

def TransitiveTwoOctetExtendedCommunity.write (c : TransitiveTwoOctetExtendedCommunity) : Octets :=
  AdminCommunity.write TransitiveTwoOctetExtendedCommunitySubType.written c
def NonTransitiveTwoOctetExtendedCommunity.write (c : NonTransitiveTwoOctetExtendedCommunity) :
    Octets :=
  AdminCommunity.write NonTransitiveTwoOctetExtendedCommunitySubType.code c
def TransitiveIpv4ExtendedCommunity.write (c : TransitiveIpv4ExtendedCommunity) : Octets :=
  AdminCommunity.write TransitiveIpv4ExtendedCommunitySubType.code c
def NonTransitiveIpv4ExtendedCommunity.write (c : NonTransitiveIpv4ExtendedCommunity) : Octets :=
  AdminCommunity.write Empty.elim c
def TransitiveFourOctetExtendedCommunity.write (c : TransitiveFourOctetExtendedCommunity) :
    Octets :=
  AdminCommunity.write TransitiveFourOctetExtendedCommunitySubType.written c
def NonTransitiveFourOctetExtendedCommunity.write (c : NonTransitiveFourOctetExtendedCommunity) :
    Octets :=
  AdminCommunity.write Empty.elim c
def TransitiveIpv6ExtendedCommunity.write (c : TransitiveIpv6ExtendedCommunity) : Octets :=
  AdminCommunity.write TransitiveIpv6ExtendedCommunitySubType.code c
def NonTransitiveIpv6ExtendedCommunity.write (c : NonTransitiveIpv6ExtendedCommunity) : Octets :=
  AdminCommunity.write Empty.elim c

def TransitiveTwoOctetExtendedCommunity.fromWire :
    Parser NomParsingError TransitiveTwoOctetExtendedCommunity :=
  AdminCommunity.fromWire TransitiveTwoOctetExtendedCommunitySubType.tryFrom
def NonTransitiveTwoOctetExtendedCommunity.fromWire :
    Parser NomParsingError NonTransitiveTwoOctetExtendedCommunity :=
  AdminCommunity.fromWire NonTransitiveTwoOctetExtendedCommunitySubType.tryFrom
def TransitiveIpv4ExtendedCommunity.fromWire :
    Parser NomParsingError TransitiveIpv4ExtendedCommunity :=
  AdminCommunity.fromWire TransitiveIpv4ExtendedCommunitySubType.tryFrom
def NonTransitiveIpv4ExtendedCommunity.fromWire :
    Parser NomParsingError NonTransitiveIpv4ExtendedCommunity :=
  AdminCommunity.fromWire fun _ => none
def TransitiveFourOctetExtendedCommunity.fromWire :
    Parser NomParsingError TransitiveFourOctetExtendedCommunity :=
  AdminCommunity.fromWire TransitiveFourOctetExtendedCommunitySubType.tryFrom
def NonTransitiveFourOctetExtendedCommunity.fromWire :
    Parser NomParsingError NonTransitiveFourOctetExtendedCommunity :=
  AdminCommunity.fromWire fun _ => none
def TransitiveIpv6ExtendedCommunity.fromWire :
    Parser NomParsingError TransitiveIpv6ExtendedCommunity :=
  AdminCommunity.fromWire TransitiveIpv6ExtendedCommunitySubType.tryFrom
def NonTransitiveIpv6ExtendedCommunity.fromWire :
    Parser NomParsingError NonTransitiveIpv6ExtendedCommunity :=
  AdminCommunity.fromWire fun _ => none

/-! ## Opaque, EVPN and other communities -/

def TransitiveOpaqueExtendedCommunity.write : TransitiveOpaqueExtendedCommunity → Octets
  | defaultGateway => TransitiveOpaqueExtendedCommunitySubType.defaultGateway.code ::
      octets (0 : BitVec 16) ++ octets (0 : BitVec 32)
  | unassigned subType value => subType :: value.val

def TransitiveOpaqueExtendedCommunity.fromWire :
    Parser NomParsingError TransitiveOpaqueExtendedCommunity := do
  let subType ← beU8
  match TransitiveOpaqueExtendedCommunitySubType.tryFrom subType with
  | some .defaultGateway =>
    let _ ← beU16
    let _ ← beU32
    return .defaultGateway
  | none =>
    let p1 ← beU16
    let p2 ← beU32
    return .unassigned subType ⟨octets p1 ++ octets p2, by simp⟩

def NonTransitiveOpaqueExtendedCommunity.write (c : NonTransitiveOpaqueExtendedCommunity) : Octets :=
  c.subType :: c.value.val

def NonTransitiveOpaqueExtendedCommunity.fromWire :
    Parser ValueLengthParsingError NonTransitiveOpaqueExtendedCommunity := do
  let subType ← beU8
  let value ← takeArray 6
  return ⟨subType, value⟩

namespace EvpnExtendedCommunity

def write : EvpnExtendedCommunity → Octets
  | macMobility flags seqNo =>
    EvpnExtendedCommunitySubType.macMobility.code :: flags :: 0 :: octets seqNo
  | esiLabel flags label =>
    EvpnExtendedCommunitySubType.esiLabel.code :: flags :: octets (0 : BitVec 16) ++ label.val
  | esImportRouteTarget routeTarget =>
    EvpnExtendedCommunitySubType.esImportRouteTarget.code :: routeTarget.val
  | evpnRoutersMac mac => EvpnExtendedCommunitySubType.evpnRoutersMac.code :: mac.val
  | evpnL2Attribute controlFlags l2Mtu =>
    EvpnExtendedCommunitySubType.evpnL2Attribute.code :: octets controlFlags ++ octets l2Mtu ++
      octets (0 : BitVec 16)
  | unassigned subType value => subType :: value.val

/-- Six octets from a number of four and one of two octets. The third octet is
used twice and the fourth is dropped. -/
def parseSixOctets : Parser EvpnExtendedCommunityParsingError (OctetArray 6) := do
  let p1 : BitVec 32 ← beU32
  let p2 : BitVec 16 ← beU16
  let p1 := octets p1
  let p2 := octets p2
  return ⟨[p1.getD 0 0, p1.getD 1 0, p1.getD 2 0, p1.getD 2 0, p2.getD 0 0, p2.getD 1 0], rfl⟩

def fromWire : Parser EvpnExtendedCommunityParsingError EvpnExtendedCommunity := do
  let subType ← beU8
  match EvpnExtendedCommunitySubType.tryFrom subType with
  | some .macMobility =>
    let flags ← beU8
    let _reserved ← beU8
    let seqNo ← beU32
    return macMobility flags seqNo
  | some .esiLabel =>
    let flags ← beU8
    let _reserved ← beU16
    let p1 ← beU16
    let p2 ← beU8
    return esiLabel flags ⟨octets p1 ++ [p2], by simp⟩
  | some .esImportRouteTarget =>
    let routeTarget ← parseSixOctets
    return esImportRouteTarget routeTarget
  | some .evpnRoutersMac =>
    let mac ← MacAddress.fromWire.mapErr .macAddressError
    return evpnRoutersMac mac
  | some .evpnL2Attribute =>
    let controlFlags ← beU16
    let l2Mtu ← beU16
    let _reserved ← beU16
    return evpnL2Attribute controlFlags l2Mtu
  | _ =>
    let value ← parseSixOctets
    return unassigned subType value

end EvpnExtendedCommunity

def RawExtendedCommunity.write {n : Nat} (c : RawExtendedCommunity n) : Octets :=
  c.subType :: c.value.val

def RawExtendedCommunity.fromWire {n : Nat} (code : BitVec 8) :
    Parser ValueLengthParsingError (RawExtendedCommunity n) := do
  let subType ← beU8
  let value ← takeArray n
  return ⟨code, subType, value⟩

/-! ## Extended communities -/

namespace ExtendedCommunity

/-- The type octet and seven octets in every case. -/
def len (_community : ExtendedCommunity) : Nat := 1 + 7

/-- The type octet. -/
def typeOctet : ExtendedCommunity → BitVec 8
  | transitiveTwoOctet _ => BgpExtendedCommunityType.transitiveTwoOctet.code
  | nonTransitiveTwoOctet _ => BgpExtendedCommunityType.nonTransitiveTwoOctet.code
  | transitiveIpv4 _ => BgpExtendedCommunityType.transitiveIpv4.code
  | nonTransitiveIpv4 _ => BgpExtendedCommunityType.nonTransitiveIpv4.code
  | transitiveFourOctet _ => BgpExtendedCommunityType.transitiveFourOctet.code
  | nonTransitiveFourOctet _ => BgpExtendedCommunityType.nonTransitiveFourOctet.code
  | transitiveOpaque _ => BgpExtendedCommunityType.transitiveOpaque.code
  | nonTransitiveOpaque _ => BgpExtendedCommunityType.nonTransitiveOpaque.code
  | evpn _ => BgpExtendedCommunityType.evpn.code
  | experimental value => value.code
  | unknown value => value.code

def writeValue : ExtendedCommunity → Octets
  | transitiveTwoOctet value => TransitiveTwoOctetExtendedCommunity.write value
  | nonTransitiveTwoOctet value => NonTransitiveTwoOctetExtendedCommunity.write value
  | transitiveIpv4 value => TransitiveIpv4ExtendedCommunity.write value
  | nonTransitiveIpv4 value => NonTransitiveIpv4ExtendedCommunity.write value
  | transitiveFourOctet value => TransitiveFourOctetExtendedCommunity.write value
  | nonTransitiveFourOctet value => NonTransitiveFourOctetExtendedCommunity.write value
  | transitiveOpaque value => value.write
  | nonTransitiveOpaque value => value.write
  | evpn value => value.write
  | experimental value => value.write
  | unknown value => value.write

def write (community : ExtendedCommunity) : Octets := community.typeOctet :: community.writeValue

/-- The registered types that are not looked into are `unknown`, as are the
unregistered ones; the remaining ones are experimental. -/
def fromWire : Parser ExtendedCommunityParsingError ExtendedCommunity := do
  let code ← beU8
  match BgpExtendedCommunityType.tryFrom code with
  | some .transitiveTwoOctet =>
    let value ← TransitiveTwoOctetExtendedCommunity.fromWire.mapErr
      .transitiveTwoOctetExtendedCommunityError
    return transitiveTwoOctet value
  | some .nonTransitiveTwoOctet =>
    let value ← NonTransitiveTwoOctetExtendedCommunity.fromWire.mapErr
      .nonTransitiveTwoOctetExtendedCommunityError
    return nonTransitiveTwoOctet value
  | some .transitiveIpv4 =>
    let value ← TransitiveIpv4ExtendedCommunity.fromWire.mapErr
      .transitiveIpv4ExtendedCommunityError
    return transitiveIpv4 value
  | some .nonTransitiveIpv4 =>
    let value ← NonTransitiveIpv4ExtendedCommunity.fromWire.mapErr
      .nonTransitiveIpv4ExtendedCommunityError
    return nonTransitiveIpv4 value
  | some .transitiveFourOctet =>
    let value ← TransitiveFourOctetExtendedCommunity.fromWire.mapErr
      .transitiveFourOctetExtendedCommunityError
    return transitiveFourOctet value
  | some .nonTransitiveFourOctet =>
    let value ← NonTransitiveFourOctetExtendedCommunity.fromWire.mapErr
      .nonTransitiveFourOctetExtendedCommunityError
    return nonTransitiveFourOctet value
  | some .transitiveOpaque =>
    let value ← TransitiveOpaqueExtendedCommunity.fromWire.mapErr
      .transitiveOpaqueExtendedCommunityError
    return transitiveOpaque value
  | some .nonTransitiveOpaque =>
    let value ← NonTransitiveOpaqueExtendedCommunity.fromWire.mapErr
      .nonTransitiveOpaqueExtendedCommunityError
    return nonTransitiveOpaque value
  | some .evpn =>
    let value ← EvpnExtendedCommunity.fromWire.mapErr .evpnExtendedCommunityError
    return evpn value
  | some .transitiveQosMarking | some .nonTransitiveQosMarking | some .cosCapability
  | some .flowSpecNextHop | some .flowSpecIndirectionId | some .transitiveTransportClass
  | some .nonTransitiveTransportClass | some .serviceFunctionChain | some .srv6MobileUserPlane
  | some .genericPart1 | some .genericPart2 | some .genericPart3 | none =>
    let value ← (RawExtendedCommunity.fromWire code).mapErr .unknownExtendedCommunityError
    return unknown value
  | some _ =>
    let value ← (RawExtendedCommunity.fromWire code).mapErr .experimentalExtendedCommunityError
    return experimental value

end ExtendedCommunity

namespace ExtendedCommunityIpv6

def len (_community : ExtendedCommunityIpv6) : Nat := 1 + 19

def typeOctet : ExtendedCommunityIpv6 → BitVec 8
  | transitiveIpv6 _ => BgpExtendedCommunityIpv6Type.transitiveIpv6.code
  | nonTransitiveIpv6 _ => BgpExtendedCommunityIpv6Type.nonTransitiveIpv6.code
  | unknown value => value.code

def writeValue : ExtendedCommunityIpv6 → Octets
  | transitiveIpv6 value => TransitiveIpv6ExtendedCommunity.write value
  | nonTransitiveIpv6 value => NonTransitiveIpv6ExtendedCommunity.write value
  | unknown value => value.write

def write (community : ExtendedCommunityIpv6) : Octets :=
  community.typeOctet :: community.writeValue

def fromWire : Parser ExtendedCommunityIpv6ParsingError ExtendedCommunityIpv6 := do
  let code ← beU8
  match BgpExtendedCommunityIpv6Type.tryFrom code with
  | some .transitiveIpv6 =>
    let value ← TransitiveIpv6ExtendedCommunity.fromWire.mapErr
      .transitiveIpv6ExtendedCommunityError
    return transitiveIpv6 value
  | some .nonTransitiveIpv6 =>
    let value ← NonTransitiveIpv6ExtendedCommunity.fromWire.mapErr
      .nonTransitiveIpv6ExtendedCommunityError
    return nonTransitiveIpv6 value
  | none =>
    let value ← (RawExtendedCommunity.fromWire code).mapErr .unknownExtendedCommunityIpv6Error
    return unknown value

end ExtendedCommunityIpv6

end NetCalyx.Bgp
