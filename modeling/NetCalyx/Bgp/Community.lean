import NetCalyx.Bgp.Nlri

/-!
# Communities

Normal, large and extended communities. Most extended communities are a
sub-type with a global and a local administrator of fixed widths: each named
variant of the source is a registered sub-type, and its `Unassigned` variant
carries any sub-type number.
-/

namespace NetCalyx.Bgp
open Wire

structure Community where
  value : BitVec 32
  deriving DecidableEq

structure LargeCommunity where
  globalAdmin : BitVec 32
  localData1 : BitVec 32
  localData2 : BitVec 32
  deriving DecidableEq

/-- A registered sub-type, or the `Unassigned` variant with its number. -/
inductive SubTypeOf (κ : Type) where
  | assigned (kind : κ)
  | unassigned (subType : BitVec 8)
  deriving DecidableEq

/-- An extended community with a `g`-bit global and an `l`-bit local administrator. -/
structure AdminCommunity (κ : Type) (g l : Nat) where
  subType : SubTypeOf κ
  globalAdmin : BitVec g
  localAdmin : BitVec l
  deriving DecidableEq

abbrev TransitiveTwoOctetExtendedCommunity :=
  AdminCommunity TransitiveTwoOctetExtendedCommunitySubType 16 32
abbrev NonTransitiveTwoOctetExtendedCommunity :=
  AdminCommunity NonTransitiveTwoOctetExtendedCommunitySubType 16 32
abbrev TransitiveIpv4ExtendedCommunity :=
  AdminCommunity TransitiveIpv4ExtendedCommunitySubType 32 16
abbrev NonTransitiveIpv4ExtendedCommunity := AdminCommunity Empty 32 16
abbrev TransitiveFourOctetExtendedCommunity :=
  AdminCommunity TransitiveFourOctetExtendedCommunitySubType 32 16
abbrev NonTransitiveFourOctetExtendedCommunity := AdminCommunity Empty 32 16
abbrev TransitiveIpv6ExtendedCommunity :=
  AdminCommunity TransitiveIpv6ExtendedCommunitySubType 128 16
abbrev NonTransitiveIpv6ExtendedCommunity := AdminCommunity Empty 128 16

inductive TransitiveOpaqueExtendedCommunity where
  | defaultGateway
  | unassigned (subType : BitVec 8) (value : OctetArray 6)
  deriving DecidableEq

structure NonTransitiveOpaqueExtendedCommunity where
  subType : BitVec 8
  value : OctetArray 6
  deriving DecidableEq

inductive EvpnExtendedCommunity where
  | macMobility (flags : BitVec 8) (seqNo : BitVec 32)
  | esiLabel (flags : BitVec 8) (esiLabel : OctetArray 3)
  | esImportRouteTarget (routeTarget : OctetArray 6)
  | evpnRoutersMac (mac : MacAddress)
  | evpnL2Attribute (controlFlags l2Mtu : BitVec 16)
  | unassigned (subType : BitVec 8) (value : OctetArray 6)
  deriving DecidableEq

/-- A community of a kind the source does not look into: the `Experimental`
and `Unknown` extended communities have six octets of value, the unknown IPv6
one has eighteen. -/
structure RawExtendedCommunity (n : Nat) where
  code : BitVec 8
  subType : BitVec 8
  value : OctetArray n
  deriving DecidableEq

abbrev ExperimentalExtendedCommunity := RawExtendedCommunity 6
abbrev UnknownExtendedCommunity := RawExtendedCommunity 6
abbrev UnknownExtendedCommunityIpv6 := RawExtendedCommunity 18

inductive ExtendedCommunity where
  | transitiveTwoOctet (value : TransitiveTwoOctetExtendedCommunity)
  | nonTransitiveTwoOctet (value : NonTransitiveTwoOctetExtendedCommunity)
  | transitiveIpv4 (value : TransitiveIpv4ExtendedCommunity)
  | nonTransitiveIpv4 (value : NonTransitiveIpv4ExtendedCommunity)
  | transitiveFourOctet (value : TransitiveFourOctetExtendedCommunity)
  | nonTransitiveFourOctet (value : NonTransitiveFourOctetExtendedCommunity)
  | transitiveOpaque (value : TransitiveOpaqueExtendedCommunity)
  | nonTransitiveOpaque (value : NonTransitiveOpaqueExtendedCommunity)
  | evpn (value : EvpnExtendedCommunity)
  | experimental (value : ExperimentalExtendedCommunity)
  | unknown (value : UnknownExtendedCommunity)
  deriving DecidableEq

inductive ExtendedCommunityIpv6 where
  | transitiveIpv6 (value : TransitiveIpv6ExtendedCommunity)
  | nonTransitiveIpv6 (value : NonTransitiveIpv6ExtendedCommunity)
  | unknown (value : UnknownExtendedCommunityIpv6)
  deriving DecidableEq

end NetCalyx.Bgp
