import NetCalyx.Iana.AddressFamily
import NetCalyx.Bgp.Community
import NetCalyx.Bgp.LinkState

/-!
# Path attributes

The values a path attribute can carry and the attribute itself. Which of the
optional, transitive and partial flags a value admits is fixed by its kind
(`canBeOptional`, `canBeTransitive`, `canBePartial`); `PathAttribute.build` is
the source's checked constructor, and its check is a field of the structure.
-/

namespace NetCalyx.Bgp
open Wire NetCalyx.Iana

inductive Origin where
  | igp | egp | incomplete
  deriving DecidableEq

def Origin.code : Origin → BitVec 8
  | .igp => 0 | .egp => 1 | .incomplete => 2

def Origin.tryFrom : BitVec 8 → Option Origin := fromRepr 3 ofNat code

inductive AsPathSegmentType where
  | asSet | asSequence
  deriving DecidableEq

def AsPathSegmentType.code : AsPathSegmentType → BitVec 8
  | .asSet => 1 | .asSequence => 2

def AsPathSegmentType.tryFrom : BitVec 8 → Option AsPathSegmentType := fromRepr 2 ofNat code

/-- An AS path segment with `w`-bit AS numbers. -/
structure AsPathSegment (w : Nat) where
  segmentType : AsPathSegmentType
  asNumbers : List (BitVec w)
  deriving DecidableEq

abbrev As2PathSegment := AsPathSegment 16
abbrev As4PathSegment := AsPathSegment 32

inductive AsPath where
  | as2PathSegments (segments : List As2PathSegment)
  | as4PathSegments (segments : List As4PathSegment)
  deriving DecidableEq

inductive Aggregator where
  | as2Aggregator (asn : BitVec 16) (origin : Ipv4Addr)
  | as4Aggregator (asn : BitVec 32) (origin : Ipv4Addr)
  deriving DecidableEq

inductive Aigp where
  | accumulatedIgpMetric (metric : BitVec 64)
  deriving DecidableEq

structure UnknownAttribute where
  code : BitVec 8
  value : Octets
  deriving DecidableEq

/-- Reachable routes of one address family. -/
inductive MpReach where
  | ipv4Unicast (nextHop : IpAddr) (nextHopLocal : Option Ipv6Addr)
      (nlri : List Ipv4UnicastAddress)
  | ipv4Multicast (nextHop : IpAddr) (nextHopLocal : Option Ipv6Addr)
      (nlri : List Ipv4MulticastAddress)
  | ipv4NlriMplsLabels (nextHop : IpAddr) (nextHopLocal : Option Ipv6Addr)
      (nlri : List Ipv4NlriMplsLabelsAddress)
  | ipv4MplsVpnUnicast (nextHop : LabeledNextHop) (nlri : List Ipv4MplsVpnUnicastAddress)
  | ipv6Unicast (nextHopGlobal : Ipv6Addr) (nextHopLocal : Option Ipv6Addr)
      (nlri : List Ipv6UnicastAddress)
  | ipv6Multicast (nextHopGlobal : Ipv6Addr) (nextHopLocal : Option Ipv6Addr)
      (nlri : List Ipv6MulticastAddress)
  | ipv6NlriMplsLabels (nextHop : IpAddr) (nextHopLocal : Option Ipv6Addr)
      (nlri : List Ipv6NlriMplsLabelsAddress)
  | ipv6MplsVpnUnicast (nextHop : LabeledNextHop) (nlri : List Ipv6MplsVpnUnicastAddress)
  | l2Evpn (nextHop : IpAddr) (nlri : List L2EvpnAddress)
  | routeTargetMembership (nextHop : IpAddr) (nlri : List RouteTargetMembershipAddress)
  | bgpLs (nextHop : IpAddr) (nlri : List BgpLsNlri)
  | bgpLsVpn (nextHop : LabeledNextHop) (nlri : List BgpLsVpnNlri)
  | unknown (afi : AddressFamily) (safi : SubsequentAddressFamily) (value : Octets)
  deriving DecidableEq

/-- Withdrawn routes of one address family. -/
inductive MpUnreach where
  | ipv4Unicast (nlri : List Ipv4UnicastAddress)
  | ipv4Multicast (nlri : List Ipv4MulticastAddress)
  | ipv4NlriMplsLabels (nlri : List Ipv4NlriMplsLabelsAddress)
  | ipv4MplsVpnUnicast (nlri : List Ipv4MplsVpnUnicastAddress)
  | ipv6Unicast (nlri : List Ipv6UnicastAddress)
  | ipv6Multicast (nlri : List Ipv6MulticastAddress)
  | ipv6NlriMplsLabels (nlri : List Ipv6NlriMplsLabelsAddress)
  | ipv6MplsVpnUnicast (nlri : List Ipv6MplsVpnUnicastAddress)
  | l2Evpn (nlri : List L2EvpnAddress)
  | routeTargetMembership (nlri : List RouteTargetMembershipAddress)
  | bgpLs (nlri : List BgpLsNlri)
  | bgpLsVpn (nlri : List BgpLsVpnNlri)
  | unknown (afi : AddressFamily) (safi : SubsequentAddressFamily) (nlri : Octets)
  deriving DecidableEq

/-- The address type of a known family, or the two numbers of an unknown one. -/
def MpReach.addressType :
    MpReach → Except (AddressFamily × SubsequentAddressFamily) AddressType
  | ipv4Unicast .. => .ok .ipv4Unicast
  | ipv4Multicast .. => .ok .ipv4Multicast
  | ipv4NlriMplsLabels .. => .ok .ipv4NlriMplsLabels
  | ipv4MplsVpnUnicast .. => .ok .ipv4MplsLabeledVpn
  | ipv6Unicast .. => .ok .ipv6Unicast
  | ipv6Multicast .. => .ok .ipv6Multicast
  | ipv6NlriMplsLabels .. => .ok .ipv6NlriMplsLabels
  | ipv6MplsVpnUnicast .. => .ok .ipv6MplsLabeledVpn
  | l2Evpn .. => .ok .l2VpnBgpEvpn
  | routeTargetMembership .. => .ok .routeTargetConstrains
  | bgpLs .. => .ok .bgpLs
  | bgpLsVpn .. => .ok .bgpLsVpn
  | unknown afi safi _ => .error (afi, safi)

def MpUnreach.addressType :
    MpUnreach → Except (AddressFamily × SubsequentAddressFamily) AddressType
  | ipv4Unicast .. => .ok .ipv4Unicast
  | ipv4Multicast .. => .ok .ipv4Multicast
  | ipv4NlriMplsLabels .. => .ok .ipv4NlriMplsLabels
  | ipv4MplsVpnUnicast .. => .ok .ipv4MplsLabeledVpn
  | ipv6Unicast .. => .ok .ipv6Unicast
  | ipv6Multicast .. => .ok .ipv6Multicast
  | ipv6NlriMplsLabels .. => .ok .ipv6NlriMplsLabels
  | ipv6MplsVpnUnicast .. => .ok .ipv6MplsLabeledVpn
  | l2Evpn .. => .ok .l2VpnBgpEvpn
  | routeTargetMembership .. => .ok .routeTargetConstrains
  | bgpLs .. => .ok .bgpLs
  | bgpLsVpn .. => .ok .bgpLsVpn
  | unknown afi safi _ => .error (afi, safi)

inductive PathAttributeValue where
  | origin (value : Origin)
  | asPath (value : AsPath)
  | as4Path (segments : List As4PathSegment)
  | nextHop (nextHop : Ipv4Addr)
  | multiExitDiscriminator (metric : BitVec 32)
  | localPreference (metric : BitVec 32)
  | atomicAggregate
  | aggregator (value : Aggregator)
  | communities (communities : List Community)
  | extendedCommunities (communities : List ExtendedCommunity)
  | extendedCommunitiesIpv6 (communities : List ExtendedCommunityIpv6)
  | largeCommunities (communities : List LargeCommunity)
  | originator (id : Ipv4Addr)
  | clusterList (ids : List Ipv4Addr)
  | mpReach (value : MpReach)
  | mpUnreach (value : MpUnreach)
  | bgpLs (value : BgpLsAttribute)
  | onlyToCustomer (asn : BitVec 32)
  | aigp (value : Aigp)
  | prefixSegmentIdentifier (value : PrefixSegmentIdentifier)
  | unknownAttribute (value : UnknownAttribute)
  deriving DecidableEq

namespace PathAttributeValue

/-- The value the optional flag must have; `none` leaves it free. -/
def canBeOptional : PathAttributeValue → Option Bool
  | origin _ | asPath _ | nextHop _ | localPreference _ | atomicAggregate => some false
  | as4Path _ | multiExitDiscriminator _ | aggregator _ | communities _
  | extendedCommunities _ | extendedCommunitiesIpv6 _ | largeCommunities _ | originator _
  | clusterList _ | mpReach _ | mpUnreach _ | bgpLs _ | onlyToCustomer _ | aigp _
  | prefixSegmentIdentifier _ => some true
  | unknownAttribute _ => none

def canBeTransitive : PathAttributeValue → Option Bool
  | multiExitDiscriminator _ | originator _ | clusterList _ | mpReach _ | mpUnreach _
  | bgpLs _ | aigp _ => some false
  | origin _ | asPath _ | as4Path _ | nextHop _ | localPreference _ | atomicAggregate
  | aggregator _ | communities _ | extendedCommunities _ | extendedCommunitiesIpv6 _
  | largeCommunities _ | onlyToCustomer _ | prefixSegmentIdentifier _ => some true
  | unknownAttribute _ => none

def canBePartial : PathAttributeValue → Option Bool
  | origin _ | asPath _ | nextHop _ | multiExitDiscriminator _ | localPreference _
  | atomicAggregate | originator _ | clusterList _ | mpReach _ | mpUnreach _ | bgpLs _
  | onlyToCustomer _ | aigp _ => some false
  | as4Path _ | aggregator _ | communities _ | extendedCommunities _
  | extendedCommunitiesIpv6 _ | largeCommunities _ | prefixSegmentIdentifier _
  | unknownAttribute _ => none

/-- The registered type of a value, or the number of an unknown one. -/
def pathAttributeType : PathAttributeValue → Except (BitVec 8) PathAttributeType
  | origin _ => .ok .origin
  | asPath _ => .ok .asPath
  | as4Path _ => .ok .as4Path
  | nextHop _ => .ok .nextHop
  | multiExitDiscriminator _ => .ok .multiExitDiscriminator
  | localPreference _ => .ok .localPreference
  | atomicAggregate => .ok .atomicAggregate
  | aggregator _ => .ok .aggregator
  | communities _ => .ok .communities
  | extendedCommunities _ => .ok .extendedCommunities
  | extendedCommunitiesIpv6 _ => .ok .extendedCommunitiesIpv6
  | largeCommunities _ => .ok .largeCommunities
  | originator _ => .ok .originatorId
  | clusterList _ => .ok .clusterList
  | mpReach _ => .ok .mpReachNlri
  | mpUnreach _ => .ok .mpUnreachNlri
  | bgpLs _ => .ok .bgpLsAttribute
  | onlyToCustomer _ => .ok .onlyToCustomer
  | aigp _ => .ok .accumulatedIgp
  | prefixSegmentIdentifier _ => .ok .bgpPrefixSid
  | unknownAttribute u => .error u.code

end PathAttributeValue

inductive InvalidPathAttribute where
  | invalidOptionalFlagValue (flag : Bool)
  | invalidTransitiveFlagValue (flag : Bool)
  | invalidPartialFlagValue (flag : Bool)

/-- `flag` differs from the value a kind of attribute demands. -/
def flagMismatch (demanded : Option Bool) (flag : Bool) : Bool :=
  (demanded.map (· != flag)).getD false

/-- A path attribute that passed the flag checks of its constructor. -/
structure PathAttribute where
  optional : Bool
  transitive : Bool
  isPartial : Bool
  extendedLength : Bool
  value : PathAttributeValue
  optional_ok : flagMismatch value.canBeOptional optional = false
  transitive_ok : flagMismatch value.canBeTransitive transitive = false
  partial_ok : flagMismatch value.canBePartial isPartial = false
  deriving DecidableEq

/-- The checked constructor; the error also returns the value. -/
def PathAttribute.build (optional transitive isPartial extendedLength : Bool)
    (value : PathAttributeValue) :
    Except (PathAttributeValue × InvalidPathAttribute) PathAttribute :=
  if ho : flagMismatch value.canBeOptional optional = true then
    .error (value, .invalidOptionalFlagValue optional)
  else if ht : flagMismatch value.canBeTransitive transitive = true then
    .error (value, .invalidTransitiveFlagValue transitive)
  else if hp : flagMismatch value.canBePartial isPartial = true then
    .error (value, .invalidPartialFlagValue isPartial)
  else
    .ok ⟨optional, transitive, isPartial, extendedLength, value,
      Bool.eq_false_iff.mpr ho, Bool.eq_false_iff.mpr ht, Bool.eq_false_iff.mpr hp⟩

/-- The origin of a route from inside the autonomous system. -/
def PathAttribute.originIgp : PathAttribute :=
  ⟨false, true, false, false, .origin .igp, rfl, rfl, rfl⟩

end NetCalyx.Bgp
