import Mathlib.Tactic.IntervalCases
import NetCalyx.Wire.IpNet
import NetCalyx.Bgp.Iana

/-!
# Network layer reachability information

The routes an update can carry. A unicast or multicast network is an IP
network together with the check its constructor makes, so that a value that
would be refused cannot be built. The four unicast and multicast families share
one shape (an optional ADD-PATH identifier and a network), as do the two
labelled and the two VPN families.
-/

namespace NetCalyx.Bgp
open Wire

/-! ## Labels and route distinguishers -/

structure MplsLabel where
  value : OctetArray 3
  deriving DecidableEq

/-- The bottom-of-stack bit of a label. -/
def MplsLabel.isBottom (l : MplsLabel) : Bool := l.value.val.getD 2 0 &&& 0x01 == 0x01

/-- The label `0x800000` that withdrawals carry in place of a stack. -/
def MplsLabel.isUnreachCompatibility (l : MplsLabel) : Bool :=
  l.value.val.getD 0 0 == 0x80 && l.value.val.getD 1 0 == 0x00 && l.value.val.getD 2 0 == 0x00

inductive RouteDistinguisher where
  | as2Administrator (asn2 : BitVec 16) (number : BitVec 32)
  | ipv4Administrator (ip : Ipv4Addr) (number : BitVec 16)
  | as4Administrator (asn4 : BitVec 32) (number : BitVec 16)
  | leafAdRoutes
  deriving DecidableEq

def RouteDistinguisher.getType : RouteDistinguisher → RouteDistinguisherTypeCode
  | .as2Administrator .. => .as2Administrator
  | .ipv4Administrator .. => .ipv4Administrator
  | .as4Administrator .. => .as4Administrator
  | .leafAdRoutes => .leafAdRoutes

structure LabeledIpv4NextHop where
  rd : RouteDistinguisher
  nextHop : Ipv4Addr
  deriving DecidableEq

structure LabeledIpv6NextHop where
  rd : RouteDistinguisher
  nextHop : Ipv6Addr
  nextHopLocal : Option Ipv6Addr
  deriving DecidableEq

inductive LabeledNextHop where
  | ipv4 (nh : LabeledIpv4NextHop)
  | ipv6 (nh : LabeledIpv6NextHop)
  deriving DecidableEq

/-! ## Unicast and multicast networks -/

/-- A network that passes `check`. -/
structure Network {w : Nat} (check : IpNet w → Bool) where
  net : IpNet w
  valid : check net = true
  deriving DecidableEq

/-- Build a checked network; the error repeats the refused one. -/
def Network.fromNet {w : Nat} {check : IpNet w → Bool} (net : IpNet w) :
    Except (IpNet w) (Network check) :=
  if h : check net = true then .ok ⟨net, h⟩ else .error net

def ipv4UnicastCheck (net : Ipv4Net) : Bool :=
  !(isBroadcast4 net.addr || isMulticast4 net.addr) &&
    !(isBroadcast4 net.lastHost4 || isMulticast4 net.lastHost4)

def ipv4MulticastCheck (net : Ipv4Net) : Bool := isMulticast4 net.addr

def ipv6UnicastCheck (net : Ipv6Net) : Bool := !isMulticast6 net.addr

def ipv6MulticastCheck (net : Ipv6Net) : Bool :=
  isMulticast6 net.addr && isMulticast6 net.lastHost6

/-! The checks look at the address as given, which a route on the wire does not
keep: only its network address is read back. -/

theorem lastHost4_trunc (net : Ipv4Net) : net.trunc.lastHost4 = net.lastHost4 := by
  rw [IpNet.lastHost4, IpNet.lastHost4, IpNet.broadcast_trunc, IpNet.trunc_prefixLen]

theorem isBroadcast4_network {net : Ipv4Net} (h : isBroadcast4 net.addr = false) :
    isBroadcast4 net.network = false := by
  have hle := net.network_toNat_le
  have hlt := net.addr.isLt
  simp only [isBroadcast4, beq_eq_false_iff_ne, ne_eq] at h ⊢
  intro hall
  rw [hall, BitVec.toNat_allOnes] at hle
  refine h (BitVec.eq_of_toNat_eq ?_)
  rw [BitVec.toNat_allOnes]
  omega

/-- Clearing the host bits turns a unicast network into a multicast one only
where a /3 covers both. -/
theorem ipv4UnicastCheck_trunc {net : Ipv4Net} (h : ipv4UnicastCheck net = true) :
    ipv4UnicastCheck net.trunc = true ↔ ¬ (net.prefixLen = 3 ∧ 240 ≤ firstOctet net.addr) := by
  have hfirst := net.firstOctet_network (by decide)
  have hlt := firstOctet_lt (by decide) net.addr
  simp only [ipv4UnicastCheck, IpNet.trunc_addr, lastHost4_trunc, Bool.and_eq_true,
    Bool.not_eq_true', Bool.or_eq_false_iff] at h ⊢
  obtain ⟨⟨haddr, hmulti⟩, hhost⟩ := h
  simp only [isBroadcast4_network haddr, hhost, true_and, and_true]
  simp only [isMulticast4, Bool.and_eq_false_iff, decide_eq_false_iff_not] at hmulti ⊢
  rw [hfirst]
  by_cases hlong : 8 ≤ net.prefixLen
  · rw [Nat.sub_eq_zero_of_le hlong]
    omega
  · have hshort : net.prefixLen < 8 := by omega
    generalize net.prefixLen = p at hshort ⊢
    interval_cases p <;> omega

theorem ipv6UnicastCheck_trunc {net : Ipv6Net} (h : ipv6UnicastCheck net = true) :
    ipv6UnicastCheck net.trunc = true := by
  have hfirst := net.firstOctet_network (by decide)
  have hlt := firstOctet_lt (by decide) net.addr
  have hle := Nat.div_mul_le_self (firstOctet net.addr) (2 ^ (8 - net.prefixLen))
  simp only [ipv6UnicastCheck, IpNet.trunc_addr, Bool.not_eq_true'] at h ⊢
  simp only [isMulticast6, beq_eq_false_iff_ne, ne_eq] at h ⊢
  omega

/-- A network with its ADD-PATH identifier. -/
structure NetworkAddress {w : Nat} (check : IpNet w → Bool) where
  pathId : Option (BitVec 32)
  network : Network check
  deriving DecidableEq

abbrev Ipv4UnicastAddress := NetworkAddress ipv4UnicastCheck
abbrev Ipv4MulticastAddress := NetworkAddress ipv4MulticastCheck
abbrev Ipv6UnicastAddress := NetworkAddress ipv6UnicastCheck
abbrev Ipv6MulticastAddress := NetworkAddress ipv6MulticastCheck

/-! ## Labelled networks -/

/-- A VPN route: a label stack and a route distinguisher before the network. -/
structure MplsVpnUnicastAddress {w : Nat} (check : IpNet w → Bool) where
  pathId : Option (BitVec 32)
  rd : RouteDistinguisher
  labelStack : List MplsLabel
  network : Network check
  deriving DecidableEq

abbrev Ipv4MplsVpnUnicastAddress := MplsVpnUnicastAddress ipv4UnicastCheck
abbrev Ipv6MplsVpnUnicastAddress := MplsVpnUnicastAddress ipv6UnicastCheck

/-- A labelled route. `from` refuses a stack whose bits, together with the
prefix, do not fit one octet; the check is a field here. -/
structure NlriMplsLabelsAddress (w : Nat) where
  pathId : Option (BitVec 32)
  labels : List MplsLabel
  net : IpNet w
  fits : labels.length * 24 + net.prefixLen ≤ 255
  deriving DecidableEq

abbrev Ipv4NlriMplsLabelsAddress := NlriMplsLabelsAddress 32
abbrev Ipv6NlriMplsLabelsAddress := NlriMplsLabelsAddress 128

/-- Build a labelled route; the error is the number of labels. -/
def NlriMplsLabelsAddress.build {w : Nat} (pathId : Option (BitVec 32))
    (labels : List MplsLabel) (net : IpNet w) : Except Nat (NlriMplsLabelsAddress w) :=
  if h : labels.length * 24 + net.prefixLen ≤ 255 then .ok ⟨pathId, labels, net, h⟩
  else .error labels.length

/-! ## EVPN -/

abbrev EthernetSegmentIdentifier := OctetArray 10
abbrev EthernetTag := BitVec 32
abbrev MacAddress := OctetArray 6

structure EthernetAutoDiscovery where
  rd : RouteDistinguisher
  segmentId : EthernetSegmentIdentifier
  tag : EthernetTag
  mplsLabel : MplsLabel
  deriving DecidableEq

structure MacIpAdvertisement where
  rd : RouteDistinguisher
  segmentId : EthernetSegmentIdentifier
  tag : EthernetTag
  mac : MacAddress
  ip : Option IpAddr
  mplsLabel1 : MplsLabel
  mplsLabel2 : Option MplsLabel
  deriving DecidableEq

structure InclusiveMulticastEthernetTagRoute where
  rd : RouteDistinguisher
  tag : EthernetTag
  ip : IpAddr
  deriving DecidableEq

structure EthernetSegmentRoute where
  rd : RouteDistinguisher
  segmentId : EthernetSegmentIdentifier
  ip : IpAddr
  deriving DecidableEq

/-- The IPv4 and the IPv6 prefix route differ in the width of their addresses. -/
structure L2EvpnPrefixRoute (w : Nat) where
  rd : RouteDistinguisher
  segmentId : EthernetSegmentIdentifier
  tag : EthernetTag
  net : IpNet w
  gateway : BitVec w
  label : MplsLabel
  deriving DecidableEq

abbrev L2EvpnIpv4PrefixRoute := L2EvpnPrefixRoute 32
abbrev L2EvpnIpv6PrefixRoute := L2EvpnPrefixRoute 128

inductive L2EvpnIpPrefixRoute where
  | v4 (route : L2EvpnIpv4PrefixRoute)
  | v6 (route : L2EvpnIpv6PrefixRoute)
  deriving DecidableEq

inductive L2EvpnRoute where
  | ethernetAutoDiscovery (route : EthernetAutoDiscovery)
  | macIpAdvertisement (route : MacIpAdvertisement)
  | inclusiveMulticastEthernetTagRoute (route : InclusiveMulticastEthernetTagRoute)
  | ethernetSegmentRoute (route : EthernetSegmentRoute)
  | ipPrefixRoute (route : L2EvpnIpPrefixRoute)
  | unknown (code : BitVec 8) (value : Octets)
  deriving DecidableEq

structure L2EvpnAddress where
  pathId : Option (BitVec 32)
  route : L2EvpnRoute
  deriving DecidableEq

/-! ## Route target membership -/

structure RouteTargetMembership where
  originAs : BitVec 32
  routeTarget : Octets
  deriving DecidableEq

structure RouteTargetMembershipAddress where
  pathId : Option (BitVec 32)
  membership : Option RouteTargetMembership
  deriving DecidableEq

end NetCalyx.Bgp
