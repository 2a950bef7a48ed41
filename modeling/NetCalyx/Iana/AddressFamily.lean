import NetCalyx.Wire.Octets

/-!
# Address families

The address family and subsequent address family numbers, and `AddressType`,
the pairs of the two that the BGP code knows about. `fromAfiSafi` is the only way
from numbers to an address type.
-/

namespace NetCalyx.Iana
open Wire

inductive AddressFamily where
  | ipv4 | ipv6 | nsap | hdlc | bbn1822 | ieee802 | e163 | e164 | f69 | frameRelay | ipx
  | appleTalk | decnetIv | banyanVines | e164Nsap | dns | distinguishedName | asNumber
  | xtpIpv4 | xtpIpv6 | xtpNative | fiberPortName | fiberNodeName | gwid | l2vpn
  | mplsTpSectionEndpointId | mplsTpLspEndpointId | mplsTpPseudowireEndpointId | mpIpv4
  | mpIpv6 | bgpSfc | eigrpCommonServiceFamily | eigrpIpv4 | eigrpIpv6
  | lispCanonicalAddressFormat | bgpLs | mac48Bit | mac64Bit | oui | macSlash24 | macSlash40
  | ipv6Slash64 | rBridgePortID | trillNickname | uuid | routingPolicyAfi | mplsNamespaces
  deriving DecidableEq

def AddressFamily.code : AddressFamily → BitVec 16
  | .ipv4 => 1 | .ipv6 => 2 | .nsap => 3 | .hdlc => 4 | .bbn1822 => 5 | .ieee802 => 6
  | .e163 => 7 | .e164 => 8 | .f69 => 9 | .frameRelay => 10 | .ipx => 11 | .appleTalk => 12
  | .decnetIv => 13 | .banyanVines => 14 | .e164Nsap => 15 | .dns => 16
  | .distinguishedName => 17 | .asNumber => 18 | .xtpIpv4 => 19 | .xtpIpv6 => 20
  | .xtpNative => 21 | .fiberPortName => 22 | .fiberNodeName => 23 | .gwid => 24 | .l2vpn => 25
  | .mplsTpSectionEndpointId => 26 | .mplsTpLspEndpointId => 27
  | .mplsTpPseudowireEndpointId => 28 | .mpIpv4 => 29 | .mpIpv6 => 30 | .bgpSfc => 31
  | .eigrpCommonServiceFamily => 16384 | .eigrpIpv4 => 16385 | .eigrpIpv6 => 16386
  | .lispCanonicalAddressFormat => 16387 | .bgpLs => 16388 | .mac48Bit => 16389
  | .mac64Bit => 16390 | .oui => 16391 | .macSlash24 => 16392 | .macSlash40 => 16393
  | .ipv6Slash64 => 16394 | .rBridgePortID => 16395 | .trillNickname => 16396 | .uuid => 16397
  | .routingPolicyAfi => 16398 | .mplsNamespaces => 16399

def AddressFamily.tryFrom : BitVec 16 → Option AddressFamily := fromRepr 47 ofNat code

@[simp] theorem AddressFamily.tryFrom_code (a : AddressFamily) : tryFrom a.code = some a := by
  cases a <;> rfl

inductive SubsequentAddressFamily where
  | unicast | multicast | nlriMplsLabels | mcastVpn | nlriMsp | mcastVpls | bgpSfc | tunnel
  | vpls | bgpMdtSafi | bgp4over6 | bgp6over4 | layer1Vpn | bgpEvpn | bgpLs | bgpLsVpn
  | srTePolicy | sdnWan | routingPolicy | classfulTransport | tunneledTrafficFlowSpec
  | mcastTree | bgpDps | mplsVpn | multicastBgpMplsVpn | routeTargetConstrains | flowSpecFilter
  | flowSpecFilterL3Vpn | vpnAutoDiscovery | privateUse241 | privateUse242 | privateUse243
  | privateUse244 | privateUse245 | privateUse246 | privateUse247 | privateUse248
  | privateUse249 | privateUse250 | privateUse251 | privateUse252 | privateUse253
  | privateUse254
  deriving DecidableEq

def SubsequentAddressFamily.code : SubsequentAddressFamily → BitVec 8
  | .unicast => 1 | .multicast => 2 | .nlriMplsLabels => 4 | .mcastVpn => 5 | .nlriMsp => 6
  | .mcastVpls => 8 | .bgpSfc => 9 | .tunnel => 64 | .vpls => 65 | .bgpMdtSafi => 66
  | .bgp4over6 => 67 | .bgp6over4 => 68 | .layer1Vpn => 69 | .bgpEvpn => 70 | .bgpLs => 71
  | .bgpLsVpn => 72 | .srTePolicy => 73 | .sdnWan => 74 | .routingPolicy => 75
  | .classfulTransport => 76 | .tunneledTrafficFlowSpec => 77 | .mcastTree => 78
  | .bgpDps => 79 | .mplsVpn => 128 | .multicastBgpMplsVpn => 129
  | .routeTargetConstrains => 132 | .flowSpecFilter => 133 | .flowSpecFilterL3Vpn => 134
  | .vpnAutoDiscovery => 140 | .privateUse241 => 241 | .privateUse242 => 242
  | .privateUse243 => 243 | .privateUse244 => 244 | .privateUse245 => 245
  | .privateUse246 => 246 | .privateUse247 => 247 | .privateUse248 => 248
  | .privateUse249 => 249 | .privateUse250 => 250 | .privateUse251 => 251
  | .privateUse252 => 252 | .privateUse253 => 253 | .privateUse254 => 254

def SubsequentAddressFamily.tryFrom : BitVec 8 → Option SubsequentAddressFamily :=
  fromRepr 43 ofNat code

@[simp] theorem SubsequentAddressFamily.tryFrom_code (a : SubsequentAddressFamily) :
    tryFrom a.code = some a := by
  cases a <;> rfl

/-- The pairs of address family and subsequent address family in use. -/
inductive AddressType where
  | ipv4Unicast | ipv4Multicast | ipv4MplsLabeledVpn | ipv4MulticastBgpMplsVpn | ipv4Bgp4over6
  | ipv4FlowSpec | ipv4FlowSpecL3Vpn | ipv4NlriMplsLabels | ipv6Unicast | ipv6Multicast
  | ipv6MplsLabeledVpn | ipv6MulticastBgpMplsVpn | ipv6Bgp6over4 | ipv6FlowSpec
  | ipv6FlowSpecL3Vpn | ipv6NlriMplsLabels | l2VpnBgpEvpn | l2VpnVpls | bgpLs | bgpLsVpn
  | routeTargetConstrains
  deriving DecidableEq

def AddressType.addressFamily : AddressType → AddressFamily
  | .ipv4Unicast => .ipv4 | .ipv4Multicast => .ipv4 | .ipv4MplsLabeledVpn => .ipv4
  | .ipv4MulticastBgpMplsVpn => .ipv4 | .ipv4Bgp4over6 => .ipv4 | .ipv4FlowSpec => .ipv4
  | .ipv4FlowSpecL3Vpn => .ipv4 | .ipv4NlriMplsLabels => .ipv4 | .ipv6Unicast => .ipv6
  | .ipv6Multicast => .ipv6 | .ipv6MplsLabeledVpn => .ipv6 | .ipv6MulticastBgpMplsVpn => .ipv6
  | .ipv6Bgp6over4 => .ipv6 | .ipv6FlowSpec => .ipv6 | .ipv6FlowSpecL3Vpn => .ipv6
  | .ipv6NlriMplsLabels => .ipv6 | .l2VpnBgpEvpn => .l2vpn | .l2VpnVpls => .l2vpn
  | .bgpLs => .bgpLs | .bgpLsVpn => .bgpLs | .routeTargetConstrains => .ipv4

def AddressType.subsequentAddressFamily : AddressType → SubsequentAddressFamily
  | .ipv4Unicast => .unicast | .ipv4Multicast => .multicast | .ipv4MplsLabeledVpn => .mplsVpn
  | .ipv4MulticastBgpMplsVpn => .multicastBgpMplsVpn | .ipv4Bgp4over6 => .bgp4over6
  | .ipv4FlowSpec => .flowSpecFilter | .ipv4FlowSpecL3Vpn => .flowSpecFilterL3Vpn
  | .ipv4NlriMplsLabels => .nlriMplsLabels | .ipv6Unicast => .unicast
  | .ipv6Multicast => .multicast | .ipv6MplsLabeledVpn => .mplsVpn
  | .ipv6MulticastBgpMplsVpn => .multicastBgpMplsVpn | .ipv6Bgp6over4 => .bgp6over4
  | .ipv6FlowSpec => .flowSpecFilter | .ipv6FlowSpecL3Vpn => .flowSpecFilterL3Vpn
  | .ipv6NlriMplsLabels => .nlriMplsLabels | .l2VpnBgpEvpn => .bgpEvpn | .l2VpnVpls => .vpls
  | .bgpLs => .bgpLs | .bgpLsVpn => .bgpLsVpn | .routeTargetConstrains => .routeTargetConstrains

/-- `None` stands for the `InvalidAddressType` error, which only repeats the
two arguments. -/
def AddressType.fromAfiSafi : AddressFamily → SubsequentAddressFamily → Option AddressType
  | .ipv4, .unicast => some .ipv4Unicast
  | .ipv4, .multicast => some .ipv4Multicast
  | .ipv4, .mplsVpn => some .ipv4MplsLabeledVpn
  | .ipv4, .multicastBgpMplsVpn => some .ipv4MulticastBgpMplsVpn
  | .ipv4, .bgp4over6 => some .ipv4Bgp4over6
  | .ipv4, .flowSpecFilter => some .ipv4FlowSpec
  | .ipv4, .flowSpecFilterL3Vpn => some .ipv4FlowSpecL3Vpn
  | .ipv4, .nlriMplsLabels => some .ipv4NlriMplsLabels
  | .ipv6, .unicast => some .ipv6Unicast
  | .ipv6, .multicast => some .ipv6Multicast
  | .ipv6, .mplsVpn => some .ipv6MplsLabeledVpn
  | .ipv6, .multicastBgpMplsVpn => some .ipv6MulticastBgpMplsVpn
  | .ipv6, .bgp6over4 => some .ipv6Bgp6over4
  | .ipv6, .flowSpecFilter => some .ipv6FlowSpec
  | .ipv6, .flowSpecFilterL3Vpn => some .ipv6FlowSpecL3Vpn
  | .ipv6, .nlriMplsLabels => some .ipv6NlriMplsLabels
  | .l2vpn, .bgpEvpn => some .l2VpnBgpEvpn
  | .l2vpn, .vpls => some .l2VpnVpls
  | .bgpLs, .bgpLs => some .bgpLs
  | .bgpLs, .bgpLsVpn => some .bgpLsVpn
  | .ipv4, .routeTargetConstrains => some .routeTargetConstrains
  | _, _ => none

@[simp] theorem AddressType.fromAfiSafi_components (t : AddressType) :
    fromAfiSafi t.addressFamily t.subsequentAddressFamily = some t := by
  cases t <;> rfl

end NetCalyx.Iana
