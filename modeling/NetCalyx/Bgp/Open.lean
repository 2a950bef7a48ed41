import NetCalyx.Iana.AddressFamily
import NetCalyx.Bgp.Iana
import NetCalyx.Wire.IpNet

/-!
# OPEN messages and capabilities

An OPEN message is a list of optional parameters, each of them a list of
capabilities.
-/

namespace NetCalyx.Bgp
open Wire NetCalyx.Iana

inductive ExperimentalCapabilityCode where
  | experimental239 | experimental240 | experimental241 | experimental242 | experimental243
  | experimental244 | experimental245 | experimental246 | experimental247 | experimental248
  | experimental249 | experimental250 | experimental251 | experimental252 | experimental253
  | experimental254
  deriving DecidableEq

/-- The registered capability code of an experimental one. -/
def ExperimentalCapabilityCode.toCapabilityCode : ExperimentalCapabilityCode → BgpCapabilityCode
  | experimental239 => .experimental239 | experimental240 => .experimental240
  | experimental241 => .experimental241 | experimental242 => .experimental242
  | experimental243 => .experimental243 | experimental244 => .experimental244
  | experimental245 => .experimental245 | experimental246 => .experimental246
  | experimental247 => .experimental247 | experimental248 => .experimental248
  | experimental249 => .experimental249 | experimental250 => .experimental250
  | experimental251 => .experimental251 | experimental252 => .experimental252
  | experimental253 => .experimental253 | experimental254 => .experimental254

structure ExperimentalCapability where
  code : ExperimentalCapabilityCode
  value : Octets
  deriving DecidableEq

structure UnrecognizedCapability where
  code : BitVec 8
  value : Octets
  deriving DecidableEq

structure GracefulRestartAddressFamily where
  forwardingState : Bool
  addressType : AddressType
  deriving DecidableEq

structure GracefulRestartCapability where
  restart : Bool
  gracefulNotification : Bool
  time : BitVec 16
  addressFamilies : List GracefulRestartAddressFamily
  deriving DecidableEq

structure AddPathAddressFamily where
  addressType : AddressType
  send : Bool
  receive : Bool
  deriving DecidableEq

structure ExtendedNextHopEncoding where
  addressType : AddressType
  nextHopAfi : AddressFamily
  deriving DecidableEq

structure MultipleLabel where
  addressType : AddressType
  count : BitVec 8
  deriving DecidableEq

def maxMultipleLabels : Nat := 63

/-- At most 63 entries: the constructor refuses more. -/
structure MultipleLabelsCapability where
  labels : List MultipleLabel
  le : labels.length ≤ maxMultipleLabels
  deriving DecidableEq

def MultipleLabelsCapability.new (labels : List MultipleLabel) : Option MultipleLabelsCapability :=
  if h : labels.length ≤ maxMultipleLabels then some ⟨labels, h⟩ else none

inductive BgpCapability where
  | multiProtocolExtensions (addressType : AddressType)
  | routeRefresh
  | enhancedRouteRefresh
  | ciscoRouteRefresh
  | gracefulRestartCapability (cap : GracefulRestartCapability)
  | addPath (addressFamilies : List AddPathAddressFamily)
  | extendedMessage
  | multipleLabels (cap : MultipleLabelsCapability)
  | bgpRole (role : BgpRoleValue)
  | fourOctetAs (asn4 : BitVec 32)
  | extendedNextHopEncoding (encodings : List ExtendedNextHopEncoding)
  | experimental (cap : ExperimentalCapability)
  | unrecognized (cap : UnrecognizedCapability)
  deriving DecidableEq

/-- The registered code of a capability, or the number of an unrecognized one. -/
def BgpCapability.code : BgpCapability → Except (BitVec 8) BgpCapabilityCode
  | multiProtocolExtensions _ => .ok .multiProtocolExtensions
  | routeRefresh => .ok .routeRefreshCapability
  | enhancedRouteRefresh => .ok .enhancedRouteRefresh
  | ciscoRouteRefresh => .ok .ciscoRouteRefresh
  | gracefulRestartCapability _ => .ok .gracefulRestartCapability
  | addPath _ => .ok .addPathCapability
  | extendedMessage => .ok .bgpExtendedMessage
  | multipleLabels _ => .ok .multipleLabelsCapability
  | bgpRole _ => .ok .bgpRole
  | fourOctetAs _ => .ok .fourOctetAs
  | extendedNextHopEncoding _ => .ok .extendedNextHopEncoding
  | experimental cap => .ok cap.code.toCapabilityCode
  | unrecognized cap => .error cap.code

inductive BgpOpenMessageParameter where
  | capabilities (capabilities : List BgpCapability)

def BgpOpenMessageParameter.caps : BgpOpenMessageParameter → List BgpCapability
  | capabilities cs => cs

def bgpVersion : BitVec 8 := 4

/-- An OPEN message. Its constructor always sets the version to `bgpVersion`. -/
structure BgpOpenMessage where
  myAs : BitVec 16
  holdTime : BitVec 16
  bgpId : Ipv4Addr
  params : List BgpOpenMessageParameter

namespace BgpOpenMessage

def capabilities (msg : BgpOpenMessage) : List BgpCapability :=
  msg.params.flatMap BgpOpenMessageParameter.caps

/-- The AS number of the last four-octet AS capability, or else the two-octet one. -/
def myAsn4 (msg : BgpOpenMessage) : BitVec 32 :=
  let asn4s := msg.capabilities.filterMap fun
    | .fourOctetAs asn4 => some asn4
    | _ => none
  asn4s.getLast?.getD (msg.myAs.setWidth 32)

end BgpOpenMessage

end NetCalyx.Bgp
