import NetCalyx.Bgp.Codec.Context
import NetCalyx.Bgp.Message
import NetCalyx.Flow.Value

/-!
# BMP messages

What a router reports about its BGP peers: the registered numbers, the header of a peer, and the
route mirroring message of version 3, which passes on what the router received.
-/

namespace NetCalyx.Bmp
open Wire NetCalyx.Iana Bgp NetCalyx.Flow

/-! ## Registered numbers -/

def peerFlagsIsIpv6 : BitVec 8 := 0b10000000
def peerFlagsIsPostPolicy : BitVec 8 := 0b01000000
def peerFlagsIsAsn2 : BitVec 8 := 0b00100000
def peerFlagsIsAdjRibOut : BitVec 8 := 0b00010000
def peerFlagsIsFiltered : BitVec 8 := 0b10000000

inductive BmpPeerTypeCode where
  | globalInstancePeer | rdInstancePeer | localInstancePeer | locRibInstancePeer | experimental251
  | experimental252 | experimental253 | experimental254
  deriving DecidableEq

def BmpPeerTypeCode.code : BmpPeerTypeCode → BitVec 8
  | .globalInstancePeer => 0 | .rdInstancePeer => 1 | .localInstancePeer => 2
  | .locRibInstancePeer => 3 | .experimental251 => 251 | .experimental252 => 252
  | .experimental253 => 253 | .experimental254 => 254

def BmpPeerTypeCode.tryFrom : BitVec 8 → Option BmpPeerTypeCode := fromRepr 8 ofNat code

inductive RouteMirroringTlvType where
  | bgpMessage | information | experimental65531 | experimental65532 | experimental65533
  | experimental65534
  deriving DecidableEq

def RouteMirroringTlvType.code : RouteMirroringTlvType → BitVec 16
  | .bgpMessage => 0 | .information => 1 | .experimental65531 => 65531
  | .experimental65532 => 65532 | .experimental65533 => 65533 | .experimental65534 => 65534

def RouteMirroringTlvType.tryFrom : BitVec 16 → Option RouteMirroringTlvType :=
  fromRepr 6 ofNat code

inductive RouteMirroringInformation where
  | erroredPdu | messagesLost | experimental65531 | experimental65532 | experimental65533
  | experimental65534
  deriving DecidableEq

def RouteMirroringInformation.code : RouteMirroringInformation → BitVec 16
  | .erroredPdu => 0 | .messagesLost => 1 | .experimental65531 => 65531
  | .experimental65532 => 65532 | .experimental65533 => 65533 | .experimental65534 => 65534

def RouteMirroringInformation.tryFrom : BitVec 16 → Option RouteMirroringInformation :=
  fromRepr 6 ofNat code

/-! ## Peers -/

/-- A kind of peer, with the flags that are defined for it. -/
inductive BmpPeerType where
  | globalInstancePeer (ipv6 postPolicy asn2 adjRibOut : Bool)
  | rdInstancePeer (ipv6 postPolicy asn2 adjRibOut : Bool)
  | localInstancePeer (ipv6 postPolicy asn2 adjRibOut : Bool)
  | locRibInstancePeer (filtered : Bool)
  | experimental251 (flags : BitVec 8)
  | experimental252 (flags : BitVec 8)
  | experimental253 (flags : BitVec 8)
  | experimental254 (flags : BitVec 8)
  deriving DecidableEq

namespace BmpPeerType

def isAdjRibOut : BmpPeerType → Bool
  | globalInstancePeer _ _ _ adjRibOut | rdInstancePeer _ _ _ adjRibOut
  | localInstancePeer _ _ _ adjRibOut => adjRibOut
  | _ => false

def getType : BmpPeerType → BmpPeerTypeCode
  | globalInstancePeer .. => .globalInstancePeer
  | rdInstancePeer .. => .rdInstancePeer
  | localInstancePeer .. => .localInstancePeer
  | locRibInstancePeer _ => .locRibInstancePeer
  | experimental251 _ => .experimental251
  | experimental252 _ => .experimental252
  | experimental253 _ => .experimental253
  | experimental254 _ => .experimental254

/-- Whether addresses are read as IPv6 addresses. Kinds without the flag have them read so. -/
def checkIsIpv6 : BmpPeerType → Bool
  | globalInstancePeer ipv6 _ _ _ | rdInstancePeer ipv6 _ _ _ | localInstancePeer ipv6 _ _ _ => ipv6
  | _ => true

def isAsn4 : BmpPeerType → Bool
  | globalInstancePeer _ _ asn2 _ | rdInstancePeer _ _ asn2 _ | localInstancePeer _ _ asn2 _ => !asn2
  | _ => true

end BmpPeerType

structure PeerHeader (DateTime : Type) where
  peerType : BmpPeerType
  rd : Option RouteDistinguisher
  address : Option IpAddr
  peerAs : BitVec 32
  bgpId : Ipv4Addr
  timestamp : Option DateTime

/-- Identifies a peer. Two keys are equal when the kinds of the peers are, whatever
their flags, so that only the kind is kept. -/
structure PeerKey where
  peerAddress : Option IpAddr
  peerType : BmpPeerTypeCode
  rd : Option RouteDistinguisher
  asn : BitVec 32
  bgpId : Ipv4Addr
  deriving DecidableEq

def PeerKey.new (peerAddress : Option IpAddr) (peerType : BmpPeerType)
    (rd : Option RouteDistinguisher) (asn : BitVec 32) (bgpId : Ipv4Addr) : PeerKey :=
  ⟨peerAddress, peerType.getType, rd, asn, bgpId⟩

variable {DateTime : Type}

namespace PeerHeader

def bgpMessageDirection (header : PeerHeader DateTime) : MessageDirection :=
  if header.peerType.isAdjRibOut then .outbound else .inbound

def isAsn4 (header : PeerHeader DateTime) : Bool := header.peerType.isAsn4

/-- `PeerKey::from_peer_header`. -/
def peerKey (header : PeerHeader DateTime) : PeerKey :=
  .new header.address header.peerType header.rd header.peerAs header.bgpId

end PeerHeader

/-! ## Route mirroring -/

namespace V3

inductive MirroredBgpMessage where
  | parsed (msg : BgpMessage)
  | raw (msg : Octets)

inductive RouteMirroringValue where
  | bgpMessage (msg : MirroredBgpMessage)
  | information (info : RouteMirroringInformation)
  | experimental65531 (value : Octets)
  | experimental65532 (value : Octets)
  | experimental65533 (value : Octets)
  | experimental65534 (value : Octets)

structure RouteMirroringMessage (DateTime : Type) where
  peerHeader : PeerHeader DateTime
  mirrored : List RouteMirroringValue

end V3

end NetCalyx.Bmp
