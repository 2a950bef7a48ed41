import NetCalyx.Bgp.Codec.Message
import NetCalyx.Bmp.Message

/-!
# Parsers of BMP messages

The header of a peer has a fixed size; a route distinguisher, an address or a time that
is absent is written as zeros. BGP messages inside BMP messages are parsed under a
context that is kept for each peer: `onPeer` finds it, sets the width of AS numbers from
the flags of the header, and keeps what becomes of it, whether the parse succeeds or not.

A route mirroring message is the header of a peer and a list of elements, each with a type, a
length of two octets and a value.
-/

namespace NetCalyx.Bmp
open Wire NetCalyx.Iana Bgp NetCalyx.Flow

/-! ## Peer types -/

inductive BmpPeerTypeParsingError where
  | nomError (kind : ErrorKind)
  | undefinedBmpPeerTypeCode (code : BitVec 8)

instance : NomError BmpPeerTypeParsingError := ⟨.nomError⟩

/-- Whether a flag is set. -/
def hasFlag (flags flag : BitVec 8) : Bool := flags &&& flag == flag

namespace BmpPeerType

/-- The kind of peer with the flags that are read for it. -/
def ofFlags (code : BmpPeerTypeCode) (flags : BitVec 8) : BmpPeerType :=
  let ipv6 := hasFlag flags peerFlagsIsIpv6
  let postPolicy := hasFlag flags peerFlagsIsPostPolicy
  let asn2 := hasFlag flags peerFlagsIsAsn2
  let adjRibOut := hasFlag flags peerFlagsIsAdjRibOut
  let filtered := hasFlag flags peerFlagsIsFiltered
  match code with
  | .globalInstancePeer => globalInstancePeer ipv6 postPolicy asn2 adjRibOut
  | .rdInstancePeer => rdInstancePeer ipv6 postPolicy asn2 adjRibOut
  | .localInstancePeer => localInstancePeer ipv6 postPolicy asn2 adjRibOut
  | .locRibInstancePeer => locRibInstancePeer filtered
  | .experimental251 => experimental251 flags
  | .experimental252 => experimental252 flags
  | .experimental253 => experimental253 flags
  | .experimental254 => experimental254 flags

def fromWire : Parser BmpPeerTypeParsingError BmpPeerType := do
  let code ← mapRes beU8 fun code =>
    (BmpPeerTypeCode.tryFrom code).elim (.error (.undefinedBmpPeerTypeCode code)) .ok
  let flags ← beU8
  return ofFlags code flags

end BmpPeerType

/-! ## Peer headers -/

inductive PeerHeaderParsingError where
  | nomError (kind : ErrorKind)
  | bmpPeerTypeError (err : BmpPeerTypeParsingError)
  | routeDistinguisherError (err : RouteDistinguisherParsingError)
  | invalidTime (secs micros : BitVec 32)

instance : NomError PeerHeaderParsingError := ⟨.nomError⟩

/-- An address in 16 octets; the upper octets of an IPv4 address are zero, and not looked at. -/
def ipAddrOf (ipv6 : Bool) (address : BitVec 128) : Option IpAddr :=
  if address = 0 then none
  else if ipv6 then some (.v6 address)
  else some (.v4 (address.setWidth 32))

namespace PeerHeader

variable {DateTime : Type} [Chrono DateTime]

/-- A time of zero is no time. The nanoseconds are multiplied out with a cap. -/
def timestampOf (secs micros : BitVec 32) : Except PeerHeaderParsingError (Option DateTime) :=
  if secs ≠ 0 ∨ micros ≠ 0 then
    match (timestampOpt secs.toNat (min (micros.toNat * 1000) (2 ^ 32 - 1)) : Option DateTime) with
    | some time => .ok (some time)
    | none => .error (.invalidTime secs micros)
  else .ok none

def fromWire : Parser PeerHeaderParsingError (PeerHeader DateTime) := do
  let peerType ← BmpPeerType.fromWire.mapErr .bmpPeerTypeError
  let rd ← RouteDistinguisher.fromWire.mapErr .routeDistinguisherError
  let rd := if rd = .as2Administrator 0 0 then none else some rd
  let address ← beU128
  let address := ipAddrOf peerType.checkIsIpv6 address
  let peerAs ← beU32
  let bgpId ← beU32
  let secs ← beU32
  let micros ← beU32
  let time ← Parser.lift (timestampOf secs micros)
  return ⟨peerType, rd, address, peerAs, bgpId, time⟩

end PeerHeader

/-! ## The context of a peer -/

/-- What BGP messages of a peer are parsed under, with the errors passed over so far. -/
structure PeerContext where
  ctx : BgpParsingContext
  parsingErrors : BgpParsingIgnoredErrors

namespace PeerContext

def default : PeerContext := ⟨.default, .default⟩

def setAsn4 (peer : PeerContext) (value : Bool) : PeerContext :=
  { peer with ctx := peer.ctx.setAsn4 value }

/-- A BGP message under the context of a peer. -/
def parseBgpMessage (direction : MessageDirection) :
    StateParser PeerContext BgpMessageParsingError BgpMessage := fun peer buf =>
  let (errors, result) := BgpMessage.fromWire peer.ctx direction peer.parsingErrors buf
  ({ peer with parsingErrors := errors }, result)

end PeerContext

/-- The peers of a BMP session. -/
def BmpParsingContext := PeerKey → Option PeerContext

namespace BmpParsingContext

def default : BmpParsingContext := fun _ => none

variable (ctx : BmpParsingContext)

/-- The context of a peer, or a fresh one. -/
def entry (key : PeerKey) : PeerContext := (ctx key).getD .default

def insert (key : PeerKey) (peer : PeerContext) : BmpParsingContext :=
  Function.update ctx key (some peer)

/-- What BGP messages behind a header are parsed under. -/
def contextFor {DateTime : Type} (header : PeerHeader DateTime) : PeerContext :=
  (ctx.entry header.peerKey).setAsn4 header.isAsn4

end BmpParsingContext

/-- Run a parser under the context of the peer in the header. -/
def onPeer {DateTime ε α : Type} (header : PeerHeader DateTime) (p : StateParser PeerContext ε α) :
    StateParser BmpParsingContext ε α :=
  .zoom (fun ctx => ctx.contextFor header) (fun ctx peer => ctx.insert header.peerKey peer) p

/-! ## Route mirroring -/

namespace V3

variable {DateTime : Type} [Chrono DateTime]

inductive RouteMirroringValueParsingError where
  | nomError (kind : ErrorKind)
  | undefinedRouteMirroringTlvType (type : BitVec 16)
  | undefinedRouteMirroringInformation (info : BitVec 16)
  | bgpMessageError (err : BgpMessageParsingError)

instance : NomError RouteMirroringValueParsingError := ⟨.nomError⟩

namespace RouteMirroringValue

variable (direction : MessageDirection)

/-- The value of an element, from octets cut out by its length. A BGP message is always
decoded. -/
def ofType (length : BitVec 16) : RouteMirroringTlvType →
    StateParser PeerContext RouteMirroringValueParsingError RouteMirroringValue
  | .bgpMessage => do
    let msg ← (PeerContext.parseBgpMessage direction).mapErr .bgpMessageError
    return bgpMessage (.parsed msg)
  | .information => do
    let info ← .liftP (mapRes beU16 fun info => (RouteMirroringInformation.tryFrom info).elim
      (.error (.undefinedRouteMirroringInformation info)) .ok)
    return information info
  | .experimental65531 => do return experimental65531 (← .liftP (take length.toNat))
  | .experimental65532 => do return experimental65532 (← .liftP (take length.toNat))
  | .experimental65533 => do return experimental65533 (← .liftP (take length.toNat))
  | .experimental65534 => do return experimental65534 (← .liftP (take length.toNat))

/-- The value of an element, which has to use up its octets. -/
def parseValue (length : BitVec 16) (type : RouteMirroringTlvType) :
    StateParser PeerContext RouteMirroringValueParsingError RouteMirroringValue := do
  let value ← ofType direction length type
  let buf ← .liftP .input
  if buf.isEmpty then return value else .liftP (.fail (.nomError .nonEmpty))

def fromWire : StateParser PeerContext RouteMirroringValueParsingError RouteMirroringValue := do
  let code ← .liftP (mapRes beU16 fun type => (RouteMirroringTlvType.tryFrom type).elim
    (.error (.undefinedRouteMirroringTlvType type)) .ok)
  let length ← .liftP (Parser.peek beU16)
  let data ← .liftP (lengthData beU16)
  .within data (parseValue direction length code)

end RouteMirroringValue

inductive RouteMirroringMessageParsingError where
  | peerHeaderError (err : PeerHeaderParsingError)
  | routeMirroringValueError (err : RouteMirroringValueParsingError)

namespace RouteMirroringMessage

def fromWire : StateParser BmpParsingContext RouteMirroringMessageParsingError
    (RouteMirroringMessage DateTime) := do
  let peerHeader ← .liftP (PeerHeader.fromWire.mapErr .peerHeaderError)
  let mirrored ← onPeer peerHeader
    ((StateParser.repeatWhile (fun buf => !buf.isEmpty)
      (RouteMirroringValue.fromWire peerHeader.bgpMessageDirection)).mapErr
        .routeMirroringValueError)
  return ⟨peerHeader, mirrored⟩

end RouteMirroringMessage

end V3

end NetCalyx.Bmp
