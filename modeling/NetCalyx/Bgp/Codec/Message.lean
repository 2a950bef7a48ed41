import NetCalyx.Bgp.Codec.Open
import NetCalyx.Bgp.Codec.Update

/-!
# Encoding of BGP messages

A marker, a length of two octets, a type, and the body of an open, an update, a
notification or a route refresh. The parser cuts the message out of its input by
the length before it reads the body, and refuses a body that leaves octets.
-/

namespace NetCalyx.Bgp
open Wire NetCalyx.Iana StateParser

/-! ## Notifications -/

namespace NotificationError

variable {κ : Type}

def len (err : NotificationError κ) : Nat := 1 + err.value.length

def write (code : κ → BitVec 8) (err : NotificationError κ) : Octets :=
  code err.subCode :: err.value

/-- A sub-code and whatever follows. -/
def fromWire (tryFrom : BitVec 8 → Option κ) : Parser SubCodeParsingError (NotificationError κ) := do
  let subCode ← mapRes beU8 fun subCode =>
    (tryFrom subCode).elim (.error (.undefinedSubCode subCode)) .ok
  let buf ← .input
  let value ← take buf.length
  return ⟨subCode, value⟩

end NotificationError

def HoldTimerExpiredError.fromWire : Parser NomParsingError HoldTimerExpiredError := do
  let subCode ← beU8
  let buf ← .input
  let value ← take buf.length
  return ⟨subCode, value⟩

namespace BgpNotificationMessage

def len (msg : BgpNotificationMessage) : Nat :=
  1 + match msg with
    | messageHeaderError err => err.len
    | openMessageError err => err.len
    | updateMessageError err => err.len
    | holdTimerExpiredError err => err.len
    | finiteStateMachineError err => err.len
    | ceaseError err => err.len
    | routeRefreshError err => err.len

def write : BgpNotificationMessage → Octets
  | messageHeaderError err =>
    BgpErrorNotificationCode.messageHeaderError.code :: err.write MessageHeaderErrorSubCode.code
  | openMessageError err =>
    BgpErrorNotificationCode.openMessageError.code :: err.write OpenMessageErrorSubCode.code
  | updateMessageError err =>
    BgpErrorNotificationCode.updateMessageError.code :: err.write UpdateMessageErrorSubCode.code
  | holdTimerExpiredError err => BgpErrorNotificationCode.holdTimerExpired.code :: err.write id
  | finiteStateMachineError err =>
    BgpErrorNotificationCode.finiteStateMachineError.code ::
      err.write FiniteStateMachineErrorSubCode.code
  | ceaseError err => BgpErrorNotificationCode.cease.code :: err.write CeaseErrorSubCode.code
  | routeRefreshError err =>
    BgpErrorNotificationCode.routeRefreshMessageError.code ::
      err.write RouteRefreshMessageErrorSubCode.code

def fromWire : Parser BgpNotificationMessageParsingError BgpNotificationMessage := do
  let notificationType ← mapRes beU8 fun code => (BgpErrorNotificationCode.tryFrom code).elim
    (.error (.undefinedBgpErrorNotificationCode code)) .ok
  match notificationType with
  | .messageHeaderError =>
    let value ← (NotificationError.fromWire MessageHeaderErrorSubCode.tryFrom).mapErr
      .messageHeaderError
    return messageHeaderError value
  | .openMessageError =>
    let value ← (NotificationError.fromWire OpenMessageErrorSubCode.tryFrom).mapErr
      .openMessageError
    return openMessageError value
  | .updateMessageError =>
    let value ← (NotificationError.fromWire UpdateMessageErrorSubCode.tryFrom).mapErr
      .updateMessageError
    return updateMessageError value
  | .holdTimerExpired =>
    let value ← HoldTimerExpiredError.fromWire.mapErr .holdTimerExpiredError
    return holdTimerExpiredError value
  | .finiteStateMachineError =>
    let value ← (NotificationError.fromWire FiniteStateMachineErrorSubCode.tryFrom).mapErr
      .finiteStateMachineError
    return finiteStateMachineError value
  | .cease =>
    let value ← (NotificationError.fromWire CeaseErrorSubCode.tryFrom).mapErr .ceaseError
    return ceaseError value
  | .routeRefreshMessageError =>
    let value ← (NotificationError.fromWire RouteRefreshMessageErrorSubCode.tryFrom).mapErr
      .routeRefreshError
    return routeRefreshError value

end BgpNotificationMessage

/-! ## Route refreshes -/

namespace BgpRouteRefreshMessage

def len (_msg : BgpRouteRefreshMessage) : Nat := 4

def write (msg : BgpRouteRefreshMessage) : Octets :=
  octets msg.addressType.addressFamily.code ++
    [msg.operationType.code, msg.addressType.subsequentAddressFamily.code]

def fromWire : Parser BgpRouteRefreshMessageParsingError BgpRouteRefreshMessage := do
  let afi ← mapRes beU16 fun afi =>
    (AddressFamily.tryFrom afi).elim (.error (.undefinedAddressFamily afi)) .ok
  let op ← mapRes beU8 fun op =>
    (RouteRefreshSubcode.tryFrom op).elim (.error (.undefinedOperation op)) .ok
  let safi ← mapRes beU8 fun safi => (SubsequentAddressFamily.tryFrom safi).elim
    (.error (.undefinedSubsequentAddressFamily safi)) .ok
  match AddressType.fromAfiSafi afi safi with
  | some addressType => return ⟨addressType, op⟩
  | none => .fail (.invalidAddressType afi safi)

end BgpRouteRefreshMessage

/-! ## Messages -/

inductive BgpMessageWritingError where
  | bgpMessageLengthOverflow (len : Nat)
  | updateError (err : BgpUpdateMessageWritingError)

def bgpMinMessageLength : Nat := 19
def bgpMaxMessageLength : Nat := 4096

namespace BgpMessage

def bodyLen : BgpMessage → Nat
  | openMessage msg => msg.len
  | update msg => msg.len
  | notification msg => msg.len
  | keepAlive => 0
  | routeRefresh msg => msg.len

variable (msg : BgpMessage)

def len : Nat := bgpMinMessageLength + msg.bodyLen

/-- Only opens and keep-alives have a limit. -/
def isLimited : BgpMessage → Bool
  | openMessage _ | keepAlive => true
  | update _ | notification _ | routeRefresh _ => false

def writeBody : BgpMessage → Except BgpMessageWritingError Octets
  | openMessage msg => .ok msg.write
  | update msg => msg.write.mapError .updateError
  | notification msg => .ok msg.write
  | keepAlive => .ok []
  | routeRefresh msg => .ok msg.write

/-- Marker, length and type. The length is narrowed without a check. -/
def writeHeader : Octets :=
  List.replicate 16 0xff ++ octets (BitVec.ofNat 16 msg.len) ++ [msg.getType.code]

def write : Except BgpMessageWritingError Octets :=
  if msg.isLimited ∧ msg.len > bgpMaxMessageLength then .error (.bgpMessageLengthOverflow msg.len)
  else do
    let body ← msg.writeBody
    return msg.writeHeader ++ body

end BgpMessage

/-- The marker is all ones. -/
def parseMarker : Parser BgpMessageParsingError (BitVec 128) :=
  mapRes beU128 fun x =>
    if x = BitVec.allOnes 128 then .ok x else .error (.connectionNotSynchronized x)

/-- The octets of a message behind its length: type and body. -/
def parseBgpMessageLength : Parser BgpMessageParsingError (BitVec 16 × Octets) := do
  let length ← beU16
  if length.toNat < bgpMinMessageLength then .fail (.badMessageLength length)
  else
    let content ← takeOr (length.toNat - 18) fun _ => .error (.badMessageLength length)
    return (length, content)

def BgpMessageType.isLimited : BgpMessageType → Bool
  | .openMessage | .keepAlive => true
  | .update | .notification | .routeRefresh => false

/-- The type, for which the length must be allowed. -/
def parseBgpMessageType (length : BitVec 16) : Parser BgpMessageParsingError BgpMessageType := do
  let messageType ← mapRes beU8 fun type =>
    (BgpMessageType.tryFrom type).elim (.error (.undefinedBgpMessageType type)) .ok
  if messageType.isLimited ∧ length.toNat > bgpMaxMessageLength then
    .fail (.badMessageLength length)
  else return messageType

namespace BgpMessage

variable (ctx : BgpParsingContext)
variable (direction : MessageDirection)

def parseBody :
    BgpMessageType → StateParser BgpParsingIgnoredErrors BgpMessageParsingError BgpMessage
  | .openMessage => do
    let msg ← (BgpOpenMessage.read ctx).mapErr .bgpOpenMessageParsingError
    return openMessage msg
  | .update => do
    let msg ← (BgpUpdateMessage.fromWire ctx direction).mapErr .bgpUpdateMessageParsingError
    return update msg
  | .notification => do
    let msg ← .liftP (BgpNotificationMessage.fromWire.mapErr .bgpNotificationMessageParsingError)
    return notification msg
  | .keepAlive => return keepAlive
  | .routeRefresh => do
    let msg ← .liftP (BgpRouteRefreshMessage.fromWire.mapErr .bgpRouteRefreshMessageParsingError)
    return routeRefresh msg

/-- Type and body of a message, with nothing left over. -/
def parseContent (length : BitVec 16) :
    StateParser BgpParsingIgnoredErrors BgpMessageParsingError BgpMessage := do
  let messageType ← .liftP (parseBgpMessageType length)
  let msg ← parseBody ctx direction messageType
  let buf ← .liftP .input
  if buf.isEmpty then return msg else .liftP (.fail (.nomError .nonEmpty))

def fromWire : StateParser BgpParsingIgnoredErrors BgpMessageParsingError BgpMessage := do
  let _ ← .liftP parseMarker
  let (length, content) ← .liftP parseBgpMessageLength
  .within content (parseContent ctx direction length)

theorem parseMarker_eq_ok {buf rest : Octets} {x : BitVec 128} :
    parseMarker buf = .ok (rest, x) ↔
      x = BitVec.allOnes 128 ∧ buf = octets (BitVec.allOnes 128) ++ rest := by
  unfold parseMarker
  rw [mapRes_eq_ok]
  constructor
  · rintro ⟨y, hread, hy⟩
    split at hy
    · rename_i hones
      obtain rfl := Except.ok.inj hy
      exact ⟨hones, hones ▸ (beUint_eq_ok rfl).mp hread⟩
    · cases hy
  · rintro ⟨rfl, rfl⟩
    exact ⟨_, decodes_beU128 _ rest, if_pos rfl⟩

theorem parseBgpMessageLength_eq_ok {buf rest content : Octets} {length : BitVec 16} :
    parseBgpMessageLength buf = .ok (rest, (length, content)) ↔
      buf = octets length ++ (content ++ rest) ∧ content.length = length.toNat - 18 ∧
        bgpMinMessageLength ≤ length.toNat := by
  constructor
  · intro h
    obtain ⟨mid, n, hn, hrest⟩ := Parser.bind_eq_ok h
    obtain rfl := (beUint_eq_ok rfl).mp hn
    split at hrest
    · cases hrest
    · rename_i hmin
      obtain ⟨mid', bs, hbs, hpair⟩ := Parser.bind_eq_ok hrest
      cases hpair
      obtain ⟨hlen, rfl⟩ := takeOr_eq_ok.mp hbs
      exact ⟨rfl, hlen, Nat.le_of_not_lt hmin⟩
  · rintro ⟨rfl, hlen, hmin⟩
    refine ((decodes_beU16 length).run_bind _ _).trans ?_
    rw [if_neg (Nat.not_lt.mpr hmin)]
    exact Parser.run_map (takeOr_eq_ok.mpr ⟨hlen, rfl⟩) _

/-- What is read is a marker, a length and the content that the length announces. -/
theorem fromWire_eq_ok {ctx : BgpParsingContext} {direction : MessageDirection}
    {errors errors' : BgpParsingIgnoredErrors} {buf rest : Octets} {msg : BgpMessage} :
    fromWire ctx direction errors buf = (errors', .ok (rest, msg)) ↔
      ∃ (length : BitVec 16) (content left : Octets),
        buf = octets (BitVec.allOnes 128) ++ (octets length ++ (content ++ rest)) ∧
        content.length = length.toNat - 18 ∧ bgpMinMessageLength ≤ length.toNat ∧
        parseContent ctx direction length errors content = (errors', .ok (left, msg)) := by
  constructor
  · intro h
    obtain ⟨s, mid, marker, hfirst, hmid⟩ := bind_eq_ok h
    obtain ⟨t, rest', ⟨length, content⟩, hsecond, hlast⟩ := bind_eq_ok hmid
    obtain ⟨rfl, hmarker⟩ := liftP_eq_ok.mp hfirst
    obtain ⟨rfl, hlength⟩ := liftP_eq_ok.mp hsecond
    obtain ⟨-, rfl⟩ := parseMarker_eq_ok.mp hmarker
    obtain ⟨rfl, hlen, hmin⟩ := parseBgpMessageLength_eq_ok.mp hlength
    obtain ⟨rfl, left, hcontent⟩ := within_eq_ok.mp hlast
    exact ⟨length, content, left, rfl, hlen, hmin, hcontent⟩
  · rintro ⟨length, content, left, rfl, hlen, hmin, hcontent⟩
    have hafter : liftP parseBgpMessageLength errors
        (octets length ++ (content ++ rest)) = (errors, .ok (rest, (length, content))) :=
      liftP_eq_ok.mpr
        ⟨rfl, parseBgpMessageLength_eq_ok.mpr ⟨rfl, hlen, hmin⟩⟩
    refine (run_bind
      (liftP_eq_ok.mpr ⟨rfl, parseMarker_eq_ok.mpr ⟨rfl, rfl⟩⟩) _).trans ?_
    refine (run_bind hafter _).trans ?_
    exact within_eq_ok.mpr ⟨rfl, left, hcontent⟩

end BgpMessage

end NetCalyx.Bgp
