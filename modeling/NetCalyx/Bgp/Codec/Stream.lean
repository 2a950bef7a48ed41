import NetCalyx.Bgp.Codec.Message
import NetCalyx.Wire.Stream

/-!
# The codec of a BGP connection

The decoder looks for a message at the front of its buffer: 19 octets at least, and
as many as the length in the header says. The width of AS numbers it parses with is
what the opens of both sides have agreed on: the last one that was decoded and the
last one that was encoded.

An OPEN message changes how the next message is read, so that the codec is a state
machine. `decode_eq_ok` says what a successful call does; from it, the stream can be
cut anywhere (`incremental_decode`), and along any run of calls the width follows the
opens (`asn4_of_history`).
-/

namespace NetCalyx.Bgp
open Wire List

structure BgpCodec where
  asn4Sent : Option Bool
  asn4Received : Option Bool
  ctx : BgpParsingContext
  parsingErrors : BgpParsingIgnoredErrors

/-- A message with the errors passed over in it, or why there is none. -/
abbrev Decoded := Except BgpCodecDecoderError (BgpMessage × BgpParsingIgnoredErrors)

/-- Whether an OPEN message announces four-octet AS numbers; `none` for other messages. -/
def BgpMessage.announcesAsn4 : BgpMessage → Option Bool
  | openMessage msg => some (msg.capabilities.any fun
    | .fourOctetAs _ => true
    | _ => false)
  | _ => none

def decoderError : Err BgpMessageParsingError → BgpCodecDecoderError
  | .incomplete needed => .incomplete (some needed)
  | .error err => .bgpMessageParsingError err

/-- The length in the header of the message at the front of a buffer. -/
def messageLength (buf : Octets) : Nat := (ofOctets 16 ((buf.drop 16).take 2)).toNat

namespace BgpCodec

/-- Both sides are taken to use AS numbers of that width until an OPEN says otherwise. -/
def newFromCtx (asn4 : Bool) (ctx : BgpParsingContext) : BgpCodec :=
  ⟨some asn4, some asn4, ctx, .default⟩

/-- A codec that passes over every error it can. -/
def new (asn4 : Bool) : BgpCodec :=
  newFromCtx asn4 ⟨true, fun _ => none, ⟨∅, ∅⟩, false, false, false, false⟩

variable (codec : BgpCodec)

/-- Four-octet AS numbers are used when both sides have announced them. -/
def asn4 : Bool := codec.asn4Received.getD false && codec.asn4Sent.getD false

/-- The context of the next message. -/
def nextCtx : BgpParsingContext := { codec.ctx with asn4 := codec.asn4 }

/-- The codec behind a decoded message, whose errors have been handed out. -/
def received (msg : BgpMessage) : BgpCodec :=
  { codec with
    asn4Received := msg.announcesAsn4.or codec.asn4Received
    ctx := codec.nextCtx
    parsingErrors := .default }

/-- One message off the front of the buffer. After an error the buffer stays as it is,
and so do the errors noted until then. -/
def decode : Decoder BgpCodec Octet Decoded := fun codec buf =>
  if buf.length ≥ 19 then
    if buf.length < messageLength buf then (codec, buf, none)
    else
      match BgpMessage.fromWire codec.nextCtx .inbound codec.parsingErrors buf with
      | (errors, .ok (_, msg)) =>
        (codec.received msg, buf.drop (messageLength buf), some (.ok (msg, errors)))
      | (errors, .error err) =>
        ({ codec with ctx := codec.nextCtx, parsingErrors := errors }, buf,
          some (.error (decoderError err)))
  else (codec, buf, none)

/-- An OPEN counts as sent before it is written. -/
def encode (msg : BgpMessage) : BgpCodec × Except BgpMessageWritingError Octets :=
  ({ codec with asn4Sent := msg.announcesAsn4.or codec.asn4Sent }, msg.write)

/-! ## What a call takes off the buffer -/

theorem messageLength_frame (length : BitVec 16) (marker : BitVec 128) (tail : Octets) :
    messageLength (octets marker ++ (octets length ++ tail)) = length.toNat := by
  have hmarker : (octets marker).length = 16 := octets_length marker
  have hlength : (octets length).length = 2 := octets_length length
  rw [messageLength, drop_left' hmarker, take_left' hlength, ofOctets_octets rfl]

/-- The header does not change when more arrives behind it. -/
theorem messageLength_append {buf : Octets} (h : 18 ≤ buf.length) (more : Octets) :
    messageLength (buf ++ more) = messageLength buf := by
  have hdrop : 2 ≤ (buf.drop 16).length := by
    rw [length_drop]
    omega
  rw [messageLength, messageLength, drop_append_of_le_length (by omega),
    take_append_of_le_length hdrop]

variable {buf rest : Octets} {msg : BgpMessage} {errors errors' : BgpParsingIgnoredErrors}

/-- A message that is read has the length its header gives. -/
theorem fromWire_frame {ctx : BgpParsingContext} {direction : MessageDirection}
    (h : BgpMessage.fromWire ctx direction errors buf = (errors', .ok (rest, msg))) :
    19 ≤ messageLength buf ∧ buf.length = messageLength buf + rest.length ∧
      rest = buf.drop (messageLength buf) := by
  obtain ⟨length, content, left, rfl, hlen, hmin, -⟩ := BgpMessage.fromWire_eq_ok.mp h
  have hmarker : (octets (BitVec.allOnes 128)).length = 16 := octets_length _
  have hfield : (octets length).length = 2 := octets_length length
  have hframe : (octets (BitVec.allOnes 128) ++ (octets length ++ content)).length =
      length.toNat := by
    unfold bgpMinMessageLength at hmin
    simp only [length_append, hmarker, hfield, hlen]
    omega
  have hsplit : octets (BitVec.allOnes 128) ++ (octets length ++ (content ++ rest)) =
      (octets (BitVec.allOnes 128) ++ (octets length ++ content)) ++ rest := by
    simp only [append_assoc]
  rw [messageLength_frame]
  refine ⟨hmin, ?_, ?_⟩
  · rw [hsplit, length_append, hframe]
  · rw [hsplit, drop_left' hframe]

/-- What is read off the front is read off a longer buffer as well. -/
theorem fromWire_append {ctx : BgpParsingContext} {direction : MessageDirection}
    (h : BgpMessage.fromWire ctx direction errors buf = (errors', .ok (rest, msg))) (more : Octets) :
    BgpMessage.fromWire ctx direction errors (buf ++ more) = (errors', .ok (rest ++ more, msg)) := by
  obtain ⟨length, content, left, rfl, hcontent⟩ := BgpMessage.fromWire_eq_ok.mp h
  exact BgpMessage.fromWire_eq_ok.mpr ⟨length, content, left, by simp, hcontent⟩

/-- A message is decoded exactly when one can be read off the front, and what is left
is what the parser leaves. -/
theorem decode_eq_ok {codec codec' : BgpCodec} :
    decode codec buf = (codec', rest, some (.ok (msg, errors))) ↔
      codec' = codec.received msg ∧
        BgpMessage.fromWire codec.nextCtx .inbound codec.parsingErrors buf =
          (errors, .ok (rest, msg)) := by
  constructor
  · intro h
    unfold decode at h
    split at h
    · split at h
      · cases h
      · split at h
        · rename_i errors' rest' msg' hread
          cases h
          obtain ⟨-, -, hrest⟩ := fromWire_frame hread
          exact ⟨rfl, hrest ▸ hread⟩
        · cases h
    · cases h
  · rintro ⟨rfl, h⟩
    obtain ⟨hmin, hlen, hrest⟩ := fromWire_frame h
    rw [decode, if_pos (show buf.length ≥ 19 by omega),
      if_neg (show ¬ buf.length < messageLength buf by omega), h]
    simp only [hrest]

/-- The octets of a message that is not complete yet are left for later. -/
theorem decode_incomplete {codec : BgpCodec} {buf more : Octets}
    (h : buf.length < messageLength (buf ++ more)) : decode codec buf = (codec, buf, none) := by
  unfold decode
  split
  · rename_i hlen
    rw [messageLength_append (show 18 ≤ buf.length by omega)] at h
    rw [if_pos h]
  · rfl

/-- A call that gives no message does not change what the opens have agreed on. -/
theorem decode_unread {codec codec' : BgpCodec} {result : Option Decoded}
    (h : decode codec buf = (codec', rest, result)) (hresult : ∀ item, result ≠ some (.ok item)) :
    codec'.asn4Received = codec.asn4Received ∧ codec'.asn4Sent = codec.asn4Sent := by
  unfold decode at h
  split at h
  · split at h
    · cases h
      exact ⟨rfl, rfl⟩
    · split at h
      · cases h
        exact absurd rfl (hresult _)
      · cases h
        exact ⟨rfl, rfl⟩
  · cases h
    exact ⟨rfl, rfl⟩

/-! ## Streams of accepted messages -/

/-- Messages that are accepted one after the other, each alone in the buffer, with what
they give and the codec they leave. -/
inductive Accepts : BgpCodec → List Octets → List (BgpMessage × BgpParsingIgnoredErrors) →
    BgpCodec → Prop
  | nil (codec : BgpCodec) : Accepts codec [] [] codec
  | cons {codec codec' codec'' : BgpCodec} {message : Octets} {messages : List Octets}
      {item : BgpMessage × BgpParsingIgnoredErrors}
      {items : List (BgpMessage × BgpParsingIgnoredErrors)}
      (first : decode codec message = (codec', [], some (.ok item)))
      (others : Accepts codec' messages items codec'') :
      Accepts codec (message :: messages) (item :: items) codec''

/-- What is buffered and what is to come are messages that are accepted. -/
def InStream (codec : BgpCodec) (buf future : Octets) : Prop :=
  ∃ messages items codec', Accepts codec messages items codec' ∧ buf ++ future = messages.flatten

/-- The first of the accepted messages is not complete yet, or it is taken off. -/
theorem incremental_decode : Incremental decode InStream where
  call := by
    rintro codec buf future ⟨messages, items, last, haccepts, hstream⟩
    cases haccepts with
    | nil =>
      obtain ⟨rfl, rfl⟩ := append_eq_nil_iff.mp hstream
      exact .inl ⟨codec, [], ⟨le_rfl, rfl, fun more _ => rfl⟩, [], [], codec, .nil codec, rfl⟩
    | @cons _ _ _ message messages item items first others =>
      obtain ⟨msg, errors⟩ := item
      obtain ⟨rfl, hread⟩ := decode_eq_ok.mp first
      obtain ⟨hmin, hlen, -⟩ := fromWire_frame hread
      rw [length_nil, Nat.add_zero] at hlen
      rw [flatten_cons] at hstream
      have hbuf : buf <+: message ++ messages.flatten := ⟨future, hstream⟩
      have hmessage : message <+: message ++ messages.flatten := prefix_append _ _
      by_cases hshort : buf.length < message.length
      · have hwait : decode codec buf = (codec, buf, none) := by
          obtain ⟨missing, rfl⟩ := prefix_of_prefix_length_le hbuf hmessage hshort.le
          exact decode_incomplete (hlen ▸ hshort)
        exact .inl ⟨codec, buf, ⟨le_rfl, hwait, fun more _ => rfl⟩, _, _, last, .cons first others,
          hstream⟩
      · obtain ⟨rest, rfl⟩ := prefix_of_prefix_length_le hmessage hbuf (not_lt.mp hshort)
        rw [append_assoc, append_cancel_left_eq] at hstream
        refine .inr ⟨_, rest, .ok (msg, errors), ⟨?_, ?_⟩, messages, items, last, others, hstream⟩
        · rw [length_append]
          omega
        · intro more _
          rw [append_assoc]
          exact decode_eq_ok.mpr ⟨rfl, fromWire_append hread (rest ++ more)⟩
  arrives := by
    rintro codec buf more future ⟨messages, items, codec', haccepts, hstream⟩
    exact ⟨messages, items, codec', haccepts, by rw [← hstream, append_assoc]⟩

/-- Fed at once, accepted messages are decoded one after the other. -/
theorem drain_messages {codec codec' : BgpCodec} {messages : List Octets}
    {items : List (BgpMessage × BgpParsingIgnoredErrors)}
    (h : Accepts codec messages items codec') :
    drain decode codec messages.flatten = ⟨codec', [], items.map .ok⟩ := by
  induction h with
  | nil codec => rfl
  | @cons codec _ _ message messages item items first others ih =>
    obtain ⟨msg, errors⟩ := item
    obtain ⟨rfl, hread⟩ := decode_eq_ok.mp first
    obtain ⟨hmin, hlen, -⟩ := fromWire_frame hread
    have hret : Returns decode codec (message ++ messages.flatten) [] (codec.received msg)
        messages.flatten (.ok (msg, errors)) := by
      refine ⟨?_, fun more _ => ?_⟩
      · rw [length_append, hlen]
        omega
      · rw [append_assoc]
        exact decode_eq_ok.mpr ⟨rfl, fromWire_append hread (messages.flatten ++ more)⟩
    have hinv : InStream (codec.received msg) messages.flatten [] :=
      ⟨messages, items, _, others, append_nil _⟩
    rw [flatten_cons, incremental_decode.drain_some hret hinv, ih]
    rfl

/-! ## The width of AS numbers along a run -/

/-- A call of the codec: a message to send, or a buffer to look at. -/
inductive Call where
  | encode (msg : BgpMessage)
  | decode (buf : Octets)

/-- A message that went out, or one that came in and the width it was parsed with. -/
inductive Exchange where
  | encoded (msg : BgpMessage)
  | decoded (asn4 : Bool) (msg : BgpMessage)

/-- One call, and the message it dealt with. -/
def call (codec : BgpCodec) : Call → BgpCodec × Option Exchange
  | .encode msg => ((codec.encode msg).1, some (.encoded msg))
  | .decode buf =>
    match codec.decode buf with
    | (codec', _, some (.ok (msg, _))) => (codec', some (.decoded codec'.ctx.asn4 msg))
    | (codec', _, some (.error _)) | (codec', _, none) => (codec', none)

/-- The messages of a run of calls. -/
def history : BgpCodec → List Call → List Exchange
  | _, [] => []
  | codec, c :: calls => (codec.call c).2.toList ++ history (codec.call c).1 calls

/-- What an exchange says about the width the other side uses. -/
def Exchange.heard : Exchange → Option Bool
  | decoded _ msg => msg.announcesAsn4
  | encoded _ => none

/-- What an exchange says about the width this side uses. -/
def Exchange.told : Exchange → Option Bool
  | encoded msg => msg.announcesAsn4
  | decoded _ _ => none

/-- What the last of the opens said. -/
def lastSaid (view : Exchange → Option Bool) (exchanges : List Exchange) : Option Bool :=
  (exchanges.filterMap view).getLast?

theorem lastSaid_cons (view : Exchange → Option Bool) (exchange : Exchange)
    (exchanges : List Exchange) (initial : Option Bool) :
    (lastSaid view (exchange :: exchanges)).or initial =
      (lastSaid view exchanges).or ((view exchange).or initial) := by
  unfold lastSaid
  rw [filterMap_cons]
  cases h : view exchange with
  | none => rfl
  | some asn4 => cases hlast : exchanges.filterMap view <;> simp [getLast?_cons]

/-- What a call can do to the widths: it remembers what the message of the call says,
and it parses with the widths from before the call. -/
theorem call_spec (codec : BgpCodec) (c : Call) :
    (codec.call c).1.asn4Received =
        ((codec.call c).2.bind Exchange.heard).or codec.asn4Received ∧
      (codec.call c).1.asn4Sent = ((codec.call c).2.bind Exchange.told).or codec.asn4Sent ∧
      ∀ asn4 msg, (codec.call c).2 = some (.decoded asn4 msg) → asn4 = codec.asn4 := by
  cases c with
  | encode msg => exact ⟨rfl, rfl, fun _ _ h => nomatch h⟩
  | decode buf =>
    rcases hdec : codec.decode buf with ⟨codec', rest, _ | err | ⟨msg, errors⟩⟩
    all_goals simp only [call, hdec]
    · obtain ⟨hreceived, hsent⟩ := decode_unread hdec (fun _ h => nomatch h)
      exact ⟨hreceived, hsent, fun _ _ h => nomatch h⟩
    · obtain ⟨hreceived, hsent⟩ := decode_unread hdec (fun _ h => nomatch h)
      exact ⟨hreceived, hsent, fun _ _ h => nomatch h⟩
    · obtain ⟨rfl, -⟩ := decode_eq_ok.mp hdec
      refine ⟨rfl, rfl, fun asn4 msg h => ?_⟩
      cases h
      rfl

/-- A message is parsed with four-octet AS numbers exactly when the last OPEN that
came in before it and the last one that went out before it announce them. -/
theorem asn4_of_history {codec : BgpCodec} {calls : List Call} {before after : List Exchange}
    {asn4 : Bool} (h : history codec calls = before ++ .decoded asn4 msg :: after) :
    asn4 = (((lastSaid Exchange.heard before).or codec.asn4Received).getD false &&
      ((lastSaid Exchange.told before).or codec.asn4Sent).getD false) := by
  induction calls generalizing codec before with
  | nil => simp [history] at h
  | cons c calls ih =>
    obtain ⟨hheard, htold, hnow⟩ := codec.call_spec c
    rw [history] at h
    cases hexchange : (codec.call c).2 with
    | none =>
      rw [hexchange] at h hheard htold
      rw [ih h, hheard, htold]
      rfl
    | some exchange =>
      rw [hexchange] at h hheard htold
      cases before with
      | nil =>
        obtain ⟨rfl, -⟩ := List.cons.inj h
        exact hnow asn4 msg hexchange
      | cons first before =>
        obtain ⟨rfl, hrest⟩ := List.cons.inj h
        rw [ih hrest, hheard, htold, lastSaid_cons, lastSaid_cons]
        rfl

/-- Accepted messages are decoded in the same way wherever the stream is cut. Each takes
as many octets as its header says, and it is parsed with four-octet AS numbers exactly
when the last OPEN decoded and the last OPEN encoded before it announce them. -/
theorem decode_stream (codec : BgpCodec) :
    (∀ messages items codec', Accepts codec messages items codec' →
      ∀ chunks : List Octets, chunks.flatten = messages.flatten →
        feed decode codec [] chunks = ⟨codec', [], items.map .ok⟩) ∧
    (∀ buf rest codec' msg errors,
      decode codec buf = (codec', rest, some (.ok (msg, errors))) →
        messageLength buf ≤ buf.length ∧ rest = buf.drop (messageLength buf) ∧
          BgpMessage.fromWire codec'.ctx .inbound codec.parsingErrors buf =
            (errors, .ok (rest, msg))) ∧
    ∀ calls before asn4 msg after,
      history codec calls = before ++ .decoded asn4 msg :: after →
        asn4 = (((lastSaid Exchange.heard before).or codec.asn4Received).getD false &&
          ((lastSaid Exchange.told before).or codec.asn4Sent).getD false) := by
  refine ⟨?_, ?_, fun _ _ _ _ _ => asn4_of_history⟩
  · intro messages items codec' h chunks hchunks
    have hinv : InStream codec [] chunks.flatten := ⟨messages, items, codec', h, hchunks⟩
    rw [incremental_decode.feed_eq hinv rfl, nil_append, hchunks, drain_messages h]
  · intro buf rest codec' msg errors h
    obtain ⟨rfl, hread⟩ := decode_eq_ok.mp h
    obtain ⟨-, hlen, hrest⟩ := fromWire_frame hread
    exact ⟨by omega, hrest, hread⟩

/-- A KEEPALIVE message. -/
def keepAliveOctets : Octets := List.replicate 16 0xff ++ [0, 19, 4]

theorem decode_stream_two :
    feed decode (new true) []
        [keepAliveOctets.take 10, keepAliveOctets.drop 10 ++ keepAliveOctets.take 18, [4]] =
      ⟨new true, [], [.ok (.keepAlive, .default), .ok (.keepAlive, .default)]⟩ :=
  (decode_stream (new true)).1 [keepAliveOctets, keepAliveOctets]
    [(.keepAlive, .default), (.keepAlive, .default)] (new true) (.cons rfl (.cons rfl (.nil _)))
    [keepAliveOctets.take 10, keepAliveOctets.drop 10 ++ keepAliveOctets.take 18, [4]] rfl

end BgpCodec

end NetCalyx.Bgp
