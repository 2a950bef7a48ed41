import Mathlib.Data.List.Induction
import NetCalyx.Netconf.Payload
import NetCalyx.Wire.Slices

/-!
# Accesses out of range

The functions of the codec once more, with every access to a slice as one that may be out of
range. They agree with those without checks (`decodeChecked_of_not_lags`) but for one access:
while the codec waits for the hello, it goes on searching from where it stopped. When a hello is
refused, its octets are taken off the buffer but the place of the search stays, and may then lie
behind the end of the buffer. Every other exit leaves it within the buffer (`reaches_of_call`).

`no_panic_iff` says when a session goes without a panic, in terms of what arrives and what the calls
return. Whether the XML layer itself panics on some octets is left open.
-/

namespace NetCalyx.Netconf
open Wire List Option

variable {Hello NetConfMessage ParsingError Utf8Error : Type}
  (d : Deserializers Hello NetConfMessage ParsingError Utf8Error) {codec : SshCodec} {src : Octets}

/-- The payloads on which the XML layer panics. -/
structure XmlPanics where
  hello : Octets → Bool
  message : Octets → Bool

namespace SshCodec

/-! ## The checked functions -/

def decodeHelloChecked (panics : XmlPanics) (codec : SshCodec) (src : Octets) :
    Option (Called NetConfMessage ParsingError Utf8Error) :=
  if src.length < helloTerminator.length then
    match codec.checkHelloSize src.length with
    | .error err => some (codec, src, .error err)
    | .ok _ => some (codec, src, .ok none)
  else
    let scanFrom := codec.helloScanned - (helloTerminator.length - 1)
    (sliceFrom src scanFrom).bind fun unscanned =>
      match (firstAt helloTerminator unscanned).map (scanFrom + ·) with
      | some pos =>
        match codec.checkHelloSize pos with
        | .error err => some (codec, src, .error err)
        | .ok _ =>
          (splitTo src (pos + helloTerminator.length)).bind fun (data, rest) =>
            (slice data 0 pos).bind fun data =>
              if panics.hello data then none
              else
                match parseHello d data with
                | .error err => some (codec, rest, .error err)
                | .ok hello =>
                  some ({ codec with inHello := false, helloScanned := 0 }, rest, .ok (some hello))
      | none =>
        match codec.checkHelloSize src.length with
        | .error err => some (codec, src, .error err)
        | .ok _ =>
          some ({ codec with helloScanned := src.length - (helloTerminator.length - 1) }, src,
            .ok none)

def chunkHeaderChecked (codec : SshCodec) (src : Octets) :
    Option (ChunkStep ParsingError Utf8Error) :=
  let sizeStart := chunkStart.length
  let searchLen := min (src.length - sizeStart) (maxChunkSizeLen + 1)
  (slice src sizeStart (sizeStart + searchLen)).bind fun searched =>
    match searched.findIdx? (· = 0x0a) with
    | none =>
      if searchLen > maxChunkSizeLen then
        some (.fail (.io "Chunk size is not properly terminated with a newline"))
      else some .wait
    | some pos =>
      let sizeEnd := sizeStart + pos
      (slice src sizeStart sizeEnd).bind fun chunkSizeSlice =>
        match parseChunkSize d chunkSizeSlice with
        | .error err => some (.fail err)
        | .ok chunkSize =>
          if codec.buf.length + chunkSize > codec.maxMessageSize then
            let maxMessageSize := codec.maxMessageSize
            some (.fail (.io
              s!"Reassembled message exceeds maximum allowed size of {maxMessageSize} bytes"))
          else
            let chunkStartPos := sizeEnd + 1
            let chunkEndPos := chunkStartPos + chunkSize
            if src.length < chunkEndPos then some .wait
            else
              (slice src chunkStartPos chunkEndPos).bind fun chunkData =>
                (sliceFrom src chunkEndPos).bind fun rest => some (.chunk chunkData rest)

def terminatorStepChecked (src : Octets) : Option (ChunkStep ParsingError Utf8Error) :=
  if src.length < messageTerminator.length then some .wait
  else if ¬ messageTerminator <+: src then some (.fail (.io "Malformed message terminator"))
  else (sliceFrom src messageTerminator.length).bind fun rest => some (.terminator rest)

def chunkStepChecked (codec : SshCodec) (src : Octets) : Option (ChunkStep ParsingError Utf8Error) :=
  if src.length < chunkStart.length then some .wait
  else if ¬ chunkStart <+: src then
    some (.fail (.io "Expected chunk start sequence or message terminator"))
  else if src.length < chunkStart.length + 1 then some .wait
  else
    src[chunkStart.length]?.bind fun mark =>
      if mark = 0x23 then terminatorStepChecked src else chunkHeaderChecked d codec src

def chunkLoopChecked (panics : XmlPanics) :
    Nat → SshCodec → Octets → Option (Called NetConfMessage ParsingError Utf8Error)
  | 0, codec, src => some (codec, src, .ok none)
  | rounds + 1, codec, src =>
    (chunkStepChecked d codec src).bind fun
      | .wait => some (codec, src, .ok none)
      | .fail err => some (codec, src, .error err)
      | .chunk data rest => chunkLoopChecked panics rounds { codec with buf := codec.buf ++ data } rest
      | .terminator rest =>
        if panics.message codec.buf then none
        else
          match d.message codec.buf with
          | .error err => some ({ codec with buf := [] }, src, .error (.parsing err))
          | .ok parsed => some ({ codec with buf := [] }, rest, .ok (some parsed))

def decodeChecked (panics : XmlPanics) (codec : SshCodec) (src : Octets) :
    Option (Called NetConfMessage ParsingError Utf8Error) :=
  if codec.inHello then decodeHelloChecked d panics codec src
  else chunkLoopChecked d panics (src.length + 1) codec src

/-! ## What is in range -/

section InRange

variable {d} {panics : XmlPanics}

/-- The search for the end of the hello would start behind the end of the buffer. -/
def Lags (codec : SshCodec) (src : Octets) : Prop :=
  codec.inHello = true ∧ helloTerminator.length ≤ src.length ∧
    src.length < codec.helloScanned - (helloTerminator.length - 1)

variable (d) in
/-- The octets that a call hands to the XML layer. -/
def payload (codec : SshCodec) (src : Octets) : Option Octets :=
  match (decode d.framing codec src).2.2 with
  | .ok (some payload) => some payload
  | _ => none

variable (d) in
/-- The XML layer panics on what it is given. -/
def PanicsInside (panics : XmlPanics) (codec : SshCodec) (src : Octets) : Prop :=
  ∃ octets, payload d codec src = some octets ∧
    (if codec.inHello then panics.hello octets else panics.message octets) = true

theorem chunkHeaderChecked_eq (h : chunkStart.length ≤ src.length) :
    chunkHeaderChecked d codec src = some (chunkHeader d codec src) := by
  unfold chunkHeaderChecked chunkHeader sizeEnd
  dsimp only
  generalize hlen : min (src.length - chunkStart.length) (maxChunkSizeLen + 1) = searchLen
  rw [slice_add (by omega), bind_some]
  cases hfound : ((src.drop chunkStart.length).take searchLen).findIdx? (· = 0x0a) with
  | none =>
    dsimp only
    split <;> rfl
  | some pos =>
    obtain ⟨hpos, -⟩ := findIdx?_eq_some_iff_getElem.mp hfound
    rw [length_take, length_drop] at hpos
    simp only [slice_add (show chunkStart.length + pos ≤ src.length by omega), bind_some]
    cases parseChunkSize d ((src.drop chunkStart.length).take pos) with
    | error err => rfl
    | ok chunkSize =>
      dsimp only
      rw [sizedChunk]
      split
      · rfl
      · dsimp only
        split
        · rfl
        · rename_i hlong
          rw [not_lt] at hlong
          rw [slice_add hlong, bind_some, sliceFrom_of_le hlong, bind_some]

theorem chunkStepChecked_eq : chunkStepChecked d codec src = some (chunkStep d codec src) := by
  rw [chunkStepChecked, chunkStep]
  split
  · rfl
  · rename_i hlong
    split
    · rfl
    · split
      · rfl
      · rename_i hnext
        have hmark : src[chunkStart.length]? = some src[chunkStart.length] :=
          getElem?_eq_getElem (by omega)
        simp only [hmark, bind_some, Option.some.injEq]
        split
        · rw [terminatorStepChecked, terminatorStep]
          split
          · rfl
          · rename_i hend
            split
            · rfl
            · rw [sliceFrom_of_le (not_lt.mp hend), bind_some]
        · exact chunkHeaderChecked_eq (not_lt.mp hlong)

/-- In the chunks only the XML layer can panic. -/
theorem chunkLoopChecked_eq (rounds : Nat) :
    chunkLoopChecked d panics rounds codec src =
      match (chunkLoop d.framing rounds codec src).2.2 with
      | .ok (some octets) =>
        if panics.message octets then none else some (chunkLoop d rounds codec src)
      | _ => some (chunkLoop d rounds codec src) := by
  induction rounds generalizing codec src with
  | zero => rfl
  | succ rounds ih =>
    have hsame : chunkStep d.framing codec src = chunkStep d codec src := rfl
    rw [chunkLoopChecked, chunkLoop, chunkLoop, chunkStepChecked_eq, bind_some, hsame]
    cases chunkStep d codec src with
    | wait | fail err => rfl
    | chunk data rest => exact ih
    | terminator rest =>
      simp only [Deserializers.framing]
      split
      · rfl
      · cases d.message codec.buf <;> rfl

/-- In the hello the search may also start out of range. -/
theorem decodeHelloChecked_eq
    (h : src.length < helloTerminator.length ∨
      codec.helloScanned - (helloTerminator.length - 1) ≤ src.length) :
    decodeHelloChecked d panics codec src =
      match (decodeHello d.framing codec src).2.2 with
      | .ok (some octets) =>
        if panics.hello octets then none else some (decodeHello d codec src)
      | _ => some (decodeHello d codec src) := by
  unfold decodeHelloChecked decodeHello
  by_cases hshort : src.length < helloTerminator.length
  · simp only [hshort, if_true]
    cases (codec.checkHelloSize src.length : Except (SshCodecError ParsingError Utf8Error) Unit) <;> rfl
  · have hscan := h.resolve_left hshort
    simp only [hshort, if_false, sliceFrom_of_le hscan, bind_some]
    generalize codec.helloScanned - (helloTerminator.length - 1) = scanFrom at hscan ⊢
    cases hfound : firstAt helloTerminator (src.drop scanFrom) with
    | none =>
      simp only [map_none]
      cases (codec.checkHelloSize src.length : Except (SshCodecError ParsingError Utf8Error) Unit) <;> rfl
    | some place =>
      have hfits := ((firstAt_eq_some helloTerminator_ne_nil).mp hfound).1.fits
        helloTerminator_ne_nil
      rw [length_drop] at hfits
      simp only [map_some]
      generalize hpos : scanFrom + place = pos
      have hend : pos + helloTerminator.length ≤ src.length := by omega
      have hdata : slice (src.take (pos + helloTerminator.length)) 0 pos = some (src.take pos) := by
        rw [slice_of_le (Nat.zero_le _) (by rw [length_take]; omega), drop_zero,
          Nat.sub_zero, take_take, Nat.min_eq_left (by omega)]
      have hplain : parseHello d.framing (src.take pos) = .ok (src.take pos) := rfl
      cases (codec.checkHelloSize pos : Except (SshCodecError ParsingError Utf8Error) Unit) with
      | error err => rfl
      | ok =>
        simp only [splitTo_of_le hend, bind_some, hdata, hplain]
        split
        · rfl
        · cases parseHello d (src.take pos) <;> rfl

theorem decodeHelloChecked_of_lags (h : Lags codec src) :
    decodeHelloChecked d panics codec src = none := by
  rw [decodeHelloChecked, if_neg (not_lt.mpr h.2.1)]
  simp only [sliceFrom_eq_none.mpr h.2.2, bind_none]

/-- A call whose search starts in the buffer does what the function without checks does, unless
the XML layer panics. -/
theorem decodeChecked_of_not_lags (h : ¬ Lags codec src) :
    decodeChecked d panics codec src =
      match payload d codec src with
      | some octets =>
        if (if codec.inHello then panics.hello octets else panics.message octets) then none
        else some (decode d codec src)
      | none => some (decode d codec src) := by
  rw [decodeChecked, payload]
  cases hmode : codec.inHello with
  | false =>
    simp only [decode, hmode, Bool.false_eq_true, if_false]
    refine (chunkLoopChecked_eq (src.length + 1)).trans ?_
    rw [decodeChunks, decodeChunks]
    generalize (chunkLoop d.framing (src.length + 1) codec src).2.2 = result
    obtain err | _ | octets := result <;> rfl
  | true =>
    simp only [decode, hmode, if_true]
    have hscan : src.length < helloTerminator.length ∨
        codec.helloScanned - (helloTerminator.length - 1) ≤ src.length := by
      by_contra hnot
      rw [not_or, not_lt, not_le] at hnot
      exact h ⟨hmode, hnot⟩
    rw [decodeHelloChecked_eq hscan]
    generalize (decodeHello d.framing codec src).2.2 = result
    obtain err | _ | octets := result <;> rfl

/-- A call panics if the search starts behind the end of the buffer, or the XML layer panics. -/
theorem decodeChecked_eq_none (h : Lags codec src ∨ PanicsInside d panics codec src) :
    decodeChecked d panics codec src = none := by
  by_cases hlags : Lags codec src
  · rw [decodeChecked, if_pos hlags.1, decodeHelloChecked_of_lags hlags]
  · obtain ⟨octets, hpayload, hpanics⟩ := h.resolve_left hlags
    simp only [decodeChecked_of_not_lags hlags, hpayload, hpanics, if_true]

theorem decodeChecked_eq_some (h : ¬ (Lags codec src ∨ PanicsInside d panics codec src)) :
    decodeChecked d panics codec src = some (decode d codec src) := by
  obtain ⟨hlags, hinside⟩ := not_or.mp h
  rw [decodeChecked_of_not_lags hlags]
  cases hpayload : payload d codec src with
  | none => rfl
  | some octets => exact if_neg fun hpanics => hinside ⟨octets, hpayload, hpanics⟩

end InRange

/-! ## Sessions -/

variable {d} {panics : XmlPanics}
variable (d) in
/-- The octets that arrive before each call; the codec and the buffer behind the last call, or
`none` if one panics. -/
def session (panics : XmlPanics) : SshCodec → Octets → List Octets → Option (SshCodec × Octets)
  | codec, src, [] => some (codec, src)
  | codec, src, arrival :: arrivals =>
    (decodeChecked d panics codec (src ++ arrival)).bind fun (codec, rest, _) =>
      session panics codec rest arrivals

variable (d) in
/-- The codec and the buffer behind calls that do not panic. -/
def sessionState : SshCodec → Octets → List Octets → SshCodec × Octets
  | codec, src, [] => (codec, src)
  | codec, src, arrival :: arrivals =>
    let (codec, rest, _) := decode d codec (src ++ arrival)
    sessionState codec rest arrivals

theorem session_isSome {arrivals : List Octets} :
    (session d panics codec src arrivals).isSome ↔
      ∀ before arrival later, arrivals = before ++ arrival :: later →
        ¬ Lags (sessionState d codec src before).1 ((sessionState d codec src before).2 ++ arrival) ∧
        ¬ PanicsInside d panics (sessionState d codec src before).1
          ((sessionState d codec src before).2 ++ arrival) := by
  induction arrivals generalizing codec src with
  | nil => simp [session]
  | cons arrival arrivals ih =>
    rw [session]
    by_cases hpanics : Lags codec (src ++ arrival) ∨ PanicsInside d panics codec (src ++ arrival)
    · rw [decodeChecked_eq_none hpanics]
      refine iff_of_false Bool.false_ne_true fun h => ?_
      obtain ⟨hlags, hinside⟩ := h [] arrival arrivals rfl
      exact hpanics.elim hlags hinside
    · rw [decodeChecked_eq_some hpanics, bind_some, ih]
      constructor
      · intro h before arrival' later hsplit
        cases before with
        | nil =>
          cases hsplit
          exact not_or.mp hpanics
        | cons first before =>
          cases hsplit
          exact h before arrival' later rfl
      · rintro h before arrival' later rfl
        exact h (arrival :: before) arrival' later rfl

/-! ## The place of the search -/

section

variable (d) (limit : Nat)

/-- The codec and the buffer behind the calls for some arrivals. -/
def after : List Octets → SshCodec × Octets := sessionState d (withMaxMessageSize limit) []

variable (codec)

/-- The next search starts within the buffer. -/
def Reaches (src : Octets) : Prop :=
  codec.helloScanned - (helloTerminator.length - 1) ≤ src.length

/-- The call refuses a hello: it returns an error and has taken octets off the buffer. -/
def Refuses (src : Octets) : Prop :=
  codec.inHello = true ∧ (∃ err, (decode d codec src).2.2 = .error err) ∧
    (decode d codec src).2.1.length < src.length

/-- A search in vain is a call that returns nothing though there is room for the end of a hello. -/
def vainAfter (vain : Nat) (src : Octets) :
    Except (SshCodecError ParsingError Utf8Error) (Option NetConfMessage) → Nat
  | .ok none => if helloTerminator.length ≤ src.length then src.length else vain
  | _ => vain

/-- The octets in the buffer at the last search in vain. -/
def lastVain : Nat → SshCodec → Octets → List Octets → Nat
  | vain, _, _, [] => vain
  | vain, codec, src, arrival :: arrivals =>
    let (codec, rest, result) := decode d codec (src ++ arrival)
    lastVain (vainAfter vain (src ++ arrival) result) codec rest arrivals

def vainSearch : List Octets → Nat := lastVain d 0 (withMaxMessageSize limit) []

/-- A hello was refused before. What was left behind it has, with all that has arrived since, room
for the end of a hello, but ends before the place to which the buffer had been searched in vain. -/
def Overtaken (before : List Octets) (arrival : Octets) : Prop :=
  ∃ earlier refused since, before = earlier ++ refused :: since ∧
    Refuses d (after d limit earlier).1 ((after d limit earlier).2 ++ refused) ∧
    let left := (after d limit (earlier ++ [refused])).2 ++ since.flatten ++ arrival
    helloTerminator.length ≤ left.length ∧
      left.length + 2 * (helloTerminator.length - 1) < vainSearch d limit earlier

/-- No call searches behind the end of the buffer. -/
def KeepsUp (src : Octets) (arrivals : List Octets) : Prop :=
  ∀ before arrival later, arrivals = before ++ arrival :: later →
    ¬ Lags (sessionState d codec src before).1 ((sessionState d codec src before).2 ++ arrival)

/-- While a codec waits for the hello, it remembers its last search in vain, and the place of the
search is within the buffer or a hello has been refused since. -/
structure Searched (before : List Octets) : Prop where
  scanned : (after d limit before).1.helloScanned =
    vainSearch d limit before - (helloTerminator.length - 1)
  place : Reaches (after d limit before).1 (after d limit before).2 ∨
    ∃ earlier refused since, before = earlier ++ refused :: since ∧
      Refuses d (after d limit earlier).1 ((after d limit earlier).2 ++ refused) ∧
      (after d limit before).2 = (after d limit (earlier ++ [refused])).2 ++ since.flatten ∧
      vainSearch d limit earlier = vainSearch d limit before

end

section Calls

variable {vain : Nat}

/-- What a call does while the codec waits for the hello. -/
inductive HelloCall (codec : SshCodec) (src : Octets) :
    Called NetConfMessage ParsingError Utf8Error → Prop
  /-- There is no room for the end of a hello. -/
  | short {result} (hshort : src.length < helloTerminator.length) :
      HelloCall codec src (codec, src, result)
  | large {err} (hlong : helloTerminator.length ≤ src.length) :
      HelloCall codec src (codec, src, .error err)
  | vain (hlong : helloTerminator.length ≤ src.length) :
      HelloCall codec src
        ({ codec with helloScanned := src.length - (helloTerminator.length - 1) }, src, .ok none)
  | refused {rest err} (hrest : rest.length < src.length) :
      HelloCall codec src (codec, rest, .error err)
  | accepted {rest hello} :
      HelloCall codec src
        ({ codec with inHello := false, helloScanned := 0 }, rest, .ok (some hello))

variable (d) in
theorem helloCall (hmode : codec.inHello = true) (src : Octets) : HelloCall codec src (decode d codec src) := by
  rw [decode, if_pos hmode, decodeHello]
  split
  · split <;> exact .short ‹_›
  · rename_i hlong
    rw [not_lt] at hlong
    dsimp only
    split
    · split
      · exact .large hlong
      · split
        · refine .refused ?_
          have hpos : 0 < helloTerminator.length := by decide
          rw [length_drop]
          omega
        · exact .accepted
    · split
      · exact .large hlong
      · exact .vain hlong

/-- Every exit of a call but that with a refused hello leaves the place of the search within the
buffer, where it was so before. -/
theorem reaches_of_call (hmode : codec.inHello = true) (h : Reaches codec src)
    (hkept : ¬ Refuses d codec src) : Reaches (decode d codec src).1 (decode d codec src).2.1 := by
  have hcall := helloCall d hmode src
  rw [Refuses] at hkept
  generalize decode d codec src = called at hcall hkept
  cases hcall with
  | short | large => exact h
  | vain => exact (Nat.sub_le _ _).trans (Nat.sub_le _ _)
  | refused hrest => exact absurd ⟨hmode, ⟨_, rfl⟩, hrest⟩ hkept
  | accepted => exact Nat.zero_le _

theorem Refuses.codec_eq (h : Refuses d codec src) : (decode d codec src).1 = codec := by
  obtain ⟨hmode, ⟨err, herr⟩, -⟩ := h
  have hcall := helloCall d hmode src
  generalize decode d codec src = called at hcall herr
  cases hcall with
  | short | large | refused => rfl
  | vain | accepted => cases herr

variable (d) in
theorem decode_short (hmode : codec.inHello = true) (hshort : src.length < helloTerminator.length) :
    ∃ result, decode d codec src = (codec, src, result) := by
  rw [decode, if_pos hmode, decodeHello, if_pos hshort]
  split <;> exact ⟨_, rfl⟩

theorem vainAfter_short (hshort : src.length < helloTerminator.length)
    (result : Except (SshCodecError ParsingError Utf8Error) (Option NetConfMessage)) :
    vainAfter vain src result = vain := by
  unfold vainAfter
  split
  · exact if_neg (not_le.mpr hshort)
  · rfl

/-- The codec remembers its last search in vain. -/
theorem scanned_of_call (hmode : codec.inHello = true)
    (h : codec.helloScanned = vain - (helloTerminator.length - 1))
    (hnext : (decode d codec src).1.inHello = true) :
    (decode d codec src).1.helloScanned =
      vainAfter vain src (decode d codec src).2.2 - (helloTerminator.length - 1) := by
  have hcall := helloCall d hmode src
  generalize decode d codec src = called at hcall hnext
  cases hcall with
  | short hshort => rwa [vainAfter_short hshort]
  | large | refused => exact h
  | vain hlong => rw [vainAfter, if_pos hlong]
  | accepted => cases hnext

/-- Once the hello is accepted it stays so. -/
theorem inHello_of_decode (h : (decode d codec src).1.inHello = true) : codec.inHello = true := by
  by_contra hmode
  have hloop (rounds : Nat) (codec : SshCodec) (src : Octets) :
      (chunkLoop d rounds codec src).1.inHello = codec.inHello := by
    induction rounds generalizing codec src with
    | zero => rfl
    | succ rounds ih =>
      rw [chunkLoop]
      split
      · rfl
      · rfl
      · exact ih _ _
      · split <;> rfl
  rw [decode, if_neg hmode, decodeChunks, hloop] at h
  exact hmode h

theorem sessionState_append (before later : List Octets) :
    sessionState d codec src (before ++ later) =
      sessionState d (sessionState d codec src before).1 (sessionState d codec src before).2
        later := by
  induction before generalizing codec src with
  | nil => rfl
  | cons arrival before ih => exact ih

theorem lastVain_append (before later : List Octets) :
    lastVain d vain codec src (before ++ later) =
      lastVain d (lastVain d vain codec src before) (sessionState d codec src before).1
        (sessionState d codec src before).2 later := by
  induction before generalizing vain codec src with
  | nil => rfl
  | cons arrival before ih => exact ih

/-- Behind a refused hello calls wait for more octets as long as they do not lag. -/
theorem not_keepsUp {since : List Octets} {arrival : Octets} (hmode : codec.inHello = true)
    (hroom : helloTerminator.length ≤ (src ++ since.flatten ++ arrival).length)
    (hbehind : (src ++ since.flatten ++ arrival).length <
      codec.helloScanned - (helloTerminator.length - 1)) :
    ¬ KeepsUp d codec src (since ++ [arrival]) := by
  intro hkeeps
  induction since generalizing src with
  | nil =>
    rw [flatten_nil, append_nil] at hroom hbehind
    exact hkeeps [] arrival [] rfl ⟨hmode, hroom, hbehind⟩
  | cons first since ih =>
    have hfirst : ¬ Lags codec (src ++ first) := hkeeps [] first _ rfl
    rw [flatten_cons, ← append_assoc] at hroom hbehind
    have hshort : (src ++ first).length < helloTerminator.length := by
      by_contra hlong
      refine hfirst ⟨hmode, not_lt.mp hlong, lt_of_le_of_lt ?_ hbehind⟩
      simp only [length_append]
      omega
    obtain ⟨result, hdecode⟩ := decode_short d hmode hshort
    refine ih hroom hbehind fun before next later hsplit => ?_
    have hkept := hkeeps (first :: before) next later (by rw [cons_append, hsplit]; rfl)
    rwa [sessionState, hdecode] at hkept

end Calls

section Refused

variable {limit : Nat} {before : List Octets} {arrival : Octets}

variable (d limit)

theorem after_snoc (before : List Octets) (arrival : Octets) :
    after d limit (before ++ [arrival]) =
      let called := decode d (after d limit before).1
        ((after d limit before).2 ++ arrival)
      (called.1, called.2.1) :=
  sessionState_append before [arrival]

theorem vainSearch_snoc (before : List Octets) (arrival : Octets) :
    vainSearch d limit (before ++ [arrival]) =
      let src := (after d limit before).2 ++ arrival
      vainAfter (vainSearch d limit before) src
        (decode d (after d limit before).1 src).2.2 :=
  lastVain_append before [arrival]

variable {d limit}

theorem Searched.step (h : Searched d limit before)
    (hmode : (after d limit before).1.inHello = true)
    (hlags : ¬ Lags (after d limit before).1 ((after d limit before).2 ++ arrival))
    (hnext : (after d limit (before ++ [arrival])).1.inHello = true) :
    Searched d limit (before ++ [arrival]) := by
  have hstate := after_snoc d limit before arrival
  have hvain := vainSearch_snoc d limit before arrival
  rw [hstate] at hnext
  refine ⟨by rw [hstate, hvain]; exact scanned_of_call hmode h.scanned hnext, ?_⟩
  by_cases hrefuses : Refuses d (after d limit before).1
      ((after d limit before).2 ++ arrival)
  · refine .inr ⟨before, arrival, [], rfl, hrefuses, by simp, ?_⟩
    obtain ⟨-, ⟨err, herr⟩, -⟩ := hrefuses
    simp only [hvain, herr, vainAfter]
  rw [hstate, hvain]
  by_cases hreach : Reaches (after d limit before).1
      ((after d limit before).2 ++ arrival)
  · exact .inl (reaches_of_call hmode hreach hrefuses)
  -- a search that would start behind the end is put off, as there is no room for the end
  have hshort : ((after d limit before).2 ++ arrival).length < helloTerminator.length := by
    by_contra hlong
    exact hlags ⟨hmode, not_lt.mp hlong, not_le.mp hreach⟩
  obtain ⟨result, hdecode⟩ := decode_short d hmode hshort
  obtain hbefore | ⟨earlier, refused, since, rfl, hrefused, hleft, hearlier⟩ := h.place
  · refine absurd (hbefore.trans ?_) hreach
    rw [length_append]
    exact Nat.le_add_right _ _
  · refine .inr ⟨earlier, refused, since ++ [arrival], by simp, hrefused, ?_, ?_⟩
    · dsimp only
      rw [hdecode, hleft]
      simp
    · rw [hearlier, vainAfter_short hshort]

theorem searched_of_keepsUp (hkeeps : KeepsUp d (withMaxMessageSize limit) [] before)
    (hmode : (after d limit before).1.inHello = true) :
    Searched d limit before := by
  induction before using List.reverseRecOn with
  | nil => exact ⟨rfl, .inl (Nat.zero_le _)⟩
  | append_singleton before arrival ih =>
    have hbefore : (after d limit before).1.inHello = true := by
      rw [after_snoc] at hmode
      exact inHello_of_decode hmode
    refine (ih (fun earlier next later hsplit => ?_) hbefore).step hbefore
      (hkeeps before arrival [] rfl) hmode
    exact hkeeps earlier next (later ++ [arrival]) (by rw [hsplit]; simp)

/-- A call that lags for the first time comes behind one that has refused a hello. -/
theorem overtaken_of_lags (hkeeps : KeepsUp d (withMaxMessageSize limit) [] before)
    (hlags : Lags (after d limit before).1 ((after d limit before).2 ++ arrival)) :
    Overtaken d limit before arrival := by
  obtain ⟨hmode, hroom, hbehind⟩ := hlags
  obtain ⟨hscanned, hplace⟩ := searched_of_keepsUp hkeeps hmode
  obtain hreach | ⟨earlier, refused, since, hbefore, hrefuses, hleft, hearlier⟩ := hplace
  · rw [Reaches] at hreach
    rw [length_append] at hbehind
    omega
  · rw [hscanned] at hbehind
    rw [hleft] at hroom hbehind
    refine ⟨earlier, refused, since, hbefore, hrefuses, hroom, ?_⟩
    rw [hearlier]
    omega

/-- Where no call lags, octets behind a refused hello never get to be as many as that. -/
theorem not_overtaken
    (hkeeps : KeepsUp d (withMaxMessageSize limit) [] (before ++ [arrival])) :
    ¬ Overtaken d limit before arrival := by
  rintro ⟨earlier, refused, since, rfl, hrefuses, hroom, hbehind⟩
  have hscanned := (searched_of_keepsUp (fun b a l hsplit =>
    hkeeps b a (l ++ refused :: since ++ [arrival]) (by rw [hsplit]; simp)) hrefuses.1).scanned
  have hstate := after_snoc d limit earlier refused
  simp only [hrefuses.codec_eq] at hstate
  rw [hstate] at hroom hbehind
  refine not_keepsUp (d := d) hrefuses.1 hroom (by rw [hscanned]; omega) fun b a l hsplit => ?_
  have hlags := hkeeps (earlier ++ [refused] ++ b) a l (by
    simp only [append_assoc, cons_append, hsplit, nil_append])
  rwa [sessionState_append, show sessionState d _ [] (earlier ++ [refused]) = _ from hstate] at hlags

end Refused

/-- **A session goes without a panic** exactly if no call comes behind a refused hello with octets
enough for a search, but not enough for the place where it starts, and the XML layer does not panic
on what it is given. -/
theorem no_panic_iff (d : Deserializers Hello NetConfMessage ParsingError Utf8Error)
    (panics : XmlPanics) (maxMessageSize : Nat) (arrivals : List Octets) :
    (session d panics (withMaxMessageSize maxMessageSize) [] arrivals).isSome ↔
      ∀ before arrival later, arrivals = before ++ arrival :: later →
        ¬ Overtaken d maxMessageSize before arrival ∧
        ¬ PanicsInside d panics (after d maxMessageSize before).1
          ((after d maxMessageSize before).2 ++ arrival) := by
  rw [session_isSome]
  constructor
  · intro h before arrival later hsplit
    refine ⟨not_overtaken fun b a l hprefix => ?_, (h before arrival later hsplit).2⟩
    refine (h b a (l ++ later) ?_).1
    rw [hsplit, append_cons, hprefix, append_assoc, cons_append]
  · intro h before
    induction hcount : before.length using Nat.strong_induction_on generalizing before with
    | _ count ih =>
      intro arrival later hsplit
      obtain ⟨hovertaken, hinside⟩ := h before arrival later hsplit
      refine ⟨fun hlags => hovertaken (overtaken_of_lags (fun b a l hprefix => ?_) hlags), hinside⟩
      refine (ih b.length ?_ b rfl a (l ++ arrival :: later) ?_).1
      · rw [← hcount, hprefix, length_append, length_cons]
        omega
      · rw [hsplit, hprefix]
        simp

/-! ## Where the search gets ahead -/

/-- Readers that refuse every hello. -/
def refusingDeserializers : Deserializers Octets Octets Unit Unit :=
  { plainDeserializers with hello := fun _ => .error () }

/-- Twenty octets, the end of a hello that is refused, and six octets more. -/
theorem search_behind_end :
    session refusingDeserializers ⟨fun _ => false, fun _ => false⟩ (withMaxMessageSize 100) []
        [List.replicate 20 0x61, helloTerminator] = some (⟨true, [], 15, 100⟩, []) ∧
      session refusingDeserializers ⟨fun _ => false, fun _ => false⟩ (withMaxMessageSize 100) []
        [List.replicate 20 0x61, helloTerminator, List.replicate 6 0x61] = none :=
  ⟨rfl, rfl⟩

end SshCodec

end NetCalyx.Netconf
