import NetCalyx.Wire.Search
import NetCalyx.Wire.Stream

/-!
# NETCONF over SSH

The first message of a session is a hello, which ends with `]]>]]>`; the others come in
chunks, each with its size in front, and end with a line `##`. The codec is called whenever
octets have arrived. It keeps how far it has searched for the end of the hello, and the
chunks of a message that is not complete.

How the XML inside of a message is read is a parameter. Sizes are those of a machine on which
the sums of two sizes below 2^32 do not overflow.
-/

namespace NetCalyx.Netconf
open Wire List

inductive ParseIntError where
  | empty
  | invalidDigit
  | posOverflow

inductive SshCodecError (ParsingError Utf8Error : Type) where
  | io (text : String)
  | utf (err : Utf8Error)
  | int (err : ParseIntError)
  | parsing (err : ParsingError)

/-- The readers of texts and of XML. -/
structure Deserializers (Hello NetConfMessage ParsingError Utf8Error : Type) where
  fromUtf8 : Octets → Except Utf8Error String
  hello : Octets → Except ParsingError Hello
  /-- The hello has the capability `base:1.1`. -/
  hasBase11 : Hello → Bool
  ofHello : Hello → NetConfMessage
  message : Octets → Except ParsingError NetConfMessage

/-- The octets of `]]>]]>`. -/
def helloTerminator : Octets := [0x5d, 0x5d, 0x3e, 0x5d, 0x5d, 0x3e]

/-- A line feed and `#`. -/
def chunkStart : Octets := [0x0a, 0x23]

/-- The line `##`, with the line feed before it. -/
def messageTerminator : Octets := [0x0a, 0x23, 0x23, 0x0a]

def maxChunkSize : Nat := 4294967295

def maxChunkSizeLen : Nat := 10

structure SshCodec where
  inHello : Bool
  buf : Octets
  helloScanned : Nat
  maxMessageSize : Nat

section Model

variable {Hello NetConfMessage ParsingError Utf8Error : Type}
  (d : Deserializers Hello NetConfMessage ParsingError Utf8Error)

/-- What a call leaves of the codec and of the octets, and what it returns. -/
abbrev Called (NetConfMessage ParsingError Utf8Error : Type) :=
  SshCodec × Octets × Except (SshCodecError ParsingError Utf8Error) (Option NetConfMessage)

/-! ## Sizes -/

def readDigits (value : Nat) : List Char → Except ParseIntError Nat
  | [] => .ok value
  | c :: cs =>
    if c.isDigit then
      let value := value * 10 + (c.toNat - '0'.toNat)
      if value < 2 ^ 64 then readDigits value cs else .error .posOverflow
    else .error .invalidDigit

/-- A sign may stand in front of a number. -/
def parseUsize (text : String) : Except ParseIntError Nat :=
  match text.toList with
  | [] => .error .empty
  | ['+'] => .error .invalidDigit
  | '+' :: digits => readDigits 0 digits
  | digits => readDigits 0 digits

def parseChunkSize (slice : Octets) : Except (SshCodecError ParsingError Utf8Error) Nat :=
  match d.fromUtf8 slice with
  | .error err => .error (.utf err)
  | .ok chunkSizeStr =>
    if chunkSizeStr.isEmpty || chunkSizeStr.toList.head? = some '0' then
      .error (.io s!"Invalid chunk size: `{chunkSizeStr}`")
    else
      match parseUsize chunkSizeStr with
      | .error err => .error (.int err)
      | .ok chunkSize =>
        if chunkSize = 0 ∨ chunkSize > maxChunkSize then
          .error (.io s!"Invalid chunk size: {chunkSize}")
        else .ok chunkSize

namespace SshCodec

def withMaxMessageSize (maxMessageSize : Nat) : SshCodec := ⟨true, [], 0, maxMessageSize⟩

/-! ## The hello -/

variable (codec : SshCodec)

def checkHelloSize (len : Nat) : Except (SshCodecError ParsingError Utf8Error) Unit :=
  if len > codec.maxMessageSize then
    let maxMessageSize := codec.maxMessageSize
    .error (.io s!"Hello message exceeds maximum allowed size of {maxMessageSize} bytes")
  else .ok ()

def parseHello (data : Octets) : Except (SshCodecError ParsingError Utf8Error) NetConfMessage :=
  match d.hello data with
  | .error err => .error (.parsing err)
  | .ok hello =>
    if d.hasBase11 hello then .ok (d.ofHello hello)
    else .error (.io "Hello message does not contain required base:1.1 capability, only NETCONF 1.1 as per RFC 6242 is supported")

variable (src : Octets)

def decodeHello : Called NetConfMessage ParsingError Utf8Error :=
  if src.length < helloTerminator.length then
    match codec.checkHelloSize src.length with
    | .error err => (codec, src, .error err)
    | .ok _ => (codec, src, .ok none)
  else
    let scanFrom := codec.helloScanned - (helloTerminator.length - 1)
    match (firstAt helloTerminator (src.drop scanFrom)).map (scanFrom + ·) with
    | some pos =>
      match codec.checkHelloSize pos with
      | .error err => (codec, src, .error err)
      | .ok _ =>
        let rest := src.drop (pos + helloTerminator.length)
        match parseHello d (src.take pos) with
        | .error err => (codec, rest, .error err)
        | .ok hello => ({ codec with inHello := false, helloScanned := 0 }, rest, .ok (some hello))
    | none =>
      match codec.checkHelloSize src.length with
      | .error err => (codec, src, .error err)
      | .ok _ =>
        ({ codec with helloScanned := src.length - (helloTerminator.length - 1) }, src, .ok none)

/-! ## Chunks -/

/-- What stands at the front of the octets. -/
inductive ChunkStep (ParsingError Utf8Error : Type) where
  /-- Not enough to tell, or not all of a chunk. -/
  | wait
  | fail (err : SshCodecError ParsingError Utf8Error)
  | chunk (data rest : Octets)
  | terminator (rest : Octets)

/-- Where the size ends; `some none` if there is no end within its length, `none` if it may
still come. -/
def sizeEnd : Option (Option Nat) :=
  let searchLen := min (src.length - chunkStart.length) (maxChunkSizeLen + 1)
  match ((src.drop chunkStart.length).take searchLen).findIdx? (· = 0x0a) with
  | some pos => some (some pos)
  | none => if searchLen > maxChunkSizeLen then some none else none

/-- A chunk whose size has been read. -/
def sizedChunk (chunkStartPos chunkSize : Nat) : ChunkStep ParsingError Utf8Error :=
  if codec.buf.length + chunkSize > codec.maxMessageSize then
    let maxMessageSize := codec.maxMessageSize
    .fail (.io s!"Reassembled message exceeds maximum allowed size of {maxMessageSize} bytes")
  else
    let chunkEndPos := chunkStartPos + chunkSize
    if src.length < chunkEndPos then .wait
    else .chunk ((src.drop chunkStartPos).take chunkSize) (src.drop chunkEndPos)

def chunkHeader : ChunkStep ParsingError Utf8Error :=
  match sizeEnd src with
  | none => .wait
  | some none => .fail (.io "Chunk size is not properly terminated with a newline")
  | some (some pos) =>
    match parseChunkSize d ((src.drop chunkStart.length).take pos) with
    | .error err => .fail err
    | .ok chunkSize => codec.sizedChunk src (chunkStart.length + pos + 1) chunkSize

def terminatorStep : ChunkStep ParsingError Utf8Error :=
  if src.length < messageTerminator.length then .wait
  else if ¬ messageTerminator <+: src then .fail (.io "Malformed message terminator")
  else .terminator (src.drop messageTerminator.length)

def chunkStep (src : Octets) : ChunkStep ParsingError Utf8Error :=
  if src.length < chunkStart.length then .wait
  else if ¬ chunkStart <+: src then
    .fail (.io "Expected chunk start sequence or message terminator")
  else if src.length < chunkStart.length + 1 then .wait
  -- a chunk and the terminator differ at the next octet
  else if src[chunkStart.length]? = some 0x23 then terminatorStep src
  else chunkHeader d codec src

/-- The loop over chunks; each takes something off, so that there are at most as many rounds as
octets. -/
def chunkLoop : Nat → SshCodec → Octets → Called NetConfMessage ParsingError Utf8Error
  | 0, codec, src => (codec, src, .ok none)
  | rounds + 1, codec, src =>
    match chunkStep d codec src with
    | .wait => (codec, src, .ok none)
    | .fail err => (codec, src, .error err)
    | .chunk data rest => chunkLoop rounds { codec with buf := codec.buf ++ data } rest
    | .terminator rest =>
      match d.message codec.buf with
      | .error err => ({ codec with buf := [] }, src, .error (.parsing err))
      | .ok parsed => ({ codec with buf := [] }, rest, .ok (some parsed))

def decodeChunks (src : Octets) : Called NetConfMessage ParsingError Utf8Error :=
  chunkLoop d (src.length + 1) codec src

def decode (src : Octets) : Called NetConfMessage ParsingError Utf8Error :=
  if codec.inHello then decodeHello d codec src else decodeChunks d codec src

/-! ## More octets behind -/

section Append

variable {d} {codec codec' : SshCodec} {src rest more : Octets}

theorem sizeEnd_eq (src : Octets) :
    sizeEnd src =
      match ((src.drop 2).take 11).findIdx? (· = 0x0a) with
      | some pos => some (some pos)
      | none => if 11 ≤ (src.drop 2).length then some none else none := by
  have htake : (src.drop 2).take (min (src.length - 2) 11) = (src.drop 2).take 11 := by
    rw [Nat.min_comm, ← length_drop, ← take_eq_take_min]
  have hlong : min (src.length - 2) 11 > 10 ↔ 11 ≤ (src.drop 2).length := by
    rw [length_drop]
    omega
  rw [sizeEnd]
  simp only [chunkStart, maxChunkSizeLen, length_cons, length_nil, Nat.zero_add,
    Nat.reduceAdd, htake, hlong]

theorem sizeEnd_append {result : Option Nat} (hlen : 2 ≤ src.length)
    (h : sizeEnd src = some result) : sizeEnd (src ++ more) = some result := by
  rw [sizeEnd_eq] at h ⊢
  rw [drop_append_of_le_length hlen]
  by_cases hlong : 11 ≤ (src.drop 2).length
  · rw [take_append_of_le_length hlong, if_pos (by rw [length_append]; omega)]
    rwa [if_pos hlong] at h
  · rw [if_neg hlong] at h
    cases hfound : ((src.drop 2).take 11).findIdx? (· = 0x0a) with
    | none =>
      rw [hfound] at h
      cases h
    | some pos =>
      rw [hfound] at h
      rw [take_of_length_le (by omega)] at hfound
      rw [take_append, take_of_length_le (by omega), findIdx?_append, hfound]
      exact h

theorem sizeEnd_lt {pos : Nat} (h : sizeEnd src = some (some pos)) : 2 + pos < src.length := by
  rw [sizeEnd_eq] at h
  split at h
  · rename_i found hfound
    obtain rfl : found = pos := by simpa using h
    have := (findIdx?_eq_some_iff_getElem.mp hfound).1
    rw [length_take, length_drop] at this
    omega
  · split at h <;> cases h

/-- What stands behind the octets stays there. -/
def ChunkStep.append (more : Octets) :
    ChunkStep ParsingError Utf8Error → ChunkStep ParsingError Utf8Error
  | wait => wait
  | fail err => fail err
  | chunk data rest => chunk data (rest ++ more)
  | terminator rest => terminator (rest ++ more)

theorem sizedChunk_append {start size : Nat}
    (h : (codec.sizedChunk src start size : ChunkStep ParsingError Utf8Error) ≠ .wait) :
    (codec.sizedChunk (src ++ more) start size : ChunkStep ParsingError Utf8Error) =
      (codec.sizedChunk src start size).append more := by
  rw [sizedChunk] at h
  rw [sizedChunk, sizedChunk]
  by_cases hlarge : codec.buf.length + size > codec.maxMessageSize
  · simp only [hlarge, if_true]
    rfl
  · by_cases hshort : src.length < start + size
    · simp [hlarge, hshort] at h
    · have hlonger : ¬ (src ++ more).length < start + size := by
        rw [length_append]
        omega
      simp only [hlarge, hshort, hlonger, if_false, ChunkStep.append]
      rw [drop_append_of_le_length (by omega), drop_append_of_le_length (by omega),
        take_append_of_le_length (by rw [length_drop]; omega)]

theorem terminatorStep_append
    (h : (terminatorStep src : ChunkStep ParsingError Utf8Error) ≠ .wait) :
    (terminatorStep (src ++ more) : ChunkStep ParsingError Utf8Error) =
      (terminatorStep src).append more := by
  rw [terminatorStep] at h
  rw [terminatorStep, terminatorStep]
  by_cases hshort : src.length < messageTerminator.length
  · simp [hshort] at h
  · have hlonger : ¬ (src ++ more).length < messageTerminator.length := by
      rw [length_append]
      omega
    rw [if_neg hlonger, if_neg hshort]
    simp only [isPrefix_append_iff (not_lt.mp hshort)]
    by_cases hterminator : messageTerminator <+: src
    · simp only [hterminator, not_true, if_false, ChunkStep.append]
      rw [drop_append_of_le_length (not_lt.mp hshort)]
    · simp only [hterminator, not_false_eq_true, if_true, ChunkStep.append]

theorem chunkHeader_append (hlen : 2 ≤ src.length) (h : chunkHeader d codec src ≠ .wait) :
    chunkHeader d codec (src ++ more) = (chunkHeader d codec src).append more := by
  rw [chunkHeader] at h
  rw [chunkHeader, chunkHeader]
  cases hend : sizeEnd src with
  | none => simp [hend] at h
  | some result =>
    rw [sizeEnd_append hlen hend]
    cases result with
    | none => rfl
    | some pos =>
      have hpos := sizeEnd_lt hend
      have hslice : ((src ++ more).drop chunkStart.length).take pos =
          (src.drop chunkStart.length).take pos := by
        change ((src ++ more).drop 2).take pos = (src.drop 2).take pos
        rw [drop_append_of_le_length hlen,
          take_append_of_le_length (by rw [length_drop]; omega)]
      simp only [hslice, hend] at h ⊢
      cases hsize : parseChunkSize d ((src.drop chunkStart.length).take pos) with
      | error err => rfl
      | ok size =>
        simp only [hsize] at h ⊢
        exact sizedChunk_append h

variable (d codec src) in
/-- What can be told from the octets does not change with more of them. -/
theorem chunkStep_append (more : Octets) (h : chunkStep d codec src ≠ .wait) :
    chunkStep d codec (src ++ more) = (chunkStep d codec src).append more := by
  rw [chunkStep] at h
  rw [chunkStep, chunkStep]
  by_cases hshort : src.length < chunkStart.length
  · simp [hshort] at h
  have hlonger : ¬ (src ++ more).length < chunkStart.length := by
    rw [length_append]
    omega
  rw [if_neg hshort] at h
  rw [if_neg hlonger, if_neg hshort]
  simp only [isPrefix_append_iff (not_lt.mp hshort)]
  by_cases hstart : chunkStart <+: src
  · by_cases hthree : src.length < chunkStart.length + 1
    · simp [hstart, hthree] at h
    · have hlonger' : ¬ (src ++ more).length < chunkStart.length + 1 := by
        rw [length_append]
        omega
      simp only [hstart, hthree, not_true, if_false] at h
      simp only [hstart, hthree, hlonger', not_true, if_false]
      rw [getElem?_append_left (by omega)]
      split
      · rename_i hmark
        rw [if_pos hmark] at h
        exact terminatorStep_append h
      · rename_i hmark
        rw [if_neg hmark] at h
        exact chunkHeader_append (not_lt.mp hshort) h
  · simp only [hstart, not_false_eq_true, if_true, ChunkStep.append]

/-- A size that is found ends with a line feed. -/
theorem sizeEnd_eq_some {pos : Nat} {body : Octets}
    (h : sizeEnd (chunkStart ++ body) = some (some pos)) :
    ∃ field more, body = field ++ 0x0a :: more ∧ field.length = pos ∧ pos ≤ maxChunkSizeLen := by
  have hdrop : (chunkStart ++ body).drop 2 = body := rfl
  rw [sizeEnd_eq, hdrop] at h
  split at h
  · rename_i found hfound
    obtain rfl : found = pos := by simpa using h
    obtain ⟨hlt, heq, -⟩ := findIdx?_eq_some_iff_getElem.mp hfound
    rw [length_take] at hlt
    have hbody : found < body.length := by omega
    have hget : body[found] = 0x0a := by
      rw [getElem_take] at heq
      simpa using heq
    refine ⟨body.take found, body.drop (found + 1), ?_, length_take_of_le hbody.le, ?_⟩
    · rw [← hget, getElem_cons_drop, take_append_drop]
    · simp only [maxChunkSizeLen]
      omega
  · split at h <;> cases h

/-- Everything behind the header of a chunk. -/
theorem drop_header (field more : Octets) (n : Nat) :
    (chunkStart ++ (field ++ 0x0a :: more)).drop (chunkStart.length + field.length + 1 + n) =
      more.drop n := by
  have hsplit : chunkStart ++ (field ++ 0x0a :: more) = (chunkStart ++ field ++ [0x0a]) ++ more := by
    simp
  have hlength : chunkStart.length + field.length + 1 = (chunkStart ++ field ++ [0x0a]).length := by
    simp [Nat.add_assoc]
  rw [hsplit, hlength, drop_append, drop_of_length_le (Nat.le_add_right _ n),
    Nat.add_sub_cancel_left, nil_append]

variable (d) in
/-- What a step takes off the front is the end of a message or a chunk. -/
inductive Front (codec : SshCodec) : Octets → ChunkStep ParsingError Utf8Error → Prop
  | wait {src : Octets} : Front codec src .wait
  | fail {src : Octets} {err} : Front codec src (.fail err)
  | terminator {rest : Octets} : Front codec (messageTerminator ++ rest) (.terminator rest)
  | chunk {field data rest : Octets} (hsize : parseChunkSize d field = .ok data.length)
      (hshort : field.length ≤ maxChunkSizeLen)
      (hroom : codec.buf.length + data.length ≤ codec.maxMessageSize) :
      Front codec (chunkStart ++ (field ++ 0x0a :: (data ++ rest))) (.chunk data rest)

theorem chunkHeader_front (codec : SshCodec) (body : Octets) :
    Front d codec (chunkStart ++ body) (chunkHeader d codec (chunkStart ++ body)) := by
  rw [chunkHeader]
  split
  · exact .wait
  · exact .fail
  · rename_i pos hpos
    obtain ⟨field, more, rfl, rfl, hshort⟩ := sizeEnd_eq_some hpos
    rw [drop_left, take_left]
    split
    · exact .fail
    · rename_i size hsize
      rw [sizedChunk]
      split
      · exact .fail
      · rename_i hroom
        dsimp only
        split
        · exact .wait
        · rename_i hlong
          have hmore : size ≤ more.length := by
            simp only [length_append, length_cons] at hlong
            omega
          obtain ⟨data, rest, rfl, rfl⟩ : ∃ data rest, more = data ++ rest ∧ size = data.length :=
            ⟨more.take size, more.drop size, by simp, by simp [hmore]⟩
          rw [drop_header, drop_left, show List.drop _ _ = _ from drop_header field _ 0,
            drop_zero, take_left]
          exact .chunk hsize hshort (not_lt.mp hroom)

theorem chunkStep_front (codec : SshCodec) (src : Octets) :
    Front d codec src (chunkStep d codec src) := by
  rw [chunkStep]
  split
  · exact .wait
  · split
    · exact .fail
    · rename_i hstart
      obtain ⟨body, rfl⟩ := not_not.mp hstart
      split
      · exact .wait
      · split
        · rw [terminatorStep]
          split
          · exact .wait
          · split
            · exact .fail
            · rename_i hterminator
              obtain ⟨rest, hrest⟩ := not_not.mp hterminator
              rw [← hrest, drop_left]
              exact .terminator
        · exact chunkHeader_front codec body

variable {data : Octets}

theorem rest_lt_of_chunk (h : chunkStep d codec src = .chunk data rest) :
    rest.length < src.length := by
  have hfront := chunkStep_front (d := d) codec src
  rw [h] at hfront
  cases hfront
  simp only [length_append, length_cons]
  omega

/-- More rounds than octets change nothing. -/
theorem chunkLoop_eq {n m : Nat} (hn : src.length < n) (hm : src.length < m) :
    chunkLoop d n codec src = chunkLoop d m codec src := by
  induction n generalizing m codec src with
  | zero => omega
  | succ n ih =>
    obtain ⟨m, rfl⟩ : ∃ k, m = k + 1 := ⟨m - 1, by omega⟩
    rw [chunkLoop, chunkLoop]
    cases hstep : chunkStep d codec src with
    | wait | fail err | terminator rest => rfl
    | chunk data rest =>
      have hprogress := rest_lt_of_chunk hstep
      exact ih (by omega) (by omega)

theorem decodeChunks_chunk (h : chunkStep d codec src = .chunk data rest) :
    decodeChunks d codec src = decodeChunks d { codec with buf := codec.buf ++ data } rest := by
  rw [decodeChunks, chunkLoop, h, decodeChunks]
  exact chunkLoop_eq (rest_lt_of_chunk h) (Nat.lt_succ_self _)

variable (d) in
/-- What a call leaves to do when more octets come: nothing of the octets that it has
used up is needed again, and a message or an error is not changed. -/
def Settles (codec : SshCodec)
    (src more : Octets) : Called NetConfMessage ParsingError Utf8Error → Prop
  | (codec', rest, .ok none) => rest.length ≤ src.length ∧ codec'.inHello = codec.inHello ∧
      decodeChunks d codec (src ++ more) = decodeChunks d codec' (rest ++ more)
  | (codec', rest, .ok (some msg)) => rest.length < src.length ∧ codec'.inHello = codec.inHello ∧
      decodeChunks d codec (src ++ more) = (codec', rest ++ more, .ok (some msg))
  | (_, _, .error _) =>
      ∃ codec' rest err, decodeChunks d codec (src ++ more) = (codec', rest, .error err)

theorem Settles.of_chunk {result : Called NetConfMessage ParsingError Utf8Error}
    (hrest : rest.length < src.length)
    (hmore : decodeChunks d codec (src ++ more) = decodeChunks d { codec with buf := codec.buf ++ data } (rest ++ more))
    (h : Settles d { codec with buf := codec.buf ++ data } rest more result) :
    Settles d codec src more result := by
  obtain ⟨codec', left, _ | _ | msg⟩ := result
  · obtain ⟨last, left, err, herr⟩ := h
    exact ⟨last, left, err, hmore.trans herr⟩
  · exact ⟨h.1.trans hrest.le, h.2.1, hmore.trans h.2.2⟩
  · exact ⟨h.1.trans hrest, h.2.1, hmore.trans h.2.2⟩

theorem decodeChunks_settles (codec : SshCodec) (src more : Octets) :
    Settles d codec src more (decodeChunks d codec src) := by
  induction hlen : src.length using Nat.strongRecOn generalizing codec src with
  | _ n ih =>
    have hlater := chunkStep_append d codec src more
    cases hstep : chunkStep d codec src with
    | wait =>
      have hnow : decodeChunks d codec src = (codec, src, .ok none) := by
        rw [decodeChunks, chunkLoop, hstep]
      rw [hnow]
      exact ⟨le_rfl, rfl, rfl⟩
    | fail err =>
      rw [hstep] at hlater
      rw [decodeChunks, chunkLoop, hstep]
      exact ⟨codec, src ++ more, err, by rw [decodeChunks, chunkLoop, hlater (by simp)]; rfl⟩
    | terminator rest =>
      have hfront := chunkStep_front (d := d) codec src
      rw [hstep] at hfront hlater
      rw [decodeChunks, chunkLoop, hstep]
      cases hmessage : d.message codec.buf with
      | error err =>
        exact ⟨{ codec with buf := [] }, src ++ more, .parsing err,
          by rw [decodeChunks, chunkLoop, hlater (by simp)]; simp only [ChunkStep.append, hmessage]⟩
      | ok parsed =>
        cases hfront
        exact ⟨by simp [messageTerminator]; omega, rfl,
          by rw [decodeChunks, chunkLoop, hlater (by simp)]; simp only [ChunkStep.append, hmessage]⟩
    | chunk data rest =>
      have hprogress := rest_lt_of_chunk hstep
      rw [hstep] at hlater
      have hrest := ih rest.length (by omega) { codec with buf := codec.buf ++ data } rest rfl
      rw [decodeChunks_chunk hstep]
      exact hrest.of_chunk hprogress (decodeChunks_chunk (hlater (by simp)))

end Append

/-! ## The end of the hello -/

section HelloEnd

variable {d} {codec : SshCodec} {src more : Octets} {pos : Nat}

theorem helloTerminator_ne_nil : helloTerminator ≠ [] := by decide

/-- No terminator stands where the codec has searched. -/
def Scanned (codec : SshCodec) (src : Octets) : Prop :=
  ∀ place < codec.helloScanned,
    place + helloTerminator.length ≤ src.length ∧ ¬ OccursAt helloTerminator src place

theorem Scanned.append (h : Scanned codec src) (more : Octets) : Scanned codec (src ++ more) := by
  intro place hplace
  obtain ⟨hfits, hnot⟩ := h place hplace
  refine ⟨by rw [length_append]; omega, ?_⟩
  rwa [occursAt_append_iff hfits]

/-- The search continues where it has to. -/
theorem Scanned.search (h : Scanned codec src) :
    (firstAt helloTerminator (src.drop (codec.helloScanned - (helloTerminator.length - 1)))).map
        (codec.helloScanned - (helloTerminator.length - 1) + ·) =
      firstAt helloTerminator src :=
  firstAt_drop helloTerminator_ne_nil fun place hplace => (h place (by omega)).2

/-- How far the codec has searched when there was no terminator. -/
def searched (codec : SshCodec) (src : Octets) : SshCodec :=
  if src.length < helloTerminator.length then codec
  else { codec with helloScanned := src.length - (helloTerminator.length - 1) }

/-- A call in the hello, by what the search finds. -/
theorem decodeHello_eq (h : Scanned codec src) :
    decodeHello d codec src =
      match firstAt helloTerminator src with
      | some pos =>
        match codec.checkHelloSize pos with
        | .error err => (codec, src, .error err)
        | .ok _ =>
          match parseHello d (src.take pos) with
          | .error err => (codec, src.drop (pos + helloTerminator.length), .error err)
          | .ok hello => ({ codec with inHello := false, helloScanned := 0 },
              src.drop (pos + helloTerminator.length), .ok (some hello))
      | none =>
        match codec.checkHelloSize src.length with
        | .error err => (codec, src, .error err)
        | .ok _ => (searched codec src, src, .ok none) := by
  rw [decodeHello, searched]
  split
  · rename_i hshort
    have hnone : firstAt helloTerminator src = none := by
      refine (firstAt_eq_none helloTerminator_ne_nil).mpr fun place hplace => ?_
      have := hplace.fits helloTerminator_ne_nil
      omega
    rw [hnone]
  · simp only [h.search]

theorem Scanned.searched (h : Scanned codec src) (hnone : firstAt helloTerminator src = none) :
    Scanned (SshCodec.searched codec src) src := by
  rw [SshCodec.searched]
  split
  · exact h
  · intro place hplace
    simp only [helloTerminator, length_cons, length_nil] at hplace ⊢
    exact ⟨by omega, (firstAt_eq_none helloTerminator_ne_nil).mp hnone place⟩

variable (d) in
/-- A hello that is accepted and fits, but not together with the first five octets of its
terminator. -/
def Straddles (maxMessageSize : Nat) (stream : Octets) : Prop :=
  ∃ pos, firstAt helloTerminator stream = some pos ∧ pos ≤ maxMessageSize ∧
    maxMessageSize < pos + (helloTerminator.length - 1) ∧
    ∃ hello, parseHello d (stream.take pos) = .ok hello

end HelloEnd

/-! ## Streams -/

section Stream

variable {d} {codec : SshCodec} {buf future : Octets}
variable (d) in
/-- The session has failed, or it is in its chunks, or the hello has been searched and the
stream is not one of those where the size check depends on the cuts. -/
def InSession : Option SshCodec → Octets → Octets → Prop
  | none, _, _ => True
  | some codec, buf, future => codec.inHello = true →
      Scanned codec buf ∧ ¬ Straddles d codec.maxMessageSize (buf ++ future)

theorem decode_eq_chunks (h : codec.inHello = false) (src : Octets) :
    decode d codec src = decodeChunks d codec src := by
  rw [decode, h]
  rfl

/-- A call in the chunks. -/
theorem call_chunks (h : codec.inHello = false) :
    (∃ s' rest, Waits (untilError (decode d)) (some codec) buf future s' rest ∧
        InSession d s' rest future) ∨
      ∃ s' rest item, Returns (untilError (decode d)) (some codec) buf future s' rest item ∧
        InSession d s' rest future := by
  have hsettles (more : Octets) := decodeChunks_settles (d := d) codec buf more
  cases hresult : decodeChunks d codec buf with
  | mk codec' called =>
    obtain ⟨rest, _ | _ | msg⟩ := called
    all_goals simp only [hresult] at hsettles
    · refine .inl ⟨none, [], fails_untilError fun more _ => ?_, trivial⟩
      rw [decode_eq_chunks h]
      exact hsettles more
    · have hinHello : codec'.inHello = false := (hsettles []).2.1.trans h
      refine .inl ⟨some codec', rest, waits_untilError (hsettles []).1
        ((decode_eq_chunks h buf).trans hresult) fun more _ => ?_, fun hhello => ?_⟩
      · rw [decode_eq_chunks h, (hsettles more).2.2, decode_eq_chunks hinHello]
      · rw [hinHello] at hhello
        cases hhello
    · have hinHello : codec'.inHello = false := (hsettles []).2.1.trans h
      refine .inr ⟨some codec', rest, msg, returns_untilError (hsettles []).1
        fun more _ => (decode_eq_chunks h _).trans (hsettles more).2.2, fun hhello => ?_⟩
      rw [hinHello] at hhello
      cases hhello

/-- A call in the hello, by what the search finds. -/
theorem untilError_hello {src : Octets} (hhello : codec.inHello = true)
    (hscanned : Scanned codec src) :
    untilError (decode d) (some codec) src =
      match firstAt helloTerminator src with
      | some pos =>
        if pos ≤ codec.maxMessageSize then
          match parseHello d (src.take pos) with
          | .error _ => (none, [], none)
          | .ok hello => (some { codec with inHello := false, helloScanned := 0 },
              src.drop (pos + helloTerminator.length), some hello)
        else (none, [], none)
      | none =>
        if src.length ≤ codec.maxMessageSize then (some (searched codec src), src, none)
        else (none, [], none) := by
  rw [untilError, decode, if_pos hhello, decodeHello_eq hscanned]
  cases firstAt helloTerminator src with
  | some pos =>
    by_cases hsize : pos ≤ codec.maxMessageSize
    · simp only [checkHelloSize, not_lt.mpr hsize, hsize, if_true, if_false]
      cases parseHello d (src.take pos) <;> rfl
    · simp only [checkHelloSize, not_le.mp hsize, hsize, if_true, if_false]
  | none =>
    by_cases hsize : src.length ≤ codec.maxMessageSize
    · simp only [checkHelloSize, not_lt.mpr hsize, hsize, if_true, if_false]
    · simp only [checkHelloSize, not_le.mp hsize, hsize, if_true, if_false]

/-- A search that has come further finds the same. -/
theorem untilError_searched (hhello : codec.inHello = true) (hscanned : Scanned codec buf)
    (hnone : firstAt helloTerminator buf = none) (more : Octets) :
    untilError (decode d) (some (searched codec buf)) (buf ++ more) =
      untilError (decode d) (some codec) (buf ++ more) := by
  have hfields : (searched codec buf).inHello = codec.inHello ∧
      (searched codec buf).maxMessageSize = codec.maxMessageSize ∧
      (searched codec buf).buf = codec.buf := by
    rw [searched]
    split <;> exact ⟨rfl, rfl, rfl⟩
  have hagain : searched (searched codec buf) (buf ++ more) = searched codec (buf ++ more) := by
    rw [searched, searched, searched]
    by_cases hshort : (buf ++ more).length < helloTerminator.length
    · have : buf.length < helloTerminator.length := by
        rw [length_append] at hshort
        omega
      simp only [hshort, this, if_true]
    · simp only [hshort, if_false]
      split <;> rfl
  rw [untilError_hello hhello (hscanned.append more),
    untilError_hello (hfields.1.trans hhello) ((hscanned.searched hnone).append more)]
  simp only [hfields.2.1, hfields.2.2, hagain]

/-- A call in the hello. -/
theorem call_hello (hhello : codec.inHello = true) (hscanned : Scanned codec buf)
    (hgood : ¬ Straddles d codec.maxMessageSize (buf ++ future)) :
    (∃ s' rest, Waits (untilError (decode d)) (some codec) buf future s' rest ∧
        InSession d s' rest future) ∨
      ∃ s' rest item, Returns (untilError (decode d)) (some codec) buf future s' rest item ∧
        InSession d s' rest future := by
  have hcall (more : Octets) := untilError_hello (d := d) hhello (hscanned.append more)
  have hfails (h : ∀ more, more <+: future →
      untilError (decode d) (some codec) (buf ++ more) = (none, [], none)) :
      Waits (untilError (decode d)) (some codec) buf future none [] :=
    ⟨Nat.zero_le _, by simpa using h [] nil_prefix, fun more hmore => (h more hmore).symm⟩
  cases hpos : firstAt helloTerminator buf with
  | some pos =>
    have hfits := ((firstAt_eq_some helloTerminator_ne_nil).mp hpos).1.fits helloTerminator_ne_nil
    have hlater (more : Octets) : firstAt helloTerminator (buf ++ more) = some pos :=
      firstAt_append helloTerminator_ne_nil hpos
    have htake (more : Octets) : (buf ++ more).take pos = buf.take pos :=
      take_append_of_le_length (by omega)
    simp only [hlater, htake, drop_append_of_le_length hfits] at hcall
    by_cases hsize : pos ≤ codec.maxMessageSize
    · simp only [hsize, if_true] at hcall
      cases hparse : parseHello d (buf.take pos) with
      | error err =>
        simp only [hparse] at hcall
        exact .inl ⟨none, [], hfails fun more _ => hcall more, trivial⟩
      | ok hello =>
        simp only [hparse] at hcall
        refine .inr ⟨_, buf.drop (pos + helloTerminator.length), hello,
          ⟨?_, fun more _ => hcall more⟩, fun hnot => by cases hnot⟩
        simp only [length_drop, helloTerminator, length_cons, length_nil] at hfits ⊢
        omega
    · simp only [hsize, if_false] at hcall
      exact .inl ⟨none, [], hfails fun more _ => hcall more, trivial⟩
  | none =>
    by_cases hsize : buf.length ≤ codec.maxMessageSize
    · have hfields : (searched codec buf).maxMessageSize = codec.maxMessageSize := by
        rw [searched]
        split <;> rfl
      have hnow := hcall []
      simp only [append_nil, hpos, hsize, if_true] at hnow
      exact .inl ⟨some (searched codec buf), buf, ⟨le_rfl, hnow, fun more _ =>
        untilError_searched hhello hscanned hpos more⟩,
        fun _ => ⟨hscanned.searched hpos, hfields ▸ hgood⟩⟩
    · -- too long already; a hello that fits would straddle the limit
      refine .inl ⟨none, [], hfails fun more hmore => ?_, trivial⟩
      rw [hcall]
      cases hfound : firstAt helloTerminator (buf ++ more) with
      | none =>
        have : ¬ (buf ++ more).length ≤ codec.maxMessageSize := by
          rw [length_append]
          omega
        simp only [this, if_false]
      | some pos =>
        by_cases hfit : pos ≤ codec.maxMessageSize
        · cases hparse : parseHello d ((buf ++ more).take pos) with
          | error err => simp only [hfit, if_true, hparse]
          | ok hello =>
            obtain ⟨later, rfl⟩ := hmore
            have hocc := ((firstAt_eq_some helloTerminator_ne_nil).mp hfound).1
            have hfits := hocc.fits helloTerminator_ne_nil
            have hend : ¬ pos + helloTerminator.length ≤ buf.length := fun hinside =>
              (firstAt_eq_none helloTerminator_ne_nil).mp hpos pos
                ((occursAt_append_iff hinside).mp hocc)
            refine absurd ⟨pos, ?_, hfit, by omega, hello, ?_⟩ hgood
            · rw [← append_assoc]
              exact firstAt_append helloTerminator_ne_nil hfound
            · rwa [← append_assoc, take_append_of_le_length (by omega)]
        · simp only [hfit, if_false]

theorem incremental_decode : Incremental (untilError (decode d)) (InSession d) where
  call := by
    rintro (_ | codec) buf future hinv
    · exact .inl ⟨none, [], waits_untilError_none, trivial⟩
    · cases hhello : codec.inHello with
      | false => exact call_chunks hhello
      | true => exact call_hello hhello (hinv hhello).1 (hinv hhello).2
  arrives := by
    rintro (_ | codec) buf more future hinv
    · trivial
    · intro hhello
      obtain ⟨hscanned, hgood⟩ := hinv hhello
      exact ⟨hscanned.append more, by rwa [append_assoc]⟩

theorem feed_none (chunks : List Octets) (buf : Octets) :
    (feed (untilError (decode d)) none buf chunks).items = [] ∧
      (feed (untilError (decode d)) none buf chunks).state = none := by
  induction chunks generalizing buf with
  | nil => exact ⟨rfl, rfl⟩
  | cons chunk chunks ih => exact ih []

/-- What comes first out of a session is the hello before the first terminator, wherever the
stream has been cut. -/
theorem feed_hello (hhello : codec.inHello = true) (hscanned : Scanned codec buf)
    (chunks : List Octets) {hello : NetConfMessage} {items : List NetConfMessage}
    (h : (feed (untilError (decode d)) (some codec) buf chunks).items = hello :: items) :
    ∃ pos, firstAt helloTerminator (buf ++ chunks.flatten) = some pos ∧
      parseHello d ((buf ++ chunks.flatten).take pos) = .ok hello := by
  induction chunks generalizing codec buf with
  | nil => cases h
  | cons chunk chunks ih =>
    have hcall := untilError_hello (d := d) hhello (hscanned.append chunk)
    rw [feed] at h
    rw [flatten_cons, ← append_assoc]
    cases hfound : firstAt helloTerminator (buf ++ chunk) with
    | some pos =>
      have hfits := ((firstAt_eq_some helloTerminator_ne_nil).mp hfound).1.fits
        helloTerminator_ne_nil
      refine ⟨pos, firstAt_append helloTerminator_ne_nil hfound, ?_⟩
      rw [take_append_of_le_length (by omega)]
      by_cases hsize : pos ≤ codec.maxMessageSize
      · cases hparse : parseHello d ((buf ++ chunk).take pos) with
        | ok first =>
          simp only [hfound, hsize, if_true, hparse] at hcall
          simp only [drain, drainRounds, hcall, Drained.behind, cons_append,
            List.cons.injEq] at h
          rw [h.1]
        | error err =>
          simp only [hfound, hsize, if_true, hparse] at hcall
          simp only [Incremental.drain_none hcall, Drained.behind, nil_append,
            (feed_none chunks []).1] at h
          cases h
      · simp only [hfound, hsize, if_false] at hcall
        simp only [Incremental.drain_none hcall, Drained.behind, nil_append,
          (feed_none chunks []).1] at h
        cases h
    | none =>
      by_cases hsize : (buf ++ chunk).length ≤ codec.maxMessageSize
      · simp only [hfound, hsize, if_true] at hcall
        simp only [Incremental.drain_none hcall, Drained.behind, nil_append] at h
        refine ih ?_ ((hscanned.append chunk).searched hfound) h
        rw [searched]
        split <;> exact hhello
      · simp only [hfound, hsize, if_false] at hcall
        simp only [Incremental.drain_none hcall, Drained.behind, nil_append,
          (feed_none chunks []).1] at h
        cases h

end Stream

/-- The messages of a session and whether it fails do not depend on how its octets arrive,
unless a hello that is accepted straddles the limit of its size. In any case what comes first
is the hello before the first terminator. -/
theorem decode_stream_iff (maxMessageSize : Nat) (stream : Octets) :
    ((∀ chunks : List Octets, chunks.flatten = stream →
      (feed (untilError (decode d)) (some (withMaxMessageSize maxMessageSize)) [] chunks).items =
        (drain (untilError (decode d)) (some (withMaxMessageSize maxMessageSize)) stream).items ∧
      ((feed (untilError (decode d)) (some (withMaxMessageSize maxMessageSize)) [] chunks).state =
          none ↔
        (drain (untilError (decode d)) (some (withMaxMessageSize maxMessageSize)) stream).state =
          none)) ↔ ¬ Straddles d maxMessageSize stream) ∧
    ∀ chunks : List Octets, chunks.flatten = stream → ∀ hello items,
      (feed (untilError (decode d)) (some (withMaxMessageSize maxMessageSize)) [] chunks).items =
        hello :: items →
      ∃ pos, firstAt helloTerminator stream = some pos ∧
        parseHello d (stream.take pos) = .ok hello := by
  have hstart : Scanned (withMaxMessageSize maxMessageSize) [] :=
    fun place hplace => absurd hplace (Nat.not_lt_zero _)
  refine ⟨⟨fun hsame => ?_, fun hgood chunks hchunks => ?_⟩, fun chunks hchunks hello items h => ?_⟩
  · rintro ⟨pos, hpos, hfit, hlimit, hello, hparse⟩
    obtain ⟨hocc, hfirst⟩ := (firstAt_eq_some helloTerminator_ne_nil).mp hpos
    have hfits := hocc.fits helloTerminator_ne_nil
    -- at once, the hello is returned
    have hwhole := untilError_hello (d := d) rfl (hstart.append stream)
    simp only [nil_append, hpos, withMaxMessageSize, hfit, if_true, hparse] at hwhole
    -- cut behind the limit, it is refused
    have hcut : firstAt helloTerminator (stream.take (maxMessageSize + 1)) = none := by
      refine (firstAt_eq_none helloTerminator_ne_nil).mpr fun place hplace => ?_
      have hinside := hplace.fits helloTerminator_ne_nil
      rw [length_take] at hinside
      have hlater : OccursAt helloTerminator
          (stream.take (maxMessageSize + 1) ++ stream.drop (maxMessageSize + 1)) place :=
        hplace.append helloTerminator_ne_nil
      rw [take_append_drop] at hlater
      exact hfirst place (by omega) hlater
    have hlong : ¬ (stream.take (maxMessageSize + 1)).length ≤ maxMessageSize := by
      rw [length_take]
      omega
    have hfront := untilError_hello (d := d) rfl
      (hstart.append (stream.take (maxMessageSize + 1)))
    simp only [nil_append, hcut, withMaxMessageSize, hlong, if_false] at hfront
    have hitems := (hsame [stream.take (maxMessageSize + 1), stream.drop (maxMessageSize + 1)]
      (by simp)).1
    rw [feed, nil_append, withMaxMessageSize, Incremental.drain_none hfront] at hitems
    simp only [Drained.behind, nil_append, (feed_none _ _).1, drain, drainRounds, hwhole] at hitems
    cases hitems
  · have hinv : InSession d (some (withMaxMessageSize maxMessageSize)) [] chunks.flatten :=
      fun _ => ⟨hstart, by rwa [nil_append, hchunks]⟩
    have hsettled : untilError (decode d) (some (withMaxMessageSize maxMessageSize)) [] =
        (some (withMaxMessageSize maxMessageSize), [], none) := by
      rw [untilError_hello rfl hstart]
      rfl
    rw [incremental_decode.feed_eq hinv hsettled, nil_append, hchunks]
    exact ⟨rfl, Iff.rfl⟩
  · have := feed_hello rfl hstart chunks h
    rwa [nil_append, hchunks] at this

end SshCodec

end Model

/-! ## A hello at the limit -/

/-- Readers for which everything is well-formed. -/
def plainDeserializers : Deserializers Octets Octets Unit Unit where
  fromUtf8 slice := .ok (String.ofList (slice.map fun b => Char.ofNat b.toNat))
  hello data := .ok data
  hasBase11 _ := true
  ofHello := id
  message data := .ok data

/-- Two octets and the terminator, with a limit of four octets: accepted at once, and refused
when five octets come first. -/
theorem hello_depends_on_cuts :
    (drain (untilError (SshCodec.decode plainDeserializers)) (some (.withMaxMessageSize 4))
      ([0x61, 0x62] ++ helloTerminator)).items = [[0x61, 0x62]] ∧
    feed (untilError (SshCodec.decode plainDeserializers)) (some (.withMaxMessageSize 4)) []
      [[0x61, 0x62, 0x5d, 0x5d, 0x3e], [0x5d, 0x5d, 0x3e]] = ⟨none, [], []⟩ ∧
    [[0x61, 0x62, 0x5d, 0x5d, 0x3e], [0x5d, 0x5d, 0x3e]].flatten = [0x61, 0x62] ++ helloTerminator :=
  ⟨rfl, rfl, rfl⟩

end NetCalyx.Netconf
