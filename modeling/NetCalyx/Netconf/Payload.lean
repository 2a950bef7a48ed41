import NetCalyx.Netconf.Codec

/-!
# The payload of a NETCONF message

After the hello a message is a sequence of chunks and the line `##`. With an XML layer that
hands back the octets it was given, the codec is a decoder of that framing; `decodeChunks_eq_framing`
says what any other XML layer makes of it. What a message hands to the XML layer is the data of
its chunks, however its octets arrive, and a message that was encoded is recovered, as are the
messages of a session (`session_round_trip`).

RFC 6242 writes a size as a decimal number without leading zeros. The reader of numbers also
takes a plus sign: `chunk_framing_iff`. And a payload that is refused leaves the end of its
message in the buffer, so that the next call meets it again: `bad_payload_not_skipped`.
-/

namespace NetCalyx.Netconf
open Wire List

/-! ## Sizes -/

/-- The octet of an ASCII character. -/
def asciiOctet (c : Char) : Octet := BitVec.ofNat 8 c.toNat

/-- A size as RFC 6242 has it: digits without a leading zero. -/
def DecimalSize (field : Octets) (size : Nat) : Prop :=
  ∃ digits : List Char, field = digits.map asciiOctet ∧ digits ≠ [] ∧ digits.head? ≠ some '0' ∧
    (∀ c ∈ digits, c.isDigit = true) ∧ Nat.ofDigitChars 10 digits 0 = size ∧ size ≤ maxChunkSize

theorem toNat_of_isDigit {c : Char} (h : c.isDigit = true) : 48 ≤ c.toNat ∧ c.toNat ≤ 57 := by
  rw [Char.isDigit, Bool.and_eq_true, decide_eq_true_iff, decide_eq_true_iff] at h
  exact ⟨UInt32.le_iff_toNat_le.mp h.1, UInt32.le_iff_toNat_le.mp h.2⟩

theorem ofDigitChars_le (digits : List Char) (value : Nat) :
    value ≤ Nat.ofDigitChars 10 digits value := by
  induction digits generalizing value with
  | nil => exact Nat.le_of_eq Nat.ofDigitChars_nil.symm
  | cons c digits ih =>
    rw [Nat.ofDigitChars_cons]
    exact le_trans (by omega) (ih _)

theorem ofDigitChars_pos {digits : List Char} (hne : digits ≠ []) (hzero : digits.head? ≠ some '0')
    (hdigits : ∀ c ∈ digits, c.isDigit = true) : 0 < Nat.ofDigitChars 10 digits 0 := by
  obtain ⟨c, digits, rfl⟩ := exists_cons_of_ne_nil hne
  have hlow := (toNat_of_isDigit (hdigits c mem_cons_self)).1
  have hother : c.toNat ≠ 48 := fun h => hzero (congrArg some (Char.ext (UInt32.toNat_inj.mp h)))
  have hzeroNat : '0'.toNat = 48 := rfl
  rw [Nat.ofDigitChars_cons]
  exact lt_of_lt_of_le (by omega) (ofDigitChars_le _ _)

variable {field : Octets} {size : Nat}

/-- Ten digits are enough for any size. -/
theorem DecimalSize.length_le (h : DecimalSize field size) : field.length ≤ maxChunkSizeLen := by
  obtain ⟨digits, rfl, hne, hzero, hdigits, rfl, hmax⟩ := h
  obtain ⟨c, digits, rfl⟩ := exists_cons_of_ne_nil hne
  have hfirst := ofDigitChars_pos (show [c] ≠ [] by simp) hzero
    (forall_mem_singleton.mpr (hdigits c mem_cons_self))
  rw [Nat.ofDigitChars_cons, Nat.ofDigitChars_nil] at hfirst
  rw [Nat.ofDigitChars_cons, Nat.ofDigitChars_eq_ofDigitChars_zero] at hmax
  have hpow : 10 ^ digits.length < 10 ^ 10 := by
    have := Nat.mul_le_mul_left (10 ^ digits.length) hfirst
    simp only [maxChunkSize] at hmax
    omega
  have hlength : digits.length < 10 := (Nat.pow_lt_pow_iff_right (by decide)).mp hpow
  rw [length_map, length_cons]
  exact hlength

/-- A plus sign and digits. -/
def SignedSize (field : Octets) (size : Nat) : Prop :=
  ∃ digits : List Char, field = ('+' :: digits).map asciiOctet ∧ digits ≠ [] ∧
    (∀ c ∈ digits, c.isDigit = true) ∧ Nat.ofDigitChars 10 digits 0 = size ∧ 0 < size ∧
      size ≤ maxChunkSize

theorem readDigits_eq_ok {digits : List Char} {value : Nat} (hvalue : value < 2 ^ 64) :
    readDigits value digits = .ok size ↔
      (∀ c ∈ digits, c.isDigit = true) ∧ Nat.ofDigitChars 10 digits value = size ∧
        size < 2 ^ 64 := by
  induction digits generalizing value with
  | nil =>
    simp only [readDigits, Except.ok.injEq, Nat.ofDigitChars_nil, not_mem_nil, false_implies,
      implies_true, true_and]
    constructor
    · rintro rfl
      exact ⟨rfl, hvalue⟩
    · exact And.left
  | cons c digits ih =>
    rw [readDigits, Nat.ofDigitChars_cons, forall_mem_cons, Nat.mul_comm 10 value]
    by_cases hdigit : c.isDigit = true
    · rw [if_pos hdigit]
      by_cases hfits : value * 10 + (c.toNat - '0'.toNat) < 2 ^ 64
      · simp only [hfits, if_true, ih hfits, hdigit, true_and]
      · simp only [hfits, if_false, reduceCtorEq, false_iff, not_and]
        rintro - rfl
        have := ofDigitChars_le digits (value * 10 + (c.toNat - '0'.toNat))
        omega
    · rw [if_neg hdigit]
      simp [hdigit]

theorem parseUsize_eq_ok {text : String} :
    parseUsize text = .ok size ↔
      ∃ digits, (text.toList = digits ∨ text.toList = '+' :: digits) ∧ digits ≠ [] ∧
        (∀ c ∈ digits, c.isDigit = true) ∧ Nat.ofDigitChars 10 digits 0 = size ∧ size < 2 ^ 64 := by
  have hplus : ¬ ('+'.isDigit = true) := by decide
  rw [parseUsize]
  split
  · rename_i hnil
    simp only [hnil, reduceCtorEq, false_iff, not_exists, not_and, or_false]
    rintro digits rfl hne
    exact absurd rfl hne
  · rename_i hsign
    simp only [hsign, reduceCtorEq, false_iff, not_exists, not_and]
    rintro digits (rfl | h) hne hdigits
    · exact absurd (hdigits '+' (mem_singleton_self _)) hplus
    · cases h
      exact absurd rfl hne
  · rename_i digits hne hsign
    rw [readDigits_eq_ok (by decide), hsign]
    constructor
    · intro h
      exact ⟨digits, .inr rfl, hne, h⟩
    · rintro ⟨others, rfl | h, -, hdigits, hvalue⟩
      · exact absurd (hdigits '+' mem_cons_self) hplus
      · cases h
        exact ⟨hdigits, hvalue⟩
  · rename_i hnil _ hunsigned
    rw [readDigits_eq_ok (by decide)]
    constructor
    · intro h
      exact ⟨_, .inl rfl, hnil, h⟩
    · rintro ⟨others, rfl | h, -, hdigits, hvalue⟩
      · exact ⟨hdigits, hvalue⟩
      · exact absurd h (hunsigned others)

theorem stringOctets_eq (text : String) :
    stringOctets text =
      text.toList.flatMap fun c => (String.utf8EncodeChar c).map UInt8.toBitVec := by
  obtain ⟨chars, rfl⟩ : ∃ chars, text = String.ofList chars := ⟨text.toList, String.ofList_toList.symm⟩
  rw [stringOctets, String.toList_ofList]
  show List.map _ chars.utf8Encode.data.toList = _
  simp [List.utf8Encode, map_flatMap]

/-- ASCII characters are their octets. -/
theorem stringOctets_ascii {text : String} (h : ∀ c ∈ text.toList, c.toNat ≤ 127) :
    stringOctets text = text.toList.map asciiOctet := by
  rw [stringOctets_eq, map_eq_flatMap]
  refine flatMap_congr fun c hc => ?_
  have hle : c.val.toNat ≤ 127 := h c hc
  simp only [String.utf8EncodeChar, hle, if_true, map_cons, map_nil, List.cons.injEq, and_true]
  rfl

theorem ascii_of_isDigit {c : Char} (h : c.isDigit = true) : c.toNat ≤ 127 :=
  (toNat_of_isDigit h).2.trans (by omega)

section Model

variable {Hello NetConfMessage ParsingError Utf8Error : Type}
  {d : Deserializers Hello NetConfMessage ParsingError Utf8Error} {codec codec' : SshCodec}
  {src rest : Octets}

variable (d) in
/-- The reader of texts accepts UTF-8 and nothing else. -/
def Deserializers.ReadsUtf8 : Prop :=
  ∀ octets text, d.fromUtf8 octets = .ok text ↔ octets = stringOctets text

/-- The sizes that are accepted. -/
theorem parseChunkSize_eq_ok (hutf : d.ReadsUtf8) :
    parseChunkSize d field = .ok size ↔ DecimalSize field size ∨ SignedSize field size := by
  constructor
  · intro h
    rw [parseChunkSize] at h
    split at h
    · cases h
    · rename_i text htext
      split at h
      · cases h
      · rename_i hplain
        rw [Bool.or_eq_true, not_or, decide_eq_true_iff] at hplain
        split at h
        · cases h
        · rename_i size' hsize
          split at h
          · cases h
          · rename_i hrange
            cases h
            rw [not_or, not_lt] at hrange
            obtain ⟨digits, hform, hne, hdigits, hvalue, -⟩ := parseUsize_eq_ok.mp hsize
            have hascii : ∀ c ∈ digits, c.toNat ≤ 127 := fun c hc => ascii_of_isDigit (hdigits c hc)
            rw [(hutf _ _).mp htext]
            obtain hform | hform := hform
            · rw [stringOctets_ascii (hform ▸ hascii), hform]
              exact .inl ⟨digits, rfl, hne, hform ▸ hplain.2, hdigits, hvalue, hrange.2⟩
            · rw [stringOctets_ascii (hform ▸ forall_mem_cons.mpr ⟨by decide, hascii⟩), hform]
              exact .inr ⟨digits, rfl, hne, hdigits, hvalue, by omega, hrange.2⟩
  · have haccept {chars : List Char} (hne : chars ≠ []) (hzero : chars.head? ≠ some '0')
        (hascii : ∀ c ∈ chars, c.toNat ≤ 127) (hsize : parseUsize (String.ofList chars) = .ok size)
        (hpos : size ≠ 0) (hmax : size ≤ maxChunkSize) :
        parseChunkSize d (chars.map asciiOctet) = .ok size := by
      have htext : d.fromUtf8 (chars.map asciiOctet) = .ok (String.ofList chars) := by
        rw [hutf, stringOctets_ascii, String.toList_ofList]
        rwa [String.toList_ofList]
      have hempty : (String.ofList chars).isEmpty = false := by
        rw [Bool.eq_false_iff]
        intro h
        rw [String.isEmpty_iff] at h
        exact hne (by rw [← String.toList_ofList (l := chars), h]; rfl)
      rw [parseChunkSize, htext]
      simp only [hempty, String.toList_ofList, hzero, decide_false, Bool.or_self,
        Bool.false_eq_true, if_false, hsize, hpos, not_lt.mpr hmax, or_self]
    have hlarge : maxChunkSize < 2 ^ 64 := by decide
    rintro (⟨digits, rfl, hne, hzero, hdigits, hvalue, hmax⟩ | ⟨digits, rfl, hne, hdigits, hvalue, hpos, hmax⟩)
    · have hsize : parseUsize (String.ofList digits) = .ok size :=
        parseUsize_eq_ok.mpr ⟨digits, .inl String.toList_ofList, hne, hdigits, hvalue, by omega⟩
      have hpos := ofDigitChars_pos hne hzero hdigits
      exact haccept hne hzero (fun c hc => ascii_of_isDigit (hdigits c hc)) hsize (by omega) hmax
    · refine haccept (cons_ne_nil _ _) (by simp) ?_ ?_ (by omega) hmax
      · exact forall_mem_cons.mpr ⟨by decide, fun c hc => ascii_of_isDigit (hdigits c hc)⟩
      · exact parseUsize_eq_ok.mpr
          ⟨digits, .inr String.toList_ofList, hne, hdigits, hvalue, by omega⟩

/-! ## Chunks -/

/-- A chunk as it stands in a stream. -/
structure Chunk where
  field : Octets
  data : Octets

def Chunk.octets (chunk : Chunk) : Octets :=
  chunkStart ++ (chunk.field ++ 0x0a :: chunk.data)

/-- The size in front of a chunk is one that the codec takes for the length of its data. -/
def Chunk.Sized (chunk : Chunk) : Prop :=
  (DecimalSize chunk.field chunk.data.length ∨ SignedSize chunk.field chunk.data.length) ∧
    chunk.field.length ≤ maxChunkSizeLen

/-- The octets of a message. -/
def messageOctets (chunks : List Chunk) : Octets :=
  (chunks.map Chunk.octets).flatten ++ messageTerminator

def messageData (chunks : List Chunk) : Octets := (chunks.map Chunk.data).flatten

theorem asciiOctet_toNat {c : Char} (h : c.isDigit = true) : (asciiOctet c).toNat = c.toNat := by
  have hhigh := (toNat_of_isDigit h).2
  rw [asciiOctet, BitVec.toNat_ofNat, Nat.mod_eq_of_lt (by omega)]

theorem asciiOctet_digit {c : Char} (h : c.isDigit = true) :
    asciiOctet c ≠ 0x0a ∧ asciiOctet c ≠ 0x23 := by
  have hdigit := toNat_of_isDigit h
  have hoctet := asciiOctet_toNat h
  constructor
  · intro heq
    have : c.toNat = 10 := hoctet.symm.trans (congrArg BitVec.toNat heq)
    omega
  · intro heq
    have : c.toNat = 35 := hoctet.symm.trans (congrArg BitVec.toNat heq)
    omega

/-- Neither a line feed nor `#` stands in a size. -/
theorem size_octets (h : DecimalSize field size ∨ SignedSize field size) :
    field ≠ [] ∧ ∀ b ∈ field, b ≠ 0x0a ∧ b ≠ 0x23 := by
  have hdigits {digits : List Char} (hdigits : ∀ c ∈ digits, c.isDigit = true) :
      ∀ b ∈ digits.map asciiOctet, b ≠ 0x0a ∧ b ≠ 0x23 := by
    intro b hb
    obtain ⟨c, hc, rfl⟩ := mem_map.mp hb
    exact asciiOctet_digit (hdigits c hc)
  obtain ⟨digits, rfl, hne, -, hall, -⟩ | ⟨digits, rfl, hne, hall, -⟩ := h
  · exact ⟨by simpa using hne, hdigits hall⟩
  · exact ⟨by simp, forall_mem_cons.mpr ⟨by decide, hdigits hall⟩⟩

theorem size_pos (h : DecimalSize field size ∨ SignedSize field size) : 0 < size := by
  obtain ⟨digits, -, hne, hzero, hdigits, hvalue, -⟩ | ⟨_, -, -, -, -, hpos, -⟩ := h
  · exact hvalue ▸ ofDigitChars_pos hne hzero hdigits
  · exact hpos

namespace SshCodec

/-- Where the size in front of a chunk ends. -/
theorem sizeEnd_header {more : Octets} (hshort : field.length ≤ maxChunkSizeLen)
    (hfield : ∀ b ∈ field, b ≠ 0x0a) :
    sizeEnd (chunkStart ++ (field ++ 0x0a :: more)) = some (some field.length) := by
  have hdrop : (chunkStart ++ (field ++ 0x0a :: more)).drop 2 = field ++ 0x0a :: more := rfl
  have htake : (field ++ 0x0a :: more).take 11 =
      field ++ 0x0a :: more.take (10 - field.length) := by
    have hlen : 11 - field.length = (10 - field.length) + 1 := by
      simp only [maxChunkSizeLen] at hshort
      omega
    rw [take_append, take_of_length_le (by simp only [maxChunkSizeLen] at hshort; omega),
      hlen, take_succ_cons]
  have hnone : field.findIdx? (fun b => decide (b = 0x0a)) = none := by
    rw [findIdx?_eq_none_iff]
    intro b hb
    exact decide_eq_false (hfield b hb)
  rw [sizeEnd_eq, hdrop, htake, findIdx?_append, hnone, findIdx?_cons]
  simp

/-- The end of a message is at the front exactly if it is taken off. -/
theorem chunkStep_terminator : chunkStep d codec src = .terminator rest ↔ src = messageTerminator ++ rest := by
  constructor
  · intro h
    have hfront := chunkStep_front (d := d) codec src
    rw [h] at hfront
    cases hfront
    rfl
  · rintro rfl
    have hlength (n : Nat) (hn : n ≤ 4) : ¬ (messageTerminator ++ rest).length < n := by
      rw [length_append]
      exact not_lt.mpr (le_trans hn (Nat.le_add_right 4 _))
    have hstart : chunkStart <+: messageTerminator ++ rest := ⟨0x23 :: 0x0a :: rest, rfl⟩
    have hend : messageTerminator <+: messageTerminator ++ rest := prefix_append _ _
    rw [chunkStep, if_neg (hlength _ (by decide)), if_neg (not_not.mpr hstart),
      if_neg (hlength _ (by decide)),
      if_pos (show (messageTerminator ++ rest)[chunkStart.length]? = some 0x23 from rfl),
      terminatorStep, if_neg (hlength messageTerminator.length le_rfl), if_neg (not_not.mpr hend)]
    rfl

/-- A header that is not the end of a message. -/
theorem chunkStep_header {more : Octets} (hfield : ∀ b ∈ field, b ≠ 0x0a)
    (hmark : field.head? ≠ some 0x23) :
    chunkStep d codec (chunkStart ++ (field ++ 0x0a :: more)) =
      if field.length ≤ maxChunkSizeLen then
        match parseChunkSize d field with
        | .error err => .fail err
        | .ok size => codec.sizedChunk (chunkStart ++ (field ++ 0x0a :: more))
            (chunkStart.length + field.length + 1) size
      else .fail (.io "Chunk size is not properly terminated with a newline") := by
  have hlength : ¬ (chunkStart ++ (field ++ 0x0a :: more)).length < chunkStart.length + 1 := by
    simp only [length_append, length_cons]
    omega
  have hstart : chunkStart <+: chunkStart ++ (field ++ 0x0a :: more) := prefix_append _ _
  have hnext : (chunkStart ++ (field ++ 0x0a :: more))[chunkStart.length]? ≠ some 0x23 := by
    rw [getElem?_append_right le_rfl, Nat.sub_self, ← head?_eq_getElem?]
    cases field with
    | nil => exact fun h => by cases h
    | cons b field => exact hmark
  rw [chunkStep, if_neg (fun h => hlength (Nat.lt_succ_of_lt h)), if_neg (not_not.mpr hstart),
    if_neg hlength, if_neg hnext, chunkHeader]
  by_cases hshort : field.length ≤ maxChunkSizeLen
  · rw [sizeEnd_header hshort hfield, if_pos hshort]
    cases hsize : parseChunkSize d field <;> simp [hsize]
  · rw [if_neg hshort]
    have hnone : (((chunkStart ++ (field ++ 0x0a :: more)).drop 2).take 11).findIdx?
        (fun b => decide (b = 0x0a)) = none := by
      have hdrop : (chunkStart ++ (field ++ 0x0a :: more)).drop 2 = field ++ 0x0a :: more := rfl
      rw [hdrop, take_append_of_le_length (by simp only [maxChunkSizeLen] at hshort; omega),
        findIdx?_eq_none_iff]
      intro b hb
      exact decide_eq_false (hfield b (mem_of_mem_take hb))
    have hlong : 11 ≤ ((chunkStart ++ (field ++ 0x0a :: more)).drop 2).length := by
      simp only [maxChunkSizeLen, chunkStart, length_drop, length_append, length_cons,
        length_nil] at hshort ⊢
      omega
    rw [sizeEnd_eq, hnone]
    simp only [hlong, if_true]

/-- A chunk is taken off if its size is accepted and the message does not get too large. -/
theorem chunkStep_chunk (hutf : d.ReadsUtf8) {data : Octets} :
    chunkStep d codec src = .chunk data rest ↔
      ∃ field, src = Chunk.octets ⟨field, data⟩ ++ rest ∧ Chunk.Sized ⟨field, data⟩ ∧
        codec.buf.length + data.length ≤ codec.maxMessageSize := by
  constructor
  · intro h
    have hfront := chunkStep_front (d := d) codec src
    rw [h] at hfront
    cases hfront with
    | chunk hsize hshort hroom =>
      exact ⟨_, by simp [Chunk.octets], ⟨(parseChunkSize_eq_ok hutf).mp hsize, hshort⟩, hroom⟩
  · rintro ⟨field, rfl, ⟨hsize, hshort⟩, hroom⟩
    obtain ⟨hne, hfield⟩ := size_octets hsize
    have hmark : field.head? ≠ some 0x23 := fun h => (hfield _ (mem_of_mem_head? h)).2 rfl
    have hsrc : Chunk.octets ⟨field, data⟩ ++ rest = chunkStart ++ (field ++ 0x0a :: (data ++ rest)) := by
      simp [Chunk.octets]
    have hdrop := drop_header field (data ++ rest)
    have hnone : List.drop _ _ = data ++ rest := hdrop 0
    have hlong : ¬ (chunkStart ++ (field ++ 0x0a :: (data ++ rest))).length <
        chunkStart.length + field.length + 1 + data.length := by
      simp only [length_append, length_cons]
      omega
    rw [hsrc, chunkStep_header (fun b hb => (hfield b hb).1) hmark, if_pos hshort,
      (parseChunkSize_eq_ok hutf).mpr hsize]
    simp only [sizedChunk, if_neg (not_lt.mpr hroom), if_neg hlong, hdrop, hnone, drop_left,
      take_left]

end SshCodec

/-! ## The payload -/

variable (d) in
/-- The framing alone: an XML layer that hands back the octets it was given. -/
def Deserializers.framing : Deserializers Octets Octets ParsingError Utf8Error where
  fromUtf8 := d.fromUtf8
  hello := .ok
  hasBase11 _ := true
  ofHello := id
  message := .ok

namespace SshCodec

variable {payload : Octets}

variable (d) in
/-- What the XML layer makes of a message. If it refuses the payload, the end of the message
stays in the buffer. -/
def handOver : Called Octets ParsingError Utf8Error → Called NetConfMessage ParsingError Utf8Error
  | (codec, rest, .ok (some payload)) =>
    match d.message payload with
    | .error err => (codec, messageTerminator ++ rest, .error (.parsing err))
    | .ok parsed => (codec, rest, .ok (some parsed))
  | (codec, rest, .ok none) => (codec, rest, .ok none)
  | (codec, rest, .error err) => (codec, rest, .error err)

/-- The chunks are decoded without looking at what is in them. -/
theorem decodeChunks_eq_framing (codec : SshCodec) (src : Octets) :
    decodeChunks d codec src = handOver d (decodeChunks d.framing codec src) := by
  have hloop (rounds : Nat) (codec : SshCodec) (src : Octets) :
      chunkLoop d rounds codec src = handOver d (chunkLoop d.framing rounds codec src) := by
    induction rounds generalizing codec src with
    | zero => rfl
    | succ rounds ih =>
      have hstep : chunkStep d.framing codec src = chunkStep d codec src := rfl
      rw [chunkLoop, chunkLoop, hstep]
      cases hnext : chunkStep d codec src with
      | wait | fail err => rfl
      | chunk data rest => exact ih _ _
      | terminator rest =>
        rw [chunkStep_terminator.mp hnext]
        cases hmessage : d.message codec.buf <;> simp [Deserializers.framing, handOver, hmessage]
  exact hloop _ codec src

/-- A message is decoded to the data of its chunks, behind what came before. -/
theorem decodeChunks_message (codec : SshCodec) (hutf : d.ReadsUtf8) (chunks : List Chunk)
    (hsized : ∀ chunk ∈ chunks, chunk.Sized) (rest : Octets)
    (hfits : (codec.buf ++ messageData chunks).length ≤ codec.maxMessageSize) :
    decodeChunks d.framing codec (messageOctets chunks ++ rest) =
      ({ codec with buf := [] }, rest, .ok (some (codec.buf ++ messageData chunks))) := by
  induction chunks generalizing codec with
  | nil =>
    have hstep : chunkStep d.framing codec (messageTerminator ++ rest) = .terminator rest :=
      chunkStep_terminator.mpr rfl
    show decodeChunks d.framing codec (messageTerminator ++ rest) = _
    rw [decodeChunks, chunkLoop, hstep]
    simp [Deserializers.framing, messageData]
  | cons chunk chunks ih =>
    rw [forall_mem_cons] at hsized
    have hdata : messageData (chunk :: chunks) = chunk.data ++ messageData chunks := rfl
    have hoctets : messageOctets (chunk :: chunks) ++ rest =
        chunk.octets ++ (messageOctets chunks ++ rest) := by
      simp [messageOctets]
    rw [hdata, ← append_assoc] at hfits
    have hroom : codec.buf.length + chunk.data.length ≤ codec.maxMessageSize := by
      simp only [length_append] at hfits
      omega
    have hstep : chunkStep d.framing codec (messageOctets (chunk :: chunks) ++ rest) =
        .chunk chunk.data (messageOctets chunks ++ rest) :=
      (chunkStep_chunk hutf).mpr ⟨chunk.field, hoctets, hsized.1, hroom⟩
    have hrest := ih { codec with buf := codec.buf ++ chunk.data } hsized.2 hfits
    rw [decodeChunks_chunk hstep, hrest, hdata, append_assoc]

/-- So it is when nothing came before. -/
theorem decodeChunks_whole (hutf : d.ReadsUtf8) (hbuf : codec.buf = []) {chunks : List Chunk}
    (hsized : ∀ chunk ∈ chunks, chunk.Sized)
    (hfits : (messageData chunks).length ≤ codec.maxMessageSize) (rest : Octets) :
    decodeChunks d.framing codec (messageOctets chunks ++ rest) =
      (codec, rest, .ok (some (messageData chunks))) := by
  have hwhole := decodeChunks_message codec hutf chunks hsized rest (by rwa [hbuf, nil_append])
  have hsame : { codec with buf := [] } = codec := by rw [← hbuf]
  rwa [hsame, hbuf, nil_append] at hwhole

/-- Whatever is handed to the XML layer is the data of the chunks in front of it, and is not
larger than allowed. -/
theorem message_of_decodeChunks (hutf : d.ReadsUtf8) (hbuf : codec.buf.length ≤ codec.maxMessageSize)
    (h : decodeChunks d.framing codec src = (codec', rest, .ok (some payload))) :
    ∃ chunks : List Chunk, (∀ chunk ∈ chunks, chunk.Sized) ∧ src = messageOctets chunks ++ rest ∧
      payload = codec.buf ++ messageData chunks ∧ payload.length ≤ codec.maxMessageSize := by
  induction hlen : src.length using Nat.strongRecOn generalizing codec src with
  | _ n ih =>
    cases hstep : chunkStep d.framing codec src with
    | wait | fail err =>
      rw [decodeChunks, chunkLoop, hstep] at h
      cases h
    | terminator left =>
      rw [decodeChunks, chunkLoop, hstep] at h
      cases h
      exact ⟨[], by simp, chunkStep_terminator.mp hstep, by simp [messageData], hbuf⟩
    | chunk data left =>
      have hprogress := rest_lt_of_chunk hstep
      obtain ⟨field, rfl, hsized, hroom⟩ := (chunkStep_chunk hutf).mp hstep
      rw [decodeChunks_chunk hstep] at h
      obtain ⟨chunks, hall, rfl, rfl, hfits⟩ :=
        ih left.length (by omega) (by simpa using hroom) h rfl
      refine ⟨⟨field, data⟩ :: chunks, forall_mem_cons.mpr ⟨hsized, hall⟩, ?_, ?_, hfits⟩
      · simp [messageOctets]
      · simp [messageData]

variable (d) in
/-- The octets arrive in parts, with a call after each, until one returns something. -/
def receive : SshCodec → Octets → List Octets → Called NetConfMessage ParsingError Utf8Error
  | codec, src, [] => (codec, src, .ok none)
  | codec, src, arrival :: arrivals =>
    match decode d codec (src ++ arrival) with
    | (codec, rest, .ok none) => receive codec rest arrivals
    | result => result

/-- What the octets of all parts give together, by what the calls after each give. -/
def Agrees (whole : Called NetConfMessage ParsingError Utf8Error) :
    Called NetConfMessage ParsingError Utf8Error → Prop
  | (codec, rest, .ok (some item)) => ∃ unread, whole = (codec, rest ++ unread, .ok (some item))
  | (codec, rest, .ok none) => whole = (codec, rest, .ok none)
  | (_, _, .error _) => ∃ codec rest err, whole = (codec, rest, .error err)

/-- It does not matter how a message arrives. -/
theorem receive_agrees (src : Octets) (arrivals : List Octets) (hmode : codec.inHello = false)
    (hwaits : decodeChunks d codec src = (codec, src, .ok none)) :
    Agrees (decodeChunks d codec (src ++ arrivals.flatten)) (receive d codec src arrivals) := by
  induction arrivals generalizing codec src with
  | nil => rwa [flatten_nil, append_nil]
  | cons arrival arrivals ih =>
    have hsettles := decodeChunks_settles (d := d) codec (src ++ arrival) arrivals.flatten
    have hnow := decodeChunks_settles (d := d) codec (src ++ arrival) []
    rw [receive, decode_eq_chunks hmode, flatten_cons, ← append_assoc]
    cases hcalled : decodeChunks d codec (src ++ arrival) with
    | mk codec₁ called =>
      rw [hcalled] at hsettles hnow
      obtain ⟨rest₁, _ | _ | item₁⟩ := called
      · exact hsettles
      · have hsame := hnow.2.2
        rw [append_nil, append_nil, hcalled] at hsame
        rw [hsettles.2.2]
        exact ih rest₁ (hsettles.2.1.trans hmode) hsame.symm
      · exact ⟨arrivals.flatten, hsettles.2.2⟩

/-! ## Headers -/

variable (d) in
/-- A header alone is accepted if the codec then waits for the data, or finds that the
message would get too large. -/
def Accepts (codec : SshCodec) (field : Octets) : Prop :=
  let maxMessageSize := codec.maxMessageSize
  (decode d codec (chunkStart ++ (field ++ [0x0a]))).2.2 = .ok none ∨
    (decode d codec (chunkStart ++ (field ++ [0x0a]))).2.2 =
      .error (.io s!"Reassembled message exceeds maximum allowed size of {maxMessageSize} bytes")

theorem parseChunkSize_error {err : SshCodecError ParsingError Utf8Error} (n : Nat)
    (h : parseChunkSize d field = .error err) :
    err ≠ .io s!"Reassembled message exceeds maximum allowed size of {n} bytes" := by
  have hfirst {text : String} (htext : text.toList.head? = some 'I') :
      (SshCodecError.io text : SshCodecError ParsingError Utf8Error) ≠
        .io s!"Reassembled message exceeds maximum allowed size of {n} bytes" := by
    intro heq
    rw [SshCodecError.io.inj heq] at htext
    simp [String.toList_append, toString] at htext
  rw [parseChunkSize] at h
  split at h
  · cases h
    exact fun heq => by cases heq
  · split at h
    · cases h
      exact hfirst (by simp [String.toList_append, toString])
    · split at h
      · cases h
        exact fun heq => by cases heq
      · split at h
        · cases h
          exact hfirst (by simp [String.toList_append, toString])
        · cases h

theorem sizedChunk_empty (hpos : 0 < size) :
    (codec.sizedChunk (chunkStart ++ (field ++ [0x0a])) (chunkStart.length + field.length + 1) size :
        ChunkStep ParsingError Utf8Error) = .wait ∨
      (codec.sizedChunk (chunkStart ++ (field ++ [0x0a])) (chunkStart.length + field.length + 1) size :
        ChunkStep ParsingError Utf8Error) =
          let maxMessageSize := codec.maxMessageSize
          .fail (.io s!"Reassembled message exceeds maximum allowed size of {maxMessageSize} bytes") := by
  rw [sizedChunk]
  split
  · exact .inr rfl
  · have hshort : (chunkStart ++ (field ++ [0x0a])).length <
        chunkStart.length + field.length + 1 + size := by
      simp only [length_append, length_cons, length_nil]
      omega
    exact .inl (if_pos hshort)

/-- A line that begins with `##` and goes on is refused. -/
theorem chunkStep_malformed {b : Octet} {more : Octets} (hb : b ≠ 0x0a) :
    chunkStep d codec (chunkStart ++ (0x23 :: b :: more)) = .fail (.io "Malformed message terminator") := by
  have hlength (n : Nat) (hn : n ≤ 4) : ¬ (chunkStart ++ (0x23 :: b :: more)).length < n := by
    rw [length_append]
    simp only [chunkStart, length_cons, length_nil]
    omega
  have hstart : chunkStart <+: chunkStart ++ (0x23 :: b :: more) := prefix_append _ _
  have hend : ¬ messageTerminator <+: chunkStart ++ (0x23 :: b :: more) := by
    rintro ⟨rest, h⟩
    simp only [messageTerminator, chunkStart, cons_append, nil_append, List.cons.injEq,
      true_and] at h
    exact hb h.1.symm
  rw [chunkStep, if_neg (hlength _ (by decide)), if_neg (not_not.mpr hstart),
    if_neg (hlength _ (by decide)),
    if_pos (show (chunkStart ++ (0x23 :: b :: more))[chunkStart.length]? = some 0x23 from rfl),
    terminatorStep, if_neg (hlength messageTerminator.length le_rfl), if_pos hend]

/-- The headers that are accepted. -/
theorem accepts_iff (hutf : d.ReadsUtf8) (hmode : codec.inHello = false)
    (hfield : ∀ b ∈ field, b ≠ 0x0a) :
    Accepts d codec field ↔
      field.length ≤ maxChunkSizeLen ∧ ∃ size, DecimalSize field size ∨ SignedSize field size := by
  have hwait (h : chunkStep d codec (chunkStart ++ (field ++ [0x0a])) = .wait) :
      Accepts d codec field := by
    rw [Accepts, decode_eq_chunks hmode, decodeChunks, chunkLoop, h]
    exact .inl rfl
  have hfail {err : SshCodecError ParsingError Utf8Error}
      (h : chunkStep d codec (chunkStart ++ (field ++ [0x0a])) = .fail err) :
      Accepts d codec field ↔
        let maxMessageSize := codec.maxMessageSize
        err = .io s!"Reassembled message exceeds maximum allowed size of {maxMessageSize} bytes" := by
    rw [Accepts, decode_eq_chunks hmode, decodeChunks, chunkLoop, h]
    simp
  by_cases hmark : field.head? = some 0x23
  · -- the end of a message, or something like it
    obtain ⟨more, rfl⟩ : ∃ more, field = 0x23 :: more := by
      cases field with
      | nil => cases hmark
      | cons b field => exact ⟨field, by cases hmark; rfl⟩
    refine iff_of_false ?_ ?_
    swap
    · rintro ⟨-, size, hsize⟩
      exact ((size_octets hsize).2 _ mem_cons_self).2 rfl
    cases more with
    | nil =>
      have hend : chunkStep d codec (chunkStart ++ ([0x23] ++ [0x0a])) = .terminator [] :=
        chunkStep_terminator.mpr rfl
      rw [Accepts, decode_eq_chunks hmode, decodeChunks, chunkLoop, hend]
      cases d.message codec.buf <;> simp
    | cons b more =>
      have hb : b ≠ 0x0a := hfield b (mem_cons_of_mem _ mem_cons_self)
      rw [hfail (chunkStep_malformed hb), SshCodecError.io.injEq]
      intro h
      have := congrArg (fun text => text.toList.head?) h
      simp [String.toList_append, toString] at this
  · have hheader : chunkStep d codec (chunkStart ++ (field ++ [0x0a])) = _ :=
      chunkStep_header hfield hmark
    by_cases hshort : field.length ≤ maxChunkSizeLen
    · rw [if_pos hshort] at hheader
      cases hsize : parseChunkSize d field with
      | error err =>
        rw [hsize] at hheader
        rw [hfail hheader]
        refine iff_of_false (parseChunkSize_error _ hsize) ?_
        rintro ⟨-, size, hsized⟩
        cases hsize.symm.trans ((parseChunkSize_eq_ok hutf).mpr hsized)
      | ok size =>
        have hsized := (parseChunkSize_eq_ok hutf).mp hsize
        rw [hsize] at hheader
        refine iff_of_true ?_ ⟨hshort, size, hsized⟩
        obtain hnone | hlarge := @sizedChunk_empty field size ParsingError Utf8Error codec (size_pos hsized)
        · exact hwait (hheader.trans hnone)
        · exact (hfail (hheader.trans hlarge)).mpr rfl
    · rw [if_neg hshort] at hheader
      rw [hfail hheader, SshCodecError.io.injEq]
      refine iff_of_false (fun h => ?_) fun h => hshort h.1
      have := congrArg (fun text => text.toList.head?) h
      simp [String.toList_append, toString] at this

end SshCodec

/-! ## Encoding -/

def xmlHeader : Octets := stringOctets "<?xml version=\"1.0\" encoding=\"utf-8\"?>"

/-- The writer of XML. -/
structure Serializer (NetConfMessage SerializationError : Type) where
  isHello : NetConfMessage → Bool
  xml : NetConfMessage → Except SerializationError Octets

/-- What is written is a document: it is not empty, and the end of a hello stands nowhere in it. -/
structure Serializer.WritesDocuments {SerializationError : Type}
    (s : Serializer NetConfMessage SerializationError) : Prop where
  nonempty : ∀ item buf, s.xml item = .ok buf → buf ≠ []
  terminated : ∀ item buf, s.isHello item = true → s.xml item = .ok buf →
    firstAt helloTerminator (xmlHeader ++ buf ++ helloTerminator) = some (xmlHeader ++ buf).length

/-- The chunk of a payload. -/
def Chunk.of (payload : Octets) : Chunk := ⟨stringOctets (toString payload.length), payload⟩

def SshCodec.encode {SerializationError : Type} (s : Serializer NetConfMessage SerializationError)
    (item : NetConfMessage) (dst : Octets) : Octets × Except SerializationError Unit :=
  match s.xml item with
  | .error err => (dst, .error err)
  | .ok buf =>
    if s.isHello item then (dst ++ xmlHeader ++ buf ++ helloTerminator, .ok ())
    else
      let size := buf.length
      (dst ++ (chunkStart ++ stringOctets s!"{size}\n") ++ buf ++ messageTerminator, .ok ())

theorem stringOctets_append (text more : String) :
    stringOctets (text ++ more) = stringOctets text ++ stringOctets more := by
  rw [stringOctets_eq, stringOctets_eq, stringOctets_eq, String.toList_append, flatMap_append]

theorem toDigits_head {n : Nat} (h : 0 < n) : (Nat.toDigits 10 n).head? ≠ some '0' := by
  induction n using Nat.strongRecOn with
  | _ n ih =>
    by_cases hsmall : n < 10
    · have hdigit : ∀ m < 10, 0 < m → m.digitChar ≠ '0' := by decide
      rw [Nat.toDigits_of_lt_base hsmall]
      exact fun heq => hdigit n hsmall h (Option.some.inj heq)
    · rw [Nat.toDigits_of_base_le (by decide) (not_lt.mp hsmall), head?_append]
      have hfront := ih (n / 10) (by omega) (by omega)
      cases hhead : (Nat.toDigits 10 (n / 10)).head? with
      | none => exact absurd (head?_eq_none_iff.mp hhead) Nat.toDigits_ne_nil
      | some c => rwa [hhead] at hfront

/-- The size that is written is one that is read. -/
theorem Chunk.sized_of {payload : Octets} (hne : payload ≠ []) (hmax : payload.length ≤ maxChunkSize) :
    (Chunk.of payload).Sized := by
  have hdigits : ∀ c ∈ Nat.toDigits 10 payload.length, c.isDigit = true :=
    fun c hc => Nat.isDigit_of_mem_toDigits (by decide) (by decide) hc
  have hfield : (Chunk.of payload).field = (Nat.toDigits 10 payload.length).map asciiOctet := by
    rw [Chunk.of, Nat.toString_eq_ofList_toDigits, stringOctets_ascii, String.toList_ofList]
    rw [String.toList_ofList]
    exact fun c hc => ascii_of_isDigit (hdigits c hc)
  refine ⟨.inl ⟨_, hfield, Nat.toDigits_ne_nil, toDigits_head (length_pos_of_ne_nil hne),
    hdigits, Nat.ofDigitChars_ten_toDigits, hmax⟩, ?_⟩
  rw [hfield, length_map]
  exact (Nat.length_toDigits_le_iff (by decide) (by decide)).mpr (lt_of_le_of_lt hmax (by decide))

namespace SshCodec

variable {SerializationError : Type} {s : Serializer NetConfMessage SerializationError}
  {item : NetConfMessage} {buf : Octets}

theorem encode_message (hhello : s.isHello item = false) (hxml : s.xml item = .ok buf) :
    encode s item [] = (messageOctets [Chunk.of buf], .ok ()) := by
  have hline : stringOctets "\n" = [0x0a] := by decide
  simp [encode, hxml, hhello, messageOctets, Chunk.octets, Chunk.of, stringOctets_append, hline,
    toString]

theorem encode_hello (hhello : s.isHello item = true) (hxml : s.xml item = .ok buf) :
    encode s item [] = (xmlHeader ++ buf ++ helloTerminator, .ok ()) := by
  simp [encode, hxml, hhello]

theorem decodeChunks_encoded (hutf : d.ReadsUtf8) (hs : s.WritesDocuments) (hbuf : codec.buf = [])
    (hhello : s.isHello item = false) (hxml : s.xml item = .ok buf)
    (hmax : buf.length ≤ maxChunkSize) (hlimit : buf.length ≤ codec.maxMessageSize) (more : Octets) :
    decodeChunks d.framing codec ((encode s item []).1 ++ more) = (codec, more, .ok (some buf)) := by
  have hdata : messageData [Chunk.of buf] = buf := by simp [messageData, Chunk.of]
  have hsized : ∀ chunk ∈ [Chunk.of buf], chunk.Sized :=
    forall_mem_singleton.mpr (Chunk.sized_of (hs.nonempty item buf hxml) hmax)
  have hwhole := decodeChunks_whole hutf hbuf hsized (by rwa [hdata]) more
  rw [encode_message hhello hxml]
  rwa [hdata] at hwhole

/-- A message that was encoded is recovered, however it arrives. -/
theorem receive_encoded (hutf : d.ReadsUtf8) (hs : s.WritesDocuments)
    (hmode : codec.inHello = false) (hbuf : codec.buf = []) (hhello : s.isHello item = false)
    (hxml : s.xml item = .ok buf) (hmax : buf.length ≤ maxChunkSize)
    (hlimit : buf.length ≤ codec.maxMessageSize) {arrivals : List Octets} {more : Octets}
    (harrivals : arrivals.flatten = (encode s item []).1 ++ more) :
    ∃ read unread, receive d.framing codec [] arrivals = (codec, read, .ok (some buf)) ∧
      more = read ++ unread := by
  have hagrees := receive_agrees (d := d.framing) [] arrivals hmode rfl
  rw [nil_append, harrivals, decodeChunks_encoded hutf hs hbuf hhello hxml hmax hlimit] at hagrees
  generalize receive d.framing codec [] arrivals = received at hagrees ⊢
  obtain ⟨codec₁, read, _ | _ | item₁⟩ := received
  · obtain ⟨_, _, _, herr⟩ := hagrees
    cases herr
  · cases hagrees
  · obtain ⟨unread, hwhole⟩ := hagrees
    cases hwhole
    exact ⟨read, unread, rfl, rfl⟩

/-- So is a hello. -/
theorem decode_encoded_hello (hs : s.WritesDocuments) (hmode : codec.inHello = true)
    (hscanned : codec.helloScanned = 0) (hhello : s.isHello item = true)
    (hxml : s.xml item = .ok buf) (hlimit : (xmlHeader ++ buf).length ≤ codec.maxMessageSize)
    (more : Octets) :
    decode d.framing codec ((encode s item []).1 ++ more) =
      ({ codec with inHello := false }, more, .ok (some (xmlHeader ++ buf))) := by
  have hstart : Scanned codec (xmlHeader ++ buf ++ helloTerminator ++ more) := fun place hplace =>
    absurd (hscanned ▸ hplace) (Nat.not_lt_zero place)
  have hfirst : firstAt helloTerminator (xmlHeader ++ buf ++ helloTerminator ++ more) = _ :=
    firstAt_append helloTerminator_ne_nil (hs.terminated item buf hhello hxml)
  rw [encode_hello hhello hxml, decode, if_pos hmode, decodeHello_eq hstart, hfirst]
  have htake : (xmlHeader ++ buf ++ helloTerminator ++ more).take (xmlHeader ++ buf).length =
      xmlHeader ++ buf := by
    rw [append_assoc _ helloTerminator, take_left]
  have hdrop : (xmlHeader ++ buf ++ helloTerminator ++ more).drop
      ((xmlHeader ++ buf).length + helloTerminator.length) = more := by
    rw [← length_append, drop_left]
  simp only [checkHelloSize, not_lt.mpr hlimit, if_false, htake, hdrop, parseHello,
    Deserializers.framing, if_true, id, hscanned]

/-! ## What holds of the framing -/

theorem not_decimal_of_signed {size' : Nat} (h : SignedSize field size) :
    ¬ DecimalSize field size' := by
  obtain ⟨signed, rfl, -⟩ := h
  rintro ⟨digits, heq, hne, -, hdigits, -⟩
  obtain ⟨c, digits, rfl⟩ := exists_cons_of_ne_nil hne
  have hdigit := hdigits c mem_cons_self
  have hvalue := congrArg BitVec.toNat (List.cons.inj heq).1
  rw [asciiOctet_toNat hdigit] at hvalue
  have hplus : (asciiOctet '+').toNat = 43 := by decide
  have hlow := (toNat_of_isDigit hdigit).1
  omega

/-- **Chunked framing.** A header is accepted exactly if its size is written as RFC 6242 says,
unless there is a plus sign in front of it. What is handed to the XML layer is the data of the
chunks of one message, within the limit, and what was encoded is recovered. -/
theorem chunk_framing_iff (d : Deserializers Hello NetConfMessage ParsingError Utf8Error)
    (s : Serializer NetConfMessage SerializationError) (hutf : d.ReadsUtf8) (hs : s.WritesDocuments)
    (codec : SshCodec) (hmode : codec.inHello = false) (field : Octets)
    (hfield : ∀ b ∈ field, b ≠ 0x0a) :
    ((Accepts d codec field ↔ ∃ size, DecimalSize field size) ↔
      ¬ (field.length ≤ maxChunkSizeLen ∧ ∃ size, SignedSize field size)) ∧
    (∀ src, decode d codec src = handOver d (decode d.framing codec src)) ∧
    (codec.buf = [] → ∀ arrivals codec' rest payload,
      receive d.framing codec [] arrivals = (codec', rest, .ok (some payload)) →
      ∃ chunks unread, (∀ chunk ∈ chunks, Chunk.Sized chunk) ∧
        arrivals.flatten = messageOctets chunks ++ rest ++ unread ∧
        payload = messageData chunks ∧ payload.length ≤ codec.maxMessageSize) ∧
    (codec.buf = [] → ∀ item buf arrivals more, s.isHello item = false → s.xml item = .ok buf →
      buf.length ≤ maxChunkSize → buf.length ≤ codec.maxMessageSize →
      arrivals.flatten = (encode s item []).1 ++ more →
      ∃ read unread, receive d.framing codec [] arrivals = (codec, read, .ok (some buf)) ∧
        more = read ++ unread) ∧
    ∀ item buf maxMessageSize more, s.isHello item = true → s.xml item = .ok buf →
      (xmlHeader ++ buf).length ≤ maxMessageSize →
      decode d.framing (withMaxMessageSize maxMessageSize) ((encode s item []).1 ++ more) =
        (⟨false, [], 0, maxMessageSize⟩, more, .ok (some (xmlHeader ++ buf))) := by
  refine ⟨?_, fun src => ?_, fun hbuf arrivals codec' rest payload h => ?_, ?_, ?_⟩
  · rw [accepts_iff hutf hmode hfield]
    constructor
    · rintro hsame ⟨hshort, size, hsigned⟩
      obtain ⟨size', hdecimal⟩ := hsame.mp ⟨hshort, size, .inr hsigned⟩
      exact not_decimal_of_signed hsigned hdecimal
    · intro hunsigned
      constructor
      · rintro ⟨hshort, size, hdecimal | hsigned⟩
        · exact ⟨size, hdecimal⟩
        · exact absurd ⟨hshort, size, hsigned⟩ hunsigned
      · rintro ⟨size, hdecimal⟩
        exact ⟨hdecimal.length_le, size, .inl hdecimal⟩
  · rw [decode_eq_chunks hmode, decode_eq_chunks hmode, decodeChunks_eq_framing]
  · have hagrees := receive_agrees (d := d.framing) [] arrivals hmode rfl
    rw [h] at hagrees
    obtain ⟨unread, hwhole⟩ := hagrees
    obtain ⟨chunks, hsized, hsrc, rfl, hfits⟩ :=
      message_of_decodeChunks hutf (by rw [hbuf]; exact Nat.zero_le _) hwhole
    rw [hbuf, nil_append] at hfits ⊢
    exact ⟨chunks, unread, hsized, by rw [append_assoc]; exact hsrc, rfl, hfits⟩
  · intro hbuf item buf arrivals more hhello hxml hmax hlimit harrivals
    exact receive_encoded hutf hs hmode hbuf hhello hxml hmax hlimit harrivals
  · intro item buf maxMessageSize more hhello hxml hlimit
    exact decode_encoded_hello hs rfl rfl hhello hxml hlimit more

/-! ## A payload that is refused -/

variable (d) in
/-- What the calls return that are made after each arrival. -/
def answers : SshCodec → Octets → List Octets →
      List (Except (SshCodecError ParsingError Utf8Error) (Option NetConfMessage))
  | _, _, [] => []
  | codec, src, arrival :: arrivals =>
    let (codec, rest, result) := decode d codec (src ++ arrival)
    result :: answers codec rest arrivals

variable (d) in
/-- A message gives one error and is skipped: all of it is taken off the buffer, and the calls
after it go as if it had not been there. -/
def Skips (codec : SshCodec) (message rest : Octets) : Prop :=
  ∃ codec' err, decode d codec (message ++ rest) = (codec', rest, .error err) ∧
    ∀ arrivals, answers d codec' rest arrivals = answers d codec rest arrivals

/-- **A message with a bad payload is never skipped**: its end stays in the buffer. -/
theorem bad_payload_not_skipped (d : Deserializers Hello NetConfMessage ParsingError Utf8Error)
    (hutf : d.ReadsUtf8) (codec : SshCodec) (hmode : codec.inHello = false) (hbuf : codec.buf = [])
    (chunks : List Chunk)
    (hsized : ∀ chunk ∈ chunks, DecimalSize chunk.field chunk.data.length)
    (hlimit : (messageData chunks).length ≤ codec.maxMessageSize) (err : ParsingError)
    (hbad : d.message (messageData chunks) = .error err) (rest : Octets) :
    decode d codec (messageOctets chunks ++ rest) =
        (codec, messageTerminator ++ rest, .error (.parsing err)) ∧
      ¬ Skips d codec (messageOctets chunks) rest := by
  have hall : ∀ chunk ∈ chunks, chunk.Sized := fun chunk hchunk =>
    ⟨.inl (hsized chunk hchunk), (hsized chunk hchunk).length_le⟩
  have hdecode : decode d codec (messageOctets chunks ++ rest) =
      (codec, messageTerminator ++ rest, .error (.parsing err)) := by
    rw [decode_eq_chunks hmode, decodeChunks_eq_framing, decodeChunks_whole hutf hbuf hall hlimit]
    simp only [handOver, hbad]
  refine ⟨hdecode, ?_⟩
  rintro ⟨codec', err', hskip, -⟩
  rw [hdecode] at hskip
  have hrest : messageTerminator ++ rest = rest := (Prod.ext_iff.mp (Prod.ext_iff.mp hskip).2).1
  have hlength := congrArg List.length hrest
  simp only [messageTerminator, length_append, length_cons, length_nil] at hlength
  omega

/-! ## Sessions -/

/-- A codec behind the hello, between two messages. -/
def between (maxMessageSize : Nat) : SshCodec := ⟨false, [], 0, maxMessageSize⟩

variable (d) in
/-- The message is written within the limits, and read back from what is written. -/
def Carried (s : Serializer NetConfMessage SerializationError) (maxMessageSize : Nat)
    (item : NetConfMessage) : Prop :=
  s.isHello item = false ∧ ∃ buf, s.xml item = .ok buf ∧ d.message buf = .ok item ∧
    buf.length ≤ maxChunkSize ∧ buf.length ≤ maxMessageSize

theorem Carried.decode (hutf : d.ReadsUtf8) (hs : s.WritesDocuments) {maxMessageSize : Nat}
    (h : Carried d s maxMessageSize item) (more : Octets) :
    more.length < ((encode s item []).1 ++ more).length ∧
      decode d (between maxMessageSize) ((encode s item []).1 ++ more) =
        (between maxMessageSize, more, .ok (some item)) := by
  obtain ⟨hhello, buf, hxml, hback, hmax, hlimit⟩ := h
  refine ⟨by rw [encode_message hhello hxml]; simp [messageOctets, messageTerminator]; omega, ?_⟩
  rw [decode_eq_chunks rfl, decodeChunks_eq_framing, decodeChunks_encoded hutf hs rfl hhello hxml hmax hlimit]
  simp only [handOver, hback]

/-- **Messages go through a session.** What one side encodes, message by message, the other decodes
to the same messages in the same order, however the octets are cut on their way. -/
theorem session_round_trip (hutf : d.ReadsUtf8) (hs : s.WritesDocuments) (maxMessageSize : Nat)
    (items : List NetConfMessage) (hitems : ∀ item ∈ items, Carried d s maxMessageSize item)
    (chunks : List Octets)
    (hchunks : chunks.flatten = items.flatMap fun item => (encode s item []).1) :
    feed (untilError (decode d)) (some (between maxMessageSize)) [] chunks =
      ⟨some (between maxMessageSize), [], items⟩ := by
  have hinv (buf future : Octets) : InSession d (some (between maxMessageSize)) buf future := nofun
  rw [incremental_decode.feed_eq (hinv _ _) rfl, hchunks, nil_append]
  clear hchunks
  induction items with
  | nil => exact Incremental.drain_none rfl
  | cons item items ih =>
    rw [forall_mem_cons] at hitems
    have hdecode := hitems.1.decode hutf hs
    have hreturns : Returns (untilError (decode d)) (some (between maxMessageSize))
        ((encode s item []).1 ++ items.flatMap fun item => (encode s item []).1) []
        (some (between maxMessageSize)) (items.flatMap fun item => (encode s item []).1) item :=
      returns_untilError (hdecode _).1 fun more _ => append_assoc .. ▸ (hdecode _).2
    rw [flatMap_cons, incremental_decode.drain_some hreturns (hinv _ _), ih hitems.2]
    rfl

end SshCodec

end Model

/-! ## Streams with and without a flaw -/

/-- Readers for which every text is a document but the empty one and an exclamation mark. -/
def textDeserializers : Deserializers Octets Octets Unit Unit where
  fromUtf8 slice := (stringFromOctets slice).elim (.error ()) .ok
  hello data := .ok data
  hasBase11 _ := true
  ofHello := id
  message data := if data = [] ∨ data = [0x21] then .error () else .ok data

theorem textDeserializers_readsUtf8 : textDeserializers.ReadsUtf8 := by
  intro octets text
  simp only [textDeserializers]
  constructor
  · intro h
    cases hread : stringFromOctets octets with
    | none =>
      rw [hread] at h
      cases h
    | some found =>
      rw [hread] at h
      cases h
      exact (stringOctets_of_stringFromOctets hread).symm
  · rintro rfl
    rw [stringFromOctets_stringOctets]
    rfl

/-- One document for every hello; every other message is its own. -/
def documents : Serializer Octets Unit where
  isHello item := item = [0x68]
  xml item :=
    if item = [0x68] then .ok (stringOctets "<hello/>") else if item = [] then .error () else .ok item

theorem documents_writesDocuments : documents.WritesDocuments where
  nonempty item buf h := by
    simp only [documents] at h
    split_ifs at h with hhello hempty
    · cases h
      decide
    · cases h
      exact hempty
  terminated item buf hhello h := by
    simp only [documents, if_pos (of_decide_eq_true hhello)] at h
    cases h
    decide +kernel

/-- A codec behind the hello. -/
def chunkCodec : SshCodec := ⟨false, [], 0, 100⟩

theorem chunk_framing_five :
    (SshCodec.Accepts textDeserializers chunkCodec [0x35] ↔ ∃ size, DecimalSize [0x35] size) ∧
      DecimalSize [0x35] 5 := by
  have hfive : DecimalSize [0x35] 5 := ⟨['5'], rfl, by simp [maxChunkSize, Nat.ofDigitChars]⟩
  have hframing := SshCodec.chunk_framing_iff textDeserializers documents
    textDeserializers_readsUtf8 documents_writesDocuments chunkCodec rfl [0x35] (by decide)
  refine ⟨hframing.1.mpr ?_, hfive⟩
  rintro ⟨-, size, hsigned⟩
  exact SshCodec.not_decimal_of_signed hsigned hfive

/-- The size `+5` is taken for five. -/
theorem signed_size_accepted :
    SshCodec.decode textDeserializers.framing chunkCodec
        (stringOctets "\n#+5\nhello\n##\n") = (chunkCodec, [], .ok (some (stringOctets "hello"))) ∧
      ¬ ∃ size, DecimalSize (stringOctets "+5") size := by
  refine ⟨rfl, ?_⟩
  rintro ⟨size, hdecimal⟩
  exact SshCodec.not_decimal_of_signed (show SignedSize _ 5 from ⟨['5'], rfl, by simp [maxChunkSize, Nat.ofDigitChars]⟩) hdecimal

theorem bad_payload_kept :
    SshCodec.decode textDeserializers chunkCodec (stringOctets "\n#1\n!\n##\n\n#2\nok\n##\n") =
      (chunkCodec, stringOctets "\n##\n\n#2\nok\n##\n", .error (.parsing ())) :=
  (SshCodec.bad_payload_not_skipped textDeserializers textDeserializers_readsUtf8 chunkCodec rfl rfl
    [⟨[0x31], [0x21]⟩] (by simp; exact ⟨['1'], rfl, by simp [maxChunkSize, Nat.ofDigitChars]⟩) (by decide) () rfl
    (stringOctets "\n#2\nok\n##\n")).1

/-- After a message that is refused, a good one is never reached. -/
theorem good_message_unreached :
    SshCodec.answers textDeserializers chunkCodec []
        [stringOctets "\n#1\n!\n##\n", stringOctets "\n#2\nok\n##\n", []] =
      [.error (.parsing ()), .error (.parsing ()), .error (.parsing ())] ∧
    SshCodec.answers textDeserializers chunkCodec [] [stringOctets "\n#2\nok\n##\n"] =
      [.ok (some (stringOctets "ok"))] :=
  ⟨rfl, rfl⟩

/-- Two messages, cut behind the first octet of a terminator. -/
theorem session_round_trip_rpcs : feed (untilError (SshCodec.decode textDeserializers))
    (some (.between 100)) [] [stringOctets "\n#6\n<rpc/>\n#", stringOctets "#\n\n#8\n<close/>\n##\n"] =
      ⟨some (.between 100), [], [stringOctets "<rpc/>", stringOctets "<close/>"]⟩ :=
  SshCodec.session_round_trip textDeserializers_readsUtf8 documents_writesDocuments 100 _
    (forall_mem_cons.mpr ⟨⟨by decide, _, rfl, by decide, by decide, by decide⟩,
      forall_mem_singleton.mpr ⟨by decide, _, rfl, by decide, by decide, by decide⟩⟩) _
    (by decide +kernel)

end NetCalyx.Netconf
