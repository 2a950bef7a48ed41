import NetCalyx.UdpNotif.Packet

/-!
# Encoding of UDP-Notif packets

The first octet packs a version, a flag for private media types and the media type.
The length of the header and that of the message follow, then the two ids, the options
and the payload. The options are written in the order in which the map is iterated.
-/

namespace NetCalyx.UdpNotif
open Wire Collections List

/-! ## Options -/

inductive UdpNotifOptionParsingError where
  | nomError (kind : ErrorKind)
  | invalidOptionLength (length : BitVec 8)

instance : NomError UdpNotifOptionParsingError := ⟨.nomError⟩

namespace UdpNotifOption

def len : UdpNotifOption → Nat
  | segment _ _ => 2 + 2
  | privateEncoding value => 2 + value.length
  | unknown _ value => 2 + value.length

/-- The number is shifted without a check; a length is narrowed without one. -/
def write : UdpNotifOption → Octets
  | segment number last => 1 :: 4 :: octets ((number <<< 1) ||| (if last then 1 else 0))
  | privateEncoding value => 2 :: (BitVec.ofNat 8 value.length + 2) :: value
  | unknown typ value => typ :: (BitVec.ofNat 8 value.length + 2) :: value

/-- A segment number of fifteen bits, and the flag of the last segment. -/
def parseSegment : Parser UdpNotifOptionParsingError UdpNotifOption := do
  let high ← beU8
  let low ← beU8
  return segment ((high.setWidth 16 <<< 7) ||| (low.setWidth 16 >>> 1)) (low &&& 1 ≠ 0)

def fromWire : Parser UdpNotifOptionParsingError UdpNotifOption := do
  let typ ← beU8
  let optionLen ← beU8
  if optionLen < 2 then .fail (.invalidOptionLength optionLen)
  else
    let value ← take (optionLen - 2).toNat
    if typ = 1 then .within value parseSegment
    else if typ = 2 then return privateEncoding value
    else return unknown typ value

/-! Round trip -/

theorem write_length (option : UdpNotifOption) : option.write.length = option.len := by
  cases option <;> simp [write, len] <;> omega

/-- The fields of an option hold its value, and its code is not that of another kind. -/
def Fits : UdpNotifOption → Prop
  | segment number _ => number.toNat < 2 ^ 15
  | privateEncoding value => value.length ≤ 253
  | unknown typ value => typ ≠ 1 ∧ typ ≠ 2 ∧ value.length ≤ 253

theorem octets_u16 (v : BitVec 16) : octets v = [(v >>> 8).setWidth 8, v.setWidth 8] := by
  simp only [octets, toBe, List.cons.injEq, and_true]
  constructor <;> apply BitVec.eq_of_toNat_eq <;> simp [Nat.shiftRight_eq_div_pow]

/-- The two octets, shifted apart, are the number without the flag. -/
theorem join_octets (v : BitVec 16) :
    (((v >>> 8).setWidth 8).setWidth 16 <<< 7) ||| ((v.setWidth 8).setWidth 16 >>> 1) = v >>> 1 := by
  ext i hi
  simp only [BitVec.getElem_or, BitVec.getElem_shiftLeft, BitVec.getElem_ushiftRight]
  grind

theorem number_of_packed {number : BitVec 16} (h : number.toNat < 2 ^ 15) (last : Bool) :
    ((number <<< 1) ||| (if last then 1 else 0)) >>> 1 = number := by
  have hmsb : number.msb = false := by
    rw [BitVec.msb_eq_false_iff_two_mul_lt]
    omega
  have htop : number.getLsbD 15 = false := by simpa [BitVec.msb_eq_getLsbD_last] using hmsb
  ext i hi
  cases last <;> simp <;> grind

theorem last_of_packed (number : BitVec 16) (last : Bool) :
    decide (((number <<< 1) ||| (if last then 1 else 0)).setWidth 8 &&& (1 : BitVec 8) ≠ 0) = last := by
  cases last with
  | false =>
    simp only [Bool.false_eq_true, if_false, decide_eq_false_iff_not, not_not]
    ext i hi
    simp
    grind
  | true =>
    simp only [if_true, decide_eq_true_eq]
    intro h
    have := congrArg (BitVec.getLsbD · 0) h
    simp at this

theorem decodes_parseSegment {number : BitVec 16} (h : number.toNat < 2 ^ 15) (last : Bool) :
    Decodes parseSegment (octets ((number <<< 1) ||| (if last then 1 else 0)))
      (segment number last) := by
  rw [octets_u16]
  refine (decodes_beU8 _).bind <| (decodes_beU8 _).last ?_
  rw [join_octets, number_of_packed h, last_of_packed]
  exact Decodes.pure _

/-- An option behind its type, with the octets of its value. -/
theorem decodes_fromWire {typ : BitVec 8} {value : Octets} {option : UdpNotifOption}
    (hlen : value.length ≤ 253)
    (h : Decodes (if typ = 1 then .within value parseSegment
      else if typ = 2 then return privateEncoding value else return unknown typ value) [] option) :
    Decodes fromWire (typ :: (BitVec.ofNat 8 value.length + 2) :: value) option := by
  have hfield : (BitVec.ofNat 8 value.length + 2).toNat = value.length + 2 := by
    rw [BitVec.toNat_add, BitVec.toNat_ofNat, show (2 : BitVec 8).toNat = 2 by rfl]
    omega
  have hmin : ¬ BitVec.ofNat 8 value.length + 2 < 2 := by
    rw [BitVec.lt_def, hfield]
    simp
  have hrest : value.length = (BitVec.ofNat 8 value.length + 2 - 2).toNat := by
    rw [BitVec.add_sub_cancel, BitVec.toNat_ofNat]
    omega
  refine (decodes_beU8 typ).bind <| (decodes_beU8 _).bind ?_
  rw [if_neg hmin]
  exact (decodes_take hrest).last h

theorem decodes_write {option : UdpNotifOption} (h : option.Fits) :
    Decodes fromWire option.write option := by
  cases option with
  | segment number last =>
    have hlen := octets_length ((number <<< 1) ||| (if last then 1 else 0) : BitVec 16)
    have hread : Decodes fromWire (1 :: (BitVec.ofNat 8 _ + 2) :: _) (segment number last) :=
      decodes_fromWire (by rw [hlen]; decide) <| by
        rw [if_pos rfl]
        exact Decodes.within (decodes_parseSegment h last).run_nil
    rwa [hlen] at hread
  | privateEncoding value =>
    exact decodes_fromWire h (by simpa using Decodes.pure _)
  | unknown typ value =>
    obtain ⟨hone, htwo, hlen⟩ := h
    refine decodes_fromWire hlen ?_
    rw [if_neg hone, if_neg htwo]
    exact Decodes.pure _

/-- What is parsed as an unknown option has neither of the known codes. -/
theorem yields_fromWire : Yields fromWire fun option =>
    option.code ≠ .unknown 1 ∧ option.code ≠ .unknown 2 := by
  refine Yields.andThen fun typ => Yields.andThen fun optionLen => ?_
  split
  · exact Yields.fail
  · refine Yields.andThen fun value => ?_
    split
    · refine Yields.within (Yields.andThen fun high => Yields.andThen fun low => Yields.pure ?_)
      simp [code]
    · split
      · exact Yields.pure (by simp [code])
      · rename_i hone htwo
        exact Yields.pure ⟨fun h => hone (UdpNotifOptionCode.unknown.inj h),
          fun h => htwo (UdpNotifOptionCode.unknown.inj h)⟩

end UdpNotifOption

/-! ## Packets -/

inductive UdpNotifPacketParsingError where
  | nomError (kind : ErrorKind)
  | invalidVersion (version : BitVec 8)
  | invalidSFlag
  | udpNotifOptionError (err : UdpNotifOptionParsingError)
  | invalidHeaderLength (length : BitVec 8)
  | invalidMessageLength (length : BitVec 16)
  | privateEncodingOptionIsNotPresent

instance : NomError UdpNotifPacketParsingError := ⟨.nomError⟩

inductive UdpNotifPacketWritingError where
  | invalidHeaderLength (length : Nat)
  | invalidMessageLength (length : Nat)

namespace UdpNotifPacket

variable (pkt : UdpNotifPacket)

def headerLen : Nat :=
  12 + (pkt.options.entries.map (·.2.len)).sum

def len : Nat := pkt.headerLen + pkt.payload.length

/-- Version 1, the flag for media types that are not registered, and the media type. -/
def firstByte : BitVec 8 :=
  (1 <<< 5) ||| (if pkt.mediaType.isUnknown then 0x10 else 0) ||| pkt.mediaType.octet

def write (pkt : UdpNotifPacket) : Except UdpNotifPacketWritingError Octets :=
  if pkt.headerLen > 255 then .error (.invalidHeaderLength pkt.headerLen)
  else if pkt.len > 65535 then .error (.invalidMessageLength pkt.len)
  else .ok (pkt.firstByte :: BitVec.ofNat 8 pkt.headerLen :: (octets (BitVec.ofNat 16 pkt.len) ++
    (octets pkt.publisherId ++ (octets pkt.messageId ++
      (pkt.options.entries.flatMap (·.2.write) ++ pkt.payload)))))

/-- Later options replace earlier ones of the same code. -/
def collectOptions (options : List UdpNotifOption) : UdpNotifOptions :=
  options.foldl (fun m option => m.insert option.code option) ∅

/-- What stands behind the two lengths in the header: the ids and the options. -/
def parseHeader :
    Parser UdpNotifPacketParsingError (BitVec 32 × BitVec 32 × List UdpNotifOption) := do
  let _messageLength ← beU16
  let publisherId ← beU32
  let messageId ← beU32
  let options ← parseTillEmpty (UdpNotifOption.fromWire.mapErr .udpNotifOptionError)
  return (publisherId, messageId, options)

/-- A private media type needs the option for private encodings. -/
def privateIsCorrect (sFlag : Bool) (options : List UdpNotifOption) : Bool :=
  !sFlag || options.any (·.code = .privateEncoding)

/-- The packet behind its first octet. -/
def parseRest (sFlag : Bool) (mediaType : MediaType) (payloadLen : Nat) :
    Parser UdpNotifPacketParsingError UdpNotifPacket := do
  let headerLen ← beU8
  if headerLen < 2 then .fail (.invalidHeaderLength headerLen)
  else
    let buf ← .input
    if buf.length < (headerLen - 2).toNat then .fail (.invalidHeaderLength headerLen)
    else
      let headerBuf ← take (headerLen - 2).toNat
      let (publisherId, messageId, options) ← .within headerBuf parseHeader
      if privateIsCorrect sFlag options then
        let payload ← take payloadLen
        return ⟨mediaType, publisherId, messageId, collectOptions options, payload⟩
      else .fail .privateEncodingOptionIsNotPresent

def fromWire : Parser UdpNotifPacketParsingError UdpNotifPacket := do
  let input ← .input
  if input.length < 12 then .fail (.nomError .eof)
  else
    -- the lengths are peeked at before the first octet is read
    let firstWord := ofOctets 32 (input.take 4)
    let messageLen := (firstWord &&& 0x0000ffff).setWidth 16
    let headerLen := ((firstWord &&& 0x00ff0000) >>> 16).setWidth 8
    if headerLen.setWidth 16 > messageLen then .fail (.invalidHeaderLength headerLen)
    else
      let firstOctet ← beU8
      let version := (firstOctet >>> 5) &&& 0b111
      if version ≠ 1 then .fail (.invalidVersion version)
      else
        let sFlag := decide (firstOctet &&& 0b00010000 ≠ 0)
        let mediaType := MediaType.ofOctet (firstOctet &&& 0b00001111)
        if sFlag && !mediaType.isUnknown then .fail .invalidSFlag
        else parseRest sFlag mediaType (messageLen.toNat - headerLen.toNat)

/-! ## The map of options -/

section Options

variable {m : UdpNotifOptions} {options : List UdpNotifOption} {code : UdpNotifOptionCode}
  {option : UdpNotifOption}

/-- What is found was put in, by the options or before them. -/
theorem mem_of_lookup_foldl
    (h : (options.foldl (fun m option => m.insert option.code option) m).lookup code =
      some option) :
    (option ∈ options ∧ option.code = code) ∨ m.lookup code = some option := by
  induction options generalizing m with
  | nil => exact .inr h
  | cons first options ih =>
    rcases ih h with ⟨hmem, hcode⟩ | hfirst
    · exact .inl ⟨mem_cons_of_mem first hmem, hcode⟩
    · by_cases hcode : code = first.code
      · subst hcode
        rw [AList.lookup_insert] at hfirst
        cases hfirst
        exact .inl ⟨mem_cons_self, rfl⟩
      · rw [AList.lookup_insert_ne hcode] at hfirst
        exact .inr hfirst

/-- What was put in under a code is not lost, only replaced. -/
theorem lookup_foldl_isSome
    (h : (∃ option ∈ options, option.code = code) ∨ (m.lookup code).isSome) :
    ((options.foldl (fun m option => m.insert option.code option) m).lookup code).isSome := by
  induction options generalizing m with
  | nil => simpa using h
  | cons first options ih =>
    apply ih
    by_cases hcode : code = first.code
    · subst hcode
      simp
    · rw [AList.lookup_insert_ne hcode]
      rcases h with ⟨option, hmem, hown⟩ | h
      · rcases mem_cons.mp hmem with rfl | hmem
        · exact absurd hown.symm hcode
        · exact .inl ⟨option, hmem, hown⟩
      · exact .inr h

theorem mem_of_lookup_collect (h : (collectOptions options).lookup code = some option) :
    option ∈ options ∧ option.code = code := by
  rcases mem_of_lookup_foldl h with h | h
  · exact h
  · simp at h

theorem lookup_collect_isSome : ((collectOptions options).lookup code).isSome ↔
    ∃ option ∈ options, option.code = code := by
  constructor
  · intro h
    obtain ⟨option, hoption⟩ := Option.isSome_iff_exists.mp h
    obtain ⟨hmem, hcode⟩ := mem_of_lookup_collect hoption
    exact ⟨option, hmem, hcode⟩
  · intro h
    exact lookup_foldl_isSome (.inl h)

end Options

/-- The options of a packet in the order in which they are iterated. -/
def optionList (pkt : UdpNotifPacket) : List UdpNotifOption := pkt.options.entries.map (·.2)

variable {pkt : UdpNotifPacket}

/-- Collecting the options of a map gives the map again, whatever their order. -/
theorem lookup_collect_optionList (hown : pkt.OwnCodes) (code : UdpNotifOptionCode) :
    (collectOptions pkt.optionList).lookup code = pkt.options.lookup code := by
  have hentry {option : UdpNotifOption} (hmem : option ∈ pkt.optionList) :
      pkt.options.lookup option.code = some option := by
    obtain ⟨entry, hentry, rfl⟩ := mem_map.mp hmem
    rw [hown entry hentry, ← Option.mem_def, AList.mem_lookup_iff]
    exact hentry
  cases hcollect : (collectOptions pkt.optionList).lookup code with
  | some option =>
    obtain ⟨hmem, rfl⟩ := mem_of_lookup_collect hcollect
    exact (hentry hmem).symm
  | none =>
    cases hlookup : pkt.options.lookup code with
    | none => rfl
    | some option =>
      have hmem := AList.mem_lookup_iff.mp (Option.mem_def.mpr hlookup)
      have hlist : option ∈ pkt.optionList := mem_map.mpr ⟨⟨code, option⟩, hmem, rfl⟩
      have hsome := lookup_collect_isSome.mpr ⟨option, hlist, hown _ hmem⟩
      rw [hcollect] at hsome
      cases hsome

/-! ## Round trip -/

/-- The packet after its first four octets. -/
def body (pkt : UdpNotifPacket) : Octets :=
  octets pkt.publisherId ++ (octets pkt.messageId ++ (pkt.optionList.flatMap UdpNotifOption.write))

theorem body_length (pkt : UdpNotifPacket) : pkt.body.length + 4 = pkt.headerLen := by
  have hoptions : (pkt.optionList.flatMap UdpNotifOption.write).length =
      (pkt.options.entries.map (·.2.len)).sum := by
    rw [length_flatMap_of fun option _ => option.write_length, optionList, map_map]
    rfl
  rw [body, headerLen, length_append, length_append, octets_length, octets_length,
    hoptions]
  omega

theorem write_eq_ok {bytes : Octets} :
    pkt.write = .ok bytes ↔ pkt.headerLen ≤ 255 ∧ pkt.len ≤ 65535 ∧
      bytes = pkt.firstByte :: BitVec.ofNat 8 pkt.headerLen ::
        (octets (BitVec.ofNat 16 pkt.len) ++ (pkt.body ++ pkt.payload)) := by
  have hbody : octets pkt.publisherId ++ (octets pkt.messageId ++
      (pkt.options.entries.flatMap (·.2.write) ++ pkt.payload)) = pkt.body ++ pkt.payload := by
    rw [body, optionList, flatMap_map, append_assoc, append_assoc]
  rw [write, hbody]
  split
  · simp
    omega
  · split
    · simp
      omega
    · rename_i hheader hlen
      rw [Except.ok.injEq, eq_comm]
      exact ⟨fun h => ⟨by omega, by omega, h⟩, fun h => h.2.2⟩

/-- The header is read back, with all its options. -/
theorem parseHeader_run (hfits : ∀ option ∈ pkt.optionList, option.Fits) (length : BitVec 16) :
    parseHeader (octets length ++ pkt.body) =
      .ok ([], (pkt.publisherId, pkt.messageId, pkt.optionList)) := by
  have hoptions : parseTillEmpty (UdpNotifOption.fromWire.mapErr .udpNotifOptionError)
      (pkt.optionList.flatMap UdpNotifOption.write) =
        (.ok ([], pkt.optionList) : Except (Err UdpNotifPacketParsingError) _) := by
    refine parseTillEmpty_ok fun option hoption => ?_
    refine ⟨(UdpNotifOption.decodes_write (hfits option hoption)).mapErr _, ?_⟩
    cases option <;> simp [UdpNotifOption.write]
  refine ((decodes_beU16 length).run_bind _ _).trans ?_
  refine ((decodes_beU32 pkt.publisherId).run_bind _ _).trans ?_
  refine ((decodes_beU32 pkt.messageId).run_bind _ _).trans ?_
  exact Parser.run_map hoptions _

/-- The packet is read back behind its first octet, unless the private encoding is missing. -/
theorem parseRest_run (hfits : ∀ option ∈ pkt.optionList, option.Fits)
    (hheader : pkt.headerLen ≤ 255) (length : BitVec 16) (sFlag : Bool) (mediaType : MediaType) :
    parseRest sFlag mediaType pkt.payload.length
        (BitVec.ofNat 8 pkt.headerLen :: (octets length ++ (pkt.body ++ pkt.payload))) =
      if privateIsCorrect sFlag pkt.optionList then
        .ok ([], ⟨mediaType, pkt.publisherId, pkt.messageId, collectOptions pkt.optionList,
          pkt.payload⟩)
      else .error (.error .privateEncodingOptionIsNotPresent) := by
  have hbody := pkt.body_length
  have hfield : (BitVec.ofNat 8 pkt.headerLen).toNat = pkt.headerLen := by
    rw [BitVec.toNat_ofNat]
    omega
  have hmin : ¬ BitVec.ofNat 8 pkt.headerLen < 2 := by
    rw [BitVec.lt_def, hfield, show (2 : BitVec 8).toNat = 2 by rfl]
    omega
  have hrest : (octets length ++ pkt.body).length = (BitVec.ofNat 8 pkt.headerLen - 2).toNat := by
    rw [length_append, octets_length,
      BitVec.toNat_sub_of_le (by rw [BitVec.le_def, hfield]; simp; omega), hfield]
    simp
    omega
  have hlong : ¬ (octets length ++ (pkt.body ++ pkt.payload)).length <
      (BitVec.ofNat 8 pkt.headerLen - 2).toNat := by
    rw [← hrest]
    simp only [length_append]
    omega
  refine (beU8_bind _ _ _).trans ?_
  rw [if_neg hmin]
  refine (Parser.input_bind _ _).trans ?_
  rw [if_neg hlong, ← append_assoc]
  refine ((decodes_take hrest).run_bind _ _).trans ?_
  refine ((Decodes.within (parseHeader_run hfits length)).run_bind _ pkt.payload).trans ?_
  cases hprivate : privateIsCorrect sFlag pkt.optionList with
  | true =>
    simp only [hprivate, if_true]
    exact Parser.run_map (decodes_take rfl).run_nil _
  | false =>
    simp only [hprivate, Bool.false_eq_true, if_false]
    rfl

variable (a b : BitVec 8)
variable (m : BitVec 16)

theorem toNat_word : (a ++ b ++ m).toNat = (a.toNat * 256 + b.toNat) * 65536 + m.toNat := by
  rw [BitVec.toNat_append, BitVec.toNat_append, ← Nat.shiftLeft_add_eq_or_of_lt m.isLt,
    ← Nat.shiftLeft_add_eq_or_of_lt b.isLt, Nat.shiftLeft_eq, Nat.shiftLeft_eq]

/-- The length of the message, from the first word. -/
theorem low_of_word : ((a ++ b ++ m : BitVec 32) &&& 0x0000ffff).setWidth 16 = m := by
  apply BitVec.eq_of_toNat_eq
  have hmask : (0x0000ffff : BitVec 32).toNat = 2 ^ 16 - 1 := rfl
  rw [BitVec.toNat_setWidth, BitVec.toNat_and, hmask, Nat.and_two_pow_sub_one_eq_mod, toNat_word]
  omega

/-- The length of the header, from the first word. -/
theorem mid_of_word : (((a ++ b ++ m : BitVec 32) &&& 0x00ff0000) >>> 16).setWidth 8 = b := by
  apply BitVec.eq_of_toNat_eq
  have hmask : ((0x00ff0000 : BitVec 32) >>> 16).toNat = 2 ^ 8 - 1 := rfl
  rw [BitVec.ushiftRight_and_distrib, BitVec.toNat_setWidth, BitVec.toNat_and, hmask,
    Nat.and_two_pow_sub_one_eq_mod, BitVec.toNat_ushiftRight, toNat_word, Nat.shiftRight_eq_div_pow]
  omega

theorem ofOctets_word : ofOctets 32 (a :: b :: octets m) = a ++ b ++ m := by
  have h : octets (a ++ b ++ m) = a :: b :: octets m := by
    rw [octets_append rfl rfl, octets_append rfl rfl, octets_u8, octets_u8]
    rfl
  rw [← h, ofOctets_octets rfl]

/-- What the parser makes of a first octet in front of a packet whose options fit. -/
theorem fromWire_run (hfits : ∀ option ∈ pkt.optionList, option.Fits)
    (hheader : pkt.headerLen ≤ 255) (hlen : pkt.len ≤ 65535) (first : BitVec 8) :
    fromWire (first :: BitVec.ofNat 8 pkt.headerLen ::
        (octets (BitVec.ofNat 16 pkt.len) ++ (pkt.body ++ pkt.payload))) =
      if (first >>> 5) &&& 0b111 ≠ 1 then
        .error (.error (.invalidVersion ((first >>> 5) &&& 0b111)))
      else if decide (first &&& 0b00010000 ≠ 0) &&
          !(MediaType.ofOctet (first &&& 0b00001111)).isUnknown then .error (.error .invalidSFlag)
      else if privateIsCorrect (decide (first &&& 0b00010000 ≠ 0)) pkt.optionList then
        .ok ([], ⟨MediaType.ofOctet (first &&& 0b00001111), pkt.publisherId, pkt.messageId,
          collectOptions pkt.optionList, pkt.payload⟩)
      else .error (.error .privateEncodingOptionIsNotPresent) := by
  have hbody := pkt.body_length
  have hword : List.take 4 (first :: BitVec.ofNat 8 pkt.headerLen ::
      (octets (BitVec.ofNat 16 pkt.len) ++ (pkt.body ++ pkt.payload))) =
        first :: BitVec.ofNat 8 pkt.headerLen :: octets (BitVec.ofNat 16 pkt.len) := by
    have := octets_length (BitVec.ofNat 16 pkt.len)
    rw [take_succ_cons, take_succ_cons, take_left' this]
  have hlong : ¬ (first :: BitVec.ofNat 8 pkt.headerLen ::
      (octets (BitVec.ofNat 16 pkt.len) ++ (pkt.body ++ pkt.payload))).length < 12 := by
    simp only [length_cons, length_append, octets_length, body]
    omega
  have hheader' : (BitVec.ofNat 8 pkt.headerLen).toNat = pkt.headerLen := by
    rw [BitVec.toNat_ofNat]
    omega
  have hlen' : (BitVec.ofNat 16 pkt.len).toNat = pkt.len := by
    rw [BitVec.toNat_ofNat]
    omega
  have hpayload : pkt.len - pkt.headerLen = pkt.payload.length := by
    unfold len
    omega
  have horder : ¬ (BitVec.ofNat 8 pkt.headerLen).setWidth 16 > BitVec.ofNat 16 pkt.len := by
    rw [gt_iff_lt, BitVec.lt_def, BitVec.toNat_setWidth, hheader', hlen']
    unfold len
    omega
  unfold fromWire
  refine (Parser.input_bind _ _).trans ?_
  rw [if_neg hlong]
  simp only [hword, ofOctets_word, low_of_word, mid_of_word, hheader', hlen', hpayload]
  rw [if_neg horder]
  refine (beU8_bind _ _ _).trans ?_
  split
  · rfl
  · split
    · rfl
    · exact parseRest_run hfits hheader _ _ _

variable (pkt)

/-- A media type that its bits of the first octet can tell, and with the option that it
needs. -/
def Typed : Prop :=
  ∀ value, pkt.mediaType = .unknown value →
    4 ≤ value.toNat ∧ value.toNat < 16 ∧ (pkt.options.lookup .privateEncoding).isSome

/-- No option of an unknown kind has a known code. -/
def Coded : Prop :=
  pkt.options.lookup (.unknown 1) = none ∧ pkt.options.lookup (.unknown 2) = none

/-- The number of a segment fits into its fifteen bits. -/
def Numbered : Prop :=
  ∀ number last, pkt.options.lookup .segment = some (.segment number last) → number.toNat < 2 ^ 15

/-- What was written is read back completely, as an equal packet. -/
def RoundTrips (bytes : Octets) : Prop :=
  ∃ pkt', fromWire bytes = .ok ([], pkt') ∧ pkt'.Same pkt

theorem lookup_collect_eq_none {options : List UdpNotifOption} {code : UdpNotifOptionCode}
    (h : ∀ option ∈ options, option.code ≠ code) : (collectOptions options).lookup code = none := by
  cases hlookup : (collectOptions options).lookup code with
  | none => rfl
  | some option =>
    obtain ⟨hmem, hcode⟩ := mem_of_lookup_collect hlookup
    exact absurd hcode (h option hmem)

/-- The options were collected from a list in which the codes of known kinds are their own. -/
def Collected : Prop :=
  ∃ options, pkt.options = collectOptions options ∧
    ∀ option ∈ options, option.code ≠ .unknown 1 ∧ option.code ≠ .unknown 2

variable {pkt}

theorem Collected.coded (h : pkt.Collected) : pkt.Coded := by
  obtain ⟨options, heq, hcodes⟩ := h
  constructor
  · rw [heq]
    exact lookup_collect_eq_none fun option hmem => (hcodes option hmem).1
  · rw [heq]
    exact lookup_collect_eq_none fun option hmem => (hcodes option hmem).2

theorem Collected.code_of_lookup (h : pkt.Collected) {code : UdpNotifOptionCode}
    {option : UdpNotifOption} (hlookup : pkt.options.lookup code = some option) :
    option.code = code := by
  obtain ⟨options, heq, -⟩ := h
  rw [heq] at hlookup
  exact (mem_of_lookup_collect hlookup).2

theorem yields_parseRest (sFlag : Bool) (mediaType : MediaType) (payloadLen : Nat) :
    Yields (parseRest sFlag mediaType payloadLen) Collected := by
  have hheader : Yields parseHeader fun header =>
      ∀ option ∈ header.2.2, option.code ≠ .unknown 1 ∧ option.code ≠ .unknown 2 := by
    refine Yields.andThen fun _ => Yields.andThen fun _ => Yields.andThen fun _ => ?_
    exact (UdpNotifOption.yields_fromWire.mapErr.parseTillEmpty).bind fun options hoptions =>
      Yields.pure hoptions
  refine Yields.andThen fun headerLen => ?_
  split
  · exact Yields.fail
  · refine Yields.andThen fun buf => ?_
    split
    · exact Yields.fail
    · refine Yields.andThen fun headerBuf => (Yields.within hheader).bind ?_
      rintro ⟨publisherId, messageId, options⟩ hcodes
      dsimp only
      split
      · exact Yields.andThen fun payload => Yields.pure ⟨options, rfl, hcodes⟩
      · exact Yields.fail

theorem yields_fromWire : Yields fromWire Collected := by
  refine Yields.andThen fun input => ?_
  split
  · exact Yields.fail
  · dsimp only
    split
    · exact Yields.fail
    · refine Yields.andThen fun first => ?_
      split
      · exact Yields.fail
      · split
        · exact Yields.fail
        · exact yields_parseRest _ _ _

/-- In a header that can be written, every option fits whose number and code do. -/
theorem fits_of_written (hown : pkt.OwnCodes) (hnumber : pkt.Numbered) (hcoded : pkt.Coded)
    (hheader : pkt.headerLen ≤ 255) : ∀ option ∈ pkt.optionList, option.Fits := by
  intro option hmem
  obtain ⟨entry, hentry, rfl⟩ := mem_map.mp hmem
  have hlookup : pkt.options.lookup entry.2.code = some entry.2 := by
    rw [hown entry hentry, ← Option.mem_def, AList.mem_lookup_iff]
    exact hentry
  have hlen : entry.2.len ≤ (pkt.options.entries.map (·.2.len)).sum :=
    le_sum_of_mem (mem_map.mpr ⟨entry, hentry, rfl⟩)
  unfold headerLen at hheader
  cases hoption : entry.2 with
  | segment number last =>
    rw [hoption] at hlookup
    exact hnumber number last hlookup
  | privateEncoding value =>
    rw [hoption, UdpNotifOption.len] at hlen
    show value.length ≤ 253
    omega
  | unknown typ value =>
    rw [hoption, UdpNotifOption.len] at hlen
    rw [hoption] at hlookup
    refine ⟨?_, ?_, by omega⟩
    · rintro rfl
      rw [UdpNotifOption.code, hcoded.1] at hlookup
      cases hlookup
    · rintro rfl
      rw [UdpNotifOption.code, hcoded.2] at hlookup
      cases hlookup

theorem privateIsCorrect_iff (hown : pkt.OwnCodes) :
    privateIsCorrect true pkt.optionList ↔ (pkt.options.lookup .privateEncoding).isSome := by
  rw [← lookup_collect_optionList hown, lookup_collect_isSome]
  simp [privateIsCorrect]

/-- The first octets of known media types. -/
theorem known_octet {mediaType : MediaType} (h : mediaType.isUnknown = false) :
    (0x20 ||| mediaType.octet) >>> 5 &&& 0b111 = 1 ∧
      (0x20 ||| mediaType.octet) &&& 0b00010000 = 0 ∧
      MediaType.ofOctet ((0x20 ||| mediaType.octet) &&& 0b00001111) = mediaType := by
  cases mediaType with
  | unknown value => cases h
  | reserved | yangDataJson | yangDataXml | yangDataCbor => decide

/-- Which first octets of unknown media types are read back as such. -/
theorem unknown_octet (value : BitVec 8) :
    (0x30 ||| value) &&& 0b00010000 ≠ 0 ∧
      (((0x30 ||| value) >>> 5 &&& 0b111 = 1 ∧
        MediaType.ofOctet ((0x30 ||| value) &&& 0b00001111) = .unknown value) ↔
          4 ≤ value.toNat ∧ value.toNat < 16) := by
  revert value
  decide +kernel

/-- The first octet is read back with the media type exactly when the type can be told
from its bits, and the private encoding is there if it is needed. -/
theorem roundTrips_iff_typed (hown : pkt.OwnCodes) (hfits : ∀ option ∈ pkt.optionList, option.Fits)
    (hheader : pkt.headerLen ≤ 255) (hlen : pkt.len ≤ 65535) :
    pkt.RoundTrips (pkt.firstByte :: BitVec.ofNat 8 pkt.headerLen ::
      (octets (BitVec.ofNat 16 pkt.len) ++ (pkt.body ++ pkt.payload))) ↔ pkt.Typed := by
  have hsame {mediaType : MediaType} : Same ⟨mediaType, pkt.publisherId, pkt.messageId,
      collectOptions pkt.optionList, pkt.payload⟩ pkt ↔ mediaType = pkt.mediaType :=
    ⟨fun h => h.mediaType, fun h => ⟨h, rfl, rfl, lookup_collect_optionList hown, rfl⟩⟩
  unfold RoundTrips
  rw [fromWire_run hfits hheader hlen]
  cases hmedia : pkt.mediaType.isUnknown with
  | false =>
    obtain ⟨hversion, hflag, htype⟩ := known_octet hmedia
    have hfirst : pkt.firstByte = 0x20 ||| pkt.mediaType.octet := by
      simp only [firstByte, hmedia, Bool.false_eq_true, if_false]
      rfl
    rw [hfirst, hversion, hflag, htype]
    have htyped : pkt.Typed := fun value h => by
      rw [h] at hmedia
      cases hmedia
    exact ⟨fun _ => htyped, fun _ => ⟨_, rfl, hsame.mpr rfl⟩⟩
  | true =>
    obtain ⟨value, hvalue⟩ : ∃ value, pkt.mediaType = .unknown value := by
      cases h : pkt.mediaType with
      | unknown value => exact ⟨value, rfl⟩
      | reserved | yangDataJson | yangDataXml | yangDataCbor =>
        rw [h] at hmedia
        cases hmedia
    obtain ⟨hflag, hoctet⟩ := unknown_octet value
    have hfirst : pkt.firstByte = 0x30 ||| value := by
      simp only [firstByte, hvalue, MediaType.isUnknown, MediaType.octet, if_true]
      rfl
    have hprivate := privateIsCorrect_iff hown
    rw [hfirst, decide_eq_true hflag]
    constructor
    · rintro ⟨pkt', hread, hpkt'⟩ value' hvalue'
      obtain rfl := MediaType.unknown.inj (hvalue.symm.trans hvalue')
      split at hread
      · cases hread
      · rename_i hversion
        split at hread
        · cases hread
        · split at hread
          · rename_i hpresent
            cases hread
            obtain ⟨hmin, hmax⟩ := hoctet.mp
              ⟨not_not.mp hversion, (hsame.mp hpkt').trans hvalue⟩
            exact ⟨hmin, hmax, hprivate.mp hpresent⟩
          · cases hread
    · intro htyped
      obtain ⟨hmin, hmax, hpresent⟩ := htyped value hvalue
      obtain ⟨hversion, htype⟩ := hoctet.mpr ⟨hmin, hmax⟩
      rw [if_neg (not_not.mpr hversion), htype, if_pos (hprivate.mpr hpresent)]
      exact ⟨_, rfl, hsame.mpr hvalue.symm⟩

/-- What is written has the announced length. It is read back as an equal packet exactly
when the media type and the codes of the options can be told from the octets, provided
that a segment number fits. An option that is too long for its length field is not
written. -/
theorem write_roundTrips (pkt : UdpNotifPacket) (hown : pkt.OwnCodes) :
    (∀ bytes, pkt.write = .ok bytes →
      bytes.length = pkt.len ∧ (pkt.Numbered → (pkt.RoundTrips bytes ↔ pkt.Typed ∧ pkt.Coded))) ∧
    ((∃ entry ∈ pkt.options.entries, 255 < entry.2.len) → ∃ err, pkt.write = .error err) := by
  constructor
  · intro bytes hwrite
    obtain ⟨hheader, hlen, rfl⟩ := write_eq_ok.mp hwrite
    have hbody := pkt.body_length
    refine ⟨?_, fun hnumber => ⟨fun hround => ?_, fun h => ?_⟩⟩
    · simp only [length_cons, length_append, octets_length, len]
      omega
    · obtain ⟨pkt', hread, hsame⟩ := hround
      obtain ⟨hone, htwo⟩ := (yields_fromWire _ _ _ hread).coded
      have hcoded : pkt.Coded := ⟨hsame.options _ ▸ hone, hsame.options _ ▸ htwo⟩
      have hfits := fits_of_written hown hnumber hcoded hheader
      exact ⟨(roundTrips_iff_typed hown hfits hheader hlen).mp ⟨pkt', hread, hsame⟩, hcoded⟩
    · have hfits := fits_of_written hown hnumber h.2 hheader
      exact (roundTrips_iff_typed hown hfits hheader hlen).mpr h.1
  · rintro ⟨entry, hentry, hlong⟩
    have hsum : entry.2.len ≤ (pkt.options.entries.map (·.2.len)).sum :=
      le_sum_of_mem (mem_map.mpr ⟨entry, hentry, rfl⟩)
    refine ⟨.invalidHeaderLength pkt.headerLen, ?_⟩
    rw [write, if_pos]
    unfold headerLen
    omega

/-- The last of four segments. -/
def lastSegment : UdpNotifPacket :=
  ⟨.yangDataJson, 1, 2, AList.singleton .segment (.segment 3 true), [0xff]⟩

theorem lastSegment_roundTrips :
    lastSegment.OwnCodes ∧ lastSegment.Numbered ∧
      ∃ bytes, lastSegment.write = .ok bytes ∧ bytes.length = lastSegment.len ∧
        (lastSegment.RoundTrips bytes ↔ lastSegment.Typed ∧ lastSegment.Coded) := by
  have hown : lastSegment.OwnCodes := by decide
  have hnumber : lastSegment.Numbered := by
    intro number last h
    cases h
    decide
  obtain ⟨hlen, hround⟩ := (write_roundTrips lastSegment hown).1 _ rfl
  exact ⟨hown, hnumber, _, rfl, hlen, hround hnumber⟩

/-- A private media type without the option that names the encoding is written, but the
parser refuses it. -/
theorem private_refused :
    ∃ bytes, (⟨.unknown 4, 1, 2, ∅, []⟩ : UdpNotifPacket).write = .ok bytes ∧
      fromWire bytes = .error (.error .privateEncodingOptionIsNotPresent) :=
  ⟨_, rfl, rfl⟩

end UdpNotifPacket

end NetCalyx.UdpNotif
