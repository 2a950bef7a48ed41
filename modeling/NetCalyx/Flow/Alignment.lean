import NetCalyx.Flow.Consumption
import NetCalyx.Flow.NetflowCodec

/-!
# Alignment of NetFlow sets

On request a set is padded with zeros behind its records. The padding is the
remainder of the size by four, where it should be what is missing to the next
multiple: the two are the same for even sizes only.

`octetCount` is the number of octets that the writers really emit for a field, a
record or a set. It differs from the size that is computed for the length field
when a value or a record does not fill its template. `netflow_alignment` says
exactly which sets end on a boundary and have the right length field, and when a
reader makes the same of the padded octets as of the others: zeros behind the
records of a data set are a further record to it where they are enough for one.
-/

namespace NetCalyx.Flow
open Wire StateParser List

variable {DateTime : Type} [Chrono DateTime]

/-! ## Octets that are written -/

/-- Octets that are filled up to a length, or stand behind their own. -/
def filledCount (n : Nat) (length : BitVec 16) : Nat :=
  if length = variableLength then lenWithHeader n else max n length.toNat

theorem writeOctetArray_length (value : Octets) (length : BitVec 16) :
    (writeOctetArray value (some length)).length = filledCount value.length length := by
  rw [writeOctetArray, filledCount]
  split
  · exact lengthHeader_length _ _ rfl
  · rw [zeroFilled, length_append, length_replicate]
    omega

namespace FieldType

/-- The octets of a value, if it is written. -/
def octetCount : (t : FieldType) → t.Value DateTime → Option (BitVec 16) → Nat
  | octetArray, value, length => length.elim value.length (filledCount value.length)
  | mplsLabelStackSection, value, length => length.elim value.val.length (filledCount value.val.length)
  | string, value, length =>
    length.elim (lenWithHeader (stringOctets value).length) (filledCount (stringOctets value).length)
  | unknown, value, length | vendorUnknown, value, length =>
    length.elim (lenWithHeader value.length) (filledCount value.length)
  | t, value, length => t.len value length

variable {bytes : Octets} {length : Option (BitVec 16)}

theorem writeBeBytes_length {name : String} {w : Nat} {x : BitVec w}
    (h : writeBeBytes name (octets x) length = .ok bytes) :
    bytes.length = length.elim (w / 8) BitVec.toNat := by
  cases length with
  | none =>
    cases h
    exact octets_length x
  | some length =>
    rw [writeBeBytes_eq] at h
    split at h
    · cases h
      exact toBe_length _ _
    · cases h

theorem octetCount_eq {name : String} {t : FieldType} {value : t.Value DateTime}
    (h : t.write name value length = .ok bytes) : bytes.length = t.octetCount value length := by
  cases t with
  | octetArray | mplsLabelStackSection =>
    cases h
    cases length with
    | none => rfl
    | some length => exact writeOctetArray_length _ _
  | string | unknown | vendorUnknown =>
    cases h
    cases length with
    | none => exact lengthHeader_length _ _ rfl
    | some length => exact writeOctetArray_length _ _
  | unsigned16 | tcpControlBits | unsigned32 | unsigned64 | signed16 | signed32 | float32
  | float64 => exact writeBeBytes_length h
  | signed64 =>
    cases length with
    | none => cases h
    | some length =>
      rw [write] at h
      exact writeBeBytes_length h
  | unsigned8 | signed8 | boolean | macAddress | basicList | subTemplateList
  | subTemplateMultiList =>
    cases h
    rfl
  | dateTimeSeconds | dateTimeMilliseconds | ipv4Address | ipv6Address =>
    cases h
    exact octets_length _
  | dateTimeMicroseconds | dateTimeNanoseconds =>
    cases h
    rw [writeFraction, length_append, octets_length, octets_length]
    rfl
  | unsigned256 =>
    simp only [write] at h
    split at h
    · cases h
    · cases h
      rw [length_take]
      show min _ _ = length.elim value.val.length BitVec.toNat
      omega

end FieldType

def Field.octetCount (field : Field DateTime) (length : Option (BitVec 16)) : Nat :=
  field.ie.fieldType.octetCount field.value length

namespace Netflow

/-- The octets of a data record, field by field. -/
def DataRecord.octetCount (template : Option DecodingTemplate) (record : DataRecord DateTime) : Nat :=
  lenEach ScopeField.len record.scopeFields (scopeLengths template)
    + lenEach Field.octetCount record.fields (fieldLengths template)

/-- The octets of a set without its padding. -/
def Set.octetCount (templatesMap : Option TemplatesMap) : Set DateTime → Nat
  | .template records => 4 + (records.map TemplateRecord.len).sum
  | .optionsTemplate records => 4 + (records.map OptionsTemplateRecord.len).sum
  | .data id records =>
    4 + (records.map (DataRecord.octetCount (decodingTemplate templatesMap id))).sum

theorem ScopeField.write_length {field : ScopeField} {given : Option (BitVec 16)}
    (h : field.write given = .ok bytes) : bytes.length = field.len given := by
  have hnumber : ∀ {value : BitVec 32}, writeScopeNumber value given = .ok bytes →
      bytes.length = given.elim 4 BitVec.toNat := by
    intro value h
    cases given with
    | none =>
      cases h
      exact octets_length value
    | some length =>
      obtain ⟨-, rfl⟩ := writeScopeNumber_eq_ok h
      exact toBe_length _ _
  cases field with
  | system value | interface value | lineCard value => exact hnumber h
  | unknown pen id value | cache value | template value =>
    cases h
    rfl

theorem DataRecord.write_length {given : Option DecodingTemplate} {record : DataRecord DateTime}
    (h : record.write given = .ok bytes) : bytes.length = record.octetCount given := by
  obtain ⟨scope, fields, hscope, hfields, rfl⟩ := DataRecord.write_eq_ok h
  rw [length_append, length_writeEach (fun _ _ _ => ScopeField.write_length) hscope,
    length_writeEach (fun _ _ _ h => FieldType.octetCount_eq (Field.write_eq_ok.mp h)) hfields]
  rfl

variable {registry : Registry} {given : Option TemplatesMap} {map map' : TemplatesMap}
  {set : Set DateTime}

namespace Set

theorem records_length {records : Octets} (h : writeRecords given set = .ok records) :
    4 + records.length = octetCount given set := by
  cases set with
  | template templates | optionsTemplate templates =>
    cases h
    rw [length_flatMap_of fun record _ => record.write_length]
    rfl
  | data id dataRecords =>
    obtain ⟨heach, rfl⟩ := writeAll_eq_ok (mapError_eq_ok.mp h)
    rw [length_flatMap_of fun record hr => DataRecord.write_length (heach record hr)]
    rfl

/-- Behind the records of a set stands only the padding. -/
theorem write_length {align : Bool} (h : write given align set = .ok bytes) :
    bytes.length =
      octetCount given set + (calculateSetSizeWithPadding given align set).2 := by
  obtain ⟨records, hrecords, rfl⟩ := write_eq_ok h
  have hcount := records_length hrecords
  simp only [length_append, octets_length, length_replicate]
  omega

/-! ## Alignment -/

/-- The length that stands in the header of a set. -/
def lengthField (bytes : Octets) : Nat := ofBe ((bytes.drop 2).take 2)

/-- A set of the octets it announces, on a boundary of four octets, behind less than
four octets of padding. -/
def Aligned (bytes : Octets) (padding : Nat) : Prop :=
  lengthField bytes = bytes.length ∧ 4 ∣ bytes.length ∧ padding < 4

variable (given set)

/-- The size of a set by the lengths of its records. -/
def countedSize : Nat :=
  (calculateSetSizeWithPadding given false set).1

/-- Octets that are no more than a length field can say with the padding, and the
size by the lengths of the records as far as the field can say. -/
def Announced : Prop :=
  octetCount given set + octetCount given set % 4 < 2 ^ 16 ∧
    countedSize given set % 2 ^ 16 = octetCount given set % 2 ^ 16

/-- An even number of octets, which the length field says. -/
def WellSized : Prop :=
  octetCount given set % 2 = 0 ∧ Announced given set

variable {given set}

theorem lengthField_write {align : Bool} (h : write given align set = .ok bytes) :
    lengthField bytes = len given align set % 2 ^ 16 := by
  obtain ⟨records, -, rfl⟩ := write_eq_ok h
  have htwo : ∀ x : BitVec 16, (octets x).length = 2 := octets_length
  rw [lengthField, append_assoc, drop_left' (htwo _), take_left' (htwo _), octets,
    ofBe_toBe, BitVec.toNat_ofNat]
  exact Nat.mod_mod _ _

theorem aligned_iff (h : write given true set = .ok bytes) :
    Aligned bytes (calculateSetSizeWithPadding given true set).2 ↔
      WellSized given set := by
  have hsize : (calculateSetSizeWithPadding given true set).1 = countedSize given set := rfl
  have hpadding := padding_eq given true set
  rw [if_pos rfl, hsize] at hpadding
  rw [Aligned, WellSized, Announced, lengthField_write h, write_length h,
    len_eq, hpadding, hsize]
  omega

/-! ## Decoding -/

variable (given) in
/-- The padding behind a data set is not enough for a record of the template in
force, with what the last record leaves. -/
def ShortPadding (map : TemplatesMap) : Set DateTime → Prop
  | .template _ | .optionsTemplate _ => True
  | set@(.data id _) => ∀ inForce, map id.val = some inForce → recordLength inForce = 0 ∨
      (octetCount given set - 4) % recordLength inForce + octetCount given set % 4 <
        recordLength inForce

end Set

/-- The same for all sets that a reader gets to, with its templates and its count. -/
def ShortPaddings (registry : Registry) (given : Option TemplatesMap) :
    Nat → TemplatesMap → List (Set DateTime) → Prop
  | _, _, [] => True
  | i, map, set :: sets => 0 < i → Set.ShortPadding given map set ∧
      ∀ map' (parsed : Set DateTime) i',
        alone (Set.fromWire registry) (written (Set.write given false) set) map = (map', .ok parsed) →
        Set.subtract i parsed = some i' → ShortPaddings registry given i' map' sets

/-- Records that fill a template of at least four octets. -/
theorem Set.shortPadding_of_filled {id : DataSetId} {records : List (DataRecord DateTime)}
    (h : ∀ inForce, map id.val = some inForce → 4 ≤ recordLength inForce ∧
      recordLength inForce ∣ Set.octetCount given (.data id records) - 4) :
    Set.ShortPadding given map (.data id records) := by
  intro inForce hforce
  obtain ⟨hfour, hfilled⟩ := h inForce hforce
  rw [Nat.mod_eq_zero_of_dvd hfilled]
  omega

section Decoding

variable {id : DataSetId} {inForce : DecodingTemplate} {content : Octets} {n : Nat}

theorem fixed_dataRecord (h : recordLength inForce < 65535) :
    Fixed (recordLength inForce) (DataRecord.fromWire inForce : Parser _ (DataRecord DateTime)) := by
  have hscope : Fixed _ (readEach _ inForce.scopeFieldsSpecs) :=
    .readEach fun spec _ => fixed_scopeField spec.elementId spec.length
  have hfields := @fixed_readFields DateTime _ inForce.fieldsSpecs ?_
  · exact (hscope.mapErr _).bind fun _ => (hfields.mapErr _).first fun _ => .pure _
  · intro spec hspec hown
    have hle := @len_le_sum _ (fun spec : FieldSpecifier => spec.length.toNat) _ _ hspec
    have hless := lt_of_le_of_lt (hle.trans (Nat.le_add_left _ _)) h
    rw [hown] at hless
    exact absurd hless (by decide)

theorem checkPaddingValue_append {OE RE : Type} (bs : Octets) (n : Nat) :
    checkPaddingValue (bs ++ List.replicate n 0) =
      (checkPaddingValue bs : Except (Flow.SetParsingError OE RE) Unit) := by
  induction bs with
  | nil => exact checkPaddingValue_replicate n
  | cons value bs ih => rw [cons_append, checkPaddingValue, checkPaddingValue, ih]

/-- The records of a set, and what they leave with zeros behind it. -/
theorem readRecords_padded (id : DataSetId) (map : TemplatesMap) (hfits : content.length < 65535) :
    ∃ (map' : TemplatesMap) (r : Except (Err SetParsingError) (List (DataRecord DateTime)))
      (tail : Octets),
      (∀ records, r = .ok records → recordLength inForce ≠ 0 →
        records.length = content.length / recordLength inForce) ∧
      ∀ n, recordLength inForce = 0 ∨
          content.length % recordLength inForce + n < recordLength inForce →
        Set.readRecords id inForce map (content ++ List.replicate n 0) =
          (map', r.map fun records => (tail ++ List.replicate n 0, records)) := by
  by_cases hzero : recordLength inForce = 0
  · refine ⟨map, .ok [], content, fun _ _ h => absurd hzero h, fun n _ => ?_⟩
    rw [Set.readRecords, if_pos hzero]
    rfl
  obtain ⟨frames, tail, hcontent, hframes, hcount, htail⟩ :=
    exists_frames (Nat.pos_of_ne_zero hzero) content
  let run := alone (Set.dataRecord id inForce : StateParser _ _ (DataRecord DateTime))
  refine ⟨(runEach run frames map).1, (runEach run frames map).2, tail, fun records hok _ => ?_,
    fun n hn => ?_⟩
  · rw [length_of_runEach (Prod.ext rfl hok), hcount]
  have hshort := hn.resolve_left hzero
  have hframed : ∀ frame ∈ frames, Framed (Set.dataRecord id inForce) frame (run frame) := by
    intro frame hframe
    have hle : recordLength inForce ≤ content.length := by
      rw [← hframes frame hframe, hcontent, length_append]
      exact (len_le_sum hframe).trans (length_flatten ▸ Nat.le_add_right _ _)
    have hfixed := (@fixed_dataRecord DateTime _ inForce (hle.trans_lt hfits)).mapErr
      (SetParsingError.dataRecordError : _ → SetParsingError)
    exact (hfixed.settles frame (hframes frame hframe)).framed _
  have hgo : ∀ frame ∈ frames, ∀ rest, decide (recordLength inForce ≤ (frame ++ rest).length) = true := by
    intro frame hframe rest
    rw [decide_eq_true_iff, length_append, hframes frame hframe]
    exact Nat.le_add_right _ _
  have hend : decide (recordLength inForce ≤ (tail ++ List.replicate n 0).length) = false := by
    rw [decide_eq_false_iff_not, length_append, length_replicate, htail]
    omega
  have hloop := repeatWhile_frames (fun buf => decide (recordLength inForce ≤ buf.length))
    hframed hgo hend
    (fun frame hframe => ne_nil_of_length_pos (by rw [hframes frame hframe]; omega)) map
  rw [Set.readRecords, if_neg hzero, hcontent, append_assoc]
  rwa [flatMap_id'] at hloop

/-- The zeros may be left out of what is left. -/
theorem alone_dataRecords {r : Except (Err SetParsingError) (List (DataRecord DateTime))}
    {tail : Octets} (hforce : map id.val = some inForce)
    (h : Set.readRecords id inForce map content =
      (map', r.map fun records => (tail ++ List.replicate n 0, records))) :
    alone (Set.dataRecords id) content map =
      (map', r.bind fun records => match checkPaddingValue tail with
        | .error e => .error (.error e)
        | .ok _ => .ok (.data id records)) := by
  rw [alone, Set.dataRecords, state_bind]
  simp only [hforce, bind_apply, h]
  cases r with
  | error e => rfl
  | ok records =>
    have hcheck : (checkPadding : StateParser _ SetParsingError Unit) map'
        (tail ++ List.replicate n 0) =
          (map', Parser.lift (checkPaddingValue tail) (tail ++ List.replicate n 0)) := by
      rw [← checkPaddingValue_append tail n]
      rfl
    simp only [Except.map, Except.bind, hcheck]
    cases (checkPaddingValue tail : Except SetParsingError Unit) <;> rfl

/-- Without a template nothing is read. -/
theorem alone_dataRecords_none (h : map id.val = none) :
    alone (Set.dataRecords id : StateParser _ _ (Set DateTime)) content map =
      (map, .error (.error (.noTemplateDefinedFor id.val))) := by
  rw [alone, Set.dataRecords, state_bind]
  simp only [h]
  rfl

/-- The records of a data set are as many as its octets are enough for, with zeros
behind them that are not enough for another. -/
theorem dataRecords_padded (hfits : content.length < 65535) (hforce : map id.val = some inForce) :
    ∃ result : TemplatesMap × Except (Err SetParsingError) (Set DateTime),
      (∀ parsed, result.2 = .ok parsed → recordLength inForce ≠ 0 →
        Set.recordCount parsed = content.length / recordLength inForce) ∧
      alone (Set.dataRecords id) content map = result ∧
      ∀ n, recordLength inForce = 0 ∨
          content.length % recordLength inForce + n < recordLength inForce →
        alone (Set.dataRecords id) (content ++ List.replicate n 0) map = result := by
  obtain ⟨map', r, tail, hcount, hread⟩ := @readRecords_padded DateTime _ inForce content id map hfits
  have hpadded := fun n hn => alone_dataRecords hforce (hread n hn)
  have hplain := hpadded 0 <| (eq_or_ne (recordLength inForce) 0).imp_right fun hne =>
    Nat.mod_lt _ (Nat.pos_of_ne_zero hne)
  rw [replicate_zero, append_nil] at hplain
  refine ⟨_, fun parsed hparsed hne => ?_, hplain, hpadded⟩
  cases r with
  | error e => cases hparsed
  | ok records =>
    simp only [Except.bind] at hparsed
    split at hparsed
    · cases hparsed
    · cases hparsed
      exact hcount records rfl hne

theorem whole_scopeFieldSpecifier : Whole ScopeFieldSpecifier.fromWire :=
  (Whole.beUint 16).bind fun _ => (Whole.beUint 16).bind fun _ =>
    Whole.bind (.ite (.beUint 32) (.pure _)) fun _ => .ite (.pure _) (.fail _)

theorem whole_fieldSpecifier : Whole (FieldSpecifier.fromWire registry) :=
  (Whole.beUint 16).bind fun _ => (Whole.beUint 16).bind fun _ =>
    Whole.bind (.ite ((Whole.beUint 32).bind fun _ => .pure _) (.pure _)) fun _ =>
      (Whole.lift _).bind fun _ => .lift _

/-- A record that is not longer than its lengths can say is read from its own octets. -/
theorem OptionsTemplateRecord.settles_parse {record : OptionsTemplateRecord}
    (hlen : record.len < 2 ^ 16) : Settles (OptionsTemplateRecord.parse registry) record.write := by
  simp only [write, append_assoc]
  refine .after (decodes_beU16 record.id) ?_
  split
  · exact ⟨.error _, fun _ => rfl⟩
  refine .after (decodes_beU16 _) (.after (decodes_beU16 _) ?_)
  rw [scopeLength_toNat hlen, optionsLength_toNat hlen]
  refine (decodes_take record.scope_length).settles.bind fun scope => ?_
  refine (decodes_take record.options_length).settles.last fun options => ?_
  exact (Settles.within (whole_scopeFieldSpecifier.mapErr _).parseTillEmpty scope).last fun _ =>
    (Settles.within (whole_fieldSpecifier.mapErr _).parseTillEmpty options).map _

omit [Chrono DateTime] in
theorem optionsTemplateRecords_padded {templates : List OptionsTemplateRecord}
    (hlen : (templates.map OptionsTemplateRecord.len).sum < 2 ^ 16) (map : TemplatesMap) :
    ∃ r, ∀ n ≤ 3, alone (Set.optionsTemplateRecords (OptionsTemplateRecord.fromWire registry) :
        StateParser _ SetParsingError (Set DateTime))
      (templates.flatMap OptionsTemplateRecord.write ++ List.replicate n 0) map = r := by
  let p : StateParser TemplatesMap SetParsingError OptionsTemplateRecord :=
    .mapErr .optionsTemplateRecordError (OptionsTemplateRecord.fromWire registry)
  have hframed : ∀ record ∈ templates, Framed p record.write (alone p record.write) :=
    fun record hrecord =>
      (((OptionsTemplateRecord.settles_parse ((len_le_sum hrecord).trans_lt hlen)).framed
        OptionsTemplateRecord.announce).mapErr _).eq_alone
  have hlong (record : OptionsTemplateRecord) := record.write_length_gt
  have hgo : ∀ record ∈ templates, ∀ rest, decide (3 < (record.write ++ rest).length) = true := by
    intro record _ rest
    rw [decide_eq_true_iff, length_append]
    exact (hlong record).trans_le (Nat.le_add_right _ _)
  obtain ⟨read, hread⟩ : ∃ read, runEach (fun record => alone p record.write) templates map = read :=
    ⟨_, rfl⟩
  refine ⟨(read.1, read.2.map .optionsTemplate), fun n hn => ?_⟩
  have hend : decide (3 < (List.replicate n (0 : Octet)).length) = false := by
    rw [length_replicate, decide_eq_false_iff_not]
    omega
  have hloop := repeatWhile_frames (fun buf => decide (3 < buf.length)) hframed hgo hend
    (fun record _ => ne_nil_of_length_pos (pos_of_gt (hlong record))) map
  rw [hread] at hloop
  rw [alone, Set.optionsTemplateRecords, bind_apply, hloop]
  rcases read with ⟨map', e | records⟩
  · rfl
  · simp only [Except.map, bind_apply, checkPadding_replicate]
    rfl

end Decoding

/-! ## Sets -/

section Sets

variable {parsed : Set DateTime} {aligned plain : Octets}

namespace Set

/-- What a reader makes of the octets behind the header of a set. -/
abbrev readContent (registry : Registry) (set : Set DateTime) (content : Octets)
    (map : TemplatesMap) : TemplatesMap × Except (Err SetParsingError) (Set DateTime) :=
  alone (Set.content registry (OptionsTemplateRecord.fromWire registry) Set.dataRecords set.kind)
    content map

variable (registry) (h : Announced given set)
include h

/-- A set is read from its own octets, with the zeros behind its records. -/
theorem Announced.framed {align : Bool} (hwrite : write given align set = .ok bytes) :
    ∃ records, writeRecords given set = .ok records ∧ Framed (fromWire registry) bytes
      (readContent registry set
        (records ++ List.replicate (if align = true then octetCount given set % 4 else 0) 0)) := by
  obtain ⟨records, hrecords, rfl⟩ := write_eq_ok hwrite
  have hcount := records_length hrecords
  have hsize : (calculateSetSizeWithPadding given align set).1 = countedSize given set := by
    cases align <;> rfl
  obtain ⟨hfits, hcounted⟩ := h
  have hpadding : (calculateSetSizeWithPadding given align set).2 =
      if align = true then octetCount given set % 4 else 0 := by
    rw [padding_eq, hsize]
    split <;> omega
  refine ⟨records, hrecords, ?_⟩
  have hlength : BitVec.ofNat 16 (len given align set) = BitVec.ofNat 16
      ((records ++ List.replicate (if align = true then octetCount given set % 4 else 0)
        (0 : Octet)).length + 4) := by
    apply BitVec.eq_of_toNat_eq
    rw [BitVec.toNat_ofNat, BitVec.toNat_ofNat, len_eq, hsize, hpadding, length_append,
      length_replicate]
    omega
  rw [hlength, hpadding]
  refine Set.framed_fromWireWith (by decide) (by decide) (by decide) rfl ?_
  rw [length_append, length_replicate]
  split <;> omega

variable (haligned : write given true set = .ok aligned)
include haligned

variable (hplain : write given false set = .ok plain)
include hplain

/-- The two encodings have the same records. -/
theorem Announced.both :
    ∃ records, writeRecords given set = .ok records ∧
      alone (fromWire registry) aligned = readContent registry set
        (records ++ List.replicate (octetCount given set % 4) 0) ∧
      alone (fromWire registry) plain = readContent registry set records := by
  obtain ⟨records, hrecords, hframed⟩ := h.framed registry haligned
  obtain ⟨records', hrecords', hframed'⟩ := h.framed registry hplain
  obtain rfl := Except.ok.inj (hrecords.symm.trans hrecords')
  refine ⟨records, hrecords, hframed.alone_eq, ?_⟩
  simpa using hframed'.alone_eq

variable {registry}

/-- Padding that is too short for a record makes no difference. -/
theorem alone_aligned (hshort : ShortPadding given map set) :
    alone (fromWire registry) aligned map =
      (alone (fromWire registry) plain map : _ × Except _ (Set DateTime)) := by
  obtain ⟨records, hrecords, hreadAligned, hreadPlain⟩ := h.both registry haligned hplain
  have hcount := records_length hrecords
  rw [hreadAligned, hreadPlain]
  cases set with
  | template templates =>
    have hnone : octetCount given (.template templates : Set DateTime) % 4 = 0 :=
      template_size templates
    rw [hnone, replicate_zero, append_nil]
  | optionsTemplate templates =>
    cases hrecords
    have hlen : (templates.map OptionsTemplateRecord.len).sum < 2 ^ 16 := by
      have hsize : octetCount given (.optionsTemplate templates : Set DateTime) =
        4 + (templates.map OptionsTemplateRecord.len).sum := rfl
      have := h.1
      omega
    obtain ⟨r, hr⟩ := @optionsTemplateRecords_padded DateTime registry templates hlen map
    have hzero := hr 0 (by omega)
    rw [replicate_zero, append_nil] at hzero
    exact (hr _ (by omega)).trans hzero.symm
  | data id dataRecords =>
    have hfits := h.1
    have hlength : octetCount given (.data id dataRecords) - 4 = records.length := by omega
    cases hforce : map id.val with
    | none => exact (alone_dataRecords_none hforce).trans (alone_dataRecords_none hforce).symm
    | some inForce =>
      obtain ⟨result, -, hread, hpadded⟩ :=
        @dataRecords_padded DateTime _ map id inForce records (by omega) hforce
      have hleft := hshort inForce hforce
      rw [hlength] at hleft
      exact (hpadded _ hleft).trans hread.symm

/-- Padding that is enough for a record is read as one. -/
theorem shortPadding_of_alone
    (hreadAligned : (alone (fromWire registry) aligned map).2 = .ok parsed)
    (hreadPlain : (alone (fromWire registry) plain map).2 = .ok parsed) :
    ShortPadding given map set := by
  cases set with
  | template | optionsTemplate => trivial
  | data id dataRecords =>
    intro inForce hforce
    obtain ⟨records, hrecords, heqAligned, heqPlain⟩ := h.both registry haligned hplain
    rw [heqAligned] at hreadAligned
    rw [heqPlain] at hreadPlain
    have hfits := h.1
    have hlength := records_length hrecords
    have hcontent : octetCount given (.data id dataRecords) - 4 = records.length := by omega
    rw [hcontent]
    generalize octetCount given (.data id dataRecords) % 4 = n at hreadAligned hfits ⊢
    obtain ⟨result, hcount, hread, -⟩ :=
      @dataRecords_padded DateTime _ map id inForce records (by omega) hforce
    obtain ⟨result', hcount', hread', -⟩ := @dataRecords_padded DateTime _ map id inForce
      (records ++ List.replicate n 0) (by rw [length_append, length_replicate]; omega) hforce
    obtain rfl := hread
    obtain rfl := hread'
    refine or_iff_not_imp_left.mpr fun hne => ?_
    have hsame := (hcount parsed hreadPlain hne).symm.trans (hcount' parsed hreadAligned hne)
    rw [length_append, length_replicate] at hsame
    have hplain := Nat.div_add_mod records.length (recordLength inForce)
    have haligned := Nat.div_add_mod (records.length + n) (recordLength inForce)
    have hlt := Nat.mod_lt (records.length + n) (Nat.pos_of_ne_zero hne)
    rw [← hsame] at haligned
    omega

end Set

end Sets

/-! ## Packets -/

section Packets

open NetFlowV9Packet

variable {sets : List (Set DateTime)} {align : Bool}

section Front

variable (h : Set.Announced given set) {frame : Octets}
  (hwrite : Set.write given align set = .ok frame)
include h hwrite

/-- What the reader does with a set in front of it, and the sets behind. -/
theorem alone_readSets_cons (count : BitVec 16) (fuel i : Nat) (rest : Octets) (map : TemplatesMap) :
    alone (readSets registry count (fuel + 1) i) (frame ++ rest) map =
      if 0 < i then match alone (Set.fromWire registry) frame map with
        | (map', .error e) => (map', .error (e.map .setError))
        | (map', .ok parsed) => match Set.subtract i (parsed : Set DateTime) with
          | none => (map', .error (.error (.invalidCount count)))
          | some i' =>
            let behind := alone (readSets registry count fuel i') rest map'
            (behind.1, behind.2.map (parsed :: ·))
      else (map, .ok []) := by
  have hlong := Set.write_length_gt hwrite
  have hgo : 3 < (frame ++ rest).length := by
    rw [length_append]
    omega
  have hframe := (h.framed registry hwrite).choose_spec.2.eq_alone
  generalize alone (Set.fromWire registry : StateParser _ _ (Set DateTime)) frame = run at hframe ⊢
  simp only [alone, readSets, hgo, and_true, hframe map rest]
  split
  · rcases run map with ⟨map', e | parsed⟩
    · rfl
    · simp only [Except.map]
      cases Set.subtract i parsed with
      | none => rfl
      | some i' =>
        dsimp only
        rcases readSets registry count fuel i' map' rest with ⟨map'', e | ⟨_, parsed'⟩⟩ <;>
          rfl
  · rfl

theorem alone_readSets_eq_ok {count : BitVec 16} {fuel i : Nat} {rest : Octets} (hi : 0 < i)
    {last : TemplatesMap} {decoded : List (Set DateTime)}
    (hread : alone (readSets registry count (fuel + 1) i) (frame ++ rest) map =
      (last, .ok decoded)) :
    ∃ map' parsed i' later, alone (Set.fromWire registry) frame map = (map', .ok parsed) ∧
      Set.subtract i parsed = some i' ∧ decoded = parsed :: later ∧
      alone (readSets registry count fuel i') rest map' = (last, .ok later) := by
  rw [alone_readSets_cons h hwrite count fuel i, if_pos hi] at hread
  rcases hrun : (alone (Set.fromWire registry) frame map : _ × Except _ (Set DateTime)) with
    ⟨map', e | parsed⟩
  · simp [hrun] at hread
  · cases hsubtract : Set.subtract i parsed with
    | none => simp [hrun, hsubtract] at hread
    | some i' =>
      simp only [hrun, hsubtract] at hread
      obtain ⟨later, hbehind, rfl⟩ := eq_ok_of_map hread
      exact ⟨map', parsed, i', later, rfl, hsubtract, rfl, hbehind⟩

end Front

section Both

variable (count : BitVec 16) (k k' : Nat) {i : Nat}
  (hwrite : ∀ align, ∀ set ∈ sets,
    Set.write given align set = .ok (written (Set.write given align) set))
  (h : ∀ set ∈ sets, Set.Announced given set)
include hwrite h

/-- Along the sets: the two encodings are read in the same way. -/
theorem readSets_aligned (hshort : ShortPaddings registry given i map sets) :
    alone (readSets registry count (sets.length + k) i)
        (sets.flatMap (written (Set.write given true))) map =
      (alone (readSets registry count (sets.length + k') i)
        (sets.flatMap (written (Set.write given false))) map : _ × Except _ (List (Set DateTime))) := by
  induction sets generalizing map i with
  | nil => cases k <;> cases k' <;> simp [alone, readSets]
  | cons set sets ih =>
    simp only [forall_mem_cons] at hwrite h
    rw [flatMap_cons, flatMap_cons, length_cons, Nat.add_right_comm _ 1 k,
      Nat.add_right_comm _ 1 k', alone_readSets_cons h.1 (hwrite true).1,
      alone_readSets_cons h.1 (hwrite false).1]
    by_cases hi : 0 < i
    · obtain ⟨hpadding, hlater⟩ := hshort hi
      rw [if_pos hi, if_pos hi, Set.alone_aligned h.1 (hwrite true).1 (hwrite false).1 hpadding]
      rcases hparsed : alone (Set.fromWire registry) (written (Set.write given false) set) map with
        ⟨map', e | parsed⟩
      · rfl
      · dsimp only
        cases hsubtract : Set.subtract i parsed with
        | none => rfl
        | some i' =>
          have hbehind := ih (fun align => (hwrite align).2) h.2
            (hlater map' parsed i' hparsed hsubtract)
          simp only [hbehind]
    · rw [if_neg hi, if_neg hi]

/-- If both are read as the same sets, no padding was enough for a record. -/
theorem shortPaddings_of_readSets {last : TemplatesMap} {decoded : List (Set DateTime)}
    (haligned : alone (readSets registry count (sets.length + k) i)
      (sets.flatMap (written (Set.write given true))) map = (last, .ok decoded))
    (hplain : alone (readSets registry count (sets.length + k') i)
      (sets.flatMap (written (Set.write given false))) map = (last, .ok decoded)) :
    ShortPaddings registry given i map sets := by
  induction sets generalizing map i decoded with
  | nil => trivial
  | cons set sets ih =>
    intro hi
    simp only [forall_mem_cons] at hwrite h
    rw [length_cons, Nat.add_right_comm] at haligned hplain
    obtain ⟨map₁, parsed, i₁, later, hrun₁, hsubtract₁, rfl, hbehind₁⟩ :=
      alone_readSets_eq_ok h.1 (hwrite true).1 hi haligned
    obtain ⟨map₂, parsed₂, i₂, later₂, hrun₂, hsubtract₂, hdecoded, hbehind₂⟩ :=
      alone_readSets_eq_ok h.1 (hwrite false).1 hi hplain
    obtain ⟨rfl, rfl⟩ := List.cons.inj hdecoded
    have hpadding := Set.shortPadding_of_alone h.1 (hwrite true).1 (hwrite false).1
      (congrArg Prod.snd hrun₁) (congrArg Prod.snd hrun₂)
    refine ⟨hpadding, fun map' parsed' i' hparsed hsubtract => ?_⟩
    rw [Set.alone_aligned h.1 (hwrite true).1 (hwrite false).1 hpadding, hparsed] at hrun₁
    rw [hparsed] at hrun₂
    cases hrun₁
    cases hrun₂
    obtain rfl := Option.some.inj (hsubtract.symm.trans hsubtract₁)
    obtain rfl := Option.some.inj (hsubtract.symm.trans hsubtract₂)
    exact ih (fun align => (hwrite align).2) h.2 hbehind₁ hbehind₂

end Both

variable (registry) in
/-- A packet is read as its header and what the reader makes of its sets. -/
theorem alone_fromWire {packet : NetFlowV9Packet DateTime}
    (hwrite : packet.write given align = .ok bytes) (map : TemplatesMap) :
    (∀ set ∈ packet.sets, Set.write given align set = .ok (written (Set.write given align) set)) ∧
    ∃ k, alone (NetFlowV9Packet.fromWire registry) bytes map =
      match (timestampOpt (BitVec.ofInt 32 (timestamp packet.unixTime)).toNat 0 : Option DateTime) with
      | none =>
        (map, .error (.error (.invalidUnixTime (BitVec.ofInt 32 (timestamp packet.unixTime)))))
      | some time =>
        let read := alone (readSets registry packet.count (packet.sets.length + k)
          packet.count.toNat) (packet.sets.flatMap (written (Set.write given align))) map
        (read.1, read.2.map fun sets =>
          ⟨packet.sysUpTime, time, packet.sequenceNumber, packet.sourceId, sets⟩) := by
  obtain ⟨front, body, hfront, hbody, rfl⟩ := writeBoth_eq_ok.mp hwrite
  obtain rfl := Except.ok.inj hfront
  obtain ⟨heach, rfl⟩ := writeAll_eq_ok (mapError_eq_ok.mp hbody)
  have hnonempty : ∀ set ∈ packet.sets, written (Set.write given align) set ≠ [] := fun set hset =>
    ne_nil_of_length_pos (pos_of_gt (Set.write_length_gt (heach set hset)))
  obtain ⟨k, hk⟩ := Nat.exists_eq_add_of_le (length_le_flatMap hnonempty)
  refine ⟨heach, k, ?_⟩
  simp only [alone, append_assoc, ← hk]
  rw [NetFlowV9Packet.fromWire, (Reads.liftP (decodes_beU16 _) map).run_bind, if_neg (by simp),
    (Reads.liftP (decodes_beU16 _) map).run_bind, (Reads.liftP (decodes_beU32 _) map).run_bind]
  rw [bind_apply, liftP, mapRes, (decodes_beU32 _).run_bind]
  cases (timestampOpt (BitVec.ofInt 32 (timestamp packet.unixTime)).toNat 0 : Option DateTime) with
  | none => rfl
  | some time =>
    dsimp only [Option.elim, Parser.lift]
    rw [(Reads.liftP (decodes_beU32 _) map).run_bind, (Reads.liftP (decodes_beU32 _) map).run_bind]
    simp only [bind_apply, liftP, Parser.input]
    rcases readSets registry packet.count _ packet.count.toNat map
      (packet.sets.flatMap (written (Set.write given align))) with ⟨map', e | ⟨rest, sets⟩⟩ <;> rfl

end Packets

/-- A set ends on a boundary behind the octets that it announces exactly if it has an even
number of octets, which its length field can say. A reader makes the same of both encodings if no
padding is enough for a record of the template in force; and it does not otherwise, where it reads
the plain octets. -/
theorem netflow_alignment (registry : Registry) (given : TemplatesMap)
    (packet : NetFlowV9Packet DateTime) :
    (∀ set ∈ packet.sets, ∀ bytes, Set.write (some given) true set = .ok bytes →
      (Set.Aligned bytes (Set.calculateSetSizeWithPadding (some given) true set).2 ↔
        Set.WellSized (some given) set)) ∧
    ∀ aligned plain, packet.write (some given) true = .ok aligned →
      packet.write (some given) false = .ok plain →
      (∀ set ∈ packet.sets, Set.Announced (some given) set) → ∀ map,
        (ShortPaddings registry (some given) packet.count.toNat map packet.sets →
          alone (NetFlowV9Packet.fromWire registry) aligned map =
            (alone (NetFlowV9Packet.fromWire registry) plain map :
              _ × Except _ (NetFlowV9Packet DateTime))) ∧
        ∀ (map' : TemplatesMap) (decoded : NetFlowV9Packet DateTime),
          alone (NetFlowV9Packet.fromWire registry) aligned map = (map', .ok decoded) →
          alone (NetFlowV9Packet.fromWire registry) plain map = (map', .ok decoded) →
          ShortPaddings registry (some given) packet.count.toNat map packet.sets := by
  refine ⟨fun set _ bytes h => Set.aligned_iff h, ?_⟩
  intro aligned plain haligned hplain hannounced map
  obtain ⟨hwriteAligned, k, hreadAligned⟩ := alone_fromWire registry haligned map
  obtain ⟨hwritePlain, k', hreadPlain⟩ := alone_fromWire registry hplain map
  have hwrite : ∀ align, ∀ set ∈ packet.sets, Set.write (some given) align set =
      .ok (written (Set.write (some given) align) set) := by
    intro align
    cases align with
    | false => exact hwritePlain
    | true => exact hwriteAligned
  rw [hreadAligned, hreadPlain]
  refine ⟨fun hshort => ?_, fun map' decoded hsame hdecoded => ?_⟩
  · simp only [readSets_aligned packet.count k k' hwrite hannounced hshort]
  · cases htime : (timestampOpt (BitVec.ofInt 32 (timestamp packet.unixTime)).toNat 0 :
      Option DateTime) with
    | none =>
      simp only [htime] at hdecoded
      cases hdecoded
    | some time =>
      simp only [htime] at hsame hdecoded
      obtain ⟨sets, haligned, rfl⟩ := eq_ok_of_map hsame
      obtain ⟨sets', hplain, hpacket⟩ := eq_ok_of_map hdecoded
      obtain rfl : sets' = sets := congrArg NetFlowV9Packet.sets hpacket
      exact shortPaddings_of_readSets packet.count k k' hwrite hannounced haligned hplain

/-- Two octets behind the record of ten, in a packet at no whole second. -/
theorem netflow_alignment_counter : ∃ aligned plain,
    (interfacePacket ⟨0, 1, by decide, by decide, by decide⟩).write (some interfaceMap) true
      = .ok aligned ∧
    (interfacePacket ⟨0, 1, by decide, by decide, by decide⟩).write (some interfaceMap) false
      = .ok plain ∧ plain.length + 2 = aligned.length ∧
    alone (NetFlowV9Packet.fromWire sampleRegistry) aligned interfaceMap =
      (alone (NetFlowV9Packet.fromWire sampleRegistry) plain interfaceMap :
        _ × Except _ (NetFlowV9Packet UtcTime)) := by
  refine ⟨_, _, rfl, rfl, rfl, ((netflow_alignment sampleRegistry interfaceMap
    (interfacePacket ⟨0, 1, by decide, by decide, by decide⟩)).2 _ _ rfl rfl ?_ interfaceMap).1 ?_⟩
  · intro set hset
    simp only [interfacePacket, mem_cons, not_mem_nil, or_false] at hset
    rcases hset with rfl | rfl <;> exact ⟨by decide, rfl⟩
  · refine fun _ => ⟨trivial, fun map' parsed i' hparsed _ _ => ⟨?_, fun _ _ _ _ _ => trivial⟩⟩
    cases hparsed
    refine Set.shortPadding_of_filled fun inForce hforce => ?_
    cases hforce
    exact ⟨by decide, by decide⟩

/-- A record of one octet: five octets are brought to six. -/
theorem netflow_alignment_odd : ∃ bytes,
    Set.write (some (TemplatesMap.empty.insert 256 (.new [] [⟨.iana paddingOctets, 1, rfl⟩]))) true
      (.data ⟨256, by decide⟩ [⟨[], [⟨.iana paddingOctets, ([7] : Octets)⟩]⟩] : Set UtcTime)
        = .ok bytes ∧ ¬ 4 ∣ bytes.length :=
  ⟨_, rfl, by decide⟩

end Netflow

end NetCalyx.Flow
