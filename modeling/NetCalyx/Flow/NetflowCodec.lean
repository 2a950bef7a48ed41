import NetCalyx.Flow.Netflow

/-!
# Reading back NetFlow version 9 packets

`netflow_round_trip` says when a packet is read back from what was written, with
or without padding, and how the two counts of its records compare.
-/

namespace NetCalyx.Flow.Netflow
open Wire List

/-! ## Scopes -/

namespace ScopeFieldSpecifier

theorem write_length (spec : ScopeFieldSpecifier) : spec.write.length = spec.len := by
  unfold write len
  split <;> simp_all

theorem write_ne_nil (spec : ScopeFieldSpecifier) : spec.write ≠ [] := by
  rw [← length_pos_iff, write_length, len]
  omega

/-- A specifier that can be read back: its element is the one found under its
number, the id has the enterprise bit exactly for an enterprise, and the length is
one of the element's. -/
structure Canonical (spec : ScopeFieldSpecifier) : Prop where
  found : ScopeIE.fromPair spec.elementId.pen spec.elementId.id = spec.elementId
  enterprise : spec.elementId.id &&& 0x8000 ≠ 0 ↔ spec.elementId.pen ≠ 0
  length_valid : inRange spec.elementId.lengthRange spec.length = true

theorem decodes_fromWire {spec : ScopeFieldSpecifier} (h : spec.Canonical) :
    Decodes fromWire spec.write spec := by
  have hpen : Decodes (scopeEnterpriseNumber spec.elementId.id)
      (if spec.elementId.pen ≠ 0 then octets spec.elementId.pen else []) spec.elementId.pen := by
    unfold scopeEnterpriseNumber
    by_cases hpen : spec.elementId.pen = 0
    · rw [if_neg (by rw [h.enterprise]; simpa using hpen), if_neg (by simpa using hpen), hpen]
      exact Decodes.pure _
    · rw [if_pos (h.enterprise.mpr hpen), if_pos hpen]
      exact decodes_beU32 _
  rw [write, append_assoc]
  refine (decodes_beU16 _).bind ((decodes_beU16 _).bind (hpen.last ?_))
  simp only [h.found, h.length_valid, if_true]
  exact Decodes.pure _

end ScopeFieldSpecifier

theorem scopeNumber_eq (length : BitVec 16) :
    scopeNumber length = .mapErr (fun _ => .invalidLength length) (uintDeserializer 32 "" length) := by
  funext buf
  unfold scopeNumber Parser.mapErr uintDeserializer
  by_cases h : (length.toNat > 4 || buf.length < length.toNat) = true
  · rw [if_pos h, if_pos h]
    rfl
  · rw [if_neg h, if_neg h]

variable {bytes : Octets}

/-- What is written of a number: its low octets. -/
theorem writeScopeNumber_eq_ok {value : BitVec 32} {length : BitVec 16}
    (h : writeScopeNumber value (some length) = .ok bytes) :
    length.toNat ≤ 4 ∧ bytes = toBe length.toNat value.toNat := by
  rw [writeScopeNumber, octets_length] at h
  split at h
  · cases h
  · rename_i hle
    cases h
    have hdrop := drop_toBe (32 / 8 - length.toNat) length.toNat value.toNat
    rw [Nat.sub_add_cancel (by omega)] at hdrop
    exact ⟨by omega, hdrop⟩

theorem writeScopeNumber_none (value : BitVec 32) :
    writeScopeNumber value none = writeScopeNumber value (some 4) := by
  simp [writeScopeNumber]

theorem decodes_scopeNumber {value : BitVec 32} {length : BitVec 16} (hfit : Fits length value)
    (hle : length.toNat ≤ 4) :
    Decodes (scopeNumber length) (toBe length.toNat value.toNat) value := by
  rw [scopeNumber_eq]
  exact (decodes_uint hfit hle).mapErr _

namespace ScopeField

/-- A value that reads back under the specifier when it is written with the given
length. A number can be written without one if it takes four octets. -/
def Fitting (given : Option (BitVec 16)) (length : BitVec 16) : ScopeField → Prop
  | system value | interface value | lineCard value =>
    (given = some length ∨ given = none ∧ length = 4) ∧ Fits length value
  | unknown _ _ value | cache value | template value => value.length = length.toNat

structure WrittenFor (given : Option (BitVec 16)) (spec : ScopeFieldSpecifier)
    (field : ScopeField) : Prop where
  element : field.ie = spec.elementId
  fitting : field.Fitting given spec.length

variable {given : Option (BitVec 16)}

theorem number_exact {length : BitVec 16} {value : BitVec 32}
    (hgiven : given = some length ∨ given = none ∧ length = 4) (hfit : Fits length value)
    (hwrite : writeScopeNumber value given = .ok bytes) :
    Decodes (scopeNumber length) bytes value ∧ bytes.length = given.elim 4 BitVec.toNat ∧
      bytes.length = length.toNat := by
  have hsame : writeScopeNumber value given = writeScopeNumber value (some length) ∧
      given.elim 4 BitVec.toNat = length.toNat := by
    rcases hgiven with rfl | ⟨rfl, rfl⟩
    · exact ⟨rfl, rfl⟩
    · exact ⟨writeScopeNumber_none value, rfl⟩
  rw [hsame.1] at hwrite
  obtain ⟨hle, rfl⟩ := writeScopeNumber_eq_ok hwrite
  rw [hsame.2, toBe_length]
  exact ⟨decodes_scopeNumber hfit hle, rfl, rfl⟩

theorem WrittenFor.exact {spec : ScopeFieldSpecifier} {field : ScopeField}
    (h : field.WrittenFor given spec) (hwrite : field.write given = .ok bytes) :
    Decodes (fromWire spec.elementId spec.length) bytes field ∧ bytes.length = field.len given ∧
      bytes.length = spec.length.toNat := by
  rw [← h.element]
  have hfitting := h.fitting
  cases field with
  | system value | interface value | lineCard value =>
    obtain ⟨hdecodes, hlen, hfixed⟩ := number_exact hfitting.1 hfitting.2 hwrite
    exact ⟨hdecodes.map _, hlen, hfixed⟩
  | unknown pen id value | cache value | template value =>
    cases hwrite
    exact ⟨(decodes_countU8 hfitting).map _, rfl, hfitting⟩

theorem readsOne : ReadsOne WrittenFor write (fun spec => fromWire spec.elementId spec.length) len
    (fun _ => True) (fun spec => spec.length.toNat) (fun spec => spec.length.toNat) where
  decodes h hwrite := (h.exact hwrite).1
  length_eq h hwrite := (h.exact hwrite).2.1
  length_fixed h hwrite _ := (h.exact hwrite).2.2
  least_le h hwrite := (h.exact hwrite).2.2.ge

end ScopeField

/-! ## Records -/

namespace OptionsTemplateRecord

variable (record : OptionsTemplateRecord)

theorem scope_length :
    (record.scopeFieldSpecifiers.flatMap ScopeFieldSpecifier.write).length = record.scopeLength :=
  length_flatMap_of fun spec _ => spec.write_length

theorem options_length :
    (record.fieldSpecifiers.flatMap FieldSpecifier.write).length = record.optionsLength :=
  length_flatMap_of fun spec _ => spec.write_length

theorem write_length : record.write.length = record.len := by
  simp only [write, len, length_append, octets_length, scope_length, options_length]

theorem write_length_gt : 3 < record.write.length := by
  rw [write_length, len]
  omega

/-- A record that can be read back. -/
structure Announceable (registry : Registry) (record : OptionsTemplateRecord) : Prop where
  id_ge : 256 ≤ record.id.toNat
  scope_canonical : ∀ spec ∈ record.scopeFieldSpecifiers, spec.Canonical
  canonical : ∀ spec ∈ record.fieldSpecifiers, spec.elementId.Canonical registry

variable {record : OptionsTemplateRecord}

theorem scopeLength_toNat (h : record.len < 2 ^ 16) :
    (BitVec.ofNat 16 record.scopeLength).toNat = record.scopeLength := by
  rw [BitVec.toNat_ofNat, Nat.mod_eq_of_lt (by unfold len at h; omega)]

theorem optionsLength_toNat (h : record.len < 2 ^ 16) :
    (BitVec.ofNat 16 record.optionsLength).toNat = record.optionsLength := by
  rw [BitVec.toNat_ofNat, Nat.mod_eq_of_lt (by unfold len at h; omega)]

theorem decodes_parse {registry : Registry} (h : record.Announceable registry)
    (hlen : record.len < 2 ^ 16) : Decodes (parse registry) record.write record := by
  have hscope := parseTillEmpty_ok fun spec hspec =>
    And.intro ((ScopeFieldSpecifier.decodes_fromWire (h.scope_canonical spec hspec)).mapErr
      OptionsTemplateRecordParsingError.scopeFieldSpecifierError) spec.write_ne_nil
  have hfields := parseTillEmpty_ok fun spec hspec =>
    And.intro ((FieldSpecifier.decodes_fromWire (h.canonical spec hspec)).mapErr
      OptionsTemplateRecordParsingError.fieldSpecifierError) spec.write_ne_nil
  simp only [write, append_assoc]
  refine (decodes_beU16 _).bind ?_
  rw [if_neg (by have := h.id_ge; omega)]
  refine (decodes_beU16 _).bind ((decodes_beU16 _).bind ?_)
  rw [scopeLength_toNat hlen, optionsLength_toNat hlen]
  refine (decodes_take record.scope_length).bind ((decodes_take record.options_length).last ?_)
  exact (Decodes.within hscope).last ((Decodes.within hfields).map _)

theorem reads {registry : Registry} (h : record.Announceable registry) (hlen : record.len < 2 ^ 16)
    (map : TemplatesMap) :
    Reads (fromWire registry) map record.write record (announce map record) :=
  Reads.noted (decodes_parse h hlen) announce map

end OptionsTemplateRecord

variable {DateTime : Type} [Chrono DateTime]

namespace DataRecord

/-- A record that can be read with the template in force when it is written with
the writer's one: field by field, without variable lengths, and with a template of
the same size. -/
structure Conforms (given : Option DecodingTemplate) (inForce : DecodingTemplate)
    (record : DataRecord DateTime) : Prop where
  scope : FitEach ScopeField.WrittenFor record.scopeFields (scopeLengths given)
    inForce.scopeFieldsSpecs
  fields : FieldsConform record.fields (fieldLengths given) inForce.fieldsSpecs
  fixed : ∀ spec ∈ inForce.fieldsSpecs, spec.length ≠ variableLength
  size : ∀ template, given = some template → recordLength template = recordLength inForce

variable {given : Option DecodingTemplate} {record : DataRecord DateTime}

theorem write_eq_ok (h : record.write given = .ok bytes) :
    ∃ scope fields, writeEach ScopeField.write record.scopeFields (scopeLengths given) = .ok scope ∧
      writeFields record.fields (fieldLengths given) = .ok fields ∧ bytes = scope ++ fields := by
  obtain ⟨scope, fields, hscope, hfields, rfl⟩ := writeBoth_eq_ok.mp h
  exact ⟨scope, fields, mapError_eq_ok.mp hscope, mapError_eq_ok.mp hfields, rfl⟩

variable [LawfulChrono DateTime]

theorem Conforms.decodes {inForce : DecodingTemplate} (h : record.Conforms given inForce)
    (hwrite : record.write given = .ok bytes) :
    Decodes (fromWire inForce) bytes record ∧ bytes.length = recordLength inForce ∧
      record.len given = recordLength inForce := by
  obtain ⟨scope, fields, hscope, hfields, rfl⟩ := write_eq_ok hwrite
  obtain ⟨hscopeDecodes, hscopeLen, hscopeSize, -⟩ := decodes_readEach ScopeField.readsOne h.scope hscope
  obtain ⟨hfieldsDecodes, hfieldsLen, hfieldsSize, -⟩ :=
    decodes_readEach readsOne_field h.fields hfields
  have hsize : (scope ++ fields).length = recordLength inForce := by
    rw [length_append, hscopeSize fun _ _ => trivial, hfieldsSize h.fixed]
    rfl
  refine ⟨(hscopeDecodes.mapErr _).bind ((hfieldsDecodes.mapErr _).map _), hsize, ?_⟩
  cases given with
  | some template => exact h.size template rfl
  | none =>
    rw [← hsize, length_append, hscopeLen, hfieldsLen, len]
    exact congrArg₂ (· + ·) (lenEach_nil ScopeField.len _).symm
      (lenEach_nil Field.counted _).symm

end DataRecord

/-! ## Sets -/

variable (given : Option TemplatesMap)
variable (align : Bool)
variable (set : Set DateTime)

theorem Set.padding_eq :
    (Set.calculateSetSizeWithPadding given align set).2 =
      if align = true then (Set.calculateSetSizeWithPadding given align set).1 % 4 else 0 := by
  cases align <;> rfl

theorem Set.padding_le : (Set.calculateSetSizeWithPadding given align set).2 ≤ 3 := by
  rw [Set.padding_eq]
  split <;> omega

theorem Set.size_eq :
    (Set.calculateSetSizeWithPadding given align set).1 = 4 + match set with
      | .template records => (records.map TemplateRecord.len).sum
      | .optionsTemplate records => (records.map OptionsTemplateRecord.len).sum
      | .data id records => (records.map (DataRecord.len (decodingTemplate given id))).sum := by
  cases align <;> rfl

theorem Set.len_eq :
    Set.len given align set = (Set.calculateSetSizeWithPadding given align set).1
      + (Set.calculateSetSizeWithPadding given align set).2 := rfl

variable {set : Set DateTime} {map : TemplatesMap}

namespace Set

/-- A set that can be read back when `map` is in force. A padded set needs records
that are longer than the padding. -/
def Conforms (registry : Registry) (align : Bool) (given : Option TemplatesMap)
    (map : TemplatesMap) : Set DateTime → Prop
  | .template records => ∀ record ∈ records, record.Announceable registry
  | .optionsTemplate records => ∀ record ∈ records, record.Announceable registry
  | .data id records => ∃ inForce, map id.val = some inForce ∧ 0 < recordLength inForce ∧
      (align = true → 4 ≤ recordLength inForce) ∧
      ∀ record ∈ records, record.Conforms (decodingTemplate given id) inForce

/-- The templates in force behind a set. -/
def next (map : TemplatesMap) : Set DateTime → TemplatesMap
  | .template records => records.foldl TemplateRecord.announce map
  | .optionsTemplate records => records.foldl OptionsTemplateRecord.announce map
  | .data id records => records.foldl (fun map _ => map.increment id.val) map

/-- The parts of a written set. -/
theorem write_eq_ok {given : Option TemplatesMap} {align : Bool}
    (h : write given align set = .ok bytes) :
    ∃ records, writeRecords given set = .ok records ∧
      bytes = octets (Set.id set) ++ octets (BitVec.ofNat 16 (len given align set))
        ++ (records ++ List.replicate (calculateSetSizeWithPadding given align set).2 0) := by
  obtain ⟨front, content, hfront, hcontent, rfl⟩ := writeBoth_eq_ok.mp h
  obtain ⟨records, zeros, hrecords, hzeros, rfl⟩ := writeBoth_eq_ok.mp hcontent
  obtain rfl := Except.ok.inj hfront
  obtain rfl := Except.ok.inj hzeros
  exact ⟨records, hrecords, rfl⟩

theorem write_length_gt {given : Option TemplatesMap} {align : Bool}
    (h : write given align set = .ok bytes) : 3 < bytes.length := by
  obtain ⟨records, -, rfl⟩ := write_eq_ok h
  simp only [length_append, octets_length]
  omega

/-- Templates take a multiple of four octets. -/
theorem template_size (records : List TemplateRecord) :
    (4 + (records.map TemplateRecord.len).sum) % 4 = 0 := by
  have hspecs : ∀ specs : List FieldSpecifier, (specs.map FieldSpecifier.len).sum % 4 = 0 := by
    intro specs
    induction specs with
    | nil => rfl
    | cons spec specs ih =>
      have hspec : spec.len % 4 = 0 := by
        unfold FieldSpecifier.len
        split <;> rfl
      rw [map_cons, sum_cons]
      omega
  induction records with
  | nil => rfl
  | cons record records ih =>
    have hrecord := hspecs record.fieldSpecifiers
    rw [map_cons, sum_cons, TemplateRecord.len]
    omega

variable [LawfulChrono DateTime]

theorem dataRecords_run {given : Option DecodingTemplate} {inForce : DecodingTemplate}
    {id : DataSetId} {records : List (DataRecord DateTime)} {padding : Nat}
    (hforce : map id.val = some inForce) (hpadding : padding < recordLength inForce)
    (h : ∀ record ∈ records, record.Conforms given inForce)
    (hwrite : writeAll (DataRecord.write given) records = .ok bytes) :
    dataRecords id map (bytes ++ List.replicate padding 0) =
        (records.foldl (fun map _ => map.increment id.val) map,
          .ok (List.replicate padding 0, .data id records)) ∧
      bytes.length = (records.map (DataRecord.len given)).sum := by
  obtain ⟨heach, rfl⟩ := writeAll_eq_ok hwrite
  have hrecord := fun record hr => (h record hr).decodes (heach record hr)
  have hread : ReadsEach (dataRecord id inForce) (written (DataRecord.write given))
      (fun map _ => map.increment id.val) map records :=
    ReadsEach.of_forall (fun record hr map => Reads.noted ((hrecord record hr).1.mapErr _) _ map) map
  have hgo : ∀ record ∈ records, ∀ rest, decide (recordLength inForce
      ≤ (written (DataRecord.write given) record ++ rest).length) = true := by
    intro record hr rest
    have := (hrecord record hr).2.1
    rw [decide_eq_true_iff, length_append]
    omega
  have htail : decide (recordLength inForce ≤ (List.replicate padding (0 : Octet)).length)
      = false := by
    rw [length_replicate, decide_eq_false_iff_not]
    omega
  have hne : ∀ record ∈ records, written (DataRecord.write given) record ≠ [] := by
    intro record hr
    have := (hrecord record hr).2.1
    exact ne_nil_of_length_pos (by omega)
  have hloop := repeatWhile_ok (fun buf => decide (recordLength inForce ≤ buf.length))
    hread hgo htail hne
  have hlens : ∀ record ∈ records,
      (written (DataRecord.write given) record).length = DataRecord.len given record := by
    intro record hr
    rw [(hrecord record hr).2.1, (hrecord record hr).2.2]
  refine ⟨?_, length_flatMap_of hlens⟩
  rw [dataRecords, StateParser.state_bind]
  simp only [hforce, readRecords, if_neg (by omega : ¬ recordLength inForce = 0)]
  rw [StateParser.run_bind hloop, StateParser.run_bind (checkPadding_replicate _ _)]
  rfl

/-- One set is read back, and the reader's templates move on. -/
theorem reads {registry : Registry} {align : Bool} {given : Option TemplatesMap}
    (h : Conforms registry align given map set) (hwrite : write given align set = .ok bytes)
    (hlen : len given align set < 2 ^ 16) :
    Reads (fromWire registry) map bytes set (next map set) ∧
      bytes.length = len given align set := by
  obtain ⟨records, hrecords, rfl⟩ := write_eq_ok hwrite
  have hpadding := padding_le given align set
  rw [len_eq] at hlen ⊢
  obtain ⟨left, hrun, hsize⟩ : ∃ left,
      Set.content registry (OptionsTemplateRecord.fromWire registry) dataRecords set.kind map
          (records ++ List.replicate (calculateSetSizeWithPadding given align set).2 0) =
        (next map set, .ok (left, set)) ∧
      (calculateSetSizeWithPadding given align set).1 = 4 + records.length := by
    cases set with
    | template templates =>
      cases hrecords
      have hnone : (calculateSetSizeWithPadding given align
          (.template templates : Set DateTime)).2 = 0 := by
        rw [padding_eq, size_eq]
        simp only [template_size, ite_self]
      rw [size_eq] at hlen ⊢
      rw [hnone, replicate_zero, append_nil,
        length_flatMap_of fun record _ => record.write_length]
      exact ⟨_, Set.templateRecords_run h (by simp only at hlen; omega) map, rfl⟩
    | optionsTemplate templates =>
      cases hrecords
      rw [size_eq] at hlen ⊢
      rw [length_flatMap_of fun record _ => record.write_length]
      refine ⟨_, Set.optionsTemplateRecords_run (fun record hrecord map =>
        OptionsTemplateRecord.reads (h record hrecord)
          (lt_of_le_of_lt (len_le_sum hrecord) (by simp only at hlen; omega)) map)
        (fun record _ => record.write_length_gt) hpadding map, rfl⟩
    | data id dataRecords =>
      obtain ⟨inForce, hforce, hpos, hmin, hconform⟩ := h
      have hshort : (calculateSetSizeWithPadding given align (.data id dataRecords)).2
          < recordLength inForce := by
        cases align with
        | false => exact hpos
        | true =>
          have := hmin rfl
          omega
      obtain ⟨hrun, hsum⟩ :=
        dataRecords_run hforce hshort hconform (mapError_eq_ok.mp hrecords)
      rw [hsum, size_eq]
      exact ⟨_, hrun, rfl⟩
  refine ⟨(Reads.liftP (Set.decodes_header (by decide) (by decide) (by decide) ?_ hlen)
    map).last (Reads.within hrun), ?_⟩
  · simp only [length_append, length_replicate]
    omega
  · simp only [length_append, octets_length, length_replicate]
    omega

end Set

/-! ## Packets -/

/-- The sets one after the other, with the templates that the ones before
announced. -/
def SetsConform (registry : Registry) (align : Bool) (given : Option TemplatesMap) :
    TemplatesMap → List (Set DateTime) → Prop
  | _, [] => True
  | map, set :: sets =>
    Set.Conforms registry align given map set ∧
      SetsConform registry align given (Set.next map set) sets

omit [Chrono DateTime] in
/-- For a set with records the reader takes off at most what the writer counted. -/
theorem Set.subtracted_le (h : 0 < Set.recordCount set) :
    Set.subtracted set ≤ Set.recordCount set := by
  cases set with
  | template records | optionsTemplate records => exact h
  | data id records => exact le_refl _

omit [Chrono DateTime] in
/-- The two counts of a set agree unless it has several templates. -/
theorem Set.subtracted_eq
    (h : set.kind = .template ∨ set.kind = .optionsTemplate → Set.recordCount set = 1) :
    Set.subtracted set = Set.recordCount set := by
  cases set with
  | template records => exact (h (.inl rfl)).symm
  | optionsTemplate records => exact (h (.inr rfl)).symm
  | data id records => rfl

section Packet

variable [LawfulChrono DateTime] {registry : Registry} {align : Bool} {given : Option TemplatesMap}

/-- The reader's count stays at least the number of records to come, so that it
neither stops before the last set nor runs out of its count. -/
theorem readSets_run {sets : List (Set DateTime)} (count : BitVec 16) {fuel i : Nat}
    (h : SetsConform registry align given map sets)
    (hwrite : ∀ set ∈ sets, Set.write given align set = .ok (written (Set.write given align) set))
    (hlen : ∀ set ∈ sets, Set.len given align set < 2 ^ 16)
    (hne : ∀ set ∈ sets, 0 < Set.recordCount set) (hi : (sets.map Set.recordCount).sum ≤ i)
    (hfuel : sets.length ≤ fuel) :
    NetFlowV9Packet.readSets registry count fuel i map
        (sets.flatMap (written (Set.write given align))) =
      (sets.foldl Set.next map, .ok ([], sets)) := by
  induction sets generalizing map fuel i with
  | nil => cases fuel <;> simp [NetFlowV9Packet.readSets]
  | cons set sets ih =>
    rw [forall_mem_cons] at hwrite hlen hne
    rw [map_cons, sum_cons] at hi
    cases fuel with
    | zero => simp at hfuel
    | succ fuel =>
      have hread := (Set.reads h.1 hwrite.1 hlen.1).1 (sets.flatMap (written (Set.write given align)))
      have hlong := Set.write_length_gt hwrite.1
      have hle := Set.subtracted_le hne.1
      have hgo : 0 < i ∧ 3 < (written (Set.write given align) set
          ++ sets.flatMap (written (Set.write given align))).length := by
        rw [length_append]
        have := hne.1
        omega
      have hsubtract : Set.subtract i set = some (i - Set.subtracted set) := by
        rw [Set.subtract, if_neg (by omega)]
      have hrest := ih h.2 hwrite.2 hlen.2 hne.2
        (by omega : (sets.map Set.recordCount).sum ≤ i - Set.subtracted set)
        (Nat.le_of_succ_le_succ hfuel)
      simp only [flatMap_cons, NetFlowV9Packet.readSets, if_pos hgo, hread, hsubtract, hrest,
        foldl_cons]

/-- A packet that the reader can follow: records in every set and no more than the
header can count, sets that fit their length field, and a whole second as time. -/
structure NetFlowV9Packet.Countable (map : TemplatesMap) (align : Bool)
    (packet : NetFlowV9Packet DateTime) : Prop where
  nonempty : ∀ set ∈ packet.sets, 0 < Set.recordCount set
  counted : (packet.sets.map Set.recordCount).sum ≤ 65535
  fits : ∀ set ∈ packet.sets, Set.len (some map) align set ≤ 65535
  time : WholeSecond packet.unixTime

variable {packet : NetFlowV9Packet DateTime}

omit [LawfulChrono DateTime] in
theorem NetFlowV9Packet.Countable.count_eq (h : packet.Countable map align) :
    packet.count.toNat = (packet.sets.map Set.recordCount).sum := by
  have := h.counted
  rw [NetFlowV9Packet.count, BitVec.toNat_ofNat, Nat.mod_eq_of_lt (by omega)]

theorem fromWire_run (hwrite : packet.write (some map) align = .ok bytes)
    (hpacket : packet.Countable map align)
    (hsets : SetsConform registry align (some map) map packet.sets) :
    NetFlowV9Packet.fromWire registry map bytes =
      (packet.sets.foldl Set.next map, .ok ([], packet)) := by
  obtain ⟨front, sets, hfront, hbody, rfl⟩ := writeBoth_eq_ok.mp hwrite
  obtain rfl := Except.ok.inj hfront
  obtain ⟨heach, rfl⟩ := writeAll_eq_ok (mapError_eq_ok.mp hbody)
  have hnonempty : ∀ set ∈ packet.sets, written (Set.write (some map) align) set ≠ [] := by
    intro set hset
    have := Set.write_length_gt (heach set hset)
    exact ne_nil_of_length_pos (by omega)
  have hloop := readSets_run packet.count hsets heach
    (fun set hset => Nat.lt_succ_of_le (hpacket.fits set hset)) hpacket.nonempty
    hpacket.count_eq.ge (length_le_flatMap hnonempty)
  simp only [append_assoc]
  rw [NetFlowV9Packet.fromWire, (Reads.liftP (decodes_beU16 _) map).run_bind, if_neg (by simp),
    (Reads.liftP (decodes_beU16 _) map).run_bind, (Reads.liftP (decodes_beU32 _) map).run_bind,
    (Reads.liftP (hpacket.time.decodes _) map).run_bind,
    (Reads.liftP (decodes_beU32 _) map).run_bind, (Reads.liftP (decodes_beU32 _) map).run_bind]
  exact StateParser.run_map hloop _

/-- A packet that the reader can follow and whose sets conform to the templates in
force is read back; and the reader takes off no more than the header's count, and
exactly the count if each set of templates has a single record. -/
theorem netflow_round_trip (registry : Registry) (align : Bool) (map : TemplatesMap)
    (packet : NetFlowV9Packet DateTime) (bytes : Octets)
    (hwrite : packet.write (some map) align = .ok bytes) (hpacket : packet.Countable map align)
    (hsets : SetsConform registry align (some map) map packet.sets) :
    (NetFlowV9Packet.fromWire registry map bytes).2 = .ok ([], packet) ∧
      (packet.sets.map Set.subtracted).sum ≤ packet.count.toNat ∧
      ((∀ set ∈ packet.sets, set.kind = .template ∨ set.kind = .optionsTemplate →
          Set.recordCount set = 1) →
        (packet.sets.map Set.subtracted).sum = packet.count.toNat) := by
  refine ⟨congrArg Prod.snd (fromWire_run hwrite hpacket hsets), ?_, ?_⟩
  · rw [hpacket.count_eq]
    exact sum_le_sum fun set hset => Set.subtracted_le (hpacket.nonempty set hset)
  · intro hsingle
    rw [hpacket.count_eq, map_congr_left fun set hset => Set.subtracted_eq (hsingle set hset)]

end Packet

/-- A map with the counter of an interface under the id 256. -/
def interfaceMap : TemplatesMap :=
  TemplatesMap.empty.insert 256 (.new [⟨.interface, 2⟩] [counterSpecifier])

/-- A template that is announced, and a counter of 189 for the interface 7. -/
def interfacePacket (time : UtcTime) : NetFlowV9Packet UtcTime :=
  ⟨0, time, 0, 1, [.template [counterTemplate],
    .data .least [⟨[.interface 7], [counterField]⟩]]⟩

theorem interfacePacket_conform (align : Bool) (time : UtcTime) :
    SetsConform sampleRegistry align (some interfaceMap) interfaceMap (interfacePacket time).sets := by
  refine ⟨counterTemplate_announceable, ⟨_, rfl, by decide, fun _ => by decide, ?_⟩, trivial⟩
  rw [forall_mem_singleton]
  refine ⟨⟨⟨rfl, .inl rfl, fun _ => by decide⟩, trivial⟩,
    ⟨⟨rfl, fun _ => by decide, rfl, .inl rfl⟩, trivial⟩, ?_, ?_⟩
  · intro spec hspec
    obtain rfl := mem_singleton.mp hspec
    decide
  · rintro template ⟨⟩
    rfl

theorem interfacePacket_countable (align : Bool) :
    (interfacePacket ⟨0, 0, by decide, by decide, by decide⟩).Countable interfaceMap align := by
  refine ⟨?_, by decide, ?_, ⟨by decide, by decide, rfl⟩⟩ <;>
  · intro set hset
    simp only [interfacePacket, mem_cons, not_mem_nil, or_false] at hset
    rcases hset with rfl | rfl <;> cases align <;> decide

theorem netflow_round_trip_counter : ∃ bytes,
    (interfacePacket ⟨0, 0, by decide, by decide, by decide⟩).write (some interfaceMap) false
      = .ok bytes ∧
    (NetFlowV9Packet.fromWire sampleRegistry interfaceMap bytes).2 =
      .ok ([], interfacePacket ⟨0, 0, by decide, by decide, by decide⟩) :=
  ⟨_, rfl, (netflow_round_trip _ _ _ _ _ rfl (interfacePacket_countable false)
    (interfacePacket_conform _ _)).1⟩

/-- The nanoseconds of the time are not written. -/
theorem netflow_unix_time_truncated : ∃ bytes,
    NetFlowV9Packet.write (some TemplatesMap.empty) false
      (⟨0, ⟨0, 1, by decide, by decide, by decide⟩, 0, 1, []⟩ : NetFlowV9Packet UtcTime)
      = .ok bytes ∧
    (NetFlowV9Packet.fromWire sampleRegistry TemplatesMap.empty bytes).2 ≠
      .ok ([], (⟨0, ⟨0, 1, by decide, by decide, by decide⟩, 0, 1, []⟩ :
        NetFlowV9Packet UtcTime)) := by
  refine ⟨_, rfl, fun h => ?_⟩
  have hnanos := congrArg
    (fun r => match r with | .ok (_, packet) => packet.unixTime.nanos | .error _ => 0) h
  exact absurd hnanos (by decide)

end NetCalyx.Flow.Netflow
