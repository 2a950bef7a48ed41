import NetCalyx.Flow.Set

/-!
# IPFIX packets

A packet carries sets of template records, options template records and data
records. The parser keeps the templates it meets in a map and decodes a data set
with the template that is in force under the set's id. The writer looks its
templates up in a map that it is given and does not learn from the packet.

`ipfix_round_trip` says when a packet is read back from what was written: when
each data set is written with the lengths of the template that is in force for
it on the reader's side.
-/

namespace NetCalyx.Flow.Ipfix
open Wire

abbrev DecodingTemplate := Flow.DecodingTemplate FieldSpecifier
abbrev TemplatesMap := Flow.TemplatesMap FieldSpecifier

structure OptionsTemplateRecord where
  id : BitVec 16
  scopeFieldSpecifiers : List FieldSpecifier
  fieldSpecifiers : List FieldSpecifier

structure DataRecord (DateTime : Type) where
  scopeFields : List (Field DateTime)
  fields : List (Field DateTime)

abbrev Set (DateTime : Type) := Flow.Set OptionsTemplateRecord (DataRecord DateTime)

structure IpfixPacket (DateTime : Type) where
  exportTime : DateTime
  sequenceNumber : BitVec 32
  observationDomainId : BitVec 32
  sets : List (Set DateTime)

def ipfixVersion : BitVec 16 := 10
def ipfixSetIds : SetIds := ⟨2, 3⟩

variable {DateTime : Type} [Chrono DateTime]

def Set.id (set : Set DateTime) : BitVec 16 := set.kind.code ipfixSetIds

/-! ## Writers -/

inductive DataRecordWritingError where
  | fieldError (e : FieldWritingError)

inductive SetWritingError where
  | flowError (e : DataRecordWritingError)

inductive IpfixPacketWritingError where
  | setError (e : SetWritingError)

namespace OptionsTemplateRecord

def len (record : OptionsTemplateRecord) : Nat :=
  6 + (record.scopeFieldSpecifiers.map FieldSpecifier.len).sum
    + (record.fieldSpecifiers.map FieldSpecifier.len).sum

def write (record : OptionsTemplateRecord) : Octets :=
  octets record.id
    ++ octets (BitVec.ofNat 16 (record.scopeFieldSpecifiers.length + record.fieldSpecifiers.length))
    ++ octets (BitVec.ofNat 16 record.scopeFieldSpecifiers.length)
    ++ record.scopeFieldSpecifiers.flatMap FieldSpecifier.write
    ++ record.fieldSpecifiers.flatMap FieldSpecifier.write

end OptionsTemplateRecord

/-- The lengths of the scope fields, none without a template. -/
def scopeLengths (template : Option DecodingTemplate) : List (BitVec 16) :=
  template.elim [] fun template => template.scopeFieldsSpecs.map (·.length)

def fieldLengths (template : Option DecodingTemplate) : List (BitVec 16) :=
  template.elim [] fun template => template.fieldsSpecs.map (·.length)

namespace DataRecord

def len (template : Option DecodingTemplate) (record : DataRecord DateTime) : Nat :=
  lenFields record.scopeFields (scopeLengths template)
    + lenFields record.fields (fieldLengths template)

def write (template : Option DecodingTemplate) (record : DataRecord DateTime) :
    Except (Stop DataRecordWritingError) Octets :=
  (writeBoth (writeFields record.scopeFields (scopeLengths template))
    (writeFields record.fields (fieldLengths template))).mapError (Stop.map .fieldError)

end DataRecord

namespace Set

variable (templatesMap : Option TemplatesMap)

/-- The template for a data set, from the map that the writer is given. -/
def decodingTemplate (id : DataSetId) : Option DecodingTemplate :=
  templatesMap.bind (· id.val)

def calculateSetSize : Set DateTime → Nat
  | .template records => (records.map TemplateRecord.len).sum + 4
  | .optionsTemplate records => (records.map OptionsTemplateRecord.len).sum + 4
  | .data id records => (records.map (DataRecord.len (decodingTemplate templatesMap id))).sum + 4

def len (set : Set DateTime) : Nat :=
  calculateSetSize templatesMap set

def writeRecords :
    Set DateTime → Except (Stop SetWritingError) Octets
  | .template records => .ok (records.flatMap TemplateRecord.write)
  | .optionsTemplate records => .ok (records.flatMap OptionsTemplateRecord.write)
  | .data id records =>
    (writeAll (DataRecord.write (decodingTemplate templatesMap id)) records).mapError
      (Stop.map .flowError)

def write (set : Set DateTime) : Except (Stop SetWritingError) Octets :=
  writeBoth (.ok (octets set.id ++ octets (BitVec.ofNat 16 (set.calculateSetSize templatesMap))))
    (set.writeRecords templatesMap)

end Set

namespace IpfixPacket

def len (templatesMap : Option TemplatesMap) (packet : IpfixPacket DateTime) : Nat :=
  16 + (packet.sets.map (Set.len templatesMap)).sum

def write (templatesMap : Option TemplatesMap) (packet : IpfixPacket DateTime) :
    Except (Stop IpfixPacketWritingError) Octets :=
  writeBoth
    (.ok (octets ipfixVersion ++ octets (BitVec.ofNat 16 (packet.len templatesMap))
      ++ octets (BitVec.ofInt 32 (timestamp packet.exportTime)) ++ octets packet.sequenceNumber
      ++ octets packet.observationDomainId))
    ((writeAll (Set.write templatesMap) packet.sets).mapError (Stop.map .setError))

end IpfixPacket

/-! ## Parsers -/

inductive OptionsTemplateRecordParsingError where
  | nomError (kind : ErrorKind)
  | invalidTemplateId (id : BitVec 16)
  | invalidScopeFieldsCount (count : BitVec 16)
  | fieldError (e : FieldSpecifierParsingError)

instance : NomError OptionsTemplateRecordParsingError := ⟨.nomError⟩

inductive DataRecordParsingError where
  | fieldError (e : FieldParsingError)

abbrev SetParsingError := Flow.SetParsingError OptionsTemplateRecordParsingError DataRecordParsingError

inductive IpfixPacketParsingError where
  | nomError (kind : ErrorKind)
  | unsupportedVersion (version : BitVec 16)
  | invalidLength (length : BitVec 16)
  | invalidExportTime (time : BitVec 32)
  | setParsingError (e : SetParsingError)

instance : NomError IpfixPacketParsingError := ⟨.nomError⟩

namespace OptionsTemplateRecord

def parse (registry : Registry) :
    Parser OptionsTemplateRecordParsingError OptionsTemplateRecord := do
  let templateId ← beU16
  if templateId.toNat < 256 then .fail (.invalidTemplateId templateId) else do
  let totalFieldsCount ← beU16
  let scopeFieldsCount ← beU16
  if totalFieldsCount.toNat < scopeFieldsCount.toNat then
    .fail (.invalidScopeFieldsCount scopeFieldsCount)
  else do
  let scopeFields ← count (.mapErr .fieldError (FieldSpecifier.fromWire registry))
    scopeFieldsCount.toNat
  let fields ← count (.mapErr .fieldError (FieldSpecifier.fromWire registry))
    (totalFieldsCount.toNat - scopeFieldsCount.toNat)
  return ⟨templateId, scopeFields, fields⟩

def announce (map : TemplatesMap) (record : OptionsTemplateRecord) : TemplatesMap :=
  map.insert record.id (.new record.scopeFieldSpecifiers record.fieldSpecifiers)

def fromWire (registry : Registry) :
    StateParser TemplatesMap OptionsTemplateRecordParsingError OptionsTemplateRecord := do
  let record ← .liftP (parse registry)
  StateParser.modify (announce · record)
  return record

end OptionsTemplateRecord

def DataRecord.fromWire (template : DecodingTemplate) :
    Parser DataRecordParsingError (DataRecord DateTime) :=
  .mapErr .fieldError do
    let scopeFields ← readFields template.scopeFieldsSpecs
    let fields ← readFields template.fieldsSpecs
    return ⟨scopeFields, fields⟩

/-- The least size of a record. A variable length counts as one octet. -/
def minRecordLength (template : DecodingTemplate) : Nat :=
  (template.scopeFieldsSpecs.map (·.minLength)).sum + (template.fieldsSpecs.map (·.minLength)).sum

/-- The records of a data set. What is left at the end is dropped, whether it is
zero or not. -/
def Set.dataRecords (id : DataSetId) : StateParser TemplatesMap SetParsingError (Set DateTime) := do
  match (← StateParser.state) id.val with
  | none => .liftP (.fail (.noTemplateDefinedFor id.val))
  | some inForce =>
    let records ← StateParser.repeatWhile
      (fun buf => minRecordLength inForce ≤ buf.length && 0 < minRecordLength inForce)
      (.liftP (.mapErr .dataRecordError (DataRecord.fromWire inForce)))
    StateParser.modify (·.increment id.val)
    return .data id records

def Set.fromWire (registry : Registry) :
    StateParser TemplatesMap SetParsingError (Set DateTime) :=
  Flow.Set.fromWireWith ipfixSetIds registry (OptionsTemplateRecord.fromWire registry) dataRecords

namespace IpfixPacket

/-- The octets of the packet behind its length. -/
def header : Parser IpfixPacketParsingError Octets := do
  let version ← beU16
  if version ≠ ipfixVersion then .fail (.unsupportedVersion version) else do
  let length ← beU16
  if length.toNat < 16 then .fail (.invalidLength length) else
  take (length.toNat - 4)

def body (registry : Registry) :
    StateParser TemplatesMap IpfixPacketParsingError (IpfixPacket DateTime) := do
  let exportTime ← .liftP (mapRes beU32 fun time =>
    (timestampOpt time.toNat 0).elim (.error (.invalidExportTime time)) .ok)
  let sequenceNumber ← .liftP beU32
  let observationDomainId ← .liftP beU32
  let sets ← StateParser.repeatWhile (fun buf => !buf.isEmpty)
    (.mapErr .setParsingError (Set.fromWire registry))
  return ⟨exportTime, sequenceNumber, observationDomainId, sets⟩

def fromWire (registry : Registry) :
    StateParser TemplatesMap IpfixPacketParsingError (IpfixPacket DateTime) := do
  let data ← .liftP header
  .within data (body registry)

end IpfixPacket

/-! ## Records -/

namespace OptionsTemplateRecord

theorem write_length (record : OptionsTemplateRecord) : record.write.length = record.len := by
  have hscope := length_flatMap_of
    fun spec (_ : spec ∈ record.scopeFieldSpecifiers) => spec.write_length
  have hfields := length_flatMap_of
    fun spec (_ : spec ∈ record.fieldSpecifiers) => spec.write_length
  simp only [write, len, List.length_append, octets_length, hscope, hfields]

theorem write_length_gt (record : OptionsTemplateRecord) : 3 < record.write.length := by
  rw [write_length, len]
  omega

/-- A record that can be read back. -/
structure Announceable (registry : Registry) (record : OptionsTemplateRecord) : Prop where
  id_ge : 256 ≤ record.id.toNat
  scope_canonical : ∀ spec ∈ record.scopeFieldSpecifiers, spec.elementId.Canonical registry
  canonical : ∀ spec ∈ record.fieldSpecifiers, spec.elementId.Canonical registry

variable {record : OptionsTemplateRecord}

theorem decodes_parse {registry : Registry} (h : record.Announceable registry)
    (hcount : record.scopeFieldSpecifiers.length + record.fieldSpecifiers.length < 2 ^ 16) :
    Decodes (parse registry) record.write record := by
  have hscope := decodes_count fun spec hspec =>
    (FieldSpecifier.decodes_fromWire (h.scope_canonical spec hspec)).mapErr
      OptionsTemplateRecordParsingError.fieldError
  have hfields := decodes_count fun spec hspec =>
    (FieldSpecifier.decodes_fromWire (h.canonical spec hspec)).mapErr
      OptionsTemplateRecordParsingError.fieldError
  simp only [write, List.append_assoc]
  refine (decodes_beU16 _).bind ?_
  rw [if_neg (by have := h.id_ge; omega)]
  refine (decodes_beU16 _).bind ((decodes_beU16 _).bind ?_)
  rw [BitVec.toNat_ofNat, BitVec.toNat_ofNat, Nat.mod_eq_of_lt hcount, Nat.mod_eq_of_lt (by omega),
    if_neg (by omega), Nat.add_sub_cancel_left]
  exact hscope.bind (hfields.map _)

theorem reads {registry : Registry} (h : record.Announceable registry) (hlen : record.len < 2 ^ 16)
    (map : TemplatesMap) :
    Reads (fromWire registry) map record.write record (announce map record) := by
  have hcount : record.scopeFieldSpecifiers.length + record.fieldSpecifiers.length < 2 ^ 16 := by
    have hscope := FieldSpecifier.length_le_sum record.scopeFieldSpecifiers
    have hfields := FieldSpecifier.length_le_sum record.fieldSpecifiers
    unfold len at hlen
    omega
  exact Reads.noted (decodes_parse h hcount) announce map

end OptionsTemplateRecord

namespace DataRecord

/-- A record whose fields, written with the lengths of the writer's template, can
be read with the template that is in force. -/
structure Conforms (given : Option DecodingTemplate) (inForce : DecodingTemplate)
    (record : DataRecord DateTime) : Prop where
  scope : FieldsConform record.scopeFields (scopeLengths given) inForce.scopeFieldsSpecs
  fields : FieldsConform record.fields (fieldLengths given) inForce.fieldsSpecs

variable {map : TemplatesMap} {bytes : Octets} {given : Option DecodingTemplate}
  {record : DataRecord DateTime}

theorem write_eq_ok (h : record.write given = .ok bytes) :
    ∃ scope fields, writeFields record.scopeFields (scopeLengths given) = .ok scope ∧
      writeFields record.fields (fieldLengths given) = .ok fields ∧ bytes = scope ++ fields :=
  writeBoth_eq_ok.mp (mapError_eq_ok.mp h)

variable [LawfulChrono DateTime]

theorem Conforms.decodes {inForce : DecodingTemplate} (h : record.Conforms given inForce)
    (hwrite : record.write given = .ok bytes) :
    Decodes (fromWire inForce) bytes record ∧ bytes.length = record.len given ∧
      minRecordLength inForce ≤ bytes.length := by
  obtain ⟨scope, fields, hscope, hfields, rfl⟩ := write_eq_ok hwrite
  obtain ⟨hscopeDecodes, hscopeLen, -, hscopeMin⟩ := decodes_readEach readsOne_field h.scope hscope
  obtain ⟨hfieldsDecodes, hfieldsLen, -, hfieldsMin⟩ := decodes_readEach readsOne_field h.fields hfields
  refine ⟨(hscopeDecodes.bind (hfieldsDecodes.map _)).mapErr _, ?_, ?_⟩
  · rw [List.length_append, hscopeLen, hfieldsLen]
    rfl
  · rw [List.length_append]
    exact Nat.add_le_add hscopeMin hfieldsMin

end DataRecord

/-! ## Sets -/

namespace Set

/-- A set that can be read back when `map` is in force: templates that can be
announced, and data records that conform to a template of at least one octet. -/
def Conforms (registry : Registry) (given : Option TemplatesMap) (map : TemplatesMap) :
    Set DateTime → Prop
  | .template records => ∀ record ∈ records, record.Announceable registry
  | .optionsTemplate records => ∀ record ∈ records, record.Announceable registry
  | .data id records => ∃ inForce, map id.val = some inForce ∧ 0 < minRecordLength inForce ∧
      ∀ record ∈ records, record.Conforms (decodingTemplate given id) inForce

/-- The templates in force behind a set. -/
def next (map : TemplatesMap) : Set DateTime → TemplatesMap
  | .template records => records.foldl TemplateRecord.announce map
  | .optionsTemplate records => records.foldl OptionsTemplateRecord.announce map
  | .data id _ => map.increment id.val

variable {given : Option TemplatesMap}

theorem write_ne_nil {set : Set DateTime} (h : set.write given = .ok bytes) : bytes ≠ [] := by
  obtain ⟨front, content, hfront, -, rfl⟩ := writeBoth_eq_ok.mp h
  cases hfront
  apply List.ne_nil_of_length_pos
  simp only [List.length_append, octets_length]
  omega

variable [LawfulChrono DateTime]

theorem dataRecords_run {given : Option DecodingTemplate} {inForce : DecodingTemplate}
    {id : DataSetId} {records : List (DataRecord DateTime)} (hforce : map id.val = some inForce)
    (hmin : 0 < minRecordLength inForce) (h : ∀ record ∈ records, record.Conforms given inForce)
    (hwrite : writeAll (DataRecord.write given) records = .ok bytes) :
    dataRecords id map bytes = (map.increment id.val, .ok ([], .data id records)) ∧
      bytes.length = (records.map (DataRecord.len given)).sum := by
  obtain ⟨heach, rfl⟩ := writeAll_eq_ok hwrite
  have hrecord := fun record hr => (h record hr).decodes (heach record hr)
  have hgo : ∀ record ∈ records, ∀ rest,
      (decide (minRecordLength inForce ≤ (written (DataRecord.write given) record ++ rest).length)
        && decide (0 < minRecordLength inForce)) = true := by
    intro record hr rest
    have := (hrecord record hr).2.2
    rw [List.length_append, Bool.and_eq_true, decide_eq_true_iff, decide_eq_true_iff]
    omega
  have htail : (decide (minRecordLength inForce ≤ ([] : Octets).length)
      && decide (0 < minRecordLength inForce)) = false := by
    simp [Nat.not_le.mpr hmin]
  have hne : ∀ record ∈ records, written (DataRecord.write given) record ≠ [] := by
    intro record hr
    have := (hrecord record hr).2.2
    exact List.ne_nil_of_length_pos (by omega)
  have hloop := repeatWhile_liftP
    (fun buf => decide (minRecordLength inForce ≤ buf.length) && decide (0 < minRecordLength inForce))
    (fun record hr => (hrecord record hr).1.mapErr
      (SetParsingError.dataRecordError : _ → SetParsingError))
    hgo htail hne map
  rw [List.append_nil] at hloop
  refine ⟨?_, length_flatMap_of fun record hr => (hrecord record hr).2.1⟩
  rw [dataRecords, StateParser.state_bind]
  simp only [hforce]
  rw [StateParser.run_bind hloop]
  rfl

/-- One set is read back, and the reader's templates move on. -/
theorem reads {registry : Registry} {set : Set DateTime} (h : set.Conforms registry given map)
    (hwrite : set.write given = .ok bytes) (hlen : set.len given < 2 ^ 16) :
    Reads (fromWire registry) map bytes set (set.next map) ∧ bytes.length = set.len given := by
  obtain ⟨front, content, hfront, hcontent, rfl⟩ := writeBoth_eq_ok.mp hwrite
  cases hfront
  obtain ⟨left, hrun, hsize⟩ : ∃ left,
      Set.content registry (OptionsTemplateRecord.fromWire registry) dataRecords set.kind map content =
        (next map set, .ok (left, set)) ∧
      len given set = content.length + 4 := by
    cases set with
    | template records =>
      cases hcontent
      have hfits := lt_of_le_of_lt (Nat.le_add_right _ _) hlen
      rw [length_flatMap_of fun record _ => record.write_length]
      exact ⟨_, Set.templateRecords_run h hfits map, rfl⟩
    | optionsTemplate records =>
      cases hcontent
      have hfits := lt_of_le_of_lt (Nat.le_add_right _ _) hlen
      have hrun := @Set.optionsTemplateRecords_run _ _ (DataRecord DateTime) _
        DataRecordParsingError _ _ _ _ (fun record hrecord map => OptionsTemplateRecord.reads (h record hrecord)
          ((len_le_sum hrecord).trans_lt hfits) map)
        (fun record _ => record.write_length_gt) 0 (Nat.zero_le 3) map
      rw [List.replicate_zero, List.append_nil] at hrun
      rw [length_flatMap_of fun record _ => record.write_length]
      exact ⟨_, hrun, rfl⟩
    | data id records =>
      obtain ⟨inForce, hforce, hmin, hrecords⟩ := h
      obtain ⟨hrun, hsum⟩ :=
        dataRecords_run hforce hmin hrecords (mapError_eq_ok.mp hcontent)
      rw [hsum]
      exact ⟨_, hrun, rfl⟩
  refine ⟨(Reads.liftP (Set.decodes_header (by decide) (by decide) (by decide) hsize hlen)
    map).last (Reads.within hrun), ?_⟩
  simp only [List.length_append, octets_length]
  omega

end Set

/-! ## Packets -/

/-- The sets one after the other, with the templates that the ones before
announced. -/
def SetsConform (registry : Registry) (given : Option TemplatesMap) :
    TemplatesMap → List (Set DateTime) → Prop
  | _, [] => True
  | map, set :: sets =>
    set.Conforms registry given map ∧ SetsConform registry given (set.next map) sets

section Packet

variable [LawfulChrono DateTime] {registry : Registry} {given : Option TemplatesMap}
  {sets : List (Set DateTime)}

/-- Along the sets the reader's templates are those the packet has announced. -/
theorem readsEach_sets (h : SetsConform registry given map sets)
    (hwrite : ∀ set ∈ sets, set.write given = .ok (written (Set.write given) set))
    (hlen : ∀ set ∈ sets, set.len given < 2 ^ 16) :
    ReadsEach (.mapErr IpfixPacketParsingError.setParsingError (Set.fromWire registry))
      (written (Set.write given)) Set.next map sets := by
  induction sets generalizing map with
  | nil => trivial
  | cons set sets ih =>
    rw [List.forall_mem_cons] at hwrite hlen
    exact ⟨(Set.reads h.1 hwrite.1 hlen.1).1.mapErr _, ih h.2 hwrite.2 hlen.2⟩

/-- The sets have the sizes that are counted for them. -/
theorem sets_length (h : SetsConform registry given map sets)
    (hwrite : ∀ set ∈ sets, set.write given = .ok (written (Set.write given) set))
    (hlen : ∀ set ∈ sets, set.len given < 2 ^ 16) :
    (sets.flatMap (written (Set.write given))).length = (sets.map (Set.len given)).sum := by
  induction sets generalizing map with
  | nil => rfl
  | cons set sets ih =>
    rw [List.forall_mem_cons] at hwrite hlen
    rw [List.flatMap_cons, List.length_append, (Set.reads h.1 hwrite.1 hlen.1).2,
      ih h.2 hwrite.2 hlen.2, List.map_cons, List.sum_cons]

theorem decodes_header {content : Octets} {size : Nat} (hsize : size = content.length + 4)
    (hmin : 16 ≤ size) (hfit : size < 2 ^ 16) :
    Decodes IpfixPacket.header
      (octets ipfixVersion ++ octets (BitVec.ofNat 16 size) ++ content) content := by
  rw [List.append_assoc]
  refine (decodes_beU16 _).bind ?_
  rw [if_neg (by simp)]
  refine (decodes_beU16 _).bind ?_
  rw [BitVec.toNat_ofNat, Nat.mod_eq_of_lt hfit, if_neg (by omega)]
  exact decodes_take (by omega)

/-- What stands behind the length is read as the packet. -/
theorem body_run {packet : IpfixPacket DateTime}
    (hsets : SetsConform registry given map packet.sets) (htime : WholeSecond packet.exportTime)
    (hwrite : ∀ set ∈ packet.sets, set.write given = .ok (written (Set.write given) set))
    (hlen : ∀ set ∈ packet.sets, set.len given < 2 ^ 16) :
    IpfixPacket.body registry map (octets (BitVec.ofInt 32 (timestamp packet.exportTime))
        ++ (octets packet.sequenceNumber ++ (octets packet.observationDomainId
          ++ packet.sets.flatMap (written (Set.write given))))) =
      (packet.sets.foldl Set.next map, .ok ([], packet)) := by
  have hloop := repeatWhile_tillEmpty (readsEach_sets hsets hwrite hlen)
    fun set hset => Set.write_ne_nil (hwrite set hset)
  rw [IpfixPacket.body, (Reads.liftP (htime.decodes _) map).run_bind,
    (Reads.liftP (decodes_beU32 _) map).run_bind, (Reads.liftP (decodes_beU32 _) map).run_bind]
  exact StateParser.run_map hloop _

/-- A packet of at most 65535 octets, with a whole second as its export time and
with sets that conform to the templates in force, is read back. -/
theorem ipfix_round_trip (registry : Registry) (map : TemplatesMap) (packet : IpfixPacket DateTime)
    (bytes : Octets) (hwrite : packet.write (some map) = .ok bytes)
    (hsets : SetsConform registry (some map) map packet.sets)
    (htime : WholeSecond packet.exportTime) (hlen : packet.len (some map) ≤ 65535) :
    (IpfixPacket.fromWire registry map bytes).2 = .ok ([], packet) := by
  obtain ⟨front, sets, hfront, hbody, rfl⟩ := writeBoth_eq_ok.mp hwrite
  cases hfront
  obtain ⟨heach, rfl⟩ := writeAll_eq_ok (mapError_eq_ok.mp hbody)
  have hfits : ∀ set ∈ packet.sets, set.len (some map) < 2 ^ 16 := by
    intro set hset
    have hle : set.len (some map) ≤ (packet.sets.map (Set.len (some map))).sum :=
      len_le_sum hset
    unfold IpfixPacket.len at hlen
    omega
  have hrun := body_run hsets htime heach hfits
  have hsize := sets_length hsets heach hfits
  have hpacket : packet.len (some map) = (octets (BitVec.ofInt 32 (timestamp packet.exportTime))
      ++ (octets packet.sequenceNumber ++ (octets packet.observationDomainId
        ++ packet.sets.flatMap (written (Set.write (some map)))))).length + 4 := by
    simp only [List.length_append, octets_length, hsize, IpfixPacket.len]
    omega
  have hheader := decodes_header hpacket (Nat.le_add_right _ _) (by omega)
  have hread : Reads (IpfixPacket.fromWire registry) map _ packet _ :=
    (Reads.liftP hheader map).last (Reads.within hrun)
  simp only [List.append_assoc] at hread ⊢
  exact congrArg Prod.snd hread.run_nil

end Packet

/-- A map with the counter under the id 256. -/
def counterMap : TemplatesMap := TemplatesMap.empty.insert 256 (.new [] [counterSpecifier])

/-- A counter of 189 at the given time, behind a template that is announced anew. -/
def counterPacket (time : UtcTime) : IpfixPacket UtcTime :=
  ⟨time, 0, 1, [.template [counterTemplate], .data .least [⟨[], [counterField]⟩]]⟩

theorem counterPacket_conform (time : UtcTime) :
    SetsConform sampleRegistry (some counterMap) counterMap (counterPacket time).sets := by
  refine ⟨counterTemplate_announceable, ⟨_, rfl, by decide, ?_⟩, trivial⟩
  rw [List.forall_mem_singleton]
  exact ⟨trivial, ⟨rfl, fun _ => by decide, rfl, .inl rfl⟩, trivial⟩

theorem ipfix_round_trip_counter : ∃ bytes,
    (counterPacket ⟨0, 0, by decide, by decide, by decide⟩).write (some counterMap) = .ok bytes ∧
    (IpfixPacket.fromWire sampleRegistry counterMap bytes).2 =
      .ok ([], counterPacket ⟨0, 0, by decide, by decide, by decide⟩) :=
  ⟨_, rfl, ipfix_round_trip _ _ _ _ rfl (counterPacket_conform _)
    ⟨by decide, by decide, rfl⟩ (by decide)⟩

/-- The nanoseconds of an export time are not written. -/
theorem ipfix_export_time_truncated : ∃ bytes,
    IpfixPacket.write (some TemplatesMap.empty)
      (⟨⟨0, 1, by decide, by decide, by decide⟩, 0, 1, []⟩ : IpfixPacket UtcTime) = .ok bytes ∧
    (IpfixPacket.fromWire sampleRegistry TemplatesMap.empty bytes).2 ≠
      .ok ([], (⟨⟨0, 1, by decide, by decide, by decide⟩, 0, 1, []⟩ : IpfixPacket UtcTime)) := by
  refine ⟨_, rfl, fun h => ?_⟩
  have hnanos := congrArg
    (fun r => match r with | .ok (_, packet) => packet.exportTime.nanos | .error _ => 0) h
  exact absurd hnanos (by decide)

end NetCalyx.Flow.Ipfix
