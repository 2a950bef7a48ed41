import NetCalyx.Flow.Template
import NetCalyx.Wire.Framing

/-!
# Sets

Both flow protocols put their records into sets behind a common header: an id,
which also says what kind of records follow, and the length. They use different
ids for the two kinds of templates, and have their own options templates and
data records, so the code here is given those.

A set can end in padding. Behind options templates it has to be zero and shorter
than the smallest field; behind templates there is none.
-/

namespace NetCalyx.Flow
open Wire

/-- A set with options templates `O` and data records `R`. -/
inductive Set (O R : Type) where
  | template (records : List TemplateRecord)
  | optionsTemplate (records : List O)
  | data (id : DataSetId) (records : List R)

/-- What a set id announces. -/
inductive SetId where
  | template
  | optionsTemplate
  | data (id : DataSetId)

/-- The errors of sets, around those of the records. -/
inductive SetParsingError (OE RE : Type) where
  | nomError (kind : ErrorKind)
  | invalidLength (length : BitVec 16)
  | invalidSetId (id : BitVec 16)
  | noTemplateDefinedFor (id : BitVec 16)
  | invalidPaddingValue (value : BitVec 8)
  | templateRecordError (e : TemplateRecordParsingError)
  | optionsTemplateRecordError (e : OE)
  | dataRecordError (e : RE)

instance {OE RE : Type} : NomError (SetParsingError OE RE) := ⟨.nomError⟩

variable {S O R OE RE : Type}

def Set.kind : Set O R → SetId
  | template _ => .template
  | optionsTemplate _ => .optionsTemplate
  | data id _ => .data id

/-- The ids of the two kinds of templates in a protocol. -/
structure SetIds where
  templateSetId : BitVec 16
  optionsTemplateSetId : BitVec 16

variable (ids : SetIds)

def SetId.code : SetId → BitVec 16
  | template => ids.templateSetId
  | optionsTemplate => ids.optionsTemplateSetId
  | data id => id.val

/-! ## Parsers -/

def checkSetId (id : BitVec 16) : Except (SetParsingError OE RE) SetId :=
  if id = ids.templateSetId then .ok .template
  else if id = ids.optionsTemplateSetId then .ok .optionsTemplate
  else if h : 256 ≤ id.toNat then .ok (.data ⟨id, h⟩)
  else .error (.invalidSetId id)

def checkSetLength (length : BitVec 16) : Except (SetParsingError OE RE) (BitVec 16) :=
  if length.toNat < 4 then .error (.invalidLength length) else .ok length

/-- Only zeros may be left over. -/
def checkPaddingValue : Octets → Except (SetParsingError OE RE) Unit
  | [] => .ok ()
  | value :: buf => if value ≠ 0 then .error (.invalidPaddingValue value) else checkPaddingValue buf

def Set.header : Parser (SetParsingError OE RE) (SetId × Octets) := do
  let id ← mapRes beU16 (checkSetId ids)
  let length ← mapRes beU16 checkSetLength
  let content ← take (length.toNat - 4)
  return (id, content)

variable (registry : Registry)

def Set.templateRecords : StateParser (TemplatesMap S) (SetParsingError OE RE) (Set O R) := do
  let records ← StateParser.repeatWhile (fun buf => !buf.isEmpty)
    (.mapErr .templateRecordError (TemplateRecord.fromWire registry))
  return .template records

/-- What is left is checked and dropped. -/
def checkPadding : StateParser (TemplatesMap S) (SetParsingError OE RE) Unit := do
  let padding ← .liftP .input
  .liftP (.lift (checkPaddingValue padding))

/-- Less than the smallest field is padding. -/
def Set.optionsTemplateRecords (fromWire : StateParser (TemplatesMap S) OE O) :
    StateParser (TemplatesMap S) (SetParsingError OE RE) (Set O R) := do
  let records ← StateParser.repeatWhile (fun buf => 3 < buf.length)
    (.mapErr .optionsTemplateRecordError fromWire)
  checkPadding
  return .optionsTemplate records

variable (options : StateParser (TemplatesMap S) OE O)
variable (records : DataSetId → StateParser (TemplatesMap S) (SetParsingError OE RE) (Set O R))

/-- A set of any kind, given the parser for the records of a data set. -/
def Set.fromWireWith : StateParser (TemplatesMap S) (SetParsingError OE RE) (Set O R) := do
  let (id, content) ← .liftP (header ids)
  .within content <| match id with
    | .template => templateRecords registry
    | .optionsTemplate => optionsTemplateRecords options
    | .data id => records id

/-- The parser for the content of a set, by the id of the set. -/
def Set.content :
    SetId → StateParser (TemplatesMap S) (SetParsingError OE RE) (Set O R)
  | .template => templateRecords registry
  | .optionsTemplate => optionsTemplateRecords options
  | .data id => records id

/-! ## Reading back -/

theorem checkSetId_code {ids : SetIds} (hids : ids.templateSetId ≠ ids.optionsTemplateSetId)
    (htemplate : ids.templateSetId.toNat < 256) (hoptions : ids.optionsTemplateSetId.toNat < 256)
    (id : SetId) : checkSetId ids (id.code ids) = (.ok id : Except (SetParsingError OE RE) SetId) := by
  cases id with
  | template => rw [checkSetId, SetId.code, if_pos rfl]
  | optionsTemplate => rw [checkSetId, SetId.code, if_neg hids.symm, if_pos rfl]
  | data id =>
    obtain ⟨id, hid⟩ := id
    have hne : ∀ n : BitVec 16, n.toNat < 256 → id ≠ n := by
      rintro n hn rfl
      omega
    rw [checkSetId, SetId.code.eq_def, if_neg (hne _ htemplate), if_neg (hne _ hoptions), dif_pos hid]

theorem Set.decodes_header {ids : SetIds} (hids : ids.templateSetId ≠ ids.optionsTemplateSetId)
    (htemplate : ids.templateSetId.toNat < 256) (hoptions : ids.optionsTemplateSetId.toNat < 256)
    {id : SetId} {content : Octets} {size : Nat} (hsize : size = content.length + 4)
    (hfit : size < 2 ^ 16) :
    Decodes (header ids : Parser (SetParsingError OE RE) _)
      (octets (id.code ids) ++ octets (BitVec.ofNat 16 size) ++ content) (id, content) := by
  have hlength : (BitVec.ofNat 16 size).toNat = size := by
    rw [BitVec.toNat_ofNat, Nat.mod_eq_of_lt hfit]
  have hcheck : checkSetLength (BitVec.ofNat 16 size)
      = (.ok (BitVec.ofNat 16 size) : Except (SetParsingError OE RE) _) := by
    rw [checkSetLength, hlength, if_neg (by omega)]
  rw [List.append_assoc]
  refine ((decodes_beU16 _).mapRes (checkSetId_code hids htemplate hoptions id)).bind ?_
  refine ((decodes_beU16 _).mapRes hcheck).bind ?_
  exact (decodes_take (by omega)).map _

/-- A set is read from its own octets. -/
theorem Set.framed_fromWireWith {ids : SetIds} (hids : ids.templateSetId ≠ ids.optionsTemplateSetId)
    (htemplate : ids.templateSetId.toNat < 256) (hoptions : ids.optionsTemplateSetId.toNat < 256)
    {registry : Registry} {options : StateParser (TemplatesMap S) OE O}
    {records : DataSetId → StateParser (TemplatesMap S) (SetParsingError OE RE) (Set O R)}
    {id : SetId} {content : Octets} {size : Nat} (hsize : size = content.length + 4)
    (hfit : size < 2 ^ 16) :
    Framed (Set.fromWireWith ids registry options records)
      (octets (id.code ids) ++ octets (BitVec.ofNat 16 size) ++ content)
      (alone (Set.content registry options records id) content) := by
  exact (decodes_header hids htemplate hoptions hsize hfit).framed_within Prod.snd
    fun r => Set.content registry options records r.1

/-- A record is not longer than all of them. -/
theorem len_le_sum {α : Type} {len : α → Nat} {records : List α} {record : α}
    (h : record ∈ records) : len record ≤ (records.map len).sum :=
  List.single_le_sum (by simp) _ (List.mem_map_of_mem h)

theorem Set.templateRecords_run {registry : Registry} {records : List TemplateRecord}
    (h : ∀ record ∈ records, record.Announceable registry)
    (hlen : (records.map TemplateRecord.len).sum < 2 ^ 16) (map : TemplatesMap S) :
    (templateRecords registry : StateParser _ (SetParsingError OE RE) (Set O R)) map
        (records.flatMap TemplateRecord.write) =
      (records.foldl TemplateRecord.announce map, .ok ([], .template records)) := by
  have hread := ReadsEach.of_forall
    (fun record hrecord map => ((TemplateRecord.reads (h record hrecord)
      ((len_le_sum hrecord).trans_lt hlen) map).mapErr
        (SetParsingError.templateRecordError : _ → SetParsingError OE RE))) map
  exact StateParser.run_map
    (repeatWhile_tillEmpty hread fun record _ => record.write_ne_nil) _

theorem checkPaddingValue_replicate (n : Nat) :
    checkPaddingValue (List.replicate n 0) = (.ok () : Except (SetParsingError OE RE) Unit) := by
  induction n with
  | zero => rfl
  | succ n ih => rw [List.replicate_succ, checkPaddingValue, if_neg (by simp), ih]

theorem checkPadding_replicate (map : TemplatesMap S) (n : Nat) :
    (checkPadding : StateParser _ (SetParsingError OE RE) Unit) map (List.replicate n 0) =
      (map, .ok (List.replicate n 0, ())) := by
  show (map, Parser.lift (checkPaddingValue (List.replicate n 0)) (List.replicate n 0)) = _
  rw [checkPaddingValue_replicate]
  rfl

theorem Set.optionsTemplateRecords_run {fromWire : StateParser (TemplatesMap S) OE O}
    {write : O → Octets} {announce : TemplatesMap S → O → TemplatesMap S} {records : List O}
    (h : ∀ record ∈ records, ∀ map, Reads fromWire map (write record) record (announce map record))
    (hsize : ∀ record ∈ records, 3 < (write record).length) {padding : Nat} (hpadding : padding ≤ 3)
    (map : TemplatesMap S) :
    (optionsTemplateRecords fromWire : StateParser _ (SetParsingError OE RE) (Set O R)) map
        (records.flatMap write ++ List.replicate padding 0) =
      (records.foldl announce map,
        .ok (List.replicate padding 0, .optionsTemplate records)) := by
  have hread := ReadsEach.of_forall (fun record hrecord map => (h record hrecord map).mapErr
    (SetParsingError.optionsTemplateRecordError : _ → SetParsingError OE RE)) map
  have hgo : ∀ record ∈ records, ∀ rest, decide (3 < (write record ++ rest).length) = true := by
    intro record hrecord rest
    have := hsize record hrecord
    rw [decide_eq_true_iff, List.length_append]
    omega
  have htail : decide (3 < (List.replicate padding (0 : Octet)).length) = false := by
    rw [List.length_replicate, decide_eq_false_iff_not]
    omega
  have hloop := repeatWhile_ok (fun buf => decide (3 < buf.length)) hread hgo htail
    fun record hrecord => List.ne_nil_of_length_pos (by have := hsize record hrecord; omega)
  rw [optionsTemplateRecords, StateParser.run_bind hloop,
    StateParser.run_bind (checkPadding_replicate _ _)]
  rfl

end NetCalyx.Flow
