import Mathlib.Tactic.IntervalCases
import NetCalyx.Flow.FieldCodec
import NetCalyx.Wire.Positional
import NetCalyx.Wire.Stateful

/-!
# Templates

A template lists the fields of a data record with their lengths. A field
specifier can only be built with a length that the element's data type admits.
Templates are kept in a map from template ids, which the parsers of both flow
protocols fill and look up.
-/

namespace NetCalyx.Flow
open Wire

/-! ## Field specifiers -/

structure FieldSpecifier where
  elementId : IE
  length : BitVec 16
  valid : inRange elementId.lengthRange length = true

inductive FieldSpecifierError where
  | invalidLength (length : BitVec 16) (ie : IE)

namespace FieldSpecifier

def new (elementId : IE) (length : BitVec 16) : Except FieldSpecifierError FieldSpecifier :=
  if h : inRange elementId.lengthRange length = true then .ok ⟨elementId, length, h⟩
  else .error (.invalidLength length elementId)

def len (spec : FieldSpecifier) : Nat := 4 + if spec.elementId.pen = 0 then 0 else 4

/-- The enterprise bit announces the enterprise number behind the length. -/
def write (spec : FieldSpecifier) : Octets :=
  if spec.elementId.pen = 0 then octets spec.elementId.id ++ octets spec.length
  else octets (spec.elementId.id ||| 0x8000) ++ octets spec.length ++ octets spec.elementId.pen

end FieldSpecifier

inductive FieldSpecifierParsingError where
  | nomError (kind : ErrorKind)
  | fieldSpecifierError (e : FieldSpecifierError)
  | ieError (e : IEError)

instance : NomError FieldSpecifierParsingError := ⟨.nomError⟩

/-- The enterprise number of an element, and its code without the bit. -/
def enterpriseNumber (code : BitVec 16) :
    Parser FieldSpecifierParsingError (BitVec 32 × BitVec 16) :=
  if code &&& 0x8000 ≠ 0 then do
    let pen ← beU32
    return (pen, code &&& 0x7fff)
  else return (0, code)

def FieldSpecifier.fromWire (registry : Registry) :
    Parser FieldSpecifierParsingError FieldSpecifier := do
  let code ← beU16
  let length ← beU16
  let (pen, code) ← enterpriseNumber code
  let ie ← .lift ((IE.tryFrom registry pen code).mapError .ieError)
  .lift ((FieldSpecifier.new ie length).mapError .fieldSpecifierError)

/-- An element that is found again under its enterprise number and its code,
which leaves the enterprise bit free. -/
structure IE.Canonical (registry : Registry) (ie : IE) : Prop where
  found : IE.tryFrom registry ie.pen ie.id = .ok ie
  code_lt : ie.id.toNat < 2 ^ 15

namespace FieldSpecifier

variable (spec : FieldSpecifier)

theorem write_length : spec.write.length = spec.len := by
  unfold write len
  split <;> simp

theorem write_ne_nil : spec.write ≠ [] := by
  rw [← List.length_pos_iff, write_length, len]
  omega

/-- A list of specifiers is not longer than its octets. -/
theorem length_le_sum (specs : List FieldSpecifier) : specs.length ≤ (specs.map len).sum := by
  induction specs with
  | nil => simp
  | cons spec specs ih =>
    have hlen : 4 ≤ spec.len := by
      unfold len
      omega
    simp only [List.length_cons, List.map_cons, List.sum_cons]
    omega

theorem new_self : new spec.elementId spec.length = .ok spec :=
  dif_pos spec.valid

theorem enterprise_bit {code : BitVec 16} (h : code.toNat < 2 ^ 15) :
    code &&& 0x8000 = 0 ∧ (code ||| 0x8000) &&& 0x8000 ≠ 0 ∧ (code ||| 0x8000) &&& 0x7fff = code := by
  have hlow : code[15] = false := Nat.testBit_lt_two_pow h
  refine ⟨?_, ?_, ?_⟩
  · apply BitVec.eq_of_getLsbD_eq
    intro i hi
    interval_cases i <;> simp [hlow]
  · intro h0
    have := congrArg (BitVec.getLsbD · 15) h0
    simp at this
  · apply BitVec.eq_of_getLsbD_eq
    intro i hi
    interval_cases i <;> simp [hlow]

variable {spec : FieldSpecifier}

theorem decodes_fromWire {registry : Registry} (h : spec.elementId.Canonical registry) :
    Decodes (fromWire registry) spec.write spec := by
  obtain ⟨hplain, hset, hclear⟩ := enterprise_bit h.code_lt
  have hie : Decodes (Parser.lift
      ((IE.tryFrom registry spec.elementId.pen spec.elementId.id).mapError .ieError)
        : Parser FieldSpecifierParsingError IE) [] spec.elementId := by
    rw [h.found]
    exact Decodes.lift
  have hspec : Decodes (Parser.lift
      ((FieldSpecifier.new spec.elementId spec.length).mapError .fieldSpecifierError)
        : Parser FieldSpecifierParsingError FieldSpecifier) [] spec := by
    rw [new_self]
    exact Decodes.lift
  by_cases hpen : spec.elementId.pen = 0
  · have hnumber : Decodes (enterpriseNumber spec.elementId.id) [] (0, spec.elementId.id) := by
      rw [enterpriseNumber, if_neg (by simpa using hplain)]
      exact Decodes.pure _
    rw [hpen] at hie
    rw [write, if_pos hpen]
    refine (decodes_beU16 _).bind ((decodes_beU16 _).last ?_)
    exact hnumber.last (hie.last hspec)
  · have hnumber : Decodes (enterpriseNumber (spec.elementId.id ||| 0x8000))
        (octets spec.elementId.pen) (spec.elementId.pen, spec.elementId.id) := by
      rw [enterpriseNumber, if_pos hset]
      have hread := (decodes_beU32 (ε := FieldSpecifierParsingError) spec.elementId.pen).map
        fun pen => (pen, (spec.elementId.id ||| 0x8000) &&& 0x7fff)
      rw [hclear] at hread ⊢
      exact hread
    rw [write, if_neg hpen, List.append_assoc]
    refine (decodes_beU16 _).bind ((decodes_beU16 _).bind ?_)
    exact hnumber.last (hie.last hspec)

end FieldSpecifier

/-! ## The fields of a record -/

section Fields

variable {DateTime : Type} [Chrono DateTime]

/-- The fields of a record with the lengths the template gives them, by position.
Fields beyond the template, and all fields without one, have no length. -/
def writeFields : List (Field DateTime) → List (BitVec 16) →
    Except (Stop FieldWritingError) Octets :=
  writeEach Field.write

/-- The length that is counted for a field in a record. -/
def Field.counted (field : Field DateTime) : Option (BitVec 16) → Nat
  | none => field.len none
  | some length => if length = variableLength then field.len (some length) else length.toNat

def lenFields : List (Field DateTime) → List (BitVec 16) → Nat :=
  lenEach Field.counted

def readFields : List FieldSpecifier → Parser FieldParsingError (List (Field DateTime)) :=
  readEach fun spec => Field.fromWire spec.elementId spec.length

/-- The length a value has when no template gives one. -/
def FieldType.naturalLength : (t : FieldType) → t.Value DateTime → Option (BitVec 16)
  | octetArray, value | basicList, value | subTemplateList, value | subTemplateMultiList, value =>
    if value.length < 65535 then some (BitVec.ofNat 16 value.length) else none
  | mplsLabelStackSection, _ => some 3
  | unsigned8 _, _ | signed8, _ | boolean, _ => some 1
  | unsigned16 _, _ | tcpControlBits, _ | signed16, _ => some 2
  | unsigned32 _, _ | signed32, _ | float32, _ | dateTimeSeconds, _ | ipv4Address, _ => some 4
  | unsigned64 _, _ | float64, _ | dateTimeMilliseconds, _ | dateTimeMicroseconds, _
  | dateTimeNanoseconds, _ => some 8
  | macAddress, _ => some 6
  | string, _ => some variableLength
  | ipv6Address, _ => some 16
  | unsigned256, _ => some 32
  -- nothing is written for the one, and the length is not counted for the others
  | signed64, _ | unknown, _ | vendorUnknown, _ => none

variable {bytes : Octets}

theorem writeBeBytes_full {name : String} {length : BitVec 16} (h : bytes.length = length.toNat) :
    writeBeBytes name bytes (some length) = .ok bytes := by
  rw [writeBeBytes, if_neg (by omega), h, Nat.sub_self, List.drop_zero]

theorem writeOctetArray_full {value : Octets} {length : BitVec 16} (h : value.length = length.toNat)
    (hfixed : length ≠ variableLength) : writeOctetArray value (some length) = value := by
  rw [writeOctetArray, if_neg hfixed, zeroFilled, h, Nat.sub_self, List.replicate_zero,
    List.append_nil]

/-- Without a template a value is written as with its natural length. -/
theorem FieldType.write_none {name : String} {t : FieldType} {value : t.Value DateTime}
    {length : BitVec 16} (h : t.naturalLength value = some length) :
    t.write name value none = t.write name value (some length) ∧
      t.len value none = t.len value (some length) := by
  cases t with
  | octetArray =>
    simp only [naturalLength] at h
    split at h
    · rename_i hlt
      cases h
      have hlen : value.length = (BitVec.ofNat 16 value.length).toNat := by
        rw [BitVec.toNat_ofNat]
        omega
      have hfixed : BitVec.ofNat 16 value.length ≠ variableLength := by
        intro h
        have := congrArg BitVec.toNat h
        rw [← hlen, variableLength] at this
        simp at this
        omega
      refine ⟨?_, ?_⟩
      · simp only [write, writeOctetArray_full hlen hfixed]
        rfl
      · simp only [len, if_neg hfixed, ← hlen]
    · cases h
  | mplsLabelStackSection =>
    cases h
    have hlen : value.val.length = (3 : BitVec 16).toNat := value.property
    refine ⟨?_, hlen⟩
    simp only [write, writeOctetArray_full hlen (by decide)]
    rfl
  | unsigned256 =>
    cases h
    have hlen : value.val.length = (32 : BitVec 16).toNat := value.property
    refine ⟨?_, hlen⟩
    simp only [write, Option.elim, hlen]
  | unsigned16 | unsigned32 | unsigned64 | tcpControlBits | signed16 | signed32 | float32
  | float64 =>
    cases h
    refine ⟨?_, rfl⟩
    simp only [write]
    rw [writeBeBytes_full (octets_length _)]
    rfl
  | signed64 | unknown | vendorUnknown => cases h
  | string =>
    cases h
    exact ⟨rfl, rfl⟩
  | basicList | subTemplateList | subTemplateMultiList | unsigned8 | signed8 | boolean | macAddress
  | dateTimeSeconds | dateTimeMilliseconds | dateTimeMicroseconds | dateTimeNanoseconds
  | ipv4Address | ipv6Address => exact ⟨rfl, rfl⟩

/-- The least number of octets of a field in a data record. -/
def FieldSpecifier.minLength (spec : FieldSpecifier) : Nat :=
  if spec.length = variableLength then 1 else spec.length.toNat

/-- A field that reads back under the specifier when it is written with the given
length: the specifier's own, or none for a value of that natural length. -/
structure Field.WrittenFor (given : Option (BitVec 16)) (spec : FieldSpecifier)
    (field : Field DateTime) : Prop where
  element : field.ie = spec.elementId
  admitted : field.Admitted spec.length
  representable : field.Representable spec.length
  given_length : given = some spec.length ∨
    given = none ∧ field.ie.fieldType.naturalLength field.value = some spec.length

/-- The fields of a record, one for each specifier. -/
def FieldsConform : List (Field DateTime) → List (BitVec 16) → List FieldSpecifier → Prop :=
  FitEach Field.WrittenFor

theorem FieldType.len_variable_pos {t : FieldType} {value : t.Value DateTime}
    (h : t.Admitted variableLength value) : 1 ≤ t.len value (some variableLength) := by
  have hheader : ∀ n, 1 ≤ lenWithHeader n := by
    intro n
    unfold lenWithHeader
    split <;> omega
  cases t with
  | octetArray | string | vendorUnknown => exact hheader _
  | unknown | basicList | subTemplateList | subTemplateMultiList => exact absurd rfl h.1
  | mplsLabelStackSection | macAddress => cases h
  | unsigned16 | unsigned32 | unsigned64 | tcpControlBits | signed16 | signed32 | signed64
  | float32 | float64 | unsigned256 => exact (by decide : 1 ≤ variableLength.toNat)
  | unsigned8 | signed8 | boolean | dateTimeSeconds | dateTimeMilliseconds | dateTimeMicroseconds
  | dateTimeNanoseconds | ipv4Address | ipv6Address => simp [len]

variable {given : Option (BitVec 16)} {field : Field DateTime}

theorem Field.WrittenFor.written (h : field.WrittenFor given spec) :
    field.write given = field.write (some spec.length) ∧
      field.len given = field.len (some spec.length) := by
  rcases h.given_length with rfl | ⟨rfl, hnatural⟩
  · exact ⟨rfl, rfl⟩
  · obtain ⟨hwrite, hlen⟩ := @FieldType.write_none DateTime _ field.ie.name _ _ _ hnatural
    exact ⟨by rw [Field.write, Field.write, hwrite], hlen⟩

variable [LawfulChrono DateTime]

/-- What a field is written as, is read under the specifier. -/
theorem Field.WrittenFor.exact (h : field.WrittenFor given spec)
    (hwrite : field.write given = .ok bytes) :
    Decodes (Field.fromWire spec.elementId spec.length) bytes field ∧
      bytes.length = field.len given ∧
      (spec.length ≠ variableLength → bytes.length = spec.length.toNat) := by
  obtain ⟨hsame, hlen⟩ := h.written
  rw [hsame] at hwrite
  obtain ⟨hdecodes, hlength, hfixed⟩ := Field.decodes h.admitted h.representable hwrite
  rw [h.element] at hdecodes
  exact ⟨hdecodes, by rw [hlen, hlength], hfixed⟩

theorem Field.WrittenFor.counted_eq (h : field.WrittenFor given spec)
    (hwrite : field.write given = .ok bytes) : bytes.length = field.counted given := by
  obtain ⟨-, hlen, hfixed⟩ := h.exact hwrite
  rcases h.given_length with rfl | ⟨rfl, -⟩
  · rw [Field.counted]
    split
    · exact hlen
    · rename_i hvariable
      exact hfixed hvariable
  · exact hlen

theorem Field.WrittenFor.minLength_le (h : field.WrittenFor given spec)
    (hwrite : field.write given = .ok bytes) : spec.minLength ≤ bytes.length := by
  obtain ⟨-, hlen, hfixed⟩ := h.exact hwrite
  unfold FieldSpecifier.minLength
  split
  · rename_i hvariable
    have hadmitted := h.admitted
    rw [hvariable] at hadmitted
    rw [hlen, h.written.2, hvariable]
    exact FieldType.len_variable_pos hadmitted
  · rename_i hvariable
    exact (hfixed hvariable).ge

/-- The fields of a conforming record are read back, and their lengths add up. -/
theorem readsOne_field :
    ReadsOne (@Field.WrittenFor DateTime _) Field.write
      (fun spec => Field.fromWire spec.elementId spec.length) Field.counted
      (fun spec => spec.length ≠ variableLength) (fun spec => spec.length.toNat)
      FieldSpecifier.minLength where
  decodes h hwrite := (h.exact hwrite).1
  length_eq := Field.WrittenFor.counted_eq
  length_fixed h hwrite := (h.exact hwrite).2.2
  least_le := Field.WrittenFor.minLength_le

end Fields

/-! ## Templates and the map that keeps them -/

/-- What a template says about data records. The protocols differ in the
specifiers of the scope. -/
structure DecodingTemplate (S : Type) where
  scopeFieldsSpecs : List S
  fieldsSpecs : List FieldSpecifier
  processedCount : BitVec 64

namespace DecodingTemplate

variable {S : Type}

def new (scopeFieldsSpecs : List S) (fieldsSpecs : List FieldSpecifier) : DecodingTemplate S :=
  ⟨scopeFieldsSpecs, fieldsSpecs, 0⟩

def incrementProcessedCount (template : DecodingTemplate S) : DecodingTemplate S :=
  { template with processedCount := template.processedCount + 1 }

end DecodingTemplate

/-- The templates by their id. -/
def TemplatesMap (S : Type) := BitVec 16 → Option (DecodingTemplate S)

namespace TemplatesMap

variable {S : Type}

def empty : TemplatesMap S := fun _ => none

def insert (id : BitVec 16) (template : DecodingTemplate S) (map : TemplatesMap S) :
    TemplatesMap S :=
  fun id' => if id' = id then some template else map id'

/-- Count what was decoded with a template. -/
def increment (id : BitVec 16) (map : TemplatesMap S) : TemplatesMap S :=
  fun id' => if id' = id then (map id).map (·.incrementProcessedCount) else map id'

end TemplatesMap

/-- The ids of data sets. -/
def DataSetId := { id : BitVec 16 // 256 ≤ id.toNat }
  deriving DecidableEq

/-- The least one. -/
def DataSetId.least : DataSetId := ⟨256, by decide⟩

/-- A template as it is announced. -/
structure TemplateRecord where
  id : BitVec 16
  fieldSpecifiers : List FieldSpecifier

inductive TemplateRecordParsingError where
  | nomError (kind : ErrorKind)
  | invalidTemplateId (id : BitVec 16)
  | fieldSpecifierError (e : FieldSpecifierParsingError)

instance : NomError TemplateRecordParsingError := ⟨.nomError⟩

namespace TemplateRecord

variable {S : Type}

def len (record : TemplateRecord) : Nat :=
  4 + (record.fieldSpecifiers.map FieldSpecifier.len).sum

def write (record : TemplateRecord) : Octets :=
  octets record.id ++ octets (BitVec.ofNat 16 record.fieldSpecifiers.length)
    ++ record.fieldSpecifiers.flatMap FieldSpecifier.write

def parse (registry : Registry) : Parser TemplateRecordParsingError TemplateRecord := do
  let templateId ← beU16
  if templateId.toNat < 256 then .fail (.invalidTemplateId templateId) else do
  let fieldCount ← beU16
  let fields ← count (.mapErr .fieldSpecifierError (FieldSpecifier.fromWire registry))
    fieldCount.toNat
  return ⟨templateId, fields⟩

/-- The template in the map. -/
def announce (map : TemplatesMap S) (record : TemplateRecord) : TemplatesMap S :=
  map.insert record.id (.new [] record.fieldSpecifiers)

/-- A template is kept as soon as it is read. -/
def fromWire (registry : Registry) :
    StateParser (TemplatesMap S) TemplateRecordParsingError TemplateRecord := do
  let record ← .liftP (parse registry)
  StateParser.modify (announce · record)
  return record

theorem write_length (record : TemplateRecord) : record.write.length = record.len := by
  have hspecs := length_flatMap_of fun spec (_ : spec ∈ record.fieldSpecifiers) => spec.write_length
  simp only [write, len, List.length_append, octets_length, hspecs]

theorem write_ne_nil (record : TemplateRecord) : record.write ≠ [] := by
  rw [← List.length_pos_iff, write_length, len]
  omega

/-- A record that can be read back: an id beyond those of the other sets, and
elements that are found again. -/
structure Announceable (registry : Registry) (record : TemplateRecord) : Prop where
  id_ge : 256 ≤ record.id.toNat
  canonical : ∀ spec ∈ record.fieldSpecifiers, spec.elementId.Canonical registry

theorem decodes_parse {registry : Registry} {record : TemplateRecord}
    (h : record.Announceable registry) (hcount : record.fieldSpecifiers.length < 2 ^ 16) :
    Decodes (parse registry) record.write record := by
  have hfields := decodes_count fun spec hspec =>
    (FieldSpecifier.decodes_fromWire (h.canonical spec hspec)).mapErr
      TemplateRecordParsingError.fieldSpecifierError
  rw [write, List.append_assoc]
  refine (decodes_beU16 _).bind ?_
  rw [if_neg (by have := h.id_ge; omega)]
  refine (decodes_beU16 _).bind ?_
  rw [BitVec.toNat_ofNat, Nat.mod_eq_of_lt hcount]
  exact hfields.map _

theorem reads {registry : Registry} {record : TemplateRecord}
    (h : record.Announceable registry) (hlen : record.len < 2 ^ 16) (map : TemplatesMap S) :
    Reads (fromWire registry) map record.write record (announce map record) := by
  have hcount : record.fieldSpecifiers.length < 2 ^ 16 := by
    have := FieldSpecifier.length_le_sum record.fieldSpecifiers
    unfold len at hlen
    omega
  exact Reads.noted (decodes_parse h hcount) announce map

end TemplateRecord

/-- A registry of a counter and of octets. -/
def sampleRegistry : Registry := ⟨[octetDeltaCount, paddingOctets], []⟩

/-- A counter of eight octets in a template. -/
def counterSpecifier : FieldSpecifier := ⟨.iana octetDeltaCount, 8, octetDeltaCount_length⟩

def counterTemplate : TemplateRecord := ⟨257, [counterSpecifier]⟩

def counterField : Field UtcTime := ⟨.iana octetDeltaCount, (189 : BitVec 64)⟩

theorem counterTemplate_announceable :
    ∀ record ∈ [counterTemplate], record.Announceable sampleRegistry := by
  rw [List.forall_mem_singleton]
  refine ⟨by decide, fun spec hspec => ?_⟩
  obtain rfl := List.mem_singleton.mp hspec
  exact ⟨rfl, by decide⟩

end NetCalyx.Flow
