import NetCalyx.Flow.Ipfix
import NetCalyx.Wire.Loops

/-!
# What the parsers of fields and records read

A field takes at least the least size that its template counts for it, and looks at nothing behind
its value, whatever its element and its announced length. The same holds for the specifiers of a
template, for templates and for the records of IPFIX.
-/

namespace NetCalyx.Flow
open Wire

/-- The least number of octets of a field of an announced length. -/
def leastLength (length : BitVec 16) : Nat :=
  if length = variableLength then 1 else length.toNat

theorem leastLength_le (length : BitVec 16) : leastLength length ≤ length.toNat := by
  unfold leastLength
  split
  · rename_i h
    rw [h]
    decide
  · exact le_refl _

theorem leastLength_pos {length : BitVec 16} (h : 0 < length.toNat) : 0 < leastLength length := by
  unfold leastLength
  split
  · exact Nat.one_pos
  · exact h

section Fields

variable {DateTime : Type} [Chrono DateTime]

theorem fixed_exactly {α : Type} (n : BitVec 16) {p : Parser ElementParsingError α}
    (hp : Fixed n.toNat p) (name : String) (length : BitVec 16) :
    Fixed length.toNat (exactly n p name length) := by
  unfold exactly
  split
  · rename_i h
    rw [h]
    exact hp
  · exact .fail _ _

/-- A value that is computed from as many octets as announced, unless these are too many. -/
theorem fixed_announced {ε α : Type} {p : Parser ε α} {n : Nat} {tooMany : Bool} {e : ε}
    {f : Octets → α}
    (h : ∀ buf, p buf = if tooMany || decide (buf.length < n) then .error (.error e)
      else .ok (buf.drop n, f (buf.take n))) : Fixed n p := by
  refine .of_eq (r := fun bs => if tooMany then .error e else .ok (f bs))
    (fun buf hlong => ?_) fun buf hshort => ⟨.error e, ?_⟩
  · rw [h, decide_eq_false (not_lt.mpr hlong), Bool.or_false]
    cases tooMany <;> rfl
  · rw [h, decide_eq_true hshort, Bool.or_true, if_pos rfl]

theorem fixed_uintDeserializer (w : Nat) (name : String) (length : BitVec 16) :
    Fixed length.toNat (uintDeserializer w name length) := fixed_announced fun _ => rfl

theorem fixed_intDeserializer (w : Nat) (name : String) (length : BitVec 16) :
    Fixed length.toNat (intDeserializer w name length) :=
  fixed_announced (f := fun front => (front.foldl shiftInSigned (0, true)).1) fun _ => rfl

variable (name : String)
variable (length : BitVec 16)

theorem fixed_u256Deserializer : Fixed length.toNat (u256Deserializer name length) := by
  by_cases hmany : length.toNat > 32
  · have hfails : u256Deserializer name length = .fail (.invalidLength name length) :=
      funext fun _ => dif_pos (.inl hmany)
    rw [hfails]
    exact .fail _ _
  · refine .of_eq (r := fun bs => if h : bs.length ≤ 32 then
      .ok ⟨zeroFilled bs 32, by simp [zeroFilled]; omega⟩ else .error (.invalidLength name length))
      (fun buf hlong => ?_) fun buf hshort => ⟨_, dif_pos (.inr hshort)⟩
    rw [dif_pos (by rw [List.length_take]; omega)]
    exact dif_neg (by omega)

theorem fixed_u16Deserializer : Fixed length.toNat (u16Deserializer name length) := by
  unfold u16Deserializer
  split
  · rename_i h
    rw [h]
    exact (Fixed.beUint 8).first fun _ => .pure _
  · split
    · rename_i h
      rw [h]
      exact .beUint 16
    · exact .fail _ _

/-- A length in front of the value is at least one octet. -/
theorem reads_variableLengthHeader : ReadsFront 1 variableLengthHeader :=
  (ReadsFront.beUint 8).first fun _ => .ite
    ((ReadsFront.beUint 8).first fun _ => (ReadsFront.beUint 8).first fun _ =>
      (ReadsFront.beUint 8).first fun _ => .pure _).any
    (.pure _)

theorem reads_vecU8Deserializer : ReadsFront (leastLength length) (vecU8Deserializer length) := by
  unfold vecU8Deserializer leastLength
  split
  · exact reads_variableLengthHeader.first fun n => .take n
  · exact .take _

theorem reads_stringDeserializer : ReadsFront (leastLength length) (stringDeserializer length) := by
  unfold stringDeserializer leastLength
  split
  · exact reads_variableLengthHeader.first fun n => (ReadsFront.take n).mapRes _
  · exact (ReadsFront.take _).mapRes _

/-- An element whose value may stand behind its own length. -/
def FieldType.hasOwnLength : FieldType → Bool
  | octetArray | basicList | subTemplateList | subTemplateMultiList | vendorUnknown | string => true
  | _ => false

/-- Every other element takes its announced length, and does not look behind its value. -/
theorem fixed_fieldType {length : BitVec 16} {t : FieldType}
    (h : t.hasOwnLength = true → length ≠ variableLength) :
    Fixed length.toNat (t.fromWire name length : Parser _ (t.Value DateTime)) := by
  cases t with
  | octetArray | basicList | subTemplateList | subTemplateMultiList | vendorUnknown =>
    show Fixed _ (vecU8Deserializer length)
    rw [vecU8Deserializer, if_neg (h rfl)]
    exact .take _
  | string =>
    show Fixed _ (stringDeserializer length)
    rw [stringDeserializer, if_neg (h rfl)]
    exact (Fixed.take _).mapRes _
  | mplsLabelStackSection | macAddress => exact fixed_exactly _ (.takeArray _) name length
  | unsigned8 => exact (fixed_exactly 1 (.beUint 8) name length).first fun _ => .pure _
  | unsigned16 | tcpControlBits => exact (fixed_u16Deserializer name length).first fun _ => .pure _
  | unsigned32 | unsigned64 => exact (fixed_uintDeserializer _ name length).first fun _ => .pure _
  | signed8 => exact fixed_exactly 1 (.beUint 8) name length
  | signed16 | signed32 | signed64 => exact fixed_intDeserializer _ name length
  | float32 | ipv4Address => exact fixed_exactly 4 (.beUint 32) name length
  | float64 => exact fixed_exactly 8 (.beUint 64) name length
  | ipv6Address => exact fixed_exactly 16 (.beUint 128) name length
  | boolean => exact fixed_exactly 1 ((Fixed.beUint 8).first fun _ => .pure _) name length
  | dateTimeSeconds => exact fixed_exactly 4 ((Fixed.beUint 32).mapRes _) name length
  | dateTimeMilliseconds => exact fixed_exactly 8 ((Fixed.beUint 64).mapRes _) name length
  | dateTimeMicroseconds | dateTimeNanoseconds =>
    exact fixed_exactly 8 ((Fixed.beUint 32).bind fun _ => (Fixed.beUint 32).mapRes _) name length
  | unsigned256 => exact fixed_u256Deserializer name length
  | unknown => exact Fixed.take length.toNat

theorem reads_fieldType (t : FieldType) :
    ReadsFront (leastLength length) (t.fromWire name length : Parser _ (t.Value DateTime)) := by
  by_cases hown : t.hasOwnLength = true
  · cases t with
    | octetArray | basicList | subTemplateList | subTemplateMultiList | vendorUnknown =>
      exact reads_vecU8Deserializer length
    | string => exact reads_stringDeserializer length
    | _ => cases hown
  · exact (fixed_fieldType name fun h => absurd h hown).readsFront.mono (leastLength_le length)

theorem fixed_readFields {specs : List FieldSpecifier}
    (h : ∀ spec ∈ specs, spec.length ≠ variableLength) :
    Fixed (specs.map (·.length.toNat)).sum (readFields specs : Parser _ (List (Field DateTime))) :=
  .readEach fun spec hspec => ((fixed_fieldType spec.elementId.name fun _ => h spec hspec).first
    fun _ => .pure _).mapErr _

theorem reads_readFields (specs : List FieldSpecifier) :
    ReadsFront (specs.map (·.minLength)).sum
      (readFields specs : Parser _ (List (Field DateTime))) := by
  refine ReadsFront.readEach (fun spec => ?_) specs
  exact ((reads_fieldType spec.elementId.name spec.length spec.elementId.fieldType).first
    fun _ => .pure _).mapErr _

end Fields

theorem reads_fieldSpecifier (registry : Registry) :
    ReadsFront 1 (FieldSpecifier.fromWire registry) :=
  ReadsFront.first ((ReadsFront.beUint 16).mono (by decide)) fun _ =>
    (ReadsFront.beUint 16).first fun _ =>
      ReadsFront.first (.ite ((ReadsFront.beUint 32).first fun _ => .pure _).any (.pure _)) fun _ =>
        (ReadsFront.lift _).first fun _ => .lift _

theorem reads_templateRecord (registry : Registry) : ReadsFront 1 (TemplateRecord.parse registry) :=
  ReadsFront.first ((ReadsFront.beUint 16).mono (by decide)) fun _ => .ite (.fail _ _) <|
    (ReadsFront.beUint 16).first fun _ =>
      (((reads_fieldSpecifier registry).mapErr _).count _).first fun _ => .pure _

namespace Ipfix

theorem reads_optionsTemplateRecord (registry : Registry) :
    ReadsFront 1 (OptionsTemplateRecord.parse registry) :=
  ReadsFront.first ((ReadsFront.beUint 16).mono (by decide)) fun _ => .ite (.fail _ _) <|
    (ReadsFront.beUint 16).first fun _ => (ReadsFront.beUint 16).first fun _ =>
      .ite (.fail _ _) <|
        (((reads_fieldSpecifier registry).mapErr _).count _).first fun _ =>
          (((reads_fieldSpecifier registry).mapErr _).count _).first fun _ => .pure _

theorem reads_dataRecord {DateTime : Type} [Chrono DateTime] (template : DecodingTemplate) :
    ReadsFront (minRecordLength template)
      (DataRecord.fromWire template : Parser _ (DataRecord DateTime)) :=
  ((reads_readFields template.scopeFieldsSpecs).bind fun _ =>
    (reads_readFields template.fieldsSpecs).first fun _ => .pure _).mapErr _

end Ipfix

end NetCalyx.Flow
