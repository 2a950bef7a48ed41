import NetCalyx.Wire.Parser

/-!
# The length field of a path attribute

A path attribute value is preceded by a length of one octet, or of two when the
extended-length flag is set. The writer computes the field from the size of
value and field together, and falls back to two octets for values that are too
long for one; the parser goes by the flag alone. The two agree exactly on the
values that fit the field (`decodes_attributeData`, `attributeData_fits`).
-/

namespace NetCalyx.Bgp
open Wire

variable (extendedLength : Bool)

/-- The size of the length field. -/
def lengthFieldSize : Nat := 1 + extendedLength.toNat

/-- The field in front of a value which takes `attributeLen` octets together
with the field. -/
def writeLength (attributeLen : Nat) (extendedLength : Bool) : Octets :=
  let len := attributeLen - 1
  if extendedLength ∨ len > 255 then octets (BitVec.ofNat 16 (len - 1))
  else [BitVec.ofNat 8 len]

/-- The value behind its length field. -/
def attributeData {ε : Type} [NomError ε] : Parser ε Octets :=
  if extendedLength then lengthData beU16 else lengthData beU8

/-- The longest value a length field can announce. -/
def maxValueLength : Nat := if extendedLength then 65535 else 255

theorem writeLength_extended (n : Nat) :
    writeLength (lengthFieldSize true + n) true = octets (BitVec.ofNat 16 n) := by
  have hfield : lengthFieldSize true + n - 1 - 1 = n := by
    simp [lengthFieldSize]
  simp [writeLength, hfield]

theorem writeLength_short {n : Nat} (h : n ≤ 255) :
    writeLength (lengthFieldSize false + n) false = [BitVec.ofNat 8 n] := by
  have hfield : lengthFieldSize false + n - 1 = n := by
    simp [lengthFieldSize]
  simp [writeLength, hfield, h]

/-- A value that needs two octets gets them even without the flag, and the
field is then one too small. -/
theorem writeLength_long {n : Nat} (h : 255 < n) :
    writeLength (lengthFieldSize false + n) false = octets (BitVec.ofNat 16 (n - 1)) := by
  have hfield : lengthFieldSize false + n - 1 = n := by
    simp [lengthFieldSize]
  simp [writeLength, hfield, h]

variable {ε : Type} [NomError ε]

theorem decodes_attributeData {extendedLength : Bool} {value : Octets}
    (hfit : value.length ≤ maxValueLength extendedLength) :
    Decodes (attributeData extendedLength : Parser ε Octets)
      (writeLength (lengthFieldSize extendedLength + value.length) extendedLength ++ value)
      value := by
  cases extendedLength with
  | false =>
    rw [writeLength_short hfit]
    exact decodes_lengthData_u8 (Nat.lt_succ_of_le hfit)
  | true =>
    rw [writeLength_extended]
    exact decodes_lengthData (decodes_beU16 _) (Nat.lt_succ_of_le hfit)

/-- A value that is too long for the field leaves octets over. -/
theorem attributeData_fits {extendedLength : Bool} {value data : Octets}
    (h : (attributeData extendedLength : Parser ε Octets)
      (writeLength (lengthFieldSize extendedLength + value.length) extendedLength ++ value)
        = .ok ([], data)) : value.length ≤ maxValueLength extendedLength := by
  cases extendedLength with
  | true =>
    rw [writeLength_extended] at h
    have hleft := lengthData_leftover (decodes_beU16 _) h
    have hmod := Nat.mod_lt value.length (show 0 < 2 ^ 16 by decide)
    rw [List.length_nil] at hleft
    show value.length ≤ 65535
    omega
  | false =>
    by_contra hlong
    have hlong : 255 < value.length := Nat.lt_of_not_le hlong
    rw [writeLength_long hlong] at h
    -- two octets are written, of which the parser takes the first as the length
    obtain ⟨mid, n, hn, hdata⟩ := Parser.bind_eq_ok h
    have hone : (octets (BitVec.ofNat 16 (value.length - 1)) ++ value).length = mid.length + 1 :=
      Consumes.beUint _ _ _ hn
    obtain ⟨hlen, rfl⟩ := takeOr_eq_ok.mp hdata
    have hoctet := n.isLt
    rw [List.length_append, octets_length, List.append_nil, hlen] at hone
    omega

end NetCalyx.Bgp
