import Mathlib.Data.List.TakeWhile
import NetCalyx.Flow.Field

/-!
# Which fields survive writing and reading

The parsers of numbers are loops over octets; `foldl_shiftIn` says what the loop
computes. From there on each kind of field has one lemma about what is read back
from what was written, and the two main results put them together.
-/

namespace NetCalyx.Flow
open Wire LawfulChrono List

variable {DateTime : Type} {name : String} {length : BitVec 16}

/-! ## Numbers -/

theorem shiftIn_eq {w : Nat} (res : BitVec w) (byte : Octet) :
    shiftIn res byte = BitVec.ofNat w (res.toNat * 256 + byte.toNat) := by
  apply BitVec.eq_of_toNat_eq
  simp [shiftIn, Nat.shiftLeft_eq]

/-- The loop appends its octets to the number it starts with. -/
theorem foldl_shiftIn {w : Nat} (bs : Octets) (res : BitVec w) :
    bs.foldl shiftIn res = BitVec.ofNat w (res.toNat * 256 ^ bs.length + ofBe bs) := by
  induction bs generalizing res with
  | nil => simp [ofBe]
  | cons b bs ih =>
    rw [foldl_cons, ih, shiftIn_eq]
    apply BitVec.eq_of_toNat_eq
    simp only [BitVec.toNat_ofNat, ofBe, length_cons, Nat.pow_succ]
    rw [Nat.add_mod, Nat.mul_mod, Nat.mod_mod, ← Nat.mul_mod, ← Nat.add_mod]
    congr 1
    ring

theorem foldl_shiftInSigned_false {w : Nat} (bs : Octets) (res : BitVec w) :
    bs.foldl shiftInSigned (res, false) = (bs.foldl shiftIn res, false) := by
  induction bs generalizing res with
  | nil => rfl
  | cons b bs ih => exact ih _

/-- Where the signed loop starts: at minus one if the first bit is set. -/
def signStart (w : Nat) (bs : Octets) : BitVec w :=
  if 256 ^ bs.length ≤ 2 * ofBe bs then BitVec.allOnes w else 0

theorem msb_iff (b : Octet) (bs : Octets) :
    b &&& 0x80 ≠ 0 ↔ 256 ^ (b :: bs).length ≤ 2 * ofBe (b :: bs) := by
  have hbit : b &&& 0x80 ≠ 0 ↔ 128 ≤ b.toNat := by revert b; decide
  have hlt := ofBe_lt bs
  rw [hbit, ofBe, length_cons, Nat.pow_succ]
  constructor
  · intro h
    have := Nat.mul_le_mul_right (256 ^ bs.length) h
    omega
  · intro h
    by_contra hb
    have := Nat.mul_le_mul_right (256 ^ bs.length) (show b.toNat ≤ 127 by omega)
    omega

theorem foldl_shiftInSigned {w : Nat} (bs : Octets) :
    (bs.foldl shiftInSigned ((0 : BitVec w), true)).1 = bs.foldl shiftIn (signStart w bs) := by
  cases bs with
  | nil => simp [signStart, ofBe]
  | cons b bs =>
    have hstart : (if true && b &&& 0x80 != 0 then BitVec.allOnes w else 0)
        = signStart w (b :: bs) := by
      rw [signStart]
      exact if_congr (by rw [← msb_iff]; simp) rfl rfl
    rw [foldl_cons, foldl_cons, ← hstart]
    show ((bs.foldl shiftInSigned (_, false)).1 : BitVec w) = _
    rw [foldl_shiftInSigned_false]

section Numbers

variable {w : Nat} {bs : Octets}
variable (hlen : bs.length = length.toNat)
include hlen

theorem length_guard (hle : length.toNat ≤ w / 8) (rest : Octets) :
    ¬ (length.toNat > w / 8 || (bs ++ rest).length < length.toNat) = true := by
  simp only [length_append, Bool.or_eq_true, decide_eq_true_eq]
  omega

theorem decodes_uintDeserializer (hle : length.toNat ≤ w / 8) :
    Decodes (uintDeserializer w name length) bs (BitVec.ofNat w (ofBe bs)) := by
  intro rest
  rw [uintDeserializer, if_neg (length_guard hlen hle rest), drop_left' hlen,
    take_left' hlen, foldl_shiftIn]
  simp

theorem decodes_intDeserializer (hle : length.toNat ≤ w / 8) :
    Decodes (intDeserializer w name length) bs (bs.foldl shiftIn (signStart w bs)) := by
  intro rest
  rw [intDeserializer, if_neg (length_guard hlen hle rest), drop_left' hlen,
    take_left' hlen, foldl_shiftInSigned]

omit hlen

/-- The number fits the octets it is written to, if it is written. -/
def Fits (length : BitVec 16) (x : BitVec w) : Prop :=
  length.toNat ≤ w / 8 → x.toNat < 256 ^ length.toNat

/-- The signed number fits the octets it is written to, if it is written. -/
def FitsSigned (length : BitVec 16) (x : BitVec w) : Prop :=
  length.toNat ≤ w / 8 →
    -(256 ^ length.toNat : Int) ≤ 2 * x.toInt ∧ 2 * x.toInt < 256 ^ length.toNat

/-- What is written of a number: its low octets, if the length is not too large. -/
theorem writeBeBytes_eq (x : BitVec w) : writeBeBytes name (octets x) (some length) =
    if length.toNat ≤ w / 8 then .ok (toBe length.toNat x.toNat)
    else .error (.error ⟨name, length⟩) := by
  rw [writeBeBytes, octets_length]
  split
  · rw [if_neg (by omega)]
  · rw [if_pos (by omega), octets]
    have hdrop := drop_toBe (w / 8 - length.toNat) length.toNat x.toNat
    rw [Nat.sub_add_cancel (by omega)] at hdrop
    rw [hdrop]

variable {x : BitVec w}

theorem decodes_uint (hfit : Fits length x) (hle : length.toNat ≤ w / 8) :
    Decodes (uintDeserializer w name length) (toBe length.toNat x.toNat) x := by
  have hread := @decodes_uintDeserializer name _ _ _ (toBe_length length.toNat x.toNat) hle
  rw [ofBe_toBe, Nat.mod_eq_of_lt (hfit hle)] at hread
  simpa using hread

variable {n : Nat}

/-- Octets of a number that fits, read with their sign. -/
theorem foldl_signStart_toBe (hw : w % 8 = 0) (hle : n ≤ w / 8)
    (hlow : -(256 ^ n : Int) ≤ 2 * x.toInt) (hhigh : 2 * x.toInt < 256 ^ n) :
    (toBe n x.toNat).foldl shiftIn (signStart w (toBe n x.toNat)) = x := by
  obtain ⟨k, hk⟩ : ∃ k, 2 ^ w = 256 ^ n * k := by
    refine ⟨256 ^ (w / 8 - n), ?_⟩
    rw [← Nat.pow_add, Nat.add_sub_cancel' hle, show (256 : Nat) = 2 ^ 8 by rfl, ← Nat.pow_mul,
      Nat.mul_div_cancel' (Nat.dvd_of_mod_eq_zero hw)]
  have hpos : 0 < 256 ^ n := Nat.pow_pos (by decide)
  have hkpos : 0 < k := by
    rcases Nat.eq_zero_or_pos k with rfl | h
    · exact absurd hk (by simp)
    · exact h
  have hx := x.isLt
  have hint : x.toInt = if 2 * x.toNat < 2 ^ w then (x.toNat : Int) else x.toNat - 2 ^ w := by
    rw [BitVec.toInt_eq_toNat_cond]
    push_cast
    rfl
  have hcast : ((256 ^ n : Nat) : Int) = 256 ^ n := by push_cast; rfl
  have hcastw : ((2 ^ w : Nat) : Int) = 2 ^ w := by push_cast; rfl
  rw [foldl_shiftIn, toBe_length, ofBe_toBe, signStart, toBe_length, ofBe_toBe]
  apply BitVec.eq_of_toNat_eq
  rw [BitVec.toNat_ofNat]
  split_ifs at hint with hsign
  · -- not negative: the number is its low octets
    have hsmall : x.toNat < 256 ^ n := by omega
    have hzero : (0 : BitVec w).toNat = 0 := by simp
    rw [Nat.mod_eq_of_lt hsmall, if_neg (by omega), hzero, Nat.zero_mul, Nat.zero_add,
      Nat.mod_eq_of_lt hx]
  · -- negative: the octets above the written ones are all ones
    obtain ⟨d, hd⟩ : ∃ d, x.toNat + d = 2 ^ w := ⟨2 ^ w - x.toNat, by omega⟩
    have hd0 : 0 < d := by omega
    have hdle : 2 * d ≤ 256 ^ n := by omega
    have hmod : x.toNat % 256 ^ n = 256 ^ n - d := by
      obtain ⟨j, rfl⟩ : ∃ j, k = j + 1 := ⟨k - 1, by omega⟩
      have hsplit : x.toNat = 256 ^ n - d + 256 ^ n * j := by
        rw [Nat.mul_succ] at hk
        omega
      rw [hsplit, Nat.add_mul_mod_self_left, Nat.mod_eq_of_lt (by omega)]
    rw [hmod, if_pos (by omega), BitVec.toNat_allOnes]
    have htotal : (2 ^ w - 1) * 256 ^ n + (256 ^ n - d) = x.toNat + 2 ^ w * (256 ^ n - 1) := by
      obtain ⟨m, hm⟩ : ∃ m, 256 ^ n = m + 1 := ⟨256 ^ n - 1, by omega⟩
      have hwpos : 0 < 2 ^ w := Nat.two_pow_pos w
      rw [Nat.sub_mul, Nat.one_mul, hm, Nat.mul_succ, Nat.add_sub_cancel]
      have : m + 1 ≤ 2 ^ w * m + 2 ^ w := by
        have := Nat.mul_le_mul_right m (show 1 ≤ 2 ^ w from hwpos)
        omega
      omega
    rw [htotal, Nat.add_mul_mod_self_left, Nat.mod_eq_of_lt hx]

theorem decodes_int (hw : w % 8 = 0) (hfit : FitsSigned length x) (hle : length.toNat ≤ w / 8) :
    Decodes (intDeserializer w name length) (toBe length.toNat x.toNat) x := by
  have hread := @decodes_intDeserializer name _ _ _ (toBe_length length.toNat x.toNat) hle
  obtain ⟨hlow, hhigh⟩ := hfit hle
  rwa [foldl_signStart_toBe hw hle hlow hhigh] at hread

end Numbers

theorem decodes_u16 {x : BitVec 16} (h0 : length ≠ 0) (hfit : Fits length x)
    (hle : length.toNat ≤ 2) :
    Decodes (u16Deserializer name length) (toBe length.toNat x.toNat) x := by
  have h0' : length.toNat ≠ 0 := fun h => h0 (BitVec.eq_of_toNat_eq h)
  rcases (show length.toNat = 1 ∨ length.toNat = 2 by omega) with h1 | h2
  · obtain rfl : length = 1 := BitVec.eq_of_toNat_eq h1
    have hx : x.toNat < 256 := by simpa using hfit (by decide)
    have hvalue : (BitVec.ofNat 8 x.toNat).setWidth 16 = x := by
      apply BitVec.eq_of_toNat_eq
      simp
      omega
    have hread := (decodes_beU8 (ε := ElementParsingError) (BitVec.ofNat 8 x.toNat)).map
      (BitVec.setWidth 16)
    rw [hvalue] at hread
    rw [u16Deserializer, if_pos rfl]
    simpa [toBe] using hread
  · obtain rfl : length = 2 := BitVec.eq_of_toNat_eq h2
    exact decodes_beU16 x

/-! ## Variable lengths -/

/-- Behind 255 the length takes three octets. -/
theorem variableLengthHeader_long (a b c : Octet) (rest : Octets) :
    variableLengthHeader (255 :: a :: b :: c :: rest) = .ok (rest, ofBe [a, b, c]) := by
  have hlt := ofBe_lt [a, b, c]
  have hvalue : ([a, b, c].foldl shiftIn (0 : BitVec 32)).toNat = ofBe [a, b, c] := by
    rw [foldl_shiftIn, BitVec.toNat_ofNat]
    have : (256 : Nat) ^ [a, b, c].length = 2 ^ 24 := by simp
    simp only [BitVec.ofNat_eq_ofNat, BitVec.toNat_ofNat, Nat.zero_mod, Nat.zero_mul, Nat.zero_add]
    omega
  rw [variableLengthHeader, beU8_bind, if_pos rfl, beU8_bind, beU8_bind, beU8_bind, hvalue]
  rfl

theorem variableLengthHeader_short {x : Octet} (hx : x ≠ 255) (rest : Octets) :
    variableLengthHeader (x :: rest) = .ok (rest, x.toNat) := by
  rw [variableLengthHeader, beU8_bind, if_neg hx]
  rfl

theorem lengthHeader_long (h : 255 ≤ n) : lengthHeader n = 255 :: toBe 3 n := by
  have hdrop := drop_toBe 1 3 (n % 2 ^ 32)
  have htoBe : toBe 3 (n % 2 ^ 32) = toBe 3 n := by
    have hsplit := toBe_mul_add 3 (n / 2 ^ 32 * 256) (n % 2 ^ 32)
    have hn : n / 2 ^ 32 * 256 * 256 ^ 3 + n % 2 ^ 32 = n := by omega
    rw [← hsplit, hn]
  rw [lengthHeader, if_neg (by omega), octets, BitVec.toNat_ofNat]
  rw [htoBe] at hdrop
  exact congrArg _ hdrop

theorem decodes_variableLengthHeader (h : n < 2 ^ 24) :
    Decodes variableLengthHeader (lengthHeader n) n := by
  intro rest
  by_cases hshort : n < 255
  · have hne : BitVec.ofNat 8 n ≠ 255 := by
      intro he
      have := congrArg BitVec.toNat he
      simp at this
      omega
    rw [lengthHeader, if_pos hshort, singleton_append, variableLengthHeader_short hne,
      BitVec.toNat_ofNat, Nat.mod_eq_of_lt (by omega)]
  · have hvalue : ofBe (toBe 3 n) = n := by
      rw [ofBe_toBe, Nat.mod_eq_of_lt (by omega)]
    rw [lengthHeader_long (by omega)]
    rw [show toBe 3 n = [_, _, _] from rfl] at hvalue ⊢
    exact (variableLengthHeader_long _ _ _ rest).trans (by rw [hvalue])

theorem decodes_vecU8_variable {bs : Octets} (h : bs.length < 2 ^ 24) :
    Decodes (vecU8Deserializer variableLength) (lengthHeader bs.length ++ bs) bs := by
  rw [vecU8Deserializer, if_pos rfl]
  exact (decodes_variableLengthHeader h).bind (decodes_take rfl)

theorem utf8_eq_ok {bytes : Octets} {s : String} : utf8 bytes = .ok s ↔ bytes = stringOctets s := by
  constructor
  · intro h
    cases hs : stringFromOctets bytes with
    | none =>
      rw [utf8, hs] at h
      cases h
    | some s' =>
      rw [utf8, hs] at h
      cases h
      exact (stringOctets_of_stringFromOctets hs).symm
  · rintro rfl
    rw [utf8, stringFromOctets_stringOctets]
    rfl

theorem decodes_string_variable {s : String} (h : (stringOctets s).length < 2 ^ 24) :
    Decodes (stringDeserializer variableLength)
      (lengthHeader (stringOctets s).length ++ stringOctets s) s := by
  rw [stringDeserializer, if_pos rfl]
  exact (decodes_variableLengthHeader h).bind ((decodes_take rfl).mapRes (utf8_eq_ok.mpr rfl))

/-- The two ways to give the length of a value in front of it: one octet, or
255 and two octets. -/
inductive LengthForm where
  | short
  | long

namespace LengthForm

/-- The lengths a form can express. -/
def Legal : LengthForm → Nat → Prop
  | short, n => n < 255
  | long, n => n ≤ 65535

def encode : LengthForm → Octets → Octets
  | short, bytes => BitVec.ofNat 8 bytes.length :: bytes
  | long, bytes => 255 :: (octets (BitVec.ofNat 16 bytes.length) ++ bytes)

end LengthForm

/-- The parser reads the value from the given form of its octets, and the writer
uses one of the two forms. -/
def FollowsForm [Chrono DateTime] (name : String) (t : FieldType) (value : t.Value DateTime)
    (bytes : Octets) (form : LengthForm) : Prop :=
  Decodes (t.fromWire name variableLength) (form.encode bytes) value ∧
    ∃ written : LengthForm, written.Legal bytes.length ∧
      t.write name value (some variableLength) = .ok (written.encode bytes)

/-- No value is as long as the three octets behind 255 say when its length takes
only two of them. -/
theorem variableLengthHeader_of_long {bytes rest : Octets} (hlen : bytes.length ≤ 65535)
    (h : variableLengthHeader (LengthForm.encode .long bytes) = .ok (rest, n)) :
    rest.length < n := by
  have hfield : ofBe (octets (BitVec.ofNat 16 bytes.length)) = bytes.length := by
    rw [octets, ofBe_toBe, BitVec.toNat_ofNat]
    omega
  obtain ⟨a, b, hab⟩ : ∃ a b, octets (BitVec.ofNat 16 bytes.length) = [a, b] := ⟨_, _, rfl⟩
  rw [LengthForm.encode, hab] at h
  rw [hab] at hfield
  cases bytes with
  | nil => cases h
  | cons c bytes =>
    rw [cons_append, cons_append, nil_append, variableLengthHeader_long] at h
    cases h
    simp only [ofBe, length_cons, length_nil] at hfield ⊢
    omega

theorem lengthHeader_append_short {bytes : Octets} (h : bytes.length < 255) :
    lengthHeader bytes.length ++ bytes = LengthForm.encode .short bytes := by
  rw [lengthHeader, if_pos h]
  rfl

theorem take_ne_ok {ε : Type} [NomError ε] {buf : Octets} {r : Octets × Octets} (h : buf.length < n) :
    (take n : Parser ε Octets) buf ≠ .ok r := by
  intro hread
  obtain ⟨hlen, happ⟩ := takeOr_eq_ok.mp hread
  have := congrArg List.length happ
  rw [length_append] at this
  omega

/-- A parser that first reads the length does not read the long form. -/
theorem followsForm_iff [Chrono DateTime] {form : LengthForm} {bytes : Octets} {t : FieldType}
    {value : t.Value DateTime} (hlegal : form.Legal bytes.length)
    (hlong : ¬ Decodes (t.fromWire name variableLength) (LengthForm.encode .long bytes) value)
    (hread : Decodes (t.fromWire name variableLength) (lengthHeader bytes.length ++ bytes) value)
    (hwrite : t.write name value (some variableLength) = .ok (lengthHeader bytes.length ++ bytes)) :
    FollowsForm name t value bytes form ↔ form = .short := by
  constructor
  · rintro ⟨hdecodes, -⟩
    cases form with
    | short => rfl
    | long => exact absurd hdecodes hlong
  · rintro rfl
    rw [lengthHeader_append_short hlegal] at hread hwrite
    exact ⟨hread, .short, hlegal, hwrite⟩

/-- A variable-length field is read from the short form only; the writer then
uses it too. -/
theorem variable_length_field_iff [Chrono DateTime] (name : String) (form : LengthForm) :
    (∀ value : Octets, form.Legal value.length → value.length ≤ 65535 →
      (@FollowsForm DateTime _ name .octetArray value value form ↔ form = .short)) ∧
    (∀ value : String, form.Legal (stringOctets value).length → (stringOctets value).length ≤ 65535 →
      (@FollowsForm DateTime _ name .string value (stringOctets value) form ↔
        form = .short)) := by
  constructor
  · intro value hlegal hlen
    refine followsForm_iff hlegal (fun hread => ?_) (decodes_vecU8_variable (by omega)) rfl
    obtain ⟨rest, n, hheader, htake⟩ := Parser.bind_eq_ok hread.run_nil
    exact absurd htake (take_ne_ok (variableLengthHeader_of_long hlen hheader))
  · intro value hlegal hlen
    refine followsForm_iff hlegal (fun hread => ?_) (decodes_string_variable (by omega)) rfl
    obtain ⟨rest, n, hheader, htake⟩ := Parser.bind_eq_ok hread.run_nil
    obtain ⟨mid, bytes, htake, -⟩ := Parser.bind_eq_ok htake
    exact absurd htake (take_ne_ok (variableLengthHeader_of_long hlen hheader))

/-- One octet behind its length in the short form. -/
theorem variable_length_field_short :
    (LengthForm.short.Legal ([7] : Octets).length ∧ ([7] : Octets).length ≤ 65535) ∧
    @FollowsForm UtcTime _ "paddingOctets" .octetArray ([7] : Octets) [7] .short :=
  have hlegal : LengthForm.short.Legal ([7] : Octets).length := by
    show 1 < 255
    decide
  ⟨⟨hlegal, by decide⟩,
    ((variable_length_field_iff "paddingOctets" .short).1 [7] hlegal (by decide)).mpr rfl⟩

/-- One octet behind its length in the long form is not read. -/
theorem variable_length_field_long :
    @FieldType.fromWire UtcTime _ "paddingOctets" variableLength .octetArray
      (LengthForm.long.encode [7]) = .error (.error (.nomError .eof)) := by
  rfl

/-! ## Exactness -/

namespace FieldType

variable [Chrono DateTime]

/-- The lengths and values the generated code of a type is written for. Outside
of it the writer ignores the length, cuts the value, or omits its length. -/
def Admitted (length : BitVec 16) : (t : FieldType) → t.Value DateTime → Prop
  | octetArray, value | vendorUnknown, value =>
    if length = variableLength then value.length < 2 ^ 24 else value.length ≤ length.toNat
  | unknown, value => length ≠ variableLength ∧ value.length ≤ length.toNat
  | string, value =>
    if length = variableLength then (stringOctets value).length < 2 ^ 24
    else (stringOctets value).length ≤ length.toNat
  | mplsLabelStackSection, _ => length = 3
  | unsigned8 _, _ | signed8, _ | boolean, _ => length = 1
  | unsigned16 _, value => length ≠ 0 ∧ Fits length value.toNum
  | tcpControlBits, _ => length ≠ 0
  | unsigned32 _, value => Fits length value.toNum
  | unsigned64 _, value => Fits length value.toNum
  | signed16, value => FitsSigned length value
  | signed32, value => FitsSigned length value
  | signed64, value => FitsSigned length value
  | float32, _ => 4 ≤ length.toNat
  | float64, _ => 8 ≤ length.toNat
  | macAddress, _ => length = 6
  | dateTimeSeconds, value => length = 4 ∧ 0 ≤ timestamp value ∧ timestamp value < 2 ^ 32
  | dateTimeMilliseconds, _ => length = 8
  | dateTimeMicroseconds, value | dateTimeNanoseconds, value =>
    length = 8 ∧ (0 ≤ timestamp value ∧ timestamp value < 2 ^ 32) ∧
      timestampSubsecNanos value < 10 ^ 9
  | ipv4Address, _ => length = 4
  | ipv6Address, _ => length = 16
  | basicList, value | subTemplateList, value | subTemplateMultiList, value =>
    length ≠ variableLength ∧ value.length = length.toNat
  | unsigned256, value =>
    length.toNat ≤ 32 ∧ value.val = zeroFilled (value.val.take length.toNat) 32

/-- The values that the encoding can express: octets that need no filling,
strings without a zero octet, times without a finer part, and members of a
sub-registry under their name. -/
def Representable (length : BitVec 16) : (t : FieldType) → t.Value DateTime → Prop
  | octetArray, value | vendorUnknown, value =>
    length = variableLength ∨ value.length = length.toNat
  | unknown, value => value.length = length.toNat
  | string, value => length = variableLength ∨ 0 ∉ stringOctets value
  | unsigned8 _, value | unsigned16 _, value | unsigned32 _, value | unsigned64 _, value =>
    value.Canonical
  | dateTimeSeconds, value => timestampSubsecNanos value = 0
  | dateTimeMilliseconds, value =>
    timestampSubsecNanos value < 10 ^ 9 ∧ timestampSubsecNanos value % 10 ^ 6 = 0
  | dateTimeMicroseconds, value | dateTimeNanoseconds, value =>
    nanosOfFraction (fractionOfNanos (timestampSubsecNanos value)) = timestampSubsecNanos value
  | _, _ => True

end FieldType

/-! ### Octets and strings -/

theorem zeroFilled_length {value : Octets} (h : value.length ≤ n) :
    (zeroFilled value n).length = n := by
  rw [zeroFilled, length_append, length_replicate]
  omega

theorem zeroFilled_eq_self {value : Octets} (h : value.length ≤ n) :
    zeroFilled value n = value ↔ value.length = n := by
  constructor
  · intro he
    rw [← zeroFilled_length h, he]
  · rintro rfl
    simp [zeroFilled]

theorem lengthHeader_length (n : Nat) (bytes : Octets) (h : bytes.length = n) :
    (lengthHeader n ++ bytes).length = lenWithHeader n := by
  unfold lengthHeader lenWithHeader
  split <;> simp [h]
  omega

theorem decodes_vecU8_fixed {bs : Octets} (hvar : length ≠ variableLength)
    (hlen : bs.length = length.toNat) : Decodes (vecU8Deserializer length) bs bs := by
  rw [vecU8Deserializer, if_neg hvar]
  exact decodes_take hlen

/-- A string ends at its first zero octet, the filling included. -/
theorem takeWhile_zeroFilled {bytes : Octets} :
    (zeroFilled bytes n).takeWhile (· != 0) = bytes ↔ 0 ∉ bytes := by
  constructor
  · intro h h0
    rw [← h] at h0
    simpa using mem_takeWhile_imp h0
  · intro h0
    have hall : ∀ b ∈ bytes, (b != 0) = true := by
      intro b hb
      have hne : b ≠ 0 := fun he => h0 (he ▸ hb)
      simpa using hne
    rw [zeroFilled, takeWhile_append_of_pos hall, append_right_eq_self]
    cases n - bytes.length with
    | zero => rfl
    | succ k => simp [replicate_succ]

theorem string_fixed {s : String} (hvar : length ≠ variableLength)
    (hle : (stringOctets s).length ≤ length.toNat) :
    ReadsIff (length = variableLength ∨ 0 ∉ stringOctets s) (stringDeserializer length)
      (zeroFilled (stringOctets s) length.toNat) s := by
  rw [stringDeserializer, if_neg hvar]
  exact (decodes_take (zeroFilled_length hle)).readsIff_mapRes
    (utf8_eq_ok.trans (takeWhile_zeroFilled.trans (or_iff_right hvar).symm))

/-! ### Times -/

section Time

variable [Chrono DateTime] [LawfulChrono DateTime]

theorem toNat_ofInt_timestamp {t : Int} (h0 : 0 ≤ t) (hlt : t < 2 ^ 32) :
    (((BitVec.ofInt 32 t).toNat : Nat) : Int) = t := by
  rw [BitVec.toNat_ofInt]
  omega

variable {t : DateTime}

/-- A point in time is found again from its parts, and from no others. -/
theorem timestampOpt_iff {nanos : Nat} (hnanos : nanos < 10 ^ 9) :
    timestampOpt (timestamp t) nanos = some t ↔ timestampSubsecNanos t = nanos := by
  constructor
  · intro h
    exact (of_timestampOpt h).2
  · rintro rfl
    exact timestampOpt_self hnanos

theorem timestampMillisOpt_iff :
    timestampMillisOpt (timestampMillis t) = some t ↔
      timestampSubsecNanos t < 10 ^ 9 ∧ timestampSubsecNanos t % 10 ^ 6 = 0 := by
  rw [timestampMillisOpt_eq, timestampMillis_eq]
  by_cases hnanos : timestampSubsecNanos t < 10 ^ 9
  · have hsecs : (timestamp t * 1000 + (timestampSubsecNanos t / 10 ^ 6 : Nat)) / 1000
        = timestamp t := by omega
    have hmillis : ((timestamp t * 1000 + (timestampSubsecNanos t / 10 ^ 6 : Nat)) % 1000).toNat
        = timestampSubsecNanos t / 10 ^ 6 := by omega
    rw [hsecs, hmillis, timestampOpt_iff (by omega)]
    omega
  · -- a leap second is read as the second after it
    constructor
    · intro h
      have := (of_timestampOpt h).1
      omega
    · exact fun h => absurd h.1 hnanos

theorem exactly_self {α : Type} (n : BitVec 16) (p : Parser ElementParsingError α) :
    exactly n p name n = p :=
  if_pos rfl

/-- A found point in time, or an error. -/
theorem elim_eq_ok {α ε : Type} {found : Option α} {e : ε} {a : α} :
    found.elim (.error e) Except.ok = .ok a ↔ found = some a := by
  cases found <;> simp

theorem timestampOpt_seconds (h0 : 0 ≤ timestamp t) (hlt : timestamp t < 2 ^ 32) :
    timestampOpt ((BitVec.ofInt 32 (timestamp t)).toNat : Int) 0 = some t ↔
      timestampSubsecNanos t = 0 := by
  rw [toNat_ofInt_timestamp h0 hlt, timestampOpt_iff (by decide)]

theorem dateTimeSeconds_reads (h0 : 0 ≤ timestamp t) (hlt : timestamp t < 2 ^ 32) :
    ReadsIff (timestampSubsecNanos t = 0) (dateTimeSeconds name 4)
      (octets (BitVec.ofInt 32 (timestamp t))) t :=
  (decodes_beU32 _).readsIff_mapRes (elim_eq_ok.trans (timestampOpt_seconds h0 hlt))

/-- A point in time that a field of 32 bits can express. -/
structure WholeSecond (t : DateTime) : Prop where
  nonneg : 0 ≤ timestamp t
  fits : timestamp t < 2 ^ 32
  whole : timestampSubsecNanos t = 0

/-- A field of seconds is read back, whatever the error for other times is. -/
theorem WholeSecond.decodes {ε : Type} [NomError ε] (h : WholeSecond t) (invalid : BitVec 32 → ε) :
    Decodes (mapRes beU32 fun secs => (timestampOpt secs.toNat 0).elim (.error (invalid secs)) .ok)
      (octets (BitVec.ofInt 32 (timestamp t))) t :=
  (decodes_beU32 _).mapRes (elim_eq_ok.mpr ((timestampOpt_seconds h.nonneg h.fits).mpr h.whole))

theorem dateTimeMilli_reads :
    ReadsIff (timestampSubsecNanos t < 10 ^ 9 ∧ timestampSubsecNanos t % 10 ^ 6 = 0)
      (dateTimeMilli name 8) (octets (BitVec.ofInt 64 (timestampMillis t))) t := by
  have hbounds := timestampMillis_bounds t
  have hmillis : (BitVec.ofInt 64 (timestampMillis t)).toInt = timestampMillis t := by
    rw [BitVec.toInt_ofInt]
    exact Int.bmod_eq_of_le (by omega) (by omega)
  have hfound := timestampMillisOpt_iff (t := t)
  rw [← hmillis] at hfound
  exact (decodes_beU64 _).readsIff_mapRes (elim_eq_ok.trans hfound)

theorem dateTimeMicro_reads (h0 : 0 ≤ timestamp t) (hlt : timestamp t < 2 ^ 32)
    (hnanos : timestampSubsecNanos t < 10 ^ 9) :
    ReadsIff
      (nanosOfFraction (fractionOfNanos (timestampSubsecNanos t)) = timestampSubsecNanos t)
      (dateTimeMicro name 8) (FieldType.writeFraction t) t := by
  have hclose := nanosOfFraction_fractionOfNanos hnanos
  have hfound : timestampOpt ((BitVec.ofInt 32 (timestamp t)).toNat : Int)
        (nanosOfFraction (fractionOfNanos (timestampSubsecNanos t))) = some t ↔
      nanosOfFraction (fractionOfNanos (timestampSubsecNanos t)) = timestampSubsecNanos t := by
    rw [toNat_ofInt_timestamp h0 hlt, timestampOpt_iff (by omega), eq_comm]
  rw [dateTimeMicro, exactly_self, FieldType.writeFraction]
  exact (decodes_beU32 _).readsIff_bind
    ((decodes_beU32 _).readsIff_mapRes (elim_eq_ok.trans hfound))

end Time

/-! ### All types -/

namespace FieldType

variable [Chrono DateTime]

/-- The octets have the announced number, and are read as the value if and only
if the encoding can express it. -/
structure Exact (name : String) (length : BitVec 16) (t : FieldType) (value : t.Value DateTime)
    (bytes : Octets) : Prop where
  length_eq : bytes.length = t.len value (some length)
  fixed : length ≠ variableLength → bytes.length = length.toNat
  read_iff : t.fromWire name length bytes = .ok ([], value) ↔ t.Representable length value
  decodes : t.Representable length value → Decodes (t.fromWire name length) bytes value

variable {t : FieldType} {value : t.Value DateTime} {bytes : Octets}

/-- Types whose octets are always read as some value. -/
theorem exact_of_decodes (hlen : bytes.length = t.len value (some length))
    (hfixed : length ≠ variableLength → bytes.length = length.toNat) {read : t.Value DateTime}
    (hread : Decodes (t.fromWire name length) bytes read)
    (hiff : read = value ↔ t.Representable length value) : Exact name length t value bytes where
  length_eq := hlen
  fixed := hfixed
  read_iff := by
    rw [hread.run_nil, ← hiff]
    simp
  decodes h := hiff.mpr h ▸ hread

/-- Types whose octets are read as the value under a condition. -/
theorem exact_of_reads (hlen : bytes.length = t.len value (some length))
    (hfixed : length ≠ variableLength → bytes.length = length.toNat)
    (hreads : ReadsIff (t.Representable length value) (t.fromWire name length) bytes value) :
    Exact name length t value bytes :=
  ⟨hlen, hfixed, hreads.run_iff, hreads.decodes⟩

/-- What the writer does with a value: write it exactly, or refuse the length. -/
def WritesExactly (name : String) (length : BitVec 16) (t : FieldType)
    (value : t.Value DateTime) : Prop :=
  (∃ bytes, t.write name value (some length) = .ok bytes ∧ Exact name length t value bytes) ∨
    t.write name value (some length) = .error (.error ⟨name, length⟩)

/-- Numbers, of which the low octets are written. -/
theorem writesExactly_number {w : Nat} {x : BitVec w}
    (hwrite : t.write name value (some length) = writeBeBytes name (octets x) (some length))
    (hlen : t.len value (some length) = length.toNat) {read : t.Value DateTime}
    (hread : length.toNat ≤ w / 8 →
      Decodes (t.fromWire name length) (toBe length.toNat x.toNat) read)
    (hiff : read = value ↔ t.Representable length value) :
    WritesExactly name length t value := by
  rw [writeBeBytes_eq] at hwrite
  split at hwrite
  · rename_i hle
    refine .inl ⟨_, hwrite, exact_of_decodes ?_ (fun _ => toBe_length _ _) (hread hle) hiff⟩
    rw [toBe_length, hlen]
  · exact .inr hwrite

/-- Values of one size. -/
theorem writesExactly_of_decodes (hwrite : t.write name value (some length) = .ok bytes)
    (hlen : bytes.length = t.len value (some length)) (hfixed : bytes.length = length.toNat)
    {read : t.Value DateTime} (hread : Decodes (t.fromWire name length) bytes read)
    (hiff : read = value ↔ t.Representable length value) : WritesExactly name length t value :=
  .inl ⟨_, hwrite, exact_of_decodes hlen (fun _ => hfixed) hread hiff⟩

/-- Octets read by the parser of octet arrays. -/
theorem writesExactly_octets {bs : Octets}
    (hadmitted : if length = variableLength then bs.length < 2 ^ 24 else bs.length ≤ length.toNat) :
    (writeOctetArray bs (some length)).length =
        (if length = variableLength then lenWithHeader bs.length else length.toNat) ∧
    (length ≠ variableLength → (writeOctetArray bs (some length)).length = length.toNat) ∧
    ∃ read, Decodes (vecU8Deserializer length) (writeOctetArray bs (some length)) read ∧
      (read = bs ↔ length = variableLength ∨ bs.length = length.toNat) := by
  rw [writeOctetArray]
  by_cases hvar : length = variableLength
  · subst hvar
    rw [if_pos rfl] at hadmitted
    simp only [if_pos]
    exact ⟨lengthHeader_length _ _ rfl, fun h => absurd rfl h, bs,
      decodes_vecU8_variable hadmitted, by simp⟩
  · rw [if_neg hvar] at hadmitted
    simp only [if_neg hvar]
    have hlen := zeroFilled_length hadmitted
    refine ⟨hlen, fun _ => hlen, _, decodes_vecU8_fixed hvar hlen, ?_⟩
    rw [zeroFilled_eq_self hadmitted]
    simp [hvar]

theorem exact_string {s : String} (h : @Admitted DateTime _ length .string s) :
    @Exact DateTime _ name length .string s
      (writeString (stringOctets s) (some length)) := by
  have hadmitted : if length = variableLength then (stringOctets s).length < 2 ^ 24
      else (stringOctets s).length ≤ length.toNat := h
  obtain ⟨hlen, hfixed, -⟩ := writesExactly_octets hadmitted
  by_cases hvar : length = variableLength
  · subst hvar
    have hread := decodes_string_variable (s := s) (by simpa using hadmitted)
    exact exact_of_decodes hlen hfixed hread (by simp [Representable])
  · rw [if_neg hvar] at hadmitted
    have hbytes : writeString (stringOctets s) (some length)
        = zeroFilled (stringOctets s) length.toNat := if_neg hvar
    have hreads := string_fixed hvar hadmitted
    rw [← hbytes] at hreads
    exact exact_of_reads hlen hfixed hreads

theorem decodes_bool (b : Bool) :
    Decodes (boolDeserializer name 1) [if b then 1 else 0] b := by
  have hread := (decodes_beU8 (ε := ElementParsingError) (if b then 1 else 0)).map (· != 0)
  cases b <;> exact hread

theorem decodes_u256 {value : OctetArray 32} (hle : length.toNat ≤ 32)
    (hzero : value.val = zeroFilled (value.val.take length.toNat) 32) :
    Decodes (u256Deserializer name length) (value.val.take length.toNat) value := by
  intro rest
  have hsize := value.property
  have hlen : (value.val.take length.toNat).length = length.toNat := by
    rw [length_take]
    omega
  have hcond : ¬ (length.toNat > 32 ∨ (value.val.take length.toNat ++ rest).length < length.toNat) := by
    rw [length_append, hlen]
    omega
  rw [u256Deserializer, dif_neg hcond]
  simp only [drop_left' hlen, take_left' hlen, ← hzero]

theorem writesExactly_unknown {value : Octets}
    (h : @Admitted DateTime _ length .unknown value) :
    @WritesExactly DateTime _ name length .unknown value := by
  obtain ⟨hvar, hle⟩ := h
  have hlen := zeroFilled_length hle
  have hbytes : writeString value (some length) = zeroFilled value length.toNat := if_neg hvar
  refine .inl ⟨zeroFilled value length.toNat, congrArg _ hbytes, ?_⟩
  refine exact_of_decodes (hlen.trans (if_neg hvar).symm) (fun _ => hlen) (decodes_take hlen) ?_
  exact zeroFilled_eq_self hle

variable [LawfulChrono DateTime]

/-- Every admitted value is written exactly, or its length is refused. -/
theorem writesExactly (h : t.Admitted length value) : WritesExactly name length t value := by
  cases t with
  | octetArray | vendorUnknown =>
    obtain ⟨hlen, hfixed, read, hread, hiff⟩ := writesExactly_octets h
    exact .inl ⟨_, rfl, exact_of_decodes hlen hfixed hread hiff⟩
  | unknown => exact writesExactly_unknown h
  | string => exact .inl ⟨_, rfl, exact_string h⟩
  | basicList | subTemplateList | subTemplateMultiList =>
    obtain ⟨hvar, hlen⟩ := h
    exact writesExactly_of_decodes rfl rfl hlen (decodes_vecU8_fixed hvar hlen)
      (by simp [Representable])
  | mplsLabelStackSection =>
    obtain rfl : length = 3 := h
    have hbytes : writeOctetArray value.val (some 3) = value.val := by
      rw [writeOctetArray, if_neg (by decide), zeroFilled_eq_self] <;> rw [value.property] <;> rfl
    exact writesExactly_of_decodes (congrArg Except.ok hbytes) value.property value.property
      (decodes_takeArray value) (by simp [Representable])
  | unsigned8 registry =>
    obtain rfl : length = 1 := h
    exact writesExactly_of_decodes rfl rfl rfl ((decodes_beU8 _).map _) Iff.rfl
  | signed8 =>
    obtain rfl : length = 1 := h
    exact writesExactly_of_decodes rfl rfl rfl (decodes_beU8 value) (by simp [Representable])
  | boolean =>
    obtain rfl : length = 1 := h
    exact writesExactly_of_decodes rfl rfl rfl (decodes_bool value) (by simp [Representable])
  | unsigned16 registry =>
    exact writesExactly_number rfl rfl (fun hle => (decodes_u16 h.1 h.2 hle).map _) Iff.rfl
  | tcpControlBits =>
    have hfit : Fits length value.toU16 := by
      intro hle
      have h0 : length.toNat ≠ 0 := fun h0 => h (BitVec.eq_of_toNat_eq h0)
      have hflags : value.toU16.toNat < 256 ^ 1 := by
        have := value.toU8.isLt
        simp [TcpHeaderFlags.toU16]
        omega
      exact hflags.trans_le (Nat.pow_le_pow_right (by decide) (by omega))
    refine writesExactly_number rfl rfl (fun hle => (decodes_u16 h hfit hle).map _) ?_
    rw [TcpHeaderFlags.ofU16_toU16]
    simp [Representable]
  | unsigned32 registry | unsigned64 registry =>
    exact writesExactly_number rfl rfl (fun hle => (decodes_uint h hle).map _) Iff.rfl
  | signed16 | signed32 | signed64 =>
    exact writesExactly_number rfl rfl (decodes_int rfl h) (by simp [Representable])
  | float32 =>
    refine @writesExactly_number DateTime name length _ _ value _ _ rfl rfl value (fun hle => ?_) (by simp [Representable])
    obtain rfl : length = 4 := BitVec.eq_of_toNat_eq (Nat.le_antisymm hle h)
    exact decodes_beU32 value
  | float64 =>
    refine @writesExactly_number DateTime name length _ _ value _ _ rfl rfl value (fun hle => ?_) (by simp [Representable])
    obtain rfl : length = 8 := BitVec.eq_of_toNat_eq (Nat.le_antisymm hle h)
    exact decodes_beU64 value
  | macAddress =>
    obtain rfl : length = 6 := h
    exact writesExactly_of_decodes rfl rfl value.property (decodes_takeArray value)
      (by simp [Representable])
  | dateTimeSeconds =>
    obtain ⟨rfl, h0, hlt⟩ := h
    exact .inl ⟨_, rfl, exact_of_reads rfl (fun _ => rfl) (dateTimeSeconds_reads h0 hlt)⟩
  | dateTimeMilliseconds =>
    obtain rfl : length = 8 := h
    exact .inl ⟨_, rfl, exact_of_reads rfl (fun _ => rfl) dateTimeMilli_reads⟩
  | dateTimeMicroseconds | dateTimeNanoseconds =>
    obtain ⟨rfl, ⟨h0, hlt⟩, hnanos⟩ := h
    exact .inl ⟨_, rfl, exact_of_reads rfl (fun _ => rfl) (dateTimeMicro_reads h0 hlt hnanos)⟩
  | ipv4Address =>
    obtain rfl : length = 4 := h
    exact writesExactly_of_decodes rfl rfl rfl (decodes_beU32 value) (by simp [Representable])
  | ipv6Address =>
    obtain rfl : length = 16 := h
    exact writesExactly_of_decodes rfl rfl rfl (decodes_beU128 value) (by simp [Representable])
  | unsigned256 =>
    obtain ⟨hle, hzero⟩ := h
    have hsize : value.val.length = 32 := value.property
    have hlen : (value.val.take length.toNat).length = length.toNat := by
      rw [length_take]
      omega
    have hwrite : @FieldType.write DateTime _ name .unsigned256 value (some length)
        = .ok (value.val.take length.toNat) :=
      if_neg (by show ¬ value.val.length < length.toNat; omega)
    exact writesExactly_of_decodes hwrite hlen hlen (decodes_u256 hle hzero)
      (by simp [Representable])

end FieldType

/-! ## Fields -/

namespace Field

variable [Chrono DateTime]

def Admitted (length : BitVec 16) (field : Field DateTime) : Prop :=
  field.ie.fieldType.Admitted length field.value

def Representable (length : BitVec 16) (field : Field DateTime) : Prop :=
  field.ie.fieldType.Representable length field.value

theorem fromWire_eq_ok {ie : IE} {buf rest : Octets} {value : ie.fieldType.Value DateTime} :
    fromWire ie length buf = .ok (rest, ⟨ie, value⟩) ↔
      ie.fieldType.fromWire ie.name length buf = .ok (rest, value) := by
  rw [fromWire, Parser.mapErr_eq_ok]
  constructor
  · intro h
    obtain ⟨mid, value', hvalue, hpure⟩ := Parser.bind_eq_ok h
    cases hpure
    exact hvalue
  · intro h
    exact Parser.run_map h _

variable {field : Field DateTime} {bytes : Octets}

theorem decodes_fromWire
    (h : Decodes (field.ie.fieldType.fromWire field.ie.name length) bytes field.value) :
    Decodes (fromWire field.ie length) bytes field :=
  fun rest => fromWire_eq_ok.mpr (h rest)

theorem write_eq_ok {length : Option (BitVec 16)} :
    field.write length = .ok bytes ↔
      field.ie.fieldType.write field.ie.name field.value length = .ok bytes := by
  rw [write]
  cases field.ie.fieldType.write field.ie.name field.value length <;> simp [Except.mapError]

variable [LawfulChrono DateTime]

/-- An admitted value that the encoding can express is read back from any input
that starts with its octets. -/
theorem decodes (hadmitted : field.Admitted length) (hrepresentable : field.Representable length)
    (hwrite : field.write (some length) = .ok bytes) :
    Decodes (fromWire field.ie length) bytes field ∧ bytes.length = field.len (some length) ∧
      (length ≠ variableLength → bytes.length = length.toNat) := by
  rw [write_eq_ok] at hwrite
  rcases @FieldType.writesExactly DateTime field.ie.name _ _ _ _ _ hadmitted with
    ⟨bytes', hbytes, hexact⟩ | herror
  · rw [hwrite] at hbytes
    cases hbytes
    exact ⟨decodes_fromWire (hexact.decodes hrepresentable), hexact.length_eq, hexact.fixed⟩
  · rw [hwrite] at herror
    cases herror

end Field

/-- Writer, length and parser of every admitted field agree, and the value is
read back if and only if the encoding can express it; a number is refused when
the template gives it more octets than it has. -/
theorem field_codec_exact [Chrono DateTime] [LawfulChrono DateTime] (field : Field DateTime)
    (length : BitVec 16) (hadmitted : field.Admitted length) :
    match field.write (some length) with
    | .ok bytes => bytes.length = field.len (some length) ∧
        (length ≠ variableLength → bytes.length = length.toNat) ∧
        (Field.fromWire field.ie length bytes = .ok ([], field) ↔ field.Representable length)
    | .error stop => stop = .error (Field.writingError field.ie ⟨field.ie.name, length⟩) := by
  rcases @FieldType.writesExactly DateTime field.ie.name _ _ _ _ _ hadmitted with
    ⟨bytes, hbytes, hexact⟩ | herror
  · rw [Field.write_eq_ok.mpr hbytes]
    exact ⟨hexact.length_eq, hexact.fixed, Field.fromWire_eq_ok.trans hexact.read_iff⟩
  · rw [Field.write, herror]
    rfl

/-- A counter of eight octets. -/
def octetDeltaCount : InformationElement := ⟨"octetDeltaCount", 1, .unsigned64, none⟩

theorem octetDeltaCount_length : inRange (IE.iana octetDeltaCount).lengthRange 8 = true := rfl

/-- Octets of any number. -/
def paddingOctets : InformationElement := ⟨"paddingOctets", 210, .octetArray, none⟩

/-- A small counter in four octets. -/
theorem field_codec_exact_reduced :
    @Field.Admitted UtcTime _ 4 ⟨.iana octetDeltaCount, (189 : BitVec 64)⟩ ∧
    (@Field.fromWire UtcTime _ (.iana octetDeltaCount) 4 [0, 0, 0, 189]
      = .ok ([], ⟨.iana octetDeltaCount, (189 : BitVec 64)⟩)) := by
  have hadmitted : @Field.Admitted UtcTime _ 4
      ⟨.iana octetDeltaCount, (189 : BitVec 64)⟩ := fun _ => by decide
  exact ⟨hadmitted, (field_codec_exact _ _ hadmitted).2.2.mpr rfl⟩

/-- One octet in a template field of two is filled with a zero, which stays. -/
theorem octetArray_filled : ∃ bytes,
    @Field.write UtcTime _ ⟨.iana paddingOctets, ([1] : Octets)⟩ (some 2) = .ok bytes ∧
    @Field.fromWire UtcTime _ (.iana paddingOctets) 2 bytes ≠
      .ok ([], ⟨.iana paddingOctets, ([1] : Octets)⟩) := by
  refine ⟨[1, 0], rfl, fun h => ?_⟩
  have hvalue := Field.fromWire_eq_ok.mp h
  cases hvalue

end NetCalyx.Flow
