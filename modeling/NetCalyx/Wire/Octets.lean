import Mathlib.Algebra.Order.BigOperators.Group.List
import Mathlib.Data.List.Basic
import Mathlib.Tactic.Ring

/-!
# Octet strings and network byte order

An octet string is a list of octets, a fixed-width unsigned number is a bit
vector, and `toBe n x` is the `n`-octet big-endian form of `x`. Proved here:

* `ofBe_toBe`: reading back what was written gives the number modulo `256 ^ n`;
* `toBe_ofBe`: writing back what was read gives the octets;
* `octets_ofOctets`, `ofOctets_octets`: both directions for a bit vector whose
  width is a whole number of octets;
* `ofBe_take_pad`: a number whose low octets are zero survives dropping them
  and padding with zeros again;
* `code_of_fromRepr`: an enumeration member found by number has that number.
-/

namespace Wire
open List

abbrev Octet := BitVec 8
abbrev Octets := List Octet

/-- A fixed number of octets. -/
abbrev OctetArray (n : Nat) := { bs : Octets // bs.length = n }

def OctetArray.three (a b c : Octet) : OctetArray 3 := ⟨[a, b, c], rfl⟩

/-- The `n` low octets of `x`, most significant first. -/
def toBe : Nat → Nat → Octets
  | 0, _ => []
  | n + 1, x => BitVec.ofNat 8 (x / 256 ^ n) :: toBe n x

/-- The number an octet string denotes, most significant octet first. -/
def ofBe : Octets → Nat
  | [] => 0
  | b :: bs => b.toNat * 256 ^ bs.length + ofBe bs

@[simp] theorem toBe_length (n x : Nat) : (toBe n x).length = n := by
  induction n with
  | zero => rfl
  | succ n ih => simp [toBe, ih]

theorem ofBe_lt (bs : Octets) : ofBe bs < 256 ^ bs.length := by
  induction bs with
  | nil => simp [ofBe]
  | cons b bs ih =>
    have hb : b.toNat ≤ 255 := by have := b.isLt; omega
    have hm := Nat.mul_le_mul_right (256 ^ bs.length) hb
    simp only [ofBe, length_cons, Nat.pow_succ]
    omega

theorem ofBe_append (as bs : Octets) :
    ofBe (as ++ bs) = ofBe as * 256 ^ bs.length + ofBe bs := by
  induction as with
  | nil => simp [ofBe]
  | cons a as ih =>
    simp only [cons_append, ofBe, ih, length_append, Nat.pow_add]
    ring

theorem ofBe_replicate_zero (n : Nat) : ofBe (List.replicate n 0) = 0 := by
  induction n with
  | zero => rfl
  | succ n ih => rw [replicate_succ, ofBe, ih]; simp

/-- Reading `n` octets back gives the number modulo `256 ^ n`. -/
theorem ofBe_toBe (n x : Nat) : ofBe (toBe n x) = x % 256 ^ n := by
  induction n with
  | zero => simp [toBe, ofBe, Nat.mod_one]
  | succ n ih =>
    -- the top octet is the quotient by `256 ^ n`, taken modulo 256
    have hmod : x % 256 ^ (n + 1) = x % 256 ^ n + 256 ^ n * (x / 256 ^ n % 256) := by
      rw [Nat.pow_succ, Nat.mod_mul]
    simp only [toBe, ofBe, toBe_length, ih, BitVec.toNat_ofNat, hmod]
    ring

/-- Octets above the `n` written ones do not matter. -/
theorem toBe_mul_add (n k x : Nat) : toBe n (k * 256 ^ n + x) = toBe n x := by
  suffices h : ∀ m ≥ n, toBe n (k * 256 ^ m + x) = toBe n x from h n (Nat.le_refl n)
  induction n with
  | zero => intro m _; rfl
  | succ n ih =>
    intro m hm
    obtain ⟨d, rfl⟩ := Nat.exists_eq_add_of_lt hm
    have hpos : 0 < 256 ^ n := Nat.pow_pos (by decide)
    have hsplit : k * 256 ^ (n + d + 1) + x = x + k * 256 ^ d * 256 * 256 ^ n := by
      rw [Nat.pow_add, Nat.pow_add]; ring
    have hhead : (k * 256 ^ (n + d + 1) + x) / 256 ^ n = x / 256 ^ n + k * 256 ^ d * 256 := by
      rw [hsplit, Nat.add_mul_div_right _ _ hpos]
    simp only [toBe, hhead, ih (n + d + 1) (by omega)]
    congr 1
    apply BitVec.eq_of_toNat_eq
    simp

theorem toBe_ofBe (bs : Octets) : toBe bs.length (ofBe bs) = bs := by
  induction bs with
  | nil => rfl
  | cons b bs ih =>
    have hlt := ofBe_lt bs
    have hpos : 0 < 256 ^ bs.length := Nat.pow_pos (by decide)
    have hdiv : (b.toNat * 256 ^ bs.length + ofBe bs) / 256 ^ bs.length = b.toNat := by
      rw [Nat.add_comm, Nat.add_mul_div_right _ _ hpos, Nat.div_eq_of_lt hlt, Nat.zero_add]
    simp [toBe, ofBe, hdiv, toBe_mul_add, ih]

/-- The octets of a bit vector in network byte order. -/
def octets {w : Nat} (x : BitVec w) : Octets := toBe (w / 8) x.toNat

/-- The bit vector an octet string denotes. -/
def ofOctets (w : Nat) (bs : Octets) : BitVec w := BitVec.ofNat w (ofBe bs)

@[simp] theorem octets_length {w : Nat} (x : BitVec w) : (octets x).length = w / 8 :=
  toBe_length _ _

theorem octets_ne_nil {w : Nat} (x : BitVec w) (h : 0 < w / 8) : octets x ≠ [] := by
  rw [← length_pos_iff, octets_length]
  exact h

@[simp] theorem octets_u8 (x : BitVec 8) : octets x = [x] := by
  simp [octets, toBe]

/-- Elements in a row take the sum of their sizes. -/
theorem length_flatMap_of {α : Type} {enc : α → Octets} {len : α → Nat} {as : List α}
    (h : ∀ a ∈ as, (enc a).length = len a) : (as.flatMap enc).length = (as.map len).sum := by
  rw [length_flatMap, map_congr_left h]

theorem length_flatMap_const {α : Type} {enc : α → Octets} {k : Nat}
    (h : ∀ a, (enc a).length = k) (as : List α) : (as.flatMap enc).length = k * as.length := by
  rw [length_flatMap_of fun a _ => h a, map_const', sum_replicate_nat, Nat.mul_comm]

theorem ofOctets_octets {w : Nat} (h : w % 8 = 0) (x : BitVec w) :
    ofOctets w (octets x) = x := by
  have hpow : 256 ^ (w / 8) = 2 ^ w := by
    rw [show (256 : Nat) = 2 ^ 8 by rfl, ← Nat.pow_mul, Nat.mul_div_cancel' (Nat.dvd_of_mod_eq_zero h)]
  apply BitVec.eq_of_toNat_eq
  simp [ofOctets, octets, ofBe_toBe, hpow, Nat.mod_eq_of_lt x.isLt]

theorem octets_ofOctets {w : Nat} (h : w % 8 = 0) (bs : Octets) (hl : bs.length = w / 8) :
    octets (ofOctets w bs) = bs := by
  have hpow : 256 ^ bs.length = 2 ^ w := by
    rw [hl, show (256 : Nat) = 2 ^ 8 by rfl, ← Nat.pow_mul,
      Nat.mul_div_cancel' (Nat.dvd_of_mod_eq_zero h)]
  have hlt : ofBe bs < 2 ^ w := hpow ▸ ofBe_lt bs
  have hval : (ofOctets w bs).toNat = ofBe bs := by simp [ofOctets, Nat.mod_eq_of_lt hlt]
  rw [octets, hval, ← hl]
  exact toBe_ofBe bs

/-- The octets of a concatenation. -/
theorem octets_append {v w : Nat} (hv : v % 8 = 0) (hw : w % 8 = 0) (x : BitVec v)
    (y : BitVec w) : octets (x ++ y) = octets x ++ octets y := by
  have hsize : (v + w) / 8 = (octets x ++ octets y).length := by
    rw [length_append, octets_length, octets_length]
    omega
  have hpow : (256 : Nat) ^ (w / 8) = 2 ^ w := by
    rw [show (256 : Nat) = 2 ^ 8 by rfl, ← Nat.pow_mul,
      Nat.mul_div_cancel' (Nat.dvd_of_mod_eq_zero hw)]
  have hback : ∀ {u : Nat} (z : BitVec u), u % 8 = 0 → ofBe (octets z) = z.toNat := by
    intro u z hu
    have hz := congrArg BitVec.toNat (ofOctets_octets hu z)
    have hlt := ofBe_lt (octets z)
    rw [octets_length, show (256 : Nat) = 2 ^ 8 by rfl, ← Nat.pow_mul,
      Nat.mul_div_cancel' (Nat.dvd_of_mod_eq_zero hu)] at hlt
    rwa [ofOctets, BitVec.toNat_ofNat, Nat.mod_eq_of_lt hlt] at hz
  have hvalue : (x ++ y).toNat = ofBe (octets x ++ octets y) := by
    rw [ofBe_append, hback x hv, hback y hw, octets_length, hpow, BitVec.toNat_append,
      ← Nat.shiftLeft_add_eq_or_of_lt y.isLt, Nat.shiftLeft_eq]
  rw [octets, hvalue, hsize]
  exact toBe_ofBe _

/-- The leading octets of a number are the octets of a quotient. -/
theorem take_toBe (k d x : Nat) : (toBe (k + d) x).take k = toBe k (x / 256 ^ d) := by
  induction k with
  | zero => rfl
  | succ k ih =>
    have hdiv : x / 256 ^ (k + d) = x / 256 ^ d / 256 ^ k := by
      rw [Nat.div_div_eq_div_mul, ← Nat.pow_add, Nat.add_comm]
    rw [show k + 1 + d = k + d + 1 by omega]
    simp [toBe, ih, hdiv]

/-- The trailing octets of a number do not depend on the leading ones. -/
theorem drop_toBe (k d x : Nat) : (toBe (k + d) x).drop k = toBe d x := by
  induction k with
  | zero => rw [Nat.zero_add, drop_zero]
  | succ k ih => rw [show k + 1 + d = k + d + 1 by omega, toBe, drop_succ_cons, ih]

/-- A number whose low `d` octets are zero survives dropping them and padding
with zeros again. -/
theorem ofBe_take_pad (k d x : Nat) (hx : 256 ^ d ∣ x) (hlt : x < 256 ^ (k + d)) :
    ofBe ((toBe (k + d) x).take k ++ List.replicate d 0) = x := by
  have hq : x / 256 ^ d < 256 ^ k := by
    apply Nat.div_lt_of_lt_mul
    rwa [← Nat.pow_add, Nat.add_comm]
  rw [ofBe_append, ofBe_replicate_zero, length_replicate, take_toBe, ofBe_toBe,
    Nat.mod_eq_of_lt hq, Nat.add_zero, Nat.div_mul_cancel hx]

/-! ## Text -/

/-- The octets of a string in UTF-8. -/
def stringOctets (s : String) : Octets := s.toUTF8.data.toList.map UInt8.toBitVec

def stringFromOctets (bs : Octets) : Option String :=
  String.fromUTF8? ⟨(bs.map UInt8.ofBitVec).toArray⟩

theorem stringFromOctets_stringOctets (s : String) :
    stringFromOctets (stringOctets s) = some s := by
  have hbytes : (stringOctets s).map UInt8.ofBitVec = s.toUTF8.data.toList := by
    rw [stringOctets, map_map]
    exact map_id _
  rw [stringFromOctets, hbytes, Array.toArray_toList]
  exact dif_pos s.isValidUTF8

theorem stringOctets_of_stringFromOctets {bs : Octets} {s : String}
    (h : stringFromOctets bs = some s) : stringOctets s = bs := by
  unfold stringFromOctets String.fromUTF8? at h
  split at h
  · cases h
    show List.map UInt8.toBitVec (List.map UInt8.ofBitVec bs) = bs
    rw [map_map]
    exact map_id bs
  · cases h

/-! ## Enumerations by number -/

/-- The member of an enumeration whose number is `v`: the first of the `n`
members `ofNat 0`, `ofNat 1`, ... with that code. -/
def fromRepr {α : Type} {w : Nat} (n : Nat) (ofNat : Nat → α) (code : α → BitVec w)
    (v : BitVec w) : Option α :=
  ((List.range n).map ofNat).find? fun a => code a == v

theorem code_of_fromRepr {α : Type} {w n : Nat} {ofNat : Nat → α} {code : α → BitVec w}
    {v : BitVec w} {a : α} (h : fromRepr n ofNat code v = some a) : code a = v := by
  have := find?_some h
  simpa using this

end Wire
