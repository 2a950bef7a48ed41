import NetCalyx.Flow.Element
import NetCalyx.Number.Rounding

/-!
# Values of fields

The values that the generated field types carry: members of a sub-registry, TCP
flags, points in time, and the fractions of a second that stand for them on the
wire.

Points in time come from a library. `Chrono` has the operations the codec uses,
`LawfulChrono` what is documented of them.
-/

namespace NetCalyx.Flow
open Wire

/-! ## Sub-registries -/

/-- A named number, or any number. Nothing keeps a named number out of
`unassigned`. -/
inductive EnumValue (values : List (BitVec 8)) (w : Nat) where
  | named (i : Fin values.length)
  | unassigned (x : BitVec w)

namespace EnumValue

variable {values : List (BitVec 8)} {w : Nat}

def toNum : EnumValue values w → BitVec w
  | named i => (values.get i).setWidth w
  | unassigned x => x

/-- The first member with that number. -/
def ofNum (x : BitVec w) : EnumValue values w :=
  match (List.finRange values.length).find? fun i => (values.get i).setWidth w == x with
  | some i => .named i
  | none => .unassigned x

end EnumValue

/-- A member of a nested registry has a reason. -/
inductive NestedValue (reasons : List (List (BitVec 8))) (w : Nat) where
  | named (i : Fin reasons.length) (reason : EnumValue (reasons.get i) w)
  | unassigned (x : BitVec w)

namespace NestedValue

variable {reasons : List (List (BitVec 8))} {w : Nat}

def toNum : NestedValue reasons w → BitVec w
  | named _ reason => reason.toNum
  | unassigned x => x

def ofNum (x : BitVec w) : NestedValue reasons w :=
  if h : x.toNat / 64 < reasons.length then .named ⟨x.toNat / 64, h⟩ (.ofNum x)
  else .unassigned x

end NestedValue

/-- The values of an unsigned number of `w` bits with or without a sub-registry. -/
def UintValue (w : Nat) : Option SubRegistry → Type
  | none => BitVec w
  | some (.valueNameDesc values) => EnumValue values w
  | some (.reasonCodeNested reasons) => NestedValue reasons w

namespace UintValue

variable {w : Nat}

def toNum : {registry : Option SubRegistry} → UintValue w registry → BitVec w
  | none, x => x
  | some (.valueNameDesc _), v => EnumValue.toNum v
  | some (.reasonCodeNested _), v => NestedValue.toNum v

def ofNum : (registry : Option SubRegistry) → BitVec w → UintValue w registry
  | none, x => x
  | some (.valueNameDesc _), x => EnumValue.ofNum x
  | some (.reasonCodeNested _), x => NestedValue.ofNum x

/-- The value is the one its number stands for. -/
def Canonical {registry : Option SubRegistry} (v : UintValue w registry) : Prop :=
  ofNum registry v.toNum = v

end UintValue

/-! ## TCP flags -/

structure TcpHeaderFlags where
  fin : Bool
  syn : Bool
  rst : Bool
  psh : Bool
  ack : Bool
  urg : Bool
  ece : Bool
  cwr : Bool
  deriving DecidableEq, Repr

namespace TcpHeaderFlags

def ofU8 (value : BitVec 8) : TcpHeaderFlags where
  fin := value &&& 0x01 != 0
  syn := value &&& 0x02 != 0
  rst := value &&& 0x04 != 0
  psh := value &&& 0x08 != 0
  ack := value &&& 0x10 != 0
  urg := value &&& 0x20 != 0
  ece := value &&& 0x40 != 0
  cwr := value &&& 0x80 != 0

variable (flags : TcpHeaderFlags)

def toU8 : BitVec 8 :=
  (if flags.fin then 0x01 else 0) ||| (if flags.syn then 0x02 else 0) |||
  (if flags.rst then 0x04 else 0) ||| (if flags.psh then 0x08 else 0) |||
  (if flags.ack then 0x10 else 0) ||| (if flags.urg then 0x20 else 0) |||
  (if flags.ece then 0x40 else 0) ||| (if flags.cwr then 0x80 else 0)

/-- The flags are the low octet of the number. -/
def ofU16 (value : BitVec 16) : TcpHeaderFlags := ofU8 (value.setWidth 8)

def toU16 : BitVec 16 := flags.toU8.setWidth 16

theorem ofU8_toU8 : ofU8 flags.toU8 = flags := by
  obtain ⟨fin, syn, rst, psh, ack, urg, ece, cwr⟩ := flags
  revert fin syn rst psh ack urg ece cwr
  decide

theorem ofU16_toU16 : ofU16 flags.toU16 = flags := by
  rw [ofU16, toU16, BitVec.setWidth_setWidth_of_le _ (by decide), BitVec.setWidth_eq, ofU8_toU8]

end TcpHeaderFlags

/-! ## Points in time -/

/-- The operations on points in time that the codec uses. -/
class Chrono (DateTime : Type) where
  timestamp : DateTime → Int
  timestampSubsecNanos : DateTime → Nat
  timestampMillis : DateTime → Int
  timestampOpt : Int → Nat → Option DateTime
  timestampMillisOpt : Int → Option DateTime

export Chrono (timestamp timestampSubsecNanos timestampMillis timestampOpt timestampMillisOpt)

/-- A point in time is given by its seconds and nanoseconds; those of the first
`2 ^ 32` seconds exist. A leap second is written as more than `10 ^ 9`
nanoseconds. -/
class LawfulChrono (DateTime : Type) [Chrono DateTime] : Prop where
  ext {t u : DateTime} (hsecs : timestamp t = timestamp u)
    (hnanos : timestampSubsecNanos t = timestampSubsecNanos u) : t = u
  of_timestampOpt {secs : Int} {nanos : Nat} {t : DateTime} (h : timestampOpt secs nanos = some t) :
    timestamp t = secs ∧ timestampSubsecNanos t = nanos
  timestampOpt_self {t : DateTime} (h : timestampSubsecNanos t < 10 ^ 9) :
    timestampOpt (timestamp t) (timestampSubsecNanos t) = some t
  timestampOpt_isSome {secs nanos : Nat} (hsecs : secs < 2 ^ 32) (hnanos : nanos < 10 ^ 9) :
    (timestampOpt secs nanos : Option DateTime).isSome
  timestampSubsecNanos_lt (t : DateTime) : timestampSubsecNanos t < 2 * 10 ^ 9
  timestampMillis_eq (t : DateTime) :
    timestampMillis t = timestamp t * 1000 + (timestampSubsecNanos t / 10 ^ 6 : Nat)
  timestampMillis_bounds (t : DateTime) :
    -(2 ^ 63) ≤ timestampMillis t ∧ timestampMillis t < 2 ^ 63
  timestampMillisOpt_eq (millis : Int) : (timestampMillisOpt millis : Option DateTime) =
    timestampOpt (millis / 1000) ((millis % 1000).toNat * 10 ^ 6)

/-- Points in time without leap seconds, in a range around the epoch. -/
structure UtcTime where
  secs : Int
  nanos : Nat
  secs_ge : -(2 ^ 50) ≤ secs
  secs_lt : secs < 2 ^ 50
  nanos_lt : nanos < 10 ^ 9

def UtcTime.ofParts (secs : Int) (nanos : Nat) : Option UtcTime :=
  if h : (-(2 ^ 50) ≤ secs ∧ secs < 2 ^ 50) ∧ nanos < 10 ^ 9 then
    some ⟨secs, nanos, h.1.1, h.1.2, h.2⟩
  else none

instance : Chrono UtcTime where
  timestamp := UtcTime.secs
  timestampSubsecNanos := UtcTime.nanos
  timestampMillis t := t.secs * 1000 + (t.nanos / 10 ^ 6 : Nat)
  timestampOpt := UtcTime.ofParts
  timestampMillisOpt millis := UtcTime.ofParts (millis / 1000) ((millis % 1000).toNat * 10 ^ 6)

instance : LawfulChrono UtcTime where
  ext {t u} hsecs hnanos := by
    cases t
    cases u
    cases hsecs
    cases hnanos
    rfl
  of_timestampOpt {secs nanos t} h := by
    simp only [timestampOpt, UtcTime.ofParts] at h
    split at h <;> cases h
    exact ⟨rfl, rfl⟩
  timestampOpt_self {t} _ := dif_pos ⟨⟨t.secs_ge, t.secs_lt⟩, t.nanos_lt⟩
  timestampOpt_isSome {secs nanos} hsecs hnanos := by
    simp only [timestampOpt, UtcTime.ofParts]
    rw [dif_pos ⟨by omega, hnanos⟩]
    rfl
  timestampSubsecNanos_lt t := by
    have := t.nanos_lt
    simp only [timestampSubsecNanos]
    omega
  timestampMillis_eq _ := rfl
  timestampMillis_bounds t := by
    have := t.nanos_lt
    have := t.secs_ge
    have := t.secs_lt
    simp only [timestampMillis]
    omega
  timestampMillisOpt_eq _ := rfl

/-- The number of `1 / (2 ^ 32 - 1)` seconds written for some nanoseconds. -/
def fractionOfNanos (nanos : Nat) : BitVec 32 :=
  BitVec.ofNat 32 (nanos * (2 ^ 32 - 1) / 1000000000)

/-- The nanoseconds read from a fraction: both the division and the
multiplication are those of 64-bit floating point numbers. -/
def nanosOfFraction (fraction : BitVec 32) : Nat :=
  let ratio := Number.roundTo 53 ((fraction.toNat : ℚ) / (2 ^ 32 - 1))
  min ⌊Number.roundTo 53 (1000000000 * ratio)⌋₊ (2 ^ 32 - 1)

/-- Two roundings move the nanoseconds by far less than one, the truncation of
the fraction by less than a quarter. -/
theorem nanosOfFraction_fractionOfNanos {n : Nat} (hnanos : n < 10 ^ 9) :
    nanosOfFraction (fractionOfNanos n) = n ∨ nanosOfFraction (fractionOfNanos n) + 1 = n := by
  have hn : n < 1000000000 := by omega
  have hf : (fractionOfNanos n).toNat = n * (2 ^ 32 - 1) / 1000000000 := by
    rw [fractionOfNanos, BitVec.toNat_ofNat]
    omega
  have hlow : n * 4294967295 < ((fractionOfNanos n).toNat + 1) * 1000000000 := by omega
  have hhigh : (fractionOfNanos n).toNat * 1000000000 ≤ n * 4294967295 := by omega
  have hlow' : (n : ℚ) * 4294967295 < ((fractionOfNanos n).toNat + 1) * 1000000000 := by
    exact_mod_cast hlow
  have hhigh' : ((fractionOfNanos n).toNat : ℚ) * 1000000000 ≤ n * 4294967295 := by
    exact_mod_cast hhigh
  have hn' : (n : ℚ) ≤ 1000000000 := by exact_mod_cast hn.le
  have hn0 : (0 : ℚ) ≤ n := Nat.cast_nonneg n
  unfold nanosOfFraction
  dsimp only
  set q : ℚ := ((fractionOfNanos n).toNat : ℚ) / (2 ^ 32 - 1) with hq
  have hq0 : 0 ≤ q := div_nonneg (Nat.cast_nonneg _) (by norm_num)
  have hqf : q * (2 ^ 32 - 1) = (fractionOfNanos n).toNat := div_mul_cancel₀ _ (by norm_num)
  have hratio := Number.roundTo_le 53 hq0
  have hratio' := Number.le_roundTo 53 hq0
  set ratio := Number.roundTo 53 q
  have hratio0 : 0 ≤ 1000000000 * ratio := by linarith
  have hvalue := Number.roundTo_le 53 hratio0
  have hvalue' := Number.le_roundTo 53 hratio0
  set value := Number.roundTo 53 (1000000000 * ratio)
  have hvalue0 : 0 ≤ value := by linarith
  have habove : value < (n + 1 : Nat) := by push_cast; linarith
  have hfloor : ⌊value⌋₊ < n + 1 := (Nat.floor_lt hvalue0).mpr habove
  have hbelow : n ≤ ⌊value⌋₊ + 1 := by
    have hlt := Nat.lt_floor_add_one value
    have hcast : (n : ℚ) < (⌊value⌋₊ + 2 : Nat) := by push_cast; linarith
    have : n < ⌊value⌋₊ + 2 := by exact_mod_cast hcast
    omega
  omega

end NetCalyx.Flow
