import Mathlib.Data.Int.Log
import Mathlib.Data.Rat.Floor
import Mathlib.Tactic.Linarith
import Mathlib.Tactic.Positivity
import Mathlib.Tactic.FieldSimp

/-!
# Rounding to a fixed number of significant bits

`roundTo p x` is the number with `p` significant bits nearest to `x`, ties going
to the even one, as a binary floating-point format of precision `p` computes it
while the exponent stays in range. `abs_roundTo_sub_le` bounds the relative
error by `2 ^ (-p)`.
-/

namespace Number

/-- The nearest integer, the even one of two that are equally near. -/
def roundHalfEven (x : ℚ) : ℤ :=
  let below := ⌊x⌋
  if x - below < 1 / 2 then below
  else if 1 / 2 < x - below then below + 1
  else if below % 2 = 0 then below else below + 1

variable (p : ℕ)

/-- The exponent that gives `x` a mantissa of `p` bits. -/
def exponent (x : ℚ) : ℤ := Int.log 2 x - (p - 1)

def roundTo (x : ℚ) : ℚ :=
  if x ≤ 0 then 0 else roundHalfEven (x / 2 ^ exponent p x) * 2 ^ exponent p x

theorem abs_roundHalfEven_sub_le (x : ℚ) : |(roundHalfEven x : ℚ) - x| ≤ 1 / 2 := by
  have hle : (⌊x⌋ : ℚ) ≤ x := Int.floor_le x
  have hlt : x < ⌊x⌋ + 1 := Int.lt_floor_add_one x
  rw [abs_le]
  unfold roundHalfEven
  dsimp only
  split_ifs <;> push_cast <;> constructor <;> linarith

/-- One unit in the last place is at most `2 ^ (1 - p)` of the number. -/
theorem two_zpow_exponent_le {p : ℕ} {x : ℚ} (hx : 0 < x) :
    (2 : ℚ) ^ exponent p x * 2 ^ p ≤ 2 * x := by
  have hlog : (2 : ℚ) ^ Int.log 2 x ≤ x := by exact_mod_cast Int.zpow_log_le_self (by decide) hx
  have hsplit : (2 : ℚ) ^ exponent p x * 2 ^ p = 2 * 2 ^ Int.log 2 x := by
    rw [exponent, ← zpow_natCast (2 : ℚ) p, ← zpow_add₀ two_ne_zero, mul_comm (2 : ℚ),
      ← zpow_add_one₀ two_ne_zero]
    congr 1
    ring
  linarith

theorem abs_roundTo_sub_le {x : ℚ} (hx : 0 ≤ x) : |roundTo p x - x| * 2 ^ p ≤ x := by
  rcases hx.eq_or_lt with rfl | hpos
  · simp [roundTo]
  · have hunit : (0 : ℚ) < 2 ^ exponent p x := zpow_pos two_pos _
    have hround := abs_roundHalfEven_sub_le (x / 2 ^ exponent p x)
    have herror : roundTo p x - x
        = (roundHalfEven (x / 2 ^ exponent p x) - x / 2 ^ exponent p x) * 2 ^ exponent p x := by
      rw [roundTo, if_neg (not_le.mpr hpos), sub_mul, div_mul_cancel₀ _ hunit.ne']
    have hulp := two_zpow_exponent_le (p := p) hpos
    calc |roundTo p x - x| * 2 ^ p
        = |roundHalfEven (x / 2 ^ exponent p x) - x / 2 ^ exponent p x|
            * (2 ^ exponent p x * 2 ^ p) := by
          rw [herror, abs_mul, abs_of_pos hunit, mul_assoc]
      _ ≤ 1 / 2 * (2 ^ exponent p x * 2 ^ p) := by gcongr
      _ ≤ x := by linarith

theorem roundTo_le {x : ℚ} (hx : 0 ≤ x) : roundTo p x ≤ x + x / 2 ^ p := by
  have hpow : (0 : ℚ) < 2 ^ p := by positivity
  have herror := (le_div_iff₀ hpow).mpr (abs_roundTo_sub_le p hx)
  have hself := le_abs_self (roundTo p x - x)
  linarith

theorem le_roundTo {x : ℚ} (hx : 0 ≤ x) : x - x / 2 ^ p ≤ roundTo p x := by
  have hpow : (0 : ℚ) < 2 ^ p := by positivity
  have herror := (le_div_iff₀ hpow).mpr (abs_roundTo_sub_le p hx)
  have hself := neg_abs_le (roundTo p x - x)
  linarith

end Number
