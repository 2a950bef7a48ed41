import Mathlib.Tactic.Common

/-!
# Interval timers

A timer that fires every period, measured from the instant of its last reset.
Time is a parameter of every operation;
instants and durations are numbers of nanoseconds. A tick is available at any instant from
the deadline on and moves the deadline on by one period, so late polls are
followed by a burst of ticks.

`Interval.QuietSince` is the invariant behind "nothing happened for a whole
period": it holds after a reset, ticks keep it, and while it holds no tick comes
before a period has gone by.
-/

namespace Timer

/-- A whole number of seconds, in nanoseconds. -/
def fromSecs (secs : Nat) : Nat := 1000000000 * secs

theorem fromSecs_pos {secs : Nat} (h : 0 < secs) : 0 < fromSecs secs :=
  Nat.mul_pos (by decide) h

@[simp] theorem fromSecs_eq_zero {secs : Nat} : fromSecs secs = 0 ↔ secs = 0 := by
  unfold fromSecs
  omega

/-- A timer with a positive period. -/
structure Interval where
  period : Nat
  deadline : Nat
  period_pos : 0 < period

namespace Interval

/-- A fresh timer: its first tick is due at once. -/
def new (now : Nat) (period : Nat) (h : 0 < period) : Interval := ⟨period, now, h⟩

variable (timer : Interval)

def reset (now : Nat) : Interval :=
  { timer with deadline := now + timer.period }

/-- The timer after its tick, if the tick is due. -/
def tick (now : Nat) : Option Interval :=
  if timer.deadline ≤ now then some { timer with deadline := timer.deadline + timer.period }
  else none

theorem tick_eq_some {timer next : Interval} {now : Nat} (h : timer.tick now = some next) :
    timer.deadline ≤ now ∧ next.period = timer.period ∧
      next.deadline = timer.deadline + timer.period := by
  unfold tick at h
  split at h
  · cases h
    exact ⟨‹_›, rfl, rfl⟩
  · cases h

/-- No tick is due before a whole period after `since`. -/
def QuietSince (since : Nat) : Prop := since + timer.period ≤ timer.deadline

theorem quietSince_reset (now : Nat) : (timer.reset now).QuietSince now :=
  Nat.le_refl _

theorem QuietSince.mono {timer : Interval} {since earlier : Nat} (h : timer.QuietSince since)
    (hle : earlier ≤ since) : timer.QuietSince earlier := by
  unfold QuietSince at *
  omega

theorem QuietSince.tick {timer next : Interval} {since now : Nat} (h : timer.QuietSince since)
    (htick : timer.tick now = some next) : next.QuietSince since := by
  obtain ⟨-, hperiod, hdeadline⟩ := tick_eq_some htick
  unfold QuietSince at *
  omega

theorem QuietSince.le_of_tick {timer next : Interval} {since now : Nat}
    (h : timer.QuietSince since) (htick : timer.tick now = some next) :
    since + timer.period ≤ now := by
  obtain ⟨hdue, -, -⟩ := tick_eq_some htick
  unfold QuietSince at h
  omega

end Interval

end Timer
