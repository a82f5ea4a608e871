import Mathlib.Algebra.BigOperators.Group.List.Basic
import Mathlib.Algebra.GroupWithZero.Nat

/-!
A timer that counts down in ticks of any length. It fires when a tick reaches it and is
then set forward by its period, but never below zero. `Drift` relates the shots to the time
that has passed, `Rested` keeps two shots apart.
-/

namespace Countdown

/-- The shots of one tick. -/
def shots (timer elapsed : Nat) : Nat := if timer ≤ elapsed then 1 else 0

/-- The timer after a tick. -/
def after (period timer elapsed : Nat) : Nat :=
  if timer ≤ elapsed then timer + period - elapsed else timer - elapsed

variable {period timer elapsed count : Nat} {ticks : List Nat}

theorem after_le (h : timer ≤ period) : after period timer elapsed ≤ period := by
  rw [after]
  split
  · omega
  · omega

theorem after_pos (h : elapsed < period) : 0 < after period timer elapsed := by
  rw [after]
  split
  · omega
  · omega

theorem shots_mul_le (period timer elapsed : Nat) :
    shots timer elapsed * period + timer ≤ after period timer elapsed + elapsed := by
  rw [shots, after]
  split
  · omega
  · omega

theorem shots_mul_eq (timer : Nat) (h : elapsed < period) :
    shots timer elapsed * period + timer = after period timer elapsed + elapsed := by
  rw [shots, after]
  split
  · omega
  · omega

/-- The shots of a timer that has started at zero, in ticks of these lengths. -/
structure Drift (period : Nat) (ticks : List Nat) (count timer : Nat) : Prop where
  bound : timer ≤ period
  lead : count * period ≤ timer + ticks.sum
  exact : (∀ elapsed ∈ ticks, elapsed < period) →
    count * period = timer + ticks.sum ∧ (ticks ≠ [] → 0 < timer)

namespace Drift

theorem start (period : Nat) : Drift period [] 0 0 :=
  ⟨Nat.zero_le _, by simp, fun _ => ⟨by simp, fun hne => absurd rfl hne⟩⟩

theorem tick (h : Drift period ticks count timer) (elapsed : Nat) :
    Drift period (ticks ++ [elapsed]) (count + shots timer elapsed)
      (after period timer elapsed) := by
  have hsum : (ticks ++ [elapsed]).sum = ticks.sum + elapsed := by simp
  refine ⟨after_le h.bound, ?_, fun hshort => ?_⟩
  · have hlead := h.lead
    have hshots := shots_mul_le period timer elapsed
    rw [hsum, Nat.add_mul]
    omega
  · have hlast := hshort elapsed (List.mem_append_right ticks (List.mem_singleton_self _))
    obtain ⟨hexact, -⟩ := h.exact fun e he => hshort e (List.mem_append_left _ he)
    refine ⟨?_, fun _ => after_pos hlast⟩
    have hshots := shots_mul_eq timer hlast
    rw [hsum, Nat.add_mul]
    omega

/-- The timer is never more than one shot ahead of its rate. -/
theorem count_le (h : Drift period ticks count timer) (hperiod : 0 < period) :
    count ≤ ticks.sum / period + 1 := by
  rw [← Nat.add_div_right _ hperiod, Nat.le_div_iff_mul_le hperiod]
  have hlead := h.lead
  have hbound := h.bound
  omega

/-- In ticks that are shorter than the period it is just one shot ahead. -/
theorem count_eq (h : Drift period ticks count timer) (hperiod : 0 < period)
    (hne : ticks ≠ []) (hshort : ∀ elapsed ∈ ticks, elapsed < period) :
    count = ticks.sum / period + 1 := by
  obtain ⟨hexact, hpos⟩ := h.exact hshort
  have htimer := hpos hne
  have hbound := h.bound
  refine Nat.le_antisymm (h.count_le hperiod) ?_
  rw [Nat.succ_le_iff, Nat.div_lt_iff_lt_mul hperiod]
  omega

end Drift

/-- The time since the last shot, if there was one, and what is left of the timer make up
the spacing. -/
def Rested (spacing timer : Nat) (since : Option Nat) : Prop :=
  ∀ passed, since = some passed → spacing ≤ passed + timer

namespace Rested

variable {spacing : Nat} {since : Option Nat}

theorem wait (h : Rested spacing timer since) (elapsed : Nat) :
    Rested spacing (timer - elapsed) (since.map (· + elapsed)) := by
  intro passed hpassed
  obtain ⟨before, rfl, rfl⟩ := Option.map_eq_some_iff.mp hpassed
  have hbefore := h before rfl
  omega

theorem idle (h : Rested spacing timer since) (elapsed : Nat) :
    Rested spacing timer (since.map (· + elapsed)) := by
  intro passed hpassed
  obtain ⟨before, rfl, rfl⟩ := Option.map_eq_some_iff.mp hpassed
  have hbefore := h before rfl
  omega

/-- A timer that is set to the spacing may be as far as it likes. -/
theorem retrigger (since : Option Nat) : Rested spacing spacing since :=
  fun _ _ => Nat.le_add_left _ _

theorem fire (h : spacing ≤ timer) : Rested spacing timer (some 0) := by
  intro passed hpassed
  cases hpassed
  omega

theorem gap (h : Rested spacing timer since) (hfires : timer ≤ elapsed) :
    ∀ passed ∈ since.map (· + elapsed), spacing ≤ passed := by
  intro passed hpassed
  obtain ⟨before, rfl, rfl⟩ := Option.map_eq_some_iff.mp (Option.mem_def.mp hpassed)
  have hbefore := h before rfl
  omega

end Rested

end Countdown
