import Mathlib.Data.List.Basic

/-!
Runs of a step that may fail, with a log of one entry for each step. A loop that leaves
early has run as far as its steps went.
-/

namespace PartialRuns

variable {σ α : Type*}

def run (next : σ → Option (α × σ)) : Nat → σ → Option (List α × σ)
  | 0, s => some ([], s)
  | n + 1, s =>
      (next s).bind fun turn => (run next n turn.2).map fun rest => (turn.1 :: rest.1, rest.2)

variable {next : σ → Option (α × σ)} {n k : Nat} {s s' : σ} {log : List α}

theorem run_cons {a : α} {s₁ : σ} (hnext : next s = some (a, s₁))
    (hrun : run next n s₁ = some (log, s')) :
    run next (n + 1) s = some (a :: log, s') := by
  rw [run, hnext, Option.bind_some, hrun, Option.map_some]

theorem of_run_succ (h : run next (n + 1) s = some (log, s')) :
    ∃ a s₁ rest, next s = some (a, s₁) ∧ run next n s₁ = some (rest, s') ∧
      log = a :: rest := by
  obtain ⟨⟨a, s₁⟩, hnext, h⟩ := Option.bind_eq_some_iff.mp h
  obtain ⟨⟨rest, s₂⟩, hrun, heq⟩ := Option.map_eq_some_iff.mp h
  cases heq
  exact ⟨a, s₁, rest, hnext, hrun, rfl⟩

theorem run_length (h : run next n s = some (log, s')) : log.length = n := by
  induction n generalizing s log with
  | zero =>
      cases h
      rfl
  | succ n ih =>
      obtain ⟨a, s₁, rest, -, hrun, rfl⟩ := of_run_succ h
      rw [List.length_cons, ih hrun]

/-- Every step of a run was reached by the steps before it. -/
theorem run_at (h : run next n s = some (log, s')) (hk : k < n) :
    ∃ s₁ a s₂, run next k s = some (log.take k, s₁) ∧ next s₁ = some (a, s₂) ∧
      log.take (k + 1) = log.take k ++ [a] := by
  induction k generalizing n s log with
  | zero =>
      obtain ⟨m, rfl⟩ := Nat.exists_eq_add_of_lt hk
      rw [Nat.zero_add] at h
      obtain ⟨a, s₁, rest, hnext, -, rfl⟩ := of_run_succ h
      exact ⟨s, a, s₁, rfl, hnext, rfl⟩
  | succ k ih =>
      obtain ⟨n, rfl⟩ : ∃ m, n = m + 1 := ⟨n - 1, by omega⟩
      obtain ⟨a, s₁, rest, hnext, hrun, rfl⟩ := of_run_succ h
      obtain ⟨s₂, b, s₃, hbefore, hstep, htake⟩ := ih hrun (by omega)
      refine ⟨s₂, b, s₃, run_cons hnext hbefore, hstep, ?_⟩
      rw [List.take_succ_cons, htake, List.take_succ_cons, List.cons_append]

theorem run_last (h : run next (n + 1) s = some (log, s')) :
    ∃ before s₁ a, run next n s = some (before, s₁) ∧ next s₁ = some (a, s') ∧
      log = before ++ [a] := by
  induction n generalizing s log with
  | zero =>
      obtain ⟨a, s₁, rest, hnext, hrun, rfl⟩ := of_run_succ h
      cases hrun
      exact ⟨[], s, a, rfl, hnext, rfl⟩
  | succ n ih =>
      obtain ⟨a, s₁, rest, hnext, hrun, rfl⟩ := of_run_succ h
      obtain ⟨before, s₂, b, hbefore, hstep, rfl⟩ := ih hrun
      exact ⟨a :: before, s₂, b, run_cons hnext hbefore, hstep, rfl⟩

end PartialRuns
