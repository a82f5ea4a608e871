import Mathlib.Logic.Relation

/-!
Runs of a machine whose steps are labelled and may fail. `Reaches allowed` only
takes the steps that a condition on the label and the state before the step
admits; the invariant rule is the induction over such runs.
-/

namespace Runs

variable {σ κ ε : Type*} (step : κ → σ → Except ε σ)

inductive Reaches (allowed : κ → σ → Prop) (start : σ) : σ → Prop
  | refl : Reaches allowed start start
  | tail {s s' : σ} {label : κ} (before : Reaches allowed start s)
      (admitted : allowed label s) (taken : step label s = .ok s') :
      Reaches allowed start s'

variable {step} {allowed : κ → σ → Prop} {start s : σ}

theorem Reaches.invariant (P : σ → Prop) (hstart : P start)
    (hstep : ∀ label s s', P s → allowed label s → step label s = .ok s' → P s')
    (h : Reaches step allowed start s) : P s := by
  induction h with
  | refl => exact hstart
  | tail _ admitted taken ih => exact hstep _ _ _ ih admitted taken

theorem Reaches.mono {allowed' : κ → σ → Prop}
    (hmono : ∀ label s, allowed label s → allowed' label s)
    (h : Reaches step allowed start s) : Reaches step allowed' start s := by
  induction h with
  | refl => exact .refl
  | tail _ admitted taken ih => exact .tail ih (hmono _ _ admitted) taken

/-- A run given by its labels. -/
def runLabels (step : κ → σ → Except ε σ) : List κ → σ → Except ε σ
  | [], s => .ok s
  | label :: labels, s =>
      match step label s with
      | .error e => .error e
      | .ok s' => runLabels step labels s'

theorem Reaches.trans {middle : σ} (h : Reaches step allowed start middle)
    (h' : Reaches step allowed middle s) : Reaches step allowed start s := by
  induction h' with
  | refl => exact h
  | tail _ admitted taken ih => exact .tail ih admitted taken

theorem reaches_of_runLabels_forall {admits : κ → Prop} {labels : List κ} {s' : σ}
    (hadmits : ∀ label ∈ labels, admits label) (h : runLabels step labels s = .ok s') :
    Reaches step (fun label _ => admits label) s s' := by
  induction labels generalizing s with
  | nil =>
      simp only [runLabels, Except.ok.injEq] at h
      exact h ▸ .refl
  | cons label labels ih =>
      simp only [runLabels] at h
      cases hs : step label s with
      | error e => simp [hs] at h
      | ok t =>
          simp only [hs] at h
          exact Reaches.trans (.tail .refl (hadmits label List.mem_cons_self) hs)
            (ih (fun label hlabel => hadmits label (List.mem_cons_of_mem _ hlabel)) h)

theorem reaches_of_runLabels {labels : List κ} {s' : σ}
    (h : runLabels step labels s = .ok s') :
    Reaches step (fun _ _ => True) s s' :=
  reaches_of_runLabels_forall (fun _ _ => trivial) h

/-- The machine that refuses the steps that a check rejects. -/
def guarded (step : κ → σ → Except ε σ) (check : κ → σ → Bool) (refusal : ε) (label : κ)
    (s : σ) : Except ε σ :=
  if check label s then step label s else .error refusal

theorem Reaches.of_guarded {check : κ → σ → Bool} {refusal : ε}
    (h : Reaches (guarded step check refusal) allowed start s) :
    Reaches step (fun label s => check label s = true) start s := by
  induction h with
  | refl => exact .refl
  | tail _ admitted taken ih =>
      rw [guarded] at taken
      split at taken
      · rename_i hcheck
        exact .tail ih hcheck taken
      · cases taken

/-- The labels can be taken, each passes the check, and the run ends in a state with
the property. -/
def accepts (step : κ → σ → Except ε σ) (check : κ → σ → Bool) (refusal : ε) (labels : List κ)
    (start : σ) (p : σ → Bool) : Bool :=
  match runLabels (guarded step check refusal) labels start with
  | .error _ => false
  | .ok s => p s

theorem reaches_of_accepts (step : κ → σ → Except ε σ) (check : κ → σ → Bool) (refusal : ε)
    (labels : List κ) (start : σ) (p : σ → Bool)
    (h : accepts step check refusal labels start p = true) :
    ∃ s, Reaches step (fun label s => check label s = true) start s ∧ p s = true := by
  rw [accepts] at h
  cases hrun : runLabels (guarded step check refusal) labels start with
  | error e =>
      rw [hrun] at h
      cases h
  | ok s =>
      rw [hrun] at h
      exact ⟨s, (reaches_of_runLabels hrun).of_guarded, h⟩

/-- The machine with a variable that watches it and is never read. -/
def watched {τ : Type*} (step : κ → σ → Except ε σ) (note : σ → σ → τ → τ) (label : κ)
    (s : σ × τ) : Except ε (σ × τ) :=
  match step label s.1 with
  | .error e => .error e
  | .ok s' => .ok (s', note s.1 s' s.2)

theorem watched_eq_ok {τ : Type*} {note : σ → σ → τ → τ} {label : κ} {s s' : σ × τ}
    (h : watched step note label s = .ok s') :
    step label s.1 = .ok s'.1 ∧ s'.2 = note s.1 s'.1 s.2 := by
  rw [watched] at h
  split at h
  · cases h
  · rename_i t ht
    cases h
    exact ⟨ht, rfl⟩

/-- Watching refuses no step. -/
theorem Reaches.watched {τ : Type*} (note : σ → σ → τ → τ) (t : τ)
    (h : Reaches step allowed start s) :
    ∃ t', Reaches (watched step note) (fun label s => allowed label s.1) (start, t) (s, t') := by
  induction h with
  | refl => exact ⟨t, .refl⟩
  | @tail s s' label before admitted taken ih =>
      obtain ⟨t', hreaches⟩ := ih
      refine ⟨note s s' t', .tail hreaches admitted ?_⟩
      simp only [Runs.watched, taken]

end Runs
