import Mathlib.Data.List.Basic

/-!
A cursor over a buffer and a count of the units that are left of it, moved separately.
A parser is described by its accesses: how far each reads from the cursor, how far it
moves the cursor and how much it takes off the count. When every access moves the cursor
by what it counts, one number says where both are.
-/

namespace CursorAccounts

structure Access where
  reads : Nat
  moves : Nat := 0
  counts : Nat := 0
  /-- The offset from the cursor and the length of a slice that is kept. -/
  keeps : Option (Nat × Nat) := none
deriving DecidableEq, Repr

variable {ε α : Type}

/-- An access, and those that follow unless the step fails. -/
def Access.andThen (a : Access) (step : Except ε α) (next : α → List Access) : List Access :=
  a :: match step with
    | .ok value => next value
    | .error _ => []

/-- Nothing is read behind the end and the count never falls below zero. -/
def stays (total : Nat) : Nat → Nat → List Access → Bool
  | _, _, [] => true
  | position, remaining, a :: accesses =>
      decide (position + a.reads ≤ total ∧ a.counts ≤ remaining) &&
        stays total (position + a.moves) (remaining - a.counts) accesses

def moved : List Access → Nat
  | [] => 0
  | a :: accesses => a.moves + moved accesses

def counted : List Access → Nat
  | [] => 0
  | a :: accesses => a.counts + counted accesses

/-- The last slice that is kept. -/
def kept : Nat → List Access → Option (Nat × Nat)
  | _, [] => none
  | position, a :: accesses =>
      match kept (position + a.moves) accesses with
      | some slice => some slice
      | none => a.keeps.map fun slice => (position + slice.1, slice.2)

/-- The slices that are read, as offset and length. -/
def readsFrom : Nat → List Access → List (Nat × Nat)
  | _, [] => []
  | position, a :: accesses => (position, a.reads) :: readsFrom (position + a.moves) accesses

/-- The slices end inside. -/
def Inside (limit : Nat) (slices : List (Nat × Nat)) : Prop :=
  ∀ slice ∈ slices, slice.1 + slice.2 ≤ limit

/-- Every access moves the cursor by the units it counts. -/
def InStep (size : Nat) (accesses : List Access) : Prop :=
  ∀ a ∈ accesses, a.moves = size * a.counts

/-- An access with the units left, of the given size. -/
structure Access.Fits (size remaining : Nat) (a : Access) : Prop where
  reads_le : a.reads ≤ size * remaining
  counts_le : a.counts ≤ remaining
  moves_eq : a.moves = size * a.counts

theorem fits_look {size remaining reads : Nat} :
    Access.Fits size remaining { reads } ↔ reads ≤ size * remaining :=
  ⟨fun h => h.reads_le, fun h => ⟨h, Nat.zero_le remaining, (Nat.mul_zero size).symm⟩⟩

/-- Every access fits what the accesses before it left. -/
def Fit (size : Nat) : Nat → List Access → Prop
  | _, [] => True
  | remaining, a :: accesses =>
      a.Fits size remaining ∧ Fit size (remaining - a.counts) accesses

variable {size position remaining total : Nat} {accesses : List Access}

/-- A parser that stays inside, in step, is one whose accesses fit. -/
theorem stays_inStep_iff (htotal : position + size * remaining = total) :
    (stays total position remaining accesses = true ∧ InStep size accesses) ↔
      Fit size remaining accesses := by
  induction accesses generalizing position remaining with
  | nil => simp [stays, InStep, Fit]
  | cons a accesses ih =>
      have hreads : position + a.reads ≤ total ↔ a.reads ≤ size * remaining := by omega
      have hrest : a.counts ≤ remaining → a.moves = size * a.counts →
          position + a.moves + size * (remaining - a.counts) = total := by
        intro hcounts hmoves
        rw [hmoves, Nat.add_assoc, ← Nat.mul_add, Nat.add_sub_cancel' hcounts]
        exact htotal
      simp only [stays, Bool.and_eq_true, decide_eq_true_eq, Fit, InStep, List.forall_mem_cons,
        hreads]
      constructor
      · rintro ⟨⟨⟨hread, hcounts⟩, hstays⟩, hmoves, hinStep⟩
        exact ⟨⟨hread, hcounts, hmoves⟩, (ih (hrest hcounts hmoves)).mp ⟨hstays, hinStep⟩⟩
      · rintro ⟨⟨hread, hcounts, hmoves⟩, hfit⟩
        obtain ⟨hstays, hinStep⟩ := (ih (hrest hcounts hmoves)).mpr hfit
        exact ⟨⟨⟨hread, hcounts⟩, hstays⟩, hmoves, hinStep⟩

theorem Fit.counted_le (h : Fit size remaining accesses) : counted accesses ≤ remaining := by
  induction accesses generalizing remaining with
  | nil => exact Nat.zero_le remaining
  | cons a accesses ih =>
      have hrest := ih h.2
      have hcounts := h.1.counts_le
      simp only [counted]
      omega

theorem Fit.moved_eq (h : Fit size remaining accesses) :
    moved accesses = size * counted accesses := by
  induction accesses generalizing remaining with
  | nil => rfl
  | cons a accesses ih =>
      simp only [moved, counted]
      rw [ih h.2, h.1.moves_eq, Nat.mul_add]

theorem Fit.kept_le (h : Fit size remaining accesses)
    (hkeeps : ∀ a ∈ accesses, ∀ slice, a.keeps = some slice → slice.1 + slice.2 ≤ a.moves)
    {slice : Nat × Nat} (hslice : kept position accesses = some slice) :
    slice.1 + slice.2 ≤ position + size * remaining := by
  induction accesses generalizing position remaining with
  | nil => cases hslice
  | cons a accesses ih =>
      have hmoves := h.1.moves_eq
      have hleft : size * a.counts + size * (remaining - a.counts) = size * remaining := by
        rw [← Nat.mul_add, Nat.add_sub_cancel' h.1.counts_le]
      simp only [kept] at hslice
      cases hlater : kept (position + a.moves) accesses with
      | some later =>
          simp only [hlater, Option.some.injEq] at hslice
          rw [hslice] at hlater
          have hinside := ih h.2 (fun b hb => hkeeps b (List.mem_cons_of_mem a hb)) hlater
          omega
      | none =>
          simp only [hlater, Option.map_eq_some_iff] at hslice
          obtain ⟨own, hown, rfl⟩ := hslice
          have hinside := hkeeps a List.mem_cons_self own hown
          dsimp only
          omega

section Ending

variable {β : Type} {a : Access} {step : Except ε α} {next : α → List Access}
  {rest : α → Except ε β} {Q : β → Prop}

/-- The accesses fit, and what is returned is as wanted. -/
def Ends (size remaining : Nat) (Q : β → Prop) (accesses : List Access)
    (result : Except ε β) : Prop :=
  Fit size remaining accesses ∧ ∀ value, result = .ok value → Q value

theorem inside_nil {limit : Nat} : Inside limit [] := List.forall_mem_nil _

theorem inside_cons {limit : Nat} {slice : Nat × Nat} {slices : List (Nat × Nat)} :
    Inside limit (slice :: slices) ↔ slice.1 + slice.2 ≤ limit ∧ Inside limit slices :=
  List.forall_mem_cons

theorem inside_append {limit : Nat} {slices slices' : List (Nat × Nat)} :
    Inside limit (slices ++ slices') ↔ Inside limit slices ∧ Inside limit slices' :=
  List.forall_mem_append

theorem inside_andThen {limit : Nat} :
    Inside limit (readsFrom position (a.andThen step next)) ↔
      position + a.reads ≤ limit ∧
        ∀ value, step = .ok value →
          Inside limit (readsFrom (position + a.moves) (next value)) := by
  cases step with
  | error failure => simp [Access.andThen, readsFrom, inside_cons, inside_nil]
  | ok value => simp [Access.andThen, readsFrom, inside_cons]

theorem fit_andThen : Fit size remaining (a.andThen step next) ↔
    a.Fits size remaining ∧
      ∀ value, step = .ok value → Fit size (remaining - a.counts) (next value) := by
  cases step with
  | error failure => simp [Access.andThen, Fit]
  | ok value => simp [Access.andThen, Fit]

/-- An access fits and so does all that follows a step that does not fail. -/
theorem ends_andThen : Ends size remaining Q (a.andThen step next) (step.bind rest) ↔
    a.Fits size remaining ∧
      ∀ value, step = .ok value →
        Ends size (remaining - a.counts) Q (next value) (rest value) := by
  cases step with
  | error failure => simp [Access.andThen, Ends, Fit, Except.bind]
  | ok value => simp [Access.andThen, Ends, Fit, Except.bind, and_assoc]

theorem bind_ok {value : β} (h : step.bind rest = .ok value) :
    ∃ first, step = .ok first ∧ rest first = .ok value := by
  cases step with
  | error failure => cases h
  | ok first => exact ⟨first, rfl, h⟩

theorem of_ok {accepts : Prop} {R : α → Prop}
    (hok : accepts → ∃ value, step = .ok value ∧ R value)
    (herror : ¬accepts → ∃ failure, step = .error failure) {value : α}
    (h : step = .ok value) : R value := by
  by_cases haccepts : accepts
  · obtain ⟨value₁, hstep, hR⟩ := hok haccepts
    cases h.symm.trans hstep
    exact hR
  · obtain ⟨failure, hstep⟩ := herror haccepts
    cases h.symm.trans hstep

theorem forall_ok_iff {accepts C : Prop} {R P : α → Prop}
    (hok : accepts → ∃ value, step = .ok value ∧ R value)
    (herror : ¬accepts → ∃ failure, step = .error failure)
    (hP : accepts → ∀ value, R value → (P value ↔ C)) :
    (∀ value, step = .ok value → P value) ↔ (accepts → C) := by
  by_cases haccepts : accepts
  · obtain ⟨value, hstep, hR⟩ := hok haccepts
    simp only [hstep, Except.ok.injEq, forall_eq', haccepts, forall_const]
    exact hP haccepts value hR
  · obtain ⟨failure, hstep⟩ := herror haccepts
    simp [hstep, haccepts]

end Ending

end CursorAccounts
