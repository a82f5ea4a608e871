import Mathlib.Data.List.Induction
import Mathlib.Data.List.Sort

/-!
Left-to-right maxima of a log. An entry says whether the item was taken; a reader
that remembers the last item it took, and takes what is higher, takes exactly the
items above everything before them, and what it takes goes up. A reader that judges
each entry by the one before it is the simpler case at the end.
-/

namespace Records

variable {α : Type*} (key : α → Nat)

/-- The entries say whether an item is above everything before it. -/
def Marked (log : List (α × Bool)) : Prop :=
  ∀ before a taken after, log = before ++ (a, taken) :: after →
    (taken = true ↔ ∀ b ∈ before, key b.1 < key a)

/-- What a reader takes that remembers the last item it took. -/
def takes (last : Option α) (a : α) : Bool :=
  match last with
  | none => true
  | some b => key b < key a

/-- The last item that was taken is the highest of the log. -/
structure Tracks (log : List (α × Bool)) (last : Option α) : Prop where
  marked : Marked key log
  empty : last = none → log = []
  highest : ∀ a, last = some a → (∃ taken, (a, taken) ∈ log) ∧ ∀ b ∈ log, key b.1 ≤ key a

variable {key}

theorem tracks_nil : Tracks key [] none := by
  refine ⟨?_, fun _ => rfl, nofun⟩
  intro before a taken after h
  exact absurd h (by simp)

theorem Marked.init {log : List (α × Bool)} {entry : α × Bool}
    (h : Marked key (log ++ [entry])) : Marked key log := by
  intro before a taken after hlog
  refine h before a taken (after ++ [entry]) ?_
  rw [hlog, List.append_assoc, List.cons_append]

theorem Marked.append {log : List (α × Bool)} (h : Marked key log) {a : α} {taken : Bool}
    (htaken : taken = true ↔ ∀ b ∈ log, key b.1 < key a) :
    Marked key (log ++ [(a, taken)]) := by
  intro before b marked after hlog
  cases after using List.reverseRecOn with
  | nil =>
      obtain ⟨rfl, hentry⟩ := List.append_inj' hlog rfl
      cases hentry
      exact htaken
  | append_singleton after last =>
      rw [← List.cons_append, ← List.append_assoc] at hlog
      obtain ⟨hlog, -⟩ := List.append_inj' hlog rfl
      exact h before b marked after hlog

theorem Tracks.takes_iff {log : List (α × Bool)} {last : Option α} (h : Tracks key log last)
    (a : α) : takes key last a = true ↔ ∀ b ∈ log, key b.1 < key a := by
  cases last with
  | none => simp [takes, h.empty rfl]
  | some c =>
      obtain ⟨⟨taken, hmem⟩, hhighest⟩ := h.highest c rfl
      simp only [takes, decide_eq_true_eq]
      constructor
      · intro hlt b hb
        have hle := hhighest b hb
        omega
      · intro hall
        exact hall _ hmem

theorem Tracks.append {log : List (α × Bool)} {last : Option α} (h : Tracks key log last)
    (a : α) :
    Tracks key (log ++ [(a, takes key last a)]) (if takes key last a then some a else last) := by
  have hiff := h.takes_iff a
  refine ⟨h.marked.append hiff, ?_, ?_⟩
  · intro hnone
    cases last with
    | none => simp [takes] at hnone
    | some c =>
        split at hnone
        · cases hnone
        · cases hnone
  · intro c hc
    split at hc
    · rename_i htakes
      cases hc
      refine ⟨⟨takes key last a, by simp⟩, ?_⟩
      intro b hb
      rcases List.mem_append.mp hb with hb | hb
      · exact Nat.le_of_lt (hiff.mp htakes b hb)
      · cases List.mem_singleton.mp hb
        exact Nat.le_refl _
    · rename_i htakes
      subst hc
      obtain ⟨⟨taken, hmem⟩, hhighest⟩ := h.highest c rfl
      refine ⟨⟨taken, List.mem_append_left _ hmem⟩, ?_⟩
      intro b hb
      rcases List.mem_append.mp hb with hb | hb
      · exact hhighest b hb
      · cases List.mem_singleton.mp hb
        simp only [takes, decide_eq_true_eq] at htakes
        exact Nat.le_of_not_lt htakes

theorem Marked.pairwise {log : List (α × Bool)} (h : Marked key log) :
    (log.filter fun entry => entry.2).Pairwise fun a b => key a.1 < key b.1 := by
  induction log using List.reverseRecOn with
  | nil => exact List.Pairwise.nil
  | append_singleton log entry ih =>
      rw [List.filter_append, List.pairwise_append]
      refine ⟨ih h.init, ?_, ?_⟩
      · exact (List.pairwise_singleton _ entry).filter _
      · intro a ha b hb
        obtain ⟨hb, htaken⟩ := List.mem_filter.mp hb
        cases List.mem_singleton.mp hb
        exact (h log entry.1 entry.2 [] rfl).mp htaken a (List.mem_filter.mp ha).1

/-- What is taken from a sequence that goes up is a subsequence of it. -/
theorem Marked.sublist {log : List (α × Bool)} (h : Marked key log) {sequence : List α}
    (hup : sequence.Pairwise fun a b => key a < key b)
    (hmem : ∀ entry ∈ log, entry.1 ∈ sequence) :
    ((log.filter fun entry => entry.2).map Prod.fst).Sublist sequence := by
  have htaken : ((log.filter fun entry => entry.2).map Prod.fst).Pairwise
      fun a b => key a < key b := List.pairwise_map.mpr h.pairwise
  have hsubset : (log.filter fun entry => entry.2).map Prod.fst ⊆ sequence := by
    intro a ha
    obtain ⟨entry, hentry, rfl⟩ := List.mem_map.mp ha
    exact hmem entry (List.mem_of_mem_filter hentry)
  have hantisymm : Std.Antisymm fun a b : α => key a < key b :=
    ⟨fun _ _ hlt hlt' => absurd hlt (Nat.lt_asymm hlt')⟩
  have hnodup : ((log.filter fun entry => entry.2).map Prod.fst).Nodup := by
    refine htaken.imp fun {a b} hlt heq => ?_
    rw [heq] at hlt
    exact Nat.lt_irrefl _ hlt
  exact List.sublist_of_subperm_of_pairwise (List.subperm_of_subset hnodup hsubset) htaken hup

theorem Marked.of_map {β : Type*} (f : β → α) {log : List (β × Bool)}
    (h : Marked key (log.map fun entry => (f entry.1, entry.2))) :
    Marked (fun b => key (f b)) log := by
  intro before b taken after hlog
  have hmapped := h (before.map fun entry => (f entry.1, entry.2)) (f b) taken
    (after.map fun entry => (f entry.1, entry.2)) (by rw [hlog, List.map_append, List.map_cons])
  rw [hmapped, List.forall_mem_map]

/-- What some of the chosen entries yield is a subsequence of what all of them would. -/
theorem filterMap_sublist {β : Type*} {yields : α → Option β} {chosen : α → Bool}
    (value : α → β) {log : List α}
    (h : ∀ a ∈ log, ∀ b, yields a = some b → chosen a = true ∧ b = value a) :
    (log.filterMap yields).Sublist ((log.filter chosen).map value) := by
  induction log with
  | nil => exact List.Sublist.refl _
  | cons a log ih =>
      have hrest := ih fun later hlater => h later (List.mem_cons_of_mem a hlater)
      cases hyields : yields a with
      | none =>
          rw [List.filterMap_cons_none hyields]
          exact hrest.trans (((List.sublist_cons_self a log).filter chosen).map value)
      | some b =>
          obtain ⟨hchosen, rfl⟩ := h a List.mem_cons_self b hyields
          rw [List.filterMap_cons_some hyields, List.filter_cons_of_pos hchosen, List.map_cons]
          exact hrest.cons_cons _

theorem related_of_lt {R : α → α → Prop} {sequence : List α}
    (hup : sequence.Pairwise fun a b => key a < key b) (h : sequence.Pairwise R) {a b : α}
    (ha : a ∈ sequence) (hb : b ∈ sequence) (hlt : key a < key b) : R a b := by
  have hself : ∀ a ∈ sequence, key a < key a → R a a :=
    fun a _ hlt => absurd hlt (Nat.lt_irrefl _)
  have hforward : sequence.Pairwise fun a b => key a < key b → R a b :=
    h.imp fun {a b} hrelated (_ : key a < key b) => hrelated
  have hbackward : sequence.Pairwise (flip fun a b => key a < key b → R a b) :=
    hup.imp fun hlt hgt => absurd hlt (Nat.lt_asymm hgt)
  exact List.Pairwise.forall_of_forall_of_flip hself hforward hbackward ha hb hlt

/-- Where a rank that never falls stays the same between neighbours, so does the value; then
it is a function of the rank. -/
theorem eq_of_rank_eq {β : Type*} {rank : α → Nat} {value : α → β} {sequence : List α}
    (hup : sequence.Pairwise fun a b => rank a ≤ rank b)
    (hchain : sequence.IsChain fun a b => rank b = rank a → value b = value a) {a b : α}
    (ha : a ∈ sequence) (hb : b ∈ sequence) (heq : rank a = rank b) : value a = value b := by
  have hequal : sequence.Pairwise fun a b => rank a = rank b → value a = value b := by
    clear ha hb
    induction sequence with
    | nil => exact List.Pairwise.nil
    | cons first rest ih =>
        obtain ⟨hfirst, hrest⟩ := List.pairwise_cons.mp hup
        have hpairs := ih hrest hchain.of_cons
        refine List.pairwise_cons.mpr ⟨fun b hb heq => ?_, hpairs⟩
        cases rest with
        | nil => cases hb
        | cons second rest =>
            have hneighbour := (List.isChain_cons_cons.mp hchain).1
            have hsecond := hfirst second List.mem_cons_self
            rcases List.mem_cons.mp hb with rfl | hb
            · exact (hneighbour heq.symm).symm
            · have hle := (List.pairwise_cons.mp hrest).1 b hb
              have hsame : rank second = rank first := by omega
              have hlater := (List.pairwise_cons.mp hpairs).1 b hb (hsame.trans heq)
              exact (hneighbour hsame).symm.trans hlater
  have hbackward : sequence.Pairwise (flip fun a b => rank a = rank b → value a = value b) :=
    hequal.imp fun hsame heq => (hsame heq.symm).symm
  exact List.Pairwise.forall_of_forall_of_flip (fun a _ _ => rfl) hequal hbackward ha hb heq

/-- Each entry is as it is judged beside the entry before it. -/
def Judged (judge : Option α → α → Prop) (log : List α) : Prop :=
  ∀ before a after, log = before ++ a :: after → judge before.getLast? a

theorem judged_nil (judge : Option α → α → Prop) : Judged judge [] := by
  intro before a after h
  exact absurd h (by simp)

theorem Judged.append {judge : Option α → α → Prop} {log : List α} (h : Judged judge log)
    {a : α} (ha : judge log.getLast? a) : Judged judge (log ++ [a]) := by
  intro before b after hlog
  cases after using List.reverseRecOn with
  | nil =>
      obtain ⟨rfl, hentry⟩ := List.append_inj' hlog rfl
      cases hentry
      exact ha
  | append_singleton after last =>
      rw [← List.cons_append, ← List.append_assoc] at hlog
      obtain ⟨hlog, -⟩ := List.append_inj' hlog rfl
      exact h before b after hlog

end Records
