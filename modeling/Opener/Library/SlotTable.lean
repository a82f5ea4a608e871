import Mathlib.Data.List.Perm.Basic
import Mathlib.Data.List.Nodup

/-!
Tables of a fixed number of slots, a slot being free when it holds the blank
value. `Paired` relates two tables that are to hold the same values, each of them
once, in whatever order; filling a free slot of both and removing one value from
both keep it, and then one has a free slot exactly when the other has.
-/

namespace SlotTable

variable {α : Type*} [DecidableEq α] (blank : α)

def occupied (table : List α) : List α := table.filter fun a => a ≠ blank

/-- Every slot that holds the value is freed. -/
def release (a : α) (table : List α) : List α :=
  table.map fun b => if b = a then blank else b

variable {blank}

theorem mem_occupied {table : List α} {a : α} :
    a ∈ occupied blank table ↔ a ∈ table ∧ a ≠ blank := by
  simp [occupied]

theorem occupied_release (table : List α) (a : α) :
    occupied blank (release blank a table) = (occupied blank table).filter fun b => b ≠ a := by
  simp only [occupied, release, List.filter_filter]
  induction table with
  | nil => rfl
  | cons b table ih =>
      rw [List.map_cons, List.filter_cons, List.filter_cons, ih]
      by_cases hb : b = a
      · simp [hb]
      · by_cases hblank : b = blank
        · simp [hblank]
        · simp [hb, hblank]

theorem release_of_not_mem {table : List α} {a : α} (ha : a ∉ table) :
    release blank a table = table := by
  conv_rhs => rw [← List.map_id table]
  refine List.map_congr_left fun b hb => ?_
  rw [if_neg (ne_of_mem_of_not_mem hb ha)]
  rfl

theorem occupied_set_of_blank {table : List α} {i : Nat} {a : α}
    (hi : table[i]? = some blank) (ha : a ≠ blank) :
    (occupied blank (table.set i a)).Perm (a :: occupied blank table) := by
  induction table generalizing i with
  | nil => cases hi
  | cons b table ih =>
      cases i with
      | zero =>
          obtain rfl : b = blank := by simpa using hi
          simp [occupied, ha]
      | succ i =>
          have hrest := ih (by simpa using hi)
          simp only [occupied, List.set_cons_succ, List.filter_cons] at hrest ⊢
          split
          · exact (hrest.cons b).trans (.swap a b _)
          · exact hrest

theorem occupied_set_blank {table : List α} {i : Nat} {a : α} (hi : table[i]? = some a)
    (ha : a ≠ blank) :
    (occupied blank table).Perm (a :: occupied blank (table.set i blank)) := by
  obtain ⟨hlt, hget⟩ := List.getElem?_eq_some_iff.mp hi
  have hback : (table.set i blank).set i a = table := by
    rw [List.set_set, ← hget, List.set_getElem_self]
  have hblank : (table.set i blank)[i]? = some blank := by simp [hlt]
  have hperm := occupied_set_of_blank hblank ha
  rwa [hback] at hperm

/-- A table has a free slot exactly when not all its slots are occupied. -/
theorem blank_mem_iff {table : List α} :
    blank ∈ table ↔ (occupied blank table).length < table.length := by
  rw [occupied, List.length_filter_lt_length_iff_exists]
  simp

variable (blank)

structure Paired (table other : List α) : Prop where
  nodup : (occupied blank table).Nodup
  perm : (occupied blank other).Perm (occupied blank table)
  length : other.length = table.length

namespace Paired

variable {blank} {table other : List α}

theorem replicate (n : Nat) :
    Paired blank (List.replicate n blank) (List.replicate n blank) := by
  refine ⟨?_, .refl _, rfl⟩
  simp [occupied]

theorem mem_iff (h : Paired blank table other) {a : α} (ha : a ≠ blank) :
    a ∈ other ↔ a ∈ table := by
  have hmem := h.perm.mem_iff (a := a)
  simpa [mem_occupied, ha] using hmem

theorem blank_mem (h : Paired blank table other) : blank ∈ other ↔ blank ∈ table := by
  rw [blank_mem_iff, blank_mem_iff, h.perm.length_eq, h.length]

/-- Every occupied value stands in the other table once. -/
theorem count_eq_one (h : Paired blank table other) {a : α} (ha : a ≠ blank)
    (hmem : a ∈ table) : other.count a = 1 := by
  have hother : (occupied blank other).count a = other.count a :=
    List.count_filter (by simp [ha])
  rw [← hother, h.perm.count_eq]
  exact List.count_eq_one_of_mem h.nodup (mem_occupied.mpr ⟨hmem, ha⟩)

theorem fill (h : Paired blank table other) {i j : Nat} {a : α}
    (hi : table[i]? = some blank) (hj : other[j]? = some blank) (ha : a ≠ blank)
    (hfresh : a ∉ table) : Paired blank (table.set i a) (other.set j a) := by
  have htable := occupied_set_of_blank hi ha
  have hother := occupied_set_of_blank hj ha
  refine ⟨?_, ?_, ?_⟩
  · rw [htable.nodup_iff, List.nodup_cons]
    exact ⟨fun hmem => hfresh (mem_occupied.mp hmem).1, h.nodup⟩
  · exact hother.trans ((h.perm.cons a).trans htable.symm)
  · simpa using h.length

theorem remove (h : Paired blank table other) {i : Nat} {a : α} (hi : table[i]? = some a)
    (ha : a ≠ blank) : Paired blank (table.set i blank) (release blank a other) := by
  have htable := occupied_set_blank hi ha
  have hnodup := h.nodup
  rw [htable.nodup_iff, List.nodup_cons] at hnodup
  refine ⟨hnodup.2, ?_, ?_⟩
  · rw [occupied_release]
    have hperm := (h.perm.trans htable).filter fun b => b ≠ a
    refine hperm.trans (.of_eq ?_)
    rw [List.filter_cons_of_neg (by simp), List.filter_eq_self.mpr]
    intro b hb
    simpa using ne_of_mem_of_not_mem hb hnodup.1
  · simpa [release] using h.length

theorem release_absent (h : Paired blank table other) {a : α} (ha : a ≠ blank)
    (habsent : a ∉ table) : Paired blank table (release blank a other) := by
  rw [release_of_not_mem fun hmem => habsent ((h.mem_iff ha).mp hmem)]
  exact h

end Paired

end SlotTable
