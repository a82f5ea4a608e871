import Mathlib.Data.List.Dedup
import Mathlib.Data.List.Induction

/-!
Lists of pairs as tables that keep each key at its place: what is assigned to a key replaces
what it had, and a new key goes to the end.
-/

namespace Assignments

variable {κ ν : Type} [DecidableEq κ]

def assign (key : κ) (value : ν) : List (κ × ν) → List (κ × ν)
  | [] => [(key, value)]
  | entry :: entries =>
      if entry.1 = key then (key, value) :: entries else entry :: assign key value entries

/-- The table after a sequence of assignments. -/
def assignAll (assigned : List (κ × ν)) : List (κ × ν) :=
  assigned.foldl (fun entries assignment => assign assignment.1 assignment.2 entries) []

/-- What was assigned to a key last. -/
def lastAssigned (assigned : List (κ × ν)) (key : κ) : Option ν := assigned.reverse.lookup key

theorem lastAssigned_eq_none_iff {assigned : List (κ × ν)} {key : κ} :
    lastAssigned assigned key = none ↔ key ∉ assigned.map Prod.fst := by
  rw [lastAssigned, List.lookup_eq_none_iff]
  simp only [List.mem_reverse, List.mem_map, not_exists, not_and, bne_iff_ne]
  exact forall₂_congr fun entry hentry => ne_comm

theorem keys_assign (key : κ) (value : ν) (entries : List (κ × ν)) :
    (assign key value entries).map Prod.fst =
      if key ∈ entries.map Prod.fst then entries.map Prod.fst
      else entries.map Prod.fst ++ [key] := by
  induction entries with
  | nil => rfl
  | cons entry entries ih =>
      rw [assign]
      by_cases hkey : entry.1 = key
      · rw [if_pos hkey, if_pos (hkey ▸ List.mem_cons_self), List.map_cons, List.map_cons, hkey]
      · rw [if_neg hkey, List.map_cons, ih]
        simp only [List.map_cons, List.mem_cons, Ne.symm hkey, false_or]
        split <;> rfl

theorem length_assign (key : κ) (value : ν) (entries : List (κ × ν)) :
    (assign key value entries).length =
      if key ∈ entries.map Prod.fst then entries.length else entries.length + 1 := by
  rw [← List.length_map Prod.fst, keys_assign]
  split
  · rw [List.length_map]
  · rw [List.length_append, List.length_map, List.length_singleton]

theorem nodup_assign {key : κ} {value : ν} {entries : List (κ × ν)}
    (h : (entries.map Prod.fst).Nodup) : ((assign key value entries).map Prod.fst).Nodup := by
  rw [keys_assign]
  split
  · exact h
  · next hkey => exact List.nodup_append.mpr ⟨h, List.nodup_singleton key, by grind⟩

theorem lookup_cons_eq (entry : κ × ν) (entries : List (κ × ν)) (key : κ) :
    (entry :: entries).lookup key = if key = entry.1 then some entry.2 else entries.lookup key := by
  rw [List.lookup_cons]
  by_cases hkey : key = entry.1
  · rw [if_pos hkey, beq_iff_eq.mpr hkey]
  · rw [if_neg hkey, beq_eq_false_iff_ne.mpr hkey]

theorem lookup_assign (key key' : κ) (value : ν) (entries : List (κ × ν)) :
    (assign key value entries).lookup key' =
      if key' = key then some value else entries.lookup key' := by
  induction entries with
  | nil => rw [assign, lookup_cons_eq]
  | cons entry entries ih =>
      rw [assign]
      by_cases hkey : entry.1 = key
      · rw [if_pos hkey, lookup_cons_eq, lookup_cons_eq, hkey]
        split <;> rfl
      · rw [if_neg hkey, lookup_cons_eq, lookup_cons_eq, ih]
        by_cases hentry : key' = entry.1
        · rw [if_pos hentry, if_neg (hentry ▸ hkey), if_pos hentry]
        · rw [if_neg hentry, if_neg hentry]

@[simp] theorem assignAll_append_singleton (assigned : List (κ × ν)) (assignment : κ × ν) :
    assignAll (assigned ++ [assignment]) =
      assign assignment.1 assignment.2 (assignAll assigned) := by
  rw [assignAll, List.foldl_append]
  rfl

theorem nodup_assignAll (assigned : List (κ × ν)) :
    ((assignAll assigned).map Prod.fst).Nodup := by
  induction assigned using List.reverseRecOn with
  | nil => exact List.nodup_nil
  | append_singleton assigned assignment ih =>
      rw [assignAll_append_singleton]
      exact nodup_assign ih

/-- The table holds what was assigned last. -/
theorem lookup_assignAll (assigned : List (κ × ν)) (key : κ) :
    (assignAll assigned).lookup key = lastAssigned assigned key := by
  induction assigned using List.reverseRecOn with
  | nil => rfl
  | append_singleton assigned assignment ih =>
      rw [assignAll_append_singleton, lookup_assign, ih, lastAssigned, lastAssigned,
        List.reverse_append, List.reverse_singleton, List.singleton_append, lookup_cons_eq]

theorem mem_keys_assignAll {assigned : List (κ × ν)} {key : κ} :
    key ∈ (assignAll assigned).map Prod.fst ↔ key ∈ assigned.map Prod.fst := by
  induction assigned using List.reverseRecOn with
  | nil => exact Iff.rfl
  | append_singleton assigned assignment ih =>
      rw [assignAll_append_singleton, keys_assign, List.map_append, List.mem_append, ← ih]
      split
      · next hkey => exact ⟨.inl, fun h => h.elim id fun hlast => by grind⟩
      · rw [List.mem_append]
        rfl

/-- The table has a place for each of the keys. -/
theorem length_assignAll (assigned : List (κ × ν)) :
    (assignAll assigned).length = (assigned.map Prod.fst).dedup.length := by
  have hperm : ((assignAll assigned).map Prod.fst).Perm (assigned.map Prod.fst).dedup := by
    rw [List.perm_ext_iff_of_nodup (nodup_assignAll assigned) (List.nodup_dedup _)]
    intro key
    rw [mem_keys_assignAll, List.mem_dedup]
  rw [← hperm.length_eq, List.length_map]

end Assignments
