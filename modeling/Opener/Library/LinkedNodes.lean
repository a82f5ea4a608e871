import Mathlib.Data.List.Induction
import Mathlib.Data.List.Nodup
import Opener.Library.LinkedCells

/-!
Doubly linked lists in a memory in which nodes are allocated and freed. A list is given by its
members, the addresses of its nodes with their data; the theorems say what linking a node in
between two parts of the list does, and what taking one out does.
-/

namespace LinkedNodes

open LinkedCells (Cell)

variable {α : Type*}

/-- The nodes that are allocated, by their addresses. -/
abbrev Heap (α : Type*) := Nat → Option (Cell α)

def addresses (members : List (Nat × Option α)) : List Nat := members.map Prod.fst

def contents (members : List (Nat × Option α)) : List (Option α) := members.map Prod.snd

/-- Where the members are entered from the front; without members it is what comes after. -/
def entry : List (Nat × Option α) → Option Nat → Option Nat
  | [], after => after
  | (n, _) :: _, _ => some n

/-- Where the members are entered from the back. -/
def exit : List (Nat × Option α) → Option Nat → Option Nat
  | [], before => before
  | (n, _) :: members, _ => exit members (some n)

/-- The members are allocated and linked in order, behind `before` and in front of `after`. -/
def Segment (heap : Heap α) : Option Nat → List (Nat × Option α) → Option Nat → Prop
  | _, [], _ => True
  | before, (n, data) :: members, after =>
      heap n = some { previous := before, next := entry members after, data } ∧
        Segment heap (some n) members after

/-- Following the links from the pointer leads to the nodes in turn and then to no other. -/
def Visits (heap : Heap α) (link : Cell α → Option Nat) : Option Nat → List Nat → Prop
  | pointer, [] => pointer = none
  | pointer, n :: ns =>
      pointer = some n ∧ ∃ node, heap n = some node ∧ Visits heap link (link node) ns

/-- The node at a pointer is changed. -/
def adjust (heap : Heap α) (pointer : Option Nat) (f : Cell α → Cell α) : Heap α := fun m =>
  if pointer = some m then (heap m).map f else heap m

/-- A node is filled and linked in between two others. -/
def linkIn (heap : Heap α) (before after : Option Nat) (n : Nat) (data : Option α) : Heap α :=
  fun m =>
    if m = n then some { previous := before, next := after, data }
    else (heap m).map fun node =>
      { node with
        next := if before = some m then some n else node.next
        previous := if after = some m then some n else node.previous }

/-- The neighbours of a node are linked past it, and it is freed. -/
def linkOut (heap : Heap α) (before after : Option Nat) (n : Nat) : Heap α :=
  fun m =>
    if m = n then none
    else (heap m).map fun node =>
      { node with
        next := if before = some m then after else node.next
        previous := if after = some m then before else node.previous }

section Adjusting

variable {heap : Heap α} {before after : Option Nat} {n : Nat} {data : Option α}

@[simp] theorem adjust_none (heap : Heap α) (f : Cell α → Cell α) : adjust heap none f = heap := by
  funext m
  exact if_neg nofun

theorem adjust_of_ne {pointer : Option Nat} {m : Nat} (h : pointer ≠ some m)
    (f : Cell α → Cell α) : adjust heap pointer f m = heap m := if_neg h

@[simp] theorem adjust_eq_none_iff {pointer : Option Nat} {f : Cell α → Cell α} {m : Nat} :
    adjust heap pointer f m = none ↔ heap m = none := by
  rw [adjust]
  split
  · exact Option.map_eq_none_iff
  · exact Iff.rfl

theorem adjust_eq_update {node : Cell α} (h : heap n = some node) (f : Cell α → Cell α) :
    adjust heap (some n) f = Function.update heap n (some (f node)) := by
  funext m
  by_cases hm : m = n
  · subst hm
    rw [adjust, if_pos rfl, h, Function.update_self, Option.map_some]
  · rw [adjust_of_ne fun heq => hm (Option.some.inj heq).symm, Function.update_of_ne hm]

/-- A node is linked in by pointing its neighbours to it. -/
theorem linkIn_eq (hbefore : before ≠ some n) (hafter : after ≠ some n) :
    linkIn heap before after n data =
      adjust
        (adjust (Function.update heap n (some { previous := before, next := after, data })) after
          fun node => { node with previous := some n })
        before fun node => { node with next := some n } := by
  funext m
  by_cases hm : m = n
  · subst hm
    rw [linkIn, if_pos rfl, adjust_of_ne hbefore, adjust_of_ne hafter, Function.update_self]
  · rw [linkIn, if_neg hm]
    simp only [adjust, Function.update_of_ne hm]
    cases heap m with
    | none => simp
    | some node => split <;> split <;> rfl

/-- A node is taken out by pointing its neighbours past it. -/
theorem linkOut_eq :
    linkOut heap before after n =
      Function.update
        (adjust (adjust heap before fun node => { node with next := after }) after
          fun node => { node with previous := before })
        n none := by
  funext m
  by_cases hm : m = n
  · subst hm
    rw [linkOut, if_pos rfl, Function.update_self]
  · rw [linkOut, if_neg hm, Function.update_of_ne hm]
    simp only [adjust]
    cases heap m with
    | none => simp
    | some node => split <;> split <;> rfl

theorem linkIn_of_ne {m : Nat} (hm : m ≠ n) (hbefore : before ≠ some m)
    (hafter : after ≠ some m) : linkIn heap before after n data m = heap m := by
  rw [linkIn, if_neg hm]
  simp only [hbefore, hafter, if_false]
  exact Option.map_id'

theorem linkOut_of_ne {m : Nat} (hm : m ≠ n) (hbefore : before ≠ some m)
    (hafter : after ≠ some m) : linkOut heap before after n m = heap m := by
  rw [linkOut, if_neg hm]
  simp only [hbefore, hafter, if_false]
  exact Option.map_id'

end Adjusting

@[simp] theorem addresses_cons (n : Nat) (data : Option α) (members : List (Nat × Option α)) :
    addresses ((n, data) :: members) = n :: addresses members := rfl

@[simp] theorem addresses_append (xs ys : List (Nat × Option α)) :
    addresses (xs ++ ys) = addresses xs ++ addresses ys := List.map_append

theorem mem_addresses_middle {xs ys : List (Nat × Option α)} {n m : Nat} {data : Option α} :
    m ∈ addresses (xs ++ (n, data) :: ys) ↔ m = n ∨ m ∈ addresses (xs ++ ys) := by
  rw [addresses_append, addresses_append, addresses_cons, List.mem_append, List.mem_cons,
    List.mem_append, or_left_comm]

theorem exists_middle {members : List (Nat × Option α)} {n : Nat} (h : n ∈ addresses members) :
    ∃ xs data ys, members = xs ++ (n, data) :: ys := by
  obtain ⟨⟨_, data⟩, hmem, rfl⟩ := List.mem_map.mp h
  obtain ⟨xs, ys, rfl⟩ := List.append_of_mem hmem
  exact ⟨xs, data, ys, rfl⟩

theorem idxOf_middle {xs ys : List (Nat × Option α)} {n : Nat} {data : Option α}
    (h : n ∉ addresses xs) : (addresses (xs ++ (n, data) :: ys)).idxOf n = xs.length := by
  rw [addresses_append, List.idxOf_append_of_notMem h, addresses_cons, List.idxOf_cons_self,
    Nat.add_zero, addresses, List.length_map]

theorem insertIdx_length {β : Type*} (xs ys : List β) (b : β) :
    (xs ++ ys).insertIdx xs.length b = xs ++ b :: ys := by
  induction xs with
  | nil => rfl
  | cons x xs ih => exact congrArg (x :: ·) ih

theorem eraseIdx_length {β : Type*} (xs ys : List β) (b : β) :
    (xs ++ b :: ys).eraseIdx xs.length = xs ++ ys := by
  rw [List.eraseIdx_append_of_length_le (Nat.le_refl _), Nat.sub_self, List.eraseIdx_cons_zero]

theorem entry_append (xs ys : List (Nat × Option α)) (after : Option Nat) :
    entry (xs ++ ys) after = entry xs (entry ys after) := by
  cases xs with
  | nil => rfl
  | cons x xs => rfl

theorem exit_append (xs ys : List (Nat × Option α)) (before : Option Nat) :
    exit (xs ++ ys) before = exit ys (exit xs before) := by
  induction xs generalizing before with
  | nil => rfl
  | cons x xs ih => exact ih (some x.1)

theorem exit_append_singleton (xs : List (Nat × Option α)) (member : Nat × Option α)
    (before : Option Nat) : exit (xs ++ [member]) before = some member.1 := exit_append _ _ _

theorem entry_append_of_ne_nil {xs : List (Nat × Option α)} (h : xs ≠ [])
    (ys : List (Nat × Option α)) (after : Option Nat) : entry (xs ++ ys) after = entry xs none := by
  cases xs with
  | nil => exact absurd rfl h
  | cons x xs => rfl

theorem exit_append_cons (xs : List (Nat × Option α)) (n : Nat) (data : Option α)
    (ys : List (Nat × Option α)) (before : Option Nat) :
    exit (xs ++ (n, data) :: ys) before = exit ys (some n) := exit_append _ _ _

theorem entry_eq_head? (members : List (Nat × Option α)) :
    entry members none = (addresses members).head? := by
  cases members with
  | nil => rfl
  | cons member members => rfl

theorem exit_eq_getLast? (members : List (Nat × Option α)) :
    exit members none = (addresses members).getLast? := by
  induction members using List.reverseRecOn with
  | nil => rfl
  | append_singleton members member ih =>
      rw [exit_append, addresses_append]
      exact List.getLast?_concat.symm

theorem mem_of_entry {members : List (Nat × Option α)} {n : Nat}
    (h : entry members none = some n) : n ∈ addresses members :=
  List.mem_of_head? ((entry_eq_head? members).symm.trans h)

theorem mem_of_exit {members : List (Nat × Option α)} {n : Nat}
    (h : exit members none = some n) : n ∈ addresses members :=
  List.mem_of_getLast? ((exit_eq_getLast? members).symm.trans h)

theorem mem_or_of_exit {members : List (Nat × Option α)} {before : Option Nat} {n : Nat}
    (h : exit members before = some n) : before = some n ∨ n ∈ addresses members := by
  induction members generalizing before with
  | nil => exact .inl h
  | cons member members ih =>
      rcases ih h with heq | hmem
      · exact .inr (Option.some.inj heq ▸ List.mem_cons_self)
      · exact .inr (List.mem_cons_of_mem _ hmem)

section Segments

variable {heap heap' : Heap α} {before after target : Option Nat}
  {members : List (Nat × Option α)}

theorem segment_append (xs ys : List (Nat × Option α)) :
    Segment heap before (xs ++ ys) after ↔
      Segment heap before xs (entry ys after) ∧ Segment heap (exit xs before) ys after := by
  induction xs generalizing before with
  | nil => exact (true_and _).symm.to_iff
  | cons x xs ih =>
      obtain ⟨n, data⟩ := x
      rw [List.cons_append, Segment, Segment, ih, entry_append, exit, and_assoc]

theorem segment_append_singleton (xs : List (Nat × Option α)) (n : Nat) (data : Option α) :
    Segment heap before (xs ++ [(n, data)]) after ↔
      Segment heap before xs (some n) ∧
        heap n = some { previous := exit xs before, next := after, data } := by
  rw [segment_append, Segment, entry, entry, Segment, and_true]

theorem Segment.congr (h : Segment heap before members after)
    (hheap : ∀ m ∈ addresses members, heap' m = heap m) : Segment heap' before members after := by
  induction members generalizing before with
  | nil => trivial
  | cons member members ih =>
      obtain ⟨n, data⟩ := member
      exact ⟨(hheap n List.mem_cons_self).trans h.1,
        ih h.2 fun m hm => hheap m (List.mem_cons_of_mem n hm)⟩

/-- The last member gets another node behind it. -/
theorem Segment.leave (h : Segment heap before members after) (hnodup : (addresses members).Nodup)
    (hheap : ∀ m ∈ addresses members, heap' m = (heap m).map fun node =>
      { node with next := if exit members before = some m then target else node.next }) :
    Segment heap' before members target := by
  induction members generalizing before with
  | nil => trivial
  | cons member members ih =>
      obtain ⟨n, data⟩ := member
      obtain ⟨hnode, hrest⟩ := h
      obtain ⟨hn, hnodup⟩ := List.nodup_cons.mp hnodup
      refine ⟨?_, ih hrest hnodup fun m hm => hheap m (List.mem_cons_of_mem n hm)⟩
      rw [hheap n List.mem_cons_self, hnode, Option.map_some]
      cases members with
      | nil =>
          rw [exit, exit, if_pos rfl]
          rfl
      | cons next members =>
          have hne : exit members (some next.1) ≠ some n := by
            intro heq
            rcases mem_or_of_exit heq with hfirst | hmem
            · exact hn (Option.some.inj hfirst ▸ List.mem_cons_self)
            · exact hn (List.mem_cons_of_mem _ hmem)
          rw [exit, exit, if_neg hne]
          rfl

/-- The first member gets another node in front of it. -/
theorem Segment.enter (h : Segment heap before members after) (hnodup : (addresses members).Nodup)
    (hheap : ∀ m ∈ addresses members, heap' m = (heap m).map fun node =>
      { node with previous := if entry members none = some m then target else node.previous }) :
    Segment heap' target members after := by
  cases members with
  | nil => trivial
  | cons member members =>
      obtain ⟨n, data⟩ := member
      obtain ⟨hnode, hrest⟩ := h
      obtain ⟨hn, -⟩ := List.nodup_cons.mp hnodup
      refine ⟨?_, hrest.congr fun m hm => ?_⟩
      · rw [hheap n List.mem_cons_self, hnode, Option.map_some, entry, if_pos rfl]
      · have hne : some n ≠ some m := by
          rintro ⟨⟩
          exact hn hm
        rw [hheap m (List.mem_cons_of_mem n hm)]
        simp only [entry, hne, if_false]
        exact Option.map_id'

theorem Segment.node (h : Segment heap before members after) {n : Nat} {data : Option α}
    (hmem : (n, data) ∈ members) : ∃ node, heap n = some node ∧ node.data = data := by
  induction members generalizing before with
  | nil => exact absurd hmem List.not_mem_nil
  | cons member members ih =>
      rcases List.mem_cons.mp hmem with rfl | hmem
      · exact ⟨_, h.1, rfl⟩
      · exact ih h.2 hmem

theorem Segment.allocated (h : Segment heap before members after) {n : Nat}
    (hn : n ∈ addresses members) : heap n ≠ none := by
  obtain ⟨⟨_, data⟩, hmem, rfl⟩ := List.mem_map.mp hn
  obtain ⟨node, hnode, -⟩ := h.node hmem
  exact Option.ne_none_iff_exists'.mpr ⟨node, hnode⟩

/-- The members determine the nodes. -/
theorem Segment.node_unique (h : Segment heap before members after)
    (h' : Segment heap' before members after) {n : Nat} (hn : n ∈ addresses members) :
    heap n = heap' n := by
  induction members generalizing before with
  | nil => exact absurd hn List.not_mem_nil
  | cons member members ih =>
      rcases List.mem_cons.mp hn with rfl | hn
      · exact h.1.trans h'.1.symm
      · exact ih h.2 h'.2 hn

theorem Segment.visits_next (h : Segment heap before members none) :
    Visits heap (·.next) (entry members none) (addresses members) := by
  induction members generalizing before with
  | nil => rfl
  | cons member members ih => exact ⟨rfl, _, h.1, ih h.2⟩

theorem Segment.visits_previous (h : Segment heap none members after) :
    Visits heap (·.previous) (exit members none) (addresses members).reverse := by
  induction members using List.reverseRecOn generalizing after with
  | nil => rfl
  | append_singleton members member ih =>
      obtain ⟨n, data⟩ := member
      obtain ⟨hbefore, hnode⟩ := (segment_append_singleton members n data).mp h
      rw [exit_append, addresses_append, List.reverse_append]
      exact ⟨rfl, _, hnode, ih hbefore⟩

end Segments

/-- What is visited is determined by the memory. -/
theorem Visits.unique {heap : Heap α} {link : Cell α → Option Nat} {pointer : Option Nat}
    {ns ns' : List Nat} (h : Visits heap link pointer ns) (h' : Visits heap link pointer ns') :
    ns = ns' := by
  induction ns generalizing pointer ns' with
  | nil =>
      cases ns' with
      | nil => rfl
      | cons m ns' => cases h.symm.trans h'.1
  | cons n ns ih =>
      obtain ⟨rfl, node, hnode, hrest⟩ := h
      cases ns' with
      | nil => cases h'
      | cons m ns' =>
          obtain ⟨⟨⟩, node', hnode', hrest'⟩ := h'
          obtain rfl := Option.some.inj (hnode.symm.trans hnode')
          rw [ih hrest hrest']

/-- The list between `first` and `last` has the members. -/
structure Chain (heap : Heap α) (first last : Option Nat) (members : List (Nat × Option α)) :
    Prop where
  nodup : (addresses members).Nodup
  segment : Segment heap none members none
  first_eq : first = entry members none
  last_eq : last = exit members none

namespace Chain

variable {heap : Heap α} {first last : Option Nat} {members xs ys : List (Nat × Option α)}
  {n : Nat} {data : Option α}

theorem nil (heap : Heap α) : Chain heap none none [] := ⟨List.nodup_nil, trivial, rfl, rfl⟩

theorem first_eq_none_iff (h : Chain heap first last members) : first = none ↔ members = [] := by
  rw [h.first_eq]
  cases members with
  | nil => exact iff_of_true rfl rfl
  | cons member members => exact iff_of_false nofun nofun

theorem last_eq_none_iff (h : Chain heap first last members) : last = none ↔ members = [] := by
  rw [h.last_eq, exit_eq_getLast?, List.getLast?_eq_none_iff, addresses, List.map_eq_nil_iff]

theorem nodup_parts (h : Chain heap first last (xs ++ (n, data) :: ys)) :
    n ∉ addresses xs ∧ n ∉ addresses ys := by
  have hnodup := h.nodup
  rw [addresses_append, addresses_cons, List.nodup_append] at hnodup
  obtain ⟨-, hrest, hdisjoint⟩ := hnodup
  exact ⟨fun hmem => hdisjoint n hmem n List.mem_cons_self rfl, (List.nodup_cons.mp hrest).1⟩

/-- Only the first member is what `first` points to. -/
theorem first_eq_some_iff (h : Chain heap first last (xs ++ (n, data) :: ys)) :
    first = some n ↔ xs = [] := by
  rw [h.first_eq, entry_append]
  cases xs with
  | nil => exact iff_of_true rfl rfl
  | cons x xs =>
      refine iff_of_false (fun heq => h.nodup_parts.1 ?_) (List.cons_ne_nil _ _)
      exact Option.some.inj heq ▸ List.mem_cons_self

theorem last_eq_some_iff (h : Chain heap first last (xs ++ (n, data) :: ys)) :
    last = some n ↔ ys = [] := by
  rw [h.last_eq, exit_append, exit]
  cases ys with
  | nil => exact iff_of_true rfl rfl
  | cons y ys =>
      refine iff_of_false (fun heq => h.nodup_parts.2 ?_) (List.cons_ne_nil _ _)
      have hexit : exit ys (some y.1) = some n := heq
      rcases mem_or_of_exit hexit with hfirst | hmem
      · exact Option.some.inj hfirst ▸ List.mem_cons_self
      · exact List.mem_cons_of_mem _ hmem

/-- What `first` points to when a member goes. -/
theorem first_without (h : Chain heap first last (xs ++ (n, data) :: ys)) :
    (if some n = first then entry ys none else first) = entry (xs ++ ys) none := by
  by_cases hxs : xs = []
  · rw [if_pos (h.first_eq_some_iff.mpr hxs).symm, hxs]
    rfl
  · rw [if_neg fun heq => hxs (h.first_eq_some_iff.mp heq.symm), h.first_eq,
      entry_append_of_ne_nil hxs, entry_append_of_ne_nil hxs]

theorem last_without (h : Chain heap first last (xs ++ (n, data) :: ys)) :
    (if some n = last then exit xs none else last) = exit (xs ++ ys) none := by
  cases ys with
  | nil => rw [if_pos (h.last_eq_some_iff.mpr rfl).symm, List.append_nil]
  | cons y ys =>
      rw [if_neg fun heq => List.cons_ne_nil _ _ (h.last_eq_some_iff.mp heq.symm), h.last_eq,
        exit_append_cons, exit_append_cons, exit]

/-- The links of a member lead to its neighbours. -/
theorem node_eq (h : Chain heap first last (xs ++ (n, data) :: ys)) :
    heap n = some { previous := exit xs none, next := entry ys none, data } :=
  ((segment_append xs ((n, data) :: ys)).mp h.segment).2.1

/-- A node that is not a member comes in between two parts of the list. -/
theorem linkIn (h : Chain heap first last (xs ++ ys)) (hn : n ∉ addresses (xs ++ ys)) :
    Chain (linkIn heap (exit xs none) (entry ys none) n data)
      (entry (xs ++ (n, data) :: ys) none) (exit (xs ++ (n, data) :: ys) none)
      (xs ++ (n, data) :: ys) := by
  obtain ⟨hbefore, hafter⟩ := (segment_append xs ys).mp h.segment
  rw [addresses_append, List.mem_append, not_or] at hn
  have hnodup := h.nodup
  rw [addresses_append, List.nodup_append] at hnodup
  obtain ⟨hxs, hys, hdisjoint⟩ := hnodup
  refine ⟨?_, (segment_append xs _).mpr ⟨?_, ?_, ?_⟩, rfl, rfl⟩
  · rw [addresses_append, addresses_cons, List.nodup_append]
    refine ⟨hxs, List.nodup_cons.mpr ⟨hn.2, hys⟩, fun a ha b hb => ?_⟩
    rcases List.mem_cons.mp hb with rfl | hb
    · rintro rfl
      exact hn.1 ha
    · exact hdisjoint a ha b hb
  · refine hbefore.leave hxs fun m hm => ?_
    have hne : m ≠ n := fun heq => hn.1 (heq ▸ hm)
    have hafter : entry ys none ≠ some m := fun heq => hdisjoint m hm m (mem_of_entry heq) rfl
    rw [LinkedNodes.linkIn, if_neg hne]
    simp only [hafter, if_false]
    rfl
  · rw [LinkedNodes.linkIn, if_pos rfl]
  · refine hafter.enter hys fun m hm => ?_
    have hne : m ≠ n := fun heq => hn.2 (heq ▸ hm)
    have hbefore : exit xs none ≠ some m := fun heq => hdisjoint m (mem_of_exit heq) m hm rfl
    rw [LinkedNodes.linkIn, if_neg hne]
    simp only [hbefore, if_false]

/-- A member goes, and the two parts of the list come together. -/
theorem linkOut (h : Chain heap first last (xs ++ (n, data) :: ys)) :
    Chain (linkOut heap (exit xs none) (entry ys none) n) (entry (xs ++ ys) none)
      (exit (xs ++ ys) none) (xs ++ ys) := by
  obtain ⟨hbefore, -, hafter⟩ := (segment_append xs _).mp h.segment
  have hnodup := h.nodup
  obtain ⟨hnxs, hnys⟩ := h.nodup_parts
  rw [addresses_append, addresses_cons, List.nodup_append] at hnodup
  obtain ⟨hxs, hrest, hdisjoint⟩ := hnodup
  have hys := (List.nodup_cons.mp hrest).2
  refine ⟨?_, (segment_append xs ys).mpr ⟨?_, ?_⟩, rfl, rfl⟩
  · rw [addresses_append, List.nodup_append]
    exact ⟨hxs, hys, fun a ha b hb => hdisjoint a ha b (List.mem_cons_of_mem n hb)⟩
  · refine hbefore.leave hxs fun m hm => ?_
    have hne : m ≠ n := fun heq => hnxs (heq ▸ hm)
    have hafter : entry ys none ≠ some m := fun heq =>
      hdisjoint m hm m (List.mem_cons_of_mem n (mem_of_entry heq)) rfl
    rw [LinkedNodes.linkOut, if_neg hne]
    simp only [hafter, if_false]
  · refine hafter.enter hys fun m hm => ?_
    have hne : m ≠ n := fun heq => hnys (heq ▸ hm)
    have hbefore : exit xs none ≠ some m := fun heq =>
      hdisjoint m (mem_of_exit heq) m (List.mem_cons_of_mem n hm) rfl
    rw [LinkedNodes.linkOut, if_neg hne]
    simp only [hbefore, if_false]

end Chain

end LinkedNodes
