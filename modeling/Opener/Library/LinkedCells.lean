import Mathlib.Data.List.Nodup
import Mathlib.Logic.Function.Basic

/-!
Doubly linked lists kept in an array of cells. A cell holds an optional link in
each direction and optional data; a cell whose three parts are absent is free.
`Chain` relates the cells to the list of cell numbers they link, and the
theorems below say what pushing and unlinking do to that list.
-/

namespace LinkedCells

variable {α : Type*}

structure Cell (α : Type*) where
  previous : Option Nat := none
  next : Option Nat := none
  data : Option α := none

/-- The cells of the list are linked in order, enter from `before` and leave to
`after`, and each carries data. -/
def Linked (cells : Nat → Cell α) : Option Nat → List Nat → Option Nat → Prop
  | _, [], _ => True
  | before, n :: ns, after =>
      (cells n).previous = before ∧ (cells n).next = ns.head?.or after ∧
        (cells n).data.isSome ∧ Linked cells (some n) ns after

/-- The cells reached from `first` through `next`, up to a number of steps. -/
def follow (cells : Nat → Cell α) : Nat → Option Nat → List Nat
  | 0, _ => []
  | _ + 1, none => []
  | fuel + 1, some n => n :: follow cells fuel (cells n).next

/-- The data along a list of cells. -/
def contents (cells : Nat → Cell α) (ns : List Nat) : List α :=
  ns.filterMap fun n => (cells n).data

/-- Both neighbours of the cell are linked past it, and the cell is freed. -/
def unlink (cells : Nat → Cell α) (n : Nat) : Nat → Cell α :=
  let bridged :=
    match (cells n).previous with
    | none => cells
    | some p => Function.update cells p { cells p with next := (cells n).next }
  let bridged :=
    match (cells n).next with
    | none => bridged
    | some q =>
        Function.update bridged q { bridged q with previous := (cells n).previous }
  Function.update bridged n {}

/-- The cell is filled and linked in front of `first`. -/
def push (cells : Nat → Cell α) (first : Option Nat) (n : Nat) (data : α) :
    Nat → Cell α :=
  let filled := Function.update cells n { cells n with data := some data }
  match first with
  | none => filled
  | some f =>
      let linked := Function.update filled n { filled n with next := some f }
      Function.update linked f { linked f with previous := some n }

/-- A well-formed list: the cells between `first` and `last` are linked and
distinct, and every other cell is free. -/
structure Chain (cells : Nat → Cell α) (first last : Option Nat) (ns : List Nat) :
    Prop where
  nodup : ns.Nodup
  linked : Linked cells none ns none
  first_eq : first = ns.head?
  last_eq : last = ns.getLast?
  free : ∀ n, n ∉ ns → cells n = {}

theorem linked_congr {cells cells' : Nat → Cell α} {before after : Option Nat}
    {ns : List Nat} (h : Linked cells before ns after)
    (hc : ∀ n ∈ ns, cells' n = cells n) : Linked cells' before ns after := by
  induction ns generalizing before with
  | nil => trivial
  | cons n ns ih =>
      obtain ⟨hp, hn, hd, hrest⟩ := h
      have hcell := hc n List.mem_cons_self
      refine ⟨by rw [hcell]; exact hp, by rw [hcell]; exact hn, by rw [hcell]; exact hd, ?_⟩
      exact ih hrest fun m hm => hc m (List.mem_cons_of_mem n hm)

theorem linked_append {cells : Nat → Cell α} {before after : Option Nat}
    (xs ys : List Nat) :
    Linked cells before (xs ++ ys) after ↔
      Linked cells before xs (ys.head?.or after) ∧
        Linked cells (xs.getLast?.or before) ys after := by
  induction xs generalizing before with
  | nil => simp [Linked]
  | cons x xs ih =>
      have hlast : (x :: xs).getLast?.or before = xs.getLast?.or (some x) := by
        cases xs with
        | nil => simp
        | cons y ys => simp [List.getLast?_cons]
      have hhead : (xs ++ ys).head?.or after = xs.head?.or (ys.head?.or after) := by
        cases xs <;> simp
      simp only [List.cons_append, Linked, ih, hlast, hhead, and_assoc]

/-- Redirecting the link that leaves the segment. -/
theorem linked_redirect {cells : Nat → Cell α} {before after target : Option Nat}
    {xs : List Nat} {l : Nat} (h : Linked cells before (xs ++ [l]) after)
    (hnodup : (xs ++ [l]).Nodup) :
    Linked (Function.update cells l { cells l with next := target }) before
      (xs ++ [l]) target := by
  rw [linked_append] at h ⊢
  have hl : l ∉ xs := by
    intro hmem
    exact (List.nodup_append.mp hnodup).2.2 l hmem l (List.mem_singleton_self l) rfl
  refine ⟨linked_congr h.1 ?_, ?_⟩
  · intro n hn
    refine Function.update_of_ne ?_ _ _
    rintro rfl
    exact hl hn
  · simpa [Linked] using ⟨h.2.1, h.2.2.2.1⟩

/-- Redirecting the link by which the segment is entered. -/
theorem linked_enter {cells : Nat → Cell α} {before after : Option Nat}
    {f : Nat} {xs : List Nat} (h : Linked cells before (f :: xs) after)
    (hnodup : (f :: xs).Nodup) (target : Option Nat) :
    Linked (Function.update cells f { cells f with previous := target }) target
      (f :: xs) after := by
  obtain ⟨-, hn, hd, hrest⟩ := h
  refine ⟨by simp, by simpa using hn, by simpa using hd, linked_congr hrest ?_⟩
  intro m hm
  refine Function.update_of_ne ?_ _ _
  rintro rfl
  exact (List.nodup_cons.mp hnodup).1 hm

theorem linked_data {cells : Nat → Cell α} {before after : Option Nat}
    {ns : List Nat} (h : Linked cells before ns after) {n : Nat} (hn : n ∈ ns) :
    (cells n).data.isSome := by
  induction ns generalizing before with
  | nil => exact absurd hn List.not_mem_nil
  | cons m ns ih =>
      obtain ⟨-, -, hd, hrest⟩ := h
      rcases List.mem_cons.mp hn with rfl | hmem
      · exact hd
      · exact ih hrest hmem

@[simp] theorem unlink_self (cells : Nat → Cell α) (n : Nat) :
    unlink cells n n = {} := by
  simp [unlink]

theorem unlink_of_ne (cells : Nat → Cell α) {n m : Nat} (hm : m ≠ n) :
    unlink cells n m =
      { previous :=
          if (cells n).next = some m then (cells n).previous else (cells m).previous
        next :=
          if (cells n).previous = some m then (cells n).next else (cells m).next
        data := (cells m).data } := by
  unfold unlink
  rw [Function.update_of_ne hm]
  cases hp : (cells n).previous with
  | none =>
      cases hq : (cells n).next with
      | none => simp
      | some q =>
          by_cases hqm : q = m
          · subst hqm; simp
          · simp [hqm, Function.update_of_ne (Ne.symm hqm)]
  | some p =>
      cases hq : (cells n).next with
      | none =>
          by_cases hpm : p = m
          · subst hpm; simp
          · simp [hpm, Function.update_of_ne (Ne.symm hpm)]
      | some q =>
          by_cases hqm : q = m
          · subst hqm
            by_cases hpm : p = q
            · subst hpm; simp
            · simp [hpm, Function.update_of_ne (Ne.symm hpm)]
          · by_cases hpm : p = m
            · subst hpm; simp [hqm, Function.update_of_ne (Ne.symm hqm)]
            · simp [hpm, hqm, Function.update_of_ne (Ne.symm hpm),
                Function.update_of_ne (Ne.symm hqm)]

theorem unlink_data (cells : Nat → Cell α) {n m : Nat} (hm : m ≠ n) :
    (unlink cells n m).data = (cells m).data := by
  rw [unlink_of_ne cells hm]

theorem follow_linked {cells : Nat → Cell α} {before : Option Nat} {ns : List Nat}
    (h : Linked cells before ns none) {fuel : Nat} (hf : ns.length ≤ fuel) :
    follow cells fuel ns.head? = ns := by
  induction ns generalizing before fuel with
  | nil => cases fuel <;> rfl
  | cons n ns ih =>
      cases fuel with
      | zero => simp at hf
      | succ fuel =>
          obtain ⟨-, hn, -, hrest⟩ := h
          simp only [List.head?_cons, follow, hn, Option.or_none]
          rw [ih hrest (by simpa using hf)]

theorem contents_congr {cells cells' : Nat → Cell α} {ns : List Nat}
    (h : ∀ n ∈ ns, (cells' n).data = (cells n).data) :
    contents cells' ns = contents cells ns := by
  unfold contents
  exact List.filterMap_congr fun n hn => h n hn

/-- A sublist of distinct cells is determined by its members. -/
theorem eq_filter_of_sublist {β : Type*} [DecidableEq β] {xs ys : List β}
    (h : xs.Sublist ys) (hnodup : ys.Nodup) :
    xs = ys.filter fun n => n ∈ xs := by
  induction h with
  | slnil => rfl
  | cons a hsub ih =>
      obtain ⟨hmem, hrest⟩ := List.nodup_cons.mp hnodup
      rw [List.filter_cons_of_neg (by simpa using fun ha => hmem (hsub.subset ha))]
      exact ih hrest
  | @cons_cons xs ys a hsub ih =>
      obtain ⟨hmem, hrest⟩ := List.nodup_cons.mp hnodup
      rw [List.filter_cons_of_pos (by simp)]
      refine congrArg (a :: ·) ((ih hrest).trans (List.filter_congr fun n hn => ?_))
      have hne : n ≠ a := fun heq => hmem (heq ▸ hn)
      simp [hne]

theorem contents_append (cells : Nat → Cell α) (xs ys : List Nat) :
    contents cells (xs ++ ys) = contents cells xs ++ contents cells ys :=
  List.filterMap_append

theorem contents_cons {cells : Nat → Cell α} {n : Nat} {a : α}
    (ha : (cells n).data = some a) (ns : List Nat) :
    contents cells (n :: ns) = a :: contents cells ns := by
  simp [contents, ha]

theorem mem_contents {cells : Nat → Cell α} {ns : List Nat} {a : α} :
    a ∈ contents cells ns ↔ ∃ n ∈ ns, (cells n).data = some a :=
  List.mem_filterMap

namespace Chain

variable {cells : Nat → Cell α} {first last : Option Nat} {ns : List Nat}

theorem data_isSome (h : Chain cells first last ns) {n : Nat} (hn : n ∈ ns) :
    (cells n).data.isSome :=
  linked_data h.linked hn

theorem mem_of_data (h : Chain cells first last ns) {n : Nat} {a : α}
    (ha : (cells n).data = some a) : n ∈ ns := by
  by_contra hn
  rw [h.free n hn] at ha
  cases ha

theorem follow_eq (h : Chain cells first last ns) {fuel : Nat}
    (hf : ns.length ≤ fuel) : follow cells fuel first = ns := by
  rw [h.first_eq]
  exact follow_linked h.linked hf

theorem next_eq (h : Chain cells first last ns) {pre post : List Nat} {n : Nat}
    (hns : ns = pre ++ n :: post) : (cells n).next = post.head? := by
  have hl := h.linked
  rw [hns, linked_append] at hl
  simpa using hl.2.2.1

theorem previous_eq (h : Chain cells first last ns) {pre post : List Nat} {n : Nat}
    (hns : ns = pre ++ n :: post) : (cells n).previous = pre.getLast? := by
  have hl := h.linked
  rw [hns, linked_append] at hl
  simpa using hl.2.1

/-- Unlinking a member drops it from the list and frees its cell. -/
theorem unlink (h : Chain cells first last ns) {pre post : List Nat} {n : Nat}
    (hns : ns = pre ++ n :: post) :
    Chain (unlink cells n) (pre ++ post).head? (pre ++ post).getLast? (pre ++ post) := by
  have hprev := h.previous_eq hns
  have hnext := h.next_eq hns
  have hnodup : (pre ++ n :: post).Nodup := hns ▸ h.nodup
  have hpre : pre.Nodup := (List.nodup_append.mp hnodup).1
  have hpost : (n :: post).Nodup := (List.nodup_append.mp hnodup).2.1
  have hdisj : ∀ m ∈ pre, ∀ k ∈ n :: post, m ≠ k := (List.nodup_append.mp hnodup).2.2
  have hlinked := h.linked
  rw [hns, linked_append] at hlinked
  have hrest : Linked cells (some n) post none := hlinked.2.2.2.2
  have hnpre : ∀ m ∈ pre, m ≠ n := fun m hm => hdisj m hm n List.mem_cons_self
  have hnpost : ∀ m ∈ post, m ≠ n := by
    rintro m hm rfl
    exact (List.nodup_cons.mp hpost).1 hm
  refine ⟨?_, ?_, rfl, rfl, ?_⟩
  · refine List.nodup_append.mpr ⟨hpre, (List.nodup_cons.mp hpost).2, ?_⟩
    exact fun m hm k hk => hdisj m hm k (List.mem_cons_of_mem n hk)
  · rw [linked_append, Option.or_none, Option.or_none]
    constructor
    · rcases List.eq_nil_or_concat pre with rfl | ⟨init, l, rfl⟩
      · trivial
      · simp only [List.concat_eq_append] at *
        refine linked_congr (linked_redirect hlinked.1 hpre) ?_
        intro m hm
        have hne : post.head? ≠ some m := by
          intro heq
          exact hdisj m hm m (List.mem_cons_of_mem n (List.mem_of_head? heq)) rfl
        rw [unlink_of_ne cells (hnpre m hm), hnext, hprev, if_neg hne]
        by_cases hml : m = l
        · subst hml; simp
        · simp [Ne.symm hml, Function.update_of_ne hml]
    · cases post with
      | nil => trivial
      | cons q rest =>
          refine linked_congr (linked_enter hrest (List.nodup_cons.mp hpost).2 _) ?_
          intro m hm
          have hne : pre.getLast? ≠ some m := by
            intro heq
            exact hdisj m (List.mem_of_getLast? heq) m (List.mem_cons_of_mem n hm) rfl
          rw [unlink_of_ne cells (hnpost m hm), hnext, hprev, if_neg hne]
          by_cases hmq : m = q
          · subst hmq; simp
          · simp [Ne.symm hmq, Function.update_of_ne hmq]
  · intro m hm
    by_cases hmn : m = n
    · subst hmn; exact unlink_self cells m
    · have hmem : m ∉ ns := by
        rw [hns]
        simpa [hmn] using hm
      rw [unlink_of_ne cells hmn, h.free m hmem, hnext, hprev]
      have h1 : post.head? ≠ some m := fun heq =>
        hm (List.mem_append_right pre (List.mem_of_head? heq))
      have h2 : pre.getLast? ≠ some m := fun heq =>
        hm (List.mem_append_left post (List.mem_of_getLast? heq))
      rw [if_neg h1, if_neg h2]

/-- Pushing a free cell puts it in front. -/
theorem push (h : Chain cells first last ns) {n : Nat} (hn : n ∉ ns) (a : α) :
    Chain (push cells first n a) (some n) ((n :: ns).getLast?) (n :: ns) := by
  have hfree := h.free n hn
  have hfirst := h.first_eq
  subst hfirst
  refine ⟨List.nodup_cons.mpr ⟨hn, h.nodup⟩, ?_, rfl, rfl, ?_⟩
  · cases ns with
    | nil => simp [LinkedCells.push, Linked, hfree]
    | cons f rest =>
        have hfn : f ≠ n := fun heq => hn (heq ▸ List.mem_cons_self)
        have hlink := linked_enter h.linked h.nodup (some n)
        have hcell : ∀ m ∈ f :: rest,
            LinkedCells.push cells (some f) n a m =
              Function.update cells f { cells f with previous := some n } m := by
          intro m hm
          have hmn : m ≠ n := fun heq => hn (heq ▸ hm)
          by_cases hmf : m = f
          · subst hmf; simp [LinkedCells.push, Function.update_of_ne hmn]
          · simp [LinkedCells.push, Function.update_of_ne hmf, Function.update_of_ne hmn]
        refine ⟨?_, ?_, ?_, linked_congr hlink hcell⟩ <;>
          simp [LinkedCells.push, Function.update_of_ne (Ne.symm hfn), hfree]
  · intro m hm
    have hmn : m ≠ n := fun heq => hm (heq ▸ List.mem_cons_self)
    have hmns : m ∉ ns := fun hmem => hm (List.mem_cons_of_mem n hmem)
    cases ns with
    | nil => simpa [LinkedCells.push, Function.update_of_ne hmn] using h.free m hmns
    | cons f rest =>
        have hmf : m ≠ f := fun heq => hmns (heq ▸ List.mem_cons_self)
        simpa [LinkedCells.push, Function.update_of_ne hmf, Function.update_of_ne hmn]
          using h.free m hmns

end Chain

theorem push_data_self (cells : Nat → Cell α) {first : Option Nat} {n : Nat} (a : α)
    (hf : first ≠ some n) : (push cells first n a n).data = some a := by
  cases first with
  | none => simp [push]
  | some f =>
      have hfn : n ≠ f := fun heq => hf (by rw [heq])
      simp [push, Function.update_of_ne hfn]

theorem push_data_of_ne (cells : Nat → Cell α) {first : Option Nat} {n m : Nat} (a : α)
    (hm : m ≠ n) : (push cells first n a m).data = (cells m).data := by
  cases first with
  | none => simp [push, Function.update_of_ne hm]
  | some f =>
      by_cases hmf : m = f
      · subst hmf; simp [push, Function.update_of_ne hm]
      · simp [push, Function.update_of_ne hmf, Function.update_of_ne hm]

end LinkedCells
