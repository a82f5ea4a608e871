import Mathlib.Data.List.InsertIdx
import Opener.Core.AllocatedList
import Opener.Library.LinkedNodes
import Opener.Library.Runs

/-!
Doubly linked lists under every order of calls. Each insertion links a new node in between two
parts of the list and each removal takes a member out, whichever of its branches is taken.
-/

namespace Opener

open LinkedCells (Cell)

open LinkedNodes

variable {α σ : Type}

/-- The allocator returns a zeroed node that was not allocated. -/
def NodeMemoryAllocator.Serves (allocator : NodeMemoryAllocator α σ) (memory : NodeMemory α σ) :
    Prop :=
  ∃ newNode memory', allocator memory = (some newNode, memory') ∧ memory.nodes newNode = none ∧
    memory'.nodes = Function.update memory.nodes newNode (some {})

/-- The deallocator frees the node it is given. -/
def NodeMemoryDeallocator.Frees (deallocator : NodeMemoryDeallocator α σ) : Prop :=
  ∀ node memory, memory.nodes node ≠ none →
    (deallocator (some node) memory).2.nodes = Function.update memory.nodes node none

namespace ListCall

/-- The node that a call is made on. -/
def node : ListCall α → Option Nat
  | .insertAtHead _ | .insertAtTail _ => none
  | .insertBeforeNode node _ | .insertAfterNode node _ | .removeNode node => some node

def allocates : ListCall α → Bool
  | .removeNode _ => false
  | _ => true

/-- What a call does to a sequence that has an entry for each of the nodes. -/
def prescribe {β : Type} (value : Option α → β) (nodes : List Nat) (sequence : List β) :
    ListCall α → List β
  | .insertAtHead data => value data :: sequence
  | .insertAtTail data => sequence ++ [value data]
  | .insertBeforeNode node data => sequence.insertIdx (nodes.idxOf node) (value data)
  | .insertAfterNode node data => sequence.insertIdx (nodes.idxOf node + 1) (value data)
  | .removeNode node => sequence.eraseIdx (nodes.idxOf node)

theorem prescribe_map {β γ : Type} (value : Option α → β) (f : β → γ) (nodes : List Nat)
    (sequence : List β) (call : ListCall α) :
    (call.prescribe value nodes sequence).map f =
      call.prescribe (f ∘ value) nodes (sequence.map f) := by
  cases call with
  | insertAtHead data => rfl
  | insertAtTail data => exact List.map_append
  | insertBeforeNode node data => exact List.map_insertIdx f _ _ _
  | insertAfterNode node data => exact List.map_insertIdx f _ _ _
  | removeNode node => exact (List.eraseIdx_map f _ _).symm

end ListCall

namespace AllocatedList

/-- A node that was allocated since the start and is not freed. -/
def Member (start : NodeMemory α σ) (list : AllocatedList α σ) (node : Nat) : Prop :=
  start.nodes node = none ∧ list.memory.nodes node ≠ none

/-- The list is well formed, has these nodes in this order, and they hold these data. -/
structure Represents (start : NodeMemory α σ) (list : AllocatedList α σ) (nodes : List Nat)
    (data : List (Option α)) : Prop where
  forward : Visits list.memory.nodes (·.next) list.first nodes
  backward : Visits list.memory.nodes (·.previous) list.last nodes.reverse
  once : nodes.Nodup
  mem_iff : ∀ n, n ∈ nodes ↔ list.Member start n
  ends_at_last : nodes.getLast? = list.last
  first_previous : ∀ n node, list.first = some n → list.memory.nodes n = some node →
    node.previous = none
  last_next : ∀ n node, list.last = some n → list.memory.nodes n = some node → node.next = none
  first_iff_last : list.first = none ↔ list.last = none
  contents : nodes.map (fun n => (list.memory.nodes n).map (·.data)) = data.map some
  others : ∀ n, start.nodes n ≠ none → list.memory.nodes n = start.nodes n

/-- A call is made on members of the list, and a new node is there if it takes one. -/
def Admitted (allocator : NodeMemoryAllocator α σ) (start : NodeMemory α σ) (call : ListCall α)
    (list : AllocatedList α σ) : Prop :=
  (∀ node, call.node = some node → list.Member start node) ∧
    (call.allocates = true → allocator.Serves list.memory)

/-- The list and its data are determined by the memory. -/
theorem Represents.unique {start : NodeMemory α σ} {list : AllocatedList α σ}
    {nodes nodes' : List Nat} {data data' : List (Option α)}
    (h : list.Represents start nodes data) (h' : list.Represents start nodes' data') :
    nodes = nodes' ∧ data = data' := by
  obtain rfl := h.forward.unique h'.forward
  refine ⟨rfl, ?_⟩
  have hsome : data.map some = data'.map some := h.contents.symm.trans h'.contents
  exact List.map_injective_iff.mpr (Option.some_injective _) hsome

/-- The list itself is the same. -/
structure SameEnds (list list' : AllocatedList α σ) : Prop where
  first : list'.first = list.first
  last : list'.last = list.last
  allocator : list'.allocator = list.allocator
  deallocator : list'.deallocator = list.deallocator

section Steps

variable {list : AllocatedList α σ} {nodes : Heap α} {n : Nat} {node : Cell α}

@[simp] theorem withNodes_first (list : AllocatedList α σ) (nodes : Heap α) :
    (list.withNodes nodes).first = list.first := rfl

@[simp] theorem withNodes_last (list : AllocatedList α σ) (nodes : Heap α) :
    (list.withNodes nodes).last = list.last := rfl

@[simp] theorem withNodes_nodes (list : AllocatedList α σ) (nodes : Heap α) :
    (list.withNodes nodes).memory.nodes = nodes := rfl

theorem update_ne_none {m : Nat} (h : nodes m ≠ none) (node : Cell α) :
    Function.update nodes n (some node) m ≠ none := by
  by_cases hm : m = n
  · rw [hm, Function.update_self]
    exact Option.some_ne_none node
  · rwa [Function.update_of_ne hm]

theorem some_ne_of_free {newNode : Nat} (h : nodes n ≠ none) (hfree : nodes newNode = none) :
    some n ≠ some newNode := fun heq => h (Option.some.inj heq ▸ hfree)

theorem readNode_ok (h : list.memory.nodes n = some node) :
    list.readNode (some n) = .ok node := by
  rw [readNode, h]

theorem modifyNode_ok (h : list.memory.nodes n ≠ none) (f : Cell α → Cell α) :
    list.modifyNode (some n) f = .ok (list.withNodes (adjust list.memory.nodes (some n) f)) := by
  obtain ⟨node, hnode⟩ := Option.ne_none_iff_exists'.mp h
  rw [modifyNode, hnode, adjust_eq_update hnode]

theorem readNode_withNodes (h : nodes n = some node) :
    (list.withNodes nodes).readNode (some n) = .ok node := readNode_ok h

theorem modifyNode_withNodes (h : nodes n ≠ none) (f : Cell α → Cell α) :
    (list.withNodes nodes).modifyNode (some n) f =
      .ok (list.withNodes (adjust nodes (some n) f)) := modifyNode_ok h f

@[simp] theorem modifyNode_update (list : AllocatedList α σ) (nodes : Heap α) (n : Nat)
    (node : Cell α) (f : Cell α → Cell α) :
    (list.withNodes (Function.update nodes n (some node))).modifyNode (some n) f =
      .ok (list.withNodes (Function.update nodes n (some (f node)))) := by
  have hnode : Function.update nodes n (some node) n = some node := Function.update_self n _ _
  have hpresent : Function.update nodes n (some node) n ≠ none := by
    rw [hnode]
    exact Option.some_ne_none node
  rw [modifyNode_withNodes hpresent, adjust_eq_update hnode, Function.update_idem]

theorem modifyUnlessNull_ok {pointer : Option Nat}
    (h : ∀ n, pointer = some n → list.memory.nodes n ≠ none) (f : Cell α → Cell α) :
    list.modifyUnlessNull pointer f =
      .ok (list.withNodes (adjust list.memory.nodes pointer f)) := by
  rw [modifyUnlessNull]
  cases pointer with
  | none =>
      rw [if_neg (not_not.mpr rfl), adjust_none]
      rfl
  | some n => rw [if_pos (Option.some_ne_none n), modifyNode_ok (h n rfl)]

/-- `DoublyLinkedListNodeCreate` gives a node with the data. -/
theorem nodeCreate_ok {allocator : NodeMemoryAllocator α σ} (h : allocator.Serves list.memory)
    (data : Option α) :
    ∃ newNode list',
      list.nodeCreate data allocator =
        .ok (some newNode,
          list'.withNodes (Function.update list.memory.nodes newNode (some { data }))) ∧
      list.SameEnds list' ∧ list.memory.nodes newNode = none ∧
      (allocator list.memory).1 = some newNode := by
  obtain ⟨newNode, memory, hallocated, hfree, hmemory⟩ := h
  let list' : AllocatedList α σ := { list with memory }
  have hlist' : list' = list'.withNodes (Function.update list.memory.nodes newNode (some {})) := by
    rw [← hmemory]
    rfl
  refine ⟨newNode, list', ?_, ⟨rfl, rfl, rfl, rfl⟩, hfree, congrArg Prod.fst hallocated⟩
  rw [nodeCreate, hallocated]
  change list'.modifyNode _ _ >>= _ = _
  rw [hlist', modifyNode_update]
  rfl

theorem nodeDestroy_ok {deallocator : NodeMemoryDeallocator α σ} (hfrees : deallocator.Frees)
    (hdeallocator : list.deallocator = some deallocator) (h : list.memory.nodes n ≠ none) :
    ∃ pointer list', list.nodeDestroy (some n) = .ok (pointer, list') ∧ list.SameEnds list' ∧
      list'.memory.nodes = Function.update list.memory.nodes n none := by
  rw [nodeDestroy, hdeallocator]
  exact ⟨_, _, rfl, ⟨rfl, rfl, rfl, hdeallocator.symm⟩, hfrees n list.memory h⟩

end Steps

/-- The list was set up with the allocator and the deallocator, has the members, and nothing
else was changed in the memory since the start. -/
structure Holds (allocator : NodeMemoryAllocator α σ) (deallocator : NodeMemoryDeallocator α σ)
    (start : NodeMemory α σ) (list : AllocatedList α σ) (members : List (Nat × Option α)) :
    Prop where
  allocator_eq : list.allocator = some allocator
  deallocator_eq : list.deallocator = some deallocator
  chain : Chain list.memory.nodes list.first list.last members
  fresh : ∀ n ∈ addresses members, start.nodes n = none
  others : ∀ n, n ∉ addresses members → list.memory.nodes n = start.nodes n

namespace Holds

variable {allocator : NodeMemoryAllocator α σ} {deallocator : NodeMemoryDeallocator α σ}
  {start : NodeMemory α σ} {list list' : AllocatedList α σ} {members xs ys : List (Nat × Option α)}
  {n : Nat} {data : Option α}

theorem allocated (h : Holds allocator deallocator start list members) {n : Nat}
    (hn : n ∈ addresses members) : list.memory.nodes n ≠ none :=
  h.chain.segment.allocated hn

/-- A new node is linked in between two parts of the list. -/
theorem linkIn (xs ys : List (Nat × Option α))
    (h : Holds allocator deallocator start list (xs ++ ys))
    (hn : list.memory.nodes n = none) (hallocator : list'.allocator = list.allocator)
    (hdeallocator : list'.deallocator = list.deallocator)
    (hnodes : list'.memory.nodes =
      LinkedNodes.linkIn list.memory.nodes (exit xs none) (entry ys none) n data)
    (hfirst : list'.first = entry (xs ++ (n, data) :: ys) none)
    (hlast : list'.last = exit (xs ++ (n, data) :: ys) none) :
    Holds allocator deallocator start list' (xs ++ (n, data) :: ys) := by
  have hnew : n ∉ addresses (xs ++ ys) := fun hmem => h.allocated hmem hn
  refine ⟨hallocator.trans h.allocator_eq, hdeallocator.trans h.deallocator_eq, ?_,
    fun m hm => ?_, fun m hm => ?_⟩
  · rw [hnodes, hfirst, hlast]
    exact h.chain.linkIn hnew
  · rcases mem_addresses_middle.mp hm with rfl | hold
    · rw [← h.others m hnew, hn]
    · exact h.fresh m hold
  · obtain ⟨hne, hold⟩ := not_or.mp (mt mem_addresses_middle.mpr hm)
    have hparts := hold
    rw [addresses_append, List.mem_append, not_or] at hparts
    rw [hnodes, linkIn_of_ne hne (fun heq => hparts.1 (mem_of_exit heq))
      (fun heq => hparts.2 (mem_of_entry heq)), h.others m hold]

theorem linkOut (h : Holds allocator deallocator start list (xs ++ (n, data) :: ys))
    (hallocator : list'.allocator = list.allocator)
    (hdeallocator : list'.deallocator = list.deallocator)
    (hnodes : list'.memory.nodes =
      LinkedNodes.linkOut list.memory.nodes (exit xs none) (entry ys none) n)
    (hfirst : list'.first = entry (xs ++ ys) none) (hlast : list'.last = exit (xs ++ ys) none) :
    Holds allocator deallocator start list' (xs ++ ys) := by
  refine ⟨hallocator.trans h.allocator_eq, hdeallocator.trans h.deallocator_eq, ?_,
    fun m hm => h.fresh m (mem_addresses_middle.mpr (.inr hm)), fun m hm => ?_⟩
  · rw [hnodes, hfirst, hlast]
    exact h.chain.linkOut
  · rw [hnodes]
    by_cases hne : m = n
    · subst hne
      rw [LinkedNodes.linkOut, if_pos rfl, h.fresh m (mem_addresses_middle.mpr (.inl rfl))]
    · have hparts := hm
      rw [addresses_append, List.mem_append, not_or] at hparts
      rw [linkOut_of_ne hne (fun heq => hparts.1 (mem_of_exit heq))
        (fun heq => hparts.2 (mem_of_entry heq))]
      exact h.others m fun hold => (mem_addresses_middle.mp hold).elim hne hm

theorem insertAtHead (h : Holds allocator deallocator start list members)
    (hserves : allocator.Serves list.memory) (data : Option α) :
    ∃ newNode list', list.insertAtHead data = .ok list' ∧
      Holds allocator deallocator start list' ((newNode, data) :: members) ∧
      (allocator list.memory).1 = some newNode := by
  obtain ⟨newNode, created, hcreate, hsame, hfree, hnew⟩ := nodeCreate_ok hserves data
  have hnone : none ≠ some newNode := (Option.some_ne_none newNode).symm
  rw [AllocatedList.insertAtHead, assertAllocator, h.allocator_eq]
  simp only [bind, Except.bind, hcreate, withNodes_first, hsame.first, modifyNode_update]
  cases members with
  | nil =>
      rw [if_pos (h.chain.first_eq_none_iff.mpr rfl)]
      refine ⟨newNode, _, rfl,
        linkIn [] [] h hfree hsame.allocator hsame.deallocator ?_ rfl rfl, hnew⟩
      rw [exit, entry, linkIn_eq hnone hnone, adjust_none, adjust_none]
      rfl
  | cons member members =>
      have hfirst : list.first = some member.1 := h.chain.first_eq
      have hmember : list.memory.nodes member.1 ≠ none := h.allocated List.mem_cons_self
      have hne := some_ne_of_free hmember hfree
      rw [hfirst, if_neg (Option.some_ne_none _), modifyNode_withNodes (update_ne_none hmember _)]
      refine ⟨newNode, _, rfl, linkIn [] (member :: members) h hfree hsame.allocator
        hsame.deallocator ?_ rfl (hsame.last.trans h.chain.last_eq), hnew⟩
      rw [exit, entry, linkIn_eq hnone hne, adjust_none]
      rfl

theorem insertAtTail (h : Holds allocator deallocator start list members)
    (hserves : allocator.Serves list.memory) (data : Option α) :
    ∃ newNode list', list.insertAtTail data = .ok list' ∧
      Holds allocator deallocator start list' (members ++ [(newNode, data)]) := by
  obtain ⟨newNode, created, hcreate, hsame, hfree, -⟩ := nodeCreate_ok hserves data
  have hnone : none ≠ some newNode := (Option.some_ne_none newNode).symm
  have hmembers : Holds allocator deallocator start list (members ++ []) :=
    (List.append_nil members).symm ▸ h
  rw [AllocatedList.insertAtTail, assertAllocator, h.allocator_eq]
  simp only [bind, Except.bind, hcreate, withNodes_last, hsame.last, modifyNode_update]
  rcases List.eq_nil_or_concat members with rfl | ⟨others, member, rfl⟩
  · rw [if_pos (h.chain.last_eq_none_iff.mpr rfl)]
    refine ⟨newNode, _, rfl,
      linkIn [] [] hmembers hfree hsame.allocator hsame.deallocator ?_ rfl rfl⟩
    rw [exit, entry, linkIn_eq hnone hnone, adjust_none, adjust_none]
    rfl
  · rw [List.concat_eq_append] at h hmembers ⊢
    have hothers : others ++ [member] ≠ [] :=
      List.append_ne_nil_of_right_ne_nil _ (List.cons_ne_nil _ _)
    have hexit : exit (others ++ [member]) none = some member.1 := exit_append_singleton _ _ _
    have hlast : list.last = some member.1 := h.chain.last_eq.trans hexit
    have hmember : list.memory.nodes member.1 ≠ none := h.allocated (mem_of_exit hexit)
    have hne := some_ne_of_free hmember hfree
    rw [hlast, if_neg (Option.some_ne_none _), modifyNode_withNodes (update_ne_none hmember _)]
    refine ⟨newNode, _, rfl, linkIn (others ++ [member]) [] hmembers hfree hsame.allocator
      hsame.deallocator ?_ ?_ (exit_append_singleton _ (newNode, data) _).symm⟩
    · rw [hexit, entry, linkIn_eq hne hnone, adjust_none]
      rfl
    · refine (hsame.first.trans h.chain.first_eq).trans ?_
      exact (entry_append_of_ne_nil hothers _ _).symm

theorem insertBeforeNode {d : Option α}
    (h : Holds allocator deallocator start list (xs ++ (n, d) :: ys))
    (hserves : allocator.Serves list.memory) (data : Option α) :
    ∃ newNode list', list.insertBeforeNode (some n) data = .ok list' ∧
      Holds allocator deallocator start list' (xs ++ (newNode, data) :: (n, d) :: ys) := by
  rw [AllocatedList.insertBeforeNode, assertAllocator, h.allocator_eq]
  simp only [bind, Except.bind]
  rcases List.eq_nil_or_concat xs with rfl | ⟨others, member, rfl⟩
  · -- in front of the first member it is an insertion at the head
    rw [if_pos (h.chain.first_eq_some_iff.mpr rfl)]
    obtain ⟨newNode, list', hinsert, hlist', -⟩ := h.insertAtHead hserves data
    exact ⟨newNode, list', hinsert, hlist'⟩
  · rw [List.concat_eq_append] at h ⊢
    obtain ⟨newNode, created, hcreate, hsame, hfree, -⟩ := nodeCreate_ok hserves data
    have hothers : others ++ [member] ≠ [] :=
      List.append_ne_nil_of_right_ne_nil _ (List.cons_ne_nil _ _)
    have hexit : exit (others ++ [member]) none = some member.1 := exit_append_singleton _ _ _
    have hfirst : list.first ≠ some n :=
      mt h.chain.first_eq_some_iff.mp hothers
    have hnode := h.chain.node_eq
    have hpresent : list.memory.nodes n ≠ none := hnode ▸ Option.some_ne_none _
    have hmember : list.memory.nodes member.1 ≠ none := by
      refine h.allocated ?_
      rw [addresses_append]
      exact List.mem_append_left _ (mem_of_exit hexit)
    have hne := some_ne_of_free hpresent hfree
    have hneMember := some_ne_of_free hmember hfree
    rw [if_neg hfirst]
    simp only [hcreate]
    rw [readNode_withNodes
      ((Function.update_of_ne (fun heq => hne (congrArg some heq)) _ _).trans hnode), hexit]
    simp only [modifyNode_update]
    rw [modifyNode_withNodes (update_ne_none hpresent _)]
    simp only
    rw [readNode_withNodes ((adjust_of_ne hne _).trans (Function.update_self newNode _ _))]
    simp only
    rw [modifyNode_withNodes (adjust_eq_none_iff.not.mpr (update_ne_none hmember _))]
    refine ⟨newNode, _, rfl, linkIn (others ++ [member]) ((n, d) :: ys) h hfree hsame.allocator
      hsame.deallocator ?_ ?_ ?_⟩
    · rw [hexit, entry, linkIn_eq hneMember hne]
      rfl
    · refine (hsame.first.trans h.chain.first_eq).trans ?_
      rw [entry_append_of_ne_nil hothers, entry_append_of_ne_nil hothers]
    · refine (hsame.last.trans h.chain.last_eq).trans ?_
      rw [exit_append_cons, exit_append_cons, exit]

theorem insertAfterNode {d : Option α}
    (h : Holds allocator deallocator start list (xs ++ (n, d) :: ys))
    (hserves : allocator.Serves list.memory) (data : Option α) :
    ∃ newNode list', list.insertAfterNode (some n) data = .ok list' ∧
      Holds allocator deallocator start list' (xs ++ (n, d) :: (newNode, data) :: ys) := by
  rw [AllocatedList.insertAfterNode, assertAllocator, h.allocator_eq]
  simp only [bind, Except.bind]
  cases ys with
  | nil =>
      rw [if_pos (h.chain.last_eq_some_iff.mpr rfl)]
      obtain ⟨newNode, list', hinsert, hlist'⟩ := h.insertAtTail hserves data
      rw [List.append_assoc] at hlist'
      exact ⟨newNode, list', hinsert, hlist'⟩
  | cons member ys =>
      obtain ⟨newNode, created, hcreate, hsame, hfree, -⟩ := nodeCreate_ok hserves data
      have hlast : list.last ≠ some n := mt h.chain.last_eq_some_iff.mp (List.cons_ne_nil _ _)
      have hnode := h.chain.node_eq
      have hpresent : list.memory.nodes n ≠ none := hnode ▸ Option.some_ne_none _
      have hmember : list.memory.nodes member.1 ≠ none := by
        refine h.allocated ?_
        rw [addresses_append]
        exact List.mem_append_right _ (List.mem_cons_of_mem _ List.mem_cons_self)
      have hne := some_ne_of_free hpresent hfree
      have hneMember := some_ne_of_free hmember hfree
      have hread : ∀ node, Function.update list.memory.nodes newNode (some node) n =
          some { previous := exit xs none, next := some member.1, data := d } := fun node =>
        (Function.update_of_ne (fun heq => hne (congrArg some heq)) _ _).trans hnode
      rw [if_neg hlast]
      simp only [hcreate, modifyNode_update]
      rw [readNode_withNodes (hread _)]
      simp only
      rw [readNode_withNodes (hread _)]
      simp only
      rw [modifyNode_withNodes (update_ne_none hmember _)]
      simp only
      rw [modifyNode_withNodes (adjust_eq_none_iff.not.mpr (update_ne_none hpresent _))]
      have hexit : exit (xs ++ [(n, d)]) none = some n := exit_append_singleton _ _ _
      have hbehind := h
      rw [List.append_cons] at hbehind
      refine ⟨newNode, _, rfl, ?_⟩
      rw [List.append_cons]
      refine linkIn (xs ++ [(n, d)]) (member :: ys) hbehind hfree hsame.allocator
        hsame.deallocator ?_ ?_ ?_
      · rw [hexit, entry, linkIn_eq hne hneMember]
        rfl
      · refine (hsame.first.trans h.chain.first_eq).trans ?_
        rw [List.append_assoc, entry_append, entry_append]
        rfl
      · refine (hsame.last.trans hbehind.chain.last_eq).trans ?_
        rw [exit_append_cons, exit_append_cons, exit]

/-- A member is freed after its neighbours were linked past it. -/
theorem destroyUnlinked (hfrees : deallocator.Frees)
    (h : Holds allocator deallocator start list (xs ++ (n, data) :: ys))
    (hallocator : list'.allocator = list.allocator)
    (hdeallocator : list'.deallocator = list.deallocator)
    (hnodes : list'.memory.nodes =
      adjust
        (adjust list.memory.nodes (exit xs none) fun node => { node with next := entry ys none })
        (entry ys none) fun node => { node with previous := exit xs none })
    (hfirst : list'.first = entry (xs ++ ys) none) (hlast : list'.last = exit (xs ++ ys) none) :
    ∃ pointer list'', list'.nodeDestroy (some n) = .ok (pointer, list'') ∧
      Holds allocator deallocator start list'' (xs ++ ys) := by
  have hpresent : list'.memory.nodes n ≠ none := by
    rw [hnodes, Ne, adjust_eq_none_iff, adjust_eq_none_iff]
    exact h.allocated (mem_addresses_middle.mpr (.inl rfl))
  obtain ⟨pointer, list'', hdestroy, hsame, hfreed⟩ :=
    nodeDestroy_ok hfrees (hdeallocator.trans h.deallocator_eq) hpresent
  refine ⟨pointer, list'', hdestroy, h.linkOut (hsame.allocator.trans hallocator)
    (hsame.deallocator.trans hdeallocator) ?_ (hsame.first.trans hfirst)
    (hsame.last.trans hlast)⟩
  rw [hfreed, hnodes, linkOut_eq]

theorem removeNode (hfrees : deallocator.Frees)
    (h : Holds allocator deallocator start list (xs ++ (n, data) :: ys)) :
    ∃ pointer list', list.removeNode (some n) = .ok (pointer, list') ∧
      Holds allocator deallocator start list' (xs ++ ys) := by
  have hfirst := h.chain.first_without
  have hlast := h.chain.last_without
  rw [AllocatedList.removeNode]
  simp only [readNode_ok h.chain.node_eq, bind, Except.bind]
  by_cases honly : some n = list.first ∧ some n = list.last
  · rw [if_pos honly]
    obtain rfl := h.chain.first_eq_some_iff.mp honly.1.symm
    obtain rfl := h.chain.last_eq_some_iff.mp honly.2.symm
    refine h.destroyUnlinked hfrees rfl rfl ?_ rfl rfl
    rw [exit, entry, adjust_none, adjust_none]
  · rw [if_neg honly]
    have hprevious : ∀ m, exit xs none = some m → list.memory.nodes m ≠ none := by
      intro m hm
      refine h.allocated (mem_addresses_middle.mpr (.inr ?_))
      rw [addresses_append]
      exact List.mem_append_left _ (mem_of_exit hm)
    have hnext : ∀ m, entry ys none = some m → list.memory.nodes m ≠ none := by
      intro m hm
      refine h.allocated (mem_addresses_middle.mpr (.inr ?_))
      rw [addresses_append]
      exact List.mem_append_right _ (mem_of_entry hm)
    -- an end that pointed to the member now points to its neighbour
    generalize hentered : (if some n = list.first then
      { list with first := entry ys none } else list) = entered
    generalize hleft : (if some n = entered.last then
      { entered with last := exit xs none } else entered) = left
    have hends : left.first = entry (xs ++ ys) none ∧ left.last = exit (xs ++ ys) none := by
      rw [← hleft, ← hfirst, ← hlast, ← hentered]
      split <;> split <;> exact ⟨rfl, rfl⟩
    have hsame : left.memory = list.memory ∧ left.allocator = list.allocator ∧
        left.deallocator = list.deallocator := by
      rw [← hleft, ← hentered]
      split <;> split <;> exact ⟨rfl, rfl, rfl⟩
    obtain ⟨hmemory, hallocator, hdeallocator⟩ := hsame
    rw [modifyUnlessNull_ok (hmemory ▸ hprevious)]
    simp only
    rw [modifyUnlessNull_ok fun m hm => adjust_eq_none_iff.not.mpr (hmemory ▸ hnext m hm)]
    refine h.destroyUnlinked hfrees hallocator hdeallocator ?_ hends.1 hends.2
    rw [withNodes_nodes, withNodes_nodes, hmemory]

theorem member_iff (h : Holds allocator deallocator start list members) :
    n ∈ addresses members ↔ list.Member start n := by
  refine ⟨fun hn => ⟨h.fresh n hn, h.allocated hn⟩, fun hmember => ?_⟩
  by_contra hn
  exact hmember.2 ((h.others n hn).trans hmember.1)

theorem represents (h : Holds allocator deallocator start list members) :
    list.Represents start (addresses members) (contents members) where
  forward := by
    rw [h.chain.first_eq]
    exact h.chain.segment.visits_next
  backward := by
    rw [h.chain.last_eq]
    exact h.chain.segment.visits_previous
  once := h.chain.nodup
  mem_iff _ := h.member_iff
  ends_at_last := (h.chain.last_eq.trans (exit_eq_getLast? members)).symm
  first_previous := by
    intro n node hfirst hnode
    cases members with
    | nil => cases h.chain.first_eq.symm.trans hfirst
    | cons member members =>
        obtain rfl := Option.some.inj (h.chain.first_eq.symm.trans hfirst)
        obtain rfl := Option.some.inj (h.chain.segment.1.symm.trans hnode)
        rfl
  last_next := by
    intro n node hlast hnode
    rcases List.eq_nil_or_concat members with rfl | ⟨others, member, rfl⟩
    · cases h.chain.last_eq.symm.trans hlast
    · have hsegment := h.chain.segment
      have hexit := h.chain.last_eq
      rw [List.concat_eq_append] at hsegment hexit
      rw [exit_append_singleton] at hexit
      obtain rfl := Option.some.inj (hexit.symm.trans hlast)
      have hmember := ((segment_append_singleton others member.1 member.2).mp hsegment).2
      obtain rfl := Option.some.inj (hmember.symm.trans hnode)
      rfl
  first_iff_last := h.chain.first_eq_none_iff.trans h.chain.last_eq_none_iff.symm
  contents := by
    rw [addresses, LinkedNodes.contents, List.map_map, List.map_map]
    refine List.map_congr_left fun member hmember => ?_
    obtain ⟨node, hnode, hdata⟩ := h.chain.segment.node hmember
    change (list.memory.nodes member.1).map (·.data) = some member.2
    rw [hnode, Option.map_some, hdata]
  others := by
    intro n hn
    exact h.others n fun hmem => hn (h.fresh n hmem)

/-- Every call that is admitted ends and does what is prescribed. -/
theorem step (hfrees : deallocator.Frees) (h : Holds allocator deallocator start list members)
    {call : ListCall α} (hadmitted : Admitted allocator start call list) :
    ∃ newNode list', AllocatedList.step call list = .ok list' ∧
      Holds allocator deallocator start list'
        (call.prescribe (Prod.mk newNode) (addresses members) members) := by
  obtain ⟨hmember, hserves⟩ := hadmitted
  cases call with
  | insertAtHead data =>
      obtain ⟨newNode, list', hinsert, hlist', -⟩ := h.insertAtHead (hserves rfl) data
      exact ⟨newNode, list', hinsert, hlist'⟩
  | insertAtTail data => exact h.insertAtTail (hserves rfl) data
  | insertBeforeNode node data =>
      obtain ⟨xs, d, ys, rfl⟩ := exists_middle (h.member_iff.mpr (hmember node rfl))
      obtain ⟨newNode, list', hinsert, hlist'⟩ := h.insertBeforeNode (hserves rfl) data
      refine ⟨newNode, list', hinsert, ?_⟩
      rw [ListCall.prescribe, idxOf_middle h.chain.nodup_parts.1, insertIdx_length]
      exact hlist'
  | insertAfterNode node data =>
      obtain ⟨xs, d, ys, rfl⟩ := exists_middle (h.member_iff.mpr (hmember node rfl))
      obtain ⟨newNode, list', hinsert, hlist'⟩ := h.insertAfterNode (hserves rfl) data
      refine ⟨newNode, list', hinsert, ?_⟩
      have hlength : xs.length + 1 = (xs ++ [(node, d)]).length := by
        rw [List.length_append, List.length_singleton]
      rw [ListCall.prescribe, idxOf_middle h.chain.nodup_parts.1, hlength, List.append_cons,
        insertIdx_length, List.append_assoc]
      exact hlist'
  | removeNode node =>
      obtain ⟨xs, d, ys, rfl⟩ := exists_middle (h.member_iff.mpr (hmember node rfl))
      obtain ⟨pointer, list', hremove, hlist'⟩ := h.removeNode hfrees
      refine ⟨node, list', ?_, ?_⟩
      · rw [AllocatedList.step, hremove]
        rfl
      · rw [ListCall.prescribe, idxOf_middle h.chain.nodup_parts.1, eraseIdx_length]
        exact hlist'

end Holds

theorem Holds.unique {allocator : NodeMemoryAllocator α Unit}
    {deallocator : NodeMemoryDeallocator α Unit} {start : NodeMemory α Unit}
    {list list' : AllocatedList α Unit} {members : List (Nat × Option α)}
    (h : Holds allocator deallocator start list members)
    (h' : Holds allocator deallocator start list' members) : list = list' := by
  have hnodes : list.memory.nodes = list'.memory.nodes := by
    funext n
    by_cases hn : n ∈ addresses members
    · exact h.chain.segment.node_unique h'.chain.segment hn
    · rw [h.others n hn, h'.others n hn]
  have hmemory : list.memory = list'.memory :=
    congrArg (fun nodes => (⟨nodes, ()⟩ : NodeMemory α Unit)) hnodes
  have hfirst := h.chain.first_eq.trans h'.chain.first_eq.symm
  have hlast := h.chain.last_eq.trans h'.chain.last_eq.symm
  have hallocator := h.allocator_eq.trans h'.allocator_eq.symm
  have hdeallocator := h.deallocator_eq.trans h'.deallocator_eq.symm
  cases list
  cases list'
  simp only at hmemory hfirst hlast hallocator hdeallocator
  rw [hmemory, hfirst, hlast, hallocator, hdeallocator]

theorem holds_initialized (allocator : NodeMemoryAllocator α σ)
    (deallocator : NodeMemoryDeallocator α σ) (start : NodeMemory α σ) :
    Holds allocator deallocator start (initialized allocator deallocator start) [] where
  allocator_eq := rfl
  deallocator_eq := rfl
  chain := .nil start.nodes
  fresh _ hmem := absurd hmem List.not_mem_nil
  others _ _ := rfl

theorem reaches_holds {allocator : NodeMemoryAllocator α σ}
    {deallocator : NodeMemoryDeallocator α σ} {start : NodeMemory α σ} {list : AllocatedList α σ}
    (hfrees : deallocator.Frees)
    (hrun : Runs.Reaches step (Admitted allocator start) (initialized allocator deallocator start)
      list) :
    ∃ members, Holds allocator deallocator start list members := by
  refine hrun.invariant (fun list => ∃ members, Holds allocator deallocator start list members)
    ⟨[], holds_initialized allocator deallocator start⟩ ?_
  rintro call list list' ⟨members, h⟩ hadmitted htaken
  obtain ⟨newNode, result, hstep, hresult⟩ := h.step hfrees hadmitted
  obtain rfl := Except.ok.inj (hstep.symm.trans htaken)
  exact ⟨_, hresult⟩

/-- In every run the list is well formed, and each call on its members ends and changes the
sequence of the data as it is prescribed. -/
theorem reaches_represents {allocator : NodeMemoryAllocator α σ}
    {deallocator : NodeMemoryDeallocator α σ} {start : NodeMemory α σ} {list : AllocatedList α σ}
    (hfrees : deallocator.Frees)
    (hrun : Runs.Reaches step (Admitted allocator start) (initialized allocator deallocator start)
      list) :
    ∃ nodes data, list.Represents start nodes data ∧
      ∀ call, Admitted allocator start call list →
        ∃ newNode list', step call list = .ok list' ∧
          list'.Represents start (call.prescribe (fun _ => newNode) nodes nodes)
            (call.prescribe id nodes data) := by
  obtain ⟨members, h⟩ := reaches_holds hfrees hrun
  refine ⟨_, _, h.represents, fun call hadmitted => ?_⟩
  obtain ⟨newNode, list', hstep, hlist'⟩ := h.step hfrees hadmitted
  refine ⟨newNode, list', hstep, ?_⟩
  have hrepresents := hlist'.represents
  rw [addresses, LinkedNodes.contents, ListCall.prescribe_map, ListCall.prescribe_map]
    at hrepresents
  exact hrepresents

theorem callocDeallocator_frees : (callocDeallocator : NodeMemoryDeallocator α σ).Frees :=
  fun _ _ _ => rfl

/-- Of two data, the second of them NULL and put in front, the first is removed. -/
theorem reaches_represents_calloc :
    ∃ list list' : AllocatedList Nat Nat,
      Runs.runLabels step [.insertAtTail (some 5), .insertAtHead none]
        (initialized callocAllocator callocDeallocator ⟨fun _ => none, 0⟩) = .ok list ∧
      step (.removeNode 0) list = .ok list' ∧
      list'.Represents ⟨fun _ => none, 0⟩ [1] [none] := by
  let start : NodeMemory Nat Nat := ⟨fun _ => none, 0⟩
  have hfirst : step (.insertAtTail (some 5))
      (initialized callocAllocator callocDeallocator start) = .ok _ := rfl
  have hadmitted : Admitted callocAllocator start (.insertAtTail (some 5))
      (initialized callocAllocator callocDeallocator start) :=
    ⟨nofun, fun _ => ⟨0, _, rfl, rfl, rfl⟩⟩
  have hrun := @Runs.Reaches.tail _ _ _ step (Admitted callocAllocator start) _ _ _
    (.insertAtHead none) (.tail .refl hadmitted hfirst)
    ⟨nofun, fun _ => ⟨1, _, rfl, rfl, rfl⟩⟩ rfl
  obtain ⟨nodes, data, hrepresents, hnext⟩ := reaches_represents callocDeallocator_frees hrun
  obtain rfl : nodes = [1, 0] :=
    hrepresents.forward.unique ⟨rfl, _, rfl, rfl, _, rfl, rfl⟩
  obtain rfl : data = [none, some 5] :=
    List.map_injective_iff.mpr (Option.some_injective _) hrepresents.contents.symm
  obtain ⟨newNode, list', hstep, hlist'⟩ := hnext (.removeNode 0)
    ⟨by rintro _ ⟨⟩; exact (hrepresents.mem_iff 0).mp (by decide), nofun⟩
  exact ⟨_, list', rfl, hstep, hlist'⟩

/-- The loop of `DoublyLinkedListDestroy` frees the members and nothing else. -/
theorem destroyNodes_ok {deallocator : NodeMemoryDeallocator α σ} (hfrees : deallocator.Frees)
    {members : List (Nat × Option α)} {before : Option Nat} {list : AllocatedList α σ} {turns : Nat}
    (hdeallocator : list.deallocator = some deallocator) (hnodup : (addresses members).Nodup)
    (h : Segment list.memory.nodes before members none) (hturns : members.length ≤ turns) :
    ∃ list', destroyNodes turns (entry members none) list = .ok list' ∧
      ∀ n, list'.memory.nodes n = if n ∈ addresses members then none else list.memory.nodes n := by
  induction members generalizing before list turns with
  | nil => exact ⟨list, by rw [entry, destroyNodes], fun n => (if_neg List.not_mem_nil).symm⟩
  | cons member members ih =>
      obtain ⟨n, data⟩ := member
      obtain ⟨hnode, hrest⟩ := h
      obtain ⟨hn, hnodup⟩ := List.nodup_cons.mp hnodup
      cases turns with
      | zero => exact absurd hturns (Nat.not_succ_le_zero _)
      | succ turns =>
          obtain ⟨pointer, freed, hdestroy, hsame, hfreed⟩ :=
            nodeDestroy_ok hfrees hdeallocator (hnode ▸ Option.some_ne_none _)
          have hrest' : Segment freed.memory.nodes (some n) members none := by
            refine hrest.congr fun m hm => ?_
            rw [hfreed, Function.update_of_ne]
            rintro rfl
            exact hn hm
          obtain ⟨list', hlist', hnodes⟩ := ih (hsame.deallocator.trans hdeallocator) hnodup hrest'
            (Nat.le_of_succ_le_succ hturns)
          refine ⟨list', ?_, fun m => ?_⟩
          · rw [entry, destroyNodes]
            simp only [readNode_ok hnode, hdestroy, bind, Except.bind]
            exact hlist'
          · rw [hnodes, hfreed, addresses_cons]
            by_cases hm : m = n
            · subst hm
              rw [Function.update_self, if_pos List.mem_cons_self, ite_self]
            · rw [Function.update_of_ne hm]
              simp only [List.mem_cons, hm, false_or]

/-- In every run the list can be destroyed, which gives back all that was allocated. -/
theorem reaches_destroy {allocator : NodeMemoryAllocator α σ}
    {deallocator : NodeMemoryDeallocator α σ} {start : NodeMemory α σ} {list : AllocatedList α σ}
    (hfrees : deallocator.Frees)
    (hrun : Runs.Reaches step (Admitted allocator start) (initialized allocator deallocator start)
      list) :
    ∃ enough, ∀ turns ≥ enough, ∃ list', list.destroy turns = .ok list' ∧ list'.first = none ∧
      list'.last = none ∧ list'.memory.nodes = start.nodes := by
  obtain ⟨members, h⟩ := reaches_holds hfrees hrun
  refine ⟨members.length, fun turns hturns => ?_⟩
  obtain ⟨list', hdestroy, hnodes⟩ :=
    destroyNodes_ok hfrees h.deallocator_eq h.chain.nodup h.chain.segment hturns
  rw [← h.chain.first_eq] at hdestroy
  refine ⟨_, by rw [destroy, hdestroy]; rfl, rfl, rfl, ?_⟩
  funext n
  refine (hnodes n).trans ?_
  split
  · next hn => exact (h.fresh n hn).symm
  · next hn => exact h.others n hn

end AllocatedList

end Opener
