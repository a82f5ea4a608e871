import Opener.Metatheory.AllocatedLists
import Opener.Metatheory.ConnectionList

/-!
`connection_list` takes its nodes from a static array. As a list with an allocator it behaves as
the list over the array does: what is not linked in the array is what is not allocated.
-/

namespace Opener

open LinkedCells (Cell Linked)

open LinkedNodes

namespace DoublyLinkedList

variable {α : Type}

/-- The nodes of the array that are in use. -/
def allocatedNodes (list : DoublyLinkedList α) : Heap α := fun n =>
  if (list.nodes n).data.isSome then some (list.nodes n) else none

/-- The list over the array as a list with an allocator. -/
def allocated (list : DoublyLinkedList α) (nodesAmount : Nat) : AllocatedList α Unit :=
  { first := list.first
    last := list.last
    allocator := some (cipConnectionObjectListArrayAllocator nodesAmount)
    deallocator := some callocDeallocator
    memory := { nodes := list.allocatedNodes, bookkeeping := () } }

/-- The nodes in order with their data. -/
def linkedMembers (list : DoublyLinkedList α) (ns : List Nat) : List (Nat × Option α) :=
  ns.map fun n => (n, (list.nodes n).data)

/-- The memory before the first node is taken. -/
def unusedArray (α : Type) : NodeMemory α Unit := { nodes := fun _ => none, bookkeeping := () }

variable {list : DoublyLinkedList α} {ns : List Nat} {nodesAmount n : Nat}

@[simp] theorem addresses_linkedMembers (list : DoublyLinkedList α) (ns : List Nat) :
    addresses (list.linkedMembers ns) = ns := by
  rw [addresses, linkedMembers, List.map_map]
  exact List.map_id ns

theorem segment_of_linked {before after : Option Nat} (h : Linked list.nodes before ns after) :
    Segment list.allocatedNodes before (list.linkedMembers ns) after := by
  induction ns generalizing before with
  | nil => trivial
  | cons n ns ih =>
      obtain ⟨hprevious, hnext, hdata, hrest⟩ := h
      refine ⟨?_, ih hrest⟩
      have hentry : entry (list.linkedMembers ns) after = ns.head?.or after := by
        cases ns with
        | nil => rfl
        | cons m ns => rfl
      rw [allocatedNodes, if_pos hdata]
      change some (list.nodes n) = some { previous := before
                                          next := entry (list.linkedMembers ns) after
                                          data := (list.nodes n).data }
      rw [hentry, ← hprevious, ← hnext]

theorem Links.holds (h : list.Links ns) (nodesAmount : Nat) :
    AllocatedList.Holds (cipConnectionObjectListArrayAllocator nodesAmount) callocDeallocator
      (unusedArray α) (list.allocated nodesAmount) (list.linkedMembers ns) where
  allocator_eq := rfl
  deallocator_eq := rfl
  chain := by
    refine ⟨?_, segment_of_linked h.linked, ?_, ?_⟩
    · rw [addresses_linkedMembers]
      exact h.nodup
    · rw [entry_eq_head?, addresses_linkedMembers]
      exact h.first_eq
    · rw [exit_eq_getLast?, addresses_linkedMembers]
      exact h.last_eq
  fresh _ _ := rfl
  others := by
    intro n hn
    rw [addresses_linkedMembers] at hn
    change list.allocatedNodes n = none
    rw [allocatedNodes, h.free n hn]
    rfl

theorem Links.getD_allocatedNodes (h : list.Links ns) (i : Nat) :
    (list.allocatedNodes i).getD {} = list.nodes i := by
  rw [allocatedNodes]
  by_cases hi : i ∈ ns
  · rw [if_pos (h.data_isSome hi)]
    rfl
  · rw [h.free i hi]
    rfl

theorem Links.allocator_eq (h : list.Links ns)
    (halloc : list.listArrayAllocator nodesAmount = some n) :
    cipConnectionObjectListArrayAllocator nodesAmount (list.allocated nodesAmount).memory =
      (some n,
        { nodes := Function.update list.allocatedNodes n (some (list.nodes n))
          bookkeeping := () }) := by
  have hfound : listArrayAllocator
      ({ nodes := list.nodes } : DoublyLinkedList α) nodesAmount = some n := halloc
  rw [cipConnectionObjectListArrayAllocator]
  simp only [allocated, h.getD_allocatedNodes, hfound]

theorem Links.serves (h : list.Links ns)
    (halloc : list.listArrayAllocator nodesAmount = some n) :
    (cipConnectionObjectListArrayAllocator nodesAmount).Serves
      (list.allocated nodesAmount).memory := by
  obtain ⟨hn, -⟩ := listArrayAllocator_eq_some h halloc
  refine ⟨n, _, h.allocator_eq halloc, ?_, ?_⟩
  · change list.allocatedNodes n = none
    rw [allocatedNodes, h.free n hn]
    rfl
  · rw [h.free n hn]
    rfl

/-- Inserting at the head of the list over the array is inserting at the head of a list with
the allocator. -/
theorem Links.allocated_insertAtHead (h : list.Links ns)
    (halloc : list.listArrayAllocator nodesAmount = some n) (data : α) :
    ∃ list', list.insertAtHead (some n) data = .ok list' ∧
      (list.allocated nodesAmount).insertAtHead (some data) =
        .ok (list'.allocated nodesAmount) := by
  obtain ⟨hn, -⟩ := listArrayAllocator_eq_some h halloc
  obtain ⟨list', hinsert, hlinks, hnodes⟩ := insertAtHead_links h hn data
  obtain ⟨newNode, result, hresult, hholds, hnew⟩ :=
    (h.holds nodesAmount).insertAtHead (h.serves halloc) (some data)
  rw [h.allocator_eq halloc] at hnew
  obtain rfl : n = newNode := Option.some.inj hnew
  have hfirst : list.first ≠ some n := by
    rw [h.first_eq]
    exact fun heq => hn (List.mem_of_head? heq)
  have hmembers : list'.linkedMembers (n :: ns) = (n, some data) :: list.linkedMembers ns := by
    rw [linkedMembers, List.map_cons, hnodes, LinkedCells.push_data_self _ _ hfirst]
    refine congrArg _ (List.map_congr_left fun m hm => ?_)
    rw [LinkedCells.push_data_of_ne _ _ fun heq : m = n => hn (heq ▸ hm)]
  refine ⟨list', hinsert, hresult.trans (congrArg Except.ok (hholds.unique ?_))⟩
  rw [← hmembers]
  exact hlinks.holds nodesAmount

theorem Links.allocated_insertAtHead_exhausted (h : list.Links ns)
    (halloc : list.listArrayAllocator nodesAmount = none) (data : α) :
    list.insertAtHead none data = .error .nodesExhausted ∧
      (list.allocated nodesAmount).insertAtHead (some data) = .error .nullDereference := by
  have hfound : listArrayAllocator
      ({ nodes := list.nodes } : DoublyLinkedList α) nodesAmount = none := halloc
  refine ⟨rfl, ?_⟩
  rw [AllocatedList.insertAtHead]
  simp only [allocated, AllocatedList.assertAllocator, AllocatedList.nodeCreate,
    cipConnectionObjectListArrayAllocator, h.getD_allocatedNodes, hfound,
    AllocatedList.modifyNode, bind, Except.bind]

/-- Removing a node of the list over the array is removing it from a list with the allocator. -/
theorem Links.allocated_removeNode (h : list.Links ns) (hn : n ∈ ns) (nodesAmount : Nat) :
    ∃ pointer, (list.allocated nodesAmount).removeNode (some n) =
      .ok (pointer, (list.removeNode n).allocated nodesAmount) := by
  obtain ⟨pre, post, rfl⟩ := List.append_of_mem hn
  have hlinks := removeNode_links h rfl
  have hholds := h.holds nodesAmount
  rw [linkedMembers, List.map_append, List.map_cons] at hholds
  obtain ⟨pointer, result, hresult, hholds'⟩ :=
    hholds.removeNode AllocatedList.callocDeallocator_frees
  refine ⟨pointer, hresult.trans (congrArg (fun list => Except.ok (pointer, list))
    (hholds'.unique ?_))⟩
  have hmembers : (list.removeNode n).linkedMembers (pre ++ post) =
      pre.map (fun n => (n, (list.nodes n).data)) ++
        post.map fun n => (n, (list.nodes n).data) := by
    rw [linkedMembers, ← List.map_append]
    refine List.map_congr_left fun m hm => ?_
    have hne : m ≠ n := by
      rintro rfl
      exact (List.nodup_cons.mp (List.nodup_middle.mp h.nodup)).1 hm
    rw [removeNode]
    split
    · exact congrArg (fun node => (m, node.data)) (Function.update_of_ne hne {} list.nodes)
    · exact congrArg (Prod.mk m) (LinkedCells.unlink_data list.nodes hne)
  rw [← hmembers]
  exact hlinks.holds nodesAmount

end DoublyLinkedList

end Opener
