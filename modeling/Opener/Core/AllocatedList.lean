import Opener.Core.DoublyLinkedList

/-!
`doublylinkedlist.c` over a memory from which an allocator takes the nodes and to which a
deallocator gives them back. A node pointer is an address, none is NULL, and an access to a
node that is not allocated is a fault. The data of a node is a pointer that may be NULL.
-/

namespace Opener

open LinkedCells (Cell)

/-- The allocated nodes, and what allocator and deallocator keep for themselves. -/
structure NodeMemory (α σ : Type) where
  nodes : Nat → Option (Cell α)
  bookkeeping : σ

/-- A new node, NULL if there is none. -/
abbrev NodeMemoryAllocator (α σ : Type) := NodeMemory α σ → Option Nat × NodeMemory α σ

/-- It is given the pointer in a variable of the caller, which it may write. -/
abbrev NodeMemoryDeallocator (α σ : Type) :=
  Option Nat → NodeMemory α σ → Option Nat × NodeMemory α σ

/-- An allocator of zeroed nodes that uses no address twice. -/
def callocAllocator {α : Type} : NodeMemoryAllocator α Nat := fun memory =>
  (some memory.bookkeeping,
    { nodes := Function.update memory.nodes memory.bookkeeping (some {})
      bookkeeping := memory.bookkeeping + 1 })

/-- The node is freed; an array takes the zeroed node back. -/
def callocDeallocator {α σ : Type} : NodeMemoryDeallocator α σ := fun node memory =>
  match node with
  | none => (none, memory)
  | some address => (none, { memory with nodes := Function.update memory.nodes address none })

/-- `CipConnectionObjectListArrayAllocator`, which takes a zeroed node of its array for free. -/
def cipConnectionObjectListArrayAllocator {α : Type} (nodesAmount : Nat) :
    NodeMemoryAllocator α Unit := fun memory =>
  let array : DoublyLinkedList α := { nodes := fun i => (memory.nodes i).getD {} }
  match array.listArrayAllocator nodesAmount with
  | none => (none, memory)
  | some i =>
      (some i, { memory with nodes := Function.update memory.nodes i (some (array.nodes i)) })

structure AllocatedList (α σ : Type) where
  first : Option Nat
  last : Option Nat
  allocator : Option (NodeMemoryAllocator α σ)
  deallocator : Option (NodeMemoryDeallocator α σ)
  memory : NodeMemory α σ

namespace AllocatedList

variable {α σ : Type}

/-- `DoublyLinkedListInitialize`. -/
def initialized (allocator : NodeMemoryAllocator α σ) (deallocator : NodeMemoryDeallocator α σ)
    (memory : NodeMemory α σ) : AllocatedList α σ :=
  { first := none
    last := none
    allocator := some allocator
    deallocator := some deallocator
    memory }

variable (list : AllocatedList α σ)

def readNode : Option Nat → Except Fault (Cell α)
  | none => .error .nullDereference
  | some address =>
      match list.memory.nodes address with
      | none => .error .freedNode
      | some node => .ok node

def withNodes (nodes : Nat → Option (Cell α)) : AllocatedList α σ :=
  { list with memory := { list.memory with nodes } }

def modifyNode (pointer : Option Nat) (f : Cell α → Cell α) : Except Fault (AllocatedList α σ) :=
  match pointer with
  | none => .error .nullDereference
  | some address =>
      match list.memory.nodes address with
      | none => .error .freedNode
      | some node =>
          .ok (list.withNodes (Function.update list.memory.nodes address (some (f node))))

def modifyUnlessNull (pointer : Option Nat) (f : Cell α → Cell α) :
    Except Fault (AllocatedList α σ) :=
  if pointer ≠ none then list.modifyNode pointer f else .ok list

/-- `OPENER_ASSERT` on the allocator of the list. -/
def assertAllocator : Except Fault (NodeMemoryAllocator α σ) :=
  match list.allocator with
  | none => .error .assertionFailed
  | some allocator => .ok allocator

/-- `DoublyLinkedListNodeCreate`; the node is written without a check. -/
def nodeCreate (data : Option α) (allocator : NodeMemoryAllocator α σ) :
    Except Fault (Option Nat × AllocatedList α σ) := do
  let (newNode, memory) := allocator list.memory
  let list ← modifyNode { list with memory } newNode fun node => { node with data }
  .ok (newNode, list)

/-- `DoublyLinkedListNodeDestroy`, with what the caller's pointer is afterwards. -/
def nodeDestroy (pointer : Option Nat) : Except Fault (Option Nat × AllocatedList α σ) :=
  match list.deallocator with
  | none => .error .assertionFailed
  | some deallocator =>
      let (pointer, memory) := deallocator pointer list.memory
      .ok (pointer, { list with memory })

/-- `DoublyLinkedListInsertAtHead`. -/
def insertAtHead (data : Option α) : Except Fault (AllocatedList α σ) := do
  let allocator ← list.assertAllocator
  let (newNode, list) ← list.nodeCreate data allocator
  if list.first = none then
    .ok { list with first := newNode, last := newNode }
  else do
    let list ← list.modifyNode newNode fun node => { node with next := list.first }
    let list ← list.modifyNode list.first fun node => { node with previous := newNode }
    .ok { list with first := newNode }

/-- `DoublyLinkedListInsertAtTail`. -/
def insertAtTail (data : Option α) : Except Fault (AllocatedList α σ) := do
  let allocator ← list.assertAllocator
  let (newNode, list) ← list.nodeCreate data allocator
  if list.last = none then
    .ok { list with first := newNode, last := newNode }
  else do
    let list ← list.modifyNode newNode fun node => { node with previous := list.last }
    let list ← list.modifyNode list.last fun node => { node with next := newNode }
    .ok { list with last := newNode }

/-- `DoublyLinkedListInsertBeforeNode`. -/
def insertBeforeNode (node : Option Nat) (data : Option α) :
    Except Fault (AllocatedList α σ) := do
  let allocator ← list.assertAllocator
  if list.first = node then
    list.insertAtHead data
  else do
    let (newNode, list) ← list.nodeCreate data allocator
    let previous := (← list.readNode node).previous
    let list ← list.modifyNode newNode fun new => { new with previous }
    let list ← list.modifyNode newNode fun new => { new with next := node }
    let list ← list.modifyNode node fun node => { node with previous := newNode }
    let previous := (← list.readNode newNode).previous
    list.modifyNode previous fun previous => { previous with next := newNode }

/-- `DoublyLinkedListInsertAfterNode`. -/
def insertAfterNode (node : Option Nat) (data : Option α) :
    Except Fault (AllocatedList α σ) := do
  let allocator ← list.assertAllocator
  if list.last = node then
    list.insertAtTail data
  else do
    let (newNode, list) ← list.nodeCreate data allocator
    let list ← list.modifyNode newNode fun new => { new with previous := node }
    let next := (← list.readNode node).next
    let list ← list.modifyNode newNode fun new => { new with next }
    let next := (← list.readNode node).next
    let list ← list.modifyNode next fun next => { next with previous := newNode }
    list.modifyNode node fun node => { node with next := newNode }

/-- `DoublyLinkedListRemoveNode` on the pointer in a variable of the caller, with what it is
afterwards. -/
def removeNode (pointer : Option Nat) : Except Fault (Option Nat × AllocatedList α σ) := do
  let node := pointer
  let previous := (← list.readNode node).previous
  let next := (← list.readNode node).next
  let list ←
    if node = list.first ∧ node = list.last then
      .ok { list with first := none, last := none }
    else do
      let list := if node = list.first then { list with first := next } else list
      let list := if node = list.last then { list with last := previous } else list
      let list ← list.modifyUnlessNull previous fun previous => { previous with next }
      list.modifyUnlessNull next fun next => { next with previous }
  list.nodeDestroy pointer

/-- The loop of `DoublyLinkedListDestroy`. -/
def destroyNodes : Nat → Option Nat → AllocatedList α σ → Except Fault (AllocatedList α σ)
  | _, none, list => .ok list
  | 0, some _, _ => .error .nonTermination
  | turns + 1, some iterator, list => do
      let toDelete := some iterator
      let next := (← list.readNode (some iterator)).next
      let (_, list) ← list.nodeDestroy toDelete
      destroyNodes turns next list

/-- `DoublyLinkedListDestroy`, with a bound on the turns of its loop. -/
def destroy (turns : Nat) : Except Fault (AllocatedList α σ) := do
  let list ← destroyNodes turns list.first list
  .ok { list with first := none, last := none, allocator := none, deallocator := none }

end AllocatedList

/-- The calls that change a list, on nodes by their addresses. -/
inductive ListCall (α : Type) where
  | insertAtHead (data : Option α)
  | insertAtTail (data : Option α)
  | insertBeforeNode (node : Nat) (data : Option α)
  | insertAfterNode (node : Nat) (data : Option α)
  | removeNode (node : Nat)

namespace AllocatedList

variable {α σ : Type}

def step (call : ListCall α) (list : AllocatedList α σ) : Except Fault (AllocatedList α σ) :=
  match call with
  | .insertAtHead data => list.insertAtHead data
  | .insertAtTail data => list.insertAtTail data
  | .insertBeforeNode node data => list.insertBeforeNode (some node) data
  | .insertAfterNode node data => list.insertAfterNode (some node) data
  | .removeNode node => (list.removeNode (some node)).map Prod.snd

end AllocatedList

end Opener
