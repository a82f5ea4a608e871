import Opener.Library.LinkedCells
import Opener.Core.Types

/-!
`doublylinkedlist.c` over the static node array of
`CipConnectionObjectListArrayAllocator`. A node pointer is the node's index.
-/

namespace Opener

open LinkedCells

structure DoublyLinkedList (α : Type) where
  first : Option Nat := none
  last : Option Nat := none
  nodes : Nat → Cell α := fun _ => {}

namespace DoublyLinkedList

variable {α : Type} (list : DoublyLinkedList α)

/-- `CipConnectionObjectListArrayAllocator`: the first node that is all zero. -/
def listArrayAllocator (nodesAmount : Nat) : Option Nat :=
  (List.range nodesAmount).find? fun i =>
    (list.nodes i).previous.isNone && (list.nodes i).next.isNone &&
      (list.nodes i).data.isNone

/-- `DoublyLinkedListInsertAtHead` with the node the allocator returned; the
node is written without a check. -/
def insertAtHead (node : Option Nat) (data : α) :
    Except Fault (DoublyLinkedList α) :=
  match node with
  | none => .error .nodesExhausted
  | some newNode =>
      match list.first with
      | none => .ok
          { first := some newNode
            last := some newNode
            nodes := push list.nodes none newNode data }
      | some first => .ok
          { list with
            first := some newNode
            nodes := push list.nodes (some first) newNode data }

/-- `DoublyLinkedListRemoveNode`; `CipConnectionObjectListArrayFree` zeroes the
node. -/
def removeNode (node : Nat) : DoublyLinkedList α :=
  if list.first = some node ∧ list.last = some node then
    { first := none
      last := none
      nodes := Function.update list.nodes node {} }
  else
    { first :=
        if list.first = some node then (list.nodes node).next else list.first
      last :=
        if list.last = some node then (list.nodes node).previous else list.last
      nodes := unlink list.nodes node }

/-- The nodes a loop over the unchanging list visits. -/
def nodeNumbers (nodesAmount : Nat) : List Nat :=
  follow list.nodes nodesAmount list.first

/-- The data a loop over the unchanging list visits. -/
def members (nodesAmount : Nat) : List α :=
  contents list.nodes (list.nodeNumbers nodesAmount)

end DoublyLinkedList

end Opener
