import Opener.Core.Types

/-!
The instances of a class of `cipcommon.c`: the list in the order of its links, the number of
the instances and the largest of their numbers. Instances are told apart by their addresses.
-/

namespace Opener

structure CipInstanceNode where
  address : Nat
  instanceNumber : UInt16
deriving DecidableEq, Repr

structure InstanceTable where
  instances : List CipInstanceNode
  numberOfInstances : UInt16
  maxInstance : UInt16
deriving DecidableEq, Repr

/-- `CipCalloc`, which gives an address that is not in use. -/
structure Allocator where
  calloc : List Nat → Nat
  fresh : ∀ inUse, calloc inUse ∉ inUse

theorem le_foldr_max {address : Nat} {addresses : List Nat} (h : address ∈ addresses) :
    address ≤ addresses.foldr max 0 := by
  induction addresses with
  | nil => exact absurd h List.not_mem_nil
  | cons first addresses ih =>
      rw [List.foldr_cons]
      rcases List.mem_cons.mp h with rfl | hmem
      · exact Nat.le_max_left _ _
      · exact (ih hmem).trans (Nat.le_max_right _ _)

/-- An allocator that goes upwards. -/
def Allocator.upwards : Allocator where
  calloc inUse := inUse.foldr max 0 + 1
  fresh _ hmem := Nat.lt_irrefl _ (le_foldr_max hmem)

/-- How often `while (!found_free_number)` can try a new number. -/
def numberOfInstanceNumbers : Nat := 65536

def getMaxInstanceNumber (instances : List CipInstanceNode) : UInt16 :=
  instances.foldl
    (fun maxInstance inst =>
      if inst.instanceNumber > maxInstance then inst.instanceNumber else maxInstance) 0

/-- The loop of `AddCipInstances` that looks for a number. It has tried them all when it has
not ended after so many attempts. -/
def findFreeNumber (instances : List CipInstanceNode) : Nat → UInt16 → Except Fault UInt16
  | 0, _ => .error .nonTermination
  | attempts + 1, instanceNumber =>
      if instances.any (·.instanceNumber = instanceNumber) then
        findFreeNumber instances attempts (instanceNumber + 1)
      else .ok instanceNumber

namespace InstanceTable

/-- The class object without instances. -/
def empty : InstanceTable := { instances := [], numberOfInstances := 0, maxInstance := 0 }

def updateMaxInstance (table : InstanceTable) : InstanceTable :=
  { table with maxInstance := getMaxInstanceNumber table.instances }

/-- A new instance at the end of the list. -/
def link (table : InstanceTable) (inst : CipInstanceNode) : InstanceTable :=
  { table with
    instances := table.instances ++ [inst]
    numberOfInstances := table.numberOfInstances + 1 }

/-- The loop of `AddCipInstances` over the new instances, with the first of them. -/
def allocateInstances (allocator : Allocator) :
    Nat → UInt16 → Option CipInstanceNode → InstanceTable →
      Except Fault (Option CipInstanceNode × InstanceTable)
  | 0, _, firstInstance, table => .ok (firstInstance, table)
  | remaining + 1, instanceNumber, firstInstance, table => do
      let instanceNumber ← findFreeNumber table.instances numberOfInstanceNumbers instanceNumber
      let currentInstance : CipInstanceNode :=
        { address := allocator.calloc (table.instances.map (·.address)), instanceNumber }
      allocateInstances allocator remaining (instanceNumber + 1)
        (firstInstance.or (some currentInstance)) (table.link currentInstance)

def addCipInstances (allocator : Allocator) (numberOfInstances : UInt16)
    (table : InstanceTable) : Except Fault (Option CipInstanceNode × InstanceTable) :=
  (allocateInstances allocator numberOfInstances.toNat 1 none table).map fun added =>
    (added.1, added.2.updateMaxInstance)

/-- The number of an instance is written. -/
def setInstanceNumber (table : InstanceTable) (address : Nat) (instanceNumber : UInt16) :
    InstanceTable :=
  { table with
    instances := table.instances.map fun inst =>
      if inst.address = address then { inst with instanceNumber } else inst }

/-- `GetCipInstance` for an instance that is not the class. -/
def getCipInstance (table : InstanceTable) (instanceNumber : UInt16) : Option CipInstanceNode :=
  table.instances.find? (·.instanceNumber = instanceNumber)

/-- The number 0 is that of the class, which is always found. -/
def addCipInstance (allocator : Allocator) (instanceId : UInt16) (table : InstanceTable) :
    Except Fault InstanceTable :=
  if instanceId = 0 ∨ (table.getCipInstance instanceId).isSome then .ok table.updateMaxInstance
  else do
    match ← addCipInstances allocator 1 table with
    | (none, _) => .error .nullDereference
    | (some inst, table) => .ok (table.setInstanceNumber inst.address instanceId).updateMaxInstance

/-- What `CipCreateService` does to the class, by what `PreCreateCallback` returned. -/
def cipCreateService (allocator : Allocator) (internalState : EipStatus)
    (table : InstanceTable) : Except Fault InstanceTable :=
  if internalState = .ok then (addCipInstances allocator 1 table).map Prod.snd else .ok table

/-- The loop of `CipDeleteService` behind the head of the list. -/
def unlinkBehind (instanceNumber : UInt16) : List CipInstanceNode → List CipInstanceNode
  | [] => []
  | nextInstance :: instances =>
      if nextInstance.instanceNumber = instanceNumber then instances
      else nextInstance :: unlinkBehind instanceNumber instances

/-- What `CipDeleteService` does to the class of an instance, by what `PreDeleteCallback`
returned. -/
def cipDeleteService (internalState : EipStatus) (inst : CipInstanceNode)
    (table : InstanceTable) : Except Fault InstanceTable :=
  if internalState ≠ .ok then .ok table
  else
    match table.instances with
    | [] => .error .nullDereference
    | head :: instances =>
        let instances :=
          if head.instanceNumber = inst.instanceNumber then instances
          else head :: unlinkBehind inst.instanceNumber instances
        .ok { instances
              numberOfInstances := table.numberOfInstances - 1
              maxInstance := getMaxInstanceNumber instances }

/-- The instances that `CreateCipClass` gives a new class. -/
def createCipClass (allocator : Allocator) (numberOfInstances : UInt16) :
    Except Fault InstanceTable :=
  if numberOfInstances > 0 then (addCipInstances allocator numberOfInstances empty).map Prod.snd
  else .ok empty

end InstanceTable

/-- The operations on the instances of a class, with what the callbacks return. `delete` is
called with an instance of the class. -/
inductive InstanceOperation where
  | addInstances (numberOfInstances : UInt16)
  | addInstance (instanceId : UInt16)
  | create (internalState : EipStatus)
  | delete (internalState : EipStatus) (inst : CipInstanceNode)
deriving DecidableEq, Repr

namespace InstanceTable

def apply (allocator : Allocator) (table : InstanceTable) :
    InstanceOperation → Except Fault InstanceTable
  | .addInstances numberOfInstances =>
      (addCipInstances allocator numberOfInstances table).map Prod.snd
  | .addInstance instanceId => addCipInstance allocator instanceId table
  | .create internalState => cipCreateService allocator internalState table
  | .delete internalState inst => cipDeleteService internalState inst table

end InstanceTable

end Opener
