import Opener.Core.Closing
import Opener.Metatheory.ConnectionList

/-!
The connection table without its links: which connections are members, in order,
their objects, the packets sent and requests copied so far, and the counter for
connection ids. `closed` and `expired` say what closing a connection and timing
one out mean on the table; the close functions of the code are shown to compute
`closed`.
-/

namespace Opener

open LinkedCells

/-- Events reported to the application are not part of the view. -/
def Event.isTraced : Event → Bool
  | .ioConnection _ _ _ => false
  | .sent _ => true
  | .copied _ _ => true

@[ext]
structure View where
  members : List ConnRef
  object : ConnRef → CipConnectionObject
  trace : List Event
  connectionId : UInt16

namespace View

variable (V : View)

def modify (r : ConnRef) (f : CipConnectionObject → CipConnectionObject) : View :=
  { V with object := Function.update V.object r (f (V.object r)) }

/-- The connections are taken off the list and their objects cleared. -/
def without (dropped : ConnRef → Bool) : View :=
  { V with
    members := V.members.filter fun r => !dropped r
    object := fun r => if dropped r then .initializeEmpty else V.object r }

/-- A connection that can become the producer of a multicast input. -/
def canTakeOver (inputPoint : UInt16) (c : CipConnectionObject) : Bool :=
  c.isTypeNonLOIOConnection && c.state = .established &&
    c.producedPath.instanceId = inputPoint && c.tToOConnectionType = .multicast &&
    c.producingSocket = eipInvalidSocket

def successor (inputPoint : UInt16) : Option ConnRef :=
  V.members.find? fun r => canTakeOver inputPoint (V.object r)

/-- Listed connections of one type and input. -/
def ofInput (instanceType : ConnectionObjectInstanceType) (inputPoint : UInt16)
    (r : ConnRef) : Bool :=
  V.members.contains r && (V.object r).instanceType = instanceType &&
    (V.object r).producedPath.instanceId = inputPoint

/-- What a producer leaves to the connection that takes over. -/
def inherit (old c : CipConnectionObject) : CipConnectionObject :=
  { c with
    producingSocket := old.producingSocket
    remoteAddress := old.remoteAddress
    eipLevelSequenceCountProducing := old.eipLevelSequenceCountProducing
    sequenceCountProducing := old.sequenceCountProducing
    transmissionTriggerTimer := old.transmissionTriggerTimer }

def retire (c : CipConnectionObject) : CipConnectionObject :=
  { c with producingSocket := eipInvalidSocket }

/-- The production of `r` goes on at `heir`. -/
def pass (r heir : ConnRef) : View :=
  (V.modify heir (inherit (V.object r))).modify r retire

/-- A producer of multicast data hands over, or its listeners go. -/
def vacate (r : ConnRef) : View :=
  if StackState.isMulticastMaster (V.object r) then
    match V.successor (V.object r).producedPath.instanceId with
    | some heir => V.pass r heir
    | none => V.without (V.ofInput .ioListenOnly (V.object r).producedPath.instanceId)
  else V

def closed (r : ConnRef) : View := (V.vacate r).without (· = r)

def expired (r : ConnRef) : View := (V.vacate r).modify r fun c => c.setState .timedOut

@[simp] theorem modify_members (r : ConnRef) (f : CipConnectionObject → CipConnectionObject) :
    (V.modify r f).members = V.members := rfl

@[simp] theorem modify_object_self (r : ConnRef)
    (f : CipConnectionObject → CipConnectionObject) :
    (V.modify r f).object r = f (V.object r) := by
  simp [modify]

theorem modify_object_of_ne {r s : ConnRef} (h : s ≠ r)
    (f : CipConnectionObject → CipConnectionObject) :
    (V.modify r f).object s = V.object s := by
  simp [modify, Function.update_of_ne h]

@[simp] theorem without_members (dropped : ConnRef → Bool) :
    (V.without dropped).members = V.members.filter fun r => !dropped r := rfl

@[simp] theorem without_object (dropped : ConnRef → Bool) (r : ConnRef) :
    (V.without dropped).object r = if dropped r then .initializeEmpty else V.object r := rfl

theorem mem_without {dropped : ConnRef → Bool} {r : ConnRef} :
    r ∈ (V.without dropped).members ↔ r ∈ V.members ∧ dropped r = false := by
  simp [without]

theorem without_without (d₁ d₂ : ConnRef → Bool) :
    (V.without d₁).without d₂ = V.without fun r => d₁ r || d₂ r := by
  unfold without
  simp only [List.filter_filter, View.mk.injEq, and_true]
  refine ⟨List.filter_congr fun r _ => ?_, ?_⟩
  · rw [Bool.not_or, Bool.and_comm]
  · funext r
    by_cases h₁ : d₁ r <;> by_cases h₂ : d₂ r <;> simp [h₁, h₂]

/-- Clearing a connection forgets what was written to it before. -/
theorem without_modify (r : ConnRef) (f : CipConnectionObject → CipConnectionObject) :
    (V.modify r f).without (· = r) = V.without (· = r) := by
  unfold without modify
  simp only [View.mk.injEq, and_true, true_and]
  funext s
  by_cases h : s = r
  · simp [h]
  · simp [h]

theorem modify_without {dropped : ConnRef → Bool} {r : ConnRef} (h : dropped r = false)
    (f : CipConnectionObject → CipConnectionObject) :
    (V.modify r f).without dropped = (V.without dropped).modify r f := by
  unfold without modify
  simp only [View.mk.injEq, and_true, true_and]
  funext s
  by_cases hs : s = r
  · subst hs; simp [h]
  · simp [hs]

theorem without_congr {d₁ d₂ : ConnRef → Bool} (h : ∀ r, d₁ r = d₂ r) :
    V.without d₁ = V.without d₂ := by
  rw [funext h]

theorem without_none {dropped : ConnRef → Bool} (h : ∀ r, dropped r = false) :
    V.without dropped = V := by
  unfold without
  simp [h]

end View

namespace StackState

variable (cfg : Config) (st : StackState)

def view : View :=
  { members := st.connectionList cfg
    object := st.conn
    trace := st.events.filter Event.isTraced
    connectionId := st.connectionId }

@[simp] theorem view_members : (st.view cfg).members = st.connectionList cfg := rfl

@[simp] theorem view_object (r : ConnRef) : (st.view cfg).object r = st.conn r := rfl

@[simp] theorem view_modifyConn (r : ConnRef)
    (f : CipConnectionObject → CipConnectionObject) :
    (st.modifyConn r f).view cfg = (st.view cfg).modify r f := rfl

@[simp] theorem view_checkIoConnectionEvent (c : CipConnectionObject)
    (event : IoConnectionEvent) :
    (st.checkIoConnectionEvent c event).view cfg = st.view cfg := by
  unfold view
  simp [checkIoConnectionEvent, Event.isTraced, connectionList]
  rfl

@[simp] theorem view_closeSocket (socket : Int) :
    (st.closeSocket socket).view cfg = st.view cfg := by
  unfold closeSocket
  split <;> rfl

@[simp] theorem connectionList_modifyConn (r : ConnRef)
    (f : CipConnectionObject → CipConnectionObject) :
    (st.modifyConn r f).connectionList cfg = st.connectionList cfg := rfl

@[simp] theorem connectionList_checkIoConnectionEvent (c : CipConnectionObject)
    (event : IoConnectionEvent) :
    (st.checkIoConnectionEvent c event).connectionList cfg = st.connectionList cfg := rfl

@[simp] theorem conn_modifyConn_self (r : ConnRef)
    (f : CipConnectionObject → CipConnectionObject) :
    (st.modifyConn r f).conn r = f (st.conn r) := by
  simp [modifyConn, setConn, conn]

theorem conn_modifyConn_of_ne {r s : ConnRef} (h : s ≠ r)
    (f : CipConnectionObject → CipConnectionObject) :
    (st.modifyConn r f).conn s = st.conn s := by
  simp [modifyConn, setConn, conn, Function.update_of_ne h]

@[simp] theorem conn_checkIoConnectionEvent (c : CipConnectionObject)
    (event : IoConnectionEvent) (r : ConnRef) :
    (st.checkIoConnectionEvent c event).conn r = st.conn r := rfl

/-- The variables that closing and timing out leave alone. -/
structure Frame (st st' : StackState) : Prop where
  dummy : st'.dummy = st.dummy
  cpf : st'.cpf = st.cpf
  configData : st'.configData = st.configData
  runIdleState : st'.runIdleState = st.runIdleState
  udpIoMessaging : st'.udpIoMessaging = st.udpIoMessaging
  assemblyData : st'.assemblyData = st.assemblyData

theorem Frame.refl (st : StackState) : Frame st st := ⟨rfl, rfl, rfl, rfl, rfl, rfl⟩

theorem Frame.trans {st₁ st₂ st₃ : StackState} (h : Frame st₁ st₂) (h' : Frame st₂ st₃) :
    Frame st₁ st₃ :=
  ⟨h'.dummy.trans h.dummy, h'.cpf.trans h.cpf, h'.configData.trans h.configData,
    h'.runIdleState.trans h.runIdleState, h'.udpIoMessaging.trans h.udpIoMessaging,
    h'.assemblyData.trans h.assemblyData⟩

/-- `st'` has the table `V` and was reached by unlinking nodes only. -/
structure Shrunk (cfg : Config) (st : StackState) (ns : List Nat) (V : View)
    (st' : StackState) (ns' : List Nat) : Prop where
  listed : st'.Listed cfg ns'
  trimmed : st.Trimmed ns st' ns'
  view_eq : st'.view cfg = V
  frame : Frame st st'

theorem Shrunk.trans {cfg : Config} {st₁ st₂ st₃ : StackState} {ns₁ ns₂ ns₃ : List Nat}
    {V₂ V₃ : View} (h : Shrunk cfg st₁ ns₁ V₂ st₂ ns₂) (h' : Shrunk cfg st₂ ns₂ V₃ st₃ ns₃) :
    Shrunk cfg st₁ ns₁ V₃ st₃ ns₃ :=
  ⟨h'.listed, DoublyLinkedList.Trimmed.trans h.trimmed h'.trimmed, h'.view_eq,
    h.frame.trans h'.frame⟩

/-- Writing to an object keeps the nodes. -/
theorem shrunk_modifyConn {cfg : Config} {st : StackState} {ns : List Nat}
    (h : st.Listed cfg ns) (r : ConnRef) (f : CipConnectionObject → CipConnectionObject) :
    Shrunk cfg st ns ((st.view cfg).modify r f) (st.modifyConn r f) ns :=
  ⟨h, DoublyLinkedList.Trimmed.refl _ ns, rfl, rfl, rfl, rfl, rfl, rfl, rfl⟩

theorem shrunk_checkIoConnectionEvent {cfg : Config} {st : StackState} {ns : List Nat}
    (h : st.Listed cfg ns) (c : CipConnectionObject) (event : IoConnectionEvent) :
    Shrunk cfg st ns (st.view cfg) (st.checkIoConnectionEvent c event) ns :=
  ⟨h, DoublyLinkedList.Trimmed.refl _ ns, st.view_checkIoConnectionEvent cfg c event,
    rfl, rfl, rfl, rfl, rfl, rfl⟩

theorem shrunk_closeSocket {cfg : Config} {st : StackState} {ns : List Nat}
    (h : st.Listed cfg ns) (socket : Int) :
    Shrunk cfg st ns (st.view cfg) (st.closeSocket socket) ns := by
  unfold closeSocket
  split
  · exact ⟨h, DoublyLinkedList.Trimmed.refl _ ns, rfl, rfl, rfl, rfl, rfl, rfl, rfl⟩
  · exact ⟨h, DoublyLinkedList.Trimmed.refl _ ns, rfl, Frame.refl st⟩

/-- Unlinking a connection and clearing its object. -/
theorem shrunk_remove {cfg : Config} {st : StackState} {ns : List Nat}
    (h : st.Listed cfg ns) (r : ConnRef) :
    ∃ ns', Shrunk cfg st ns ((st.view cfg).without (· = r))
      ((st.removeFromActiveConnections cfg r).setConn r .initializeEmpty) ns' := by
  obtain ⟨ns', hlisted, htrimmed, hlist⟩ := removeFromActiveConnections_listed h r
  obtain ⟨list, heq⟩ := removeFromActiveConnections_eq cfg st r
  rw [heq] at hlisted htrimmed hlist ⊢
  refine ⟨ns', hlisted, htrimmed, ?_, rfl, rfl, rfl, rfl, rfl, rfl⟩
  unfold view View.without
  simp only [View.mk.injEq]
  refine ⟨?_, ?_, rfl, rfl⟩
  · refine Eq.trans hlist (List.filter_congr fun s _ => ?_)
    by_cases hs : s = r <;> simp [hs]
  · funext s
    by_cases hs : s = r
    · subst hs; simp [setConn, conn]
    · simp [setConn, conn, hs]

end StackState

end Opener
