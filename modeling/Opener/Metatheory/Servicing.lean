import Opener.Core.Stack
import Opener.Metatheory.Timeouts

/-!
The periodic and the receiving side of the stack as moves of the connection
table: the loop body of `ManageConnections`, received datagrams, Forward Close
and the session commands. None of them lists a new connection.
-/

namespace Opener

open LinkedCells

namespace CipConnectionObject

/-- What requests, packets and triggers write into a connection object. -/
inductive Service (c : CipConnectionObject) : CipConnectionObject → Prop
  | counted (sequence : UInt16) : Service c { c with sequenceCountConsuming := sequence }
  | replied (reply : List UInt8) : Service c { c with lastReplySent := reply }
  | renewed : Service c c.resetInactivityWatchdogTimerValue
  | heard : Service c c.resetLastPackageInactivityTimerValue
  | sequenced (number : UInt32) : Service c
      { c.resetInactivityWatchdogTimerValue with
        eipLevelSequenceCountConsuming := number
        eipFirstLevelSequenceCountReceived := true }
  | triggered : Service c
      { c with transmissionTriggerTimer := c.productionInhibitTime.toUInt64 }

abbrev Services : CipConnectionObject → CipConnectionObject → Prop :=
  Relation.ReflTransGen Service

theorem Services.core {c d : CipConnectionObject} (h : Services c d) : d.core = c.core := by
  induction h with
  | refl => rfl
  | tail _ hlast ih =>
      rw [← ih]
      cases hlast with
      | counted _ | replied _ | renewed | heard | sequenced _ | triggered => rfl

end CipConnectionObject

open CipConnectionObject (Service Services)

namespace StackState

variable {cfg : Config} {env : Environment} {st : StackState} {ns : List Nat}

/-- The open UDP sockets and the one for messages. -/
def sockets (st : StackState) : List Int × Int := (st.masterSocket, st.udpIoMessaging)

/-- Only timers, consumption counters, stored replies and variables outside the
connection table were written. -/
structure Touched (st st' : StackState) : Prop where
  list : st'.store.connectionList = st.store.connectionList
  object : ∀ r, (st'.conn r).core = (st.conn r).core
  events : st'.events = st.events
  connectionId : st'.connectionId = st.connectionId
  dummy : st'.dummy = st.dummy
  sockets : st'.sockets = st.sockets

theorem Touched.refl (st : StackState) : Touched st st := ⟨rfl, fun _ => rfl, rfl, rfl, rfl, rfl⟩

theorem Touched.trans {st₂ st₃ : StackState} (h : Touched st st₂) (h' : Touched st₂ st₃) :
    Touched st st₃ :=
  ⟨h'.list.trans h.list, fun r => (h'.object r).trans (h.object r),
    h'.events.trans h.events, h'.connectionId.trans h.connectionId, h'.dummy.trans h.dummy,
    h'.sockets.trans h.sockets⟩

theorem touched_modifyConn (st : StackState) (r : ConnRef)
    {f : CipConnectionObject → CipConnectionObject} (hf : (f (st.conn r)).core = (st.conn r).core) :
    Touched st (st.modifyConn r f) := by
  refine ⟨rfl, fun s => ?_, rfl, rfl, rfl, rfl⟩
  by_cases hs : s = r
  · subst hs
    rw [conn_modifyConn_self, hf]
  · rw [conn_modifyConn_of_ne _ hs]

/-- Nothing but such writes, and variables outside the connection table. -/
structure Serviced (st st' : StackState) : Prop where
  list : st'.store.connectionList = st.store.connectionList
  object : ∀ r, Services (st.conn r) (st'.conn r)
  events : st'.events = st.events
  connectionId : st'.connectionId = st.connectionId
  dummy : st'.dummy = st.dummy
  sockets : st'.sockets = st.sockets

theorem Serviced.touched {st st' : StackState} (h : Serviced st st') : Touched st st' :=
  ⟨h.list, fun r => (h.object r).core, h.events, h.connectionId, h.dummy, h.sockets⟩

theorem Serviced.refl (st : StackState) : Serviced st st :=
  ⟨rfl, fun _ => .refl, rfl, rfl, rfl, rfl⟩

theorem Serviced.trans {st₂ st₃ : StackState} (h : Serviced st st₂) (h' : Serviced st₂ st₃) :
    Serviced st st₃ :=
  ⟨h'.list.trans h.list, fun r => (h.object r).trans (h'.object r),
    h'.events.trans h.events, h'.connectionId.trans h.connectionId, h'.dummy.trans h.dummy,
    h'.sockets.trans h.sockets⟩

theorem serviced_modifyConn (st : StackState) (r : ConnRef)
    {f : CipConnectionObject → CipConnectionObject} (hf : Service (st.conn r) (f (st.conn r))) :
    Serviced st (st.modifyConn r f) := by
  refine ⟨rfl, fun s => ?_, rfl, rfl, rfl, rfl⟩
  by_cases hs : s = r
  · subst hs
    rw [conn_modifyConn_self]
    exact .single hf
  · rw [conn_modifyConn_of_ne _ hs]

/-- The state follows from `st` by moves that list no new connection. -/
structure Calm (cfg : Config) (st : StackState) (ns : List Nat) (st' : StackState)
    (ns' : List Nat) : Prop where
  listed : st'.Listed cfg ns'
  trimmed : st.Trimmed ns st' ns'
  moves : Moves (st.view cfg) (st'.view cfg)
  dummy : st'.dummy = st.dummy

theorem Calm.refl (h : st.Listed cfg ns) : Calm cfg st ns st ns :=
  ⟨h, DoublyLinkedList.Trimmed.refl _ ns, .refl, rfl⟩

theorem Calm.trans {st₂ st₃ : StackState} {ns₂ ns₃ : List Nat}
    (h : Calm cfg st ns st₂ ns₂) (h' : Calm cfg st₂ ns₂ st₃ ns₃) : Calm cfg st ns st₃ ns₃ :=
  ⟨h'.listed, DoublyLinkedList.Trimmed.trans h.trimmed h'.trimmed, h.moves.trans h'.moves,
    h'.dummy.trans h.dummy⟩

theorem Calm.regular {st' : StackState} {ns' : List Nat} (h : Calm cfg st ns st' ns')
    (hregular : Regular cfg (st.view cfg)) : Regular cfg (st'.view cfg) :=
  hregular.moves h.moves

theorem Departed.calm {st' : StackState} {ns' : List Nat} (h : Departed cfg st ns st' ns') :
    Calm cfg st ns st' ns' :=
  ⟨h.listed, h.trimmed, h.departs.moves, h.frame.dummy⟩

theorem Touched.listed {st' : StackState} (h : Touched st st') (hlisted : st.Listed cfg ns) :
    st'.Listed cfg ns := by
  unfold Listed
  rw [h.list]
  exact hlisted

theorem Touched.calm {st' : StackState} (h : Touched st st') (hlisted : st.Listed cfg ns) :
    Calm cfg st ns st' ns := by
  refine ⟨h.listed hlisted, ?_, .single (.touch ?_ ?_ h.connectionId h.object), h.dummy⟩
  · unfold Trimmed
    rw [h.list]
    exact DoublyLinkedList.Trimmed.refl _ ns
  · unfold view connectionList
    rw [h.list]
  · unfold view
    rw [h.events]

/-- In a regular table only listed connections are established. -/
theorem mem_of_established (hregular : Regular cfg (st.view cfg)) {r : ConnRef}
    (h : (st.conn r).state = .established) : r ∈ st.connectionList cfg := by
  by_contra hr
  have hidle := (hregular.idle r hr).state
  rw [view_object, h] at hidle
  cases hidle

theorem connectionTimeoutFunction_eq (hregular : Regular cfg (st.view cfg)) {r : ConnRef}
    (hr : r ∈ st.connectionList cfg) :
    st.connectionTimeoutFunction cfg env r =
      if r.isIo then st.handleIoConnectionTimeOut cfg env r
      else st.class3ConnectionTimeoutHandler cfg r := by
  have htimeout := (hregular.kind r hr).timeout
  rw [view_object] at htimeout
  rw [connectionTimeoutFunction, htimeout, ConnRef.timeoutFunction]
  cases r.isIo with
  | true => rfl
  | false => rfl

theorem connectionTimeoutFunction_departed (h : st.Listed cfg ns)
    (hregular : Regular cfg (st.view cfg)) {r : ConnRef} (hr : r ∈ st.connectionList cfg)
    (hestablished : (st.conn r).state = .established) {st' : StackState}
    (hcall : st.connectionTimeoutFunction cfg env r = .ok st') :
    ∃ ns', Departed cfg st ns st' ns' := by
  rw [connectionTimeoutFunction_eq hregular hr] at hcall
  cases hio : r.isIo with
  | false =>
      rw [hio, if_neg Bool.false_ne_true] at hcall
      obtain ⟨ns', h₁, -⟩ := class3Timeout_discarded h hr hio hcall
      exact ⟨ns', h₁.departed⟩
  | true =>
      rw [hio, if_pos rfl] at hcall
      exact (handleIoConnectionTimeOut_departed h hregular hr hio hestablished hcall).1

theorem superviseConnection_calm (h : st.Listed cfg ns) (hregular : Regular cfg (st.view cfg))
    {r : ConnRef} (hr : r ∈ st.connectionList cfg)
    (hestablished : (st.conn r).state = .established) {elapsedTime : UInt64}
    {st' : StackState} (hcall : st.superviseConnection cfg env elapsedTime r = .ok st') :
    ∃ ns', Calm cfg st ns st' ns' := by
  unfold superviseConnection at hcall
  split at hcall
  · split at hcall
    · obtain ⟨ns', h₁⟩ := connectionTimeoutFunction_departed h hregular hr hestablished hcall
      exact ⟨ns', h₁.calm⟩
    · cases hcall
      exact ⟨ns, (touched_modifyConn st r rfl).calm h⟩
  · cases hcall
    exact ⟨ns, Calm.refl h⟩

theorem collectData_eq (env : Environment) (instanceNumber : UInt16) (r : ConnRef)
    (st : StackState) :
    ∃ changed assemblyData, st.collectData env instanceNumber r =
      modifyConn { st with assemblyData := assemblyData } r
        (CipConnectionObject.countData changed) := by
  unfold collectData
  split
  exact ⟨_, _, rfl⟩

/-- `SendConnectedData` counts one packet and hands it out under that number. -/
theorem sendConnectedData_ok {r : ConnRef} {st' : StackState}
    (hcall : st.sendConnectedData cfg env r = .ok st') :
    ∃ packet changed, st'.store.connectionList = st.store.connectionList ∧
      (∀ s, s ≠ r → st'.conn s = st.conn s) ∧
      st'.conn r = (st.conn r).countPacket.countData changed ∧
      st'.events = st.events ++ [.sent packet] ∧ st'.connectionId = st.connectionId ∧
      st'.dummy = st.dummy ∧
      packet.connectionIdentifier = (st.conn r).cipProducedConnectionId ∧
      packet.sequenceNumber = nextSequenceNumber (st.conn r) := by
  simp only [sendConnectedData] at hcall
  split at hcall
  · cases hcall
  · rename_i instanceNumber _
    split at hcall
    · cases hcall
    · obtain ⟨changed, assemblyData, hcollect⟩ := collectData_eq env instanceNumber r
        (st.modifyConn r CipConnectionObject.countPacket)
      rw [hcollect] at hcall
      have hself : (modifyConn { st.modifyConn r CipConnectionObject.countPacket with
          assemblyData := assemblyData } r (CipConnectionObject.countData changed)).conn r =
            (st.conn r).countPacket.countData changed :=
        (conn_modifyConn_self _ r _).trans (congrArg _ (conn_modifyConn_self _ r _))
      rw [hself] at hcall
      split at hcall
      · cases hcall
      · cases hcall
        refine ⟨((st.conn r).countPacket.countData changed).ioPacket cfg st.runIdleState
          (assemblyData instanceNumber), changed, rfl, ?_, hself, rfl, rfl, rfl, ?_, ?_⟩
        · intro s hs
          exact (conn_modifyConn_of_ne _ hs _).trans (conn_modifyConn_of_ne _ hs _)
        · cases changed <;> rfl
        · cases changed <;> rfl

theorem sendConnectedData_calm (h : st.Listed cfg ns) {r : ConnRef}
    (hr : r ∈ st.connectionList cfg) (hestablished : (st.conn r).state = .established)
    (hproducing : (st.conn r).producingSocket ≠ eipInvalidSocket) {st' : StackState}
    (hcall : st.sendConnectedData cfg env r = .ok st') : Calm cfg st ns st' ns := by
  obtain ⟨packet, changed, hlist, hothers, hself, hevents, hid, hdummy, hidentifier, hnumber⟩ :=
    sendConnectedData_ok hcall
  refine ⟨?_, ?_, .single (.send hr hestablished hproducing hidentifier hnumber ?_ ?_ hid ?_ ?_),
    hdummy⟩
  · unfold Listed
    rw [hlist]
    exact h
  · unfold Trimmed
    rw [hlist]
    exact DoublyLinkedList.Trimmed.refl _ ns
  · unfold view connectionList
    rw [hlist]
  · unfold view
    rw [hevents, List.filter_append]
    rfl
  · rw [view_object, hself]
    cases changed <;> rfl
  · intro s hs
    rw [view_object, hothers s hs]
    rfl

theorem core_inhibitAfter (elapsedTime : UInt64) (c : CipConnectionObject) :
    (inhibitAfter elapsedTime c).core = c.core := by
  unfold inhibitAfter
  split <;> rfl

theorem core_rearmAfter (elapsedTime : UInt64) (c : CipConnectionObject) :
    (rearmAfter cfg elapsedTime c).core = c.core := by
  simp only [rearmAfter]
  generalize (if c.transmissionTriggerTimer + (c.requestedPacketInterval cfg).toUInt64 >
    elapsedTime then c.transmissionTriggerTimer + (c.requestedPacketInterval cfg).toUInt64 -
      elapsedTime else 0) = timer
  split <;> rfl

theorem produceConnection_calm (h : st.Listed cfg ns) {r : ConnRef}
    (hr : r ∈ st.connectionList cfg) (hestablished : (st.conn r).state = .established)
    {elapsedTime : UInt64} {st' : StackState}
    (hcall : st.produceConnection cfg env elapsedTime r = .ok st') :
    Calm cfg st ns st' ns := by
  unfold produceConnection at hcall
  split at hcall
  · rename_i hproducing
    have hcore : ((st.modifyConn r (inhibitAfter elapsedTime)).conn r).core =
        (st.conn r).core := by
      rw [conn_modifyConn_self, core_inhibitAfter]
    have h₁ := (touched_modifyConn st r (core_inhibitAfter elapsedTime (st.conn r))).calm h
    have hr₁ : r ∈ (st.modifyConn r (inhibitAfter elapsedTime)).connectionList cfg := hr
    simp only at hcall
    generalize st.modifyConn r (inhibitAfter elapsedTime) = st₁ at h₁ hcall hcore hr₁
    split at hcall
    · split at hcall
      · cases hcall
      · cases hsend : st₁.sendConnectedData cfg env r with
        | error fault => simp [hsend] at hcall
        | ok st₂ =>
            simp only [hsend, Except.ok.injEq] at hcall
            subst hcall
            have h₂ := sendConnectedData_calm h₁.listed hr₁
              ((CipConnectionObject.core_field hcore (·.state) fun _ => rfl).trans hestablished)
              (by rw [CipConnectionObject.core_field hcore (·.producingSocket) fun _ => rfl]
                  exact hproducing.2) hsend
            exact (h₁.trans h₂).trans
              ((touched_modifyConn st₂ r (core_rearmAfter elapsedTime (st₂.conn r))).calm
                h₂.listed)
    · cases hcall
      exact h₁.trans ((touched_modifyConn st₁ r rfl).calm h₁.listed)
  · cases hcall
    exact Calm.refl h

theorem manageConnection_calm (h : st.Listed cfg ns) (hregular : Regular cfg (st.view cfg))
    {r : ConnRef} {elapsedTime : UInt64} {st' : StackState}
    (hcall : st.manageConnection cfg env elapsedTime r = .ok st') :
    ∃ ns', Calm cfg st ns st' ns' := by
  unfold manageConnection at hcall
  split at hcall
  · rename_i hestablished
    have hr := mem_of_established hregular hestablished
    cases hsupervise : st.superviseConnection cfg env elapsedTime r with
    | error fault => simp [hsupervise] at hcall
    | ok st₁ =>
        simp only [hsupervise] at hcall
        obtain ⟨ns₁, h₁⟩ := superviseConnection_calm h hregular hr hestablished hsupervise
        split at hcall
        · rename_i hestablished₁
          have hr₁ := mem_of_established (h₁.regular hregular) hestablished₁
          exact ⟨ns₁, h₁.trans (produceConnection_calm h₁.listed hr₁ hestablished₁ hcall)⟩
        · cases hcall
          exact ⟨ns₁, h₁⟩
  · cases hcall
    exact ⟨ns, Calm.refl h⟩

theorem manageConnectionList_calm (h : st.Listed cfg ns)
    (hregular : Regular cfg (st.view cfg)) {elapsedTime : UInt64} {st' : StackState}
    (hcall : st.manageConnectionList cfg env elapsedTime = .ok st') :
    ∃ ns', Calm cfg st ns st' ns' := by
  refine liveWalk_invariant (fun s => ∃ ns', Calm cfg st ns s ns') ?_ ⟨ns, Calm.refl h⟩ hcall
  rintro s n r s' ⟨ns₁, h₁⟩ - hbody
  obtain ⟨ns₂, h₂⟩ := manageConnection_calm h₁.listed (h₁.regular hregular) hbody
  exact ⟨ns₂, h₁.trans h₂⟩

theorem manageConnections_calm (h : st.Listed cfg ns) (hregular : Regular cfg (st.view cfg))
    {elapsedTime : UInt64} {st' : StackState}
    (hcall : st.manageConnections cfg env elapsedTime = .ok st') :
    ∃ ns', Calm cfg st ns st' ns' := by
  have h₁ : Calm cfg st ns
      { st with assemblyData := env.handleApplication st.assemblyData } ns :=
    Touched.calm ⟨rfl, fun _ => rfl, rfl, rfl, rfl, rfl⟩ h
  obtain ⟨ns', h₂⟩ := manageConnectionList_calm h₁.listed hregular hcall
  exact ⟨ns', h₁.trans h₂⟩

theorem triggerConnections_serviced (cfg : Config) (outputAssembly inputAssembly : UInt32)
    (st : StackState) :
    Serviced st (st.triggerConnections cfg outputAssembly inputAssembly).2 := by
  simp only [triggerConnections]
  split
  · exact Serviced.refl st
  · rename_i r _
    split
    · exact serviced_modifyConn st r (f := fun c =>
        { c with transmissionTriggerTimer := c.productionInhibitTime.toUInt64 }) .triggered
    · exact Serviced.refl st

theorem notifyAssembly_serviced {instanceNumber : UInt16} {data : List UInt8}
    {status : EipStatus} {st' : StackState}
    (hcall : st.notifyAssemblyConnectedDataReceived env instanceNumber data =
      .ok (status, st')) : Serviced st st' := by
  unfold notifyAssemblyConnectedDataReceived at hcall
  split at hcall
  · split at hcall
    · cases hcall
    · cases hcall
      exact Serviced.refl st
  · split at hcall
    · cases hcall
      exact Serviced.refl st
    · cases hcall
      exact ⟨rfl, fun _ => .refl, rfl, rfl, rfl, rfl⟩

theorem receiveSequenceCount_serviced (st : StackState) (r : ConnRef) (data : Message)
    (dataLength : UInt16) :
    Serviced st (st.receiveSequenceCount r data dataLength).2.2.2 := by
  unfold receiveSequenceCount
  split
  · exact serviced_modifyConn st r
      (f := fun c => { c with sequenceCountConsuming := (Message.getUint data).1 }) (.counted _)
  · exact Serviced.refl st

theorem handleReceivedIoConnectionData_serviced {r : ConnRef} {data : Message}
    {dataLength : UInt16} {status : EipStatus} {st' : StackState}
    (hcall : st.handleReceivedIoConnectionData cfg env r data dataLength =
      .ok (status, st')) : Serviced st st' := by
  have h₁ := receiveSequenceCount_serviced st r data dataLength
  unfold handleReceivedIoConnectionData at hcall
  generalize st.receiveSequenceCount r data dataLength = received at h₁ hcall
  obtain ⟨noNewData, data₁, length₁, st₁⟩ := received
  simp only at h₁ hcall
  split at hcall
  · generalize hheader : (if cfg.consumeRunIdle = true then _ else _ :
      Message × UInt16 × StackState) = header at hcall
    obtain ⟨data₂, length₂, st₂⟩ := header
    have h₂ : Serviced st₁ st₂ := by
      split at hheader
      · cases hheader
        exact ⟨rfl, fun _ => .refl, rfl, rfl, rfl, rfl⟩
      · cases hheader
        exact Serviced.refl st₁
    simp only at hcall
    split at hcall
    · cases hcall
      exact h₁.trans h₂
    · split at hcall
      · cases hcall
      · split at hcall
        · cases hcall
        · rename_i hnotify
          cases hcall
          exact (h₁.trans h₂).trans (notifyAssembly_serviced hnotify)
        · rename_i hnotify
          cases hcall
          exact (h₁.trans h₂).trans (notifyAssembly_serviced hnotify)
  · cases hcall
    exact h₁

theorem consumeConnectedData_serviced {r : ConnRef} {status : EipStatus} {st' : StackState}
    (hcall : st.consumeConnectedData cfg env r = .ok (status, st')) : Serviced st st' := by
  simp only [consumeConnectedData] at hcall
  have h₁ : Serviced st (st.modifyConn r fun c => c.resetLastPackageInactivityTimerValue) :=
    serviced_modifyConn st r .heard
  split at hcall
  · have h₂ := serviced_modifyConn (st.modifyConn r fun c =>
      c.resetLastPackageInactivityTimerValue) r (f := fun c =>
      { c.resetInactivityWatchdogTimerValue with
        eipLevelSequenceCountConsuming := (st.modifyConn r fun c =>
          c.resetLastPackageInactivityTimerValue).cpf.addressItem.sequenceNumber
        eipFirstLevelSequenceCountReceived := true }) (.sequenced _)
    split at hcall
    · cases hcall
      exact h₁.trans h₂
    · exact (h₁.trans h₂).trans (handleReceivedIoConnectionData_serviced hcall)
  · cases hcall
    exact h₁

theorem handleReceivedConnectedData_serviced {data : Message} {fromAddress : UInt32}
    {status : EipStatus} {st' : StackState}
    (hcall : st.handleReceivedConnectedData cfg env data fromAddress = .ok (status, st')) :
    Serviced st st' := by
  unfold handleReceivedConnectedData at hcall
  generalize CommonPacketFormatData.createCommonPacketFormatStructure data data.length
    st.cpf = parsed at hcall
  obtain ⟨parseStatus, cpf⟩ := parsed
  have h₁ : Serviced st { st with cpf := cpf } := ⟨rfl, fun _ => .refl, rfl, rfl, rfl, rfl⟩
  simp only at hcall
  split at hcall
  · cases hcall
    exact h₁
  · split at hcall
    · split at hcall
      · cases hcall
        exact h₁
      · split at hcall
        · exact h₁.trans (consumeConnectedData_serviced hcall)
        · cases hcall
          exact h₁
    · cases hcall
      exact h₁

theorem triggerConnections_touched (cfg : Config) (outputAssembly inputAssembly : UInt32)
    (st : StackState) :
    Touched st (st.triggerConnections cfg outputAssembly inputAssembly).2 :=
  (triggerConnections_serviced cfg outputAssembly inputAssembly st).touched

theorem handleReceivedConnectedData_touched {data : Message} {fromAddress : UInt32}
    {status : EipStatus} {st' : StackState}
    (hcall : st.handleReceivedConnectedData cfg env data fromAddress = .ok (status, st')) :
    Touched st st' :=
  (handleReceivedConnectedData_serviced hcall).touched

/-- Closing a listed connection, as a move. -/
theorem connectionCloseFunction_calm (h : st.Listed cfg ns)
    (hregular : Regular cfg (st.view cfg)) {r : ConnRef} (hr : r ∈ st.connectionList cfg)
    {st' : StackState} (hcall : st.connectionCloseFunction cfg r = .ok st') :
    ∃ ns', Calm cfg st ns st' ns' := by
  obtain ⟨st₁, ns', hok, -, hdeparted⟩ := connectionCloseFunction_departed h hregular hr
  rw [hcall, Except.ok.injEq] at hok
  exact ⟨ns', hok ▸ hdeparted.calm⟩

theorem handleConsumingUdpSocket_calm {r : ConnRef} {received : List Received}
    (h : st.Listed cfg ns) (hregular : Regular cfg (st.view cfg))
    (hr : r ∈ st.connectionList cfg) {turn : Turn (StackState × List Received)}
    (hcall : handleConsumingUdpSocket cfg env r (st, received) = .ok turn) :
    ∃ s ns', (turn = .continue s ∨ turn = .stop s) ∧ Calm cfg st ns s.1 ns' := by
  simp only [handleConsumingUdpSocket] at hcall
  split at hcall
  · split at hcall
    · cases hcall
      exact ⟨_, ns, .inr rfl, Calm.refl h⟩
    · cases hcall
      exact ⟨_, ns, .inr rfl, Calm.refl h⟩
    · cases hclose : st.connectionCloseFunction cfg r with
      | error fault => simp [hclose] at hcall
      | ok st₁ =>
          simp only [hclose, Except.ok.injEq] at hcall
          obtain ⟨ns', h₁⟩ := connectionCloseFunction_calm h hregular hr hclose
          exact ⟨_, ns', .inl hcall.symm, h₁⟩
    · cases hclose : st.connectionCloseFunction cfg r with
      | error fault => simp [hclose] at hcall
      | ok st₁ =>
          simp only [hclose, Except.ok.injEq] at hcall
          obtain ⟨ns', h₁⟩ := connectionCloseFunction_calm h hregular hr hclose
          exact ⟨_, ns', .inl hcall.symm, h₁⟩
    · rename_i data fromAddress _
      cases hreceive : st.handleReceivedConnectedData cfg env data fromAddress with
      | error fault => simp [hreceive] at hcall
      | ok result =>
          obtain ⟨status, st₁⟩ := result
          simp only [hreceive, Except.ok.injEq] at hcall
          exact ⟨_, ns, .inl hcall.symm, (handleReceivedConnectedData_touched hreceive).calm h⟩
  · cases hcall
    exact ⟨_, ns, .inl rfl, Calm.refl h⟩

theorem checkAndHandleConsumingUdpSocket_calm (h : st.Listed cfg ns)
    (hregular : Regular cfg (st.view cfg)) {st' : StackState}
    (hcall : st.checkAndHandleConsumingUdpSocket cfg env = .ok st') :
    ∃ ns', Calm cfg st ns st' ns' := by
  have hbody : ∀ (s : StackState × List Received) n r turn,
      (∃ ns', Calm cfg st ns s.1 ns') → (s.1.nodes n).data = some r →
      handleConsumingUdpSocket cfg env r s = .ok turn →
      ∃ s' ns', (turn = .continue s' ∨ turn = .stop s') ∧ Calm cfg st ns s'.1 ns' := by
    rintro ⟨s, received⟩ n r turn ⟨ns₁, h₁⟩ hdata hturn
    have hr := h₁.listed.mem.mpr ⟨n, h₁.listed.mem_of_data hdata, hdata⟩
    obtain ⟨s', ns', hkind, h₂⟩ :=
      handleConsumingUdpSocket_calm h₁.listed (h₁.regular hregular) hr hturn
    exact ⟨s', ns', hkind, h₁.trans h₂⟩
  unfold checkAndHandleConsumingUdpSocket at hcall
  split at hcall
  · cases hcall
  · rename_i s received hwalk
    cases hcall
    refine savedWalk_invariant (fun s => ∃ ns', Calm cfg st ns s.1 ns') ?_ ?_
      ⟨ns, Calm.refl h⟩ hwalk
    · intro s n r s' hP hdata hturn
      obtain ⟨s'', ns', hkind, h₂⟩ := hbody s n r _ hP hdata hturn
      rcases hkind with hkind | hkind <;> cases hkind
      exact ⟨ns', h₂⟩
    · intro s n r s' hP hdata hturn
      obtain ⟨s'', ns', hkind, h₂⟩ := hbody s n r _ hP hdata hturn
      rcases hkind with hkind | hkind <;> cases hkind
      exact ⟨ns', h₂⟩

theorem touched_cpf (st : StackState) (cpf : CommonPacketFormatData) :
    Touched st { st with cpf := cpf } :=
  ⟨rfl, fun _ => rfl, rfl, rfl, rfl, rfl⟩

theorem receiveConnectedRequest_touched (r : ConnRef) (sequence : UInt16) (st : StackState) :
    Touched st (st.receiveConnectedRequest r sequence) :=
  (touched_modifyConn st r rfl).trans (touched_cpf _ _)

theorem forwardClose_calm (h : st.Listed cfg ns) (hregular : Regular cfg (st.view cfg))
    {request : MessageRouterRequest} {originatorAddress : SockaddrIn}
    {response : MessageRouterResponse} {st' : StackState}
    (hcall : st.forwardClose cfg request originatorAddress = .ok (response, st')) :
    ∃ ns', Calm cfg st ns st' ns' := by
  simp only [forwardClose] at hcall
  have h₁ := (touched_cpf st (CommonPacketFormatData.clearAddressInfoItem 1
    (CommonPacketFormatData.clearAddressInfoItem 0 st.cpf))).calm h
  split at hcall
  · cases hcall
    exact ⟨ns, h₁.trans ((touched_cpf _ _).calm h₁.listed)⟩
  · rename_i r hfind
    have hr : r ∈ st.connectionList cfg := List.mem_of_find?_eq_some hfind
    split at hcall
    · split at hcall
      · cases hcall
      · rename_i hclose
        cases hcall
        obtain ⟨ns', h₂⟩ := connectionCloseFunction_calm h₁.listed hregular hr hclose
        exact ⟨ns', (h₁.trans h₂).trans ((touched_cpf _ _).calm h₂.listed)⟩
    · cases hcall
      exact ⟨ns, h₁.trans ((touched_cpf _ _).calm h₁.listed)⟩

theorem closeFirstConnections_calm {fuel : Nat} (h : st.Listed cfg ns)
    (hregular : Regular cfg (st.view cfg)) {st' : StackState}
    (hcall : st.closeFirstConnections cfg fuel = .ok st') :
    ∃ ns', Calm cfg st ns st' ns' := by
  induction fuel generalizing st ns with
  | zero =>
      unfold closeFirstConnections at hcall
      split at hcall
      · cases hcall
        exact ⟨ns, Calm.refl h⟩
      · cases hcall
  | succ fuel ih =>
      unfold closeFirstConnections at hcall
      split at hcall
      · cases hcall
        exact ⟨ns, Calm.refl h⟩
      · rename_i n _
        simp only at hcall
        cases hdata : (st.nodes n).data with
        | none => simp [hdata] at hcall
        | some r =>
            simp only [hdata] at hcall
            have hr := h.mem.mpr ⟨n, h.mem_of_data hdata, hdata⟩
            cases hclose : st.connectionCloseFunction cfg r with
            | error fault => simp [hclose] at hcall
            | ok st₁ =>
                simp only [hclose] at hcall
                obtain ⟨ns₁, h₁⟩ := connectionCloseFunction_calm h hregular hr hclose
                obtain ⟨ns', h₂⟩ := ih h₁.listed (h₁.regular hregular) hcall
                exact ⟨ns', h₁.trans h₂⟩

theorem registerSession_serviced {socket : Int} {st' : StackState}
    (hcall : st.registerSession env socket = .ok st') : Serviced st st' := by
  unfold registerSession at hcall
  split at hcall
  · cases hcall
    exact Serviced.refl st
  · split at hcall
    · cases hcall
      exact Serviced.refl st
    · split at hcall
      · cases hcall
      · cases hcall
        exact ⟨rfl, fun _ => .refl, rfl, rfl, rfl, rfl⟩

theorem registerSession_touched {socket : Int} {st' : StackState}
    (hcall : st.registerSession env socket = .ok st') : Touched st st' :=
  (registerSession_serviced hcall).touched

theorem unregisterSession_discarded (h : st.Listed cfg ns)
    (hregular : Regular cfg (st.view cfg)) {sessionHandle : UInt32} {st' : StackState}
    (hcall : st.unregisterSession cfg sessionHandle = .ok st') :
    ∃ ns', Discarded cfg st ns st' ns' := by
  simp only [unregisterSession] at hcall
  split at hcall
  · split at hcall
    · cases hcall
    · rename_i hclose
      have h₁ := shrunk_closeTcpSocket h hclose
      obtain ⟨ns', h₂⟩ := clearSession_discarded h₁.listed (h₁.regular hregular) hcall
      exact ⟨ns', (Discarded.of_shrunk h₁).trans h₂⟩
  · cases hcall
    exact ⟨ns, Discarded.refl h⟩

/-- A TCP socket is closed and its session removed. -/
theorem disconnect_discarded (h : st.Listed cfg ns) (hregular : Regular cfg (st.view cfg))
    {socket : Int} {st₁ st' : StackState} (hclose : st.closeTcpSocket socket = .ok st₁)
    (hcall : st₁.removeSession cfg socket = .ok st') :
    ∃ ns', Discarded cfg st ns st' ns' := by
  have h₁ := shrunk_closeTcpSocket h hclose
  obtain ⟨ns', h₂⟩ := removeSession_discarded h₁.listed (h₁.regular hregular) hcall
  exact ⟨ns', (Discarded.of_shrunk h₁).trans h₂⟩

theorem checkEncapsulationInactivity_discarded (h : st.Listed cfg ns)
    (hregular : Regular cfg (st.view cfg)) {socket : Int} {st' : StackState}
    (hcall : st.checkEncapsulationInactivity cfg env socket = .ok st') :
    ∃ ns', Discarded cfg st ns st' ns' := by
  simp only [checkEncapsulationInactivity] at hcall
  split at hcall
  · split at hcall
    · cases hcall
      exact ⟨ns, Discarded.refl h⟩
    · split at hcall
      · split at hcall
        · cases hcall
        · rename_i hclass3
          obtain ⟨ns₁, h₁⟩ := closeClass3_discarded h hregular hclass3
          split at hcall
          · cases hcall
          · rename_i hclose
            obtain ⟨ns', h₂⟩ := disconnect_discarded h₁.listed (h₁.regular hregular) hclose hcall
            exact ⟨ns', h₁.trans h₂⟩
      · cases hcall
        exact ⟨ns, Discarded.refl h⟩
  · cases hcall
    exact ⟨ns, Discarded.refl h⟩

/-- A client closed its connection: the session is looked for twice. -/
theorem handleClosedTcpSocket_discarded (h : st.Listed cfg ns)
    (hregular : Regular cfg (st.view cfg)) {socket : Int} {st' : StackState}
    (hcall : st.handleClosedTcpSocket cfg socket = .ok st') :
    ∃ ns', Discarded cfg st ns st' ns' := by
  rw [handleClosedTcpSocket] at hcall
  split at hcall
  · cases hcall
  · rename_i st₁ htimer
    have h₁ := shrunk_removeSocketTimerFromList h htimer
    split at hcall
    · cases hcall
    · rename_i st₂ hremove
      obtain ⟨ns₂, h₂⟩ := removeSession_discarded h₁.listed (h₁.regular hregular) hremove
      have h₁₂ := (Discarded.of_shrunk h₁).trans h₂
      split at hcall
      · cases hcall
      · rename_i st₃ hclose
        obtain ⟨ns', h₃⟩ :=
          disconnect_discarded h₂.listed (h₁₂.regular hregular) hclose hcall
        exact ⟨ns', h₁₂.trans h₃⟩

theorem shutDownSessions_discarded {indices : List Nat} (h : st.Listed cfg ns)
    (hregular : Regular cfg (st.view cfg)) {st' : StackState}
    (hcall : st.shutDownSessions indices = .ok st') :
    ∃ ns', Discarded cfg st ns st' ns' := by
  induction indices generalizing st ns with
  | nil =>
      simp only [shutDownSessions, Except.ok.injEq] at hcall
      exact ⟨ns, hcall ▸ Discarded.refl h⟩
  | cons i indices ih =>
      simp only [shutDownSessions] at hcall
      split at hcall
      · split at hcall
        · cases hcall
        · rename_i st₁ hclose
          have h₁ := shrunk_closeTcpSocket h hclose
          have h₂ := shrunk_clearSession h₁.listed i
          rw [h₁.view_eq] at h₂
          have h₁₂ := h₁.trans h₂
          obtain ⟨ns', h₃⟩ := ih h₁₂.listed (h₁₂.regular hregular) hcall
          exact ⟨ns', (Discarded.of_shrunk h₁₂).trans h₃⟩
      · exact ih h hregular hcall

end StackState

end Opener
