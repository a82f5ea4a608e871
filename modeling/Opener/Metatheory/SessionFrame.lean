import Opener.Metatheory.Transitions

/-!
What leaves the session table, the socket timers and the stored replies alone: one
lemma for each function that does not deal with sessions says that it keeps them and
never ends in the loop over the timers. None but those that send I/O data write behind a
message.
-/

namespace Opener

open LinkedCells

/-- A fault of other functions than those that clear timers or send I/O data. -/
abbrev Fault.Confined (fault : Fault) : Prop :=
  fault ≠ .endlessTimerLoop ∧ fault ≠ .messageOverrun

namespace StackState

variable (cfg : Config) (env : Environment)

structure SessionsKept (st st' : StackState) : Prop where
  registeredSessions : st'.registeredSessions = st.registeredSessions
  timestamps : st'.timestamps = st.timestamps

theorem SessionsKept.refl (st : StackState) : SessionsKept st st := ⟨rfl, rfl⟩

theorem SessionsKept.trans {st₁ st₂ st₃ : StackState} (h : SessionsKept st₁ st₂)
    (h' : SessionsKept st₂ st₃) : SessionsKept st₁ st₃ :=
  ⟨h'.registeredSessions.trans h.registeredSessions, h'.timestamps.trans h.timestamps⟩

/-- A call that does not deal with sessions, and one with a further result. -/
def Aloof (st : StackState) (result : Except Fault StackState) : Prop :=
  Outcome (· ≠ .endlessTimerLoop) (SessionsKept st) result

def AloofWith {α : Type} (st : StackState) (result : Except Fault (α × StackState)) : Prop :=
  Outcome (· ≠ .endlessTimerLoop) (fun a => SessionsKept st a.2) result

theorem AloofWith.after {α : Type} {st st₁ : StackState} (h : SessionsKept st st₁)
    {result : Except Fault (α × StackState)} (hresult : AloofWith st₁ result) :
    AloofWith st result :=
  hresult.imp fun _ => h.trans

/-- No reply is stored: an object has the reply it had, or none, or that of the
request's object. -/
structure RepliesKept (st st' : StackState) : Prop where
  replies : ∀ r, (st'.conn r).lastReplySent = (st.conn r).lastReplySent ∨
    (st'.conn r).lastReplySent = [] ∨ (st'.conn r).lastReplySent = st.dummy.lastReplySent
  request : st'.dummy.lastReplySent = st.dummy.lastReplySent

theorem RepliesKept.trans {st₁ st₂ st₃ : StackState} (h : RepliesKept st₁ st₂)
    (h' : RepliesKept st₂ st₃) : RepliesKept st₁ st₃ := by
  refine ⟨fun r => ?_, h'.request.trans h.request⟩
  rcases h'.replies r with hkept | hnone | hcopied
  · rw [hkept]
    exact h.replies r
  · exact .inr (.inl hnone)
  · rw [hcopied, h.request]
    exact .inr (.inr rfl)

/-- The objects are as before. -/
theorem RepliesKept.of_pool {st st' : StackState} (hpool : st'.store.pool = st.store.pool)
    (hrequest : st'.dummy.lastReplySent = st.dummy.lastReplySent) : RepliesKept st st' := by
  refine ⟨fun r => .inl ?_, hrequest⟩
  rw [conn, hpool, conn]

structure Untouched (st st' : StackState) : Prop extends SessionsKept st st',
  RepliesKept st st'

/-- Objects, sessions and timers are as before. -/
theorem Untouched.same {st st' : StackState} (hsessions : SessionsKept st st')
    (hpool : st'.store.pool = st.store.pool)
    (hrequest : st'.dummy.lastReplySent = st.dummy.lastReplySent) : Untouched st st' :=
  ⟨hsessions, .of_pool hpool hrequest⟩

theorem Untouched.refl (st : StackState) : Untouched st st :=
  .same (.refl st) rfl rfl

theorem Untouched.trans {st₁ st₂ st₃ : StackState} (h : Untouched st₁ st₂)
    (h' : Untouched st₂ st₃) : Untouched st₁ st₃ :=
  ⟨h.toSessionsKept.trans h'.toSessionsKept, h.toRepliesKept.trans h'.toRepliesKept⟩

/-- A call that deals with neither, and one with a further result. -/
def Reserved (st : StackState) (result : Except Fault StackState) : Prop :=
  Outcome Fault.Confined (Untouched st) result

def ReservedWith {α : Type} (st : StackState) (result : Except Fault (α × StackState)) : Prop :=
  Outcome Fault.Confined (fun a => Untouched st a.2) result

/-- A call that may send I/O data. -/
def ReservedSending (st : StackState) (result : Except Fault StackState) : Prop :=
  Outcome (· ≠ .endlessTimerLoop) (Untouched st) result

theorem Reserved.sending {st : StackState} {result : Except Fault StackState}
    (h : Reserved st result) : ReservedSending st result :=
  h.weaken fun _ hfault => hfault.1

theorem Reserved.aloof {st : StackState} {result : Except Fault StackState}
    (h : Reserved st result) : Aloof st result :=
  h.sending.imp fun _ hresult => hresult.toSessionsKept

theorem ReservedWith.aloof {α : Type} {st : StackState}
    {result : Except Fault (α × StackState)} (h : ReservedWith st result) :
    AloofWith st result :=
  (h.weaken fun _ hfault => hfault.1).imp fun _ hresult => hresult.toSessionsKept

theorem Reserved.after {st st₁ : StackState} (h : Untouched st st₁)
    {result : Except Fault StackState} (hresult : Reserved st₁ result) : Reserved st result :=
  hresult.imp fun _ => h.trans

theorem ReservedSending.after {st st₁ : StackState} (h : Untouched st st₁)
    {result : Except Fault StackState} (hresult : ReservedSending st₁ result) :
    ReservedSending st result :=
  hresult.imp fun _ => h.trans

theorem ReservedWith.after {α : Type} {st st₁ : StackState} (h : Untouched st st₁)
    {result : Except Fault (α × StackState)} (hresult : ReservedWith st₁ result) :
    ReservedWith st result :=
  hresult.imp fun _ => h.trans

/-- One object is changed. -/
theorem Untouched.update {st st' : StackState} {r : ConnRef} {c : CipConnectionObject}
    (hsessions : SessionsKept st st') (hpool : st'.store.pool = Function.update st.store.pool r c)
    (hc : c.lastReplySent = (st.conn r).lastReplySent ∨ c.lastReplySent = [] ∨
      c.lastReplySent = st.dummy.lastReplySent)
    (hrequest : st'.dummy.lastReplySent = st.dummy.lastReplySent) : Untouched st st' := by
  refine ⟨hsessions, fun s => ?_, hrequest⟩
  rw [conn, hpool]
  by_cases hs : s = r
  · subst hs
    rw [Function.update_self]
    exact hc
  · rw [Function.update_of_ne hs]
    exact .inl rfl

theorem setConn_untouched (r : ConnRef) {c : CipConnectionObject} (st : StackState)
    (hc : c.lastReplySent = (st.conn r).lastReplySent ∨ c.lastReplySent = [] ∨
      c.lastReplySent = st.dummy.lastReplySent) : Untouched st (st.setConn r c) :=
  .update ⟨rfl, rfl⟩ rfl hc rfl

theorem modifyConn_untouched (r : ConnRef) {f : CipConnectionObject → CipConnectionObject}
    (st : StackState) (hf : ∀ c, (f c).lastReplySent = c.lastReplySent) :
    Untouched st (st.modifyConn r f) :=
  setConn_untouched r st (.inl (hf _))

theorem checkIoConnectionEvent_untouched (c : CipConnectionObject) (event : IoConnectionEvent)
    (st : StackState) : Untouched st (st.checkIoConnectionEvent c event) :=
  Untouched.same ⟨rfl, rfl⟩ rfl rfl

theorem closeSocket_untouched (socket : Int) (st : StackState) :
    Untouched st (st.closeSocket socket) := by
  rw [closeSocket]
  split
  · exact Untouched.same ⟨rfl, rfl⟩ rfl rfl
  · exact .refl st

theorem removeFromActiveConnections_untouched (r : ConnRef) (st : StackState) :
    Untouched st (st.removeFromActiveConnections cfg r) := by
  obtain ⟨list, heq⟩ := removeFromActiveConnections_eq cfg st r
  rw [heq]
  exact Untouched.same ⟨rfl, rfl⟩ rfl rfl

theorem closeChannels_untouched (r : ConnRef) (st : StackState) :
    Untouched st (st.closeCommunicationChannelsAndRemoveFromActiveConnectionsList cfg r) :=
  (((closeSocket_untouched _ st).trans (closeSocket_untouched _ _)).trans
    (removeFromActiveConnections_untouched cfg r _)).trans (setConn_untouched r _ (.inr (.inl rfl)))

theorem closeConnection_untouched (r : ConnRef) (st : StackState) :
    Untouched st (st.closeConnection cfg r) := by
  simp only [closeConnection]
  split
  · have hclosed := (closeSocket_untouched (st.conn r).consumingSocket st).trans
      (closeSocket_untouched (st.conn r).producingSocket _)
    have hreset := hclosed.trans (modifyConn_untouched r
      (f := fun c =>
        { c with consumingSocket := eipInvalidSocket, producingSocket := eipInvalidSocket })
      _ fun _ => rfl)
    exact hreset.trans ((removeFromActiveConnections_untouched cfg r _).trans
      (setConn_untouched r _ (.inr (.inl rfl))))
  · exact (removeFromActiveConnections_untouched cfg r st).trans
      (setConn_untouched r _ (.inr (.inl rfl)))

theorem transferMasterConnection_untouched {r : ConnRef} {st st' : StackState}
    (h : st.transferMasterConnection cfg r = some st') : Untouched st st' := by
  rw [transferMasterConnection] at h
  split at h
  · cases h
  · cases h
    refine (modifyConn_untouched _ st ?_).trans (modifyConn_untouched r _ ?_)
    · exact fun _ => rfl
    · exact fun _ => rfl

theorem closeAllConnectionsForInput_reserved
    {close : ConnRef → StackState → Except Fault StackState}
    (hclose : ∀ r st, Reserved st (close r st)) (inputPoint : UInt16)
    (instanceType : ConnectionObjectInstanceType) (st : StackState) :
    Reserved st (st.closeAllConnectionsForInputWithSameType cfg close inputPoint
      instanceType) := by
  refine savedWalk_outcome (by decide) (by decide) ?_ (Untouched.refl st)
  intro s n r hs hr
  split
  · have hcall := hclose r (s.checkIoConnectionEvent (s.conn r) .closed)
    generalize close r (s.checkIoConnectionEvent (s.conn r) .closed) = result at hcall ⊢
    cases result with
    | error fault => exact hcall
    | ok s' => exact (hs.trans (checkIoConnectionEvent_untouched _ _ s)).trans hcall
  · exact hs

theorem closeIoConnection_reserved {close : ConnRef → StackState → Except Fault StackState}
    (hclose : ∀ r st, Reserved st (close r st)) (r : ConnRef) (st : StackState) :
    Reserved st (closeIoConnection cfg close r st) := by
  simp only [closeIoConnection]
  generalize hst₁ : (st.checkIoConnectionEvent (st.conn r) .closed).modifyConn r
    (fun c => c.setState .nonExistent) = st₁
  have h₁ : Untouched st st₁ := hst₁ ▸ .update ⟨rfl, rfl⟩ rfl (.inl rfl) rfl
  refine Reserved.after h₁ ?_
  split
  · rename_i fault hover
    split at hover
    · split at hover
      · cases hover
      · have hcall := closeAllConnectionsForInput_reserved cfg hclose
          (st₁.conn r).producedPath.instanceId .ioListenOnly st₁
        rw [hover] at hcall
        exact hcall
    · cases hover
  · rename_i st₂ hover
    refine Untouched.trans ?_ (closeChannels_untouched cfg r st₂)
    split at hover
    · split at hover
      · rename_i hpass
        cases hover
        exact transferMasterConnection_untouched cfg hpass
      · have hcall := closeAllConnectionsForInput_reserved cfg hclose
          (st₁.conn r).producedPath.instanceId .ioListenOnly st₁
        rw [hover] at hcall
        exact hcall
    · cases hover
      exact .refl _

theorem closeFunctionAt_reserved (depth : Nat) (r : ConnRef) (st : StackState) :
    Reserved st (closeFunctionAt cfg depth r st) := by
  induction depth generalizing r st with
  | zero => exact And.intro Fault.noConfusion Fault.noConfusion
  | succ depth ih =>
      rw [closeFunctionAt]
      split
      · exact And.intro Fault.noConfusion Fault.noConfusion
      · exact closeConnection_untouched cfg r st
      · exact closeIoConnection_reserved cfg ih r st

theorem connectionCloseFunction_reserved (r : ConnRef) (st : StackState) :
    Reserved st (st.connectionCloseFunction cfg r) :=
  closeFunctionAt_reserved cfg 2 r st

theorem closeClass3_reserved (sessionHandle : UInt32) (st : StackState) :
    Reserved st (st.closeClass3ConnectionBasedOnSession cfg sessionHandle) := by
  refine liveWalk_outcome (by decide) (by decide) ?_ (Untouched.refl st)
  intro s n r hs hr
  split
  · exact (connectionCloseFunction_reserved cfg r s).after hs
  · exact hs

theorem closeFirstConnections_reserved (fuel : Nat) (st : StackState) :
    Reserved st (closeFirstConnections cfg fuel st) := by
  induction fuel generalizing st with
  | zero =>
      rw [closeFirstConnections]
      split
      · exact Untouched.refl st
      · exact And.intro Fault.noConfusion Fault.noConfusion
  | succ fuel ih =>
      rw [closeFirstConnections]
      split
      · exact Untouched.refl st
      · simp only
        split
        · exact And.intro Fault.noConfusion Fault.noConfusion
        · rename_i r hr
          have hcall := connectionCloseFunction_reserved cfg r st
          split
          · rename_i hclose
            rw [hclose] at hcall
            exact hcall
          · rename_i hclose
            rw [hclose] at hcall
            exact (ih _).after hcall

theorem getAssemblyInstance_fault {cfg : Config} {instanceNumber : UInt16} {fault : Fault}
    (h : cfg.getAssemblyInstance instanceNumber = .error fault) :
    fault.Confined := by
  rw [Config.getAssemblyInstance] at h
  split at h
  · split at h
    · cases h
    · cases h
      decide
  · cases h

theorem drawConnectionId_untouched (draws : CipConnectionObject → Bool)
    {store : UInt32 → CipConnectionObject → CipConnectionObject}
    (hstore : ∀ id c, (store id c).lastReplySent = c.lastReplySent) (r : ConnRef)
    (st : StackState) : Untouched st (st.drawConnectionId cfg draws store r) := by
  rw [drawConnectionId]
  split
  · exact Untouched.update ⟨rfl, rfl⟩ rfl (.inl (hstore _ _)) rfl
  · exact .refl st

theorem generalConfiguration_untouched (r : ConnRef) (st : StackState) :
    Untouched st (st.generalConfiguration cfg r) := by
  simp only [generalConfiguration]
  refine Untouched.trans ?_ (modifyConn_untouched r _ ?_)
  · refine Untouched.trans ?_ (drawConnectionId_untouched cfg _ ?_ r _)
    · refine (modifyConn_untouched r st ?_).trans (drawConnectionId_untouched cfg _ ?_ r _)
      · exact fun _ => rfl
      · exact fun _ _ => rfl
    · exact fun _ _ => rfl
  · exact fun _ => rfl

theorem setupOriginatorToTarget_reserved (r : ConnRef) (st : StackState) :
    ReservedWith st (st.setupIoConnectionOriginatorToTargetConnectionPoint cfg r) := by
  rw [setupIoConnectionOriginatorToTargetConnectionPoint]
  split
  · rename_i fault hinstance
    exact getAssemblyInstance_fault hinstance
  · exact Untouched.refl st
  · simp only
    split
    · exact Untouched.update ⟨rfl, rfl⟩ rfl (.inl rfl) rfl
    · exact Untouched.update ⟨rfl, rfl⟩ rfl (.inl rfl) rfl

theorem setupTargetToOriginator_reserved (r : ConnRef) (st : StackState) :
    ReservedWith st (st.setupIoConnectionTargetToOriginatorConnectionPoint cfg r) := by
  simp only [setupIoConnectionTargetToOriginatorConnectionPoint]
  split
  · exact Untouched.refl st
  · split
    · rename_i fault hinstance
      exact getAssemblyInstance_fault hinstance
    · exact Untouched.refl st
    · split
      · exact Untouched.update ⟨rfl, rfl⟩ rfl (.inl rfl) rfl
      · exact Untouched.update ⟨rfl, rfl⟩ rfl (.inl rfl) rfl

theorem setupConnectionPoints_reserved (r : ConnRef) (st : StackState) :
    ReservedWith st (st.setupConnectionPoints cfg r) := by
  simp only [setupConnectionPoints]
  have hconsumer : ReservedWith st
      (if (st.conn r).oToTConnectionType ≠ .null then
        st.setupIoConnectionOriginatorToTargetConnectionPoint cfg r
      else .ok (ExtendedStatus.success, st)) := by
    split
    · exact setupOriginatorToTarget_reserved cfg r st
    · exact Untouched.refl st
  split
  · rename_i hcall
    rw [hcall] at hconsumer
    exact hconsumer
  · rename_i extended st₁ hcall
    rw [hcall] at hconsumer
    split
    · exact hconsumer
    · split
      · exact (setupTargetToOriginator_reserved cfg r st₁).after hconsumer
      · exact hconsumer

theorem processProductionInhibitTime_lastReplySent (c : CipConnectionObject) :
    (processProductionInhibitTime c).2.lastReplySent = c.lastReplySent := by
  rw [processProductionInhibitTime]
  split
  · split
    · rfl
    · split <;> rfl
  · rfl

theorem configureIoConnection_reserved (r : ConnRef) (st : StackState) :
    ReservedWith st (st.configureIoConnection cfg r) := by
  have hinhibit : Untouched st (st.setConn r (processProductionInhibitTime (st.conn r)).2) :=
    setConn_untouched r st (.inl (processProductionInhibitTime_lastReplySent _))
  simp only [configureIoConnection]
  split
  · exact hinhibit
  · have hbefore := (hinhibit.trans (modifyConn_untouched r
      (f := setIoConnectionCallbacks) _ fun _ => rfl)).trans
      (generalConfiguration_untouched cfg r _)
    refine ReservedWith.after (hbefore.trans (modifyConn_untouched r _ ?_))
      (setupConnectionPoints_reserved cfg r _)
    exact fun _ => rfl

theorem notifyAssembly_reserved (instanceNumber : UInt16) (data : List UInt8)
    (st : StackState) :
    ReservedWith st (st.notifyAssemblyConnectedDataReceived env instanceNumber data) := by
  rw [notifyAssemblyConnectedDataReceived]
  split
  · split
    · exact And.intro Fault.noConfusion Fault.noConfusion
    · exact Untouched.refl st
  · split
    · exact Untouched.refl st
    · exact Untouched.same ⟨rfl, rfl⟩ rfl rfl

theorem handleConfigData_reserved (r : ConnRef) (data : List UInt8) (st : StackState) :
    ReservedWith st (st.handleConfigData cfg env r data) := by
  simp only [handleConfigData]
  split
  · rename_i fault hinstance
    exact getAssemblyInstance_fault hinstance
  · split
    · exact Untouched.refl st
    · split
      · exact And.intro Fault.noConfusion Fault.noConfusion
      · rename_i instanceNumber _
        split
        · split
          · exact Untouched.refl st
          · split
            · exact And.intro Fault.noConfusion Fault.noConfusion
            · split
              · exact Untouched.refl st
              · exact Untouched.refl st
        · have hcall := notifyAssembly_reserved env instanceNumber data st
          split
          · rename_i hnotify
            rw [hnotify] at hcall
            exact hcall
          · rename_i hnotify
            rw [hnotify] at hcall
            exact hcall
          · rename_i hnotify
            rw [hnotify] at hcall
            exact hcall

theorem applyConfigData_reserved (r : ConnRef) (st : StackState) :
    ReservedWith st (st.applyConfigData cfg env r) := by
  rw [applyConfigData]
  split
  · exact Untouched.refl st
  · exact handleConfigData_reserved cfg env r _ st

theorem createUdpSocket_untouched (st : StackState) :
    Untouched st (st.createUdpSocket env) := by
  simp only [createUdpSocket]
  split
  · exact Untouched.same ⟨rfl, rfl⟩ rfl rfl
  · split
    · exact Untouched.same ⟨rfl, rfl⟩ rfl rfl
    · refine Untouched.trans ?_ (closeSocket_untouched _ _)
      exact Untouched.same ⟨rfl, rfl⟩ rfl rfl

theorem fillMulticastItem_untouched (j : Fin 2) (st : StackState) :
    Untouched st (st.fillMulticastItem cfg j) := by
  rw [fillMulticastItem]
  split
  · exact Untouched.same ⟨rfl, rfl⟩ rfl rfl
  · exact .refl st

theorem openMulticastConnection_untouched (direction : UdpCommunicationDirection) (r : ConnRef)
    (st : StackState) :
    Untouched st (st.openMulticastConnection cfg env direction r).2 := by
  simp only [openMulticastConnection]
  split
  · exact .refl st
  · rename_i j hitem
    have hfill := fillMulticastItem_untouched cfg j st
    split
    · exact hfill
    · split
      · exact hfill
      · refine hfill.trans (modifyConn_untouched r _ fun c => ?_)
        cases direction <;> rfl

theorem openConsumingPointToPointConnection_untouched (r : ConnRef) (st : StackState) :
    Untouched st (st.openConsumingPointToPointConnection env r).2 := by
  rw [openConsumingPointToPointConnection]
  split
  · exact .refl st
  · split
    · exact .refl st
    · exact Untouched.update ⟨rfl, rfl⟩ rfl (.inl rfl) rfl

theorem openProducingPointToPointConnection_untouched (r : ConnRef) (st : StackState) :
    Untouched st (st.openProducingPointToPointConnection env r).2 := by
  simp only [openProducingPointToPointConnection]
  split
  · exact Untouched.update ⟨rfl, rfl⟩ rfl (.inl rfl) rfl
  · refine Untouched.trans (modifyConn_untouched r st ?_) (setConn_untouched r _ (.inl ?_))
    · exact fun _ => rfl
    · rfl

theorem joinProducingMulticastConnection_untouched (r existing : ConnRef) (j : Fin 2)
    (port : UInt16) (st : StackState) :
    Untouched st (st.joinProducingMulticastConnection cfg r existing j port) := by
  simp only [joinProducingMulticastConnection]
  have hjoin := modifyConn_untouched r
    (f := joining (st.conn existing)
      { sinFamily := afInet, sinPort := port, sinAddr := cfg.startingMulticastAddress })
    st fun _ => rfl
  have hleave := hjoin.trans (modifyConn_untouched existing _ fun c =>
    show (leftBehind (st.conn r) c).lastReplySent = c.lastReplySent by
      rw [leftBehind]
      split <;> rfl)
  exact hleave.trans (.same ⟨rfl, rfl⟩ rfl rfl)

theorem openProducingMulticastConnection_untouched (r : ConnRef) (st : StackState) :
    Untouched st (st.openProducingMulticastConnection cfg env r).2 := by
  simp only [openProducingMulticastConnection]
  split
  · exact .refl st
  · split
    · refine Untouched.trans ?_ (openMulticastConnection_untouched cfg env _ r _)
      exact Untouched.same ⟨rfl, rfl⟩ rfl rfl
    · refine Untouched.trans ?_ (joinProducingMulticastConnection_untouched cfg r _ _ _ _)
      exact Untouched.same ⟨rfl, rfl⟩ rfl rfl

theorem openConsumingChannel_untouched (r : ConnRef) (st : StackState) :
    Untouched st (st.openConsumingChannel cfg env r).2 := by
  rw [openConsumingChannel]
  split
  · have hopen := openMulticastConnection_untouched cfg env .consuming r st
    split <;> rename_i hcall <;> rw [hcall] at hopen <;> exact hopen
  · have hopen := openConsumingPointToPointConnection_untouched env r st
    split <;> rename_i hcall <;> rw [hcall] at hopen <;> exact hopen
  · exact .refl st

theorem openProducingChannel_untouched (r : ConnRef) (st : StackState) :
    Untouched st (st.openProducingChannel cfg env r).2 := by
  rw [openProducingChannel]
  split
  · have hopen := openProducingMulticastConnection_untouched cfg env r st
    split <;> rename_i hcall <;> rw [hcall] at hopen <;> exact hopen
  · have hopen := openProducingPointToPointConnection_untouched env r st
    split <;> rename_i hcall <;> rw [hcall] at hopen <;> exact hopen
  · exact .refl st

theorem openCommunicationChannels_untouched (r : ConnRef) (st : StackState) :
    Untouched st (st.openCommunicationChannels cfg env r).2 := by
  have hconsuming := (createUdpSocket_untouched env st).trans
    (openConsumingChannel_untouched cfg env r (st.createUdpSocket env))
  simp only [openCommunicationChannels]
  split
  · exact hconsuming
  · exact hconsuming.trans (openProducingChannel_untouched cfg env r _)

theorem prepareIoConnection_reserved (r : ConnRef) (st : StackState) :
    ReservedWith st (st.prepareIoConnection cfg env r) := by
  have hconfigure := configureIoConnection_reserved cfg r st
  rw [prepareIoConnection]
  split
  · rename_i hcall
    rw [hcall] at hconfigure
    exact hconfigure
  · rename_i extended st₁ hcall
    rw [hcall] at hconfigure
    split
    · exact hconfigure
    · refine ReservedWith.after hconfigure ?_
      have happly := applyConfigData_reserved cfg env r st₁
      split
      · rename_i hcall
        rw [hcall] at happly
        exact happly
      · rename_i extended st₂ hcall
        rw [hcall] at happly
        split
        · exact happly
        · exact happly.trans (openCommunicationChannels_untouched cfg env r st₂)

theorem addNewActiveConnection_reserved (r : ConnRef) (st : StackState) :
    Reserved st (st.addNewActiveConnection cfg r) := by
  simp only [addNewActiveConnection]
  split
  · rename_i fault hinsert
    simp only [DoublyLinkedList.insertAtHead] at hinsert
    split at hinsert
    · cases hinsert
      exact And.intro Fault.noConfusion Fault.noConfusion
    · split at hinsert <;> cases hinsert
  · exact Untouched.update ⟨rfl, rfl⟩ rfl (.inl rfl) rfl

theorem resolveIoConnection_reserved (st : StackState) :
    ReservedWith st (st.resolveIoConnection cfg) := by
  simp only [resolveIoConnection]
  split
  · exact Untouched.same ⟨rfl, rfl⟩ rfl rfl
  · exact Untouched.same ⟨rfl, rfl⟩ rfl rfl
  · rename_i r hlookup
    have hclose := connectionCloseFunction_reserved cfg r st
    split
    · rename_i hcall
      rw [hcall] at hclose
      exact hclose
    · rename_i st₁ hcall
      rw [hcall] at hclose
      refine Untouched.trans hclose ?_
      exact Untouched.same ⟨rfl, rfl⟩ rfl rfl

theorem establishIoConnection_reserved (st : StackState) :
    ReservedWith st (st.establishIoConnection cfg env) := by
  have hresolve := resolveIoConnection_reserved cfg st
  rw [establishIoConnection]
  split
  · rename_i hcall
    rw [hcall] at hresolve
    exact hresolve
  · rename_i hcall
    rw [hcall] at hresolve
    exact hresolve
  · rename_i r st₁ hcall
    rw [hcall] at hresolve
    refine ReservedWith.after hresolve ?_
    have hcopy : Untouched st₁ (st₁.deepCopyDummy cfg r) :=
      .update ⟨rfl, rfl⟩ rfl (.inr (.inr rfl)) rfl
    have hprepare := (prepareIoConnection_reserved cfg env r _).after hcopy
    split
    · rename_i hcall
      rw [hcall] at hprepare
      exact hprepare
    · rename_i status st₂ hcall
      rw [hcall] at hprepare
      split
      · exact hprepare
      · refine ReservedWith.after hprepare ?_
        have hadd := addNewActiveConnection_reserved cfg r st₂
        rw [activateIoConnection]
        split
        · rename_i hcall
          rw [hcall] at hadd
          exact hadd
        · rename_i hcall
          rw [hcall] at hadd
          exact hadd.trans (checkIoConnectionEvent_untouched _ _ _)

theorem establishClass3Connection_reserved (st : StackState) :
    ReservedWith st (st.establishClass3Connection cfg) := by
  rw [establishClass3Connection]
  split
  · exact Untouched.refl st
  · rename_i r hfree
    have hcopy : Untouched st (st.deepCopyDummy cfg r) :=
      .update ⟨rfl, rfl⟩ rfl (.inr (.inr rfl)) rfl
    have hprepare : Untouched st ((st.deepCopyDummy cfg r).prepareClass3Connection cfg r) :=
      (hcopy.trans (generalConfiguration_untouched cfg r _)).trans
        (modifyConn_untouched r _ fun _ => rfl)
    have hadd := (addNewActiveConnection_reserved cfg r _).after hprepare
    split
    · rename_i hcall
      rw [hcall] at hadd
      exact hadd
    · rename_i hcall
      rw [hcall] at hadd
      exact hadd

theorem openConnection_reserved (st : StackState) :
    ReservedWith st (st.openConnection cfg env) := by
  rw [openConnection]
  split
  · exact Untouched.refl st
  · exact Untouched.refl st
  · exact establishClass3Connection_reserved cfg st
  · exact establishIoConnection_reserved cfg env st

theorem assembleForwardOpenResponse_untouched (c : CipConnectionObject) (status : OpenStatus)
    (st : StackState) : Untouched st (st.assembleForwardOpenResponse c status).2 := by
  simp only [assembleForwardOpenResponse]
  split
  · exact Untouched.same ⟨rfl, rfl⟩ rfl rfl
  · exact Untouched.same ⟨rfl, rfl⟩ rfl rfl

theorem answerOpenConnection_reserved (status : OpenStatus) (st : StackState) :
    ReservedWith st (st.answerOpenConnection status) := by
  rw [answerOpenConnection]
  split
  · exact assembleForwardOpenResponse_untouched _ _ st
  · split
    · exact And.intro Fault.noConfusion Fault.noConfusion
    · split
      · exact And.intro Fault.noConfusion Fault.noConfusion
      · exact assembleForwardOpenResponse_untouched _ _ st

theorem handleNonNullNonMatching_reserved (message : Message) (requestDataSize : UInt64)
    (st : StackState) :
    ReservedWith st (st.handleNonNullNonMatchingForwardOpenRequest cfg env message
      requestDataSize) := by
  have hrouted := parseConnectionPath_routed cfg message requestDataSize st.dummy st.configData
  rw [handleNonNullNonMatchingForwardOpenRequest]
  split
  · exact assembleForwardOpenResponse_untouched _ _ st
  · split
    · rename_i failure hparse
      rw [hparse] at hrouted
      refine Untouched.trans ?_ (assembleForwardOpenResponse_untouched _ _ _)
      exact Untouched.same ⟨rfl, rfl⟩ rfl
        (CipConnectionObject.unrouted_field hrouted (·.lastReplySent) fun _ => rfl)
    · rename_i s hparse
      rw [hparse] at hrouted
      have hstore : Untouched st (st.storeParsedPath s) := .same ⟨rfl, rfl⟩ rfl
        (CipConnectionObject.unrouted_field hrouted (·.lastReplySent) fun _ => rfl)
      have hopen := (openConnection_reserved cfg env _).after hstore
      split
      · rename_i hcall
        rw [hcall] at hopen
        exact hopen
      · rename_i hcall
        rw [hcall] at hopen
        exact (answerOpenConnection_reserved _ _).after hopen

theorem setExpectedPacketRate_lastReplySent (c : CipConnectionObject) :
    (c.setExpectedPacketRate cfg).lastReplySent = c.lastReplySent := by
  simp only [CipConnectionObject.setExpectedPacketRate]
  split <;> rfl

theorem forwardOpenRoutine_reserved (isLarge : Bool) (request : MessageRouterRequest)
    (originatorAddress : SockaddrIn) (encapsulationSession : UInt32) (st : StackState) :
    ReservedWith st (st.forwardOpenRoutine cfg env isLarge request originatorAddress
      encapsulationSession) := by
  have hreceive : ReservedWith st (st.receiveForwardOpen cfg env isLarge request.data
      originatorAddress encapsulationSession) := by
    simp only [receiveForwardOpen]
    split
    · exact And.intro Fault.noConfusion Fault.noConfusion
    · exact Untouched.same ⟨rfl, rfl⟩ rfl (setExpectedPacketRate_lastReplySent cfg _)
  rw [forwardOpenRoutine]
  split
  · rename_i hcall
    rw [hcall] at hreceive
    exact hreceive
  · rename_i message st₁ hcall
    rw [hcall] at hreceive
    split
    · exact hreceive.trans (assembleForwardOpenResponse_untouched _ _ st₁)
    · exact (handleNonNullNonMatching_reserved cfg env message _ st₁).after hreceive

theorem forwardClose_reserved (request : MessageRouterRequest) (originatorAddress : SockaddrIn)
    (st : StackState) : ReservedWith st (st.forwardClose cfg request originatorAddress) := by
  simp only [forwardClose]
  generalize hst₁ : ({ st with cpf := _ } : StackState) = st₁
  have h₁ : Untouched st st₁ := hst₁ ▸ .same ⟨rfl, rfl⟩ rfl rfl
  refine ReservedWith.after h₁ ?_
  split
  · exact Untouched.same ⟨rfl, rfl⟩ rfl rfl
  · rename_i r hfind
    split
    · have hclose := connectionCloseFunction_reserved cfg r st₁
      split
      · rename_i hcall
        rw [hcall] at hclose
        exact hclose
      · rename_i st₂ hcall
        rw [hcall] at hclose
        refine Untouched.trans hclose ?_
        exact Untouched.same ⟨rfl, rfl⟩ rfl rfl
    · exact Untouched.same ⟨rfl, rfl⟩ rfl rfl

theorem notifyMessageRouter_reserved (data : Message) (dataLength : UInt16)
    (originatorAddress : SockaddrIn) (encapsulationSession : UInt32) (st : StackState) :
    ReservedWith st (st.notifyMessageRouter cfg env data dataLength originatorAddress
      encapsulationSession) := by
  have hanswered : ∀ {result : Except Fault (MessageRouterResponse × StackState)}
      {answer : Except Fault (Option MessageRouterResponse × StackState)},
      ReservedWith st result → (∀ fault, result = .error fault → answer = .error fault) →
      (∀ response st', result = .ok (response, st') → answer = .ok (some response, st')) →
      ReservedWith st answer := by
    intro result answer hresult herror hok
    cases result with
    | error fault =>
        rw [herror fault rfl]
        exact hresult
    | ok a =>
        rw [hok a.1 a.2 rfl]
        exact hresult
  simp only [notifyMessageRouter]
  split
  · exact Untouched.refl st
  · split
    · split
      · exact hanswered (forwardOpenRoutine_reserved cfg env _ _ _ _ st)
          (fun fault h => by rw [h]) (fun response st' h => by rw [h])
      · split
        · exact hanswered (forwardOpenRoutine_reserved cfg env _ _ _ _ st)
            (fun fault h => by rw [h]) (fun response st' h => by rw [h])
        · split
          · exact hanswered (forwardClose_reserved cfg _ _ st)
              (fun fault h => by rw [h]) (fun response st' h => by rw [h])
          · exact Untouched.refl st
    · exact Untouched.refl st

theorem notifyCommonPacketFormat_reserved (data : Message) (originatorAddress : SockaddrIn)
    (encapsulationSession : UInt32) (st : StackState) :
    ReservedWith st (st.notifyCommonPacketFormat cfg env data originatorAddress
      encapsulationSession) := by
  simp only [notifyCommonPacketFormat]
  split
  · exact Untouched.same ⟨rfl, rfl⟩ rfl rfl
  · split
    · generalize hst₁ : ({ st with cpf := _ } : StackState) = st₁
      have h₁ : Untouched st st₁ := hst₁ ▸ .same ⟨rfl, rfl⟩ rfl rfl
      have hnotify := (notifyMessageRouter_reserved cfg env
        (CommonPacketFormatData.createCommonPacketFormatStructure data data.length
          st.cpf).2.dataItem.data
        (CommonPacketFormatData.createCommonPacketFormatStructure data data.length
          st.cpf).2.dataItem.length originatorAddress encapsulationSession st₁).after h₁
      split
      · rename_i hcall
        rw [hcall] at hnotify
        exact hnotify
      · rename_i hcall
        rw [hcall] at hnotify
        exact hnotify
    · exact Untouched.same ⟨rfl, rfl⟩ rfl rfl

theorem notifyConnectedRequest_aloof (r : ConnRef) (sequence : UInt16) (buffer : Message)
    (length : UInt16) (originatorAddress : SockaddrIn) (encapsulationSession : UInt32)
    (st : StackState) :
    AloofWith st (st.notifyConnectedRequest cfg env r sequence buffer length
      originatorAddress encapsulationSession) := by
  simp only [notifyConnectedRequest]
  split
  · exact SessionsKept.refl st
  · have hcount : SessionsKept st
        (st.modifyConn r fun c => { c with sequenceCountConsuming := sequence }) := ⟨rfl, rfl⟩
    have hnotify := AloofWith.after hcount (notifyMessageRouter_reserved cfg env buffer length
      originatorAddress encapsulationSession _).aloof
    split
    · rename_i hcall
      rw [hcall] at hnotify
      exact hnotify
    · rename_i hcall
      rw [hcall] at hnotify
      exact hnotify
    · rename_i hcall
      rw [hcall] at hnotify
      refine SessionsKept.trans hnotify ?_
      exact ⟨rfl, rfl⟩

theorem notifyConnectedCommonPacketFormat_aloof (data : Message)
    (originatorAddress : SockaddrIn) (encapsulationSession : UInt32) (st : StackState) :
    AloofWith st (st.notifyConnectedCommonPacketFormat cfg env data originatorAddress
      encapsulationSession) := by
  simp only [notifyConnectedCommonPacketFormat]
  generalize hst₁ : ({ st with cpf := _ } : StackState) = st₁
  have h₁ : SessionsKept st st₁ := hst₁ ▸ ⟨rfl, rfl⟩
  split
  · exact h₁
  · split
    · exact h₁
    · rename_i r hfind
      split
      · exact h₁.trans ⟨rfl, rfl⟩
      · refine AloofWith.after ?_ (notifyConnectedRequest_aloof cfg env r _ _ _ _ _ _)
        refine SessionsKept.trans h₁ ?_
        exact ⟨rfl, rfl⟩

theorem collectData_untouched (instanceNumber : UInt16) (r : ConnRef) (st : StackState) :
    Untouched st (st.collectData env instanceNumber r) := by
  rw [collectData]
  refine Untouched.update ⟨rfl, rfl⟩ rfl (.inl ?_) rfl
  rw [CipConnectionObject.countData]
  split <;> rfl

theorem sendConnectedData_sending (r : ConnRef) (st : StackState) :
    ReservedSending st (st.sendConnectedData cfg env r) := by
  simp only [sendConnectedData]
  split
  · exact Fault.noConfusion
  · split
    · exact Fault.noConfusion
    · rename_i instanceNumber _ _
      have hcount := modifyConn_untouched r (f := CipConnectionObject.countPacket) st fun _ => rfl
      have hcollect := hcount.trans (collectData_untouched env instanceNumber r _)
      split
      · exact Fault.noConfusion
      · exact hcollect.trans (.same ⟨rfl, rfl⟩ rfl rfl)

theorem inhibitAfter_lastReplySent (elapsedTime : UInt64) (c : CipConnectionObject) :
    (inhibitAfter elapsedTime c).lastReplySent = c.lastReplySent := by
  rw [inhibitAfter]
  split <;> rfl

theorem rearmAfter_lastReplySent (elapsedTime : UInt64) (c : CipConnectionObject) :
    (rearmAfter cfg elapsedTime c).lastReplySent = c.lastReplySent := by
  rw [rearmAfter]
  exact (apply_ite CipConnectionObject.lastReplySent _ _ _).trans (ite_self _)

theorem produceConnection_sending (elapsedTime : UInt64) (r : ConnRef) (st : StackState) :
    ReservedSending st (st.produceConnection cfg env elapsedTime r) := by
  have hinhibit := modifyConn_untouched r st (inhibitAfter_lastReplySent elapsedTime)
  simp only [produceConnection]
  split
  · split
    · split
      · exact Fault.noConfusion
      · have hsend := (sendConnectedData_sending cfg env r _).after hinhibit
        split
        · rename_i hcall
          rw [hcall] at hsend
          exact hsend
        · rename_i hcall
          rw [hcall] at hsend
          exact hsend.trans (modifyConn_untouched r _ (rearmAfter_lastReplySent cfg elapsedTime))
    · refine Untouched.trans hinhibit (modifyConn_untouched r _ ?_)
      exact fun _ => rfl
  · exact Untouched.refl st

theorem receiveSequenceCount_untouched (r : ConnRef) (data : Message) (dataLength : UInt16)
    (st : StackState) :
    Untouched st (st.receiveSequenceCount r data dataLength).2.2.2 := by
  rw [receiveSequenceCount]
  split
  · exact Untouched.update ⟨rfl, rfl⟩ rfl (.inl rfl) rfl
  · exact .refl st

theorem handleReceivedIoConnectionData_reserved (r : ConnRef) (data : Message)
    (dataLength : UInt16) (st : StackState) :
    ReservedWith st (st.handleReceivedIoConnectionData cfg env r data dataLength) := by
  have hreceive := receiveSequenceCount_untouched r data dataLength st
  simp only [handleReceivedIoConnectionData]
  generalize st.receiveSequenceCount r data dataLength = received at hreceive ⊢
  obtain ⟨noNewData, data, dataLength, st₁⟩ := received
  simp only at hreceive ⊢
  split
  · generalize hheader : (if cfg.consumeRunIdle = true then _ else _ :
      Message × UInt16 × StackState) = header
    have h₁ : Untouched st header.2.2 := by
      rw [← hheader]
      split
      · exact hreceive.trans (.same ⟨rfl, rfl⟩ rfl rfl)
      · exact hreceive
    obtain ⟨data, dataLength, st₂⟩ := header
    simp only at h₁ ⊢
    split
    · exact h₁
    · split
      · exact And.intro Fault.noConfusion Fault.noConfusion
      · rename_i instanceNumber _
        have hnotify := (notifyAssembly_reserved env instanceNumber
          (data.takeBytes dataLength.toNat) st₂).after h₁
        split
        · rename_i hcall
          rw [hcall] at hnotify
          exact hnotify
        · rename_i hcall
          rw [hcall] at hnotify
          exact hnotify
        · rename_i hcall
          rw [hcall] at hnotify
          exact hnotify
  · exact hreceive

theorem consumeConnectedData_reserved (r : ConnRef) (st : StackState) :
    ReservedWith st (st.consumeConnectedData cfg env r) := by
  have hreset := modifyConn_untouched r
    (f := fun c => c.resetLastPackageInactivityTimerValue) st fun _ => rfl
  simp only [consumeConnectedData]
  split
  · split
    · refine Untouched.trans hreset (setConn_untouched r _ (.inl ?_))
      rfl
    · refine ReservedWith.after ?_ (handleReceivedIoConnectionData_reserved cfg env r _ _ _)
      refine hreset.trans (modifyConn_untouched r _ ?_)
      exact fun _ => rfl
  · exact hreset

theorem handleReceivedConnectedData_reserved (data : Message) (fromAddress : UInt32)
    (st : StackState) :
    ReservedWith st (st.handleReceivedConnectedData cfg env data fromAddress) := by
  simp only [handleReceivedConnectedData]
  generalize hst₁ : ({ st with cpf := _ } : StackState) = st₁
  have h₁ : Untouched st st₁ := hst₁ ▸ .same ⟨rfl, rfl⟩ rfl rfl
  split
  · exact h₁
  · split
    · split
      · exact h₁
      · split
        · exact (consumeConnectedData_reserved cfg env _ st₁).after h₁
        · exact h₁
    · exact h₁

theorem checkAndHandleConsumingUdpSocket_reserved (st : StackState) :
    Reserved st (st.checkAndHandleConsumingUdpSocket cfg env) := by
  have hwalk : Outcome Fault.Confined
      (fun s : StackState × List Received => Untouched st s.1)
      (savedWalk (fun s => s.1.nodes) .freedNode .nonTermination
        (handleConsumingUdpSocket cfg env) cfg.nodesAmount st.store.connectionList.first
        (st, env.received)) := by
    refine savedWalk_outcome (by decide) (by decide) ?_ (Untouched.refl st)
    rintro ⟨s, received⟩ n r hs hr
    simp only [handleConsumingUdpSocket]
    split
    · cases received with
      | nil => exact hs
      | cons first received =>
          cases first with
          | wouldBlock => exact hs
          | closedByClient | failed =>
              have hclose := (connectionCloseFunction_reserved cfg r s).after hs
              simp only
              generalize s.connectionCloseFunction cfg r = result at hclose ⊢
              cases result with
              | error fault => exact hclose
              | ok s' => exact hclose
          | datagram data fromAddress =>
              have hconsume :=
                (handleReceivedConnectedData_reserved cfg env data fromAddress s).after hs
              simp only
              generalize s.handleReceivedConnectedData cfg env data fromAddress = result
                at hconsume ⊢
              cases result with
              | error fault => exact hconsume
              | ok s' => exact hconsume
    · exact hs
  rw [checkAndHandleConsumingUdpSocket]
  split
  · rename_i hcall
    rw [hcall] at hwalk
    exact hwalk
  · rename_i hcall
    rw [hcall] at hwalk
    exact hwalk

theorem triggerConnections_untouched (cfg : Config) (outputAssembly inputAssembly : UInt32)
    (st : StackState) :
    Untouched st (st.triggerConnections cfg outputAssembly inputAssembly).2 := by
  simp only [triggerConnections]
  split
  · exact .refl st
  · split
    · exact .update ⟨rfl, rfl⟩ rfl (.inl rfl) rfl
    · exact .refl st

/-- The steps that read or write the session table or the timers. -/
def Action.dealsWithSessions : Action → Bool
  | .manageConnections _ | .registerSession _ | .unregisterSession _ | .closeSession _
  | .removeSession _ | .disconnect _ | .checkEncapsulationInactivity _
  | .handleClosedTcpSocket _ | .setLastUpdate _ | .encapsulationShutDown => true
  | .sendRRData _ _ _ | .sendUnitData _ _ _ | .triggerConnections _ _
  | .checkAndHandleConsumingUdpSocket | .closeAllConnections | .writeAssemblies _ => false

/-- Every other step keeps both tables. -/
theorem step_aloof {label : Environment × Action}
    (hlabel : label.2.dealsWithSessions = false) (st : StackState) :
    Aloof st (st.step cfg label) := by
  obtain ⟨env, action⟩ := label
  cases action with
  | sendRRData session originatorAddress data =>
      have hnotify := (notifyCommonPacketFormat_reserved cfg env data originatorAddress session
        st).aloof
      rw [step]
      split
      · split
        · rename_i hcall
          rw [hcall] at hnotify
          exact hnotify
        · rename_i hcall
          rw [hcall] at hnotify
          exact hnotify
      · exact SessionsKept.refl st
  | sendUnitData session originatorAddress data =>
      have hnotify :=
        notifyConnectedCommonPacketFormat_aloof cfg env data originatorAddress session st
      rw [step]
      split
      · split
        · rename_i hcall
          rw [hcall] at hnotify
          exact hnotify
        · rename_i hcall
          rw [hcall] at hnotify
          exact hnotify
      · exact SessionsKept.refl st
  | checkAndHandleConsumingUdpSocket =>
      exact (checkAndHandleConsumingUdpSocket_reserved cfg env st).aloof
  | triggerConnections outputAssembly inputAssembly =>
      exact (triggerConnections_untouched cfg outputAssembly inputAssembly st).toSessionsKept
  | closeAllConnections => exact (closeFirstConnections_reserved cfg _ st).aloof
  | writeAssemblies data => exact ⟨rfl, rfl⟩
  | manageConnections _ | registerSession _ | unregisterSession _ | closeSession _
  | removeSession _ | disconnect _ | checkEncapsulationInactivity _
  | handleClosedTcpSocket _ | setLastUpdate _ | encapsulationShutDown => cases hlabel

end StackState

end Opener
