import Opener.Core.Encapsulation
import Opener.Metatheory.Ticks

/-!
The replies stored for connected explicit messages. They are written in one place,
when a request is answered on its connection; every other step leaves each object with
the reply it has or with none.
-/

namespace Opener

namespace StackState

variable {cfg : Config} {st st' : StackState}

/-- A property of all stored replies, the request's object included. -/
structure Stored (R : List UInt8 → Prop) (st : StackState) : Prop where
  objects : ∀ r, R (st.conn r).lastReplySent
  request : R st.dummy.lastReplySent

theorem Stored.kept {R : List UInt8 → Prop} (hnone : R []) (h : st.Stored R)
    (hkept : RepliesKept st st') : st'.Stored R := by
  refine ⟨fun r => ?_, hkept.request ▸ h.request⟩
  rcases hkept.replies r with hsame | hempty | hcopied
  · rw [hsame]
    exact h.objects r
  · rw [hempty]
    exact hnone
  · rw [hcopied]
    exact h.request

theorem removeSocketTimer_replies {socket : Int}
    (h : st.removeSocketTimerFromList socket = .ok st') : RepliesKept st st' := by
  rw [removeSocketTimerFromList] at h
  split at h
  · cases h
  · cases h
    exact .of_pool rfl rfl

theorem closeTcpSocket_replies {socket : Int} (h : st.closeTcpSocket socket = .ok st') :
    RepliesKept st st' := by
  rw [closeTcpSocket] at h
  split at h
  · cases h
  · rename_i st₁ hremove
    cases h
    exact (removeSocketTimer_replies hremove).trans
      (closeSocket_untouched socket st₁).toRepliesKept

theorem closeClass3_replies {session : UInt32}
    (h : st.closeClass3ConnectionBasedOnSession cfg session = .ok st') : RepliesKept st st' := by
  have hreserved := closeClass3_reserved cfg session st
  rw [h] at hreserved
  exact hreserved.toRepliesKept

theorem clearSession_replies (index : Nat) (st : StackState) :
    RepliesKept st (st.clearSession index) :=
  .of_pool rfl rfl

theorem closeSession_replies {socket : Int} (h : st.closeSession cfg socket = .ok st') :
    RepliesKept st st' := by
  rw [closeSession] at h
  split at h
  · cases h
    exact .of_pool rfl rfl
  · split at h
    · cases h
    · rename_i hclose
      exact ((closeTcpSocket_replies hclose).trans (clearSession_replies _ _)).trans
        (closeClass3_replies h)

theorem removeSession_replies {socket : Int} (h : st.removeSession cfg socket = .ok st') :
    RepliesKept st st' := by
  rw [removeSession] at h
  split at h
  · cases h
    exact .of_pool rfl rfl
  · exact (clearSession_replies _ _).trans (closeClass3_replies h)

theorem disconnect_replies {socket : Int} {st₁ : StackState}
    (hclose : st.closeTcpSocket socket = .ok st₁)
    (h : st₁.removeSession cfg socket = .ok st') : RepliesKept st st' :=
  (closeTcpSocket_replies hclose).trans (removeSession_replies h)

theorem closeSessionBySessionHandle_replies {c : CipConnectionObject}
    (h : st.closeSessionBySessionHandle c = .ok st') : RepliesKept st st' := by
  simp only [closeSessionBySessionHandle] at h
  split at h
  · cases h
  · split at h
    · cases h
    · rename_i hclose
      cases h
      exact (closeTcpSocket_replies hclose).trans (clearSession_replies _ _)

theorem class3Timeout_replies {r : ConnRef}
    (h : st.class3ConnectionTimeoutHandler cfg r = .ok st') : RepliesKept st st' := by
  rw [class3ConnectionTimeoutHandler] at h
  split at h
  · cases h
  · rename_i st₁ hcheck
    cases h
    refine RepliesKept.trans ?_ (closeConnection_untouched cfg r st₁).toRepliesKept
    simp only [checkForTimedOutConnectionsAndCloseTCPConnections] at hcheck
    split at hcheck
    · cases hcheck
      exact .of_pool rfl rfl
    · exact closeSessionBySessionHandle_replies hcheck

theorem unregisterSession_replies {sessionHandle : UInt32}
    (h : st.unregisterSession cfg sessionHandle = .ok st') : RepliesKept st st' := by
  simp only [unregisterSession] at h
  split at h
  · split at h
    · cases h
    · rename_i hclose
      exact ((closeTcpSocket_replies hclose).trans (clearSession_replies _ _)).trans
        (closeClass3_replies h)
  · cases h
    exact .of_pool rfl rfl

theorem checkEncapsulationInactivity_replies {env : Environment} {socket : Int}
    (h : st.checkEncapsulationInactivity cfg env socket = .ok st') : RepliesKept st st' := by
  simp only [checkEncapsulationInactivity] at h
  split at h
  · split at h
    · cases h
      exact .of_pool rfl rfl
    · split at h
      · split at h
        · cases h
        · rename_i hclass3
          split at h
          · cases h
          · rename_i hclose
            exact (closeClass3_replies hclass3).trans (disconnect_replies hclose h)
      · cases h
        exact .of_pool rfl rfl
  · cases h
    exact .of_pool rfl rfl

theorem handleClosedTcpSocket_replies {socket : Int}
    (h : st.handleClosedTcpSocket cfg socket = .ok st') : RepliesKept st st' := by
  rw [handleClosedTcpSocket] at h
  split at h
  · cases h
  · rename_i hremove
    split at h
    · cases h
    · rename_i hsession
      split at h
      · cases h
      · rename_i hclose
        exact ((removeSocketTimer_replies hremove).trans (removeSession_replies hsession)).trans
          (disconnect_replies hclose h)

theorem shutDownSessions_replies {indices : List Nat}
    (h : shutDownSessions indices st = .ok st') : RepliesKept st st' := by
  induction indices generalizing st with
  | nil =>
      cases h
      exact .of_pool rfl rfl
  | cons i indices ih =>
      simp only [shutDownSessions] at h
      split at h
      · split at h
        · cases h
        · rename_i hclose
          exact ((closeTcpSocket_replies hclose).trans (clearSession_replies _ _)).trans (ih h)
      · exact ih h

theorem registerSession_replies {env : Environment} {socket : Int}
    (h : st.registerSession env socket = .ok st') : RepliesKept st st' := by
  rw [registerSession] at h
  split at h
  · cases h
    exact .of_pool rfl rfl
  · split at h
    · cases h
      exact .of_pool rfl rfl
    · split at h
      · cases h
      · cases h
        exact .of_pool rfl rfl

theorem tickInvariant_replies (cfg : Config) (env : Environment) (st : StackState) :
    TickInvariant cfg env (fun _ => True) (fun _ => True) (fun _ => True) fun st' =>
      st'.Sound cfg ∧ RepliesKept st st' := by
  refine ⟨fun _ hP => hP.1, ?_, ?_, ?_⟩
  · rintro s s' ⟨-, hreplies⟩ hsound huntouched -
    exact ⟨hsound, hreplies.trans huntouched.toRepliesKept⟩
  · rintro s socket ⟨hsound, hreplies⟩ - -
    cases hcall : s.closeSession cfg socket with
    | error fault => trivial
    | ok s' =>
        obtain ⟨ns, hlisted⟩ := hsound.wellFormed
        obtain ⟨ns', hdiscarded⟩ := closeSession_discarded hlisted hsound.regular hcall
        exact ⟨hdiscarded.calm.sound hsound, hreplies.trans (closeSession_replies hcall)⟩
  · rintro s r ⟨hsound, hreplies⟩ - hr hio
    cases hcall : s.class3ConnectionTimeoutHandler cfg r with
    | error fault => trivial
    | ok s' =>
        obtain ⟨ns, hlisted⟩ := hsound.wellFormed
        obtain ⟨ns', hdiscarded, -⟩ := class3Timeout_discarded hlisted hr hio hcall
        exact ⟨hdiscarded.calm.sound hsound, hreplies.trans (class3Timeout_replies hcall)⟩

theorem manageConnections_replies (hsound : st.Sound cfg) {env : Environment}
    {elapsedTime : UInt64} (h : st.manageConnections cfg env elapsedTime = .ok st') :
    RepliesKept st st' := by
  have htick := (tickInvariant_replies cfg env st).manageConnections
    ⟨hsound, .of_pool rfl rfl⟩ elapsedTime (fun _ _ => trivial) fun _ _ _ =>
      ⟨fun _ => trivial, fun _ => trivial⟩
  rw [h] at htick
  exact htick.2

/-- Every step but a connected message. -/
theorem step_replies (hsound : st.Sound cfg) {label : Environment × Action}
    (hlabel : ∀ session originatorAddress data,
      label.2 ≠ .sendUnitData session originatorAddress data)
    (h : st.step cfg label = .ok st') : RepliesKept st st' := by
  obtain ⟨env, action⟩ := label
  cases action with
  | sendRRData session originatorAddress data =>
      rw [step] at h
      split at h
      · have hnotify :=
          notifyCommonPacketFormat_reserved cfg env data originatorAddress session st
        split at h
        · cases h
        · rename_i hcall
          cases h
          rw [hcall] at hnotify
          exact hnotify.toRepliesKept
      · cases h
        exact .of_pool rfl rfl
  | sendUnitData session originatorAddress data =>
      exact absurd rfl (hlabel session originatorAddress data)
  | manageConnections elapsedTime => exact manageConnections_replies hsound h
  | triggerConnections outputAssembly inputAssembly =>
      cases h
      exact (triggerConnections_untouched cfg outputAssembly inputAssembly st).toRepliesKept
  | checkAndHandleConsumingUdpSocket =>
      have hcheck := checkAndHandleConsumingUdpSocket_reserved cfg env st
      rw [step] at h
      rw [h] at hcheck
      exact hcheck.toRepliesKept
  | registerSession socket => exact registerSession_replies h
  | unregisterSession sessionHandle => exact unregisterSession_replies h
  | closeSession socket => exact closeSession_replies h
  | removeSession socket => exact removeSession_replies h
  | disconnect socket =>
      rw [step] at h
      split at h
      · cases h
      · rename_i hclose
        exact disconnect_replies hclose h
  | checkEncapsulationInactivity socket => exact checkEncapsulationInactivity_replies h
  | handleClosedTcpSocket socket => exact handleClosedTcpSocket_replies h
  | setLastUpdate timer =>
      cases h
      exact .of_pool rfl rfl
  | closeAllConnections =>
      have hclose : Reserved st (st.closeAllConnections cfg) :=
        closeFirstConnections_reserved cfg _ st
      rw [step] at h
      rw [h] at hclose
      exact hclose.toRepliesKept
  | encapsulationShutDown => exact shutDownSessions_replies h
  | writeAssemblies data =>
      cases h
      exact .of_pool rfl rfl

/-- A connected message that is not a repetition: its connection, the request and
the state in which the message router gets it. -/
def connectedEntry (cfg : Config) (data : Message) (st : StackState) :
    Option (ConnRef × Message × UInt16 × StackState) :=
  let (status, cpf) :=
    CommonPacketFormatData.createCommonPacketFormatStructure data data.length st.cpf
  let st := { st with cpf := cpf }
  if status = .error ∨ cpf.addressItem.typeId ≠ ItemId.connectionAddress then none
  else
    match st.getConnectedObject cfg cpf.addressItem.connectionIdentifier with
    | none => none
    | some r =>
        if cpf.dataItem.typeId ≠ ItemId.connectedDataItem then none
        else
          let (sequence, buffer) := Message.getUint cpf.dataItem.data
          let st := st.receiveConnectedRequest r sequence
          if (st.conn r).sequenceCountConsuming = sequence then none
          else some (r, buffer, cpf.dataItem.length - 2,
            st.modifyConn r fun c => { c with sequenceCountConsuming := sequence })

/-- The answer of a connection to a request: sent with the id that it produces with,
and stored. -/
def answerConnected (r : ConnRef) (response : Option MessageRouterResponse) (st : StackState) :
    Option (List UInt8) × StackState :=
  match response with
  | none => (none, st)
  | some response =>
      let st := { st with cpf := { st.cpf with addressItem :=
        { st.cpf.addressItem with
          connectionIdentifier := (st.conn r).cipProducedConnectionId } } }
      let sent := st.cpf.assembleLinearMessage response
      (some sent, st.modifyConn r fun c => { c with lastReplySent := sent })

theorem receiveConnectedRequest_replies (r : ConnRef) (sequence : UInt16) (st : StackState) :
    RepliesKept st (st.receiveConnectedRequest r sequence) := by
  have hreset := modifyConn_untouched r
    (f := fun c => c.resetInactivityWatchdogTimerValue) st fun _ => rfl
  exact hreset.toRepliesKept.trans (.of_pool rfl rfl)

/-- Without a new request only a repeated one is answered, from the store. -/
theorem notifyConnected_of_none {data : Message} (hentry : connectedEntry cfg data st = none)
    (env : Environment) (originatorAddress : SockaddrIn) (session : UInt32) :
    ∃ st', st.notifyConnectedCommonPacketFormat cfg env data originatorAddress session =
        .ok ((st.repeatedConnection cfg data).map fun r => (st.conn r).lastReplySent, st') ∧
      RepliesKept st st' := by
  simp only [connectedEntry] at hentry
  simp only [notifyConnectedCommonPacketFormat, repeatedConnection, ← or_assoc]
  generalize CommonPacketFormatData.createCommonPacketFormatStructure data data.length st.cpf =
    parsed at hentry ⊢
  obtain ⟨status, cpf⟩ := parsed
  dsimp only at hentry ⊢
  have hcpf : RepliesKept st { st with cpf := cpf } := .of_pool rfl rfl
  have hobject : ({ st with cpf := cpf } : StackState).getConnectedObject cfg
      cpf.addressItem.connectionIdentifier =
      st.getConnectedObject cfg cpf.addressItem.connectionIdentifier := rfl
  rw [hobject] at hentry ⊢
  by_cases hread : status = .error ∨ cpf.addressItem.typeId ≠ ItemId.connectionAddress
  · rw [if_pos hread, if_pos (.inl hread)]
    exact ⟨_, rfl, hcpf⟩
  · rw [if_neg hread] at hentry
    rw [if_neg hread]
    cases hfind : st.getConnectedObject cfg cpf.addressItem.connectionIdentifier with
    | none =>
        simp only [ite_self, Option.map_none]
        exact ⟨_, rfl, hcpf⟩
    | some r =>
        simp only [hfind] at hentry
        simp only
        by_cases htype : cpf.dataItem.typeId ≠ ItemId.connectedDataItem
        · have hreset := modifyConn_untouched r
            (f := fun c => c.resetInactivityWatchdogTimerValue) { st with cpf := cpf } fun _ => rfl
          rw [if_pos htype, if_pos (.inr htype)]
          exact ⟨_, rfl, hcpf.trans hreset.toRepliesKept⟩
        · have hconn : (({ st with cpf := cpf } : StackState).receiveConnectedRequest r
              (Message.getUint cpf.dataItem.data).1).conn r =
              (st.conn r).resetInactivityWatchdogTimerValue := conn_modifyConn_self _ r _
          rw [if_neg htype, hconn] at hentry
          rw [if_neg htype, if_neg (not_or.mpr ⟨hread, htype⟩), notifyConnectedRequest, hconn]
          split at hentry
          · rename_i hrepeated
            have hsequence : (st.conn r).sequenceCountConsuming =
              (Message.getUint cpf.dataItem.data).1 := hrepeated
            rw [if_pos hrepeated, if_pos hsequence]
            exact ⟨_, rfl, hcpf.trans (receiveConnectedRequest_replies r _ _)⟩
          · cases hentry

/-- A new request repeats none. -/
theorem repeatedConnection_of_entry {data : Message} {r : ConnRef} {buffer : Message}
    {length : UInt16} {st₁ : StackState}
    (hentry : connectedEntry cfg data st = some (r, buffer, length, st₁)) :
    st.repeatedConnection cfg data = none := by
  simp only [connectedEntry] at hentry
  simp only [repeatedConnection]
  generalize CommonPacketFormatData.createCommonPacketFormatStructure data data.length st.cpf =
    parsed at hentry ⊢
  obtain ⟨status, cpf⟩ := parsed
  dsimp only at hentry ⊢
  have hobject : ({ st with cpf := cpf } : StackState).getConnectedObject cfg
      cpf.addressItem.connectionIdentifier =
      st.getConnectedObject cfg cpf.addressItem.connectionIdentifier := rfl
  rw [hobject] at hentry
  split at hentry
  · cases hentry
  · cases hfind : st.getConnectedObject cfg cpf.addressItem.connectionIdentifier with
    | none => simp only [ite_self]
    | some q =>
        simp only [hfind] at hentry
        simp only
        have hconn : (({ st with cpf := cpf } : StackState).receiveConnectedRequest q
            (Message.getUint cpf.dataItem.data).1).conn q =
            (st.conn q).resetInactivityWatchdogTimerValue := conn_modifyConn_self _ q _
        split at hentry
        · cases hentry
        · rw [hconn] at hentry
          split at hentry
          · cases hentry
          · rename_i hnew
            have hsequence : (st.conn q).sequenceCountConsuming ≠
              (Message.getUint cpf.dataItem.data).1 := hnew
            rw [if_neg hsequence]
            exact ite_self none

/-- A new request is answered by the message router. -/
theorem notifyConnected_of_some {data : Message} {r : ConnRef} {buffer : Message}
    {length : UInt16} {st₁ : StackState}
    (hentry : connectedEntry cfg data st = some (r, buffer, length, st₁)) (env : Environment)
    (originatorAddress : SockaddrIn) (session : UInt32) :
    RepliesKept st st₁ ∧
      (st₁.cpf.addressItem.typeId = ItemId.connectionAddress ∧
        st₁.cpf.dataItem.typeId = ItemId.connectedDataItem) ∧
      st.notifyConnectedCommonPacketFormat cfg env data originatorAddress session =
        match st₁.notifyMessageRouter cfg env buffer length originatorAddress session with
        | .error fault => .error fault
        | .ok (response, st₂) => .ok (st₂.answerConnected r response) := by
  simp only [connectedEntry] at hentry
  simp only [notifyConnectedCommonPacketFormat]
  generalize CommonPacketFormatData.createCommonPacketFormatStructure data data.length st.cpf =
    parsed at hentry ⊢
  obtain ⟨status, cpf⟩ := parsed
  dsimp only at hentry ⊢
  have hcpf : RepliesKept st { st with cpf := cpf } := .of_pool rfl rfl
  split at hentry
  · cases hentry
  · rename_i hread
    rw [if_neg hread]
    cases hfind : ({ st with cpf := cpf } : StackState).getConnectedObject cfg
        cpf.addressItem.connectionIdentifier with
    | none =>
        rw [hfind] at hentry
        cases hentry
    | some q =>
        simp only [hfind] at hentry
        simp only
        split at hentry
        · cases hentry
        · rename_i htype
          rw [if_neg htype]
          split at hentry
          · cases hentry
          · rename_i hnew
            simp only [Option.some.injEq, Prod.mk.injEq] at hentry
            obtain ⟨rfl, rfl, rfl, rfl⟩ := hentry
            rw [notifyConnectedRequest, if_neg hnew]
            refine ⟨?_, ⟨?_, not_not.mp htype⟩, ?_⟩
            · have hreceive := hcpf.trans
                (receiveConnectedRequest_replies q (Message.getUint cpf.dataItem.data).1 _)
              have hcount := modifyConn_untouched q (f := fun c =>
                { c with sequenceCountConsuming := (Message.getUint cpf.dataItem.data).1 })
                (receiveConnectedRequest q (Message.getUint cpf.dataItem.data).1
                  { st with cpf := cpf }) fun _ => rfl
              exact hreceive.trans hcount.toRepliesKept
            · exact not_not.mp fun hne => hread (.inr hne)
            · dsimp only
              generalize notifyMessageRouter cfg env _ _ originatorAddress session _ = result
              cases result with
              | error fault => rfl
              | ok answer =>
                  obtain ⟨response, st₂⟩ := answer
                  cases response with
                  | none => rfl
                  | some response => rfl

/-- A repeated request is always answered. -/
theorem notifyConnected_of_repeated {data : Message} {r : ConnRef}
    (hrepeated : st.repeatedConnection cfg data = some r) (env : Environment)
    (originatorAddress : SockaddrIn) (session : UInt32) :
    ∃ st', st.notifyConnectedCommonPacketFormat cfg env data originatorAddress session =
      .ok (some (st.conn r).lastReplySent, st') := by
  cases hentry : connectedEntry cfg data st with
  | none =>
      obtain ⟨st', hcall, -⟩ := notifyConnected_of_none hentry env originatorAddress session
      rw [hrepeated] at hcall
      exact ⟨st', hcall⟩
  | some entry =>
      have hnew := repeatedConnection_of_entry hentry
      rw [hrepeated] at hnew
      cases hnew

theorem Stored.answerConnected {R : List UInt8 → Prop} (h : st.Stored R) {r : ConnRef}
    {response : Option MessageRouterResponse} {reply : Option (List UInt8)}
    (hcall : st.answerConnected r response = (reply, st')) (hreply : ∀ sent ∈ reply, R sent) :
    st'.Stored R := by
  cases response with
  | none =>
      cases hcall
      exact h
  | some response =>
      cases hcall
      refine ⟨fun s => ?_, h.request⟩
      by_cases hs : s = r
      · subst hs
        rw [conn_modifyConn_self]
        exact hreply _ rfl
      · rw [conn_modifyConn_of_ne _ hs]
        exact h.objects s

end StackState

end Opener
