import Opener.Core.MainLoop
import Opener.Metatheory.Accepting
import Opener.Metatheory.DelayedReplies
import Opener.Metatheory.EncapsulationReplies
import Opener.Metatheory.Lifetimes

/-!
The main loop as a schedule of the steps of the stack. Every handler that it calls is a
step, or a few of them; a round over the consuming sockets is one step for each socket
that it serves, because a socket is taken out of the ready set before it is served.
-/

namespace Opener

open LinkedCells

namespace StackState

variable {cfg : Config} {env : Environment} {st st' : StackState}

/-- A run of the network steps that are called with valid sockets. -/
abbrev Serves (cfg : Config) (st st' : StackState) : Prop :=
  Runs.Reaches (networkStep cfg) (fun label st => networkCallsWithSocket label st = true) st st'

theorem sound_networkStep {label : Environment × NetworkAction} (hsound : st.Sound cfg)
    (hstep : st.networkStep cfg label = .ok st') : st'.Sound cfg := by
  obtain ⟨env, action⟩ := label
  cases action with
  | accept newSocket =>
      obtain ⟨sockets, rfl⟩ := checkAndHandleTcpListenerSocket_eq hstep
      exact ⟨hsound.wellFormed, hsound.regular, hsound.close, hsound.instances⟩
  | stack action => exact (step_spec hsound hstep).1

theorem Serves.sound (h : Serves cfg st st') (hsound : st.Sound cfg) : st'.Sound cfg :=
  h.invariant (Sound cfg) hsound fun _ _ _ hs _ hstep => sound_networkStep hs hstep

theorem Serves.single (env : Environment) (action : Action)
    (hcalls : callsWithSocket (env, action) st = true)
    (hstep : st.step cfg (env, action) = .ok st') : Serves cfg st st' :=
  Runs.Reaches.tail .refl (show networkCallsWithSocket (env, .stack action) st = true from hcalls)
    hstep

theorem Serves.accept {newSocket : Int}
    (hstep : st.checkAndHandleTcpListenerSocket newSocket = .ok st') : Serves cfg st st' :=
  Runs.Reaches.tail .refl (show networkCallsWithSocket ({}, .accept newSocket) st = true from rfl)
    hstep

theorem Serves.trans {st₁ : StackState} (h : Serves cfg st st₁) (h' : Serves cfg st₁ st') :
    Serves cfg st st' := Runs.Reaches.trans h h'

/-- A command changes the stack by a step that is called with a valid socket, if at all. -/
theorem handleTcpCommand_serves {attributes : IdentityAttributes} {socket : Int}
    (hsocket : socket ≠ eipInvalidSocket) {receiveData : EncapsulationData}
    {originatorAddress : SockaddrIn} {result : EipStatus × ENIPMessage}
    (h : st.handleTcpCommand cfg env attributes socket receiveData originatorAddress =
      .ok (result, st')) : Serves cfg st st' := by
  have hsame : st' = st → Serves cfg st st' := fun heq => heq ▸ .refl
  rw [handleTcpCommand] at h
  split at h
  · cases h
    exact .refl
  · split at h
    · cases h
      exact .refl
    · split at h
      · cases h
        exact .refl
      · split at h
        · cases h
          exact .refl
        · split at h
          · dsimp only at h
            split at h
            · cases h
            · rename_i hregister
              cases h
              refine (registerSessionCommand_step hregister).elim hsame fun hstep => ?_
              exact .single env (.registerSession socket) (decide_eq_true hsocket) hstep
          · split at h
            · refine (unregisterSessionCommand_step h).elim hsame fun hstep => ?_
              exact .single env (.unregisterSession receiveData.sessionHandle) rfl hstep
            · split at h
              · exact (sendRequestResponseDataCommand_step h).elim hsame fun hstep =>
                  .single _ _ rfl hstep
              · split at h
                · exact (sendUnitDataCommand_step h).elim hsame fun hstep => .single _ _ rfl hstep
                · cases h
                  exact .refl

theorem handleReceivedExplictTcpData_serves {attributes : IdentityAttributes} {socket : Int}
    (hsocket : socket ≠ eipInvalidSocket) {buffer : Message} {originatorAddress : SockaddrIn}
    {handled : Handled}
    (h : st.handleReceivedExplictTcpData cfg env attributes socket buffer originatorAddress =
      .ok (handled, st')) : Serves cfg st st' := by
  simp only [handleReceivedExplictTcpData] at h
  split at h
  · cases h
    exact .refl
  · split at h
    · cases h
      exact .refl
    · split at h
      · cases h
      · rename_i hcall
        cases h
        exact handleTcpCommand_serves hsocket hcall

/-- Clearing the timers of a socket again changes nothing. -/
theorem closeTcpSocket_of_removed {socket : Int} (hsocket : socket ≠ eipInvalidSocket)
    {st₁ : StackState} (hremove : st.removeSocketTimerFromList socket = .ok st₁) :
    st₁.closeTcpSocket socket = st.closeTcpSocket socket := by
  have hvalid : ∀ s : StackState, ¬(socket = eipInvalidSocket ∧
      s.timestamps.any (fun t => t.socket = eipInvalidSocket) = true) :=
    fun _ h => hsocket h.1
  rw [removeSocketTimerFromList, if_neg (hvalid st)] at hremove
  cases hremove
  rw [closeTcpSocket, closeTcpSocket, removeSocketTimerFromList, if_neg (hvalid _),
    removeSocketTimerFromList, if_neg (hvalid st)]
  simp only [List.map_map, Function.comp_def]
  congr 4
  funext t
  by_cases ht : t.socket = socket
  · rw [if_pos ht, if_neg (Ne.symm hsocket)]
  · rw [if_neg ht, if_neg ht]

/-- Where a walk that has saved its next node goes on, whether the one it visited was
unlinked or not. -/
theorem Listed.resumes {ns ns' pre todo : List Nat} {n : Nat} (h : st.Listed cfg ns)
    (hns : ns = pre ++ n :: todo) (h' : st'.Listed cfg ns') (htrimmed : st.Trimmed ns st' ns')
    (hsaved : ∀ m, todo.head? = some m → (st'.nodes m).data ≠ none) :
    ns' = (pre ++ [n]).filter (· ∈ ns') ++ todo.filter (· ∈ ns') ∧
      (todo.filter (· ∈ ns')).head? = todo.head? := by
  refine ⟨?_, ?_⟩
  · have hfilter := eq_filter_of_sublist htrimmed.sublist h.links.nodup
    rw [hns, List.append_cons, List.filter_append] at hfilter
    exact hfilter
  · cases todo with
    | nil => rfl
    | cons m rest =>
        obtain ⟨a, ha⟩ := Option.ne_none_iff_exists'.mp (hsaved m rfl)
        have hm : m ∈ ns' := h'.mem_of_data ha
        rw [List.filter_cons_of_pos (by simpa using hm)]
        rfl

/-- The environment of a round that finds one socket ready, with one result of `recvfrom`. -/
def served (env : Environment) (socket : Int) (received : Received) : Environment :=
  { env with readSocket := fun s => s = socket, received := [received] }

theorem consumingSocket_of_calm {ns ns' : List Nat} (hcalm : Calm cfg st ns st' ns')
    {r : ConnRef} (hr : r ∈ st'.connectionList cfg) :
    (st'.conn r).consumingSocket = (st.conn r).consumingSocket :=
  CipConnectionObject.lasting_field ((Persists.moves hcalm.moves).lasting r hr)
    (·.consumingSocket) fun _ => rfl

/-- A turn that serves a socket which no connection in front uses is a round that finds
this socket ready only. -/
theorem round_of_turn {ns ns' pre todo : List Nat} {n : Nat} {r : ConnRef} {socket : Int}
    {answer : Received} (hlisted : st.Listed cfg ns) (hns : ns = pre ++ n :: todo)
    (hdata : (st.nodes n).data = some r)
    (hfront : ∀ m ∈ pre, ∀ q, (st.nodes m).data = some q →
      (st.conn q).consumingSocket = eipInvalidSocket ∨ (st.conn q).consumingSocket ≠ socket)
    (hturn : handleConsumingUdpSocket cfg (served env socket answer) r (st, [answer]) =
      .ok (.continue (st', [])))
    (hlisted' : st'.Listed cfg ns') (htrimmed : st.Trimmed ns st' ns')
    (hsaved : ∀ m, todo.head? = some m → (st'.nodes m).data ≠ none) :
    st.checkAndHandleConsumingUdpSocket cfg (served env socket answer) = .ok st' := by
  obtain ⟨hns', hhead⟩ := hlisted.resumes hns hlisted' htrimmed hsaved
  have hlinked : Linked st.nodes none (pre ++ n :: todo) none := hns ▸ hlisted.links.linked
  have hlength : pre.length + (todo.length + 1) ≤ cfg.nodesAmount := by
    have hle := DoublyLinkedList.Listing.length_le hlisted
    rwa [hns, List.length_append, List.length_cons] at hle
  obtain ⟨fuel, hfuel⟩ := Nat.exists_eq_add_of_le hlength
  have hskip : ∀ m ∈ pre, ∀ q, (st.nodes m).data = some q →
      handleConsumingUdpSocket cfg (served env socket answer) q (st, [answer]) =
        .ok (.continue (st, [answer])) := by
    intro m hm q hq
    simp only [handleConsumingUdpSocket]
    rw [if_neg]
    rintro ⟨hvalid, hready⟩
    rw [checkSocketSet, Bool.and_eq_true] at hready
    rcases hfront m hm q hq with hinvalid | hother
    · exact hvalid hinvalid
    · exact hother (of_decide_eq_true hready.1)
  have hrest : ∀ q, handleConsumingUdpSocket cfg (served env socket answer) q (st', []) =
        .ok (.continue (st', [])) ∨
      handleConsumingUdpSocket cfg (served env socket answer) q (st', []) =
        .ok (.stop (st', [])) := by
    intro q
    simp only [handleConsumingUdpSocket]
    split
    · exact .inr rfl
    · exact .inl rfl
  have hstill : Linked st'.nodes ((pre ++ [n]).filter (· ∈ ns')).getLast?
      (todo.filter (· ∈ ns')) none := by
    have hlinked' := hlisted'.links.linked
    rw [hns', linked_append, Option.or_none, Option.or_none] at hlinked'
    exact hlinked'.2
  have hnext : (st.nodes n).next = todo.head? := by
    simpa using (linked_append pre (n :: todo)).mp hlinked |>.2.2.1
  have hwalk : savedWalk (fun s : StackState × List Received => s.1.nodes) .freedNode
      .nonTermination (handleConsumingUdpSocket cfg (served env socket answer))
      cfg.nodesAmount st.store.connectionList.first (st, [answer]) = .ok (st', []) := by
    rw [hlisted.links.first_eq, hns, hfuel, Nat.add_assoc]
    refine (savedWalk_skip (s := (st, [answer])) hlinked hskip _).trans ?_
    rw [Nat.add_right_comm]
    simp only [List.head?_cons, savedWalk, hdata, hturn]
    rw [hnext, ← hhead]
    refine savedWalk_still (s := (st', [])) hstill ?_ hrest
    exact (List.length_filter_le _ _).trans (Nat.le_add_right _ _)
  rw [StackState.checkAndHandleConsumingUdpSocket,
    show (served env socket answer).received = [answer] from rfl, hwalk]

end StackState

namespace NetworkHandler

open StackState

variable {cfg : Config} {input : CycleInput} {h h' : NetworkHandler}

@[simp] theorem setStack_stack (h : NetworkHandler) (st : StackState) :
    (h.setStack st).stack = st := rfl

@[simp] theorem setStack_readSocket (h : NetworkHandler) (st : StackState) :
    (h.setStack st).readSocket = h.readSocket := rfl

@[simp] theorem send_stack (h : NetworkHandler) (outgoing : Outgoing) :
    (h.send outgoing).stack = h.stack := rfl

@[simp] theorem replyUdp_stack (h : NetworkHandler) (fromAddress : SockaddrIn)
    (handled : Handled) : (h.replyUdp fromAddress handled).stack = h.stack := by
  rw [replyUdp]
  split <;> rfl

@[simp] theorem checkSocketSet_stack (h : NetworkHandler) (socket : Int) :
    (h.checkSocketSet socket).2.stack = h.stack := by
  rw [checkSocketSet]
  split
  · dsimp only
    split <;> rfl
  · rfl

/-- Whether the socket was ready or not, it is not any more. -/
theorem checkSocketSet_readSocket (h : NetworkHandler) (socket : Int) :
    (h.checkSocketSet socket).2.readSocket = h.readSocket.filter fun s => s ≠ socket := by
  rw [checkSocketSet]
  split
  · dsimp only
    split <;> rfl
  · rename_i habsent
    refine (List.filter_eq_self.mpr fun s hs => ?_).symm
    rw [decide_eq_true_eq]
    rintro rfl
    exact habsent (List.contains_iff_mem.mpr hs)

theorem checkSocketSet_gone (h : NetworkHandler) (socket : Int) :
    socket ∉ (h.checkSocketSet socket).2.readSocket := by
  rw [checkSocketSet_readSocket]
  simp

theorem checkSocketSet_attended {socket : Int} (hready : (h.checkSocketSet socket).1 = true) :
    socket ∈ (h.checkSocketSet socket).2.attended := by
  rw [checkSocketSet] at hready ⊢
  split at hready
  · dsimp only at hready ⊢
    split at hready
    · rename_i hread hmaster
      rw [if_pos hread, if_pos hmaster]
      exact List.mem_append_right _ (List.mem_singleton_self socket)
    · cases hready
  · cases hready

theorem mem_socketNumbers {socket : Int} :
    socket ∈ h.socketNumbers ↔ 0 ≤ socket ∧ socket ≤ h.highestSocketHandle := by
  simp only [socketNumbers, List.mem_map, List.mem_range]
  constructor
  · rintro ⟨n, hn, rfl⟩
    have hcast : Int.ofNat n = (n : Int) := rfl
    omega
  · rintro ⟨hnonneg, hle⟩
    exact ⟨socket.toNat, by omega, Int.toNat_of_nonneg hnonneg⟩

theorem checkSocketSet_ready {socket : Int} (hready : (h.checkSocketSet socket).1 = true) :
    socket ∈ h.readSocket ∧ socket ∈ h.stack.masterSocket := by
  rw [checkSocketSet] at hready
  split at hready
  · rename_i hread
    dsimp only at hready
    split at hready
    · rename_i hmaster
      exact ⟨List.contains_iff_mem.mp hread, List.contains_iff_mem.mp hmaster⟩
    · cases hready
  · cases hready

theorem checkAndHandleTcpListenerSocket_serves
    (hcall : h.checkAndHandleTcpListenerSocket input = .ok h') :
    Serves cfg h.stack h'.stack := by
  have hstack := h.checkSocketSet_stack h.tcpListener
  simp only [checkAndHandleTcpListenerSocket] at hcall
  split at hcall
  · split at hcall
    · cases hcall
    · rename_i st hst
      cases hcall
      exact .accept (hstack ▸ hst)
  · cases hcall
    rw [hstack]
    exact .refl

theorem checkAndHandleUdpUnicastSocket_stack (cfg : Config) (input : CycleInput)
    (h : NetworkHandler) : (h.checkAndHandleUdpUnicastSocket cfg input).stack = h.stack := by
  simp only [checkAndHandleUdpUnicastSocket]
  split
  · split
    · exact h.checkSocketSet_stack _
    · split
      · exact h.checkSocketSet_stack _
      · rw [replyUdp_stack]
        exact h.checkSocketSet_stack _
  · exact h.checkSocketSet_stack _

theorem checkAndHandleUdpGlobalBroadcastSocket_stack (cfg : Config) (input : CycleInput)
    (h : NetworkHandler) :
    (h.checkAndHandleUdpGlobalBroadcastSocket cfg input).stack = h.stack := by
  simp only [checkAndHandleUdpGlobalBroadcastSocket]
  split
  · split
    · exact h.checkSocketSet_stack _
    · split
      · exact h.checkSocketSet_stack _
      · rw [replyUdp_stack]
        exact h.checkSocketSet_stack _
  · exact h.checkSocketSet_stack _

theorem setLastUpdate_serves (cfg : Config) (env : Environment) (socketTimer : Option Nat)
    (st : StackState) : Serves cfg st (setLastUpdate env socketTimer st) := by
  cases socketTimer with
  | none => exact .refl
  | some timer => exact .single env (.setLastUpdate timer) rfl rfl

theorem handlePacket_serves {socket : Int} (hsocket : socket ≠ eipInvalidSocket)
    {socketTimer : Option Nat} {incomingMessage : List UInt8}
    (hcall : h.handlePacket cfg input socket socketTimer incomingMessage = .ok h') :
    Serves cfg h.stack h'.stack := by
  simp only [handlePacket] at hcall
  split at hcall
  · cases hcall
  · rename_i handled st hhandled
    have hserves := handleReceivedExplictTcpData_serves hsocket hhandled
    have hupdated := hserves.trans
      (setLastUpdate_serves cfg (h.environment (input.explicit socket)) socketTimer st)
    split at hcall
    · cases hcall
      exact hupdated.trans (setLastUpdate_serves _ _ _ _)
    · cases hcall
      exact hupdated

/-- How far a failed call of `HandleDataOnTcpSocket` has taken the socket down. -/
def TakenDown (cfg : Config) (socket : Int) (st st' : StackState) : Prop :=
  st' = st ∨ st.removeSocketTimerFromList socket = .ok st' ∨
    ∃ st₁, st.removeSocketTimerFromList socket = .ok st₁ ∧ st₁.removeSession cfg socket = .ok st'

/-- A call that succeeds serves the client; one that fails leaves the socket to the loop. -/
theorem handleDataOnTcpSocket_outcome {socket : Int} (hsocket : socket ≠ eipInvalidSocket)
    {status : EipStatus}
    (hcall : h.handleDataOnTcpSocket cfg input socket = .ok (status, h')) :
    status ≠ .error ∧ Serves cfg h.stack h'.stack ∨
      status = .error ∧ TakenDown cfg socket h.stack h'.stack := by
  simp only [handleDataOnTcpSocket] at hcall
  generalize (input.streams socket).receive.1 = receipt at hcall
  cases receipt with
  | notYet =>
      cases hcall
      exact .inl ⟨nofun, .refl⟩
  | failed | fragment =>
      cases hcall
      exact .inr ⟨rfl, .inl rfl⟩
  | closedByClient =>
      dsimp only at hcall
      split at hcall
      · cases hcall
      · rename_i st hremove
        split at hcall
        · cases hcall
        · rename_i st' hsession
          cases hcall
          exact .inr ⟨rfl, .inr (.inr ⟨st, hremove, hsession⟩)⟩
  | closedWhileDropping =>
      dsimp only at hcall
      split at hcall
      · cases hcall
      · rename_i st hremove
        cases hcall
        exact .inr ⟨rfl, .inr (.inl hremove)⟩
  | dropped =>
      cases hcall
      exact .inl ⟨nofun, setLastUpdate_serves _ _ _ _⟩
  | packet incomingMessage =>
      dsimp only at hcall
      split at hcall
      · cases hcall
      · rename_i hpacket
        cases hcall
        exact .inl ⟨nofun, handlePacket_serves
          (h := { h with receivedFrom := h.receivedFrom ++ [socket] }) hsocket hpacket⟩

/-- The loop closes the socket and the session on it, however far that has been done. -/
theorem serves_of_takenDown {socket : Int} (hsocket : socket ≠ eipInvalidSocket)
    {st st₁ st₂ st' : StackState} (htaken : TakenDown cfg socket st st₁)
    (hclose : st₁.closeTcpSocket socket = .ok st₂)
    (hremove : st₂.removeSession cfg socket = .ok st') : Serves cfg st st' := by
  have hdisconnect : ∀ s s', s.closeTcpSocket socket = .ok s' →
      s'.removeSession cfg socket = .ok st' → Serves cfg s st' := by
    intro s s' hs hs'
    refine .single {} (.disconnect socket) (decide_eq_true hsocket) ?_
    rw [StackState.step, hs]
    exact hs'
  rcases htaken with rfl | htimers | ⟨st₀, htimers, hsession⟩
  · exact hdisconnect st₁ st₂ hclose hremove
  · exact hdisconnect st st₂ (closeTcpSocket_of_removed hsocket htimers ▸ hclose) hremove
  · refine .single {} (.handleClosedTcpSocket socket) (decide_eq_true hsocket) ?_
    rw [StackState.step, StackState.handleClosedTcpSocket, htimers]
    simp only [hsession, hclose]
    exact hremove

theorem processSocket_serves {socket : Int} (hsocket : socket ≠ eipInvalidSocket)
    (hcall : h.processSocket cfg input socket = .ok h') : Serves cfg h.stack h'.stack := by
  have hstack := h.checkSocketSet_stack socket
  simp only [processSocket] at hcall
  rw [← hstack]
  split at hcall
  · split at hcall
    · cases hcall
    · rename_i h₁ hhandle
      have htaken := (handleDataOnTcpSocket_outcome hsocket hhandle).resolve_left fun hok =>
        hok.1 rfl
      split at hcall
      · cases hcall
      · rename_i hclose
        split at hcall
        · cases hcall
        · rename_i hremove
          cases hcall
          exact serves_of_takenDown hsocket htaken.2 hclose hremove
    · rename_i status h₁ hstatus hhandle
      cases hcall
      exact ((handleDataOnTcpSocket_outcome hsocket hhandle).resolve_right fun herror =>
        hstatus herror.1).2
  · cases hcall
    exact .refl

theorem processSockets_serves {sockets : List Int} (hsockets : ∀ s ∈ sockets, s ≠ eipInvalidSocket)
    (hcall : processSockets cfg input sockets h = .ok h') : Serves cfg h.stack h'.stack := by
  induction sockets generalizing h with
  | nil =>
      cases hcall
      exact .refl
  | cons socket sockets ih =>
      rw [processSockets] at hcall
      split at hcall
      · cases hcall
      · rename_i h₁ hsocket
        exact (processSocket_serves (hsockets socket List.mem_cons_self) hsocket).trans
          (ih (fun s hs => hsockets s (List.mem_cons_of_mem socket hs)) hcall)

theorem checkInactivities_serves {sockets : List Int}
    (hsockets : ∀ s ∈ sockets, s ≠ eipInvalidSocket)
    (hcall : checkInactivities cfg sockets h = .ok h') : Serves cfg h.stack h'.stack := by
  induction sockets generalizing h with
  | nil =>
      cases hcall
      exact .refl
  | cons socket sockets ih =>
      rw [checkInactivities] at hcall
      split at hcall
      · cases hcall
      · rename_i st hst
        refine Serves.trans (.single _ (.checkEncapsulationInactivity socket)
          (decide_eq_true (hsockets socket List.mem_cons_self)) hst) ?_
        exact ih (h := h.setStack st)
          (fun s hs => hsockets s (List.mem_cons_of_mem socket hs)) hcall

/-- The loops count up from zero. -/
theorem valid_of_mem_socketNumbers {socket : Int} (hsocket : socket ∈ h.socketNumbers) :
    socket ≠ eipInvalidSocket := by
  obtain ⟨n, -, rfl⟩ := List.mem_map.mp hsocket
  exact ne_of_gt (Int.lt_of_lt_of_le (by decide) (Int.natCast_nonneg n))

theorem manageNetworkTimer_serves (hcall : h.manageNetworkTimer cfg input = .ok h') :
    Serves cfg h.stack h'.stack := by
  simp only [manageNetworkTimer] at hcall
  split at hcall
  · split at hcall
    · cases hcall
    · rename_i st hst
      cases hcall
      exact .single _ (.manageConnections h.elapsedTime) rfl hst
  · cases hcall
    exact .refl

/-- A turn of the round over the consuming sockets does nothing, ends the round, or is the
turn of a round that finds this socket ready only. -/
theorem handleConsumingUdpSocket_cases {env : Environment} {r : ConnRef}
    {received : List Received} {turn : Turn (NetworkHandler × List Received)}
    (hcall : handleConsumingUdpSocket cfg env r (h, received) = .ok turn) :
    (∃ h' received', turn = .stop (h', received') ∧ h'.stack = h.stack) ∨
    (∃ h', turn = .continue (h', received) ∧ h'.stack = h.stack ∧
      (h'.readSocket = h.readSocket ∧
          (h.stack.conn r).consumingSocket = eipInvalidSocket ∨
        h'.readSocket = h.readSocket.filter fun s => s ≠ (h.stack.conn r).consumingSocket)) ∨
    ∃ h' answer received', turn = .continue (h', received') ∧
      (h.stack.conn r).consumingSocket ≠ eipInvalidSocket ∧
      (h.stack.conn r).consumingSocket ∈ h.readSocket ∧
      h'.readSocket = h.readSocket.filter (fun s => s ≠ (h.stack.conn r).consumingSocket) ∧
      StackState.handleConsumingUdpSocket cfg
        (served env (h.stack.conn r).consumingSocket answer) r (h.stack, [answer]) =
          .ok (.continue (h'.stack, [])) := by
  simp only [handleConsumingUdpSocket] at hcall
  have hstack := h.checkSocketSet_stack (h.stack.conn r).consumingSocket
  have hread := h.checkSocketSet_readSocket (h.stack.conn r).consumingSocket
  split at hcall
  · rename_i hvalid
    split at hcall
    · rename_i hready
      obtain ⟨hmem, hmaster⟩ := checkSocketSet_ready hready
      -- in a round for this socket alone the same branch is taken
      have hcond : ∀ answer, (h.stack.conn r).consumingSocket ≠ eipInvalidSocket ∧
          h.stack.checkSocketSet (served env (h.stack.conn r).consumingSocket answer)
            (h.stack.conn r).consumingSocket = true := by
        intro answer
        refine ⟨hvalid, ?_⟩
        simp [StackState.checkSocketSet, served, hmaster]
      rw [hstack] at hcall
      split at hcall
      · cases hcall
        exact .inl ⟨_, _, rfl, hstack⟩
      · cases hcall
        exact .inl ⟨_, _, rfl, hstack⟩
      · split at hcall
        · cases hcall
        · rename_i st hclose
          cases hcall
          refine .inr (.inr ⟨_, .closedByClient, _, rfl, hvalid, hmem, hread, ?_⟩)
          rw [StackState.handleConsumingUdpSocket, if_pos (hcond _)]
          simp only [hclose]
          rfl
      · split at hcall
        · cases hcall
        · rename_i st hclose
          cases hcall
          refine .inr (.inr ⟨_, .failed, _, rfl, hvalid, hmem, hread, ?_⟩)
          rw [StackState.handleConsumingUdpSocket, if_pos (hcond _)]
          simp only [hclose]
          rfl
      · rename_i data fromAddress _
        split at hcall
        · cases hcall
        · rename_i status st hreceive
          cases hcall
          refine .inr (.inr ⟨_, .datagram data fromAddress, _, rfl, hvalid, hmem, hread, ?_⟩)
          rw [StackState.handleConsumingUdpSocket, if_pos (hcond _)]
          have hserved : h.stack.handleReceivedConnectedData cfg
              (served env (h.stack.conn r).consumingSocket (.datagram data fromAddress))
              data fromAddress = .ok (status, st) := hreceive
          simp only [hserved]
          rfl
    · cases hcall
      exact .inr (.inl ⟨_, rfl, hstack, .inr hread⟩)
  · rename_i hinvalid
    cases hcall
    exact .inr (.inl ⟨h, rfl, rfl, .inl ⟨rfl, not_not.mp hinvalid⟩⟩)

/-- The round over the consuming sockets, with the nodes that are still to come. No
connection in front of them has a socket that is ready. -/
def InRound (cfg : Config) (start : StackState) (todo : List Nat)
    (s : NetworkHandler × List Received) : Prop :=
  ∃ done ns, s.1.stack.Listed cfg ns ∧ ns = done ++ todo ∧ Serves cfg start s.1.stack ∧
    ∀ m ∈ done, ∀ q, (s.1.stack.nodes m).data = some q →
      (s.1.stack.conn q).consumingSocket = eipInvalidSocket ∨
        (s.1.stack.conn q).consumingSocket ∉ s.1.readSocket

/-- One turn of the round. -/
theorem InRound.turn {env : Environment} {start : StackState} (hsound : start.Sound cfg)
    {n : Nat} {todo : List Nat} {s s' : NetworkHandler × List Received} {r : ConnRef}
    (hround : InRound cfg start (n :: todo) s) (hdata : (nodes s n).data = some r)
    (hturn : handleConsumingUdpSocket cfg env r s = .ok (.continue s'))
    (hsaved : ∀ m, todo.head? = some m → (nodes s' m).data ≠ none) :
    ∃ todo', todo'.head? = todo.head? ∧ InRound cfg start todo' s' := by
  obtain ⟨h, received⟩ := s
  obtain ⟨done, ns, hlisted, hns, hserves, hfront⟩ := hround
  have hn : n ∈ ns := hns ▸ List.mem_append_right done List.mem_cons_self
  have hdone : ∀ m ∈ done, m ∈ ns := fun m hm => hns ▸ List.mem_append_left _ hm
  have hr : r ∈ h.stack.connectionList cfg := hlisted.mem.mpr ⟨n, hn, hdata⟩
  rcases handleConsumingUdpSocket_cases hturn with
    ⟨h', received', hstop, -⟩ | ⟨h', hcontinue, hstack, hread⟩ |
    ⟨h', answer, received', hcontinue, hvalid, hmem, hread, hstep⟩
  · cases hstop
  · -- nothing happened, or the socket was not open any more
    cases hcontinue
    have hsubset : ∀ socket ∈ h'.readSocket, socket ∈ h.readSocket := by
      intro socket hsocket
      rcases hread with ⟨hsame, -⟩ | hfilter
      · exact hsame ▸ hsocket
      · rw [hfilter] at hsocket
        exact (List.mem_filter.mp hsocket).1
    refine ⟨todo, rfl, done ++ [n], ns, hstack.symm ▸ hlisted, ?_, hstack.symm ▸ hserves, ?_⟩
    · rw [hns, List.append_cons]
    · intro m hm q hq
      rw [hstack] at hq ⊢
      rcases List.mem_append.mp hm with hm | hm
      · exact (hfront m hm q hq).imp_right fun hnot hmem => hnot (hsubset _ hmem)
      · rw [List.mem_singleton.mp hm] at hq
        obtain rfl : q = r := Option.some.inj (hq.symm.trans hdata)
        refine hread.imp And.right fun hfilter hmem => ?_
        rw [hfilter] at hmem
        exact of_decide_eq_true (List.mem_filter.mp hmem).2 rfl
  · -- the socket is served, which may take connections off the list
    cases hcontinue
    obtain ⟨s₁, ns', hkind, hcalm⟩ :=
      handleConsumingUdpSocket_calm hlisted (hserves.sound hsound).regular hr hstep
    obtain rfl : s₁ = (h'.stack, []) := by
      rcases hkind with hkind | hkind <;> cases hkind
      rfl
    obtain ⟨hns', hhead⟩ := hlisted.resumes hns hcalm.listed hcalm.trimmed hsaved
    have hround := round_of_turn hlisted hns hdata (fun m hm q hq => (hfront m hm q hq).imp_right
      fun hnot heq => hnot (heq ▸ hmem)) hstep hcalm.listed hcalm.trimmed hsaved
    refine ⟨todo.filter (· ∈ ns'), hhead, (done ++ [n]).filter (· ∈ ns'), ns', hcalm.listed,
      hns', hserves.trans (.single _ .checkAndHandleConsumingUdpSocket rfl hround), ?_⟩
    intro m hm q hq
    obtain ⟨hm, hlast⟩ := List.mem_filter.mp hm
    have hm' : m ∈ ns' := of_decide_eq_true hlast
    have hq' : (h.stack.nodes m).data = some q := (hcalm.trimmed.data_eq m hm').symm.trans hq
    rw [consumingSocket_of_calm hcalm (hcalm.listed.mem.mpr ⟨m, hm', hq⟩), hread]
    rcases List.mem_append.mp hm with hm | hm
    · exact (hfront m hm q hq').imp_right fun hnot hmem => hnot (List.mem_filter.mp hmem).1
    · rw [List.mem_singleton.mp hm] at hq'
      obtain rfl : q = r := Option.some.inj (hq'.symm.trans hdata)
      exact .inr fun hmem => of_decide_eq_true (List.mem_filter.mp hmem).2 rfl

theorem checkAndHandleConsumingUdpSocket_serves (hsound : h.stack.Sound cfg)
    (hcall : h.checkAndHandleConsumingUdpSocket cfg input = .ok h') :
    Serves cfg h.stack h'.stack := by
  obtain ⟨ns, hlisted⟩ := hsound.wellFormed
  rw [checkAndHandleConsumingUdpSocket] at hcall
  split at hcall
  · cases hcall
  · rename_i received hwalk
    cases hcall
    rw [hlisted.links.first_eq] at hwalk
    refine savedWalk_remaining_or_stop (P := InRound cfg h.stack)
      (Q := fun s => Serves cfg h.stack s.1.stack) ?_ ?_ ?_ ?_ hwalk
    · rintro s ⟨done, ns, -, -, hserves, -⟩
      exact hserves
    · intro n todo s r s' hround hdata hturn
      refine ⟨?_, hround.turn hsound hdata hturn⟩
      obtain ⟨done, ns, hlisted, hns, -⟩ := hround
      exact hlisted.links.next_eq hns
    · rintro n todo ⟨h₁, received₁⟩ r s' ⟨done, ns, hlisted, hns, hserves, -⟩ hdata hturn
      rcases handleConsumingUdpSocket_cases hturn with
        ⟨h', received', hstop, hstack⟩ | ⟨h', hcontinue, -⟩ | ⟨h', answer, received', hcontinue, -⟩
      · cases hstop
        exact hstack.symm ▸ hserves
      · cases hcontinue
      · cases hcontinue
    · exact ⟨[], ns, hlisted, rfl, .refl, nofun⟩

theorem processReadySockets_serves (hsound : h.stack.Sound cfg)
    (hcall : h.processReadySockets cfg input = .ok h') : Serves cfg h.stack h'.stack := by
  rw [processReadySockets] at hcall
  split at hcall
  · cases hcall
    exact .refl
  · split at hcall
    · cases hcall
    · rename_i h₁ hlistener
      have hserves : Serves cfg _ _ := checkAndHandleTcpListenerSocket_serves hlistener
      have hunicast := checkAndHandleUdpUnicastSocket_stack cfg input h₁
      have hbroadcast := checkAndHandleUdpGlobalBroadcastSocket_stack cfg input
        (h₁.checkAndHandleUdpUnicastSocket cfg input)
      have hstack := hbroadcast.trans hunicast
      dsimp only at hcall
      split at hcall
      · cases hcall
      · rename_i h₂ hconsuming
        have hserves₂ := hserves.trans (hstack ▸ checkAndHandleConsumingUdpSocket_serves
          (hstack.symm ▸ hserves.sound hsound) hconsuming)
        exact hserves₂.trans (processSockets_serves (fun _ => valid_of_mem_socketNumbers) hcall)

end NetworkHandler

open StackState

/-- One turn of the event loop is a run of the network steps. -/
theorem eventLoopStep_serves {cfg : Config} {input : CycleInput} {h h' : NetworkHandler}
    (hsound : h.stack.Sound cfg) (hstep : eventLoopStep cfg input h = .ok h') :
    Serves cfg h.stack h'.stack := by
  rw [eventLoopStep] at hstep
  split at hstep
  · cases hstep
  · rename_i hcycle
    cases hstep
    rw [NetworkHandler.networkHandlerProcessCyclic] at hcycle
    split at hcycle
    · cases hcycle
      exact .refl
    · cases hcycle
    · rename_i sockets _
      split at hcycle
      · cases hcycle
      · rename_i h₁ hready
        have hserves : Serves cfg h.stack h₁.stack :=
          NetworkHandler.processReadySockets_serves (h := h.select sockets) hsound hready
        split at hcycle
        · cases hcycle
        · rename_i h₂ hinactive
          have hserves₂ := hserves.trans (NetworkHandler.checkInactivities_serves
            (fun _ => NetworkHandler.valid_of_mem_socketNumbers) hinactive)
          split at hcycle
          · cases hcycle
          · rename_i htimer
            cases hcycle
            exact hserves₂.trans (NetworkHandler.manageNetworkTimer_serves
              (h := h₂.advanceTime input) htimer)
  · cases hstep

theorem tables_networkHandlerInitialize (cfg : Config) (assemblyData : UInt16 → List UInt8)
    (start : NetworkStart) :
    (networkHandlerInitialize cfg assemblyData start).stack.Sound cfg ∧
      (networkHandlerInitialize cfg assemblyData start).stack.Tabled
        cfg.numberOfSupportedSessions := by
  have hsound := sound_initialState cfg assemblyData
  have htabled := tabled_initialState cfg assemblyData
  exact ⟨⟨hsound.wellFormed, hsound.regular, hsound.close, hsound.instances⟩,
    htabled.paired, htabled.length⟩

/-- Whatever the operating system and the clients do, the event loop takes steps of the
stack that are called with valid sockets; so the connection list stays well formed, and
between two turns the session table and the socket timers hold the same sockets. -/
theorem eventLoop_serves {cfg : Config} {assemblyData : UInt16 → List UInt8}
    {start : NetworkStart} {h : NetworkHandler}
    (hrun : Runs.Reaches (eventLoopStep cfg) (fun _ _ => True)
      (networkHandlerInitialize cfg assemblyData start) h) :
    Serves cfg (networkHandlerInitialize cfg assemblyData start).stack h.stack ∧
      h.stack.Sound cfg ∧ h.stack.Tabled cfg.numberOfSupportedSessions := by
  have hstart := tables_networkHandlerInitialize cfg assemblyData start
  have hserves : Serves cfg (networkHandlerInitialize cfg assemblyData start).stack h.stack := by
    refine hrun.invariant
      (fun h => Serves cfg (networkHandlerInitialize cfg assemblyData start).stack h.stack) .refl ?_
    intro input h h' hbefore _ hstep
    exact hbefore.trans (eventLoopStep_serves (hbefore.sound hstart.1) hstep)
  refine ⟨hserves, hserves.invariant
    (fun st => st.Sound cfg ∧ st.Tabled cfg.numberOfSupportedSessions) hstart ?_⟩
  rintro label s s' ⟨hsound, htabled⟩ hcalls hstep
  exact tabled_networkStep hsound htabled hcalls hstep

namespace SampleApplication

def networkStart : NetworkStart :=
  { tcpListener := ⟨3, by decide⟩
    udpUnicastListener := ⟨4, by decide⟩
    udpGlobalBroadcastListener := listener
    milliSeconds := 1000 }

/-- What a client sends to register a session. -/
def registerSessionFrame : List UInt8 :=
  intBytes EncapsulationCommand.registerSession ++ intBytes 4 ++ dintBytes 0 ++ dintBytes 0 ++
    List.replicate 8 0 ++ dintBytes 0 ++ intBytes 1 ++ intBytes 0

/-- A client connects, its request is served, and a tick is due. -/
def registeringTurns : List CycleInput :=
  [{ select := .ready [3], accepted := 6, identity := identityAttributes, milliSeconds := 1004 },
   { select := .ready [6]
     streams := fun _ => { unread := registerSessionFrame, answers := fun _ => .chunk 100 }
     identity := identityAttributes
     milliSeconds := 1009 },
   { select := .ready [], identity := identityAttributes, milliSeconds := 1019 }]

end SampleApplication

open SampleApplication in
/-- The client's session is registered at the end. -/
theorem eventLoop_serves_sample :
    ∃ h : NetworkHandler, Serves config
      (networkHandlerInitialize config SampleApplication.assemblyData
        networkStart).stack h.stack ∧
      h.stack.registeredSessions.head? = some 6 ∧ h.ticks = [19] := by
  obtain ⟨h, hreaches, hend⟩ := Runs.reaches_of_accepts (eventLoopStep config)
    (fun _ _ => true) .networkHandlerFailed registeringTurns
    (networkHandlerInitialize config SampleApplication.assemblyData networkStart)
    (fun h => h.stack.registeredSessions.head? = some 6 && h.ticks = [19]) (by decide +kernel)
  simp only [Bool.and_eq_true, decide_eq_true_eq] at hend
  exact ⟨h, (eventLoop_serves (hreaches.mono fun _ _ _ => trivial)).1, hend⟩

end Opener
