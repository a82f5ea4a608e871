import Opener.Core.MainLoop
import Opener.Library.Runs
import Opener.Metatheory.MainLoop

/-!
What one turn of the main loop accounts for: the sockets that `select` has found ready,
each of which is looked at once, and the time, which is handed to the ticks without loss.
-/

namespace Opener

open LinkedCells

namespace NetworkHandler

variable {cfg : Config} {input : CycleInput} {h h₁ h' : NetworkHandler}

/-- The sockets that were attended, missed or are still to be looked at. -/
def accounted (h : NetworkHandler) : List Int := h.attended ++ h.missed ++ h.readSocket

/-- No socket is found ready twice, and the TCP sockets that were received from were attended
before. -/
structure Orderly (h : NetworkHandler) : Prop where
  nodup : h.readSocket.Nodup
  received : h.receivedFrom.Nodup
  attended : ∀ socket ∈ h.receivedFrom, socket ∈ h.attended ∧ socket ∉ h.readSocket

/-- What every handler keeps: the clock, and the account of the ready sockets. -/
structure Keeps (h h' : NetworkHandler) : Prop where
  tcpListener : h'.tcpListener = h.tcpListener
  udpUnicastListener : h'.udpUnicastListener = h.udpUnicastListener
  udpGlobalBroadcastListener : h'.udpGlobalBroadcastListener = h.udpGlobalBroadcastListener
  elapsedTime : h'.elapsedTime = h.elapsedTime
  lastTime : h'.lastTime = h.lastTime
  ticks : h'.ticks = h.ticks
  highest : h.highestSocketHandle ≤ h'.highestSocketHandle
  sublist : h'.readSocket.Sublist h.readSocket
  account : h.readSocket.Nodup → h'.accounted.Perm h.accounted
  orderly : h.Orderly → h'.Orderly
  grows : ∀ socket ∈ h'.receivedFrom, socket ∈ h.receivedFrom ∨ socket ∈ h.readSocket

namespace Keeps

theorem refl (h : NetworkHandler) : Keeps h h :=
  ⟨rfl, rfl, rfl, rfl, rfl, rfl, le_rfl, .refl _, fun _ => .refl _, id, fun _ => .inl⟩

theorem trans (hk : Keeps h h₁) (hk' : Keeps h₁ h') : Keeps h h' :=
  ⟨hk'.tcpListener.trans hk.tcpListener, hk'.udpUnicastListener.trans hk.udpUnicastListener,
    hk'.udpGlobalBroadcastListener.trans hk.udpGlobalBroadcastListener,
    hk'.elapsedTime.trans hk.elapsedTime, hk'.lastTime.trans hk.lastTime,
    hk'.ticks.trans hk.ticks, hk.highest.trans hk'.highest, hk'.sublist.trans hk.sublist,
    fun hnodup => (hk'.account (hnodup.sublist hk.sublist)).trans (hk.account hnodup),
    fun horderly => hk'.orderly (hk.orderly horderly),
    fun socket hsocket => (hk'.grows socket hsocket).elim (hk.grows socket)
      fun hread => .inr (hk.sublist.subset hread)⟩

end Keeps

/-- A handler that receives from no TCP socket. -/
structure Quiet (h h' : NetworkHandler) : Prop extends Keeps h h' where
  receivedFrom : h'.receivedFrom = h.receivedFrom

namespace Quiet

theorem refl (h : NetworkHandler) : Quiet h h := ⟨.refl h, rfl⟩

theorem trans (hq : Quiet h h₁) (hq' : Quiet h₁ h') : Quiet h h' :=
  ⟨hq.toKeeps.trans hq'.toKeeps, hq'.receivedFrom.trans hq.receivedFrom⟩

/-- Nothing of this is written. -/
theorem of_eq (htcp : h'.tcpListener = h.tcpListener)
    (hunicast : h'.udpUnicastListener = h.udpUnicastListener)
    (hbroadcast : h'.udpGlobalBroadcastListener = h.udpGlobalBroadcastListener)
    (helapsed : h'.elapsedTime = h.elapsedTime) (hlast : h'.lastTime = h.lastTime)
    (hticks : h'.ticks = h.ticks) (hhighest : h.highestSocketHandle ≤ h'.highestSocketHandle)
    (hread : h'.readSocket = h.readSocket) (hattended : h'.attended = h.attended)
    (hmissed : h'.missed = h.missed) (hreceived : h'.receivedFrom = h.receivedFrom) :
    Quiet h h' where
  tcpListener := htcp
  udpUnicastListener := hunicast
  udpGlobalBroadcastListener := hbroadcast
  elapsedTime := helapsed
  lastTime := hlast
  ticks := hticks
  highest := hhighest
  sublist := hread ▸ .refl _
  account := fun _ => by rw [accounted, accounted, hattended, hmissed, hread]
  orderly := fun horderly =>
    { nodup := hread ▸ horderly.nodup
      received := hreceived ▸ horderly.received
      attended := fun socket hsocket => by
        rw [hattended, hread]
        exact horderly.attended socket (hreceived ▸ hsocket) }
  grows := fun socket hsocket => .inl (hreceived ▸ hsocket)
  receivedFrom := hreceived

theorem setStack (h : NetworkHandler) (st : StackState) : Quiet h (h.setStack st) := by
  refine of_eq rfl rfl rfl rfl rfl rfl ?_ rfl rfl rfl rfl
  have hfold : ∀ (sockets : List Int) (highest : Int), highest ≤ sockets.foldl max highest := by
    intro sockets
    induction sockets with
    | nil => exact fun highest => le_rfl
    | cons socket sockets ih =>
        exact fun highest => (le_max_left highest socket).trans (ih (max highest socket))
  exact hfold _ _

theorem send (h : NetworkHandler) (outgoing : Outgoing) : Quiet h (h.send outgoing) :=
  of_eq rfl rfl rfl rfl rfl rfl le_rfl rfl rfl rfl rfl

theorem replyUdp (h : NetworkHandler) (fromAddress : SockaddrIn) (handled : Handled) :
    Quiet h (h.replyUdp fromAddress handled) := by
  rw [NetworkHandler.replyUdp]
  split
  · exact send h _
  · exact refl h

/-- A socket that is looked at goes from the ready ones to the attended or the missed. -/
theorem checkSocketSet (h : NetworkHandler) (socket : Int) :
    Quiet h (h.checkSocketSet socket).2 := by
  have hperm : h.readSocket.Nodup → socket ∈ h.readSocket →
      (socket :: h.readSocket.filter fun s => s ≠ socket).Perm h.readSocket := by
    intro hnodup hmem
    have hfilter : h.readSocket.erase socket = h.readSocket.filter fun s => s ≠ socket := by
      rw [hnodup.erase_eq_filter]
      exact List.filter_congr fun s _ => by rw [Bool.eq_iff_iff]; simp
    exact hfilter ▸ (List.perm_cons_erase hmem).symm
  -- whether it is attended or missed, the ones received from stay as they are
  have horderly : ∀ h₁ : NetworkHandler, h.attended ⊆ h₁.attended →
      h₁.receivedFrom = h.receivedFrom → h₁.readSocket = h.readSocket.filter (fun s => s ≠ socket) →
      h.Orderly → h₁.Orderly := by
    intro h₁ hsubset hreceived hread horderly
    refine ⟨hread ▸ horderly.nodup.filter _, hreceived ▸ horderly.received, fun s hs => ?_⟩
    obtain ⟨hattended, hnot⟩ := horderly.attended s (hreceived ▸ hs)
    exact ⟨hsubset hattended, fun hmem => hnot (List.mem_filter.mp (hread ▸ hmem)).1⟩
  rw [NetworkHandler.checkSocketSet]
  split
  · rename_i hcontains
    have hmem := List.contains_iff_mem.mp hcontains
    dsimp only
    split
    · refine ⟨⟨rfl, rfl, rfl, rfl, rfl, rfl, le_rfl, List.filter_sublist, fun hnodup => ?_,
        horderly _ (List.subset_append_left _ _) rfl rfl, fun _ => .inl⟩, rfl⟩
      simp only [accounted, List.append_assoc, List.singleton_append]
      refine List.Perm.append_left h.attended ?_
      exact List.perm_middle.symm.trans (List.Perm.append_left h.missed (hperm hnodup hmem))
    · refine ⟨⟨rfl, rfl, rfl, rfl, rfl, rfl, le_rfl, List.filter_sublist, fun hnodup => ?_,
        horderly _ (List.Subset.refl _) rfl rfl, fun _ => .inl⟩, rfl⟩
      simp only [accounted, List.append_assoc, List.singleton_append]
      exact List.Perm.append_left h.attended (List.Perm.append_left h.missed (hperm hnodup hmem))
  · exact refl h

theorem checkAndHandleTcpListenerSocket
    (hcall : h.checkAndHandleTcpListenerSocket input = .ok h') :
    Quiet (h.checkSocketSet h.tcpListener).2 h' := by
  simp only [NetworkHandler.checkAndHandleTcpListenerSocket] at hcall
  split at hcall
  · split at hcall
    · cases hcall
    · rename_i st _
      cases hcall
      exact setStack _ st
  · cases hcall
    exact refl _

theorem checkAndHandleUdpUnicastSocket (cfg : Config) (input : CycleInput) (h : NetworkHandler) :
    Quiet (h.checkSocketSet h.udpUnicastListener.socket).2
      (h.checkAndHandleUdpUnicastSocket cfg input) := by
  simp only [NetworkHandler.checkAndHandleUdpUnicastSocket]
  split
  · split
    · exact refl _
    · split
      · exact refl _
      · exact replyUdp _ _ _
  · exact refl _

theorem checkAndHandleUdpGlobalBroadcastSocket (cfg : Config) (input : CycleInput)
    (h : NetworkHandler) :
    Quiet (h.checkSocketSet h.udpGlobalBroadcastListener).2
      (h.checkAndHandleUdpGlobalBroadcastSocket cfg input) := by
  simp only [NetworkHandler.checkAndHandleUdpGlobalBroadcastSocket]
  split
  · split
    · exact refl _
    · split
      · exact refl _
      · exact (replyUdp _ _ _).trans (of_eq rfl rfl rfl rfl rfl rfl le_rfl rfl rfl rfl rfl)
  · exact refl _

theorem handleConsumingUdpSocket {env : Environment} {r : ConnRef} {received : List Received}
    {turn : Turn (NetworkHandler × List Received)}
    (hcall : NetworkHandler.handleConsumingUdpSocket cfg env r (h, received) = .ok turn) :
    Quiet h turn.state.1 := by
  have hchecked := checkSocketSet h (h.stack.conn r).consumingSocket
  simp only [NetworkHandler.handleConsumingUdpSocket] at hcall
  split at hcall
  · split at hcall
    · split at hcall
      · cases hcall
        exact hchecked
      · cases hcall
        exact hchecked
      · split at hcall
        · cases hcall
        · cases hcall
          exact hchecked.trans (setStack _ _)
      · split at hcall
        · cases hcall
        · cases hcall
          exact hchecked.trans (setStack _ _)
      · split at hcall
        · cases hcall
        · cases hcall
          exact hchecked.trans (setStack _ _)
    · cases hcall
      exact hchecked
  · cases hcall
    exact refl h

theorem checkAndHandleConsumingUdpSocket
    (hcall : h.checkAndHandleConsumingUdpSocket cfg input = .ok h') : Quiet h h' := by
  rw [NetworkHandler.checkAndHandleConsumingUdpSocket] at hcall
  split at hcall
  · cases hcall
  · rename_i hwalk
    cases hcall
    refine savedWalk_invariant (fun s => Quiet h s.1) ?_ ?_ (refl h) hwalk
    · rintro ⟨h₁, received⟩ n r s hk - hturn
      exact hk.trans (handleConsumingUdpSocket hturn)
    · rintro ⟨h₁, received⟩ n r s hk - hturn
      exact hk.trans (handleConsumingUdpSocket hturn)

theorem handlePacket {socket : Int} {socketTimer : Option Nat} {incomingMessage : List UInt8}
    (hcall : h.handlePacket cfg input socket socketTimer incomingMessage = .ok h') :
    Quiet h h' := by
  simp only [NetworkHandler.handlePacket] at hcall
  split at hcall
  · cases hcall
  · split at hcall
    · cases hcall
      exact (setStack h _).trans ((send _ _).trans (setStack _ _))
    · cases hcall
      exact setStack h _

theorem handleDataOnTcpSocket {socket : Int} {status : EipStatus}
    (hcall : h.handleDataOnTcpSocket cfg input socket = .ok (status, h')) :
    Quiet { h with receivedFrom := h.receivedFrom ++ [socket] } h' := by
  simp only [NetworkHandler.handleDataOnTcpSocket] at hcall
  generalize (input.streams socket).receive.1 = receipt at hcall
  cases receipt with
  | notYet | failed | fragment =>
      cases hcall
      exact refl _
  | closedByClient =>
      dsimp only at hcall
      split at hcall
      · cases hcall
      · split at hcall
        · cases hcall
        · cases hcall
          exact setStack _ _
  | closedWhileDropping =>
      dsimp only at hcall
      split at hcall
      · cases hcall
      · cases hcall
        exact setStack _ _
  | dropped =>
      cases hcall
      exact setStack _ _
  | packet incomingMessage =>
      dsimp only at hcall
      split at hcall
      · cases hcall
      · rename_i hpacket
        cases hcall
        exact handlePacket hpacket

theorem checkInactivities {sockets : List Int}
    (hcall : NetworkHandler.checkInactivities cfg sockets h = .ok h') : Quiet h h' := by
  induction sockets generalizing h with
  | nil =>
      cases hcall
      exact refl _
  | cons socket sockets ih =>
      rw [NetworkHandler.checkInactivities] at hcall
      split at hcall
      · cases hcall
      · exact (setStack h _).trans (ih hcall)

end Quiet

namespace Keeps

/-- A socket that is attended may be received from. -/
theorem attend {socket : Int}
    (hready : (h.checkSocketSet socket).1 = true) :
    Keeps h
      { (h.checkSocketSet socket).2 with
        receivedFrom := (h.checkSocketSet socket).2.receivedFrom ++ [socket] } := by
  have hq := Quiet.checkSocketSet h socket
  have hread := (checkSocketSet_ready hready).1
  have hgone : socket ∉ (h.checkSocketSet socket).2.readSocket := by
    rw [checkSocketSet_readSocket]
    simp
  refine { hq.toKeeps with
    orderly := fun horderly => ?_
    grows := fun s hs => ?_ }
  · have hchecked := hq.orderly horderly
    refine ⟨hchecked.nodup, ?_, fun s hs => ?_⟩
    · refine List.nodup_append.mpr ⟨hchecked.received, List.nodup_singleton _, ?_⟩
      rintro s hs s' hs' rfl
      rw [List.mem_singleton.mp hs', hq.receivedFrom] at hs
      exact (horderly.attended socket hs).2 hread
    · rcases List.mem_append.mp hs with hs | hs
      · exact hchecked.attended s hs
      · rw [List.mem_singleton.mp hs]
        exact ⟨checkSocketSet_attended hready, hgone⟩
  · rcases List.mem_append.mp hs with hs | hs
    · exact .inl (hq.receivedFrom ▸ hs)
    · exact .inr (List.mem_singleton.mp hs ▸ hread)

theorem processSocket {socket : Int} (hcall : h.processSocket cfg input socket = .ok h') :
    Keeps h h' := by
  have hchecked := (Quiet.checkSocketSet h socket).toKeeps
  simp only [NetworkHandler.processSocket] at hcall
  split at hcall
  · rename_i hready
    split at hcall
    · cases hcall
    · rename_i hhandle
      split at hcall
      · cases hcall
      · split at hcall
        · cases hcall
        · cases hcall
          have hhandled := (Quiet.handleDataOnTcpSocket hhandle).toKeeps
          exact ((attend hready).trans hhandled).trans (Quiet.setStack _ _).toKeeps
    · rename_i hhandle
      cases hcall
      exact (attend hready).trans (Quiet.handleDataOnTcpSocket hhandle).toKeeps
  · cases hcall
    exact hchecked

/-- The socket of a turn is not ready any more. -/
theorem processSocket_gone {socket : Int} (hcall : h.processSocket cfg input socket = .ok h') :
    socket ∉ h'.readSocket := by
  have hgone := h.checkSocketSet_gone socket
  simp only [NetworkHandler.processSocket] at hcall
  split at hcall
  · split at hcall
    · cases hcall
    · rename_i hhandle
      split at hcall
      · cases hcall
      · split at hcall
        · cases hcall
        · cases hcall
          exact fun hmem => hgone ((Quiet.handleDataOnTcpSocket hhandle).sublist.subset hmem)
    · rename_i hhandle
      cases hcall
      exact fun hmem => hgone ((Quiet.handleDataOnTcpSocket hhandle).sublist.subset hmem)
  · cases hcall
    exact hgone

theorem processSockets {sockets : List Int}
    (hcall : NetworkHandler.processSockets cfg input sockets h = .ok h') :
    Keeps h h' ∧ ∀ socket ∈ sockets, socket ∉ h'.readSocket := by
  induction sockets generalizing h with
  | nil =>
      cases hcall
      exact ⟨refl _, fun _ hmem => absurd hmem List.not_mem_nil⟩
  | cons socket sockets ih =>
      rw [NetworkHandler.processSockets] at hcall
      split at hcall
      · cases hcall
      · rename_i hsocket
        obtain ⟨hk, hgone⟩ := ih hcall
        refine ⟨(processSocket hsocket).trans hk, fun s hs => ?_⟩
        rcases List.mem_cons.mp hs with rfl | hs
        · exact fun hmem => processSocket_gone hsocket (hk.sublist.subset hmem)
        · exact hgone s hs

/-- Nothing is received from the listeners as from TCP sockets, and up to the highest
handle no socket stays ready. -/
theorem processReadySockets (hcall : h.processReadySockets cfg input = .ok h') :
    Keeps h h' ∧ (h.receivedFrom = [] →
      (∀ socket ∈ h.readSocket, 0 ≤ socket ∧ socket ≤ h.highestSocketHandle) →
        h'.readSocket = [] ∧ ∀ socket ∈ h'.receivedFrom, socket ≠ h.tcpListener ∧
          socket ≠ h.udpUnicastListener.socket ∧ socket ≠ h.udpGlobalBroadcastListener) := by
  rw [NetworkHandler.processReadySockets] at hcall
  split at hcall
  · rename_i hread
    cases hcall
    exact ⟨refl h, fun hreceived _ => ⟨hread, by simp [hreceived]⟩⟩
  · split at hcall
    · cases hcall
    · rename_i h₁ hlistener
      dsimp only at hcall
      split at hcall
      · cases hcall
      · rename_i h₄ hconsuming
        have hq₁ := Quiet.checkAndHandleTcpListenerSocket hlistener
        have hq₂ := Quiet.checkAndHandleUdpUnicastSocket cfg input h₁
        have hq₃ := Quiet.checkAndHandleUdpGlobalBroadcastSocket cfg input
          (h₁.checkAndHandleUdpUnicastSocket cfg input)
        have hq₄ := Quiet.checkAndHandleConsumingUdpSocket hconsuming
        have hlisten := (Quiet.checkSocketSet h _).trans hq₁
        have hunicast := (Quiet.checkSocketSet h₁ _).trans hq₂
        have hbroadcast := (Quiet.checkSocketSet _ _).trans hq₃
        obtain ⟨hsockets, hnumbers⟩ := processSockets hcall
        have hquiet := ((hlisten.trans hunicast).trans hbroadcast).trans hq₄
        refine ⟨hquiet.toKeeps.trans hsockets, fun hreceived hbound => ⟨?_, ?_⟩⟩
        · refine List.eq_nil_iff_forall_not_mem.mpr fun socket hmem => ?_
          have hread := hquiet.sublist.subset (hsockets.sublist.subset hmem)
          obtain ⟨hnonneg, hle⟩ := hbound socket hread
          exact hnumbers socket (mem_socketNumbers.mpr ⟨hnonneg, hle.trans hquiet.highest⟩) hmem
        · intro socket hsocket
          have hread : socket ∈ h₄.readSocket := by
            refine (hsockets.grows socket hsocket).resolve_left ?_
            rw [hquiet.receivedFrom, hreceived]
            exact List.not_mem_nil
          have hread₃ := hq₄.sublist.subset hread
          have hread₂ := hbroadcast.sublist.subset hread₃
          have hread₁ := hunicast.sublist.subset hread₂
          refine ⟨?_, ?_, ?_⟩
          · rintro rfl
            exact h.checkSocketSet_gone _ (hq₁.sublist.subset hread₁)
          · rintro rfl
            rw [← hlisten.udpUnicastListener] at hread₂
            exact h₁.checkSocketSet_gone _ (hq₂.sublist.subset hread₂)
          · rintro rfl
            rw [← (hlisten.trans hunicast).udpGlobalBroadcastListener] at hread₃
            exact checkSocketSet_gone _ _ (hq₃.sublist.subset hread₃)

end Keeps

/-- What is left of the time since the start of the loop is not handed to a tick yet. -/
structure Timed (cfg : Config) (start : UInt64) (h : NetworkHandler) : Prop where
  total : h.ticks.sum + h.elapsedTime = h.lastTime - start
  due : ∀ elapsedTime ∈ h.ticks, cfg.timerTickInMilliSeconds ≤ elapsedTime
  rest : h.elapsedTime < cfg.timerTickInMilliSeconds ∨ h.elapsedTime = 0

/-- The clock is read once in a turn; a tick takes all that has been added up. -/
theorem Timed.manageNetworkTimer {start : UInt64} (htimed : Timed cfg start h)
    (hcall : (h.advanceTime input).manageNetworkTimer cfg input = .ok h') :
    Timed cfg start h' := by
  have htotal : h.ticks.sum + (h.elapsedTime + (input.milliSeconds - h.lastTime)) =
      input.milliSeconds - start := by
    have hbefore := htimed.total
    grind
  simp only [NetworkHandler.manageNetworkTimer] at hcall
  split at hcall
  · rename_i hdue
    split at hcall
    · cases hcall
    · cases hcall
      refine ⟨?_, ?_, .inr rfl⟩
      · change (h.ticks ++ [h.elapsedTime + (input.milliSeconds - h.lastTime)]).sum + 0 = _
        rw [List.sum_append, List.sum_singleton, UInt64.add_zero]
        exact htotal
      · intro elapsedTime hmem
        rcases List.mem_append.mp hmem with hmem | hmem
        · exact htimed.due elapsedTime hmem
        · exact List.mem_singleton.mp hmem ▸ hdue
  · rename_i hdue
    cases hcall
    exact ⟨htotal, htimed.due, .inl (UInt64.not_le.mp hdue)⟩

theorem select_orderly (h : NetworkHandler) (sockets : List Int) : (h.select sockets).Orderly where
  nodup := (List.nodup_dedup _).filter _
  received := List.nodup_nil
  attended := fun _ hmem => absurd hmem List.not_mem_nil

theorem mem_select {sockets : List Int} {socket : Int}
    (hmem : socket ∈ (h.select sockets).readSocket) :
    0 ≤ socket ∧ socket ≤ h.highestSocketHandle := by
  simp only [select, List.mem_filter, Bool.and_eq_true, decide_eq_true_eq] at hmem
  exact ⟨hmem.2.1.2, hmem.2.2⟩

theorem manageNetworkTimer_account
    (hcall : (h.advanceTime input).manageNetworkTimer cfg input = .ok h') :
    h'.attended = h.attended ∧ h'.missed = h.missed ∧ h'.receivedFrom = h.receivedFrom := by
  simp only [NetworkHandler.manageNetworkTimer] at hcall
  split at hcall
  · split at hcall
    · cases hcall
    · cases hcall
      exact ⟨rfl, rfl, rfl⟩
  · cases hcall
    exact ⟨rfl, rfl, rfl⟩

/-- What a turn of the loop is that gets past `select`. -/
theorem eventLoopStep_ready {sockets : List Int} (hselect : input.select = .ready sockets)
    (hstep : eventLoopStep cfg input h = .ok h') :
    ∃ h₁ h₂ : NetworkHandler, (h.select sockets).processReadySockets cfg input = .ok h₁ ∧
      checkInactivities cfg h₁.socketNumbers h₁ = .ok h₂ ∧
      (h₂.advanceTime input).manageNetworkTimer cfg input = .ok h' := by
  simp only [eventLoopStep, networkHandlerProcessCyclic, hselect] at hstep
  split at hstep
  · cases hstep
  · rename_i hcyclic
    cases hstep
    split at hcyclic
    · cases hcyclic
    · rename_i h₁ hready
      split at hcyclic
      · cases hcyclic
      · rename_i h₂ hinactive
        split at hcyclic
        · cases hcyclic
        · rename_i htimer
          cases hcyclic
          exact ⟨h₁, h₂, hready, hinactive, htimer⟩
  · cases hstep

end NetworkHandler

open NetworkHandler

variable {cfg : Config} {input : CycleInput} {h h' : NetworkHandler}

/-- Whatever has been opened or closed meanwhile, each socket that `select` has found is
attended or found closed in the same turn, once; a TCP socket is received from at most once,
and a listener never like one. -/
theorem eventLoopStep_attends {sockets : List Int} (hselect : input.select = .ready sockets)
    (hstep : eventLoopStep cfg input h = .ok h') :
    (h'.attended ++ h'.missed).Perm (h.select sockets).readSocket ∧
      h'.receivedFrom.Nodup ∧
      ∀ socket ∈ h'.receivedFrom, socket ∈ h'.attended ∧ socket ≠ h.tcpListener ∧
        socket ≠ h.udpUnicastListener.socket ∧ socket ≠ h.udpGlobalBroadcastListener := by
  obtain ⟨h₁, h₂, hready, hinactive, htimer⟩ := eventLoopStep_ready hselect hstep
  have horderly := select_orderly h sockets
  obtain ⟨hk, hdone⟩ := Keeps.processReadySockets hready
  obtain ⟨hread, hlisteners⟩ := hdone rfl fun _ => mem_select
  have hq := Quiet.checkInactivities hinactive
  have hend := (hk.trans hq.toKeeps).orderly horderly
  have hread₂ : h₂.readSocket = [] := List.sublist_nil.mp (hread ▸ hq.sublist)
  have haccount := (hk.trans hq.toKeeps).account horderly.nodup
  obtain ⟨hattended, hmissed, hreceived⟩ := manageNetworkTimer_account htimer
  rw [accounted, hread₂, List.append_nil] at haccount
  rw [hattended, hmissed, hreceived]
  refine ⟨haccount, hend.received, fun socket hsocket => ?_⟩
  exact ⟨(hend.attended socket hsocket).1, hlisteners socket (hq.receivedFrom ▸ hsocket)⟩

open SampleApplication in
/-- Another client connects while the registered one has sent a message. -/
theorem eventLoopStep_attends_sample :
    ∃ h h' : NetworkHandler, ∃ sockets : List Int, h'.attended = [3, 6] ∧
      (h'.attended ++ h'.missed).Perm (h.select sockets).readSocket := by
  let h : NetworkHandler :=
    { networkHandlerInitialize config SampleApplication.assemblyData networkStart with
      stack :=
        { initialState config SampleApplication.assemblyData with masterSocket := [3, 4, 5, 6] }
      highestSocketHandle := 6 }
  let input : CycleInput :=
    { select := .ready [6, 3]
      accepted := 7
      streams := fun _ => { unread := registerSessionFrame, answers := fun _ => .chunk 100 }
      identity := identityAttributes
      milliSeconds := 1009 }
  have haccepts : (match eventLoopStep config input h with
      | .error _ => false
      | .ok h' => decide (h'.attended = [3, 6])) = true := by decide +kernel
  split at haccepts
  · cases haccepts
  · rename_i h' hstep
    exact ⟨h, h', [6, 3], of_decide_eq_true haccepts, (eventLoopStep_attends rfl hstep).1⟩

theorem timed_eventLoopStep {start : UInt64} (htimed : Timed cfg start h)
    (hstep : eventLoopStep cfg input h = .ok h') : Timed cfg start h' := by
  cases hselect : input.select with
  | ready sockets =>
      obtain ⟨h₁, h₂, hready, hinactive, htimer⟩ := eventLoopStep_ready hselect hstep
      have hk := (Keeps.processReadySockets hready).1.trans
        (Quiet.checkInactivities hinactive).toKeeps
      refine Timed.manageNetworkTimer ?_ htimer
      exact
        { total := by rw [hk.ticks, hk.elapsedTime, hk.lastTime]; exact htimed.total
          due := hk.ticks ▸ htimed.due
          rest := hk.elapsedTime ▸ htimed.rest }
  | interrupted =>
      simp only [eventLoopStep, networkHandlerProcessCyclic, hselect] at hstep
      cases hstep
      exact htimed
  | failed =>
      simp only [eventLoopStep, networkHandlerProcessCyclic, hselect] at hstep
      cases hstep

/-- The ticks and the time that is left add up to what the clock has shown since the start,
also when it wraps around or a turn is interrupted; a tick is never shorter than the
period, and less than a period is left behind. -/
theorem eventLoop_timed {assemblyData : UInt16 → List UInt8} {start : NetworkStart}
    (hrun : Runs.Reaches (eventLoopStep cfg) (fun _ _ => True)
      (networkHandlerInitialize cfg assemblyData start) h) :
    h.ticks.sum + h.elapsedTime = h.lastTime - start.milliSeconds ∧
      (∀ elapsedTime ∈ h.ticks, cfg.timerTickInMilliSeconds ≤ elapsedTime) ∧
      (h.elapsedTime < cfg.timerTickInMilliSeconds ∨ h.elapsedTime = 0) := by
  have hstart : Timed cfg start.milliSeconds (networkHandlerInitialize cfg assemblyData start) :=
    ⟨by simp [networkHandlerInitialize], fun _ hmem => absurd hmem List.not_mem_nil, .inr rfl⟩
  have htimed := hrun.invariant (Timed cfg start.milliSeconds) hstart
    fun _ _ _ htimed _ hstep => timed_eventLoopStep htimed hstep
  exact ⟨htimed.total, htimed.due, htimed.rest⟩

open SampleApplication in
theorem eventLoop_timed_sample :
    ∃ h : NetworkHandler, h.ticks = [19] ∧
      h.ticks.sum + h.elapsedTime = h.lastTime - networkStart.milliSeconds := by
  obtain ⟨h, hreaches, hend⟩ := Runs.reaches_of_accepts (eventLoopStep config)
    (fun _ _ => true) .networkHandlerFailed registeringTurns
    (networkHandlerInitialize config SampleApplication.assemblyData networkStart)
    (fun h => decide (h.ticks = [19])) (by decide +kernel)
  exact ⟨h, of_decide_eq_true hend, (eventLoop_timed (hreaches.mono fun _ _ _ => trivial)).1⟩

end Opener
