import Opener.Library.SlotTable
import Opener.Metatheory.Ticks

/-!
The session table and the socket timers. Both are tables of sockets with a fixed
number of slots; between two messages they hold the same sockets, each once, so a
free session slot comes with a free timer.
-/

namespace Opener

open LinkedCells

namespace StackState

variable {cfg : Config} {env : Environment} {st : StackState} {size : Nat}

def socketTimers (st : StackState) : List Int := st.timestamps.map (·.socket)

/-- Sessions and timers hold the same sockets. -/
structure Tabled (size : Nat) (st : StackState) : Prop where
  paired : SlotTable.Paired eipInvalidSocket st.registeredSessions st.socketTimers
  length : st.registeredSessions.length = size

theorem Tabled.kept {st' : StackState} (h : st.Tabled size) (hkept : SessionsKept st st') :
    st'.Tabled size := by
  refine ⟨?_, ?_⟩
  · rw [socketTimers, hkept.registeredSessions, hkept.timestamps]
    exact h.paired
  · rw [hkept.registeredSessions]
    exact h.length

theorem tabled_initialState (cfg : Config) (assemblyData : UInt16 → List UInt8) :
    (initialState cfg assemblyData).Tabled cfg.numberOfSupportedSessions := by
  refine ⟨?_, List.length_replicate⟩
  rw [socketTimers, initialState, List.map_replicate]
  exact .replicate _

/-- There are as many timers as sessions. -/
theorem Tabled.timers_length (h : st.Tabled size) : st.timestamps.length = size := by
  have hlength := h.paired.length
  rw [socketTimers, List.length_map] at hlength
  rw [hlength, h.length]

theorem sessionOfSocket_eq_some {socket : Int} {i : Nat}
    (h : st.sessionOfSocket socket = some i) : st.registeredSessions[i]? = some socket := by
  obtain ⟨hlt, hsocket, -⟩ := List.findIdx?_eq_some_iff_getElem.mp h
  rw [List.getElem?_eq_getElem hlt]
  exact congrArg some (of_decide_eq_true hsocket)

theorem sessionOfSocket_eq_none {socket : Int} :
    st.sessionOfSocket socket = none ↔ socket ∉ st.registeredSessions := by
  rw [sessionOfSocket, List.findIdx?_eq_none_iff]
  constructor
  · intro h hmem
    simpa using h socket hmem
  · intro h s hs
    exact decide_eq_false (ne_of_mem_of_not_mem hs h)

theorem getElem?_of_getD_ne {i : Nat}
    (h : st.registeredSessions.getD i eipInvalidSocket ≠ eipInvalidSocket) :
    st.registeredSessions[i]? = some (st.registeredSessions.getD i eipInvalidSocket) := by
  rw [List.getD_eq_getElem?_getD] at h ⊢
  cases hget : st.registeredSessions[i]? with
  | none => simp [hget] at h
  | some socket => rfl

/-- The timers of the socket are cleared, the sessions are as before. -/
structure TimersReleased (socket : Int) (st st' : StackState) : Prop where
  registeredSessions : st'.registeredSessions = st.registeredSessions
  socketTimers : st'.socketTimers = SlotTable.release eipInvalidSocket socket st.socketTimers

theorem removeSocketTimerFromList_released {socket : Int} (hsocket : socket ≠ eipInvalidSocket)
    (st : StackState) :
    ∃ st', st.removeSocketTimerFromList socket = .ok st' ∧ TimersReleased socket st st' := by
  rw [removeSocketTimerFromList, if_neg fun h => hsocket h.1]
  refine ⟨_, rfl, rfl, ?_⟩
  simp only [socketTimers, SlotTable.release, List.map_map]
  refine List.map_congr_left fun t _ => ?_
  simp only [Function.comp]
  split
  · rfl
  · rfl

theorem closeTcpSocket_released {socket : Int} (hsocket : socket ≠ eipInvalidSocket)
    (st : StackState) :
    ∃ st', st.closeTcpSocket socket = .ok st' ∧ TimersReleased socket st st' := by
  obtain ⟨st₁, hremove, hreleased⟩ := removeSocketTimerFromList_released hsocket st
  have hkept := (closeSocket_untouched socket st₁).toSessionsKept
  refine ⟨st₁.closeSocket socket, ?_, ?_, ?_⟩
  · rw [closeTcpSocket, hremove]
  · rw [hkept.registeredSessions, hreleased.registeredSessions]
  · rw [socketTimers, hkept.timestamps]
    exact hreleased.socketTimers

/-- The timers after those of the socket were cleared. -/
def timersWithout (socket : Int) (timers : List SocketTimer) : List SocketTimer :=
  timers.map fun t => if t.socket = socket then {} else t

/-- One turn of the loop clears one timer of the socket. -/
theorem clearTimers_turn {socket : Int} {timers : List SocketTimer} {i : Nat}
    (hsocket : socket ≠ eipInvalidSocket)
    (hi : (timers.findIdx? fun t => t.socket = socket) = some i) :
    timersWithout socket (timers.set i {}) = timersWithout socket timers ∧
      (timers.set i {}).countP (fun t => t.socket = socket) + 1 =
        timers.countP fun t => t.socket = socket := by
  induction timers generalizing i with
  | nil => cases hi
  | cons t timers ih =>
      have hcleared : ¬(({} : SocketTimer).socket = socket) := fun heq => hsocket heq.symm
      rw [List.findIdx?_cons] at hi
      by_cases ht : t.socket = socket
      · rw [if_pos (decide_eq_true ht), Option.some.injEq] at hi
        subst hi
        simp [timersWithout, ht, hcleared]
      · rw [if_neg (by simpa using ht)] at hi
        obtain ⟨j, hj, rfl⟩ := Option.map_eq_some_iff.mp hi
        obtain ⟨hsame, hcount⟩ := ih hj
        simp only [timersWithout] at hsame
        refine ⟨?_, ?_⟩
        · simp [timersWithout, hsame]
        · simp [ht, hcount]

theorem clearTimers_absent {socket : Int} {timers : List SocketTimer}
    (hnone : (timers.findIdx? fun t => t.socket = socket) = none) (turns : Nat) :
    clearTimers socket turns timers = some (timersWithout socket timers) := by
  have hsame : timersWithout socket timers = timers := by
    conv_rhs => rw [← List.map_id timers]
    refine List.map_congr_left fun t ht => ?_
    rw [if_neg (of_decide_eq_false (List.findIdx?_eq_none_iff.mp hnone t ht))]
    rfl
  rw [clearTimers.eq_def]
  simp only [hnone, hsame]

/-- With a turn for each timer of the socket the loop ends. -/
theorem clearTimers_eq {socket : Int} (hsocket : socket ≠ eipInvalidSocket) {turns : Nat}
    {timers : List SocketTimer}
    (hturns : timers.countP (fun t => t.socket = socket) ≤ turns) :
    clearTimers socket turns timers = some (timersWithout socket timers) := by
  induction turns generalizing timers with
  | zero =>
      cases hi : timers.findIdx? fun t => t.socket = socket with
      | none => exact clearTimers_absent hi 0
      | some i =>
          have hcount := (clearTimers_turn hsocket hi).2
          omega
  | succ turns ih =>
      cases hi : timers.findIdx? fun t => t.socket = socket with
      | none => exact clearTimers_absent hi _
      | some i =>
          obtain ⟨hsame, hcount⟩ := clearTimers_turn hsocket hi
          rw [clearTimers.eq_def]
          simp only [hi]
          rw [ih (by omega), hsame]

/-- Looking for the invalid socket, the loop finds the timer that it has cleared. -/
theorem clearTimers_endless {timers : List SocketTimer}
    (hempty : ∃ t ∈ timers, t.socket = eipInvalidSocket) (turns : Nat) :
    clearTimers eipInvalidSocket turns timers = none := by
  induction turns generalizing timers with
  | zero =>
      cases hi : timers.findIdx? fun t => t.socket = eipInvalidSocket with
      | none =>
          obtain ⟨t, ht, heq⟩ := hempty
          exact absurd heq (of_decide_eq_false (List.findIdx?_eq_none_iff.mp hi t ht))
      | some i =>
          rw [clearTimers.eq_def]
          simp only [hi]
  | succ turns ih =>
      cases hi : timers.findIdx? fun t => t.socket = eipInvalidSocket with
      | none =>
          obtain ⟨t, ht, heq⟩ := hempty
          exact absurd heq (of_decide_eq_false (List.findIdx?_eq_none_iff.mp hi t ht))
      | some i =>
          rw [clearTimers.eq_def]
          simp only [hi]
          refine ih ⟨{}, ?_, rfl⟩
          have hlt := (List.findIdx?_eq_some_iff_getElem.mp hi).1
          exact List.mem_of_getElem? (List.getElem?_set_self hlt)

/-- The loop of `RemoveSocketTimerFromList` as the model has it: it ends after at most
one turn for each timer and leaves no timer with the socket, or it never ends. -/
theorem closeTcpSocket_loop (socket : Int) (st : StackState) :
    (∀ st', st.closeTcpSocket socket = .ok st' →
      clearTimers socket st.timestamps.length st.timestamps = some st'.timestamps ∧
        ∀ t ∈ st'.timestamps, t.socket ≠ socket) ∧
      ∀ fault, st.closeTcpSocket socket = .error fault →
        ∀ turns, clearTimers socket turns st.timestamps = none := by
  have hgone : ∀ t ∈ timersWithout socket st.timestamps, t.socket = socket →
      socket = eipInvalidSocket ∧ ∃ t ∈ st.timestamps, t.socket = socket := by
    intro t ht heq
    obtain ⟨u, hu, rfl⟩ := List.mem_map.mp ht
    split at heq
    · rename_i husocket
      exact ⟨heq.symm, u, hu, husocket⟩
    · rename_i husocket
      exact absurd heq husocket
  rw [closeTcpSocket, removeSocketTimerFromList]
  by_cases hloop : socket = eipInvalidSocket ∧
      st.timestamps.any (fun t => t.socket = eipInvalidSocket)
  · rw [if_pos hloop]
    refine ⟨fun st' h => (by cases h), fun fault _ turns => ?_⟩
    rw [hloop.1]
    refine clearTimers_endless ?_ turns
    simpa using hloop.2
  · rw [if_neg hloop]
    refine ⟨fun st' hcall => ?_, fun fault h => (by cases h)⟩
    have htimers : st'.timestamps = timersWithout socket st.timestamps := by
      rw [Except.ok.injEq] at hcall
      rw [← hcall, (closeSocket_untouched socket _).timestamps]
      rfl
    rw [htimers]
    refine ⟨?_, fun t ht heq => ?_⟩
    · by_cases hsocket : socket = eipInvalidSocket
      · refine clearTimers_absent (List.findIdx?_eq_none_iff.mpr fun t ht => ?_) _
        refine decide_eq_false fun heq => hloop ⟨hsocket, ?_⟩
        exact List.any_eq_true.mpr ⟨t, ht, decide_eq_true (heq.trans hsocket)⟩
      · exact clearTimers_eq hsocket List.countP_le_length
    · obtain ⟨hsocket, u, hu, husocket⟩ := hgone t ht heq
      refine hloop ⟨hsocket, ?_⟩
      exact List.any_eq_true.mpr ⟨u, hu, decide_eq_true (husocket.trans hsocket)⟩

namespace Tabled

/-- A session goes with the timers of its socket. -/
theorem freed (h : st.Tabled size) {socket : Int} {i : Nat} {st' : StackState}
    (hi : st.registeredSessions[i]? = some socket) (hsocket : socket ≠ eipInvalidSocket)
    (hreleased : TimersReleased socket st st') : (st'.clearSession i).Tabled size := by
  refine ⟨?_, ?_⟩
  · change SlotTable.Paired _ (st'.registeredSessions.set i eipInvalidSocket) st'.socketTimers
    rw [hreleased.registeredSessions, hreleased.socketTimers]
    exact h.paired.remove hi hsocket
  · change (st'.registeredSessions.set i eipInvalidSocket).length = size
    rw [List.length_set, hreleased.registeredSessions]
    exact h.length

theorem released_absent (h : st.Tabled size) {socket : Int} {st' : StackState}
    (hsocket : socket ≠ eipInvalidSocket) (habsent : socket ∉ st.registeredSessions)
    (hreleased : TimersReleased socket st st') : st'.Tabled size := by
  refine ⟨?_, ?_⟩
  · rw [hreleased.registeredSessions, hreleased.socketTimers]
    exact h.paired.release_absent hsocket habsent
  · rw [hreleased.registeredSessions]
    exact h.length

theorem aloof (h : st.Tabled size) {result : Except Fault StackState} (haloof : Aloof st result) :
    Outcome (· ≠ .endlessTimerLoop) (Tabled size) result :=
  haloof.imp fun _ => h.kept

theorem closeSession (h : st.Tabled size) (cfg : Config) {socket : Int}
    (hsocket : socket ≠ eipInvalidSocket) :
    Outcome (· ≠ .endlessTimerLoop) (Tabled size) (st.closeSession cfg socket) := by
  rw [StackState.closeSession]
  cases hindex : st.sessionOfSocket socket with
  | none => exact h
  | some i =>
      obtain ⟨st₁, hclose, hreleased⟩ := closeTcpSocket_released hsocket st
      simp only [hclose]
      exact (h.freed (sessionOfSocket_eq_some hindex) hsocket hreleased).aloof
        (closeClass3_reserved cfg _ _).aloof

/-- `RemoveSession` is called when the timers of the socket are cleared. -/
theorem removeSession (h : st.Tabled size) (cfg : Config) {socket : Int} {st' : StackState}
    (hsocket : socket ≠ eipInvalidSocket) (hreleased : TimersReleased socket st st') :
    Outcome (· ≠ .endlessTimerLoop) (Tabled size) (st'.removeSession cfg socket) := by
  have hsession : st'.sessionOfSocket socket = st.sessionOfSocket socket := by
    rw [sessionOfSocket, hreleased.registeredSessions, sessionOfSocket]
  rw [StackState.removeSession, hsession]
  cases hindex : st.sessionOfSocket socket with
  | none => exact h.released_absent hsocket (sessionOfSocket_eq_none.mp hindex) hreleased
  | some i =>
      exact (h.freed (sessionOfSocket_eq_some hindex) hsocket hreleased).aloof
        (closeClass3_reserved cfg _ _).aloof

theorem unregisterSession (h : st.Tabled size) (cfg : Config) (sessionHandle : UInt32) :
    Outcome (· ≠ .endlessTimerLoop) (Tabled size) (st.unregisterSession cfg sessionHandle) := by
  rw [StackState.unregisterSession]
  split
  · rename_i hregistered
    simp only [checkRegisteredSessions, Bool.and_eq_true, decide_eq_true_eq] at hregistered
    obtain ⟨-, hsocket⟩ := hregistered
    obtain ⟨st₁, hclose, hreleased⟩ := closeTcpSocket_released hsocket st
    simp only [hclose]
    exact (h.freed (getElem?_of_getD_ne hsocket) hsocket hreleased).aloof
      (closeClass3_reserved cfg _ _).aloof
  · exact h

theorem disconnect (h : st.Tabled size) (cfg : Config) {socket : Int}
    (hsocket : socket ≠ eipInvalidSocket) {st₁ : StackState}
    (hclose : st.closeTcpSocket socket = .ok st₁) :
    Outcome (· ≠ .endlessTimerLoop) (Tabled size) (st₁.removeSession cfg socket) := by
  obtain ⟨st₂, hclose₂, hreleased⟩ := closeTcpSocket_released hsocket st
  rw [hclose, Except.ok.injEq] at hclose₂
  exact h.removeSession cfg hsocket (hclose₂ ▸ hreleased)

theorem checkEncapsulationInactivity (h : st.Tabled size) (cfg : Config) (env : Environment)
    {socket : Int} (hsocket : socket ≠ eipInvalidSocket) :
    Outcome (· ≠ .endlessTimerLoop) (Tabled size)
      (st.checkEncapsulationInactivity cfg env socket) := by
  rw [StackState.checkEncapsulationInactivity]
  split
  · split
    · exact h
    · split
      · have hclass3 := h.aloof (closeClass3_reserved cfg (UInt32.ofNat
          ((st.sessionOfSocket socket).getD cfg.numberOfSupportedSessions)) st).aloof
        simp only
        generalize st.closeClass3ConnectionBasedOnSession cfg (UInt32.ofNat
          ((st.sessionOfSocket socket).getD cfg.numberOfSupportedSessions)) = result
          at hclass3 ⊢
        cases result with
        | error fault => exact hclass3
        | ok st₁ =>
            obtain ⟨st₂, hclose, -⟩ := closeTcpSocket_released hsocket st₁
            simp only [hclose]
            exact Tabled.disconnect hclass3 cfg hsocket hclose
      · exact h
  · exact h

theorem handleClosedTcpSocket (h : st.Tabled size) (cfg : Config) {socket : Int}
    (hsocket : socket ≠ eipInvalidSocket) :
    Outcome (· ≠ .endlessTimerLoop) (Tabled size) (st.handleClosedTcpSocket cfg socket) := by
  obtain ⟨st₁, hremove, hreleased⟩ := removeSocketTimerFromList_released hsocket st
  have hsession := h.removeSession cfg hsocket hreleased
  simp only [StackState.handleClosedTcpSocket, hremove]
  generalize st₁.removeSession cfg socket = result at hsession ⊢
  cases result with
  | error fault => exact hsession
  | ok st₂ =>
      obtain ⟨st₃, hclose, -⟩ := closeTcpSocket_released hsocket st₂
      simp only [hclose]
      exact Tabled.disconnect hsession cfg hsocket hclose

theorem shutDownSessions (h : st.Tabled size) (indices : List Nat) :
    Outcome (· ≠ .endlessTimerLoop) (Tabled size) (shutDownSessions indices st) := by
  induction indices generalizing st with
  | nil => exact h
  | cons i indices ih =>
      simp only [StackState.shutDownSessions]
      split
      · rename_i hsocket
        obtain ⟨st₁, hclose, hreleased⟩ := closeTcpSocket_released hsocket st
        simp only [hclose]
        exact ih (h.freed (getElem?_of_getD_ne hsocket) hsocket hreleased)
      · exact ih h

/-- A new session takes a free slot of both tables; a free session slot comes with
a free timer. -/
theorem registerSession (h : st.Tabled size) (env : Environment) {socket : Int}
    (hsocket : socket ≠ eipInvalidSocket) :
    Outcome (· ≠ .endlessTimerLoop) (Tabled size) (st.registerSession env socket) := by
  rw [StackState.registerSession]
  split
  · exact h
  · rename_i hnone
    split
    · exact h
    · rename_i index hindex
      split
      · exact Fault.noConfusion
      · rename_i timer htimer
        obtain ⟨hlt, hempty, -⟩ := List.findIdx?_eq_some_iff_getElem.mp htimer
        have hfree : st.socketTimers[timer]? = some eipInvalidSocket := by
          rw [socketTimers, List.getElem?_map, List.getElem?_eq_getElem hlt]
          exact congrArg some (of_decide_eq_true hempty)
        have hfill := h.paired.fill (sessionOfSocket_eq_some hindex) hfree hsocket
          (sessionOfSocket_eq_none.mp hnone)
        refine ⟨?_, ?_⟩
        · change SlotTable.Paired _ _ ((st.timestamps.set timer _).map _)
          rw [List.map_set]
          exact hfill
        · change (st.registeredSessions.set index socket).length = size
          rw [List.length_set]
          exact h.length

theorem setLastUpdate (h : st.Tabled size) (env : Environment) (timer : Nat) :
    (st.setLastUpdate env timer).Tabled size := by
  have htimers : (st.setLastUpdate env timer).socketTimers = st.socketTimers := by
    refine List.ext_getElem? fun i => ?_
    simp only [socketTimers, StackState.setLastUpdate, List.getElem?_map, List.getElem?_modify]
    cases st.timestamps[i]? with
    | none => rfl
    | some t =>
        simp only [Option.map_eq_map, Option.map_some]
        split
        · rfl
        · rfl
  refine ⟨?_, h.length⟩
  rw [htimers]
  exact h.paired

end Tabled

/-- The sockets that a step is called with are valid, and `RemoveSession` on its own
comes after the timers of the socket were cleared, as from every caller. -/
def callsWithSocket (label : Environment × Action) (st : StackState) : Bool :=
  match label.2 with
  | .registerSession socket | .closeSession socket | .disconnect socket
  | .checkEncapsulationInactivity socket | .handleClosedTcpSocket socket =>
      socket ≠ eipInvalidSocket
  | .removeSession socket =>
      socket ≠ eipInvalidSocket && st.timestamps.all fun t => t.socket ≠ socket
  | _ => true

theorem removeSession_without_timer (h : st.Tabled size) {socket : Int}
    (hsocket : socket ≠ eipInvalidSocket) (htimers : ∀ t ∈ st.timestamps, t.socket ≠ socket) :
    st.removeSession cfg socket = .ok st := by
  have habsent : socket ∉ st.registeredSessions := by
    intro hmem
    obtain ⟨t, ht, heq⟩ := List.mem_map.mp ((h.paired.mem_iff hsocket).mpr hmem)
    exact htimers t ht heq
  rw [removeSession, sessionOfSocket_eq_none.mpr habsent]

/-- Apart from a tick no step ends in the loop over the timers, and the tables stay
paired. -/
theorem Tabled.step (h : st.Tabled size) (cfg : Config) {label : Environment × Action}
    (hcalls : callsWithSocket label st = true)
    (htick : ∀ elapsedTime, label.2 ≠ .manageConnections elapsedTime) :
    Outcome (· ≠ .endlessTimerLoop) (Tabled size) (st.step cfg label) := by
  obtain ⟨env, action⟩ := label
  cases action with
  | manageConnections elapsedTime => exact absurd rfl (htick elapsedTime)
  | registerSession socket => exact h.registerSession env (of_decide_eq_true hcalls)
  | unregisterSession sessionHandle => exact h.unregisterSession cfg sessionHandle
  | closeSession socket => exact h.closeSession cfg (of_decide_eq_true hcalls)
  | removeSession socket =>
      simp only [callsWithSocket, Bool.and_eq_true, decide_eq_true_eq, List.all_eq_true]
        at hcalls
      rw [StackState.step, removeSession_without_timer h hcalls.1 hcalls.2]
      exact h
  | disconnect socket =>
      obtain ⟨st₁, hclose, -⟩ := closeTcpSocket_released (of_decide_eq_true hcalls) st
      simp only [StackState.step, hclose]
      exact h.disconnect cfg (of_decide_eq_true hcalls) hclose
  | checkEncapsulationInactivity socket =>
      exact h.checkEncapsulationInactivity cfg env (of_decide_eq_true hcalls)
  | handleClosedTcpSocket socket =>
      exact h.handleClosedTcpSocket cfg (of_decide_eq_true hcalls)
  | setLastUpdate timer => exact h.setLastUpdate env timer
  | encapsulationShutDown => exact h.shutDownSessions _
  | sendRRData _ _ _ | sendUnitData _ _ _ | triggerConnections _ _
  | checkAndHandleConsumingUdpSocket | closeAllConnections | writeAssemblies _ =>
      exact h.aloof (step_aloof cfg rfl st)

/-- Closing the invalid socket of a free session would not come back. -/
theorem closeTcpSocket_invalid (h : st.Tabled size)
    (hfree : eipInvalidSocket ∈ st.registeredSessions) :
    st.closeTcpSocket eipInvalidSocket = .error .endlessTimerLoop := by
  obtain ⟨t, ht, hempty⟩ := List.mem_map.mp (h.paired.blank_mem.mpr hfree)
  have hany : st.timestamps.any (fun t => t.socket = eipInvalidSocket) = true :=
    List.any_eq_true.mpr ⟨t, ht, decide_eq_true hempty⟩
  rw [closeTcpSocket, removeSocketTimerFromList, if_pos ⟨rfl, hany⟩]

theorem Tabled.closeSessionBySessionHandle (h : st.Tabled size) {c : CipConnectionObject}
    {st' : StackState} (hcall : st.closeSessionBySessionHandle c = .ok st') :
    st'.Tabled size := by
  simp only [StackState.closeSessionBySessionHandle] at hcall
  split at hcall
  · cases hcall
  · rename_i socket hsession
    by_cases hsocket : socket = eipInvalidSocket
    · subst hsocket
      rw [closeTcpSocket_invalid h (List.mem_of_getElem? hsession)] at hcall
      cases hcall
    · obtain ⟨st₁, hclose, hreleased⟩ := closeTcpSocket_released hsocket st
      simp only [hclose, Except.ok.injEq] at hcall
      exact hcall ▸ h.freed hsession hsocket hreleased

theorem tickInvariant_tabled (cfg : Config) (env : Environment) :
    TickInvariant cfg env (fun _ => True) (fun _ => True) (fun _ => True) fun st =>
      st.Sound cfg ∧ st.Tabled cfg.numberOfSupportedSessions := by
  refine ⟨fun st hP => hP.1, ?_, ?_, ?_⟩
  · rintro st st' ⟨-, htabled⟩ hsound hkept -
    exact ⟨hsound, htabled.kept hkept.toSessionsKept⟩
  · rintro st socket ⟨hsound, htabled⟩ - hsocket
    have hclose := htabled.closeSession cfg hsocket
    cases hcall : st.closeSession cfg socket with
    | error fault => trivial
    | ok st' =>
        rw [hcall] at hclose
        obtain ⟨ns, hlisted⟩ := hsound.wellFormed
        obtain ⟨ns', hdiscarded⟩ := closeSession_discarded hlisted hsound.regular hcall
        exact ⟨hdiscarded.calm.sound hsound, hclose⟩
  · rintro st r ⟨hsound, htabled⟩ - hr hio
    cases hcall : st.class3ConnectionTimeoutHandler cfg r with
    | error fault => trivial
    | ok st' =>
        obtain ⟨ns, hlisted⟩ := hsound.wellFormed
        obtain ⟨ns', hdiscarded, -⟩ := class3Timeout_discarded hlisted hr hio hcall
        refine ⟨hdiscarded.calm.sound hsound, ?_⟩
        simp only [class3ConnectionTimeoutHandler] at hcall
        split at hcall
        · cases hcall
        · rename_i st₁ hcheck
          cases hcall
          refine Tabled.kept ?_ (closeConnection_untouched cfg r st₁).toSessionsKept
          simp only [checkForTimedOutConnectionsAndCloseTCPConnections] at hcheck
          split at hcheck
          · cases hcheck
            exact htabled
          · exact htabled.closeSessionBySessionHandle hcheck

/-- Every step keeps the tables paired. -/
theorem tabled_step {label : Environment × Action} {st' : StackState} (hsound : st.Sound cfg)
    (htabled : st.Tabled cfg.numberOfSupportedSessions)
    (hcalls : callsWithSocket label st = true) (hstep : st.step cfg label = .ok st') :
    st'.Sound cfg ∧ st'.Tabled cfg.numberOfSupportedSessions := by
  obtain ⟨env, action⟩ := label
  refine ⟨(step_spec hsound hstep).1, ?_⟩
  by_cases htick : ∃ elapsedTime, action = .manageConnections elapsedTime
  · obtain ⟨elapsedTime, rfl⟩ := htick
    have houtcome := (tickInvariant_tabled cfg env).manageConnections ⟨hsound, htabled⟩
      elapsedTime (fun _ _ => trivial) fun _ _ _ => ⟨fun _ => trivial, fun _ => trivial⟩
    rw [show st.manageConnections cfg env elapsedTime = .ok st' from hstep] at houtcome
    exact houtcome.2
  · have houtcome := htabled.step cfg hcalls fun elapsedTime heq =>
      htick ⟨elapsedTime, heq⟩
    rw [hstep] at houtcome
    exact houtcome

/-- Every state of such a run has paired tables. -/
theorem tabled_of_reaches {assemblyData : UInt16 → List UInt8}
    (h : Runs.Reaches (step cfg) (fun label st => callsWithSocket label st = true)
      (initialState cfg assemblyData) st) :
    st.Sound cfg ∧ st.Tabled cfg.numberOfSupportedSessions := by
  refine h.invariant
    (fun st => st.Sound cfg ∧ st.Tabled cfg.numberOfSupportedSessions)
    ⟨sound_initialState cfg assemblyData, tabled_initialState cfg assemblyData⟩ ?_
  rintro label s s' ⟨hsound, htabled⟩ hcalls hstep
  exact tabled_step hsound htabled hcalls hstep

/-- What the two tables promise between messages. -/
theorem session_tables_agree {assemblyData : UInt16 → List UInt8}
    (h : Runs.Reaches (step cfg) (fun label st => callsWithSocket label st = true)
      (initialState cfg assemblyData) st) :
    (st.registeredSessions.filter fun socket => socket ≠ eipInvalidSocket).Nodup ∧
      (∀ socket, socket ≠ eipInvalidSocket →
        (socket ∈ st.socketTimers ↔ socket ∈ st.registeredSessions)) ∧
      (∀ socket ∈ st.registeredSessions, socket ≠ eipInvalidSocket →
        st.socketTimers.count socket = 1) ∧
      (∀ index, st.sessionOfSocket eipInvalidSocket = some index →
        ∃ timer, (st.timestamps.findIdx? fun t => t.socket = eipInvalidSocket) = some timer) ∧
      ∀ env protocolVersion optionFlag socket index, socket ≠ eipInvalidSocket →
        st.sessionOfSocket socket = some index →
        (0 < protocolVersion ∧ protocolVersion ≤ 1) ∧ optionFlag = 0 →
          st.handleReceivedRegisterSessionCommand env protocolVersion optionFlag socket =
            .ok ((UInt32.ofNat (index + 1), EncapsulationStatus.invalidCommand), st) := by
  obtain ⟨-, htabled⟩ := tabled_of_reaches h
  refine ⟨htabled.paired.nodup, fun socket hsocket => htabled.paired.mem_iff hsocket,
    fun socket hmem hsocket => htabled.paired.count_eq_one hsocket hmem, ?_, ?_⟩
  · intro index hindex
    have hfree := List.mem_of_getElem? (sessionOfSocket_eq_some hindex)
    obtain ⟨t, ht, hempty⟩ := List.mem_map.mp (htabled.paired.blank_mem.mpr hfree)
    refine Option.ne_none_iff_exists'.mp fun hnone => ?_
    have hfull := List.findIdx?_eq_none_iff.mp hnone t ht
    exact of_decide_eq_false hfull hempty
  · intro env protocolVersion optionFlag socket index _ hindex hsupported
    rw [handleReceivedRegisterSessionCommand, if_pos hsupported, hindex]

open SampleApplication in
/-- A second client registers, the first one disconnects. -/
theorem session_tables_agree_sample :
    ∃ st, Runs.Reaches (step config) (fun label st => callsWithSocket label st = true)
        (initialState config SampleApplication.assemblyData) st ∧
      (st.sessionOfSocket eipInvalidSocket = some 0 ∧ st.sessionOfSocket 6 = some 1) ∧
      (st.registeredSessions.filter fun socket => socket ≠ eipInvalidSocket).Nodup ∧
      (∀ socket, socket ≠ eipInvalidSocket →
        (socket ∈ st.socketTimers ↔ socket ∈ st.registeredSessions)) ∧
      (∃ timer, (st.timestamps.findIdx? fun t => t.socket = eipInvalidSocket) = some timer) ∧
      st.handleReceivedRegisterSessionCommand {} 1 0 6 =
        .ok ((2, EncapsulationStatus.invalidCommand), st) := by
  obtain ⟨st, hreaches, hst⟩ := reaches_of_endsWithin config callsWithSocket
    [(environment 0 20, .registerSession 6), (environment 0 20, .disconnect 5)]
    (fun st => st.sessionOfSocket eipInvalidSocket = some 0 ∧ st.sessionOfSocket 6 = some 1)
    (by decide +kernel)
  have hst := of_decide_eq_true hst
  obtain ⟨hnodup, hmem, -, hfree, hagain⟩ := session_tables_agree hreaches
  exact ⟨st, hreaches, hst, hnodup, hmem, hfree 0 hst.1,
    hagain {} 1 0 6 1 (by decide) hst.2 (by decide)⟩

end StackState

end Opener
