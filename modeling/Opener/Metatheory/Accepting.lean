import Opener.Core.NetworkHandler
import Opener.Metatheory.SessionTable

/-!
New TCP clients. The assertion on an empty socket timer is about the timers of the
registered sessions, not about the accepted clients: it holds as long as one more
session could be registered.
-/

namespace Opener

namespace StackState

variable {cfg : Config} {st : StackState} {size : Nat}

/-- The number of sessions in use. -/
def sessionCount (st : StackState) : Nat :=
  (SlotTable.occupied eipInvalidSocket st.registeredSessions).length

/-- As for the steps of the stack; accepting a client is always allowed. -/
def networkCallsWithSocket (label : Environment × NetworkAction) (st : StackState) : Bool :=
  match label.2 with
  | .accept _ => true
  | .stack action => callsWithSocket (label.1, action) st

/-- `accept` changes the set of open sockets only. -/
theorem checkAndHandleTcpListenerSocket_eq {newSocket : Int} {st' : StackState}
    (h : st.checkAndHandleTcpListenerSocket newSocket = .ok st') :
    ∃ sockets, st' = { st with masterSocket := sockets } := by
  rw [checkAndHandleTcpListenerSocket] at h
  split at h
  · cases h
    exact ⟨st.masterSocket, rfl⟩
  · split at h
    · cases h
    · cases h
      exact ⟨newSocket :: st.masterSocket, rfl⟩

theorem tabled_networkStep {label : Environment × NetworkAction} {st' : StackState}
    (hsound : st.Sound cfg) (htabled : st.Tabled cfg.numberOfSupportedSessions)
    (hcalls : networkCallsWithSocket label st = true)
    (hstep : st.networkStep cfg label = .ok st') :
    st'.Sound cfg ∧ st'.Tabled cfg.numberOfSupportedSessions := by
  obtain ⟨env, action⟩ := label
  cases action with
  | accept newSocket =>
      obtain ⟨sockets, rfl⟩ := checkAndHandleTcpListenerSocket_eq hstep
      exact ⟨⟨hsound.wellFormed, hsound.regular, hsound.close, hsound.instances⟩,
        htabled.paired, htabled.length⟩
  | stack action => exact tabled_step hsound htabled hcalls hstep

theorem tabled_of_network_reaches {assemblyData : UInt16 → List UInt8}
    (h : Runs.Reaches (networkStep cfg)
      (fun label st => networkCallsWithSocket label st = true)
      (initialState cfg assemblyData) st) :
    st.Tabled cfg.numberOfSupportedSessions := by
  refine (h.invariant
    (fun st => st.Sound cfg ∧ st.Tabled cfg.numberOfSupportedSessions)
    ⟨sound_initialState cfg assemblyData, tabled_initialState cfg assemblyData⟩ ?_).2
  rintro label s s' ⟨hsound, htabled⟩ hcalls hstep
  exact tabled_networkStep hsound htabled hcalls hstep

theorem Tabled.getEmptySocketTimer_isSome (h : st.Tabled size) :
    st.getEmptySocketTimer.isSome ↔ st.sessionCount < size := by
  rw [sessionCount, ← h.length, ← SlotTable.blank_mem_iff, ← h.paired.blank_mem]
  rw [getEmptySocketTimer, List.findIdx?_isSome, List.any_eq_true, socketTimers, List.mem_map]
  simp only [decide_eq_true_eq]

/-- In every run the assertion holds for the next client exactly when fewer sessions
are registered than the tables have slots. -/
theorem accept_passes_iff_session_free {assemblyData : UInt16 → List UInt8}
    (h : Runs.Reaches (networkStep cfg)
      (fun label st => networkCallsWithSocket label st = true)
      (initialState cfg assemblyData) st) {newSocket : Int}
    (hsocket : newSocket ≠ eipInvalidSocket) :
    st.checkAndHandleTcpListenerSocket newSocket ≠ .error .assertionFailed ↔
      st.sessionCount < cfg.numberOfSupportedSessions := by
  have htabled := tabled_of_network_reaches h
  rw [← htabled.getEmptySocketTimer_isSome, checkAndHandleTcpListenerSocket, if_neg hsocket]
  cases st.getEmptySocketTimer with
  | none => simp
  | some timer => simp

/-- A client connects and registers a session. -/
def connectAndRegister (socket : Int) : List (Environment × NetworkAction) :=
  [({}, .accept socket), ({}, .stack (.registerSession socket))]

open SampleApplication in
/-- After one client has registered, the next one is accepted. -/
theorem accept_passes_after_one_client :
    ∃ st, Runs.Reaches (networkStep config)
        (fun label st => networkCallsWithSocket label st = true)
        (initialState config SampleApplication.assemblyData) st ∧
      st.sessionCount = 1 ∧
      st.checkAndHandleTcpListenerSocket 6 ≠ .error .assertionFailed := by
  obtain ⟨st, hreaches, hst⟩ := Runs.reaches_of_accepts (networkStep config)
    networkCallsWithSocket .assertionFailed (connectAndRegister 5)
    (initialState config SampleApplication.assemblyData) (fun st => st.sessionCount = 1)
    (by decide +kernel)
  have hst := of_decide_eq_true hst
  refine ⟨st, hreaches, hst, ?_⟩
  refine (accept_passes_iff_session_free hreaches (by decide)).mpr ?_
  rw [hst]
  decide

open SampleApplication in
/-- Twenty clients register; the twenty-first ends in the assertion. -/
theorem accept_fails_after_twenty_clients :
    ∃ st, Runs.Reaches (networkStep config)
        (fun label st => networkCallsWithSocket label st = true)
        (initialState config SampleApplication.assemblyData) st ∧
      st.checkAndHandleTcpListenerSocket 25 = .error .assertionFailed := by
  obtain ⟨st, hreaches, hst⟩ := Runs.reaches_of_accepts (networkStep config)
    networkCallsWithSocket .assertionFailed
    ((List.range 20).flatMap fun i => connectAndRegister (5 + i))
    (initialState config SampleApplication.assemblyData)
    (fun st => st.getEmptySocketTimer = none) (by decide +kernel)
  have hst := of_decide_eq_true hst
  refine ⟨st, hreaches, ?_⟩
  rw [checkAndHandleTcpListenerSocket, if_neg (by decide), hst]

end StackState

end Opener
