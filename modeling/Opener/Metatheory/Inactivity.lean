import Opener.Metatheory.SessionConnections
import Opener.Metatheory.SessionTable

/-!
`CheckEncapsulationInactivity`. The index that `GetSessionFromSocket` returns is
taken for a session handle, which is one more than the index, so the first class 3
connection to be closed is one of the session before the idle one.
-/

namespace Opener

namespace StackState

variable {cfg : Config} {env : Environment} {st : StackState}

theorem ofNat_succ_ne (index : Nat) : UInt32.ofNat (index + 1) ≠ UInt32.ofNat index := by
  intro heq
  have hmod := congrArg UInt32.toNat heq
  simp only [UInt32.toNat_ofNat'] at hmod
  omega

/-- The idle session and its class 3 connections are gone, and nothing of any other
session has changed. -/
structure ClosedIdle (cfg : Config) (socket : Int) (index : Nat) (st st' : StackState) :
    Prop where
  connections : ClosesSession cfg (UInt32.ofNat (index + 1)) st st'
  freed : st'.registeredSessions[index]? = some eipInvalidSocket
  sessions : ∀ j, j ≠ index → st'.registeredSessions[j]? = st.registeredSessions[j]?
  timers : ∀ (j : Nat) (t : SocketTimer), st.timestamps[j]? = some t → t.socket ≠ socket →
    st'.timestamps[j]? = some t

/-- The timer of the socket says that it was idle for long enough. -/
def idle (cfg : Config) (env : Environment) (socket : Int) (st : StackState) : Bool :=
  0 < cfg.encapsulationInactivityTimeout &&
    match st.timestamps.find? fun t => t.socket = socket with
    | none => false
    | some timer => env.actualTime - timer.lastUpdate ≥
        1000 * cfg.encapsulationInactivityTimeout.toUInt64

theorem closeTcpSocket_eq (st : StackState) {socket : Int}
    (hsocket : socket ≠ eipInvalidSocket) :
    st.closeTcpSocket socket =
      .ok (closeSocket { st with timestamps := timersWithout socket st.timestamps }
        socket) := by
  rw [closeTcpSocket, removeSocketTimerFromList, if_neg fun h => hsocket h.1]
  rfl

theorem ofSession_of_view {st' : StackState} (hview : st'.view cfg = st.view cfg)
    (sessionHandle : UInt32) : st'.ofSession sessionHandle = st.ofSession sessionHandle := by
  have hconn : st'.conn = st.conn := congrArg View.object hview
  funext r
  rw [ofSession, ofSession, hconn]

/-- The connections that the two calls of `CloseClass3ConnectionBasedOnSession`
close: the first of the index, then the first of the handle. -/
theorem checkEncapsulationInactivity_spec (hsound : st.Sound cfg) {socket : Int}
    {index : Nat} (hsocket : socket ≠ eipInvalidSocket)
    (hsession : st.sessionOfSocket socket = some index)
    (hidle : st.idle cfg env socket = true) :
    ∃ st₁ st' : StackState, st₁.view cfg = (st.view cfg).without (fun r =>
        (st.connectionList cfg).find? (st.ofSession (UInt32.ofNat index)) = some r) ∧
      st.checkEncapsulationInactivity cfg env socket = .ok st' ∧
      st'.view cfg = (st₁.view cfg).without (fun r =>
        (st₁.connectionList cfg).find? (st₁.ofSession (UInt32.ofNat (index + 1))) = some r) ∧
      st'.registeredSessions = st.registeredSessions.set index eipInvalidSocket ∧
      st'.timestamps = timersWithout socket st.timestamps := by
  obtain ⟨ns, hlisted⟩ := hsound.wellFormed
  obtain ⟨st₁, ns₁, hfirst, hshrunk₁⟩ :=
    closeClass3_spec hlisted hsound.regular (UInt32.ofNat index)
  have hkept₁ : SessionsKept st st₁ := by
    have haloof := (closeClass3_reserved cfg (UInt32.ofNat index) st).aloof
    rw [hfirst] at haloof
    exact haloof
  have hsound₁ := hshrunk₁.sound (hsound.regular.without _) hsound
  obtain ⟨ns₁, hlisted₁⟩ := hsound₁.wellFormed
  have hclose := closeTcpSocket_eq st₁ hsocket
  have hshrunk₂ := shrunk_closeTcpSocket hlisted₁ hclose
  have hkept₂ := closeSocket_untouched socket
    { st₁ with timestamps := timersWithout socket st₁.timestamps }
  generalize closeSocket { st₁ with timestamps := timersWithout socket st₁.timestamps }
    socket = st₂ at hclose hshrunk₂ hkept₂
  have hsessions₂ : st₂.registeredSessions = st.registeredSessions :=
    hkept₂.registeredSessions.trans hkept₁.registeredSessions
  have hshrunk₃ := shrunk_clearSession hshrunk₂.listed index
  rw [hshrunk₂.view_eq] at hshrunk₃
  have hregular₃ : Regular cfg ((st₂.clearSession index).view cfg) := by
    rw [hshrunk₃.view_eq]
    exact hsound₁.regular
  obtain ⟨st', ns', hsecond, hshrunk'⟩ :=
    closeClass3_spec hshrunk₃.listed hregular₃ (UInt32.ofNat (index + 1))
  have hkept' : SessionsKept (st₂.clearSession index) st' := by
    have haloof := (closeClass3_reserved cfg (UInt32.ofNat (index + 1))
      (st₂.clearSession index)).aloof
    rw [hsecond] at haloof
    exact haloof
  refine ⟨st₁, st', hshrunk₁.view_eq, ?_, ?_, ?_, ?_⟩
  · simp only [idle, Bool.and_eq_true, decide_eq_true_eq] at hidle
    rw [checkEncapsulationInactivity, if_pos hidle.1]
    cases htimer : st.timestamps.find? fun t => t.socket = socket with
    | none => simp [htimer] at hidle
    | some timer =>
        simp only [htimer] at hidle
        simp only [if_pos (of_decide_eq_true hidle.2), hsession, Option.getD_some, hfirst,
          hclose]
        rw [removeSession, sessionOfSocket, hsessions₂]
        rw [sessionOfSocket] at hsession
        rw [hsession]
        exact hsecond
  · have hlist : (st₂.clearSession index).connectionList cfg = st₁.connectionList cfg :=
      congrArg View.members hshrunk₃.view_eq
    rw [hshrunk'.view_eq, ofSession_of_view hshrunk₃.view_eq, hlist, hshrunk₃.view_eq]
  · rw [hkept'.registeredSessions, clearSession, hsessions₂]
  · rw [hkept'.timestamps, clearSession, hkept₂.timestamps, hkept₁.timestamps]

theorem session_of_idle {size : Nat} (htabled : st.Tabled size) {socket : Int}
    (hsocket : socket ≠ eipInvalidSocket) (hidle : st.idle cfg env socket = true) :
    ∃ index, st.sessionOfSocket socket = some index := by
  simp only [idle, Bool.and_eq_true] at hidle
  refine Option.ne_none_iff_exists'.mp fun hnone => ?_
  cases htimer : st.timestamps.find? fun t => t.socket = socket with
  | none => simp [htimer] at hidle
  | some timer =>
      have hmem : socket ∈ st.socketTimers :=
        List.mem_map.mpr ⟨timer, List.mem_of_find?_eq_some htimer,
          by simpa using List.find?_some htimer⟩
      exact sessionOfSocket_eq_none.mp hnone ((htabled.paired.mem_iff hsocket).mp hmem)

/-- An idle session is closed on its own exactly when no class 3 connection carries
its index as the handle and at most one carries its handle. -/
theorem idle_session_closed_iff {assemblyData : UInt16 → List UInt8}
    (h : Runs.Reaches (step cfg) (fun label st => callsWithSocket label st = true)
      (initialState cfg assemblyData) st) {socket : Int} (hsocket : socket ≠ eipInvalidSocket)
    (hidle : st.idle cfg env socket = true) :
    ∃ index st', st.sessionOfSocket socket = some index ∧
      st.checkEncapsulationInactivity cfg env socket = .ok st' ∧
      (ClosedIdle cfg socket index st st' ↔
        (∀ r ∈ st.connectionList cfg, st.ofSession (UInt32.ofNat index) r = false) ∧
          ((st.connectionList cfg).filter
            (st.ofSession (UInt32.ofNat (index + 1)))).length ≤ 1) := by
  obtain ⟨hsound, htabled⟩ := tabled_of_reaches h
  obtain ⟨index, hsession⟩ := session_of_idle htabled hsocket hidle
  obtain ⟨st₁, st', hview₁, hcall, hview', hsessions, htimers⟩ :=
    checkEncapsulationInactivity_spec hsound hsocket hsession hidle
  have hnodup : (st.connectionList cfg).Nodup := hsound.regular.nodup
  have hunmatched : (∀ r ∈ st.connectionList cfg, st.ofSession (UInt32.ofNat index) r = false) →
      st'.view cfg = (st.view cfg).without fun r =>
        (st.connectionList cfg).find? (st.ofSession (UInt32.ofNat (index + 1))) = some r := by
    intro hnone
    have hfind : (st.connectionList cfg).find? (st.ofSession (UInt32.ofNat index)) = none :=
      List.find?_eq_none.mpr fun r hr => by simp [hnone r hr]
    rw [hfind, View.without_none (st.view cfg) fun r => decide_eq_false nofun] at hview₁
    have hlist : st₁.connectionList cfg = st.connectionList cfg := congrArg View.members hview₁
    rw [hview', ofSession_of_view hview₁, hlist, hview₁]
  refine ⟨index, st', hsession, hcall, ?_, ?_⟩
  · intro hclosed
    have hnone : ∀ r ∈ st.connectionList cfg,
        st.ofSession (UInt32.ofNat index) r = false := by
      cases hfind : (st.connectionList cfg).find? (st.ofSession (UInt32.ofNat index)) with
      | none => exact fun r hr => by simpa using List.find?_eq_none.mp hfind r hr
      | some r =>
          have hother : st.ofSession (UInt32.ofNat (index + 1)) r = false := by
            have hsession := List.find?_some hfind
            simp only [ofSession, Bool.and_eq_true, decide_eq_true_eq] at hsession
            rw [ofSession, hsession.2, decide_eq_false (ofNat_succ_ne index).symm, Bool.and_false]
          have hkept : r ∈ st'.connectionList cfg := by
            rw [hclosed.connections.1]
            refine List.mem_filter.mpr ⟨List.mem_of_find?_eq_some hfind, ?_⟩
            rw [hother]
            rfl
          rw [← view_members, hview'] at hkept
          have hkept₁ := ((st₁.view cfg).mem_without.mp hkept).1
          rw [hview₁] at hkept₁
          have hdropped := ((st.view cfg).mem_without.mp hkept₁).2
          exact absurd hfind (of_decide_eq_false hdropped)
    refine ⟨hnone, (filter_find?_eq_iff hnodup _).mp ?_⟩
    exact (congrArg View.members (hunmatched hnone)).symm.trans hclosed.connections.1
  · rintro ⟨hnone, hone⟩
    have hview := hunmatched hnone
    have hmembers := congrArg View.members hview
    refine ⟨⟨hmembers.trans ((filter_find?_eq_iff hnodup _).mpr hone), ?_⟩, ?_, ?_, ?_⟩
    · intro r hr
      rw [← view_members, hview] at hr
      rw [← view_object cfg, hview, View.without_object, ((st.view cfg).mem_without.mp hr).2]
      rfl
    · have hlt := (List.getElem?_eq_some_iff.mp (sessionOfSocket_eq_some hsession)).1
      rw [hsessions, List.getElem?_set_self hlt]
    · intro j hj
      rw [hsessions, List.getElem?_set_ne (Ne.symm hj)]
    · intro j t ht hother
      rw [htimers, timersWithout, List.getElem?_map, ht, Option.map_some, if_neg hother]

open SampleApplication in
/-- The only class 3 connection is that of the idle session. -/
theorem idle_session_closed_sample :
    ∃ st, Runs.Reaches (step config) (fun label st => callsWithSocket label st = true)
        (initialState config SampleApplication.assemblyData) st ∧
      st.idle config { actualTime := 120000 } 5 = true ∧
      ∃ st', st.checkEncapsulationInactivity config { actualTime := 120000 } 5 = .ok st' ∧
        ClosedIdle config 5 0 st st' := by
  obtain ⟨st, hreaches, hst⟩ := reaches_of_endsWithin config callsWithSocket
    [(environment 0 20, .registerSession 6), request (class3 1 1)]
    (fun st => st.idle config { actualTime := 120000 } 5 = true ∧
      st.sessionOfSocket 5 = some 0 ∧
      (∀ r ∈ st.connectionList config, st.ofSession (UInt32.ofNat 0) r = false) ∧
        ((st.connectionList config).filter (st.ofSession (UInt32.ofNat (0 + 1)))).length ≤ 1)
    (by decide +kernel)
  obtain ⟨hidle, hsession, hcondition⟩ := of_decide_eq_true hst
  obtain ⟨index, st', hindex, hcall, hiff⟩ :=
    idle_session_closed_iff hreaches (by decide : (5 : Int) ≠ eipInvalidSocket) hidle
  rw [hsession, Option.some.injEq] at hindex
  subst hindex
  exact ⟨st, hreaches, hidle, st', hcall, hiff.mpr hcondition⟩

open SampleApplication in
/-- The second client goes idle and the class 3 connection of the first is closed. -/
theorem idle_session_closes_other_sample :
    ∃ st, Runs.Reaches (step config) (fun label st => callsWithSocket label st = true)
        (initialState config SampleApplication.assemblyData) st ∧
      st.idle config { actualTime := 120000 } 6 = true ∧ st.sessionOfSocket 6 = some 1 ∧
      ∃ st', st.checkEncapsulationInactivity config { actualTime := 120000 } 6 = .ok st' ∧
        ((.explicit 0 ∈ st.connectionList config ∧
          (st.conn (.explicit 0)).transportClass = .class3 ∧
          (st.conn (.explicit 0)).associatedEncapsulationSession = 1) ∧
          .explicit 0 ∉ st'.connectionList config) ∧
        ¬ClosedIdle config 6 1 st st' := by
  obtain ⟨st, hreaches, hst⟩ := reaches_of_endsWithin config callsWithSocket
    [(environment 0 20, .registerSession 6), request (class3 1 1)]
    (fun st => ((st.idle config { actualTime := 120000 } 6 = true ∧
        st.sessionOfSocket 6 = some 1) ∧
      (.explicit 0 ∈ st.connectionList config ∧
        (st.conn (.explicit 0)).transportClass = .class3 ∧
        (st.conn (.explicit 0)).associatedEncapsulationSession = 1)) &&
      returns (st.checkEncapsulationInactivity config { actualTime := 120000 } 6)
        fun st' => .explicit 0 ∉ st'.connectionList config)
    (by decide +kernel)
  rw [Bool.and_eq_true, returns_iff] at hst
  obtain ⟨hst, st', hcall, hgone⟩ := hst
  obtain ⟨⟨hidle, hsession⟩, hclass3⟩ := of_decide_eq_true hst
  rw [decide_eq_true_eq] at hgone
  refine ⟨st, hreaches, hidle, hsession, st', hcall, ⟨hclass3, hgone⟩, ?_⟩
  intro hclosed
  refine hgone ?_
  rw [hclosed.connections.1]
  refine List.mem_filter.mpr ⟨hclass3.1, ?_⟩
  simp [ofSession, hclass3.2.2]

end StackState

end Opener
