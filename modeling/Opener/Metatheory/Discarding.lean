import Opener.Metatheory.Ticks

/-!
What closing sessions preserves. The session functions write the session table, the
socket timers and the set of open sockets, and close explicit connections one by
one. A property that is kept by such writes and by closing one explicit connection
is kept by all of them.
-/

namespace Opener

open LinkedCells

namespace StackState

/-- A property of sound states that closing sessions cannot break. -/
structure Endures (cfg : Config) (P : StackState → Prop) : Prop where
  sound : ∀ st, P st → st.Sound cfg
  sessions : ∀ st registeredSessions timestamps masterSocket, P st →
    P { st with
      registeredSessions := registeredSessions
      timestamps := timestamps
      masterSocket := masterSocket }
  explicit : ∀ st r, P st → r ∈ st.connectionList cfg → r.isIo = false →
    P (st.closeConnection cfg r)

/-- The close function of an explicit connection is `CloseConnection`. -/
theorem connectionCloseFunction_explicit {cfg : Config} {st : StackState}
    (hsound : st.Sound cfg) {r : ConnRef} (hr : r ∈ st.connectionList cfg)
    (hio : r.isIo = false) :
    st.connectionCloseFunction cfg r = .ok (st.closeConnection cfg r) := by
  have hclose := (hsound.regular.kind r hr).close
  rw [view_object, ConnRef.closeFunction, hio] at hclose
  rw [connectionCloseFunction, closeFunctionAt, hclose]
  rfl

theorem closeTcpSocket_store {st st' : StackState} {socket : Int}
    (hcall : st.closeTcpSocket socket = .ok st') : st'.store = st.store := by
  rw [closeTcpSocket, removeSocketTimerFromList] at hcall
  split at hcall
  · cases hcall
  · rename_i st₁ htimer
    split at htimer
    · cases htimer
    · cases htimer
      cases hcall
      rw [closeSocket]
      split
      · rfl
      · rfl

theorem closeSessionBySessionHandle_store {st st' : StackState} {c : CipConnectionObject}
    (hcall : st.closeSessionBySessionHandle c = .ok st') : st'.store = st.store := by
  simp only [closeSessionBySessionHandle] at hcall
  split at hcall
  · cases hcall
  · split at hcall
    · cases hcall
    · rename_i st₁ hclose
      cases hcall
      exact Eq.trans (show (st₁.clearSession _).store = st₁.store from rfl)
        (closeTcpSocket_store hclose)

namespace Endures

variable {cfg : Config} {P : StackState → Prop} (h : Endures cfg P)
variable {env : Environment} {st st' : StackState}
include h

theorem removeSocketTimerFromList (hP : P st) {socket : Int}
    (hcall : st.removeSocketTimerFromList socket = .ok st') : P st' := by
  rw [StackState.removeSocketTimerFromList] at hcall
  split at hcall
  · cases hcall
  · cases hcall
    exact h.sessions st _ _ _ hP

theorem closeTcpSocket (hP : P st) {socket : Int}
    (hcall : st.closeTcpSocket socket = .ok st') : P st' := by
  rw [StackState.closeTcpSocket] at hcall
  cases htimer : st.removeSocketTimerFromList socket with
  | error fault => simp [htimer] at hcall
  | ok st₁ =>
      simp only [htimer, Except.ok.injEq] at hcall
      have hP₁ := h.removeSocketTimerFromList hP htimer
      rw [← hcall, closeSocket]
      split
      · exact h.sessions st₁ _ _ _ hP₁
      · exact hP₁

theorem clearSession (hP : P st) (index : Nat) : P (st.clearSession index) :=
  h.sessions st _ _ _ hP

theorem closeClass3 (hP : P st) {sessionHandle : UInt32}
    (hcall : st.closeClass3ConnectionBasedOnSession cfg sessionHandle = .ok st') : P st' := by
  refine liveWalk_invariant P ?_ hP hcall
  intro s n r s' hs hdata hbody
  split at hbody
  · rename_i hsession
    have hsound := h.sound s hs
    obtain ⟨ns, hlisted⟩ := hsound.wellFormed
    have hr := hlisted.mem.mpr ⟨n, hlisted.mem_of_data hdata, hdata⟩
    have hio := (hsound.regular.kind r hr).explicit_of_class3 hsession.1
    rw [connectionCloseFunction_explicit hsound hr hio, Except.ok.injEq] at hbody
    exact hbody ▸ h.explicit s r hs hr hio
  · cases hbody
    exact hs

theorem closeSession (hP : P st) {socket : Int}
    (hcall : st.closeSession cfg socket = .ok st') : P st' := by
  rw [StackState.closeSession] at hcall
  split at hcall
  · cases hcall
    exact hP
  · split at hcall
    · cases hcall
    · rename_i hclose
      exact h.closeClass3 (h.clearSession (h.closeTcpSocket hP hclose) _) hcall

theorem removeSession (hP : P st) {socket : Int}
    (hcall : st.removeSession cfg socket = .ok st') : P st' := by
  rw [StackState.removeSession] at hcall
  split at hcall
  · cases hcall
    exact hP
  · exact h.closeClass3 (h.clearSession hP _) hcall

theorem closeSessionBySessionHandle (hP : P st) {c : CipConnectionObject}
    (hcall : st.closeSessionBySessionHandle c = .ok st') : P st' := by
  simp only [StackState.closeSessionBySessionHandle] at hcall
  split at hcall
  · cases hcall
  · split at hcall
    · cases hcall
    · rename_i hclose
      cases hcall
      exact h.clearSession (h.closeTcpSocket hP hclose) _

theorem closeSessionsOfPeer (hP : P st) {address : UInt32} {indices : List Nat}
    (hcall : st.closeSessionsOfPeer cfg env address indices = .ok st') : P st' := by
  induction indices generalizing st with
  | nil =>
      simp only [StackState.closeSessionsOfPeer, Except.ok.injEq] at hcall
      exact hcall ▸ hP
  | cons i indices ih =>
      simp only [StackState.closeSessionsOfPeer] at hcall
      split at hcall
      · split at hcall
        · cases hcall
        · rename_i hclose
          exact ih (h.closeSession hP hclose) hcall
      · exact ih hP hcall

/-- An explicit connection times out. Closing its session leaves the list alone. -/
theorem class3ConnectionTimeoutHandler (hP : P st) {r : ConnRef}
    (hr : r ∈ st.connectionList cfg) (hio : r.isIo = false)
    (hcall : st.class3ConnectionTimeoutHandler cfg r = .ok st') : P st' := by
  rw [StackState.class3ConnectionTimeoutHandler] at hcall
  split at hcall
  · cases hcall
  · rename_i st₁ hcheck
    cases hcall
    have hP₁ : P st₁ ∧ st₁.store = st.store := by
      simp only [checkForTimedOutConnectionsAndCloseTCPConnections] at hcheck
      split at hcheck
      · cases hcheck
        exact ⟨hP, rfl⟩
      · exact ⟨h.closeSessionBySessionHandle hP hcheck, closeSessionBySessionHandle_store hcheck⟩
    refine h.explicit st₁ r hP₁.1 ?_ hio
    rw [connectionList, hP₁.2]
    exact hr

theorem unregisterSession (hP : P st) {sessionHandle : UInt32}
    (hcall : st.unregisterSession cfg sessionHandle = .ok st') : P st' := by
  simp only [StackState.unregisterSession] at hcall
  split at hcall
  · split at hcall
    · cases hcall
    · rename_i hclose
      exact h.closeClass3 (h.clearSession (h.closeTcpSocket hP hclose) _) hcall
  · cases hcall
    exact hP

theorem checkEncapsulationInactivity (hP : P st) {socket : Int}
    (hcall : st.checkEncapsulationInactivity cfg env socket = .ok st') : P st' := by
  simp only [StackState.checkEncapsulationInactivity] at hcall
  split at hcall
  · split at hcall
    · cases hcall
      exact hP
    · split at hcall
      · split at hcall
        · cases hcall
        · rename_i hclass3
          split at hcall
          · cases hcall
          · rename_i hclose
            exact h.removeSession (h.closeTcpSocket (h.closeClass3 hP hclass3) hclose) hcall
      · cases hcall
        exact hP
  · cases hcall
    exact hP

theorem handleClosedTcpSocket (hP : P st) {socket : Int}
    (hcall : st.handleClosedTcpSocket cfg socket = .ok st') : P st' := by
  rw [StackState.handleClosedTcpSocket] at hcall
  split at hcall
  · cases hcall
  · rename_i st₁ htimer
    have hP₁ := h.removeSocketTimerFromList hP htimer
    split at hcall
    · cases hcall
    · rename_i st₂ hremove
      have hP₂ := h.removeSession hP₁ hremove
      split at hcall
      · cases hcall
      · rename_i hclose
        exact h.removeSession (h.closeTcpSocket hP₂ hclose) hcall

theorem shutDownSessions (hP : P st) {indices : List Nat}
    (hcall : st.shutDownSessions indices = .ok st') : P st' := by
  induction indices generalizing st with
  | nil =>
      simp only [StackState.shutDownSessions, Except.ok.injEq] at hcall
      exact hcall ▸ hP
  | cons i indices ih =>
      simp only [StackState.shutDownSessions] at hcall
      split at hcall
      · split at hcall
        · cases hcall
        · rename_i hclose
          exact ih (h.clearSession (h.closeTcpSocket hP hclose) i) hcall
      · exact ih hP hcall

end Endures

end StackState

end Opener
