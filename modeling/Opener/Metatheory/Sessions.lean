import Opener.Metatheory.Moves

/-!
Closing sessions. The loop of `CloseClass3ConnectionBasedOnSession` fetches the
next node from the node it has just freed, so it closes the first connection of
the session and stops. Whatever closes sessions therefore only discards class 3
connections.
-/

namespace Opener

open LinkedCells

namespace StackState

variable {cfg : Config} {st : StackState} {ns : List Nat}

/-- The connections that `CloseClass3ConnectionBasedOnSession` looks for. -/
def ofSession (st : StackState) (sessionHandle : UInt32) (r : ConnRef) : Bool :=
  (st.conn r).transportClass = .class3 &&
    (st.conn r).associatedEncapsulationSession = sessionHandle

/-- Class 3 connections were discarded and nothing else. -/
def Discarded (cfg : Config) (st : StackState) (ns : List Nat) (st' : StackState)
    (ns' : List Nat) : Prop :=
  ∃ dropped : ConnRef → Bool,
    (∀ r, dropped r = true → r ∈ st.connectionList cfg ∧ r.isIo = false) ∧
      Shrunk cfg st ns ((st.view cfg).without dropped) st' ns'

theorem Discarded.of_shrunk {st' : StackState} {ns' : List Nat}
    (h : Shrunk cfg st ns (st.view cfg) st' ns') : Discarded cfg st ns st' ns' := by
  refine ⟨fun _ => false, fun _ hr => absurd hr (by simp), ?_⟩
  rw [View.without_none _ fun _ => rfl]
  exact h

theorem Discarded.refl (h : st.Listed cfg ns) : Discarded cfg st ns st ns :=
  .of_shrunk ⟨h, DoublyLinkedList.Trimmed.refl _ ns, rfl, Frame.refl st⟩

theorem Discarded.trans {st₂ st₃ : StackState} {ns₂ ns₃ : List Nat}
    (h : Discarded cfg st ns st₂ ns₂) (h' : Discarded cfg st₂ ns₂ st₃ ns₃) :
    Discarded cfg st ns st₃ ns₃ := by
  obtain ⟨d₁, hd₁, hs₁⟩ := h
  obtain ⟨d₂, hd₂, hs₂⟩ := h'
  have hlist : st₂.connectionList cfg =
      (st.connectionList cfg).filter fun r => !d₁ r := by
    rw [← view_members, hs₁.view_eq]
    rfl
  refine ⟨fun r => d₁ r || d₂ r, ?_, ?_⟩
  · intro r hr
    rcases Bool.or_eq_true_iff.mp hr with hr | hr
    · exact hd₁ r hr
    · obtain ⟨hmem, hio⟩ := hd₂ r hr
      rw [hlist] at hmem
      exact ⟨(List.mem_filter.mp hmem).1, hio⟩
  · rw [hs₁.view_eq, View.without_without] at hs₂
    exact hs₁.trans hs₂

/-- The variables outside the store may change freely here. -/
theorem shrunk_of_store_eq (h : st.Listed cfg ns) {st' : StackState}
    (hstore : st'.store = st.store) (hevents : st'.events = st.events)
    (hid : st'.connectionId = st.connectionId) (hframe : Frame st st') :
    Shrunk cfg st ns (st.view cfg) st' ns := by
  refine ⟨?_, ?_, ?_, hframe⟩
  · unfold Listed
    rw [hstore]
    exact h
  · unfold Trimmed
    rw [hstore]
    exact DoublyLinkedList.Trimmed.refl _ ns
  · unfold view connectionList conn
    rw [hstore, hevents, hid]

/-- From a node on, the first connection of the session is closed. -/
theorem closeClass3_walk (sessionHandle : UInt32) {suf : List Nat} (pre : List Nat)
    (h : st.Listed cfg ns) (hregular : Regular cfg (st.view cfg)) (hns : ns = pre ++ suf)
    {fuel : Nat} (hfuel : suf.length ≤ fuel) :
    ∃ st' ns', liveWalk nodes .freedNode .nonTermination
        (fun r s =>
          if (s.conn r).transportClass = .class3 ∧
              (s.conn r).associatedEncapsulationSession = sessionHandle then
            s.connectionCloseFunction cfg r
          else .ok s) fuel suf.head? st = .ok st' ∧
      Shrunk cfg st ns ((st.view cfg).without fun r =>
        (contents st.nodes suf).find? (st.ofSession sessionHandle) = some r) st' ns' := by
  induction suf generalizing pre fuel with
  | nil =>
      refine ⟨st, ns, by cases fuel <;> rfl, h, DoublyLinkedList.Trimmed.refl _ ns, ?_,
        Frame.refl st⟩
      rw [View.without_none]
      intro r
      simp [contents]
  | cons n suf ih =>
      obtain ⟨fuel, rfl⟩ : ∃ k, fuel = k + 1 := ⟨fuel - 1, by simp at hfuel; omega⟩
      have hn : n ∈ ns := by rw [hns]; simp
      obtain ⟨r, hr, hlist⟩ := h.data hn
      rw [contents_cons hr]
      simp only [List.head?_cons, liveWalk, hr]
      cases hmatch : st.ofSession sessionHandle r with
      | true =>
          have hcond : (st.conn r).transportClass = .class3 ∧
              (st.conn r).associatedEncapsulationSession = sessionHandle := by
            simpa [ofSession] using hmatch
          have hio := (hregular.kind r hlist).explicit_of_class3 hcond.1
          obtain ⟨st', ns', hclose, hshrunk⟩ :=
            connectionCloseFunction_ok h hregular.closable hlist
          rw [hregular.closed_explicit hlist hio] at hshrunk
          rw [if_pos hcond, hclose]
          have hns' : ns' = pre ++ suf := hshrunk.nodes_without h hns hr rfl
          have hfreed : st'.nodes n = {} := by
            refine hshrunk.listed.links.free n ?_
            have hnodup : (pre ++ n :: suf).Nodup := hns ▸ h.links.nodup
            rw [hns']
            exact (List.nodup_cons.mp (List.nodup_middle.mp hnodup)).1
          refine ⟨st', ns', ?_, ?_⟩
          · simp only [hfreed]
            cases fuel <;> rfl
          · rw [List.find?_cons_of_pos hmatch]
            have hcongr : (st.view cfg).without (fun s => decide (some r = some s)) =
                (st.view cfg).without (· = r) :=
              View.without_congr _ fun s => by simp [eq_comm]
            rwa [hcongr]
      | false =>
          have hcond : ¬((st.conn r).transportClass = .class3 ∧
              (st.conn r).associatedEncapsulationSession = sessionHandle) := by
            simpa [ofSession] using hmatch
          have hnext : (st.nodes n).next = suf.head? := h.links.next_eq hns
          rw [if_neg hcond]
          simp only [hnext]
          rw [List.find?_cons_of_neg (by simp [hmatch])]
          exact ih (pre ++ [n]) (by simp [hns]) (by simpa using hfuel)

/-- `CloseClass3ConnectionBasedOnSession` closes the first connection of the
session, if there is one, and always returns. -/
theorem closeClass3_spec (h : st.Listed cfg ns) (hregular : Regular cfg (st.view cfg))
    (sessionHandle : UInt32) :
    ∃ st' ns', st.closeClass3ConnectionBasedOnSession cfg sessionHandle = .ok st' ∧
      Shrunk cfg st ns ((st.view cfg).without fun r =>
        (st.connectionList cfg).find? (st.ofSession sessionHandle) = some r) st' ns' := by
  obtain ⟨st', ns', hwalk, hshrunk⟩ :=
    closeClass3_walk sessionHandle [] h hregular rfl h.length_le
  refine ⟨st', ns', ?_, ?_⟩
  · rw [closeClass3ConnectionBasedOnSession, h.links.first_eq]
    exact hwalk
  · have hmembers : contents st.nodes ns = st.connectionList cfg := h.members_eq.symm
    rwa [hmembers] at hshrunk

theorem closeClass3_discarded (h : st.Listed cfg ns) (hregular : Regular cfg (st.view cfg))
    {sessionHandle : UInt32} {st' : StackState}
    (hcall : st.closeClass3ConnectionBasedOnSession cfg sessionHandle = .ok st') :
    ∃ ns', Discarded cfg st ns st' ns' := by
  obtain ⟨st₁, ns', hok, hshrunk⟩ := closeClass3_spec h hregular sessionHandle
  rw [hcall, Except.ok.injEq] at hok
  subst hok
  refine ⟨ns', _, ?_, hshrunk⟩
  intro r hr
  have hfind := of_decide_eq_true hr
  have hmem := List.mem_of_find?_eq_some hfind
  have hsession := List.find?_some hfind
  simp only [ofSession, Bool.and_eq_true, decide_eq_true_eq] at hsession
  exact ⟨hmem, (hregular.kind r hmem).explicit_of_class3 hsession.1⟩

theorem shrunk_removeSocketTimerFromList (h : st.Listed cfg ns) {socket : Int}
    {st' : StackState} (hcall : st.removeSocketTimerFromList socket = .ok st') :
    Shrunk cfg st ns (st.view cfg) st' ns := by
  unfold removeSocketTimerFromList at hcall
  split at hcall
  · cases hcall
  · cases hcall
    exact shrunk_of_store_eq h rfl rfl rfl ⟨rfl, rfl, rfl, rfl, rfl, rfl⟩

theorem shrunk_closeTcpSocket (h : st.Listed cfg ns) {socket : Int} {st' : StackState}
    (hcall : st.closeTcpSocket socket = .ok st') :
    Shrunk cfg st ns (st.view cfg) st' ns := by
  unfold closeTcpSocket at hcall
  cases htimer : st.removeSocketTimerFromList socket with
  | error fault => simp [htimer] at hcall
  | ok st₁ =>
      simp only [htimer, Except.ok.injEq] at hcall
      subst hcall
      have h₁ := shrunk_removeSocketTimerFromList h htimer
      have h₂ := shrunk_closeSocket h₁.listed socket
      rw [h₁.view_eq] at h₂
      exact h₁.trans h₂

theorem shrunk_clearSession (h : st.Listed cfg ns) (index : Nat) :
    Shrunk cfg st ns (st.view cfg) (st.clearSession index) ns :=
  shrunk_of_store_eq h rfl rfl rfl ⟨rfl, rfl, rfl, rfl, rfl, rfl⟩

/-- The table is the same, so its invariant holds again. -/
theorem Shrunk.regular {st' : StackState} {ns' : List Nat}
    (h : Shrunk cfg st ns (st.view cfg) st' ns') (hregular : Regular cfg (st.view cfg)) :
    Regular cfg (st'.view cfg) := by
  rw [h.view_eq]
  exact hregular

theorem Discarded.regular {st' : StackState} {ns' : List Nat}
    (h : Discarded cfg st ns st' ns') (hregular : Regular cfg (st.view cfg)) :
    Regular cfg (st'.view cfg) := by
  obtain ⟨dropped, -, hshrunk⟩ := h
  rw [hshrunk.view_eq]
  exact hregular.without dropped

theorem Discarded.listed {st' : StackState} {ns' : List Nat}
    (h : Discarded cfg st ns st' ns') : st'.Listed cfg ns' := by
  obtain ⟨dropped, -, hshrunk⟩ := h
  exact hshrunk.listed

/-- Clearing a session and closing its class 3 connections. -/
theorem clearSession_discarded (h : st.Listed cfg ns) (hregular : Regular cfg (st.view cfg))
    {index : Nat} {sessionHandle : UInt32} {st' : StackState}
    (hcall : (st.clearSession index).closeClass3ConnectionBasedOnSession cfg sessionHandle =
      .ok st') : ∃ ns', Discarded cfg st ns st' ns' := by
  have h₁ := shrunk_clearSession h index
  obtain ⟨ns', h₂⟩ := closeClass3_discarded h₁.listed (h₁.regular hregular) hcall
  exact ⟨ns', (Discarded.of_shrunk h₁).trans h₂⟩

theorem closeSession_discarded (h : st.Listed cfg ns) (hregular : Regular cfg (st.view cfg))
    {socket : Int} {st' : StackState} (hcall : st.closeSession cfg socket = .ok st') :
    ∃ ns', Discarded cfg st ns st' ns' := by
  unfold closeSession at hcall
  cases hsession : st.sessionOfSocket socket with
  | none =>
      simp only [hsession, Except.ok.injEq] at hcall
      exact ⟨ns, hcall ▸ Discarded.refl h⟩
  | some i =>
      simp only [hsession] at hcall
      cases hclose : st.closeTcpSocket socket with
      | error fault => simp [hclose] at hcall
      | ok st₁ =>
          simp only [hclose] at hcall
          have h₁ := shrunk_closeTcpSocket h hclose
          obtain ⟨ns', h₂⟩ := clearSession_discarded h₁.listed (h₁.regular hregular) hcall
          exact ⟨ns', (Discarded.of_shrunk h₁).trans h₂⟩

theorem removeSession_discarded (h : st.Listed cfg ns) (hregular : Regular cfg (st.view cfg))
    {socket : Int} {st' : StackState} (hcall : st.removeSession cfg socket = .ok st') :
    ∃ ns', Discarded cfg st ns st' ns' := by
  unfold removeSession at hcall
  cases hsession : st.sessionOfSocket socket with
  | none =>
      simp only [hsession, Except.ok.injEq] at hcall
      exact ⟨ns, hcall ▸ Discarded.refl h⟩
  | some i =>
      simp only [hsession] at hcall
      exact clearSession_discarded h hregular hcall

theorem closeSessionsOfPeer_discarded {env : Environment} {address : UInt32}
    {indices : List Nat} (h : st.Listed cfg ns) (hregular : Regular cfg (st.view cfg))
    {st' : StackState} (hcall : st.closeSessionsOfPeer cfg env address indices = .ok st') :
    ∃ ns', Discarded cfg st ns st' ns' := by
  induction indices generalizing st ns with
  | nil =>
      simp only [closeSessionsOfPeer, Except.ok.injEq] at hcall
      exact ⟨ns, hcall ▸ Discarded.refl h⟩
  | cons i indices ih =>
      simp only [closeSessionsOfPeer] at hcall
      split at hcall
      · cases hclose : st.closeSession cfg (st.registeredSessions.getD i eipInvalidSocket) with
        | error fault => simp only [hclose, reduceCtorEq] at hcall
        | ok st₁ =>
            simp only [hclose] at hcall
            obtain ⟨ns₁, h₁⟩ := closeSession_discarded h hregular hclose
            obtain ⟨ns', h₂⟩ := ih h₁.listed (h₁.regular hregular) hcall
            exact ⟨ns', h₁.trans h₂⟩
      · exact ih h hregular hcall

theorem closeSessionBySessionHandle_discarded (h : st.Listed cfg ns)
    {c : CipConnectionObject} {st' : StackState}
    (hcall : st.closeSessionBySessionHandle c = .ok st') :
    ∃ ns', Discarded cfg st ns st' ns' := by
  simp only [closeSessionBySessionHandle] at hcall
  split at hcall
  · cases hcall
  · rename_i socket _
    cases hclose : st.closeTcpSocket socket with
    | error fault => simp [hclose] at hcall
    | ok st₁ =>
        simp only [hclose, Except.ok.injEq] at hcall
        subst hcall
        have h₁ := shrunk_closeTcpSocket h hclose
        have h₂ := shrunk_clearSession h₁.listed (c.associatedEncapsulationSession - 1).toNat
        rw [h₁.view_eq] at h₂
        exact ⟨ns, Discarded.of_shrunk (h₁.trans h₂)⟩

/-- The session close that a time-out may cause. -/
theorem checkForTimedOut_discarded {r : ConnRef} (h : st.Listed cfg ns)
    {closeSessions : CipConnectionObject → StackState → Except Fault StackState}
    (hclose : ∀ c st', closeSessions c st = .ok st' → ∃ ns', Discarded cfg st ns st' ns')
    {st' : StackState}
    (hcall : st.checkForTimedOutConnectionsAndCloseTCPConnections cfg r closeSessions =
      .ok st') : ∃ ns', Discarded cfg st ns st' ns' := by
  simp only [checkForTimedOutConnectionsAndCloseTCPConnections] at hcall
  split at hcall
  · cases hcall
    exact ⟨ns, Discarded.refl h⟩
  · exact hclose _ _ hcall

/-- A class 3 connection that times out is discarded. -/
theorem class3Timeout_discarded (h : st.Listed cfg ns) {r : ConnRef}
    (hr : r ∈ st.connectionList cfg) (hio : r.isIo = false) {st' : StackState}
    (hcall : st.class3ConnectionTimeoutHandler cfg r = .ok st') :
    ∃ ns', Discarded cfg st ns st' ns' ∧ r ∉ st'.connectionList cfg := by
  unfold class3ConnectionTimeoutHandler at hcall
  cases hcheck : st.checkForTimedOutConnectionsAndCloseTCPConnections cfg r
      closeSessionBySessionHandle with
  | error fault => simp [hcheck] at hcall
  | ok st₁ =>
      simp only [hcheck, Except.ok.injEq] at hcall
      subst hcall
      obtain ⟨ns₁, dropped, hdropped, h₁⟩ := checkForTimedOut_discarded h
        (fun c st' => closeSessionBySessionHandle_discarded h) hcheck
      obtain ⟨ns', h₂⟩ := shrunk_closeConnection h₁.listed r
      have hview := h₂.view_eq
      rw [h₁.view_eq, View.without_without] at h₂
      refine ⟨ns', ⟨_, ?_, h₁.trans h₂⟩, ?_⟩
      · intro s hs
        rcases Bool.or_eq_true_iff.mp hs with hs | hs
        · exact hdropped s hs
        · rw [of_decide_eq_true hs]
          exact ⟨hr, hio⟩
      · rw [← view_members, hview]
        simp [View.without]

end StackState

end Opener
