import Opener.Metatheory.Rounds
import Opener.Metatheory.SessionFrame

/-!
One call of `ManageConnections` as far as sessions are concerned. A tick closes
sessions in two ways only, through the time-out of an explicit connection and
through the peer of an I/O connection that timed out; everything else it does
keeps both tables and stores no reply. What these two preserve, the tick preserves. Which
connections time out is settled when the tick begins.
-/

namespace Opener

open LinkedCells

namespace StackState

variable {cfg : Config}

/-- A property of the state that a tick preserves, with the faults that closing a session
may end in, when only the explicit connections `due` and I/O connections of a `peer`
expire. -/
structure TickInvariant (cfg : Config) (env : Environment) (due : ConnRef → Prop)
    (peer : UInt32 → Prop) (E : Fault → Prop) (P : StackState → Prop) : Prop where
  sound : ∀ st, P st → st.Sound cfg
  kept : ∀ st st', P st → st'.Sound cfg → Untouched st st' →
    Persists (st.view cfg) (st'.view cfg) → P st'
  closeSession : ∀ st socket, P st → peer (env.peerName socket) →
    socket ≠ eipInvalidSocket → Outcome E P (st.closeSession cfg socket)
  class3Timeout : ∀ st r, P st → due r → r ∈ st.connectionList cfg → r.isIo = false →
    Outcome E P (st.class3ConnectionTimeoutHandler cfg r)

/-- Apart from sessions, a turn fails as `E` says: where an exclusive owner closes the
connections of its input, and where a packet is sent. -/
structure Completes (cfg : Config) (env : Environment) (elapsedTime : UInt64)
    (E : Fault → Prop) (r : ConnRef) (st : StackState) : Prop where
  dependents : (st.conn r).expires elapsedTime = true → r.isIo = true →
    ∀ st₁ handover st₂, st.enterTimedOut cfg env r = .ok st₁ →
      st₁.handOverTimedOut cfg r = .ok (handover, st₂) →
        Outcome E (fun _ => True) (st₂.closeDependents cfg r handover)
  produces : (st.conn r).state = .established →
    ∀ st₁, st.superviseConnection cfg env elapsedTime r = .ok st₁ →
      (st₁.conn r).state = .established →
        Outcome E (fun _ => True) (st₁.produceConnection cfg env elapsedTime r)

/-- The connection may expire. -/
def Doomed (due : ConnRef → Prop) (peer : UInt32 → Prop) (r : ConnRef)
    (c : CipConnectionObject) : Prop :=
  (r.isIo = false → due r) ∧ (r.isIo = true → peer c.originatorAddress.sinAddr)

theorem Shrunk.sound {st st' : StackState} {ns ns' : List Nat} {V : View}
    (h : Shrunk cfg st ns V st' ns') (hV : Regular cfg V) (hsound : st.Sound cfg) :
    st'.Sound cfg := by
  refine ⟨⟨ns', h.listed⟩, ?_, ?_, ?_⟩
  · rw [h.view_eq]
    exact hV
  · rw [h.frame.dummy]
    exact hsound.close
  · rw [h.frame.dummy]
    exact hsound.instances

theorem handOverTimedOut_reserved (cfg : Config) (r : ConnRef) (st : StackState) :
    ReservedWith st (st.handOverTimedOut cfg r) := by
  rw [handOverTimedOut]
  split
  · split
    · rename_i hpass
      exact transferMasterConnection_untouched cfg hpass
    · have hcall := closeAllConnectionsForInput_reserved cfg
        (connectionCloseFunction_reserved cfg) (st.conn r).producedPath.instanceId
        .ioListenOnly st
      generalize st.closeAllConnectionsForInputWithSameType cfg (connectionCloseFunction cfg)
        (st.conn r).producedPath.instanceId .ioListenOnly = result at hcall ⊢
      cases result with
      | error fault => exact hcall
      | ok st₁ => exact hcall
  · exact Untouched.refl st

theorem closeDependents_reserved (cfg : Config) (r : ConnRef) (handover : Bool)
    (st : StackState) : Reserved st (st.closeDependents cfg r handover) := by
  rw [closeDependents]
  split
  · have hcall := closeAllConnectionsForInput_reserved cfg (connectionCloseFunction_reserved cfg)
      (st.conn r).producedPath.instanceId .ioInputOnly st
    generalize st.closeAllConnectionsForInputWithSameType cfg (connectionCloseFunction cfg)
      (st.conn r).producedPath.instanceId .ioInputOnly = result at hcall ⊢
    cases result with
    | error fault => exact hcall
    | ok st₁ =>
        exact (closeAllConnectionsForInput_reserved cfg (connectionCloseFunction_reserved cfg) _ _
          st₁).after hcall
  · exact Untouched.refl st

/-- Neither of the two ends in the loop over the timers. -/
theorem completes_of_fault {E : Fault → Prop}
    (hfault : ∀ fault, fault ≠ .endlessTimerLoop → E fault) (env : Environment)
    (elapsedTime : UInt64) (r : ConnRef) (st : StackState) :
    Completes cfg env elapsedTime E r st :=
  ⟨fun _ _ _ handover st₂ _ _ => ((closeDependents_reserved cfg r handover st₂).sending.weaken
      hfault).imp fun _ _ => trivial,
    fun _ st₁ _ _ => ((produceConnection_sending cfg env elapsedTime r st₁).weaken
      hfault).imp fun _ _ => trivial⟩

/-- A round by its turns. Whoever expires when its turn comes did so when the round
began. -/
theorem manageConnectionList_outcome {env : Environment} {E : Fault → Prop}
    {P : StackState → Prop} (hsound : ∀ s, P s → s.Sound cfg) {st : StackState} (hP : P st)
    {elapsedTime : UInt64}
    (hturn : ∀ s r, (r, s) ∈ liveTurns nodes
        (fun r s => s.manageConnection cfg env elapsedTime r) cfg.nodesAmount
        st.store.connectionList.first st → P s →
      Persists (st.view cfg) (s.view cfg) → r ∈ s.connectionList cfg →
      ((s.conn r).expires elapsedTime = true → (st.conn r).expires elapsedTime = true) →
      Outcome E P (s.manageConnection cfg env elapsedTime r)) :
    Outcome E P (st.manageConnectionList cfg env elapsedTime) := by
  obtain ⟨ns, hlisted⟩ := (hsound st hP).wellFormed
  let Rest : List Nat → StackState → Prop := fun todo s => P s ∧
    Persists (st.view cfg) (s.view cfg) ∧ ∃ ns pre, s.Listed cfg ns ∧ ns = pre ++ todo ∧
      ∀ n ∈ todo, ∀ r, (s.nodes n).data = some r → (s.conn r).expires elapsedTime = true →
        (st.conn r).expires elapsedTime = true
  have hrest : Rest ns st :=
    ⟨hP, .refl _, ns, [], hlisted, rfl, fun _ _ _ _ hexpires => hexpires⟩
  rw [hlisted.links.first_eq] at hturn
  rw [StackState.manageConnectionList, hlisted.links.first_eq]
  refine (liveWalk_remaining (P := Rest) ?_ hlisted.length_le hrest).imp fun s hs => hs.1
  rintro n todo s ⟨hs, hpersists, ns, pre, hlisted, hns, htodo⟩
  have hregular := (hsound s hs).regular
  have hn : n ∈ ns := by
    rw [hns]
    exact List.mem_append_right pre (List.mem_cons_self ..)
  obtain ⟨r, hdata, hr⟩ := hlisted.data hn
  refine ⟨r, hdata, fun hmem => ?_⟩
  have houtcome := hturn s r hmem hs hpersists hr (htodo n (List.mem_cons_self ..) r hdata)
  cases hcall : s.manageConnection cfg env elapsedTime r with
  | error fault =>
      rw [hcall] at houtcome
      exact houtcome
  | ok s' =>
      rw [hcall] at houtcome
      obtain ⟨ns', hcalm⟩ := manageConnection_calm hlisted hregular hcall
      obtain ⟨pre', todo', hns', hnext, hcases⟩ :=
        hlisted.remaining hns hcalm.listed hcalm.trimmed
      have hsublist : todo'.Sublist todo := by
        rcases hcases with ⟨-, rfl⟩ | ⟨-, rfl⟩
        · exact List.filter_sublist
        · exact List.nil_sublist todo
      refine ⟨todo', hsublist.length_le, hnext, houtcome,
        hpersists.trans (.moves hcalm.moves), ns', pre', hcalm.listed, hns', ?_⟩
      intro m hm q hq hexpires
      have hm' : m ∈ ns' := hns' ▸ List.mem_append_right pre' hm
      have hq' : (s.nodes m).data = some q := (hcalm.trimmed.data_eq m hm') ▸ hq
      have hne : q ≠ r := by
        rintro rfl
        have hsame := hlisted.node_unique hn (hcalm.trimmed.sublist.subset hm') hdata hq'
        have hnodup : (pre ++ n :: todo).Nodup := hns ▸ hlisted.links.nodup
        have hnot := (List.nodup_cons.mp (List.nodup_append.mp hnodup).2.1).1
        exact hnot (hsame ▸ hsublist.subset hm)
      have hqmem := hcalm.listed.mem.mpr ⟨m, hm', hq⟩
      obtain ⟨hbefore, -⟩ :=
        manageConnection_expires hlisted hregular hcall hne hqmem hexpires
      exact htodo m (List.mem_cons_of_mem n (hsublist.subset hm)) q hq' hbefore

namespace TickInvariant

variable {env : Environment} {due : ConnRef → Prop} {peer : UInt32 → Prop}
variable {E : Fault → Prop} {P : StackState → Prop} (h : TickInvariant cfg env due peer E P)
include h

/-- A call that keeps sessions and replies and lets connections persist. -/
theorem reserved {st : StackState} {result : Except Fault StackState} (hP : P st)
    (hfails : Outcome E (fun _ => True) result) (hreserved : ReservedSending st result)
    (hok : ∀ st', result = .ok st' → st'.Sound cfg ∧ Persists (st.view cfg) (st'.view cfg)) :
    Outcome E P result := by
  cases result with
  | error fault => exact hfails
  | ok st' =>
      obtain ⟨hsound, hpersists⟩ := hok st' rfl
      exact h.kept st st' hP hsound hreserved hpersists

theorem closeSessionsOfPeer {st : StackState} (hP : P st) {address : UInt32}
    (hpeer : peer address) (indices : List Nat) :
    Outcome E P (st.closeSessionsOfPeer cfg env address indices) := by
  induction indices generalizing st with
  | nil => exact hP
  | cons i indices ih =>
      simp only [StackState.closeSessionsOfPeer]
      split
      · rename_i hsocket
        have hclose := h.closeSession st _ hP (hsocket.2.symm ▸ hpeer) hsocket.1
        generalize st.closeSession cfg
          (st.registeredSessions.getD i eipInvalidSocket) = result at hclose ⊢
        cases result with
        | error fault => exact hclose
        | ok st₁ => exact ih hclose
      · exact ih hP

/-- Marking the connection and closing the sessions of its peer. -/
theorem enterTimedOut {st : StackState} (hP : P st) {r : ConnRef}
    (hr : r ∈ st.connectionList cfg) (hio : r.isIo = true)
    (hpeer : peer (st.conn r).originatorAddress.sinAddr) :
    Outcome E P (st.enterTimedOut cfg env r) := by
  have hsound := h.sound st hP
  obtain ⟨ns, hlisted⟩ := hsound.wellFormed
  have hevent := shrunk_checkIoConnectionEvent hlisted (st.conn r) .timedOut
  have hmarked := hevent.trans
    (shrunk_modifyConn hevent.listed r fun c => c.setState .timedOut)
  rw [view_checkIoConnectionEvent] at hmarked
  have hkept : Untouched st ((st.checkIoConnectionEvent (st.conn r) .timedOut).modifyConn r
      fun c => c.setState .timedOut) := .update ⟨rfl, rfl⟩ rfl (.inl rfl) rfl
  have haddress : (((st.checkIoConnectionEvent (st.conn r) .timedOut).modifyConn r
      fun c => c.setState .timedOut).conn r).originatorAddress =
        (st.conn r).originatorAddress := by
    rw [conn_modifyConn_self]
    rfl
  simp only [StackState.enterTimedOut]
  generalize (st.checkIoConnectionEvent (st.conn r) .timedOut).modifyConn r
    (fun c => c.setState .timedOut) = st₁ at hmarked hkept haddress
  have hregular : Regular cfg ((st.view cfg).modify r fun c => c.setState .timedOut) :=
    hsound.regular.modify hr ((hsound.regular.kind r hr).timedOut hio)
  have hP₁ : P st₁ := by
    refine h.kept st st₁ hP (hmarked.sound hregular hsound) hkept ?_
    rw [hmarked.view_eq]
    exact .timedOut _ r
  split
  · rw [checkForTimedOutConnectionsAndCloseTCPConnections]
    split
    · exact hP₁
    · exact h.closeSessionsOfPeer hP₁ (haddress ▸ hpeer) _
  · exact hP₁

theorem handOverTimedOut {st : StackState} (hP : P st) {r : ConnRef}
    (hr : r ∈ st.connectionList cfg) (hio : r.isIo = true)
    (hstate : (st.conn r).state = .timedOut) :
    ∃ handover st₁, st.handOverTimedOut cfg r = .ok (handover, st₁) ∧ P st₁ ∧
      r ∈ st₁.connectionList cfg ∧ (st₁.conn r).state = .timedOut := by
  have hsound := h.sound st hP
  obtain ⟨ns, hlisted⟩ := hsound.wellFormed
  obtain ⟨handover, st₁, hcall⟩ := handOverTimedOut_returns hlisted hsound.regular.closable r
  have hreserved := handOverTimedOut_reserved cfg r st
  rw [hcall] at hreserved
  have hview : st.view cfg = (st.view cfg).modify r fun c => c.setState .timedOut := by
    refine (View.modify_eq_self ?_).symm
    rw [view_object, CipConnectionObject.setState, ← hstate]
  obtain ⟨ns₁, h₁⟩ := handOverTimedOut_ok hlisted hview hsound.regular.closable hcall
  obtain ⟨hregular, hmem⟩ := hsound.regular.vacate hr
  have hregular₁ : Regular cfg ((st.view cfg).expired r) :=
    hregular.modify (hmem hio) ((hregular.kind r (hmem hio)).timedOut hio)
  refine ⟨handover, st₁, hcall, h.kept st st₁ hP (h₁.sound hregular₁ hsound) hreserved ?_,
    ?_, ?_⟩
  · rw [h₁.view_eq]
    exact (Persists.vacate _ r).trans (.timedOut _ r)
  · rw [← view_members, h₁.view_eq]
    exact hmem hio
  · rw [← view_object, h₁.view_eq, View.expired, View.modify_object_self]
    rfl

theorem handleIoConnectionTimeOut {st : StackState} (hP : P st) {r : ConnRef}
    (hr : r ∈ st.connectionList cfg) (hio : r.isIo = true)
    (hpeer : peer (st.conn r).originatorAddress.sinAddr)
    (hdependents : ∀ st₁ handover st₂, st.enterTimedOut cfg env r = .ok st₁ →
      st₁.handOverTimedOut cfg r = .ok (handover, st₂) →
        Outcome E (fun _ => True) (st₂.closeDependents cfg r handover)) :
    Outcome E P (st.handleIoConnectionTimeOut cfg env r) := by
  have hsound := h.sound st hP
  obtain ⟨ns, hlisted⟩ := hsound.wellFormed
  have henter := h.enterTimedOut hP hr hio hpeer
  simp only [StackState.handleIoConnectionTimeOut]
  cases hcall : st.enterTimedOut cfg env r with
  | error fault =>
      rw [hcall] at henter
      exact henter
  | ok st₁ =>
      rw [hcall] at henter
      obtain ⟨dropped, ns₁, hdropped, h₁⟩ := enterTimedOut_ok hlisted hsound.regular hr hio hcall
      have hr₁ : r ∈ st₁.connectionList cfg := by
        rw [← view_members, h₁.view_eq]
        refine (View.mem_without _).mpr ⟨hr, ?_⟩
        cases hd : dropped r with
        | false => rfl
        | true => exact absurd (hdropped r hd).2 (by simp [hio])
      have hstate₁ : (st₁.conn r).state = .timedOut := by
        rw [← view_object, h₁.view_eq, View.modify_object_self]
        rfl
      obtain ⟨handover, st₂, hcall₁, hP₂, hr₂, hstate₂⟩ :=
        h.handOverTimedOut henter hr₁ hio hstate₁
      have hsound₂ := h.sound st₂ hP₂
      obtain ⟨ns₂, hlisted₂⟩ := hsound₂.wellFormed
      have hclose : Outcome E P (st₂.closeDependents cfg r handover) := by
        refine h.reserved hP₂ (hdependents st₁ handover st₂ hcall hcall₁)
          (closeDependents_reserved cfg r handover st₂).sending ?_
        intro st₃ hcall₂
        obtain ⟨⟨ns₃, h₃⟩, -⟩ := closeDependents_departed hlisted₂ hsound₂.regular hr₂
          (by simp [hstate₂]) hcall₂
        exact ⟨h₃.calm.sound hsound₂, .departs h₃.departs⟩
      simp only [hcall₁]
      cases hcall₂ : st₂.closeDependents cfg r handover with
      | error fault =>
          rw [hcall₂] at hclose
          exact hclose
      | ok st₃ =>
          rw [hcall₂] at hclose
          obtain ⟨-, hr₃, hconn₃⟩ := closeDependents_departed hlisted₂ hsound₂.regular hr₂
            (by simp [hstate₂]) hcall₂
          have hsound₃ := h.sound st₃ hclose
          obtain ⟨ns₃, hlisted₃⟩ := hsound₃.wellFormed
          have hmodify := shrunk_modifyConn hlisted₃ r fun c => c.setState .timedOut
          have hregular₃ : Regular cfg ((st₃.view cfg).modify r
              fun c => c.setState .timedOut) :=
            hsound₃.regular.modify hr₃ ((hsound₃.regular.kind r hr₃).timedOut hio)
          exact h.kept st₃ _ hclose (hmodify.sound hregular₃ hsound₃)
            (.update ⟨rfl, rfl⟩ rfl (.inl rfl) rfl) (.timedOut _ r)

theorem superviseConnection {st : StackState} (hP : P st) {r : ConnRef}
    (hr : r ∈ st.connectionList cfg) (hestablished : (st.conn r).state = .established)
    {elapsedTime : UInt64} (hcompletes : Completes cfg env elapsedTime E r st)
    (hdoomed : (st.conn r).expires elapsedTime = true → Doomed due peer r (st.conn r)) :
    Outcome E P (st.superviseConnection cfg env elapsedTime r) := by
  have hsound := h.sound st hP
  have htimeout := (hsound.regular.kind r hr).timeout
  rw [view_object] at htimeout
  rw [StackState.superviseConnection]
  split
  · rename_i hwatched
    split
    · rename_i helapsed
      have hexpires : (st.conn r).expires elapsedTime = true := by
        simpa [CipConnectionObject.expires, hestablished] using ⟨hwatched, helapsed⟩
      obtain ⟨hdue, hpeer⟩ := hdoomed hexpires
      simp only [connectionTimeoutFunction, htimeout]
      cases hio : r.isIo with
      | false =>
          rw [ConnRef.timeoutFunction, hio]
          exact h.class3Timeout st r hP (hdue hio) hr hio
      | true =>
          rw [ConnRef.timeoutFunction, hio]
          exact h.handleIoConnectionTimeOut hP hr hio (hpeer hio)
            (hcompletes.dependents hexpires hio)
    · have htouched := touched_modifyConn st r (f := fun c =>
        { c with
          inactivityWatchdogTimer := c.inactivityWatchdogTimer - elapsedTime
          lastPackageWatchdogTimer := c.lastPackageWatchdogTimer - elapsedTime }) rfl
      obtain ⟨hsound₁, hmoves⟩ := htouched.sound hsound
      exact h.kept st _ hP hsound₁ (.update ⟨rfl, rfl⟩ rfl (.inl rfl) rfl) (.moves hmoves)
  · exact hP

theorem manageConnection {st : StackState} (hP : P st) {elapsedTime : UInt64} {r : ConnRef}
    (hcompletes : Completes cfg env elapsedTime E r st)
    (hdoomed : (st.conn r).expires elapsedTime = true → Doomed due peer r (st.conn r)) :
    Outcome E P (st.manageConnection cfg env elapsedTime r) := by
  have hsound := h.sound st hP
  rw [StackState.manageConnection]
  split
  · rename_i hestablished
    have hr := mem_of_established hsound.regular hestablished
    have hsupervise := h.superviseConnection hP hr hestablished hcompletes hdoomed
    cases hcall : st.superviseConnection cfg env elapsedTime r with
    | error fault =>
        rw [hcall] at hsupervise
        exact hsupervise
    | ok st₁ =>
        rw [hcall] at hsupervise
        have hsound₁ := h.sound st₁ hsupervise
        obtain ⟨ns₁, hlisted₁⟩ := hsound₁.wellFormed
        simp only
        split
        · rename_i hestablished₁
          have hr₁ := mem_of_established hsound₁.regular hestablished₁
          refine h.reserved hsupervise (hcompletes.produces hestablished st₁ hcall hestablished₁)
            (produceConnection_sending cfg env elapsedTime r st₁) ?_
          intro st₂ hcall₁
          have hcalm := produceConnection_calm hlisted₁ hr₁ hestablished₁ hcall₁
          exact ⟨hcalm.sound hsound₁, .moves hcalm.moves⟩
        · exact hsupervise
  · exact hP

theorem manageConnectionList {st : StackState} (hP : P st) {elapsedTime : UInt64}
    (hcompletes : ∀ s r, (r, s) ∈ liveTurns nodes
        (fun r s => s.manageConnection cfg env elapsedTime r) cfg.nodesAmount
        st.store.connectionList.first st → P s → Persists (st.view cfg) (s.view cfg) →
      Completes cfg env elapsedTime E r s)
    (hdoomed : ∀ r ∈ st.connectionList cfg, (st.conn r).expires elapsedTime = true →
      Doomed due peer r (st.conn r)) :
    Outcome E P (st.manageConnectionList cfg env elapsedTime) := by
  refine manageConnectionList_outcome h.sound hP fun s r hturn hs hpersists hr hexpires => ?_
  refine h.manageConnection hs (hcompletes s r hturn hs hpersists) fun hexpires' => ?_
  obtain ⟨hdue, hpeer⟩ := hdoomed r (hpersists.sublist.subset hr) (hexpires hexpires')
  refine ⟨hdue, fun hio => ?_⟩
  have haddress : (s.conn r).originatorAddress = (st.conn r).originatorAddress :=
    CipConnectionObject.lasting_field (hpersists.lasting r hr) (·.originatorAddress) fun _ => rfl
  exact haddress ▸ hpeer hio

/-- A tick whose turns complete. -/
theorem manageConnections_of_turns {st : StackState} (hP : P st) {elapsedTime : UInt64}
    (hcompletes : ∀ s r, (r, s) ∈ liveTurns nodes
        (fun r s => s.manageConnection cfg env elapsedTime r) cfg.nodesAmount
        st.store.connectionList.first
        { st with assemblyData := env.handleApplication st.assemblyData } → P s →
      Persists (st.view cfg) (s.view cfg) → Completes cfg env elapsedTime E r s)
    (hdoomed : ∀ r ∈ st.connectionList cfg, (st.conn r).expires elapsedTime = true →
      Doomed due peer r (st.conn r)) :
    Outcome E P (st.manageConnections cfg env elapsedTime) := by
  have htouched : Touched st
      { st with assemblyData := env.handleApplication st.assemblyData } :=
    ⟨rfl, fun _ => rfl, rfl, rfl, rfl, rfl⟩
  obtain ⟨hsound₁, hmoves⟩ := htouched.sound (h.sound st hP)
  have hP₁ := h.kept st _ hP hsound₁ (.same ⟨rfl, rfl⟩ rfl rfl) (.moves hmoves)
  exact h.manageConnectionList hP₁ hcompletes hdoomed

theorem manageConnections {st : StackState} (hP : P st) (elapsedTime : UInt64)
    (hfault : ∀ fault, fault ≠ .endlessTimerLoop → E fault)
    (hdoomed : ∀ r ∈ st.connectionList cfg, (st.conn r).expires elapsedTime = true →
      Doomed due peer r (st.conn r)) :
    Outcome E P (st.manageConnections cfg env elapsedTime) :=
  h.manageConnections_of_turns hP
    (fun s r _ _ _ => completes_of_fault hfault env elapsedTime r s) hdoomed

end TickInvariant

end StackState

end Opener
