import Opener.Metatheory.Lifetimes

/-!
One round of `ManageConnections` over the connection list. The loop goes on from
the node it has just visited, so what is left to visit only shrinks, and a
connection that is still to come has the watchdog it had when the round began.
-/

namespace Opener

open LinkedCells

namespace CipConnectionObject

/-- The watchdog of an established connection runs out within the time. -/
def expires (elapsedTime : UInt64) (c : CipConnectionObject) : Bool :=
  c.state = .established &&
    (c.consumingInstance.isSome || c.transportClassTriggerDirection = .server) &&
    elapsedTime ≥ c.inactivityWatchdogTimer

theorem expires_of_lasting {c d : CipConnectionObject} {elapsedTime : UInt64}
    (hlasting : d.lasting = c.lasting)
    (hstate : d.state = .established → c.state = .established)
    (hwatchdog : d.inactivityWatchdogTimer = c.inactivityWatchdogTimer)
    (h : d.expires elapsedTime = true) : c.expires elapsedTime = true := by
  have hinstance : d.consumingInstance = c.consumingInstance :=
    lasting_field hlasting (·.consumingInstance) fun _ => rfl
  have hdirection : d.transportClassTriggerDirection = c.transportClassTriggerDirection :=
    lasting_field hlasting (·.transportClassTriggerDirection) fun _ => rfl
  simp only [expires, Bool.and_eq_true, decide_eq_true_eq] at h ⊢
  rw [hinstance, hdirection, hwatchdog] at h
  exact ⟨⟨hstate h.1.1, h.1.2⟩, h.2⟩

end CipConnectionObject

namespace View

variable {β : Type} {f : CipConnectionObject → β} {V : View}

theorem modify_field {g : CipConnectionObject → CipConnectionObject}
    (hg : ∀ c, f (g c) = f c) (r s : ConnRef) :
    f ((V.modify r g).object s) = f (V.object s) := by
  by_cases hs : s = r
  · subst hs
    rw [modify_object_self, hg]
  · rw [modify_object_of_ne _ hs]

/-- What neither a hand-over nor a change of state writes survives departures. -/
theorem vacate_field (hinherit : ∀ old c, f (inherit old c) = f c)
    (hretire : ∀ c, f (retire c) = f c) {r s : ConnRef} (hs : s ∈ (V.vacate r).members) :
    f ((V.vacate r).object s) = f (V.object s) := by
  have hvacates := vacates_vacate V r
  generalize V.vacate r = V' at hvacates hs
  cases hvacates with
  | quiet silent => rfl
  | passed master member differs takes =>
      rw [pass, modify_field hretire, modify_field (hinherit _)]
  | silenced master nobody =>
      rw [without_object, (V.mem_without.mp hs).2]
      rfl

end View

theorem Depart.field {β : Type} {f : CipConnectionObject → β} {V V' : View}
    (hinherit : ∀ old c, f (View.inherit old c) = f c)
    (hretire : ∀ c, f (View.retire c) = f c)
    (hstate : ∀ (c : CipConnectionObject) state, f (c.setState state) = f c)
    (h : Depart V V') {s : ConnRef} (hs : s ∈ V'.members) :
    f (V'.object s) = f (V.object s) := by
  cases h with
  | discard dropped class3 =>
      rw [View.without_object, (V.mem_without.mp hs).2]
      rfl
  | @close r member io =>
      obtain ⟨hs', hkept⟩ := (View.mem_without _).mp hs
      rw [View.closed, View.without_object, hkept]
      exact View.vacate_field hinherit hretire hs'
  | @expire r member io established =>
      rw [View.expired, View.modify_field fun c => hstate c _]
      exact View.vacate_field hinherit hretire hs

theorem Departs.field {β : Type} {f : CipConnectionObject → β} {V V' : View}
    (hinherit : ∀ old c, f (View.inherit old c) = f c)
    (hretire : ∀ c, f (View.retire c) = f c)
    (hstate : ∀ (c : CipConnectionObject) state, f (c.setState state) = f c)
    (h : Departs V V') {s : ConnRef} (hs : s ∈ V'.members) :
    f (V'.object s) = f (V.object s) := by
  induction h with
  | refl => rfl
  | tail _ hlast ih =>
      have hs' := (Persists.depart hlast).sublist.subset hs
      exact (hlast.field hinherit hretire hstate hs).trans (ih hs')

namespace StackState

variable {cfg : Config} {env : Environment} {st st' : StackState} {ns : List Nat}

/-- Producing is done on one object. -/
theorem produceConnection_others {r s : ConnRef} {elapsedTime : UInt64}
    (hcall : st.produceConnection cfg env elapsedTime r = .ok st') (hs : s ≠ r) :
    st'.conn s = st.conn s := by
  rw [produceConnection] at hcall
  split at hcall
  · simp only at hcall
    have hsame := conn_modifyConn_of_ne st hs (inhibitAfter elapsedTime)
    generalize st.modifyConn r (inhibitAfter elapsedTime) = st₁ at hcall hsame
    split at hcall
    · split at hcall
      · cases hcall
      · split at hcall
        · cases hcall
        · rename_i st₂ hsend
          cases hcall
          obtain ⟨packet, changed, -, hothers, -⟩ := sendConnectedData_ok hsend
          rw [conn_modifyConn_of_ne _ hs, hothers s hs, hsame]
    · cases hcall
      rw [conn_modifyConn_of_ne _ hs, hsame]
  · cases hcall
    rfl

theorem superviseConnection_watchdog (h : st.Listed cfg ns)
    (hregular : Regular cfg (st.view cfg)) {r s : ConnRef} (hr : r ∈ st.connectionList cfg)
    (hestablished : (st.conn r).state = .established) {elapsedTime : UInt64}
    (hcall : st.superviseConnection cfg env elapsedTime r = .ok st') (hne : s ≠ r)
    (hs : s ∈ st'.connectionList cfg) :
    (st'.conn s).inactivityWatchdogTimer = (st.conn s).inactivityWatchdogTimer := by
  rw [superviseConnection] at hcall
  split at hcall
  · split at hcall
    · obtain ⟨ns', h₁⟩ := connectionTimeoutFunction_departed h hregular hr hestablished hcall
      exact h₁.departs.field (f := (·.inactivityWatchdogTimer)) (fun _ _ => rfl)
        (fun _ => rfl) (fun _ _ => rfl) hs
    · cases hcall
      rw [conn_modifyConn_of_ne _ hne]
  · cases hcall
    rfl

/-- The loop body leaves the watchdogs of the other connections alone. -/
theorem manageConnection_watchdog (h : st.Listed cfg ns)
    (hregular : Regular cfg (st.view cfg)) {r s : ConnRef} {elapsedTime : UInt64}
    (hcall : st.manageConnection cfg env elapsedTime r = .ok st') (hne : s ≠ r)
    (hs : s ∈ st'.connectionList cfg) :
    (st'.conn s).inactivityWatchdogTimer = (st.conn s).inactivityWatchdogTimer := by
  rw [manageConnection] at hcall
  split at hcall
  · rename_i hestablished
    have hr := mem_of_established hregular hestablished
    cases hsupervise : st.superviseConnection cfg env elapsedTime r with
    | error fault => simp [hsupervise] at hcall
    | ok st₁ =>
        simp only [hsupervise] at hcall
        split at hcall
        · rename_i hestablished₁
          obtain ⟨ns₁, h₁⟩ := superviseConnection_calm h hregular hr hestablished hsupervise
          have hr₁ := mem_of_established (h₁.regular hregular) hestablished₁
          have hmoves := (produceConnection_calm h₁.listed hr₁ hestablished₁ hcall).moves
          have hs₁ := (Persists.moves hmoves).sublist.subset hs
          rw [produceConnection_others hcall hne]
          exact superviseConnection_watchdog h hregular hr hestablished hsupervise hne hs₁
        · cases hcall
          exact superviseConnection_watchdog h hregular hr hestablished hsupervise hne hs
  · cases hcall
    rfl

theorem manageConnection_expires (h : st.Listed cfg ns)
    (hregular : Regular cfg (st.view cfg)) {r s : ConnRef} {elapsedTime : UInt64}
    (hcall : st.manageConnection cfg env elapsedTime r = .ok st') (hne : s ≠ r)
    (hs : s ∈ st'.connectionList cfg) (hexpires : (st'.conn s).expires elapsedTime = true) :
    (st.conn s).expires elapsedTime = true ∧
      (st'.conn s).originatorAddress = (st.conn s).originatorAddress := by
  obtain ⟨ns', hcalm⟩ := manageConnection_calm h hregular hcall
  have hpersists := Persists.moves hcalm.moves
  have hlasting := hpersists.lasting s hs
  refine ⟨?_, ?_⟩
  · exact CipConnectionObject.expires_of_lasting hlasting (hpersists.established s hs)
      (manageConnection_watchdog h hregular hcall hne hs) hexpires
  · exact CipConnectionObject.lasting_field hlasting (·.originatorAddress) fun _ => rfl

/-- Where a walk goes on that fetches the link of a node after others, or the node
itself, were unlinked. -/
theorem Listed.remaining (h : st.Listed cfg ns) {pre todo : List Nat} {n : Nat}
    (hns : ns = pre ++ n :: todo) {ns' : List Nat} (h' : st'.Listed cfg ns')
    (htrimmed : st.Trimmed ns st' ns') :
    ∃ pre' todo', ns' = pre' ++ todo' ∧ (st'.nodes n).next = todo'.head? ∧
      ((n ∈ ns' ∧ todo' = todo.filter (· ∈ ns')) ∨ (n ∉ ns' ∧ todo' = [])) := by
  by_cases hn : n ∈ ns'
  · have hsplit : ns' = pre.filter (· ∈ ns') ++ n :: todo.filter (· ∈ ns') := by
      have hfilter := eq_filter_of_sublist htrimmed.sublist h.links.nodup
      rw [hns, List.filter_append, List.filter_cons_of_pos (by simpa using hn)] at hfilter
      exact hfilter
    refine ⟨pre.filter (· ∈ ns') ++ [n], todo.filter (· ∈ ns'), ?_, h'.links.next_eq hsplit,
      .inl ⟨hn, rfl⟩⟩
    rw [List.append_assoc]
    exact hsplit
  · refine ⟨ns', [], (List.append_nil ns').symm, ?_, .inr ⟨hn, rfl⟩⟩
    rw [nodes, h'.links.free n hn]
    rfl

end StackState

end Opener
