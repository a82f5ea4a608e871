import Opener.Metatheory.ClosedEvents
import Opener.Metatheory.MainLoop
import Opener.Metatheory.Supervision

/-!
The loops over the connection list that save the next node before they call a close
function. What a close can unlink besides its own connection are the listeners of a
multicast producer that nobody takes over from, so the saved node is lost exactly if
such a listener is right behind it.
-/

namespace Opener

open LinkedCells

namespace StackState

variable {cfg : Config} {env : Environment} {st st' : StackState} {σ : Type}

/-- The node is linked into the list. -/
def LinksNode (cfg : Config) (n : Nat) (st : StackState) : Prop :=
  ∃ ns, st.Listed cfg ns ∧ n ∈ ns

/-- A list as the loops find it. Each listed connection has its close function. -/
structure Walkable (cfg : Config) (st : StackState) : Prop where
  wellFormed : st.WellFormed cfg
  closable : (st.view cfg).Closable

/-- The loop body of `CloseAllConnectionsForInputWithSameType`. -/
def closeOfInput (cfg : Config) (inputPoint : UInt16)
    (instanceType : ConnectionObjectInstanceType) (r : ConnRef) (st : StackState) :
    Except Fault (Turn StackState) :=
  if (st.conn r).instanceType = instanceType ∧
      (st.conn r).producedPath.instanceId = inputPoint then
    match connectionCloseFunction cfg r (st.checkIoConnectionEvent (st.conn r) .closed) with
    | .error fault => .error fault
    | .ok st => .ok (.continue st)
  else .ok (.continue st)

theorem closeAllConnectionsForInputWithSameType_eq (st : StackState) (inputPoint : UInt16)
    (instanceType : ConnectionObjectInstanceType) :
    st.closeAllConnectionsForInputWithSameType cfg (connectionCloseFunction cfg) inputPoint
        instanceType =
      savedWalk nodes .freedNode .nonTermination (closeOfInput cfg inputPoint instanceType)
        cfg.nodesAmount st.store.connectionList.first st :=
  rfl

theorem closeOfInput_ne_stop {inputPoint : UInt16}
    {instanceType : ConnectionObjectInstanceType} {r : ConnRef} :
    closeOfInput cfg inputPoint instanceType r st ≠ .ok (.stop st') := by
  intro hturn
  rw [closeOfInput] at hturn
  split at hturn
  · split at hturn
    · cases hturn
    · cases hturn
  · cases hturn

/-- Closing the one closes the other with it, a listener that nobody produces for. -/
def takesAlong (cfg : Config) (r q : ConnRef) (st : StackState) : Bool :=
  isMulticastMaster (st.conn r) && !st.handsOver cfg r &&
    (st.conn q).instanceType = .ioListenOnly &&
    (st.conn q).producedPath.instanceId = (st.conn r).producedPath.instanceId

/-- Closing it leaves the connection right behind it in the list. -/
def sparesNext (cfg : Config) (r : ConnRef) (st : StackState) : Bool :=
  match (st.behind cfg r).head? with
  | none => true
  | some q => !st.takesAlong cfg r q

/-- A loop that keeps its saved nodes: when it goes on with one, that one is linked.
If it is not left early it has come to whatever is listed in the end. -/
structure Intact (cfg : Config) (stack : σ → StackState)
    (body : ConnRef → σ → Except Fault (Turn σ)) (s : σ) : Prop where
  saved : ∀ step ∈ savedSteps (fun s => (stack s).nodes) body cfg.nodesAmount
      (stack s).store.connectionList.first s,
    ∀ m, step.1 = some m → (stack step.2).LinksNode cfg m
  visits : (∀ turn ∈ savedTurns (fun s => (stack s).nodes) body cfg.nodesAmount
      (stack s).store.connectionList.first s, ∀ t, body turn.1 turn.2 ≠ .ok (.stop t)) →
    ∀ s', savedWalk (fun s => (stack s).nodes) .freedNode .nonTermination body cfg.nodesAmount
        (stack s).store.connectionList.first s = .ok s' →
      ∀ r ∈ (stack s').connectionList cfg, ∃ t, (r, t) ∈ savedTurns (fun s => (stack s).nodes)
        body cfg.nodesAmount (stack s).store.connectionList.first s

/-- What a turn does to the list: it closes its connection with those that this takes
along, or it leaves the list alone. -/
structure TurnEffect (cfg : Config) (closes : Prop) (r : ConnRef) (st st' : StackState) :
    Prop where
  closable : (st'.view cfg).Closable
  trims : ∀ ns, st.Listed cfg ns → ∃ ns', st'.Listed cfg ns' ∧ st.Trimmed ns st' ns'
  members : ∀ q ∈ st.connectionList cfg, q ∈ st'.connectionList cfg ↔
    ¬(closes ∧ (q = r ∨ st.takesAlong cfg r q = true))

theorem closable_persists {V V' : View} (h : V.Closable) (hpersists : Persists V V') :
    V'.Closable := by
  intro r hr
  have hlasting := hpersists.lasting r hr
  rw [CipConnectionObject.lasting_field hlasting (·.connectionCloseFunction) fun _ => rfl,
    CipConnectionObject.lasting_field hlasting (·.instanceType) fun _ => rfl]
  exact h r (hpersists.sublist.subset hr)

theorem mem_closed {r q : ConnRef} : q ∈ ((st.view cfg).closed r).members ↔
    q ∈ st.connectionList cfg ∧ ¬(q = r ∨ st.takesAlong cfg r q = true) := by
  have hsuccessor : st.handsOver cfg r = (isMulticastMaster (st.conn r) &&
      ((st.view cfg).successor (st.conn r).producedPath.instanceId).isSome) := rfl
  rw [View.closed, View.mem_without, decide_eq_false_iff_not, takesAlong, hsuccessor]
  obtain hmaster | hmaster := Bool.eq_false_or_eq_true (isMulticastMaster (st.conn r))
  · rw [hmaster, Bool.true_and]
    cases hnext : (st.view cfg).successor (st.conn r).producedPath.instanceId with
    | some heir =>
        have hmembers : ((st.view cfg).vacate r).members = st.connectionList cfg := by
          simp only [View.vacate, view_object, hmaster, if_true, hnext]
          rfl
        simp [hmembers]
    | none =>
        have hvacate : (st.view cfg).vacate r = (st.view cfg).without
            ((st.view cfg).ofInput .ioListenOnly (st.conn r).producedPath.instanceId) := by
          simp only [View.vacate, view_object, hmaster, if_true, hnext]
        have hlistens : (st.view cfg).ofInput .ioListenOnly
            (st.conn r).producedPath.instanceId q = true ↔ q ∈ st.connectionList cfg ∧
              (st.conn q).instanceType = .ioListenOnly ∧
              (st.conn q).producedPath.instanceId = (st.conn r).producedPath.instanceId := by
          simp only [View.ofInput, Bool.and_eq_true, decide_eq_true_eq, List.contains_iff_mem,
            and_assoc]
          exact Iff.rfl
        rw [hvacate, View.mem_without, ← Bool.not_eq_true, hlistens]
        simp only [Option.isSome_none, Bool.not_false, Bool.true_and, Bool.and_eq_true,
          decide_eq_true_eq, view_members]
        tauto
  · rw [View.vacate_of_not_master hmaster, hmaster]
    simp

theorem turnEffect_closed (h : st.Walkable cfg) {r : ConnRef} {closes : Prop} (hcloses : closes)
    (hclosed : ∀ ns, st.Listed cfg ns →
      ∃ ns', Shrunk cfg st ns ((st.view cfg).closed r) st' ns') :
    TurnEffect cfg closes r st st' := by
  obtain ⟨ns, hlisted⟩ := h.wellFormed
  obtain ⟨ns', hshrunk⟩ := hclosed ns hlisted
  refine ⟨?_, fun ns hlisted => ?_, fun q hq => ?_⟩
  · rw [hshrunk.view_eq]
    exact closable_persists h.closable (.closed _ r)
  · obtain ⟨ns', hshrunk⟩ := hclosed ns hlisted
    exact ⟨ns', hshrunk.listed, hshrunk.trimmed⟩
  · have hmembers : st'.connectionList cfg = ((st.view cfg).closed r).members :=
      congrArg View.members hshrunk.view_eq
    rw [hmembers, mem_closed, and_iff_right hq, and_iff_right hcloses]

theorem turnEffect_touched (h : st.Walkable cfg) (htouched : Touched st st') {r : ConnRef}
    {closes : Prop} (hkeeps : ¬closes) : TurnEffect cfg closes r st st' := by
  have hmembers : st'.connectionList cfg = st.connectionList cfg := by
    rw [connectionList, htouched.list, connectionList]
  refine ⟨?_, fun ns hlisted => ?_, fun q hq => ?_⟩
  · obtain ⟨ns, hlisted⟩ := h.wellFormed
    exact closable_persists h.closable (.moves (htouched.calm hlisted).moves)
  · have hcalm := htouched.calm hlisted
    exact ⟨ns, hcalm.listed, hcalm.trimmed⟩
  · rw [hmembers]
    exact iff_of_true hq fun hboth => hkeeps hboth.1

/-- The node that the loop has saved stays exactly if its connection does. -/
theorem saved_linked_iff {closes : Prop} {r : ConnRef} {ns pre todo : List Nat} {n : Nat}
    (h : st.Listed cfg ns) (hns : ns = pre ++ n :: todo) (hdata : (st.nodes n).data = some r)
    (heffect : TurnEffect cfg closes r st st') :
    (closes → st.sparesNext cfg r = true) ↔
      ∀ m, todo.head? = some m → st'.LinksNode cfg m := by
  obtain ⟨ns', hlisted', htrimmed⟩ := heffect.trims ns h
  rw [sparesNext, behind_eq h hns hdata]
  cases todo with
  | nil => simp [contents]
  | cons m rest =>
      have hm : m ∈ ns := by
        rw [hns]
        exact List.mem_append_right pre (List.mem_cons_of_mem n List.mem_cons_self)
      obtain ⟨q, hq, hmember⟩ := h.data hm
      have hne : q ≠ r := by
        rintro rfl
        have hsame : n = m := DoublyLinkedList.Listing.node_unique h
          (by rw [hns]; exact List.mem_append_right pre List.mem_cons_self) hm hdata hq
        subst hsame
        have hnodup := hns ▸ h.links.nodup
        simp [List.nodup_append] at hnodup
      have hstays : st'.LinksNode cfg m ↔ ¬(closes ∧ st.takesAlong cfg r q = true) := by
        have hmem := heffect.members q hmember
        rw [or_iff_right hne] at hmem
        rw [← hmem, ← show m ∈ ns' ↔ q ∈ st'.connectionList cfg from
          DoublyLinkedList.Listing.mem_trimmed h hlisted' htrimmed hm hq]
        refine ⟨?_, fun hm' => ⟨ns', hlisted', hm'⟩⟩
        rintro ⟨ns₁, hlisted₁, hm₁⟩
        obtain ⟨q', hq', -⟩ := hlisted₁.data hm₁
        exact hlisted'.mem_of_data hq'
      rw [contents_cons hq, List.head?_cons]
      simp [hstays]

/-- What is left to visit, with the turns so far: whoever is in front has had one. -/
def LeftToVisit (cfg : Config) (stack : σ → StackState) (past : List (ConnRef × σ))
    (todo : List Nat) (s : σ) : Prop :=
  (stack s).Walkable cfg ∧ ∃ ns pre, (stack s).Listed cfg ns ∧ ns = pre ++ todo ∧
    ∀ n ∈ pre, ∀ q, ((stack s).nodes n).data = some q → ∃ t, (q, t) ∈ past

/-- Each turn of the body closes its connection, or it leaves the list alone. -/
structure ClosesInTurn (cfg : Config) (stack : σ → StackState)
    (body : ConnRef → σ → Except Fault (Turn σ)) (closes : ConnRef → σ → Prop) : Prop where
  effect : ∀ s r t, (stack s).Walkable cfg → r ∈ (stack s).connectionList cfg →
    body r s = .ok (.continue t) → TurnEffect cfg (closes r s) r (stack s) (stack t)
  goesOn : ∀ s r, (stack s).Walkable cfg → r ∈ (stack s).connectionList cfg → closes r s →
    ∃ t, body r s = .ok (.continue t)

namespace ClosesInTurn

variable {stack : σ → StackState} {body : ConnRef → σ → Except Fault (Turn σ)}
variable {closes : ConnRef → σ → Prop}

theorem turn (hbody : ClosesInTurn cfg stack body closes) {past : List (ConnRef × σ)} {n : Nat}
    {todo : List Nat} {s s' : σ} {r : ConnRef} (hs : LeftToVisit cfg stack past (n :: todo) s)
    (hdata : ((stack s).nodes n).data = some r) (hcall : body r s = .ok (.continue s')) :
    ((stack s).nodes n).next = todo.head? ∧
      ((closes r s → (stack s).sparesNext cfg r = true) ↔
        ∀ m, todo.head? = some m → (stack s').LinksNode cfg m) ∧
      ((∀ m, todo.head? = some m → ((stack s').nodes m).data ≠ none) →
        ∃ todo', todo'.head? = todo.head? ∧
          LeftToVisit cfg stack (past ++ [(r, s)]) todo' s') := by
  obtain ⟨hwalkable, ns, pre, hlisted, hns, hfront⟩ := hs
  have hr := hlisted.mem.mpr ⟨n, hlisted.mem_of_data hdata, hdata⟩
  have heffect := hbody.effect s r s' hwalkable hr hcall
  refine ⟨hlisted.links.next_eq hns, saved_linked_iff hlisted hns hdata heffect, fun hsaved => ?_⟩
  obtain ⟨ns', hlisted', htrimmed⟩ := heffect.trims ns hlisted
  obtain ⟨hns', hhead⟩ := hlisted.resumes hns hlisted' htrimmed hsaved
  refine ⟨_, hhead, ⟨⟨ns', hlisted'⟩, heffect.closable⟩, ns', _, hlisted', hns', ?_⟩
  intro m hm q hq
  obtain ⟨hm, hm'⟩ := List.mem_filter.mp hm
  have hdata' : ((stack s').nodes m).data = ((stack s).nodes m).data :=
    htrimmed.data_eq m (of_decide_eq_true hm')
  rw [hdata'] at hq
  rcases List.mem_append.mp hm with hm | hm
  · obtain ⟨t, ht⟩ := hfront m hm q hq
    exact ⟨t, List.mem_append_left _ ht⟩
  · obtain rfl := List.mem_singleton.mp hm
    rw [hdata, Option.some.injEq] at hq
    subst hq
    exact ⟨s, List.mem_append_right _ List.mem_cons_self⟩

theorem visits (hbody : ClosesInTurn cfg stack body closes) {s s' : σ}
    (hs : (stack s).Walkable cfg)
    (hstop : ∀ turn ∈ savedTurns (fun s => (stack s).nodes) body cfg.nodesAmount
      (stack s).store.connectionList.first s, ∀ t, body turn.1 turn.2 ≠ .ok (.stop t))
    (hrun : savedWalk (fun s => (stack s).nodes) .freedNode .nonTermination body
      cfg.nodesAmount (stack s).store.connectionList.first s = .ok s')
    {r : ConnRef} (hr : r ∈ (stack s').connectionList cfg) :
    ∃ t, (r, t) ∈ savedTurns (fun s => (stack s).nodes) body cfg.nodesAmount
      (stack s).store.connectionList.first s := by
  obtain ⟨ns, hlisted⟩ := hs.wellFormed
  rw [hlisted.links.first_eq] at hstop hrun ⊢
  have hstart : LeftToVisit cfg stack [] ns s :=
    ⟨hs, ns, [], hlisted, rfl, fun n hn => absurd hn List.not_mem_nil⟩
  obtain ⟨-, ns', pre, hlisted', hns', hfront⟩ := savedWalk_history (LeftToVisit cfg stack)
    (fun past n todo t a t' ht hdata hcall =>
      have hturn := hbody.turn ht hdata hcall
      ⟨hturn.1, hturn.2.2⟩) hstart hstop hrun
  obtain ⟨n, hn, hdata⟩ := hlisted'.mem.mp hr
  rw [hns', List.append_nil] at hn
  exact hfront n hn r hdata

/-- Such a loop keeps its saved nodes exactly if each close spares the next connection. -/
theorem intact_iff (hbody : ClosesInTurn cfg stack body closes) {s : σ}
    (hs : (stack s).Walkable cfg) :
    Intact cfg stack body s ↔
      ∀ turn ∈ savedTurns (fun s => (stack s).nodes) body cfg.nodesAmount
          (stack s).store.connectionList.first s,
        closes turn.1 turn.2 → (stack turn.2).sparesNext cfg turn.1 = true := by
  obtain ⟨ns, hlisted⟩ := hs.wellFormed
  have hstart : ∃ past, LeftToVisit cfg stack past ns s :=
    ⟨[], hs, ns, [], hlisted, rfl, fun n hn => absurd hn List.not_mem_nil⟩
  have hkeeps : (∀ step ∈ savedSteps (fun s => (stack s).nodes) body cfg.nodesAmount ns.head? s,
        ∀ m, step.1 = some m → (stack step.2).LinksNode cfg m) ↔
      ∀ turn ∈ savedTurns (fun s => (stack s).nodes) body cfg.nodesAmount ns.head? s,
        closes turn.1 turn.2 → (stack turn.2).sparesNext cfg turn.1 = true := by
    refine savedSteps_linked_iff (fun todo s => ∃ past, LeftToVisit cfg stack past todo s)
      (fun m s => (stack s).LinksNode cfg m)
      (fun r s => closes r s → (stack s).sparesNext cfg r = true) ?_ ?_ hstart
    · rintro n todo t r t' ⟨past, ht⟩ hdata hcall
      obtain ⟨hnext, hspares, hrest⟩ := hbody.turn ht hdata hcall
      refine ⟨hnext, hspares, fun hkept => ?_⟩
      have hsaved : ∀ m, todo.head? = some m → ((stack t').nodes m).data ≠ none := by
        intro m hm
        obtain ⟨ns₁, hlisted₁, hm₁⟩ := hspares.mp hkept m hm
        obtain ⟨q, hq, -⟩ := hlisted₁.data hm₁
        rw [hq]
        exact Option.some_ne_none q
      obtain ⟨todo', hhead, ht'⟩ := hrest hsaved
      exact ⟨todo', hhead, _, ht'⟩
    · rintro n todo t r ⟨past, hwalkable, ns, pre, hlisted, hns, -⟩ hdata hleaves hcloses
      have hr := hlisted.mem.mpr ⟨n, hlisted.mem_of_data hdata, hdata⟩
      obtain ⟨t', hcall⟩ := hbody.goesOn t r hwalkable hr hcloses
      exact absurd hcall (hleaves t')
  rw [← hlisted.links.first_eq] at hkeeps
  exact ⟨fun h => hkeeps.mp h.saved, fun h => ⟨hkeeps.mpr h, fun hstop s' hrun r hr =>
    hbody.visits hs hstop hrun hr⟩⟩

end ClosesInTurn

theorem Walkable.close (h : st.Walkable cfg) {r : ConnRef} (hr : r ∈ st.connectionList cfg) :
    ∃ st', st.connectionCloseFunction cfg r = .ok st' ∧ ∀ ns, st.Listed cfg ns →
      ∃ ns', Shrunk cfg st ns ((st.view cfg).closed r) st' ns' := by
  obtain ⟨ns, hlisted⟩ := h.wellFormed
  obtain ⟨st', -, hcall, -⟩ := connectionCloseFunction_ok hlisted h.closable hr
  refine ⟨st', hcall, fun ns hlisted => ?_⟩
  obtain ⟨st₁, ns', hcall₁, hclosed⟩ := connectionCloseFunction_ok hlisted h.closable hr
  obtain rfl : st' = st₁ := Except.ok.inj (hcall.symm.trans hcall₁)
  exact ⟨ns', hclosed⟩

theorem Walkable.checkIoConnectionEvent (h : st.Walkable cfg) (c : CipConnectionObject)
    (event : IoConnectionEvent) : (st.checkIoConnectionEvent c event).Walkable cfg := by
  refine ⟨h.wellFormed, ?_⟩
  rw [view_checkIoConnectionEvent]
  exact h.closable

theorem closeOfInput_closes (inputPoint : UInt16)
    (instanceType : ConnectionObjectInstanceType) :
    ClosesInTurn cfg id (closeOfInput cfg inputPoint instanceType) fun r s =>
      (s.conn r).instanceType = instanceType ∧
        (s.conn r).producedPath.instanceId = inputPoint := by
  refine ⟨fun s r t hs hr hcall => ?_, fun s r hs hr hmatch => ?_⟩ <;> rw [id] at hs
  · rw [closeOfInput] at hcall
    split at hcall
    · rename_i hmatch
      obtain ⟨t', hok, hclosed⟩ :=
        (hs.checkIoConnectionEvent (s.conn r) .closed).close (r := r) hr
      rw [hok] at hcall
      cases hcall
      refine turnEffect_closed hs hmatch fun ns hlisted => ?_
      have hevent := shrunk_checkIoConnectionEvent hlisted (s.conn r) .closed
      obtain ⟨ns', hshrunk⟩ := hclosed ns hevent.listed
      rw [hevent.view_eq] at hshrunk
      exact ⟨ns', hevent.trans hshrunk⟩
    · rename_i hmatch
      cases hcall
      exact turnEffect_touched hs (.refl s) hmatch
  · obtain ⟨t, hok, -⟩ := (hs.checkIoConnectionEvent (s.conn r) .closed).close (r := r) hr
    refine ⟨t, ?_⟩
    rw [closeOfInput, if_pos hmatch, hok]

theorem handleConsumingUdpSocket_closes (env : Environment) :
    ClosesInTurn cfg Prod.fst (handleConsumingUdpSocket cfg env) fun r s =>
      closesOnReceive env r s = true := by
  refine ⟨?_, ?_⟩
  · rintro ⟨s, received⟩ r ⟨t, received'⟩ hs hr hcall
    have hclosing : closesOnReceive env r (s, received) = true →
        s.connectionCloseFunction cfg r = .ok t →
        TurnEffect cfg (closesOnReceive env r (s, received) = true) r s t := by
      intro hcloses hclose
      obtain ⟨t', hok, hclosed⟩ := hs.close hr
      obtain rfl : t = t' := Except.ok.inj (hclose.symm.trans hok)
      exact turnEffect_closed hs hcloses hclosed
    simp only [handleConsumingUdpSocket] at hcall
    split at hcall
    · rename_i hreadable
      split at hcall
      · cases hcall
      · cases hcall
      · split at hcall
        · cases hcall
        · rename_i hclose
          cases hcall
          exact hclosing (by simp [closesOnReceive, hreadable]) hclose
      · split at hcall
        · cases hcall
        · rename_i hclose
          cases hcall
          exact hclosing (by simp [closesOnReceive, hreadable]) hclose
      · split at hcall
        · cases hcall
        · rename_i hreceive
          cases hcall
          exact turnEffect_touched hs (handleReceivedConnectedData_touched hreceive)
            (by simp [closesOnReceive])
    · rename_i hreadable
      cases hcall
      refine turnEffect_touched hs (.refl _) fun hcloses => hreadable ?_
      simp only [closesOnReceive, Bool.and_eq_true, decide_eq_true_eq] at hcloses
      exact hcloses.1
  · rintro ⟨s, received⟩ r hs hr hcloses
    obtain ⟨t, hok, -⟩ := hs.close hr
    simp only [closesOnReceive, Bool.and_eq_true, decide_eq_true_eq] at hcloses
    obtain ⟨hreadable, hresult⟩ := hcloses
    cases received with
    | nil => cases hresult
    | cons result received =>
        cases result with
        | wouldBlock => cases hresult
        | datagram data fromAddress => cases hresult
        | closedByClient =>
            refine ⟨(t, received), ?_⟩
            simp only [handleConsumingUdpSocket, if_pos hreadable, hok]
        | failed =>
            refine ⟨(t, received), ?_⟩
            simp only [handleConsumingUdpSocket, if_pos hreadable, hok]

/-- The states in which the code begins such a loop, or where it has got to in one: between
two steps, where a connection is closed, and in a tick where an I/O connection has timed out,
was to hand its input over and has closed the input-only connections. -/
inductive WalkStart (cfg : Config) : StackState → Prop
  | reached {st : StackState} (h : Reachable cfg st) : WalkStart cfg st
  | closing {st : StackState} {r : ConnRef} (h : WalkStart cfg st) :
      WalkStart cfg ((st.checkIoConnectionEvent (st.conn r) .closed).modifyConn r
        fun c => c.setState .nonExistent)
  | entered {st s s₁ : StackState} {env : Environment} {elapsedTime : UInt64} {r : ConnRef}
      (h : Reachable cfg st) (turn : (r, s) ∈ st.manageTurns cfg env elapsedTime)
      (established : (s.conn r).state = .established) (io : r.isIo = true)
      (enter : s.enterTimedOut cfg env r = .ok s₁) : WalkStart cfg s₁
  | handedOver {st s s₁ s₂ : StackState} {env : Environment} {elapsedTime : UInt64}
      {r : ConnRef} {handover : Bool}
      (h : Reachable cfg st) (turn : (r, s) ∈ st.manageTurns cfg env elapsedTime)
      (established : (s.conn r).state = .established) (io : r.isIo = true)
      (enter : s.enterTimedOut cfg env r = .ok s₁)
      (handed : s₁.handOverTimedOut cfg r = .ok (handover, s₂)) : WalkStart cfg s₂
  | visited {st : StackState} {inputPoint : UInt16}
      {instanceType : ConnectionObjectInstanceType} {turn : ConnRef × StackState}
      (h : WalkStart cfg st) (visits : turn ∈ savedTurns nodes
        (closeOfInput cfg inputPoint instanceType) cfg.nodesAmount
        st.store.connectionList.first st) : WalkStart cfg turn.2
  | closed {st st' : StackState} {inputPoint : UInt16}
      {instanceType : ConnectionObjectInstanceType} (h : WalkStart cfg st)
      (loop : st.closeAllConnectionsForInputWithSameType cfg (connectionCloseFunction cfg)
        inputPoint instanceType = .ok st') : WalkStart cfg st'

theorem Sound.walkable (h : st.Sound cfg) : st.Walkable cfg := ⟨h.wellFormed, h.regular.closable⟩

theorem manageTurns_sound (hsound : st.Sound cfg) {elapsedTime : UInt64}
    {turn : ConnRef × StackState} (hturn : turn ∈ st.manageTurns cfg env elapsedTime) :
    turn.2.Sound cfg := by
  refine liveTurns_invariant (Sound cfg) (fun s n r s' hs _ hbody => ?_) ?_ turn hturn
  · obtain ⟨ns, hlisted⟩ := hs.wellFormed
    obtain ⟨ns', hcalm⟩ := manageConnection_calm hlisted hs.regular hbody
    exact hcalm.sound hs
  · exact ⟨hsound.wellFormed, hsound.regular, hsound.close, hsound.instances⟩

theorem closeOfInput_walkable (h : st.Walkable cfg) {inputPoint : UInt16}
    {instanceType : ConnectionObjectInstanceType} {n : Nat} {r : ConnRef}
    (hdata : (st.nodes n).data = some r)
    (hcall : closeOfInput cfg inputPoint instanceType r st = .ok (.continue st')) :
    st'.Walkable cfg := by
  obtain ⟨ns, hlisted⟩ := h.wellFormed
  have hr := hlisted.mem.mpr ⟨n, hlisted.mem_of_data hdata, hdata⟩
  have heffect := (closeOfInput_closes inputPoint instanceType).effect st r st' h hr hcall
  obtain ⟨ns', hlisted', -⟩ := heffect.trims ns hlisted
  exact ⟨⟨ns', hlisted'⟩, heffect.closable⟩

/-- What a connection that times out leaves in front of its hand-over and behind it. -/
theorem expiring_walkable (hsound : st.Sound cfg) {r : ConnRef}
    (hestablished : (st.conn r).state = .established) (hio : r.isIo = true)
    (henter : st.enterTimedOut cfg env r = .ok st') :
    st'.Walkable cfg ∧ ∀ handover st₂, st'.handOverTimedOut cfg r = .ok (handover, st₂) →
      st₂.Walkable cfg := by
  obtain ⟨ns, hlisted⟩ := hsound.wellFormed
  have hr := mem_of_established hsound.regular hestablished
  obtain ⟨dropped, ns₁, -, hshrunk⟩ := enterTimedOut_ok hlisted hsound.regular hr hio henter
  have hdropped := hsound.regular.closable.without dropped
  have hclosable : (st'.view cfg).Closable := by
    rw [hshrunk.view_eq]
    exact hdropped.modify rfl rfl
  refine ⟨⟨⟨ns₁, hshrunk.listed⟩, hclosable⟩, fun handover st₂ hover => ?_⟩
  obtain ⟨ns₂, hexpired⟩ :=
    handOverTimedOut_ok hshrunk.listed hshrunk.view_eq hclosable hover
  refine ⟨⟨ns₂, hexpired.listed⟩, ?_⟩
  rw [hexpired.view_eq]
  exact (closable_persists hdropped (.vacate _ r)).modify rfl rfl

theorem WalkStart.walkable (h : WalkStart cfg st) : st.Walkable cfg := by
  induction h with
  | reached h => exact h.sound.walkable
  | @closing st r h ih =>
      obtain ⟨hwell, hclosable⟩ := ih.checkIoConnectionEvent (st.conn r) .closed
      exact ⟨hwell, hclosable.modify (r := r) (f := fun c => c.setState .nonExistent) rfl rfl⟩
  | entered h turn established io enter =>
      exact (expiring_walkable (manageTurns_sound h.sound turn) established io enter).1
  | handedOver h turn established io enter handed =>
      exact (expiring_walkable (manageTurns_sound h.sound turn) established io enter).2 _ _ handed
  | visited h visits ih =>
      refine savedTurns_invariant (Walkable cfg) (fun s n r s' hs hdata hcall => ?_) ih _ visits
      exact closeOfInput_walkable hs hdata hcall
  | @closed st st' inputPoint instanceType h loop ih =>
      rw [closeAllConnectionsForInputWithSameType_eq] at loop
      refine savedWalk_invariant (Walkable cfg) (fun s n r s' hs hdata hcall => ?_)
        (fun s n r s' hs hdata hcall => ?_) ih loop
      · exact closeOfInput_walkable hs hdata hcall
      · exact absurd hcall closeOfInput_ne_stop

/-- Loops that save the next node keep it exactly if every connection that they close leaves
the one right behind it in the list. Closing listeners always does. -/
theorem savedNodes_linked_iff (h : WalkStart cfg st) :
    (∀ inputPoint, Intact cfg id (closeOfInput cfg inputPoint .ioListenOnly) st) ∧
    (∀ inputPoint, Intact cfg id (closeOfInput cfg inputPoint .ioInputOnly) st ↔
      ∀ turn ∈ savedTurns nodes (closeOfInput cfg inputPoint .ioInputOnly) cfg.nodesAmount
          st.store.connectionList.first st,
        (turn.2.conn turn.1).instanceType = .ioInputOnly ∧
            (turn.2.conn turn.1).producedPath.instanceId = inputPoint →
          turn.2.sparesNext cfg turn.1 = true) ∧
    ∀ env, Intact cfg Prod.fst (handleConsumingUdpSocket cfg env) (st, env.received) ↔
      ∀ turn ∈ st.consumeTurns cfg env, closesOnReceive env turn.1 turn.2 = true →
        turn.2.1.sparesNext cfg turn.1 = true := by
  have hs := h.walkable
  refine ⟨fun inputPoint => ?_, fun inputPoint => ?_, fun env => ?_⟩
  · refine ((closeOfInput_closes inputPoint .ioListenOnly).intact_iff hs).mpr ?_
    rintro turn - ⟨htype, -⟩
    have htype : (turn.2.conn turn.1).instanceType = .ioListenOnly := htype
    have hmaster : isMulticastMaster (turn.2.conn turn.1) = false := by
      simp [isMulticastMaster, htype]
    rw [sparesNext]
    split
    · rfl
    · rw [takesAlong, id, hmaster]
      rfl
  · exact (closeOfInput_closes inputPoint .ioInputOnly).intact_iff hs
  · exact (handleConsumingUdpSocket_closes env).intact_iff hs

section Sample

open SampleApplication

/-- The input-only connections of an input are closed, and each leaves the next one. -/
def sparesInputs (cfg : Config) (inputPoint : UInt16) (st : StackState) : Bool :=
  (savedTurns nodes (closeOfInput cfg inputPoint .ioInputOnly) cfg.nodesAmount
    st.store.connectionList.first st).all fun turn =>
      !((turn.2.conn turn.1).instanceType = .ioInputOnly &&
        (turn.2.conn turn.1).producedPath.instanceId = inputPoint) ||
        turn.2.sparesNext cfg turn.1

theorem sparesInputs_iff {inputPoint : UInt16} :
    st.sparesInputs cfg inputPoint = true ↔
      ∀ turn ∈ savedTurns nodes (closeOfInput cfg inputPoint .ioInputOnly) cfg.nodesAmount
          st.store.connectionList.first st,
        (turn.2.conn turn.1).instanceType = .ioInputOnly ∧
            (turn.2.conn turn.1).producedPath.instanceId = inputPoint →
          turn.2.sparesNext cfg turn.1 = true := by
  simp only [sparesInputs, List.all_eq_true, Bool.or_eq_true, Bool.not_eq_true',
    ← Bool.not_eq_true, Bool.and_eq_true, decide_eq_true_eq, imp_iff_not_or]

/-- An input-only connection is opened behind a listener of its input. -/
def listenerBehind (tToO : UInt16) : List (Environment × Action) :=
  [request (exclusiveOwner 1 1 tToO),
    request { listenOnly 2 2 pointToPoint with connectionTimeoutMultiplier := 7 },
    request { inputOnly 3 3 multicast with connectionTimeoutMultiplier := 7 }]

/-- With a multicast owner the listener stays when the input-only connection is closed. -/
theorem savedNodes_linked_iff_sample : ∃ st,
    st.connectionList config = [.inputOnly 0 0, .listenOnly 0 0, .exclusiveOwner 0] ∧
      Intact config id (closeOfInput config 100 .ioInputOnly) st := by
  obtain ⟨st, hreachable, hst⟩ := reachable_of_ends config (listenerBehind multicast)
    (fun st => st.connectionList config = [.inputOnly 0 0, .listenOnly 0 0, .exclusiveOwner 0] &&
      st.sparesInputs config 100) (by decide +kernel)
  obtain ⟨hlist, hspares⟩ := Bool.and_eq_true_iff.mp hst
  exact ⟨st, of_decide_eq_true hlist, ((savedNodes_linked_iff (.reached hreachable)).2.1 100).mpr
    (sparesInputs_iff.mp hspares)⟩

/-- The environment of a round in which the receive call of one socket fails. -/
def failing (socket : Int) : Environment :=
  { environment 0 20 with readSocket := fun s => s = socket, received := [.failed] }

/-- With an owner that is not multicast the input-only connection produces, and the listener
behind it is freed with it: when the owner times out, and when receiving fails. -/
theorem savedNode_freed : ∃ st, Reachable config st ∧
    ¬Intact config id (closeOfInput config 100 .ioInputOnly) st ∧
    st.step config (tick 10000) = .error .freedNode ∧
    ¬Intact config Prod.fst (handleConsumingUdpSocket config (failing 23))
      (st, (failing 23).received) ∧
    st.step config (failing 23, .checkAndHandleConsumingUdpSocket) = .error .freedNode := by
  obtain ⟨st, hreachable, hst⟩ := reachable_of_ends config (listenerBehind pointToPoint)
    (fun st => !st.sparesInputs config 100 &&
      faults (st.step config (tick 10000)) .freedNode &&
      ((st.consumeTurns config (failing 23)).any fun turn =>
        closesOnReceive (failing 23) turn.1 turn.2 && !turn.2.1.sparesNext config turn.1) &&
      faults (st.step config (failing 23, .checkAndHandleConsumingUdpSocket)) .freedNode)
    (by decide +kernel)
  simp only [Bool.and_eq_true, Bool.not_eq_true', List.any_eq_true] at hst
  obtain ⟨⟨⟨hinputs, htick⟩, turn, hturn, hcloses, hspares⟩, hreceive⟩ := hst
  have hwalkable := hreachable.sound.walkable
  refine ⟨st, hreachable, fun hintact => ?_, faults_iff.mp htick, fun hintact => ?_,
    faults_iff.mp hreceive⟩
  · have hall := ((closeOfInput_closes 100 .ioInputOnly).intact_iff hwalkable).mp hintact
    have hspares : st.sparesInputs config 100 = true := sparesInputs_iff.mpr hall
    rw [hspares] at hinputs
    cases hinputs
  · have hall := ((handleConsumingUdpSocket_closes (failing 23)).intact_iff hwalkable).mp hintact
    rw [hall turn hturn hcloses] at hspares
    cases hspares

end Sample

end StackState

end Opener
