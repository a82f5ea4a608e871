import Opener.Metatheory.SavedNodes
import Opener.Metatheory.TickTurns

/-!
What one call of `ManageConnections` does for a connection that is established when
it returns. It has one turn, with its timers advanced once, unless the loop ended at an
explicit connection in front of it. A connection that had its turn may be given the
production of one behind it, whose timer this call does not advance any more.
-/

namespace Opener

open LinkedCells

namespace View

variable {V V₁ V₂ : View} {inputPoint : UInt16}

/-- An input-only connection produces the input for the others. -/
def Fed (V : View) (inputPoint : UInt16) : Prop :=
  ∃ p ∈ V.members, (V.object p).instanceType = .ioInputOnly ∧
    StackState.isMulticastMaster (V.object p) = true ∧
    (V.object p).producedPath.instanceId = inputPoint

/-- Input-only connections of one input or its listeners leave. Who stays is as before, or
has taken over the production of one that left. -/
structure Passes (inputPoint : UInt16) (V V' : View) : Prop where
  members : V'.members ⊆ V.members
  objects : ∀ r ∈ V'.members, (V'.object r).state = .established →
    V'.object r = V.object r ∨
      canTakeOver inputPoint (V.object r) = true ∧ V.Fed inputPoint
  fed : V'.Fed inputPoint → V.Fed inputPoint

namespace Passes

theorem refl (V : View) (inputPoint : UInt16) : Passes inputPoint V V :=
  ⟨fun _ hr => hr, fun _ _ _ => .inl rfl, fun h => h⟩

theorem trans (h : Passes inputPoint V V₁) (h' : Passes inputPoint V₁ V₂) :
    Passes inputPoint V V₂ := by
  refine ⟨fun r hr => h.members (h'.members hr), fun r hr hstate => ?_,
    fun hfed => h.fed (h'.fed hfed)⟩
  have hr₁ := h'.members hr
  obtain hsame | ⟨htakes, hfed⟩ := h'.objects r hr hstate
  · rw [hsame] at hstate ⊢
    exact h.objects r hr₁ hstate
  · obtain hsame | hpassed := h.objects r hr₁ (of_canTakeOver htakes).2.1
    · rw [hsame] at htakes
      exact .inr ⟨htakes, h.fed hfed⟩
    · exact .inr hpassed

theorem closed {r : ConnRef} (hr : r ∈ V.members)
    (htype : (V.object r).instanceType = .ioInputOnly ∨
      (V.object r).instanceType = .ioListenOnly)
    (hinput : (V.object r).producedPath.instanceId = inputPoint) :
    Passes inputPoint V (V.closed r) := by
  have hfeeds : StackState.isMulticastMaster (V.object r) = true → V.Fed inputPoint := by
    intro hmaster
    refine ⟨r, hr, htype.resolve_right fun hlistens => ?_, hmaster, hinput⟩
    simp [StackState.isMulticastMaster, hlistens] at hmaster
  have hobject : ∀ s ∈ (V.closed r).members, s ∈ V.members ∧
      ((V.closed r).object s = V.object s ∨
        StackState.isMulticastMaster (V.object r) = true ∧
          canTakeOver inputPoint (V.object s) = true) := by
    intro s hs
    obtain ⟨hs, hkept⟩ := (mem_without _).mp hs
    have hvacates := vacates_vacate V r
    rw [View.closed, without_object, hkept]
    refine ⟨hvacates.member hs, ?_⟩
    obtain hsame | ⟨hmaster, htakes, -⟩ := hvacates.object hs (of_decide_eq_false hkept)
    · exact .inl hsame
    · exact .inr ⟨hmaster, hinput ▸ htakes⟩
  refine ⟨fun s hs => (hobject s hs).1, fun s hs _ => ?_, ?_⟩
  · obtain ⟨-, hsame | ⟨hmaster, htakes⟩⟩ := hobject s hs
    · exact .inl hsame
    · exact .inr ⟨htakes, hfeeds hmaster⟩
  · rintro ⟨p, hp, hinputOnly, hmaster, hpinput⟩
    obtain ⟨hp, hsame | ⟨hleft, -⟩⟩ := hobject p hp
    · rw [hsame] at hinputOnly hmaster hpinput
      exact ⟨p, hp, hinputOnly, hmaster, hpinput⟩
    · exact hfeeds hleft

end Passes

end View

namespace StackState

variable {cfg : Config} {env : Environment} {st st' : StackState} {elapsedTime : UInt64}
variable {r q : ConnRef} {ns : List Nat}

theorem closeAllConnections_passes (h : st.Walkable cfg) {inputPoint : UInt16}
    {instanceType : ConnectionObjectInstanceType}
    (htype : instanceType = .ioInputOnly ∨ instanceType = .ioListenOnly)
    (hcall : st.closeAllConnectionsForInputWithSameType cfg (connectionCloseFunction cfg)
      inputPoint instanceType = .ok st') :
    st'.Walkable cfg ∧ View.Passes inputPoint (st.view cfg) (st'.view cfg) := by
  rw [closeAllConnectionsForInputWithSameType_eq] at hcall
  refine savedWalk_invariant
    (fun s => s.Walkable cfg ∧ View.Passes inputPoint (st.view cfg) (s.view cfg)) ?_ ?_
    ⟨h, .refl _ _⟩ hcall
  · rintro s n a s' ⟨hs, hpasses⟩ hdata hturn
    refine ⟨closeOfInput_walkable hs hdata hturn, hpasses.trans ?_⟩
    obtain ⟨ns, hlisted⟩ := hs.wellFormed
    have ha := hlisted.mem.mpr ⟨n, hlisted.mem_of_data hdata, hdata⟩
    rw [closeOfInput] at hturn
    split at hturn
    · rename_i hmatch
      obtain ⟨t, hok, hclosed⟩ :=
        (hs.checkIoConnectionEvent (s.conn a) .closed).close (r := a) ha
      rw [hok] at hturn
      cases hturn
      obtain ⟨ns', hshrunk⟩ :=
        hclosed ns (shrunk_checkIoConnectionEvent hlisted (s.conn a) .closed).listed
      rw [hshrunk.view_eq, view_checkIoConnectionEvent]
      exact .closed ha (hmatch.1 ▸ htype) hmatch.2
    · cases hturn
      exact .refl _ _
  · rintro s n a s' - - hturn
    exact absurd hturn closeOfInput_ne_stop

/-- The time-out gives the production of the input to a connection that can take over, if
there is one: that of `r`, or that of an input-only connection which it closes. -/
def passesOn (cfg : Config) (r : ConnRef) (st : StackState) : Bool :=
  isMulticastMaster (st.conn r) ||
    ((st.conn r).instanceType = .ioExclusiveOwner &&
      (st.connectionList cfg).any fun p => (st.conn p).instanceType = .ioInputOnly &&
        isMulticastMaster (st.conn p) &&
        (st.conn p).producedPath.instanceId = (st.conn r).producedPath.instanceId)

theorem passesOn_of_master (h : isMulticastMaster (st.conn r) = true) :
    st.passesOn cfg r = true := by
  rw [passesOn, h, Bool.true_or]

theorem passesOn_of_fed (howner : (st.conn r).instanceType = .ioExclusiveOwner)
    (hfed : (st.view cfg).Fed (st.conn r).producedPath.instanceId) :
    st.passesOn cfg r = true := by
  obtain ⟨p, hp, hinputOnly, hmaster, hinput⟩ := hfed
  rw [view_object] at hinputOnly hmaster hinput
  rw [passesOn, howner, Bool.or_eq_true]
  refine .inr (Bool.and_eq_true_iff.mpr ⟨rfl, List.any_eq_true.mpr ⟨p, hp, ?_⟩⟩)
  rw [hinputOnly, hmaster, hinput]
  simp

/-- The connection is given the production when `r` times out. -/
def TakesOver (cfg : Config) (r q : ConnRef) (st : StackState) : Prop :=
  View.canTakeOver (st.conn r).producedPath.instanceId (st.conn q) = true ∧
    st.passesOn cfg r = true

namespace TimesOut

variable {dropped : ConnRef → Bool} {st₁ st₂ st₃ : StackState}
variable {ns₁ ns₂ : List Nat} {handover : Bool}

theorem kept_object (_h : TimesOut cfg env r st ns dropped st₁ ns₁ handover st₂ ns₂ st₃)
    (hq : q ∈ ((st.view cfg).without dropped).members) :
    q ∈ st.connectionList cfg ∧ ((st.view cfg).without dropped).object q = st.conn q := by
  obtain ⟨hq, hkept⟩ := (View.mem_without _).mp hq
  rw [View.without_object, hkept]
  exact ⟨hq, rfl⟩

/-- What the hand-over does to the others. -/
theorem handsOver_object
    (h : TimesOut cfg env r st ns dropped st₁ ns₁ handover st₂ ns₂ st₃)
    (hq : q ∈ st₂.connectionList cfg) (hne : q ≠ r) :
    q ∈ st.connectionList cfg ∧ (st₂.conn q = st.conn q ∨
      View.canTakeOver (st.conn r).producedPath.instanceId (st.conn q) = true ∧
        isMulticastMaster (st.conn r) = true) := by
  have hvacates := vacates_vacate ((st.view cfg).without dropped) r
  rw [← view_members, h.expired.view_eq, View.expired, View.modify_members] at hq
  rw [← view_object cfg, h.expired.view_eq, View.expired, View.modify_object_of_ne _ hne]
  obtain ⟨hmember, hobject⟩ := h.kept_object (hvacates.member hq)
  refine ⟨hmember, ?_⟩
  have hpassed := hvacates.object hq hne
  rw [h.object_eq, hobject] at hpassed
  obtain hsame | ⟨hmaster, htakes, -⟩ := hpassed
  · exact .inl hsame
  · exact .inr ⟨htakes, hmaster⟩

theorem passesOn_of_fed
    (h : TimesOut cfg env r st ns dropped st₁ ns₁ handover st₂ ns₂ st₃)
    (howner : (st.conn r).instanceType = .ioExclusiveOwner)
    (howner₂ : (st₂.conn r).instanceType = .ioExclusiveOwner)
    (hfed : (st₂.view cfg).Fed (st.conn r).producedPath.instanceId) :
    st.passesOn cfg r = true := by
  obtain ⟨p, hp, hinputOnly, hmaster, hinput⟩ := hfed
  rw [view_object] at hinputOnly hmaster hinput
  have hne : p ≠ r := by
    rintro rfl
    rw [howner₂] at hinputOnly
    cases hinputOnly
  obtain ⟨hp, hsame | ⟨-, hmaster⟩⟩ := h.handsOver_object hp hne
  · rw [hsame] at hinputOnly hmaster hinput
    exact StackState.passesOn_of_fed howner ⟨p, hp, hinputOnly, hmaster, hinput⟩
  · exact passesOn_of_master hmaster

end TimesOut

/-- A connection that is established after the time-out of another one is as before, or
has taken over. -/
theorem handleIoConnectionTimeOut_object (hsound : st.Sound cfg) (hio : r.isIo = true)
    (hestablished : (st.conn r).state = .established)
    (hcall : st.handleIoConnectionTimeOut cfg env r = .ok st')
    (hq : q ∈ st'.connectionList cfg) (hstate : (st'.conn q).state = .established) :
    st'.conn q = st.conn q ∨ st.TakesOver cfg r q := by
  obtain ⟨ns, hlisted⟩ := hsound.wellFormed
  have hr := mem_of_established hsound.regular hestablished
  obtain ⟨dropped, st₁, ns₁, handover, st₂, ns₂, st₃, hstages, rfl⟩ :=
    handleIoConnectionTimeOut_stages hlisted hsound.regular hr hio hcall
  have hne : q ≠ r := by
    rintro rfl
    rw [conn_modifyConn_self] at hstate
    cases hstate
  rw [connectionList_modifyConn] at hq
  rw [conn_modifyConn_of_ne _ hne] at hstate ⊢
  obtain ⟨hdeparted, hr₂, hexpired⟩ := hstages.departed hsound.regular hio hestablished
  have hpassed : ∀ {p}, p ∈ st₂.connectionList cfg → p ≠ r →
      st₂.conn p = st.conn p ∨ st.TakesOver cfg r p := by
    intro p hp hpr
    obtain ⟨-, hsame | ⟨htakes, hmaster⟩⟩ := hstages.handsOver_object hp hpr
    · exact .inl hsame
    · exact .inr ⟨htakes, passesOn_of_master hmaster⟩
  have hcloses := hstages.closes
  rw [closeDependents] at hcloses
  split at hcloses
  · rename_i howner
    have hlasting : (st₂.conn r).lasting = (st.conn r).lasting :=
      (Persists.departs hdeparted.departs).lasting r hr₂
    have hinput := CipConnectionObject.lasting_field hlasting
      (·.producedPath.instanceId) fun _ => rfl
    have htype := CipConnectionObject.lasting_field hlasting (·.instanceType) fun _ => rfl
    have howner₂ := howner.1
    have howner := htype.symm.trans howner₂
    cases hinputs : st₂.closeAllConnectionsForInputWithSameType cfg
        (connectionCloseFunction cfg) (st₂.conn r).producedPath.instanceId .ioInputOnly with
    | error fault => simp only [hinputs, reduceCtorEq] at hcloses
    | ok st₄ =>
        simp only [hinputs] at hcloses
        have hwalkable : st₂.Walkable cfg :=
          ⟨⟨ns₂, hstages.expired.listed⟩, (hdeparted.regular hsound.regular).closable⟩
        obtain ⟨hwalkable₄, hpasses⟩ := closeAllConnections_passes hwalkable (.inl rfl) hinputs
        obtain ⟨-, hpasses'⟩ := closeAllConnections_passes hwalkable₄ (.inr rfl) hcloses
        obtain ⟨-, -, hconn⟩ := closeAllConnections_departed hstages.expired.listed
          (hdeparted.regular hsound.regular) hr₂ (by simp [hexpired]) (by simp [howner₂])
          (by simp [howner₂]) hinputs
        rw [hconn] at hpasses'
        have hall := hpasses.trans hpasses'
        have hq₂ : q ∈ st₂.connectionList cfg := hall.members hq
        rw [hinput] at hall
        obtain hsame | ⟨htakes, hfed⟩ := hall.objects q hq hstate
        · rw [view_object, view_object] at hsame
          rw [hsame]
          exact hpassed hq₂ hne
        · obtain hsame | htaken := hpassed hq₂ hne
          · rw [view_object, hsame] at htakes
            exact .inr ⟨htakes, hstages.passesOn_of_fed howner howner₂ hfed⟩
          · exact .inr htaken
  · cases hcloses
    exact hpassed hq hne

theorem class3ConnectionTimeoutHandler_view (h : st.Listed cfg ns)
    (hcall : st.class3ConnectionTimeoutHandler cfg r = .ok st') :
    st'.view cfg = (st.view cfg).without (· = r) := by
  have hclosed : ∀ {s}, st.closeSessionBySessionHandle (st.conn r) = .ok s →
      Shrunk cfg st ns (st.view cfg) s ns := by
    intro s hs
    simp only [closeSessionBySessionHandle] at hs
    split at hs
    · cases hs
    · rename_i socket _
      cases hclose : st.closeTcpSocket socket with
      | error fault => simp [hclose] at hs
      | ok s₁ =>
          simp only [hclose, Except.ok.injEq] at hs
          subst hs
          have h₁ := shrunk_closeTcpSocket h hclose
          have h₂ := shrunk_clearSession h₁.listed
            ((st.conn r).associatedEncapsulationSession - 1).toNat
          rw [h₁.view_eq] at h₂
          exact h₁.trans h₂
  simp only [class3ConnectionTimeoutHandler,
    checkForTimedOutConnectionsAndCloseTCPConnections] at hcall
  split at hcall
  · cases hcall
  · rename_i s hcheck
    cases hcall
    have hsame : s.view cfg = st.view cfg ∧ s.Listed cfg ns := by
      split at hcheck
      · cases hcheck
        exact ⟨rfl, h⟩
      · have hshrunk := hclosed hcheck
        exact ⟨hshrunk.view_eq, hshrunk.listed⟩
    obtain ⟨ns', hshrunk⟩ := shrunk_closeConnection hsame.2 r
    rw [hshrunk.view_eq, hsame.1]

/-- An explicit connection that times out leaves the list, and leaves all others. -/
theorem manageConnection_discards (hsound : st.Sound cfg) (hio : r.isIo = false)
    (hexpires : (st.conn r).expires elapsedTime = true)
    (hcall : st.manageConnection cfg env elapsedTime r = .ok st') :
    st'.view cfg = (st.view cfg).without (· = r) := by
  obtain ⟨ns, hlisted⟩ := hsound.wellFormed
  have hr := mem_of_established hsound.regular (CipConnectionObject.expires_iff.mp hexpires).1
  have hhandler := manageConnection_timesOut hsound hexpires hcall
  rw [connectionTimeoutFunction_eq hsound.regular hr, hio, if_neg Bool.false_ne_true] at hhandler
  exact class3ConnectionTimeoutHandler_view hlisted hhandler

/-- A turn leaves the connections that stay established as they were, but for one that
takes over. -/
theorem manageConnection_object (hsound : st.Sound cfg)
    (hcall : st.manageConnection cfg env elapsedTime r = .ok st') (hne : q ≠ r)
    (hstate : (st'.conn q).state = .established) (hsound' : st'.Sound cfg) :
    st'.conn q = st.conn q ∨
      r.isIo = true ∧ (st.conn r).expires elapsedTime = true ∧ st.TakesOver cfg r q := by
  have hq := mem_of_established hsound'.regular hstate
  cases manageConnection_turned hsound hcall with
  | idle state same =>
      rw [same]
      exact .inl rfl
  | managed established lives managed => exact .inl (managed.others q hne)
  | expired expires gone departs dummy =>
      cases hio : r.isIo with
      | false =>
          have hview := manageConnection_discards hsound hio expires hcall
          rw [← view_members, hview] at hq
          rw [← view_object cfg, hview, View.without_object, ((View.mem_without _).mp hq).2]
          exact .inl rfl
      | true =>
          have hestablished := (CipConnectionObject.expires_iff.mp expires).1
          have hr := mem_of_established hsound.regular hestablished
          have hhandler := manageConnection_timesOut hsound expires hcall
          rw [connectionTimeoutFunction_eq hsound.regular hr, hio, if_pos rfl] at hhandler
          obtain hsame | htakes :=
            handleIoConnectionTimeOut_object hsound hio hestablished hhandler hq hstate
          · exact .inl hsame
          · exact .inr ⟨rfl, expires, htakes⟩

/-- No connection that is established is behind an explicit one whose turn it times out in. -/
def skipsNobody (cfg : Config) (elapsedTime : UInt64) (turn : ConnRef × StackState) : Bool :=
  turn.1.isIo || !(turn.2.conn turn.1).expires elapsedTime ||
    (turn.2.behind cfg turn.1).all fun q => (turn.2.conn q).state ≠ .established

/-- A production that a time-out passes on finds no taker with a packet rate in front of
the connection whose turn it is. -/
def passesBack (cfg : Config) (elapsedTime : UInt64) (turn : ConnRef × StackState) : Bool :=
  !turn.1.isIo || !(turn.2.conn turn.1).expires elapsedTime || !turn.2.passesOn cfg turn.1 ||
    (turn.2.connectionList cfg).all fun q =>
      q = turn.1 || (turn.2.behind cfg turn.1).contains q ||
        (turn.2.conn q).expectedPacketRate = 0 ||
        !View.canTakeOver (turn.2.conn turn.1).producedPath.instanceId (turn.2.conn q)

/-- The turns so far, for a connection that is established. -/
structure TickPast (cfg : Config) (env : Environment) (elapsedTime : UInt64) (r : ConnRef)
    (st : StackState) (past : List (ConnRef × StackState)) (todo : List Nat)
    (s : StackState) : Prop where
  ticking : Ticking cfg env elapsedTime r st past todo s
  established : (s.conn r).state = .established →
    ∀ turn ∈ past, (turn.2.conn r).state = .established
  ended : ∀ turn ∈ past, turn.1.isIo = false → (turn.2.conn turn.1).expires elapsedTime = true →
    r ∈ turn.2.behind cfg turn.1 → (turn.2.conn r).state = .established →
    todo = [] ∧ (s.conn r).state = .established ∧ turnsOf r past = []
  given : (∀ turn ∈ past, passesBack cfg elapsedTime turn = true) → ∀ t t',
    turnsOf r past = [(r, t)] → t.manageConnection cfg env elapsedTime r = .ok t' →
    (s.conn r).state = .established → (s.conn r).isPaced = true → (t'.conn r).isPaced = true

/-- A connection behind the one whose turn it is has had none. -/
theorem Ticking.waiting {past : List (ConnRef × StackState)} {n : Nat} {todo : List Nat}
    {s : StackState} (h : Ticking cfg env elapsedTime r st past (n :: todo) s)
    (hdata : (s.nodes n).data = some q) (hstate : (s.conn r).state = .established)
    (hr : r ∈ s.behind cfg q) : turnsOf r past = [] ∧ r ≠ q := by
  obtain ⟨ns, pre, hlisted, hns⟩ := h.listed
  rw [behind_eq hlisted hns hdata] at hr
  obtain ⟨m, hm, hmr⟩ := mem_contents.mp hr
  refine ⟨?_, ?_⟩
  · cases h.progress hstate with
    | waits turns left data outlives => exact turns
    | had turns sound before call after done =>
        exact absurd hmr (done m (List.mem_cons_of_mem n hm))
    | cut turns turn explicit expires behind outlives ended => exact turns
  · rintro rfl
    have hn : n ∈ ns := by
      rw [hns]
      exact List.mem_append_right pre List.mem_cons_self
    have hm' : m ∈ ns := by
      rw [hns]
      exact List.mem_append_right pre (List.mem_cons_of_mem n hm)
    have hsame := hlisted.node_unique hn hm' hdata hmr
    have hnodup : (pre ++ n :: todo).Nodup := hns ▸ hlisted.links.nodup
    exact (List.nodup_cons.mp (List.nodup_append.mp hnodup).2.1).1 (hsame ▸ hm)

theorem TickPast.turn {past : List (ConnRef × StackState)} {n : Nat} {todo : List Nat}
    {s s' : StackState} (h : TickPast cfg env elapsedTime r st past (n :: todo) s)
    (hdata : (s.nodes n).data = some q)
    (hcall : s.manageConnection cfg env elapsedTime q = .ok s') :
    ∃ rest, (s'.nodes n).next = rest.head? ∧
      TickPast cfg env elapsedTime r st (past ++ [(q, s)]) rest s' := by
  have hsound := h.ticking.sound
  obtain ⟨rest, hnext, hticking⟩ := h.ticking.turn hdata hcall
  obtain ⟨ns, pre, hlisted, hns⟩ := h.ticking.listed
  obtain ⟨ns', hcalm⟩ := manageConnection_calm hlisted hsound.regular hcall
  have hkept : (s'.conn r).state = .established → (s.conn r).state = .established :=
    fun hstate => (Persists.moves hcalm.moves).established r
      (mem_of_established hticking.sound.regular hstate) hstate
  refine ⟨rest, hnext, hticking, fun hstate turn hturn => ?_,
    fun turn hturn hio hexpires hbehind hstate => ?_,
    fun hpasses t t' hturns hcall' hstate hpaced => ?_⟩
  · obtain hturn | hturn := List.mem_append.mp hturn
    · exact h.established (hkept hstate) turn hturn
    · rw [List.mem_singleton.mp hturn]
      exact hkept hstate
  · obtain hturn | hturn := List.mem_append.mp hturn
    · exact absurd (h.ended turn hturn hio hexpires hbehind hstate).1 (List.cons_ne_nil n todo)
    · obtain rfl := List.mem_singleton.mp hturn
      obtain ⟨hturns, hne⟩ := h.ticking.waiting hdata hstate hbehind
      have hview := manageConnection_discards hsound hio hexpires hcall
      refine ⟨?_, ?_, (turnsOf_append_of_ne hne.symm s).trans hturns⟩
      · obtain ⟨pre', todo', -, hnext', hcases⟩ :=
          hlisted.remaining hns hcalm.listed hcalm.trimmed
        obtain ⟨hn, -⟩ | ⟨-, rfl⟩ := hcases
        · have hq : q ∈ s'.connectionList cfg :=
            hcalm.listed.mem.mpr ⟨n, hn, (hcalm.trimmed.data_eq n hn).trans hdata⟩
          rw [← view_members, hview] at hq
          exact absurd rfl (of_decide_eq_false ((View.mem_without _).mp hq).2)
        · rw [hnext] at hnext'
          exact List.head?_eq_none_iff.mp hnext'
      · rw [← view_object cfg, hview, View.without_object, decide_eq_false hne]
        exact hstate
  · by_cases hqr : q = r
    · subst hqr
      rw [turnsOf_append_self] at hturns
      have hnil : turnsOf q past = [] := by
        cases hpast : turnsOf q past with
        | nil => rfl
        | cons turn turns => simp [hpast] at hturns
      rw [hnil, List.nil_append, List.cons.injEq, Prod.mk.injEq] at hturns
      obtain ⟨⟨-, rfl⟩, -⟩ := hturns
      obtain rfl : s' = t' := Except.ok.inj (hcall.symm.trans hcall')
      exact hpaced
    · rw [turnsOf_append_of_ne hqr] at hturns
      obtain hsame | ⟨hio, hexpires, htakes, hpassesOn⟩ :=
        manageConnection_object hsound hcall (Ne.symm hqr) hstate hticking.sound
      · rw [hsame] at hpaced
        exact h.given (fun turn hturn => hpasses turn (List.mem_append_left _ hturn)) t t'
          hturns hcall' (hkept hstate) hpaced
      · have hback := hpasses (q, s) (List.mem_append_right past List.mem_cons_self)
        have hrate : (s.conn r).expectedPacketRate ≠ 0 := by
          have hlasting := (Persists.moves hcalm.moves).lasting r
            (mem_of_established hticking.sound.regular hstate)
          have hsame := CipConnectionObject.lasting_field hlasting (·.expectedPacketRate)
            fun _ => rfl
          exact hsame ▸ (CipConnectionObject.isPaced_iff.mp hpaced).1
        have hr := mem_of_established hsound.regular (hkept hstate)
        simp only [passesBack, hio, hexpires, hpassesOn, Bool.not_true, Bool.false_or,
          List.all_eq_true] at hback
        have hbehind := hback r hr
        simp only [htakes, hrate, Ne.symm hqr, decide_false, Bool.not_true, Bool.or_false,
          Bool.false_or, List.contains_iff_mem] at hbehind
        obtain ⟨hnone, -⟩ := h.ticking.waiting hdata (hkept hstate) hbehind
        rw [hnone] at hturns
        cases hturns

theorem manageConnections_past (hsound : st.Sound cfg)
    (hcall : st.manageConnections cfg env elapsedTime = .ok st') (r : ConnRef) :
    TickPast cfg env elapsedTime r st (st.manageTurns cfg env elapsedTime) [] st' := by
  have htouched : Touched st
      { st with assemblyData := env.handleApplication st.assemblyData } :=
    ⟨rfl, fun _ => rfl, rfl, rfl, rfl, rfl⟩
  have hstart := (htouched.sound hsound).1
  obtain ⟨ns, hlisted⟩ := hstart.wellFormed
  have hfirst : st.store.connectionList.first = ns.head? := hlisted.links.first_eq
  rw [manageConnections, manageConnectionList, hfirst] at hcall
  rw [manageTurns, hfirst, ← List.nil_append (liveTurns _ _ _ _ _)]
  refine liveWalk_history (fun past n todo s q s' h hdata hbody => h.turn hdata hbody) ?_ hcall
  refine ⟨⟨hstart, ⟨ns, [], hlisted, rfl⟩, fun hstate => ?_⟩, fun _ turn hturn => ?_,
    fun turn hturn => ?_, fun _ t t' hturns => ?_⟩
  · obtain ⟨n, hn, hdata⟩ := hlisted.mem.mp (mem_of_established hstart.regular hstate)
    exact .waits rfl hn hdata .same
  · cases hturn
  · cases hturn
  · cases hturns

/-- The connection had one turn, in which its timers were advanced. -/
structure TimersAdvanced (cfg : Config) (env : Environment) (elapsedTime : UInt64)
    (r : ConnRef) (st st' : StackState) : Prop where
  turn : ∃ s, turnsOf r (st.manageTurns cfg env elapsedTime) = [(r, s)]
  watchdog : (st.conn r).isWatched = true →
    elapsedTime < (st.conn r).inactivityWatchdogTimer ∧
      (st'.conn r).inactivityWatchdogTimer =
        (st.conn r).inactivityWatchdogTimer - elapsedTime
  transmission : (st.conn r).isPaced = true →
    (st'.conn r).transmissionTriggerTimer = (st.conn r).timerAfter cfg elapsedTime

/-- If the connection has a production when the call returns, it had it in its one turn,
in which the transmission timer was advanced. -/
def ProductionAdvanced (cfg : Config) (env : Environment) (elapsedTime : UInt64)
    (r : ConnRef) (st st' : StackState) : Prop :=
  (st'.conn r).isPaced = true → ∃ s,
    turnsOf r (st.manageTurns cfg env elapsedTime) = [(r, s)] ∧ (s.conn r).isPaced = true ∧
      (st'.conn r).transmissionTriggerTimer = (s.conn r).timerAfter cfg elapsedTime

/-- The one turn of a connection that stays established. -/
structure OneTurn (cfg : Config) (env : Environment) (elapsedTime : UInt64) (r : ConnRef)
    (st s s' st' : StackState) : Prop where
  turns : turnsOf r (st.manageTurns cfg env elapsedTime) = [(r, s)]
  before : Outlives (st.conn r) (s.conn r)
  call : s.manageConnection cfg env elapsedTime r = .ok s'
  lives : (s.conn r).expires elapsedTime = false
  established : (s.conn r).state = .established
  managed : ∃ count dataCount,
    s'.conn r = (s.conn r).managed cfg elapsedTime count dataCount
  after : Outlives (s'.conn r) (st'.conn r)

theorem manageConnections_oneTurn (hsound : st.Sound cfg)
    (hcall : st.manageConnections cfg env elapsedTime = .ok st')
    (hskips : ∀ turn ∈ st.manageTurns cfg env elapsedTime, skipsNobody cfg elapsedTime turn = true)
    (hstate : (st'.conn r).state = .established) :
    ∃ s s', OneTurn cfg env elapsedTime r st s s' st' := by
  cases (manageConnections_turnOf hsound hcall).2 hstate with
  | @turn s s' turns sound before call after =>
      have hstate' : (s'.conn r).state = .established := by
        rw [← after.field (f := CipConnectionObject.state) fun _ _ => rfl]
        exact hstate
      cases manageConnection_turned sound call with
      | idle state same => exact absurd (same ▸ hstate') state
      | expired expires gone departs dummy => exact absurd hstate' gone
      | managed established lives managed =>
          exact ⟨s, s', turns, before, call, lives, established, managed.object, after⟩
  | @cut q s turns turn explicit expires behind outlives =>
      have hpast := (manageConnections_past hsound hcall r).established hstate (q, s) turn
      have hskip := hskips (q, s) turn
      simp only [skipsNobody, explicit, expires, Bool.not_true, Bool.false_or,
        List.all_eq_true, decide_eq_true_eq] at hskip
      exact absurd hpast (hskip r behind)

namespace OneTurn

variable {s s' : StackState}

theorem timersAdvanced (h : OneTurn cfg env elapsedTime r st s s' st') :
    TimersAdvanced cfg env elapsedTime r st st' := by
  obtain ⟨count, dataCount, hobject⟩ := h.managed
  have hafter := h.after
  rw [hobject] at hafter
  have hwatch : (s.conn r).isWatched = (st.conn r).isWatched :=
    h.before.field (f := CipConnectionObject.isWatched) fun _ _ => rfl
  have htimer : (s.conn r).inactivityWatchdogTimer = (st.conn r).inactivityWatchdogTimer :=
    h.before.field (f := CipConnectionObject.inactivityWatchdogTimer) fun _ _ => rfl
  refine ⟨⟨s, h.turns⟩, fun hwatched => ⟨?_, ?_⟩, fun hpaced => ?_⟩
  · rw [← hwatch] at hwatched
    rw [← htimer]
    refine UInt64.not_le.mp fun hdue => ?_
    have hlives := h.lives
    rw [CipConnectionObject.expires_iff.mpr ⟨h.established, hwatched, hdue⟩] at hlives
    cases hlives
  · rw [hafter.field (f := CipConnectionObject.inactivityWatchdogTimer) fun _ _ => rfl,
      CipConnectionObject.managed, hwatch, hwatched, htimer]
    rfl
  · have hsocket := (CipConnectionObject.isPaced_iff.mp hpaced).2
    have hsame := h.before.eq_of_producing hsocket
    rw [hsame] at hafter
    rw [hafter.eq_of_producing hsocket, CipConnectionObject.managed, hpaced]
    rfl

theorem productionAdvanced (h : OneTurn cfg env elapsedTime r st s s' st')
    (hpast : TickPast cfg env elapsedTime r st (st.manageTurns cfg env elapsedTime) [] st')
    (hpasses : ∀ turn ∈ st.manageTurns cfg env elapsedTime,
      passesBack cfg elapsedTime turn = true)
    (hstate : (st'.conn r).state = .established) :
    ProductionAdvanced cfg env elapsedTime r st st' := by
  intro hpaced
  obtain ⟨count, dataCount, hobject⟩ := h.managed
  have hpaced' := hpast.given hpasses s s' h.turns h.call hstate hpaced
  have hsame := h.after.eq_of_producing (CipConnectionObject.isPaced_iff.mp hpaced').2
  have hturn : (s.conn r).isPaced = true := by
    rw [hobject] at hpaced'
    exact hpaced'
  refine ⟨s, h.turns, hturn, ?_⟩
  rw [hsame, hobject, CipConnectionObject.managed, hturn]
  rfl

end OneTurn

/-- Whoever is established after a tick had one turn, with its timers advanced, exactly if
nobody established is behind an explicit connection that times out. Whoever produces then has
advanced this production if no time-out passes one to the front. -/
theorem tick_advances_iff (h : Reachable cfg st) (env : Environment) (elapsedTime : UInt64) :
    (∀ st', st.step cfg (env, .manageConnections elapsedTime) = .ok st' →
      ((∀ r, (st'.conn r).state = .established → TimersAdvanced cfg env elapsedTime r st st') ↔
        ∀ turn ∈ st.manageTurns cfg env elapsedTime, skipsNobody cfg elapsedTime turn = true) ∧
      ((∀ turn ∈ st.manageTurns cfg env elapsedTime,
          skipsNobody cfg elapsedTime turn = true ∧ passesBack cfg elapsedTime turn = true) →
        ∀ r, (st'.conn r).state = .established →
          ProductionAdvanced cfg env elapsedTime r st st')) ∧
    ∀ assemblyData, Runs.Reaches (step cfg) (fun label st => freesCleanly cfg label st = true)
        (initialState cfg assemblyData) st →
      freesCleanly cfg (env, .manageConnections elapsedTime) st = true →
      ticksSafely cfg (env, .manageConnections elapsedTime) st = true →
      ∃ st', st.step cfg (env, .manageConnections elapsedTime) = .ok st' := by
  refine ⟨fun st' hcall => ⟨⟨fun hall turn hturn => ?_, fun hskips r hstate => ?_⟩,
    fun hturns r hstate => ?_⟩, fun assemblyData hruns => manageConnections_safely hruns⟩
  · cases hio : turn.1.isIo with
    | true => rw [skipsNobody, hio, Bool.true_or, Bool.true_or]
    | false =>
        cases hexpires : (turn.2.conn turn.1).expires elapsedTime with
        | false => rw [skipsNobody, hexpires, Bool.not_false, Bool.or_true, Bool.true_or]
        | true =>
            rw [skipsNobody, Bool.or_eq_true, List.all_eq_true]
            refine .inr fun q hq => decide_eq_true fun hstate => ?_
            obtain ⟨-, hstate', hnone⟩ :=
              (manageConnections_past h.sound hcall q).ended turn hturn hio hexpires hq hstate
            obtain ⟨s, hone⟩ := (hall q hstate').turn
            rw [hnone] at hone
            cases hone
  · obtain ⟨s, s', hturn⟩ := manageConnections_oneTurn h.sound hcall hskips hstate
    exact hturn.timersAdvanced
  · obtain ⟨s, s', hturn⟩ := manageConnections_oneTurn h.sound hcall
      (fun turn hturn => (hturns turn hturn).1) hstate
    exact hturn.productionAdvanced (manageConnections_past h.sound hcall r)
      (fun turn hturn => (hturns turn hturn).2) hstate

section Sample

open SampleApplication

/-- An exclusive owner in front of a class 3 connection that times out has its timers
advanced. -/
theorem tick_advances_iff_sample : ∃ st st',
    st.connectionList config = [.exclusiveOwner 0, .explicit 0] ∧
      st.step config (tick 10000) = .ok st' ∧
      st'.connectionList config = [.exclusiveOwner 0] ∧
      ∀ r, (st'.conn r).state = .established →
        TimersAdvanced config (tick 10000).1 10000 r st st' ∧
          ProductionAdvanced config (tick 10000).1 10000 r st st' := by
  obtain ⟨st, hreaches, hst⟩ := reaches_of_endsWithin config (freesCleanly config)
    [request (class3 1 1),
      request { exclusiveOwner 2 2 multicast with connectionTimeoutMultiplier := 7 }]
    (fun st => st.connectionList config = [.exclusiveOwner 0, .explicit 0] &&
      freesCleanly config (tick 10000) st && ticksSafely config (tick 10000) st &&
      ((st.manageTurns config (tick 10000).1 10000).all fun turn =>
        skipsNobody config 10000 turn && passesBack config 10000 turn) &&
      returns (st.step config (tick 10000)) fun st' =>
        st'.connectionList config = [.exclusiveOwner 0]) (by decide +kernel)
  simp only [Bool.and_eq_true, List.all_eq_true, returns_iff] at hst
  obtain ⟨⟨⟨⟨hlist, hclean⟩, hsafe⟩, hturns⟩, st', hstep, hlist'⟩ := hst
  have hreachable : Reachable config st :=
    ⟨SampleApplication.assemblyData, hreaches.mono fun _ _ _ => trivial⟩
  obtain ⟨hadvances, hreturns⟩ := tick_advances_iff hreachable (tick 10000).1 10000
  obtain ⟨st₁, hstep₁⟩ := hreturns _ hreaches hclean hsafe
  obtain rfl : st' = st₁ := Except.ok.inj (hstep.symm.trans hstep₁)
  obtain ⟨htimers, hproduction⟩ := hadvances st' hstep
  exact ⟨st, st', of_decide_eq_true hlist, hstep, of_decide_eq_true hlist', fun r hstate =>
    ⟨htimers.mpr (fun turn hturn => (hturns turn hturn).1) r hstate,
      hproduction hturns r hstate⟩⟩

/-- Of two class 3 connections that are due in a tick of 20 s the second has no turn. An
input-only connection in front of the owner that times out takes over after its turn. -/
theorem tick_skips : (∃ st st', Reachable config st ∧
      st.step config (tick 20000) = .ok st' ∧ (st'.conn (.explicit 0)).state = .established ∧
      ¬TimersAdvanced config (tick 20000).1 20000 (.explicit 0) st st') ∧
    ∃ st st', Reachable config st ∧ st.step config (tick 10000) = .ok st' ∧
      (st'.conn (.inputOnly 0 0)).state = .established ∧
      ¬ProductionAdvanced config (tick 10000).1 10000 (.inputOnly 0 0) st st' := by
  refine ⟨?_, ?_⟩
  · obtain ⟨st, hreachable, hst⟩ := reachable_of_ends config
      [request (class3 1 1), request (class3 2 1)]
      (fun st => (turnsOf (.explicit 0) (st.manageTurns config (tick 20000).1 20000)).isEmpty &&
        returns (st.step config (tick 20000)) fun st' =>
          (st'.conn (.explicit 0)).state = .established) (by decide +kernel)
    rw [Bool.and_eq_true, returns_iff] at hst
    obtain ⟨hnone, st', hstep, hstate⟩ := hst
    refine ⟨st, st', hreachable, hstep, of_decide_eq_true hstate, fun hadvanced => ?_⟩
    obtain ⟨s, hone⟩ := hadvanced.turn
    rw [hone] at hnone
    cases hnone
  · obtain ⟨st, hreachable, hst⟩ := reachable_of_ends config
      [request (exclusiveOwner 1 1 multicast),
        request { inputOnly 2 2 multicast with connectionTimeoutMultiplier := 7 }]
      (fun st => ((turnsOf (.inputOnly 0 0) (st.manageTurns config (tick 10000).1 10000)).all
          fun turn => !(turn.2.conn (.inputOnly 0 0)).isPaced) &&
        returns (st.step config (tick 10000)) fun st' =>
          (st'.conn (.inputOnly 0 0)).state = .established &&
            (st'.conn (.inputOnly 0 0)).isPaced) (by decide +kernel)
    rw [Bool.and_eq_true, returns_iff] at hst
    obtain ⟨hsilent, st', hstep, htick⟩ := hst
    obtain ⟨hstate, hpaced⟩ := Bool.and_eq_true_iff.mp htick
    refine ⟨st, st', hreachable, hstep, of_decide_eq_true hstate, fun hadvanced => ?_⟩
    obtain ⟨s, hone, hturn, -⟩ := hadvanced hpaced
    rw [hone, List.all_cons, hturn] at hsilent
    cases hsilent

end Sample

end StackState

end Opener
