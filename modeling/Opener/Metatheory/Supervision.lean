import Opener.Metatheory.Courses
import Opener.Metatheory.Handover
import Opener.Metatheory.TickReturns

/-!
Pools, transport classes and the inactivity watchdog. The class that the path
addresses chooses the pool, the request's transport byte the transport class and,
by its direction, whether `ManageConnections` watches an explicit connection. The
two agree as far as the requests do. The loop of `ManageConnections` ends after a
class 3 time-out, so the explicit connections behind it are not watched in that
tick; and a tick that does not return watches none.
-/

namespace Opener

open LinkedCells

namespace CipConnectionObject

/-- The object suits the pool of the slot. It is watched if that is the explicit one, and
can send if not. -/
def suits (r : ConnRef) (c : CipConnectionObject) : Bool :=
  if r.isIo then (c.transportClass = .class0 || c.transportClass = .class1) &&
    c.connectionSendDataFunction = some .sendConnectedData
  else c.transportClass = .class3 && c.transportClassTriggerDirection = .server

theorem suits_lasting {c d : CipConnectionObject} (h : d.lasting = c.lasting) (r : ConnRef) :
    d.suits r = c.suits r :=
  lasting_field h (suits r) fun _ => rfl

end CipConnectionObject

open CipConnectionObject

/-- Every listed connection suits its pool. -/
def View.Suited (V : View) : Prop := ∀ r ∈ V.members, (V.object r).suits r = true

/-- Every listed connection has the property, which may depend on its slot. -/
def View.EachSlot (P : ConnRef → CipConnectionObject → Prop) (V : View) : Prop :=
  ∀ r ∈ V.members, P r (V.object r)

namespace View.EachSlot

variable {V V' : View} {P : ConnRef → CipConnectionObject → Prop}

theorem persists (hP : ∀ r c d, d.lasting = c.lasting → P r c → P r d) (h : V.EachSlot P)
    (hpersists : Persists V V') : V'.EachSlot P := by
  intro r hr
  exact hP r _ _ (hpersists.lasting r hr) (h r (hpersists.sublist.subset hr))

theorem insert (hP : ∀ r c d, d.lasting = c.lasting → P r c → P r d) (h : V.EachSlot P)
    {r : ConnRef} (hmembers : V'.members = r :: V.members)
    (hothers : ∀ s ∈ V.members, (V'.object s).lasting = (V.object s).lasting)
    (hself : P r (V'.object r)) : V'.EachSlot P := by
  intro s hs
  rw [hmembers] at hs
  obtain rfl | hs := List.mem_cons.mp hs
  · exact hself
  · exact hP s _ _ (hothers s hs) (h s hs)

end View.EachSlot

theorem suits_persistent (r : ConnRef) (c d : CipConnectionObject) (h : d.lasting = c.lasting)
    (hc : c.suits r = true) : d.suits r = true :=
  (suits_lasting h r).trans hc

theorem View.Suited.persists {V V' : View} (h : V.Suited) (hpersists : Persists V V') :
    V'.Suited :=
  View.EachSlot.persists suits_persistent h hpersists

namespace StackState

variable {cfg : Config} {env : Environment} {label : Environment × Action}
variable {st st₁ st' : StackState}

/-- A request for the Message Router that finds a free slot asks for a class 3
server, one for an assembly for class 0 or 1. -/
def grantsSuited (cfg : Config) (label : Environment × Action) (st : StackState) : Bool :=
  match openEntry cfg label st with
  | none => true
  | some st =>
      (st.dummy.configurationPath.classId ≠ messageRouterClassCode ||
        (st.getFreeExplicitConnection cfg).isNone ||
        (st.dummy.transportClass = .class3 &&
          st.dummy.transportClassTriggerDirection = .server)) &&
      (st.dummy.configurationPath.classId ≠ assemblyClassCode ||
        (st.ioConnectionLookup cfg).1.slot.isNone ||
        st.dummy.transportClass = .class0 || st.dummy.transportClass = .class1)

/-- The connections behind `r` in the list. -/
def behind (cfg : Config) (r : ConnRef) (st : StackState) : List ConnRef :=
  ((st.connectionList cfg).dropWhile fun s => s ≠ r).tail

/-- No explicit connection is behind one that times out. -/
def advancesAll (cfg : Config) (label : Environment × Action) (st : StackState) : Bool :=
  match label with
  | (env, .manageConnections elapsedTime) =>
      (st.manageTurns cfg env elapsedTime).all fun turn =>
        turn.1.isIo || !(turn.2.conn turn.1).expires elapsedTime ||
          (turn.2.behind cfg turn.1).all ConnRef.isIo
  | _ => true

def keepsSupervised (cfg : Config) (label : Environment × Action) (st : StackState) : Bool :=
  grantsSuited cfg label st && advancesAll cfg label st && freesCleanly cfg label st &&
    ticksSafely cfg label st

theorem keepsSupervised_iff : keepsSupervised cfg label st = true ↔
    grantsSuited cfg label st = true ∧ advancesAll cfg label st = true ∧
      freesCleanly cfg label st = true ∧ ticksSafely cfg label st = true := by
  simp only [keepsSupervised, Bool.and_eq_true, and_assoc]

theorem getFreeExplicitConnection_isSome {r : ConnRef} (hvalid : r.Valid cfg)
    (hio : r.isIo = false) (hstate : (st.conn r).state = .nonExistent) :
    (st.getFreeExplicitConnection cfg).isNone = false := by
  cases r with
  | explicit i =>
      rw [getFreeExplicitConnection, Option.isNone_map, Option.isNone_eq_false_iff,
        List.find?_isSome]
      exact ⟨i, List.mem_range.mpr hvalid, by simp [hstate]⟩
  | exclusiveOwner _ | inputOnly _ _ | listenOnly _ _ => cases hio

/-- A request keeps such a property if the connection that it opens has it. -/
theorem Answered.eachSlot {P : ConnRef → CipConnectionObject → Prop}
    (hP : ∀ r c d, d.lasting = c.lasting → P r c → P r d)
    (hio : ∀ r c, st.dummy.configurationPath.classId = assemblyClassCode →
      (st.ioConnectionLookup cfg).1.slot = some r → r.isIo = true →
      Admitted cfg st.dummy r c → P r c)
    (hclass3 : ∀ r c, st.dummy.configurationPath.classId = messageRouterClassCode →
      r ∉ st.connectionList cfg → r.isIo = false → Kind cfg r c →
      Granted cfg env st.dummy st.connectionId c → P r c)
    {status : OpenStatus} {V : View} (hanswered : Answered cfg env st status V)
    (h : (st.view cfg).EachSlot P) : V.EachSlot P := by
  cases hanswered with
  | unchanged failed => exact h
  | io assembly established =>
      cases established with
      | nothing failed lookup => exact h
      | refused failed chosen finds instanceType vacated idle =>
          exact h.persists hP
            ((Persists.vacated vacated).trans (.scratch vacated.not_mem _ _))
      | opened chosen finds instanceType vacated opens granted points =>
          exact (h.persists hP (.vacated vacated)).insert hP opens.members_eq
            (fun s hs => (opens.others vacated.not_mem hs).1)
            (hio _ _ assembly vacated.slot chosen.io opens.admitted)
  | @class3 r c unlisted explicit kind established granted router =>
      refine h.insert hP rfl (fun s hs => ?_) ?_
      · rw [View.insert_object_of_ne _ (ne_of_mem_of_not_mem hs unlisted)]
      · rw [View.insert_object_self]
        exact hclass3 r c router unlisted explicit kind granted

theorem Answered.suited {status : OpenStatus} {V : View}
    (hentry : openEntry cfg label st = some st₁) (hsound : st₁.Sound cfg)
    (hgrants : grantsSuited cfg label st = true) (hanswered : Answered cfg label.1 st₁ status V)
    (hsuited : (st₁.view cfg).Suited) : V.Suited := by
  simp only [grantsSuited, hentry, Bool.and_eq_true] at hgrants
  refine hanswered.eachSlot suits_persistent ?_ ?_ hsuited
  · intro r c hassembly hslot hio hadmitted
    rw [suits, if_pos hio, hadmitted.transport, hadmitted.sends]
    simpa [hassembly, hslot] using hgrants.2
  · intro r c hrouter hunlisted hexplicit hkind hgranted
    rw [suits, if_neg (by simp [hexplicit]),
      terms_field hgranted.terms (·.transportClass) fun _ => rfl,
      terms_field hgranted.terms (·.transportClassTriggerDirection) fun _ => rfl]
    have hfree := getFreeExplicitConnection_isSome hkind.valid hexplicit
      (hsound.regular.idle r hunlisted).state
    simpa [hrouter, hfree] using hgrants.1

theorem suited_of_reaches {allowed : Environment × Action → StackState → Prop}
    (hallowed : ∀ label st, allowed label st → grantsSuited cfg label st = true)
    {assemblyData : UInt16 → List UInt8}
    (h : Runs.Reaches (step cfg) allowed (initialState cfg assemblyData) st) :
    st.Sound cfg ∧ (st.view cfg).Suited := by
  refine view_invariant View.Suited ?_ ?_ (sound_initialState cfg assemblyData) ?_ h
  · intro V V' _ hmove hsuited
    exact hsuited.persists (.move hmove)
  · intro label s s₁ status V hlabel _ hentry hsound₁ _ hanswered hsuited
    exact Answered.suited hentry hsound₁ (hallowed label s hlabel) hanswered hsuited
  · intro r hr
    rw [view_members, connectionList_initialState] at hr
    cases hr

/-- An I/O connection has the function that sends its data. -/
def SendsData (r : ConnRef) (c : CipConnectionObject) : Prop :=
  r.isIo = true → c.connectionSendDataFunction = some .sendConnectedData

theorem sendsData_of_reaches {allowed : Environment × Action → StackState → Prop}
    {assemblyData : UInt16 → List UInt8}
    (h : Runs.Reaches (step cfg) allowed (initialState cfg assemblyData) st) :
    (st.view cfg).EachSlot SendsData := by
  have hkeeps : ∀ r c d, d.lasting = c.lasting → SendsData r c → SendsData r d := by
    intro r c d hlasting hc hio
    rw [lasting_field hlasting (·.connectionSendDataFunction) fun _ => rfl]
    exact hc hio
  refine (view_invariant (View.EachSlot SendsData) ?_ ?_ (sound_initialState cfg assemblyData)
    ?_ h).2
  · intro V V' _ hmove hsends
    exact hsends.persists hkeeps (.move hmove)
  · intro label s s₁ status V _ _ _ _ _ hanswered hsends
    refine hanswered.eachSlot hkeeps ?_ ?_ hsends
    · intro r c _ _ _ hadmitted _
      exact hadmitted.sends
    · intro r c _ _ hexplicit _ _ hio
      rw [hexplicit] at hio
      cases hio
  · intro r hr
    rw [view_members, connectionList_initialState] at hr
    cases hr

/-- A tick of a run that frees its sessions cleanly returns if its turns are safe. -/
theorem manageConnections_safely {assemblyData : UInt16 → List UInt8} {elapsedTime : UInt64}
    (h : Runs.Reaches (step cfg) (fun label st => freesCleanly cfg label st = true)
      (initialState cfg assemblyData) st)
    (hclean : freesCleanly cfg (env, .manageConnections elapsedTime) st = true)
    (hsafe : ticksSafely cfg (env, .manageConnections elapsedTime) st = true) :
    ∃ st', st.manageConnections cfg env elapsedTime = .ok st' := by
  obtain ⟨owner, hwatched⟩ := h.watched (ownersAfter cfg) fun _ => eipInvalidSocket
  exact manageConnections_returns (owned_of_reaches hwatched) hclean hsafe
    (sendsData_of_reaches h)

/-- A turn for a watched explicit connection: it is closed when it expires, and else
its watchdog is lowered. -/
theorem manageConnection_explicit (hsound : st.Sound cfg) {r : ConnRef}
    (hr : r ∈ st.connectionList cfg) (hio : r.isIo = false)
    (hsuits : (st.conn r).suits r = true) {elapsedTime : UInt64}
    (hcall : st.manageConnection cfg env elapsedTime r = .ok st') :
    ((st.conn r).expires elapsedTime = true ∧ r ∉ st'.connectionList cfg) ∨
      (elapsedTime < (st.conn r).inactivityWatchdogTimer ∧
        (st'.conn r).inactivityWatchdogTimer =
          (st.conn r).inactivityWatchdogTimer - elapsedTime ∧
        st'.store.connectionList = st.store.connectionList) := by
  obtain ⟨ns, hlisted⟩ := hsound.wellFormed
  have hkind := hsound.regular.kind r hr
  have hestablished : (st.conn r).state = .established := by
    obtain hstate | ⟨-, hnot⟩ := hkind.state
    · exact hstate
    · rw [hio] at hnot
      cases hnot
  have hserver : (st.conn r).transportClassTriggerDirection = .server := by
    rw [suits, if_neg (by simp [hio]), Bool.and_eq_true] at hsuits
    exact of_decide_eq_true hsuits.2
  have htimeout : st.connectionTimeoutFunction cfg env r =
      st.class3ConnectionTimeoutHandler cfg r := by
    rw [connectionTimeoutFunction_eq hsound.regular hr, if_neg (by simp [hio])]
  simp only [manageConnection, hestablished, if_true, superviseConnection, hserver, or_true,
    htimeout] at hcall
  by_cases hdue : elapsedTime ≥ (st.conn r).inactivityWatchdogTimer
  · rw [if_pos hdue] at hcall
    cases hhandler : st.class3ConnectionTimeoutHandler cfg r with
    | error fault => simp [hhandler] at hcall
    | ok st₂ =>
        simp only [hhandler] at hcall
        obtain ⟨ns₂, hdiscarded, hgone⟩ := class3Timeout_discarded hlisted hr hio hhandler
        have hstate := ((hdiscarded.regular hsound.regular).idle r hgone).state
        rw [view_object] at hstate
        rw [if_neg (by simp [hstate])] at hcall
        cases hcall
        refine .inl ⟨?_, hgone⟩
        simp [expires, hestablished, hserver, hdue]
  · rw [if_neg hdue] at hcall
    have hlowered := conn_modifyConn_self st r fun c =>
      { c with
        inactivityWatchdogTimer := c.inactivityWatchdogTimer - elapsedTime
        lastPackageWatchdogTimer := c.lastPackageWatchdogTimer - elapsedTime }
    simp only [hlowered, hestablished, if_true] at hcall
    rw [produceConnection, hlowered, if_neg] at hcall
    · cases hcall
      refine .inr ⟨UInt64.not_le.mp hdue, ?_, rfl⟩
      rw [hlowered]
    · exact fun hproduces => hproduces.2 (hkind.silent hio).1

theorem superviseConnection_stays (hsound : st.Sound cfg) {r : ConnRef}
    (hr : r ∈ st.connectionList cfg) (hio : r.isIo = true)
    (hestablished : (st.conn r).state = .established) {elapsedTime : UInt64}
    (hcall : st.superviseConnection cfg env elapsedTime r = .ok st') :
    r ∈ st'.connectionList cfg := by
  obtain ⟨ns, hlisted⟩ := hsound.wellFormed
  rw [superviseConnection] at hcall
  split at hcall
  · split at hcall
    · rw [connectionTimeoutFunction_eq hsound.regular hr, if_pos hio] at hcall
      exact (handleIoConnectionTimeOut_departed hlisted hsound.regular hr hio hestablished
        hcall).2.1
    · cases hcall
      exact hr
  · cases hcall
    exact hr

theorem manageConnection_stays (hsound : st.Sound cfg) {r : ConnRef}
    (hr : r ∈ st.connectionList cfg) (hio : r.isIo = true) {elapsedTime : UInt64}
    (hcall : st.manageConnection cfg env elapsedTime r = .ok st') :
    r ∈ st'.connectionList cfg := by
  rw [manageConnection] at hcall
  split at hcall
  · rename_i hestablished
    split at hcall
    · cases hcall
    · rename_i st₂ hsupervise
      have hr₂ := superviseConnection_stays hsound hr hio hestablished hsupervise
      split at hcall
      · have hsilent : Silent cfg st₂ st' := produceConnection_silent hcall
        have hmember := mem_ioConnections.mpr ⟨hr₂, hio⟩
        rw [← hsilent.members] at hmember
        exact (mem_ioConnections.mp hmember).1
      · cases hcall
        exact hr₂
  · cases hcall
    exact hr

theorem manageConnection_leaves (hsound : st.Sound cfg) {r : ConnRef}
    (hr : r ∈ st.connectionList cfg) (hsuits : (st.conn r).suits r = true)
    {elapsedTime : UInt64} (hcall : st.manageConnection cfg env elapsedTime r = .ok st')
    (hgone : r ∉ st'.connectionList cfg) :
    r.isIo = false ∧ (st.conn r).expires elapsedTime = true := by
  cases hio : r.isIo with
  | true => exact absurd (manageConnection_stays hsound hr hio hcall) hgone
  | false =>
      obtain ⟨hexpires, -⟩ | ⟨-, -, hlist⟩ :=
        manageConnection_explicit hsound hr hio hsuits hcall
      · exact ⟨rfl, hexpires⟩
      · refine absurd ?_ hgone
        rw [connectionList, hlist]
        exact hr

/-- How far the loop of `ManageConnections` has come: the explicit connections before
the nodes that are left have been lowered, those at these nodes have not. -/
structure Advanced (cfg : Config) (elapsedTime : UInt64) (st : StackState) (todo : List Nat)
    (s : StackState) : Prop where
  sound : s.Sound cfg
  persists : Persists (st.view cfg) (s.view cfg)
  progress : ∃ ns pre, s.Listed cfg ns ∧ ns = pre ++ todo ∧
    (∀ n ∈ todo, ∀ q, (s.nodes n).data = some q →
      (s.conn q).inactivityWatchdogTimer = (st.conn q).inactivityWatchdogTimer) ∧
    ∀ n ∈ pre, ∀ q, (s.nodes n).data = some q → q.isIo = false →
      elapsedTime < (st.conn q).inactivityWatchdogTimer ∧
        (s.conn q).inactivityWatchdogTimer =
          (st.conn q).inactivityWatchdogTimer - elapsedTime

theorem behind_eq {ns pre todo : List Nat} {n : Nat} {r : ConnRef} (h : st.Listed cfg ns)
    (hns : ns = pre ++ n :: todo) (hdata : (st.nodes n).data = some r) :
    st.behind cfg r = contents st.nodes todo := by
  have hlist : st.connectionList cfg =
      contents st.nodes pre ++ r :: contents st.nodes todo := by
    refine h.members_eq.trans ?_
    rw [hns, contents_append]
    exact congrArg (contents st.nodes pre ++ ·) (contents_cons hdata todo)
  have hnodup : (st.connectionList cfg).Nodup := WellFormed.nodup ⟨ns, h⟩
  rw [hlist] at hnodup
  have hbefore : ∀ s ∈ contents st.nodes pre, decide (s ≠ r) = true := by
    intro s hs
    have hne := (List.nodup_append.mp hnodup).2.2 s hs r List.mem_cons_self
    exact decide_eq_true hne
  rw [behind, hlist, List.dropWhile_append_of_pos hbefore, List.dropWhile_cons_of_neg (by simp)]
  rfl

theorem Advanced.turn {elapsedTime : UInt64} {n : Nat} {todo : List Nat} {s s' : StackState}
    {r : ConnRef} (h : Advanced cfg elapsedTime st (n :: todo) s)
    (hsuited : (s.view cfg).Suited) (hdata : (s.nodes n).data = some r)
    (hadvances : r.isIo = false → (s.conn r).expires elapsedTime = true →
      (s.behind cfg r).all ConnRef.isIo = true)
    (hcall : s.manageConnection cfg env elapsedTime r = .ok s') :
    ∃ rest, (s'.nodes n).next = rest.head? ∧ Advanced cfg elapsedTime st rest s' := by
  obtain ⟨ns, pre, hlisted, hns, hleft, hdone⟩ := h.progress
  have hregular := h.sound.regular
  have hn : n ∈ ns := by
    rw [hns]
    exact List.mem_append_right pre List.mem_cons_self
  have hr : r ∈ s.connectionList cfg := hlisted.mem.mpr ⟨n, hn, hdata⟩
  have hnodup : (pre ++ n :: todo).Nodup := hns ▸ hlisted.links.nodup
  obtain ⟨ns', hcalm⟩ := manageConnection_calm hlisted hregular hcall
  obtain ⟨pre', rest, hns', hnext, hcases⟩ := hlisted.remaining hns hcalm.listed hcalm.trimmed
  have hdata' : ∀ m ∈ ns', ∀ q, (s'.nodes m).data = some q → (s.nodes m).data = some q :=
    fun m hm q hq => (hcalm.trimmed.data_eq m hm) ▸ hq
  have hkept : ∀ m ∈ ns', ∀ q, (s'.nodes m).data = some q → m ≠ n →
      (s'.conn q).inactivityWatchdogTimer = (s.conn q).inactivityWatchdogTimer := by
    intro m hm q hq hmn
    have hne : q ≠ r := by
      rintro rfl
      exact hmn (hlisted.node_unique hn (hcalm.trimmed.sublist.subset hm) hdata
        (hdata' m hm q hq)).symm
    exact manageConnection_watchdog hlisted hregular hcall hne
      (hcalm.listed.mem.mpr ⟨m, hm, hq⟩)
  have htail := List.nodup_cons.mp (List.nodup_append.mp hnodup).2.1
  have hrest : ∀ m ∈ rest, m ∈ todo := by
    intro m hm
    obtain ⟨-, rfl⟩ | ⟨-, rfl⟩ := hcases
    · exact (List.mem_filter.mp hm).1
    · cases hm
  refine ⟨rest, hnext, hcalm.sound h.sound, h.persists.trans (.moves hcalm.moves), ns', pre',
    hcalm.listed, hns', fun m hm q hq => ?_, fun m hm q hq hexplicit => ?_⟩
  · have hm' : m ∈ ns' := hns' ▸ List.mem_append_right pre' hm
    have hmn : m ≠ n := fun heq => htail.1 (heq ▸ hrest m hm)
    rw [hkept m hm' q hq hmn]
    exact hleft m (List.mem_cons_of_mem n (hrest m hm)) q (hdata' m hm' q hq)
  · have hm' : m ∈ ns' := hns' ▸ List.mem_append_left rest hm
    have hmember := hcalm.trimmed.sublist.subset hm'
    rw [hns] at hmember
    obtain hbefore | hmember := List.mem_append.mp hmember
    · have hmn : m ≠ n := (List.nodup_append.mp hnodup).2.2 m hbefore n List.mem_cons_self
      rw [hkept m hm' q hq hmn]
      exact hdone m hbefore q (hdata' m hm' q hq) hexplicit
    · obtain rfl | hbehind := List.mem_cons.mp hmember
      · have hqr : q = r := Option.some.inj ((hdata' m hm' q hq).symm.trans hdata)
        subst hqr
        have hwatchdog := hleft m List.mem_cons_self q hdata
        obtain ⟨-, hgone⟩ | ⟨hlt, hlowered, -⟩ :=
          manageConnection_explicit h.sound hr hexplicit (hsuited q hr) hcall
        · exact absurd (hcalm.listed.mem.mpr ⟨m, hm', hq⟩) hgone
        · exact ⟨hwatchdog ▸ hlt, hlowered.trans (congrArg (· - elapsedTime) hwatchdog)⟩
      · exfalso
        obtain ⟨-, rfl⟩ | ⟨hleaves, -⟩ := hcases
        · have hnodup' : (pre' ++ todo.filter (· ∈ ns')).Nodup := hns' ▸ hcalm.listed.links.nodup
          exact (List.nodup_append.mp hnodup').2.2 m hm m
            (List.mem_filter.mpr ⟨hbehind, by simpa using hm'⟩) rfl
        · have hgone : r ∉ s'.connectionList cfg := by
            intro hmem
            obtain ⟨m', hm', hr'⟩ := hcalm.listed.mem.mp hmem
            have hsame := hlisted.node_unique hn (hcalm.trimmed.sublist.subset hm') hdata
              (hdata' m' hm' r hr')
            exact hleaves (hsame ▸ hm')
          obtain ⟨hio, hexpires⟩ :=
            manageConnection_leaves h.sound hr (hsuited r hr) hcall hgone
          have hall := hadvances hio hexpires
          rw [behind_eq hlisted hns hdata, List.all_eq_true] at hall
          have hq' := hall q (mem_contents.mpr ⟨m, hbehind, hdata' m hm' q hq⟩)
          rw [hexplicit] at hq'
          cases hq'

/-- A tick lowers the watchdog of every explicit connection that it does not close. -/
theorem manageConnections_supervises (hsound : st.Sound cfg) (hsuited : (st.view cfg).Suited)
    {elapsedTime : UInt64}
    (hadvances : advancesAll cfg (env, .manageConnections elapsedTime) st = true)
    (hcall : st.manageConnections cfg env elapsedTime = .ok st') :
    st'.Sound cfg ∧ ∀ r ∈ st'.connectionList cfg, r.isIo = false →
      elapsedTime < (st.conn r).inactivityWatchdogTimer ∧
        (st'.conn r).inactivityWatchdogTimer =
          (st.conn r).inactivityWatchdogTimer - elapsedTime := by
  have htouched : Touched st
      { st with assemblyData := env.handleApplication st.assemblyData } :=
    ⟨rfl, fun _ => rfl, rfl, rfl, rfl, rfl⟩
  have hstart := (htouched.sound hsound).1
  obtain ⟨ns, hlisted⟩ := hstart.wellFormed
  have hfirst : st.store.connectionList.first = ns.head? := hlisted.links.first_eq
  have hturns := List.all_eq_true.mp hadvances
  rw [manageTurns, hfirst] at hturns
  have hadvanced : Advanced cfg elapsedTime st []
      st' := by
    rw [manageConnections, manageConnectionList, hfirst] at hcall
    refine liveWalk_visits ?_ ⟨hstart, .refl _, ns, [], hlisted, rfl, fun _ _ _ _ => rfl,
      fun _ hn => absurd hn (List.not_mem_nil)⟩ hcall
    intro n todo s r s' h hdata hturn hbody
    refine h.turn (hsuited.persists h.persists) hdata (fun hio hexpires => ?_) hbody
    have hall := hturns (r, s) hturn
    simpa [hio, hexpires] using hall
  obtain ⟨ns', pre, hlisted', hns', -, hdone⟩ := hadvanced.progress
  refine ⟨hadvanced.sound, fun r hr hio => ?_⟩
  obtain ⟨n, hn, hdata⟩ := hlisted'.mem.mp hr
  rw [hns', List.append_nil] at hn
  exact hdone n hn r hdata hio

theorem mem_of_occupied (hsound : st.Sound cfg) {r : ConnRef}
    (h : (st.conn r).state ≠ .nonExistent) : r ∈ st.connectionList cfg := by
  by_contra hr
  exact h (hsound.regular.idle r hr).state

/-- Occupied explicit slots are of class 3 and the other ones of class 0 or 1, and a
tick returns and lowers the watchdog of an established explicit connection or closes it. -/
theorem pools_supervised {assemblyData : UInt16 → List UInt8}
    (h : Runs.Reaches (step cfg) (fun label st => keepsSupervised cfg label st = true)
      (initialState cfg assemblyData) st) :
    (∀ r, (st.conn r).state ≠ .nonExistent →
      if r.isIo then (st.conn r).transportClass = .class0 ∨ (st.conn r).transportClass = .class1
      else (st.conn r).transportClass = .class3) ∧
    ∀ env elapsedTime, keepsSupervised cfg (env, .manageConnections elapsedTime) st = true →
      ∃ st', st.step cfg (env, .manageConnections elapsedTime) = .ok st' ∧
      ∀ r, r.isIo = false → (st.conn r).state = .established →
        ((st'.conn r).state = .established ∧
          elapsedTime < (st.conn r).inactivityWatchdogTimer ∧
          (st'.conn r).inactivityWatchdogTimer =
            (st.conn r).inactivityWatchdogTimer - elapsedTime) ∨
        (st'.conn r).state = .nonExistent := by
  have hgrants : ∀ label st, keepsSupervised cfg label st = true →
      grantsSuited cfg label st = true :=
    fun label st hkeeps => (keepsSupervised_iff.mp hkeeps).1
  obtain ⟨hsound, hsuited⟩ := suited_of_reaches hgrants h
  refine ⟨fun r hstate => ?_, fun env elapsedTime hkeeps => ?_⟩
  · have hsuits := hsuited r (mem_of_occupied hsound hstate)
    rw [view_object, suits] at hsuits
    split at hsuits
    · rename_i hio
      rw [if_pos hio]
      rw [Bool.and_eq_true] at hsuits
      simpa using hsuits.1
    · rename_i hio
      rw [if_neg hio]
      rw [Bool.and_eq_true] at hsuits
      exact of_decide_eq_true hsuits.1
  · obtain ⟨-, hadvances, hclean, hsafe⟩ := keepsSupervised_iff.mp hkeeps
    have hcleanly : Runs.Reaches (step cfg) (fun label st => freesCleanly cfg label st = true)
        (initialState cfg assemblyData) st :=
      h.mono fun label s hlabel => (keepsSupervised_iff.mp hlabel).2.2.1
    obtain ⟨st', hstep⟩ := manageConnections_safely hcleanly hclean hsafe
    refine ⟨st', hstep, fun r hio _ => ?_⟩
    obtain ⟨hsound', hlowered⟩ := manageConnections_supervises hsound hsuited hadvances hstep
    by_cases hr : r ∈ st'.connectionList cfg
    · refine .inl ⟨?_, hlowered r hr hio⟩
      obtain hstate | ⟨-, hnot⟩ := (hsound'.regular.kind r hr).state
      · exact hstate
      · rw [hio] at hnot
        cases hnot
    · exact .inr (hsound'.regular.idle r hr).state

open SampleApplication in
/-- A class 3 connection and an exclusive owner, and a tick of 100 ms. -/
theorem pools_supervised_sample :
    ∃ st, Runs.Reaches (step config) (fun label st => keepsSupervised config label st = true)
        (initialState config SampleApplication.assemblyData) st ∧
      ((st.conn (.explicit 0)).state = .established ∧
        (st.conn (.exclusiveOwner 0)).state = .established ∧
        keepsSupervised config (tick 100) st = true) ∧
      (st.conn (.explicit 0)).transportClass = .class3 ∧
      ∃ st', st.step config (tick 100) = .ok st' ∧
        (((st'.conn (.explicit 0)).state = .established ∧
          100 < (st.conn (.explicit 0)).inactivityWatchdogTimer ∧
          (st'.conn (.explicit 0)).inactivityWatchdogTimer =
            (st.conn (.explicit 0)).inactivityWatchdogTimer - 100) ∨
        (st'.conn (.explicit 0)).state = .nonExistent) := by
  obtain ⟨st, hreaches, hst⟩ := reaches_of_endsWithin config (keepsSupervised config)
    [request (class3 1 1), request (exclusiveOwner 2 2 multicast)]
    (fun st => (st.conn (.explicit 0)).state = .established ∧
      (st.conn (.exclusiveOwner 0)).state = .established ∧
      keepsSupervised config (tick 100) st = true) (by decide +kernel)
  have hst := of_decide_eq_true hst
  obtain ⟨hpools, hticks⟩ := pools_supervised hreaches
  obtain ⟨st', hstep, hwatched⟩ := hticks _ _ hst.2.2
  exact ⟨st, hreaches, hst, hpools (.explicit 0) (by simp [hst.1]), st', hstep,
    hwatched _ rfl hst.1⟩

open SampleApplication in
/-- A class 1 request for the Message Router gets an explicit slot. Of two class 3
connections that are due, one is neither lowered nor closed. -/
theorem explicit_unsupervised_sample :
    (¬∀ st, Reachable config st → ∀ r, (st.conn r).state ≠ .nonExistent →
      if r.isIo then (st.conn r).transportClass = .class0 ∨ (st.conn r).transportClass = .class1
      else (st.conn r).transportClass = .class3) ∧
    ¬∀ st, Reachable config st → ∀ env elapsedTime st',
      st.step config (env, .manageConnections elapsedTime) = .ok st' →
      ∀ r, r.isIo = false → (st.conn r).state = .established →
        (st'.conn r).inactivityWatchdogTimer =
            (st.conn r).inactivityWatchdogTimer - elapsedTime ∨
          (st'.conn r).state = .nonExistent := by
  refine ⟨fun hclaim => ?_, fun hclaim => ?_⟩
  · obtain ⟨st, hreachable, hst⟩ := reachable_of_ends config
      [request { class3 1 1 with
        transportClassTrigger := 0x01
        connectionPath := [0x20, 2, 0x24, 1, 0x2C, 1, 0x2C, 1] }]
      (fun st => (st.conn (.explicit 0)).state = .established ∧
        (st.conn (.explicit 0)).transportClass = .class1) (by decide +kernel)
    obtain ⟨hstate, hclass⟩ := of_decide_eq_true hst
    have hclass3 : (st.conn (.explicit 0)).transportClass = .class3 :=
      hclaim st hreachable (.explicit 0) (by simp [hstate])
    rw [hclass] at hclass3
    cases hclass3
  · obtain ⟨st, hreachable, hst⟩ := reachable_of_ends config
      [request (class3 1 1), request (class3 2 1)]
      (fun st => (st.conn (.explicit 0)).state = .established &&
        returns (st.step config (tick 20000)) fun st' =>
          (st'.conn (.explicit 0)).state = .established &&
            (st'.conn (.explicit 0)).inactivityWatchdogTimer ≠
              (st.conn (.explicit 0)).inactivityWatchdogTimer - 20000) (by decide +kernel)
    rw [Bool.and_eq_true, returns_iff] at hst
    obtain ⟨hstate, st', hstep, htick⟩ := hst
    rw [Bool.and_eq_true, decide_eq_true_eq, decide_eq_true_eq] at htick
    obtain hlowered | hclosed := hclaim st hreachable _ _ st' hstep (.explicit 0) rfl
      (of_decide_eq_true hstate)
    · exact htick.2 hlowered
    · rw [htick.1] at hclosed
      cases hclosed

end StackState

end Opener
