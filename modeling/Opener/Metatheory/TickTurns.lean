import Opener.Metatheory.Supervision
import Opener.Metatheory.Turns

/-!
A tick as one connection sees it. A connection that is established after the tick had
one turn, unless the loop ended before it at an explicit connection that timed out. The
other turns leave it as it was, or have it take over the production of a connection
that timed out.
-/

namespace Opener

open LinkedCells

/-- What departures leave of a connection that stays established. -/
inductive Outlives (c : CipConnectionObject) : CipConnectionObject → Prop
  | same : Outlives c c
  | heir {old : CipConnectionObject} (silent : c.producingSocket = eipInvalidSocket) :
      Outlives c (View.inherit old c)

namespace Outlives

variable {c d e : CipConnectionObject}

theorem trans (h : Outlives c d) (h' : Outlives d e) : Outlives c e := by
  cases h with
  | same => exact h'
  | heir silent =>
      cases h' with
      | same => exact .heir silent
      | heir _ => exact .heir silent

theorem eq_of_producing (h : Outlives c d) (hsocket : c.producingSocket ≠ eipInvalidSocket) :
    d = c := by
  cases h with
  | same => rfl
  | heir silent => exact absurd silent hsocket

theorem field {β : Type} {f : CipConnectionObject → β}
    (hinherit : ∀ old c, f (View.inherit old c) = f c) (h : Outlives c d) : f d = f c := by
  cases h with
  | same => rfl
  | heir _ => exact hinherit _ _

end Outlives

theorem Depart.outlives {V V' : View} (h : Depart V V') {s : ConnRef} (hs : s ∈ V'.members)
    (hstate : (V'.object s).state = .established) : Outlives (V.object s) (V'.object s) := by
  have hvacate : ∀ {r}, s ≠ r → s ∈ (V.vacate r).members →
      Outlives (V.object s) ((V.vacate r).object s) := by
    intro r hne hmem
    obtain hsame | ⟨-, htakes, hheir⟩ := (vacates_vacate V r).object hmem hne
    · rw [hsame]
      exact .same
    · rw [hheir]
      refine .heir ?_
      simp only [View.canTakeOver, Bool.and_eq_true, decide_eq_true_eq] at htakes
      exact htakes.2
  cases h with
  | discard dropped class3 =>
      rw [View.without_object, (V.mem_without.mp hs).2]
      exact .same
  | @close r member io =>
      obtain ⟨hs', hkept⟩ := (View.mem_without _).mp hs
      rw [View.closed, View.without_object, hkept]
      exact hvacate (by simpa using hkept) hs'
  | @expire r member io established =>
      have hne : s ≠ r := by
        rintro rfl
        rw [View.expired, View.modify_object_self] at hstate
        cases hstate
      rw [View.expired, View.modify_object_of_ne _ hne]
      exact hvacate hne hs

theorem Departs.outlives {V V' : View} (h : Departs V V') {s : ConnRef} (hs : s ∈ V'.members)
    (hstate : (V'.object s).state = .established) : Outlives (V.object s) (V'.object s) := by
  induction h with
  | refl => exact .same
  | tail _ hlast ih =>
      have hpersists := Persists.depart hlast
      exact (ih (hpersists.sublist.subset hs) (hpersists.established s hs hstate)).trans
        (hlast.outlives hs hstate)

namespace StackState

variable {cfg : Config} {env : Environment} {st st' : StackState} {elapsedTime : UInt64}
variable {r : ConnRef}

/-- The turns of one connection. -/
def turnsOf (r : ConnRef) (turns : List (ConnRef × StackState)) : List (ConnRef × StackState) :=
  turns.filter fun turn => turn.1 = r

/-- How a tick goes for a connection that is established at its end. -/
inductive TurnOf (cfg : Config) (env : Environment) (elapsedTime : UInt64) (r : ConnRef)
    (st st' : StackState) : Prop
  | turn {s s' : StackState}
      (turns : turnsOf r (st.manageTurns cfg env elapsedTime) = [(r, s)])
      (sound : s.Sound cfg) (before : Outlives (st.conn r) (s.conn r))
      (call : s.manageConnection cfg env elapsedTime r = .ok s')
      (after : Outlives (s'.conn r) (st'.conn r)) : TurnOf cfg env elapsedTime r st st'
  | cut {q : ConnRef} {s : StackState}
      (turns : turnsOf r (st.manageTurns cfg env elapsedTime) = [])
      (turn : (q, s) ∈ st.manageTurns cfg env elapsedTime) (explicit : q.isIo = false)
      (expires : (s.conn q).expires elapsedTime = true) (behind : r ∈ s.behind cfg q)
      (outlives : Outlives (st.conn r) (st'.conn r)) : TurnOf cfg env elapsedTime r st st'

/-- The packets of one turn. -/
def turnPackets (cfg : Config) (env : Environment) (elapsedTime : UInt64)
    (turn : ConnRef × StackState) : Nat :=
  match turn.2.manageConnection cfg env elapsedTime turn.1 with
  | .error _ => 0
  | .ok st => st.packets - turn.2.packets

/-- The packets that a tick sends for one connection. -/
def packetsOf (cfg : Config) (env : Environment) (elapsedTime : UInt64) (r : ConnRef)
    (st : StackState) : Nat :=
  ((turnsOf r (st.manageTurns cfg env elapsedTime)).map
    (turnPackets cfg env elapsedTime)).sum

/-- How far the loop has come for the connection. -/
inductive Progress (cfg : Config) (env : Environment) (elapsedTime : UInt64) (r : ConnRef)
    (st : StackState) (past : List (ConnRef × StackState)) (todo : List Nat)
    (s : StackState) : Prop
  | waits {n : Nat} (turns : turnsOf r past = []) (left : n ∈ todo)
      (data : (s.nodes n).data = some r) (outlives : Outlives (st.conn r) (s.conn r)) :
      Progress cfg env elapsedTime r st past todo s
  | had {t t' : StackState} (turns : turnsOf r past = [(r, t)]) (sound : t.Sound cfg)
      (before : Outlives (st.conn r) (t.conn r))
      (call : t.manageConnection cfg env elapsedTime r = .ok t')
      (after : Outlives (t'.conn r) (s.conn r))
      (done : ∀ n ∈ todo, (s.nodes n).data ≠ some r) :
      Progress cfg env elapsedTime r st past todo s
  | cut {q : ConnRef} {t : StackState} (turns : turnsOf r past = []) (turn : (q, t) ∈ past)
      (explicit : q.isIo = false) (expires : (t.conn q).expires elapsedTime = true)
      (behind : r ∈ t.behind cfg q) (outlives : Outlives (st.conn r) (s.conn r))
      (ended : todo = []) : Progress cfg env elapsedTime r st past todo s

structure Ticking (cfg : Config) (env : Environment) (elapsedTime : UInt64) (r : ConnRef)
    (st : StackState) (past : List (ConnRef × StackState)) (todo : List Nat)
    (s : StackState) : Prop where
  sound : s.Sound cfg
  listed : ∃ ns pre, s.Listed cfg ns ∧ ns = pre ++ todo
  progress : (s.conn r).state = .established → Progress cfg env elapsedTime r st past todo s

theorem turnsOf_append_self {past : List (ConnRef × StackState)} (s : StackState) :
    turnsOf r (past ++ [(r, s)]) = turnsOf r past ++ [(r, s)] := by
  simp [turnsOf, List.filter_append]

theorem turnsOf_append_of_ne {past : List (ConnRef × StackState)} {q : ConnRef} (hq : q ≠ r)
    (s : StackState) : turnsOf r (past ++ [(q, s)]) = turnsOf r past := by
  simp [turnsOf, List.filter_append, hq]

theorem manageConnection_outlives (hsound : st.Sound cfg) {q : ConnRef} (hq : q ≠ r)
    (hcall : st.manageConnection cfg env elapsedTime q = .ok st')
    (hr : r ∈ st'.connectionList cfg) (hstate : (st'.conn r).state = .established) :
    Outlives (st.conn r) (st'.conn r) := by
  cases manageConnection_turned hsound hcall with
  | idle state same =>
      rw [same]
      exact .same
  | expired expires gone departs dummy => exact departs.outlives hr hstate
  | managed established lives managed =>
      rw [managed.others r hq.symm]
      exact .same

/-- A connection that its turn takes off the list is explicit and has expired. -/
theorem manageConnection_removes (hsound : st.Sound cfg) {q : ConnRef}
    (hq : q ∈ st.connectionList cfg)
    (hcall : st.manageConnection cfg env elapsedTime q = .ok st')
    (hgone : q ∉ st'.connectionList cfg) :
    q.isIo = false ∧ (st.conn q).expires elapsedTime = true := by
  refine ⟨?_, ?_⟩
  · cases hio : q.isIo with
    | false => rfl
    | true => exact absurd (manageConnection_stays hsound hq hio hcall) hgone
  · cases manageConnection_turned hsound hcall with
    | idle state same => exact absurd (same ▸ hq) hgone
    | expired expires gone departs dummy => exact expires
    | managed established lives managed =>
        refine absurd ?_ hgone
        rw [connectionList, managed.list]
        exact hq

theorem Ticking.turn {past : List (ConnRef × StackState)} {n : Nat} {todo : List Nat}
    {s s' : StackState} {q : ConnRef}
    (h : Ticking cfg env elapsedTime r st past (n :: todo) s) (hdata : (s.nodes n).data = some q)
    (hcall : s.manageConnection cfg env elapsedTime q = .ok s') :
    ∃ rest, (s'.nodes n).next = rest.head? ∧
      Ticking cfg env elapsedTime r st (past ++ [(q, s)]) rest s' := by
  obtain ⟨ns, pre, hlisted, hns⟩ := h.listed
  have hn : n ∈ ns := by
    rw [hns]
    exact List.mem_append_right pre List.mem_cons_self
  have hq : q ∈ s.connectionList cfg := hlisted.mem.mpr ⟨n, hn, hdata⟩
  have hnodup : (pre ++ n :: todo).Nodup := hns ▸ hlisted.links.nodup
  have htail := List.nodup_cons.mp (List.nodup_append.mp hnodup).2.1
  obtain ⟨ns', hcalm⟩ := manageConnection_calm hlisted h.sound.regular hcall
  have hsound' := hcalm.sound h.sound
  obtain ⟨pre', rest, hns', hnext, hcases⟩ := hlisted.remaining hns hcalm.listed hcalm.trimmed
  have hdata' : ∀ m ∈ ns', ∀ a, (s'.nodes m).data = some a → (s.nodes m).data = some a :=
    fun m hm a ha => (hcalm.trimmed.data_eq m hm) ▸ ha
  have hrest : ∀ m ∈ rest, m ∈ todo ∧ m ∈ ns' := by
    intro m hm
    refine ⟨?_, hns' ▸ List.mem_append_right pre' hm⟩
    obtain ⟨-, rfl⟩ | ⟨-, rfl⟩ := hcases
    · exact (List.mem_filter.mp hm).1
    · cases hm
  refine ⟨rest, hnext, hsound', ⟨ns', pre', hcalm.listed, hns'⟩, fun hstate' => ?_⟩
  have hr' := mem_of_established hsound'.regular hstate'
  have hstate := (Persists.moves hcalm.moves).established r hr' hstate'
  by_cases hqr : q = r
  · subst hqr
    have hdone : ∀ m ∈ rest, (s'.nodes m).data ≠ some q := by
      intro m hm hsame
      obtain ⟨htodo, hm'⟩ := hrest m hm
      have hmn := hlisted.node_unique hn (hcalm.trimmed.sublist.subset hm') hdata
        (hdata' m hm' q hsame)
      exact htail.1 (hmn ▸ htodo)
    cases h.progress hstate with
    | @waits m turns left data outlives =>
        refine .had ?_ h.sound outlives hcall .same hdone
        rw [turnsOf_append_self, turns, List.nil_append]
    | had turns sound before call after done =>
        exact absurd hdata (done n List.mem_cons_self)
    | cut turns turn explicit expires behind outlives ended => cases ended
  · have houtlives := manageConnection_outlives h.sound hqr hcall hr' hstate'
    have hturns : turnsOf r (past ++ [(q, s)]) = turnsOf r past := turnsOf_append_of_ne hqr s
    cases h.progress hstate with
    | @waits m turns left data outlives =>
        have hmn : m ≠ n := by
          rintro rfl
          exact hqr (Option.some.inj (hdata.symm.trans data))
        have htodo : m ∈ todo := (List.mem_cons.mp left).resolve_left hmn
        obtain ⟨hstays, rfl⟩ | ⟨hleaves, rfl⟩ := hcases
        · obtain ⟨m', hm', hdata₁⟩ := hcalm.listed.mem.mp hr'
          have hm : m ∈ ns := by
            rw [hns]
            exact List.mem_append_right pre left
          have hsame := hlisted.node_unique hm (hcalm.trimmed.sublist.subset hm') data
            (hdata' m' hm' r hdata₁)
          subst hsame
          exact .waits (hturns.trans turns)
            (List.mem_filter.mpr ⟨htodo, by simpa using hm'⟩) hdata₁ (outlives.trans houtlives)
        · have hgone : q ∉ s'.connectionList cfg := by
            intro hmem
            obtain ⟨n', hn', hdata₁⟩ := hcalm.listed.mem.mp hmem
            have hsame := hlisted.node_unique hn (hcalm.trimmed.sublist.subset hn') hdata
              (hdata' n' hn' q hdata₁)
            exact hleaves (hsame ▸ hn')
          obtain ⟨hio, hexpires⟩ := manageConnection_removes h.sound hq hcall hgone
          refine .cut (hturns.trans turns) (List.mem_append_right past (List.mem_singleton_self _))
            hio hexpires ?_ (outlives.trans houtlives) rfl
          rw [behind_eq hlisted hns hdata]
          exact mem_contents.mpr ⟨m, htodo, data⟩
    | had turns sound before call after done =>
        refine .had (hturns.trans turns) sound before call (after.trans houtlives) ?_
        intro m hm hsame
        obtain ⟨htodo, hm'⟩ := hrest m hm
        exact done m (List.mem_cons_of_mem n htodo) (hdata' m hm' r hsame)
    | cut turns turn explicit expires behind outlives ended => cases ended

/-- A tick as a connection sees it that is established afterwards. -/
theorem manageConnections_turnOf (hsound : st.Sound cfg)
    (hcall : st.manageConnections cfg env elapsedTime = .ok st') :
    st'.Sound cfg ∧
      ((st'.conn r).state = .established → TurnOf cfg env elapsedTime r st st') := by
  have htouched : Touched st
      { st with assemblyData := env.handleApplication st.assemblyData } :=
    ⟨rfl, fun _ => rfl, rfl, rfl, rfl, rfl⟩
  have hstart := (htouched.sound hsound).1
  obtain ⟨ns, hlisted⟩ := hstart.wellFormed
  have hfirst : st.store.connectionList.first = ns.head? := hlisted.links.first_eq
  have hticking : Ticking cfg env elapsedTime r st
      ([] ++ st.manageTurns cfg env elapsedTime) [] st' := by
    rw [manageConnections, manageConnectionList, hfirst] at hcall
    rw [manageTurns, hfirst]
    refine liveWalk_history (fun past n todo s q s' h hdata hbody => h.turn hdata hbody) ?_ hcall
    refine ⟨hstart, ⟨ns, [], hlisted, rfl⟩, fun hstate => ?_⟩
    obtain ⟨n, hn, hdata⟩ := hlisted.mem.mp (mem_of_established hstart.regular hstate)
    exact .waits rfl hn hdata .same
  refine ⟨hticking.sound, fun hstate => ?_⟩
  rw [List.nil_append] at hticking
  cases hticking.progress hstate with
  | waits turns left data outlives => cases left
  | had turns sound before call after done => exact .turn turns sound before call after
  | cut turns turn explicit expires behind outlives ended =>
      exact .cut turns turn explicit expires behind outlives

/-- A tick for a connection that is established afterwards, by its objects. -/
inductive TickOf (cfg : Config) (env : Environment) (elapsedTime : UInt64) (r : ConnRef)
    (st st' : StackState) : Prop
  | managed {s : StackState} {count : UInt32} {dataCount : UInt16}
      (turn : (r, s) ∈ st.manageTurns cfg env elapsedTime)
      (before : Outlives (st.conn r) (s.conn r)) (established : (s.conn r).state = .established)
      (lives : (s.conn r).expires elapsedTime = false)
      (after : Outlives ((s.conn r).managed cfg elapsedTime count dataCount) (st'.conn r))
      (packets : st.packetsOf cfg env elapsedTime r =
        if (s.conn r).produces elapsedTime then 1 else 0) : TickOf cfg env elapsedTime r st st'
  | cut {q : ConnRef} {s : StackState} (turn : (q, s) ∈ st.manageTurns cfg env elapsedTime)
      (explicit : q.isIo = false) (expires : (s.conn q).expires elapsedTime = true)
      (behind : r ∈ s.behind cfg q) (outlives : Outlives (st.conn r) (st'.conn r))
      (packets : st.packetsOf cfg env elapsedTime r = 0) : TickOf cfg env elapsedTime r st st'

theorem mem_of_turnsOf {turns : List (ConnRef × StackState)} {s : StackState}
    (h : turnsOf r turns = [(r, s)]) : (r, s) ∈ turns :=
  (List.mem_filter.mp (h ▸ List.mem_singleton_self (r, s))).1

theorem manageConnections_tickOf (hsound : st.Sound cfg)
    (hcall : st.manageConnections cfg env elapsedTime = .ok st')
    (hstate : (st'.conn r).state = .established) : TickOf cfg env elapsedTime r st st' := by
  cases (manageConnections_turnOf hsound hcall).2 hstate with
  | @turn s s' turns sound before call after =>
      have hstate' : (s'.conn r).state = .established := by
        rw [← after.field (f := CipConnectionObject.state) fun _ _ => rfl]
        exact hstate
      cases manageConnection_turned sound call with
      | idle state same => exact absurd (same ▸ hstate') state
      | expired expires gone departs dummy => exact absurd hstate' gone
      | managed established lives managed =>
          obtain ⟨count, dataCount, hobject⟩ := managed.object
          rw [hobject] at after
          refine .managed (mem_of_turnsOf turns) before established lives after ?_
          simp only [packetsOf, turns, List.map_cons, List.map_nil, List.sum_singleton,
            turnPackets, call, managed.packets, Nat.add_sub_cancel_left]
  | cut turns turn explicit expires behind outlives =>
      refine .cut turn explicit expires behind outlives ?_
      rw [packetsOf, turns]
      rfl

end StackState

end Opener
