import Opener.Metatheory.CyclicProduction
import Opener.Metatheory.Watchdogs

/-!
The supervision of a connection over a run. The elapsed times that reached it since its
watchdog was set and what is left on the watchdog always make up the inactivity timeout, so a
connection that hears nothing is closed in the tick in which the timeout is reached, and in no
earlier one. A tick that ends before the turn of the connection, since an explicit connection
in front of it timed out, does not count for it.
-/

namespace Opener

open LinkedCells CipConnectionObject

def CipConnectionObject.watchdog (c : CipConnectionObject) :
    ConnectionObjectState × Bool × UInt64 × UInt64 :=
  (c.state, c.isWatched, c.regularInactivityWatchdogTimerValue, c.inactivityWatchdogTimer)

namespace StackState

variable {cfg : Config} {env : Environment} {st st' start : StackState} {r : ConnRef}
variable {elapsedTime : UInt64} {limit : Nat} {ticks : List Nat}

/-- The tick ends at another explicit connection that times out, before the connection has
its turn. -/
def CutShort (cfg : Config) (env : Environment) (elapsedTime : UInt64) (r : ConnRef)
    (st : StackState) : Prop :=
  turnsOf r (st.manageTurns cfg env elapsedTime) = [] ∧
    ∃ turn ∈ st.manageTurns cfg env elapsedTime, turn.1 ≠ r ∧ turn.1.isIo = false ∧
      (turn.2.conn turn.1).expires elapsedTime = true

def attendedTime (cfg : Config) (env : Environment) (elapsedTime : UInt64) (r : ConnRef)
    (st : StackState) : Nat :=
  if (turnsOf r (st.manageTurns cfg env elapsedTime)).isEmpty then 0 else elapsedTime.toNat

/-- A run during which the connection stays established, with what its watchdog was set to and
the times of the ticks since that reached it. -/
inductive Supervised (cfg : Config) (r : ConnRef) (start : StackState) :
    Nat → List Nat → StackState → Prop
  | start : Supervised cfg r start (start.conn r).inactivityWatchdogTimer.toNat [] start
  | tick {limit : Nat} {ticks : List Nat} {st st' : StackState} {env : Environment}
      {elapsedTime : UInt64} (before : Supervised cfg r start limit ticks st)
      (call : st.manageConnections cfg env elapsedTime = .ok st')
      (established : (st'.conn r).state = .established) :
      Supervised cfg r start limit (ticks ++ [st.attendedTime cfg env elapsedTime r]) st'
  | rest {limit : Nat} {ticks : List Nat} {st st' : StackState} {label : Environment × Action}
      (before : Supervised cfg r start limit ticks st)
      (quiet : ∀ elapsedTime, label.2 ≠ .manageConnections elapsedTime)
      (call : st.step cfg label = .ok st') (same : (st'.conn r).watchdog = (st.conn r).watchdog) :
      Supervised cfg r start limit ticks st'
  | renewed {limit : Nat} {ticks : List Nat} {st st' : StackState}
      {label : Environment × Action} (before : Supervised cfg r start limit ticks st)
      (quiet : ∀ elapsedTime, label.2 ≠ .manageConnections elapsedTime)
      (call : st.step cfg label = .ok st')
      (reset : (st'.conn r).watchdog = (st.conn r).resetInactivityWatchdogTimerValue.watchdog) :
      Supervised cfg r start (st'.conn r).inactivityWatchdogTimer.toNat [] st'

theorem manageConnections_counts (hsound : st.Sound cfg)
    (hwatched : (st.conn r).isWatched = true)
    (hcall : st.manageConnections cfg env elapsedTime = .ok st')
    (hestablished : (st'.conn r).state = .established) :
    (st'.conn r).isWatched = true ∧
      (elapsedTime < (st.conn r).inactivityWatchdogTimer ∨ CutShort cfg env elapsedTime r st) ∧
      (st'.conn r).inactivityWatchdogTimer.toNat + st.attendedTime cfg env elapsedTime r =
        (st.conn r).inactivityWatchdogTimer.toNat := by
  have hwatch : ∀ {c d : CipConnectionObject}, Outlives c d →
      d.isWatched = c.isWatched ∧ d.inactivityWatchdogTimer = c.inactivityWatchdogTimer :=
    fun h => ⟨h.field fun _ _ => rfl, h.field fun _ _ => rfl⟩
  cases (manageConnections_turnOf hsound hcall).2 hestablished with
  | @turn s s' turns sound before call after =>
      have hstate : (s'.conn r).state = .established := by
        rw [← after.field (f := CipConnectionObject.state) fun _ _ => rfl]
        exact hestablished
      have hattended : st.attendedTime cfg env elapsedTime r = elapsedTime.toNat := by
        rw [attendedTime, turns]
        rfl
      obtain ⟨hwatchedBefore, htimerBefore⟩ := hwatch before
      obtain ⟨hwatchedAfter, htimerAfter⟩ := hwatch after
      cases manageConnection_turned sound call with
      | idle state same => exact absurd (same ▸ hstate) state
      | expired expires gone departs dummy => exact absurd hstate gone
      | managed established lives managed =>
          obtain ⟨count, dataCount, hobject⟩ := managed.object
          rw [hwatched] at hwatchedBefore
          obtain ⟨hlowered, -⟩ :=
            toNat_managed_watchdogs cfg established lives hwatchedBefore count dataCount
          refine ⟨?_, .inl ?_, ?_⟩
          · rw [hwatchedAfter, hobject]
            exact hwatchedBefore
          · rw [← htimerBefore, ← UInt64.not_le]
            intro hdue
            rw [expires_iff.mpr ⟨established, hwatchedBefore, hdue⟩] at lives
            cases lives
          · rw [htimerAfter, hobject, hattended, hlowered, htimerBefore]
  | @cut q s turns turn explicit expires behind outlives =>
      -- the connection had no turn itself
      have hq : q ≠ r := by
        rintro rfl
        have hmem : (q, s) ∈ turnsOf q (st.manageTurns cfg env elapsedTime) :=
          List.mem_filter.mpr ⟨turn, decide_eq_true rfl⟩
        rw [turns] at hmem
        cases hmem
      have hattended : st.attendedTime cfg env elapsedTime r = 0 := by
        rw [attendedTime, turns]
        rfl
      obtain ⟨hwatchedAfter, htimerAfter⟩ := hwatch outlives
      refine ⟨hwatchedAfter.trans hwatched, .inr ⟨turns, _, turn, hq, explicit, expires⟩, ?_⟩
      rw [hattended, htimerAfter, Nat.add_zero]

structure Overseen (cfg : Config) (r : ConnRef) (limit : Nat) (ticks : List Nat)
    (st : StackState) : Prop where
  sound : st.Sound cfg
  established : (st.conn r).state = .established
  watched : (st.conn r).isWatched = true
  timer : ticks.sum + (st.conn r).inactivityWatchdogTimer.toNat = limit

theorem Supervised.overseen (hsound : start.Sound cfg)
    (hestablished : (start.conn r).state = .established)
    (hwatched : (start.conn r).isWatched = true) (h : Supervised cfg r start limit ticks st) :
    Overseen cfg r limit ticks st := by
  induction h with
  | start => exact ⟨hsound, hestablished, hwatched, Nat.zero_add _⟩
  | @tick limit ticks st st' env elapsedTime before call established ih =>
      obtain ⟨hwatched', -, hlowered⟩ :=
        manageConnections_counts ih.sound ih.watched call established
      refine ⟨(manageConnections_turnOf (r := r) ih.sound call).1, established, hwatched', ?_⟩
      rw [List.sum_append, List.sum_singleton, ← ih.timer]
      omega
  | rest before quiet call same ih =>
      simp only [watchdog, Prod.mk.injEq] at same
      obtain ⟨hstate, hwatched', -, htimer⟩ := same
      refine ⟨(step_spec ih.sound call).1, hstate.trans ih.established,
        hwatched'.trans ih.watched, ?_⟩
      rw [htimer, ih.timer]
  | renewed before quiet call reset ih =>
      simp only [watchdog, Prod.mk.injEq] at reset
      exact ⟨(step_spec ih.sound call).1, reset.1.trans ih.established,
        reset.2.1.trans ih.watched, Nat.zero_add _⟩

theorem manageConnections_stays (hsound : st.Sound cfg)
    (hestablished : (st.conn r).state = .established)
    (htimer : elapsedTime < (st.conn r).inactivityWatchdogTimer)
    (hothers : ∀ turn ∈ st.manageTurns cfg env elapsedTime, turn.1 ≠ r →
      (turn.2.conn turn.1).expires elapsedTime = false)
    (hcall : st.manageConnections cfg env elapsedTime = .ok st') :
    (st'.conn r).state = .established := by
  have htouched : Touched st
      { st with assemblyData := env.handleApplication st.assemblyData } :=
    ⟨rfl, fun _ => rfl, rfl, rfl, rfl, rfl⟩
  have hstart := (htouched.sound hsound).1
  obtain ⟨ns, hlisted⟩ := hstart.wellFormed
  have hfirst : st.store.connectionList.first = ns.head? := hlisted.links.first_eq
  let Stays : List (ConnRef × StackState) → StackState → Prop := fun past s =>
    (∀ turn ∈ past, turn.1 ≠ r → (turn.2.conn turn.1).expires elapsedTime = false) →
      (s.conn r).state = .established
  have hstays : Ticking cfg env elapsedTime r st ([] ++ st.manageTurns cfg env elapsedTime) [] st' ∧
      Stays ([] ++ st.manageTurns cfg env elapsedTime) st' := by
    rw [manageConnections, manageConnectionList, hfirst] at hcall
    rw [manageTurns, hfirst]
    refine liveWalk_history (P := fun past todo s =>
      Ticking cfg env elapsedTime r st past todo s ∧ Stays past s) ?_ ?_ hcall
    · rintro past n todo s q s' ⟨hticking, hstays⟩ hdata hbody
      obtain ⟨rest, hnext, hticking'⟩ := hticking.turn hdata hbody
      refine ⟨rest, hnext, hticking', fun hlive => ?_⟩
      rw [List.forall_mem_append, List.forall_mem_singleton] at hlive
      have hstate := hstays hlive.1
      by_cases hq : q = r
      · subst hq
        cases hticking.progress hstate with
        | waits turns left data outlives =>
            have hsame : (s.conn q).inactivityWatchdogTimer =
                (st.conn q).inactivityWatchdogTimer := outlives.field fun _ _ => rfl
            cases manageConnection_turned hticking.sound hbody with
            | idle state same => exact absurd hstate state
            | expired expires gone departs dummy =>
                refine absurd (expires_iff.mp expires).2.2 ?_
                rw [hsame, UInt64.not_le]
                exact htimer
            | managed established lives managed =>
                obtain ⟨count, dataCount, hobject⟩ := managed.object
                rw [hobject]
                exact established
        | had turns sound before call after done =>
            exact absurd hdata (done n List.mem_cons_self)
        | cut turns turn explicit expires behind outlives ended => cases ended
      · cases manageConnection_turned hticking.sound hbody with
        | idle state same => exact same ▸ hstate
        | expired expires gone departs dummy =>
            rw [hlive.2 hq] at expires
            cases expires
        | managed established lives managed =>
            rw [managed.others r (Ne.symm hq)]
            exact hstate
    · refine ⟨⟨hstart, ⟨ns, [], hlisted, rfl⟩, fun hstate => ?_⟩, fun _ => hestablished⟩
      obtain ⟨n, hn, hdata⟩ := hlisted.mem.mp (mem_of_established hstart.regular hstate)
      exact .waits rfl hn hdata .same
  refine hstays.2 ?_
  rw [List.nil_append]
  exact hothers

/-- In every run from any reachable state, the times that reached a watched connection since its
watchdog was set and what is left on it make up what it was set to. The connection is closed in
the tick in which they reach that, unless the tick is cut short before its turn, and not
before, unless others that time out take it along. -/
theorem silent_connection_closes (hreachable : Reachable cfg start)
    (hestablished : (start.conn r).state = .established)
    (hwatched : (start.conn r).isWatched = true) (h : Supervised cfg r start limit ticks st) :
    ticks.sum + (st.conn r).inactivityWatchdogTimer.toNat = limit ∧
    ∀ env elapsedTime st', st.manageConnections cfg env elapsedTime = .ok st' →
      (limit ≤ ticks.sum + elapsedTime.toNat →
        (st'.conn r).state ≠ .established ∨ CutShort cfg env elapsedTime r st) ∧
      ((∀ turn ∈ st.manageTurns cfg env elapsedTime, turn.1 ≠ r →
          (turn.2.conn turn.1).expires elapsedTime = false) →
        ticks.sum + elapsedTime.toNat < limit → (st'.conn r).state = .established) := by
  have hoverseen := h.overseen hreachable.sound hestablished hwatched
  have htimer := hoverseen.timer
  refine ⟨htimer, fun env elapsedTime st' hcall => ⟨fun hreached => ?_, fun hothers hleft => ?_⟩⟩
  · by_cases hstate : (st'.conn r).state = .established
    · right
      obtain ⟨-, hlt | hcut, -⟩ :=
        manageConnections_counts hoverseen.sound hoverseen.watched hcall hstate
      · rw [UInt64.lt_iff_toNat_lt] at hlt
        omega
      · exact hcut
    · exact .inl hstate
  · refine manageConnections_stays hoverseen.sound hoverseen.established ?_ hothers hcall
    rw [UInt64.lt_iff_toNat_lt]
    omega

section Sample

open SampleApplication

def attendsIn (cfg : Config) (env : Environment) (elapsedTime : UInt64) (r : ConnRef)
    (attended : Nat) (p : StackState → Bool) (st : StackState) : Bool :=
  decide (st.attendedTime cfg env elapsedTime r = attended) &&
    returns (st.manageConnections cfg env elapsedTime) p

theorem supervised_of_attendsIn {attended : Nat} {p : StackState → Bool}
    (before : Supervised cfg r start limit ticks st)
    (h : attendsIn cfg env elapsedTime r attended
      (fun st' => decide ((st'.conn r).state = .established) && p st') st = true) :
    ∃ st', Supervised cfg r start limit (ticks ++ [attended]) st' ∧ p st' = true := by
  rw [attendsIn, Bool.and_eq_true, decide_eq_true_eq] at h
  obtain ⟨st', hcall, hst'⟩ := returns_iff.mp h.2
  rw [Bool.and_eq_true, decide_eq_true_eq] at hst'
  exact ⟨st', h.1 ▸ before.tick hcall hst'.1, hst'.2⟩

/-- The watchdog of an exclusive owner is set to 51200 ms. A tick of 10000 ms ends at an
explicit connection that times out, one of 41200 ms reaches the owner, and the next 10000 ms
close it. -/
theorem silent_connection_closes_sample :
    ∃ start st st', Reachable config start ∧
      Supervised config (.exclusiveOwner 0) start 51200 [0, 41200] st ∧
      st.manageConnections config (environment 0 20) 10000 = .ok st' ∧
      (st'.conn (.exclusiveOwner 0)).state ≠ .established := by
  obtain ⟨start, hreachable, hstart⟩ := reachable_of_ends config
    [request { exclusiveOwner 1 1 pointToPoint with connectionTimeoutMultiplier := 7 },
      request (class3 2 1)]
    (fun start => decide ((start.conn (.exclusiveOwner 0)).state = .established) &&
      (start.conn (.exclusiveOwner 0)).isWatched &&
      decide ((start.conn (.exclusiveOwner 0)).inactivityWatchdogTimer = 51200) &&
      attendsIn config (environment 0 20) 10000 (.exclusiveOwner 0) 0
        (fun st => decide ((st.conn (.exclusiveOwner 0)).state = .established) &&
          attendsIn config (environment 0 20) 41200 (.exclusiveOwner 0) 41200
            (fun st => decide ((st.conn (.exclusiveOwner 0)).state = .established) &&
              attendsIn config (environment 0 20) 10000 (.exclusiveOwner 0) 10000
                (fun _ => true) st) st) start)
    (by decide +kernel)
  simp only [Bool.and_eq_true, decide_eq_true_eq] at hstart
  obtain ⟨⟨⟨hestablished, hwatched⟩, htimer⟩, hcut⟩ := hstart
  have hsupervised : Supervised config (.exclusiveOwner 0) start _ [] start := .start
  rw [htimer] at hsupervised
  obtain ⟨st₁, hfirst, hreached⟩ := supervised_of_attendsIn hsupervised hcut
  obtain ⟨st, hsecond, hlast⟩ := supervised_of_attendsIn hfirst hreached
  rw [attendsIn, Bool.and_eq_true, decide_eq_true_eq] at hlast
  obtain ⟨hattended, hlast⟩ := hlast
  obtain ⟨st', hcall, -⟩ := returns_iff.mp hlast
  have hcloses := ((silent_connection_closes hreachable hestablished hwatched hsecond).2 _ _ _
    hcall).1 (by decide)
  refine ⟨start, st, st', hreachable, hsecond, hcall, hcloses.resolve_right fun hcut => ?_⟩
  rw [attendedTime, hcut.1] at hattended
  cases hattended

end Sample

end StackState

end Opener
