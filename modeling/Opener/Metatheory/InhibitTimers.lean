import Opener.Core.SampleApplication
import Opener.Metatheory.ListedProperties
import Opener.Metatheory.TickTurns

/-!
The production inhibit timer. `ManageConnections` leaves it alone while it is at least the
elapsed time and subtracts the elapsed time when it is less, where it should be the other
way round. So a tick in which a connection that can produce does not produce is harmless
only if no time has passed.
-/

namespace Opener

open LinkedCells

namespace CipConnectionObject

variable {cfg : Config} {elapsedTime : UInt64} {c d : CipConnectionObject}

/-- The inhibit timer of a connection that is not cyclic is within the inhibit time. -/
def InhibitBounded (c : CipConnectionObject) : Prop :=
  c.productionTrigger ≠ .cyclic →
    c.productionInhibitTimer.toNat ≤ c.productionInhibitTime.toNat

/-- The inhibit timer has come down by the elapsed time, at most to zero. -/
def InhibitLowered (elapsedTime : UInt64) (c d : CipConnectionObject) : Prop :=
  d.productionInhibitTimer.toNat = c.productionInhibitTimer.toNat -
    min elapsedTime.toNat c.productionInhibitTimer.toNat

/-- The turn of the connection does not touch an inhibit timer that is not reloaded. -/
def spendsInhibit (elapsedTime : UInt64) (c : CipConnectionObject) : Bool :=
  c.productionTrigger = .cyclic || elapsedTime = 0 || c.produces elapsedTime ||
    (!c.isPaced && c.productionInhibitTimer = 0)

/-- The inhibit timer of a connection without a turn has nothing left. -/
def awaitsInhibit (elapsedTime : UInt64) (c : CipConnectionObject) : Bool :=
  c.productionTrigger = .cyclic || elapsedTime = 0 || c.productionInhibitTimer = 0

theorem spendsInhibit_iff : c.spendsInhibit elapsedTime = true ↔
    c.productionTrigger = .cyclic ∨ elapsedTime = 0 ∨ c.produces elapsedTime = true ∨
      (c.isPaced = false ∧ c.productionInhibitTimer = 0) := by
  simp only [spendsInhibit, Bool.or_eq_true, Bool.and_eq_true, decide_eq_true_eq,
    Bool.not_eq_true', or_assoc]

theorem awaitsInhibit_iff : c.awaitsInhibit elapsedTime = true ↔
    c.productionTrigger = .cyclic ∨ elapsedTime = 0 ∨ c.productionInhibitTimer = 0 := by
  simp only [awaitsInhibit, Bool.or_eq_true, decide_eq_true_eq, or_assoc]

theorem InhibitLowered.of_eq (h : d.productionInhibitTimer = c.productionInhibitTimer)
    (hspent : elapsedTime = 0 ∨ c.productionInhibitTimer = 0) :
    InhibitLowered elapsedTime c d := by
  rw [InhibitLowered, h]
  obtain rfl | hzero := hspent
  · simp
  · simp [hzero]

theorem managed_inhibit (count : UInt32) (dataCount : UInt16) :
    (c.managed cfg elapsedTime count dataCount).productionInhibitTimer =
      if c.isPaced then c.inhibitTimerAfter elapsedTime else c.productionInhibitTimer := rfl

theorem inhibitTimerAfter_due (htrigger : c.productionTrigger ≠ .cyclic)
    (hdue : c.transmissionTriggerTimer ≤ elapsedTime) :
    c.inhibitTimerAfter elapsedTime = c.productionInhibitTime.toUInt64 := by
  rw [inhibitTimerAfter, if_neg htrigger, if_pos hdue]

/-- Without a packet the inhibit timer of a paced connection is left alone or wraps. -/
theorem toNat_inhibitTimerAfter (htrigger : c.productionTrigger ≠ .cyclic)
    (hdue : ¬c.transmissionTriggerTimer ≤ elapsedTime) :
    (c.inhibitTimerAfter elapsedTime).toNat =
      if elapsedTime.toNat ≤ c.productionInhibitTimer.toNat then c.productionInhibitTimer.toNat
      else 2 ^ 64 + c.productionInhibitTimer.toNat - elapsedTime.toNat := by
  rw [inhibitTimerAfter, if_neg htrigger, if_neg hdue]
  have htimer := c.productionInhibitTimer.toNat_lt
  have helapsed := elapsedTime.toNat_lt
  by_cases hle : elapsedTime ≤ c.productionInhibitTimer
  · rw [if_pos hle, if_pos (UInt64.le_iff_toNat_le.mp hle)]
  · rw [if_neg hle, if_neg fun h => hle (UInt64.le_iff_toNat_le.mpr h), UInt64.toNat_sub]
    rw [UInt64.le_iff_toNat_le] at hle
    omega

/-- A turn without a packet lowers the timer exactly if it has nothing to lower. -/
theorem managed_lowered_iff (cfg : Config) (htrigger : c.productionTrigger ≠ .cyclic)
    (hsilent : c.produces elapsedTime = false) (count : UInt32) (dataCount : UInt16) :
    InhibitLowered elapsedTime c (c.managed cfg elapsedTime count dataCount) ↔
      c.spendsInhibit elapsedTime = true := by
  have htimer := c.productionInhibitTimer.toNat_lt
  have helapsed := elapsedTime.toNat_lt
  have hzero : ∀ n : UInt64, n = 0 ↔ n.toNat = 0 := fun n => UInt64.toNat_inj.symm
  rw [spendsInhibit_iff, InhibitLowered, managed_inhibit, hsilent, hzero elapsedTime,
    hzero c.productionInhibitTimer]
  simp only [htrigger, Bool.false_eq_true, false_or]
  cases hpaced : c.isPaced with
  | false =>
      simp only [Bool.false_eq_true, if_false, true_and]
      omega
  | true =>
      have hdue : ¬c.transmissionTriggerTimer ≤ elapsedTime := by
        intro hdue
        rw [produces_iff.mpr ⟨hpaced, hdue⟩] at hsilent
        cases hsilent
      simp only [if_true, toNat_inhibitTimerAfter htrigger hdue, Bool.true_eq_false, false_and,
        or_false]
      split
      · omega
      · omega

theorem InhibitBounded.persistent : Persistent InhibitBounded := by
  refine ⟨fun _ _ _ hc => hc, fun _ hc => hc, fun _ hc => hc, fun c d hc h => ?_⟩
  cases h with
  | counted _ | replied _ | renewed | heard | sequenced _ | triggered => exact hc

theorem InhibitBounded.of_unproduced (h : Unproduced d c) : InhibitBounded c := by
  intro _
  rw [h.inhibit, UInt16.toNat_toUInt64]

theorem InhibitBounded.managed (h : InhibitBounded c)
    (hspends : c.spendsInhibit elapsedTime = true) (count : UInt32) (dataCount : UInt16) :
    InhibitBounded (c.managed cfg elapsedTime count dataCount) := by
  intro htrigger
  have htrigger : c.productionTrigger ≠ .cyclic := htrigger
  by_cases hproduces : c.produces elapsedTime = true
  · obtain ⟨hpaced, hdue⟩ := produces_iff.mp hproduces
    rw [managed_inhibit, if_pos hpaced, inhibitTimerAfter_due htrigger hdue]
    exact Nat.le_of_eq (UInt16.toNat_toUInt64 _)
  · have hsilent := Bool.eq_false_iff.mpr hproduces
    rw [(managed_lowered_iff cfg htrigger hsilent count dataCount).mpr hspends]
    exact (Nat.sub_le _ _).trans (h htrigger)

end CipConnectionObject

open CipConnectionObject

namespace StackState

variable {cfg : Config} {env : Environment} {st st' : StackState} {elapsedTime : UInt64}

/-- The tick lowers every inhibit timer as it should: a connection that stays produces in
its turn or has nothing to lower, and so has one that gets no turn because the loop ends at
an explicit connection that times out. -/
def inhibitTimersRun (cfg : Config) (label : Environment × Action) (st : StackState) : Bool :=
  match label with
  | (env, .manageConnections elapsedTime) =>
      (st.manageTurns cfg env elapsedTime).all fun turn =>
        if (turn.2.conn turn.1).expires elapsedTime then
          turn.1.isIo || (turn.2.behind cfg turn.1).all fun r =>
            (st.conn r).state ≠ .established || (st.conn r).awaitsInhibit elapsedTime
        else
          (turn.2.conn turn.1).state ≠ .established ||
            (turn.2.conn turn.1).spendsInhibit elapsedTime
  | _ => true

theorem inhibitTimersRun_turn {turn : ConnRef × StackState}
    (h : inhibitTimersRun cfg (env, .manageConnections elapsedTime) st = true)
    (hturn : turn ∈ st.manageTurns cfg env elapsedTime)
    (hestablished : (turn.2.conn turn.1).state = .established)
    (hlives : (turn.2.conn turn.1).expires elapsedTime = false) :
    (turn.2.conn turn.1).spendsInhibit elapsedTime = true := by
  have hcheck := List.all_eq_true.mp h turn hturn
  simpa [hlives, hestablished] using hcheck

theorem inhibitTimersRun_behind {turn : ConnRef × StackState} {r : ConnRef}
    (h : inhibitTimersRun cfg (env, .manageConnections elapsedTime) st = true)
    (hturn : turn ∈ st.manageTurns cfg env elapsedTime) (hio : turn.1.isIo = false)
    (hexpires : (turn.2.conn turn.1).expires elapsedTime = true)
    (hr : r ∈ turn.2.behind cfg turn.1) (hestablished : (st.conn r).state = .established) :
    (st.conn r).awaitsInhibit elapsedTime = true := by
  have hcheck := List.all_eq_true.mp h turn hturn
  rw [if_pos hexpires, hio, Bool.false_or] at hcheck
  have hawaits := List.all_eq_true.mp hcheck r hr
  simpa [hestablished] using hawaits

/-- A tick without a packet lowers the inhibit timers of the connections that are
established after it. -/
theorem manageConnections_lowers (hsound : st.Sound cfg)
    (hrun : inhibitTimersRun cfg (env, .manageConnections elapsedTime) st = true)
    (hcall : st.manageConnections cfg env elapsedTime = .ok st') {r : ConnRef}
    (hstate : (st'.conn r).state = .established)
    (htrigger : (st'.conn r).productionTrigger ≠ .cyclic)
    (hsilent : st.packetsOf cfg env elapsedTime r = 0) :
    InhibitLowered elapsedTime (st.conn r) (st'.conn r) := by
  have hfield : ∀ {c d : CipConnectionObject}, Outlives c d →
      d.productionInhibitTimer = c.productionInhibitTimer := fun h => h.field fun _ _ => rfl
  have htriggers : ∀ {c d : CipConnectionObject}, Outlives c d →
      d.productionTrigger = c.productionTrigger := fun h => h.field fun _ _ => rfl
  cases manageConnections_tickOf hsound hcall hstate with
  | @managed s count dataCount turn before established lives after packets =>
      have hsame : (s.conn r).productionTrigger ≠ .cyclic := by
        rw [htriggers after] at htrigger
        exact htrigger
      have hproduces : (s.conn r).produces elapsedTime = false := by
        cases hproduces : (s.conn r).produces elapsedTime with
        | false => rfl
        | true =>
            rw [packets, hproduces] at hsilent
            cases hsilent
      have hspends := inhibitTimersRun_turn hrun turn established lives
      have hlowered :=
        (managed_lowered_iff cfg hsame hproduces count dataCount).mpr hspends
      rw [InhibitLowered, hfield before] at hlowered
      rw [InhibitLowered, hfield after]
      exact hlowered
  | cut turn explicit expires behind outlives packets =>
      have hestablished : (st.conn r).state = .established := by
        rw [← outlives.field (f := CipConnectionObject.state) fun _ _ => rfl]
        exact hstate
      have hawaits := inhibitTimersRun_behind hrun turn explicit expires behind hestablished
      obtain hcyclic | hspent := awaitsInhibit_iff.mp hawaits
      · rw [htriggers outlives] at htrigger
        exact absurd hcyclic htrigger
      · exact .of_eq (hfield outlives) hspent

/-- In a run whose ticks lower the inhibit timers as they should, the timers of the
connections that are not cyclic stay within the inhibit time, and the ticks lower them by
the elapsed time at most to zero. -/
theorem inhibitTimers_bounded {assemblyData : UInt16 → List UInt8}
    (h : Runs.Reaches (step cfg) (fun label st => inhibitTimersRun cfg label st = true)
      (initialState cfg assemblyData) st) :
    (∀ r, (st.conn r).state = .established → (st.conn r).InhibitBounded) ∧
      ∀ env elapsedTime st',
        inhibitTimersRun cfg (env, .manageConnections elapsedTime) st = true →
        st.manageConnections cfg env elapsedTime = .ok st' →
        ∀ r, (st'.conn r).state = .established → (st'.conn r).productionTrigger ≠ .cyclic →
          (st'.conn r).InhibitBounded ∧
            (st.packetsOf cfg env elapsedTime r = 0 →
              InhibitLowered elapsedTime (st.conn r) (st'.conn r)) := by
  have hholds : ∀ {s}, Runs.Reaches (step cfg)
      (fun label st => inhibitTimersRun cfg label st = true) (initialState cfg assemblyData) s →
      Holds cfg InhibitBounded s := by
    intro s hreaches
    refine Holds.reaches InhibitBounded.persistent (fun label st _ => ?_) (fun label st hrun => ?_)
      (holds_initialState cfg assemblyData) hreaches
    · intro st₁ c _ _ _ _ hunproduced
      exact .of_unproduced hunproduced
    · obtain ⟨env, action⟩ := label
      rintro elapsedTime rfl turn hturn hestablished hlives hbounded count dataCount
      exact hbounded.managed (inhibitTimersRun_turn hrun hturn hestablished hlives) count
        dataCount
  have hbounded : ∀ {s}, Runs.Reaches (step cfg)
      (fun label st => inhibitTimersRun cfg label st = true) (initialState cfg assemblyData) s →
      ∀ r, (s.conn r).state = .established → (s.conn r).InhibitBounded := by
    exact fun hreaches r hstate => (hholds hreaches).conn hstate
  refine ⟨hbounded h, ?_⟩
  intro env elapsedTime st' hrun hcall r hstate htrigger
  exact ⟨hbounded (h.tail hrun hcall) r hstate,
    manageConnections_lowers (hholds h).sound hrun hcall hstate htrigger⟩

section Sample

open SampleApplication

/-- An exclusive owner that is triggered by changes, with an inhibit time of 20 ms. -/
def inhibited : OpenParameters :=
  { exclusiveOwner 1 1 pointToPoint with
    transportClassTrigger := 0x11
    connectionPath := [0x43, 20] ++ ioPath 150 100 }

/-- The exclusive owner is established and triggered by changes. -/
def awaitsChange (st : StackState) : Bool :=
  (st.conn (.exclusiveOwner 0)).state = .established &&
    (st.conn (.exclusiveOwner 0)).productionTrigger = .changeOfState

/-- The connection produces in the ticks of 10 and of 90 ms. -/
theorem inhibitTimers_bounded_producing :
    ∃ st, Runs.Reaches (step config) (fun label st => inhibitTimersRun config label st = true)
        (initialState config SampleApplication.assemblyData) st ∧ st.awaitsChange = true ∧
      ∀ r, (st.conn r).state = .established → (st.conn r).InhibitBounded := by
  obtain ⟨st, hreaches, hst⟩ := reaches_of_endsWithin config (inhibitTimersRun config)
    [request inhibited, tick 10, tick 0, tick 90] awaitsChange (by decide +kernel)
  exact ⟨st, hreaches, hst, (inhibitTimers_bounded hreaches).1⟩

/-- After a production a tick of 10 ms leaves the inhibit timer of 20 ms alone, and a tick
of 30 ms wraps it. -/
theorem inhibitTimers_wrap :
    ∃ st, Reachable config st ∧ st.awaitsChange = true ∧
      (st.conn (.exclusiveOwner 0)).productionInhibitTimer = 20 ∧
      (∃ st', st.manageConnections config (environment 0 20) 10 = .ok st' ∧
        (st'.conn (.exclusiveOwner 0)).state = .established ∧
        st.packetsOf config (environment 0 20) 10 (.exclusiveOwner 0) = 0 ∧
        ¬InhibitLowered 10 (st.conn (.exclusiveOwner 0)) (st'.conn (.exclusiveOwner 0))) ∧
      ∃ st', st.manageConnections config (environment 0 20) 30 = .ok st' ∧
        st'.awaitsChange = true ∧
        st.packetsOf config (environment 0 20) 30 (.exclusiveOwner 0) = 0 ∧
        ¬(st'.conn (.exclusiveOwner 0)).InhibitBounded := by
  obtain ⟨st, hreachable, hst⟩ := reachable_of_ends config [request inhibited, tick 10]
    (fun st => decide (st.awaitsChange = true ∧
        (st.conn (.exclusiveOwner 0)).productionInhibitTimer = 20 ∧
        st.packetsOf config (environment 0 20) 10 (.exclusiveOwner 0) = 0 ∧
        st.packetsOf config (environment 0 20) 30 (.exclusiveOwner 0) = 0) &&
      returns (st.manageConnections config (environment 0 20) 10) (fun st' =>
        decide ((st'.conn (.exclusiveOwner 0)).state = .established ∧
          (st'.conn (.exclusiveOwner 0)).productionInhibitTimer = 20)) &&
      returns (st.manageConnections config (environment 0 20) 30) (fun st' =>
        decide (st'.awaitsChange = true ∧
          ¬(st'.conn (.exclusiveOwner 0)).productionInhibitTimer.toNat ≤
            (st'.conn (.exclusiveOwner 0)).productionInhibitTime.toNat)))
    (by decide +kernel)
  simp only [Bool.and_eq_true, decide_eq_true_eq] at hst
  obtain ⟨⟨⟨hawaits, htimer, hten, hthirty⟩, hkept⟩, hwrapped⟩ := hst
  obtain ⟨st₁, hcall₁, hst₁⟩ := returns_iff.mp hkept
  obtain ⟨hstate₁, htimer₁⟩ := of_decide_eq_true hst₁
  obtain ⟨st₂, hcall₂, hst₂⟩ := returns_iff.mp hwrapped
  obtain ⟨hawaits₂, hexceeds⟩ := of_decide_eq_true hst₂
  refine ⟨st, hreachable, hawaits, htimer, ⟨st₁, hcall₁, hstate₁, hten, fun hlowered => ?_⟩,
    st₂, hcall₂, hawaits₂, hthirty, fun hbounded => hexceeds (hbounded fun hcyclic => ?_)⟩
  · rw [InhibitLowered, htimer, htimer₁] at hlowered
    exact absurd hlowered (by decide)
  · rw [awaitsChange, hcyclic] at hawaits₂
    simp at hawaits₂

end Sample

end StackState

end Opener
