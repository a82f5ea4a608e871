import Opener.Core.SampleApplication
import Opener.Metatheory.ListedProperties
import Opener.Metatheory.TickTurns

/-!
The two watchdogs of a connection. The timeout is computed by a shift in 64 bits whose
amount is a byte of the request. Both timers are lowered together in a tick, but only the
inactivity watchdog is compared with the elapsed time, and only that one is set when the
connection is opened.
-/

namespace Opener

open LinkedCells

namespace CipConnectionObject

variable {cfg : Config} {elapsedTime : UInt64} {c d : CipConnectionObject}

/-- The inactivity timeout that a request asks for, in milliseconds. -/
def watchdogTime (c : CipConnectionObject) : Nat :=
  c.oToTRequestedPacketInterval.toNat / 1000 * 2 ^ (2 + c.connectionTimeoutMultiplier.toNat)

/-- The timers of a new connection are set to the timeout. -/
structure WatchdogsExact (c : CipConnectionObject) : Prop where
  regular : c.regularInactivityWatchdogTimerValue.toNat = c.watchdogTime
  initial : c.inactivityWatchdogTimer.toNat = max c.watchdogTime 10000

/-- The timers are reset to the timeout and do not exceed it. -/
structure WatchdogsBounded (c : CipConnectionObject) : Prop where
  regular : c.regularInactivityWatchdogTimerValue.toNat = c.watchdogTime
  inactivity : c.inactivityWatchdogTimer.toNat ≤ max c.watchdogTime 10000
  lastPackage : c.lastPackageWatchdogTimer.toNat ≤ c.watchdogTime

/-- Both timers have come down alike, by the elapsed time or not at all. -/
def WatchdogsLowered (elapsedTime : UInt64) (c d : CipConnectionObject) : Prop :=
  ∃ spent, (spent = 0 ∨ spent = elapsedTime.toNat) ∧
    d.inactivityWatchdogTimer.toNat + spent = c.inactivityWatchdogTimer.toNat ∧
    d.lastPackageWatchdogTimer.toNat + spent = c.lastPackageWatchdogTimer.toNat

/-- The watchdog of the last package has the elapsed time left, if the turn lowers it. -/
def affords (elapsedTime : UInt64) (c : CipConnectionObject) : Bool :=
  !c.isWatched || elapsedTime ≤ c.lastPackageWatchdogTimer

theorem affords_iff : c.affords elapsedTime = true ↔
    c.isWatched = false ∨ elapsedTime.toNat ≤ c.lastPackageWatchdogTimer.toNat := by
  simp only [affords, Bool.or_eq_true, Bool.not_eq_true', decide_eq_true_eq,
    UInt64.le_iff_toNat_le]

theorem toNat_regularInactivityWatchdogTimerValue (c : CipConnectionObject) :
    c.regularInactivityWatchdogTimerValue.toNat = c.watchdogTime % 2 ^ 64 := by
  rw [regularInactivityWatchdogTimerValue, UInt64.toNat_ofNat', Nat.shiftLeft_eq, watchdogTime]

theorem regular_exact_iff : c.regularInactivityWatchdogTimerValue.toNat = c.watchdogTime ↔
    c.watchdogTime < 2 ^ 64 := by
  rw [toNat_regularInactivityWatchdogTimerValue]
  exact Nat.mod_eq_iff_lt (by decide)

theorem toNat_setInitialInactivityWatchdogTimerValue (c : CipConnectionObject) :
    c.setInitialInactivityWatchdogTimerValue.inactivityWatchdogTimer.toNat =
      max c.regularInactivityWatchdogTimerValue.toNat 10000 := by
  simp only [setInitialInactivityWatchdogTimerValue, gt_iff_lt]
  have hminimum : (10000 : UInt64).toNat = 10000 := rfl
  split
  · rename_i hlt
    rw [UInt64.lt_iff_toNat_lt, hminimum] at hlt
    omega
  · rename_i hle
    rw [UInt64.lt_iff_toNat_lt, hminimum] at hle
    omega

/-- The timeout of a new connection fits in 64 bits exactly if nothing of it is lost. -/
theorem Timed.watchdogsExact_iff (h : Timed cfg c) :
    c.WatchdogsExact ↔ c.watchdogTime < 2 ^ 64 := by
  refine ⟨fun hexact => regular_exact_iff.mp hexact.regular, fun hfits => ?_⟩
  have hregular := regular_exact_iff.mpr hfits
  refine ⟨hregular, ?_⟩
  rw [h.watchdog, toNat_setInitialInactivityWatchdogTimerValue, hregular]

theorem WatchdogsBounded.of_lowered (h : WatchdogsBounded c)
    (hinterval : d.oToTRequestedPacketInterval = c.oToTRequestedPacketInterval)
    (hmultiplier : d.connectionTimeoutMultiplier = c.connectionTimeoutMultiplier)
    (hinactivity : d.inactivityWatchdogTimer.toNat ≤ max c.watchdogTime 10000)
    (hlast : d.lastPackageWatchdogTimer.toNat ≤ c.watchdogTime) : WatchdogsBounded d := by
  have htime : d.watchdogTime = c.watchdogTime := by
    rw [watchdogTime, hinterval, hmultiplier, watchdogTime]
  have hregular : d.regularInactivityWatchdogTimerValue =
      c.regularInactivityWatchdogTimerValue := by
    rw [regularInactivityWatchdogTimerValue, hinterval, hmultiplier,
      regularInactivityWatchdogTimerValue]
  refine ⟨?_, ?_, ?_⟩
  · rw [hregular, h.regular, htime]
  · rw [htime]
    exact hinactivity
  · rw [htime]
    exact hlast

theorem WatchdogsBounded.persistent : Persistent WatchdogsBounded := by
  refine ⟨fun _ _ _ hc => hc.of_lowered rfl rfl hc.inactivity hc.lastPackage,
    fun _ hc => hc.of_lowered rfl rfl hc.inactivity hc.lastPackage,
    fun _ hc => hc.of_lowered rfl rfl hc.inactivity hc.lastPackage, fun c d hc h => ?_⟩
  have hregular := Nat.le_of_eq hc.regular
  cases h with
  | counted _ | replied _ | triggered =>
      exact hc.of_lowered rfl rfl hc.inactivity hc.lastPackage
  | renewed | sequenced _ =>
      exact hc.of_lowered rfl rfl (hregular.trans (Nat.le_max_left _ _)) hc.lastPackage
  | heard => exact hc.of_lowered rfl rfl hc.inactivity hregular

theorem WatchdogsBounded.of_timed (h : Timed cfg c) (hunheard : c.lastPackageWatchdogTimer = 0)
    (hfits : c.watchdogTime < 2 ^ 64) : WatchdogsBounded c := by
  have hexact := h.watchdogsExact_iff.mpr hfits
  refine ⟨hexact.regular, Nat.le_of_eq hexact.initial, ?_⟩
  rw [hunheard]
  exact Nat.zero_le _

theorem toNat_managed_watchdogs (cfg : Config) (hestablished : c.state = .established)
    (hlives : c.expires elapsedTime = false) (hwatched : c.isWatched = true) (count : UInt32)
    (dataCount : UInt16) :
    (c.managed cfg elapsedTime count dataCount).inactivityWatchdogTimer.toNat +
        elapsedTime.toNat = c.inactivityWatchdogTimer.toNat ∧
      (c.managed cfg elapsedTime count dataCount).lastPackageWatchdogTimer.toNat =
        (2 ^ 64 - elapsedTime.toNat + c.lastPackageWatchdogTimer.toNat) % 2 ^ 64 := by
  have hlate : ¬c.inactivityWatchdogTimer ≤ elapsedTime := by
    intro hdue
    rw [expires_iff.mpr ⟨hestablished, hwatched, hdue⟩] at hlives
    cases hlives
  rw [UInt64.le_iff_toNat_le] at hlate
  have hinactivity : (c.managed cfg elapsedTime count dataCount).inactivityWatchdogTimer =
      c.inactivityWatchdogTimer - elapsedTime := if_pos hwatched
  have hlast : (c.managed cfg elapsedTime count dataCount).lastPackageWatchdogTimer =
      c.lastPackageWatchdogTimer - elapsedTime := if_pos hwatched
  rw [hinactivity, hlast, UInt64.toNat_sub_of_le, UInt64.toNat_sub]
  · exact ⟨by omega, rfl⟩
  · rw [UInt64.le_iff_toNat_le]
    omega

/-- A turn lowers both timers exactly if the watchdog of the last package can afford it. -/
theorem managed_watchdogs_iff (cfg : Config) (hestablished : c.state = .established)
    (hlives : c.expires elapsedTime = false) (count : UInt32) (dataCount : UInt16) :
    WatchdogsLowered elapsedTime c (c.managed cfg elapsedTime count dataCount) ↔
      c.affords elapsedTime = true := by
  rw [affords_iff]
  cases hwatched : c.isWatched with
  | false =>
      refine iff_of_true ⟨0, .inl rfl, ?_, ?_⟩ (.inl rfl)
      · exact congrArg UInt64.toNat (if_neg (by simp [hwatched]))
      · exact congrArg UInt64.toNat (if_neg (by simp [hwatched]))
  | true =>
      obtain ⟨hinactivity, hlast⟩ :=
        toNat_managed_watchdogs cfg hestablished hlives hwatched count dataCount
      have htimer := c.lastPackageWatchdogTimer.toNat_lt
      have helapsed := elapsedTime.toNat_lt
      rw [WatchdogsLowered, hlast]
      simp only [Bool.true_eq_false, false_or]
      refine ⟨fun h => ?_, fun hle => ⟨elapsedTime.toNat, .inr rfl, hinactivity, by omega⟩⟩
      obtain ⟨spent, -, hspent, hlowered⟩ := h
      omega

theorem WatchdogsBounded.managed (h : WatchdogsBounded c) {count : UInt32} {dataCount : UInt16}
    (hlowered : WatchdogsLowered elapsedTime c (c.managed cfg elapsedTime count dataCount)) :
    WatchdogsBounded (c.managed cfg elapsedTime count dataCount) := by
  obtain ⟨spent, -, hinactivity, hlast⟩ := hlowered
  have hinactivity' := h.inactivity
  have hlast' := h.lastPackage
  exact h.of_lowered rfl rfl (by omega) (by omega)

end CipConnectionObject

open CipConnectionObject

namespace StackState

variable {cfg : Config} {env : Environment} {st st' : StackState} {elapsedTime : UInt64}

/-- The watchdogs of the step are sound: what it opens has a timeout that fits in 64 bits,
and in a tick no watched connection that stays has less left than the elapsed time. -/
def watchdogsRun (cfg : Config) (label : Environment × Action) (st : StackState) : Bool :=
  ((openEntry cfg label st).all fun s => s.dummy.watchdogTime < 2 ^ 64) &&
    match label with
    | (env, .manageConnections elapsedTime) =>
        (st.manageTurns cfg env elapsedTime).all fun turn =>
          (turn.2.conn turn.1).state ≠ .established ||
            (turn.2.conn turn.1).expires elapsedTime ||
            (turn.2.conn turn.1).affords elapsedTime
    | _ => true

theorem watchdogsRun_entry {label : Environment × Action} {s : StackState}
    (h : watchdogsRun cfg label st = true) (hentry : openEntry cfg label st = some s) :
    s.dummy.watchdogTime < 2 ^ 64 := by
  have hopens := (Bool.and_eq_true_iff.mp h).1
  rw [hentry] at hopens
  exact of_decide_eq_true hopens

theorem watchdogsRun_turn {turn : ConnRef × StackState}
    (h : watchdogsRun cfg (env, .manageConnections elapsedTime) st = true)
    (hturn : turn ∈ st.manageTurns cfg env elapsedTime)
    (hestablished : (turn.2.conn turn.1).state = .established)
    (hlives : (turn.2.conn turn.1).expires elapsedTime = false) :
    (turn.2.conn turn.1).affords elapsedTime = true := by
  have hcheck := List.all_eq_true.mp (Bool.and_eq_true_iff.mp h).2 turn hturn
  simpa [hlives, hestablished] using hcheck

/-- A tick lowers the watchdogs of the connections that are established after it. -/
theorem manageConnections_watchdogs (hsound : st.Sound cfg)
    (hrun : watchdogsRun cfg (env, .manageConnections elapsedTime) st = true)
    (hcall : st.manageConnections cfg env elapsedTime = .ok st') {r : ConnRef}
    (hstate : (st'.conn r).state = .established) :
    WatchdogsLowered elapsedTime (st.conn r) (st'.conn r) := by
  have hinactivity : ∀ {c d : CipConnectionObject}, Outlives c d →
      d.inactivityWatchdogTimer = c.inactivityWatchdogTimer := fun h => h.field fun _ _ => rfl
  have hlast : ∀ {c d : CipConnectionObject}, Outlives c d →
      d.lastPackageWatchdogTimer = c.lastPackageWatchdogTimer := fun h => h.field fun _ _ => rfl
  cases manageConnections_tickOf hsound hcall hstate with
  | @managed s count dataCount turn before established lives after packets =>
      have haffords := watchdogsRun_turn hrun turn established lives
      have hlowered :=
        (managed_watchdogs_iff cfg established lives count dataCount).mpr haffords
      rw [WatchdogsLowered, hinactivity before, hlast before] at hlowered
      rw [WatchdogsLowered, hinactivity after, hlast after]
      exact hlowered
  | cut turn explicit expires behind outlives packets =>
      exact ⟨0, .inl rfl, congrArg UInt64.toNat (hinactivity outlives),
        congrArg UInt64.toNat (hlast outlives)⟩

theorem Holds.watchdogsBounded {assemblyData : UInt16 → List UInt8}
    (h : Runs.Reaches (StackState.step cfg) (fun label st => watchdogsRun cfg label st = true)
      (initialState cfg assemblyData) st) : Holds cfg WatchdogsBounded st := by
  refine Holds.reaches WatchdogsBounded.persistent (fun label st hrun => ?_)
    (fun label st hrun => ?_) (holds_initialState cfg assemblyData) h
  · intro s c hentry htimed hunheard _ hunproduced
    have hsame := hunproduced.timing
    refine .of_timed (htimed.of_timing hsame) ?_ ?_
    · rw [← hunheard]
      exact congrArg (fun t => t.2.1) hsame
    · have hfits := watchdogsRun_entry hrun hentry
      simp only [timing, Prod.mk.injEq] at hsame
      rw [watchdogTime, hsame.2.2.2.1, hsame.2.2.2.2.1]
      exact hfits
  · obtain ⟨env, action⟩ := label
    rintro elapsedTime rfl turn hturn hestablished hlives hbounded count dataCount
    have haffords := watchdogsRun_turn hrun hturn hestablished hlives
    exact hbounded.managed ((managed_watchdogs_iff cfg hestablished hlives count dataCount).mpr
      haffords)

/-- The timeout of a new connection is exact if and only if it fits in 64 bits. In a run
whose steps are sound in this respect and in whose ticks no watched connection has less
left for the last package than the elapsed time, the timers are bounded by the timeout and
no tick wraps them. -/
theorem watchdogs_exact (cfg : Config) :
    (∀ classId r st, classId ≠ 0 → NewlyOpened cfg classId r st →
      ((st.conn r).WatchdogsExact ↔ (st.conn r).watchdogTime < 2 ^ 64)) ∧
    ∀ assemblyData st,
      Runs.Reaches (step cfg) (fun label st => watchdogsRun cfg label st = true)
        (initialState cfg assemblyData) st →
      (∀ r, (st.conn r).state = .established → (st.conn r).WatchdogsBounded) ∧
        ∀ env elapsedTime st',
          watchdogsRun cfg (env, .manageConnections elapsedTime) st = true →
          st.manageConnections cfg env elapsedTime = .ok st' →
          ∀ r, (st'.conn r).state = .established →
            WatchdogsLowered elapsedTime (st.conn r) (st'.conn r) := by
  refine ⟨fun classId r st hzero hopened => ?_, fun assemblyData st hreaches => ?_⟩
  · exact (hopened.timed hzero).2.1.watchdogsExact_iff
  · have hholds := Holds.watchdogsBounded hreaches
    refine ⟨fun r hstate => hholds.conn hstate, fun env elapsedTime st' hrun hcall r hstate => ?_⟩
    exact manageConnections_watchdogs hholds.sound hrun hcall hstate

section Sample

open SampleApplication

/-- An exclusive owner with the timeout multiplier, and an interval of 100 ms. -/
def withMultiplier (multiplier : UInt8) : OpenParameters :=
  { exclusiveOwner 1 1 pointToPoint with connectionTimeoutMultiplier := multiplier }

/-- With the multiplier 7 the timeout is 51200 ms. After a packet both timers start from it,
and a tick of 10 ms lowers them. -/
theorem watchdogs_exact_sample :
    (∃ r st, NewlyOpened config assemblyClassCode r st ∧ (st.conn r).watchdogTime = 51200 ∧
      (st.conn r).WatchdogsExact) ∧
    ∃ st, Runs.Reaches (step config) (fun label st => watchdogsRun config label st = true)
        (initialState config SampleApplication.assemblyData) st ∧
      (st.conn (.exclusiveOwner 0)).state = .established ∧
      (st.conn (.exclusiveOwner 0)).inactivityWatchdogTimer = 51190 ∧
      (st.conn (.exclusiveOwner 0)).lastPackageWatchdogTimer = 51190 ∧
      ∀ r, (st.conn r).state = .established → (st.conn r).WatchdogsBounded := by
  refine ⟨?_, ?_⟩
  · obtain ⟨st, hreachable, hst⟩ := reachable_of_ends config []
      (opensNewly config assemblyClassCode (request (withMultiplier 7)) fun r st =>
        (st.conn r).watchdogTime = 51200) (by decide +kernel)
    obtain ⟨r, st', hopened, htime⟩ := newlyOpened_of_opensNewly hreachable hst
    have htime := of_decide_eq_true htime
    refine ⟨r, st', hopened, htime, ?_⟩
    refine ((watchdogs_exact config).1 assemblyClassCode r st' (by decide) hopened).mpr ?_
    rw [htime]
    decide
  · obtain ⟨st, hreaches, hst⟩ := reaches_of_endsWithin config (watchdogsRun config)
      [request (withMultiplier 7),
        receive (sequencedPacket 0x12340013 1 (intBytes 1 ++ dintBytes 1 ++ List.replicate 32 0)),
        tick 10]
      (fun st => (st.conn (.exclusiveOwner 0)).state = .established &&
        (st.conn (.exclusiveOwner 0)).inactivityWatchdogTimer = 51190 &&
        (st.conn (.exclusiveOwner 0)).lastPackageWatchdogTimer = 51190) (by decide +kernel)
    simp only [Bool.and_eq_true, decide_eq_true_eq] at hst
    exact ⟨st, hreaches, hst.1.1, hst.1.2, hst.2,
      ((watchdogs_exact config).2 SampleApplication.assemblyData st hreaches).1⟩

/-- With the multiplier 58 the timeout of 100 * 2^60 ms is cut off to 2^62, and the first
tick of 10 ms wraps the watchdog of the last package, which was never set. -/
theorem watchdogs_wrap :
    (∃ r st, NewlyOpened config assemblyClassCode r st ∧
      (st.conn r).watchdogTime = 100 * 2 ^ 60 ∧
      (st.conn r).regularInactivityWatchdogTimerValue.toNat = 2 ^ 62 ∧
      ¬(st.conn r).WatchdogsExact) ∧
    ∃ st st', Reachable config st ∧
      st.manageConnections config (environment 0 20) 10 = .ok st' ∧
      (st.conn (.exclusiveOwner 0)).lastPackageWatchdogTimer = 0 ∧
      (st'.conn (.exclusiveOwner 0)).state = .established ∧
      (st'.conn (.exclusiveOwner 0)).lastPackageWatchdogTimer.toNat = 2 ^ 64 - 10 ∧
      ¬WatchdogsLowered 10 (st.conn (.exclusiveOwner 0)) (st'.conn (.exclusiveOwner 0)) := by
  refine ⟨?_, ?_⟩
  · obtain ⟨st, hreachable, hst⟩ := reachable_of_ends config []
      (opensNewly config assemblyClassCode (request (withMultiplier 58)) fun r st =>
        (st.conn r).watchdogTime = 100 * 2 ^ 60) (by decide +kernel)
    obtain ⟨r, st', hopened, htime⟩ := newlyOpened_of_opensNewly hreachable hst
    have htime := of_decide_eq_true htime
    have hregular : (st'.conn r).regularInactivityWatchdogTimerValue.toNat = 2 ^ 62 := by
      rw [toNat_regularInactivityWatchdogTimerValue, htime]
      decide
    refine ⟨r, st', hopened, htime, hregular, fun hexact => ?_⟩
    have hcontra := hexact.regular
    rw [hregular, htime] at hcontra
    exact absurd hcontra (by decide)
  · obtain ⟨st, hreachable, hst⟩ := reachable_of_ends config [request (withMultiplier 7)]
      (fun st => decide ((st.conn (.exclusiveOwner 0)).lastPackageWatchdogTimer = 0) &&
        returns (st.manageConnections config (environment 0 20) 10) fun st' =>
          decide ((st'.conn (.exclusiveOwner 0)).state = .established ∧
            (st'.conn (.exclusiveOwner 0)).lastPackageWatchdogTimer.toNat = 2 ^ 64 - 10))
      (by decide +kernel)
    rw [Bool.and_eq_true, decide_eq_true_eq] at hst
    obtain ⟨hunheard, hticked⟩ := hst
    obtain ⟨st', hcall, hst'⟩ := returns_iff.mp hticked
    obtain ⟨hstate, hwrapped⟩ := of_decide_eq_true hst'
    refine ⟨st, st', hreachable, hcall, hunheard, hstate, hwrapped, fun hlowered => ?_⟩
    obtain ⟨spent, -, -, hlast⟩ := hlowered
    rw [hwrapped, hunheard] at hlast
    change 2 ^ 64 - 10 + spent = 0 at hlast
    omega

end Sample

end StackState

end Opener
