import Opener.Metatheory.Productions

/-!
The rate of a producing connection. While it stays established and keeps its socket, and
nobody times out, its transmission trigger timer and the packets it has sent follow the
drift of a countdown whose period is the requested packet interval, unless rounding the
interval up to whole ticks has left no packet rate.
-/

namespace Opener

open LinkedCells

namespace CipConnectionObject

variable {cfg : Config} {c : CipConnectionObject}

/-- The T->O interval is between one timer tick and the largest 16-bit number of
milliseconds. -/
structure Ordinary (cfg : Config) (c : CipConnectionObject) : Prop where
  tick : 0 < cfg.timerTickInMilliSeconds.toNat
  least : 1000 * cfg.timerTickInMilliSeconds.toNat ≤ c.tToORequestedPacketInterval.toNat
  most : c.tToORequestedPacketInterval.toNat ≤ 1000 * 65535

theorem Ordinary.truncatedInterval (h : Ordinary cfg c) :
    0 < c.truncatedInterval cfg ∧ c.truncatedInterval cfg ≤ 65535 := by
  have hpositive : 0 < tickInMicroSeconds cfg := Nat.mul_pos (by decide) h.tick
  refine ⟨Nat.mul_pos h.tick (Nat.div_pos h.least hpositive), ?_⟩
  have hdiv := interval_div cfg c
  have hmost := h.most
  omega

theorem Ordinary.requestedPacketInterval_pos (h : Ordinary cfg c) :
    0 < (c.requestedPacketInterval cfg).toNat := by
  obtain ⟨hpos, hle⟩ := h.truncatedInterval
  have hleast := h.least
  have hmost := h.most
  rw [toNat_requestedPacketInterval (by omega), Nat.mod_eq_of_lt (by omega)]
  exact hpos

theorem Ordinary.expectedPacketRate_eq_zero (h : Ordinary cfg c) :
    (c.setExpectedPacketRate cfg).expectedPacketRate = 0 ↔ c.roundedInterval cfg = 65536 := by
  obtain ⟨hpos, hle⟩ := h.truncatedInterval
  have hleast := h.least
  have hmost := h.most
  have hrounded := roundedInterval_eq (c := c) h.tick
  have hbounds : 0 < c.roundedInterval cfg ∧ c.roundedInterval cfg < 131072 := by
    rw [hrounded]
    split
    · omega
    · omega
  have hzero : (0 : UInt16).toNat = 0 := rfl
  rw [← UInt16.toNat_inj, toNat_expectedPacketRate h.tick (by omega), hzero]
  omega

end CipConnectionObject

open CipConnectionObject

namespace StackState

variable {cfg : Config} {env : Environment} {st st' start : StackState} {r : ConnRef}
variable {elapsedTime : UInt64} {ticks : List Nat} {packets : Nat}

/-- Nobody times out in the tick. -/
def Calming (cfg : Config) (env : Environment) (elapsedTime : UInt64) (st : StackState) : Prop :=
  ∀ turn ∈ st.manageTurns cfg env elapsedTime, (turn.2.conn turn.1).expires elapsedTime = false

/-- A run during which the connection stays established with its producing socket, the
elapsed times of its ticks, and the packets that the connection has sent. Between the ticks
may come any other steps that leave its production alone. -/
inductive Produces (cfg : Config) (r : ConnRef) (start : StackState) :
    List Nat → Nat → StackState → Prop
  | start : Produces cfg r start [] 0 start
  | tick {ticks : List Nat} {packets : Nat} {st st' : StackState} {env : Environment}
      {elapsedTime : UInt64} (before : Produces cfg r start ticks packets st)
      (calm : Calming cfg env elapsedTime st)
      (call : st.manageConnections cfg env elapsedTime = .ok st')
      (established : (st'.conn r).state = .established)
      (socket : (st'.conn r).producingSocket ≠ eipInvalidSocket) :
      Produces cfg r start (ticks ++ [elapsedTime.toNat])
        (packets + st.packetsOf cfg env elapsedTime r) st'
  | rest {ticks : List Nat} {packets : Nat} {st st' : StackState}
      {label : Environment × Action} (before : Produces cfg r start ticks packets st)
      (quiet : ∀ elapsedTime, label.2 ≠ .manageConnections elapsedTime)
      (call : st.step cfg label = .ok st')
      (same : (st'.conn r).production = (st.conn r).production) :
      Produces cfg r start ticks packets st'

/-- The packets keep the rate: never more than one ahead, and just one ahead when no tick
is as long as the interval. -/
structure KeepsRate (interval : Nat) (ticks : List Nat) (packets : Nat) : Prop where
  most : packets ≤ ticks.sum / interval + 1
  exact : ticks ≠ [] → (∀ elapsed ∈ ticks, elapsed < interval) →
    packets = ticks.sum / interval + 1

theorem manageConnections_produces (hsound : st.Sound cfg)
    (hsocket : (st.conn r).producingSocket ≠ eipInvalidSocket)
    (hcalm : Calming cfg env elapsedTime st)
    (hcall : st.manageConnections cfg env elapsedTime = .ok st')
    (hestablished : (st'.conn r).state = .established) :
    (∃ count dataCount, st'.conn r =
        (st.conn r).managed cfg elapsedTime count dataCount) ∧
      st.packetsOf cfg env elapsedTime r = if (st.conn r).produces elapsedTime then 1 else 0 := by
  cases manageConnections_tickOf hsound hcall hestablished with
  | @managed s count dataCount turn before established lives after packets =>
      have hs := before.eq_of_producing hsocket
      rw [hs] at after packets
      exact ⟨⟨count, dataCount, after.eq_of_producing hsocket⟩, packets⟩
  | cut turn explicit expires behind outlives packets =>
      exact absurd expires (by simp [hcalm _ turn])

/-- What does not change in such a run. -/
structure Steadfast (cfg : Config) (r : ConnRef) (start st : StackState) : Prop where
  sound : st.Sound cfg
  socket : (st.conn r).producingSocket ≠ eipInvalidSocket
  rate : (st.conn r).expectedPacketRate = (start.conn r).expectedPacketRate
  interval : (st.conn r).tToORequestedPacketInterval =
    (start.conn r).tToORequestedPacketInterval

theorem Produces.steadfast (hsound : start.Sound cfg)
    (hsocket : (start.conn r).producingSocket ≠ eipInvalidSocket)
    (h : Produces cfg r start ticks packets st) : Steadfast cfg r start st := by
  induction h with
  | start => exact ⟨hsound, hsocket, rfl, rfl⟩
  | tick before calm call established socket ih =>
      have hsound' := (manageConnections_turnOf (r := r) ih.sound call).1
      obtain ⟨⟨count, dataCount, hobject⟩, -⟩ :=
        manageConnections_produces ih.sound ih.socket calm call established
      refine ⟨hsound', socket, ?_, ?_⟩
      · rw [hobject]
        exact ih.rate
      · rw [hobject]
        exact ih.interval
  | rest before quiet call same ih =>
      simp only [production, Prod.mk.injEq] at same
      obtain ⟨-, hsocket', -, hrate, hinterval, -⟩ := same
      refine ⟨(step_spec ih.sound call).1, ?_, hrate.trans ih.rate, hinterval.trans ih.interval⟩
      rw [hsocket']
      exact ih.socket

theorem Produces.silent (hsound : start.Sound cfg)
    (hsocket : (start.conn r).producingSocket ≠ eipInvalidSocket)
    (hrate : (start.conn r).expectedPacketRate = 0)
    (h : Produces cfg r start ticks packets st) : packets = 0 := by
  induction h with
  | start => rfl
  | @tick ticks packets st st' env elapsedTime before calm call established socket ih =>
      have hst := before.steadfast hsound hsocket
      have hsilent : ¬(st.conn r).produces elapsedTime = true := fun hproduces =>
        (isPaced_iff.mp (produces_iff.mp hproduces).1).1 (hst.rate.trans hrate)
      rw [(manageConnections_produces hst.sound hst.socket calm call established).2, ih,
        if_neg hsilent]
  | rest before quiet call same ih => exact ih

/-- The timer and the packets of a connection with a packet rate drift like a countdown. -/
theorem Produces.drift (hsound : start.Sound cfg)
    (hsocket : (start.conn r).producingSocket ≠ eipInvalidSocket)
    (hrate : (start.conn r).expectedPacketRate ≠ 0)
    (hdue : (start.conn r).transmissionTriggerTimer = 0)
    (h : Produces cfg r start ticks packets st) :
    Countdown.Drift ((start.conn r).requestedPacketInterval cfg).toNat ticks packets
      (st.conn r).transmissionTriggerTimer.toNat := by
  induction h with
  | start =>
      rw [hdue]
      exact .start _
  | @tick ticks packets st st' env elapsedTime before calm call established socket ih =>
      have hst := before.steadfast hsound hsocket
      have hpaced : (st.conn r).isPaced = true :=
        isPaced_iff.mpr ⟨hst.rate ▸ hrate, hst.socket⟩
      have hbounded : (st.conn r).TriggerBounded :=
        Nat.lt_of_le_of_lt ih.bound ((start.conn r).requestedPacketInterval cfg).toNat_lt
      obtain ⟨⟨count, dataCount, hobject⟩, hpackets⟩ :=
        manageConnections_produces hst.sound hst.socket calm call established
      have htimer : (st'.conn r).transmissionTriggerTimer =
          (st.conn r).timerAfter cfg elapsedTime := by
        rw [hobject]
        exact if_pos hpaced
      have hshots : st.packetsOf cfg env elapsedTime r =
          Countdown.shots (st.conn r).transmissionTriggerTimer.toNat elapsedTime.toNat := by
        rw [hpackets, Countdown.shots]
        refine if_congr ?_ rfl rfl
        rw [produces_iff, UInt64.le_iff_toNat_le]
        exact and_iff_right hpaced
      rw [htimer, toNat_timerAfter hbounded, requestedPacketInterval_eq hst.interval, hshots]
      exact ih.tick elapsedTime.toNat
  | rest before quiet call same ih =>
      simp only [production, Prod.mk.injEq] at same
      rw [same.2.2.1]
      exact ih

/-- A new connection of an ordinary interval keeps its rate exactly if the interval does
not round up to 65536 ms, unless it is not put to the test: there was no tick, or one was
as long as the interval. -/
theorem keepsRate_iff (hopened : NewlyOpened cfg assemblyClassCode r start)
    (hordinary : Ordinary cfg (start.conn r))
    (hsocket : (start.conn r).producingSocket ≠ eipInvalidSocket)
    (h : Produces cfg r start ticks packets st) :
    KeepsRate ((start.conn r).requestedPacketInterval cfg).toNat ticks packets ↔
      (start.conn r).roundedInterval cfg ≠ 65536 ∨ ticks = [] ∨
        ∃ elapsed ∈ ticks, ((start.conn r).requestedPacketInterval cfg).toNat ≤ elapsed := by
  obtain ⟨-, htimed, -, hdue⟩ := hopened.timed (by decide)
  have hsound := hopened.answered.1
  have hperiod := hordinary.requestedPacketInterval_pos
  have hrounded := hordinary.expectedPacketRate_eq_zero
  rw [← htimed.rate] at hrounded
  by_cases hrate : (start.conn r).expectedPacketRate = 0
  · have hsilent := h.silent hsound hsocket hrate
    subst hsilent
    constructor
    · intro hkeeps
      by_contra hnot
      simp only [not_or, not_exists, not_and, Nat.not_le] at hnot
      obtain ⟨-, hne, hshort⟩ := hnot
      exact absurd (hkeeps.exact hne hshort).symm (Nat.succ_ne_zero _)
    · intro htested
      refine ⟨Nat.zero_le _, fun hne hshort => ?_⟩
      obtain hcontra | hnone | ⟨elapsed, hmem, hlong⟩ := htested
      · exact absurd (hrounded.mp hrate) hcontra
      · exact absurd hnone hne
      · exact absurd (hshort elapsed hmem) (Nat.not_lt.mpr hlong)
  · have hdrift := h.drift hsound hsocket hrate hdue
    refine iff_of_true ⟨hdrift.count_le hperiod, fun hne hshort => ?_⟩ (.inl ?_)
    · exact hdrift.count_eq hperiod hne hshort
    · exact fun hsix => hrate (hrounded.mpr hsix)

section Sample

open SampleApplication

/-- A tick in which nobody times out and the connection stays, with the number of its
packets and the property of the state after it. -/
def producesIn (cfg : Config) (env : Environment) (elapsedTime : UInt64) (r : ConnRef)
    (packets : Nat) (p : StackState → Bool) (st : StackState) : Bool :=
  ((st.manageTurns cfg env elapsedTime).all fun turn =>
      !(turn.2.conn turn.1).expires elapsedTime) &&
    st.packetsOf cfg env elapsedTime r = packets &&
    returns (st.manageConnections cfg env elapsedTime) fun st' =>
      decide ((st'.conn r).state = .established ∧
        (st'.conn r).producingSocket ≠ eipInvalidSocket) && p st'

theorem Produces.tick_of_producesIn {p : StackState → Bool} {more : Nat}
    (before : Produces cfg r start ticks packets st)
    (h : producesIn cfg env elapsedTime r more p st = true) :
    ∃ st', Produces cfg r start (ticks ++ [elapsedTime.toNat]) (packets + more) st' ∧
      p st' = true := by
  simp only [producesIn, Bool.and_eq_true, decide_eq_true_eq] at h
  obtain ⟨⟨hcalm, rfl⟩, h⟩ := h
  obtain ⟨st', hcall, h⟩ := returns_iff.mp h
  rw [Bool.and_eq_true, decide_eq_true_eq] at h
  obtain ⟨⟨hestablished, hsocket⟩, hp⟩ := h
  refine ⟨st', before.tick (fun turn hturn => ?_) hcall hestablished hsocket, hp⟩
  have hlives := List.all_eq_true.mp hcalm turn hturn
  rwa [Bool.not_eq_true'] at hlives

/-- Ticks of 10 and 90 ms of an exclusive owner with an interval of 100 ms. -/
theorem keepsRate_sample :
    ∃ start st, NewlyOpened config assemblyClassCode (.exclusiveOwner 0) start ∧
      Produces config (.exclusiveOwner 0) start [10, 90] 2 st ∧
      KeepsRate ((start.conn (.exclusiveOwner 0)).requestedPacketInterval config).toNat [10, 90]
        2 := by
  obtain ⟨before, hreachable, hbefore⟩ := reachable_of_ends config []
    (opensNewly config assemblyClassCode (request (exclusiveOwner 1 1 pointToPoint))
      fun r start => decide (r = .exclusiveOwner 0 ∧
          (start.conn (.exclusiveOwner 0)).producingSocket ≠ eipInvalidSocket ∧
          (start.conn (.exclusiveOwner 0)).tToORequestedPacketInterval = 100000) &&
        producesIn config (environment 0 20) 10 (.exclusiveOwner 0) 1
          (producesIn config (environment 0 20) 90 (.exclusiveOwner 0) 1 fun _ => true) start)
    (by decide +kernel)
  obtain ⟨r, start, hopened, hstart⟩ := newlyOpened_of_opensNewly hreachable hbefore
  rw [Bool.and_eq_true, decide_eq_true_eq] at hstart
  obtain ⟨⟨rfl, hsocket, hinterval⟩, hticks⟩ := hstart
  obtain ⟨st₁, hone, hst₁⟩ := Produces.start.tick_of_producesIn hticks
  obtain ⟨st₂, htwo, -⟩ := hone.tick_of_producesIn hst₁
  refine ⟨start, st₂, hopened, htwo, ?_⟩
  have hordinary : Ordinary config (start.conn (.exclusiveOwner 0)) :=
    ⟨by decide, by rw [hinterval]; decide, by rw [hinterval]; decide⟩
  refine (keepsRate_iff hopened hordinary hsocket htwo).mpr (.inl ?_)
  rw [roundedInterval, hinterval]
  decide

/-- The sample application with a timer tick of 16 ms. -/
def coarseConfig : Config := { config with timerTickInMilliSeconds := 16 }

/-- An interval of 65530 ms rounds up to 65536 ms, and the connection never produces. -/
theorem keepsRate_lost :
    ∃ start st, NewlyOpened coarseConfig assemblyClassCode (.exclusiveOwner 0) start ∧
      Ordinary coarseConfig (start.conn (.exclusiveOwner 0)) ∧
      (start.conn (.exclusiveOwner 0)).productionTrigger = .cyclic ∧
      (start.conn (.exclusiveOwner 0)).producingSocket ≠ eipInvalidSocket ∧
      Produces coarseConfig (.exclusiveOwner 0) start [16] 0 st ∧
      ¬KeepsRate ((start.conn (.exclusiveOwner 0)).requestedPacketInterval coarseConfig).toNat
        [16] 0 := by
  obtain ⟨before, hreachable, hbefore⟩ := reachable_of_ends coarseConfig []
    (opensNewly coarseConfig assemblyClassCode
      (request { exclusiveOwner 1 1 pointToPoint with tToORequestedPacketInterval := 65530000 })
      fun r start => decide (r = .exclusiveOwner 0 ∧
          (start.conn (.exclusiveOwner 0)).productionTrigger = .cyclic ∧
          (start.conn (.exclusiveOwner 0)).producingSocket ≠ eipInvalidSocket ∧
          (start.conn (.exclusiveOwner 0)).tToORequestedPacketInterval = 65530000 ∧
          (start.conn (.exclusiveOwner 0)).requestedPacketInterval coarseConfig = 65520) &&
        producesIn coarseConfig (environment 0 20) 16 (.exclusiveOwner 0) 0 (fun _ => true) start)
    (by decide +kernel)
  obtain ⟨r, start, hopened, hstart⟩ := newlyOpened_of_opensNewly hreachable hbefore
  rw [Bool.and_eq_true, decide_eq_true_eq] at hstart
  obtain ⟨⟨rfl, hcyclic, hsocket, hinterval, hperiod⟩, hticks⟩ := hstart
  obtain ⟨st, hone, -⟩ := Produces.start.tick_of_producesIn hticks
  have hordinary : Ordinary coarseConfig (start.conn (.exclusiveOwner 0)) :=
    ⟨by decide, by rw [hinterval]; decide, by rw [hinterval]; decide⟩
  refine ⟨start, st, hopened, hordinary, hcyclic, hsocket, hone, fun hkeeps => ?_⟩
  rw [hperiod] at hkeeps
  exact absurd (hkeeps.exact (by decide) (by decide)) (by decide)

end Sample

end StackState

end Opener
