import Opener.Metatheory.InhibitTimers
import Opener.Metatheory.Productions

/-!
The time between two productions of a connection. `ManageConnections` keeps an inhibit
timer but never asks it before a packet; the transmission trigger timer alone decides. So
two productions are as far apart as the inhibit time wants it if every production sets that
timer no lower than the inhibit time.
-/

namespace Opener

open LinkedCells

namespace CipConnectionObject

variable {cfg : Config} {elapsedTime : UInt64} {c d : CipConnectionObject}

/-- A production sets the transmission trigger timer no lower than the inhibit time. -/
def reloadsInhibit (cfg : Config) (elapsedTime : UInt64) (c : CipConnectionObject) : Bool :=
  c.productionInhibitTime.toNat + elapsedTime.toNat ≤
    c.transmissionTriggerTimer.toNat + (c.requestedPacketInterval cfg).toNat

theorem le_timerAfter (hbounded : c.TriggerBounded)
    (hdue : c.transmissionTriggerTimer ≤ elapsedTime)
    (hreloads : c.reloadsInhibit cfg elapsedTime = true) :
    c.productionInhibitTime.toNat ≤ (c.timerAfter cfg elapsedTime).toNat := by
  rw [reloadsInhibit, decide_eq_true_eq] at hreloads
  rw [UInt64.le_iff_toNat_le] at hdue
  rw [toNat_timerAfter hbounded, Countdown.after, if_pos hdue]
  omega

/-- What is left of the transmission trigger timer and the time since the last production
make up the inhibit time; a connection that has produced has the socket for it. -/
structure Spaced (since : Option Nat) (c : CipConnectionObject) : Prop where
  socket : since.isSome = true → c.producingSocket ≠ eipInvalidSocket
  rested : Countdown.Rested c.productionInhibitTime.toNat c.transmissionTriggerTimer.toNat since

namespace Spaced

variable {since : Option Nat}

theorem never (c : CipConnectionObject) : Spaced none c :=
  ⟨fun hsome => absurd hsome Bool.false_ne_true, fun _ hnone => by cases hnone⟩

theorem of_production (h : Spaced since c) (hsame : d.production = c.production) :
    Spaced since d := by
  simp only [production, Prod.mk.injEq] at hsame
  obtain ⟨-, hsocket, htimer, -, -, htime, -⟩ := hsame
  exact ⟨hsocket ▸ h.socket, by rw [htime, htimer]; exact h.rested⟩

theorem idle (h : Spaced since c) (elapsed : Nat) : Spaced (since.map (· + elapsed)) c :=
  ⟨fun hsome => h.socket (by rwa [Option.isSome_map] at hsome), h.rested.idle elapsed⟩

theorem triggered (h : Spaced since c) :
    Spaced since { c with transmissionTriggerTimer := c.productionInhibitTime.toUInt64 } := by
  refine ⟨h.socket, ?_⟩
  change Countdown.Rested _ c.productionInhibitTime.toUInt64.toNat since
  rw [UInt16.toNat_toUInt64]
  exact Countdown.Rested.retrigger since

theorem silent (h : Spaced since c) (hbounded : c.TriggerBounded)
    (hsilent : c.produces elapsedTime = false) (count : UInt32) (dataCount : UInt16) :
    Spaced (since.map (· + elapsedTime.toNat)) (c.managed cfg elapsedTime count dataCount) := by
  refine ⟨(h.idle elapsedTime.toNat).socket, ?_⟩
  change Countdown.Rested c.productionInhibitTime.toNat (UInt64.toNat
    (if c.isPaced then c.timerAfter cfg elapsedTime else c.transmissionTriggerTimer)) _
  by_cases hpaced : c.isPaced = true
  · have hdue : ¬c.transmissionTriggerTimer.toNat ≤ elapsedTime.toNat := by
      intro hdue
      rw [produces_iff.mpr ⟨hpaced, UInt64.le_iff_toNat_le.mpr hdue⟩] at hsilent
      cases hsilent
    rw [if_pos hpaced, toNat_timerAfter hbounded, Countdown.after, if_neg hdue]
    exact h.rested.wait elapsedTime.toNat
  · rw [if_neg hpaced]
    exact h.rested.idle elapsedTime.toNat

theorem produced (hbounded : c.TriggerBounded) (hproduces : c.produces elapsedTime = true)
    (hreloads : c.reloadsInhibit cfg elapsedTime = true) (count : UInt32) (dataCount : UInt16) :
    Spaced (some 0) (c.managed cfg elapsedTime count dataCount) := by
  obtain ⟨hpaced, hdue⟩ := produces_iff.mp hproduces
  refine ⟨fun _ => (isPaced_iff.mp hpaced).2, ?_⟩
  change Countdown.Rested c.productionInhibitTime.toNat (UInt64.toNat
    (if c.isPaced then c.timerAfter cfg elapsedTime else c.transmissionTriggerTimer)) _
  rw [if_pos hpaced]
  exact Countdown.Rested.fire (le_timerAfter hbounded hdue hreloads)

theorem gap (h : Spaced since c) (hproduces : c.produces elapsedTime = true) :
    ∀ passed ∈ since.map (· + elapsedTime.toNat), c.productionInhibitTime.toNat ≤ passed :=
  h.rested.gap (UInt64.le_iff_toNat_le.mp (produces_iff.mp hproduces).2)

end Spaced

end CipConnectionObject

open CipConnectionObject

/-- A connection that has produced is left alone, and one that has not may take over. -/
theorem Outlives.spaced {since : Option Nat} {c d : CipConnectionObject} (h : Outlives c d)
    (hspaced : Spaced since c) : Spaced since d := by
  cases since with
  | none => exact .never d
  | some passed =>
      rw [h.eq_of_producing (hspaced.socket rfl)]
      exact hspaced

namespace StackState

variable {cfg : Config} {env : Environment} {st st' start : StackState} {r : ConnRef}
variable {elapsedTime : UInt64} {since : Option Nat} {gaps : List Nat}

/-- If the connection produces in the tick, that sets its transmission trigger timer no
lower than its inhibit time. -/
def reloadsInhibit (cfg : Config) (r : ConnRef) (env : Environment) (elapsedTime : UInt64)
    (st : StackState) : Bool :=
  (st.manageTurns cfg env elapsedTime).all fun turn =>
    turn.1 ≠ r || !(turn.2.conn r).produces elapsedTime ||
      (turn.2.conn r).reloadsInhibit cfg elapsedTime

/-- A run of allowed ticks and of triggers during which the connection stays established:
the time since its last production, if it has produced, and the times between its
productions. Any other steps that leave its production alone may come between. -/
inductive Spaces (cfg : Config) (r : ConnRef)
    (allowed : Environment → UInt64 → StackState → Bool) (start : StackState) :
    Option Nat → List Nat → StackState → Prop
  | start : Spaces cfg r allowed start none [] start
  | silent {since : Option Nat} {gaps : List Nat} {st st' : StackState} {env : Environment}
      {elapsedTime : UInt64} (before : Spaces cfg r allowed start since gaps st)
      (within : allowed env elapsedTime st = true)
      (call : st.manageConnections cfg env elapsedTime = .ok st')
      (established : (st'.conn r).state = .established)
      (packets : st.packetsOf cfg env elapsedTime r = 0) :
      Spaces cfg r allowed start (since.map (· + elapsedTime.toNat)) gaps st'
  | produces {since : Option Nat} {gaps : List Nat} {st st' : StackState} {env : Environment}
      {elapsedTime : UInt64} (before : Spaces cfg r allowed start since gaps st)
      (within : allowed env elapsedTime st = true)
      (call : st.manageConnections cfg env elapsedTime = .ok st')
      (established : (st'.conn r).state = .established)
      (packets : st.packetsOf cfg env elapsedTime r ≠ 0) :
      Spaces cfg r allowed start (some 0)
        (gaps ++ (since.map (· + elapsedTime.toNat)).toList) st'
  | trigger {since : Option Nat} {gaps : List Nat} {st : StackState}
      {outputAssembly inputAssembly : UInt32} (before : Spaces cfg r allowed start since gaps st) :
      Spaces cfg r allowed start since gaps
        (st.triggerConnections cfg outputAssembly inputAssembly).2
  | rest {since : Option Nat} {gaps : List Nat} {st st' : StackState}
      {label : Environment × Action} (before : Spaces cfg r allowed start since gaps st)
      (quiet : ∀ elapsedTime, label.2 ≠ .manageConnections elapsedTime)
      (call : st.step cfg label = .ok st')
      (same : (st'.conn r).production = (st.conn r).production) :
      Spaces cfg r allowed start since gaps st'

theorem triggerConnections_conn (cfg : Config) (outputAssembly inputAssembly : UInt32)
    (st : StackState) (r : ConnRef) :
    (st.triggerConnections cfg outputAssembly inputAssembly).2.conn r = st.conn r ∨
      (st.triggerConnections cfg outputAssembly inputAssembly).2.conn r =
        { st.conn r with
          transmissionTriggerTimer := (st.conn r).productionInhibitTime.toUInt64 } := by
  simp only [triggerConnections]
  split
  · exact .inl rfl
  · rename_i s hfound
    split
    · by_cases hs : r = s
      · subst hs
        right
        exact conn_modifyConn_self _ _ _
      · left
        exact conn_modifyConn_of_ne _ hs _
    · exact .inl rfl

theorem manageConnections_silent (hholds : Holds cfg TriggerBounded st)
    (hspaced : Spaced since (st.conn r))
    (hcall : st.manageConnections cfg env elapsedTime = .ok st')
    (hestablished : (st'.conn r).state = .established)
    (hpackets : st.packetsOf cfg env elapsedTime r = 0) :
    Spaced (since.map (· + elapsedTime.toNat)) (st'.conn r) := by
  cases manageConnections_tickOf hholds.sound hcall hestablished with
  | @managed s count dataCount turn before established lives after packets =>
      have hsilent : (s.conn r).produces elapsedTime = false := by
        cases hproduces : (s.conn r).produces elapsedTime with
        | false => rfl
        | true =>
            rw [packets, hproduces] at hpackets
            cases hpackets
      have hbounded := (hholds.turns_triggerBounded _ turn).conn established
      exact after.spaced ((before.spaced hspaced).silent hbounded hsilent count dataCount)
  | cut turn explicit expires behind outlives packets =>
      exact outlives.spaced (hspaced.idle elapsedTime.toNat)

/-- A tick with a packet starts the spacing again, and comes when the last one is over. -/
theorem manageConnections_produced (hholds : Holds cfg TriggerBounded st)
    (hspaced : Spaced since (st.conn r))
    (hreloads : reloadsInhibit cfg r env elapsedTime st = true)
    (hcall : st.manageConnections cfg env elapsedTime = .ok st')
    (hestablished : (st'.conn r).state = .established)
    (hpackets : st.packetsOf cfg env elapsedTime r ≠ 0) :
    Spaced (some 0) (st'.conn r) ∧
      ∀ passed ∈ since.map (· + elapsedTime.toNat),
        (st.conn r).productionInhibitTime.toNat ≤ passed := by
  cases manageConnections_tickOf hholds.sound hcall hestablished with
  | @managed s count dataCount turn before established lives after packets =>
      have hproduces : (s.conn r).produces elapsedTime = true := by
        by_contra hsilent
        rw [packets, if_neg hsilent] at hpackets
        exact hpackets rfl
      have hcheck := List.all_eq_true.mp hreloads (r, s) turn
      have hreload : (s.conn r).reloadsInhibit cfg elapsedTime = true := by
        simpa [hproduces] using hcheck
      have hbounded := (hholds.turns_triggerBounded _ turn).conn established
      refine ⟨after.spaced (.produced hbounded hproduces hreload count dataCount), ?_⟩
      have htime : (s.conn r).productionInhibitTime = (st.conn r).productionInhibitTime :=
        before.field fun _ _ => rfl
      rw [← htime]
      exact (before.spaced hspaced).gap hproduces
  | cut turn explicit expires behind outlives packets => exact absurd packets hpackets

/-- What holds along such a run. -/
structure Spacing (cfg : Config) (r : ConnRef) (start : StackState) (since : Option Nat)
    (gaps : List Nat) (st : StackState) : Prop where
  holds : Holds cfg TriggerBounded st
  time : (st.conn r).productionInhibitTime = (start.conn r).productionInhibitTime
  spaced : Spaced since (st.conn r)
  gaps : ∀ gap ∈ gaps, (start.conn r).productionInhibitTime.toNat ≤ gap

/-- A tick does not change the inhibit time of a connection that stays established. -/
theorem manageConnections_inhibitTime (hsound : st.Sound cfg)
    (hcall : st.manageConnections cfg env elapsedTime = .ok st')
    (hestablished : (st'.conn r).state = .established) :
    (st'.conn r).productionInhibitTime = (st.conn r).productionInhibitTime := by
  have hfield : ∀ {c d : CipConnectionObject}, Outlives c d →
      d.productionInhibitTime = c.productionInhibitTime := fun h => h.field fun _ _ => rfl
  cases manageConnections_tickOf hsound hcall hestablished with
  | @managed s count dataCount turn before established lives after packets =>
      have hmanaged : ((s.conn r).managed cfg elapsedTime count dataCount).productionInhibitTime =
        (s.conn r).productionInhibitTime := rfl
      rw [hfield after, hmanaged]
      exact hfield before
  | cut turn explicit expires behind outlives packets => exact hfield outlives

/-- Two consecutive productions of a connection are at least its inhibit time apart in every
run in which each of its productions sets the transmission trigger timer no lower than the
inhibit time. -/
theorem spaces_inhibited (hreachable : Reachable cfg start)
    (h : Spaces cfg r (reloadsInhibit cfg r) start since gaps st) :
    ∀ gap ∈ gaps, (start.conn r).productionInhibitTime.toNat ≤ gap := by
  suffices hspacing : Spacing cfg r start since gaps st from hspacing.gaps
  induction h with
  | start => exact ⟨hreachable.triggerBounded, rfl, .never _, fun gap hgap => by cases hgap⟩
  | silent before within call established packets ih =>
      refine ⟨ih.holds.manageConnections TriggerBounded.persistent
        (managesWith_triggerBounded cfg _ _) call, ?_, ?_, ih.gaps⟩
      · exact (manageConnections_inhibitTime ih.holds.sound call established).trans ih.time
      · exact manageConnections_silent ih.holds ih.spaced call established packets
  | produces before within call established packets ih =>
      obtain ⟨hspaced, hgap⟩ :=
        manageConnections_produced ih.holds ih.spaced within call established packets
      refine ⟨ih.holds.manageConnections TriggerBounded.persistent
        (managesWith_triggerBounded cfg _ _) call, ?_, hspaced, fun gap hmem => ?_⟩
      · exact (manageConnections_inhibitTime ih.holds.sound call established).trans ih.time
      · obtain hmem | hmem := List.mem_append.mp hmem
        · exact ih.gaps gap hmem
        · rw [← ih.time]
          exact hgap gap (Option.mem_toList.mp hmem)
  | @trigger since gaps st outputAssembly inputAssembly before ih =>
      refine ⟨ih.holds.serviced TriggerBounded.persistent (triggerConnections_serviced cfg _ _ st),
        ?_, ?_, ih.gaps⟩
      · obtain hsame | htriggered := triggerConnections_conn cfg outputAssembly inputAssembly st r
        · rw [hsame]
          exact ih.time
        · rw [htriggered]
          exact ih.time
      · obtain hsame | htriggered := triggerConnections_conn cfg outputAssembly inputAssembly st r
        · rw [hsame]
          exact ih.spaced
        · rw [htriggered]
          exact ih.spaced.triggered
  | rest before quiet call same ih =>
      refine ⟨ih.holds.step_triggerBounded call, ?_, ih.spaced.of_production same, ih.gaps⟩
      simp only [production, Prod.mk.injEq] at same
      exact same.2.2.2.2.2.1.trans ih.time

section Sample

open SampleApplication

/-- A tick in which the connection sends these packets and stays, with the property of the
state after it. -/
def spacesIn (cfg : Config) (env : Environment) (elapsedTime : UInt64) (r : ConnRef)
    (packets : Nat) (p : StackState → Bool) (st : StackState) : Bool :=
  st.packetsOf cfg env elapsedTime r = packets &&
    returns (st.manageConnections cfg env elapsedTime) fun st' =>
      (st'.conn r).state = .established && p st'

theorem Spaces.tick_of_spacesIn {allowed : Environment → UInt64 → StackState → Bool}
    {p : StackState → Bool} {packets : Nat} (before : Spaces cfg r allowed start since gaps st)
    (within : allowed env elapsedTime st = true) (hpackets : packets ≠ 0)
    (h : spacesIn cfg env elapsedTime r packets p st = true) :
    ∃ st', Spaces cfg r allowed start (some 0)
      (gaps ++ (since.map (· + elapsedTime.toNat)).toList) st' ∧ p st' = true := by
  rw [spacesIn, Bool.and_eq_true, decide_eq_true_eq] at h
  obtain ⟨rfl, h⟩ := h
  obtain ⟨st', hcall, h⟩ := returns_iff.mp h
  rw [Bool.and_eq_true, decide_eq_true_eq] at h
  exact ⟨st', before.produces within hcall h.1 hpackets, h.2⟩

/-- The exclusive owner produces in the ticks of 10 and of 90 ms, and its inhibit time is
20 ms. -/
theorem spaces_inhibited_sample :
    ∃ start st, Reachable config start ∧ start.awaitsChange = true ∧
      Spaces config (.exclusiveOwner 0) (reloadsInhibit config (.exclusiveOwner 0)) start
        (some 0) [90] st ∧
      ∀ gap ∈ [90], (start.conn (.exclusiveOwner 0)).productionInhibitTime.toNat ≤ gap := by
  obtain ⟨start, hreachable, hstart⟩ := reachable_of_ends config [request inhibited]
    (fun start => start.awaitsChange &&
      (reloadsInhibit config (.exclusiveOwner 0) (environment 0 20) 10 start &&
        spacesIn config (environment 0 20) 10 (.exclusiveOwner 0) 1 (fun st =>
          reloadsInhibit config (.exclusiveOwner 0) (environment 0 20) 90 st &&
            spacesIn config (environment 0 20) 90 (.exclusiveOwner 0) 1 (fun _ => true) st)
          start))
    (by decide +kernel)
  simp only [Bool.and_eq_true] at hstart
  obtain ⟨hawaits, hten, hticks⟩ := hstart
  obtain ⟨st₁, hone, hst₁⟩ := Spaces.start.tick_of_spacesIn hten one_ne_zero hticks
  rw [Bool.and_eq_true] at hst₁
  obtain ⟨st₂, htwo, -⟩ := hone.tick_of_spacesIn hst₁.1 one_ne_zero hst₁.2
  exact ⟨start, st₂, hreachable, hawaits, htwo, spaces_inhibited hreachable htwo⟩

/-- After a tick of 185 ms the next production comes 10 ms later. -/
theorem spaces_hurried :
    ∃ start st, Reachable config start ∧ start.awaitsChange = true ∧
      (start.conn (.exclusiveOwner 0)).productionInhibitTime = 20 ∧
      Spaces config (.exclusiveOwner 0) (fun _ _ _ => true) start (some 0) [185, 10] st ∧
      ¬∀ gap ∈ [185, 10],
        (start.conn (.exclusiveOwner 0)).productionInhibitTime.toNat ≤ gap := by
  obtain ⟨start, hreachable, hstart⟩ := reachable_of_ends config [request inhibited]
    (fun start => start.awaitsChange &&
      (decide ((start.conn (.exclusiveOwner 0)).productionInhibitTime = 20) &&
        spacesIn config (environment 0 20) 10 (.exclusiveOwner 0) 1
          (spacesIn config (environment 0 20) 185 (.exclusiveOwner 0) 1
            (spacesIn config (environment 0 20) 10 (.exclusiveOwner 0) 1 fun _ => true)) start))
    (by decide +kernel)
  rw [Bool.and_eq_true, Bool.and_eq_true, decide_eq_true_eq] at hstart
  obtain ⟨hawaits, htime, hticks⟩ := hstart
  have hrun : Spaces config (.exclusiveOwner 0) (fun _ _ _ => true) start none [] start := .start
  obtain ⟨st₁, hone, hst₁⟩ := hrun.tick_of_spacesIn rfl one_ne_zero hticks
  obtain ⟨st₂, htwo, hst₂⟩ := hone.tick_of_spacesIn rfl one_ne_zero hst₁
  obtain ⟨st₃, hthree, -⟩ := htwo.tick_of_spacesIn rfl one_ne_zero hst₂
  refine ⟨start, st₃, hreachable, hawaits, htime, hthree, fun hspaced => ?_⟩
  rw [htime] at hspaced
  exact absurd (hspaced 10 (by decide)) (by decide)

end Sample

end StackState

end Opener
