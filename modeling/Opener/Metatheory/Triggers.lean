import Opener.Core.SampleApplication
import Opener.Metatheory.View

/-!
`TriggerConnections`. The call looks at the first connection of the list that has the two
assemblies and writes its production inhibit time over the transmission trigger timer,
whatever is left of it and however old the last production is.
-/

namespace Opener

namespace StackState

variable {cfg : Config}

/-- The connection that `TriggerConnections` stops at. -/
def triggerTarget (cfg : Config) (outputAssembly inputAssembly : UInt32) (st : StackState) :
    Option ConnRef :=
  st.findConnection cfg fun _ c =>
    outputAssembly = c.consumedPath.instanceId.toUInt32 &&
      inputAssembly = c.producedPath.instanceId.toUInt32

/-- The transmission trigger timer of an application triggered connection after the
call. -/
def timerAfterTrigger (cfg : Config) (outputAssembly inputAssembly : UInt32) (r : ConnRef)
    (st : StackState) : UInt64 :=
  ((st.triggerConnections cfg outputAssembly inputAssembly).2.conn r).transmissionTriggerTimer

theorem timerAfterTrigger_eq {outputAssembly inputAssembly : UInt32} {r : ConnRef}
    {st : StackState} (htrigger : (st.conn r).productionTrigger = .applicationObject) :
    st.timerAfterTrigger cfg outputAssembly inputAssembly r =
      if st.triggerTarget cfg outputAssembly inputAssembly = some r then
        (st.conn r).productionInhibitTime.toUInt64
      else (st.conn r).transmissionTriggerTimer := by
  simp only [timerAfterTrigger, triggerConnections]
  split
  · rename_i hnone
    have htarget : st.triggerTarget cfg outputAssembly inputAssembly = none := hnone
    rw [if_neg (by simp [htarget])]
  · rename_i s hfound
    have htarget : st.triggerTarget cfg outputAssembly inputAssembly = some s := hfound
    by_cases hs : r = s
    · subst hs
      rw [if_pos htrigger, if_pos htarget, conn_modifyConn_self]
    · have hother : st.triggerTarget cfg outputAssembly inputAssembly ≠ some r :=
        fun hsame => hs (Option.some.inj (hsame.symm.trans htarget))
      rw [if_neg hother]
      split
      · rw [conn_modifyConn_of_ne _ hs]
      · rfl

/-- The timer ends neither above the inhibit time nor above its old value exactly if the
call stops at the connection and the timer was not below the inhibit time, or it stops
elsewhere and the timer was not above it. -/
theorem timerAfterTrigger_le_iff {outputAssembly inputAssembly : UInt32} {r : ConnRef}
    {st : StackState} (htrigger : (st.conn r).productionTrigger = .applicationObject) :
    (st.timerAfterTrigger cfg outputAssembly inputAssembly r ≤
        (st.conn r).productionInhibitTime.toUInt64 ∧
      st.timerAfterTrigger cfg outputAssembly inputAssembly r ≤
        (st.conn r).transmissionTriggerTimer) ↔
      if st.triggerTarget cfg outputAssembly inputAssembly = some r then
        (st.conn r).productionInhibitTime.toUInt64 ≤ (st.conn r).transmissionTriggerTimer
      else
        (st.conn r).transmissionTriggerTimer ≤ (st.conn r).productionInhibitTime.toUInt64 := by
  rw [timerAfterTrigger_eq htrigger]
  split
  · exact and_iff_right (UInt64.le_refl _)
  · exact and_iff_left (UInt64.le_refl _)

section Sample

open SampleApplication

/-- An exclusive owner that the application triggers. -/
def triggered : OpenParameters :=
  { exclusiveOwner 1 1 pointToPoint with transportClassTrigger := 0x21 }

def trigger (outputAssembly inputAssembly : UInt32) : Environment × Action :=
  (environment 0 20, .triggerConnections outputAssembly inputAssembly)

/-- The exclusive owner produces the two assemblies when it is triggered. -/
def awaitsTrigger (st : StackState) : Bool :=
  (st.conn (.exclusiveOwner 0)).state = .established &&
    (st.conn (.exclusiveOwner 0)).productionTrigger = .applicationObject &&
    (st.conn (.exclusiveOwner 0)).consumedPath.instanceId = 150 &&
    (st.conn (.exclusiveOwner 0)).producedPath.instanceId = 100 &&
    (st.conn (.exclusiveOwner 0)).producingSocket ≠ eipInvalidSocket

/-- A second trigger does no harm. -/
theorem timerAfterTrigger_again :
    ∃ st, Reachable config st ∧ st.awaitsTrigger = true ∧
      st.timerAfterTrigger config 150 100 (.exclusiveOwner 0) ≤
        (st.conn (.exclusiveOwner 0)).productionInhibitTime.toUInt64 ∧
      st.timerAfterTrigger config 150 100 (.exclusiveOwner 0) ≤
        (st.conn (.exclusiveOwner 0)).transmissionTriggerTimer := by
  obtain ⟨st, hreachable, hst⟩ := reachable_of_ends config
    [request triggered, tick 10, trigger 150 100]
    (fun st => st.awaitsTrigger && decide (
      (st.conn (.exclusiveOwner 0)).productionTrigger = .applicationObject ∧
      st.triggerTarget config 150 100 = some (.exclusiveOwner 0) ∧
      (st.conn (.exclusiveOwner 0)).productionInhibitTime.toUInt64 ≤
        (st.conn (.exclusiveOwner 0)).transmissionTriggerTimer))
    (by decide +kernel)
  rw [Bool.and_eq_true, decide_eq_true_eq] at hst
  obtain ⟨hawaits, htrigger, htarget, hle⟩ := hst
  exact ⟨st, hreachable, hawaits,
    (timerAfterTrigger_le_iff htrigger).mpr ((if_pos htarget).mpr hle)⟩

/-- After a production and a tick of 10 ms the next one is due in 90 ms; the trigger puts
it off to 256 ms. -/
theorem timerAfterTrigger_postpones :
    ∃ st, Reachable config st ∧ st.awaitsTrigger = true ∧
      (st.conn (.exclusiveOwner 0)).transmissionTriggerTimer = 90 ∧
      st.timerAfterTrigger config 150 100 (.exclusiveOwner 0) = 256 ∧
      ¬(st.timerAfterTrigger config 150 100 (.exclusiveOwner 0) ≤
          (st.conn (.exclusiveOwner 0)).productionInhibitTime.toUInt64 ∧
        st.timerAfterTrigger config 150 100 (.exclusiveOwner 0) ≤
          (st.conn (.exclusiveOwner 0)).transmissionTriggerTimer) := by
  obtain ⟨st, hreachable, hst⟩ := reachable_of_ends config [request triggered, tick 10]
    (fun st => st.awaitsTrigger && decide (
      (st.conn (.exclusiveOwner 0)).transmissionTriggerTimer = 90 ∧
      st.timerAfterTrigger config 150 100 (.exclusiveOwner 0) = 256))
    (by decide +kernel)
  rw [Bool.and_eq_true, decide_eq_true_eq] at hst
  obtain ⟨hawaits, hbefore, hafter⟩ := hst
  refine ⟨st, hreachable, hawaits, hbefore, hafter, fun hboth => ?_⟩
  rw [hbefore, hafter] at hboth
  exact absurd hboth.2 (by decide)

end Sample

end StackState

end Opener
