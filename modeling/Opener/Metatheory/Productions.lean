import Opener.Library.Countdown
import Opener.Metatheory.ListedProperties
import Opener.Metatheory.PacketRates
import Opener.Metatheory.TickTurns

/-!
The transmission trigger timer as a countdown. Every listed connection keeps it within 16
bits, so the 64-bit arithmetic of `ManageConnections` is that of natural numbers.
-/

namespace Opener

open LinkedCells

namespace CipConnectionObject

variable {cfg : Config} {elapsedTime : UInt64} {c d : CipConnectionObject}

/-- The transmission trigger timer is at most a 16-bit number. -/
def TriggerBounded (c : CipConnectionObject) : Prop := c.transmissionTriggerTimer.toNat < 2 ^ 16

/-- What the production of a connection depends on. -/
def production (c : CipConnectionObject) :
    ConnectionObjectState × Int × UInt64 × UInt16 × UInt32 × UInt16 × UInt8 :=
  (c.state, c.producingSocket, c.transmissionTriggerTimer, c.expectedPacketRate,
    c.tToORequestedPacketInterval, c.productionInhibitTime, c.transportClassTrigger)

theorem requestedPacketInterval_eq
    (h : d.tToORequestedPacketInterval = c.tToORequestedPacketInterval) :
    d.requestedPacketInterval cfg = c.requestedPacketInterval cfg := by
  rw [requestedPacketInterval, requestedPacketInterval, remainderToResolution,
    remainderToResolution, h]

theorem toNat_timerAfter (h : c.TriggerBounded) :
    (c.timerAfter cfg elapsedTime).toNat =
      Countdown.after (c.requestedPacketInterval cfg).toNat c.transmissionTriggerTimer.toNat
        elapsedTime.toNat := by
  have hinterval := (c.requestedPacketInterval cfg).toNat_lt
  rw [TriggerBounded] at h
  have hsum : (c.transmissionTriggerTimer +
      (c.requestedPacketInterval cfg).toUInt64).toNat =
        c.transmissionTriggerTimer.toNat + (c.requestedPacketInterval cfg).toNat := by
    rw [UInt64.toNat_add, UInt16.toNat_toUInt64]
    exact Nat.mod_eq_of_lt (by omega)
  rw [timerAfter, Countdown.after]
  simp only [gt_iff_lt, UInt64.le_iff_toNat_le, UInt64.lt_iff_toNat_lt, hsum]
  split
  · split
    · rename_i hlt
      rw [UInt64.toNat_sub_of_le, hsum]
      rw [UInt64.le_iff_toNat_le, hsum]
      omega
    · rename_i hle
      have hzero : (0 : UInt64).toNat = 0 := rfl
      rw [hzero]
      omega
  · rename_i hlate
    rw [UInt64.toNat_sub_of_le]
    rw [UInt64.le_iff_toNat_le]
    omega

theorem TriggerBounded.timerAfter (h : c.TriggerBounded) :
    (c.timerAfter cfg elapsedTime).toNat < 2 ^ 16 := by
  have hinterval := (c.requestedPacketInterval cfg).toNat_lt
  rw [toNat_timerAfter h, Countdown.after]
  rw [TriggerBounded] at h
  split
  · omega
  · omega

theorem TriggerBounded.managed (h : c.TriggerBounded) (count : UInt32) (dataCount : UInt16) :
    (c.managed cfg elapsedTime count dataCount).TriggerBounded := by
  have htimer : (c.managed cfg elapsedTime count dataCount).transmissionTriggerTimer =
    if c.isPaced then c.timerAfter cfg elapsedTime else c.transmissionTriggerTimer := rfl
  rw [TriggerBounded, htimer]
  split
  · exact h.timerAfter
  · exact h

theorem TriggerBounded.persistent : Persistent TriggerBounded := by
  refine ⟨fun _ _ hold _ => hold, fun _ hc => hc, fun _ hc => hc, fun c d hc h => ?_⟩
  cases h with
  | counted _ | replied _ | renewed | heard | sequenced _ => exact hc
  | triggered =>
      rw [TriggerBounded, UInt16.toNat_toUInt64]
      exact c.productionInhibitTime.toNat_lt

end CipConnectionObject

open CipConnectionObject

namespace StackState

variable {cfg : Config} {env : Environment} {label : Environment × Action}
variable {st st' : StackState}

theorem opensWith_triggerBounded (cfg : Config) (label : Environment × Action) (st : StackState) :
    OpensWith TriggerBounded cfg label st := by
  intro st₁ c _ _ _ _ hunproduced
  rw [TriggerBounded, hunproduced.due]
  decide

theorem managesWith_triggerBounded (cfg : Config) (label : Environment × Action) (st : StackState) :
    ManagesWith TriggerBounded cfg label st :=
  fun _ _ _ _ _ _ hbounded count dataCount => hbounded.managed count dataCount

/-- Every turn of a tick finds the timers within bounds. -/
theorem Holds.turns_triggerBounded (h : Holds cfg TriggerBounded st) {elapsedTime : UInt64} :
    ∀ turn ∈ st.manageTurns cfg env elapsedTime, Holds cfg TriggerBounded turn.2 := by
  refine liveTurns_invariant (Holds cfg TriggerBounded) (fun s n r s' hs _ hbody => ?_)
    (h.handleApplication TriggerBounded.persistent env)
  refine hs.manageConnection TriggerBounded.persistent ?_ hbody
  exact fun _ _ hbounded count dataCount => hbounded.managed count dataCount

theorem Holds.step_triggerBounded (h : Holds cfg TriggerBounded st)
    (hstep : st.step cfg label = .ok st') : Holds cfg TriggerBounded st' :=
  h.step TriggerBounded.persistent (opensWith_triggerBounded cfg label st)
    (managesWith_triggerBounded cfg label st) hstep

theorem Reachable.triggerBounded (h : Reachable cfg st) : Holds cfg TriggerBounded st := by
  obtain ⟨assemblyData, hreaches⟩ := h
  exact Holds.reaches TriggerBounded.persistent
    (fun label s _ => opensWith_triggerBounded cfg label s)
    (fun label s _ => managesWith_triggerBounded cfg label s)
    (holds_initialState cfg assemblyData) hreaches

end StackState

end Opener
