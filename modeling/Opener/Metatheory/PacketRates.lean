import Mathlib.Order.Bounds.Basic
import Opener.Core.SampleApplication
import Opener.Metatheory.Requests

/-!
The two packet intervals of a connection. `ConnectionObjectSetExpectedPacketRate` rounds
the T->O interval up to whole timer ticks and `ConnectionObjectGetRequestedPacketInterval`
rounds it down. The interval comes in microseconds and 32 bits, the results are
milliseconds in 16 bits.
-/

namespace Opener

namespace CipConnectionObject

variable (cfg : Config) (c : CipConnectionObject)

def tickInMicroSeconds (cfg : Config) : Nat := 1000 * cfg.timerTickInMilliSeconds.toNat

/-- The T->O interval in milliseconds, rounded up to whole ticks. -/
def roundedInterval : Nat :=
  cfg.timerTickInMilliSeconds.toNat *
    ((c.tToORequestedPacketInterval.toNat + (tickInMicroSeconds cfg - 1)) /
      tickInMicroSeconds cfg)

/-- The ticks that fit in the T->O interval, in milliseconds. -/
def truncatedInterval : Nat :=
  cfg.timerTickInMilliSeconds.toNat *
    (c.tToORequestedPacketInterval.toNat / tickInMicroSeconds cfg)

variable {cfg c}

/-- No multiple of the tick below the rounded interval reaches the requested one. -/
theorem roundedInterval_isLeast (htick : 0 < cfg.timerTickInMilliSeconds.toNat) :
    IsLeast {m : Nat | cfg.timerTickInMilliSeconds.toNat ∣ m ∧
      c.tToORequestedPacketInterval.toNat ≤ 1000 * m} (c.roundedInterval cfg) := by
  rw [roundedInterval, tickInMicroSeconds]
  generalize cfg.timerTickInMilliSeconds.toNat = tick at htick ⊢
  generalize c.tToORequestedPacketInterval.toNat = interval
  have hpositive : 0 < 1000 * tick := by omega
  refine ⟨⟨Dvd.intro _ rfl, ?_⟩, ?_⟩
  · have hlt := Nat.lt_div_mul_add (a := interval + (1000 * tick - 1)) hpositive
    rw [← Nat.mul_assoc, Nat.mul_comm (1000 * tick)]
    omega
  · rintro m ⟨⟨k, rfl⟩, hle⟩
    rw [← Nat.mul_assoc] at hle
    refine Nat.mul_le_mul_left tick (Nat.le_of_lt_succ ?_)
    rw [Nat.div_lt_iff_lt_mul hpositive, Nat.succ_mul k (1000 * tick), Nat.mul_comm k]
    omega

theorem toNat_remainderToResolution (hfits : cfg.timerTickInMilliSeconds.toNat < 65536) :
    (c.remainderToResolution cfg).toNat =
      c.tToORequestedPacketInterval.toNat % tickInMicroSeconds cfg := by
  have hinterval := c.tToORequestedPacketInterval.toNat_lt
  have hle := Nat.mod_le c.tToORequestedPacketInterval.toNat (tickInMicroSeconds cfg)
  rw [tickInMicroSeconds] at hle ⊢
  rw [remainderToResolution, UInt64.toNat_toUInt32, UInt64.toNat_mod, UInt64.toNat_mul,
    UInt32.toNat_toUInt64, Nat.mul_comm cfg.timerTickInMilliSeconds.toNat]
  simp only [UInt64.reduceToNat]
  rw [Nat.mod_eq_of_lt (a := 1000 * cfg.timerTickInMilliSeconds.toNat) (by omega)]
  exact Nat.mod_eq_of_lt (by omega)

theorem interval_div (cfg : Config) (c : CipConnectionObject) :
    c.tToORequestedPacketInterval.toNat / 1000 = c.truncatedInterval cfg +
      c.tToORequestedPacketInterval.toNat % tickInMicroSeconds cfg / 1000 := by
  have hsplit := Nat.div_add_mod c.tToORequestedPacketInterval.toNat (tickInMicroSeconds cfg)
  rw [truncatedInterval]
  rw [tickInMicroSeconds] at hsplit ⊢
  rw [Nat.mul_assoc] at hsplit
  omega

theorem roundedInterval_eq (htick : 0 < cfg.timerTickInMilliSeconds.toNat) :
    c.roundedInterval cfg = c.truncatedInterval cfg +
      if c.tToORequestedPacketInterval.toNat % tickInMicroSeconds cfg = 0 then 0
      else cfg.timerTickInMilliSeconds.toNat := by
  have hpositive : 0 < tickInMicroSeconds cfg := by
    rw [tickInMicroSeconds]
    omega
  rw [roundedInterval, truncatedInterval]
  generalize tickInMicroSeconds cfg = unit at hpositive
  generalize cfg.timerTickInMilliSeconds.toNat = tick
  generalize c.tToORequestedPacketInterval.toNat = interval
  have hsplit := Nat.div_add_mod interval unit
  have hlt := Nat.mod_lt interval hpositive
  split
  · rename_i hrest
    rw [hrest] at hsplit
    congr 1
    rw [Nat.div_eq_iff hpositive, Nat.mul_comm]
    omega
  · rename_i hrest
    rw [← Nat.mul_add_one]
    congr 1
    rw [Nat.div_eq_iff hpositive, Nat.add_mul, Nat.mul_comm (interval / unit)]
    omega

theorem toNat_requestedPacketInterval (hfits : cfg.timerTickInMilliSeconds.toNat < 65536) :
    (c.requestedPacketInterval cfg).toNat = c.truncatedInterval cfg % 65536 := by
  have hrest := toNat_remainderToResolution (c := c) hfits
  have hdiv := interval_div cfg c
  simp only [requestedPacketInterval]
  rw [← hrest] at hdiv
  generalize c.remainderToResolution cfg = rest at hrest hdiv
  have hmilliseconds : (c.tToORequestedPacketInterval / 1000).toNat =
      c.tToORequestedPacketInterval.toNat / 1000 := by
    rw [UInt32.toNat_div]
    rfl
  split
  · rename_i hzero
    rw [hzero] at hdiv
    rw [UInt32.toNat_toUInt16, hmilliseconds, hdiv]
    rfl
  · have hseconds : (rest / 1000).toNat = rest.toNat / 1000 := by
      rw [UInt32.toNat_div]
      rfl
    rw [UInt32.toNat_toUInt16, UInt32.toNat_sub_of_le, hmilliseconds, hseconds, hdiv,
      Nat.add_sub_cancel]
    rw [UInt32.le_iff_toNat_le, hmilliseconds, hseconds, hdiv]
    exact Nat.le_add_left _ _

theorem toNat_expectedPacketRate (htick : 0 < cfg.timerTickInMilliSeconds.toNat)
    (hfits : cfg.timerTickInMilliSeconds.toNat < 65536) :
    (c.setExpectedPacketRate cfg).expectedPacketRate.toNat =
      c.roundedInterval cfg % 65536 := by
  have hrest := toNat_remainderToResolution (c := c) hfits
  have hdiv := interval_div cfg c
  have hrounded := roundedInterval_eq (c := c) htick
  have hinterval := c.tToORequestedPacketInterval.toNat_lt
  have hlt : c.tToORequestedPacketInterval.toNat % tickInMicroSeconds cfg <
      1000 * cfg.timerTickInMilliSeconds.toNat :=
    Nat.mod_lt _ (show 0 < 1000 * cfg.timerTickInMilliSeconds.toNat by omega)
  rw [← hrest] at hlt
  rw [← hrest] at hdiv hrounded
  simp only [setExpectedPacketRate]
  generalize c.remainderToResolution cfg = rest at hrest hdiv hrounded hlt
  have hmilliseconds : (c.tToORequestedPacketInterval / 1000).toNat =
      c.tToORequestedPacketInterval.toNat / 1000 := by
    rw [UInt32.toNat_div]
    rfl
  split
  · rename_i hzero
    rw [hzero] at hdiv hrounded
    rw [UInt32.toNat_toUInt16, hmilliseconds, hdiv, hrounded]
    rfl
  · rename_i hsome
    have hseconds : (rest / 1000).toNat = rest.toNat / 1000 := by
      rw [UInt32.toNat_div]
      rfl
    have htick32 : cfg.timerTickInMilliSeconds.toUInt32.toNat =
        cfg.timerTickInMilliSeconds.toNat := by
      rw [UInt64.toNat_toUInt32]
      exact Nat.mod_eq_of_lt (by omega)
    have hnonzero : rest.toNat ≠ 0 := fun h => hsome (UInt32.toNat_inj.mp h)
    rw [if_neg hnonzero] at hrounded
    have hsub : (cfg.timerTickInMilliSeconds.toUInt32 - rest / 1000).toNat =
        cfg.timerTickInMilliSeconds.toNat - rest.toNat / 1000 := by
      rw [UInt32.toNat_sub_of_le, htick32, hseconds]
      rw [UInt32.le_iff_toNat_le, htick32, hseconds]
      omega
    rw [UInt32.toNat_toUInt16, UInt32.toNat_add, hmilliseconds, hsub, hdiv, hrounded]
    rw [Nat.mod_eq_of_lt (b := 2 ^ 32) (by omega)]
    congr 1
    omega

theorem tick_of_roundedInterval (hinterval : c.tToORequestedPacketInterval ≠ 0)
    (h : c.roundedInterval cfg ≤ 65535) : cfg.timerTickInMilliSeconds.toNat < 65536 := by
  by_contra hlarge
  have htick : 0 < cfg.timerTickInMilliSeconds.toNat := by omega
  obtain ⟨hdvd, hreaches⟩ := (roundedInterval_isLeast (c := c) htick).1
  have hpositive : 0 < c.roundedInterval cfg := by
    have hnonzero : c.tToORequestedPacketInterval.toNat ≠ 0 :=
      fun hzero => hinterval (UInt32.toNat_inj.mp hzero)
    omega
  have hle := Nat.le_of_dvd hpositive hdvd
  omega

/-- What is stored is the least multiple of the tick that reaches the interval, exactly
if that fits in 16 bits. -/
theorem setExpectedPacketRate_iff (cfg : Config) (c : CipConnectionObject)
    (htick : 0 < cfg.timerTickInMilliSeconds) :
    (IsLeast {m : Nat | cfg.timerTickInMilliSeconds.toNat ∣ m ∧
          c.tToORequestedPacketInterval.toNat ≤ 1000 * m}
        (c.setExpectedPacketRate cfg).expectedPacketRate.toNat ∧
      ((c.setExpectedPacketRate cfg).expectedPacketRate = 0 ↔
        c.tToORequestedPacketInterval = 0)) ↔
      c.roundedInterval cfg ≤ 65535 := by
  have hpositive : 0 < cfg.timerTickInMilliSeconds.toNat := htick
  have hleast := roundedInterval_isLeast (c := c) hpositive
  constructor
  · rintro ⟨hstored, -⟩
    have hlt := (c.setExpectedPacketRate cfg).expectedPacketRate.toNat_lt
    rw [← hstored.unique hleast]
    omega
  · intro hfits
    by_cases hinterval : c.tToORequestedPacketInterval = 0
    · have hzero : (c.setExpectedPacketRate cfg).expectedPacketRate = 0 := by
        simp [setExpectedPacketRate, remainderToResolution, hinterval]
      rw [hzero, hinterval]
      exact ⟨⟨⟨dvd_zero _, Nat.zero_le _⟩, fun _ _ => Nat.zero_le _⟩, iff_of_true rfl rfl⟩
    · have hstored := toNat_expectedPacketRate (c := c) hpositive
        (tick_of_roundedInterval hinterval hfits)
      rw [Nat.mod_eq_of_lt (Nat.lt_succ_of_le hfits)] at hstored
      rw [← UInt16.toNat_inj, hstored]
      refine ⟨hleast, iff_of_false (fun hzero => hinterval ?_) hinterval⟩
      have hreaches := hleast.1.2
      rw [show c.roundedInterval cfg = 0 from hzero] at hreaches
      exact UInt32.toNat_inj.mp (Nat.le_zero.mp hreaches)

section Sample

open SampleApplication StackState

theorem setExpectedPacketRate_fits :
    let c : CipConnectionObject := { tToORequestedPacketInterval := 65499001 }
    IsLeast {m : Nat | config.timerTickInMilliSeconds.toNat ∣ m ∧
          c.tToORequestedPacketInterval.toNat ≤ 1000 * m}
        (c.setExpectedPacketRate config).expectedPacketRate.toNat ∧
      ((c.setExpectedPacketRate config).expectedPacketRate = 0 ↔
        c.tToORequestedPacketInterval = 0) :=
  (setExpectedPacketRate_iff config _ (by decide)).mpr (by decide)

/-- A granted interval of 65536 ms is stored as 4 ms. -/
theorem expectedPacketRate_truncated :
    ∃ st, Reachable config st ∧ ∃ r ∈ st.connectionList config,
      (st.conn r).tToORequestedPacketInterval = 65536000 ∧
      (st.conn r).expectedPacketRate =
        ((st.conn r).setExpectedPacketRate config).expectedPacketRate ∧
      ¬IsLeast {m : Nat | config.timerTickInMilliSeconds.toNat ∣ m ∧
          (st.conn r).tToORequestedPacketInterval.toNat ≤ 1000 * m}
        ((st.conn r).setExpectedPacketRate config).expectedPacketRate.toNat := by
  obtain ⟨st, hreachable, hst⟩ := reachable_of_ends config
    [request { exclusiveOwner 1 1 pointToPoint with tToORequestedPacketInterval := 65536000 }]
    (fun st => decide (∃ r ∈ st.connectionList config,
      (st.conn r).tToORequestedPacketInterval = 65536000 ∧
      (st.conn r).expectedPacketRate =
        ((st.conn r).setExpectedPacketRate config).expectedPacketRate ∧
      (st.conn r).expectedPacketRate = 4))
    (by decide +kernel)
  obtain ⟨r, hr, hinterval, hstored, hfour⟩ := of_decide_eq_true hst
  refine ⟨st, hreachable, r, hr, hinterval, hstored, fun hleast => ?_⟩
  have hreaches := hleast.1.2
  rw [← hstored, hfour, hinterval] at hreaches
  exact absurd hreaches (by decide)

end Sample

end CipConnectionObject

end Opener
