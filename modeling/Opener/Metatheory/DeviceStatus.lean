import Mathlib.Data.List.Induction
import Opener.Core.Identity
import Opener.Library.MaskedField

/-!
The status word after any calls: its flags are what was set and not cleared, and its
extended status is the last one that was set unless a major fault flag covers it.
-/

namespace Opener

open CipIdentityStatus CipIdentityExtendedStatus

/-- The calls of `opener_api.h` that change the status word. -/
inductive StatusCall where
  | setStatusFlags (statusFlags : UInt16)
  | clearStatusFlags (statusFlags : UInt16)
  | setExtendedDeviceStatus (extendedStatus : UInt16)
deriving DecidableEq, Repr

namespace StatusCall

def apply (identity : CipIdentityObject) : StatusCall → CipIdentityObject
  | .setStatusFlags statusFlags => identity.setStatusFlags statusFlags
  | .clearStatusFlags statusFlags => identity.clearStatusFlags statusFlags
  | .setExtendedDeviceStatus extendedStatus => identity.setExtendedDeviceStatus extendedStatus

/-- What a call makes of the flags. -/
def applyFlags (flags : UInt16) : StatusCall → UInt16
  | .setStatusFlags statusFlags => flags ||| (statusFlags &&& ~~~extStatusMask)
  | .clearStatusFlags statusFlags => flags &&& ~~~statusFlags
  | .setExtendedDeviceStatus _ => flags

def extendedStatus? : StatusCall → Option UInt16
  | .setExtendedDeviceStatus extendedStatus => some extendedStatus
  | _ => none

end StatusCall

namespace CipIdentityObject

variable (identity : CipIdentityObject)

/-- The bits of the status word outside the extended status. -/
def flags : UInt16 := identity.status &&& ~~~extStatusMask

/-- The extended status in the status word. -/
def extendedStatus : UInt16 := identity.status &&& extStatusMask

/-- A major fault flag covers the extended status that was set. -/
def shown (flags extendedStatus : UInt16) : UInt16 :=
  if flags &&& (majorRecoverableFault ||| majorUnrecoverableFault) ≠ 0 then majorFault
  else extendedStatus &&& extStatusMask

theorem shown_field (flags extendedStatus : UInt16) :
    shown flags extendedStatus &&& extStatusMask = shown flags extendedStatus := by
  rw [shown]
  split
  · rfl
  · exact UInt16.toBitVec_inj.mp (MaskedField.field_field _ _)

theorem mergeStatusAndExtStatus_status : identity.mergeStatusAndExtStatus.status =
    identity.flags ||| shown identity.flags identity.extStatus := rfl

theorem mergeStatusAndExtStatus_flags :
    identity.mergeStatusAndExtStatus.flags = identity.flags := by
  rw [flags, mergeStatusAndExtStatus_status, ← shown_field]
  exact UInt16.toBitVec_inj.mp (MaskedField.flags_merge _ _ _)

theorem mergeStatusAndExtStatus_extendedStatus :
    identity.mergeStatusAndExtStatus.extendedStatus = shown identity.flags identity.extStatus := by
  rw [extendedStatus, mergeStatusAndExtStatus_status, ← shown_field]
  exact UInt16.toBitVec_inj.mp (MaskedField.field_merge _ _ _)

theorem apply_flags (call : StatusCall) :
    (call.apply identity).flags = call.applyFlags identity.flags := by
  cases call with
  | setStatusFlags statusFlags =>
      rw [StatusCall.apply, setStatusFlags, mergeStatusAndExtStatus_flags]
      exact UInt16.toBitVec_inj.mp (MaskedField.flags_or_flags _ _ _)
  | clearStatusFlags statusFlags =>
      rw [StatusCall.apply, clearStatusFlags, mergeStatusAndExtStatus_flags]
      exact UInt16.toBitVec_inj.mp (MaskedField.flags_and_not_flags _ _ _)
  | setExtendedDeviceStatus extendedStatus =>
      exact mergeStatusAndExtStatus_flags _

theorem apply_extStatus (call : StatusCall) : (call.apply identity).extStatus =
    (call.extendedStatus?.map (· &&& extStatusMask)).getD identity.extStatus := by
  cases call with
  | setStatusFlags _ | clearStatusFlags _ | setExtendedDeviceStatus _ => rfl

theorem apply_extendedStatus (call : StatusCall) : (call.apply identity).extendedStatus =
    shown (call.apply identity).flags (call.apply identity).extStatus := by
  cases call with
  | setStatusFlags _ | clearStatusFlags _ | setExtendedDeviceStatus _ =>
      simp only [StatusCall.apply, setStatusFlags, clearStatusFlags, setExtendedDeviceStatus,
        mergeStatusAndExtStatus_extendedStatus, mergeStatusAndExtStatus_flags]
      rfl

/-- The status after `SetDeviceStatus` and the calls. -/
def after (status : UInt16) (calls : List StatusCall) : CipIdentityObject :=
  calls.foldl StatusCall.apply (setDeviceStatus status)

theorem after_concat (status : UInt16) (calls : List StatusCall) (call : StatusCall) :
    after status (calls ++ [call]) = call.apply (after status calls) := by
  rw [after, List.foldl_concat, after]

/-- The flags of the word with what the calls set and clear. -/
def flagsAfter (status : UInt16) (calls : List StatusCall) : UInt16 :=
  calls.foldl StatusCall.applyFlags (status &&& ~~~extStatusMask)

/-- The extended status that was set last. -/
def lastExtendedStatus (status : UInt16) (calls : List StatusCall) : UInt16 :=
  (calls.filterMap StatusCall.extendedStatus?).getLastD status

theorem after_flags (status : UInt16) (calls : List StatusCall) :
    (after status calls).flags = flagsAfter status calls := by
  induction calls using List.reverseRecOn with
  | nil => rfl
  | append_singleton calls call ih =>
      rw [after_concat, apply_flags, ih, flagsAfter, flagsAfter, List.foldl_concat]

theorem after_extStatus (status : UInt16) (calls : List StatusCall) :
    (after status calls).extStatus = lastExtendedStatus status calls &&& extStatusMask := by
  induction calls using List.reverseRecOn with
  | nil => rfl
  | append_singleton calls call ih =>
      rw [after_concat, apply_extStatus, ih, lastExtendedStatus, lastExtendedStatus,
        List.filterMap_append]
      cases hcall : call.extendedStatus? with
      | none => simp [hcall]
      | some extendedStatus => simp [hcall]

/-- After at least one call the word consists of the flags and of the extended status that
was set last, or of major fault while a major fault flag is set. -/
theorem after_status (status : UInt16) {calls : List StatusCall} (h : calls ≠ []) :
    (after status calls).flags = flagsAfter status calls ∧
      (after status calls).extendedStatus =
        if flagsAfter status calls &&& (majorRecoverableFault ||| majorUnrecoverableFault) ≠ 0
        then majorFault
        else lastExtendedStatus status calls &&& extStatusMask := by
  refine ⟨after_flags status calls, ?_⟩
  induction calls using List.reverseRecOn with
  | nil => exact absurd rfl h
  | append_singleton calls call _ =>
      have hshown := apply_extendedStatus (after status calls) call
      rw [← after_concat, after_flags, after_extStatus, shown] at hshown
      rw [hshown]
      split
      · rfl
      · exact UInt16.toBitVec_inj.mp (MaskedField.field_field _ _)

/-- An I/O packet in run mode, a major fault, a packet in idle mode and the end of the fault:
the word shows idle mode. -/
theorem after_status_fault :
    (after 0x0030 [.setExtendedDeviceStatus atLeastOneIoConnectionInRunMode,
      .setStatusFlags majorRecoverableFault,
      .setExtendedDeviceStatus atLeastOneIoConnectionEstablishedAllInIdleMode,
      .clearStatusFlags majorRecoverableFault]).extendedStatus =
      atLeastOneIoConnectionEstablishedAllInIdleMode := by
  rw [(after_status 0x0030 (by simp)).2]
  rfl

end CipIdentityObject

end Opener
