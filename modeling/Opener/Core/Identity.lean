import Mathlib.Data.UInt

/-!
The status word of the identity object of `cipidentity.c`. The extended status is kept
beside the word, because a major fault covers it there.
-/

namespace Opener

namespace CipIdentityStatus

def majorRecoverableFault : UInt16 := 0x0400
def majorUnrecoverableFault : UInt16 := 0x0800

end CipIdentityStatus

namespace CipIdentityExtendedStatus

def selftestingUnknown : UInt16 := 0x0000
def majorFault : UInt16 := 0x0050
def atLeastOneIoConnectionInRunMode : UInt16 := 0x0060
def atLeastOneIoConnectionEstablishedAllInIdleMode : UInt16 := 0x0070
def extStatusMask : UInt16 := 0x00F0

end CipIdentityExtendedStatus

open CipIdentityStatus CipIdentityExtendedStatus

/-- The members of `g_identity` that make up attribute 5. -/
structure CipIdentityObject where
  status : UInt16 := 0
  extStatus : UInt16 := selftestingUnknown
deriving DecidableEq, Repr

def setDeviceStatus (status : UInt16) : CipIdentityObject :=
  { status, extStatus := status &&& extStatusMask }

namespace CipIdentityObject

variable (identity : CipIdentityObject)

def mergeStatusAndExtStatus : CipIdentityObject :=
  let statusFlags := identity.status &&& ~~~extStatusMask
  let extStatus :=
    if statusFlags &&& (majorRecoverableFault ||| majorUnrecoverableFault) ≠ 0 then majorFault
    else identity.extStatus &&& extStatusMask
  { identity with status := statusFlags ||| extStatus }

def setStatusFlags (statusFlags : UInt16) : CipIdentityObject :=
  { identity with
    status := identity.status ||| (statusFlags &&& ~~~extStatusMask) }.mergeStatusAndExtStatus

def clearStatusFlags (statusFlags : UInt16) : CipIdentityObject :=
  { identity with
    status := identity.status &&& ~~~(statusFlags &&& ~~~extStatusMask) }.mergeStatusAndExtStatus

def setExtendedDeviceStatus (extendedStatus : UInt16) : CipIdentityObject :=
  { identity with extStatus := extendedStatus &&& extStatusMask }.mergeStatusAndExtStatus

end CipIdentityObject

end Opener
