import Opener.Core.Qos
import Opener.Core.Types
import Opener.Library.FormattedText

/-!
The file with the values of the QoS object, `nvqos.c`, and what `nvdata.c` does with it at
start-up. What the file system answers is given for each access.
-/

namespace Opener

open FormattedText

/-- How a file is written. When it cannot be written or closed, anything may be left in it. -/
inductive FileWrite where
  | notOpened
  | failed (left : List UInt8)
  | written
deriving DecidableEq, Repr

inductive FileRead where
  | notOpened
  | notClosed
  | complete
deriving DecidableEq, Repr

structure FileAccess where
  read : FileRead := .complete
  write : FileWrite := .written
deriving DecidableEq, Repr

/-- The accesses in their order. -/
abbrev FileSystem := Nat → FileAccess

/-- The content of a file, none when there is no such file. -/
abbrev ConfFile := Option (List UInt8)

/-- `" %u, %u, %u, %u, %u\n"` -/
def qosFormat : List Directive :=
  [.white 0x20, .unsigned, .literal 0x2C, .white 0x20, .unsigned, .literal 0x2C, .white 0x20,
    .unsigned, .literal 0x2C, .white 0x20, .unsigned, .literal 0x2C, .white 0x20, .unsigned,
    .white 0x0A]

/-- The values that are stored, as they are written. -/
def CipQosDscpValues.stored (dscp : CipQosDscpValues) : List UInt32 :=
  [dscp.urgent.toUInt32, dscp.scheduled.toUInt32, dscp.high.toUInt32, dscp.low.toUInt32,
    dscp.explicitMsg.toUInt32]

/-- The values read replace the ones of the object when there are five that fit. -/
def CipQosDscpValues.restore (dscp : CipQosDscpValues) : List UInt32 → Option CipQosDscpValues
  | [urgent, scheduled, high, low, explicitMsg] =>
      if urgent > 255 ∨ scheduled > 255 ∨ high > 255 ∨ low > 255 ∨ explicitMsg > 255 then none
      else
        some { dscp with
          urgent := urgent.toUInt8
          scheduled := scheduled.toUInt8
          high := high.toUInt8
          low := low.toUInt8
          explicitMsg := explicitMsg.toUInt8 }
  | _ => none

def nvQosLoad (access : FileRead) (file : ConfFile) (dscp : CipQosDscpValues) :
    EipStatus × CipQosDscpValues :=
  match access, file with
  | .complete, some text =>
      match dscp.restore (scan qosFormat text) with
      | some dscp => (.ok, dscp)
      | none => (.error, dscp)
  | _, _ => (.error, dscp)

/-- A file that cannot be opened is no error. -/
def nvQosStore (access : FileWrite) (dscp : CipQosDscpValues) (file : ConfFile) :
    EipStatus × ConfFile :=
  match access with
  | .notOpened => (.ok, file)
  | .failed left => (.error, some left)
  | .written => (.ok, some (print qosFormat dscp.stored))

/-- What was loaded is stored again; nothing is stored when it could not be loaded. -/
def nvdataLoad (access : FileAccess) (file : ConfFile) (dscp : CipQosDscpValues) :
    EipStatus × CipQosDscpValues × ConfFile :=
  match nvQosLoad access.read file dscp with
  | (.error, dscp) => (.error, dscp, file)
  | (_, dscp) =>
      let (status, file) := nvQosStore access.write dscp file
      (status, dscp, file)

end Opener
