import Opener.Core.Identity
import Opener.Core.Production

/-!
`HandleReceivedIoConnectionData` with all that it does: beside the state of the stack the
identity object, the calls of the application, the assemblies it writes and how much of the
data item it looks at.
-/

namespace Opener

/-- What is done for a data item outside of the state of the stack. -/
inductive ReceptionCall where
  | runIdleChanged (runIdleValue : UInt32)
  | written (instanceNumber : UInt16) (data : List UInt8)
  | afterAssemblyDataReceived (instanceNumber : UInt16)
deriving DecidableEq, Repr

structure Reception where
  state : StackState
  identity : CipIdentityObject
  calls : List ReceptionCall := []
  /-- The bytes of the item, from its front on, that were looked at. -/
  interpreted : Nat := 0

namespace Reception

open CipIdentityExtendedStatus

variable (cfg : Config) (env : Environment)

/-- The sequence count of class 1. -/
def receiveSequenceCount (r : ConnRef) (data : Message) (dataLength : UInt16)
    (reception : Reception) : Bool × Message × UInt16 × Reception :=
  if (reception.state.conn r).transportClass = .class1 then
    let (sequenceBuffer, data) := data.getUint
    let noNewData := seqLeq16 sequenceBuffer (reception.state.conn r).sequenceCountConsuming
    (noNewData, data, dataLength - 2,
      { reception with
        state := reception.state.modifyConn r fun c =>
          { c with sequenceCountConsuming := sequenceBuffer }
        interpreted := reception.interpreted + 2 })
  else (false, data, dataLength, reception)

/-- The run/idle header. -/
def receiveRunIdle (runIdle : UInt32) (reception : Reception) : Reception :=
  { state := { reception.state with runIdleState := runIdle }
    identity := reception.identity.setExtendedDeviceStatus
      (if runIdle &&& 0x0001 = 1 then atLeastOneIoConnectionInRunMode
      else atLeastOneIoConnectionEstablishedAllInIdleMode)
    calls :=
      if reception.state.runIdleState ≠ runIdle then
        reception.calls ++ [.runIdleChanged runIdle]
      else reception.calls
    interpreted := reception.interpreted + 4 }

def notifyAssemblyConnectedDataReceived (instanceNumber : UInt16) (data : List UInt8)
    (reception : Reception) : Except Fault (EipStatus × Reception) :=
  if instanceNumber = 0 then
    if data.length = 2 then .error .wildAccess else .ok (.error, reception)
  else if (reception.state.assemblyData instanceNumber).length ≠ data.length then
    .ok (.error, reception)
  else
    let written := Function.update reception.state.assemblyData instanceNumber data
    let (status, assemblyData) := env.afterAssemblyDataReceived instanceNumber written
    .ok (status,
      { reception with
        state := { reception.state with assemblyData }
        calls := reception.calls ++
          [.written instanceNumber data, .afterAssemblyDataReceived instanceNumber]
        interpreted := reception.interpreted + data.length })

/-- The data behind the headers, for the consuming instance of the connection. -/
def receiveData (r : ConnRef) (data : Message) (dataLength : UInt16) (reception : Reception) :
    Except Fault (EipStatus × Reception) :=
  match (reception.state.conn r).consumingInstance with
  | none => .error .nullDereference
  | some instanceNumber =>
      match reception.notifyAssemblyConnectedDataReceived env instanceNumber
          (data.takeBytes dataLength.toNat) with
      | .error fault => .error fault
      | .ok (.ok, reception) => .ok (.ok, reception)
      | .ok (_, reception) => .ok (.error, reception)

def handleReceivedIoConnectionData (r : ConnRef) (data : Message) (dataLength : UInt16)
    (reception : Reception) : Except Fault (EipStatus × Reception) :=
  let (noNewData, data, dataLength, reception) :=
    reception.receiveSequenceCount r data dataLength
  if dataLength > 0 then
    let (data, dataLength, reception) :=
      if cfg.consumeRunIdle then
        let (runIdle, data) := data.getUdint
        (data, dataLength - 4, reception.receiveRunIdle runIdle)
      else (data, dataLength, reception)
    if noNewData then .ok (.ok, reception)
    else reception.receiveData env r data dataLength
  else .ok (.ok, reception)

end Reception

end Opener
