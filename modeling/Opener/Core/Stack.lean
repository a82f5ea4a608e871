import Opener.Library.Runs
import Opener.Core.Production

/-!
Explicit messages from the encapsulation layer to the connection manager, the
session commands, and one step of the stack. A request to another object or
service is not followed further than its response; it leaves the modelled variables
alone apart from assembly data, which has a step of its own.
-/

namespace Opener

open LinkedCells

/-- The request path as `DecodePaddedEPath` fills it. -/
structure Epath where
  classId : UInt16 := 0
  instanceNumber : UInt16 := 0
  attributeNumber : UInt16 := 0
deriving DecidableEq, Repr

/-- The loop of `DecodePaddedEPath`. The reserved segment type is compared by its
enumeration value. Every turn decodes at least one word, so the path size is
enough fuel. -/
def decodePathElements (pathSize : Nat) : Nat → Epath → Nat → Message →
    Option (Epath × Nat × Message)
  | 0, epath, decoded, message => some (epath, decoded, message)
  | fuel + 1, epath, decoded, message =>
      let segment := message.byteAt 0
      let value8 := (message.byteAt 1).toUInt16
      let value16 := (Message.getUint (message.drop 2)).1
      let short (epath : Epath) :=
        decodePathElements pathSize fuel epath (decoded + 1) (message.drop 2)
      let long (epath : Epath) :=
        decodePathElements pathSize fuel epath (decoded + 2) (message.drop 4)
      if ¬decoded < pathSize then some (epath, decoded, message)
      else if segment &&& 7 = 7 then none
      else if segment = 0x20 then short { epath with classId := value8 }
      else if segment = 0x21 then long { epath with classId := value16 }
      else if segment = 0x24 then short { epath with instanceNumber := value8 }
      else if segment = 0x25 then long { epath with instanceNumber := value16 }
      else if segment = 0x30 then short { epath with attributeNumber := value8 }
      else if segment = 0x31 then long { epath with attributeNumber := value16 }
      else if segment = 0x28 then short epath
      else if segment = 0x29 then
        decodePathElements pathSize fuel epath (decoded + 2) (message.drop 2)
      else none

namespace EncapsulationStatus

def success : UInt32 := 0x0000
def invalidCommand : UInt32 := 0x0001
def insufficientMemory : UInt32 := 0x0002
def unsupportedProtocol : UInt32 := 0x0069

end EncapsulationStatus

/-- A signed 16-bit number converted to an unsigned size. -/
def signExtend (value : UInt16) : UInt64 :=
  if value ≥ 0x8000 then value.toUInt64 - 0x10000 else value.toUInt64

/-- `CreateMessageRouterRequestStructure`; an error is the general status. -/
def createMessageRouterRequestStructure (data : Message) (dataLength : UInt16) :
    Except UInt8 (Epath × MessageRouterRequest) :=
  let service := data.byteAt 0
  let left := signExtend (dataLength - 1)
  let message := data.drop 2
  match decodePathElements (data.byteAt 1).toNat (data.byteAt 1).toNat {} 0 message with
  | none => .error GeneralStatus.pathSegmentError
  | some (epath, decoded, message) =>
      let decodedBytes := UInt64.ofNat (decoded * 2 + 1)
      if decodedBytes > left then .error GeneralStatus.pathSizeInvalid
      else .ok (epath, { service, requestDataSize := left - decodedBytes, data := message })

namespace StackState

variable (cfg : Config) (env : Environment)

/-- `NotifyMessageRouter`. Of the services only those of the connection manager that
open and close connections are followed, the response of any other is taken from the
environment; no response stands for an error. -/
def notifyMessageRouter (data : Message) (dataLength : UInt16)
    (originatorAddress : SockaddrIn) (encapsulationSession : UInt32) (st : StackState) :
    Except Fault (Option MessageRouterResponse × StackState) :=
  let answered (result : Except Fault (MessageRouterResponse × StackState)) :
      Except Fault (Option MessageRouterResponse × StackState) :=
    match result with
    | .error fault => .error fault
    | .ok (response, st) => .ok (some response, st)
  match createMessageRouterRequestStructure data dataLength with
  | .error generalStatus =>
      .ok (some { replyService := 0x80 ||| data.byteAt 0, generalStatus }, st)
  | .ok (epath, request) =>
      if epath.classId.toUInt32 = connectionManagerClassCode ∧ epath.instanceNumber = 1 then
        if request.service = 0x54 then
          answered (st.forwardOpenRoutine cfg env false request originatorAddress
            encapsulationSession)
        else if request.service = 0x5B then
          answered (st.forwardOpenRoutine cfg env true request originatorAddress
            encapsulationSession)
        else if request.service = 0x4E then
          answered (st.forwardClose cfg request originatorAddress)
        else .ok (env.objectResponse data dataLength, st)
      else .ok (env.objectResponse data dataLength, st)

/-- The packet of an answered request. -/
def reply (response : Option MessageRouterResponse) (st : StackState) :
    Option (List UInt8) :=
  response.map fun response => st.cpf.assembleLinearMessage response

/-- `NotifyCommonPacketFormat`: an unconnected explicit message. -/
def notifyCommonPacketFormat (data : Message) (originatorAddress : SockaddrIn)
    (encapsulationSession : UInt32) (st : StackState) :
    Except Fault (Option (List UInt8) × StackState) :=
  let (status, cpf) :=
    CommonPacketFormatData.createCommonPacketFormatStructure data data.length st.cpf
  let st := { st with cpf := cpf }
  if status = .error then .ok (none, st)
  else if cpf.addressItem.typeId = ItemId.nullAddress ∧
      cpf.dataItem.typeId = ItemId.unconnectedDataItem then
    match st.notifyMessageRouter cfg env cpf.dataItem.data cpf.dataItem.length
        originatorAddress encapsulationSession with
    | .error fault => .error fault
    | .ok (response, st) => .ok (st.reply response, st)
  else .ok (none, st)

/-- The request of a connected explicit message. A repeated sequence number is
answered with the stored reply. -/
def notifyConnectedRequest (r : ConnRef) (sequence : UInt16) (buffer : Message)
    (length : UInt16) (originatorAddress : SockaddrIn) (encapsulationSession : UInt32)
    (st : StackState) : Except Fault (Option (List UInt8) × StackState) :=
  if (st.conn r).sequenceCountConsuming = sequence then
    .ok (some (st.conn r).lastReplySent, st)
  else
    let st := st.modifyConn r fun c => { c with sequenceCountConsuming := sequence }
    match st.notifyMessageRouter cfg env buffer length originatorAddress
        encapsulationSession with
    | .error fault => .error fault
    | .ok (none, st) => .ok (none, st)
    | .ok (some response, st) =>
        let st := { st with cpf := { st.cpf with addressItem :=
          { st.cpf.addressItem with
            connectionIdentifier := (st.conn r).cipProducedConnectionId } } }
        let sent := st.cpf.assembleLinearMessage response
        .ok (some sent, st.modifyConn r fun c => { c with lastReplySent := sent })

/-- The watchdog of the connection is reset and the sequence number of the data
item is kept for the reply. -/
def receiveConnectedRequest (r : ConnRef) (sequence : UInt16) (st : StackState) :
    StackState :=
  let st := st.modifyConn r fun c => c.resetInactivityWatchdogTimerValue
  { st with cpf := { st.cpf with addressItem :=
    { st.cpf.addressItem with sequenceNumber := sequence.toUInt32 } } }

/-- `NotifyConnectedCommonPacketFormat`: an explicit message on a connection. -/
def notifyConnectedCommonPacketFormat (data : Message) (originatorAddress : SockaddrIn)
    (encapsulationSession : UInt32) (st : StackState) :
    Except Fault (Option (List UInt8) × StackState) :=
  let (status, cpf) :=
    CommonPacketFormatData.createCommonPacketFormatStructure data data.length st.cpf
  let st := { st with cpf := cpf }
  if status = .error ∨ cpf.addressItem.typeId ≠ ItemId.connectionAddress then .ok (none, st)
  else
    match st.getConnectedObject cfg cpf.addressItem.connectionIdentifier with
    | none => .ok (none, st)
    | some r =>
        if cpf.dataItem.typeId ≠ ItemId.connectedDataItem then
          .ok (none, st.modifyConn r fun c => c.resetInactivityWatchdogTimerValue)
        else
          let (sequence, buffer) := Message.getUint cpf.dataItem.data
          (st.receiveConnectedRequest r sequence).notifyConnectedRequest cfg env r sequence
            buffer (cpf.dataItem.length - 2) originatorAddress encapsulationSession

def checkRegisteredSessions (sessionHandle : UInt32) (st : StackState) : Bool :=
  0 < sessionHandle &&
    st.registeredSessions.getD (sessionHandle - 1).toNat eipInvalidSocket ≠ eipInvalidSocket

/-- `HandleReceivedRegisterSessionCommand` with the supported protocol version.
No empty timer is a write through a null pointer. -/
def registerSession (socket : Int) (st : StackState) : Except Fault StackState :=
  match st.sessionOfSocket socket with
  | some _ => .ok st
  | none =>
      match st.sessionOfSocket eipInvalidSocket with
      | none => .ok st
      | some index =>
          match st.timestamps.findIdx? fun t => t.socket = eipInvalidSocket with
          | none => .error .nullDereference
          | some timer => .ok
              { st with
                timestamps := st.timestamps.set timer
                  { socket := socket, lastUpdate := env.actualTime }
                registeredSessions := st.registeredSessions.set index socket }

/-- `HandleReceivedRegisterSessionCommand` with its answer: the session handle and
the status of the encapsulation protocol. -/
def handleReceivedRegisterSessionCommand (protocolVersion optionFlag : UInt16)
    (socket : Int) (st : StackState) : Except Fault ((UInt32 × UInt32) × StackState) :=
  if (0 < protocolVersion ∧ protocolVersion ≤ 1) ∧ optionFlag = 0 then
    match st.sessionOfSocket socket with
    | some index => .ok ((UInt32.ofNat (index + 1), EncapsulationStatus.invalidCommand), st)
    | none =>
        match st.sessionOfSocket eipInvalidSocket with
        | none => .ok ((0, EncapsulationStatus.insufficientMemory), st)
        | some index =>
            match st.registerSession env socket with
            | .error fault => .error fault
            | .ok st => .ok ((UInt32.ofNat (index + 1), EncapsulationStatus.success), st)
  else .ok ((0, EncapsulationStatus.unsupportedProtocol), st)

def unregisterSession (sessionHandle : UInt32) (st : StackState) :
    Except Fault StackState :=
  if st.checkRegisteredSessions sessionHandle then
    let index := (sessionHandle - 1).toNat
    match st.closeTcpSocket (st.registeredSessions.getD index eipInvalidSocket) with
    | .error fault => .error fault
    | .ok st => (st.clearSession index).closeClass3ConnectionBasedOnSession cfg sessionHandle
  else .ok st

/-- The class 3 connections closed first are those of the table index, not of the
session handle, which is one more. -/
def checkEncapsulationInactivity (socket : Int) (st : StackState) :
    Except Fault StackState :=
  if 0 < cfg.encapsulationInactivityTimeout then
    match st.timestamps.find? fun t => t.socket = socket with
    | none => .ok st
    | some timer =>
        if env.actualTime - timer.lastUpdate ≥
            1000 * cfg.encapsulationInactivityTimeout.toUInt64 then
          let session :=
            (st.sessionOfSocket socket).getD cfg.numberOfSupportedSessions
          match st.closeClass3ConnectionBasedOnSession cfg (UInt32.ofNat session) with
          | .error fault => .error fault
          | .ok st =>
              match st.closeTcpSocket socket with
              | .error fault => .error fault
              | .ok st => st.removeSession cfg socket
        else .ok st
  else .ok st

/-- `HandleDataOnTcpSocket` when the client has closed the connection, and what
the main loop does about its error. -/
def handleClosedTcpSocket (socket : Int) (st : StackState) : Except Fault StackState :=
  match st.removeSocketTimerFromList socket with
  | .error fault => .error fault
  | .ok st =>
      match st.removeSession cfg socket with
      | .error fault => .error fault
      | .ok st =>
          match st.closeTcpSocket socket with
          | .error fault => .error fault
          | .ok st => st.removeSession cfg socket

/-- `SocketTimerSetLastUpdate` on the timer that was looked up before a message was
handled; the timer may be cleared by then. -/
def setLastUpdate (timer : Nat) (st : StackState) : StackState :=
  { st with timestamps :=
      st.timestamps.modify timer fun t => { t with lastUpdate := env.actualTime } }

/-- The loop of `EncapsulationShutDown` over the indices. -/
def shutDownSessions : List Nat → StackState → Except Fault StackState
  | [], st => .ok st
  | i :: indices, st =>
      let socket := st.registeredSessions.getD i eipInvalidSocket
      if socket ≠ eipInvalidSocket then
        match st.closeTcpSocket socket with
        | .error fault => .error fault
        | .ok st => shutDownSessions indices (st.clearSession i)
      else shutDownSessions indices st

def encapsulationShutDown (st : StackState) : Except Fault StackState :=
  shutDownSessions (List.range st.registeredSessions.length) st

/-- What can happen to the stack in one step. -/
inductive Action where
  | sendRRData (encapsulationSession : UInt32) (originatorAddress : SockaddrIn)
      (data : Message)
  | sendUnitData (encapsulationSession : UInt32) (originatorAddress : SockaddrIn)
      (data : Message)
  | manageConnections (elapsedTime : UInt64)
  | triggerConnections (outputAssembly inputAssembly : UInt32)
  | checkAndHandleConsumingUdpSocket
  | registerSession (socket : Int)
  | unregisterSession (sessionHandle : UInt32)
  | closeSession (socket : Int)
  | removeSession (socket : Int)
  | disconnect (socket : Int)
  | checkEncapsulationInactivity (socket : Int)
  | handleClosedTcpSocket (socket : Int)
  | setLastUpdate (timer : Nat)
  | closeAllConnections
  | encapsulationShutDown
  | writeAssemblies (data : UInt16 → List UInt8)

/-- Messages of an unregistered session are not passed on. -/
def step (label : Environment × Action) (st : StackState) : Except Fault StackState :=
  match label with
  | (env, .sendRRData session originatorAddress data) =>
      if st.checkRegisteredSessions session then
        match st.notifyCommonPacketFormat cfg env data originatorAddress session with
        | .error fault => .error fault
        | .ok (_, st) => .ok st
      else .ok st
  | (env, .sendUnitData session originatorAddress data) =>
      if st.checkRegisteredSessions session then
        match st.notifyConnectedCommonPacketFormat cfg env data originatorAddress session with
        | .error fault => .error fault
        | .ok (_, st) => .ok st
      else .ok st
  | (env, .manageConnections elapsedTime) => st.manageConnections cfg env elapsedTime
  | (_, .triggerConnections outputAssembly inputAssembly) =>
      .ok (st.triggerConnections cfg outputAssembly inputAssembly).2
  | (env, .checkAndHandleConsumingUdpSocket) => st.checkAndHandleConsumingUdpSocket cfg env
  | (env, .registerSession socket) => st.registerSession env socket
  | (_, .unregisterSession sessionHandle) => st.unregisterSession cfg sessionHandle
  | (_, .closeSession socket) => st.closeSession cfg socket
  | (_, .removeSession socket) => st.removeSession cfg socket
  | (_, .disconnect socket) =>
      match st.closeTcpSocket socket with
      | .error fault => .error fault
      | .ok st => st.removeSession cfg socket
  | (env, .checkEncapsulationInactivity socket) =>
      st.checkEncapsulationInactivity cfg env socket
  | (_, .handleClosedTcpSocket socket) => st.handleClosedTcpSocket cfg socket
  | (env, .setLastUpdate timer) => .ok (st.setLastUpdate env timer)
  | (_, .closeAllConnections) => st.closeAllConnections cfg
  | (_, .encapsulationShutDown) => st.encapsulationShutDown
  | (_, .writeAssemblies data) => .ok { st with assemblyData := data }

/-- The states of all runs from the initialised stack. -/
def Reachable (st : StackState) : Prop :=
  ∃ assemblyData, Runs.Reaches (step cfg) (fun _ _ => True)
    (initialState cfg assemblyData) st

end StackState

end Opener
