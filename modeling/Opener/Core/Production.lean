import Opener.Core.ConnectionManager

/-!
Producing and consuming I/O data: `SendConnectedData`, the loop of
`ManageConnections`, and the path of a received datagram from
`CheckAndHandleConsumingUdpSocket` to the assembly. Delayed encapsulation
messages and the identity status are not part of this model.
-/

namespace Opener

open LinkedCells

def seqGt32 (a b : UInt32) : Bool := 0 < (a - b).toNat && (a - b).toNat < 2 ^ 31

def seqLeq16 (a b : UInt16) : Bool := (a - b).toNat = 0 || 2 ^ 15 ≤ (a - b).toNat

namespace CipConnectionObject

/-- Every packet takes the next sequence number. -/
def countPacket (c : CipConnectionObject) : CipConnectionObject :=
  { c with eipLevelSequenceCountProducing := c.eipLevelSequenceCountProducing + 1 }

/-- The sequence count of class 1 tells whether the data is new. -/
def countData (changed : Bool) (c : CipConnectionObject) : CipConnectionObject :=
  if changed then { c with sequenceCountProducing := c.sequenceCountProducing + 1 } else c

/-- Whether a run/idle header goes in front of the data. -/
def sendsRunIdle (cfg : Config) (data : List UInt8) : Bool :=
  cfg.produceRunIdle ∧ data.length ≠ 0

/-- The packet of the connection in its current counts. -/
def ioPacket (cfg : Config) (c : CipConnectionObject) (runIdleState : UInt32)
    (data : List UInt8) : IoPacket :=
  { remoteAddress := c.remoteAddress
    connectionIdentifier := c.cipProducedConnectionId
    sequenceNumber :=
      if c.transportClass ≠ .class0 then some c.eipLevelSequenceCountProducing else none
    sequenceCount :=
      if c.transportClass = .class1 then some c.sequenceCountProducing else none
    runIdle := if sendsRunIdle cfg data then some runIdleState else none
    data := data }

/-- What `SendConnectedData` leaves in the global packet structure. -/
def connectedDataFormat (cfg : Config) (c : CipConnectionObject) (data : List UInt8)
    (cpf : CommonPacketFormatData) : CommonPacketFormatData :=
  let length := data.length + (if sendsRunIdle cfg data then 4 else 0) +
    (if c.transportClass = .class1 then 2 else 0)
  let addressItem : AddressItem :=
    if c.transportClass ≠ .class0 then
      { typeId := ItemId.sequencedAddressItem
        length := 8
        sequenceNumber := c.eipLevelSequenceCountProducing
        connectionIdentifier := c.cipProducedConnectionId }
    else
      { typeId := ItemId.connectionAddress
        length := 4
        sequenceNumber := cpf.addressItem.sequenceNumber
        connectionIdentifier := c.cipProducedConnectionId }
  let cpf := CommonPacketFormatData.clearAddressInfoItem 0 cpf
  let cpf := CommonPacketFormatData.clearAddressInfoItem 1 cpf
  { cpf with
    itemCount := 2
    addressItem := addressItem
    dataItem :=
      { cpf.dataItem with
        typeId := ItemId.connectedDataItem
        length := UInt16.ofNat length } }

/-- The message that `SendConnectedData` assembles. `AssembleIOMessage` has
written a data item of length zero; the length is written over it. -/
def outgoingMessage (cfg : Config) (c : CipConnectionObject)
    (runIdleState : UInt32) (data : List UInt8) (cpf : CommonPacketFormatData) : List UInt8 :=
  let format := c.connectedDataFormat cfg data cpf
  let message := CommonPacketFormatData.assembleIOMessage
    { format with dataItem := { format.dataItem with length := 0 } }
  message.take (message.length - 2) ++ intBytes format.dataItem.length ++
    (if c.transportClass = .class1 then intBytes c.sequenceCountProducing else []) ++
    (if sendsRunIdle cfg data then dintBytes runIdleState else []) ++ data

end CipConnectionObject

namespace StackState

variable (cfg : Config) (env : Environment)

/-- The packet is assembled and handed to `SendUdpData`. -/
def sendUdpData (c : CipConnectionObject) (data : List UInt8) (st : StackState) :
    StackState :=
  { st with
    cpf := c.connectedDataFormat cfg data st.cpf
    events := st.events ++ [.sent (c.ioPacket cfg st.runIdleState data)] }

/-- `BeforeAssemblyDataSend` lets the application refresh the data. -/
def collectData (instanceNumber : UInt16) (r : ConnRef) (st : StackState) : StackState :=
  match env.beforeAssemblyDataSend instanceNumber st.assemblyData with
  | (changed, assemblyData) =>
      modifyConn { st with assemblyData := assemblyData } r
        (CipConnectionObject.countData changed)

/-- `SendConnectedData`. The first attribute of the class object is no assembly
buffer, and the copy of the data does not look at the size of the message buffer. -/
def sendConnectedData (r : ConnRef) (st : StackState) : Except Fault StackState :=
  let st := st.modifyConn r CipConnectionObject.countPacket
  match (st.conn r).producingInstance with
  | none => .error .nullDereference
  | some instanceNumber =>
    if instanceNumber = 0 then .error .wildAccess
    else
      let st := st.collectData env instanceNumber r
      let data := st.assemblyData instanceNumber
      let message := (st.conn r).outgoingMessage cfg st.runIdleState data st.cpf
      if ethernetBufferSize < message.length then .error .messageOverrun
      else .ok (st.sendUdpData cfg (st.conn r) data)

/-- The watchdog part of the loop body of `ManageConnections`. -/
def superviseConnection (elapsedTime : UInt64) (r : ConnRef) (st : StackState) :
    Except Fault StackState :=
  if (st.conn r).consumingInstance.isSome ∨
      (st.conn r).transportClassTriggerDirection = .server then
    if elapsedTime ≥ (st.conn r).inactivityWatchdogTimer then
      st.connectionTimeoutFunction cfg env r
    else
      .ok (st.modifyConn r fun c =>
        { c with
          inactivityWatchdogTimer := c.inactivityWatchdogTimer - elapsedTime
          lastPackageWatchdogTimer := c.lastPackageWatchdogTimer - elapsedTime })
  else .ok st

/-- The production inhibit timer is left alone while it is at least the elapsed
time, and decremented below zero after that. -/
def inhibitAfter (elapsedTime : UInt64) (c : CipConnectionObject) : CipConnectionObject :=
  if c.productionTrigger ≠ .cyclic ∧ ¬elapsedTime ≤ c.productionInhibitTimer then
    { c with productionInhibitTimer := c.productionInhibitTimer - elapsedTime }
  else c

/-- The timers after a packet was sent. -/
def rearmAfter (elapsedTime : UInt64) (c : CipConnectionObject) : CipConnectionObject :=
  let next := c.transmissionTriggerTimer + (c.requestedPacketInterval cfg).toUInt64
  let c := { c with transmissionTriggerTimer :=
    if next > elapsedTime then next - elapsedTime else 0 }
  if c.productionTrigger ≠ .cyclic then c.resetProductionInhibitTimer else c

/-- The production part of the loop body of `ManageConnections`. -/
def produceConnection (elapsedTime : UInt64) (r : ConnRef) (st : StackState) :
    Except Fault StackState :=
  if (st.conn r).expectedPacketRate ≠ 0 ∧ (st.conn r).producingSocket ≠ eipInvalidSocket then
    let st := st.modifyConn r (inhibitAfter elapsedTime)
    if (st.conn r).transmissionTriggerTimer ≤ elapsedTime then
      match (st.conn r).connectionSendDataFunction with
      | none => .error .nullFunctionCall
      | some .sendConnectedData =>
          match st.sendConnectedData cfg env r with
          | .error fault => .error fault
          | .ok st => .ok (st.modifyConn r (rearmAfter cfg elapsedTime))
    else
      .ok (st.modifyConn r fun c =>
        { c with transmissionTriggerTimer := c.transmissionTriggerTimer - elapsedTime })
  else .ok st

/-- The loop body of `ManageConnections`. -/
def manageConnection (elapsedTime : UInt64) (r : ConnRef) (st : StackState) :
    Except Fault StackState :=
  if (st.conn r).state = .established then
    match st.superviseConnection cfg env elapsedTime r with
    | .error fault => .error fault
    | .ok st =>
        if (st.conn r).state = .established then
          st.produceConnection cfg env elapsedTime r
        else .ok st
  else .ok st

/-- The loop of `ManageConnections`, which fetches the next node after the body. -/
def manageConnectionList (elapsedTime : UInt64) (st : StackState) :
    Except Fault StackState :=
  liveWalk nodes .freedNode .nonTermination
    (fun r s => s.manageConnection cfg env elapsedTime r)
    cfg.nodesAmount st.store.connectionList.first st

def manageConnections (elapsedTime : UInt64) (st : StackState) :
    Except Fault StackState :=
  manageConnectionList cfg env elapsedTime
    { st with assemblyData := env.handleApplication st.assemblyData }

/-- `TriggerConnections`. Only the first connection with the two instances is looked at. -/
def triggerConnections (outputAssembly inputAssembly : UInt32) (st : StackState) :
    EipStatus × StackState :=
  let connection := st.findConnection cfg fun _ c =>
    outputAssembly = c.consumedPath.instanceId.toUInt32 &&
      inputAssembly = c.producedPath.instanceId.toUInt32
  match connection with
  | none => (.error, st)
  | some r =>
      if (st.conn r).productionTrigger = .applicationObject then
        (.ok, st.modifyConn r fun c =>
          { c with transmissionTriggerTimer := c.productionInhibitTime.toUInt64 })
      else (.error, st)

/-- The two-byte sequence count of class 1; the flag says that the data is old. -/
def receiveSequenceCount (r : ConnRef) (data : Message) (dataLength : UInt16)
    (st : StackState) : Bool × Message × UInt16 × StackState :=
  if (st.conn r).transportClass = .class1 then
    let (sequence, data) := data.getUint
    (seqLeq16 sequence (st.conn r).sequenceCountConsuming, data, dataLength - 2,
      st.modifyConn r fun c => { c with sequenceCountConsuming := sequence })
  else (false, data, dataLength, st)

def handleReceivedIoConnectionData (r : ConnRef) (data : Message) (dataLength : UInt16)
    (st : StackState) : Except Fault (EipStatus × StackState) :=
  let (noNewData, data, dataLength, st) := st.receiveSequenceCount r data dataLength
  if dataLength > 0 then
    let (data, dataLength, st) :=
      if cfg.consumeRunIdle then
        let (runIdle, data) := data.getUdint
        (data, dataLength - 4, { st with runIdleState := runIdle })
      else (data, dataLength, st)
    if noNewData then .ok (.ok, st)
    else
      match (st.conn r).consumingInstance with
      | none => .error .nullDereference
      | some instanceNumber =>
          match st.notifyAssemblyConnectedDataReceived env instanceNumber
              (data.takeBytes dataLength.toNat) with
          | .error fault => .error fault
          | .ok (.ok, st) => .ok (.ok, st)
          | .ok (_, st) => .ok (.error, st)
  else .ok (.ok, st)

/-- The part of `HandleReceivedConnectedData` after the connection was found and
the sender checked. -/
def consumeConnectedData (r : ConnRef) (st : StackState) :
    Except Fault (EipStatus × StackState) :=
  let st := st.modifyConn r fun c => c.resetLastPackageInactivityTimerValue
  let sequenceNumber := st.cpf.addressItem.sequenceNumber
  if seqGt32 sequenceNumber (st.conn r).eipLevelSequenceCountConsuming ∨
      (st.conn r).eipFirstLevelSequenceCountReceived = false then
    let st := st.modifyConn r fun c =>
      { c.resetInactivityWatchdogTimerValue with
        eipLevelSequenceCountConsuming := sequenceNumber
        eipFirstLevelSequenceCountReceived := true }
    match (st.conn r).connectionReceiveDataFunction with
    | none => .ok (.ok, st)
    | some .handleReceivedIoConnectionData =>
        st.handleReceivedIoConnectionData cfg env r st.cpf.dataItem.data
          st.cpf.dataItem.length
  else .ok (.ok, st)

def handleReceivedConnectedData (data : Message) (fromAddress : UInt32)
    (st : StackState) : Except Fault (EipStatus × StackState) :=
  let (status, cpf) :=
    CommonPacketFormatData.createCommonPacketFormatStructure data data.length st.cpf
  let st := { st with cpf := cpf }
  if status = .error then .ok (.error, st)
  else if (cpf.addressItem.typeId = ItemId.connectionAddress ∨
      cpf.addressItem.typeId = ItemId.sequencedAddressItem) ∧
      cpf.dataItem.typeId = ItemId.connectedDataItem then
    match st.getConnectedObject cfg cpf.addressItem.connectionIdentifier with
    | none => .ok (.error, st)
    | some r =>
        if (st.conn r).originatorAddress.sinAddr = fromAddress then
          st.consumeConnectedData cfg env r
        else .ok (.ok, st)
  else .ok (.ok, st)

def checkSocketSet (socket : Int) (st : StackState) : Bool :=
  env.readSocket socket && st.masterSocket.contains socket

/-- The loop body of `CheckAndHandleConsumingUdpSocket`; a result of `recvfrom`
is used up each time. -/
def handleConsumingUdpSocket (r : ConnRef) (s : StackState × List Received) :
    Except Fault (Turn (StackState × List Received)) :=
  let (st, received) := s
  if (st.conn r).consumingSocket ≠ eipInvalidSocket ∧
      st.checkSocketSet env (st.conn r).consumingSocket then
    match received with
    | [] => .ok (.stop (st, []))
    | .wouldBlock :: received => .ok (.stop (st, received))
    | .closedByClient :: received | .failed :: received =>
        match st.connectionCloseFunction cfg r with
        | .error fault => .error fault
        | .ok st => .ok (.continue (st, received))
    | .datagram data fromAddress :: received =>
        match st.handleReceivedConnectedData cfg env data fromAddress with
        | .error fault => .error fault
        | .ok (_, st) => .ok (.continue (st, received))
  else .ok (.continue (st, received))

/-- The loop saves the next node before the body. -/
def checkAndHandleConsumingUdpSocket (st : StackState) : Except Fault StackState :=
  match savedWalk (fun s => s.1.nodes) .freedNode .nonTermination
      (handleConsumingUdpSocket cfg env) cfg.nodesAmount
      st.store.connectionList.first (st, env.received) with
  | .error fault => .error fault
  | .ok (st, _) => .ok st

end StackState

end Opener
