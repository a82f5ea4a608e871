import Opener.Core.AppConType

/-!
Establishing connections: `EstablishIoConnection`, `EstablishClass3Connection`
and what they call. A function of the source that returns a status and writes
through its pointers returns the status with the new state here.
-/

namespace Opener

namespace CommonPacketFormatData

variable (cpf : CommonPacketFormatData)

def addressInfoItem (j : Fin 2) : SocketAddressInfoItem :=
  if j = 0 then cpf.addressInfoItem0 else cpf.addressInfoItem1

def setAddressInfoItem (j : Fin 2) (item : SocketAddressInfoItem) :
    CommonPacketFormatData :=
  if j = 0 then { cpf with addressInfoItem0 := item }
  else { cpf with addressInfoItem1 := item }

/-- The first of the two items that carries the type. -/
def addressInfoItemOfType (type : UInt16) : Option (Fin 2) :=
  if cpf.addressInfoItem0.typeId = type then some 0
  else if cpf.addressInfoItem1.typeId = type then some 1
  else none

/-- `AllocateSocketAddressInfoItem`: the first item that is unset or of the type. -/
def allocateSocketAddressInfoItem (type : UInt16) : Option (Fin 2) :=
  if cpf.addressInfoItem0.typeId = 0 ∨ cpf.addressInfoItem0.typeId = type then some 0
  else if cpf.addressInfoItem1.typeId = 0 ∨ cpf.addressInfoItem1.typeId = type then some 1
  else none

end CommonPacketFormatData

/-- `ProcessProductionInhibitTime`; 256 stands for no segment in the path. -/
def processProductionInhibitTime (c : CipConnectionObject) :
    UInt16 × CipConnectionObject :=
  if c.productionTrigger = .cyclic then
    if c.productionInhibitTime = 256 then
      (ExtendedStatus.success,
        { c with productionInhibitTime :=
            (c.tToORequestedPacketInterval / 4000).toUInt16 })
    else if c.productionInhibitTime.toUInt32 > c.tToORequestedPacketInterval / 1000 then
      (ExtendedStatus.productionInhibitTimerGreaterThanRpi, c)
    else (ExtendedStatus.success, c)
  else (ExtendedStatus.success, c)

def setIoConnectionCallbacks (c : CipConnectionObject) : CipConnectionObject :=
  { c with
    connectionCloseFunction := some .closeIoConnection
    connectionTimeoutFunction := some .handleIoConnectionTimeOut
    connectionSendDataFunction := some .sendConnectedData
    connectionReceiveDataFunction := some .handleReceivedIoConnectionData }

/-- The parameter checks that a multicast request has to pass against one listed
connection of the same input. -/
def producerMismatch (c d : CipConnectionObject) : Option UInt16 :=
  if c.producedPath.instanceId ≠ d.producedPath.instanceId then none
  else if c.tToORequestedPacketInterval ≠ d.tToORequestedPacketInterval then
    some ExtendedStatus.rpiValuesNotAcceptable
  else if c.tToOConnectionSizeType ≠ d.tToOConnectionSizeType then
    some ExtendedStatus.mismatchedTToONetworkConnectionFixVar
  else if c.tToOPriority ≠ d.tToOPriority then
    some ExtendedStatus.mismatchedTToONetworkConnectionPriority
  else if c.transportClass ≠ d.transportClass then
    some ExtendedStatus.mismatchedTransportClass
  else if c.productionTrigger ≠ d.productionTrigger then
    some ExtendedStatus.mismatchedTToOProductionTrigger
  else if c.productionInhibitTime ≠ d.productionInhibitTime then
    some ExtendedStatus.mismatchedTToOProductionInhibitTimeSegment
  else none

/-- The data size expected of an assembly of the given length, with the bytes
that the sequence count and the run/idle header add. -/
def connectionPointSize (c : CipConnectionObject) (runIdle : Bool) (size : UInt32)
    (length : Nat) : Int × Int :=
  let dataSize : Int := size.toNat
  let (dataSize, diffSize) : Int × Int :=
    if c.transportClass = .class1 then (dataSize - 2, 2) else (dataSize, 0)
  if runIdle = true ∧ dataSize > 0 ∧ length ≠ 0 then (dataSize - 4, diffSize + 4)
  else (dataSize, diffSize)

namespace StackState

variable (cfg : Config) (env : Environment)

def setAddressInfoItem (j : Fin 2) (item : SocketAddressInfoItem) (st : StackState) :
    StackState :=
  { st with cpf := st.cpf.setAddressInfoItem j item }

/-- The `length` of attribute 3. For the class object, instance zero, that
attribute is the number of instances read as a byte array. -/
def assemblyLength (instanceNumber : UInt16) (st : StackState) : Nat :=
  if instanceNumber = 0 then ((cfg.getCipClass assemblyClassCode).getD []).length
  else (st.assemblyData instanceNumber).length

/-- A connection id is drawn and stored when the connection type asks for it. -/
def drawConnectionId (draws : CipConnectionObject → Bool)
    (store : UInt32 → CipConnectionObject → CipConnectionObject) (r : ConnRef)
    (st : StackState) : StackState :=
  if draws (st.conn r) then
    let (id, st) := st.getConnectionId cfg
    st.modifyConn r (store id)
  else st

def generalConfiguration (r : ConnRef) (st : StackState) : StackState :=
  let st := st.modifyConn r fun c =>
    { c with consumingSocket := eipInvalidSocket, producingSocket := eipInvalidSocket }
  let st := st.drawConnectionId cfg (fun c => c.oToTConnectionType = .pointToPoint)
    (fun id c => { c with cipConsumedConnectionId := id }) r
  let st := st.drawConnectionId cfg (fun c => c.tToOConnectionType = .multicast)
    (fun id c => { c with cipProducedConnectionId := id }) r
  st.modifyConn r fun c =>
    { c.resetSequenceCounts.resetProductionInhibitTimer with transmissionTriggerTimer := 0 }

/-- A wrong size is reported through the request's object, not the pool's. -/
def setupIoConnectionOriginatorToTargetConnectionPoint (r : ConnRef) (st : StackState) :
    Except Fault (UInt16 × StackState) :=
  match cfg.getAssemblyInstance (st.conn r).consumedPath.instanceId with
  | .error fault => .error fault
  | .ok none => .ok (ExtendedStatus.invalidConsumingApplicationPath, st)
  | .ok (some instanceNumber) =>
      let st := st.modifyConn r fun c =>
        { c with
          consumingInstance := some instanceNumber
          consumedConnectionPathLength := 6
          consumedPath := { c.consumedPath with attributeIdOrConnectionPoint := 3 } }
      let length := st.assemblyLength cfg instanceNumber
      let (dataSize, diffSize) := connectionPointSize (st.conn r) cfg.consumeRunIdle
        (st.conn r).oToTConnectionSize length
      if (length : Int) ≠ dataSize then
        .ok (ExtendedStatus.invalidOToTConnectionSize,
          { st with dummy := { st.dummy with
              correctOriginatorToTargetSize := UInt16.ofNat (length + diffSize.toNat) } })
      else .ok (ExtendedStatus.success, st)

def setupIoConnectionTargetToOriginatorConnectionPoint (r : ConnRef) (st : StackState) :
    Except Fault (UInt16 × StackState) :=
  let mismatch :=
    if (st.conn r).tToOConnectionType = .multicast then
      (st.connectionList cfg).findSome? fun s => producerMismatch (st.conn r) (st.conn s)
    else none
  match mismatch with
  | some extendedError => .ok (extendedError, st)
  | none =>
    match cfg.getAssemblyInstance (st.conn r).producedPath.instanceId with
    | .error fault => .error fault
    | .ok none => .ok (ExtendedStatus.invalidProducingApplicationPath, st)
    | .ok (some instanceNumber) =>
        let st := st.modifyConn r fun c =>
          { c with
            producingInstance := some instanceNumber
            producedPath := { c.producedPath with attributeIdOrConnectionPoint := 3 } }
        let length := st.assemblyLength cfg instanceNumber
        let (dataSize, diffSize) := connectionPointSize (st.conn r) cfg.produceRunIdle
          (st.conn r).tToOConnectionSize length
        if (length : Int) ≠ dataSize then
          .ok (ExtendedStatus.invalidTToOConnectionSize,
            { st with dummy := { st.dummy with
                correctTargetToOriginatorSize := UInt16.ofNat (length + diffSize.toNat) } })
        else .ok (ExtendedStatus.success, st)

/-- `NotifyAssemblyConnectedDataReceived`. The first attribute of the class
object is its revision, two; its data pointer is not an assembly buffer. -/
def notifyAssemblyConnectedDataReceived (instanceNumber : UInt16) (data : List UInt8)
    (st : StackState) : Except Fault (EipStatus × StackState) :=
  if instanceNumber = 0 then
    if data.length = 2 then .error .wildAccess else .ok (.error, st)
  else if (st.assemblyData instanceNumber).length ≠ data.length then .ok (.error, st)
  else
    let written := Function.update st.assemblyData instanceNumber data
    let (status, assemblyData) := env.afterAssemblyDataReceived instanceNumber written
    .ok (status, { st with assemblyData := assemblyData })

def handleConfigData (r : ConnRef) (data : List UInt8) (st : StackState) :
    Except Fault (UInt16 × StackState) :=
  let configPoint := (st.conn r).configurationPath.instanceId
  match cfg.getAssemblyInstance configPoint with
  | .error fault => .error fault
  | .ok configInstance =>
    if data.length = 0 then .ok (ExtendedStatus.success, st)
    else
      match configInstance with
      | none => .error .assertionFailed
      | some instanceNumber =>
          if st.connectionWithSameConfigPointExists cfg configPoint then
            if st.assemblyLength cfg instanceNumber ≠ data.length then
              .ok (ExtendedStatus.ownershipConflict, st)
            else if instanceNumber = 0 then .error .wildAccess
            else if st.assemblyData instanceNumber ≠ data then
              .ok (ExtendedStatus.ownershipConflict, st)
            else .ok (ExtendedStatus.success, st)
          else
            match st.notifyAssemblyConnectedDataReceived env instanceNumber data with
            | .error fault => .error fault
            | .ok (.ok, st) => .ok (ExtendedStatus.success, st)
            | .ok (_, st) => .ok (ExtendedStatus.invalidConfigurationApplicationPath, st)

/-- `CreateUdpSocket`; the handle is kept even when a later call on it fails. -/
def createUdpSocket (st : StackState) : StackState :=
  let st := { st with udpIoMessaging := env.udpSocket }
  if env.udpSocket = eipInvalidSocket then st
  else if env.udpSocketUsable then { st with masterSocket := env.udpSocket :: st.masterSocket }
  else st.closeSocket env.udpSocket

def openConsumingPointToPointConnection (r : ConnRef) (st : StackState) :
    EipStatus × StackState :=
  match st.cpf.allocateSocketAddressInfoItem ItemId.socketAddressInfoOriginatorToTarget with
  | none => (.error, st)
  | some j =>
      if env.setQosOk .consuming = false then (.error, st)
      else
        let st := st.modifyConn r fun c =>
          { c with
            originatorAddress :=
              { sinFamily := afInet
                sinAddr := env.peerAddress
                sinPort := htons openerEipIoUdpPort }
            consumingSocket := st.udpIoMessaging }
        (.ok, st.setAddressInfoItem j
          { length := 16
            typeId := ItemId.socketAddressInfoOriginatorToTarget
            sinPort := htons openerEipIoUdpPort
            sinAddr := 0
            sinFamily := htons afInet })

/-- The answer says whether the channel is open. -/
def openProducingPointToPointConnection (r : ConnRef) (st : StackState) :
    Bool × StackState :=
  let port :=
    match st.cpf.addressInfoItemOfType ItemId.socketAddressInfoTargetToOriginator with
    | some j => (st.cpf.addressInfoItem j).sinPort
    | none => htons openerEipIoUdpPort
  let st := st.modifyConn r fun c =>
    { c with remoteAddress :=
        { sinFamily := afInet, sinAddr := env.peerAddress, sinPort := port } }
  if env.setQosOk .producing = false then (false, st)
  else
    (true, st.modifyConn r fun c => { c with producingSocket := st.udpIoMessaging })

/-- A T->O item is filled with the default multicast address. -/
def fillMulticastItem (j : Fin 2) (st : StackState) : StackState :=
  if (st.cpf.addressInfoItem j).typeId = ItemId.socketAddressInfoTargetToOriginator then
    st.setAddressInfoItem j
      { typeId := ItemId.socketAddressInfoTargetToOriginator
        sinFamily := htons afInet
        sinPort := htons openerEipIoUdpPort
        sinAddr := cfg.startingMulticastAddress
        length := 16 }
  else st

/-- The socket and the address that the channel of a direction gets. -/
def setChannel (direction : UdpCommunicationDirection) (socket : Int)
    (item : SocketAddressInfoItem) (c : CipConnectionObject) : CipConnectionObject :=
  let address : SockaddrIn :=
    { sinFamily := htons item.sinFamily
      sinAddr := item.sinAddr
      sinPort := item.sinPort }
  match direction with
  | .consuming =>
      { c with
        consumingSocket := socket
        originatorAddress := { address with sinAddr := env.peerAddress } }
  | .producing => { c with producingSocket := socket, remoteAddress := address }

def openMulticastConnection (direction : UdpCommunicationDirection) (r : ConnRef)
    (st : StackState) : EipStatus × StackState :=
  let itemType := match direction with
    | .consuming => ItemId.socketAddressInfoOriginatorToTarget
    | .producing => ItemId.socketAddressInfoTargetToOriginator
  match st.cpf.addressInfoItemOfType itemType with
  | none => (.error, st)
  | some j =>
      let st := st.fillMulticastItem cfg j
      let item := st.cpf.addressInfoItem j
      if item.sinFamily ≠ htons afInet then (.error, st)
      else if env.setQosOk direction = false then (.error, st)
      else (.ok, st.modifyConn r (setChannel env direction st.udpIoMessaging item))

/-- A joining connection shares the id of the producer, and an exclusive owner
takes its socket. The sequence counters are not copied. -/
def joining (producer : CipConnectionObject) (address : SockaddrIn)
    (c : CipConnectionObject) : CipConnectionObject :=
  { c with
    cipProducedConnectionId := producer.cipProducedConnectionId
    producingSocket :=
      if c.instanceType = .ioExclusiveOwner then producer.producingSocket
      else eipInvalidSocket
    remoteAddress := address }

/-- The producer after a connection joined it. -/
def leftBehind (joiner producer : CipConnectionObject) : CipConnectionObject :=
  if joiner.instanceType = .ioExclusiveOwner then
    { producer with producingSocket := eipInvalidSocket }
  else producer

def joinProducingMulticastConnection (r existing : ConnRef) (j : Fin 2) (port : UInt16)
    (st : StackState) : StackState :=
  let address : SockaddrIn :=
    { sinFamily := afInet, sinPort := port, sinAddr := cfg.startingMulticastAddress }
  let joined := (st.modifyConn r (joining (st.conn existing) address)).modifyConn existing
    (leftBehind (st.conn r))
  joined.setAddressInfoItem j
    { typeId := (st.cpf.addressInfoItem j).typeId
      length := 16
      sinPort := port
      sinAddr := cfg.startingMulticastAddress
      sinFamily := htons afInet }

/-- The port of an item that does not carry a T->O address is used, and that of
an item that does is not. -/
def openProducingMulticastConnection (r : ConnRef) (st : StackState) :
    EipStatus × StackState :=
  let existing :=
    st.getExistingProducerIoConnection cfg true (st.conn r).producedPath.instanceId
  match st.cpf.allocateSocketAddressInfoItem ItemId.socketAddressInfoTargetToOriginator with
  | none => (.error, st)
  | some j =>
      let item := st.cpf.addressInfoItem j
      let port :=
        if item.typeId ≠ ItemId.socketAddressInfoTargetToOriginator then item.sinPort
        else htons openerEipIoUdpPort
      let st := st.setAddressInfoItem j
        { item with typeId := ItemId.socketAddressInfoTargetToOriginator }
      match existing with
      | none => st.openMulticastConnection cfg env .producing r
      | some existing => (.ok, st.joinProducingMulticastConnection cfg r existing j port)

def openConsumingChannel (r : ConnRef) (st : StackState) : UInt8 × StackState :=
  match (st.conn r).oToTConnectionType with
  | .multicast =>
      match st.openMulticastConnection cfg env .consuming r with
      | (.error, st) => (GeneralStatus.success, st)
      | (_, st) => (GeneralStatus.connectionFailure, st)
  | .pointToPoint =>
      match st.openConsumingPointToPointConnection env r with
      | (.error, st) => (GeneralStatus.connectionFailure, st)
      | (_, st) => (GeneralStatus.success, st)
  | _ => (GeneralStatus.success, st)

def openProducingChannel (r : ConnRef) (st : StackState) : UInt8 × StackState :=
  match (st.conn r).tToOConnectionType with
  | .multicast =>
      match st.openProducingMulticastConnection cfg env r with
      | (.error, st) => (GeneralStatus.connectionFailure, st)
      | (_, st) => (GeneralStatus.success, st)
  | .pointToPoint =>
      match st.openProducingPointToPointConnection env r with
      | (true, st) => (GeneralStatus.success, st)
      | (false, st) => (GeneralStatus.connectionFailure, st)
  | _ => (GeneralStatus.success, st)

def openCommunicationChannels (r : ConnRef) (st : StackState) : UInt8 × StackState :=
  match (st.createUdpSocket env).openConsumingChannel cfg env r with
  | (status, st) =>
      if status ≠ GeneralStatus.success then (status, st)
      else st.openProducingChannel cfg env r

/-- The answer of an open function: general and extended status. -/
structure OpenStatus where
  general : UInt8 := GeneralStatus.success
  extended : UInt16 := ExtendedStatus.success
deriving DecidableEq, Repr

def connectionFailure (extended : UInt16) : OpenStatus :=
  { general := GeneralStatus.connectionFailure, extended }

/-- Both connection points. Only the direction that is not null is set up. -/
def setupConnectionPoints (r : ConnRef) (st : StackState) :
    Except Fault (UInt16 × StackState) :=
  let consumer : Except Fault (UInt16 × StackState) :=
    if (st.conn r).oToTConnectionType ≠ .null then
      st.setupIoConnectionOriginatorToTargetConnectionPoint cfg r
    else .ok (ExtendedStatus.success, st)
  match consumer with
  | .error fault => .error fault
  | .ok (extended, st) =>
      if extended ≠ ExtendedStatus.success then .ok (extended, st)
      else if (st.conn r).tToOConnectionType ≠ .null then
        st.setupIoConnectionTargetToOriginatorConnectionPoint cfg r
      else .ok (ExtendedStatus.success, st)

/-- `EstablishIoConnection` after the copy: inhibit time, callbacks, general
configuration and connection points. -/
def configureIoConnection (r : ConnRef) (st : StackState) :
    Except Fault (UInt16 × StackState) :=
  let (extended, c) := processProductionInhibitTime (st.conn r)
  let st := st.setConn r c
  if extended ≠ ExtendedStatus.success then .ok (extended, st)
  else
    let st := (st.modifyConn r setIoConnectionCallbacks).generalConfiguration cfg r
    let st := st.modifyConn r fun c =>
      { c with
        consumingInstance := none
        consumedConnectionPathLength := 0
        producingInstance := none
        producedConnectionPathLength := 0 }
    st.setupConnectionPoints cfg r

/-- The configuration data of the request, if its path had any. -/
def applyConfigData (r : ConnRef) (st : StackState) :
    Except Fault (UInt16 × StackState) :=
  match st.configData with
  | none => .ok (ExtendedStatus.success, st)
  | some data => st.handleConfigData cfg env r data

/-- `EstablishIoConnection` between the copy and `AddNewActiveConnection`. -/
def prepareIoConnection (r : ConnRef) (st : StackState) :
    Except Fault (OpenStatus × StackState) :=
  match st.configureIoConnection cfg r with
  | .error fault => .error fault
  | .ok (extended, st) =>
      if extended ≠ ExtendedStatus.success then .ok (connectionFailure extended, st)
      else
        match st.applyConfigData cfg env r with
        | .error fault => .error fault
        | .ok (extended, st) =>
            if extended ≠ ExtendedStatus.success then .ok (connectionFailure extended, st)
            else
              match st.openCommunicationChannels cfg env r with
              | (general, st) => .ok ({ general }, st)

/-- The last part of `EstablishIoConnection`. -/
def activateIoConnection (r : ConnRef) (st : StackState) :
    Except Fault (OpenStatus × StackState) :=
  match st.addNewActiveConnection cfg r with
  | .error fault => .error fault
  | .ok st => .ok ({}, st.checkIoConnectionEvent (st.conn r) .opened)

def establishIoConnection (st : StackState) : Except Fault (OpenStatus × StackState) :=
  match st.resolveIoConnection cfg with
  | .error fault => .error fault
  | .ok (.error extended, st) => .ok (connectionFailure extended, st)
  | .ok (.ok r, st) =>
      match (st.deepCopyDummy cfg r).prepareIoConnection cfg env r with
      | .error fault => .error fault
      | .ok (status, st) =>
          if status.general ≠ GeneralStatus.success then .ok (status, st)
          else st.activateIoConnection cfg r

/-- `EstablishClass3Connection` between the copy and `AddNewActiveConnection`. -/
def prepareClass3Connection (r : ConnRef) (st : StackState) : StackState :=
  (st.generalConfiguration cfg r).modifyConn r fun c =>
    { c with
      instanceType := .explicitMessaging
      connectionCloseFunction := some .closeConnection
      connectionTimeoutFunction := some .class3ConnectionTimeoutHandler }

def establishClass3Connection (st : StackState) : Except Fault (OpenStatus × StackState) :=
  match st.getFreeExplicitConnection cfg with
  | none => .ok (connectionFailure ExtendedStatus.noMoreConnectionsAvailable, st)
  | some r =>
      match ((st.deepCopyDummy cfg r).prepareClass3Connection cfg r).addNewActiveConnection
          cfg r with
      | .error fault => .error fault
      | .ok st => .ok ({}, st)

end StackState

end Opener
