import Opener.Core.CommonPacketFormat

/-!
The services of the connection manager and its periodic work,
`cipconnectionmanager.c`, with the production and consumption of I/O data.
-/

namespace Opener

open LinkedCells

/-- `GenerateRandomConnectionNumber` on the numbers in use and the results of
`rand`. The recursion may go on for ever, so it is bounded by those results. -/
def generateRandomConnectionNumber (used : List UInt16) :
    Nat → List UInt16 → Option (UInt16 × List UInt16)
  | 0, _ => none
  | _ + 1, [] => none
  | fuel + 1, number :: rest =>
      used.foldlM (fun drawn inUse =>
        if inUse = drawn.1 then generateRandomConnectionNumber used fuel drawn.2
        else some drawn) (number, rest)

namespace CipConnectionObject

/-- `ConnectionObjectInitializeFromMessage` with the connection number drawn. The
cursor ends at the path size. -/
def initializeFromMessage (cfg : Config) (message : Message) (connectionNumber : UInt16)
    (c : CipConnectionObject) : CipConnectionObject × Message :=
  let (consumedId, message) := Message.getUdint (message.drop 2)
  let (producedId, message) := message.getUdint
  let (serialNumber, message) := message.getUint
  let (vendorId, message) := message.getUint
  let (originatorSerialNumber, message) := message.getUdint
  let (multiplier, message) := message.getUsint
  let (oToTInterval, message) := Message.getUdint (message.drop 3)
  let c := setInitialInactivityWatchdogTimerValue { c with
    cipConsumedConnectionId := consumedId
    cipProducedConnectionId := producedId
    connectionSerialNumber := serialNumber
    originatorVendorId := vendorId
    originatorSerialNumber := originatorSerialNumber
    connectionNumber := connectionNumber
    state := .nonExistent
    sequenceCountProducing := 0
    connectionTimeoutMultiplier := multiplier
    oToTRequestedPacketInterval := oToTInterval }
  let parameters (message : Message) : UInt32 × Message :=
    if c.isLargeForwardOpen then message.getUdint
    else
      let (word, message) := message.getUint
      (word.toUInt32, message)
  let (oToTParameters, message) := parameters message
  let (tToOInterval, message) := message.getUdint
  let c := { c with
    oToTNetworkConnectionParameters := oToTParameters
    tToORequestedPacketInterval := tToOInterval }
  let c := c.setExpectedPacketRate cfg
  let (tToOParameters, message) := parameters message
  let (trigger, message) := message.getUsint
  ({ c with
    tToONetworkConnectionParameters := tToOParameters
    transportClassTrigger := trigger }, message)

end CipConnectionObject

/-- `CipMessageRouterRequest` as the services see it. -/
structure MessageRouterRequest where
  service : UInt8
  requestDataSize : UInt64
  data : Message
deriving DecidableEq, Repr

inductive OpenConnectionFunction where
  | establishClass3Connection
  | establishIoConnection
deriving DecidableEq, Repr

/-- `g_connection_management_list` after `ConnectionManagerInit`: the entries for
application specific objects are zero. -/
def Config.connectionManagementList (cfg : Config) :
    List (UInt32 × Option OpenConnectionFunction) :=
  [(messageRouterClassCode, some .establishClass3Connection),
    (assemblyClassCode, some .establishIoConnection)] ++
    List.replicate cfg.numApplicationSpecificConnectableObjects (0, none)

namespace StackState

variable (cfg : Config) (env : Environment)

/-- `AssembleForwardOpenResponse`. An error is always reported on the request's
object. -/
def assembleForwardOpenResponse (c : CipConnectionObject) (status : OpenStatus)
    (st : StackState) : MessageRouterResponse × StackState :=
  let cpf := { st.cpf with
    itemCount := 2
    dataItem := { st.cpf.dataItem with typeId := ItemId.unconnectedDataItem }
    addressItem :=
      { st.cpf.addressItem with typeId := ItemId.nullAddress, length := 0 } }
  let service : UInt8 := if c.isLargeForwardOpen then 0x5B else 0x54
  let triad := intBytes c.connectionSerialNumber ++ intBytes c.originatorVendorId ++
    dintBytes c.originatorSerialNumber
  if status.general = GeneralStatus.success then
    let itemCount : UInt16 :=
      if cpf.addressInfoItem0.typeId ≠ 0 then
        if cpf.addressInfoItem1.typeId ≠ 0 then 4 else 3
      else 2
    ({ replyService := 0x80 ||| service
       generalStatus := status.general
       message := dintBytes c.cipConsumedConnectionId ++
         dintBytes c.cipProducedConnectionId ++ triad ++
         dintBytes c.oToTRequestedPacketInterval ++
         dintBytes c.tToORequestedPacketInterval ++ sintBytes 0 ++ sintBytes 0 },
      { st with cpf := { cpf with itemCount := itemCount } })
  else
    let additionalStatus :=
      if status.general = GeneralStatus.notEnoughData ∨
          status.general = GeneralStatus.tooMuchData then []
      else if status.extended = ExtendedStatus.invalidOToTConnectionSize then
        [status.extended, c.correctOriginatorToTargetSize]
      else if status.extended = ExtendedStatus.invalidTToOConnectionSize then
        [status.extended, c.correctTargetToOriginatorSize]
      else [status.extended]
    ({ replyService := 0x80 ||| service
       generalStatus := status.general
       additionalStatus := additionalStatus
       message := triad ++ sintBytes 0 ++ sintBytes 0 },
      { st with cpf := cpf, dummy := st.dummy.setState .nonExistent })

/-- A failed request is answered from `g_dummy_connection_object`. -/
def refuse (status : OpenStatus) (st : StackState) : MessageRouterResponse × StackState :=
  st.assembleForwardOpenResponse st.dummy status

/-- The open function of the class that the path addresses. An entry without a
function leaves the status of the path parser, which is success. -/
def openConnection (st : StackState) : Except Fault (OpenStatus × StackState) :=
  match cfg.connectionManagementList.find? fun entry =>
      entry.1 = st.dummy.configurationPath.classId with
  | none => .ok ({ general := GeneralStatus.statusError
                   extended := ExtendedStatus.inconsistentApplicationPathCombo }, st)
  | some (_, none) => .ok ({}, st)
  | some (_, some .establishClass3Connection) => st.establishClass3Connection cfg
  | some (_, some .establishIoConnection) => st.establishIoConnection cfg env

/-- The reply of a success is read from the head of the connection list. -/
def answerOpenConnection (status : OpenStatus) (st : StackState) :
    Except Fault (MessageRouterResponse × StackState) :=
  if status.general ≠ GeneralStatus.success then .ok (st.refuse status)
  else
    match st.store.connectionList.first with
    | none => .error .nullDereference
    | some n =>
        match (st.nodes n).data with
        | none => .error .nullDereference
        | some r => .ok (st.assembleForwardOpenResponse (st.conn r) {})

/-- The request with its path, written to the globals. -/
def storeParsedPath (s : PathState) (st : StackState) : StackState :=
  { st with dummy := s.object, configData := s.configData }

def handleNonNullNonMatchingForwardOpenRequest (message : Message)
    (requestDataSize : UInt64) (st : StackState) :
    Except Fault (MessageRouterResponse × StackState) :=
  if st.dummy.productionTrigger = .invalid then
    .ok (st.refuse (connectionFailure
      ExtendedStatus.transportClassAndTriggerCombinationNotSupported))
  else
    match parseConnectionPath cfg message requestDataSize st.dummy st.configData with
    | .error failure =>
        .ok (refuse { general := failure.generalStatus, extended := failure.extendedStatus }
          { st with dummy := failure.object, configData := failure.configData })
    | .ok s =>
        match (st.storeParsedPath s).openConnection cfg env with
        | .error fault => .error fault
        | .ok (status, st) => st.answerOpenConnection status

/-- The request's fixed part, written to `g_dummy_connection_object`; the cursor
ends at the path size. -/
def receiveForwardOpen (isLarge : Bool) (message : Message)
    (originatorAddress : SockaddrIn) (encapsulationSession : UInt32) (st : StackState) :
    Except Fault (Message × StackState) :=
  let used := (st.connectionList cfg).map fun r => (st.conn r).connectionNumber
  match generateRandomConnectionNumber used env.rand.length env.rand with
  | none => .error .nonTermination
  | some (connectionNumber, _) =>
      let (c, message) := CipConnectionObject.initializeFromMessage cfg message
        connectionNumber { st.dummy with isLargeForwardOpen := isLarge }
      .ok (message, { st with dummy :=
        { c with
          associatedEncapsulationSession := encapsulationSession
          originatorAddress := originatorAddress } })

/-- The checks of `ForwardOpenRoutine` that come before the four handlers. -/
def forwardOpenRefusal (st : StackState) : Option OpenStatus :=
  if st.dummy.oToTConnectionType = .invalid then
    some (connectionFailure ExtendedStatus.invalidOToTConnectionType)
  else if st.dummy.tToOConnectionType = .invalid then
    some (connectionFailure ExtendedStatus.invalidTToOConnectionType)
  else if st.dummy.tToOConnectionType = .multicast ∧
      st.dummy.originatorAddress.sinAddr &&& cfg.networkMask ≠
        cfg.ipAddress &&& cfg.networkMask then
    some (connectionFailure ExtendedStatus.notConfiguredForOffSubnetMulticast)
  else if st.dummy.oToTConnectionType = .null ∧ st.dummy.tToOConnectionType = .null then
    some (connectionFailure ExtendedStatus.nullForwardOpenNotSupported)
  else if (st.checkForExistingConnection cfg st.dummy).isSome then
    some (connectionFailure ExtendedStatus.connectionInUseOrDuplicateForwardOpen)
  else none

/-- `ForwardOpenRoutine`, entered from `ForwardOpen` and `LargeForwardOpen`. -/
def forwardOpenRoutine (isLarge : Bool) (request : MessageRouterRequest)
    (originatorAddress : SockaddrIn) (encapsulationSession : UInt32) (st : StackState) :
    Except Fault (MessageRouterResponse × StackState) :=
  match st.receiveForwardOpen cfg env isLarge request.data originatorAddress
      encapsulationSession with
  | .error fault => .error fault
  | .ok (message, st) =>
      match st.forwardOpenRefusal cfg with
      | some status => .ok (st.refuse status)
      | none =>
          st.handleNonNullNonMatchingForwardOpenRequest cfg env message
            request.requestDataSize

def assembleForwardCloseResponse (serialNumber vendorId : UInt16)
    (originatorSerialNumber : UInt32) (service remainingPathSize : UInt8)
    (extended : UInt16) (st : StackState) : MessageRouterResponse × StackState :=
  let triad :=
    intBytes serialNumber ++ intBytes vendorId ++ dintBytes originatorSerialNumber
  let response : MessageRouterResponse :=
    if extended = ExtendedStatus.success then
      { replyService := 0x80 ||| service
        generalStatus := GeneralStatus.success
        message := triad ++ sintBytes 0 ++ sintBytes 0 }
    else if extended = ExtendedStatus.wrongCloser then
      { replyService := 0x80 ||| service
        generalStatus := GeneralStatus.privilegeViolation
        message := triad ++ sintBytes remainingPathSize ++ sintBytes 0 }
    else
      { replyService := 0x80 ||| service
        generalStatus := GeneralStatus.connectionFailure
        additionalStatus := [extended]
        message := triad ++ sintBytes remainingPathSize ++ sintBytes 0 }
  (response, { st with cpf :=
    { st.cpf with
      itemCount := 2
      dataItem := { st.cpf.dataItem with typeId := ItemId.unconnectedDataItem }
      addressItem :=
        { st.cpf.addressItem with typeId := ItemId.nullAddress, length := 0 } } })

def forwardClose (request : MessageRouterRequest) (originatorAddress : SockaddrIn)
    (st : StackState) : Except Fault (MessageRouterResponse × StackState) :=
  let cleared := CommonPacketFormatData.clearAddressInfoItem 0 st.cpf
  let st := { st with cpf := CommonPacketFormatData.clearAddressInfoItem 1 cleared }
  let (serialNumber, message) := Message.getUint (request.data.drop 2)
  let (vendorId, message) := message.getUint
  let (originatorSerialNumber, message) := message.getUdint
  let answer (extended : UInt16) (st : StackState) :=
    st.assembleForwardCloseResponse serialNumber vendorId originatorSerialNumber
      request.service (message.byteAt 0) extended
  match st.findConnection cfg fun _ c =>
      (c.state = .established || c.state = .timedOut) &&
        c.connectionSerialNumber = serialNumber && c.originatorVendorId = vendorId &&
        c.originatorSerialNumber = originatorSerialNumber with
  | none => .ok (answer ExtendedStatus.connectionTargetConnectionNotFound st)
  | some r =>
      if originatorAddress.sinAddr = (st.conn r).originatorAddress.sinAddr then
        match st.connectionCloseFunction cfg r with
        | .error fault => .error fault
        | .ok st => .ok (answer ExtendedStatus.success st)
      else .ok (answer ExtendedStatus.wrongCloser st)

end StackState

end Opener
