import Opener.Core.Stack
import Opener.Core.TcpReceive

/-!
The encapsulation commands of `encap.c` over TCP and UDP with the messages that
answer them. A frame on TCP is what `HandleDataOnTcpSocket` passes on: nothing but
zeros follows it in the buffer. The delayed answer to a broadcast List Identity is not
followed.
-/

namespace Opener

namespace EncapsulationCommand

def noOperation : UInt16 := 0x0000
def listServices : UInt16 := 0x0004
def listIdentity : UInt16 := 0x0063
def listInterfaces : UInt16 := 0x0064
def registerSession : UInt16 := 0x0065
def unregisterSession : UInt16 := 0x0066
def sendRequestReplyData : UInt16 := 0x006F
def sendUnitData : UInt16 := 0x0070

end EncapsulationCommand

namespace EncapsulationStatus

def incorrectData : UInt32 := 0x0003
def invalidSessionHandle : UInt32 := 0x0064

end EncapsulationStatus

def encapsulationHeaderOptionsFlag : UInt32 := 0x00

def senderContextSize : Nat := 8

def supportedProtocolVersion : UInt16 := 1

def openerEthernetPort : UInt16 := 0xAF12

/-- What is received with a header; `data` is the bytes from the current position. -/
structure EncapsulationData where
  commandCode : UInt16
  dataLength : UInt16
  sessionHandle : UInt32
  senderContext : List UInt8
  options : UInt32
  data : Message
deriving DecidableEq, Repr

/-- The number of bytes after the frame, negative for a fragment, and its header. -/
def createEncapsulationStructure (receiveBuffer : Message) : Int × EncapsulationData :=
  let (commandCode, message) := receiveBuffer.getUint
  let (dataLength, message) := message.getUint
  let (sessionHandle, message) := message.getUdint
  let (_, message) := message.getUdint
  let senderContext := message.takeBytes senderContextSize
  let (options, message) := Message.getUdint (message.drop senderContextSize)
  ((receiveBuffer.length : Int) - encapsulationHeaderLength - dataLength.toNat,
    { commandCode, dataLength, sessionHandle, senderContext, options, data := message })

/-- The bytes written from the start of the buffer, and how many of them count. -/
structure ENIPMessage where
  messageBuffer : List UInt8 := []
  usedMessageLength : Nat := 0
deriving DecidableEq, Repr

namespace ENIPMessage

/-- All that is written counts. -/
def written (bytes : List UInt8) : ENIPMessage :=
  { messageBuffer := bytes, usedMessageLength := bytes.length }

/-- What is written from the start of a message stays within its buffer. -/
def bounded (message : ENIPMessage) : Except Fault ENIPMessage :=
  if ethernetBufferSize < message.messageBuffer.length then .error .messageOverrun
  else .ok message

/-- What `send` gets. -/
def bytes (message : ENIPMessage) : List UInt8 :=
  message.messageBuffer.take message.usedMessageLength

end ENIPMessage

/-- `GenerateEncapsulationHeader`. The length is added as a 16-bit number. -/
def generateEncapsulationHeader (receiveData : EncapsulationData)
    (commandSpecificDataLength : Nat) (sessionHandle status : UInt32) : List UInt8 :=
  intBytes receiveData.commandCode ++ intBytes (UInt16.ofNat commandSpecificDataLength) ++
    dintBytes sessionHandle ++ dintBytes status ++ receiveData.senderContext ++ dintBytes 0

/-- `g_service_information`: the name is padded to sixteen bytes. -/
def serviceInformation : List UInt8 :=
  intBytes 0x0100 ++ intBytes (24 - 4) ++ intBytes 1 ++ intBytes (0x0020 ||| 0x0100) ++
    [67, 111, 109, 109, 117, 110, 105, 99, 97, 116, 105, 111, 110, 115, 0, 0]

def handleReceivedListServicesCommand (receiveData : EncapsulationData) : ENIPMessage :=
  .written (generateEncapsulationHeader receiveData 26 0 EncapsulationStatus.success ++
    intBytes 1 ++ serviceInformation)

def handleReceivedListInterfacesCommand (receiveData : EncapsulationData) : ENIPMessage :=
  .written (generateEncapsulationHeader receiveData 2 0 EncapsulationStatus.success ++
    intBytes 0)

/-- The attributes of the identity that only List Identity reads. The name is a
`CipShortString`. -/
structure IdentityAttributes where
  status : UInt16
  serialNumber : UInt32
  productName : List UInt8
  state : UInt8
  name_length : productName.length ≤ 255

def encapsulateIpAddress (port : UInt16) (address : UInt32) : List UInt8 :=
  intBytes (htons afInet) ++ intBytes port ++ dintBytes address

def listIdentityGetCipIdentityItemLength (attributes : IdentityAttributes) : UInt16 :=
  UInt16.ofNat (2 + 2 + 2 + 4 + 8 * 1 + 2 + 2 + 2 + 2 * 1 + 2 + 4 + 1 +
    attributes.productName.length + 1)

def encodeListIdentityCipIdentityItem (cfg : Config) (attributes : IdentityAttributes) :
    List UInt8 :=
  intBytes 0x0C ++ intBytes (listIdentityGetCipIdentityItemLength attributes) ++
    intBytes supportedProtocolVersion ++
    encapsulateIpAddress (htons openerEthernetPort) cfg.ipAddress ++ List.replicate 8 0 ++
    intBytes cfg.identity.vendorId ++ intBytes cfg.identity.deviceType ++
    intBytes cfg.identity.productCode ++ sintBytes cfg.identity.majorRevision ++
    sintBytes cfg.identity.minorRevision ++ intBytes attributes.status ++
    dintBytes attributes.serialNumber ++
    sintBytes (UInt8.ofNat attributes.productName.length) ++ attributes.productName ++
    sintBytes attributes.state

def encapsulateListIdentityResponseMessage (cfg : Config) (attributes : IdentityAttributes)
    (receiveData : EncapsulationData) : ENIPMessage :=
  let length := listIdentityGetCipIdentityItemLength attributes + 2 + 2 + 2
  .written (generateEncapsulationHeader receiveData length.toNat 0 EncapsulationStatus.success ++
    intBytes 1 ++ encodeListIdentityCipIdentityItem cfg attributes)

def encapsulateRegisterSessionCommandResponseMessage (receiveData : EncapsulationData)
    (sessionHandle status : UInt32) : ENIPMessage :=
  .written (generateEncapsulationHeader receiveData 4 sessionHandle status ++ intBytes 1 ++
    intBytes 0)

/-- A reply that is only a header, with the session handle of the request. -/
def errorReply (receiveData : EncapsulationData) (status : UInt32) : ENIPMessage :=
  .written (generateEncapsulationHeader receiveData 0 receiveData.sessionHandle status)

def handleReceivedInvalidCommand (receiveData : EncapsulationData) : EipStatus × ENIPMessage :=
  (.okSend, errorReply receiveData EncapsulationStatus.invalidCommand)

/-- The header over what is already written after it. -/
def encapsulate (receiveData : EncapsulationData) (payload : List UInt8) : ENIPMessage :=
  .written (generateEncapsulationHeader receiveData payload.length receiveData.sessionHandle
    EncapsulationStatus.success ++ payload)

/-- The `used_message_length` of `last_reply_sent`, which is zero when no reply was
stored. -/
def lastReplyLength (payload : List UInt8) : Nat :=
  if payload = [] then 0 else encapsulationHeaderLength + payload.length

/-- The stored reply with a new header. The length is unsigned and wraps around. -/
def regenerate (receiveData : EncapsulationData) (payload : List UInt8) : ENIPMessage :=
  let length :=
    (lastReplyLength payload + sizeModulus - encapsulationHeaderLength) % sizeModulus
  { messageBuffer := generateEncapsulationHeader receiveData length receiveData.sessionHandle
      EncapsulationStatus.success ++ payload
    usedMessageLength := (length + encapsulationHeaderLength) % sizeModulus }

/-- The packet after interface handle and time-out of the command specific data. -/
def packet (receiveData : EncapsulationData) : Message :=
  (receiveData.data.drop 6).take (receiveData.dataLength.toNat - 6)

/-- What a handler of received data returns. -/
structure Handled where
  status : EipStatus
  numberOfRemainingBytes : Nat
  outgoingMessage : ENIPMessage := {}
deriving DecidableEq, Repr

namespace StackState

variable (cfg : Config) (env : Environment)

def handleReceivedUnregisterSessionCommand (receiveData : EncapsulationData)
    (st : StackState) : Except Fault ((EipStatus × ENIPMessage) × StackState) :=
  if st.checkRegisteredSessions receiveData.sessionHandle then
    match st.unregisterSession cfg receiveData.sessionHandle with
    | .error fault => .error fault
    | .ok st => .ok ((.ok, {}), st)
  else
    .ok ((.okSend, errorReply receiveData EncapsulationStatus.invalidSessionHandle), st)

/-- Without a reply the packet was unreadable, of the wrong item types, or refused by
the message router. Only the wrong types are answered. -/
def handleReceivedSendRequestResponseDataCommand (receiveData : EncapsulationData)
    (originatorAddress : SockaddrIn) (st : StackState) :
    Except Fault ((EipStatus × ENIPMessage) × StackState) :=
  if receiveData.dataLength < 6 then .ok ((.ok, {}), st)
  else if st.checkRegisteredSessions receiveData.sessionHandle then
    let (status, cpf) := CommonPacketFormatData.createCommonPacketFormatStructure
      (packet receiveData) (packet receiveData).length st.cpf
    match st.notifyCommonPacketFormat cfg env (packet receiveData) originatorAddress
        receiveData.sessionHandle with
    | .error fault => .error fault
    | .ok (some payload, st) =>
        match (encapsulate receiveData payload).bounded with
        | .error fault => .error fault
        | .ok message => .ok ((.okSend, message), st)
    | .ok (none, st) =>
        if status ≠ .error ∧ ¬(cpf.addressItem.typeId = ItemId.nullAddress ∧
            cpf.dataItem.typeId = ItemId.unconnectedDataItem) then
          .ok ((.okSend, errorReply receiveData EncapsulationStatus.incorrectData), st)
        else .ok ((.error, {}), st)
  else
    .ok ((.okSend, errorReply receiveData EncapsulationStatus.invalidSessionHandle), st)

/-- The connection whose last sequence number a connected message repeats. -/
def repeatedConnection (data : Message) (st : StackState) : Option ConnRef :=
  let (status, cpf) :=
    CommonPacketFormatData.createCommonPacketFormatStructure data data.length st.cpf
  if status = .error ∨ cpf.addressItem.typeId ≠ ItemId.connectionAddress ∨
      cpf.dataItem.typeId ≠ ItemId.connectedDataItem then none
  else
    match st.getConnectedObject cfg cpf.addressItem.connectionIdentifier with
    | none => none
    | some r =>
        if (st.conn r).sequenceCountConsuming = (Message.getUint cpf.dataItem.data).1 then
          some r
        else none

/-- A repeated message gets the stored reply under a new header. -/
def handleReceivedSendUnitDataCommand (receiveData : EncapsulationData)
    (originatorAddress : SockaddrIn) (st : StackState) :
    Except Fault ((EipStatus × ENIPMessage) × StackState) :=
  if receiveData.dataLength < 6 then .ok ((.ok, {}), st)
  else if st.checkRegisteredSessions receiveData.sessionHandle then
    let repeated := st.repeatedConnection cfg (packet receiveData)
    match st.notifyConnectedCommonPacketFormat cfg env (packet receiveData) originatorAddress
        receiveData.sessionHandle with
    | .error fault => .error fault
    | .ok (none, st) => .ok ((.ok, {}), st)
    | .ok (some payload, st) =>
        let message := if repeated.isSome then regenerate receiveData payload
          else encapsulate receiveData payload
        match message.bounded with
        | .error fault => .error fault
        | .ok message => .ok ((.okSend, message), st)
  else
    .ok ((.okSend, errorReply receiveData EncapsulationStatus.invalidSessionHandle), st)

/-- The switch of `HandleReceivedExplictTcpData`. -/
def handleTcpCommand (attributes : IdentityAttributes) (socket : Int)
    (receiveData : EncapsulationData) (originatorAddress : SockaddrIn) (st : StackState) :
    Except Fault ((EipStatus × ENIPMessage) × StackState) :=
  if receiveData.commandCode = EncapsulationCommand.noOperation then .ok ((.ok, {}), st)
  else if receiveData.commandCode = EncapsulationCommand.listServices then
    .ok ((.okSend, handleReceivedListServicesCommand receiveData), st)
  else if receiveData.commandCode = EncapsulationCommand.listIdentity then
    .ok ((.okSend, encapsulateListIdentityResponseMessage cfg attributes receiveData), st)
  else if receiveData.commandCode = EncapsulationCommand.listInterfaces then
    .ok ((.okSend, handleReceivedListInterfacesCommand receiveData), st)
  else if receiveData.commandCode = EncapsulationCommand.registerSession then
    let (protocolVersion, message) := receiveData.data.getUint
    match st.handleReceivedRegisterSessionCommand env protocolVersion message.getUint.1
        socket with
    | .error fault => .error fault
    | .ok ((sessionHandle, status), st) =>
        .ok ((.okSend, encapsulateRegisterSessionCommandResponseMessage receiveData
          sessionHandle status), st)
  else if receiveData.commandCode = EncapsulationCommand.unregisterSession then
    st.handleReceivedUnregisterSessionCommand cfg receiveData
  else if receiveData.commandCode = EncapsulationCommand.sendRequestReplyData then
    st.handleReceivedSendRequestResponseDataCommand cfg env receiveData originatorAddress
  else if receiveData.commandCode = EncapsulationCommand.sendUnitData then
    st.handleReceivedSendUnitDataCommand cfg env receiveData originatorAddress
  else .ok (handleReceivedInvalidCommand receiveData, st)

/-- `HandleReceivedExplictTcpData` on one frame. -/
def handleReceivedExplictTcpData (attributes : IdentityAttributes) (socket : Int)
    (buffer : Message) (originatorAddress : SockaddrIn) (st : StackState) :
    Except Fault (Handled × StackState) :=
  let (remainingBytes, encapsulationData) := createEncapsulationStructure buffer
  if remainingBytes < 0 then .ok ({ status := .error, numberOfRemainingBytes := 0 }, st)
  else if encapsulationData.options ≠ encapsulationHeaderOptionsFlag then
    .ok ({ status := .ok, numberOfRemainingBytes := remainingBytes.toNat }, st)
  else
    match st.handleTcpCommand cfg env attributes socket encapsulationData originatorAddress with
    | .error fault => .error fault
    | .ok ((status, outgoingMessage), st) =>
        .ok ({ status, numberOfRemainingBytes := remainingBytes.toNat, outgoingMessage }, st)

end StackState

/-- The switch of `HandleReceivedExplictUdpData`. A command that is not to be sent over
UDP keeps the status that asks for a reply, and nothing is written. -/
def handleUdpCommand (cfg : Config) (attributes : IdentityAttributes) (unicast : Bool)
    (receiveData : EncapsulationData) : EipStatus × ENIPMessage :=
  if receiveData.commandCode = EncapsulationCommand.listServices then
    (.okSend, handleReceivedListServicesCommand receiveData)
  else if receiveData.commandCode = EncapsulationCommand.listIdentity then
    if unicast then
      (.okSend, encapsulateListIdentityResponseMessage cfg attributes receiveData)
    else (.ok, {})
  else if receiveData.commandCode = EncapsulationCommand.listInterfaces then
    (.okSend, handleReceivedListInterfacesCommand receiveData)
  else (.okSend, {})

def handleReceivedExplictUdpData (cfg : Config) (attributes : IdentityAttributes)
    (unicast : Bool) (buffer : Message) : Handled :=
  let (remainingBytes, encapsulationData) := createEncapsulationStructure buffer
  if remainingBytes < 0 then { status := .error, numberOfRemainingBytes := 0 }
  else if encapsulationData.options ≠ encapsulationHeaderOptionsFlag then
    { status := .ok, numberOfRemainingBytes := remainingBytes.toNat }
  else
    let (status, outgoingMessage) :=
      handleUdpCommand cfg attributes unicast encapsulationData
    { status, numberOfRemainingBytes := remainingBytes.toNat, outgoingMessage }

end Opener
