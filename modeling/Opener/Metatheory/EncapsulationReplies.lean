import Opener.Metatheory.ReplySizes

/-!
Replies of the encapsulation layer. Every header is generated from the received one and
from the length of what is written after it, so a reply repeats the command and the
sender context and counts its data, unless there is nothing to put a header on: a
repeated message on a connection that has no reply stored, and a command that has no
answer over UDP. The answer of a service may be too long for the message.
-/

namespace Opener

open CommonPacketFormatData

/-- A reply to the received bytes. -/
structure WellFormedReply (request : Message) (reply : ENIPMessage) : Prop where
  fits : reply.messageBuffer.length ≤ ethernetBufferSize
  long : encapsulationHeaderLength ≤ reply.usedMessageLength
  command : reply.bytes.take 2 = request.takeBytes 2
  senderContext : (reply.bytes.drop 12).take senderContextSize =
    Message.takeBytes (request.drop 12) senderContextSize
  length : (Message.getUint (reply.bytes.drop 2)).1.toNat + encapsulationHeaderLength =
    reply.usedMessageLength

theorem intBytes_getUint (message : Message) :
    intBytes message.getUint.1 = message.takeBytes 2 := by
  rw [Message.getUint, intBytes, LittleEndian.word_low, LittleEndian.word_high]
  rfl

theorem generateEncapsulationHeader_length {receiveData : EncapsulationData}
    (hcontext : receiveData.senderContext.length = senderContextSize) (length : Nat)
    (sessionHandle status : UInt32) :
    (generateEncapsulationHeader receiveData length sessionHandle status).length =
      encapsulationHeaderLength := by
  simp only [generateEncapsulationHeader, List.length_append, hcontext]
  rfl

theorem createEncapsulationStructure_senderContext (buffer : Message) :
    (createEncapsulationStructure buffer).2.senderContext =
      Message.takeBytes (buffer.drop 12) senderContextSize := by
  simp only [createEncapsulationStructure, Message.getUint, Message.getUdint, List.drop_drop]

/-- A header over so many bytes makes a reply of them. -/
theorem wellFormedReply_of_header (buffer : Message) (data : List UInt8) {length : Nat}
    (hlength : data.length = length)
    (hfits : encapsulationHeaderLength + length ≤ ethernetBufferSize)
    (sessionHandle status : UInt32) :
    WellFormedReply buffer (.written (generateEncapsulationHeader
      (createEncapsulationStructure buffer).2 length sessionHandle status ++ data)) := by
  have hsmall : length < 65536 :=
    Nat.lt_of_le_of_lt (Nat.le_of_add_left_le hfits) (by decide)
  have hword : (UInt16.ofNat length).toNat = length :=
    (UInt16.toNat_ofNat' (n := length)).trans (Nat.mod_eq_of_lt hsmall)
  have hheader : (generateEncapsulationHeader (createEncapsulationStructure buffer).2 length
      sessionHandle status).length = encapsulationHeaderLength :=
    generateEncapsulationHeader_length rfl ..
  have hused : (generateEncapsulationHeader (createEncapsulationStructure buffer).2 length
      sessionHandle status ++ data).length = encapsulationHeaderLength + length := by
    rw [List.length_append, hheader, hlength]
  have hbytes : (ENIPMessage.written (generateEncapsulationHeader
      (createEncapsulationStructure buffer).2 length sessionHandle status ++ data)).bytes =
      intBytes buffer.getUint.1 ++ (intBytes (UInt16.ofNat length) ++
        (dintBytes sessionHandle ++ dintBytes status ++
        (Message.takeBytes (buffer.drop 12) senderContextSize ++ (dintBytes 0 ++ data)))) := by
    rw [ENIPMessage.bytes, ENIPMessage.written, List.take_length]
    simp only [generateEncapsulationHeader, createEncapsulationStructure_senderContext,
      List.append_assoc]
    rfl
  refine ⟨?_, ?_, ?_, ?_, ?_⟩
  · exact hused.trans_le hfits
  · change _ ≤ List.length _
    rw [hused]
    exact Nat.le_add_right _ _
  · rw [hbytes, intBytes_getUint]
    rfl
  · rw [hbytes]
    rfl
  · have hdrop : ∀ (value : UInt16) (rest : List UInt8), (intBytes value ++ rest).drop 2 = rest :=
      fun _ _ => rfl
    change _ = List.length _
    rw [hbytes, hdrop, Message.getUint_intBytes, hword, hused, Nat.add_comm]

theorem handleReceivedListServicesCommand_wellFormed (buffer : Message) :
    WellFormedReply buffer
      (handleReceivedListServicesCommand (createEncapsulationStructure buffer).2) := by
  rw [handleReceivedListServicesCommand, List.append_assoc]
  have hlength : (intBytes 1 ++ serviceInformation).length = 26 := rfl
  exact wellFormedReply_of_header buffer _ hlength (by decide) 0 _

theorem handleReceivedListInterfacesCommand_wellFormed (buffer : Message) :
    WellFormedReply buffer
      (handleReceivedListInterfacesCommand (createEncapsulationStructure buffer).2) := by
  have hlength : (intBytes 0).length = 2 := rfl
  exact wellFormedReply_of_header buffer _ hlength (by decide) 0 _

theorem encapsulateRegisterSession_wellFormed (buffer : Message)
    (sessionHandle status : UInt32) :
    WellFormedReply buffer (encapsulateRegisterSessionCommandResponseMessage
      (createEncapsulationStructure buffer).2 sessionHandle status) := by
  rw [encapsulateRegisterSessionCommandResponseMessage, List.append_assoc]
  have hlength : (intBytes 1 ++ intBytes 0).length = 4 := rfl
  exact wellFormedReply_of_header buffer _ hlength (by decide) sessionHandle status

theorem errorReply_wellFormed (buffer : Message) (status : UInt32) :
    WellFormedReply buffer (errorReply (createEncapsulationStructure buffer).2 status) := by
  rw [errorReply, ← List.append_nil (generateEncapsulationHeader _ _ _ _)]
  exact wellFormedReply_of_header buffer [] List.length_nil (by decide) _ status

/-- The length of the item is that of the bytes after its type and length. -/
theorem encodeListIdentityCipIdentityItem_length (cfg : Config)
    (attributes : IdentityAttributes) :
    (encodeListIdentityCipIdentityItem cfg attributes).length =
      4 + (listIdentityGetCipIdentityItemLength attributes).toNat := by
  have hname := attributes.name_length
  have hlength : (listIdentityGetCipIdentityItemLength attributes).toNat =
      34 + attributes.productName.length := by
    rw [listIdentityGetCipIdentityItemLength, UInt16.toNat_ofNat', Nat.mod_eq_of_lt (by omega)]
    omega
  rw [hlength]
  simp only [encodeListIdentityCipIdentityItem, encapsulateIpAddress, intBytes, dintBytes,
    sintBytes, List.length_append, List.length_cons, List.length_nil, List.length_replicate]
  omega

theorem encapsulateListIdentity_wellFormed (cfg : Config) (attributes : IdentityAttributes)
    (buffer : Message) : WellFormedReply buffer (encapsulateListIdentityResponseMessage cfg
      attributes (createEncapsulationStructure buffer).2) := by
  have hname := attributes.name_length
  have hitem := encodeListIdentityCipIdentityItem_length cfg attributes
  have hlength : (listIdentityGetCipIdentityItemLength attributes).toNat ≤ 289 := by
    rw [listIdentityGetCipIdentityItemLength, UInt16.toNat_ofNat', Nat.mod_eq_of_lt (by omega)]
    omega
  have hadd : (listIdentityGetCipIdentityItemLength attributes + 2 + 2 + 2).toNat =
      (listIdentityGetCipIdentityItemLength attributes).toNat + 6 := by
    have h2 : (2 : UInt16).toNat = 2 := rfl
    rw [UInt16.toNat_add, UInt16.toNat_add, UInt16.toNat_add, h2]
    omega
  rw [encapsulateListIdentityResponseMessage, List.append_assoc]
  rw [hadd]
  have hfits : encapsulationHeaderLength +
      ((listIdentityGetCipIdentityItemLength attributes).toNat + 6) ≤ ethernetBufferSize := by
    rw [encapsulationHeaderLength, ethernetBufferSize]
    omega
  refine wellFormedReply_of_header buffer _ ?_ hfits 0 _
  rw [List.length_append, hitem]
  change 2 + _ = _
  omega

theorem regenerate_eq_encapsulate {receiveData : EncapsulationData}
    (hcontext : receiveData.senderContext.length = senderContextSize) {payload : List UInt8}
    (hpayload : payload ≠ []) (hsmall : payload.length < 65536) :
    regenerate receiveData payload = encapsulate receiveData payload := by
  have hlength : (lastReplyLength payload + sizeModulus - encapsulationHeaderLength) %
      sizeModulus = payload.length := by
    rw [lastReplyLength, if_neg hpayload, sizeModulus, encapsulationHeaderLength]
    omega
  have hused : (payload.length + encapsulationHeaderLength) % sizeModulus =
      encapsulationHeaderLength + payload.length := by
    rw [sizeModulus, encapsulationHeaderLength]
    omega
  rw [regenerate, encapsulate, ENIPMessage.written, List.length_append,
    generateEncapsulationHeader_length hcontext, hlength, hused]

theorem regenerate_nil (receiveData : EncapsulationData) :
    (regenerate receiveData []).usedMessageLength = 0 := by
  rw [regenerate, lastReplyLength, if_pos rfl]
  rfl

theorem not_wellFormedReply_of_unused {buffer : Message} {reply : ENIPMessage}
    (h : reply.usedMessageLength = 0) : ¬WellFormedReply buffer reply := by
  intro hreply
  have hlong := hreply.long
  rw [h] at hlong
  exact absurd hlong (by decide)

theorem encapsulate_length {receiveData : EncapsulationData}
    (hcontext : receiveData.senderContext.length = senderContextSize) (payload : List UInt8) :
    (encapsulate receiveData payload).messageBuffer.length =
      encapsulationHeaderLength + payload.length := by
  rw [encapsulate, ENIPMessage.written, List.length_append,
    generateEncapsulationHeader_length hcontext]

theorem encapsulate_wellFormed_iff (buffer : Message) (payload : List UInt8) :
    WellFormedReply buffer (encapsulate (createEncapsulationStructure buffer).2 payload) ↔
      encapsulationHeaderLength + payload.length ≤ ethernetBufferSize := by
  refine ⟨fun h => ?_, fun h => wellFormedReply_of_header buffer payload rfl h _ _⟩
  have hcontext : (createEncapsulationStructure buffer).2.senderContext.length =
    senderContextSize := rfl
  rw [← encapsulate_length hcontext]
  exact h.fits

/-- A stored reply is sent as it was sent first, if there is one. -/
theorem regenerate_wellFormed_iff (buffer : Message) (payload : List UInt8) :
    WellFormedReply buffer (regenerate (createEncapsulationStructure buffer).2 payload) ↔
      payload ≠ [] ∧ encapsulationHeaderLength + payload.length ≤ ethernetBufferSize := by
  have hlength : (regenerate (createEncapsulationStructure buffer).2 payload).messageBuffer.length
      = encapsulationHeaderLength + payload.length := by
    rw [regenerate, List.length_append, generateEncapsulationHeader_length rfl]
  constructor
  · refine fun h => ⟨?_, hlength ▸ h.fits⟩
    rintro rfl
    exact not_wellFormedReply_of_unused (regenerate_nil _) h
  · rintro ⟨hpayload, hfits⟩
    have hsmall : payload.length < 65536 :=
      Nat.lt_of_le_of_lt (Nat.le_of_add_left_le hfits) (by decide)
    rw [regenerate_eq_encapsulate rfl hpayload hsmall]
    exact (encapsulate_wellFormed_iff buffer payload).mpr hfits

namespace StackState

open LinkedCells

variable {cfg : Config} {env : Environment} {st st' : StackState}

/-- The command is long enough and on a registered session. -/
def admits (receiveData : EncapsulationData) (st : StackState) : Bool :=
  6 ≤ receiveData.dataLength && st.checkRegisteredSessions receiveData.sessionHandle

/-- The command is a request whose answer does not make a reply. -/
def commandFails (cfg : Config) (env : Environment) (receiveData : EncapsulationData)
    (st : StackState) : Bool :=
  st.admits receiveData &&
    ((receiveData.commandCode = EncapsulationCommand.sendRequestReplyData &&
        unconnectedOverruns env (packet receiveData) st) ||
      (receiveData.commandCode = EncapsulationCommand.sendUnitData &&
        connectedFails cfg env (packet receiveData) st))

/-- The frame is complete and such a request. -/
def failsReply (cfg : Config) (env : Environment) (buffer : Message) (st : StackState) : Bool :=
  let (remainingBytes, encapsulationData) := createEncapsulationStructure buffer
  0 ≤ remainingBytes && encapsulationData.options = encapsulationHeaderOptionsFlag &&
    commandFails cfg env encapsulationData st

/-- The datagram is answered, or there is no reply to ask for. -/
def answeredOverUdp (buffer : Message) : Bool :=
  let (remainingBytes, encapsulationData) := createEncapsulationStructure buffer
  remainingBytes < 0 || encapsulationData.options ≠ encapsulationHeaderOptionsFlag ||
    encapsulationData.commandCode ∈ [EncapsulationCommand.listServices,
      EncapsulationCommand.listIdentity, EncapsulationCommand.listInterfaces]

/-- A command that asks for a reply to be sent has written one. -/
def Replied (buffer : Message) (result : EipStatus × ENIPMessage) : Prop :=
  result.1 = .okSend → WellFormedReply buffer result.2

theorem Replied.of_silent {buffer : Message} {status : EipStatus} {reply : ENIPMessage}
    (h : status ≠ .okSend) : Replied buffer (status, reply) :=
  fun hsend => absurd hsend h

/-- The bytes of a message that is sent are a reply. -/
theorem replied_bounded_iff (buffer : Message) (message : ENIPMessage) (st : StackState) :
    WritesWithin (Replied buffer)
        (match message.bounded with
          | .error fault => .error fault
          | .ok message => .ok ((.okSend, message), st)) ↔
      WellFormedReply buffer message := by
  rw [ENIPMessage.bounded]
  by_cases hlong : ethernetBufferSize < message.messageBuffer.length
  · rw [if_pos hlong]
    exact iff_of_false (fun h => h rfl) fun h => Nat.not_lt.mpr h.fits hlong
  · rw [if_neg hlong]
    exact ⟨fun h => h rfl, fun h _ => h⟩

/-- The request is answered, and so is a packet of the wrong types. -/
theorem sendRequestResponseData_admitted_iff (buffer : Message)
    (hlength : ¬(createEncapsulationStructure buffer).2.dataLength < 6)
    (hsession : st.checkRegisteredSessions
      (createEncapsulationStructure buffer).2.sessionHandle = true)
    (originatorAddress : SockaddrIn) :
    WritesWithin (Replied buffer) (st.handleReceivedSendRequestResponseDataCommand cfg env
        (createEncapsulationStructure buffer).2 originatorAddress) ↔
      unconnectedOverruns env (packet (createEncapsulationStructure buffer).2) st = false := by
  rw [← notifyCommonPacketFormat_fits_iff cfg env _ originatorAddress
    (createEncapsulationStructure buffer).2.sessionHandle,
    handleReceivedSendRequestResponseDataCommand, if_neg hlength, if_pos hsession]
  dsimp only
  generalize st.notifyCommonPacketFormat cfg env _ originatorAddress _ = result
  cases result with
  | error fault => rfl
  | ok answer =>
      obtain ⟨reply, st₁⟩ := answer
      cases reply with
      | none =>
          refine iff_of_true ?_ fitsMessage_none
          dsimp only
          split
          · exact fun _ => errorReply_wellFormed buffer _
          · exact .of_silent EipStatus.noConfusion
      | some payload =>
          exact ((replied_bounded_iff buffer _ st₁).trans
            (encapsulate_wellFormed_iff buffer payload)).trans (fitsMessage_some payload).symm

theorem sendRequestResponseData_replied_iff (buffer : Message)
    (originatorAddress : SockaddrIn) :
    WritesWithin (Replied buffer) (st.handleReceivedSendRequestResponseDataCommand cfg env
        (createEncapsulationStructure buffer).2 originatorAddress) ↔
      (st.admits (createEncapsulationStructure buffer).2 &&
        unconnectedOverruns env (packet (createEncapsulationStructure buffer).2) st) = false := by
  by_cases hlength : (createEncapsulationStructure buffer).2.dataLength < 6
  · rw [handleReceivedSendRequestResponseDataCommand, if_pos hlength, admits,
      decide_eq_false (UInt16.not_le.mpr hlength)]
    exact iff_of_true (.of_silent EipStatus.noConfusion) rfl
  · by_cases hsession : st.checkRegisteredSessions
        (createEncapsulationStructure buffer).2.sessionHandle = true
    · rw [admits, decide_eq_true (UInt16.not_lt.mp hlength), hsession]
      exact sendRequestResponseData_admitted_iff buffer hlength hsession originatorAddress
    · rw [handleReceivedSendRequestResponseDataCommand, if_neg hlength, if_neg hsession, admits,
        eq_false_of_ne_true hsession, Bool.and_false]
      exact iff_of_true (fun _ => errorReply_wellFormed buffer _) rfl

/-- A repeated message is answered from the store, a new one by the message router. -/
theorem sendUnitData_admitted_iff (buffer : Message)
    (hlength : ¬(createEncapsulationStructure buffer).2.dataLength < 6)
    (hsession : st.checkRegisteredSessions
      (createEncapsulationStructure buffer).2.sessionHandle = true)
    (originatorAddress : SockaddrIn) :
    WritesWithin (Replied buffer) (st.handleReceivedSendUnitDataCommand cfg env
        (createEncapsulationStructure buffer).2 originatorAddress) ↔
      connectedFails cfg env (packet (createEncapsulationStructure buffer).2) st = false := by
  rw [handleReceivedSendUnitDataCommand, if_neg hlength, if_pos hsession]
  cases hentry : connectedEntry cfg (packet (createEncapsulationStructure buffer).2) st with
  | none =>
      obtain ⟨st₁, hcall, -⟩ := notifyConnected_of_none hentry env originatorAddress
        (createEncapsulationStructure buffer).2.sessionHandle
      rw [hcall, connectedFails, hentry]
      cases hrepeated : st.repeatedConnection cfg
          (packet (createEncapsulationStructure buffer).2) with
      | none => exact iff_of_true (.of_silent EipStatus.noConfusion) rfl
      | some r =>
          have hfails : ((some r).any fun r => (st.conn r).lastReplySent = [] ||
              ethernetBufferSize <
                encapsulationHeaderLength + (st.conn r).lastReplySent.length) = false ↔
              (st.conn r).lastReplySent ≠ [] ∧
                encapsulationHeaderLength + (st.conn r).lastReplySent.length ≤
                  ethernetBufferSize := by
            rw [Option.any_some, Bool.or_eq_false_iff, decide_eq_false_iff_not,
              decide_eq_false_iff_not, Nat.not_lt]
          exact ((replied_bounded_iff buffer _ st₁).trans
            (regenerate_wellFormed_iff buffer _)).trans hfails.symm
  | some entry =>
      obtain ⟨r, message, length, st₁⟩ := entry
      rw [← notifyConnected_fits_iff hentry originatorAddress
        (createEncapsulationStructure buffer).2.sessionHandle, repeatedConnection_of_entry hentry]
      generalize st.notifyConnectedCommonPacketFormat cfg env _ originatorAddress _ = result
      cases result with
      | error fault => rfl
      | ok answer =>
          obtain ⟨reply, st₂⟩ := answer
          cases reply with
          | none => exact iff_of_true (.of_silent EipStatus.noConfusion) fitsMessage_none
          | some payload =>
              exact ((replied_bounded_iff buffer _ st₂).trans
                (encapsulate_wellFormed_iff buffer payload)).trans (fitsMessage_some payload).symm

theorem sendUnitData_replied_iff (buffer : Message) (originatorAddress : SockaddrIn) :
    WritesWithin (Replied buffer) (st.handleReceivedSendUnitDataCommand cfg env
        (createEncapsulationStructure buffer).2 originatorAddress) ↔
      (st.admits (createEncapsulationStructure buffer).2 &&
        connectedFails cfg env (packet (createEncapsulationStructure buffer).2) st) = false := by
  by_cases hlength : (createEncapsulationStructure buffer).2.dataLength < 6
  · rw [handleReceivedSendUnitDataCommand, if_pos hlength, admits,
      decide_eq_false (UInt16.not_le.mpr hlength)]
    exact iff_of_true (.of_silent EipStatus.noConfusion) rfl
  · by_cases hsession : st.checkRegisteredSessions
        (createEncapsulationStructure buffer).2.sessionHandle = true
    · rw [admits, decide_eq_true (UInt16.not_lt.mp hlength), hsession]
      exact sendUnitData_admitted_iff buffer hlength hsession originatorAddress
    · rw [handleReceivedSendUnitDataCommand, if_neg hlength, if_neg hsession, admits,
        eq_false_of_ne_true hsession, Bool.and_false]
      exact iff_of_true (fun _ => errorReply_wellFormed buffer _) rfl

theorem unregisterSession_replied (buffer : Message) (st : StackState) :
    WritesWithin (Replied buffer)
      (st.handleReceivedUnregisterSessionCommand cfg (createEncapsulationStructure buffer).2) := by
  rw [handleReceivedUnregisterSessionCommand]
  split
  · rename_i hsession
    rw [unregisterSession, if_pos hsession]
    dsimp only
    cases hclose : st.closeTcpSocket _ with
    | error fault =>
        simp only [closeTcpSocket, removeSocketTimerFromList] at hclose
        split at hclose
        · rename_i hloop
          split at hloop
          · cases hloop
            cases hclose
            exact Fault.noConfusion
          · cases hloop
        · cases hclose
    | ok st₁ =>
        have hclass3 := closeClass3_reserved cfg
          (createEncapsulationStructure buffer).2.sessionHandle (st₁.clearSession
            ((createEncapsulationStructure buffer).2.sessionHandle - 1).toNat)
        dsimp only
        generalize closeClass3ConnectionBasedOnSession cfg _ _ = result at hclass3 ⊢
        cases result with
        | error fault => exact hclass3.2
        | ok st₂ => exact .of_silent EipStatus.noConfusion
  · exact fun _ => errorReply_wellFormed buffer _

theorem registerSession_fault {socket : Int} {fault : Fault}
    (h : st.registerSession env socket = .error fault) : fault ≠ .messageOverrun := by
  rw [registerSession] at h
  split at h
  · cases h
  · split at h
    · cases h
    · split at h
      · cases h
        exact Fault.noConfusion
      · cases h

theorem registerSessionCommand_fault {protocolVersion optionFlag : UInt16} {socket : Int}
    {fault : Fault} (h : st.handleReceivedRegisterSessionCommand env protocolVersion optionFlag
      socket = .error fault) : fault ≠ .messageOverrun := by
  rw [handleReceivedRegisterSessionCommand] at h
  split at h
  · split at h
    · cases h
    · split at h
      · cases h
      · split at h
        · rename_i hregister
          cases h
          exact registerSession_fault hregister
        · cases h
  · cases h

theorem handleTcpCommand_replied_iff (cfg : Config) (env : Environment) (buffer : Message)
    (attributes : IdentityAttributes) (socket : Int) (originatorAddress : SockaddrIn)
    (st : StackState) :
    WritesWithin (Replied buffer) (st.handleTcpCommand cfg env attributes socket
        (createEncapsulationStructure buffer).2 originatorAddress) ↔
      commandFails cfg env (createEncapsulationStructure buffer).2 st = false := by
  have hother (h : (createEncapsulationStructure buffer).2.commandCode ≠
        EncapsulationCommand.sendRequestReplyData ∧
      (createEncapsulationStructure buffer).2.commandCode ≠ EncapsulationCommand.sendUnitData) :
      commandFails cfg env (createEncapsulationStructure buffer).2 st = false := by
    simp only [commandFails, h.1, h.2, decide_false, Bool.false_and, Bool.or_false,
      Bool.and_false]
  rw [handleTcpCommand]
  split
  · rename_i hcommand
    exact iff_of_true (.of_silent EipStatus.noConfusion) (hother (by rw [hcommand]; decide))
  · split
    · rename_i hcommand
      exact iff_of_true (fun _ => handleReceivedListServicesCommand_wellFormed buffer)
        (hother (by rw [hcommand]; decide))
    · split
      · rename_i hcommand
        exact iff_of_true (fun _ => encapsulateListIdentity_wellFormed cfg attributes buffer)
          (hother (by rw [hcommand]; decide))
      · split
        · rename_i hcommand
          exact iff_of_true (fun _ => handleReceivedListInterfacesCommand_wellFormed buffer)
            (hother (by rw [hcommand]; decide))
        · split
          · rename_i hcommand
            refine iff_of_true ?_ (hother (by rw [hcommand]; decide))
            dsimp only
            cases hregister : st.handleReceivedRegisterSessionCommand env _ _ socket with
            | error fault => exact registerSessionCommand_fault hregister
            | ok answer => exact fun _ => encapsulateRegisterSession_wellFormed buffer _ _
          · split
            · rename_i hcommand
              exact iff_of_true (unregisterSession_replied buffer st)
                (hother (by rw [hcommand]; decide))
            · split
              · rename_i hcommand
                have hunit : EncapsulationCommand.sendRequestReplyData ≠
                  EncapsulationCommand.sendUnitData := by decide
                refine (sendRequestResponseData_replied_iff buffer originatorAddress).trans ?_
                simp only [commandFails, hcommand, hunit, decide_true, decide_false,
                  Bool.true_and, Bool.false_and, Bool.or_false]
              · split
                · rename_i hcommand
                  have hrequest : EncapsulationCommand.sendUnitData ≠
                    EncapsulationCommand.sendRequestReplyData := by decide
                  refine (sendUnitData_replied_iff buffer originatorAddress).trans ?_
                  simp only [commandFails, hcommand, hrequest, decide_true, decide_false,
                    Bool.true_and, Bool.false_and, Bool.false_or]
                · rename_i hrequest hunit
                  exact iff_of_true (fun _ => errorReply_wellFormed buffer _)
                    (hother ⟨hrequest, hunit⟩)

theorem handleTcp_wellFormed_iff (cfg : Config) (env : Environment)
    (attributes : IdentityAttributes) (socket : Int) (originatorAddress : SockaddrIn)
    (buffer : Message) (st : StackState) :
    WritesWithin (fun handled => handled.status = .okSend →
        WellFormedReply buffer handled.outgoingMessage)
        (st.handleReceivedExplictTcpData cfg env attributes socket buffer originatorAddress) ↔
      failsReply cfg env buffer st = false := by
  have hreplied := handleTcpCommand_replied_iff cfg env buffer attributes socket
    originatorAddress st
  simp only [handleReceivedExplictTcpData, failsReply]
  generalize createEncapsulationStructure buffer = parsed at hreplied ⊢
  obtain ⟨remainingBytes, encapsulationData⟩ := parsed
  dsimp only at hreplied ⊢
  by_cases hfragment : remainingBytes < 0
  · rw [if_pos hfragment, decide_eq_false (Int.not_le.mpr hfragment)]
    exact iff_of_true (fun hsend => absurd hsend EipStatus.noConfusion) rfl
  · by_cases hoptions : encapsulationData.options ≠ encapsulationHeaderOptionsFlag
    · rw [if_neg hfragment, if_pos hoptions, decide_eq_false hoptions, Bool.and_false]
      exact iff_of_true (fun hsend => absurd hsend EipStatus.noConfusion) rfl
    · rw [if_neg hfragment, if_neg hoptions, decide_eq_true (Int.not_lt.mp hfragment),
        decide_eq_true (not_not.mp hoptions), Bool.true_and, Bool.true_and, ← hreplied]
      generalize st.handleTcpCommand cfg env attributes socket encapsulationData
        originatorAddress = result
      cases result with
      | error fault => rfl
      | ok answer => rfl

theorem handleUdpCommand_replied (cfg : Config) (attributes : IdentityAttributes)
    (unicast : Bool) (buffer : Message) :
    Replied buffer (handleUdpCommand cfg attributes unicast
        (createEncapsulationStructure buffer).2) ↔
      (createEncapsulationStructure buffer).2.commandCode ∈ [EncapsulationCommand.listServices,
        EncapsulationCommand.listIdentity, EncapsulationCommand.listInterfaces] := by
  simp only [handleUdpCommand, List.mem_cons, List.not_mem_nil, or_false]
  split
  · rename_i hcommand
    exact iff_of_true (fun _ => handleReceivedListServicesCommand_wellFormed buffer)
      (.inl hcommand)
  · rename_i hservices
    split
    · rename_i hcommand
      refine iff_of_true ?_ (.inr (.inl hcommand))
      cases unicast with
      | true => exact fun _ => encapsulateListIdentity_wellFormed cfg attributes buffer
      | false => exact .of_silent EipStatus.noConfusion
    · rename_i hidentity
      split
      · rename_i hcommand
        exact iff_of_true (fun _ => handleReceivedListInterfacesCommand_wellFormed buffer)
          (.inr (.inr hcommand))
      · rename_i hinterfaces
        refine iff_of_false (fun hreplied => ?_) ?_
        · exact not_wellFormedReply_of_unused rfl (hreplied rfl)
        · rintro (h | h | h)
          · exact hservices h
          · exact hidentity h
          · exact hinterfaces h

theorem handleUdp_wellFormed_iff (cfg : Config) (attributes : IdentityAttributes)
    (unicast : Bool) (buffer : Message) :
    ((handleReceivedExplictUdpData cfg attributes unicast buffer).status = .okSend →
      WellFormedReply buffer
        (handleReceivedExplictUdpData cfg attributes unicast buffer).outgoingMessage) ↔
      answeredOverUdp buffer = true := by
  have hreplied := handleUdpCommand_replied cfg attributes unicast buffer
  rw [answeredOverUdp]
  simp only [handleReceivedExplictUdpData, Bool.or_eq_true, decide_eq_true_eq]
  generalize createEncapsulationStructure buffer = parsed at hreplied ⊢
  obtain ⟨remainingBytes, encapsulationData⟩ := parsed
  dsimp only at hreplied ⊢
  split
  · rename_i hfragment
    exact iff_of_true (fun hsend => absurd hsend EipStatus.noConfusion) (.inl (.inl hfragment))
  · rename_i hfragment
    split
    · rename_i hoptions
      exact iff_of_true (fun hsend => absurd hsend EipStatus.noConfusion)
        (.inl (.inr hoptions))
    · rename_i hoptions
      have hwhole : ¬(remainingBytes < 0 ∨
          encapsulationData.options ≠ encapsulationHeaderOptionsFlag) :=
        not_or.mpr ⟨hfragment, hoptions⟩
      rw [or_iff_right hwhole]
      exact hreplied

/-- Which frames and datagrams get a well-formed reply whenever one is to be sent. -/
theorem reply_wellFormed_iff (cfg : Config) (env : Environment)
    (attributes : IdentityAttributes) (socket : Int) (originatorAddress : SockaddrIn)
    (unicast : Bool) (buffer : Message) (st : StackState) :
    (WritesWithin (fun handled => handled.status = .okSend →
        WellFormedReply buffer handled.outgoingMessage)
        (st.handleReceivedExplictTcpData cfg env attributes socket buffer originatorAddress) ↔
      failsReply cfg env buffer st = false) ∧
    (((handleReceivedExplictUdpData cfg attributes unicast buffer).status = .okSend →
      WellFormedReply buffer
        (handleReceivedExplictUdpData cfg attributes unicast buffer).outgoingMessage) ↔
      answeredOverUdp buffer = true) :=
  ⟨handleTcp_wellFormed_iff cfg env attributes socket originatorAddress buffer st,
    handleUdp_wellFormed_iff cfg attributes unicast buffer⟩

theorem registerSessionCommand_step {protocolVersion optionFlag : UInt16} {socket : Int}
    {answer : UInt32 × UInt32}
    (h : st.handleReceivedRegisterSessionCommand env protocolVersion optionFlag socket =
      .ok (answer, st')) : st' = st ∨ st.registerSession env socket = .ok st' := by
  rw [handleReceivedRegisterSessionCommand] at h
  split at h
  · split at h
    · cases h
      exact .inl rfl
    · split at h
      · cases h
        exact .inl rfl
      · split at h
        · cases h
        · rename_i hregister
          cases h
          exact .inr hregister
  · cases h
    exact .inl rfl

theorem unregisterSessionCommand_step {receiveData : EncapsulationData}
    {result : EipStatus × ENIPMessage}
    (h : st.handleReceivedUnregisterSessionCommand cfg receiveData = .ok (result, st')) :
    st' = st ∨ st.unregisterSession cfg receiveData.sessionHandle = .ok st' := by
  rw [handleReceivedUnregisterSessionCommand] at h
  split at h
  · split at h
    · cases h
    · rename_i hunregister
      cases h
      exact .inr hunregister
  · cases h
    exact .inl rfl

theorem sendRequestResponseDataCommand_step {receiveData : EncapsulationData}
    {originatorAddress : SockaddrIn} {result : EipStatus × ENIPMessage}
    (h : st.handleReceivedSendRequestResponseDataCommand cfg env receiveData originatorAddress =
      .ok (result, st')) :
    st' = st ∨ step cfg (env, .sendRRData receiveData.sessionHandle originatorAddress
      (packet receiveData)) st = .ok st' := by
  rw [handleReceivedSendRequestResponseDataCommand] at h
  split at h
  · cases h
    exact .inl rfl
  · split at h
    · rename_i hsession
      right
      rw [step, if_pos hsession]
      dsimp only at h
      split at h
      · cases h
      · rename_i hcall
        rw [hcall]
        split at h <;> cases h
        rfl
      · rename_i hcall
        rw [hcall]
        split at h <;> cases h <;> rfl
    · cases h
      exact .inl rfl

theorem sendUnitDataCommand_step {receiveData : EncapsulationData}
    {originatorAddress : SockaddrIn} {result : EipStatus × ENIPMessage}
    (h : st.handleReceivedSendUnitDataCommand cfg env receiveData originatorAddress =
      .ok (result, st')) :
    st' = st ∨ step cfg (env, .sendUnitData receiveData.sessionHandle originatorAddress
      (packet receiveData)) st = .ok st' := by
  rw [handleReceivedSendUnitDataCommand] at h
  split at h
  · cases h
    exact .inl rfl
  · split at h
    · rename_i hsession
      right
      rw [step, if_pos hsession]
      dsimp only at h
      split at h
      · cases h
      · rename_i hcall
        cases h
        rw [hcall]
      · rename_i hcall
        rw [hcall]
        split at h <;> cases h
        rfl
    · cases h
      exact .inl rfl

namespace SampleEncapsulation

/-- A frame with a sender context and no options. -/
def frame (command : UInt16) (sessionHandle : UInt32) (data : List UInt8) : Message :=
  intBytes command ++ intBytes (UInt16.ofNat data.length) ++ dintBytes sessionHandle ++
    dintBytes 0 ++ [1, 2, 3, 4, 5, 6, 7, 8] ++ dintBytes 0 ++ data

/-- The command specific data of a connected message on the first connection. -/
def connected (sequence : UInt16) (message : Message) : List UInt8 :=
  dintBytes 0 ++ intBytes 0 ++ intBytes 2 ++ intBytes ItemId.connectionAddress ++ intBytes 4 ++
    dintBytes 305397779 ++ intBytes ItemId.connectedDataItem ++
    intBytes (UInt16.ofNat (message.length + 2)) ++ intBytes sequence ++ message

/-- A request with a path that cannot be decoded, on the first session. -/
def unitData (sequence : UInt16) : Message :=
  frame EncapsulationCommand.sendUnitData 1 (connected sequence [0x0E, 1, 0xFF, 0])

/-- Eighty times the vendor id of the identity, as `GetAttributeList` answers. -/
def vendorIds : MessageRouterResponse :=
  { replyService := 0x83
    message := intBytes 80 ++
      (List.replicate 80 (intBytes 1 ++ intBytes 0 ++ intBytes 1)).flatten }

/-- The unconnected request for them. -/
def vendorIdsRequest : Message :=
  frame EncapsulationCommand.sendRequestReplyData 1
    (dintBytes 0 ++ intBytes 0 ++ SampleApplication.unconnected
      ([0x03, 2, 0x20, 1, 0x24, 1] ++ intBytes 80 ++ (List.replicate 80 (intBytes 1)).flatten))

def attributes : IdentityAttributes :=
  { status := 0, serialNumber := 1, productName := [79], state := 0, name_length := by decide }

end SampleEncapsulation

open SampleApplication SampleEncapsulation in
/-- On a connection that was just opened, the sequence number zero counts as repeated:
a message without a single byte is to be sent. A list of eighty vendor ids does not fit
into the message. A session cannot be registered over UDP, and the answer is empty. -/
theorem reply_without_header_sample :
    ∃ st handled st', Reachable config st ∧
      st.handleReceivedExplictTcpData config (environment 0 20) attributes 5 (unitData 0)
        originator = .ok (handled, st') ∧
      handled.status = .okSend ∧ handled.outgoingMessage.usedMessageLength = 0 ∧
      ¬WellFormedReply (unitData 0) handled.outgoingMessage ∧
      st.handleReceivedExplictTcpData config
          { environment 0 20 with objectResponse := fun _ _ => some vendorIds } attributes 5
          vendorIdsRequest originator = .error .messageOverrun ∧
      ∀ unicast,
        (handleReceivedExplictUdpData config attributes unicast
          (frame EncapsulationCommand.registerSession 0 [1, 0, 0, 0])).status = .okSend ∧
        ¬WellFormedReply (frame EncapsulationCommand.registerSession 0 [1, 0, 0, 0])
          (handleReceivedExplictUdpData config attributes unicast
            (frame EncapsulationCommand.registerSession 0 [1, 0, 0, 0])).outgoingMessage := by
  obtain ⟨st, hreachable, hst⟩ := reachable_of_ends config [request (class3 1 1)]
    (fun st =>
      (returns (st.handleReceivedExplictTcpData config (environment 0 20) attributes 5
          (unitData 0) originator)
        fun answer => decide (answer.1.status = .okSend ∧
          answer.1.outgoingMessage.usedMessageLength = 0)) &&
      (match st.handleReceivedExplictTcpData config
          { environment 0 20 with objectResponse := fun _ _ => some vendorIds } attributes 5
          vendorIdsRequest originator with
        | .error fault => fault = .messageOverrun
        | .ok _ => false))
    (by decide +kernel)
  rw [Bool.and_eq_true] at hst
  obtain ⟨hunanswered, hlist⟩ := hst
  obtain ⟨⟨handled, st'⟩, hcall, hanswer⟩ := returns_iff.mp hunanswered
  obtain ⟨hstatus, hused⟩ := of_decide_eq_true hanswer
  refine ⟨st, handled, st', hreachable, hcall, hstatus, hused,
    not_wellFormedReply_of_unused hused, ?_, fun unicast => ?_⟩
  · split at hlist
    · rename_i hoverrun
      rw [hoverrun, of_decide_eq_true hlist]
    · cases hlist
  · cases unicast with
    | false => exact ⟨by decide, not_wellFormedReply_of_unused (by decide)⟩
    | true => exact ⟨by decide, not_wellFormedReply_of_unused (by decide)⟩

end StackState

end Opener
