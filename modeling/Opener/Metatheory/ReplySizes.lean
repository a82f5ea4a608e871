import Opener.Metatheory.CommonPacketFormat
import Opener.Metatheory.StoredReplies

/-!
The size of a reply: the response of a service and the bytes around it, against the
message that both are written to. What the connection manager answers to an open or a
close is short; the response of another object may be too long.
-/

namespace Opener

open CommonPacketFormatData

/-- A response of the connection manager. -/
def MessageRouterResponse.Brief (response : MessageRouterResponse) : Prop :=
  2 * response.additionalStatus.length + response.message.length ≤ 30

theorem flatMap_intBytes_length (words : List UInt16) :
    (words.flatMap intBytes).length = 2 * words.length := by
  induction words with
  | nil => rfl
  | cons word words ih =>
      rw [List.flatMap_cons, List.length_append, ih, List.length_cons]
      change 2 + _ = _
      omega

theorem responseBytes_length (response : MessageRouterResponse) :
    (responseBytes response).length =
      4 + 2 * response.additionalStatus.length + response.message.length := by
  simp only [responseBytes, sintBytes, List.length_append, flatMap_intBytes_length,
    List.length_cons, List.length_nil]

theorem dataItemBytes_length (response : MessageRouterResponse) (cpf : CommonPacketFormatData) :
    (dataItemBytes response cpf).length ≤
      10 + 2 * response.additionalStatus.length + response.message.length := by
  simp only [dataItemBytes]
  split
  · simp only [intBytes, List.length_append, responseBytes_length, List.length_cons,
      List.length_nil]
    omega
  · split
    · simp only [intBytes, List.length_append, responseBytes_length, List.length_cons,
        List.length_nil]
      omega
    · exact Nat.zero_le _

theorem addressItemBytes_length {cpf : CommonPacketFormatData} {bytes : List UInt8}
    (h : addressItemBytes cpf = some bytes) : bytes.length ≤ 12 := by
  rw [addressItemBytes] at h
  split at h
  · cases h
    decide
  · split at h
    · cases h
      exact Nat.le_of_ble_eq_true rfl
    · split at h
      · cases h
        exact Nat.le_of_ble_eq_true rfl
      · cases h

theorem socketAddressInfoOfType_length (cpf : CommonPacketFormatData) (type : UInt16) :
    (socketAddressInfoOfType cpf type).length ≤ 20 := by
  rw [socketAddressInfoOfType]
  split
  · exact Nat.zero_le _
  · exact Nat.le_of_ble_eq_true rfl

/-- A short response fits into a message, whatever stands around it. -/
theorem assembleLinearMessage_brief (cpf : CommonPacketFormatData)
    {response : MessageRouterResponse} (h : response.Brief) :
    encapsulationHeaderLength + (cpf.assembleLinearMessage response).length ≤
      ethernetBufferSize := by
  rw [MessageRouterResponse.Brief] at h
  rw [encapsulationHeaderLength, ethernetBufferSize]
  have hdata := dataItemBytes_length response cpf
  have hconsuming := socketAddressInfoOfType_length cpf ItemId.socketAddressInfoOriginatorToTarget
  have hproducing := socketAddressInfoOfType_length cpf ItemId.socketAddressInfoTargetToOriginator
  have hstart : (dintBytes 0 ++ intBytes 0 ++ intBytes cpf.itemCount).length = 8 := rfl
  rw [assembleLinearMessage]
  cases haddress : addressItemBytes cpf with
  | none =>
      dsimp only
      omega
  | some bytes =>
      have hbytes := addressItemBytes_length haddress
      dsimp only
      simp only [List.length_append] at hstart ⊢
      omega

namespace CommonPacketFormatData

/-- A packet that is answered: unconnected, or over a class 3 connection. -/
def Delivered (cpf : CommonPacketFormatData) : Prop :=
  (cpf.addressItem.typeId = ItemId.nullAddress ∧
      cpf.dataItem.typeId = ItemId.unconnectedDataItem) ∨
    (cpf.addressItem.typeId = ItemId.connectionAddress ∧
      cpf.dataItem.typeId = ItemId.connectedDataItem)

/-- The bytes of a reply around the response message: the encapsulation header, interface
handle and timeout, the items and the message router header. -/
def replyOverhead (cpf : CommonPacketFormatData) : Nat :=
  (if cpf.dataItem.typeId = ItemId.connectedDataItem then 50 else 44) +
    (socketAddressInfoOfType cpf ItemId.socketAddressInfoOriginatorToTarget).length +
      (socketAddressInfoOfType cpf ItemId.socketAddressInfoTargetToOriginator).length

theorem assembleLinearMessage_delivered {cpf : CommonPacketFormatData} (h : cpf.Delivered)
    (response : MessageRouterResponse) :
    encapsulationHeaderLength + (cpf.assembleLinearMessage response).length =
      cpf.replyOverhead + 2 * response.additionalStatus.length + response.message.length := by
  have hresponse := responseBytes_length response
  rw [encapsulationHeaderLength, assembleLinearMessage, addressItemBytes, replyOverhead]
  obtain ⟨haddress, hdata⟩ | ⟨haddress, hdata⟩ := h
  · have hother : ItemId.unconnectedDataItem ≠ ItemId.connectedDataItem := by decide
    rw [if_pos haddress, hdata, if_neg hother]
    simp only [dataItemBytes, hdata, if_neg hother, if_true]
    simp only [List.length_append, hresponse, intBytes, dintBytes, List.length_cons,
      List.length_nil]
    omega
  · rw [haddress, if_neg (by decide), if_pos rfl, hdata, if_pos rfl]
    simp only [dataItemBytes, hdata, if_true]
    simp only [List.length_append, hresponse, intBytes, dintBytes, List.length_cons,
      List.length_nil]
    omega

end CommonPacketFormatData

namespace StackState

open LinkedCells

variable {cfg : Config} {env : Environment} {st st' : StackState}

theorem assembleForwardOpenResponse_brief (c : CipConnectionObject) (status : OpenStatus)
    (st : StackState) : (st.assembleForwardOpenResponse c status).1.Brief := by
  simp only [assembleForwardOpenResponse]
  split
  · exact Nat.le_of_ble_eq_true rfl
  · dsimp only [MessageRouterResponse.Brief]
    split
    · exact Nat.le_of_ble_eq_true rfl
    · split
      · exact Nat.le_of_ble_eq_true rfl
      · split <;> exact Nat.le_of_ble_eq_true rfl

theorem forwardOpenRoutine_brief {isLarge : Bool} {request : MessageRouterRequest}
    {originatorAddress : SockaddrIn} {session : UInt32} {response : MessageRouterResponse}
    (h : st.forwardOpenRoutine cfg env isLarge request originatorAddress session =
      .ok (response, st')) : response.Brief := by
  rw [forwardOpenRoutine_eq] at h
  split at h
  · cases h
  · rename_i status st₁ _
    rw [Except.ok.injEq, refuse] at h
    have hbrief := assembleForwardOpenResponse_brief st₁.dummy status st₁
    rw [h] at hbrief
    exact hbrief
  · split at h
    · cases h
    · rename_i st₂ _
      obtain ⟨c, status, hanswer, -⟩ := answerOpenConnection_response h
      have hbrief := assembleForwardOpenResponse_brief c status st₂
      rw [hanswer] at hbrief
      exact hbrief

theorem assembleForwardCloseResponse_brief (serialNumber vendorId : UInt16)
    (originatorSerialNumber : UInt32) (service remainingPathSize : UInt8) (extended : UInt16)
    (st : StackState) :
    (st.assembleForwardCloseResponse serialNumber vendorId originatorSerialNumber service
      remainingPathSize extended).1.Brief := by
  simp only [assembleForwardCloseResponse]
  split
  · exact Nat.le_of_ble_eq_true rfl
  · split
    · exact Nat.le_of_ble_eq_true rfl
    · exact Nat.le_of_ble_eq_true rfl

theorem forwardClose_brief {request : MessageRouterRequest} {originatorAddress : SockaddrIn}
    {response : MessageRouterResponse}
    (h : st.forwardClose cfg request originatorAddress = .ok (response, st')) :
    response.Brief := by
  have hanswer : ∀ {serialNumber vendorId : UInt16} {originatorSerialNumber : UInt32}
      {remaining : UInt8} {extended : UInt16} {s : StackState},
      s.assembleForwardCloseResponse serialNumber vendorId originatorSerialNumber
        request.service remaining extended = (response, st') → response.Brief := by
    intro serialNumber vendorId originatorSerialNumber remaining extended s hs
    have hbrief := assembleForwardCloseResponse_brief serialNumber vendorId
      originatorSerialNumber request.service remaining extended s
    rw [hs] at hbrief
    exact hbrief
  simp only [forwardClose] at h
  split at h
  · exact hanswer (Except.ok.inj h)
  · split at h
    · split at h
      · cases h
      · exact hanswer (Except.ok.inj h)
    · exact hanswer (Except.ok.inj h)

/-- The response of a service that is not one of the connection manager's. -/
def objectAnswer (env : Environment) (data : Message) (dataLength : UInt16) :
    Option MessageRouterResponse :=
  match createMessageRouterRequestStructure data dataLength with
  | .error _ => none
  | .ok (epath, request) =>
      if (epath.classId.toUInt32 = connectionManagerClassCode ∧ epath.instanceNumber = 1) ∧
          (request.service = 0x54 ∨ request.service = 0x5B ∨ request.service = 0x4E) then none
      else env.objectResponse data dataLength

theorem notifyMessageRouter_of_objectAnswer {data : Message} {dataLength : UInt16}
    {response : MessageRouterResponse}
    (h : objectAnswer env data dataLength = some response) (originatorAddress : SockaddrIn)
    (session : UInt32) (st : StackState) :
    st.notifyMessageRouter cfg env data dataLength originatorAddress session =
      .ok (some response, st) := by
  rw [objectAnswer] at h
  simp only [notifyMessageRouter]
  generalize createMessageRouterRequestStructure data dataLength = parsed at h ⊢
  cases parsed with
  | error generalStatus => cases h
  | ok parsed =>
      obtain ⟨epath, request⟩ := parsed
      dsimp only at h ⊢
      split at h
      · cases h
      · rename_i hother
        rw [h]
        split
        · rename_i hmanager
          have hservice := not_and.mp hother hmanager
          rw [not_or, not_or] at hservice
          rw [if_neg hservice.1, if_neg hservice.2.1, if_neg hservice.2.2]
        · rfl

/-- The message router answers shortly or with what another object says. -/
theorem notifyMessageRouter_answers {data : Message} {dataLength : UInt16}
    {originatorAddress : SockaddrIn} {session : UInt32} {response : MessageRouterResponse}
    (h : st.notifyMessageRouter cfg env data dataLength originatorAddress session =
      .ok (some response, st')) :
    response.Brief ∨ (objectAnswer env data dataLength = some response ∧ st' = st) := by
  rw [objectAnswer]
  simp only [notifyMessageRouter] at h
  generalize createMessageRouterRequestStructure data dataLength = parsed at h ⊢
  cases parsed with
  | error generalStatus =>
      cases h
      exact .inl (Nat.zero_le _)
  | ok parsed =>
      obtain ⟨epath, request⟩ := parsed
      dsimp only at h ⊢
      split at h
      · rename_i hmanager
        split at h
        · split at h
          · cases h
          · rename_i hopen
            cases h
            exact .inl (forwardOpenRoutine_brief hopen)
        · rename_i hservice
          split at h
          · split at h
            · cases h
            · rename_i hopen
              cases h
              exact .inl (forwardOpenRoutine_brief hopen)
          · rename_i hlarge
            split at h
            · split at h
              · cases h
              · rename_i hclose
                cases h
                exact .inl (forwardClose_brief hclose)
            · rename_i hclose
              have hother : ¬((epath.classId.toUInt32 = connectionManagerClassCode ∧
                  epath.instanceNumber = 1) ∧
                  (request.service = 0x54 ∨ request.service = 0x5B ∨ request.service = 0x4E)) :=
                fun hall => hall.2.elim hservice fun hrest => hrest.elim hlarge hclose
              rw [if_neg hother]
              obtain ⟨hresponse, rfl⟩ := Prod.mk.inj (Except.ok.inj h)
              exact .inr ⟨hresponse, rfl⟩
      · rename_i hmanager
        rw [if_neg fun hall => hmanager hall.1]
        obtain ⟨hresponse, rfl⟩ := Prod.mk.inj (Except.ok.inj h)
        exact .inr ⟨hresponse, rfl⟩

/-- The answer of a service is too long for the message around the items. -/
def answerOverruns (env : Environment) (cpf : CommonPacketFormatData) (data : Message)
    (dataLength : UInt16) : Bool :=
  (objectAnswer env data dataLength).any fun response =>
    ethernetBufferSize < cpf.replyOverhead + 2 * response.additionalStatus.length +
      response.message.length

def unconnectedOverruns (env : Environment) (data : Message) (st : StackState) : Bool :=
  let (status, cpf) :=
    CommonPacketFormatData.createCommonPacketFormatStructure data data.length st.cpf
  status ≠ .error && cpf.addressItem.typeId = ItemId.nullAddress &&
    cpf.dataItem.typeId = ItemId.unconnectedDataItem &&
    answerOverruns env cpf cpf.dataItem.data cpf.dataItem.length

/-- A new message is answered too long, or a repeated one has no reply stored that could
be sent. -/
def connectedFails (cfg : Config) (env : Environment) (data : Message) (st : StackState) :
    Bool :=
  match connectedEntry cfg data st with
  | some (_, buffer, length, st₁) => answerOverruns env st₁.cpf buffer length
  | none => (st.repeatedConnection cfg data).any fun r =>
      (st.conn r).lastReplySent = [] ||
        ethernetBufferSize < encapsulationHeaderLength + (st.conn r).lastReplySent.length

/-- The call does not write behind the message, and what it answers has the property. -/
abbrev WritesWithin {α : Type} (p : α → Prop) (result : Except Fault (α × StackState)) : Prop :=
  Outcome (· ≠ .messageOverrun) (fun answer => p answer.1) result

/-- The payload fits into a message behind the encapsulation header. -/
def FitsMessage (reply : Option (List UInt8)) : Prop :=
  ∀ payload ∈ reply, encapsulationHeaderLength + payload.length ≤ ethernetBufferSize

theorem fitsMessage_some (payload : List UInt8) :
    FitsMessage (some payload) ↔
      encapsulationHeaderLength + payload.length ≤ ethernetBufferSize :=
  ⟨fun h => h payload rfl, fun h _ hpayload => Option.some.inj hpayload ▸ h⟩

theorem fitsMessage_none : FitsMessage none := fun _ hpayload => nomatch hpayload

/-- The items of the packet stand around the response of a service as the request left
them, but for the connection id, which has its length. -/
theorem notifyMessageRouter_fits_iff (cfg : Config) (env : Environment) (st : StackState)
    (hdelivered : st.cpf.Delivered) (data : Message) (dataLength : UInt16)
    (originatorAddress : SockaddrIn) (session : UInt32)
    (payload : MessageRouterResponse → StackState → List UInt8)
    (hbrief : ∀ response st', response.Brief →
      encapsulationHeaderLength + (payload response st').length ≤ ethernetBufferSize)
    (hpayload : ∀ response, encapsulationHeaderLength + (payload response st).length =
      st.cpf.replyOverhead + 2 * response.additionalStatus.length + response.message.length) :
    Outcome (· ≠ .messageOverrun)
        (fun answer => FitsMessage (answer.1.map fun response => payload response answer.2))
        (st.notifyMessageRouter cfg env data dataLength originatorAddress session) ↔
      answerOverruns env st.cpf data dataLength = false := by
  have hrouter := notifyMessageRouter_reserved cfg env data dataLength originatorAddress session st
  rw [answerOverruns, ← Bool.not_eq_true, Option.any_eq_true]
  simp only [decide_eq_true_eq]
  cases hcall : st.notifyMessageRouter cfg env data dataLength originatorAddress session with
  | error fault =>
      rw [hcall] at hrouter
      refine iff_of_true hrouter.2 ?_
      rintro ⟨response, hanswer, -⟩
      rw [notifyMessageRouter_of_objectAnswer hanswer] at hcall
      cases hcall
  | ok answer =>
      obtain ⟨response, st₁⟩ := answer
      constructor
      · rintro hfits ⟨response', hanswer, hlong⟩
        rw [notifyMessageRouter_of_objectAnswer hanswer] at hcall
        cases hcall
        have hfits := (fitsMessage_some _).mp hfits
        rw [hpayload] at hfits
        exact Nat.not_lt.mpr hfits hlong
      · intro hfits
        cases response with
        | none => exact fitsMessage_none
        | some response =>
            refine (fitsMessage_some _).mpr ?_
            obtain hbrief' | ⟨hanswer, rfl⟩ := notifyMessageRouter_answers hcall
            · exact hbrief response st₁ hbrief'
            · rw [hpayload]
              exact Nat.not_lt.mp fun hlong => hfits ⟨response, hanswer, hlong⟩

/-- An unconnected message. -/
theorem notifyCommonPacketFormat_fits_iff (cfg : Config) (env : Environment) (data : Message)
    (originatorAddress : SockaddrIn) (session : UInt32) (st : StackState) :
    WritesWithin FitsMessage
        (st.notifyCommonPacketFormat cfg env data originatorAddress session) ↔
      unconnectedOverruns env data st = false := by
  simp only [notifyCommonPacketFormat, unconnectedOverruns]
  generalize CommonPacketFormatData.createCommonPacketFormatStructure data data.length st.cpf =
    parsed
  obtain ⟨status, cpf⟩ := parsed
  dsimp only
  by_cases hstatus : status = .error
  · rw [if_pos hstatus]
    exact iff_of_true fitsMessage_none (by simp [hstatus])
  · by_cases htypes : cpf.addressItem.typeId = ItemId.nullAddress ∧
        cpf.dataItem.typeId = ItemId.unconnectedDataItem
    · have hfits := notifyMessageRouter_fits_iff cfg env { st with cpf := cpf }
        (.inl htypes) cpf.dataItem.data cpf.dataItem.length originatorAddress session
        (fun response st' => st'.cpf.assembleLinearMessage response)
        (fun _ _ => assembleLinearMessage_brief _)
        (assembleLinearMessage_delivered (.inl htypes))
      rw [if_neg hstatus, if_pos htypes]
      simp only [hstatus, htypes, ne_eq, not_false_eq_true, decide_true, Bool.true_and]
      rw [← hfits]
      generalize notifyMessageRouter cfg env _ _ originatorAddress session _ = result
      cases result with
      | error fault => rfl
      | ok answer => rfl
    · rw [if_neg hstatus, if_neg htypes]
      refine iff_of_true fitsMessage_none ?_
      rw [← Bool.not_eq_true]
      simp only [Bool.and_eq_true, decide_eq_true_eq]
      exact fun hall => htypes ⟨hall.1.1.2, hall.1.2⟩

/-- A connected message that is new. -/
theorem notifyConnected_fits_iff {data : Message} {r : ConnRef} {buffer : Message}
    {length : UInt16} {st₁ : StackState}
    (hentry : connectedEntry cfg data st = some (r, buffer, length, st₁))
    (originatorAddress : SockaddrIn) (session : UInt32) :
    WritesWithin FitsMessage
        (st.notifyConnectedCommonPacketFormat cfg env data originatorAddress session) ↔
      connectedFails cfg env data st = false := by
  obtain ⟨-, htypes, hcall⟩ := notifyConnected_of_some hentry env originatorAddress session
  have hfits := notifyMessageRouter_fits_iff cfg env st₁ (.inr htypes) buffer length
    originatorAddress session
    (fun response st' => CommonPacketFormatData.assembleLinearMessage response
      { st'.cpf with addressItem := { st'.cpf.addressItem with
        connectionIdentifier := (st'.conn r).cipProducedConnectionId } })
    (fun _ _ => assembleLinearMessage_brief _)
    (assembleLinearMessage_delivered (.inr htypes))
  rw [hcall, connectedFails, hentry]
  dsimp only
  rw [← hfits]
  generalize notifyMessageRouter cfg env buffer length originatorAddress session st₁ = result
  cases result with
  | error fault => rfl
  | ok answer =>
      obtain ⟨response, st₂⟩ := answer
      cases response with
      | none => rfl
      | some response => rfl

end StackState

end Opener
