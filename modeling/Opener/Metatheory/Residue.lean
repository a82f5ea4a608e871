import Opener.Core.SampleApplication
import Opener.Metatheory.Consuming

/-!
What an earlier packet leaves in the global packet structure. The parser writes the
identifier for address items of four bytes or more, the sequence number for those of
eight, and the data item for packets of two items or more; what it does not write is
what was there before. A received packet is consumed without regard to that exactly
when it brings everything that is read for it, or when nothing comes of it anyway.
-/

namespace Opener

open Message (word)

namespace CommonPacketFormatData

/-- The address item after parsing. -/
def readAddress (data : Message) (old : AddressItem) : AddressItem :=
  if 1 ≤ data.word 0 then
    { typeId := data.word 2
      length := data.word 4
      connectionIdentifier :=
        if 4 ≤ data.word 4 then (Message.getUdint (data.drop 6)).1 else old.connectionIdentifier
      sequenceNumber :=
        if data.word 4 = 8 then (Message.getUdint (data.drop 10)).1 else old.sequenceNumber }
  else old

/-- The data item after parsing. -/
def readData (data : Message) (old : DataItem) : DataItem :=
  if 2 ≤ data.word 0 then
    { typeId := data.word (addressItemEnd (data.word 4))
      length := data.word (addressItemEnd (data.word 4) + 2)
      data := data.drop (addressItemEnd (data.word 4) + 4) }
  else old

/-- Whether a packet is accepted does not depend on the structure. -/
def parseStatus (data : Message) : EipStatus :=
  (createCommonPacketFormatStructure data data.length {}).1

theorem parseAddressItem_reads (data : Message) (old : CommonPacketFormatData) :
    (parseAddressItem (parseStart data old)).cpf.itemCount = data.word 0 ∧
      (parseAddressItem (parseStart data old)).cpf.addressItem =
        readAddress data old.addressItem ∧
      (parseAddressItem (parseStart data old)).cpf.dataItem = old.dataItem := by
  by_cases hone : 1 ≤ data.word 0
  · have hstart : (parseStart data old).cpf.itemCount ≥ 1 := hone
    simp only [parseAddressItem, if_pos hstart, readAddress, if_pos hone]
    have hdata : (parseStart data old).data = data.drop 2 := rfl
    rw [hdata, Message.getUint_drop, Message.getUint_drop]
    dsimp only
    by_cases hfour : data.word 4 ≥ 4
    · simp only [if_pos hfour]
      by_cases height : data.word 4 = 8
      · simp only [if_pos height]
        exact ⟨rfl, by rw [Message.getUdint_drop], rfl⟩
      · simp only [if_neg height]
        exact ⟨rfl, rfl, rfl⟩
    · have height : data.word 4 ≠ 8 := by
        intro hcontra
        rw [hcontra] at hfour
        exact hfour (by decide)
      simp only [if_neg hfour, if_neg height]
      exact ⟨rfl, rfl, rfl⟩
  · have hstart : ¬(parseStart data old).cpf.itemCount ≥ 1 := hone
    rw [parseAddressItem, if_neg hstart, readAddress, if_neg hone]
    exact ⟨rfl, rfl, rfl⟩

theorem parseDataItem_stores (dataLength : Nat) (data : Message)
    (old : CommonPacketFormatData) :
    (parseDataItem dataLength (parseAddressItem (parseStart data old))).2.cpf.addressItem =
        readAddress data old.addressItem ∧
      (parseDataItem dataLength (parseAddressItem (parseStart data old))).2.cpf.dataItem =
        readData data old.dataItem := by
  obtain ⟨hcount, haddress, hdata⟩ := parseAddressItem_reads data old
  by_cases htwo : 2 ≤ data.word 0
  · obtain ⟨item, -, hparse⟩ := parseAddressItem_at data (p := parseStart data old)
      (UInt16.le_trans (by decide) htwo) rfl rfl
    have hreads := parseDataItem_reads dataLength
      (p := parseAddressItem (parseStart data old)) (by rw [hcount]; exact htwo)
      (by rw [hparse]; exact Message.getUint_drop data _) (Message.getUint_drop data _)
    rw [hreads, readData, if_pos htwo]
    split
    · generalize hq : ({ data := _, lengthCount := _, cpf := _ } : Parse) = q
      obtain ⟨-, hframe, hframe', -⟩ := parseAddressInfoItems_frame q
      dsimp only
      rw [hframe, hframe', ← hq]
      exact ⟨haddress, rfl⟩
    · exact ⟨haddress, rfl⟩
  · rw [parseDataItem_skips (by rw [hcount]; exact htwo), readData, if_neg htwo]
    exact ⟨haddress, hdata⟩

theorem createCommonPacketFormatStructure_reads (dataLength : Nat) (data : Message)
    (old : CommonPacketFormatData) :
    (createCommonPacketFormatStructure data dataLength old).2.addressItem =
        readAddress data old.addressItem ∧
      (createCommonPacketFormatStructure data dataLength old).2.dataItem =
        readData data old.dataItem := by
  have hstores := parseDataItem_stores dataLength data old
  rw [createCommonPacketFormatStructure_eq]
  generalize parseDataItem dataLength (parseAddressItem (parseStart data old)) = parsed
    at hstores ⊢
  obtain ⟨fits, p⟩ := parsed
  cases fits with
  | false => exact hstores
  | true =>
      dsimp only
      rw [parseEnd_stored, (markUnset_items _).2.1, (markUnset_items _).2.2]
      exact hstores

theorem createCommonPacketFormatStructure_ok_iff (data : Message)
    (old : CommonPacketFormatData) :
    (createCommonPacketFormatStructure data data.length old).1 = .ok ↔
      parseStatus data = .ok := by
  by_cases htwo : 2 ≤ data.word 0
  · rw [parseStatus, (createCommonPacketFormatStructure_many _ old htwo).1,
      (createCommonPacketFormatStructure_many _ {} htwo).1]
  · rw [parseStatus, createCommonPacketFormatStructure_few _ old htwo,
      createCommonPacketFormatStructure_few _ {} htwo]

theorem createCommonPacketFormatStructure_answers (data : Message) (dataLength : Nat)
    (old : CommonPacketFormatData) :
    (createCommonPacketFormatStructure data dataLength old).1 = .ok ∨
      (createCommonPacketFormatStructure data dataLength old).1 = .error := by
  rw [createCommonPacketFormatStructure_eq]
  generalize parseDataItem dataLength (parseAddressItem (parseStart data old)) = parsed
  obtain ⟨fits, p⟩ := parsed
  cases fits with
  | false => exact .inr rfl
  | true =>
      dsimp only
      rw [parseEnd]
      split
      · exact .inl rfl
      · exact .inr rfl

theorem createCommonPacketFormatStructure_status (data : Message)
    (old : CommonPacketFormatData) :
    (createCommonPacketFormatStructure data data.length old).1 = parseStatus data := by
  have hok := createCommonPacketFormatStructure_ok_iff data old
  rcases createCommonPacketFormatStructure_answers data data.length old with h | h
  · rw [h, hok.mp h]
  · rcases createCommonPacketFormatStructure_answers data data.length {} with h' | h'
    · rw [hok.mpr h'] at h
      cases h
    · rw [h]
      exact h'.symm

end CommonPacketFormatData

open CommonPacketFormatData

namespace CipConnectionObject

theorem seqGt32_add_one (count : UInt32) : seqGt32 (count + 1) count = true := by
  have hone : count + 1 - count = 1 := by
    rw [UInt32.add_comm, UInt32.add_sub_cancel]
  rw [seqGt32, hone]
  rfl

theorem heard_count (sequenceNumber : UInt32) (c : CipConnectionObject) :
    (c.heard sequenceNumber).eipLevelSequenceCountConsuming =
      if c.takesNumber sequenceNumber then sequenceNumber
      else c.eipLevelSequenceCountConsuming := by
  rw [heard]
  split
  · rfl
  · rfl

theorem heard_next_ne (c : CipConnectionObject) :
    c.heard (c.eipLevelSequenceCountConsuming + 1) ≠
      c.heard c.eipLevelSequenceCountConsuming := by
  intro hsame
  have hcount := congrArg eipLevelSequenceCountConsuming hsame
  have htakes : c.takesNumber (c.eipLevelSequenceCountConsuming + 1) = true := by
    rw [takesNumber, seqGt32_add_one, Bool.true_or]
  rw [heard_count, heard_count, if_pos htakes, ite_self] at hcount
  have hzero := congrArg (· - c.eipLevelSequenceCountConsuming) hcount
  simp at hzero

/-- A number that does not change the connection. -/
def deafTo (sequenceNumber : UInt32) (c : CipConnectionObject) : Bool :=
  !c.takesNumber sequenceNumber &&
    c.lastPackageWatchdogTimer = c.regularInactivityWatchdogTimerValue

theorem heard_eq_iff (sequenceNumber : UInt32) (c : CipConnectionObject) :
    c.heard sequenceNumber = c ↔ c.deafTo sequenceNumber = true := by
  simp only [deafTo, Bool.and_eq_true, Bool.not_eq_true', decide_eq_true_eq]
  constructor
  · intro hsame
    rw [heard] at hsame
    split at hsame
    · rename_i htakes
      have hcount : sequenceNumber = c.eipLevelSequenceCountConsuming :=
        congrArg eipLevelSequenceCountConsuming hsame
      have hflag : true = c.eipFirstLevelSequenceCountReceived :=
        congrArg eipFirstLevelSequenceCountReceived hsame
      rw [takesNumber, ← hflag, hcount, seqGt32, UInt32.sub_self] at htakes
      exact absurd htakes (by decide)
    · rename_i htakes
      exact ⟨Bool.eq_false_of_not_eq_true htakes,
        (congrArg lastPackageWatchdogTimer hsame).symm⟩
  · rintro ⟨htakes, htimer⟩
    rw [heard, htakes]
    change { c with lastPackageWatchdogTimer := c.regularInactivityWatchdogTimerValue } = c
    rw [← htimer]

end CipConnectionObject

namespace StackState

variable {cfg : Config} {st : StackState} {data : Message} {fromAddress : UInt32}

def isConnectedAddress (typeId : UInt16) : Bool :=
  typeId = ItemId.connectionAddress || typeId = ItemId.sequencedAddressItem

/-- The state without the packet structure. -/
def apart (st : StackState) : StackState := { st with cpf := {} }

/-- What comes of the parsed items: the call of the receive function, and the state
apart from the structure. -/
def reception (cfg : Config) (address : AddressItem) (item : DataItem) (fromAddress : UInt32)
    (st : StackState) : Option (ConnRef × Message × UInt16) × StackState :=
  if isConnectedAddress address.typeId ∧ item.typeId = ItemId.connectedDataItem then
    match st.getConnectedObject cfg address.connectionIdentifier with
    | none => (none, st)
    | some r =>
        if (st.conn r).originatorAddress.sinAddr = fromAddress then
          (if (st.conn r).takesNumber address.sequenceNumber ∧
              (st.conn r).connectionReceiveDataFunction.isSome then
            some (r, item.data, item.length) else none,
            st.modifyConn r fun c => c.heard address.sequenceNumber)
        else (none, st)
  else (none, st)

/-- The call and the state of `acceptConnectedData`, by what the parser reads. -/
theorem acceptConnectedData_reception (old : CommonPacketFormatData) :
    ((acceptConnectedData cfg data fromAddress { st with cpf := old }).1,
        (acceptConnectedData cfg data fromAddress { st with cpf := old }).2.2.apart) =
      if parseStatus data = .error then (none, st.apart)
      else reception cfg (readAddress data old.addressItem) (readData data old.dataItem)
        fromAddress st.apart := by
  obtain ⟨haddress, hdata⟩ := createCommonPacketFormatStructure_reads data.length data old
  have hstatus := createCommonPacketFormatStructure_status data old
  simp only [acceptConnectedData]
  generalize createCommonPacketFormatStructure data data.length old = parsed
    at haddress hdata hstatus ⊢
  obtain ⟨status, cpf⟩ := parsed
  dsimp only at haddress hdata hstatus ⊢
  rw [← haddress, ← hdata, ← hstatus]
  by_cases herror : status = .error
  · rw [if_pos herror, if_pos herror]
    rfl
  · rw [if_neg herror, if_neg herror, reception, acceptParsed]
    have htypes : (isConnectedAddress cpf.addressItem.typeId = true ∧
        cpf.dataItem.typeId = ItemId.connectedDataItem) ↔
        ((cpf.addressItem.typeId = ItemId.connectionAddress ∨
          cpf.addressItem.typeId = ItemId.sequencedAddressItem) ∧
          cpf.dataItem.typeId = ItemId.connectedDataItem) := by
      rw [isConnectedAddress, Bool.or_eq_true, decide_eq_true_eq, decide_eq_true_eq]
    by_cases hread : isConnectedAddress cpf.addressItem.typeId = true ∧
        cpf.dataItem.typeId = ItemId.connectedDataItem
    · rw [if_pos hread, if_pos (htypes.mp hread)]
      have hfind : getConnectedObject cfg { st with cpf := cpf }
          cpf.addressItem.connectionIdentifier =
          st.apart.getConnectedObject cfg cpf.addressItem.connectionIdentifier := rfl
      rw [hfind]
      cases st.apart.getConnectedObject cfg cpf.addressItem.connectionIdentifier with
      | none => rfl
      | some r =>
          have hconn : conn { st with cpf := cpf } r = st.apart.conn r := rfl
          dsimp only
          rw [hconn]
          by_cases hsender : (st.apart.conn r).originatorAddress.sinAddr = fromAddress
          · rw [if_pos hsender, if_pos hsender]
            split
            · rfl
            · rfl
          · rw [if_neg hsender, if_neg hsender]
            rfl
    · rw [if_neg hread, if_neg fun h => hread (htypes.mpr h)]
      rfl

theorem receiveSequenceCount_apart (r : ConnRef) (buffer : Message) (length : UInt16)
    (st : StackState) :
    st.apart.receiveSequenceCount r buffer length =
      ((st.receiveSequenceCount r buffer length).1,
        (st.receiveSequenceCount r buffer length).2.1,
        (st.receiveSequenceCount r buffer length).2.2.1,
        (st.receiveSequenceCount r buffer length).2.2.2.apart) := by
  have hconn : st.apart.conn r = st.conn r := rfl
  simp only [receiveSequenceCount, hconn]
  split
  · rfl
  · rfl

theorem notifyAssemblyConnectedDataReceived_apart (env : Environment)
    (instanceNumber : UInt16) (bytes : List UInt8) (st : StackState) :
    st.apart.notifyAssemblyConnectedDataReceived env instanceNumber bytes =
      (st.notifyAssemblyConnectedDataReceived env instanceNumber bytes).map
        fun result => (result.1, result.2.apart) := by
  have hdata : st.apart.assemblyData = st.assemblyData := rfl
  simp only [notifyAssemblyConnectedDataReceived, hdata]
  split
  · split
    · rfl
    · rfl
  · split
    · rfl
    · rfl

theorem handleReceivedIoConnectionData_apart (cfg : Config) (env : Environment) (r : ConnRef)
    (buffer : Message) (length : UInt16) (st : StackState) :
    (st.apart.handleReceivedIoConnectionData cfg env r buffer length).map Prod.snd =
      (st.handleReceivedIoConnectionData cfg env r buffer length).map
        fun result => result.2.apart := by
  simp only [handleReceivedIoConnectionData, receiveSequenceCount_apart]
  generalize st.receiveSequenceCount r buffer length = received
  obtain ⟨noNewData, buffer₁, length₁, st₁⟩ := received
  dsimp only
  split
  · cases cfg.consumeRunIdle with
    | false =>
        cases noNewData with
        | true => rfl
        | false =>
            have hconn : st₁.apart.conn r = st₁.conn r := rfl
            simp only [hconn, Bool.false_eq_true, if_false]
            cases (st₁.conn r).consumingInstance with
            | none => rfl
            | some instanceNumber =>
                dsimp only
                rw [notifyAssemblyConnectedDataReceived_apart]
                cases st₁.notifyAssemblyConnectedDataReceived env instanceNumber
                    (buffer₁.takeBytes length₁.toNat) with
                | error fault => rfl
                | ok result =>
                    obtain ⟨status, st₂⟩ := result
                    cases status with
                    | ok => rfl
                    | okSend => rfl
                    | error => rfl
    | true =>
        cases noNewData with
        | true => rfl
        | false =>
            generalize hrunIdle : ({ st₁ with runIdleState := (Message.getUdint buffer₁).1 } :
              StackState) = st₂
            have hapart : ({ st₁.apart with runIdleState := (Message.getUdint buffer₁).1 } :
                StackState) = st₂.apart := by
              rw [← hrunIdle]
              rfl
            have hconn : st₂.apart.conn r = st₂.conn r := rfl
            simp only [hapart, hconn, if_true, Bool.false_eq_true, if_false]
            cases (st₂.conn r).consumingInstance with
            | none => rfl
            | some instanceNumber =>
                dsimp only
                rw [notifyAssemblyConnectedDataReceived_apart]
                cases st₂.notifyAssemblyConnectedDataReceived env instanceNumber
                    ((Message.getUdint buffer₁).2.takeBytes (length₁ - 4).toNat) with
                | error fault => rfl
                | ok result =>
                    obtain ⟨status, st₂⟩ := result
                    cases status with
                    | ok => rfl
                    | okSend => rfl
                    | error => rfl
  · rfl

/-- The same call of the receive function, with the same data and the same connections,
and the same result. -/
structure SameReception (cfg : Config) (data : Message) (fromAddress : UInt32)
    (st st' : StackState) : Prop where
  call : (st.acceptConnectedData cfg data fromAddress).1 =
    (st'.acceptConnectedData cfg data fromAddress).1
  connections : (st.acceptConnectedData cfg data fromAddress).2.2.apart =
    (st'.acceptConnectedData cfg data fromAddress).2.2.apart
  result : ∀ env, (st.handleReceivedConnectedData cfg env data fromAddress).map
      (fun result => result.2.apart) =
    (st'.handleReceivedConnectedData cfg env data fromAddress).map fun result => result.2.apart

theorem handleReceivedConnectedData_apart (cfg : Config) (env : Environment) (data : Message)
    (fromAddress : UInt32) (st : StackState) :
    (st.handleReceivedConnectedData cfg env data fromAddress).map
        (fun result => result.2.apart) =
      match (st.acceptConnectedData cfg data fromAddress).1 with
      | none => .ok (st.acceptConnectedData cfg data fromAddress).2.2.apart
      | some (r, buffer, length) =>
          ((st.acceptConnectedData cfg data fromAddress).2.2.apart.handleReceivedIoConnectionData
            cfg env r buffer length).map Prod.snd := by
  rw [handleReceivedConnectedData_eq]
  obtain ⟨call, status, st'⟩ := st.acceptConnectedData cfg data fromAddress
  cases call with
  | none => rfl
  | some arguments =>
      obtain ⟨r, buffer, length⟩ := arguments
      exact (handleReceivedIoConnectionData_apart cfg env r buffer length st').symm

theorem sameReception_of_accept {st' : StackState}
    (h : ((st.acceptConnectedData cfg data fromAddress).1,
        (st.acceptConnectedData cfg data fromAddress).2.2.apart) =
      ((st'.acceptConnectedData cfg data fromAddress).1,
        (st'.acceptConnectedData cfg data fromAddress).2.2.apart)) :
    SameReception cfg data fromAddress st st' := by
  obtain ⟨hcall, hconnections⟩ := Prod.mk.injEq _ _ _ _ ▸ h
  refine ⟨hcall, hconnections, fun env => ?_⟩
  rw [handleReceivedConnectedData_apart, handleReceivedConnectedData_apart, hcall, hconnections]

/-- A connection that the packet can be for: the sender is its originator, and the
identifier of the packet is its own, if the packet has one. -/
def addressable (cfg : Config) (data : Message) (fromAddress : UInt32) (st : StackState)
    (r : ConnRef) : Bool :=
  st.getConnectedObject cfg (st.conn r).cipConsumedConnectionId = some r &&
    (st.conn r).originatorAddress.sinAddr = fromAddress &&
    (!(1 ≤ data.word 0 && 4 ≤ data.word 4) ||
      (st.conn r).cipConsumedConnectionId = (Message.getUdint (data.drop 6)).1)

/-- The packet settles what comes of it: it is refused, or it has two items and an
address item with a sequence number, or one of its items is of another type, or it can
be for no connection of the sender, except that one that it leaves as it is may be meant
by a numbered address item alone. -/
def settledByPacket (cfg : Config) (data : Message) (fromAddress : UInt32)
    (st : StackState) : Bool :=
  parseStatus data = .error ||
    (2 ≤ data.word 0 && data.word 4 = 8) ||
    (1 ≤ data.word 0 && !isConnectedAddress (data.word 2)) ||
    (2 ≤ data.word 0 &&
      data.word (addressItemEnd (data.word 4)) ≠ ItemId.connectedDataItem) ||
    (st.connectionList cfg).all fun r => !st.addressable cfg data fromAddress r ||
      (data.word 0 = 1 && data.word 4 = 8 &&
        (st.conn r).deafTo (Message.getUdint (data.drop 10)).1)

theorem reception_of_types {address : AddressItem} {item : DataItem}
    (h : ¬(isConnectedAddress address.typeId = true ∧
      item.typeId = ItemId.connectedDataItem)) :
    reception cfg address item fromAddress st = (none, st) := by
  rw [reception, if_neg h]

theorem reception_conn {address : AddressItem} {item : DataItem} {r : ConnRef}
    (htypes : isConnectedAddress address.typeId = true ∧
      item.typeId = ItemId.connectedDataItem)
    (hfound : st.getConnectedObject cfg address.connectionIdentifier = some r)
    (hsender : (st.conn r).originatorAddress.sinAddr = fromAddress) :
    (reception cfg address item fromAddress st).2.conn r =
      (st.conn r).heard address.sequenceNumber := by
  rw [reception, if_pos htypes, hfound]
  dsimp only
  rw [if_pos hsender]
  exact conn_modifyConn_self _ r _

/-- Nothing comes of a packet that is for no connection of the sender, or that the
connection is deaf to. -/
theorem reception_of_unaddressed {address : AddressItem} {item : DataItem}
    (h : ∀ r, st.getConnectedObject cfg address.connectionIdentifier = some r →
      (st.conn r).originatorAddress.sinAddr = fromAddress →
      (st.conn r).deafTo address.sequenceNumber = true) :
    reception cfg address item fromAddress st = (none, st) := by
  rw [reception]
  split
  · cases hfound : st.getConnectedObject cfg address.connectionIdentifier with
    | none => rfl
    | some r =>
        dsimp only
        split
        · rename_i hsender
          have hdeaf := h r hfound hsender
          have hkept := ((st.conn r).heard_eq_iff address.sequenceNumber).mpr hdeaf
          have htakes : ¬(st.conn r).takesNumber address.sequenceNumber = true := by
            rw [CipConnectionObject.deafTo, Bool.and_eq_true, Bool.not_eq_true'] at hdeaf
            rw [hdeaf.1]
            decide
          rw [if_neg fun hboth => htakes hboth.1, modifyConn, hkept]
          simp [setConn, conn]
        · rfl
  · rfl

theorem readAddress_of_one (h : 1 ≤ data.word 0) (old : AddressItem) :
    (readAddress data old).typeId = data.word 2 := by
  rw [readAddress, if_pos h]

theorem readData_of_two (h : 2 ≤ data.word 0) (old : DataItem) :
    readData data old = readData data {} := by
  rw [readData, readData, if_pos h, if_pos h]

theorem readAddress_of_eight (h : 1 ≤ data.word 0) (height : data.word 4 = 8)
    (old : AddressItem) :
    readAddress data old = readAddress data {} ∧
      (readAddress data old).sequenceNumber = (Message.getUdint (data.drop 10)).1 := by
  have hfour : 4 ≤ data.word 4 := by
    rw [height]
    decide
  simp only [readAddress, if_pos h, if_pos hfour, if_pos height, and_self]

theorem getConnectedObject_id {connectionId : UInt32} {r : ConnRef}
    (h : st.getConnectedObject cfg connectionId = some r) :
    r ∈ st.connectionList cfg ∧ (st.conn r).cipConsumedConnectionId = connectionId := by
  have hfound := List.find?_some h
  rw [Bool.and_eq_true, decide_eq_true_eq, decide_eq_true_eq] at hfound
  exact ⟨List.mem_of_find?_eq_some h, hfound.2⟩

theorem settled_reception (h : settledByPacket cfg data fromAddress st = true)
    (hstatus : parseStatus data ≠ .error) (old : CommonPacketFormatData) :
    reception cfg (readAddress data old.addressItem) (readData data old.dataItem) fromAddress
        st.apart =
      reception cfg (readAddress data {}) (readData data {}) fromAddress st.apart := by
  simp only [settledByPacket, Bool.or_eq_true, Bool.and_eq_true, decide_eq_true_eq,
    Bool.not_eq_true', hstatus, false_or] at h
  rcases h with ((hbrings | htype) | htype) | hnobody
  · have hone := UInt16.le_trans (by decide : (1 : UInt16) ≤ 2) hbrings.1
    rw [(readAddress_of_eight hone hbrings.2 _).1, readData_of_two hbrings.1]
  · have hother : ∀ old' item, reception cfg (readAddress data old') item fromAddress st.apart =
        (none, st.apart) := by
      refine fun old' item => reception_of_types fun hread => ?_
      rw [readAddress_of_one htype.1, htype.2] at hread
      exact absurd hread.1 (by decide)
    rw [hother, hother]
  · have hother : ∀ address, reception cfg address (readData data {}) fromAddress st.apart =
        (none, st.apart) := by
      refine fun address => reception_of_types fun hread => ?_
      rw [readData, if_pos htype.1] at hread
      exact htype.2 hread.2
    rw [readData_of_two htype.1, hother, hother]
  · have hunaddressed : ∀ old' item, reception cfg (readAddress data old') item fromAddress
        st.apart = (none, st.apart) := by
      refine fun old' item => reception_of_unaddressed fun r hfound hsender => ?_
      obtain ⟨hr, hid⟩ := getConnectedObject_id hfound
      have hown : st.getConnectedObject cfg (st.conn r).cipConsumedConnectionId = some r := by
        rw [← hfound]
        exact congrArg (st.getConnectedObject cfg) hid
      have hpacket : (1 ≤ data.word 0 && 4 ≤ data.word 4) = true →
          (st.conn r).cipConsumedConnectionId = (Message.getUdint (data.drop 6)).1 := by
        intro hbrings
        rw [Bool.and_eq_true, decide_eq_true_eq, decide_eq_true_eq] at hbrings
        refine Eq.trans hid ?_
        rw [readAddress, if_pos hbrings.1]
        exact if_pos hbrings.2
      have haddressable : st.addressable cfg data fromAddress r = true := by
        rw [addressable, Bool.and_eq_true, Bool.and_eq_true, decide_eq_true_eq,
          decide_eq_true_eq]
        refine ⟨⟨hown, hsender⟩, ?_⟩
        cases hbrings : (decide (1 ≤ data.word 0) && decide (4 ≤ data.word 4)) with
        | false => rfl
        | true => exact decide_eq_true (hpacket hbrings)
      have hdeaf := List.all_eq_true.mp hnobody r hr
      rw [haddressable, Bool.not_true, Bool.false_or, Bool.and_eq_true, Bool.and_eq_true,
        decide_eq_true_eq, decide_eq_true_eq] at hdeaf
      obtain ⟨⟨hone, height⟩, hdeaf⟩ := hdeaf
      have hle : 1 ≤ data.word 0 := by
        rw [hone]
        decide
      rw [(readAddress_of_eight hle height old').2]
      exact hdeaf
    rw [hunaddressed, hunaddressed]

/-- What the structure can hold for a connection: its identifier, a number, and items of
the types that are consumed. -/
def residue (c : CipConnectionObject) (sequenceNumber : UInt32) : CommonPacketFormatData :=
  { addressItem :=
      { typeId := ItemId.connectionAddress
        connectionIdentifier := c.cipConsumedConnectionId
        sequenceNumber := sequenceNumber }
    dataItem := { typeId := ItemId.connectedDataItem } }

/-- With such a residue an addressable connection hears the number of the packet, or
else the number that was left. -/
theorem reception_residue {r : ConnRef}
    (haddressable : st.addressable cfg data fromAddress r = true)
    (haddress : 1 ≤ data.word 0 → isConnectedAddress (data.word 2) = true)
    (hdata : 2 ≤ data.word 0 →
      data.word (addressItemEnd (data.word 4)) = ItemId.connectedDataItem)
    (sequenceNumber : UInt32) :
    (reception cfg (readAddress data (residue (st.conn r) sequenceNumber).addressItem)
        (readData data (residue (st.conn r) sequenceNumber).dataItem) fromAddress
        st.apart).2.conn r =
      (st.conn r).heard (if 1 ≤ data.word 0 ∧ data.word 4 = 8 then
        (Message.getUdint (data.drop 10)).1 else sequenceNumber) := by
  simp only [addressable, Bool.and_eq_true, Bool.or_eq_true, Bool.not_eq_true',
    Bool.and_eq_false_iff, decide_eq_true_eq, decide_eq_false_iff_not] at haddressable
  obtain ⟨⟨hown, hsender⟩, hid⟩ := haddressable
  have htypes : isConnectedAddress
        (readAddress data (residue (st.conn r) sequenceNumber).addressItem).typeId = true ∧
      (readData data (residue (st.conn r) sequenceNumber).dataItem).typeId =
        ItemId.connectedDataItem := by
    constructor
    · rw [readAddress]
      split
      · rename_i hone
        exact haddress hone
      · rfl
    · rw [readData]
      split
      · rename_i htwo
        exact hdata htwo
      · rfl
  have hread : (readAddress data
      (residue (st.conn r) sequenceNumber).addressItem).connectionIdentifier =
      (st.conn r).cipConsumedConnectionId := by
    rw [readAddress]
    split
    · rename_i hone
      dsimp only
      split
      · rename_i hfour
        rcases hid with hid | hid
        · rcases hid with hid | hid
          · exact absurd hone hid
          · exact absurd hfour hid
        · exact hid.symm
      · rfl
    · rfl
  have hnumber : (readAddress data
      (residue (st.conn r) sequenceNumber).addressItem).sequenceNumber =
      if 1 ≤ data.word 0 ∧ data.word 4 = 8 then (Message.getUdint (data.drop 10)).1
      else sequenceNumber := by
    by_cases hone : 1 ≤ data.word 0
    · simp only [readAddress, hone, true_and]
      rfl
    · simp only [readAddress, hone, false_and, if_false]
      rfl
  have hfound : st.apart.getConnectedObject cfg (readAddress data
      (residue (st.conn r) sequenceNumber).addressItem).connectionIdentifier = some r := by
    rw [hread]
    exact hown
  rw [reception_conn htypes hfound hsender, hnumber]
  rfl

/-- Whatever the structure holds, the same comes of a packet, exactly when the packet
settles it. -/
theorem reception_independent_iff (cfg : Config) (data : Message) (fromAddress : UInt32)
    (st : StackState) :
    (∀ cpf cpf', SameReception cfg data fromAddress { st with cpf := cpf }
        { st with cpf := cpf' }) ↔
      settledByPacket cfg data fromAddress st = true := by
  constructor
  · intro hsame
    by_contra hopen
    simp only [settledByPacket, Bool.or_eq_true, Bool.and_eq_true, decide_eq_true_eq,
      Bool.not_eq_true', List.all_eq_true, not_or, not_and, not_forall] at hopen
    obtain ⟨⟨⟨⟨hstatus, hbrings⟩, haddress⟩, hdata⟩, r, -, haddressable, hhears⟩ := hopen
    rw [Bool.not_eq_false] at haddressable
    have haddress' : 1 ≤ data.word 0 → isConnectedAddress (data.word 2) = true :=
      fun hone => Bool.not_eq_false _ ▸ haddress hone
    have hdata' : 2 ≤ data.word 0 →
        data.word (addressItemEnd (data.word 4)) = ItemId.connectedDataItem :=
      fun htwo => not_not.mp (hdata htwo)
    have houtcome : ∀ cpf cpf' : CommonPacketFormatData,
        reception cfg (readAddress data cpf.addressItem) (readData data cpf.dataItem) fromAddress
            st.apart =
          reception cfg (readAddress data cpf'.addressItem) (readData data cpf'.dataItem)
            fromAddress st.apart := by
      intro cpf cpf'
      have hboth := congrArg₂ Prod.mk (hsame cpf cpf').call (hsame cpf cpf').connections
      rw [acceptConnectedData_reception, acceptConnectedData_reception, if_neg hstatus,
        if_neg hstatus] at hboth
      exact hboth
    have hhear := reception_residue haddressable haddress' hdata'
    by_cases hnumbered : 1 ≤ data.word 0 ∧ data.word 4 = 8
    · -- Only the data item is open: with one of another type nothing happens.
      have hone : ¬2 ≤ data.word 0 := fun htwo => hbrings htwo hnumbered.2
      have hnothing : reception cfg (readAddress data {}) (readData data {}) fromAddress
          st.apart = (none, st.apart) := by
        refine reception_of_types fun hread => ?_
        rw [readData, if_neg hone] at hread
        exact absurd hread.2 (by decide)
      have hkept := hhear 0
      rw [houtcome (residue (st.conn r) 0) {}, hnothing, if_pos hnumbered] at hkept
      have hdeaf := ((st.conn r).heard_eq_iff _).mp hkept.symm
      have hzero : data.word 0 ≠ 0 := by
        intro hcontra
        rw [hcontra] at hnumbered
        exact absurd hnumbered.1 (by decide)
      exact hhears ⟨eq_one_of_few hone hzero, hnumbered.2⟩ hdeaf
    · have hnext := hhear ((st.conn r).eipLevelSequenceCountConsuming + 1)
      have hlast := hhear (st.conn r).eipLevelSequenceCountConsuming
      rw [if_neg hnumbered] at hnext hlast
      rw [houtcome _ (residue (st.conn r) (st.conn r).eipLevelSequenceCountConsuming),
        hlast] at hnext
      exact (st.conn r).heard_next_ne hnext.symm
  · intro hsettled cpf cpf'
    refine sameReception_of_accept ?_
    rw [acceptConnectedData_reception, acceptConnectedData_reception]
    by_cases hstatus : parseStatus data = .error
    · rw [if_pos hstatus, if_pos hstatus]
    · rw [if_neg hstatus, if_neg hstatus, settled_reception hsettled hstatus cpf,
        settled_reception hsettled hstatus cpf']

/-- A packet for an identifier that no connection has only leaves its items behind. -/
theorem handleReceivedConnectedData_unknown {env : Environment} {cpf : CommonPacketFormatData}
    (hparse : createCommonPacketFormatStructure data data.length st.cpf = (.ok, cpf))
    (htypes : (cpf.addressItem.typeId = ItemId.connectionAddress ∨
      cpf.addressItem.typeId = ItemId.sequencedAddressItem) ∧
      cpf.dataItem.typeId = ItemId.connectedDataItem)
    (hunknown : st.getConnectedObject cfg cpf.addressItem.connectionIdentifier = none) :
    st.handleReceivedConnectedData cfg env data fromAddress =
      .ok (.error, { st with cpf := cpf }) := by
  have hunknown' : getConnectedObject cfg { st with cpf := cpf }
    cpf.addressItem.connectionIdentifier = none := hunknown
  rw [handleReceivedConnectedData, hparse]
  dsimp only
  rw [if_neg (by decide), if_pos htypes, hunknown']

section Sample

open SampleApplication

/-- The packet for the owner is taken after the stray packet, and not before it. -/
def takenAfter (stray packet : Message) (st : StackState) : Bool :=
  let (status, cpf) := createCommonPacketFormatStructure stray stray.length st.cpf
  status = .ok && isConnectedAddress cpf.addressItem.typeId &&
    cpf.dataItem.typeId = ItemId.connectedDataItem &&
    st.getConnectedObject config cpf.addressItem.connectionIdentifier = none &&
    (st.acceptConnectedData config packet originator.sinAddr).1.isNone &&
    (acceptConnectedData config packet originator.sinAddr { st with cpf := cpf }).1.isSome

/-- A stray packet, for no connection, leaves its number behind; after it the owner
consumes a packet without a number that it does not consume without the stray one. -/
theorem stray_number_consumed :
    ∃ st stray, Reachable config st ∧
      st.handleReceivedConnectedData config (environment 0 20) (sequencedPacket 1 100 []) 0 =
        .ok (.error, { st with cpf := stray }) ∧
      (st.acceptConnectedData config (connectedPacket 305397779 (List.replicate 38 0))
        originator.sinAddr).1.isSome = false ∧
      (acceptConnectedData config (connectedPacket 305397779 (List.replicate 38 0))
        originator.sinAddr { st with cpf := stray }).1.isSome = true ∧
      ¬SameReception config (connectedPacket 305397779 (List.replicate 38 0))
        originator.sinAddr st { st with cpf := stray } := by
  obtain ⟨st, hreachable, htaken⟩ := reachable_of_ends config
    [request (exclusiveOwner 1 1 multicast),
      receive (sequencedPacket 305397779 5 (List.replicate 38 0))]
    (takenAfter (sequencedPacket 1 100 []) (connectedPacket 305397779 (List.replicate 38 0)))
    (by decide +kernel)
  simp only [takenAfter] at htaken
  generalize hparse : createCommonPacketFormatStructure (sequencedPacket 1 100 []) _ st.cpf =
    parsed at htaken
  obtain ⟨status, cpf⟩ := parsed
  simp only [isConnectedAddress, Bool.and_eq_true, Bool.or_eq_true,
    decide_eq_true_eq] at htaken
  obtain ⟨⟨⟨⟨⟨rfl, haddress⟩, hdata⟩, hunknown⟩, hbefore⟩, hafter⟩ := htaken
  have hbefore' := Option.isSome_eq_false_iff.mpr hbefore
  refine ⟨st, cpf, hreachable, handleReceivedConnectedData_unknown hparse ⟨haddress, hdata⟩
    hunknown, hbefore', hafter, fun hsame => ?_⟩
  have hcall := congrArg Option.isSome hsame.call
  rw [hbefore', hafter] at hcall
  cases hcall

end Sample

end StackState

end Opener
