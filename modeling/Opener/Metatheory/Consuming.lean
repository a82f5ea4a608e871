import Opener.Metatheory.PacketGrammar
import Opener.Metatheory.Transitions

/-!
What `HandleReceivedConnectedData` makes of a packet. `acceptConnectedData` is the
function up to the call of the connection's receive function, with the arguments of
that call. A packet with a sequenced address item and a connected data item is
taken apart by its bytes alone.
-/

namespace Opener

open Message (word)
open CommonPacketFormatData

namespace CipConnectionObject

/-- The test of the sequence number in `HandleReceivedConnectedData`. -/
def takesNumber (sequenceNumber : UInt32) (c : CipConnectionObject) : Bool :=
  seqGt32 sequenceNumber c.eipLevelSequenceCountConsuming ||
    !c.eipFirstLevelSequenceCountReceived

/-- A connection that was found and whose originator sent the packet. -/
def heard (sequenceNumber : UInt32) (c : CipConnectionObject) : CipConnectionObject :=
  if c.takesNumber sequenceNumber then
    { c.resetLastPackageInactivityTimerValue.resetInactivityWatchdogTimerValue with
      eipLevelSequenceCountConsuming := sequenceNumber
      eipFirstLevelSequenceCountReceived := true }
  else c.resetLastPackageInactivityTimerValue

end CipConnectionObject

namespace StackState

variable {cfg : Config} {env : Environment} {st st' : StackState}

/-- What the packet in the global structure does to the connection, and the call of
the receive function. -/
def acceptParsed (cfg : Config) (cpf : CommonPacketFormatData) (fromAddress : UInt32)
    (st : StackState) : Option (ConnRef × Message × UInt16) × EipStatus × StackState :=
  if (cpf.addressItem.typeId = ItemId.connectionAddress ∨
      cpf.addressItem.typeId = ItemId.sequencedAddressItem) ∧
      cpf.dataItem.typeId = ItemId.connectedDataItem then
    match st.getConnectedObject cfg cpf.addressItem.connectionIdentifier with
    | none => (none, .error, st)
    | some r =>
        if (st.conn r).originatorAddress.sinAddr = fromAddress then
          let st' := st.modifyConn r fun c => c.heard cpf.addressItem.sequenceNumber
          if (st.conn r).takesNumber cpf.addressItem.sequenceNumber ∧
              (st.conn r).connectionReceiveDataFunction.isSome then
            (some (r, cpf.dataItem.data, cpf.dataItem.length), .ok, st')
          else (none, .ok, st')
        else (none, .ok, st)
  else (none, .ok, st)

/-- `HandleReceivedConnectedData` up to the call of the receive function. -/
def acceptConnectedData (cfg : Config) (data : Message) (fromAddress : UInt32)
    (st : StackState) : Option (ConnRef × Message × UInt16) × EipStatus × StackState :=
  let (status, cpf) := createCommonPacketFormatStructure data data.length st.cpf
  if status = .error then (none, .error, { st with cpf := cpf })
  else acceptParsed cfg cpf fromAddress { st with cpf := cpf }

theorem Touched.getConnectedObject (h : Touched st st') (cfg : Config)
    (connectionId : UInt32) :
    st'.getConnectedObject cfg connectionId = st.getConnectedObject cfg connectionId := by
  have hmembers : st'.connectionList cfg = st.connectionList cfg := by
    rw [connectionList, connectionList, h.list]
  rw [StackState.getConnectedObject, StackState.getConnectedObject, findConnection,
    findConnection, hmembers]
  congr 1
  funext s
  exact CipConnectionObject.core_field (h.object s)
    (fun c => decide (c.state = .established) &&
      decide (c.cipConsumedConnectionId = connectionId)) fun _ => rfl

theorem modifyConn_twice (st : StackState) (r : ConnRef)
    (f g : CipConnectionObject → CipConnectionObject) :
    (st.modifyConn r f).modifyConn r g = st.modifyConn r fun c => g (f c) := by
  simp [modifyConn, setConn, conn, Function.update_idem]

theorem takesNumber_eq_true_iff {sequenceNumber : UInt32} {c : CipConnectionObject} :
    c.takesNumber sequenceNumber = true ↔
      seqGt32 sequenceNumber c.eipLevelSequenceCountConsuming = true ∨
        c.eipFirstLevelSequenceCountReceived = false := by
  simp [CipConnectionObject.takesNumber]

/-- The part after the connection was found, with its two writes to the object put
together. -/
theorem consumeConnectedData_eq (r : ConnRef) (st : StackState) :
    st.consumeConnectedData cfg env r =
      let st' := st.modifyConn r fun c => c.heard st.cpf.addressItem.sequenceNumber
      if (st.conn r).takesNumber st.cpf.addressItem.sequenceNumber ∧
          (st.conn r).connectionReceiveDataFunction.isSome then
        st'.handleReceivedIoConnectionData cfg env r st.cpf.dataItem.data
          st.cpf.dataItem.length
      else .ok (.ok, st') := by
  have hnumber : ∀ f, (st.modifyConn r f).cpf = st.cpf := fun _ => rfl
  have htakes : seqGt32 st.cpf.addressItem.sequenceNumber
      (st.conn r).resetLastPackageInactivityTimerValue.eipLevelSequenceCountConsuming = true ∨
        (st.conn r).resetLastPackageInactivityTimerValue.eipFirstLevelSequenceCountReceived =
          false ↔
      (st.conn r).takesNumber st.cpf.addressItem.sequenceNumber = true :=
    takesNumber_eq_true_iff.symm
  simp only [consumeConnectedData, hnumber, conn_modifyConn_self, modifyConn_twice, htakes]
  have hfunction : ∀ c : CipConnectionObject,
      (c.resetLastPackageInactivityTimerValue
        |>.resetInactivityWatchdogTimerValue).connectionReceiveDataFunction =
          c.connectionReceiveDataFunction := fun _ => rfl
  by_cases hheard : (st.conn r).takesNumber st.cpf.addressItem.sequenceNumber = true
  · have hwrite : (st.modifyConn r fun c => c.heard st.cpf.addressItem.sequenceNumber) =
        st.modifyConn r fun c =>
          { c.resetLastPackageInactivityTimerValue.resetInactivityWatchdogTimerValue with
            eipLevelSequenceCountConsuming := st.cpf.addressItem.sequenceNumber
            eipFirstLevelSequenceCountReceived := true } := by
      rw [modifyConn, modifyConn, CipConnectionObject.heard, if_pos hheard]
    rw [if_pos hheard, hwrite, hfunction]
    cases (st.conn r).connectionReceiveDataFunction with
    | none => simp
    | some function =>
        cases function
        simp [hheard]
  · have hwrite : (st.modifyConn r fun c => c.heard st.cpf.addressItem.sequenceNumber) =
        st.modifyConn r fun c => c.resetLastPackageInactivityTimerValue := by
      rw [modifyConn, modifyConn, CipConnectionObject.heard, if_neg hheard]
    rw [if_neg hheard, if_neg fun h => hheard h.1, hwrite]

theorem handleReceivedConnectedData_eq (data : Message) (fromAddress : UInt32)
    (st : StackState) :
    st.handleReceivedConnectedData cfg env data fromAddress =
      match st.acceptConnectedData cfg data fromAddress with
      | (none, status, st') => .ok (status, st')
      | (some (r, buffer, length), _, st') =>
          st'.handleReceivedIoConnectionData cfg env r buffer length := by
  simp only [handleReceivedConnectedData, acceptConnectedData, acceptParsed]
  generalize createCommonPacketFormatStructure data data.length st.cpf = parsed
  obtain ⟨status, cpf⟩ := parsed
  dsimp only
  by_cases hstatus : status = .error
  · rw [if_pos hstatus, if_pos hstatus]
  · rw [if_neg hstatus, if_neg hstatus]
    split
    · cases getConnectedObject cfg { st with cpf := cpf }
          cpf.addressItem.connectionIdentifier with
      | none => rfl
      | some r =>
          dsimp only
          split
          · rw [consumeConnectedData_eq]
            dsimp only
            split
            · rfl
            · rfl
          · rfl
    · rfl

/-- The receive function only writes the sequence count of class 1 in the objects. -/
theorem handleReceivedIoConnectionData_field {β : Type} (f : CipConnectionObject → β)
    (hf : ∀ c sequence, f { c with sequenceCountConsuming := sequence } = f c) {r : ConnRef}
    {data : Message} {dataLength : UInt16} {status : EipStatus}
    (hcall : st.handleReceivedIoConnectionData cfg env r data dataLength = .ok (status, st'))
    (s : ConnRef) : f (st'.conn s) = f (st.conn s) := by
  have hcount : f ((st.receiveSequenceCount r data dataLength).2.2.2.conn s) =
      f (st.conn s) := by
    simp only [receiveSequenceCount]
    split
    · by_cases hs : s = r
      · rw [hs, conn_modifyConn_self]
        exact hf _ _
      · rw [conn_modifyConn_of_ne _ hs]
    · rfl
  have hnotify : ∀ {st₁ st₂ : StackState} {instanceNumber : UInt16} {data : List UInt8}
      {status : EipStatus}, st₁.notifyAssemblyConnectedDataReceived env instanceNumber data =
        .ok (status, st₂) → st₂.conn s = st₁.conn s := by
    intro st₁ st₂ instanceNumber data status hnotify
    simp only [notifyAssemblyConnectedDataReceived] at hnotify
    split at hnotify
    · split at hnotify
      · cases hnotify
      · cases hnotify
        rfl
    · split at hnotify
      · cases hnotify
        rfl
      · cases hnotify
        rfl
  simp only [handleReceivedIoConnectionData] at hcall
  generalize st.receiveSequenceCount r data dataLength = received at hcount hcall
  obtain ⟨noNewData, data₁, length₁, st₁⟩ := received
  dsimp only at hcount hcall
  rw [← hcount]
  split at hcall
  · generalize hheader : (if cfg.consumeRunIdle = true then _ else _ :
      Message × UInt16 × StackState) = header at hcall
    obtain ⟨data₂, length₂, st₂⟩ := header
    have hrunIdle : st₂.conn s = st₁.conn s := by
      split at hheader
      · cases hheader
        rfl
      · cases hheader
        rfl
    dsimp only at hcall
    rw [← hrunIdle]
    split at hcall
    · cases hcall
      rfl
    · split at hcall
      · cases hcall
      · split at hcall
        · cases hcall
        · rename_i hcalled
          cases hcall
          rw [hnotify hcalled]
        · rename_i hcalled
          cases hcall
          rw [hnotify hcalled]
  · cases hcall
    rfl

/-- The bytes are an accepted packet with a sequenced address item and a connected
data item. -/
structure SequencedPacket (data : Message) (connectionId sequenceNumber : UInt32) : Prop where
  items : 2 ≤ data.word 0
  addressType : data.word 2 = ItemId.sequencedAddressItem
  addressLength : data.word 4 = 8
  connectionIdentifier : (Message.getUdint (data.drop 6)).1 = connectionId
  sequenceNumber : (Message.getUdint (data.drop 10)).1 = sequenceNumber
  dataType : data.word 14 = ItemId.connectedDataItem
  fits : if data.word 0 = 2 then data.length = dataItemEnd data
    else dataItemEnd data ≤ data.length

/-- Such a packet is handed to the connection with its id when its number is taken,
with the bytes of its data item. -/
theorem acceptConnectedData_sequenced {data : Message} {connectionId sequenceNumber : UInt32}
    (hpacket : SequencedPacket data connectionId sequenceNumber) {r : ConnRef}
    (hfound : st.getConnectedObject cfg connectionId = some r)
    (hreceives : (st.conn r).connectionReceiveDataFunction.isSome = true) :
    ∃ cpf, st.acceptConnectedData cfg data (st.conn r).originatorAddress.sinAddr =
      (if (st.conn r).takesNumber sequenceNumber then
        some (r, data.drop 18, data.word 16) else none, .ok,
        { st.modifyConn r fun c => c.heard sequenceNumber with cpf := cpf }) := by
  obtain ⟨hstatus, hfields⟩ :=
    createCommonPacketFormatStructure_many data.length st.cpf hpacket.items
  have hend : dataItemEnd data ≤ data.length := by
    have hfits := hpacket.fits
    split at hfits
    · exact Nat.le_of_eq hfits.symm
    · exact hfits
  obtain ⟨haddress, hdata⟩ := hfields hend
  have hok := hstatus.mpr hpacket.fits
  have haddressEnd : addressItemEnd (data.word 4) = 14 := by
    rw [hpacket.addressLength]
    rfl
  rw [haddressEnd] at hdata
  simp only [acceptConnectedData]
  generalize createCommonPacketFormatStructure data data.length st.cpf = parsed
    at hok haddress hdata
  obtain ⟨status, cpf⟩ := parsed
  dsimp only at hok haddress hdata ⊢
  refine ⟨cpf, ?_⟩
  have htype : (cpf.addressItem.typeId = ItemId.connectionAddress ∨
      cpf.addressItem.typeId = ItemId.sequencedAddressItem) ∧
      cpf.dataItem.typeId = ItemId.connectedDataItem := by
    refine ⟨.inr (haddress.typeId.trans hpacket.addressType), ?_⟩
    rw [hdata]
    exact hpacket.dataType
  have hid : cpf.addressItem.connectionIdentifier = connectionId := by
    rw [haddress.connectionIdentifier (by rw [hpacket.addressLength]; decide)]
    exact hpacket.connectionIdentifier
  have hnumber : cpf.addressItem.sequenceNumber = sequenceNumber := by
    rw [haddress.sequenceNumber hpacket.addressLength]
    exact hpacket.sequenceNumber
  have hfound' : getConnectedObject cfg { st with cpf := cpf } connectionId = some r := hfound
  rw [hok, if_neg (by decide), acceptParsed, if_pos htype, hid, hfound', hnumber]
  dsimp only
  have hsender : (conn { st with cpf := cpf } r).originatorAddress.sinAddr =
    (st.conn r).originatorAddress.sinAddr := rfl
  have hfunction : (conn { st with cpf := cpf } r).connectionReceiveDataFunction.isSome =
    true := hreceives
  rw [if_pos hsender, hfunction, hdata]
  have htakes : (conn { st with cpf := cpf } r).takesNumber sequenceNumber =
    (st.conn r).takesNumber sequenceNumber := rfl
  rw [htakes]
  by_cases hnew : (st.conn r).takesNumber sequenceNumber = true
  · rw [if_pos ⟨hnew, rfl⟩, if_pos hnew]
    rfl
  · rw [if_neg fun h => hnew h.1, if_neg hnew]
    rfl

end StackState

end Opener
