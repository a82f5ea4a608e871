import Opener.Library.LittleEndian
import Opener.Core.CommonPacketFormat

/-!
The common packet format from the wire and to the wire. Each item is read back from
the bytes that were written for it, and the reader ends where the writer ended.
-/

namespace Opener

namespace Message

theorem getUint_intBytes (value : UInt16) (rest : Message) :
    getUint (intBytes value ++ rest) = (value, rest) := by
  have hvalue := LittleEndian.word_of_bytes value
  simp only [intBytes, getUint, byteAt, List.cons_append, List.nil_append, List.getD_cons_zero,
    List.getD_cons_succ, List.drop_succ_cons, List.drop_zero, hvalue]

theorem getUdint_dintBytes (value : UInt32) (rest : Message) :
    getUdint (dintBytes value ++ rest) = (value, rest) := by
  have hvalue := LittleEndian.dword_of_bytes value
  simp only [dintBytes, getUdint, byteAt, List.cons_append, List.nil_append,
    List.getD_cons_zero, List.getD_cons_succ, List.drop_succ_cons, List.drop_zero, hvalue]

theorem takeBytes_append {bytes : List UInt8} {length : Nat} (h : bytes.length = length)
    (rest : Message) : takeBytes (bytes ++ rest) length = bytes := by
  subst h
  refine List.ext_getElem (by simp [takeBytes]) fun i hi hi' => ?_
  simp [takeBytes, byteAt, List.getElem?_append_left hi', List.getElem?_eq_getElem hi']

theorem takeBytes_self {bytes : List UInt8} {length : Nat} (h : bytes.length = length) :
    takeBytes bytes length = bytes := by
  have happend := takeBytes_append h []
  rwa [List.append_nil] at happend

end Message

open Message (getUint_intBytes getUdint_dintBytes takeBytes_append takeBytes_self)

namespace CommonPacketFormatData

/-- A packet of the kind that the structure is made for: the address item, the data
item, and the socket address items in the order of their types. -/
structure WellFormed (cpf : CommonPacketFormatData) : Prop where
  address :
    (cpf.addressItem.typeId = ItemId.nullAddress ∧ cpf.addressItem.length = 0) ∨
    (cpf.addressItem.typeId = ItemId.connectionAddress ∧ cpf.addressItem.length = 4) ∨
    (cpf.addressItem.typeId = ItemId.sequencedAddressItem ∧ cpf.addressItem.length = 8)
  dataType : cpf.dataItem.typeId = ItemId.connectedDataItem ∨
    cpf.dataItem.typeId = ItemId.unconnectedDataItem
  dataLength : cpf.dataItem.data.length = cpf.dataItem.length.toNat
  sockets :
    (cpf.itemCount = 2 ∧ cpf.addressInfoItem0.typeId = 0 ∧ cpf.addressInfoItem1.typeId = 0) ∨
    (cpf.itemCount = 3 ∧ cpf.addressInfoItem1.typeId = 0 ∧
      (cpf.addressInfoItem0.typeId = ItemId.socketAddressInfoOriginatorToTarget ∨
        cpf.addressInfoItem0.typeId = ItemId.socketAddressInfoTargetToOriginator)) ∨
    (cpf.itemCount = 4 ∧
      cpf.addressInfoItem0.typeId = ItemId.socketAddressInfoOriginatorToTarget ∧
      cpf.addressInfoItem1.typeId = ItemId.socketAddressInfoTargetToOriginator)
  socket : ∀ j, (cpf.addressInfoItem j).typeId ≠ 0 →
    (cpf.addressInfoItem j).length = 16 ∧ (cpf.addressInfoItem j).sinFamily = htons afInet ∧
      (cpf.addressInfoItem j).nasinZero = List.replicate 8 0

/-- The parsed structure holds what was written. The connection id and the sequence
number are there when the length of the address item says so. -/
structure Recovers (cpf decoded : CommonPacketFormatData) : Prop where
  itemCount : decoded.itemCount = cpf.itemCount
  addressType : decoded.addressItem.typeId = cpf.addressItem.typeId
  addressLength : decoded.addressItem.length = cpf.addressItem.length
  connectionIdentifier : 4 ≤ cpf.addressItem.length →
    decoded.addressItem.connectionIdentifier = cpf.addressItem.connectionIdentifier
  sequenceNumber : cpf.addressItem.length = 8 →
    decoded.addressItem.sequenceNumber = cpf.addressItem.sequenceNumber
  dataType : decoded.dataItem.typeId = cpf.dataItem.typeId
  dataLength : decoded.dataItem.length = cpf.dataItem.length
  data : decoded.dataItem.data.take cpf.dataItem.length.toNat = cpf.dataItem.data
  socketType : ∀ j, (decoded.addressInfoItem j).typeId = (cpf.addressInfoItem j).typeId
  socket : ∀ j, (cpf.addressInfoItem j).typeId ≠ 0 →
    decoded.addressInfoItem j = cpf.addressInfoItem j

/-- What is read from an address item that was written. -/
structure ReadsAddress (written read : AddressItem) : Prop where
  typeId : read.typeId = written.typeId
  length : read.length = written.length
  connectionIdentifier : 4 ≤ written.length →
    read.connectionIdentifier = written.connectionIdentifier
  sequenceNumber : written.length = 8 → read.sequenceNumber = written.sequenceNumber

theorem parseAddressItem_written {cpf : CommonPacketFormatData} (h : cpf.WellFormed)
    {p : Parse} (rest : Message) (hcount : 1 ≤ p.cpf.itemCount) :
    ∃ bytes item, cpf.addressItemBytes = some bytes ∧ ReadsAddress cpf.addressItem item ∧
      (p.data = bytes ++ rest → parseAddressItem p =
        { data := rest
          lengthCount := p.lengthCount + bytes.length
          cpf := { p.cpf with addressItem := item } }) := by
  rcases h.address with ⟨htype, hlength⟩ | ⟨htype, hlength⟩ | ⟨htype, hlength⟩
  · refine ⟨intBytes ItemId.nullAddress ++ intBytes 0,
      { p.cpf.addressItem with typeId := ItemId.nullAddress, length := 0 }, ?_,
      ⟨htype.symm, hlength.symm, ?_, ?_⟩, fun hdata => ?_⟩
    · rw [addressItemBytes, if_pos htype]
    · rw [hlength]
      intro hcontra
      exact absurd hcontra (by decide)
    · rw [hlength]
      intro hcontra
      exact absurd hcontra (by decide)
    · rw [parseAddressItem, if_pos hcount, hdata]
      simp only [List.append_assoc, getUint_intBytes]
      rw [if_neg (by decide), if_neg (by decide)]
      rfl
  · refine ⟨intBytes ItemId.connectionAddress ++ intBytes 4 ++
        dintBytes cpf.addressItem.connectionIdentifier,
      { p.cpf.addressItem with
        typeId := ItemId.connectionAddress
        length := 4
        connectionIdentifier := cpf.addressItem.connectionIdentifier }, ?_,
      ⟨htype.symm, hlength.symm, fun _ => rfl, ?_⟩, fun hdata => ?_⟩
    · rw [addressItemBytes, if_neg (by rw [htype]; decide), if_pos htype]
    · rw [hlength]
      intro hcontra
      exact absurd hcontra (by decide)
    · rw [parseAddressItem, if_pos hcount, hdata]
      simp only [List.append_assoc, getUint_intBytes]
      rw [if_neg (by decide), if_pos (by decide)]
      simp only [getUdint_dintBytes]
      rfl
  · refine ⟨intBytes ItemId.sequencedAddressItem ++ intBytes 8 ++
        dintBytes cpf.addressItem.connectionIdentifier ++
        dintBytes cpf.addressItem.sequenceNumber,
      { p.cpf.addressItem with
        typeId := ItemId.sequencedAddressItem
        length := 8
        connectionIdentifier := cpf.addressItem.connectionIdentifier
        sequenceNumber := cpf.addressItem.sequenceNumber }, ?_,
      ⟨htype.symm, hlength.symm, fun _ => rfl, fun _ => rfl⟩, fun hdata => ?_⟩
    · rw [addressItemBytes, if_neg (by rw [htype]; decide), if_neg (by rw [htype]; decide),
        if_pos htype]
    · rw [parseAddressItem, if_pos hcount, hdata]
      simp only [List.append_assoc, getUint_intBytes]
      rw [if_pos (by decide), if_pos (by decide)]
      simp only [getUdint_dintBytes]
      rfl

theorem length_socketAddressInfoBytes (item : SocketAddressInfoItem) :
    (socketAddressInfoBytes item).length = 20 := rfl

theorem parseAddressInfoItem_written {j : Fin 2} {p : Parse} {item : SocketAddressInfoItem}
    {rest : Message}
    (htype : item.typeId = ItemId.socketAddressInfoOriginatorToTarget ∨
      item.typeId = ItemId.socketAddressInfoTargetToOriginator)
    (hfamily : item.sinFamily = htons afInet) (hzero : item.nasinZero = List.replicate 8 0)
    (hdata : p.data = socketAddressInfoBytes item ++ rest) :
    parseAddressInfoItem j p =
      { data := rest
        lengthCount := p.lengthCount + 20
        cpf := p.cpf.setAddressInfoItem j item } := by
  have hpadding : List.drop 8 (List.replicate 8 (0 : UInt8) ++ rest) = rest := rfl
  rw [parseAddressInfoItem, hdata, socketAddressInfoBytes]
  simp only [List.append_assoc, getUint_intBytes, getUdint_dintBytes]
  rw [if_pos htype, takeBytes_append List.length_replicate, hpadding, ← hfamily, ← hzero]

/-- The two socket address items as they go out. -/
def socketBytes (cpf : CommonPacketFormatData) : List UInt8 :=
  socketAddressInfoOfType cpf ItemId.socketAddressInfoOriginatorToTarget ++
    socketAddressInfoOfType cpf ItemId.socketAddressInfoTargetToOriginator

/-- The socket address items are read into the slots they were written from. -/
structure ReadsSockets (cpf : CommonPacketFormatData) (p p' : Parse) : Prop where
  lengthCount : p'.lengthCount = p.lengthCount + cpf.socketBytes.length
  itemCount : p'.cpf.itemCount = p.cpf.itemCount
  addressItem : p'.cpf.addressItem = p.cpf.addressItem
  dataItem : p'.cpf.dataItem = p.cpf.dataItem
  socket : ∀ j, (cpf.addressInfoItem j).typeId ≠ 0 →
    p'.cpf.addressInfoItem j = cpf.addressInfoItem j

/-- The loop over the socket address items. -/
def parseAddressInfoItems (p : Parse) : Parse :=
  let p := if p.cpf.itemCount - 2 ≥ 1 then parseAddressInfoItem 0 p else p
  if p.cpf.itemCount - 2 ≥ 2 then parseAddressInfoItem 1 p else p

theorem parseAddressInfoItems_written {cpf : CommonPacketFormatData} (h : cpf.WellFormed)
    {p : Parse} (hcount : p.cpf.itemCount = cpf.itemCount) (hdata : p.data = cpf.socketBytes) :
    ReadsSockets cpf p (parseAddressInfoItems p) := by
  rcases h.sockets with ⟨hitems, hfirst, hsecond⟩ | ⟨hitems, hsecond, hfirst⟩ |
    ⟨hitems, hfirst, hsecond⟩
  · have hbytes : cpf.socketBytes = [] := by
      simp [socketBytes, socketAddressInfoOfType, addressInfoItemOfType, hfirst, hsecond,
        ItemId.socketAddressInfoOriginatorToTarget, ItemId.socketAddressInfoTargetToOriginator]
    have hnone : ∀ j, (cpf.addressInfoItem j).typeId = 0 := by
      intro j
      match j with
      | 0 => exact hfirst
      | 1 => exact hsecond
    have hone : ¬p.cpf.itemCount - 2 ≥ 1 := by
      rw [hcount, hitems]
      decide
    have htwo : ¬p.cpf.itemCount - 2 ≥ 2 := by
      rw [hcount, hitems]
      decide
    rw [parseAddressInfoItems]
    simp only [if_neg hone, if_neg htwo]
    refine ⟨?_, rfl, rfl, rfl, fun j hj => absurd (hnone j) hj⟩
    rw [hbytes, List.length_nil, Nat.add_zero]
  · have hset : cpf.addressInfoItem0.typeId ≠ 0 := by
      rcases hfirst with hfirst | hfirst
      · rw [hfirst]
        decide
      · rw [hfirst]
        decide
    have hbytes : cpf.socketBytes = socketAddressInfoBytes cpf.addressInfoItem0 ++ [] := by
      rcases hfirst with hfirst | hfirst
      · simp [socketBytes, socketAddressInfoOfType, addressInfoItemOfType, hfirst, hsecond,
          ItemId.socketAddressInfoOriginatorToTarget,
          ItemId.socketAddressInfoTargetToOriginator, addressInfoItem]
      · simp [socketBytes, socketAddressInfoOfType, addressInfoItemOfType, hfirst, hsecond,
          ItemId.socketAddressInfoOriginatorToTarget,
          ItemId.socketAddressInfoTargetToOriginator, addressInfoItem]
    obtain ⟨-, hfamily, hzero⟩ := h.socket 0 hset
    have hparse := parseAddressInfoItem_written (j := 0) hfirst hfamily hzero
      (hdata.trans hbytes)
    have hone : p.cpf.itemCount - 2 ≥ 1 := by
      rw [hcount, hitems]
      decide
    have htwo : ¬(parseAddressInfoItem 0 p).cpf.itemCount - 2 ≥ 2 := by
      rw [hparse]
      change ¬p.cpf.itemCount - 2 ≥ 2
      rw [hcount, hitems]
      decide
    rw [parseAddressInfoItems]
    simp only [if_pos hone, if_neg htwo]
    rw [hparse]
    refine ⟨?_, rfl, rfl, rfl, fun j hj => ?_⟩
    · rw [hbytes, List.append_nil, length_socketAddressInfoBytes]
    · match j with
      | 0 => rfl
      | 1 => exact absurd hsecond hj
  · have hbytes : cpf.socketBytes = socketAddressInfoBytes cpf.addressInfoItem0 ++
        (socketAddressInfoBytes cpf.addressInfoItem1 ++ []) := by
      simp [socketBytes, socketAddressInfoOfType, addressInfoItemOfType, hfirst, hsecond,
        ItemId.socketAddressInfoOriginatorToTarget, ItemId.socketAddressInfoTargetToOriginator,
        addressInfoItem]
    have hset₀ : cpf.addressInfoItem0.typeId ≠ 0 := by
      rw [hfirst]
      decide
    have hset₁ : cpf.addressInfoItem1.typeId ≠ 0 := by
      rw [hsecond]
      decide
    obtain ⟨-, hfamily₀, hzero₀⟩ := h.socket 0 hset₀
    obtain ⟨-, hfamily₁, hzero₁⟩ := h.socket 1 hset₁
    have hparse₀ := parseAddressInfoItem_written (j := 0) (.inl hfirst) hfamily₀ hzero₀
      (hdata.trans hbytes)
    have hone : p.cpf.itemCount - 2 ≥ 1 := by
      rw [hcount, hitems]
      decide
    have htwo : (parseAddressInfoItem 0 p).cpf.itemCount - 2 ≥ 2 := by
      rw [hparse₀]
      change p.cpf.itemCount - 2 ≥ 2
      rw [hcount, hitems]
      decide
    have hparse₁ := parseAddressInfoItem_written (j := 1) (p := parseAddressInfoItem 0 p)
      (.inr hsecond) hfamily₁ hzero₁ (by rw [hparse₀])
    rw [parseAddressInfoItems]
    simp only [if_pos hone, if_pos htwo]
    rw [hparse₁, hparse₀]
    refine ⟨?_, rfl, rfl, rfl, fun j hj => ?_⟩
    · rw [hbytes, List.append_nil, List.length_append, length_socketAddressInfoBytes,
        length_socketAddressInfoBytes]
    · match j with
      | 0 => rfl
      | 1 => rfl

/-- The data item with the socket address items after it, if it fits. -/
theorem parseDataItem_reads {p : Parse} (dataLength : Nat) {typeId length : UInt16}
    {header data : Message} (hcount : 2 ≤ p.cpf.itemCount)
    (htype : p.data.getUint = (typeId, header)) (hlength : header.getUint = (length, data)) :
    parseDataItem dataLength p =
      if p.lengthCount + 4 + length.toNat ≤ dataLength then
        (true, parseAddressInfoItems
          { data := data.drop length.toNat
            lengthCount := p.lengthCount + 4 + length.toNat
            cpf := { p.cpf with dataItem := { typeId, length, data } } })
      else (false, { p with cpf := { p.cpf with dataItem := { typeId, length, data } } }) := by
  rw [parseDataItem, if_pos hcount]
  simp only [htype, hlength, parseAddressInfoItems, ge_iff_le]

theorem ioDataItemBytes_eq {cpf : CommonPacketFormatData} (h : cpf.WellFormed) :
    cpf.ioDataItemBytes = intBytes cpf.dataItem.typeId ++
      (intBytes cpf.dataItem.length ++ cpf.dataItem.data) := by
  rw [ioDataItemBytes, if_pos h.dataType.symm, takeBytes_self h.dataLength, List.append_assoc]

/-- The slots that were not received are marked as unset at the end. -/
def markUnset (cpf : CommonPacketFormatData) : CommonPacketFormatData :=
  if cpf.itemCount < 4 then
    if cpf.itemCount < 3 then clearAddressInfoItem 0 (clearAddressInfoItem 1 cpf)
    else clearAddressInfoItem 1 cpf
  else cpf

theorem markUnset_items (cpf : CommonPacketFormatData) :
    cpf.markUnset.itemCount = cpf.itemCount ∧ cpf.markUnset.addressItem = cpf.addressItem ∧
      cpf.markUnset.dataItem = cpf.dataItem := by
  rw [markUnset]
  split
  · split
    · exact ⟨rfl, rfl, rfl⟩
    · exact ⟨rfl, rfl, rfl⟩
  · exact ⟨rfl, rfl, rfl⟩

theorem markUnset_sockets {cpf decoded : CommonPacketFormatData} (h : cpf.WellFormed)
    (hcount : decoded.itemCount = cpf.itemCount)
    (hsocket : ∀ j, (cpf.addressInfoItem j).typeId ≠ 0 →
      decoded.addressInfoItem j = cpf.addressInfoItem j) (j : Fin 2) :
    (decoded.markUnset.addressInfoItem j).typeId = (cpf.addressInfoItem j).typeId ∧
      ((cpf.addressInfoItem j).typeId ≠ 0 →
        decoded.markUnset.addressInfoItem j = cpf.addressInfoItem j) := by
  rw [markUnset, hcount]
  rcases h.sockets with ⟨hitems, hfirst, hsecond⟩ | ⟨hitems, hsecond, hfirst⟩ |
    ⟨hitems, hfirst, hsecond⟩
  · rw [hitems, if_pos (by decide), if_pos (by decide)]
    match j with
    | 0 => exact ⟨hfirst.symm, fun hset => absurd hfirst hset⟩
    | 1 => exact ⟨hsecond.symm, fun hset => absurd hsecond hset⟩
  · have hset : (cpf.addressInfoItem 0).typeId ≠ 0 := by
      rcases hfirst with hfirst | hfirst
      · rw [show (cpf.addressInfoItem 0).typeId = _ from hfirst]
        decide
      · rw [show (cpf.addressInfoItem 0).typeId = _ from hfirst]
        decide
    rw [hitems, if_pos (by decide), if_neg (by decide)]
    match j with
    | 0 => exact ⟨congrArg (·.typeId) (hsocket 0 hset), fun _ => hsocket 0 hset⟩
    | 1 => exact ⟨hsecond.symm, fun hset => absurd hsecond hset⟩
  · have hset : ∀ j, (cpf.addressInfoItem j).typeId ≠ 0 := by
      intro j
      match j with
      | 0 =>
          rw [show (cpf.addressInfoItem 0).typeId = _ from hfirst]
          decide
      | 1 =>
          rw [show (cpf.addressInfoItem 1).typeId = _ from hsecond]
          decide
    rw [hitems, if_neg (by decide)]
    exact ⟨congrArg (·.typeId) (hsocket j (hset j)), fun _ => hsocket j (hset j)⟩

/-- Parsing what `AssembleIOMessage` wrote gives the structure back, whatever the
structure that is parsed into held before. -/
theorem createCommonPacketFormatStructure_assembled {cpf : CommonPacketFormatData}
    (h : cpf.WellFormed) (old : CommonPacketFormatData) :
    ∃ decoded, createCommonPacketFormatStructure cpf.assembleIOMessage
        cpf.assembleIOMessage.length old = (.ok, decoded) ∧ Recovers cpf decoded := by
  have hcount : 2 ≤ cpf.itemCount := by
    rcases h.sockets with ⟨hitems, -⟩ | ⟨hitems, -⟩ | ⟨hitems, -⟩
    · rw [hitems]
      decide
    · rw [hitems]
      decide
    · rw [hitems]
      decide
  have hone : 1 ≤ cpf.itemCount := UInt16.le_trans (by decide) hcount
  let start : Parse :=
    { data := cpf.assembleIOMessage.drop 2
      lengthCount := 2
      cpf := { clearAddressInfoItem 1 (clearAddressInfoItem 0 old) with
        itemCount := cpf.itemCount } }
  obtain ⟨bytes, item, hbytes, hitem, hparse⟩ := parseAddressItem_written h (p := start)
    (intBytes cpf.dataItem.typeId ++ (intBytes cpf.dataItem.length ++
      (cpf.dataItem.data ++ cpf.socketBytes))) hone
  have hmessage : cpf.assembleIOMessage = intBytes cpf.itemCount ++ (bytes ++
      (intBytes cpf.dataItem.typeId ++ (intBytes cpf.dataItem.length ++
        (cpf.dataItem.data ++ cpf.socketBytes)))) := by
    rw [assembleIOMessage, hbytes]
    simp only [ioDataItemBytes_eq h, socketBytes, List.append_assoc]
  have hlength : cpf.assembleIOMessage.length =
      2 + bytes.length + 4 + cpf.dataItem.length.toNat + cpf.socketBytes.length := by
    have hword : ∀ value : UInt16, (intBytes value).length = 2 := fun _ => rfl
    rw [hmessage]
    simp only [List.length_append, hword, h.dataLength]
    omega
  have haddress := hparse (by
    change cpf.assembleIOMessage.drop 2 = _
    rw [hmessage]
    rfl)
  have hdata := parseDataItem_reads cpf.assembleIOMessage.length (p := parseAddressItem start)
    (by rw [haddress]; exact hcount) (by rw [haddress, getUint_intBytes])
    (getUint_intBytes cpf.dataItem.length (cpf.dataItem.data ++ cpf.socketBytes))
  rw [if_pos (by rw [haddress, hlength]; change 2 + _ + 4 + _ ≤ _; omega)] at hdata
  have hdrop : (cpf.dataItem.data ++ cpf.socketBytes).drop cpf.dataItem.length.toNat =
      cpf.socketBytes := by
    rw [← h.dataLength, List.drop_left]
  rw [hdrop, haddress] at hdata
  have hsockets := parseAddressInfoItems_written h (p :=
    { data := cpf.socketBytes
      lengthCount := 2 + bytes.length + 4 + cpf.dataItem.length.toNat
      cpf := { start.cpf with
        addressItem := item
        dataItem :=
          { typeId := cpf.dataItem.typeId
            length := cpf.dataItem.length
            data := cpf.dataItem.data ++ cpf.socketBytes } } }) rfl rfl
  generalize hq : parseAddressInfoItems _ = q at hdata hsockets
  have hstart : Message.getUint cpf.assembleIOMessage =
      (cpf.itemCount, cpf.assembleIOMessage.drop 2) := by
    rw [hmessage, getUint_intBytes]
    rfl
  have hitems : q.cpf.markUnset.itemCount = cpf.itemCount :=
    (markUnset_items q.cpf).1.trans hsockets.itemCount
  have hread : createCommonPacketFormatStructure cpf.assembleIOMessage
      cpf.assembleIOMessage.length old = (.ok, q.cpf.markUnset) := by
    rw [createCommonPacketFormatStructure]
    simp only [hstart]
    generalize hparsed : parseDataItem cpf.assembleIOMessage.length _ = parsed
    have hparsed : parseDataItem cpf.assembleIOMessage.length (parseAddressItem start) =
        parsed := hparsed
    rw [haddress, hdata] at hparsed
    rw [← hparsed]
    refine if_pos (.inl ?_)
    rw [hsockets.lengthCount, hlength]
  refine ⟨q.cpf.markUnset, hread, ?_⟩
  have hsocket := markUnset_sockets h hsockets.itemCount hsockets.socket
  have haddressItem : q.cpf.markUnset.addressItem = item :=
    (markUnset_items q.cpf).2.1.trans hsockets.addressItem
  have hdataItem := (markUnset_items q.cpf).2.2.trans hsockets.dataItem
  refine ⟨hitems, ?_, ?_, ?_, ?_, ?_, ?_, ?_, fun j => (hsocket j).1, fun j => (hsocket j).2⟩
  · rw [haddressItem, hitem.typeId]
  · rw [haddressItem, hitem.length]
  · rw [haddressItem]
    exact hitem.connectionIdentifier
  · rw [haddressItem]
    exact hitem.sequenceNumber
  · rw [hdataItem]
  · rw [hdataItem]
  · rw [hdataItem, ← h.dataLength, List.take_left]

/-- A packet on a connection with both socket address items. -/
theorem createCommonPacketFormatStructure_assembled_sample :
    let cpf : CommonPacketFormatData :=
      { itemCount := 4
        addressItem :=
          { typeId := ItemId.sequencedAddressItem
            length := 8
            connectionIdentifier := 0x12340013
            sequenceNumber := 7 }
        dataItem := { typeId := ItemId.connectedDataItem, length := 3, data := [1, 0, 42] }
        addressInfoItem0 :=
          { typeId := ItemId.socketAddressInfoOriginatorToTarget
            length := 16
            sinFamily := htons afInet
            sinPort := 0xAE08 }
        addressInfoItem1 :=
          { typeId := ItemId.socketAddressInfoTargetToOriginator
            length := 16
            sinFamily := htons afInet
            sinPort := 0xAE08
            sinAddr := 0x2001C0EF } }
    cpf.WellFormed ∧ ∃ decoded, createCommonPacketFormatStructure cpf.assembleIOMessage
      cpf.assembleIOMessage.length {} = (.ok, decoded) ∧ Recovers cpf decoded := by
  intro cpf
  have hwellFormed : cpf.WellFormed := by
    refine ⟨.inr (.inr ⟨rfl, rfl⟩), .inl rfl, rfl, .inr (.inr ⟨rfl, rfl, rfl⟩), fun j _ => ?_⟩
    match j with
    | 0 => exact ⟨rfl, rfl, rfl⟩
    | 1 => exact ⟨rfl, rfl, rfl⟩
  exact ⟨hwellFormed, createCommonPacketFormatStructure_assembled hwellFormed {}⟩

end CommonPacketFormatData

end Opener
