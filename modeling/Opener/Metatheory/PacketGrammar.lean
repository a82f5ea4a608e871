import Opener.Metatheory.CommonPacketFormat

/-!
The grammar of the common packet format and what the parser accepts. The parser
measures the address item by its own rule, checks the length of the packet only for
up to two items, and reads socket address items without a check; an input is parsed
as the grammar has it exactly when none of this matters.
-/

namespace Opener

namespace Message

variable {message : Message}

/-- The two bytes at an offset. -/
def word (message : Message) (offset : Nat) : UInt16 := (getUint (message.drop offset)).1

theorem getUint_drop (message : Message) (offset : Nat) :
    getUint (message.drop offset) = (message.word offset, message.drop (offset + 2)) := by
  rw [word, ← List.drop_drop]
  rfl

theorem getUdint_drop (message : Message) (offset : Nat) :
    (getUdint (message.drop offset)).2 = message.drop (offset + 4) := by
  rw [← List.drop_drop]
  rfl

theorem word_drop (message : Message) (i j : Nat) :
    word (message.drop i) j = message.word (i + j) := by
  rw [word, List.drop_drop, word]

theorem byteAt_append {bytes rest : Message} {i : Nat} (h : i < bytes.length) :
    byteAt (bytes ++ rest) i = byteAt bytes i := by
  simp [byteAt, List.getElem?_append_left h]

theorem byteAt_drop (message : Message) (i j : Nat) :
    byteAt (message.drop i) j = byteAt message (i + j) := by
  simp [byteAt]

theorem byteAt_take {message : Message} {i n : Nat} (h : i < n) :
    byteAt (message.take n) i = byteAt message i := by
  simp [byteAt, h]

theorem getUdint_congr {message message' : Message}
    (h : ∀ i < 4, byteAt message i = byteAt message' i) :
    (getUdint message).1 = (getUdint message').1 := by
  rw [getUdint, getUdint, h 0 (by omega), h 1 (by omega), h 2 (by omega), h 3 (by omega)]

/-- What lies inside the packet does not depend on what follows it. -/
theorem word_append {bytes rest : Message} {offset : Nat} (h : offset + 2 ≤ bytes.length) :
    word (bytes ++ rest) offset = bytes.word offset := by
  have hlength : offset ≤ bytes.length := by omega
  have hleft : (bytes.drop offset).length = bytes.length - offset := List.length_drop
  rw [word, word, List.drop_append_of_le_length hlength, getUint, getUint,
    byteAt_append (by omega), byteAt_append (by omega)]

theorem intBytes_word (message : Message) (offset : Nat) (h : offset + 2 ≤ message.length) :
    message.drop offset = intBytes (message.word offset) ++ message.drop (offset + 2) := by
  rw [← List.drop_drop]
  have hlength : (message.drop offset).length = message.length - offset := List.length_drop
  have hword : message.word offset = word (message.drop offset) 0 := by
    rw [word_drop, Nat.add_zero]
  rw [hword]
  generalize message.drop offset = rest at hlength ⊢
  match rest with
  | [] | [_] =>
      simp only [List.length_nil, List.length_cons] at hlength
      omega
  | low :: high :: rest =>
      have hlow : (word (low :: high :: rest) 0).toUInt8 = low := LittleEndian.word_low low high
      have hhigh : (word (low :: high :: rest) 0 >>> 8).toUInt8 = high :=
        LittleEndian.word_high low high
      rw [intBytes, hlow, hhigh]
      rfl

theorem word_intBytes (value : UInt16) (rest : Message) :
    word (intBytes value ++ rest) 0 = value := by
  rw [word, List.drop_zero, getUint_intBytes]

end Message

open Message (word)

/-- An item of the grammar: a type, a length, and that many bytes. -/
structure CpfItem where
  typeId : UInt16
  data : List UInt8
deriving DecidableEq, Repr

namespace CpfItem

def bytes (item : CpfItem) : List UInt8 :=
  intBytes item.typeId ++ (intBytes (UInt16.ofNat item.data.length) ++ item.data)

theorem length_bytes (item : CpfItem) : item.bytes.length = 4 + item.data.length := by
  have hword : ∀ value : UInt16, (intBytes value).length = 2 := fun _ => rfl
  rw [bytes, List.length_append, List.length_append, hword, hword]
  omega

theorem word_length {item : CpfItem} (h : item.data.length < 65536) (rest : Message) :
    (word (item.bytes ++ rest) 2).toNat = item.data.length := by
  rw [bytes, List.append_assoc, word]
  change ((Message.getUint ((intBytes _ ++ item.data) ++ rest)).1).toNat = _
  rw [List.append_assoc, Message.getUint_intBytes, UInt16.toNat_ofNat']
  exact Nat.mod_eq_of_lt h

theorem drop_header (item : CpfItem) (rest : Message) :
    (item.bytes ++ rest).drop 4 = item.data ++ rest := rfl

end CpfItem

/-- The grammar: the number of items and the items, nothing else. -/
structure IsPacket (packet : Message) (items : List CpfItem) : Prop where
  count : items.length < 65536
  lengths : ∀ item ∈ items, item.data.length < 65536
  bytes : packet = intBytes (UInt16.ofNat items.length) ++ items.flatMap CpfItem.bytes

/-- The bytes are that many items and nothing else. -/
def areItems : Nat → Message → Bool
  | 0, message => message.isEmpty
  | n + 1, message =>
      4 + (message.word 2).toNat ≤ message.length &&
        areItems n (message.drop (4 + (message.word 2).toNat))

/-- The item that starts here. -/
def itemAt (message : Message) : CpfItem :=
  { typeId := message.word 0
    data := (message.drop 4).take (message.word 2).toNat }

theorem length_itemAt {message : Message} (h : 4 + (message.word 2).toNat ≤ message.length) :
    (itemAt message).data.length = (message.word 2).toNat := by
  rw [itemAt, List.length_take, List.length_drop]
  omega

theorem eq_itemAt_append {message : Message}
    (h : 4 + (message.word 2).toNat ≤ message.length) :
    message = (itemAt message).bytes ++ message.drop (4 + (message.word 2).toNat) := by
  have hlength := length_itemAt h
  have htype := Message.intBytes_word message 0 (by omega)
  have hcount := Message.intBytes_word message 2 (by omega)
  have hdata := List.take_append_drop (message.word 2).toNat (message.drop 4)
  rw [List.drop_drop] at hdata
  rw [List.drop_zero] at htype
  rw [CpfItem.bytes, hlength, UInt16.ofNat_toNat, List.append_assoc, List.append_assoc]
  conv_lhs => rw [htype, hcount, ← hdata]
  rfl

theorem areItems_flatMap {items : List CpfItem}
    (h : ∀ item ∈ items, item.data.length < 65536) :
    areItems items.length (items.flatMap CpfItem.bytes) = true := by
  induction items with
  | nil => rfl
  | cons item items ih =>
      have hitem := h item List.mem_cons_self
      have hword : (word ((item :: items).flatMap CpfItem.bytes) 2).toNat = item.data.length := by
        rw [List.flatMap_cons]
        exact CpfItem.word_length hitem _
      rw [List.length_cons, areItems, hword, Bool.and_eq_true]
      refine ⟨?_, ?_⟩
      · rw [List.flatMap_cons, List.length_append, CpfItem.length_bytes, decide_eq_true_eq]
        omega
      · rw [List.flatMap_cons, ← CpfItem.length_bytes, List.drop_left]
        exact ih fun item hmem => h item (List.mem_cons_of_mem _ hmem)

theorem exists_items_of_areItems {n : Nat} {message : Message} (h : areItems n message = true) :
    ∃ items : List CpfItem, items.length = n ∧ (∀ item ∈ items, item.data.length < 65536) ∧
      message = items.flatMap CpfItem.bytes := by
  induction n generalizing message with
  | zero =>
      refine ⟨[], rfl, fun _ hmem => (by cases hmem), ?_⟩
      rw [areItems, List.isEmpty_iff] at h
      rw [h, List.flatMap_nil]
  | succ n ih =>
      rw [areItems, Bool.and_eq_true, decide_eq_true_eq] at h
      obtain ⟨items, hlength, hlengths, hrest⟩ := ih h.2
      refine ⟨itemAt message :: items, by rw [List.length_cons, hlength], ?_, ?_⟩
      · intro item hmem
        rcases List.mem_cons.mp hmem with rfl | hmem
        · rw [length_itemAt h.1]
          exact UInt16.toNat_lt _
        · exact hlengths item hmem
      · rw [List.flatMap_cons, ← hrest]
        exact eq_itemAt_append h.1

namespace CommonPacketFormatData

variable {data : Message} {dataLength : Nat} {old : CommonPacketFormatData}

/-- The address item as it stands in the packet. -/
structure AddressAt (data : Message) (item : AddressItem) : Prop where
  typeId : item.typeId = data.word 2
  length : item.length = data.word 4
  connectionIdentifier : 4 ≤ data.word 4 →
    item.connectionIdentifier = (Message.getUdint (data.drop 6)).1
  sequenceNumber : data.word 4 = 8 →
    item.sequenceNumber = (Message.getUdint (data.drop 10)).1

theorem parseAddressItem_at (data : Message) {p : Parse} (hcount : 1 ≤ p.cpf.itemCount)
    (hdata : p.data = data.drop 2) (hlength : p.lengthCount = 2) :
    ∃ item, AddressAt data item ∧ parseAddressItem p =
      { data := data.drop (addressItemEnd (data.word 4))
        lengthCount := addressItemEnd (data.word 4)
        cpf := { p.cpf with addressItem := item } } := by
  rw [parseAddressItem, if_pos hcount, hdata, hlength]
  simp only [Message.getUint_drop, addressItemEnd]
  by_cases hshort : data.word 4 ≥ 4
  · by_cases hlong : data.word 4 = 8
    · simp only [if_pos hshort, if_pos hlong, Message.getUdint_drop]
      exact ⟨_, ⟨rfl, rfl, fun _ => rfl, fun _ => rfl⟩, rfl⟩
    · simp only [if_pos hshort, if_neg hlong, Message.getUdint_drop]
      exact ⟨_, ⟨rfl, rfl, fun _ => rfl, fun hcontra => absurd hcontra hlong⟩, rfl⟩
  · have hlong : data.word 4 ≠ 8 := by
      intro hcontra
      rw [hcontra] at hshort
      exact hshort (by decide)
    simp only [if_neg hshort, if_neg hlong]
    exact ⟨_, ⟨rfl, rfl, fun hcontra => absurd hcontra hshort,
      fun hcontra => absurd hcontra hlong⟩, rfl⟩

/-- The offset of the first item after the data item. -/
def dataItemEnd (data : Message) : Nat :=
  addressItemEnd (data.word 4) + 4 + (data.word (addressItemEnd (data.word 4) + 2)).toNat

theorem parseAddressInfoItem_frame (j : Fin 2) (p : Parse) :
    (parseAddressInfoItem j p).cpf.itemCount = p.cpf.itemCount ∧
      (parseAddressInfoItem j p).cpf.addressItem = p.cpf.addressItem ∧
      (parseAddressInfoItem j p).cpf.dataItem = p.cpf.dataItem := by
  have hset : ∀ item, (p.cpf.setAddressInfoItem j item).itemCount = p.cpf.itemCount ∧
      (p.cpf.setAddressInfoItem j item).addressItem = p.cpf.addressItem ∧
      (p.cpf.setAddressInfoItem j item).dataItem = p.cpf.dataItem := by
    intro item
    match j with
    | 0 | 1 => exact ⟨rfl, rfl, rfl⟩
  rw [parseAddressInfoItem]
  simp only
  split
  · exact hset _
  · exact hset _

/-- The loop over the socket address items leaves the other items alone, and does
nothing when there are two items. -/
theorem parseAddressInfoItems_frame (p : Parse) :
    (parseAddressInfoItems p).cpf.itemCount = p.cpf.itemCount ∧
      (parseAddressInfoItems p).cpf.addressItem = p.cpf.addressItem ∧
      (parseAddressInfoItems p).cpf.dataItem = p.cpf.dataItem ∧
      (p.cpf.itemCount = 2 → (parseAddressInfoItems p).lengthCount = p.lengthCount) := by
  have hfirst := parseAddressInfoItem_frame 0 p
  rw [parseAddressInfoItems]
  by_cases hone : p.cpf.itemCount - 2 ≥ 1
  · have htwo : p.cpf.itemCount ≠ 2 := by
      intro hcontra
      rw [hcontra] at hone
      exact absurd hone (by decide)
    have hsecond := parseAddressInfoItem_frame 1 (parseAddressInfoItem 0 p)
    simp only [if_pos hone]
    split
    · exact ⟨hsecond.1.trans hfirst.1, hsecond.2.1.trans hfirst.2.1,
        hsecond.2.2.trans hfirst.2.2, fun hcontra => absurd hcontra htwo⟩
    · exact ⟨hfirst.1, hfirst.2.1, hfirst.2.2, fun hcontra => absurd hcontra htwo⟩
  · have hmore : ¬p.cpf.itemCount - 2 ≥ 2 := fun hcontra =>
      hone (UInt16.le_trans (by decide) hcontra)
    simp only [if_neg hone, if_neg hmore, implies_true, and_self]

/-- The state in which the first item is read. -/
def parseStart (data : Message) (old : CommonPacketFormatData) : Parse :=
  { data := data.drop 2
    lengthCount := 2
    cpf := { clearAddressInfoItem 1 (clearAddressInfoItem 0 old) with
      itemCount := data.word 0 } }

/-- The check of the length at the end. -/
def parseEnd (dataLength : Nat) (p : Parse) : EipStatus × CommonPacketFormatData :=
  if p.lengthCount = dataLength ∨ p.cpf.itemCount > 2 then (.ok, p.cpf.markUnset)
  else (.error, p.cpf.markUnset)

theorem createCommonPacketFormatStructure_eq (data : Message) (dataLength : Nat)
    (old : CommonPacketFormatData) :
    createCommonPacketFormatStructure data dataLength old =
      match parseDataItem dataLength (parseAddressItem (parseStart data old)) with
      | (false, p) => (.error, p.cpf)
      | (true, p) => parseEnd dataLength p := by
  rw [createCommonPacketFormatStructure]
  change (match parseDataItem dataLength (parseAddressItem (parseStart data old)) with
    | (false, p) => (EipStatus.error, p.cpf)
    | (true, p) =>
        if p.lengthCount = dataLength ∨ p.cpf.markUnset.itemCount > 2 then
          (.ok, p.cpf.markUnset)
        else (.error, p.cpf.markUnset)) = _
  simp only [(markUnset_items _).1]
  rfl

theorem parseEnd_status (dataLength : Nat) (p : Parse) :
    (parseEnd dataLength p).1 = .ok ↔ p.lengthCount = dataLength ∨ p.cpf.itemCount > 2 := by
  rw [parseEnd]
  split
  · rename_i h
    exact ⟨fun _ => h, fun _ => rfl⟩
  · rename_i h
    exact ⟨fun hcontra => (by cases hcontra), fun hcontra => absurd hcontra h⟩

theorem parseEnd_stored (dataLength : Nat) (p : Parse) :
    (parseEnd dataLength p).2 = p.cpf.markUnset := by
  rw [parseEnd]
  split
  · rfl
  · rfl

theorem parseDataItem_skips {p : Parse} (h : ¬2 ≤ p.cpf.itemCount) :
    parseDataItem dataLength p = (true, p) := by
  rw [parseDataItem, if_neg h]

theorem createCommonPacketFormatStructure_few (dataLength : Nat) (old : CommonPacketFormatData)
    (hcount : ¬2 ≤ data.word 0) :
    (createCommonPacketFormatStructure data dataLength old).1 = .ok ↔
      dataLength = if data.word 0 = 0 then 2 else addressItemEnd (data.word 4) := by
  have hsmall : ¬data.word 0 > 2 := fun hcontra =>
    hcount (UInt16.le_of_lt hcontra)
  rw [createCommonPacketFormatStructure_eq]
  by_cases hone : 1 ≤ data.word 0
  · obtain ⟨item, -, hparse⟩ := parseAddressItem_at data (p := parseStart data old)
      hone rfl rfl
    have hzero : data.word 0 ≠ 0 := by
      intro hcontra
      rw [hcontra] at hone
      exact absurd hone (by decide)
    rw [hparse, parseDataItem_skips hcount, if_neg hzero]
    simp only
    rw [parseEnd_status]
    exact (or_iff_left hsmall).trans eq_comm
  · have hzero : data.word 0 = 0 := by
      rw [UInt16.not_le] at hone
      exact UInt16.lt_one_iff.mp hone
    have hparse : parseAddressItem (parseStart data old) = parseStart data old := by
      rw [parseAddressItem]
      exact if_neg hone
    rw [hparse, parseDataItem_skips hcount, if_pos hzero]
    simp only
    rw [parseEnd_status]
    exact (or_iff_left hsmall).trans eq_comm

theorem createCommonPacketFormatStructure_many (dataLength : Nat) (old : CommonPacketFormatData)
    (hcount : 2 ≤ data.word 0) :
    ((createCommonPacketFormatStructure data dataLength old).1 = .ok ↔
      if data.word 0 = 2 then dataLength = dataItemEnd data else dataItemEnd data ≤ dataLength) ∧
    (dataItemEnd data ≤ dataLength →
      AddressAt data (createCommonPacketFormatStructure data dataLength old).2.addressItem ∧
      (createCommonPacketFormatStructure data dataLength old).2.dataItem =
        { typeId := data.word (addressItemEnd (data.word 4))
          length := data.word (addressItemEnd (data.word 4) + 2)
          data := data.drop (addressItemEnd (data.word 4) + 4) }) := by
  obtain ⟨item, hitem, hparse⟩ := parseAddressItem_at data (p := parseStart data old)
    (UInt16.le_trans (by decide) hcount) rfl rfl
  have hreads := parseDataItem_reads dataLength
    (p := parseAddressItem (parseStart data old)) (by rw [hparse]; exact hcount)
    (by rw [hparse]; exact Message.getUint_drop data _) (Message.getUint_drop data _)
  rw [createCommonPacketFormatStructure_eq, hreads]
  by_cases hfits : dataItemEnd data ≤ dataLength
  · rw [if_pos (by rw [hparse]; exact hfits), hparse]
    simp only
    generalize hq : ({ data := _, lengthCount := _, cpf := _ } : Parse) = q
    have hframe := parseAddressInfoItems_frame q
    have hq_count : q.cpf.itemCount = data.word 0 := by rw [← hq]; rfl
    refine ⟨?_, fun _ => ?_⟩
    · rw [parseEnd_status, hframe.1, hq_count]
      by_cases htwo : data.word 0 = 2
      · rw [hframe.2.2.2 (hq_count.trans htwo), if_pos htwo, htwo, ← hq]
        refine (or_iff_left (by decide)).trans eq_comm
      · rw [if_neg htwo]
        have hmore : data.word 0 > 2 :=
          UInt16.lt_of_le_of_ne hcount (Ne.symm htwo)
        exact ⟨fun _ => hfits, fun _ => .inr hmore⟩
    · rw [parseEnd_stored, (markUnset_items _).2.1, (markUnset_items _).2.2, hframe.2.1,
        hframe.2.2.1, ← hq]
      exact ⟨hitem, rfl⟩
  · rw [if_neg (by rw [hparse]; exact hfits)]
    refine ⟨⟨fun hcontra => (by cases hcontra), fun haccepted => ?_⟩,
      fun hcontra => absurd hcontra hfits⟩
    split at haccepted
    · exact absurd (Nat.le_of_eq haccepted.symm) hfits
    · exact absurd haccepted hfits

/-- The stored address item and data item are these two items of a packet; the data
item is a pointer into the received bytes. -/
structure StoresItems (address data : CpfItem) (following : Message)
    (cpf : CommonPacketFormatData) : Prop where
  addressType : cpf.addressItem.typeId = address.typeId
  addressLength : cpf.addressItem.length.toNat = address.data.length
  connectionIdentifier : 4 ≤ cpf.addressItem.length →
    cpf.addressItem.connectionIdentifier = (Message.getUdint address.data).1
  sequenceNumber : cpf.addressItem.length = 8 →
    cpf.addressItem.sequenceNumber = (Message.getUdint (address.data.drop 4)).1
  dataType : cpf.dataItem.typeId = data.typeId
  dataLength : cpf.dataItem.length.toNat = data.data.length
  data : cpf.dataItem.data = data.data ++ following

/-- The packet is followed by other bytes in the receive buffer: the parser stays in
the packet, and what it accepts is a packet of the grammar whose first two items it has
stored. -/
def ParsesPacket (packet rest : Message) (old : CommonPacketFormatData) : Prop :=
  bytesRead (packet ++ rest) packet.length ≤ packet.length ∧
    ((createCommonPacketFormatStructure (packet ++ rest) packet.length old).1 = .ok →
      ∃ address data others, IsPacket packet (address :: data :: others) ∧
        StoresItems address data (others.flatMap CpfItem.bytes ++ rest)
          (createCommonPacketFormatStructure (packet ++ rest) packet.length old).2)

/-- Socket address items are read as twenty bytes, whatever their length field says. -/
def socketItemsInside (packet : Message) : Bool :=
  let others := dataItemEnd packet
  packet.word 0 = 2 || !isSocketAddressInfoAt packet others ||
    if packet.word 0 = 3 then others + 20 ≤ packet.length
    else if isSocketAddressInfoAt packet (others + 20) then others + 40 ≤ packet.length
    else others + 22 ≤ packet.length

/-- The packets on which the parser does what the grammar says. Those with no item or
one item have to be refused, which takes a byte too many; the headers of two items have
to be there; a packet that is accepted has an address item of a length that the parser
knows, and the items that its count announces. -/
def parsedByGrammar (packet : Message) : Bool :=
  let count := packet.word 0
  let dataItem := addressItemEnd (packet.word 4)
  let others := dataItemEnd packet
  2 ≤ packet.length &&
    if count = 0 then packet.length ≠ 2
    else if count = 1 then dataItem < packet.length
    else dataItem + 4 ≤ packet.length &&
      (packet.length < others || (count = 2 && others < packet.length) ||
        (dataItem = 6 + (packet.word 4).toNat &&
          areItems (count.toNat - 2) (packet.drop others) && socketItemsInside packet))

theorem le_addressItemEnd (length : UInt16) : 6 ≤ addressItemEnd length := by
  rw [addressItemEnd]
  omega

theorem IsPacket.words {packet : Message} {address data : CpfItem} {others : List CpfItem}
    (h : IsPacket packet (address :: data :: others)) :
    (packet.word 0).toNat = others.length + 2 ∧
      (packet.word 4).toNat = address.data.length ∧
      packet.drop (10 + address.data.length) = data.data ++ others.flatMap CpfItem.bytes ∧
      packet.length = 10 + address.data.length + data.data.length +
        (others.flatMap CpfItem.bytes).length := by
  have hcount := h.count
  have haddress := h.lengths address List.mem_cons_self
  have hbytes := h.bytes
  rw [List.flatMap_cons, List.flatMap_cons] at hbytes
  have hdrop : packet.drop 2 =
      address.bytes ++ (data.bytes ++ others.flatMap CpfItem.bytes) := by
    rw [hbytes]
    rfl
  refine ⟨?_, ?_, ?_, ?_⟩
  · rw [hbytes, Message.word_intBytes, UInt16.toNat_ofNat']
    exact Nat.mod_eq_of_lt hcount
  · have hword := Message.word_drop packet 2 2
    rw [← hword, hdrop]
    exact CpfItem.word_length haddress _
  · have hoffset : 10 + address.data.length = 2 + (address.bytes.length + 4) := by
      rw [CpfItem.length_bytes]
      omega
    rw [hoffset, ← List.drop_drop, hdrop, ← List.drop_drop, List.drop_left]
    exact CpfItem.drop_header data _
  · have hword : ∀ value : UInt16, (intBytes value).length = 2 := fun _ => rfl
    rw [hbytes]
    simp only [List.length_append, hword, CpfItem.length_bytes]
    omega

/-- Where the parser measures the address item as the grammar does, it stores the first
two items. -/
theorem storesItems_itemAt {packet rest : Message} {cpf : CommonPacketFormatData}
    (hmeasured : addressItemEnd (packet.word 4) = 6 + (packet.word 4).toNat)
    (hend : dataItemEnd packet ≤ packet.length)
    (haddress : AddressAt (packet ++ rest) cpf.addressItem)
    (hdata : cpf.dataItem =
      { typeId := (packet ++ rest).word (addressItemEnd (packet.word 4))
        length := (packet ++ rest).word (addressItemEnd (packet.word 4) + 2)
        data := (packet ++ rest).drop (addressItemEnd (packet.word 4) + 4) }) :
    StoresItems (itemAt (packet.drop 2))
      (itemAt (packet.drop (addressItemEnd (packet.word 4))))
      (packet.drop (dataItemEnd packet) ++ rest) cpf := by
  rw [dataItemEnd] at hend ⊢
  generalize hlength : packet.word (addressItemEnd (packet.word 4) + 2) = length at hend ⊢
  have hword₀ : word (packet.drop 2) 2 = packet.word 4 := Message.word_drop packet 2 2
  have hword₁ : word (packet.drop (addressItemEnd (packet.word 4))) 2 = length := by
    rw [Message.word_drop, hlength]
  have haddressLength : cpf.addressItem.length = packet.word 4 := by
    rw [haddress.length, Message.word_append (by omega)]
  refine ⟨?_, ?_, fun hfour => ?_, fun height => ?_, ?_, ?_, ?_⟩
  · rw [haddress.typeId, Message.word_append (by omega)]
    exact (Message.word_drop packet 2 0).symm
  · rw [haddressLength, length_itemAt (by rw [hword₀, List.length_drop]; omega), hword₀]
  · rw [haddressLength] at hfour
    have hfour' : 4 ≤ (packet.word 4).toNat := UInt16.le_iff_toNat_le.mp hfour
    rw [haddress.connectionIdentifier (by rw [Message.word_append (by omega)]; exact hfour)]
    refine Message.getUdint_congr fun i hi => ?_
    rw [itemAt, hword₀, Message.byteAt_take (by omega), List.drop_drop, Message.byteAt_drop,
      Message.byteAt_drop, Message.byteAt_append (by omega)]
  · rw [haddressLength] at height
    have height' : (packet.word 4).toNat = 8 := by rw [height]; rfl
    rw [haddress.sequenceNumber (by rw [Message.word_append (by omega)]; exact height)]
    refine Message.getUdint_congr fun i hi => ?_
    rw [itemAt, hword₀, Message.byteAt_drop, Message.byteAt_drop,
      Message.byteAt_take (by omega), List.drop_drop, Message.byteAt_drop,
      Message.byteAt_append (by omega), ← Nat.add_assoc]
  · rw [hdata]
    change word (packet ++ rest) _ = _
    rw [Message.word_append (by omega)]
    exact (Message.word_drop packet _ 0).symm
  · rw [hdata, length_itemAt (by rw [hword₁, List.length_drop]; omega), hword₁]
    change (word (packet ++ rest) _).toNat = _
    rw [Message.word_append (by omega), hlength]
  · rw [hdata, itemAt, hword₁, List.drop_drop]
    change (packet ++ rest).drop _ = (packet.drop _).take _ ++ _
    have htake := List.take_append_drop length.toNat
      (packet.drop (addressItemEnd (packet.word 4) + 4))
    rw [List.drop_drop] at htake
    rw [List.drop_append_of_le_length (by omega), ← List.append_assoc, htake]

/-- What is stored of an accepted packet are its first two items exactly when the parser
measures the address item as the grammar does and the rest is made of items. -/
theorem storesItems_iff {packet rest : Message} {cpf : CommonPacketFormatData}
    (hcount : 2 ≤ packet.word 0) (hend : dataItemEnd packet ≤ packet.length)
    (haddress : AddressAt (packet ++ rest) cpf.addressItem)
    (hdata : cpf.dataItem =
      { typeId := (packet ++ rest).word (addressItemEnd (packet.word 4))
        length := (packet ++ rest).word (addressItemEnd (packet.word 4) + 2)
        data := (packet ++ rest).drop (addressItemEnd (packet.word 4) + 4) }) :
    (∃ address data others, IsPacket packet (address :: data :: others) ∧
      StoresItems address data (others.flatMap CpfItem.bytes ++ rest) cpf) ↔
      addressItemEnd (packet.word 4) = 6 + (packet.word 4).toNat ∧
        areItems ((packet.word 0).toNat - 2) (packet.drop (dataItemEnd packet)) = true := by
  have hsix := le_addressItemEnd (packet.word 4)
  have hinside : addressItemEnd (packet.word 4) + 4 ≤ packet.length := by
    rw [dataItemEnd] at hend
    omega
  have hlength₀ : (packet ++ rest).word 4 = packet.word 4 := Message.word_append (by omega)
  have hlength₁ : (packet ++ rest).word (addressItemEnd (packet.word 4) + 2) =
      packet.word (addressItemEnd (packet.word 4) + 2) := Message.word_append (by omega)
  constructor
  · rintro ⟨address, data, others, hpacket, hstores⟩
    obtain ⟨hitems, halength, hrest, htotal⟩ := IsPacket.words hpacket
    have hpointer := hstores.data
    have hdlength := hstores.dataLength
    rw [hdata] at hpointer hdlength
    have hmeasured : addressItemEnd (packet.word 4) = 6 + (packet.word 4).toNat := by
      have hlengths := congrArg List.length hpointer
      simp only [List.length_drop, List.length_append] at hlengths
      omega
    refine ⟨hmeasured, ?_⟩
    have hothers : packet.drop (dataItemEnd packet) = others.flatMap CpfItem.bytes := by
      have hoffset : dataItemEnd packet = 10 + address.data.length + data.data.length := by
        rw [dataItemEnd, ← hlength₁, hmeasured, halength]
        simp only [hmeasured, halength] at hdlength
        omega
      rw [hoffset, ← List.drop_drop, hrest, List.drop_left]
    rw [hothers, hitems, Nat.add_sub_cancel]
    exact areItems_flatMap fun item hmem =>
      hpacket.lengths item (List.mem_cons_of_mem _ (List.mem_cons_of_mem _ hmem))
  · rintro ⟨hmeasured, hareItems⟩
    obtain ⟨others, hothers, hlengths, hrest⟩ := exists_items_of_areItems hareItems
    have htwo : 2 ≤ (packet.word 0).toNat := UInt16.le_iff_toNat_le.mp hcount
    have hword₀ : word (packet.drop 2) 2 = packet.word 4 := Message.word_drop packet 2 2
    have hword₁ : word (packet.drop (addressItemEnd (packet.word 4))) 2 =
        packet.word (addressItemEnd (packet.word 4) + 2) := Message.word_drop packet _ 2
    have hfits₀ : 4 + (word (packet.drop 2) 2).toNat ≤ (packet.drop 2).length := by
      rw [hword₀, List.length_drop]
      omega
    have hfits₁ : 4 + (word (packet.drop (addressItemEnd (packet.word 4))) 2).toNat ≤
        (packet.drop (addressItemEnd (packet.word 4))).length := by
      rw [hword₁, List.length_drop]
      rw [dataItemEnd] at hend
      omega
    have hsplit₀ := eq_itemAt_append hfits₀
    have hsplit₁ := eq_itemAt_append hfits₁
    have hoffset₀ : 2 + (4 + (packet.word 4).toNat) = addressItemEnd (packet.word 4) := by
      omega
    have hoffset₁ : addressItemEnd (packet.word 4) +
        (4 + (packet.word (addressItemEnd (packet.word 4) + 2)).toNat) = dataItemEnd packet := by
      rw [dataItemEnd]
      omega
    rw [List.drop_drop, hword₀, hoffset₀] at hsplit₀
    rw [List.drop_drop, hword₁, hoffset₁, hrest] at hsplit₁
    refine ⟨itemAt (packet.drop 2), itemAt (packet.drop (addressItemEnd (packet.word 4))), others,
      ⟨?_, ?_, ?_⟩, ?_⟩
    · have hword := UInt16.toNat_lt (packet.word 0)
      rw [List.length_cons, List.length_cons, hothers]
      omega
    · intro item hmem
      rcases List.mem_cons.mp hmem with rfl | hmem
      · rw [length_itemAt hfits₀]
        exact UInt16.toNat_lt _
      · rcases List.mem_cons.mp hmem with rfl | hmem
        · rw [length_itemAt hfits₁]
          exact UInt16.toNat_lt _
        · exact hlengths item hmem
    · have hfirst := Message.intBytes_word packet 0 (by omega)
      have hnumber : others.length + 1 + 1 = (packet.word 0).toNat := by omega
      rw [List.drop_zero] at hfirst
      rw [List.length_cons, List.length_cons, hnumber, UInt16.ofNat_toNat, List.flatMap_cons,
        List.flatMap_cons, ← hsplit₁, ← hsplit₀]
      exact hfirst
    · rw [← hrest]
      exact storesItems_itemAt hmeasured hend haddress hdata

theorem ne_of_two_le {count : UInt16} (h : 2 ≤ count) : count ≠ 0 ∧ count ≠ 1 := by
  refine ⟨?_, ?_⟩
  · rintro rfl
    exact absurd h (by decide)
  · rintro rfl
    exact absurd h (by decide)

theorem eq_one_of_few {count : UInt16} (h : ¬2 ≤ count) (hzero : count ≠ 0) : count = 1 := by
  rw [UInt16.not_le] at h
  have hlt : count.toNat < 2 := UInt16.lt_iff_toNat_lt.mp h
  have hne : count.toNat ≠ 0 := fun hcontra => hzero (UInt16.toNat_inj.mp hcontra)
  refine UInt16.toNat_inj.mp ?_
  change count.toNat = 1
  omega

theorem bytesRead_eq (data : Message) (dataLength : Nat) :
    bytesRead data dataLength =
      if data.word 0 = 0 then 2
      else if data.word 0 = 1 then addressItemEnd (data.word 4)
      else if data.word 0 = 2 ∨ dataLength < dataItemEnd data then
        addressItemEnd (data.word 4) + 4
      else if isSocketAddressInfoAt data (dataItemEnd data) then
        if data.word 0 = 3 then dataItemEnd data + 20
        else if isSocketAddressInfoAt data (dataItemEnd data + 20) then dataItemEnd data + 40
        else dataItemEnd data + 22
      else dataItemEnd data + 2 := rfl

theorem two_le_bytesRead (data : Message) (dataLength : Nat) :
    2 ≤ bytesRead data dataLength := by
  have hsix := le_addressItemEnd (data.word 4)
  have hothers : addressItemEnd (data.word 4) + 4 ≤ dataItemEnd data := by
    rw [dataItemEnd]
    omega
  rw [bytesRead_eq]
  repeat' split
  all_goals omega

theorem headers_le_bytesRead {data : Message} (hcount : 2 ≤ data.word 0) (dataLength : Nat) :
    addressItemEnd (data.word 4) + 4 ≤ bytesRead data dataLength := by
  have hothers : addressItemEnd (data.word 4) + 4 ≤ dataItemEnd data := by
    rw [dataItemEnd]
    omega
  rw [bytesRead_eq, if_neg (ne_of_two_le hcount).1, if_neg (ne_of_two_le hcount).2]
  repeat' split
  all_goals omega

theorem isSocketAddressInfoAt_append {packet rest : Message} {offset : Nat}
    (h : offset + 2 ≤ packet.length) :
    isSocketAddressInfoAt (packet ++ rest) offset = isSocketAddressInfoAt packet offset := by
  have hword : (packet ++ rest).word offset = packet.word offset := Message.word_append h
  rw [word, word] at hword
  rw [isSocketAddressInfoAt, isSocketAddressInfoAt, hword]

/-- A packet whose headers are inside, with what follows it in the buffer. -/
theorem dataItemEnd_append {packet : Message} (rest : Message) (hsix : 6 ≤ packet.length)
    (hheaders : addressItemEnd (packet.word 4) + 4 ≤ packet.length) :
    addressItemEnd ((packet ++ rest).word 4) = addressItemEnd (packet.word 4) ∧
      dataItemEnd (packet ++ rest) = dataItemEnd packet := by
  have haddress : (packet ++ rest).word 4 = packet.word 4 := Message.word_append (by omega)
  rw [dataItemEnd, dataItemEnd, haddress, Message.word_append (by omega)]
  exact ⟨rfl, rfl⟩

/-- Where the other items are there, the parser stays inside exactly when the socket
address items that it reads are inside. -/
theorem bytesRead_le_iff {packet rest : Message} (hcount : 2 ≤ packet.word 0)
    (hend : dataItemEnd packet ≤ packet.length)
    (hitems : areItems ((packet.word 0).toNat - 2) (packet.drop (dataItemEnd packet)) = true) :
    bytesRead (packet ++ rest) packet.length ≤ packet.length ↔
      socketItemsInside packet = true := by
  have hsix := le_addressItemEnd (packet.word 4)
  have hheaders : addressItemEnd (packet.word 4) + 4 ≤ packet.length := by
    rw [dataItemEnd] at hend
    omega
  obtain ⟨hdataItem, hothers⟩ := dataItemEnd_append rest (by omega) hheaders
  obtain ⟨hzero, hone⟩ := ne_of_two_le hcount
  rw [bytesRead_eq, hdataItem, hothers, Message.word_append (by omega), if_neg hzero,
    if_neg hone, socketItemsInside]
  by_cases htwo : packet.word 0 = 2
  · rw [if_pos (.inl htwo)]
    simp only [htwo, decide_true, Bool.true_or, iff_true]
    exact hheaders
  · -- the third item is there, so its type is read inside the packet
    have hthird : dataItemEnd packet + 2 ≤ packet.length := by
      have hnumber : (packet.word 0).toNat - 2 = ((packet.word 0).toNat - 3) + 1 := by
        have hlt : 2 < (packet.word 0).toNat :=
          UInt16.lt_iff_toNat_lt.mp (UInt16.lt_of_le_of_ne hcount (Ne.symm htwo))
        omega
      rw [hnumber, areItems, Bool.and_eq_true, decide_eq_true_eq, List.length_drop] at hitems
      omega
    rw [if_neg (by rintro (hcontra | hcontra); exacts [htwo hcontra, by omega]),
      isSocketAddressInfoAt_append hthird]
    simp only [htwo, decide_false, Bool.false_or]
    by_cases hsocket : isSocketAddressInfoAt packet (dataItemEnd packet) = true
    · rw [if_pos hsocket, hsocket, Bool.not_true, Bool.false_or]
      by_cases hthree : packet.word 0 = 3
      · rw [if_pos hthree, if_pos hthree, decide_eq_true_eq]
      · rw [if_neg hthree, if_neg hthree]
        by_cases hfourth : dataItemEnd packet + 20 + 2 ≤ packet.length
        · rw [isSocketAddressInfoAt_append hfourth]
          split
          · rw [decide_eq_true_eq]
          · rw [decide_eq_true_eq]
        · constructor
          · intro hle
            split at hle
            · omega
            · omega
          · intro hinside
            split at hinside
            · have := of_decide_eq_true hinside
              omega
            · have := of_decide_eq_true hinside
              omega
    · rw [if_neg hsocket, Bool.not_eq_true _ |>.mp hsocket]
      simp only [Bool.not_false, Bool.true_or, iff_true]
      exact hthird

theorem IsPacket.two_le {packet : Message} {address data : CpfItem} {others : List CpfItem}
    (h : IsPacket packet (address :: data :: others)) : 2 ≤ packet.word 0 := by
  obtain ⟨hitems, -⟩ := IsPacket.words h
  refine UInt16.le_iff_toNat_le.mpr ?_
  rw [hitems]
  change 2 ≤ _
  omega

theorem parsesPacket_few {packet rest : Message} {old : CommonPacketFormatData}
    (hcount : ¬2 ≤ packet.word 0) (htwo : 2 ≤ packet.length) :
    ParsesPacket packet rest old ↔
      if packet.word 0 = 0 then packet.length ≠ 2
      else addressItemEnd (packet.word 4) < packet.length := by
  have hword : (packet ++ rest).word 0 = packet.word 0 := Message.word_append (by omega)
  have hstatus := createCommonPacketFormatStructure_few packet.length old
    (by rw [hword]; exact hcount)
  have hrefused : ParsesPacket packet rest old ↔
      bytesRead (packet ++ rest) packet.length ≤ packet.length ∧
        ¬(createCommonPacketFormatStructure (packet ++ rest) packet.length old).1 = .ok := by
    refine and_congr_right fun _ =>
      ⟨fun haccepts hok => ?_, fun hrefuses hok => absurd hok hrefuses⟩
    obtain ⟨address, data, others, hpacket, -⟩ := haccepts hok
    exact hcount (IsPacket.two_le hpacket)
  rw [hrefused, hstatus, bytesRead_eq, hword]
  by_cases hzero : packet.word 0 = 0
  · rw [if_pos hzero, if_pos hzero, if_pos hzero]
    omega
  · rw [if_neg hzero, if_pos (eq_one_of_few hcount hzero), if_neg hzero,
      if_neg hzero]
    have hsix := le_addressItemEnd (packet.word 4)
    have hsix' := le_addressItemEnd ((packet ++ rest).word 4)
    by_cases hlength : 6 ≤ packet.length
    · rw [Message.word_append (by omega)]
      omega
    · omega

/-- With two items or more: the headers are inside, and the packet is refused or it is
one of the grammar with its socket address items inside. -/
theorem parsesPacket_many {packet rest : Message} {old : CommonPacketFormatData}
    (hcount : 2 ≤ packet.word 0) (htwo : 2 ≤ packet.length) :
    ParsesPacket packet rest old ↔
      addressItemEnd (packet.word 4) + 4 ≤ packet.length ∧
        ((packet.length < dataItemEnd packet ∨
          (packet.word 0 = 2 ∧ dataItemEnd packet < packet.length)) ∨
          (addressItemEnd (packet.word 4) = 6 + (packet.word 4).toNat ∧
            areItems ((packet.word 0).toNat - 2) (packet.drop (dataItemEnd packet)) = true) ∧
            socketItemsInside packet = true) := by
  have hsix := le_addressItemEnd (packet.word 4)
  have hsix' := le_addressItemEnd ((packet ++ rest).word 4)
  have hword : (packet ++ rest).word 0 = packet.word 0 := Message.word_append (by omega)
  have hread := headers_le_bytesRead (by rw [hword]; exact hcount) packet.length
  by_cases hheaders : addressItemEnd (packet.word 4) + 4 ≤ packet.length
  · obtain ⟨hdataItem, hothers⟩ := dataItemEnd_append rest (by omega) hheaders
    have haddress : (packet ++ rest).word 4 = packet.word 4 := Message.word_append (by omega)
    obtain ⟨hstatus, hstored⟩ := createCommonPacketFormatStructure_many packet.length old
      (by rw [hword]; exact hcount)
    rw [hothers, hword] at hstatus
    rw [hothers, haddress] at hstored
    by_cases hrefused : packet.length < dataItemEnd packet ∨
        (packet.word 0 = 2 ∧ dataItemEnd packet < packet.length)
    · -- the parser returns an error after the two headers
      refine ⟨fun _ => ⟨hheaders, .inl hrefused⟩, fun _ => ⟨?_, fun hok => ?_⟩⟩
      · obtain ⟨hzero, hone⟩ := ne_of_two_le hcount
        have hbranch : packet.word 0 = 2 ∨ packet.length < dataItemEnd packet :=
          hrefused.elim .inr fun h => .inl h.1
        rw [bytesRead_eq, hword, hdataItem, hothers, if_neg hzero, if_neg hone, if_pos hbranch]
        exact hheaders
      · have haccepted := hstatus.mp hok
        split at haccepted
        · omega
        · rename_i hmore
          rcases hrefused with hshort | ⟨hpair, -⟩
          · omega
          · exact absurd hpair hmore
    · have hend : dataItemEnd packet ≤ packet.length := by
        by_contra hcontra
        exact hrefused (.inl (by omega))
      have hok :
          (createCommonPacketFormatStructure (packet ++ rest) packet.length old).1 = .ok := by
        refine hstatus.mpr ?_
        split
        · rename_i hpair
          by_contra hcontra
          exact hrefused (.inr ⟨hpair, by omega⟩)
        · exact hend
      obtain ⟨haddressAt, hdataAt⟩ := hstored hend
      have hstores := storesItems_iff hcount hend haddressAt hdataAt
      constructor
      · rintro ⟨hinside, haccepts⟩
        have hgrammar := hstores.mp (haccepts hok)
        exact ⟨hheaders, .inr ⟨hgrammar, (bytesRead_le_iff hcount hend hgrammar.2).mp hinside⟩⟩
      · rintro ⟨-, hcontra | ⟨hgrammar, hsockets⟩⟩
        · exact absurd hcontra hrefused
        · exact ⟨(bytesRead_le_iff hcount hend hgrammar.2).mpr hsockets,
            fun _ => hstores.mpr hgrammar⟩
  · refine ⟨fun hparses => absurd ?_ hheaders, fun hcontra => absurd hcontra.1 hheaders⟩
    have hinside := hparses.1
    by_cases hlength : 6 ≤ packet.length
    · rw [Message.word_append (by omega)] at hread
      omega
    · omega

/-- The bytes that are read decide whether a packet is accepted. -/
theorem createCommonPacketFormatStructure_status_congr {data data' : Message} {dataLength : Nat}
    (h : ∀ i < bytesRead data dataLength, data.byteAt i = data'.byteAt i)
    (old : CommonPacketFormatData) :
    (createCommonPacketFormatStructure data dataLength old).1 = .ok ↔
      (createCommonPacketFormatStructure data' dataLength old).1 = .ok := by
  have hword : ∀ offset, offset + 2 ≤ bytesRead data dataLength →
      data'.word offset = data.word offset := by
    intro offset hoffset
    rw [word, word, Message.getUint, Message.getUint, Message.byteAt_drop, Message.byteAt_drop,
      Message.byteAt_drop, Message.byteAt_drop, h _ (by omega), h _ (by omega)]
  have hcounts := hword 0 (two_le_bytesRead data dataLength)
  by_cases hcount : 2 ≤ data.word 0
  · have hheaders := headers_le_bytesRead hcount dataLength
    have hsix := le_addressItemEnd (data.word 4)
    have haddress := hword 4 (by omega)
    have hend : dataItemEnd data' = dataItemEnd data := by
      rw [dataItemEnd, dataItemEnd, haddress, hword _ (by omega)]
    rw [(createCommonPacketFormatStructure_many _ _ hcount).1,
      (createCommonPacketFormatStructure_many _ _ (by rw [hcounts]; exact hcount)).1, hcounts, hend]
  · rw [createCommonPacketFormatStructure_few _ _ hcount,
      createCommonPacketFormatStructure_few _ _ (by rw [hcounts]; exact hcount), hcounts]
    by_cases hzero : data.word 0 = 0
    · rw [if_pos hzero, if_pos hzero]
    · have hread : bytesRead data dataLength = addressItemEnd (data.word 4) := by
        rw [bytesRead_eq, if_neg hzero, if_pos (eq_one_of_few hcount hzero)]
      have hsix := le_addressItemEnd (data.word 4)
      rw [if_neg hzero, if_neg hzero, hword 4 (by omega)]

/-- The parser reads inside a packet, and what it accepts is of the grammar with its
first two items stored, exactly for the packets of the condition; this holds whatever
follows the packet in the buffer. What it reads is all that it goes by. -/
theorem parsesPacket_iff (packet rest : Message) (old : CommonPacketFormatData) :
    (ParsesPacket packet rest old ↔ parsedByGrammar packet = true) ∧
      ∀ data : Message, (∀ i < bytesRead (packet ++ rest) packet.length,
          Message.byteAt (packet ++ rest) i = data.byteAt i) →
        ((createCommonPacketFormatStructure (packet ++ rest) packet.length old).1 = .ok ↔
          (createCommonPacketFormatStructure data packet.length old).1 = .ok) := by
  refine ⟨?_, fun data hsame => createCommonPacketFormatStructure_status_congr hsame old⟩
  rw [parsedByGrammar]
  simp only [Bool.and_eq_true, decide_eq_true_eq]
  by_cases htwo : 2 ≤ packet.length
  · by_cases hcount : 2 ≤ packet.word 0
    · obtain ⟨hzero, hone⟩ := ne_of_two_le hcount
      rw [parsesPacket_many hcount htwo, if_neg hzero, if_neg hone]
      simp only [Bool.and_eq_true, Bool.or_eq_true, decide_eq_true_eq, htwo, true_and]
    · rw [parsesPacket_few hcount htwo]
      by_cases hzero : packet.word 0 = 0
      · rw [if_pos hzero, if_pos hzero, decide_eq_true_eq]
        exact (and_iff_right htwo).symm
      · rw [if_neg hzero, if_neg hzero, if_pos (eq_one_of_few hcount hzero), decide_eq_true_eq]
        exact (and_iff_right htwo).symm
  · refine ⟨fun hparses => absurd ?_ htwo, fun hcontra => absurd hcontra.1 htwo⟩
    have hread := two_le_bytesRead (packet ++ rest) packet.length
    have hinside := hparses.1
    omega

/-- A packet with an unconnected request, as any client sends it. -/
example : parsedByGrammar [2, 0, 0, 0, 0, 0, 0xB2, 0, 2, 0, 0x4E, 0] = true := by decide

/-- A count of three is accepted although no third item follows, and its type is read
from the bytes after the packet. -/
theorem parsesPacket_missing_item :
    ¬ParsesPacket [3, 0, 0, 0, 0, 0, 0xB2, 0, 0, 0] [] {} ∧
      10 < bytesRead [3, 0, 0, 0, 0, 0, 0xB2, 0, 0, 0] 10 ∧
      (createCommonPacketFormatStructure [3, 0, 0, 0, 0, 0, 0xB2, 0, 0, 0] 10 {}).1 = .ok ∧
      ¬∃ items, IsPacket [3, 0, 0, 0, 0, 0, 0xB2, 0, 0, 0] items := by
  refine ⟨fun hparses => absurd hparses.1 (by decide), by decide, by decide, ?_⟩
  rintro ⟨items, hpacket⟩
  have hitems := areItems_flatMap hpacket.lengths
  have hnumber : items.length = 3 := by
    have hword := congrArg (fun m => (word m 0).toNat) hpacket.bytes
    simp only [Message.word_intBytes, UInt16.toNat_ofNat', Nat.mod_eq_of_lt hpacket.count] at hword
    exact hword.symm
  have hdrop := congrArg (List.drop 2) hpacket.bytes
  change _ = items.flatMap CpfItem.bytes at hdrop
  rw [← hdrop, hnumber] at hitems
  exact absurd hitems (by decide)

end CommonPacketFormatData

end Opener
