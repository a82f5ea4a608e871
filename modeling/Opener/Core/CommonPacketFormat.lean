import Opener.Core.ConnectionPath
import Opener.Core.Opening

/-!
`cpf.c`: parsing a received packet into the global structure, whose other fields
keep what earlier packets left in them, and writing a reply from it.
-/

namespace Opener

def sintBytes (value : UInt8) : List UInt8 := [value]

def intBytes (value : UInt16) : List UInt8 := [value.toUInt8, (value >>> 8).toUInt8]

def dintBytes (value : UInt32) : List UInt8 :=
  [value.toUInt8, (value >>> 8).toUInt8, (value >>> 16).toUInt8, (value >>> 24).toUInt8]

namespace CommonPacketFormatData

/-- The parser's data cursor, the count of bytes it accounts for, and the result
so far. -/
structure Parse where
  data : Message
  lengthCount : Nat
  cpf : CommonPacketFormatData

def parseAddressItem (p : Parse) : Parse :=
  if p.cpf.itemCount ≥ 1 then
    let (typeId, data) := p.data.getUint
    let (length, data) := data.getUint
    let item := { p.cpf.addressItem with typeId := typeId, length := length }
    let p := { p with
      data := data
      lengthCount := p.lengthCount + 4
      cpf := { p.cpf with addressItem := item } }
    let p :=
      if length ≥ 4 then
        let (connectionIdentifier, data) := p.data.getUdint
        { p with
          data := data
          lengthCount := p.lengthCount + 4
          cpf := { p.cpf with addressItem :=
            { p.cpf.addressItem with connectionIdentifier := connectionIdentifier } } }
      else p
    if length = 8 then
      let (sequenceNumber, data) := p.data.getUdint
      { p with
        data := data
        lengthCount := p.lengthCount + 4
        cpf := { p.cpf with addressItem :=
          { p.cpf.addressItem with sequenceNumber := sequenceNumber } } }
    else p
  else p

/-- A socket address item. Another type id marks the item as unset and is not
consumed. -/
def parseAddressInfoItem (j : Fin 2) (p : Parse) : Parse :=
  let (typeId, data) := p.data.getUint
  if typeId = ItemId.socketAddressInfoOriginatorToTarget ∨
      typeId = ItemId.socketAddressInfoTargetToOriginator then
    let (length, data) := data.getUint
    let (sinFamily, data) := data.getUint
    let (sinPort, data) := data.getUint
    let (sinAddr, data) := data.getUdint
    { data := data.drop 8
      lengthCount := p.lengthCount + 20
      cpf := p.cpf.setAddressInfoItem j
        { typeId, length, sinFamily, sinPort, sinAddr
          nasinZero := data.takeBytes 8 } }
  else
    { p with
      lengthCount := p.lengthCount + 2
      cpf := p.cpf.setAddressInfoItem j
        { p.cpf.addressInfoItem j with typeId := 0 } }

/-- The data item and up to two socket address items; none when the data item
does not fit. The structure is written in either case. -/
def parseDataItem (dataLength : Nat) (p : Parse) : Bool × Parse :=
  if p.cpf.itemCount ≥ 2 then
    let (typeId, data) := p.data.getUint
    let (length, data) := data.getUint
    let p := { p with cpf := { p.cpf with dataItem := { typeId, length, data } } }
    if dataLength ≥ p.lengthCount + 4 + length.toNat then
      let p := { p with
        data := data.drop length.toNat
        lengthCount := p.lengthCount + 4 + length.toNat }
      let p := if p.cpf.itemCount - 2 ≥ 1 then parseAddressInfoItem 0 p else p
      (true, if p.cpf.itemCount - 2 ≥ 2 then parseAddressInfoItem 1 p else p)
    else (false, p)
  else (true, p)

def clearAddressInfoItem (j : Fin 2) (cpf : CommonPacketFormatData) :
    CommonPacketFormatData :=
  cpf.setAddressInfoItem j { cpf.addressInfoItem j with typeId := 0 }

def createCommonPacketFormatStructure (data : Message) (dataLength : Nat)
    (cpf : CommonPacketFormatData) : EipStatus × CommonPacketFormatData :=
  let cpf := clearAddressInfoItem 1 (clearAddressInfoItem 0 cpf)
  let (itemCount, data) := data.getUint
  let p : Parse := { data, lengthCount := 2, cpf := { cpf with itemCount := itemCount } }
  match parseDataItem dataLength (parseAddressItem p) with
  | (false, p) => (.error, p.cpf)
  | (true, p) =>
      let cpf :=
        if p.cpf.itemCount < 4 then
          let cpf := clearAddressInfoItem 1 p.cpf
          if p.cpf.itemCount < 3 then clearAddressInfoItem 0 cpf else cpf
        else p.cpf
      if p.lengthCount = dataLength ∨ cpf.itemCount > 2 then (.ok, cpf) else (.error, cpf)

/-- Where the address item ends for the parser: four bytes follow its header when the
length is at least four, and four more when it is eight. -/
def addressItemEnd (length : UInt16) : Nat :=
  6 + (if length ≥ 4 then 4 else 0) + if length = 8 then 4 else 0

/-- A socket address item starts at the offset. -/
def isSocketAddressInfoAt (data : Message) (offset : Nat) : Bool :=
  let typeId := (Message.getUint (data.drop offset)).1
  typeId = ItemId.socketAddressInfoOriginatorToTarget ||
    typeId = ItemId.socketAddressInfoTargetToOriginator

/-- How many bytes from the start `CreateCommonPacketFormatStructure` looks at: up to
the end of the last header or field that it reads. The bytes of the data item are
skipped, not read. -/
def bytesRead (data : Message) (dataLength : Nat) : Nat :=
  let itemCount := (Message.getUint data).1
  let dataItem := addressItemEnd (Message.getUint (data.drop 4)).1
  let socketItem := dataItem + 4 + (Message.getUint (data.drop (dataItem + 2))).1.toNat
  if itemCount = 0 then 2
  else if itemCount = 1 then dataItem
  else if itemCount = 2 ∨ dataLength < socketItem then dataItem + 4
  else if isSocketAddressInfoAt data socketItem then
    if itemCount = 3 then socketItem + 20
    else if isSocketAddressInfoAt data (socketItem + 20) then socketItem + 40
    else socketItem + 22
  else socketItem + 2

/-- `EncapsulateIpAddress` after the type and the length, with the eight zero
bytes that follow it; port and address go out in network order. -/
def socketAddressInfoBytes (item : SocketAddressInfoItem) : List UInt8 :=
  intBytes item.typeId ++ intBytes item.length ++ intBytes (htons afInet) ++
    intBytes item.sinPort ++ dintBytes item.sinAddr ++ List.replicate 8 0

/-- The socket address item of one type, from the first slot that carries it. -/
def socketAddressInfoOfType (cpf : CommonPacketFormatData) (type : UInt16) : List UInt8 :=
  match cpf.addressInfoItemOfType type with
  | none => []
  | some j => socketAddressInfoBytes (cpf.addressInfoItem j)

def addressItemBytes (cpf : CommonPacketFormatData) : Option (List UInt8) :=
  if cpf.addressItem.typeId = ItemId.nullAddress then
    some (intBytes ItemId.nullAddress ++ intBytes 0)
  else if cpf.addressItem.typeId = ItemId.connectionAddress then
    some (intBytes ItemId.connectionAddress ++ intBytes 4 ++
      dintBytes cpf.addressItem.connectionIdentifier)
  else if cpf.addressItem.typeId = ItemId.sequencedAddressItem then
    some (intBytes ItemId.sequencedAddressItem ++ intBytes 8 ++
      dintBytes cpf.addressItem.connectionIdentifier ++
      dintBytes cpf.addressItem.sequenceNumber)
  else none

def responseBytes (response : MessageRouterResponse) : List UInt8 :=
  sintBytes response.replyService ++ sintBytes response.reserved ++
    sintBytes response.generalStatus ++
    sintBytes (UInt8.ofNat response.additionalStatus.length) ++
    response.additionalStatus.flatMap intBytes ++ response.message

def dataItemBytes (response : MessageRouterResponse) (cpf : CommonPacketFormatData) :
    List UInt8 :=
  let length := response.message.length + 4 + 2 * response.additionalStatus.length
  if cpf.dataItem.typeId = ItemId.connectedDataItem then
    intBytes cpf.dataItem.typeId ++ intBytes (UInt16.ofNat (length + 2)) ++
      intBytes cpf.addressItem.sequenceNumber.toUInt16 ++ responseBytes response
  else if cpf.dataItem.typeId = ItemId.unconnectedDataItem then
    intBytes cpf.dataItem.typeId ++ intBytes (UInt16.ofNat length) ++
      responseBytes response
  else []

/-- `AssembleLinearMessage` for a message router response. An address item of
another type ends the message early. -/
def assembleLinearMessage (response : MessageRouterResponse)
    (cpf : CommonPacketFormatData) : List UInt8 :=
  let start := dintBytes 0 ++ intBytes 0 ++ intBytes cpf.itemCount
  match addressItemBytes cpf with
  | none => start
  | some addressItem =>
      start ++ addressItem ++ dataItemBytes response cpf ++
        socketAddressInfoOfType cpf ItemId.socketAddressInfoOriginatorToTarget ++
        socketAddressInfoOfType cpf ItemId.socketAddressInfoTargetToOriginator

/-- The data item of an I/O message: the bytes at its pointer as they are. -/
def ioDataItemBytes (cpf : CommonPacketFormatData) : List UInt8 :=
  if cpf.dataItem.typeId = ItemId.unconnectedDataItem ∨
      cpf.dataItem.typeId = ItemId.connectedDataItem then
    intBytes cpf.dataItem.typeId ++ intBytes cpf.dataItem.length ++
      Message.takeBytes cpf.dataItem.data cpf.dataItem.length.toNat
  else []

/-- `AssembleIOMessage`, which is `AssembleLinearMessage` without a response. -/
def assembleIOMessage (cpf : CommonPacketFormatData) : List UInt8 :=
  match addressItemBytes cpf with
  | none => intBytes cpf.itemCount
  | some addressItem =>
      intBytes cpf.itemCount ++ addressItem ++ ioDataItemBytes cpf ++
        socketAddressInfoOfType cpf ItemId.socketAddressInfoOriginatorToTarget ++
        socketAddressInfoOfType cpf ItemId.socketAddressInfoTargetToOriginator

end CommonPacketFormatData

end Opener
