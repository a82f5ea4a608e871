import Mathlib.Data.UInt
import Opener.Core.Stack

/-!
The data types of attributes: `GetCipDataTypeLength` of `ciptypes.c`, the 64-bit values of
`endianconv.c`, and the encode and decode functions of `cipcommon.c` for the elementary
types, strings and byte arrays. The host is little-endian, and memory is always allocated.
-/

namespace Opener

inductive CipDataType where
  | any
  | bool
  | sint
  | int
  | dint
  | lint
  | usint
  | uint
  | udint
  | ulint
  | real
  | lreal
  | stime
  | date
  | timeOfDay
  | dateAndTime
  | string
  | byte
  | word
  | dword
  | lword
  | string2
  | ftime
  | ltime
  | itime
  | stringN
  | shortString
  | time
  | epath
  | engUnit
  | usintUsint
  | udintUdintUdintUdintUdintString
  | sixUsint
  | memberList
  | byteArray
  | internalUint6
  | stringI
deriving DecidableEq, Repr

namespace GeneralStatus

def partialTransfer : UInt8 := 0x06
def invalidAttributeValue : UInt8 := 0x09
def attributeListError : UInt8 := 0x0A
def objectStateConflict : UInt8 := 0x0C
def attributeNotSetable : UInt8 := 0x0E
def attributeNotSupported : UInt8 := 0x14
def attributeNotGettable : UInt8 := 0x2C

end GeneralStatus

/-- A signed 8-bit number converted to an unsigned size. -/
def signExtend8 (value : UInt8) : UInt64 :=
  if value ≥ 0x80 then value.toUInt64 - 0x100 else value.toUInt64

/-- `GetCipDataTypeLength` on the bytes at the pointer, none for `NULL`. Lengths are read
as signed numbers, and a byte array is always taken for the structure in memory. -/
def getCipDataTypeLength (type : CipDataType) (data : Option Message) : UInt64 :=
  match type with
  | .bool | .sint | .usint | .byte => 1
  | .int | .uint | .word | .usintUsint | .itime | .date | .engUnit => 2
  | .dint | .udint | .dword | .stime | .ftime | .time | .real | .timeOfDay => 4
  | .lint | .ulint | .lreal | .lword | .ltime => 8
  | .sixUsint => 6
  | .string | .string2 | .stringN | .epath =>
      match data with
      | some message => signExtend message.getUint.1 + 2
      | none => 0
  | .shortString =>
      match data with
      | some message => signExtend8 message.getUsint.1 + 1
      | none => 0
  | .byteArray =>
      match data with
      | some message => message.getUint.1.toUInt64
      | none => 0
  | .any | .dateAndTime | .udintUdintUdintUdintUdintString | .memberList | .internalUint6
  | .stringI => 0

/-- `AddLintToMessage`, the low byte first. -/
def lintBytes (value : UInt64) : List UInt8 :=
  [value.toUInt8, (value >>> 8).toUInt8, (value >>> 16).toUInt8, (value >>> 24).toUInt8,
    (value >>> 32).toUInt8, (value >>> 40).toUInt8, (value >>> 48).toUInt8,
    (value >>> 56).toUInt8]

/-- `GetLintFromMessage`, the high byte first. -/
def Message.getLint (message : Message) : UInt64 × Message :=
  let byte (i : Nat) (shift mask : UInt64) : UInt64 :=
    ((message.byteAt i).toUInt64 <<< shift) &&& mask
  (byte 0 56 0xFF00000000000000 + byte 1 48 0x00FF000000000000 +
    byte 2 40 0x0000FF0000000000 + byte 3 32 0x000000FF00000000 +
    byte 4 24 0x00000000FF000000 + byte 5 16 0x0000000000FF0000 +
    byte 6 8 0x000000000000FF00 + byte 7 0 0x00000000000000FF, message.drop 8)

/-- The object that `data` of an attribute points to: its bytes up to a pointer member,
and the bytes that this member of a string or a byte array points to. -/
structure CipData where
  memory : Message
  string : List UInt8 := []
deriving DecidableEq, Repr

namespace CipData

/-- The eight bytes of a 64-bit object on the host. -/
def lword (data : CipData) : UInt64 :=
  (data.memory.getUdint.1).toUInt64 ||| ((Message.getUdint (data.memory.drop 4)).1.toUInt64 <<< 32)

/-- A value written over the first bytes. -/
def store (bytes : List UInt8) (data : CipData) : CipData :=
  { data with memory := bytes ++ data.memory.drop bytes.length }

end CipData

/-- An encode function, on the object and the `used_message_length` that it finds. -/
abbrev CipAttributeEncodeInMessage (σ : Type) := σ → Nat → List UInt8

/-- What a decode function leaves: the object, how far it moved the cursor of the request,
the general status, and what it returns. -/
structure Decoded (σ : Type) where
  data : σ
  moved : Nat
  generalStatus : UInt8
  numberOfDecodedBytes : Int
deriving DecidableEq, Repr

abbrev CipAttributeDecodeFromMessage (σ : Type) := σ → MessageRouterRequest → Decoded σ

section Encode

def encodeOctet (data : CipData) (_ : Nat) : List UInt8 := sintBytes (data.memory.byteAt 0)
def encode16 (data : CipData) (_ : Nat) : List UInt8 := intBytes data.memory.getUint.1
def encode32 (data : CipData) (_ : Nat) : List UInt8 := dintBytes data.memory.getUdint.1
def encode64 (data : CipData) (_ : Nat) : List UInt8 := lintBytes data.lword

def encodeCipBool : CipAttributeEncodeInMessage CipData := encodeOctet
def encodeCipByte : CipAttributeEncodeInMessage CipData := encodeOctet
def encodeCipUsint : CipAttributeEncodeInMessage CipData := encodeOctet
def encodeCipSint : CipAttributeEncodeInMessage CipData := encodeOctet
def encodeCipWord : CipAttributeEncodeInMessage CipData := encode16
def encodeCipUint : CipAttributeEncodeInMessage CipData := encode16
def encodeCipInt : CipAttributeEncodeInMessage CipData := encode16
def encodeCipDword : CipAttributeEncodeInMessage CipData := encode32
def encodeCipUdint : CipAttributeEncodeInMessage CipData := encode32
def encodeCipDint : CipAttributeEncodeInMessage CipData := encode32
def encodeCipReal : CipAttributeEncodeInMessage CipData := encode32
def encodeCipLword : CipAttributeEncodeInMessage CipData := encode64
def encodeCipUlint : CipAttributeEncodeInMessage CipData := encode64
def encodeCipLint : CipAttributeEncodeInMessage CipData := encode64
def encodeCipLreal : CipAttributeEncodeInMessage CipData := encode64

def encodeCipShortString : CipAttributeEncodeInMessage CipData := fun data _ =>
  let length := data.memory.getUsint.1
  sintBytes length ++ Message.takeBytes data.string length.toNat

/-- The pad byte depends on the length of the whole message. -/
def encodeCipString : CipAttributeEncodeInMessage CipData := fun data usedMessageLength =>
  let length := data.memory.getUint.1
  if length = 0 then intBytes length
  else
    let written := intBytes length ++ Message.takeBytes data.string length.toNat
    if (usedMessageLength + written.length) % 2 = 1 then written ++ sintBytes 0 else written

def encodeCipByteArray : CipAttributeEncodeInMessage CipData := fun data _ =>
  Message.takeBytes data.string data.memory.getUint.1.toNat

end Encode

section Decode

/-- A decoded value of a fixed size, with the number that the function returns. -/
def decodeValue (size : Nat) (returns : Int) (value : Message → List UInt8) :
    CipAttributeDecodeFromMessage CipData := fun data request =>
  { data := data.store (value request.data)
    moved := size
    generalStatus := GeneralStatus.success
    numberOfDecodedBytes := returns }

def decodeOctet : CipAttributeDecodeFromMessage CipData :=
  decodeValue 1 1 fun message => sintBytes message.getUsint.1
def decode16 : CipAttributeDecodeFromMessage CipData :=
  decodeValue 2 2 fun message => intBytes message.getUint.1
def decode32 : CipAttributeDecodeFromMessage CipData :=
  decodeValue 4 4 fun message => dintBytes message.getUdint.1
def decode64 (returns : Int) : CipAttributeDecodeFromMessage CipData :=
  decodeValue 8 returns fun message => lintBytes message.getLint.1

def decodeCipBool : CipAttributeDecodeFromMessage CipData := decodeOctet
def decodeCipByte : CipAttributeDecodeFromMessage CipData := decodeOctet
def decodeCipUsint : CipAttributeDecodeFromMessage CipData := decodeOctet
def decodeCipSint : CipAttributeDecodeFromMessage CipData := decodeOctet
def decodeCipWord : CipAttributeDecodeFromMessage CipData := decode16
def decodeCipUint : CipAttributeDecodeFromMessage CipData := decode16
def decodeCipInt : CipAttributeDecodeFromMessage CipData := decode16
def decodeCipDword : CipAttributeDecodeFromMessage CipData := decode32
def decodeCipUdint : CipAttributeDecodeFromMessage CipData := decode32
def decodeCipDint : CipAttributeDecodeFromMessage CipData := decode32
def decodeCipLword : CipAttributeDecodeFromMessage CipData := decode64 4
def decodeCipUlint : CipAttributeDecodeFromMessage CipData := decode64 8
def decodeCipLint : CipAttributeDecodeFromMessage CipData := decode64 8

/-- The integer that is read is converted to a floating point number. -/
def decodeCipReal : CipAttributeDecodeFromMessage CipData :=
  decodeValue 4 4 fun message => dintBytes message.getUdint.1.toInt32.toFloat32.toBits

def decodeCipLreal : CipAttributeDecodeFromMessage CipData :=
  decodeValue 8 8 fun message => lintBytes message.getLint.1.toFloat.toBits

/-- The request data is taken as a whole and the cursor stays. -/
def decodeCipByteArray : CipAttributeDecodeFromMessage CipData := fun data request =>
  let length := data.memory.getUint.1
  if request.requestDataSize < length.toUInt64 then
    { data, moved := 0, generalStatus := GeneralStatus.notEnoughData
      numberOfDecodedBytes := -1 }
  else if request.requestDataSize > length.toUInt64 then
    { data, moved := 0, generalStatus := GeneralStatus.tooMuchData
      numberOfDecodedBytes := -1 }
  else
    { data := { data with string := Message.takeBytes request.data length.toNat }
      moved := 0
      generalStatus := GeneralStatus.success
      numberOfDecodedBytes := length.toNat }

def setCipStringByData (length : UInt16) (source : Message) (data : CipData) : CipData :=
  { data.store (intBytes length) with string := Message.takeBytes source length.toNat }

def setCipShortStringByData (length : UInt8) (source : Message) (data : CipData) : CipData :=
  { data.store (sintBytes length) with string := Message.takeBytes source length.toNat }

/-- The pad byte depends on the length of the string. -/
def decodeCipString : CipAttributeDecodeFromMessage CipData := fun data request =>
  let (length, message) := request.data.getUint
  let decodedBytes := length.toNat + 2
  let decodedBytes := if decodedBytes % 2 = 1 then decodedBytes + 1 else decodedBytes
  { data := setCipStringByData length message data
    moved := decodedBytes
    generalStatus := GeneralStatus.success
    numberOfDecodedBytes := decodedBytes }

def decodeCipShortString : CipAttributeDecodeFromMessage CipData := fun data request =>
  let (length, message) := request.data.getUsint
  { data := setCipShortStringByData length message data
    moved := length.toNat + 1
    generalStatus := GeneralStatus.success
    numberOfDecodedBytes := length.toNat + 1 }

end Decode

namespace CipDataType

/-- The encode function that is named after the type. -/
def encodeFunction : CipDataType → Option (CipAttributeEncodeInMessage CipData)
  | .bool => some encodeCipBool
  | .byte => some encodeCipByte
  | .word => some encodeCipWord
  | .dword => some encodeCipDword
  | .lword => some encodeCipLword
  | .usint => some encodeCipUsint
  | .uint => some encodeCipUint
  | .udint => some encodeCipUdint
  | .ulint => some encodeCipUlint
  | .sint => some encodeCipSint
  | .int => some encodeCipInt
  | .dint => some encodeCipDint
  | .lint => some encodeCipLint
  | .real => some encodeCipReal
  | .lreal => some encodeCipLreal
  | .shortString => some encodeCipShortString
  | .string => some encodeCipString
  | .byteArray => some encodeCipByteArray
  | _ => none

/-- The decode function that is named after the type. -/
def decodeFunction : CipDataType → Option (CipAttributeDecodeFromMessage CipData)
  | .bool => some decodeCipBool
  | .byte => some decodeCipByte
  | .byteArray => some decodeCipByteArray
  | .word => some decodeCipWord
  | .dword => some decodeCipDword
  | .lword => some decodeCipLword
  | .usint => some decodeCipUsint
  | .uint => some decodeCipUint
  | .udint => some decodeCipUdint
  | .ulint => some decodeCipUlint
  | .sint => some decodeCipSint
  | .int => some decodeCipInt
  | .dint => some decodeCipDint
  | .lint => some decodeCipLint
  | .real => some decodeCipReal
  | .lreal => some decodeCipLreal
  | .string => some decodeCipString
  | .shortString => some decodeCipShortString
  | _ => none

end CipDataType

end Opener
