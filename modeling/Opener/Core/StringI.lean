import Opener.Library.SelfDelimiting
import Opener.Core.AttributeValues

/-!
`STRINGI` of `cipstringi.c`: international strings, each with its language, its character
set and the type of its characters.
-/

namespace Opener

theorem Message.length_takeBytes (message : Message) (length : Nat) :
    (message.takeBytes length).length = length := by
  simp [Message.takeBytes]

structure CipShortString where
  length : UInt8
  string : List UInt8
  sized : string.length = length.toNat
deriving DecidableEq, Repr

structure CipString where
  length : UInt16
  string : List UInt8
  sized : string.length = length.toNat
deriving DecidableEq, Repr

/-- Two bytes for each character. -/
structure CipString2 where
  length : UInt16
  string : List UInt8
  sized : string.length = length.toNat * 2
deriving DecidableEq, Repr

/-- `size` bytes for each character. -/
structure CipStringN where
  size : UInt16
  length : UInt16
  string : List UInt8
  sized : string.length = length.toNat * size.toNat
deriving DecidableEq, Repr

namespace CipShortString

def data (string : CipShortString) : CipData := ⟨sintBytes string.length, string.string⟩

def setByData (length : UInt8) (source : Message) : CipShortString :=
  { length, string := source.takeBytes length.toNat, sized := source.length_takeBytes _ }

end CipShortString

namespace CipString

def data (string : CipString) : CipData := ⟨intBytes string.length, string.string⟩

def setByData (length : UInt16) (source : Message) : CipString :=
  { length, string := source.takeBytes length.toNat, sized := source.length_takeBytes _ }

end CipString

def CipString2.setByData (length : UInt16) (source : Message) : CipString2 :=
  { length, string := source.takeBytes (length.toNat * 2), sized := source.length_takeBytes _ }

/-- The size of a character stays 0 when there is none. -/
def CipStringN.setByData (length size : UInt16) (source : Message) : CipStringN :=
  let size := if length = 0 then 0 else size
  { size, length, string := source.takeBytes (length.toNat * size.toNat)
    sized := source.length_takeBytes _ }

/-- The string that an entry points to, by the code of its type; `NULL` for a code that is
not the one of a string. -/
inductive CipStringIString where
  | shortString (string : CipShortString)
  | string (string : CipString)
  | string2 (string : CipString2)
  | stringN (string : CipStringN)
  | null (code : UInt16) (unknown : code ∉ [0xDA, 0xD0, 0xD5, 0xD9])
deriving DecidableEq, Repr

def CipStringIString.charStringStruct : CipStringIString → UInt16
  | .shortString _ => 0xDA
  | .string _ => 0xD0
  | .string2 _ => 0xD5
  | .stringN _ => 0xD9
  | .null code _ => code

structure CipStringIStruct where
  languageChar1 : UInt8
  languageChar2 : UInt8
  languageChar3 : UInt8
  characterSet : UInt16
  string : CipStringIString
deriving DecidableEq, Repr

structure CipStringI where
  numberOfStrings : UInt8
  arrayOfStringIStructs : List CipStringIStruct
  counted : arrayOfStringIStructs.length = numberOfStrings.toNat
deriving DecidableEq, Repr

section Encode

def encodeCipString2 (_ : CipString2) (_ : Nat) : Except Fault (List UInt8) :=
  .error .assertionFailed

def encodeCipStringN (_ : CipStringN) (_ : Nat) : Except Fault (List UInt8) :=
  .error .assertionFailed

/-- The code of the type is written as one byte. -/
def cipStringIHeaderEncoding (struct : CipStringIStruct) : List UInt8 :=
  sintBytes struct.languageChar1 ++ sintBytes struct.languageChar2 ++
    sintBytes struct.languageChar3 ++ sintBytes struct.string.charStringStruct.toUInt8 ++
      intBytes struct.characterSet

/-- The `switch` of `EncodeCipStringI`. -/
def encodeCipStringIString (string : CipStringIString) (usedMessageLength : Nat) :
    Except Fault (List UInt8) :=
  match string with
  | .string string => .ok (encodeCipString string.data usedMessageLength)
  | .string2 string => encodeCipString2 string usedMessageLength
  | .stringN string => encodeCipStringN string usedMessageLength
  | .shortString string => .ok (encodeCipShortString string.data usedMessageLength)
  | .null _ _ => .error .assertionFailed

/-- The loop of `EncodeCipStringI`, from a `used_message_length`. -/
def encodeCipStringIStructs : Nat → List CipStringIStruct → Except Fault (List UInt8)
  | _, [] => .ok []
  | usedMessageLength, struct :: structs => do
      let header := cipStringIHeaderEncoding struct
      let usedMessageLength := usedMessageLength + header.length
      let written ← encodeCipStringIString struct.string usedMessageLength
      let others ← encodeCipStringIStructs (usedMessageLength + written.length) structs
      return header ++ written ++ others

def encodeCipStringI (stringI : CipStringI) (usedMessageLength : Nat) :
    Except Fault (List UInt8) := do
  let number := sintBytes stringI.numberOfStrings
  let structs ← encodeCipStringIStructs (usedMessageLength + number.length)
    stringI.arrayOfStringIStructs
  return number ++ structs

end Encode

section Decode

theorem unknown_charStringStruct {code : UInt8} (h : code ∉ [0xDA, 0xD0, 0xD5, 0xD9]) :
    code.toUInt16 ∉ [0xDA, 0xD0, 0xD5, 0xD9] := by
  intro hcode
  apply h
  have hmap : code.toUInt16.toUInt8 ∈ [0xDA, 0xD0, 0xD5, 0xD9].map UInt16.toUInt8 :=
    List.mem_map_of_mem hcode
  rwa [UInt8.toUInt8_toUInt16] at hmap

/-- The string of an entry, with the number of bytes that the cursor is moved. A code that
is not the one of a string takes no more bytes. -/
def decodeCipStringIString (charStringStruct : UInt8) (message : Message) :
    CipStringIString × Nat :=
  if unknown : charStringStruct ∉ [0xDA, 0xD0, 0xD5, 0xD9] then
    (.null charStringStruct.toUInt16 (unknown_charStringStruct unknown), 0)
  else if charStringStruct = 0xDA then
    let (length, message) := message.getUsint
    (.shortString (CipShortString.setByData length message), 1 + length.toNat)
  else if charStringStruct = 0xD0 then
    let (length, message) := message.getUint
    (.string (CipString.setByData length message), 2 + length.toNat)
  else if charStringStruct = 0xD5 then
    let (length, message) := message.getUint
    (.string2 (CipString2.setByData length message), 2 + length.toNat * 2)
  else
    let (size, message) := message.getUint
    let (length, message) := message.getUint
    (.stringN (CipStringN.setByData length size message), 4 + length.toNat * size.toNat)

def decodeCipStringIStruct (message : Message) : CipStringIStruct × Nat :=
  let (languageChar1, message) := message.getUsint
  let (languageChar2, message) := message.getUsint
  let (languageChar3, message) := message.getUsint
  let (charStringStruct, message) := message.getUsint
  let (characterSet, message) := message.getUint
  let (string, moved) := decodeCipStringIString charStringStruct message
  ({ languageChar1, languageChar2, languageChar3, characterSet, string }, 6 + moved)

/-- `CipStringIDecodeFromMessage`, with the number of bytes that the cursor is moved. -/
def cipStringIDecodeFromMessage (message : Message) : CipStringI × Nat :=
  let (numberOfStrings, message) := message.getUsint
  let structs := SelfDelimiting.decodeMany decodeCipStringIStruct numberOfStrings.toNat message
  ({ numberOfStrings, arrayOfStringIStructs := structs.1
     counted := SelfDelimiting.decodeMany_length numberOfStrings.toNat message }, 1 + structs.2)

end Decode

end Opener
