import Opener.Core.Stack

/-!
`EncodeEPath`, and `DecodePaddedEPath` with the cursor that it leaves and the number of
bytes that it reports. The message starts at the byte of the path size and the cursor is
counted from there.
-/

namespace Opener

/-- The loop of `DecodePaddedEPath`. The counted words and the cursor are moved
separately; the segment of a 16-bit member counts two words and moves by one. -/
def decodeElementsAt (message : Message) (pathSize : Nat) :
    Nat → Epath → Nat → Nat → Option (Epath × Nat × Nat)
  | 0, epath, decoded, cursor => some (epath, decoded, cursor)
  | fuel + 1, epath, decoded, cursor =>
      let segment := message.byteAt cursor
      let value8 := (message.byteAt (cursor + 1)).toUInt16
      let value16 := (Message.getUint (message.drop (cursor + 2))).1
      let short (epath : Epath) :=
        decodeElementsAt message pathSize fuel epath (decoded + 1) (cursor + 2)
      let long (epath : Epath) :=
        decodeElementsAt message pathSize fuel epath (decoded + 2) (cursor + 4)
      if ¬decoded < pathSize then some (epath, decoded, cursor)
      else if segment &&& 7 = 7 then none
      else if segment = 0x20 then short { epath with classId := value8 }
      else if segment = 0x21 then long { epath with classId := value16 }
      else if segment = 0x24 then short { epath with instanceNumber := value8 }
      else if segment = 0x25 then long { epath with instanceNumber := value16 }
      else if segment = 0x30 then short { epath with attributeNumber := value8 }
      else if segment = 0x31 then long { epath with attributeNumber := value16 }
      else if segment = 0x28 then short epath
      else if segment = 0x29 then
        decodeElementsAt message pathSize fuel epath (decoded + 2) (cursor + 2)
      else none

/-- The decoded path, the cursor and `bytes_consumed`; none for an error. -/
def decodePaddedEPath (message : Message) : Option (Epath × Nat × Nat) :=
  let pathSize := (message.byteAt 0).toNat
  match decodeElementsAt message pathSize pathSize {} 0 1 with
  | none => none
  | some (epath, decoded, cursor) => some (epath, cursor, decoded * 2 + 1)

/-- `CipEpath` with its size in words. -/
structure CipEpath extends Epath where
  pathSize : UInt8 := 0
deriving DecidableEq, Repr

/-- The decoded path with the size that is announced. -/
def decodeCipEpath (message : Message) : Option (CipEpath × Nat × Nat) :=
  match decodePaddedEPath message with
  | none => none
  | some (epath, cursor, bytesConsumed) =>
      some ({ toEpath := epath, pathSize := message.byteAt 0 }, cursor, bytesConsumed)

/-- The three segments of `EncodeEPath`. -/
inductive EpathSegment where
  | classId
  | instanceNumber
  | attributeNumber
deriving DecidableEq, Repr

/-- The segment byte in the 8-bit format; the 16-bit format is one more. -/
def EpathSegment.code : EpathSegment → UInt8
  | .classId => 0x20
  | .instanceNumber => 0x24
  | .attributeNumber => 0x30

/-- One segment of `EncodeEPath` with the length that is left. The length is unsigned. -/
def encodeEpathSegment (segment : EpathSegment) (number : UInt16) (length : UInt32) :
    List UInt8 × UInt32 :=
  if number < 256 then (sintBytes segment.code ++ sintBytes number.toUInt8, length - 1)
  else (sintBytes (segment.code + 1) ++ sintBytes 0 ++ intBytes number, length - 2)

def encodeEPath (epath : CipEpath) : List UInt8 :=
  let length := epath.pathSize.toUInt32
  let (classBytes, length) :=
    if 0 < length then encodeEpathSegment .classId epath.classId length else ([], length)
  if 0 < length then
    let (instanceBytes, length) :=
      encodeEpathSegment .instanceNumber epath.instanceNumber length
    let attributeBytes :=
      if 0 < length then
        (encodeEpathSegment .attributeNumber epath.attributeNumber length).1
      else []
    classBytes ++ instanceBytes ++ attributeBytes
  else classBytes

/-- The assertion at the end of `EncodeEPath`. -/
def CipEpath.Asserted (epath : CipEpath) : Prop :=
  epath.pathSize.toNat * 2 = (encodeEPath epath).length

end Opener
