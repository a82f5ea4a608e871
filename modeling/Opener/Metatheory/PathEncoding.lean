import Opener.Core.PaddedEPath
import Opener.Metatheory.CommonPacketFormat
import Opener.Metatheory.PacketGrammar

/-!
`EncodeEPath` against `DecodePaddedEPath`. Each segment that is written is decoded to its
number and takes the words from the path size that it has in bytes, so a size that counts
the segments is used up where they end.
-/

namespace Opener

/-- The words of a segment with the number. -/
def epathWords (number : UInt16) : Nat := if number < 256 then 1 else 2

namespace EpathSegment

def bytes (segment : EpathSegment) (number : UInt16) : List UInt8 :=
  (encodeEpathSegment segment number 0).1

def store (segment : EpathSegment) (number : UInt16) (epath : Epath) : Epath :=
  match segment with
  | .classId => { epath with classId := number }
  | .instanceNumber => { epath with instanceNumber := number }
  | .attributeNumber => { epath with attributeNumber := number }

theorem encode_eq (segment : EpathSegment) (number : UInt16) (length : UInt32) :
    encodeEpathSegment segment number length =
      (segment.bytes number, length - UInt32.ofNat (epathWords number)) := by
  rw [bytes, encodeEpathSegment, encodeEpathSegment, epathWords]
  split <;> rfl

theorem length_bytes (segment : EpathSegment) (number : UInt16) :
    (segment.bytes number).length = 2 * epathWords number := by
  rw [bytes, encodeEpathSegment, epathWords]
  split <;> rfl

theorem short_number {number : UInt16} (h : number < 256) : number.toUInt8.toUInt16 = number := by
  have hlt := UInt16.lt_iff_toNat_lt.mp h
  rw [← UInt16.toNat_inj, UInt8.toNat_toUInt16, UInt16.toNat_toUInt8]
  exact Nat.mod_eq_of_lt hlt

end EpathSegment

variable {message rest : Message} {pathSize fuel decoded cursor : Nat} {epath : Epath}

theorem byteAt_of_drop {bytes : Message} (h : message.drop cursor = bytes) (i : Nat) :
    message.byteAt (cursor + i) = bytes.byteAt i := by
  rw [← h, Message.byteAt_drop]

/-- A segment that was written is decoded to its number. -/
theorem decodeElementsAt_segment {segment : EpathSegment} {number : UInt16}
    (hbytes : message.drop cursor = segment.bytes number ++ rest) (hmore : decoded < pathSize) :
    decodeElementsAt message pathSize (fuel + 1) epath decoded cursor =
      decodeElementsAt message pathSize fuel (segment.store number epath)
        (decoded + epathWords number) (cursor + 2 * epathWords number) := by
  have hbyte := byteAt_of_drop hbytes
  have hsegment := hbyte 0
  rw [Nat.add_zero] at hsegment
  have hnot : ¬¬decoded < pathSize := not_not.mpr hmore
  by_cases hshort : number < 256
  · have hwritten : segment.bytes number = [segment.code, number.toUInt8] := by
      rw [EpathSegment.bytes, encodeEpathSegment, if_pos hshort]
      rfl
    have hvalue : (message.byteAt (cursor + 1)).toUInt16 = number := by
      rw [hbyte 1, hwritten]
      exact EpathSegment.short_number hshort
    have hcode : message.byteAt cursor = segment.code := by
      rw [hsegment, hwritten]
      rfl
    rw [decodeElementsAt, epathWords, if_pos hshort]
    simp only [hcode, hvalue, if_neg hnot]
    cases segment <;> rfl
  · have hwritten : segment.bytes number = (segment.code + 1) :: 0 :: intBytes number := by
      rw [EpathSegment.bytes, encodeEpathSegment, if_neg hshort]
      rfl
    have hvalue : (Message.getUint (message.drop (cursor + 2))).1 = number := by
      rw [← List.drop_drop, hbytes, hwritten]
      exact congrArg Prod.fst (Message.getUint_intBytes number rest)
    have hcode : message.byteAt cursor = segment.code + 1 := by
      rw [hsegment, hwritten]
      rfl
    rw [decodeElementsAt, epathWords, if_neg hshort]
    simp only [hcode, hvalue, if_neg hnot]
    cases segment <;> rfl

/-- The segments of a path in the order in which they are written. -/
abbrev EpathSegments := List (EpathSegment × UInt16)

namespace EpathSegments

def bytes (segments : EpathSegments) : List UInt8 :=
  segments.flatMap fun segment => segment.1.bytes segment.2

def words (segments : EpathSegments) : Nat :=
  (segments.map fun segment => epathWords segment.2).sum

def store (segments : EpathSegments) (epath : Epath) : Epath :=
  segments.foldl (fun epath segment => segment.1.store segment.2 epath) epath

theorem length_bytes (segments : EpathSegments) : segments.bytes.length = 2 * segments.words := by
  induction segments with
  | nil => rfl
  | cons segment segments ih =>
      simp only [bytes, words, List.flatMap_cons, List.length_append, List.map_cons,
        List.sum_cons, EpathSegment.length_bytes] at ih ⊢
      omega

end EpathSegments

theorem decodeElementsAt_end (h : pathSize ≤ decoded) :
    decodeElementsAt message pathSize fuel epath decoded cursor =
      some (epath, decoded, cursor) := by
  cases fuel with
  | zero => rfl
  | succ fuel =>
      rw [decodeElementsAt]
      exact if_pos (Nat.not_lt.mpr h)

/-- Segments that fill the path are decoded one after the other, up to their end. -/
theorem decodeElementsAt_segments {segments : EpathSegments}
    (hbytes : message.drop cursor = segments.bytes ++ rest)
    (hwords : decoded + segments.words = pathSize) (hfuel : segments.words ≤ fuel) :
    decodeElementsAt message pathSize fuel epath decoded cursor =
      some (segments.store epath, pathSize, cursor + 2 * segments.words) := by
  induction segments generalizing fuel epath decoded cursor with
  | nil =>
      have hend : decoded = pathSize := hwords
      rw [decodeElementsAt_end hend.ge, hend]
      rfl
  | cons segment segments ih =>
      have hpositive : 0 < epathWords segment.2 := by
        rw [epathWords]
        split <;> decide
      have hsum : EpathSegments.words (segment :: segments) =
          epathWords segment.2 + EpathSegments.words segments := by
        simp only [EpathSegments.words, List.map_cons, List.sum_cons]
      have hhead : message.drop cursor =
          segment.1.bytes segment.2 ++ (EpathSegments.bytes segments ++ rest) := by
        rw [hbytes, ← List.append_assoc]
        rfl
      have htail : message.drop (cursor + 2 * epathWords segment.2) =
          EpathSegments.bytes segments ++ rest := by
        rw [← List.drop_drop, hhead, ← EpathSegment.length_bytes segment.1, List.drop_left]
      obtain ⟨left, rfl⟩ : ∃ left, fuel = left + 1 := ⟨fuel - 1, by omega⟩
      rw [decodeElementsAt_segment hhead (by omega), ih htail (by omega) (by omega), hsum,
        Nat.mul_add, Nat.add_assoc]
      rfl

namespace CipEpath

/-- The forms of a path: a class, an instance of it, an attribute of the instance. -/
inductive Form where
  | classId
  | instanceNumber
  | attributeNumber
deriving DecidableEq, Repr

variable (p : CipEpath)

def segments : Form → EpathSegments
  | .classId => [(.classId, p.classId)]
  | .instanceNumber => [(.classId, p.classId), (.instanceNumber, p.instanceNumber)]
  | .attributeNumber =>
      [(.classId, p.classId), (.instanceNumber, p.instanceNumber),
        (.attributeNumber, p.attributeNumber)]

/-- The numbers that a form omits are zero. -/
def Omits : Form → Prop
  | .classId => p.instanceNumber = 0 ∧ p.attributeNumber = 0
  | .instanceNumber => p.attributeNumber = 0
  | .attributeNumber => True

/-- The size is the word count of one of the forms. -/
def Exact : Prop := ∃ form, p.Omits form ∧ p.pathSize.toNat = (p.segments form).words

variable {p}

theorem store_segments {form : Form} (h : p.Omits form) :
    EpathSegments.store (p.segments form) {} = p.toEpath := by
  obtain ⟨⟨classId, instanceNumber, attributeNumber⟩, pathSize⟩ := p
  cases form with
  | classId =>
      obtain ⟨hinstance, hattribute⟩ := h
      cases hinstance
      cases hattribute
      rfl
  | instanceNumber =>
      cases h
      rfl
  | attributeNumber => rfl

/-- A length that is left after a segment. -/
theorem left_eq {length : UInt32} {number : UInt16} (left : Nat)
    (h : length.toNat = epathWords number + left) :
    (0 < length) ∧ (length - UInt32.ofNat (epathWords number)).toNat = left := by
  have hsmall : epathWords number = 1 ∨ epathWords number = 2 := by
    rw [epathWords]
    split
    · exact .inl rfl
    · exact .inr rfl
  have hwords : (UInt32.ofNat (epathWords number)).toNat = epathWords number := by
    rw [UInt32.toNat_ofNat']
    omega
  refine ⟨UInt32.lt_iff_toNat_lt.mpr (by rw [h]; simp only [UInt32.toNat_zero]; omega), ?_⟩
  rw [UInt32.toNat_sub_of_le _ _ (UInt32.le_iff_toNat_le.mpr (by omega)), hwords]
  omega

theorem encodeEPath_eq {form : Form} (hsize : p.pathSize.toNat = (p.segments form).words) :
    encodeEPath p = (p.segments form).bytes := by
  have hlength : p.pathSize.toUInt32.toNat = (p.segments form).words := by
    rw [UInt8.toNat_toUInt32, hsize]
  have hend : ∀ length : UInt32, length.toNat = 0 → ¬0 < length := fun length hzero hlt =>
    absurd (UInt32.lt_iff_toNat_lt.mp hlt) (by rw [hzero]; exact Nat.lt_irrefl 0)
  simp only [encodeEPath, EpathSegment.encode_eq]
  cases form with
  | classId =>
      obtain ⟨hclass, hleft⟩ := left_eq 0 hlength
      rw [if_pos hclass]
      simp only [if_neg (hend _ hleft)]
      exact (List.append_nil _).symm
  | instanceNumber =>
      obtain ⟨hclass, hleft⟩ := left_eq _ hlength
      obtain ⟨hinstance, hlast⟩ := left_eq 0 hleft
      rw [if_pos hclass]
      simp only [if_pos hinstance, if_neg (hend _ hlast)]
      simp only [segments, EpathSegments.bytes, List.flatMap_cons, List.flatMap_nil,
        List.append_assoc]
  | attributeNumber =>
      obtain ⟨hclass, hleft⟩ := left_eq _ hlength
      obtain ⟨hinstance, hmore⟩ := left_eq _ hleft
      obtain ⟨hattribute, -⟩ := left_eq 0 hmore
      rw [if_pos hclass]
      simp only [if_pos hinstance, if_pos hattribute]
      simp only [segments, EpathSegments.bytes, List.flatMap_cons, List.flatMap_nil,
        List.append_nil, List.append_assoc]

/-- A path is decoded to what it was encoded from, up to the end of what was written,
and the assertion of the encoder holds. -/
theorem decodeCipEpath_encodeEPath (p : CipEpath) (h : p.Exact) (rest : Message) :
    decodeCipEpath (sintBytes p.pathSize ++ encodeEPath p ++ rest) =
        some (p, (sintBytes p.pathSize ++ encodeEPath p).length,
          (sintBytes p.pathSize ++ encodeEPath p).length) ∧
      p.Asserted := by
  obtain ⟨form, homits, hsize⟩ := h
  have hencoded := encodeEPath_eq hsize
  have hlength : (encodeEPath p).length = 2 * p.pathSize.toNat := by
    rw [hencoded, EpathSegments.length_bytes, hsize]
  have hloop : decodeElementsAt (sintBytes p.pathSize ++ encodeEPath p ++ rest)
      p.pathSize.toNat p.pathSize.toNat {} 0 1 =
        some (p.toEpath, p.pathSize.toNat, 1 + 2 * p.pathSize.toNat) := by
    have hbytes : (sintBytes p.pathSize ++ encodeEPath p ++ rest).drop 1 =
        (p.segments form).bytes ++ rest := by
      rw [hencoded]
      rfl
    rw [decodeElementsAt_segments hbytes (by rw [Nat.zero_add, hsize]) hsize.ge,
      store_segments homits, hsize]
  have hbyte : Message.byteAt (sintBytes p.pathSize ++ encodeEPath p ++ rest) 0 = p.pathSize := rfl
  constructor
  · simp only [decodeCipEpath, decodePaddedEPath, hbyte, hloop, List.length_append, hlength]
    congr 2
    simp only [sintBytes, List.length_cons, List.length_nil, Prod.mk.injEq, true_and]
    omega
  · rw [Asserted, hlength, Nat.mul_comm]

/-- Attribute 300 of instance 1 of the class 255. -/
theorem decodeCipEpath_encodeEPath_sample :
    let p : CipEpath :=
      { classId := 255, instanceNumber := 1, attributeNumber := 300, pathSize := 4 }
    decodeCipEpath (sintBytes p.pathSize ++ encodeEPath p ++ [0x0E]) =
        some (p, (sintBytes p.pathSize ++ encodeEPath p).length,
          (sintBytes p.pathSize ++ encodeEPath p).length) ∧
      p.Asserted :=
  decodeCipEpath_encodeEPath _ ⟨.attributeNumber, trivial, by decide⟩ _

end CipEpath

end Opener
