import Opener.Core.StringI
import Opener.Metatheory.AttributeValues

/-!
`STRINGI` round trips: the entries are self-delimiting for the decoder, which does not know
the pad byte that the encoder writes behind a `STRING`.
-/

namespace Opener

open Message (getUint_intBytes takeBytes_append)
open SelfDelimiting (Reads Sized Unpadded encodePadded decodeMany)

namespace CipStringIString

/-- The types whose encode function is implemented. -/
def Encodable : CipStringIString → Prop
  | .shortString _ | .string _ => True
  | .string2 _ | .stringN _ | .null _ _ => False

/-- The length of a string up to a pad byte. -/
def size : CipStringIString → Nat
  | .shortString text => 1 + text.length.toNat
  | .string text => 2 + text.length.toNat
  | .string2 text => 2 + text.length.toNat * 2
  | .stringN text => 4 + text.length.toNat * text.size.toNat
  | .null _ _ => 0

def bytes : CipStringIString → List UInt8
  | .shortString text => sintBytes text.length ++ text.string
  | .string text => intBytes text.length ++ text.string
  | .string2 _ | .stringN _ | .null _ _ => []

/-- A `STRING` that is not empty. -/
def Padded : CipStringIString → Prop
  | .string text => text.string ≠ []
  | .shortString _ | .string2 _ | .stringN _ | .null _ _ => False

theorem length_bytes {string : CipStringIString} (h : string.Encodable) :
    string.bytes.length = string.size := by
  cases string with
  | shortString text => rw [bytes, List.length_append, text.sized]; rfl
  | string text => rw [bytes, List.length_append, text.sized]; rfl
  | string2 _ | stringN _ | null _ _ => exact absurd h id

end CipStringIString

namespace CipStringIStruct

def size (struct : CipStringIStruct) : Nat := 6 + struct.string.size

def bytes (struct : CipStringIStruct) : List UInt8 :=
  cipStringIHeaderEncoding struct ++ struct.string.bytes

/-- The pad byte of `EncodeCipString`. -/
def pad (ends : Nat) (struct : CipStringIStruct) : List UInt8 :=
  match struct.string with
  | .string text => if text.string ≠ [] ∧ ends % 2 = 1 then [0] else []
  | .shortString _ | .string2 _ | .stringN _ | .null _ _ => []

/-- Every `STRING` that is not empty ends at an even length of the message. -/
def EndEven : Nat → List CipStringIStruct → Prop
  | _, [] => True
  | usedMessageLength, struct :: structs =>
      (struct.string.Padded → (usedMessageLength + struct.size) % 2 = 0) ∧
        EndEven (usedMessageLength + struct.size) structs

theorem length_bytes {struct : CipStringIStruct} (h : struct.string.Encodable) :
    struct.bytes.length = struct.size := by
  rw [bytes, List.length_append, CipStringIString.length_bytes h]
  rfl

theorem pad_eq_nil_iff {ends : Nat} {struct : CipStringIStruct} :
    struct.pad ends = [] ↔ (struct.string.Padded → ends % 2 = 0) := by
  simp only [pad]
  cases struct.string with
  | string text =>
      simp only [CipStringIString.Padded]
      split
      · rename_i h
        refine iff_of_false (List.cons_ne_nil 0 []) fun heven => ?_
        have := heven h.1
        omega
      · rename_i h
        refine iff_of_true rfl fun hnonempty => ?_
        by_contra hodd
        exact h ⟨hnonempty, by omega⟩
  | shortString _ | string2 _ | stringN _ | null _ _ => exact iff_of_true rfl nofun

theorem unpadded_iff_endEven {structs : List CipStringIStruct}
    (h : ∀ struct ∈ structs, struct.string.Encodable) (usedMessageLength : Nat) :
    Unpadded bytes pad usedMessageLength structs ↔ EndEven usedMessageLength structs := by
  induction structs generalizing usedMessageLength with
  | nil => exact Iff.rfl
  | cons struct structs ih =>
      obtain ⟨hstruct, hstructs⟩ := List.forall_mem_cons.mp h
      simp only [Unpadded, EndEven, length_bytes hstruct, pad_eq_nil_iff, ih hstructs]

end CipStringIStruct

theorem encodeCipShortString_data (text : CipShortString) (position : Nat) :
    encodeCipShortString text.data position = sintBytes text.length ++ text.string := by
  show sintBytes text.length ++ Message.takeBytes text.string text.length.toNat = _
  rw [Message.takeBytes_self text.sized]

theorem length_cipStringIHeaderEncoding (struct : CipStringIStruct) :
    (cipStringIHeaderEncoding struct).length = 6 := rfl

/-- The pad byte belongs to the end in the message. -/
theorem encodeCipStringIString_eq {struct : CipStringIStruct} (h : struct.string.Encodable)
    (usedMessageLength : Nat) :
    encodeCipStringIString struct.string (usedMessageLength + 6) =
      .ok (struct.string.bytes ++ struct.pad (usedMessageLength + struct.size)) := by
  cases hstring : struct.string with
  | shortString text =>
      simp only [encodeCipStringIString, encodeCipShortString_data, CipStringIString.bytes,
        CipStringIStruct.pad, hstring, List.append_nil]
  | string text =>
      have hparity : (usedMessageLength + 6 + text.string.length) % 2 =
          (usedMessageLength + struct.size) % 2 := by
        rw [text.sized, CipStringIStruct.size, hstring, CipStringIString.size]
        omega
      rw [encodeCipStringIString, CipString.data, encodeCipString_eq text.sized, hparity,
        CipStringIStruct.pad, hstring]
      rfl
  | string2 _ | stringN _ | null _ _ =>
      rw [hstring] at h
      exact absurd h id

theorem encodeCipStringIStructs_eq {structs : List CipStringIStruct}
    (h : ∀ struct ∈ structs, struct.string.Encodable) (usedMessageLength : Nat) :
    encodeCipStringIStructs usedMessageLength structs =
      .ok (encodePadded CipStringIStruct.bytes CipStringIStruct.pad usedMessageLength
        structs) := by
  induction structs generalizing usedMessageLength with
  | nil => rfl
  | cons struct structs ih =>
      obtain ⟨hstruct, hstructs⟩ := List.forall_mem_cons.mp h
      have hends : ∀ pad : List UInt8,
          usedMessageLength + 6 + (struct.string.bytes ++ pad).length =
            usedMessageLength + struct.size + pad.length := by
        intro pad
        rw [List.length_append, CipStringIString.length_bytes hstruct, CipStringIStruct.size]
        omega
      simp only [encodePadded, CipStringIStruct.length_bytes hstruct]
      simp only [encodeCipStringIStructs, length_cipStringIHeaderEncoding,
        encodeCipStringIString_eq hstruct, bind, Except.bind,
        hends, ih hstructs, pure, Except.pure, CipStringIStruct.bytes, List.append_assoc]

theorem decodeCipStringIString_size (charStringStruct : UInt8) (message : Message) :
    (decodeCipStringIString charStringStruct message).2 =
      (decodeCipStringIString charStringStruct message).1.size := by
  simp only [decodeCipStringIString]
  split
  · rfl
  · split
    · rfl
    · split
      · rfl
      · split
        · rfl
        · simp only [CipStringIString.size, CipStringN.setByData]
          split
          · rename_i hlength
            rw [hlength, UInt16.toNat_zero, Nat.zero_mul, Nat.zero_mul]
          · rfl

theorem decodeCipStringIStruct_sized : Sized decodeCipStringIStruct CipStringIStruct.size := by
  intro message
  simp only [decodeCipStringIStruct, CipStringIStruct.size, decodeCipStringIString_size]

theorem decodeCipStringIString_bytes {string : CipStringIString} (h : string.Encodable)
    (rest : Message) :
    decodeCipStringIString string.charStringStruct.toUInt8 (string.bytes ++ rest) =
      (string, string.size) := by
  cases string with
  | shortString text =>
      simp only [CipStringIString.charStringStruct, CipStringIString.bytes]
      rw [decodeCipStringIString, dif_neg (by decide), if_pos (by decide), List.append_assoc]
      show (CipStringIString.shortString (CipShortString.setByData text.length
        (text.string ++ rest)), 1 + text.length.toNat) = _
      obtain ⟨length, string, hsized⟩ := text
      simp only [CipShortString.setByData, takeBytes_append hsized, CipStringIString.size]
  | string text =>
      simp only [CipStringIString.charStringStruct, CipStringIString.bytes]
      rw [decodeCipStringIString, dif_neg (by decide), if_neg (by decide), if_pos (by decide),
        List.append_assoc, getUint_intBytes]
      obtain ⟨length, string, hsized⟩ := text
      simp only [CipString.setByData, takeBytes_append hsized, CipStringIString.size]
  | string2 _ | stringN _ | null _ _ => exact absurd h id

theorem decodeCipStringIStruct_reads {struct : CipStringIStruct} (h : struct.string.Encodable) :
    Reads decodeCipStringIStruct struct.bytes struct := by
  intro rest
  obtain ⟨char1, char2, char3, characterSet, string⟩ := struct
  rw [CipStringIStruct.length_bytes h]
  simp only [CipStringIStruct.bytes, cipStringIHeaderEncoding, sintBytes, List.append_assoc,
    List.cons_append, List.nil_append, decodeCipStringIStruct, Message.getUsint, Message.byteAt,
    List.getD_cons_zero, List.drop_succ_cons, List.drop_zero, getUint_intBytes]
  rw [decodeCipStringIString_bytes h rest]
  rfl

/-- Strings come back, and all bytes are taken, exactly when no pad byte was written. -/
theorem CipStringI.decode_encode_iff {stringI : CipStringI}
    (h : ∀ struct ∈ stringI.arrayOfStringIStructs, struct.string.Encodable)
    (usedMessageLength : Nat) (rest : Message) :
    (∃ written, encodeCipStringI stringI usedMessageLength = .ok written ∧
        cipStringIDecodeFromMessage (written ++ rest) = (stringI, written.length)) ↔
      CipStringIStruct.EndEven (usedMessageLength + 1) stringI.arrayOfStringIStructs := by
  obtain ⟨number, structs, hcounted⟩ := stringI
  have hmany := SelfDelimiting.decodeMany_encodePadded CipStringIStruct.pad
    decodeCipStringIStruct_sized
    (fun struct hstruct => decodeCipStringIStruct_reads (h struct hstruct))
    (usedMessageLength + 1) rest
  rw [CipStringIStruct.unpadded_iff_endEven h, hcounted] at hmany
  have hwritten : encodeCipStringI ⟨number, structs, hcounted⟩ usedMessageLength =
      .ok (number :: encodePadded CipStringIStruct.bytes CipStringIStruct.pad
        (usedMessageLength + 1) structs) := by
    simp only [encodeCipStringI, sintBytes, List.length_singleton, encodeCipStringIStructs_eq h]
    rfl
  rw [← hmany]
  constructor
  · rintro ⟨written, hok, hdecode⟩
    cases hwritten.symm.trans hok
    have hstructs := congrArg (fun decoded => decoded.1.arrayOfStringIStructs) hdecode
    have hmoved := congrArg Prod.snd hdecode
    refine Prod.ext hstructs ?_
    exact Nat.add_left_cancel (hmoved.trans (Nat.add_comm _ 1))
  · intro hdecode
    have hstructs := congrArg Prod.fst hdecode
    have hmoved := congrArg Prod.snd hdecode
    refine ⟨_, hwritten, Prod.ext ?_ ?_⟩
    · exact (CipStringI.mk.injEq _ _ _ _ _ _).mpr ⟨rfl, hstructs⟩
    · exact (congrArg (1 + ·) hmoved).trans (Nat.add_comm 1 _)

/-- Both strings end at an even length, 10 and 30. -/
theorem CipStringI.decode_encode_iff_several :
    let stringI : CipStringI :=
      { numberOfStrings := 3
        arrayOfStringIStructs :=
          [⟨0x65, 0x6E, 0x67, 4, .string ⟨1, [0x61], rfl⟩⟩,
            ⟨0x64, 0x65, 0x75, 4, .shortString ⟨2, [0x62, 0x63], rfl⟩⟩,
            ⟨0x66, 0x72, 0x61, 4, .string ⟨3, [0x64, 0x65, 0x66], rfl⟩⟩]
        counted := rfl }
    ∃ written, encodeCipStringI stringI 0 = .ok written ∧
      cipStringIDecodeFromMessage (written ++ [0xFF]) = (stringI, written.length) := by
  intro stringI
  refine (CipStringI.decode_encode_iff ?_ 0 [0xFF]).mpr ?_
  · simp [stringI, CipStringIString.Encodable]
  · exact ⟨fun _ => rfl, nofun, fun _ => rfl, trivial⟩

/-- The second entry is read from the pad byte of the first one. -/
theorem CipStringI.decode_encode_misaligned :
    let stringI : CipStringI :=
      { numberOfStrings := 2
        arrayOfStringIStructs :=
          [⟨0x65, 0x6E, 0x67, 4, .string ⟨2, [0x61, 0x62], rfl⟩⟩,
            ⟨0x64, 0x65, 0x75, 4, .shortString ⟨1, [0x61], rfl⟩⟩]
        counted := rfl }
    (∃ written, encodeCipStringI stringI 0 = .ok written) ∧
      ∀ written, encodeCipStringI stringI 0 = .ok written →
        (cipStringIDecodeFromMessage written).1 ≠ stringI := by
  intro stringI
  refine ⟨⟨_, rfl⟩, fun written hwritten => ?_⟩
  cases hwritten
  decide

end Opener
