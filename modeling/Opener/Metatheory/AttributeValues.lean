import Opener.Core.AttributeValues
import Opener.Metatheory.CommonPacketFormat

/-!
The encode and decode functions of attributes: when a value comes back from the bytes that
were written for it, and when the table of lengths says how far a decoder moves the cursor.
-/

namespace Opener

open Message (getUint_intBytes takeBytes_append takeBytes_self)

section Widths

theorem lintBytes_eq {value : UInt64} {a b c d e f g h : UInt8}
    (hvalue : value.toNat = a.toNat + 2 ^ 8 * b.toNat + 2 ^ 16 * c.toNat + 2 ^ 24 * d.toNat +
      2 ^ 32 * e.toNat + 2 ^ 40 * f.toNat + 2 ^ 48 * g.toNat + 2 ^ 56 * h.toNat) :
    lintBytes value = [a, b, c, d, e, f, g, h] := by
  have ha := a.toNat_lt
  have hb := b.toNat_lt
  have hc := c.toNat_lt
  have hd := d.toNat_lt
  have he := e.toNat_lt
  have hf := f.toNat_lt
  have hg := g.toNat_lt
  have hh := h.toNat_lt
  have hbyte := LittleEndian.toNat_byte value
  simp only [lintBytes, List.cons.injEq, and_true, ← UInt8.toNat_inj, UInt64.toNat_toUInt8,
    hbyte 8 8 rfl (by decide), hbyte 16 16 rfl (by decide), hbyte 24 24 rfl (by decide),
    hbyte 32 32 rfl (by decide), hbyte 40 40 rfl (by decide), hbyte 48 48 rfl (by decide),
    hbyte 56 56 rfl (by decide), hvalue]
  omega

/-- What is read with the high byte first is written with the low byte first. -/
theorem lintBytes_getLint (a b c d e f g h : UInt8) (rest : Message) :
    lintBytes (Message.getLint (a :: b :: c :: d :: e :: f :: g :: h :: rest)).1 =
      [h, g, f, e, d, c, b, a] := by
  have ha := a.toNat_lt
  have hb := b.toNat_lt
  have hc := c.toNat_lt
  have hd := d.toNat_lt
  have he := e.toNat_lt
  have hf := f.toNat_lt
  have hg := g.toNat_lt
  have hh := h.toNat_lt
  have hread : ∀ (byte : UInt8) (shift mask : UInt64) (s : Nat), shift.toNat = s → s ≤ 56 →
      mask = 0xFF <<< shift → ((byte.toUInt64 <<< shift) &&& mask).toNat = byte.toNat * 2 ^ s := by
    intro byte shift mask s hs hle hmask
    rw [hmask, LittleEndian.shifted_masked, LittleEndian.toNat_shifted byte hs hle]
  apply lintBytes_eq
  simp only [Message.getLint, Message.byteAt, List.getD_cons_zero, List.getD_cons_succ,
    UInt64.toNat_add]
  rw [hread a 56 0xFF00000000000000 56 rfl (by decide) rfl,
    hread b 48 0x00FF000000000000 48 rfl (by decide) rfl,
    hread c 40 0x0000FF0000000000 40 rfl (by decide) rfl,
    hread d 32 0x000000FF00000000 32 rfl (by decide) rfl,
    hread e 24 0x00000000FF000000 24 rfl (by decide) rfl,
    hread f 16 0x0000000000FF0000 16 rfl (by decide) rfl,
    hread g 8 0x000000000000FF00 8 rfl (by decide) rfl,
    hread h 0 0x00000000000000FF 0 rfl (by decide) rfl]
  omega

theorem lintBytes_lword (a b c d e f g h : UInt8) (string : List UInt8) :
    lintBytes (CipData.lword ⟨[a, b, c, d, e, f, g, h], string⟩) = [a, b, c, d, e, f, g, h] := by
  apply lintBytes_eq
  simp only [CipData.lword, LittleEndian.toNat_qword, Message.getUdint, Message.byteAt,
    LittleEndian.toNat_dword, List.drop_succ_cons, List.drop_zero, List.getD_cons_zero,
    List.getD_cons_succ]
  omega

theorem sintBytes_getUsint_append {memory : List UInt8} (h : memory.length = 1)
    (rest : Message) : sintBytes (Message.getUsint (memory ++ rest)).1 = memory := by
  match memory, h with
  | [a], _ => rfl

theorem intBytes_getUint_append {memory : List UInt8} (h : memory.length = 2)
    (rest : Message) : intBytes (Message.getUint (memory ++ rest)).1 = memory := by
  match memory, h with
  | [a, b], _ =>
      simp only [Message.getUint, Message.byteAt, List.cons_append, List.getD_cons_zero,
        List.getD_cons_succ, intBytes, LittleEndian.word_low, LittleEndian.word_high]

theorem dintBytes_getUdint_append {memory : List UInt8} (h : memory.length = 4)
    (rest : Message) : dintBytes (Message.getUdint (memory ++ rest)).1 = memory := by
  match memory, h with
  | [a, b, c, d], _ =>
      simp only [Message.getUdint, Message.byteAt, List.cons_append, List.getD_cons_zero,
        List.getD_cons_succ, dintBytes, LittleEndian.dword_bytes]

theorem lintBytes_getLint_append {memory : List UInt8} (h : memory.length = 8)
    (rest : Message) : lintBytes (Message.getLint (memory ++ rest)).1 = memory.reverse := by
  match memory, h with
  | [a, b, c, d, e, f, g, i], _ => exact lintBytes_getLint a b c d e f g i rest

end Widths

namespace CipDataType

/-- An object of the type: the bytes of an elementary one, the length and the characters
of a string. -/
def Holds (type : CipDataType) (data : CipData) : Prop :=
  match type with
  | .bool | .byte | .usint | .sint => data.memory.length = 1 ∧ data.string = []
  | .word | .uint | .int => data.memory.length = 2 ∧ data.string = []
  | .dword | .udint | .dint => data.memory.length = 4 ∧ data.string = []
  | .lword | .ulint | .lint => data.memory.length = 8 ∧ data.string = []
  | .string =>
      ∃ length : UInt16, data.memory = intBytes length ∧ data.string.length = length.toNat
  | .shortString =>
      ∃ length : UInt8, data.memory = sintBytes length ∧ data.string.length = length.toNat
  | _ => False

/-- A 64-bit value reads the same from both ends, a string that is not empty starts at an
even position. -/
def Recoverable (type : CipDataType) (value : CipData) (position : Nat) : Prop :=
  match type with
  | .lword | .ulint | .lint => value.memory.reverse = value.memory
  | .string => value.string = [] ∨ position % 2 = 0
  | _ => True

end CipDataType

/-- Decoding the written bytes leaves the value and takes all of them. -/
def RoundTrips (decoded : Decoded CipData) (value : CipData) (written : List UInt8) : Prop :=
  decoded.data = value ∧ decoded.moved = written.length

section RoundTrip

variable {value target : CipData} {position : Nat} {request : MessageRouterRequest}
  {rest : Message}

/-- A value of a fixed size comes back when the bytes that are stored are its own. -/
theorem decodeValue_roundTrips {size : Nat} {returns : Int} {read : Message → List UInt8}
    {written : List UInt8} (hvalue : value.memory.length = size ∧ value.string = [])
    (htarget : target.memory.length = size ∧ target.string = [])
    (hread : (read request.data).length = size) (hwritten : written.length = size) :
    RoundTrips (decodeValue size returns read target request) value written ↔
      read request.data = value.memory := by
  have hmemory : (decodeValue size returns read target request).data =
      ⟨read request.data, []⟩ := by
    simp [decodeValue, CipData.store, hread, htarget.2,
      List.drop_eq_nil_of_le (Nat.le_of_eq htarget.1)]
  have hvalue' : value = ⟨value.memory, []⟩ := by rw [← hvalue.2]
  have hmoved : (decodeValue size returns read target request).moved = written.length :=
    hwritten.symm
  rw [RoundTrips, hmemory, and_iff_left hmoved]
  conv_lhs => rw [hvalue']
  exact ⟨fun h => congrArg CipData.memory h, fun h => by rw [h]⟩

theorem octet_roundTrips (hvalue : value.memory.length = 1 ∧ value.string = [])
    (htarget : target.memory.length = 1 ∧ target.string = [])
    (hrequest : request.data = encodeOctet value position ++ rest) :
    RoundTrips (decodeOctet target request) value (encodeOctet value position) := by
  have hwritten : encodeOctet value position = value.memory := by
    have h := sintBytes_getUsint_append hvalue.1 []
    rwa [List.append_nil] at h
  rw [hwritten] at hrequest ⊢
  apply (decodeValue_roundTrips hvalue htarget rfl hvalue.1).mpr
  rw [hrequest]
  exact sintBytes_getUsint_append hvalue.1 rest

theorem word_roundTrips (hvalue : value.memory.length = 2 ∧ value.string = [])
    (htarget : target.memory.length = 2 ∧ target.string = [])
    (hrequest : request.data = encode16 value position ++ rest) :
    RoundTrips (decode16 target request) value (encode16 value position) := by
  have hwritten : encode16 value position = value.memory := by
    have h := intBytes_getUint_append hvalue.1 []
    rwa [List.append_nil] at h
  rw [hwritten] at hrequest ⊢
  apply (decodeValue_roundTrips hvalue htarget rfl hvalue.1).mpr
  rw [hrequest]
  exact intBytes_getUint_append hvalue.1 rest

theorem dword_roundTrips (hvalue : value.memory.length = 4 ∧ value.string = [])
    (htarget : target.memory.length = 4 ∧ target.string = [])
    (hrequest : request.data = encode32 value position ++ rest) :
    RoundTrips (decode32 target request) value (encode32 value position) := by
  have hwritten : encode32 value position = value.memory := by
    have h := dintBytes_getUdint_append hvalue.1 []
    rwa [List.append_nil] at h
  rw [hwritten] at hrequest ⊢
  apply (decodeValue_roundTrips hvalue htarget rfl hvalue.1).mpr
  rw [hrequest]
  exact dintBytes_getUdint_append hvalue.1 rest

/-- The bytes of a 64-bit value are stored in the reverse order. -/
theorem lword_roundTrips {returns : Int}
    (hvalue : value.memory.length = 8 ∧ value.string = [])
    (htarget : target.memory.length = 8 ∧ target.string = [])
    (hrequest : request.data = encode64 value position ++ rest) :
    RoundTrips (decode64 returns target request) value (encode64 value position) ↔
      value.memory.reverse = value.memory := by
  have hwritten : encode64 value position = value.memory := by
    obtain ⟨memory, string⟩ := value
    match memory, hvalue.1 with
    | [a, b, c, d, e, f, g, i], _ => exact lintBytes_lword a b c d e f g i string
  rw [hwritten] at hrequest ⊢
  have hread := lintBytes_getLint_append hvalue.1 rest
  rw [← hrequest] at hread
  rw [decode64, decodeValue_roundTrips hvalue htarget rfl hvalue.1, hread]

theorem shortString_roundTrips (hvalue : CipDataType.shortString.Holds value)
    (htarget : CipDataType.shortString.Holds target)
    (hrequest : request.data = encodeCipShortString value position ++ rest) :
    RoundTrips (decodeCipShortString target request) value
      (encodeCipShortString value position) := by
  obtain ⟨memory, string⟩ := value
  obtain ⟨length, rfl, hlength⟩ := hvalue
  obtain ⟨length', hmemory', -⟩ := htarget
  have hwritten : encodeCipShortString ⟨sintBytes length, string⟩ position =
      length :: string := by
    simp [encodeCipShortString, Message.getUsint, Message.byteAt, sintBytes,
      takeBytes_self hlength]
  have hsize : request.data.getUsint = (length, string ++ rest) := by
    rw [hrequest, hwritten]
    rfl
  refine ⟨?_, ?_⟩
  · simp [decodeCipShortString, hsize, setCipShortStringByData, CipData.store, hmemory',
      takeBytes_append hlength, sintBytes]
  · simp only [decodeCipShortString, hsize, hwritten, List.length_cons, hlength]

theorem encodeCipString_eq {length : UInt16} {string : List UInt8}
    (hlength : string.length = length.toNat) :
    encodeCipString ⟨intBytes length, string⟩ position =
      intBytes length ++ string ++
        if string ≠ [] ∧ (position + string.length) % 2 = 1 then [0] else [] := by
  have hread : Message.getUint (intBytes length) = (length, []) := by
    have h := getUint_intBytes length []
    rwa [List.append_nil] at h
  have hempty : length = 0 ↔ string = [] := by
    rw [← List.length_eq_zero_iff, hlength, ← UInt16.toNat_inj]
    rfl
  have hparity : (position + (intBytes length ++ string).length) % 2 =
      (position + string.length) % 2 := by
    rw [List.length_append, show (intBytes length).length = 2 from rfl]
    omega
  simp only [encodeCipString, hread, takeBytes_self hlength]
  by_cases hnil : string = []
  · rw [if_pos (hempty.mpr hnil), if_neg (fun h => h.1 hnil), hnil]
    simp
  · rw [if_neg (fun h => hnil (hempty.mp h)), hparity]
    by_cases hodd : (position + string.length) % 2 = 1
    · rw [if_pos hodd, if_pos ⟨hnil, hodd⟩]
      rfl
    · rw [if_neg hodd, if_neg (fun h => hodd h.2), List.append_nil]

/-- The characters come back in any case. The pad byte of the encoder belongs to an even
end in the message, the one of the decoder to an even length. -/
theorem string_roundTrips (hvalue : CipDataType.string.Holds value)
    (htarget : CipDataType.string.Holds target)
    (hrequest : request.data = encodeCipString value position ++ rest) :
    RoundTrips (decodeCipString target request) value (encodeCipString value position) ↔
      value.string = [] ∨ position % 2 = 0 := by
  obtain ⟨memory, string⟩ := value
  obtain ⟨length, rfl, hlength⟩ := hvalue
  obtain ⟨length', hmemory', -⟩ := htarget
  change string.length = length.toNat at hlength
  have hwritten : encodeCipString ⟨intBytes length, string⟩ position = _ :=
    encodeCipString_eq hlength
  obtain ⟨tail, hread⟩ : ∃ tail, request.data.getUint = (length, string ++ tail) := by
    rw [hrequest, hwritten, List.append_assoc, List.append_assoc, getUint_intBytes]
    exact ⟨_, rfl⟩
  have hdata : (decodeCipString target request).data = ⟨intBytes length, string⟩ := by
    simp [decodeCipString, hread, setCipStringByData, CipData.store, hmemory',
      takeBytes_append hlength, intBytes]
  have hmoved : (decodeCipString target request).moved =
      if string.length % 2 = 1 then string.length + 3 else string.length + 2 := by
    simp only [decodeCipString, hread, ← hlength, Nat.add_mod_right]
  have hlength' : (encodeCipString ⟨intBytes length, string⟩ position).length =
      string.length + 2 +
        if string ≠ [] ∧ (position + string.length) % 2 = 1 then 1 else 0 := by
    rw [hwritten, List.length_append, List.length_append,
      show (intBytes length).length = 2 from rfl, apply_ite List.length, Nat.add_comm 2]
    rfl
  rw [RoundTrips, and_iff_right hdata, hmoved, hlength']
  by_cases hnil : string = []
  · simp [hnil]
  · simp only [hnil, ne_eq, not_false_eq_true, true_and, false_or]
    split <;> split <;> omega

end RoundTrip

namespace CipDataType

/-- A value that is written at some position of a message and read back, for each type with
an encode and a decode function. -/
theorem roundTrips_iff_recoverable (type : CipDataType)
    {encode : CipAttributeEncodeInMessage CipData}
    {decode : CipAttributeDecodeFromMessage CipData}
    (hencode : type.encodeFunction = some encode) (hdecode : type.decodeFunction = some decode)
    {value target : CipData} (hvalue : type.Holds value) (htarget : type.Holds target)
    {position : Nat} {request : MessageRouterRequest} (rest : Message)
    (hrequest : request.data = encode value position ++ rest) :
    RoundTrips (decode target request) value (encode value position) ↔
      type.Recoverable value position := by
  cases type <;> simp only [encodeFunction, decodeFunction, Option.some.injEq,
    reduceCtorEq] at hencode hdecode <;> try subst hencode hdecode
  case bool | byte | usint | sint =>
    exact iff_of_true (octet_roundTrips hvalue htarget hrequest) trivial
  case word | uint | int =>
    exact iff_of_true (word_roundTrips hvalue htarget hrequest) trivial
  case dword | udint | dint =>
    exact iff_of_true (dword_roundTrips hvalue htarget hrequest) trivial
  case lword | ulint | lint => exact lword_roundTrips hvalue htarget hrequest
  case string => exact string_roundTrips hvalue htarget hrequest
  case shortString => exact iff_of_true (shortString_roundTrips hvalue htarget hrequest) trivial
  case real | lreal | byteArray => exact absurd hvalue id

theorem roundTrips_iff_recoverable_word :
    RoundTrips (decodeCipUint ⟨[0, 0], []⟩ ⟨0x10, 2, [0x34, 0x12]⟩) ⟨[0x34, 0x12], []⟩
      (encodeCipUint ⟨[0x34, 0x12], []⟩ 5) :=
  (roundTrips_iff_recoverable uint rfl rfl ⟨rfl, rfl⟩ ⟨rfl, rfl⟩ [] (by decide)).mpr trivial

/-- A LINT of 1 comes back as 2 to the power of 56. -/
theorem roundTrips_reverses :
    ¬RoundTrips (decodeCipLint ⟨[0, 0, 0, 0, 0, 0, 0, 0], []⟩
        ⟨0x10, 8, encodeCipLint ⟨[1, 0, 0, 0, 0, 0, 0, 0], []⟩ 0⟩)
      ⟨[1, 0, 0, 0, 0, 0, 0, 0], []⟩ (encodeCipLint ⟨[1, 0, 0, 0, 0, 0, 0, 0], []⟩ 0) := by
  rintro ⟨hdata, -⟩
  revert hdata
  decide

end CipDataType

/-- The table of lengths, the way of the cursor and the returned number are the same. -/
def LengthsAgree (type : CipDataType) (decode : CipAttributeDecodeFromMessage CipData)
    (data : CipData) (request : MessageRouterRequest) : Prop :=
  (getCipDataTypeLength type (some request.data)).toNat = (decode data request).moved ∧
    (decode data request).numberOfDecodedBytes = (decode data request).moved

namespace CipDataType

/-- The length of a string is even, and it is not negative as a signed number; a byte array
is empty and finds a length of 0 in front of it. -/
def Measured (type : CipDataType) (data : CipData) (request : MessageRouterRequest) : Prop :=
  match type with
  | .lword => False
  | .string => request.data.getUint.1.toNat % 2 = 0 ∧ request.data.getUint.1 < 0x8000
  | .shortString => request.data.getUsint.1 < 0x80
  | .byteArray => data.memory.getUint.1 = 0 ∧ request.requestDataSize = 0 ∧
      request.data.getUint.1 = 0
  | _ => True

end CipDataType

section Lengths

variable {data : CipData} {request : MessageRouterRequest}

theorem toNat_signExtend_add (value : UInt16) : (signExtend value + 2).toNat =
    if value.toNat < 0x8000 then value.toNat + 2
    else (value.toNat + 2 + (2 ^ 64 - 0x10000)) % 2 ^ 64 := by
  have hvalue := value.toNat_lt
  have hle : value ≥ 0x8000 ↔ 0x8000 ≤ value.toNat := UInt16.le_iff_toNat_le
  simp only [signExtend, hle]
  split
  · rw [if_neg (by omega), UInt64.toNat_add, UInt64.toNat_sub, UInt16.toNat_toUInt64]
    simp only [UInt64.toNat_ofNat]
    omega
  · rw [if_pos (by omega), UInt64.toNat_add, UInt16.toNat_toUInt64]
    simp only [UInt64.toNat_ofNat]
    omega

theorem toNat_signExtend8_add (value : UInt8) : (signExtend8 value + 1).toNat =
    if value.toNat < 0x80 then value.toNat + 1
    else (value.toNat + 1 + (2 ^ 64 - 0x100)) % 2 ^ 64 := by
  have hvalue := value.toNat_lt
  have hle : value ≥ 0x80 ↔ 0x80 ≤ value.toNat := UInt8.le_iff_toNat_le
  simp only [signExtend8, hle]
  split
  · rw [if_neg (by omega), UInt64.toNat_add, UInt64.toNat_sub, UInt8.toNat_toUInt64]
    simp only [UInt64.toNat_ofNat]
    omega
  · rw [if_pos (by omega), UInt64.toNat_add, UInt8.toNat_toUInt64]
    simp only [UInt64.toNat_ofNat]
    omega

theorem string_lengthsAgree : LengthsAgree .string decodeCipString data request ↔
    request.data.getUint.1.toNat % 2 = 0 ∧ request.data.getUint.1 < 0x8000 := by
  have hlength := request.data.getUint.1.toNat_lt
  have hlt : request.data.getUint.1 < 0x8000 ↔ request.data.getUint.1.toNat < 0x8000 :=
    UInt16.lt_iff_toNat_lt
  simp only [LengthsAgree, getCipDataTypeLength, decodeCipString, toNat_signExtend_add, hlt,
    and_true]
  split <;> split <;> omega

theorem shortString_lengthsAgree : LengthsAgree .shortString decodeCipShortString data request ↔
    request.data.getUsint.1 < 0x80 := by
  have hlength := request.data.getUsint.1.toNat_lt
  have hlt : request.data.getUsint.1 < 0x80 ↔ request.data.getUsint.1.toNat < 0x80 :=
    UInt8.lt_iff_toNat_lt
  simp only [LengthsAgree, getCipDataTypeLength, decodeCipShortString, toNat_signExtend8_add,
    hlt]
  split <;> omega

/-- The cursor stays where it is, so every length has to be 0. -/
theorem byteArray_lengthsAgree : LengthsAgree .byteArray decodeCipByteArray data request ↔
    data.memory.getUint.1 = 0 ∧ request.requestDataSize = 0 ∧ request.data.getUint.1 = 0 := by
  have hmoved : (decodeCipByteArray data request).moved = 0 := by
    simp only [decodeCipByteArray]
    split
    · rfl
    · split <;> rfl
  have hsize : (getCipDataTypeLength .byteArray (some request.data)).toNat = 0 ↔
      request.data.getUint.1 = 0 := by
    rw [getCipDataTypeLength, UInt16.toNat_toUInt64, ← UInt16.toNat_inj]
    rfl
  have hreturn : (decodeCipByteArray data request).numberOfDecodedBytes = 0 ↔
      data.memory.getUint.1 = 0 ∧ request.requestDataSize = 0 := by
    simp only [decodeCipByteArray, UInt64.lt_iff_toNat_lt, gt_iff_lt, ← UInt64.toNat_inj,
      ← UInt16.toNat_inj, UInt16.toNat_toUInt64]
    split
    · rename_i hless
      refine iff_of_false (show (-1 : Int) ≠ 0 by decide) fun h => ?_
      rw [h.1, h.2] at hless
      exact absurd hless (by decide)
    · split
      · rename_i hmore
        refine iff_of_false (show (-1 : Int) ≠ 0 by decide) fun h => ?_
        rw [h.1, h.2] at hmore
        exact absurd hmore (by decide)
      · show ((_ : Nat) : Int) = 0 ↔ _ = 0 ∧ _ = 0
        omega
  rw [LengthsAgree, hmoved, Nat.cast_zero, hsize, hreturn]
  tauto

end Lengths

namespace CipDataType

/-- The table of lengths against the decode function, for each type with a decode
function. -/
theorem lengthsAgree_iff_measured (type : CipDataType)
    {decode : CipAttributeDecodeFromMessage CipData}
    (hdecode : type.decodeFunction = some decode) (data : CipData)
    (request : MessageRouterRequest) :
    LengthsAgree type decode data request ↔ type.Measured data request := by
  cases type <;> simp only [decodeFunction, Option.some.injEq, reduceCtorEq] at hdecode <;>
    try subst hdecode
  case bool | byte | usint | sint | word | uint | int | dword | udint | dint | ulint | lint
      | real | lreal =>
    exact iff_of_true ⟨rfl, rfl⟩ trivial
  case lword => exact iff_of_false (fun h => absurd (show (4 : Int) = 8 from h.2) (by decide)) id
  case string => exact string_lengthsAgree
  case shortString => exact shortString_lengthsAgree
  case byteArray => exact byteArray_lengthsAgree

theorem lengthsAgree_iff_measured_string :
    LengthsAgree .string decodeCipString ⟨[0, 0], []⟩ ⟨0x04, 4, [2, 0, 0x61, 0x62]⟩ :=
  (lengthsAgree_iff_measured string rfl ⟨[0, 0], []⟩ ⟨0x04, 4, [2, 0, 0x61, 0x62]⟩).mpr
    ⟨rfl, by decide⟩

/-- An `LWORD` returns 4 for its eight bytes, and the table has no pad byte for a string of
one character. -/
theorem lengthsAgree_drifts :
    ¬LengthsAgree .lword decodeCipLword ⟨[0, 0, 0, 0, 0, 0, 0, 0], []⟩
        ⟨0x04, 8, [1, 2, 3, 4, 5, 6, 7, 8]⟩ ∧
      ¬LengthsAgree .string decodeCipString ⟨[0, 0], []⟩ ⟨0x04, 4, [1, 0, 0x61, 0]⟩ := by
  refine ⟨fun h => ?_, fun h => ?_⟩
  · exact absurd h.2 (by decide)
  · exact absurd h.1 (by decide)

end CipDataType

end Opener
