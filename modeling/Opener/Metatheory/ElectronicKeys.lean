import Opener.Core.SampleApplication
import Opener.Library.LittleEndian
import Opener.Metatheory.PacketGrammar

/-!
The check of an electronic key against the rules that `cipconnectionmanager.h` gives for
its error codes. With the compatibility bit a zero is an error there, but the check takes
it for a wildcard in both modes.
-/

namespace Opener

/-- A key segment of format 4 as it stands on the wire, behind segment type and format. -/
structure WireKey where
  vendorId : Nat
  deviceType : Nat
  productCode : Nat
  compatibility : Bool
  majorRevision : Nat
  minorRevision : Nat

namespace Message

variable (message : Message)

/-- The two bytes at an offset as a number. -/
def wireUint (offset : Nat) : Nat :=
  (message.byteAt offset).toNat + 256 * (message.byteAt (offset + 1)).toNat

theorem toNat_word (offset : Nat) : (message.word offset).toNat = message.wireUint offset := by
  rw [word, getUint, LittleEndian.toNat_word, byteAt_drop, byteAt_drop]
  rfl

/-- The key in a message that begins with its segment. -/
def wireKey : WireKey :=
  { vendorId := message.wireUint 2
    deviceType := message.wireUint 4
    productCode := message.wireUint 6
    compatibility := 128 ≤ (message.byteAt 8).toNat
    majorRevision := (message.byteAt 8).toNat % 128
    minorRevision := (message.byteAt 9).toNat }

end Message

namespace WireKey

variable (identity : Identity) (key : WireKey)

/-- A number that may be left open with zero, unless the compatibility bit is set. -/
def Fits (compatibility : Bool) (value own : Nat) : Prop :=
  if compatibility then value ≠ 0 ∧ value = own else value = 0 ∨ value = own

def ProductFits : Prop :=
  Fits key.compatibility key.vendorId identity.vendorId.toNat ∧
    Fits key.compatibility key.productCode identity.productCode.toNat

def DeviceTypeFits : Prop := Fits key.compatibility key.deviceType identity.deviceType.toNat

def RevisionFits : Prop :=
  if key.compatibility then
    key.majorRevision = identity.majorRevision.toNat ∧
      1 ≤ key.minorRevision ∧ key.minorRevision ≤ identity.minorRevision.toNat
  else
    key.majorRevision = 0 ∨ (key.majorRevision = identity.majorRevision.toNat ∧
      (key.minorRevision = 0 ∨ key.minorRevision = identity.minorRevision.toNat))

instance (compatibility : Bool) (value own : Nat) : Decidable (Fits compatibility value own) :=
  inferInstanceAs (Decidable (if compatibility then _ else _))

instance : Decidable (key.ProductFits identity) := inferInstanceAs (Decidable (_ ∧ _))

instance : Decidable (key.DeviceTypeFits identity) := inferInstanceAs (Decidable (Fits _ _ _))

instance : Decidable (key.RevisionFits identity) :=
  inferInstanceAs (Decidable (if key.compatibility then _ else _))

/-- The result that the documentation of the error codes asks for: the first group that
does not fit. -/
def documentedCheck : Except UInt16 Unit :=
  if ¬key.ProductFits identity then .error 0x0114
  else if ¬key.DeviceTypeFits identity then .error 0x0115
  else if ¬key.RevisionFits identity then .error 0x0116
  else .ok ()

/-- What the code answers to a key. -/
def answer : Except UInt16 Unit :=
  if (key.vendorId ≠ identity.vendorId.toNat ∧ key.vendorId ≠ 0) ∨
      (key.productCode ≠ identity.productCode.toNat ∧ key.productCode ≠ 0) then
    .error 0x0114
  else if key.deviceType ≠ identity.deviceType.toNat ∧ key.deviceType ≠ 0 then .error 0x0115
  else if ¬key.RevisionFits identity then .error 0x0116
  else .ok ()

end WireKey

namespace ElectronicKeyFormat4

variable (identity : Identity) (key : ElectronicKeyFormat4)

/-- The key as the accessors of `cipelectronickey.c` show it. -/
def wire : WireKey :=
  { vendorId := key.vendorId.toNat
    deviceType := key.deviceType.toNat
    productCode := key.productCode.toNat
    compatibility := key.majorRevisionCompatibility &&& 0x80 = 0x80
    majorRevision := (key.majorRevisionCompatibility &&& 0x7F).toNat
    minorRevision := key.minorRevision.toNat }

end ElectronicKeyFormat4

theorem compatibility_iff (byte : UInt8) : byte &&& 0x80 = 0x80 ↔ 128 ≤ byte.toNat := by
  have hbyte := byte.toNat_lt
  have hand : byte.toNat &&& 2 ^ 7 = (byte.toNat.testBit 7).toNat * 2 ^ 7 := Nat.and_two_pow _ _
  have hbit := Nat.testBit_eq_decide_div_mod_eq (x := byte.toNat) (i := 7)
  rw [← UInt8.toNat_inj, UInt8.toNat_and]
  change byte.toNat &&& 2 ^ 7 = 2 ^ 7 ↔ _
  rw [hand, hbit]
  by_cases hset : byte.toNat / 2 ^ 7 % 2 = 1
  · rw [decide_eq_true hset, Bool.toNat_true]
    omega
  · rw [decide_eq_false hset, Bool.toNat_false]
    omega

theorem toNat_majorRevision (byte : UInt8) : (byte &&& 0x7F).toNat = byte.toNat % 128 := by
  rw [UInt8.toNat_and]
  exact Nat.and_two_pow_sub_one_eq_mod byte.toNat 7

theorem getElectronicKeyFormat4FromMessage_wire (message : Message) :
    (getElectronicKeyFormat4FromMessage message).1.wire = message.wireKey := by
  have hmajor := toNat_majorRevision (message.byteAt 8)
  have hcompatibility := compatibility_iff (message.byteAt 8)
  simp only [getElectronicKeyFormat4FromMessage, Message.getUint_drop, Message.getUsint,
    Message.byteAt_drop, ElectronicKeyFormat4.wire, Message.wireKey, Message.toNat_word,
    List.drop_drop]
  rw [decide_eq_decide.mpr hcompatibility, hmajor]

/-- The code takes a zero for a wildcard whatever the compatibility bit is. -/
theorem fits_iff {compatibility : Bool} {value own : Nat}
    (h : compatibility = true → value ≠ 0) :
    WireKey.Fits compatibility value own ↔ ¬(value ≠ own ∧ value ≠ 0) := by
  cases compatibility with
  | false =>
      simp only [WireKey.Fits, Bool.false_eq_true, if_false]
      omega
  | true =>
      have hvalue := h rfl
      simp only [WireKey.Fits, if_true]
      omega

namespace ElectronicKeyFormat4

variable {identity : Identity} {key : ElectronicKeyFormat4}

theorem revisionFits_iff : key.wire.RevisionFits identity ↔
    if key.majorRevisionCompatibility &&& 0x80 = 0x80 then
      key.majorRevisionCompatibility &&& 0x7F = identity.majorRevision ∧
        key.minorRevision > 0 ∧ key.minorRevision ≤ identity.minorRevision
    else
      key.majorRevisionCompatibility &&& 0x7F = 0 ∨
        (key.majorRevisionCompatibility &&& 0x7F = identity.majorRevision ∧
          (key.minorRevision = 0 ∨ key.minorRevision = identity.minorRevision)) := by
  have hbyte : ∀ n : UInt8, n.toNat = 0 ↔ n = 0 := fun n => UInt8.toNat_inj (b := 0)
  have hpos : 1 ≤ key.minorRevision.toNat ↔ key.minorRevision > 0 :=
    (UInt8.lt_iff_toNat_lt (a := 0)).symm
  simp only [WireKey.RevisionFits, wire, decide_eq_true_eq, UInt8.toNat_inj, hbyte, hpos,
    UInt8.le_iff_toNat_le]

theorem checkElectronicKeyData_wire (identity : Identity) (key : ElectronicKeyFormat4) :
    checkElectronicKeyData identity key = key.wire.answer identity := by
  have hword : ∀ n : UInt16, n.toNat = 0 ↔ n = 0 := fun n => UInt16.toNat_inj (b := 0)
  have hrevision : (if ¬key.majorRevisionCompatibility &&& 0x80 = 0x80 then
        if key.majorRevisionCompatibility &&& 0x7F = 0 then (.ok () : Except UInt16 Unit)
        else if key.majorRevisionCompatibility &&& 0x7F ≠ identity.majorRevision ∨
            (key.minorRevision ≠ identity.minorRevision ∧ key.minorRevision ≠ 0) then
          .error 0x0116
        else .ok ()
      else if key.majorRevisionCompatibility &&& 0x7F = identity.majorRevision ∧
          key.minorRevision > 0 ∧ key.minorRevision ≤ identity.minorRevision then .ok ()
      else .error 0x0116) =
      if ¬key.wire.RevisionFits identity then .error 0x0116 else .ok () := by
    rw [ite_not (key.wire.RevisionFits identity)]
    simp only [revisionFits_iff]
    by_cases hmode : key.majorRevisionCompatibility &&& 0x80 = 0x80
    · rw [if_neg (not_not.mpr hmode)]
      simp only [if_pos hmode]
    · rw [if_pos hmode]
      simp only [if_neg hmode]
      by_cases hmajor : key.majorRevisionCompatibility &&& 0x7F = 0
      · rw [if_pos hmajor, if_pos (.inl hmajor)]
      · rw [if_neg hmajor, ← ite_not]
        refine if_congr ?_ rfl rfl
        simp only [ne_eq, not_or, not_and_or, not_not, hmajor, false_or]
        exact and_congr_right fun _ => or_comm
  simp only [WireKey.answer, wire, ne_eq, UInt16.toNat_inj, hword] at hrevision ⊢
  rw [← hrevision]
  rfl

end ElectronicKeyFormat4

namespace WireKey

variable (identity : Identity) (key : WireKey)

/-- A key that the code judges by the rules: the compatibility bit is clear, or the vendor or
the product is another one, or no number of these groups is left open. -/
def JudgedByRules : Prop :=
  key.compatibility = false ∨
    (key.vendorId ≠ identity.vendorId.toNat ∧ key.vendorId ≠ 0) ∨
    (key.productCode ≠ identity.productCode.toNat ∧ key.productCode ≠ 0) ∨
    (key.vendorId ≠ 0 ∧ key.productCode ≠ 0 ∧ key.deviceType ≠ 0)

end WireKey

namespace WireKey

variable {identity : Identity} {key : WireKey}

theorem answer_of_fits
    (hvendor : key.compatibility = true → key.vendorId ≠ 0)
    (hproduct : key.compatibility = true → key.productCode ≠ 0)
    (hdevice : key.compatibility = true → key.deviceType ≠ 0) :
    key.answer identity = key.documentedCheck identity := by
  have hgroup : ((key.vendorId ≠ identity.vendorId.toNat ∧ key.vendorId ≠ 0) ∨
      (key.productCode ≠ identity.productCode.toNat ∧ key.productCode ≠ 0)) ↔
      ¬key.ProductFits identity := by
    rw [ProductFits, fits_iff hvendor, fits_iff hproduct]
    tauto
  have htype : (key.deviceType ≠ identity.deviceType.toNat ∧ key.deviceType ≠ 0) ↔
      ¬key.DeviceTypeFits identity := by
    rw [DeviceTypeFits, fits_iff hdevice, not_not]
  rw [answer, documentedCheck]
  simp only [hgroup, htype]

theorem answer_of_mismatch
    (h : (key.vendorId ≠ identity.vendorId.toNat ∧ key.vendorId ≠ 0) ∨
      (key.productCode ≠ identity.productCode.toNat ∧ key.productCode ≠ 0)) :
    key.answer identity = key.documentedCheck identity := by
  have hgroup : ¬key.ProductFits identity := by
    simp only [ProductFits, Fits]
    split
    · tauto
    · tauto
  rw [answer, if_pos h, documentedCheck, if_pos hgroup]

/-- A number left open with the compatibility bit set is taken for a wildcard. -/
theorem answer_of_open (hmode : key.compatibility = true)
    (hmatch : ¬((key.vendorId ≠ identity.vendorId.toNat ∧ key.vendorId ≠ 0) ∨
      (key.productCode ≠ identity.productCode.toNat ∧ key.productCode ≠ 0)))
    (hopen : key.vendorId = 0 ∨ key.productCode = 0 ∨ key.deviceType = 0) :
    key.answer identity ≠ key.documentedCheck identity := by
  rw [answer, if_neg hmatch, documentedCheck]
  by_cases hproduct : key.ProductFits identity
  · have hnonzero : key.vendorId ≠ 0 ∧ key.productCode ≠ 0 := by
      simp only [ProductFits, Fits, hmode, if_true] at hproduct
      exact ⟨hproduct.1.1, hproduct.2.1⟩
    have hzero : key.deviceType = 0 := by
      have hv := hnonzero.1
      have hp := hnonzero.2
      omega
    have htype : ¬key.DeviceTypeFits identity := by
      simp only [DeviceTypeFits, Fits, hmode, if_true]
      exact fun h => h.1 hzero
    rw [if_neg (not_not.mpr hproduct), if_neg fun h => h.2 hzero, if_pos htype]
    split
    · simp
    · simp
  · rw [if_pos hproduct]
    split
    · simp
    · split
      · simp
      · simp

theorem answer_iff (key : WireKey) :
    key.answer identity = key.documentedCheck identity ↔ key.JudgedByRules identity := by
  rw [JudgedByRules]
  cases hmode : key.compatibility with
  | false =>
      refine iff_of_true ?_ (.inl rfl)
      refine answer_of_fits ?_ ?_ ?_
      · simp [hmode]
      · simp [hmode]
      · simp [hmode]
  | true =>
      by_cases hmatch : (key.vendorId ≠ identity.vendorId.toNat ∧ key.vendorId ≠ 0) ∨
          (key.productCode ≠ identity.productCode.toNat ∧ key.productCode ≠ 0)
      · refine iff_of_true (answer_of_mismatch hmatch) ?_
        tauto
      · by_cases hset : key.vendorId ≠ 0 ∧ key.productCode ≠ 0 ∧ key.deviceType ≠ 0
        · refine iff_of_true ?_ (by tauto)
          exact answer_of_fits (fun _ => hset.1) (fun _ => hset.2.1) fun _ => hset.2.2
        · refine iff_of_false (answer_of_open hmode hmatch (by tauto)) ?_
          simp only [Bool.true_eq_false, false_or]
          tauto

end WireKey

/-- The check of the key in a message follows the documented rules if and only if the
compatibility bit is clear, or the vendor or the product is another one, or neither
vendor, product nor device type is zero. -/
theorem checkElectronicKeyData_iff (identity : Identity) (message : Message) :
    checkElectronicKeyData identity (getElectronicKeyFormat4FromMessage message).1 =
        message.wireKey.documentedCheck identity ↔
      message.wireKey.JudgedByRules identity := by
  have hwire := ElectronicKeyFormat4.checkElectronicKeyData_wire identity
    (getElectronicKeyFormat4FromMessage message).1
  rw [getElectronicKeyFormat4FromMessage_wire] at hwire
  rw [hwire]
  exact message.wireKey.answer_iff

/-- The key of a device of the sample application with vendor zero and the compatibility bit:
it is accepted and should be refused. -/
theorem checkElectronicKeyData_zero :
    checkElectronicKeyData SampleApplication.config.identity
        (getElectronicKeyFormat4FromMessage [0x34, 4, 0, 0, 12, 0, 0xE9, 0xFD, 0x82, 3]).1 =
      .ok () ∧
    (Message.wireKey [0x34, 4, 0, 0, 12, 0, 0xE9, 0xFD, 0x82, 3]).documentedCheck
        SampleApplication.config.identity = .error 0x0114 := ⟨rfl, rfl⟩

end Opener
