import Mathlib.Data.UInt

/-!
A word whose bits under a mask are a field of their own. Merging the flags of one word with
the field of another gives back both.
-/

namespace MaskedField

variable {w : Nat} (mask : BitVec w)

/-- The bits of the field. -/
def field (word : BitVec w) : BitVec w := word &&& mask

/-- The bits outside the field. -/
def flags (word : BitVec w) : BitVec w := word &&& ~~~mask

/-- The flags of one word with the field of another. -/
def merge (word value : BitVec w) : BitVec w := flags mask word ||| field mask value

variable (word value flag : BitVec w)

@[simp]
theorem field_field : field mask (field mask value) = field mask value := by
  rw [field, field, BitVec.and_assoc, BitVec.and_self]

@[simp]
theorem flags_flags : flags mask (flags mask word) = flags mask word := by
  rw [flags, flags, BitVec.and_assoc, BitVec.and_self]

@[simp]
theorem flags_merge : flags mask (merge mask word value) = flags mask word := by
  ext i hi
  simp only [flags, merge, field, BitVec.getElem_and, BitVec.getElem_or, BitVec.getElem_not]
  cases mask[i] with
  | false => simp
  | true => simp

@[simp]
theorem field_merge : field mask (merge mask word value) = field mask value := by
  ext i hi
  simp only [flags, merge, field, BitVec.getElem_and, BitVec.getElem_or, BitVec.getElem_not]
  cases mask[i] with
  | false => simp
  | true => simp

/-- Setting flags does not depend on the field. -/
theorem flags_or_flags : flags mask (word ||| flags mask flag) =
    flags mask word ||| flags mask flag := by
  ext i hi
  simp only [flags, BitVec.getElem_and, BitVec.getElem_or, BitVec.getElem_not]
  cases mask[i] with
  | false => simp
  | true => simp

theorem flags_and_not_flags : flags mask (word &&& ~~~flags mask flag) =
    flags mask word &&& ~~~flag := by
  ext i hi
  simp only [flags, BitVec.getElem_and, BitVec.getElem_not]
  cases mask[i] with
  | false => simp
  | true => simp

end MaskedField
