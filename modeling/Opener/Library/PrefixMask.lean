import Mathlib.Data.Nat.Bitwise

/-!
Masks that split a word of `width` bits into a network part and the host part of its lowest
bits. The operations on the bits are divisions by the size of the host part.
-/

namespace PrefixMask

variable {width hostBits word word' : Nat}

/-- Ones on all bits but the lowest. -/
def prefixMask (width hostBits : Nat) : Nat := 2 ^ width - 2 ^ hostBits

/-- Ones on the lowest bits. -/
def hostMask (hostBits : Nat) : Nat := 2 ^ hostBits - 1

theorem prefixMask_eq (h : hostBits ≤ width) :
    prefixMask width hostBits = 2 ^ hostBits * (2 ^ (width - hostBits) - 1) := by
  rw [prefixMask, Nat.mul_sub, ← Nat.pow_add, Nat.add_sub_cancel' h, Nat.mul_one]

theorem testBit_prefixMask (h : hostBits ≤ width) (i : Nat) :
    (prefixMask width hostBits).testBit i = (decide (hostBits ≤ i) && decide (i < width)) := by
  rw [prefixMask_eq h, Nat.testBit_two_pow_mul, Nat.testBit_two_pow_sub_one]
  by_cases hi : hostBits ≤ i
  · have hlt : i - hostBits < width - hostBits ↔ i < width := by omega
    simp only [ge_iff_le, hi, hlt]
  · simp only [ge_iff_le, hi, decide_false, Bool.false_and]

theorem and_prefixMask (h : hostBits ≤ width) (hword : word < 2 ^ width) :
    word &&& prefixMask width hostBits = 2 ^ hostBits * (word / 2 ^ hostBits) := by
  refine Nat.eq_of_testBit_eq fun i => ?_
  rw [Nat.testBit_and, testBit_prefixMask h, Nat.testBit_two_pow_mul, Nat.testBit_div_two_pow]
  by_cases hi : hostBits ≤ i
  · rw [Nat.sub_add_cancel hi]
    by_cases hwidth : i < width
    · simp [hi, hwidth]
    · have hbit : word.testBit i = false :=
        Nat.testBit_lt_two_pow (hword.trans_le (Nat.pow_le_pow_right (by decide) (by omega)))
      simp [hbit]
  · simp [hi]

/-- The host part is filled up. -/
theorem or_hostMask (word hostBits : Nat) :
    word ||| hostMask hostBits = 2 ^ hostBits * (word / 2 ^ hostBits) + hostMask hostBits := by
  have hlt : hostMask hostBits < 2 ^ hostBits := Nat.sub_lt (Nat.two_pow_pos _) (by decide)
  refine Nat.eq_of_testBit_eq fun i => ?_
  rw [Nat.testBit_two_pow_mul_add _ hlt, Nat.testBit_or, hostMask,
    Nat.testBit_two_pow_sub_one]
  by_cases hi : i < hostBits
  · simp [hi]
  · rw [if_neg hi, Nat.testBit_div_two_pow, Nat.sub_add_cancel (by omega)]
    simp [hi]

theorem and_prefixMask_eq_self_iff (h : hostBits ≤ width) (hword : word < 2 ^ width) :
    word &&& prefixMask width hostBits = word ↔ word % 2 ^ hostBits = 0 := by
  have hdiv := Nat.div_add_mod word (2 ^ hostBits)
  rw [and_prefixMask h hword]
  omega

theorem or_hostMask_eq_self_iff :
    word ||| hostMask hostBits = word ↔ word % 2 ^ hostBits = 2 ^ hostBits - 1 := by
  have hdiv := Nat.div_add_mod word (2 ^ hostBits)
  rw [or_hostMask, hostMask]
  omega

theorem and_prefixMask_eq_iff (h : hostBits ≤ width) (hword : word < 2 ^ width)
    (hword' : word' < 2 ^ width) :
    word &&& prefixMask width hostBits = word' &&& prefixMask width hostBits ↔
      word / 2 ^ hostBits = word' / 2 ^ hostBits := by
  rw [and_prefixMask h hword, and_prefixMask h hword']
  exact Nat.mul_right_inj (Nat.two_pow_pos hostBits).ne'

/-- The complement of a mask plus one is a power of two exactly if the mask has its ones in
front of its zeros. -/
theorem isPowerOfTwo_sub_iff (hword : word ≤ 2 ^ width) :
    (2 ^ width - word).isPowerOfTwo ↔
      ∃ hostBits ≤ width, word = prefixMask width hostBits := by
  constructor
  · rintro ⟨hostBits, hpow⟩
    have hle : 2 ^ hostBits ≤ 2 ^ width := hpow ▸ Nat.sub_le _ _
    refine ⟨hostBits, (Nat.pow_le_pow_iff_right (by decide)).mp hle, ?_⟩
    rw [prefixMask]
    omega
  · rintro ⟨hostBits, hle, rfl⟩
    have hpow : 2 ^ hostBits ≤ 2 ^ width := Nat.pow_le_pow_right (by decide) hle
    exact ⟨hostBits, Nat.sub_sub_self hpow⟩

end PrefixMask
