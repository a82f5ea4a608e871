import Mathlib.Data.Nat.Bitwise
import Mathlib.Data.UInt

/-!
Sets of numbers as tables of bytes, eight numbers in each byte. Marking a number adds it
and nothing else.
-/

namespace BitTable

def bit (n : Nat) : UInt8 := 1 <<< UInt8.ofNat (n % 8)

def test (table : List UInt8) (n : Nat) : Bool := table.getD (n / 8) 0 &&& bit n != 0

def mark (table : List UInt8) (n : Nat) (on : Bool) : List UInt8 :=
  table.modify (n / 8) fun byte => byte ||| if on then bit n else 0

theorem toNat_bit (n : Nat) : (bit n).toNat = 2 ^ (n % 8) := by
  have hlt : n % 8 < 8 := Nat.mod_lt n (by decide)
  have hpow : 2 ^ (n % 8) < 2 ^ 8 := Nat.pow_lt_pow_right (by decide) hlt
  rw [bit, UInt8.toNat_shiftLeft, UInt8.toNat_ofNat', Nat.shiftLeft_eq]
  rw [Nat.mod_eq_of_lt (show n % 8 < 2 ^ 8 by omega), Nat.mod_eq_of_lt hlt, UInt8.toNat_one,
    Nat.one_mul, Nat.mod_eq_of_lt hpow]

theorem and_bit_ne_zero (byte : UInt8) (n : Nat) :
    (byte &&& bit n != 0) = byte.toNat.testBit (n % 8) := by
  have hand : (byte &&& bit n).toNat = (byte.toNat.testBit (n % 8)).toNat * 2 ^ (n % 8) := by
    rw [UInt8.toNat_and, toNat_bit, Nat.and_two_pow]
  cases htest : byte.toNat.testBit (n % 8) with
  | false =>
      rw [htest, Bool.toNat_false, Nat.zero_mul] at hand
      rw [bne_eq_false_iff_eq]
      exact UInt8.toNat_inj.mp hand
  | true =>
      rw [htest, Bool.toNat_true, Nat.one_mul] at hand
      rw [bne_iff_ne]
      intro hzero
      rw [hzero] at hand
      exact absurd hand.symm (Nat.two_pow_pos (n % 8)).ne'

theorem test_replicate (size n : Nat) : test (List.replicate size 0) n = false := by
  rw [test, and_bit_ne_zero]
  have hbyte : (List.replicate size (0 : UInt8)).getD (n / 8) 0 = 0 := by
    rw [List.getD_eq_getElem?_getD, List.getElem?_replicate]
    split <;> rfl
  rw [hbyte]
  exact Nat.zero_testBit (n % 8)

theorem length_mark (table : List UInt8) (n : Nat) (on : Bool) :
    (mark table n on).length = table.length := List.length_modify ..

theorem test_mark {table : List UInt8} {n : Nat} (h : n / 8 < table.length) (on : Bool)
    (m : Nat) : test (mark table n on) m = (test table m || (on && n == m)) := by
  simp only [test, and_bit_ne_zero, mark, List.getD_eq_getElem?_getD, List.getElem?_modify]
  by_cases hindex : n / 8 = m / 8
  · obtain ⟨byte, hbyte⟩ : ∃ byte, table[m / 8]? = some byte := by
      rw [← hindex]
      exact ⟨_, List.getElem?_eq_getElem h⟩
    have heq : (n % 8 == m % 8) = (n == m) := by
      rw [Bool.eq_iff_iff, beq_iff_eq, beq_iff_eq]
      omega
    simp only [hbyte, hindex, if_true, Option.map_eq_map, Option.map_some, Option.getD_some,
      UInt8.toNat_or, Nat.testBit_or]
    cases on with
    | false => simp
    | true =>
        rw [if_pos rfl, toNat_bit, Nat.testBit_two_pow, Bool.true_and, ← heq]
        rfl
  · have hne : n ≠ m := fun hcontra => hindex (congrArg (· / 8) hcontra)
    simp [hindex, hne]

end BitTable
