import Mathlib.Data.List.DropRight
import Mathlib.Data.Nat.Digits.Lemmas
import Mathlib.Data.UInt

/-!
Text with unsigned decimal numbers, written and read with one format as `fprintf` and `fscanf`
do it. White space in a format reads any amount of white space, and a number may have white
space and a sign in front of it. A separated format reads back what it wrote.
-/

namespace FormattedText

def isSpace (byte : UInt8) : Bool := byte = 0x20 || 0x09 ≤ byte && byte ≤ 0x0D

def isDigit (byte : UInt8) : Bool := 0x30 ≤ byte && byte ≤ 0x39

def digitByte (digit : Nat) : UInt8 := UInt8.ofNat (0x30 + digit)

def digitValue (byte : UInt8) : Nat := byte.toNat - 0x30

/-- The digits of a number, the highest first. -/
def decimal (n : Nat) : List UInt8 :=
  if n = 0 then [digitByte 0] else (Nat.digits 10 n).reverse.map digitByte

/-- The number that digits stand for. -/
def digitsValue (digits : List UInt8) : Nat :=
  digits.foldl (fun value digit => 10 * value + digitValue digit) 0

def skipSpace (text : List UInt8) : List UInt8 := text.dropWhile isSpace

/-- A sign in front of a number. -/
def takeSign : List UInt8 → Bool × List UInt8
  | 0x2B :: text => (false, text)
  | 0x2D :: text => (true, text)
  | text => (false, text)

/-- A number that does not fit becomes the largest one, and a sign negates a number that
does. -/
def unsignedLong (negative : Bool) (value : Nat) : UInt64 :=
  if 2 ^ 64 ≤ value then UInt64.ofNat (2 ^ 64 - 1)
  else if negative then 0 - UInt64.ofNat value
  else UInt64.ofNat value

/-- A number is read as a long one and stored as an `unsigned int`. -/
def scanUnsigned (text : List UInt8) : Option (UInt32 × List UInt8) :=
  let (negative, text) := takeSign (skipSpace text)
  let digits := text.takeWhile isDigit
  if digits = [] then none
  else some ((unsignedLong negative (digitsValue digits)).toUInt32, text.dropWhile isDigit)

/-- What a format is made of. -/
inductive Directive where
  | white (byte : UInt8)
  | literal (byte : UInt8)
  | unsigned
deriving DecidableEq, Repr

/-- The text of a format; a number that is not there is not written. -/
def print : List Directive → List UInt32 → List UInt8
  | [], _ => []
  | .white byte :: format, values | .literal byte :: format, values =>
      byte :: print format values
  | .unsigned :: format, value :: values => decimal value.toNat ++ print format values
  | .unsigned :: format, [] => print format []

/-- The numbers that are read until the text does not match. -/
def scan : List Directive → List UInt8 → List UInt32
  | [], _ => []
  | .white _ :: format, text => scan format (skipSpace text)
  | .literal byte :: format, text =>
      match text with
      | first :: text => if first = byte then scan format text else []
      | [] => []
  | .unsigned :: format, text =>
      match scanUnsigned text with
      | some (value, text) => value :: scan format text
      | none => []

/-- How many numbers a format has. -/
def unsignedCount (format : List Directive) : Nat := format.count .unsigned

/-- What comes first in the text of a format is no digit. -/
def startsApart : List Directive → Bool
  | [] => true
  | .white _ :: _ => true
  | .literal byte :: _ => !isDigit byte
  | .unsigned :: _ => false

/-- White space is white, other characters are not, and no two numbers meet. -/
def isSeparated : List Directive → Bool
  | [] => true
  | .white byte :: format => isSpace byte && isSeparated format
  | .literal byte :: format => !isSpace byte && isSeparated format
  | .unsigned :: format => startsApart format && isSeparated format

section Digits

variable {n : Nat} {text : List UInt8}

theorem digitByte_toNat {digit : Nat} (h : digit < 10) :
    (digitByte digit).toNat = 0x30 + digit := by
  rw [digitByte, UInt8.toNat_ofNat']
  omega

theorem isDigit_digitByte {digit : Nat} (h : digit < 10) : isDigit (digitByte digit) = true := by
  simp only [isDigit, Bool.and_eq_true, decide_eq_true_eq, UInt8.le_iff_toNat_le,
    digitByte_toNat h]
  exact ⟨Nat.le_add_right _ _, by change _ ≤ 57; omega⟩

theorem digitValue_digitByte {digit : Nat} (h : digit < 10) :
    digitValue (digitByte digit) = digit := by
  rw [digitValue, digitByte_toNat h, Nat.add_sub_cancel_left]

theorem isSpace_of_isDigit {byte : UInt8} (h : isDigit byte = true) : isSpace byte = false := by
  simp only [isDigit, isSpace, Bool.and_eq_true, Bool.or_eq_false_iff, Bool.and_eq_false_iff,
    decide_eq_true_eq, decide_eq_false_iff_not, UInt8.le_iff_toNat_le,
    ← UInt8.toNat_inj] at h ⊢
  have hlow : (0x30 : UInt8).toNat = 48 := rfl
  have hspace : (0x20 : UInt8).toNat = 32 := rfl
  have hreturn : (0x0D : UInt8).toNat = 13 := rfl
  omega

theorem decimal_ne_nil : decimal n ≠ [] := by
  rw [decimal]
  split
  · exact List.cons_ne_nil _ _
  · rename_i hn
    simpa [Nat.digits_eq_nil_iff_eq_zero] using hn

theorem decimal_isDigit : ∀ byte ∈ decimal n, isDigit byte = true := by
  intro byte hbyte
  rw [decimal] at hbyte
  split at hbyte
  · rw [List.mem_singleton.mp hbyte]
    exact isDigit_digitByte (by decide)
  · obtain ⟨digit, hdigit, rfl⟩ := List.mem_map.mp hbyte
    exact isDigit_digitByte (Nat.digits_lt_base (by decide) (List.mem_reverse.mp hdigit))

/-- The digits of a number stand for it. -/
theorem digitsValue_decimal : digitsValue (decimal n) = n := by
  rw [decimal]
  split
  · next hn => rw [hn]; rfl
  · have hdigits : ∀ digit ∈ Nat.digits 10 n, digit < 10 := fun digit hdigit =>
      Nat.digits_lt_base (by decide) hdigit
    have hvalue : digitsValue ((Nat.digits 10 n).reverse.map digitByte) =
        (Nat.digits 10 n).foldr (fun digit value => digit + 10 * value) 0 := by
      rw [digitsValue, List.foldl_map, List.foldl_reverse]
      generalize Nat.digits 10 n = digits at hdigits
      induction digits with
      | nil => rfl
      | cons digit digits ih =>
          rw [List.forall_mem_cons] at hdigits
          rw [List.foldr_cons, List.foldr_cons, ih hdigits.2, digitValue_digitByte hdigits.1,
            Nat.add_comm]
    rw [hvalue]
    have hofDigits := Nat.ofDigits_eq_foldr (10 : Nat) (Nat.digits 10 n)
    rw [Nat.ofDigits_digits] at hofDigits
    exact hofDigits.symm

end Digits

section RoundTrip

variable {format : List Directive} {values : List UInt32} {text : List UInt8}

theorem skipSpace_digit (h : ∀ byte ∈ text.head?, isDigit byte = true) : skipSpace text = text := by
  cases text with
  | nil => rfl
  | cons byte text =>
      rw [skipSpace, List.dropWhile_cons_of_neg]
      rw [isSpace_of_isDigit (h byte rfl)]
      exact Bool.false_ne_true

theorem takeSign_digit {byte : UInt8} (h : isDigit byte = true) :
    takeSign (byte :: text) = (false, byte :: text) := by
  rw [takeSign]
  · intro _ hplus
    cases hplus
    cases h
  · intro _ hminus
    cases hminus
    cases h

/-- A number that ends at a character which is no digit is read back. -/
theorem scanUnsigned_decimal (value : UInt32) (h : ∀ byte ∈ text.head?, isDigit byte = false) :
    scanUnsigned (decimal value.toNat ++ text) = some (value, text) := by
  have hdigits := decimal_isDigit (n := value.toNat)
  obtain ⟨first, rest, hfirst⟩ := List.exists_cons_of_ne_nil (decimal_ne_nil (n := value.toNat))
  have hfirstDigit : isDigit first = true := hdigits first (hfirst ▸ List.mem_cons_self)
  have hstart : takeSign (skipSpace (decimal value.toNat ++ text)) =
      (false, decimal value.toNat ++ text) := by
    rw [hfirst, List.cons_append, skipSpace_digit (fun byte hbyte => by
      cases hbyte
      exact hfirstDigit), takeSign_digit hfirstDigit]
  have htext : text.takeWhile isDigit = [] ∧ text.dropWhile isDigit = text := by
    cases text with
    | nil => exact ⟨rfl, rfl⟩
    | cons byte text =>
        have hbyte : isDigit byte = false := h byte rfl
        simp [hbyte]
  have htake : (decimal value.toNat ++ text).takeWhile isDigit = decimal value.toNat := by
    rw [List.takeWhile_append_of_pos hdigits, htext.1, List.append_nil]
  have hdrop : (decimal value.toNat ++ text).dropWhile isDigit = text := by
    rw [List.dropWhile_append_of_pos hdigits, htext.2]
  have hlt : value.toNat < 2 ^ 64 := Nat.lt_trans value.toNat_lt (by decide)
  have hvalue : (unsignedLong false value.toNat).toUInt32 = value := by
    rw [unsignedLong, if_neg (Nat.not_le.mpr hlt), if_neg Bool.false_ne_true,
      ← UInt32.toNat_inj, UInt64.toNat_toUInt32, UInt64.toNat_ofNat']
    have := value.toNat_lt
    omega
  simp only [scanUnsigned, hstart, htake, hdrop, if_neg decimal_ne_nil, digitsValue_decimal, hvalue]

theorem print_head (hapart : startsApart format = true) (hseparated : isSeparated format = true) :
    ∀ byte ∈ (print format values).head?, isDigit byte = false := by
  intro byte hbyte
  cases format with
  | nil => cases hbyte
  | cons directive format =>
      cases directive with
      | white space =>
          cases hbyte
          rw [isSeparated, Bool.and_eq_true] at hseparated
          by_contra hdigit
          rw [isSpace_of_isDigit (Bool.not_eq_false _ ▸ hdigit)] at hseparated
          exact Bool.false_ne_true hseparated.1
      | literal character =>
          cases hbyte
          simpa [startsApart] using hapart
      | unsigned => cases hapart

theorem skipSpace_skipSpace (text : List UInt8) : skipSpace (skipSpace text) = skipSpace text :=
  List.dropWhile_idempotent _ _

theorem scanUnsigned_skipSpace (text : List UInt8) :
    scanUnsigned (skipSpace text) = scanUnsigned text := by
  rw [scanUnsigned, skipSpace_skipSpace]
  rfl

/-- White space in front of what a format wrote is not missed. -/
theorem scan_skipSpace (hseparated : isSeparated format = true) :
    scan format (skipSpace (print format values)) = scan format (print format values) := by
  cases format with
  | nil => rfl
  | cons directive format =>
      cases directive with
      | white space => rw [scan, scan, skipSpace_skipSpace]
      | literal character =>
          rw [isSeparated, Bool.and_eq_true, Bool.not_eq_true'] at hseparated
          have hskip : skipSpace (character :: print format values) =
              character :: print format values :=
            List.dropWhile_cons_of_neg (by rw [hseparated.1]; exact Bool.false_ne_true)
          rw [print, hskip]
      | unsigned => rw [scan, scan, scanUnsigned_skipSpace]

/-- What was written with a separated format is read back. -/
theorem scan_print (hseparated : isSeparated format = true)
    (hvalues : values.length = unsignedCount format) :
    scan format (print format values) = values := by
  induction format generalizing values with
  | nil => exact (List.length_eq_zero_iff.mp hvalues).symm
  | cons directive format ih =>
      cases directive with
      | white space =>
          rw [isSeparated, Bool.and_eq_true] at hseparated
          have hskip : skipSpace (space :: print format values) =
              skipSpace (print format values) := List.dropWhile_cons_of_pos hseparated.1
          rw [scan, print, hskip, scan_skipSpace hseparated.2]
          exact ih hseparated.2 (by simpa [unsignedCount] using hvalues)
      | literal character =>
          rw [isSeparated, Bool.and_eq_true] at hseparated
          rw [print]
          change (if character = character then _ else _) = _
          rw [if_pos rfl]
          exact ih hseparated.2 (by simpa [unsignedCount] using hvalues)
      | unsigned =>
          rw [isSeparated, Bool.and_eq_true] at hseparated
          rw [unsignedCount, List.count_cons_self] at hvalues
          cases values with
          | nil => cases hvalues
          | cons value values =>
              rw [print, scan, scanUnsigned_decimal value (print_head hseparated.1 hseparated.2)]
              exact congrArg (value :: ·) (ih hseparated.2 (Nat.succ.inj hvalues))

end RoundTrip

end FormattedText
