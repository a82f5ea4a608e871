import Mathlib.Algebra.BigOperators.Group.List.Basic
import Mathlib.Algebra.GroupWithZero.Nat

/-!
Values that say themselves where they end, one after the other. When a decoder takes as
many units as the value has, padding between the values is what it cannot skip: it reads
a list back, to its end, exactly when nothing was padded.
-/

namespace SelfDelimiting

variable {α β : Type*}

/-- The value is read from the units whatever follows, and all of them are taken. -/
def Reads (decode : List α → β × Nat) (units : List α) (value : β) : Prop :=
  ∀ rest, decode (units ++ rest) = (value, units.length)

/-- The value alone says how many units the decoder took for it. -/
def Sized (decode : List α → β × Nat) (size : β → Nat) : Prop :=
  ∀ units, (decode units).2 = size (decode units).1

def decodeMany (decode : List α → β × Nat) : Nat → List α → List β × Nat
  | 0, _ => ([], 0)
  | n + 1, units =>
      let (value, taken) := decode units
      let (values, others) := decodeMany decode n (units.drop taken)
      (value :: values, taken + others)

/-- The values with the padding that each wants at the position where it ends. -/
def encodePadded (encode : β → List α) (pad : Nat → β → List α) : Nat → List β → List α
  | _, [] => []
  | position, value :: values =>
      let ends := position + (encode value).length
      encode value ++ pad ends value ++
        encodePadded encode pad (ends + (pad ends value).length) values

/-- No value wants padding. -/
def Unpadded (encode : β → List α) (pad : Nat → β → List α) : Nat → List β → Prop
  | _, [] => True
  | position, value :: values =>
      let ends := position + (encode value).length
      pad ends value = [] ∧ Unpadded encode pad ends values

variable {decode : List α → β × Nat} {encode : β → List α} {pad : Nat → β → List α}
  {size : β → Nat}

theorem decodeMany_length (n : Nat) (units : List α) :
    (decodeMany decode n units).1.length = n := by
  induction n generalizing units with
  | zero => rfl
  | succ n ih => simp only [decodeMany, List.length_cons, ih]

theorem Sized.many (hsized : Sized decode size) (n : Nat) (units : List α) :
    (decodeMany decode n units).2 = ((decodeMany decode n units).1.map size).sum := by
  induction n generalizing units with
  | zero => rfl
  | succ n ih => simp only [decodeMany, List.map_cons, List.sum_cons, ih, hsized units]

theorem Unpadded.reads {values : List β} {position : Nat}
    (h : Unpadded encode pad position values)
    (hreads : ∀ value ∈ values, Reads decode (encode value) value) :
    Reads (decodeMany decode values.length) (encodePadded encode pad position values)
      values := by
  induction values generalizing position with
  | nil => exact fun _ => rfl
  | cons value values ih =>
      intro rest
      obtain ⟨hvalue, hvalues⟩ := List.forall_mem_cons.mp hreads
      have htail := ih h.2 hvalues rest
      simp only [encodePadded, h.1, List.append_nil, List.length_nil, Nat.add_zero,
        List.length_cons, decodeMany, List.append_assoc]
      rw [hvalue]
      simp only [List.drop_left, htail, List.length_append]

theorem length_le_encodePadded (encode : β → List α) (pad : Nat → β → List α)
    (values : List β) (position : Nat) :
    (values.map fun value => (encode value).length).sum ≤
      (encodePadded encode pad position values).length := by
  induction values generalizing position with
  | nil => exact Nat.zero_le _
  | cons value values ih =>
      have htail := ih (position + (encode value).length +
        (pad (position + (encode value).length) value).length)
      simp only [encodePadded, List.map_cons, List.sum_cons, List.length_append]
      omega

theorem unpadded_of_length_eq {values : List β} {position : Nat}
    (h : (encodePadded encode pad position values).length =
      (values.map fun value => (encode value).length).sum) :
    Unpadded encode pad position values := by
  induction values generalizing position with
  | nil => trivial
  | cons value values ih =>
      have htail := length_le_encodePadded encode pad values
        (position + (encode value).length + (pad (position + (encode value).length) value).length)
      simp only [encodePadded, List.map_cons, List.sum_cons, List.length_append] at h
      have hpad : pad (position + (encode value).length) value = [] :=
        List.length_eq_zero_iff.mp (by omega)
      refine ⟨hpad, ih ?_⟩
      rw [hpad, List.length_nil] at h
      exact Nat.add_left_cancel h

/-- A list is read back to its end exactly when no value of it was padded. -/
theorem decodeMany_encodePadded (pad : Nat → β → List α) (hsized : Sized decode size)
    {values : List β} (hreads : ∀ value ∈ values, Reads decode (encode value) value)
    (position : Nat) (rest : List α) :
    decodeMany decode values.length (encodePadded encode pad position values ++ rest) =
        (values, (encodePadded encode pad position values).length) ↔
      Unpadded encode pad position values := by
  constructor
  · intro h
    have htaken := hsized.many values.length (encodePadded encode pad position values ++ rest)
    have hsize : ∀ value ∈ values, size value = (encode value).length := by
      intro value hvalue
      have hsize := hsized (encode value ++ [])
      rw [hreads value hvalue] at hsize
      exact hsize.symm
    rw [h] at htaken
    apply unpadded_of_length_eq
    exact htaken.trans (congrArg List.sum (List.map_congr_left hsize))
  · exact fun h => h.reads hreads rest

end SelfDelimiting
