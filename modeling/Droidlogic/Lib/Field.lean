import Mathlib.Algebra.Ring.Nat

set_option autoImplicit false

namespace Droidlogic.Lib

-- width bits of a word from bit shift on.
structure Field (w : Nat) where
  shift : Nat
  width : Nat
  fits : shift + width ≤ w
deriving DecidableEq

variable {w : Nat}

def Field.ones (field : Field w) : BitVec w := BitVec.ofNat w (2 ^ field.width - 1)

def Field.get (field : Field w) (word : BitVec w) : BitVec w := word >>> field.shift &&& field.ones

def Field.put (field : Field w) (word value : BitVec w) : BitVec w :=
  word &&& ~~~(field.ones <<< field.shift) ||| value <<< field.shift

def Field.Has (field : Field w) (i : Nat) : Prop := field.shift ≤ i ∧ i < field.shift + field.width

instance (field : Field w) (i : Nat) : Decidable (field.Has i) := inferInstanceAs (Decidable (_ ∧ _))

def Field.Holds (field : Field w) (value : BitVec w) : Prop := value.toNat < 2 ^ field.width

instance (field : Field w) (value : BitVec w) : Decidable (field.Holds value) := inferInstanceAs (Decidable (_ < _))

def Field.Apart (field other : Field w) : Prop :=
  field.shift + field.width ≤ other.shift ∨ other.shift + other.width ≤ field.shift

theorem Field.ones_bit (field : Field w) (i : Nat) : field.ones.getLsbD i = decide (i < field.width) := by
  have fits := field.fits
  rw [ones, BitVec.getLsbD_ofNat, Nat.testBit_two_pow_sub_one]
  by_cases inside : i < field.width
  · have bound : i < w := by omega
    simp [inside, bound]
  · simp [inside]

theorem Field.value_bit (field : Field w) (value : BitVec w) (holds : field.Holds value) (i : Nat)
    (beyond : field.width ≤ i) : value.getLsbD i = false := by
  apply Nat.testBit_lt_two_pow
  exact Nat.lt_of_lt_of_le holds (Nat.pow_le_pow_right (by decide) beyond)

theorem Field.get_bit (field : Field w) (word : BitVec w) (i : Nat) :
    (field.get word).getLsbD i = (word.getLsbD (field.shift + i) && decide (i < field.width)) := by
  rw [get, BitVec.getLsbD_and, BitVec.getLsbD_ushiftRight, ones_bit]

theorem Field.put_bit (field : Field w) (word value : BitVec w) (holds : field.Holds value) (i : Nat) (bound : i < w) :
    (field.put word value).getLsbD i =
      if field.Has i then value.getLsbD (i - field.shift) else word.getLsbD i := by
  rw [put, BitVec.getLsbD_or, BitVec.getLsbD_and, BitVec.getLsbD_not, BitVec.getLsbD_shiftLeft,
    BitVec.getLsbD_shiftLeft, ones_bit]
  by_cases low : i < field.shift
  · have outside : ¬field.Has i := fun inside => absurd inside.1 (by omega)
    simp [outside, bound, low]
  · by_cases high : i - field.shift < field.width
    · have inside : field.Has i := ⟨by omega, by omega⟩
      simp [inside, bound, low, high]
    · have outside : ¬field.Has i := fun inside => absurd inside.2 (by omega)
      have zero := field.value_bit value holds (i - field.shift) (by omega)
      simp [outside, bound, low, high, zero]

theorem Field.get_or (field : Field w) (a b : BitVec w) : field.get (a ||| b) = field.get a ||| field.get b := by
  apply BitVec.eq_of_getLsbD_eq
  intro i _
  simp only [get_bit, BitVec.getLsbD_or, Bool.and_or_distrib_right]

theorem Field.get_put (field : Field w) (word value : BitVec w) (holds : field.Holds value) :
    field.get (field.put word value) = value := by
  apply BitVec.eq_of_getLsbD_eq
  intro i _
  have fits := field.fits
  rw [get_bit]
  by_cases inside : i < field.width
  · have has : field.Has (field.shift + i) := ⟨by omega, by omega⟩
    rw [put_bit field word value holds _ (by omega), if_pos has, Nat.add_sub_cancel_left]
    simp [inside]
  · rw [field.value_bit value holds i (by omega)]
    simp [inside]

theorem Field.get_put_apart (field other : Field w) (apart : field.Apart other) (word value : BitVec w)
    (holds : field.Holds value) : other.get (field.put word value) = other.get word := by
  apply BitVec.eq_of_getLsbD_eq
  intro i _
  have fits := other.fits
  rw [get_bit, get_bit]
  by_cases inside : i < other.width
  · have outside : ¬field.Has (other.shift + i) := by
      intro ⟨low, high⟩
      cases apart with
      | inl before => omega
      | inr after => omega
    rw [put_bit field word value holds _ (by omega), if_neg outside]
  · simp [inside]

theorem Field.get_zero (field : Field w) : field.get 0#w = 0#w := by
  rw [get, BitVec.zero_ushiftRight, BitVec.zero_and]

theorem Field.get_shifted (field : Field w) (value : BitVec w) (n : Nat) (above : field.shift + field.width ≤ n) :
    field.get (value <<< n) = 0#w := by
  apply BitVec.eq_of_getLsbD_eq
  intro i _
  rw [get_bit, BitVec.getLsbD_shiftLeft, BitVec.getLsbD_zero]
  by_cases inside : i < field.width
  · have below : field.shift + i < n := by omega
    simp [below]
  · simp [inside]

theorem Field.get_narrow (field other : Field w) (word : BitVec w) (narrow : other.width ≤ field.shift) :
    field.get (other.get word) = 0#w := by
  apply BitVec.eq_of_getLsbD_eq
  intro i _
  have outside : ¬field.shift + i < other.width := by omega
  rw [get_bit, get_bit, BitVec.getLsbD_zero]
  simp [outside]

-- A field taken out of a word bit by bit.
def gather (word : BitVec w) (shift : Nat) (bits : List Nat) : BitVec w :=
  bits.foldl (fun value i => value ||| (word &&& BitVec.twoPow w i) >>> shift) 0

def clear (word : BitVec w) (bits : List Nat) : BitVec w :=
  bits.foldl (fun word i => word &&& ~~~BitVec.twoPow w i) word

theorem gather_bit (word : BitVec w) (shift : Nat) (bits : List Nat) (value : BitVec w) (j : Nat) :
    (bits.foldl (fun value i => value ||| (word &&& BitVec.twoPow w i) >>> shift) value).getLsbD j =
      (value.getLsbD j || (word.getLsbD (shift + j) && decide (shift + j ∈ bits))) := by
  induction bits generalizing value with
  | nil => simp
  | cons i rest ih =>
      rw [List.foldl_cons, ih, BitVec.getLsbD_or, BitVec.getLsbD_ushiftRight, BitVec.getLsbD_and,
        BitVec.getLsbD_twoPow]
      by_cases bound : shift + j < w
      · by_cases same : i = shift + j
        · subst same
          cases word.getLsbD (shift + j) <;> simp [bound]
        · simp [same, Ne.symm same]
      · simp [BitVec.getLsbD_of_ge word (shift + j) (by omega)]

theorem clear_bit (word : BitVec w) (bits : List Nat) (j : Nat) :
    (clear word bits).getLsbD j = (word.getLsbD j && decide (j ∉ bits)) := by
  induction bits generalizing word with
  | nil => simp [clear]
  | cons i rest ih =>
      rw [clear, List.foldl_cons]
      refine (ih (word &&& ~~~BitVec.twoPow w i)).trans ?_
      rw [BitVec.getLsbD_and, BitVec.getLsbD_not, BitVec.getLsbD_twoPow]
      by_cases bound : j < w
      · by_cases same : i = j
        · subst same
          simp [bound]
        · simp [same, Ne.symm same, bound]
      · simp [BitVec.getLsbD_of_ge word j (by omega)]

theorem gather_get (field : Field w) (word : BitVec w) (bits : List Nat) (all : ∀ i, i ∈ bits ↔ field.Has i) :
    gather word field.shift bits = field.get word := by
  apply BitVec.eq_of_getLsbD_eq
  intro j _
  have has : field.Has (field.shift + j) ↔ j < field.width := by
    simp only [Field.Has]
    omega
  rw [gather, gather_bit, Field.get_bit]
  simp [all, has]

theorem clear_put (field : Field w) (word value : BitVec w) (bits : List Nat) (all : ∀ i, i ∈ bits ↔ field.Has i) :
    clear word bits ||| value <<< field.shift = field.put word value := by
  rw [Field.put]
  congr 1
  apply BitVec.eq_of_getLsbD_eq
  intro j bound
  rw [clear_bit, BitVec.getLsbD_and, BitVec.getLsbD_not, BitVec.getLsbD_shiftLeft, Field.ones_bit]
  have has : field.Has j ↔ ¬j < field.shift ∧ j - field.shift < field.width := by
    simp only [Field.Has]
    omega
  by_cases inside : ¬j < field.shift ∧ j - field.shift < field.width
  · simp [all, has, inside, bound]
  · have outside : j ∉ bits := fun member => inside (has.mp ((all j).mp member))
    by_cases low : j < field.shift
    · simp [outside, low, bound]
    · have high : ¬j - field.shift < field.width := fun high => inside ⟨low, high⟩
      simp [outside, low, high, bound]

end Droidlogic.Lib
