import Mathlib.Data.List.Basic
import Mathlib.Data.List.GetD
import Mathlib.Logic.Function.Basic

set_option autoImplicit false

namespace Droidlogic.Lib

section
variable {Index Row : Type} [DecidableEq Index] (inside : Index → Bool) (place : Nat → Index)

-- Rows written to an array one after another, from the one with number k on. none is a
-- write outside the array.
def fill : List Row → Nat → (Index → Row) → Option (Index → Row)
  | [], _, array => some array
  | row :: rest, k, array => if inside (place k) then fill rest (k + 1) (Function.update array (place k) row) else none

theorem fill_some_iff (rows : List Row) (k : Nat) (array : Index → Row) :
    (∃ filled, fill inside place rows k array = some filled) ↔ ∀ i < rows.length, inside (place (k + i)) = true := by
  induction rows generalizing k array with
  | nil => exact iff_of_true ⟨array, rfl⟩ fun i none => absurd none (Nat.not_lt_zero i)
  | cons row rest ih =>
      rw [fill]
      by_cases here : inside (place k) = true
      · rw [if_pos here, ih]
        constructor
        · intro later i small
          cases i with
          | zero => exact here
          | succ i =>
              have moved := later i (Nat.lt_of_succ_lt_succ small)
              rw [Nat.add_assoc, Nat.add_comm 1 i] at moved
              exact moved
        · intro all i small
          have moved := all (i + 1) (Nat.succ_lt_succ small)
          rw [Nat.add_comm i 1, ← Nat.add_assoc] at moved
          exact moved
      · rw [if_neg here]
        refine iff_of_false (fun ⟨_, never⟩ => by cases never) fun all => here ?_
        exact all 0 (Nat.succ_pos _)

theorem fill_frame (rows : List Row) (k : Nat) (array filled : Index → Row)
    (done : fill inside place rows k array = some filled) (index : Index)
    (away : ∀ i < rows.length, place (k + i) ≠ index) : filled index = array index := by
  induction rows generalizing k array with
  | nil =>
      cases done
      rfl
  | cons row rest ih =>
      rw [fill] at done
      split at done
      · have later (i : Nat) (small : i < rest.length) : place (k + 1 + i) ≠ index := by
          rw [Nat.add_assoc, Nat.add_comm 1 i]
          exact away (i + 1) (Nat.succ_lt_succ small)
        rw [ih (k + 1) _ done later]
        exact Function.update_of_ne (Ne.symm (away 0 (Nat.succ_pos _))) _ _
      · cases done

-- Rows with places of their own are found there.
theorem fill_at (rows : List Row) (k : Nat) (array filled : Index → Row)
    (done : fill inside place rows k array = some filled)
    (apart : ∀ i < rows.length, ∀ j < rows.length, place (k + i) = place (k + j) → i = j) (i : Nat) (small : i < rows.length) :
    filled (place (k + i)) = rows[i] := by
  induction rows generalizing k array i with
  | nil => exact absurd small (Nat.not_lt_zero i)
  | cons row rest ih =>
      rw [fill] at done
      split at done
      · have moved (j : Nat) : k + 1 + j = k + (j + 1) := by omega
        cases i with
        | zero =>
            rw [fill_frame inside place rest (k + 1) _ filled done]
            · exact Function.update_self _ _ _
            · intro j inner same
              rw [moved] at same
              exact absurd (apart (j + 1) (Nat.succ_lt_succ inner) 0 small same) (Nat.succ_ne_zero j)
        | succ i =>
            have later := ih (k + 1) _ done (fun a first b second same => by
              rw [moved, moved] at same
              exact Nat.succ.inj (apart (a + 1) (Nat.succ_lt_succ first) (b + 1) (Nat.succ_lt_succ second) same)) i
              (Nat.lt_of_succ_lt_succ small)
            rw [moved] at later
            exact later
      · cases done

end

section
variable {Row : Type}

def entries (array : Nat → Row) (length : Nat) : List Row := (List.range length).map array

@[simp] theorem entries_length (array : Nat → Row) (length : Nat) : (entries array length).length = length := by
  simp [entries]

@[simp] theorem entries_zero (array : Nat → Row) : entries array 0 = [] := rfl

-- Rows written behind the first k entries.
theorem fill_entries (inside : Nat → Bool) (rows : List Row) (k : Nat) (array filled : Nat → Row)
    (done : fill inside id rows k array = some filled) : entries filled (k + rows.length) = entries array k ++ rows := by
  apply List.ext_getElem
  · simp
  · intro i small _
    rw [entries_length] at small
    simp only [entries, List.getElem_map, List.getElem_range]
    by_cases before : i < k
    · rw [List.getElem_append_left (by simpa using before), List.getElem_map, List.getElem_range]
      exact fill_frame inside id rows k array filled done i fun j _ same => by
        have other : k + j = i := same
        omega
    · have found := fill_at inside id rows k array filled done (fun a _ b _ same => Nat.add_left_cancel same) (i - k) (by omega)
      rw [id, Nat.add_sub_cancel' (Nat.le_of_not_lt before)] at found
      rw [List.getElem_append_right (by simpa using Nat.le_of_not_lt before), found]
      simp

end

-- Rows laid out in blocks of one length.
theorem blocks_inside (count length nodes width : Nat) (pos : 0 < length) (whole : length ≤ count) :
    (∀ k < count, k / length < nodes ∧ k % length < width) ↔ count ≤ nodes * length ∧ length ≤ width := by
  constructor
  · intro all
    have last := (all (count - 1) (by omega)).1
    have block := (all (length - 1) (by omega)).2
    rw [Nat.mod_eq_of_lt (by omega)] at block
    rw [Nat.div_lt_iff_lt_mul pos] at last
    omega
  · intro ⟨fits, narrow⟩ k small
    exact ⟨(Nat.div_lt_iff_lt_mul pos).mpr (Nat.lt_of_lt_of_le small fits), Nat.lt_of_lt_of_le (Nat.mod_lt k pos) narrow⟩

end Droidlogic.Lib
