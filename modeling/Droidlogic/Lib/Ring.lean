import Mathlib.Data.List.GetD
import Mathlib.Data.List.Nodup

set_option autoImplicit false

namespace Droidlogic.Lib.Ring

-- The cell j behind start; the last cell of a ring is followed by its first.
def around (size start j : Nat) : Nat := if start + j < size then start + j else start + j - size

theorem around_lt (size start j : Nat) (inside : start < size) (small : j ≤ size) : around size start j < size := by
  rw [around]
  split <;> omega

theorem around_injective (size start a b : Nat) (first : a < size) (second : b < size)
    (same : around size start a = around size start b) : a = b := by
  rw [around, around] at same
  split at same <;> split at same <;> omega

theorem around_add (size start a b : Nat) (inside : start < size) (small : a + b ≤ size) :
    around size (around size start a) b = around size start (a + b) := by
  simp only [around]
  split <;> split <;> split <;> omega

section
variable {Item : Type} (size : Nat)

def window (cells : Nat → Item) (start count : Nat) : List Item :=
  (List.range count).map fun j => cells (around size start j)

-- count cells that do not reach the ring's end.
def straight (cells : Nat → Item) (start count : Nat) : List Item := (List.range count).map fun j => cells (start + j)

def put (cells : Nat → Item) (start : Nat) (items : List Item) : Nat → Item := fun i =>
  if start ≤ i then items.getD (i - start) (cells i) else cells i

-- The ring next is the ring cells with items from start on.
structure Overlaid (cells : Nat → Item) (start : Nat) (items : List Item) (next : Nat → Item) : Prop where
  hit : ∀ j (small : j < items.length), next (around size start j) = items[j]
  miss : ∀ i < size, (∀ j < items.length, around size start j ≠ i) → next i = cells i

@[simp] theorem window_length (cells : Nat → Item) (start count : Nat) :
    (window size cells start count).length = count := by
  rw [window, List.length_map, List.length_range]

theorem window_add (cells : Nat → Item) (start a b : Nat) (inside : start < size) (small : a + b ≤ size) :
    window size cells start (a + b) = window size cells start a ++ window size cells (around size start a) b := by
  rw [window, List.range_add, List.map_append, List.map_map]
  refine congrArg _ (List.map_congr_left fun j member => ?_)
  have below := List.mem_range.mp member
  exact congrArg cells (around_add size start a j inside (by omega)).symm

theorem straight_add (cells : Nat → Item) (start a b : Nat) :
    straight cells start (a + b) = straight cells start a ++ straight cells (start + a) b := by
  rw [straight, List.range_add, List.map_append, List.map_map]
  refine congrArg _ (List.map_congr_left fun j _ => ?_)
  exact congrArg cells (Nat.add_assoc start a j).symm

theorem window_congr (cells next : Nat → Item) (start count : Nat)
    (same : ∀ j < count, next (around size start j) = cells (around size start j)) :
    window size next start count = window size cells start count :=
  List.map_congr_left fun j member => same j (List.mem_range.mp member)

theorem window_straight (cells : Nat → Item) (start count : Nat) (room : start + count ≤ size) :
    window size cells start count = straight cells start count := by
  refine List.map_congr_left fun j member => ?_
  have below := List.mem_range.mp member
  rw [around, if_pos (by omega)]

-- A window that passes the ring's end.
theorem window_twice (cells : Nat → Item) (start a b : Nat) (reaches : start + a = size) (small : b ≤ start)
    (positive : 0 < a) : window size cells start (a + b) = straight cells start a ++ straight cells 0 b := by
  have back : around size start a = 0 := by
    rw [around, if_neg (by omega)]
    omega
  rw [window_add size cells start a b (by omega) (by omega), window_straight size cells start a (by omega), back,
    window_straight size cells 0 b (by omega)]

theorem put_at (cells : Nat → Item) (start : Nat) (items : List Item) (j : Nat) (small : j < items.length) :
    put cells start items (start + j) = items[j] := by
  rw [put, if_pos (Nat.le_add_right start j), Nat.add_sub_cancel_left, List.getD_eq_getElem _ _ small]

theorem put_away (cells : Nat → Item) (start : Nat) (items : List Item) (i : Nat)
    (away : i < start ∨ start + items.length ≤ i) : put cells start items i = cells i := by
  rw [put]
  split
  · exact List.getD_eq_default _ _ (by omega)
  · rfl

theorem put_overlaid (cells : Nat → Item) (start : Nat) (items : List Item) (room : start + items.length ≤ size) :
    Overlaid size cells start items (put cells start items) := by
  constructor
  · intro j small
    rw [around, if_pos (by omega)]
    exact put_at cells start items j small
  · intro i inside missed
    apply put_away
    by_contra here
    refine missed (i - start) (by omega) ?_
    rw [around, if_pos (by omega)]
    omega

-- Items that pass the ring's end are laid in two pieces.
theorem put_twice_overlaid (cells : Nat → Item) (start : Nat) (first second : List Item)
    (reaches : start + first.length = size) (small : second.length ≤ start) :
    Overlaid size cells start (first ++ second) (put (put cells start first) 0 second) := by
  constructor
  · intro j below
    rw [List.length_append] at below
    by_cases front : j < first.length
    · rw [around, if_pos (by omega), put_away _ 0 second _ (Or.inr (by omega)), put_at cells start first j front,
        List.getElem_append_left front]
    · have back : start + j - size = 0 + (j - first.length) := by omega
      rw [around, if_neg (by omega), List.getElem_append_right (by omega), back]
      exact put_at _ 0 second _ (by omega)
  · intro i inside missed
    rw [List.length_append] at missed
    have behind : second.length ≤ i := by
      by_contra here
      refine missed (first.length + i) (by omega) ?_
      rw [around, if_neg (by omega)]
      omega
    have before : i < start := by
      by_contra here
      refine missed (i - start) (by omega) ?_
      rw [around, if_pos (by omega)]
      omega
    rw [put_away _ 0 second _ (Or.inr (by omega)), put_away _ start first _ (Or.inl before)]

theorem window_overlaid (cells next : Nat → Item) (start : Nat) (items : List Item)
    (laid : Overlaid size cells start items next) : window size next start items.length = items := by
  apply List.ext_getElem
  · exact window_length size next start items.length
  · intro j _ small
    rw [← laid.hit j small]
    simp only [window, List.getElem_map, List.getElem_range]

theorem window_before (cells next : Nat → Item) (start count : Nat) (items : List Item) (inside : start < size)
    (room : count + items.length ≤ size) (laid : Overlaid size cells (around size start count) items next) :
    window size next start count = window size cells start count := by
  apply window_congr
  intro j below
  apply laid.miss _ (around_lt size start j inside (by omega))
  intro k small same
  rw [around_add size start count k inside (by omega)] at same
  have equal := around_injective size start _ _ (by omega) (by omega) same
  omega

theorem window_behind (cells next : Nat → Item) (start count : Nat) (items : List Item) (inside : start < size)
    (room : items.length + count ≤ size) (laid : Overlaid size cells start items next) :
    window size next (around size start items.length) count = window size cells (around size start items.length) count := by
  apply window_congr
  intro j below
  rw [around_add size start items.length j inside (by omega)]
  apply laid.miss _ (around_lt size start _ inside (by omega))
  intro k small same
  have equal := around_injective size start _ _ (by omega) (by omega) same
  omega

-- A cell of the new ring is one of the old, or one of those that were laid.
theorem overlaid_cases (cells next : Nat → Item) (start : Nat) (items : List Item)
    (laid : Overlaid size cells start items next) (i : Nat) (inside : i < size) :
    next i = cells i ∨ ∃ j, ∃ small : j < items.length, around size start j = i ∧ next i = items[j] := by
  by_cases hit : ∃ j < items.length, around size start j = i
  · obtain ⟨j, small, rfl⟩ := hit
    exact Or.inr ⟨j, small, rfl, laid.hit j small⟩
  · exact Or.inl (laid.miss i inside fun j small same => hit ⟨j, small, same⟩)

end

end Droidlogic.Lib.Ring
