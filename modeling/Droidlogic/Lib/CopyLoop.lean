import Mathlib.Data.List.Basic

set_option autoImplicit false

namespace Droidlogic.Lib

section
variable {α β : Type} (f : α → β)

-- for (i = 0; i < count; ++i) dest[i] = f(source[i]); none is an access outside
-- of one of the two arrays.
def copyLoop : Nat → List α → List β → Option (List β)
  | 0, _, dest => some dest
  | count + 1, value :: source, _ :: dest => (copyLoop count source dest).map (f value :: ·)
  | _ + 1, _, _ => none

-- for (; i < size; ++i) dest[i] = value;
def fillFrom (dest : List β) (i : Nat) (value : β) : List β := dest.take i ++ List.replicate (dest.length - i) value

theorem copy_loop_some (count : Nat) (source : List α) (dest : List β) (reads : count ≤ source.length)
    (writes : count ≤ dest.length) :
    copyLoop f count source dest = some ((source.take count).map f ++ dest.drop count) := by
  induction count generalizing source dest with
  | zero => rfl
  | succ count ih =>
      cases source with
      | nil => exact absurd reads (Nat.not_succ_le_zero count)
      | cons value source =>
          cases dest with
          | nil => exact absurd writes (Nat.not_succ_le_zero count)
          | cons old dest =>
              rw [copyLoop, ih source dest (Nat.le_of_succ_le_succ reads) (Nat.le_of_succ_le_succ writes)]
              rfl

theorem copy_loop_inside (count : Nat) (source : List α) (dest result : List β)
    (copied : copyLoop f count source dest = some result) : count ≤ source.length ∧ count ≤ dest.length := by
  induction count generalizing source dest result with
  | zero => exact ⟨Nat.zero_le _, Nat.zero_le _⟩
  | succ count ih =>
      cases source with
      | nil => simp [copyLoop] at copied
      | cons value source =>
          cases dest with
          | nil => simp [copyLoop] at copied
          | cons old dest =>
              obtain ⟨rest, tail, -⟩ := Option.map_eq_some_iff.mp copied
              obtain ⟨reads, writes⟩ := ih source dest rest tail
              exact ⟨Nat.succ_le_succ reads, Nat.succ_le_succ writes⟩

theorem copy_loop_none_iff (count : Nat) (source : List α) (dest : List β) :
    copyLoop f count source dest = none ↔ ¬(count ≤ source.length ∧ count ≤ dest.length) := by
  constructor
  · intro outside inside
    rw [copy_loop_some f count source dest inside.1 inside.2] at outside
    cases outside
  · intro outside
    by_contra other
    obtain ⟨result, copied⟩ := Option.ne_none_iff_exists'.mp other
    exact outside (copy_loop_inside f count source dest result copied)

theorem fill_copied (source : List α) (dest : List β) (count : Nat) (value : β) (reads : count ≤ source.length) :
    fillFrom ((source.take count).map f ++ dest.drop count) count value =
      (source.take count).map f ++ List.replicate (dest.length - count) value := by
  have front : ((source.take count).map f).length = count := by
    rw [List.length_map, List.length_take, Nat.min_eq_left reads]
  rw [fillFrom, List.take_left' front, List.length_append, List.length_drop, front, Nat.add_sub_cancel_left]

end

end Droidlogic.Lib
