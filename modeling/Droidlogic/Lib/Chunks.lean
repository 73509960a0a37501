import Mathlib.Data.List.Basic

set_option autoImplicit false

namespace Droidlogic.Lib

section
variable {Item : Type}

def chunkLoop (size : Nat) : Nat → List Item → List (List Item)
  | 0, _ => []
  | _ + 1, [] => []
  | fuel + 1, items => items.take size :: chunkLoop size fuel (items.drop size)

def chunks (size : Nat) (items : List Item) : List (List Item) := chunkLoop size items.length items

theorem flatten_length_sized (size : Nat) (pieces : List (List Item)) (sized : ∀ piece ∈ pieces, piece.length = size) :
    pieces.flatten.length = size * pieces.length := by
  induction pieces with
  | nil => simp
  | cons piece rest ih =>
      rw [List.flatten_cons, List.length_append, sized piece List.mem_cons_self,
        ih (fun p member => sized p (List.mem_cons_of_mem _ member)), List.length_cons, Nat.mul_succ, Nat.add_comm]

theorem flatten_piece (size : Nat) (pieces : List (List Item)) (sized : ∀ piece ∈ pieces, piece.length = size) (i : Nat)
    (small : i < pieces.length) : (pieces.flatten.drop (size * i)).take size = pieces[i] := by
  induction pieces generalizing i with
  | nil => exact absurd small (Nat.not_lt_zero i)
  | cons piece rest ih =>
      have length := sized piece List.mem_cons_self
      rw [List.flatten_cons]
      cases i with
      | zero =>
          rw [Nat.mul_zero, List.drop_zero, ← length]
          exact List.take_left
      | succ i =>
          have past : size * (i + 1) = piece.length + size * i := by
            rw [length, Nat.mul_succ, Nat.add_comm]
          rw [past, ← List.drop_drop, List.drop_left]
          exact ih (fun p member => sized p (List.mem_cons_of_mem _ member)) i (Nat.lt_of_succ_lt_succ small)

theorem chunk_loop_flatten (size fuel : Nat) (pieces : List (List Item)) (positive : 0 < size)
    (sized : ∀ piece ∈ pieces, piece.length = size) (enough : pieces.length ≤ fuel) :
    chunkLoop size fuel pieces.flatten = pieces := by
  induction pieces generalizing fuel with
  | nil => cases fuel <;> rfl
  | cons piece rest ih =>
      cases fuel with
      | zero => simp at enough
      | succ fuel =>
          have length := sized piece List.mem_cons_self
          have later := ih fuel (fun p member => sized p (List.mem_cons_of_mem _ member)) (Nat.le_of_succ_le_succ enough)
          cases items : piece with
          | nil =>
              rw [items] at length
              simp only [List.length_nil] at length
              omega
          | cons head tail =>
              have opened : (piece :: rest).flatten = head :: (tail ++ rest.flatten) := by simp [items]
              rw [← items, opened, chunkLoop]
              · rw [← List.cons_append, ← items, ← length, List.take_left, List.drop_left, length, later]
              · simp

theorem chunks_flatten (size : Nat) (pieces : List (List Item)) (positive : 0 < size)
    (sized : ∀ piece ∈ pieces, piece.length = size) : chunks size pieces.flatten = pieces := by
  apply chunk_loop_flatten size _ pieces positive sized
  rw [flatten_length_sized size pieces sized]
  exact Nat.le_mul_of_pos_left _ positive

theorem chunks_append (size : Nat) (first second : List (List Item)) (positive : 0 < size)
    (firstSized : ∀ piece ∈ first, piece.length = size) (secondSized : ∀ piece ∈ second, piece.length = size) :
    chunks size (first.flatten ++ second.flatten) = chunks size first.flatten ++ chunks size second.flatten := by
  have sized : ∀ piece ∈ first ++ second, piece.length = size := fun piece member =>
    (List.mem_append.mp member).elim (firstSized piece) (secondSized piece)
  rw [← List.flatten_append, chunks_flatten size _ positive sized, chunks_flatten size _ positive firstSized,
    chunks_flatten size _ positive secondSized]

end

end Droidlogic.Lib
