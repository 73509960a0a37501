import Droidlogic.Lib.Chunks

set_option autoImplicit false

namespace Droidlogic.Lib

section
variable {Item State : Type} (size : Nat) (compress : State → List Item → State) (start : State)

def hashBlocks (message : List Item) : State := (chunks size message).foldl compress start

-- What a block by block hash has made of a message: the whole blocks are compressed, the rest waits.
structure Absorbed (message : List Item) (state : State) (pending : List Item) : Prop where
  compressed : ∃ blocks : List (List Item), (∀ block ∈ blocks, block.length = size) ∧ message = blocks.flatten ++ pending ∧
    state = blocks.foldl compress start
  short : pending.length < size

variable {size compress start}

theorem absorbed_start (positive : 0 < size) : Absorbed size compress start [] start [] where
  compressed := ⟨[], by simp, rfl, rfl⟩
  short := positive

theorem Absorbed.more {message pending : List Item} {state : State} (absorbed : Absorbed size compress start message state pending)
    (data : List Item) (short : pending.length + data.length < size) :
    Absorbed size compress start (message ++ data) state (pending ++ data) where
  compressed := by
    obtain ⟨blocks, sized, whole, folded⟩ := absorbed.compressed
    exact ⟨blocks, sized, by rw [whole, List.append_assoc], folded⟩
  short := by rwa [List.length_append]

theorem Absorbed.block {message pending : List Item} {state : State} (absorbed : Absorbed size compress start message state pending)
    (data : List Item) (full : pending.length + data.length = size) :
    Absorbed size compress start (message ++ data) (compress state (pending ++ data)) [] where
  compressed := by
    obtain ⟨blocks, sized, whole, folded⟩ := absorbed.compressed
    refine ⟨blocks ++ [pending ++ data], fun block member => ?_, ?_, ?_⟩
    · rcases List.mem_append.mp member with before | last
      · exact sized block before
      · rw [List.mem_singleton.mp last, List.length_append, full]
    · rw [whole, List.flatten_append, List.flatten_singleton, List.append_nil, List.append_assoc]
    · rw [List.foldl_append, ← folded, List.foldl_cons, List.foldl_nil]
  short := by
    have short := absorbed.short
    rw [List.length_nil]
    omega

theorem Absorbed.pending_length {message pending : List Item} {state : State}
    (absorbed : Absorbed size compress start message state pending) : pending.length = message.length % size := by
  obtain ⟨blocks, sized, rfl, -⟩ := absorbed.compressed
  rw [List.length_append, flatten_length_sized size blocks sized, Nat.mul_add_mod, Nat.mod_eq_of_lt absorbed.short]

theorem Absorbed.hashed {message : List Item} {state : State} (absorbed : Absorbed size compress start message state []) :
    state = hashBlocks size compress start message := by
  obtain ⟨blocks, sized, rfl, rfl⟩ := absorbed.compressed
  rw [hashBlocks, List.append_nil, chunks_flatten size blocks absorbed.short sized]

end

end Droidlogic.Lib
