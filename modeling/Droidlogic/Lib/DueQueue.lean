import Mathlib.Data.List.Chain
import Mathlib.Data.List.InsertIdx

set_option autoImplicit false

namespace Droidlogic.Lib.DueQueue

section
variable {α : Type} (due stamp : α → Nat)

-- The place behind everything that is not due later.
def insert (item : α) (queue : List α) : List α :=
  queue.insertIdx (queue.findIdx fun other => due item < due other) item

-- Due order, equal times in the order of the stamps.
def Before (first second : α) : Prop := due first < due second ∨ due first = due second ∧ stamp first < stamp second

theorem insert_cons (item head : α) (rest : List α) :
    insert due item (head :: rest) =
      if due item < due head then item :: head :: rest else head :: insert due item rest := by
  rw [insert, List.findIdx_cons]
  by_cases later : due item < due head
  · simp [later]
  · simp [later, insert]

theorem mem_insert (item other : α) (queue : List α) : other ∈ insert due item queue ↔ other = item ∨ other ∈ queue :=
  List.mem_insertIdx (List.findIdx_le_length)

theorem insert_perm (item : α) (queue : List α) : (insert due item queue).Perm (item :: queue) :=
  List.perm_insertIdx item queue List.findIdx_le_length

theorem insert_ordered (item : α) (queue : List α) (ordered : queue.Pairwise (Before due stamp))
    (latest : ∀ other ∈ queue, stamp other < stamp item) : (insert due item queue).Pairwise (Before due stamp) := by
  induction queue with
  | nil => exact List.pairwise_singleton _ _
  | cons head rest ih =>
      obtain ⟨front, tail⟩ := List.pairwise_cons.mp ordered
      rw [insert_cons]
      split
      · rename_i later
        refine List.pairwise_cons.mpr ⟨fun other member => .inl ?_, ordered⟩
        rcases List.mem_cons.mp member with rfl | inside
        · exact later
        · have order := front other inside
          rw [Before] at order
          omega
      · rename_i sooner
        refine List.pairwise_cons.mpr ⟨fun other member => ?_, ih tail fun other inside => latest other (.tail _ inside)⟩
        rcases (mem_insert due item other rest).mp member with rfl | inside
        · have younger := latest head (.head _)
          rw [Before]
          omega
        · exact front other inside

end

section
variable {α : Type} (picked : α → Bool)

-- A loop over the indices that removes as it goes: the item behind a removed one moves to
-- the index that has been looked at.
def removeEach : List α → List α
  | [] => []
  | item :: rest =>
      if picked item then
        match rest with
        | [] => []
        | next :: after => next :: removeEach after
      else item :: removeEach rest

def NoNeighbours (queue : List α) : Prop := queue.IsChain fun first second => ¬(picked first ∧ picked second)

theorem remove_each_sublist (queue : List α) : (removeEach picked queue).Sublist queue := by
  fun_induction removeEach picked queue with
  | case1 => exact .slnil
  | case2 item => exact List.nil_sublist _
  | case3 item _ next after ih => exact (ih.cons_cons next).cons item
  | case4 item rest _ ih => exact ih.cons_cons item

theorem remove_each_filter (queue : List α) (apart : NoNeighbours picked queue) :
    removeEach picked queue = queue.filter fun item => !picked item := by
  fun_induction removeEach picked queue with
  | case1 => rfl
  | case2 item hit => simp [hit]
  | case3 item hit next after ih =>
      obtain ⟨one, rest⟩ := List.isChain_cons_cons.mp apart
      have miss : picked next = false := Bool.eq_false_iff.mpr fun also => one ⟨hit, also⟩
      rw [ih rest.of_cons]
      simp [hit, miss]
  | case4 item rest miss ih =>
      rw [ih apart.of_cons]
      simp [miss]

end

end Droidlogic.Lib.DueQueue
