import Mathlib.Data.List.Basic
import Mathlib.Data.List.Count

set_option autoImplicit false

namespace Droidlogic.Lib

-- Where the items that an owner has lent out are: given back, waiting in a queue,
-- with a holder, or taken back by the owner. An item can be lent again.
structure Ledger (α : Type) where
  delivered : List α
  returned : List α
  queued : List α
  held : List α
  reclaimed : List α

namespace Ledger

section
variable {α : Type} [DecidableEq α]

-- Every delivery is in exactly one place.
def Balanced (ledger : Ledger α) : Prop :=
  ∀ item, ledger.delivered.count item =
    ledger.returned.count item + ledger.queued.count item + ledger.held.count item + ledger.reclaimed.count item

theorem balanced_empty : Balanced (⟨[], [], [], [], []⟩ : Ledger α) := fun _ => rfl

theorem balanced_lend (ledger : Ledger α) (item : α) (held : List α) (taken : held.Perm (item :: ledger.held))
    (balanced : ledger.Balanced) :
    Balanced { ledger with delivered := item :: ledger.delivered, held := held } := by
  intro other
  have before := balanced other
  have counted := taken.count_eq other
  simp only [List.count_cons] at counted ⊢
  omega

theorem balanced_move (ledger : Ledger α) (held : List α) (same : held.Perm ledger.held)
    (balanced : ledger.Balanced) : Balanced { ledger with held := held } := by
  intro other
  have before := balanced other
  have counted := same.count_eq other
  simp only
  omega

theorem balanced_return (ledger : Ledger α) (item : α) (balanced : ledger.Balanced) :
    Balanced { ledger with delivered := item :: ledger.delivered, returned := item :: ledger.returned } := by
  intro other
  have before := balanced other
  simp only [List.count_cons]
  omega

theorem balanced_queue (ledger : Ledger α) (item : α) (balanced : ledger.Balanced) :
    Balanced { ledger with delivered := item :: ledger.delivered, queued := ledger.queued ++ [item] } := by
  intro other
  have before := balanced other
  simp only [List.count_cons, List.count_append, List.count_nil]
  omega

theorem balanced_take (ledger : Ledger α) (item : α) (rest : List α) (front : ledger.queued = item :: rest)
    (balanced : ledger.Balanced) : Balanced { ledger with queued := rest, held := item :: ledger.held } := by
  intro other
  have before := balanced other
  rw [front] at before
  simp only [List.count_cons] at before ⊢
  omega

theorem balanced_give_back (ledger : Ledger α) (item : α) (rest : List α) (holds : ledger.held.Perm (item :: rest))
    (balanced : ledger.Balanced) : Balanced { ledger with held := rest, returned := item :: ledger.returned } := by
  intro other
  have before := balanced other
  have counted := holds.count_eq other
  simp only [List.count_cons] at counted ⊢
  omega

theorem balanced_reclaim (ledger : Ledger α) (balanced : ledger.Balanced) :
    Balanced { ledger with
      queued := [], held := [], reclaimed := ledger.queued ++ (ledger.held ++ ledger.reclaimed) } := by
  intro other
  have before := balanced other
  simp only [List.count_append, List.count_nil]
  omega

theorem balanced_settled (ledger : Ledger α) (balanced : ledger.Balanced) (queued : ledger.queued = [])
    (held : ledger.held = []) (reclaimed : ledger.reclaimed = []) : ledger.returned.Perm ledger.delivered := by
  refine List.perm_iff_count.mpr fun item => ?_
  have counted := balanced item
  rw [queued, held, reclaimed] at counted
  simp only [List.count_nil] at counted
  omega

theorem balanced_returned_le (ledger : Ledger α) (item : α) (balanced : ledger.Balanced) :
    ledger.returned.count item ≤ ledger.delivered.count item := by
  have counted := balanced item
  omega

-- Giving back what nobody holds, or letting go of what is not given back, shows in the ledger.
theorem unbalanced_return (ledger : Ledger α) (item : α) (balanced : ledger.Balanced) :
    ¬ Balanced { ledger with returned := item :: ledger.returned } := by
  intro after
  have one := balanced item
  have two := after item
  simp only [List.count_cons_self] at two
  omega

theorem unbalanced_drop (ledger : Ledger α) (item : α) (rest : List α) (holds : ledger.held.Perm (item :: rest))
    (balanced : ledger.Balanced) : ¬ Balanced { ledger with held := rest } := by
  intro after
  have one := balanced item
  have two := after item
  have counted := holds.count_eq item
  simp only [List.count_cons_self] at counted
  simp only at two
  omega

end

end Ledger

end Droidlogic.Lib
