import Mathlib.Data.List.Basic

set_option autoImplicit false

namespace Droidlogic.Lib

-- Slots of the given sizes, one behind the other.
def slotStart : List Nat → Nat → Nat
  | _, 0 => 0
  | [], _ + 1 => 0
  | size :: sizes, id + 1 => size + slotStart sizes id

def InSlot (sizes : List Nat) (id index : Nat) : Prop :=
  slotStart sizes id ≤ index ∧ index < slotStart sizes id + sizes.getD id 0

instance (sizes : List Nat) (id index : Nat) : Decidable (InSlot sizes id index) :=
  inferInstanceAs (Decidable (_ ∧ _))

theorem slot_start_succ (sizes : List Nat) (id : Nat) :
    slotStart sizes (id + 1) = slotStart sizes id + sizes.getD id 0 := by
  induction sizes generalizing id with
  | nil => cases id <;> rfl
  | cons size sizes ih =>
      cases id with
      | zero => simp [slotStart]
      | succ id =>
          rw [slotStart, ih, slotStart, List.getD_cons_succ]
          omega

theorem slot_start_mono (sizes : List Nat) (first second : Nat) (order : first ≤ second) :
    slotStart sizes first ≤ slotStart sizes second := by
  induction order with
  | refl => exact Nat.le_refl _
  | step _ ih => exact Nat.le_trans ih (by rw [slot_start_succ]; exact Nat.le_add_right _ _)

theorem slot_ends_before (sizes : List Nat) (first second : Nat) (order : first < second) :
    slotStart sizes first + sizes.getD first 0 ≤ slotStart sizes second := by
  rw [← slot_start_succ]
  exact slot_start_mono sizes (first + 1) second order

theorem slots_disjoint (sizes : List Nat) (first second index : Nat) (different : first ≠ second)
    (inside : InSlot sizes first index) : ¬ InSlot sizes second index := by
  intro also
  rcases Nat.lt_or_gt_of_ne different with before | behind
  · have apart := slot_ends_before sizes first second before
    exact absurd inside.2 (Nat.not_lt.mpr (Nat.le_trans apart also.1))
  · have apart := slot_ends_before sizes second first behind
    exact absurd also.2 (Nat.not_lt.mpr (Nat.le_trans apart inside.1))

end Droidlogic.Lib
