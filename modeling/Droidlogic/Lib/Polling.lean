import Mathlib.Data.List.Range

set_option autoImplicit false

namespace Droidlogic.Lib

section
variable (exit hit : Nat → Bool)

-- How a loop of polls ends: told to exit before poll n, with a hit in poll n, or with no
-- poll left.
inductive PollEnd
  | exited (n : Nat)
  | hit (n : Nat)
  | spent
deriving DecidableEq

-- At most limit polls from poll k on.
def polling : Nat → Nat → PollEnd
  | 0, _ => .spent
  | limit + 1, k => if exit k then .exited k else if hit k then .hit k else polling limit (k + 1)

-- Polls before the end have been tried without a hit.
def Missed (first last : Nat) : Prop := ∀ i, first ≤ i → i < last → hit i = false

theorem missed_cons (k last : Nat) (here : hit k = false) (later : Missed hit (k + 1) last) : Missed hit k last := by
  intro i low high
  rcases Nat.eq_or_lt_of_le low with rfl | above
  · exact here
  · exact later i above high

-- What an end of the polls from poll k on says about them.
def PollEnd.Tells (limit k : Nat) : PollEnd → Prop
  | .exited n => k ≤ n ∧ n < k + limit ∧ exit n = true ∧ Missed hit k n
  | .hit n => k ≤ n ∧ n < k + limit ∧ hit n = true ∧ Missed hit k n
  | .spent => Missed hit k (k + limit)

theorem tells_cons (limit k : Nat) (ended : PollEnd) (here : hit k = false)
    (later : ended.Tells exit hit limit (k + 1)) : ended.Tells exit hit (limit + 1) k := by
  cases ended with
  | exited n =>
      obtain ⟨low, high, told, missed⟩ := later
      exact ⟨by omega, by omega, told, missed_cons hit k n here missed⟩
  | hit n =>
      obtain ⟨low, high, found, missed⟩ := later
      exact ⟨by omega, by omega, found, missed_cons hit k n here missed⟩
  | spent =>
      rw [PollEnd.Tells, Nat.add_right_comm] at later
      exact missed_cons hit k _ here later

theorem polling_tells (limit k : Nat) : (polling exit hit limit k).Tells exit hit limit k := by
  induction limit generalizing k with
  | zero => exact fun i low high => absurd low (Nat.not_le_of_lt high)
  | succ limit ih =>
      have none_before : Missed hit k k := fun i low high => absurd low (Nat.not_le_of_lt high)
      rw [polling]
      split
      · rename_i told
        exact ⟨Nat.le_refl k, by omega, told, none_before⟩
      · split
        · rename_i found
          exact ⟨Nat.le_refl k, by omega, found, none_before⟩
        · rename_i missed
          exact tells_cons exit hit limit k _ (Bool.eq_false_iff.mpr missed) (ih (k + 1))

theorem polling_exited (limit k n : Nat) (ended : polling exit hit limit k = .exited n) :
    k ≤ n ∧ n < k + limit ∧ exit n = true ∧ Missed hit k n := by
  have told := polling_tells exit hit limit k
  rwa [ended] at told

theorem polling_hit (limit k n : Nat) (ended : polling exit hit limit k = .hit n) :
    k ≤ n ∧ n < k + limit ∧ hit n = true ∧ Missed hit k n := by
  have told := polling_tells exit hit limit k
  rwa [ended] at told

theorem polling_spent (limit k : Nat) (ended : polling exit hit limit k = .spent) : Missed hit k (k + limit) := by
  have told := polling_tells exit hit limit k
  rwa [ended] at told

end

end Droidlogic.Lib
