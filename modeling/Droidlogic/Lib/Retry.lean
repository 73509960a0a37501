import Mathlib.Data.Int.Basic

set_option autoImplicit false

namespace Droidlogic.Lib

section
variable {State : Type} (attempt : Nat → State → Option (Int × State))

-- while (made < limit && ret < 0) { made++; ret = attempt }, with the attempts left. The
-- result is none when an attempt's behaviour is undefined.
def retry : Nat → Nat → Int → State → Option (Nat × Int × State)
  | 0, made, ret, state => some (made, ret, state)
  | left + 1, made, ret, state =>
      if ret < 0 then (attempt made state).bind fun (code, next) => retry left (made + 1) code next
      else some (made, ret, state)

theorem retry_done (left made : Nat) (ret : Int) (state : State) (done : 0 ≤ ret) :
    retry attempt left made ret state = some (made, ret, state) := by
  cases left with
  | zero => rfl
  | succ left => rw [retry, if_neg (Int.not_lt.mpr done)]

theorem retry_won (left made : Nat) (ret code : Int) (state next : State) (failed : ret < 0)
    (won : attempt made state = some (code, next)) (good : 0 ≤ code) :
    retry attempt (left + 1) made ret state = some (made + 1, code, next) := by
  rw [retry, if_pos failed, won, Option.bind_some]
  exact retry_done attempt left (made + 1) code next good

theorem retry_undefined (left made : Nat) (ret : Int) (state : State) (failed : ret < 0)
    (undefined : attempt made state = none) : retry attempt (left + 1) made ret state = none := by
  rw [retry, if_pos failed, undefined]
  rfl

-- The attempts before the first one that does not fail keep an invariant.
theorem retry_skip (inv : State → Prop) (fails : Nat → Prop)
    (each : ∀ i state, fails i → inv state → ∃ code next, attempt i state = some (code, next) ∧ code < 0 ∧ inv next)
    (count left made : Nat) (ret : Int) (state : State) (failed : ret < 0) (start : inv state)
    (failing : ∀ i < count, fails (made + i)) :
    ∃ code next, code < 0 ∧ inv next ∧
      retry attempt (left + count) made ret state = retry attempt left (made + count) code next := by
  induction count generalizing made ret state with
  | zero => exact ⟨ret, state, failed, start, rfl⟩
  | succ count ih =>
      obtain ⟨code, next, tried, again, kept⟩ := each made state (failing 0 (Nat.succ_pos count)) start
      obtain ⟨last, final, lost, held, same⟩ := ih (made + 1) code next again kept fun i less => by
        have shifted := failing (i + 1) (Nat.succ_lt_succ less)
        rwa [← Nat.add_assoc, Nat.add_right_comm] at shifted
      refine ⟨last, final, lost, held, ?_⟩
      rw [← Nat.add_assoc, retry, if_pos failed, tried, ← Nat.add_assoc, Nat.add_right_comm]
      exact same

end

end Droidlogic.Lib
