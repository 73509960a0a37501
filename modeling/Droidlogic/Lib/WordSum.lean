import Droidlogic.Lib.Bytes
import Mathlib.Algebra.Ring.Nat

set_option autoImplicit false

namespace Droidlogic.Lib

-- The sum of the little-endian words, the last one filled up with zeros.
def wordSum : Bytes → UInt32
  | a :: b :: c :: d :: rest => word32 [a, b, c, d] + wordSum rest
  | short => word32 short

@[simp] theorem word_sum_nil : wordSum [] = 0 := rfl

theorem word_sum_short (short : Bytes) (fits : short.length < 4) : wordSum short = word32 short := by
  match short, fits with
  | [], _ => rfl
  | [_], _ => rfl
  | [_, _], _ => rfl
  | [_, _, _], _ => rfl
  | _ :: _ :: _ :: _ :: rest, tooLong => exact absurd tooLong (by simp)

theorem word32_take_four (bytes : Bytes) : word32 (bytes.take 4) = word32 bytes := by
  match bytes with
  | [] => rfl
  | [_] => rfl
  | [_, _] => rfl
  | [_, _, _] => rfl
  | _ :: _ :: _ :: _ :: rest => simp [word32]

theorem le32_word32 (a b c d : UInt8) (rest : Bytes) : le32 (word32 (a :: b :: c :: d :: rest)) = [a, b, c, d] := by
  have aByte := a.toNat_lt
  have bByte := b.toNat_lt
  have cByte := c.toNat_lt
  have dByte := d.toNat_lt
  have word : (word32 (a :: b :: c :: d :: rest)).toNat =
      a.toNat + 256 * b.toNat + 65536 * c.toNat + 16777216 * d.toNat := by
    simp only [word32, List.getD_cons_zero, List.getD_cons_succ, UInt32.toNat_ofNat']
    omega
  simp only [le32, List.cons.injEq, and_true, ← UInt8.toNat_inj, UInt32.toNat_toUInt8, UInt32.toNat_shiftRight,
    Nat.shiftRight_eq_div_pow, UInt32.reduceToNat, Nat.reduceMod, Nat.reducePow, word]
  omega

theorem four_bytes (bytes : Bytes) (long : 4 ≤ bytes.length) : ∃ a b c d rest, bytes = a :: b :: c :: d :: rest := by
  rcases bytes with _ | ⟨a, _ | ⟨b, _ | ⟨c, _ | ⟨d, rest⟩⟩⟩⟩
  · exact absurd long (by simp)
  · exact absurd long (by simp)
  · exact absurd long (by simp)
  · exact absurd long (by simp)
  · exact ⟨a, b, c, d, rest, rfl⟩

theorem word32_inj (first second : Bytes) (firstLong : 4 ≤ first.length) (secondLong : 4 ≤ second.length)
    (same : word32 first = word32 second) : first.take 4 = second.take 4 := by
  obtain ⟨a, b, c, d, firstRest, rfl⟩ := four_bytes first firstLong
  obtain ⟨e, f, g, h, secondRest, rfl⟩ := four_bytes second secondLong
  have bytes := congrArg le32 same
  rw [le32_word32, le32_word32] at bytes
  exact bytes

theorem word_sum_step (bytes : Bytes) (long : 4 ≤ bytes.length) :
    wordSum bytes = word32 bytes + wordSum (bytes.drop 4) := by
  obtain ⟨a, b, c, d, rest, rfl⟩ := four_bytes bytes long
  rw [wordSum, ← word32_take_four (a :: b :: c :: d :: rest)]
  rfl

theorem word_sum_append (first second : Bytes) (words : Nat) (aligned : first.length = 4 * words) :
    wordSum (first ++ second) = wordSum first + wordSum second := by
  induction words generalizing first with
  | zero =>
      have none_left : first = [] := List.length_eq_zero_iff.mp aligned
      rw [none_left, List.nil_append, word_sum_nil, UInt32.zero_add]
  | succ words ih =>
      have long : 4 ≤ first.length := by omega
      have longer : 4 ≤ (first ++ second).length := by
        rw [List.length_append]
        omega
      have rest : (first.drop 4).length = 4 * words := by
        rw [List.length_drop]
        omega
      have head : word32 (first ++ second) = word32 first := by
        rw [← word32_take_four, List.take_append_of_le_length long, word32_take_four]
      rw [word_sum_step _ longer, word_sum_step first long, head, List.drop_append_of_le_length long,
        ih (first.drop 4) rest, UInt32.add_assoc]

end Droidlogic.Lib
