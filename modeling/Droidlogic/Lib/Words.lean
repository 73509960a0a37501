import Mathlib.Data.List.TakeWhile

set_option autoImplicit false

namespace Droidlogic.Lib

section
variable {Letter : Type} (gap : Letter → Bool)

-- What stands between the gaps, where there is anything.
def words (text : List Letter) : List (List Letter) := (text.splitOnP gap).filter (· ≠ [])

theorem words_gap (letter : Letter) (rest : List Letter) (between : gap letter = true) :
    words gap (letter :: rest) = words gap rest := by
  rw [words, List.splitOnP_cons_eq_if_modifyHead, if_pos between]
  simp [words]

theorem words_skip (text : List Letter) : words gap text = words gap (text.dropWhile gap) := by
  induction text with
  | nil => rfl
  | cons letter rest ih =>
      cases between : gap letter with
      | true => rw [List.dropWhile_cons_of_pos between, words_gap gap letter rest between, ih]
      | false => rw [List.dropWhile_cons_of_neg (by simp [between])]

theorem words_nothing (text : List Letter) (nothing : text.dropWhile gap = []) : words gap text = [] := by
  rw [words_skip, nothing]
  rfl

theorem words_first (letter : Letter) (rest : List Letter) (begins : gap letter = false) :
    words gap (letter :: rest) =
      (letter :: rest).takeWhile (!gap ·) :: words gap ((letter :: rest).dropWhile (!gap ·)) := by
  have plain : ∀ other ∈ (letter :: rest).takeWhile (!gap ·), gap other = false := fun other member => by
    simpa using List.mem_takeWhile_imp member
  have nonempty : (letter :: rest).takeWhile (!gap ·) ≠ [] := by
    rw [List.takeWhile_cons, begins]
    exact List.cons_ne_nil _ _
  have whole := @List.takeWhile_append_dropWhile _ (!gap ·) (letter :: rest)
  cases behind : (letter :: rest).dropWhile (!gap ·) with
  | nil =>
      rw [behind, List.append_nil] at whole
      rw [whole] at plain nonempty ⊢
      rw [words, List.splitOnP_eq_singleton plain]
      simp [words]
  | cons ender after =>
      have ends : gap ender = true := by
        have head := List.head?_dropWhile_not (!gap ·) (letter :: rest)
        rw [behind] at head
        simpa using head
      rw [behind] at whole
      rw [words_gap gap ender after ends]
      refine (congrArg (words gap) whole.symm).trans ?_
      rw [words, List.splitOnP_append_cons_of_forall_mem plain ender ends after]
      simp [words, nonempty]

theorem word_plain (text word : List Letter) (member : word ∈ words gap text) : ∀ letter ∈ word, gap letter = false := by
  induction size : text.length using Nat.strongRecOn generalizing text with
  | ind n ih =>
      rw [words_skip] at member
      cases front : text.dropWhile gap with
      | nil =>
          rw [front] at member
          cases member
      | cons letter rest =>
          have begins : gap letter = false := by
            have head := List.head?_dropWhile_not gap text
            rw [front] at head
            simpa using head
          have kept : (letter :: rest).length ≤ text.length := front ▸ (List.dropWhile_sublist gap).length_le
          rw [front, words_first gap letter rest begins] at member
          rcases List.mem_cons.mp member with rfl | later
          · exact fun other inside => by simpa using List.mem_takeWhile_imp inside
          · have shorter : ((letter :: rest).dropWhile (!gap ·)).length < n := by
              have sub : (rest.dropWhile (!gap ·)).length ≤ rest.length := (List.dropWhile_sublist _).length_le
              rw [List.dropWhile_cons_of_pos (by simp [begins])]
              rw [List.length_cons] at kept
              omega
            exact ih _ shorter _ later rfl

end

end Droidlogic.Lib
