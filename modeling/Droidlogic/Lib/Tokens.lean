import Mathlib.Data.List.TakeWhile

set_option autoImplicit false

namespace Droidlogic.Lib

section
variable {Letter : Type} [DecidableEq Letter] (mark : Letter)

-- strtok with one separator: the next token, and what stands behind the separator after it.
def strtok (text : List Letter) : Option (List Letter × List Letter) :=
  let text := text.dropWhile (· == mark)
  if text = [] then none else some (text.takeWhile (· != mark), (text.dropWhile (· != mark)).tail)

theorem strtok_shorter (text token rest : List Letter) (found : strtok mark text = some (token, rest)) :
    rest.length < text.length := by
  have skipped : (text.dropWhile (· == mark)).length ≤ text.length := (List.dropWhile_sublist _).length_le
  by_cases nothing : text.dropWhile (· == mark) = []
  · simp [strtok, nothing] at found
  · simp only [strtok, if_neg nothing, Option.some.injEq, Prod.mk.injEq] at found
    have shorter : ((text.dropWhile (· == mark)).dropWhile (· != mark)).length ≤ (text.dropWhile (· == mark)).length :=
      (List.dropWhile_sublist _).length_le
    have left := List.length_pos_iff.mpr nothing
    rw [← found.2, List.length_tail]
    omega

-- The tokens up to the first call that finds none.
def tokens (text : List Letter) : List (List Letter) :=
  match _found : strtok mark text with
  | none => []
  | some (token, rest) => token :: tokens rest
termination_by text.length
decreasing_by exact strtok_shorter mark text token rest _found

-- What stands between the marks, where there is anything.
def pieces (text : List Letter) : List (List Letter) := (text.splitOn mark).filter (· ≠ [])

theorem pieces_mark (text : List Letter) : pieces mark (mark :: text) = pieces mark text := by
  have split := List.splitOn_append_cons_self [] text (a := mark)
  rw [List.nil_append] at split
  rw [pieces, split]
  simp [pieces]

theorem pieces_skip (text : List Letter) : pieces mark text = pieces mark (text.dropWhile (· == mark)) := by
  induction text with
  | nil => rfl
  | cons letter rest ih =>
      rw [List.dropWhile_cons]
      by_cases same : letter = mark
      · rw [if_pos (beq_iff_eq.mpr same), same, pieces_mark, ih]
      · rw [if_neg (same ∘ beq_iff_eq.mp)]

theorem pieces_token (token rest : List Letter) (plain : mark ∉ token) (nonempty : token ≠ []) :
    pieces mark (token ++ mark :: rest) = token :: pieces mark rest := by
  rw [pieces, List.splitOn_append_cons_self_of_not_mem plain]
  simp [pieces, nonempty]

theorem pieces_last (token : List Letter) (plain : mark ∉ token) (nonempty : token ≠ []) :
    pieces mark token = [token] := by
  rw [pieces, List.splitOn_eq_singleton plain]
  simp [nonempty]

theorem strtok_none (text : List Letter) (ended : strtok mark text = none) : pieces mark text = [] := by
  have nothing : text.dropWhile (· == mark) = [] := by
    by_contra left
    simp [strtok, left] at ended
  rw [pieces_skip, nothing]
  rfl

theorem pieces_cut (letter : Letter) (later : List Letter) (other : letter ≠ mark) :
    pieces mark (letter :: later) = (letter :: later).takeWhile (· != mark) ::
      pieces mark ((letter :: later).dropWhile (· != mark)).tail := by
  have plain : mark ∉ (letter :: later).takeWhile (· != mark) := fun member => by
    simpa using List.mem_takeWhile_imp member
  have nonempty : (letter :: later).takeWhile (· != mark) ≠ [] := by
    rw [List.takeWhile_cons, if_pos (bne_iff_ne.mpr other)]
    exact List.cons_ne_nil _ _
  have whole := List.takeWhile_append_dropWhile (p := (· != mark)) (l := letter :: later)
  cases behind : (letter :: later).dropWhile (· != mark) with
  | nil =>
      rw [behind, List.append_nil] at whole
      rw [whole] at plain ⊢
      exact pieces_last mark _ plain (List.cons_ne_nil _ _)
  | cons ender after =>
      have ends : ender = mark := by
        have head := List.head?_dropWhile_not (· != mark) (letter :: later)
        rw [behind] at head
        simpa using head
      rw [behind, ends] at whole
      exact (congrArg (pieces mark) whole.symm).trans (pieces_token mark _ after plain nonempty)

theorem strtok_some (text token rest : List Letter) (found : strtok mark text = some (token, rest)) :
    pieces mark text = token :: pieces mark rest := by
  have left : text.dropWhile (· == mark) ≠ [] := fun nothing => by simp [strtok, nothing] at found
  simp only [strtok, if_neg left, Option.some.injEq, Prod.mk.injEq] at found
  obtain ⟨rfl, rfl⟩ := found
  obtain ⟨letter, later, front⟩ := List.exists_cons_of_ne_nil left
  have other : letter ≠ mark := by
    have head := List.head?_dropWhile_not (· == mark) text
    rw [front] at head
    simpa using head
  rw [pieces_skip, front]
  exact pieces_cut mark letter later other

theorem tokens_pieces (text : List Letter) : tokens mark text = pieces mark text := by
  induction text using tokens.induct mark with
  | case1 text ended => rw [tokens, ended, strtok_none mark text ended]
  | case2 text token rest found ih => rw [tokens, found, strtok_some mark text token rest found, ← ih]

end

end Droidlogic.Lib
