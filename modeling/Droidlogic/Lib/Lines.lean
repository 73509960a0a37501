import Mathlib.Data.List.Forall2
import Droidlogic.Lib.Bytes

set_option autoImplicit false

namespace Droidlogic.Lib

-- The lines of a text. What stands behind the last newline is a line where it has a byte.
def lines (newline : UInt8) : Bytes → List Bytes
  | [] => []
  | byte :: rest =>
      if byte = newline then [] :: lines newline rest
      else
        match lines newline rest with
        | [] => [[byte]]
        | line :: more => (byte :: line) :: more

theorem lines_bytes (newline : UInt8) (text line : Bytes) (member : line ∈ lines newline text) :
    ∀ byte ∈ line, byte ∈ text := by
  induction text generalizing line with
  | nil => cases member
  | cons first text ih =>
      intro byte inside
      rw [lines] at member
      split at member
      · rcases List.mem_cons.mp member with rfl | later
        · cases inside
        · exact List.mem_cons_of_mem _ (ih line later byte inside)
      · split at member
        · rw [List.mem_singleton.mp member] at inside
          exact List.mem_singleton.mp inside ▸ List.mem_cons_self
        · rename_i head more split
          rcases List.mem_cons.mp member with rfl | later
          · rcases List.mem_cons.mp inside with rfl | inside
            · exact List.mem_cons_self
            · exact List.mem_cons_of_mem _ (ih head (split ▸ List.mem_cons_self) byte inside)
          · exact List.mem_cons_of_mem _ (ih line (split ▸ List.mem_cons_of_mem _ later) byte inside)

-- The lines that end in a newline.
def terminated (newline : UInt8) : Bytes → List Bytes
  | [] => []
  | byte :: rest =>
      if byte = newline then [] :: terminated newline rest
      else
        match terminated newline rest with
        | [] => []
        | line :: more => (byte :: line) :: more

theorem terminated_cut (newline : UInt8) (text line rest : Bytes) (found : cut newline text = some (line, rest)) :
    terminated newline text = line :: terminated newline rest := by
  induction text generalizing line with
  | nil => cases found
  | cons byte text ih =>
      rw [terminated]
      by_cases same : byte = newline
      · rw [cut, if_pos same] at found
        cases found
        rw [if_pos same]
      · rw [cut, if_neg same, Option.map_eq_some_iff] at found
        obtain ⟨⟨before, after⟩, inner, pair⟩ := found
        cases pair
        rw [if_neg same, ih before inner]

theorem terminated_nil_iff (newline : UInt8) (text : Bytes) : terminated newline text = [] ↔ newline ∉ text := by
  induction text with
  | nil => exact iff_of_true rfl List.not_mem_nil
  | cons byte text ih =>
      rw [terminated]
      by_cases same : byte = newline
      · rw [if_pos same]
        exact iff_of_false (List.cons_ne_nil _ _) fun absent => absent (same ▸ List.mem_cons_self)
      · rw [if_neg same, List.mem_cons, not_or, ← ih]
        cases terminated newline text with
        | nil => exact iff_of_true rfl ⟨Ne.symm same, rfl⟩
        | cons line more => exact iff_of_false (List.cons_ne_nil _ _) fun both => List.cons_ne_nil _ _ both.2

-- What stands behind the last newline.
def unfinished (newline : UInt8) : Bytes → Bytes
  | [] => []
  | byte :: rest => if newline ∈ byte :: rest then unfinished newline rest else byte :: rest

theorem cut_none (newline : UInt8) (text : Bytes) (none : cut newline text = none) : newline ∉ text := by
  intro member
  obtain ⟨before, after, whole, absent⟩ := List.eq_append_cons_of_mem member
  rw [whole, cut_at newline before after absent] at none
  cases none

theorem unfinished_last (newline : UInt8) (text : Bytes) (absent : newline ∉ text) : unfinished newline text = text := by
  cases text with
  | nil => rfl
  | cons byte text => rw [unfinished, if_neg absent]

theorem unfinished_behind (newline : UInt8) (line rest : Bytes) :
    unfinished newline (line ++ newline :: rest) = unfinished newline rest := by
  induction line with
  | nil => rw [List.nil_append, unfinished, if_pos List.mem_cons_self]
  | cons byte line ih =>
      rw [List.cons_append, unfinished, if_pos (List.mem_cons_of_mem _ (List.mem_append_right _ List.mem_cons_self)), ih]

theorem lines_split (newline : UInt8) (text : Bytes) :
    lines newline text =
      terminated newline text ++ if unfinished newline text = [] then [] else [unfinished newline text] := by
  induction text with
  | nil => rfl
  | cons byte text ih =>
      rw [lines, terminated]
      by_cases same : byte = newline
      · have member : newline ∈ byte :: text := same ▸ List.mem_cons_self
        rw [if_pos same, if_pos same, ih, unfinished, if_pos member, List.cons_append]
      · rw [if_neg same, if_neg same, ih]
        by_cases absent : newline ∉ text
        · have only : newline ∉ byte :: text := List.not_mem_cons_of_ne_of_not_mem (Ne.symm same) absent
          rw [(terminated_nil_iff newline text).mpr absent, unfinished_last newline text absent,
            unfinished_last newline _ only, if_neg (List.cons_ne_nil byte text)]
          cases text with
          | nil => rfl
          | cons next text => rfl
        · have member := not_not.mp absent
          rw [unfinished, if_pos (List.mem_cons_of_mem _ member)]
          cases whole : terminated newline text with
          | nil => exact absurd ((terminated_nil_iff newline text).mp whole) absent
          | cons line more => rfl

theorem lines_cut (newline : UInt8) (text line rest : Bytes) (found : cut newline text = some (line, rest)) :
    lines newline text = line :: lines newline rest := by
  rw [lines_split, lines_split newline rest, terminated_cut newline text line rest found,
    (cut_some newline text line rest found).1, unfinished_behind, List.cons_append]

theorem lines_last (newline : UInt8) (text : Bytes) (absent : cut newline text = none) (nonempty : text ≠ []) :
    lines newline text = [text] := by
  have none := cut_none newline text absent
  rw [lines_split, (terminated_nil_iff newline text).mpr none, unfinished_last newline text none, if_neg nonempty,
    List.nil_append]

section
variable {Item Entry Error : Type} (read : Item → Except Error Entry)

theorem map_m_ok_iff (items : List Item) (entries : List Entry) :
    items.mapM read = .ok entries ↔ List.Forall₂ (fun item entry => read item = .ok entry) items entries := by
  induction items generalizing entries with
  | nil =>
      rw [List.mapM_nil, List.forall₂_nil_left_iff]
      constructor
      · intro done
        cases done
        rfl
      · rintro rfl
        rfl
  | cons item items ih =>
      rw [List.mapM_cons, List.forall₂_cons_left_iff]
      cases first : read item with
      | error error => exact iff_of_false nofun fun ⟨_, _, done, _⟩ => nomatch done
      | ok entry =>
          cases rest : items.mapM read with
          | error error =>
              refine iff_of_false nofun fun ⟨_, more, _, done, _⟩ => ?_
              exact nomatch rest.symm.trans ((ih more).mpr done)
          | ok more =>
              constructor
              · intro done
                cases done
                exact ⟨entry, more, rfl, (ih more).mp rest, rfl⟩
              · rintro ⟨_, others, done, tail, rfl⟩
                cases done
                cases rest.symm.trans ((ih others).mpr tail)
                rfl

theorem map_m_ok_exists (items : List Item) :
    (∃ entries, items.mapM read = .ok entries) ↔ ∀ item ∈ items, ∃ entry, read item = .ok entry := by
  simp only [map_m_ok_iff]
  induction items with
  | nil => exact iff_of_true ⟨[], .nil⟩ nofun
  | cons item items ih =>
      rw [List.forall_mem_cons, ← ih]
      constructor
      · rintro ⟨_, made⟩
        cases made with
        | cons first rest => exact ⟨⟨_, first⟩, ⟨_, rest⟩⟩
      · rintro ⟨⟨entry, first⟩, ⟨entries, rest⟩⟩
        exact ⟨entry :: entries, .cons first rest⟩

end

end Droidlogic.Lib
