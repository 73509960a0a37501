import Droidlogic.Lib.Lines
import Droidlogic.Display.Dimension

set_option autoImplicit false

namespace Droidlogic.Display.Dimension

open Lib

def firstWord (line : Bytes) : Bytes := line.takeWhile (· ≠ blank)

def remainder (line : Bytes) : Bytes := line.drop ((firstWord line).length + 1)

-- The heading is skipped, and a mode with no list behind it is not stored.
def Described (line : Bytes) : Prop := line ≠ supportLists.bytes ∧ blank ∈ line

instance (line : Bytes) : Decidable (Described line) := inferInstanceAs (Decidable (_ ∧ _))

structure Holds (entry : Info) (line : Bytes) : Prop where
  mode : entry.mode.str.bytes = if Described line then firstWord line else []
  list : entry.list.str.bytes = if Described line then remainder line else []

-- Exactly the texts that are read without a fault.
structure Room (cap : CStr) : Prop where
  total : (lines newline cap.bytes).length ≤ numMax
  line : ∀ line ∈ lines newline cap.bytes, line.length < lineLen
  word : ∀ line ∈ lines newline cap.bytes, Described line → (firstWord line).length < modeLen

theorem line_total (left : Nat) (buf : Bytes) : getLineTotal left buf = min left (lines newline buf).length := by
  induction left generalizing buf with
  | zero => rw [getLineTotal, Nat.zero_min]
  | succ left ih =>
      rw [getLineTotal]
      split
      · rename_i line rest found
        rw [ih, lines_cut newline buf line rest found, List.length_cons, Nat.succ_min_succ]
      · rename_i absent
        split
        · rename_i nothing
          rw [nothing]
          exact (Nat.min_zero _).symm
        · rename_i text
          rw [lines_last newline buf absent text, List.length_singleton]
          omega

theorem copied_iff {capacity : Nat} (source : CStr) (array : CharArray capacity) :
    copied (strcpy capacity source) = .ok array ↔ array.str = source := by
  constructor
  · exact copied_str source array
  · rintro rfl
    rw [strcpy_some capacity array.str array.fits]
    rfl

theorem strncpy_iff {capacity : Nat} (source : CStr) (array : CharArray capacity) :
    strncpy capacity source = .ok array ↔ array.str = source := by
  rw [strncpy]
  split
  · rename_i full
    refine iff_of_false nofun fun same => ?_
    have fits := array.fits
    rw [same, full] at fits
    exact Nat.lt_irrefl _ fits
  · exact copied_iff source array

theorem read_iff {capacity : Nat} (array : CharArray capacity) (text : Bytes) (noNul : 0 ∉ text) :
    array.str = CStr.read text ↔ array.str.bytes = text := by
  constructor
  · intro same
    rw [same, CStr.read_bytes text noNul]
  · intro same
    exact CStr.ext_bytes _ _ (same.trans (CStr.read_bytes text noNul).symm)

theorem get_line_iff (idx : Nat) (src line : Bytes) (noNul : 0 ∉ src) (array : CharArray lineLen)
    (its : (lines newline src)[idx]? = some line) : getLine idx src = .ok array ↔ array.str.bytes = line := by
  have clear : 0 ∉ line := fun zero => noNul (lines_bytes newline src line (List.mem_of_getElem? its) 0 zero)
  fun_induction getLine idx src with
  | case1 idx src absent =>
      have text : src ≠ [] := by
        rintro rfl
        cases its
      rw [lines_last newline src absent text] at its
      have same : src = line := by
        rw [List.getElem?_singleton] at its
        split at its
        · exact Option.some.inj its
        · cases its
      rw [same, copied_iff, read_iff array line clear]
  | case2 src before rest found =>
      rw [lines_cut newline src before rest found] at its
      rw [Option.some.inj its, strncpy_iff, read_iff array line clear]
  | case3 src before rest found idx ih =>
      rw [lines_cut newline src before rest found] at its
      have behind : 0 ∉ rest := by
        intro zero
        rw [(cut_some newline src before rest found).1] at noNul
        exact noNul (List.mem_append_right _ (List.mem_cons_of_mem _ zero))
      exact ih behind its

-- What a line has before its first blank and what it has behind it.
theorem cut_blank (line : Bytes) :
    cut blank line = if blank ∈ line then some (firstWord line, remainder line) else none := by
  induction line with
  | nil => rfl
  | cons byte rest ih =>
      by_cases same : byte = blank
      · rw [cut, if_pos same, if_pos (same ▸ List.mem_cons_self), remainder, firstWord,
          List.takeWhile_cons_of_neg (by simpa using same)]
        rfl
      · have word : firstWord (byte :: rest) = byte :: firstWord rest := List.takeWhile_cons_of_pos (by simpa using same)
        have inside : blank ∈ byte :: rest ↔ blank ∈ rest := by
          rw [List.mem_cons]
          exact or_iff_right (Ne.symm same)
        have behind : remainder (byte :: rest) = remainder rest := by
          rw [remainder, word]
          rfl
        rw [cut, if_neg same, ih, behind, word]
        simp only [inside]
        split <;> rfl

theorem parse_line_plain (line : CharArray lineLen) (plain : ¬Described line.str.bytes) : parseLine line = .ok .zero := by
  rw [parseLine]
  split
  · rfl
  · rename_i text
    have other : line.str.bytes ≠ supportLists.bytes := fun same => text (.inl (CStr.ext_bytes _ _ same))
    rw [cut_blank, if_neg fun inside => plain ⟨other, inside⟩]

theorem parse_line_described (line : CharArray lineLen) (described : Described line.str.bytes) :
    parseLine line =
      (strncpy modeLen (CStr.read (firstWord line.str.bytes))).bind fun mode =>
        (copied (strcpy lineLen (CStr.read (remainder line.str.bytes)))).map fun list =>
          ⟨mode, list, (parseNumbers mode).1, (parseNumbers mode).2⟩ := by
  have text : ¬(line.str = supportLists ∨ line.str.bytes = []) := by
    rintro (heading | nothing)
    · exact described.1 (congrArg CStr.bytes heading)
    · have inside := described.2
      rw [nothing] at inside
      cases inside
  rw [parseLine, if_neg text, cut_blank, if_pos described.2]
  rfl

theorem parse_line_iff (line : CharArray lineLen) (described : Described line.str.bytes) (entry : Info) :
    parseLine line = .ok entry ↔
      entry.mode.str.bytes = firstWord line.str.bytes ∧ entry.list.str.bytes = remainder line.str.bytes ∧
        entry.mo = (parseNumbers entry.mode).1 ∧ entry.hz = (parseNumbers entry.mode).2 := by
  have word : 0 ∉ firstWord line.str.bytes := fun zero => line.str.noNul ((List.takeWhile_sublist _).subset zero)
  have rest : 0 ∉ remainder line.str.bytes := fun zero => line.str.noNul (List.mem_of_mem_drop zero)
  rw [parse_line_described line described, ← read_iff _ _ word, ← read_iff _ _ rest, ← strncpy_iff, ← copied_iff]
  cases strncpy modeLen (CStr.read (firstWord line.str.bytes)) with
  | error fault => exact iff_of_false nofun fun both => nomatch both.1
  | ok mode =>
      cases copied (strcpy lineLen (CStr.read (remainder line.str.bytes))) with
      | error fault => exact iff_of_false nofun fun both => nomatch both.2.1
      | ok list =>
          constructor
          · intro done
            cases done
            exact ⟨rfl, rfl, rfl, rfl⟩
          · rintro ⟨sameMode, sameList, mo, hz⟩
            cases sameMode
            cases sameList
            rw [Except.bind, Except.map, ← mo, ← hz]

theorem parse_line_ok (line : CharArray lineLen) (entry : Info) (done : parseLine line = .ok entry) :
    Holds entry line.str.bytes := by
  by_cases described : Described line.str.bytes
  · obtain ⟨mode, list, _⟩ := (parse_line_iff line described entry).mp done
    exact ⟨mode.trans (if_pos described).symm, list.trans (if_pos described).symm⟩
  · rw [parse_line_plain line described] at done
    cases done
    exact ⟨(if_neg described).symm, (if_neg described).symm⟩

theorem parse_line_room (line : CharArray lineLen) :
    (∃ entry, parseLine line = .ok entry) ↔
      (Described line.str.bytes → (firstWord line.str.bytes).length < modeLen) := by
  by_cases described : Described line.str.bytes
  · simp only [parse_line_iff line described, described, forall_true_left]
    constructor
    · rintro ⟨entry, mode, _⟩
      exact mode ▸ entry.mode.fits
    · intro word
      have text : 0 ∉ firstWord line.str.bytes := fun zero => line.str.noNul ((List.takeWhile_sublist _).subset zero)
      have rest : 0 ∉ remainder line.str.bytes := fun zero => line.str.noNul (List.mem_of_mem_drop zero)
      have shorter : (remainder line.str.bytes).length ≤ line.str.bytes.length := by
        rw [remainder, List.length_drop]
        omega
      let mode : CharArray modeLen := ⟨⟨firstWord line.str.bytes, text⟩, word⟩
      let list : CharArray lineLen := ⟨⟨remainder line.str.bytes, rest⟩, Nat.lt_of_le_of_lt shorter line.fits⟩
      exact ⟨⟨mode, list, (parseNumbers mode).1, (parseNumbers mode).2⟩, rfl, rfl, rfl, rfl⟩
  · exact iff_of_true ⟨.zero, parse_line_plain line described⟩ fun inside => absurd inside described

section
variable (cap : CStr) (i : Nat) (line : Bytes) (its : (lines newline cap.bytes)[i]? = some line)
include its

theorem read_entry_holds (entry : Info) (done : readEntry cap i = .ok entry) : Holds entry line := by
  rw [readEntry] at done
  split at done
  · cases got : getLine i cap.bytes with
    | error fault =>
        rw [got] at done
        cases done
    | ok array =>
        rw [got] at done
        rw [← (get_line_iff i cap.bytes line cap.noNul array its).mp got]
        exact parse_line_ok array entry done
  · cases done

theorem read_entry_iff :
    (∃ entry, readEntry cap i = .ok entry) ↔
      i < numMax ∧ line.length < lineLen ∧ (Described line → (firstWord line).length < modeLen) := by
  have arrays (array : CharArray lineLen) := get_line_iff i cap.bytes line cap.noNul array its
  rw [readEntry]
  split
  · rename_i inside
    rw [and_iff_right inside]
    cases got : getLine i cap.bytes with
    | error fault =>
        refine iff_of_false (fun ⟨_, done⟩ => nomatch done) fun both => ?_
        have text : 0 ∉ line := fun zero =>
          cap.noNul (lines_bytes newline cap.bytes line (List.mem_of_getElem? its) 0 zero)
        exact nomatch got.symm.trans ((arrays ⟨⟨line, text⟩, both.1⟩).mpr rfl)
    | ok array =>
        have same := (arrays array).mp got
        rw [← same, and_iff_right array.fits]
        exact parse_line_room array
  · rename_i outside
    exact iff_of_false (fun ⟨_, done⟩ => nomatch done) fun both => outside both.1

end

theorem read_list_ok_iff (cap : CStr) : (∃ info, readList cap = .ok info) ↔ Room cap := by
  rw [readList, line_total, map_m_ok_exists]
  simp only [List.mem_range]
  constructor
  · intro read
    have total : (lines newline cap.bytes).length ≤ numMax := by
      by_contra many
      have last : numMax < min (numMax + 1) (lines newline cap.bytes).length := by omega
      obtain ⟨entry, done⟩ := read numMax last
      rw [readEntry, if_neg (Nat.lt_irrefl _)] at done
      cases done
    have entries : ∀ line ∈ lines newline cap.bytes,
        line.length < lineLen ∧ (Described line → (firstWord line).length < modeLen) := by
      intro line member
      obtain ⟨i, inside, rfl⟩ := List.getElem_of_mem member
      exact ((read_entry_iff cap i _ (List.getElem?_eq_getElem inside)).mp (read i (by omega))).2
    exact ⟨total, fun line member => (entries line member).1, fun line member => (entries line member).2⟩
  · intro room i inside
    have counted : i < (lines newline cap.bytes).length := by omega
    have member := List.getElem_mem counted
    refine (read_entry_iff cap i _ (List.getElem?_eq_getElem counted)).mpr ⟨?_, room.line _ member, room.word _ member⟩
    exact Nat.lt_of_lt_of_le counted room.total

theorem read_list_holds (cap : CStr) (info : List Info) (room : Room cap) (done : readList cap = .ok info) :
    List.Forall₂ Holds info (lines newline cap.bytes) := by
  have total : min (numMax + 1) (lines newline cap.bytes).length = (lines newline cap.bytes).length := by
    have fits := room.total
    omega
  rw [readList, line_total, total, map_m_ok_iff] at done
  refine List.forall₂_iff_get.mpr ⟨?_, fun i first second => ?_⟩
  · exact done.length_eq.symm.trans List.length_range
  · have read := done.get (List.length_range.symm ▸ second) first
    rw [List.get_eq_getElem, List.getElem_range] at read
    exact read_entry_holds cap i _ (List.getElem?_eq_getElem second) _ read

theorem capabilities_held (nodes : Nodes) (cap : CStr) (state : State) (room : Room cap) :
    ∃ ready, init nodes cap state = .ok ready ∧
      (state.mInitDone = false → 4 ≤ nodes.axis.length → List.Forall₂ Holds ready.info (lines newline cap.bytes)) := by
  obtain ⟨info, read⟩ := (read_list_ok_iff cap).mpr room
  rw [init]
  split
  · rename_i already
    exact ⟨state, rfl, fun fresh => absurd (fresh.symm.trans already) Bool.false_ne_true⟩
  · dsimp only
    split
    · rename_i short
      exact ⟨_, rfl, fun _ four => absurd four (by omega)⟩
    · rw [read]
      exact ⟨_, rfl, fun _ _ => read_list_holds cap info room read⟩

def twoLines : CStr :=
  ⟨supportLists.bytes ++ newline :: sideBySideCap.bytes ++ [newline], by decide⟩

theorem capabilities_held_two :
    ∃ ready, init ⟨fullHd60.text, [0, 0, 1919, 1079]⟩ twoLines freshState = .ok ready ∧
      List.Forall₂ Holds ready.info [supportLists.bytes, sideBySideCap.bytes] := by
  have room : Room twoLines := ⟨by decide, by decide, by decide⟩
  obtain ⟨ready, done, held⟩ := capabilities_held ⟨fullHd60.text, [0, 0, 1919, 1079]⟩ twoLines freshState room
  exact ⟨ready, done, held rfl (by decide)⟩

def manyLines : CStr := ⟨List.replicate 64 newline ++ [letterP], by decide +kernel⟩
def longLine : CStr := ⟨List.replicate 129 letterP, by decide +kernel⟩
def longWord : CStr := ⟨List.replicate 65 letterP ++ [blank, letterP], by decide +kernel⟩

-- The heading has no entry of its own. A text of 65 lines, a long line and a long word run past the arrays.
theorem heading_not_held :
    firstWord supportLists.bytes = ascii ['3', 'D'] ∧ readList supportLists = .ok [.zero] ∧
      readList manyLines = .error .outside ∧ readList longLine = .error .overrun ∧ readList longWord = .error .overrun := by
  decide +kernel

end Droidlogic.Display.Dimension
