import Droidlogic.Config.Lines

set_option autoImplicit false

namespace Droidlogic.Config

open Droidlogic.Lib

def value (line : Line) : CStr := line.text.strAt line.pValueStart

def findKey (key : CStr) (lines : List Line) : Option CStr := (keyLineFrom key lines).map fun pLine => value pLine.1

-- GetString without its default.
def find (sectionName key : CStr) (lines : List Line) : Option CStr :=
  (getSection sectionName lines).bind fun pSec => findKey key pSec.2

theorem key_no_section (line : Line) (typed : line.type = .lineTypeKey) : ¬ line.type = .lineTypeSection := by
  rw [typed]
  decide

theorem key_unnamed (sectionName : CStr) (line : Line) (typed : line.type = .lineTypeKey) : ¬ Named sectionName line :=
  fun named => key_no_section line typed named.1

theorem comment_unnamed (sectionName : CStr) (line : Line) (typed : line.type = .lineTypeComment) :
    ¬ Named sectionName line := by
  rw [Named, typed]
  exact fun named => absurd named.1 (by decide)

theorem comment_unkeyed (key : CStr) (line : Line) (typed : line.type = .lineTypeComment) : ¬ Keyed key line := by
  rw [Keyed, typed]
  exact fun keyed => absurd keyed.1 (by decide)

theorem get_string_eq (config : CConfigFile) (sectionName key def_value : CStr) :
    getString config sectionName key def_value = (find sectionName key config.mpFirstLine).getD def_value := by
  unfold getString find findKey getKeyLineAtSec
  cases located : getSection sectionName config.mpFirstLine with
  | none => rfl
  | some pSec =>
      cases keyed : keyLineFrom key pSec.2 with
      | none => simp [keyed]
      | some pLine => simp [keyed, value]

theorem get_section_cons (sectionName : CStr) (line : Line) (rest : List Line) :
    getSection sectionName (line :: rest) =
      if Named sectionName line then some (line, rest) else getSection sectionName rest := by
  by_cases typed : line.type = .lineTypeSection
  · simp only [getSection, sections, if_pos typed, List.find?_cons]
    by_cases named : Named sectionName line
    · simp [named]
    · simp [named]
  · have unnamed : ¬ Named sectionName line := fun named => typed named.1
    simp only [getSection, sections, if_neg typed, if_neg unnamed]

theorem get_section_shorter (sectionName : CStr) (lines body : List Line) (line : Line)
    (found : getSection sectionName lines = some (line, body)) : body.length < lines.length := by
  induction lines with
  | nil => cases found
  | cons first rest ih =>
      rw [get_section_cons] at found
      by_cases named : Named sectionName first
      · rw [if_pos named] at found
        cases found
        exact Nat.lt_succ_self _
      · rw [if_neg named] at found
        exact Nat.lt_succ_of_lt (ih found)

-- What a section change does is behind the section line, where the search of an earlier section has ended.
theorem find_key_at_section (sectionName key : CStr) (change : List Line → List Line) (lines : List Line) :
    findKey key (atSection sectionName change lines) = findKey key lines := by
  induction lines with
  | nil => rfl
  | cons line rest ih =>
      by_cases named : Named sectionName line
      · simp only [atSection, if_pos named, findKey, keyLineFrom, if_pos named.1]
      · simp only [atSection, if_neg named, findKey, keyLineFrom]
        by_cases typed : line.type = .lineTypeSection
        · rw [if_pos typed, if_pos typed]
        · rw [if_neg typed, if_neg typed]
          by_cases keyed : Keyed key line
          · rw [if_pos keyed, if_pos keyed]
            rfl
          · rw [if_neg keyed, if_neg keyed]
            exact ih

theorem find_at_section (sectionName other key : CStr) (change : List Line → List Line) (line : Line)
    (lines body : List Line) (found : getSection sectionName lines = some (line, body))
    (kept : getSection other (change body) = getSection other body) :
    find other key (atSection sectionName change lines) =
      if getSection other lines = some (line, body) then findKey key (change body) else find other key lines := by
  induction lines with
  | nil => cases found
  | cons first rest ih =>
      rw [get_section_cons] at found
      by_cases here : Named sectionName first
      · rw [if_pos here] at found
        cases found
        rw [atSection, if_pos here, get_section_cons]
        by_cases also : Named other line
        · simp [find, get_section_cons, also]
        · have elsewhere : getSection other body ≠ some (line, body) := fun same =>
            absurd (get_section_shorter other body body line same) (Nat.lt_irrefl _)
          simp [find, get_section_cons, also, elsewhere, kept]
      · rw [if_neg here] at found
        have shorter := get_section_shorter sectionName rest body line found
        rw [atSection, if_neg here, get_section_cons]
        by_cases also : Named other first
        · have elsewhere : some (first, rest) ≠ some (line, body) := fun same => by
            cases same
            exact Nat.lt_irrefl _ shorter
          simp only [find, get_section_cons, if_pos also, if_neg elsewhere, Option.bind_some]
          exact find_key_at_section sectionName key change rest
        · simpa only [find, get_section_cons, if_neg also] using ih found

-- The lines that keyLineFrom passes, and the one it stops at.
inductive FoundKey (key : CStr) : List Line → LinePtr → Prop
  | here (line : Line) (rest : List Line) (inside : ¬ line.type = .lineTypeSection) (keyed : Keyed key line) :
      FoundKey key (line :: rest) (line, rest)
  | later (line : Line) (rest : List Line) (pLine : LinePtr) (inside : ¬ line.type = .lineTypeSection)
      (unkeyed : ¬ Keyed key line) (found : FoundKey key rest pLine) : FoundKey key (line :: rest) pLine

theorem found_key (key : CStr) (lines : List Line) (pLine : LinePtr) (found : keyLineFrom key lines = some pLine) :
    FoundKey key lines pLine := by
  induction lines with
  | nil => cases found
  | cons line rest ih =>
      rw [keyLineFrom] at found
      by_cases ends : line.type = .lineTypeSection
      · rw [if_pos ends] at found
        cases found
      · rw [if_neg ends] at found
        by_cases keyed : Keyed key line
        · rw [if_pos keyed] at found
          cases found
          exact .here line rest ends keyed
        · rw [if_neg keyed] at found
          exact .later line rest pLine ends keyed (ih found)

theorem get_section_at_key (other key : CStr) (change : Line → Line) (lines : List Line)
    (typed : ∀ line, Keyed key line → (change line).type = .lineTypeKey) :
    (∃ pLine, keyLineFrom key lines = some pLine) →
      getSection other (atKey key change lines) = getSection other lines := by
  rintro ⟨pLine, found⟩
  replace found := found_key key lines pLine found
  induction found with
  | here line rest inside keyed =>
      have unnamed : ¬ Named other line := fun named => inside named.1
      have still : ¬ Named other (change line) := key_unnamed other (change line) (typed line keyed)
      simp only [atKey, if_pos keyed, get_section_cons, if_neg unnamed, if_neg still]
  | later line rest pLine inside unkeyed found ih =>
      have unnamed : ¬ Named other line := fun named => inside named.1
      simp only [atKey, if_neg unkeyed, get_section_cons, if_neg unnamed]
      exact ih

theorem found_key_shorter (key : CStr) (lines : List Line) (pLine : LinePtr) (found : FoundKey key lines pLine) :
    pLine.2.length < lines.length := by
  induction found with
  | here line rest inside keyed => exact Nat.lt_succ_self _
  | later line rest pLine inside unkeyed found ih => exact Nat.lt_succ_of_lt ih

theorem key_line_shorter (key : CStr) (lines : List Line) (pLine : LinePtr) (found : keyLineFrom key lines = some pLine) :
    pLine.2.length < lines.length := found_key_shorter key lines pLine (found_key key lines pLine found)

-- The search for other stops at a line before pLine.
def StopsBefore (other : CStr) (lines : List Line) (pLine : LinePtr) : Prop :=
  ∃ first, keyLineFrom other lines = some first ∧ pLine.2.length < first.2.length

theorem find_key_before (key other : CStr) (change : Line → Line) (lines : List Line) (pLine : LinePtr)
    (found : keyLineFrom key lines = some pLine) (stops : StopsBefore other lines pLine) :
    findKey other (atKey key change lines) = findKey other lines := by
  obtain ⟨first, stops, before⟩ := stops
  replace found := found_key key lines pLine found
  induction found with
  | here line rest inside keyed =>
      have shorter := key_line_shorter other (line :: rest) first stops
      exact absurd (Nat.lt_of_lt_of_le before (Nat.le_of_lt_succ shorter)) (Nat.lt_irrefl _)
  | later line rest pLine inside unkeyed found ih =>
      simp only [atKey, if_neg unkeyed, findKey, keyLineFrom, if_neg inside]
      by_cases keyed : Keyed other line
      · rw [if_pos keyed, if_pos keyed]
        rfl
      · rw [if_neg keyed, if_neg keyed]
        rw [keyLineFrom, if_neg inside, if_neg keyed] at stops
        exact ih stops before

-- A search that has not stopped before the changed line is answered by it or by those behind it.
theorem find_key_reached (key other : CStr) (change : Line → Line) (lines : List Line) (pLine : LinePtr)
    (found : keyLineFrom key lines = some pLine) (typed : (change pLine.1).type = .lineTypeKey)
    (reached : ¬ StopsBefore other lines pLine) :
    findKey other (atKey key change lines) =
      if Keyed other (change pLine.1) then some (value (change pLine.1)) else findKey other pLine.2 := by
  replace found := found_key key lines pLine found
  induction found with
  | here line rest inside keyed =>
      have changed : ¬ (change line).type = .lineTypeSection := key_no_section (change line) typed
      simp only [atKey, if_pos keyed, findKey, keyLineFrom, if_neg changed]
      split <;> rfl
  | later line rest pLine inside unkeyed found ih =>
      have longer : pLine.2.length < rest.length := found_key_shorter key rest pLine found
      have passed : ¬ Keyed other line := fun keyed =>
        reached ⟨(line, rest), by rw [keyLineFrom, if_neg inside, if_pos keyed], longer⟩
      simp only [atKey, if_neg unkeyed, findKey, keyLineFrom, if_neg inside, if_neg passed]
      refine ih typed fun ⟨first, stops, before⟩ => reached ⟨first, ?_, before⟩
      rw [keyLineFrom, if_neg inside, if_neg passed, stops]

theorem at_key_id (key : CStr) (lines : List Line) : atKey key id lines = lines := by
  induction lines with
  | nil => rfl
  | cons line rest ih =>
      rw [atKey, ih]
      split <;> rfl

theorem key_line_at_key (key : CStr) (change : Line → Line) (lines : List Line) (pLine : LinePtr)
    (found : keyLineFrom key lines = some pLine) (keyedAfter : Keyed key (change pLine.1)) :
    findKey key (atKey key change lines) = some (value (change pLine.1)) := by
  replace found := found_key key lines pLine found
  induction found with
  | here line rest inside keyed =>
      have changed : ¬ (change line).type = .lineTypeSection := key_no_section (change line) keyedAfter.1
      simp only [atKey, if_pos keyed, findKey, keyLineFrom, if_neg changed, if_pos keyedAfter, Option.map_some]
  | later line rest pLine inside unkeyed found ih =>
      simp only [atKey, if_neg unkeyed, findKey, keyLineFrom, if_neg inside]
      exact ih keyedAfter

theorem take_while_drop (bytes : Bytes) (offset : Nat) (inside : offset ≤ (bytes.takeWhile (· ≠ 0)).length) :
    (bytes.drop offset).takeWhile (· ≠ 0) = (bytes.takeWhile (· ≠ 0)).drop offset := by
  induction bytes generalizing offset with
  | nil => simp
  | cons byte rest ih =>
      cases offset with
      | zero => rfl
      | succ offset =>
          by_cases nonzero : byte ≠ 0
          · simp only [List.takeWhile_cons, decide_eq_true nonzero, if_true, List.length_cons] at inside ⊢
            exact ih offset (Nat.le_of_succ_le_succ inside)
          · simp [nonzero] at inside

theorem str_at_inside (text : Text) (offset : Nat) (inside : offset ≤ text.str.bytes.length) :
    text.strAt offset = text.str.drop offset :=
  CStr.ext_bytes _ _ (take_while_drop text.bytes offset inside)

theorem str_length (text : Text) : text.str.bytes.length < 512 := by
  have part : text.str.bytes.Sublist text.bytes := List.takeWhile_sublist _
  refine Nat.lt_of_le_of_ne (text.sized ▸ part.length_le) fun full => ?_
  have whole := part.eq_of_length (full.trans text.sized.symm)
  exact text.str.noNul (whole.symm ▸ text.terminated)

theorem store_str (text : Text) (source : CharArray 512) : (text.store source).str = source.str := by
  apply CStr.ext_bytes
  have nonzero : ∀ byte ∈ source.str.bytes, decide (byte ≠ 0) = true := fun byte member =>
    decide_eq_true fun zero => source.str.noNul (zero ▸ member)
  simp only [Text.str, Text.store, CStr.read]
  rw [List.takeWhile_append_of_pos nonzero]
  simp

theorem print_str (text printed : Text) (out : CStr) (done : text.print out = some printed) : printed.str = out := by
  simp only [Text.print, Option.map_eq_some_iff] at done
  obtain ⟨source, copied, rfl⟩ := done
  rw [store_str, strcpy_eq_some 512 out source copied]

theorem print_bytes (text printed : Text) (out : CStr) (done : text.print out = some printed) :
    printed.bytes = out.bytes ++ 0 :: text.bytes.drop (out.bytes.length + 1) := by
  simp only [Text.print, Option.map_eq_some_iff] at done
  obtain ⟨source, copied, rfl⟩ := done
  have whole := strcpy_eq_some 512 out source copied
  rw [← whole]
  rfl

theorem print_fits (text : Text) (out : CStr) (fits : out.bytes.length < 512) :
    ∃ printed, text.print out = some printed := by
  rw [Text.print, strcpy_some 512 out fits]
  exact ⟨_, rfl⟩

theorem absent_key_text (key val : CStr) (byte : UInt8) (other : byte ≠ equals) (keyAbsent : byte ∉ key.bytes)
    (valAbsent : byte ∉ val.bytes) : byte ∉ (keyText key val).bytes := by
  simp [keyText, other, keyAbsent, valAbsent]

theorem absent_section_text (sectionName : CStr) (byte : UInt8) (first : byte ≠ opening) (last : byte ≠ closing)
    (absent : byte ∉ sectionName.bytes) : byte ∉ (sectionText sectionName).bytes := by
  simp [sectionText, first, last, absent]

theorem section_text_named (sectionName other : CStr) (line : Line) (typed : line.type = .lineTypeSection)
    (printed : line.text.str = sectionText sectionName) :
    Named other line ↔ other.bytes <+: sectionName.bytes ++ [closing] := by
  have rest : line.text.strAt 1 = (sectionText sectionName).drop 1 := by
    rw [str_at_inside, printed]
    rw [printed]
    exact Nat.succ_le_succ (Nat.zero_le _)
  rw [Named, rest]
  simp [typed, sectionText]

-- The key line that SetString writes for a key and a value.
structure Writes (key val : CStr) (line : Line) : Prop where
  typed : line.type = .lineTypeKey
  printed : line.text.str = keyText key val

theorem Writes.value {key val : CStr} {line : Line} (writes : Writes key val line)
    (inPlace : line.pValueStart = key.bytes.length + 1) : value line = val := by
  have inside : line.pValueStart ≤ line.text.str.bytes.length := by
    rw [inPlace, writes.printed]
    simp only [keyText, List.length_append, List.length_cons]
    omega
  rw [Config.value, str_at_inside _ _ inside, writes.printed, inPlace]
  apply CStr.ext_bytes
  simp [keyText]

-- What pValueStart finds in a line of another key that SetString has written over.
def rewrittenValue (key val : CStr) (line : Line) : CStr :=
  if line.pValueStart ≤ (keyText key val).bytes.length then (keyText key val).drop line.pValueStart else value line

theorem rewritten_value (key val : CStr) (line : Line) (text : Text)
    (printed : line.text.print (keyText key val) = some text) :
    Config.value (line.reprinted text) = rewrittenValue key val line := by
  have written := print_str line.text text (keyText key val) printed
  unfold rewrittenValue
  by_cases inside : line.pValueStart ≤ (keyText key val).bytes.length
  · rw [if_pos inside, ← written]
    exact str_at_inside text line.pValueStart (written ▸ inside)
  · rw [if_neg inside]
    -- Behind the new text and its NUL stands what stood there before.
    have behind : text.bytes.drop line.pValueStart = line.text.bytes.drop line.pValueStart := by
      obtain ⟨gap, start⟩ : ∃ gap, line.pValueStart = (keyText key val).bytes.length + 1 + gap :=
        Nat.exists_eq_add_of_le (Nat.lt_of_not_le inside)
      have halves : text.bytes =
          ((keyText key val).bytes ++ [0]) ++ line.text.bytes.drop ((keyText key val).bytes.length + 1) := by
        rw [print_bytes line.text text (keyText key val) printed, List.append_cons]
      have length : ((keyText key val).bytes ++ [0]).length = (keyText key val).bytes.length + 1 := List.length_append
      rw [halves, start, ← List.drop_drop, ← length, List.drop_left, List.drop_drop]
    exact congrArg CStr.read behind

theorem Writes.keyed {key val : CStr} {line : Line} (writes : Writes key val line) (other : CStr) :
    Keyed other line ↔ other.bytes <+: (keyText key val).bytes := by
  rw [Keyed, writes.printed]
  exact and_iff_right writes.typed

theorem key_text_starts (key val : CStr) : key.bytes <+: (keyText key val).bytes := List.prefix_append _ _

-- What SetString does to the lines.
theorem set_lines_cases (sectionName key val : CStr) (lines next : List Line)
    (done : setLines sectionName key val lines = some next) :
    (getSection sectionName lines = none ∧ ∃ sec line, next = sec :: line :: lines ∧ sec.type = .lineTypeSection ∧
        sec.text.str = sectionText sectionName ∧ Writes key val line ∧ line.pValueStart = key.bytes.length + 1) ∨
      (∃ pSec, getSection sectionName lines = some pSec ∧
        ((getKeyLineAtSec pSec key = none ∧ ∃ line, next = atSection sectionName (line :: ·) lines ∧ Writes key val line ∧
            line.pValueStart = key.bytes.length + 1) ∨
          (∃ pLine text, getKeyLineAtSec pSec key = some pLine ∧ pLine.1.text.print (keyText key val) = some text ∧
            next = atSection sectionName (atKey key (Line.reprinted text)) lines))) := by
  have newKey : ∀ line, newKeyLine key val = some line → Writes key val line ∧ line.pValueStart = key.bytes.length + 1 := by
    intro line made
    simp only [newKeyLine, Option.map_eq_some_iff] at made
    obtain ⟨text, printed, rfl⟩ := made
    exact ⟨⟨rfl, print_str _ _ _ printed⟩, rfl⟩
  unfold setLines at done
  cases located : getSection sectionName lines with
  | none =>
      rw [located] at done
      cases madeSection : newSectionLine sectionName with
      | none => simp [madeSection] at done
      | some sec =>
          simp only [madeSection, Option.map_eq_some_iff] at done
          obtain ⟨line, made, rfl⟩ := done
          simp only [newSectionLine, Option.map_eq_some_iff] at madeSection
          obtain ⟨text, printed, rfl⟩ := madeSection
          obtain ⟨writes, inPlace⟩ := newKey line made
          exact .inl ⟨rfl, _, line, rfl, rfl, print_str _ _ _ printed, writes, inPlace⟩
  | some pSec =>
      rw [located] at done
      refine .inr ⟨pSec, rfl, ?_⟩
      cases keyed : getKeyLineAtSec pSec key with
      | none =>
          simp only [keyed, Option.map_eq_some_iff] at done
          obtain ⟨line, made, rfl⟩ := done
          obtain ⟨writes, inPlace⟩ := newKey line made
          exact .inl ⟨rfl, line, rfl, writes, inPlace⟩
      | some pLine =>
          simp only [keyed, Option.map_eq_some_iff] at done
          obtain ⟨text, printed, rfl⟩ := done
          exact .inr ⟨pLine, text, rfl, printed, rfl⟩

end Droidlogic.Config
