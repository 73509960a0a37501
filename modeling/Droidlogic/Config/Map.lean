import Droidlogic.Config.Lookup
import Droidlogic.Lib.Run

set_option autoImplicit false

namespace Droidlogic.Config

open Droidlogic.Lib

def Stores (next : CConfigFile) (sectionName key val : CStr) : Prop :=
  ∀ def_value, getString next sectionName key def_value = val

def Keeps (config next : CConfigFile) (sectionName key : CStr) : Prop :=
  ∀ def_value, getString next sectionName key def_value = getString config sectionName key def_value

-- If a line is found for the key, its own key is that one and not a longer one.
def ValueInPlace (sectionName key : CStr) (lines : List Line) : Prop :=
  ∀ pLine ∈ (getSection sectionName lines).bind (getKeyLineAtSec · key), pLine.1.pValueStart = key.bytes.length + 1

instance (sectionName key : CStr) (lines : List Line) : Decidable (ValueInPlace sectionName key lines) :=
  inferInstanceAs (Decidable (∀ _ ∈ _, _))

-- The line's value is read where SetString writes it, or behind the new text where the same value stood before.
def InPlace (key val : CStr) (line : Line) : Prop :=
  line.pValueStart = key.bytes.length + 1 ∨ ((keyText key val).bytes.length < line.pValueStart ∧ value line = val)

-- SetString(sectionName, key, val) keeps the entry of other and otherKey: their
-- lookup does not come to a line that is written, or what answers it there is
-- what answered it before.
def Kept (sectionName key val other otherKey : CStr) (lines : List Line) : Prop :=
  match getSection sectionName lines with
  | none =>
      other.bytes <+: sectionName.bytes ++ [closing] →
        find other otherKey lines =
          if otherKey.bytes <+: (keyText key val).bytes then some val else findKey otherKey lines
  | some pSec =>
      getSection other lines = some pSec →
        match getKeyLineAtSec pSec key with
        | none => otherKey.bytes <+: (keyText key val).bytes → findKey otherKey pSec.2 = some val
        | some pLine =>
            StopsBefore otherKey pSec.2 pLine ∨
              if otherKey.bytes <+: pLine.1.text.str.bytes then
                if otherKey.bytes <+: (keyText key val).bytes then value pLine.1 = rewrittenValue key val pLine.1
                else findKey otherKey pLine.2 = some (value pLine.1)
              else otherKey.bytes <+: (keyText key val).bytes →
                findKey otherKey pLine.2 = some (rewrittenValue key val pLine.1)

def Fits (sectionName key val : CStr) : Prop :=
  (sectionText sectionName).bytes.length < 512 ∧ (keyText key val).bytes.length < 512

instance (sectionName key val : CStr) : Decidable (Fits sectionName key val) := inferInstanceAs (Decidable (_ ∧ _))

theorem set_lines_fits (sectionName key val : CStr) (lines : List Line) (fits : Fits sectionName key val) :
    ∃ next, setLines sectionName key val lines = some next := by
  obtain ⟨sectionPrinted, sectionDone⟩ := print_fits Text.zero (sectionText sectionName) fits.1
  obtain ⟨keyPrinted, keyDone⟩ := print_fits Text.zero (keyText key val) fits.2
  unfold setLines
  cases located : getSection sectionName lines with
  | none => exact ⟨_, by simp [newSectionLine, newKeyLine, sectionDone, keyDone]; rfl⟩
  | some pSec =>
      cases keyed : getKeyLineAtSec pSec key with
      | none => exact ⟨_, by simp [keyed, newKeyLine, keyDone]; rfl⟩
      | some pLine =>
          obtain ⟨updated, updateDone⟩ := print_fits pLine.1.text (keyText key val) fits.2
          exact ⟨_, by simp [keyed, updateDone]; rfl⟩

theorem find_key_cons (key : CStr) (line : Line) (rest : List Line) (typed : line.type = .lineTypeKey) :
    findKey key (line :: rest) = if Keyed key line then some (value line) else findKey key rest := by
  simp only [findKey, keyLineFrom, if_neg (key_no_section line typed)]
  split <;> rfl

theorem get_section_key (other : CStr) (line : Line) (rest : List Line) (typed : line.type = .lineTypeKey) :
    getSection other (line :: rest) = getSection other rest := by
  rw [get_section_cons, if_neg (key_unnamed other line typed)]

theorem updated_writes (key val : CStr) (line : Line) (text : Text) (typed : line.type = .lineTypeKey)
    (printed : text.str = keyText key val) : Writes key val (line.reprinted text) := ⟨typed, printed⟩

theorem key_line_keyed (key : CStr) (lines : List Line) (pLine : LinePtr) (found : keyLineFrom key lines = some pLine) :
    Keyed key pLine.1 := by
  replace found := found_key key lines pLine found
  induction found with
  | here line rest inside keyed => exact keyed
  | later line rest pLine inside unkeyed found ih => exact ih

theorem in_place_iff (key val : CStr) (line : Line) : InPlace key val line ↔ rewrittenValue key val line = val := by
  unfold rewrittenValue
  have length : (keyText key val).bytes.length = key.bytes.length + 1 + val.bytes.length := by
    simp only [keyText, List.length_append, List.length_cons]
    omega
  by_cases inside : line.pValueStart ≤ (keyText key val).bytes.length
  · rw [if_pos inside]
    constructor
    · rintro (start | ⟨behind, _⟩)
      · rw [start]
        exact CStr.ext_bytes _ _ (by simp [keyText])
      · exact absurd inside (Nat.not_le_of_lt behind)
    · intro same
      have left : ((keyText key val).bytes.drop line.pValueStart).length = val.bytes.length :=
        congrArg (fun str => str.bytes.length) same
      rw [List.length_drop] at left
      exact .inl (by omega)
  · rw [if_neg inside]
    refine ⟨fun placed => ?_, fun same => .inr ⟨Nat.lt_of_not_le inside, same⟩⟩
    rcases placed with start | ⟨_, same⟩
    · omega
    · exact same

theorem set_lines_stores (sectionName key val : CStr) (lines next : List Line)
    (done : setLines sectionName key val lines = some next) :
    find sectionName key next = some val ↔
      ∀ pLine ∈ (getSection sectionName lines).bind (getKeyLineAtSec · key), InPlace key val pLine.1 := by
  rcases set_lines_cases sectionName key val lines next done with
    ⟨located, sec, line, rfl, typed, printed, writes, start⟩ | ⟨pSec, located, inserted | updated⟩
  · have named : Named sectionName sec := (section_text_named sectionName sectionName sec typed printed).mpr
      (List.prefix_append _ _)
    rw [find, get_section_cons, if_pos named, Option.bind_some, find_key_cons key line lines writes.typed,
      if_pos ((writes.keyed key).mpr (key_text_starts key val)), writes.value start, located]
    simp
  · obtain ⟨absent, line, rfl, writes, start⟩ := inserted
    rw [find_at_section sectionName sectionName key _ pSec.1 lines pSec.2 located
      (get_section_key sectionName line pSec.2 writes.typed), if_pos located, find_key_cons key line _ writes.typed,
      if_pos ((writes.keyed key).mpr (key_text_starts key val)), writes.value start, located, Option.bind_some, absent]
    simp
  · obtain ⟨pLine, text, found, printed, rfl⟩ := updated
    have keyed := key_line_keyed key pSec.2 pLine found
    have writes := updated_writes key val pLine.1 text keyed.1 (print_str _ _ _ printed)
    have kept := get_section_at_key sectionName key (Line.reprinted text) pSec.2 (fun _ also => also.1) ⟨pLine, found⟩
    rw [find_at_section sectionName sectionName key _ pSec.1 lines pSec.2 located kept, if_pos located,
      key_line_at_key key _ pSec.2 pLine found ((writes.keyed key).mpr (key_text_starts key val)),
      rewritten_value key val pLine.1 text printed, located, Option.bind_some, found]
    simp [in_place_iff]

-- A section that SetString creates stands first in the list, its key behind it.
theorem new_section_keeps (sectionName key val other otherKey : CStr) (lines : List Line) (sec line : Line)
    (typed : sec.type = .lineTypeSection) (printed : sec.text.str = sectionText sectionName)
    (writes : Writes key val line) (start : line.pValueStart = key.bytes.length + 1) :
    find other otherKey (sec :: line :: lines) =
      if other.bytes <+: sectionName.bytes ++ [closing] then
        if otherKey.bytes <+: (keyText key val).bytes then some val else findKey otherKey lines
      else find other otherKey lines := by
  rw [find, get_section_cons]
  by_cases named : Named other sec
  · rw [if_pos named, if_pos ((section_text_named sectionName other sec typed printed).mp named), Option.bind_some,
      find_key_cons otherKey line lines writes.typed, writes.value start]
    exact if_congr (writes.keyed otherKey) rfl rfl
  · rw [if_neg named, if_neg (fun starts => named ((section_text_named sectionName other sec typed printed).mpr starts)),
      get_section_key other line lines writes.typed]
    rfl

theorem updated_keeps (key val otherKey : CStr) (body : List Line) (pLine : LinePtr) (text : Text)
    (found : keyLineFrom key body = some pLine) (printed : pLine.1.text.print (keyText key val) = some text)
    (reached : ¬ StopsBefore otherKey body pLine) :
    findKey otherKey (atKey key (Line.reprinted text) body) = findKey otherKey body ↔
      if otherKey.bytes <+: pLine.1.text.str.bytes then
        if otherKey.bytes <+: (keyText key val).bytes then value pLine.1 = rewrittenValue key val pLine.1
        else findKey otherKey pLine.2 = some (value pLine.1)
      else otherKey.bytes <+: (keyText key val).bytes →
        findKey otherKey pLine.2 = some (rewrittenValue key val pLine.1) := by
  have keyed := key_line_keyed key body pLine found
  have writes := updated_writes key val pLine.1 text keyed.1 (print_str _ _ _ printed)
  have before := find_key_reached key otherKey id body pLine found keyed.1 reached
  rw [at_key_id] at before
  rw [before, find_key_reached key otherKey (Line.reprinted text) body pLine found writes.typed reached,
    rewritten_value key val pLine.1 text printed, id_eq]
  have was : Keyed otherKey pLine.1 ↔ otherKey.bytes <+: pLine.1.text.str.bytes := and_iff_right keyed.1
  rw [if_congr (writes.keyed otherKey) rfl rfl, if_congr was rfl rfl]
  by_cases old : otherKey.bytes <+: pLine.1.text.str.bytes
  · rw [if_pos old, if_pos old]
    by_cases fresh : otherKey.bytes <+: (keyText key val).bytes
    · rw [if_pos fresh, if_pos fresh, Option.some.injEq, eq_comm]
    · rw [if_neg fresh, if_neg fresh]
  · rw [if_neg old, if_neg old]
    by_cases fresh : otherKey.bytes <+: (keyText key val).bytes
    · rw [if_pos fresh, eq_comm]
      exact (imp_iff_right fresh).symm
    · rw [if_neg fresh]
      exact iff_of_true rfl fun also => absurd also fresh

theorem set_lines_keeps (sectionName key val other otherKey : CStr) (lines next : List Line)
    (done : setLines sectionName key val lines = some next) :
    find other otherKey next = find other otherKey lines ↔ Kept sectionName key val other otherKey lines := by
  rcases set_lines_cases sectionName key val lines next done with
    ⟨located, sec, line, rfl, typed, printed, writes, start⟩ | ⟨pSec, located, inserted | updated⟩
  · simp only [Kept, located]
    rw [new_section_keeps sectionName key val other otherKey lines sec line typed printed writes start]
    by_cases named : other.bytes <+: sectionName.bytes ++ [closing]
    · rw [if_pos named, eq_comm]
      exact (imp_iff_right named).symm
    · rw [if_neg named]
      exact iff_of_true rfl fun also => absurd also named
  · obtain ⟨absent, line, rfl, writes, start⟩ := inserted
    simp only [Kept, located, absent]
    rw [find_at_section sectionName other otherKey _ pSec.1 lines pSec.2 located
      (get_section_key other line pSec.2 writes.typed)]
    by_cases same : getSection other lines = some pSec
    · have before : find other otherKey lines = findKey otherKey pSec.2 := by
        rw [find, same]
        rfl
      rw [if_pos same, before, find_key_cons otherKey line _ writes.typed, writes.value start,
        if_congr (writes.keyed otherKey) rfl rfl, imp_iff_right same]
      by_cases fresh : otherKey.bytes <+: (keyText key val).bytes
      · rw [if_pos fresh, eq_comm, imp_iff_right fresh]
      · rw [if_neg fresh]
        exact iff_of_true rfl fun also => absurd also fresh
    · rw [if_neg same]
      exact iff_of_true rfl fun also => absurd also same
  · obtain ⟨pLine, text, found, printed, rfl⟩ := updated
    simp only [Kept, located, found]
    have kept := get_section_at_key other key (Line.reprinted text) pSec.2 (fun _ also => also.1) ⟨pLine, found⟩
    rw [find_at_section sectionName other otherKey _ pSec.1 lines pSec.2 located kept]
    by_cases same : getSection other lines = some pSec
    · have before : find other otherKey lines = findKey otherKey pSec.2 := by
        rw [find, same]
        rfl
      rw [if_pos same, before, imp_iff_right same]
      by_cases stops : StopsBefore otherKey pSec.2 pLine
      · exact iff_of_true (find_key_before key otherKey _ pSec.2 pLine found stops) (.inl stops)
      · rw [updated_keeps key val otherKey pSec.2 pLine text found printed stops]
        exact (or_iff_right stops).symm
    · rw [if_neg same]
      exact iff_of_true rfl fun also => absurd also same

structure SetCall where
  sectionName : CStr
  key : CStr
  val : CStr
  opens : Bool

def step (config : CConfigFile) (call : SetCall) : Option CConfigFile :=
  (setString call.sectionName call.key call.val call.opens config).map fun result => result.2.1

def SetCall.Fits (call : SetCall) : Prop := Config.Fits call.sectionName call.key call.val

-- Which entries the call sets and keeps.
structure SetsEntry (config : CConfigFile) (call : SetCall) (next : CConfigFile) : Prop where
  stores : Stores next call.sectionName call.key call.val ↔
    ∀ pLine ∈ (getSection call.sectionName config.mpFirstLine).bind (getKeyLineAtSec · call.key),
      InPlace call.key call.val pLine.1
  keeps : ∀ other otherKey, Keeps config next other otherKey ↔
    Kept call.sectionName call.key call.val other otherKey config.mpFirstLine

-- A lookup that answers alike for every default finds alike.
theorem get_d_iff (found other : Option CStr) : (∀ def_value, found.getD def_value = other.getD def_value) ↔ found = other := by
  refine ⟨fun alike => ?_, fun same def_value => by rw [same]⟩
  have longer (str : CStr) : ∃ def_value : CStr, def_value ≠ str := by
    refine ⟨sectionText str, fun same => ?_⟩
    have length := congrArg (fun str => str.bytes.length) same
    simp only [sectionText, List.length_append, List.length_cons, List.length_nil] at length
    omega
  cases found with
  | none =>
      cases other with
      | none => rfl
      | some str =>
          obtain ⟨def_value, apart⟩ := longer str
          exact absurd (alike def_value) apart
  | some str =>
      cases other with
      | none =>
          obtain ⟨def_value, apart⟩ := longer str
          exact absurd (alike def_value).symm apart
      | some also => rw [show str = also from alike str]

theorem stores_iff (next : CConfigFile) (sectionName key val : CStr) :
    Stores next sectionName key val ↔ find sectionName key next.mpFirstLine = some val := by
  simp only [Stores, get_string_eq]
  exact get_d_iff _ (some val)

theorem keeps_iff (config next : CConfigFile) (sectionName key : CStr) :
    Keeps config next sectionName key ↔ find sectionName key next.mpFirstLine = find sectionName key config.mpFirstLine := by
  simp only [Keeps, get_string_eq]
  exact get_d_iff _ _

theorem set_string_fits (config : CConfigFile) (call : SetCall) (fits : call.Fits) : ∃ next, step config call = some next := by
  obtain ⟨lines, done⟩ := set_lines_fits call.sectionName call.key call.val config.mpFirstLine fits
  exact ⟨{ config with mpFirstLine := lines }, by rw [step, setString, done]; rfl⟩

theorem set_string_sets (config : CConfigFile) (call : SetCall) (next : CConfigFile)
    (taken : step config call = some next) : SetsEntry config call next := by
  obtain ⟨⟨ret, after, saved⟩, set, rfl⟩ := Option.map_eq_some_iff.mp taken
  obtain ⟨lines, done, ⟨⟩⟩ := Option.map_eq_some_iff.mp set
  constructor
  · rw [stores_iff]
    exact set_lines_stores call.sectionName call.key call.val _ _ done
  · intro other otherKey
    rw [keeps_iff]
    exact set_lines_keeps call.sectionName call.key call.val other otherKey _ _ done

theorem fitting_run (config : CConfigFile) (calls : List SetCall) (fits : ∀ call ∈ calls, call.Fits) :
    ∃ final, run step config calls = some final := by
  induction calls generalizing config with
  | nil => exact ⟨config, rfl⟩
  | cons call rest ih =>
      rw [List.forall_mem_cons] at fits
      obtain ⟨next, taken⟩ := set_string_fits config call fits.1
      obtain ⟨final, reached⟩ := ih next fits.2
      exact ⟨final, by rw [run, taken, Option.bind_some, reached]⟩

theorem set_string_map (config : CConfigFile) (calls : List SetCall) :
    ((∀ call ∈ calls, call.Fits) → ∃ final, run step config calls = some final) ∧ Along step SetsEntry config calls :=
  ⟨fitting_run config calls, along_each step SetsEntry set_string_sets config calls⟩

def pq : CStr := ⟨ascii ['P', 'Q'], by decide⟩

def keyAB : CStr := ⟨ascii ['a', 'b'], by decide⟩

def keyA : CStr := ⟨ascii ['a'], by decide⟩

def two : CStr := ⟨ascii ['2'], by decide⟩

-- "[PQ]" and "ab=1" on two lines.
def sampleContent : Bytes := ascii ['[', 'P', 'Q', ']'] ++ [newline] ++ ascii ['a', 'b', '=', '1'] ++ [newline]

theorem unnamed_fits : CStr.empty.bytes.length < 256 := by decide

def sampleConfig : CConfigFile := ⟨⟨CStr.empty, unnamed_fits⟩, loadLines sampleContent⟩

-- SetString takes the line of the longer key: its value is read two bytes behind
-- the new one's '=', and the longer key is gone.
theorem set_string_prefix_key :
    ¬ ∀ (content : Bytes) (fileName : CharArray 256) (sectionName key val : CStr) (next : CConfigFile)
        (saved : Option (CStr × Bytes)), sectionName.bytes ≠ [] → key.bytes ≠ [] → Fits sectionName key val →
        setString sectionName key val true ⟨fileName, loadLines content⟩ = some (0, next, saved) →
        Stores next sectionName key val ∧ ∀ other otherKey, (other, otherKey) ≠ (sectionName, key) →
          Keeps ⟨fileName, loadLines content⟩ next other otherKey := by
  intro claim
  have read : (setString pq keyA two true sampleConfig).map (fun result => getString result.2.1 pq keyA two) =
      some CStr.empty := by decide +kernel
  obtain ⟨lines, changed⟩ := set_lines_fits pq keyA two sampleConfig.mpFirstLine (by decide)
  let next : CConfigFile := { sampleConfig with mpFirstLine := lines }
  have done : setString pq keyA two true sampleConfig = some (0, next, (saveToFile none true next).2) := by
    rw [setString, changed]
    rfl
  have stored := (claim sampleContent sampleConfig.mpFileName pq keyA two _ _ (by decide) (by decide) (by decide) done).1
  rw [done, Option.map_some, stored two] at read
  exact absurd read (by decide)

end Droidlogic.Config
