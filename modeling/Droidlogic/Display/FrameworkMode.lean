import Mathlib.Data.List.DropRight
import Droidlogic.Lib.Text

set_option autoImplicit false

namespace Droidlogic.Display.FrameworkMode

open Lib

def hdmi480 : Bytes := ascii ['4', '8', '0']
def hdmi576 : Bytes := ascii ['5', '7', '6']
def hdmi720 : Bytes := ascii ['7', '2', '0', 'p']
def hdmi1080 : Bytes := ascii ['1', '0', '8', '0']
def hdmi4k2k : Bytes := ascii ['2', '1', '6', '0', 'p']
def hdmiSmpte : Bytes := ascii ['s', 'm', 'p', 't', 'e']

def mode480i60hz : Bytes := ascii ['4', '8', '0', 'i', '6', '0', 'h', 'z']
def mode576i50hz : Bytes := ascii ['5', '7', '6', 'i', '5', '0', 'h', 'z']
def mode480p60hz : Bytes := ascii ['4', '8', '0', 'p', '6', '0', 'h', 'z']
def mode576p50hz : Bytes := ascii ['5', '7', '6', 'p', '5', '0', 'h', 'z']
def mode720p50hz : Bytes := ascii ['7', '2', '0', 'p', '5', '0', 'h', 'z']
def mode720p60hz : Bytes := ascii ['7', '2', '0', 'p', '6', '0', 'h', 'z']
def mode1080p50hz : Bytes := ascii ['1', '0', '8', '0', 'p', '5', '0', 'h', 'z']
def mode1080p60hz : Bytes := ascii ['1', '0', '8', '0', 'p', '6', '0', 'h', 'z']
def mode2160p24hz : Bytes := ascii ['2', '1', '6', '0', 'p', '2', '4', 'h', 'z']
def mode2160p25hz : Bytes := ascii ['2', '1', '6', '0', 'p', '2', '5', 'h', 'z']
def mode2160p30hz : Bytes := ascii ['2', '1', '6', '0', 'p', '3', '0', 'h', 'z']
def mode2160p50hz : Bytes := ascii ['2', '1', '6', '0', 'p', '5', '0', 'h', 'z']
def mode2160p60hz : Bytes := ascii ['2', '1', '6', '0', 'p', '6', '0', 'h', 'z']

def modeResolutionFirst : List Bytes :=
  [mode480i60hz, mode576i50hz, mode480p60hz, mode576p50hz, mode720p50hz, mode720p60hz, mode1080p50hz, mode1080p60hz,
    mode2160p24hz, mode2160p25hz, mode2160p30hz, mode2160p50hz, mode2160p60hz]

def modeFramerateFirst : List Bytes :=
  [mode480i60hz, mode576i50hz, mode480p60hz, mode576p50hz, mode720p50hz, mode720p60hz, mode2160p24hz, mode2160p25hz,
    mode2160p30hz, mode1080p50hz, mode1080p60hz, mode2160p50hz, mode2160p60hz]

def useBestMode : Bool := false

-- The properties that are read, and what PROP_BEST_OUTPUT_MODE holds or DEFAULT_OUTPUT_MODE.
structure Setting where
  support4k : Bool
  supportOver4k30 : Bool
  frameratePriority : Bool
  bestOutputMode : Bytes

def comma : UInt8 := 44

def star : UInt8 := 42

-- String.split of the platform drops the empty strings at the end.
def split (text : Bytes) : List Bytes :=
  if comma ∈ text then (text.splitOn comma).rdropWhile (· = []) else [text]

section
variable (setting : Setting)

def skipped (str : Bytes) : Bool :=
  (!setting.support4k && (contains str (ascii ['2', '1', '6', '0']) || contains str hdmiSmpte)) ||
    (!setting.supportOver4k30 && (contains str (ascii ['2', '1', '6', '0', 'p', '5', '0']) ||
      contains str (ascii ['2', '1', '6', '0', 'p', '6', '0']) || contains str hdmiSmpte))

def readSupportList : List Bytes → Bytes
  | [] => []
  | str :: rest => if skipped setting str then readSupportList rest else str ++ [comma] ++ readSupportList rest

def hasMode (value : Bytes) : Bool :=
  contains value hdmi480 || contains value hdmi576 || contains value hdmi720 || contains value hdmi1080 ||
    contains value hdmi4k2k || contains value hdmiSmpte

def supportList (value : Bytes) : Option (List Bytes) := if hasMode value then some (split value.dropLast) else none

def table : List Bytes := if setting.frameratePriority then modeFramerateFirst else modeResolutionFirst

variable (lines : List Bytes)

def getHighestMatchResolution : Bytes :=
  let value := readSupportList setting lines
  ((table setting).reverse.find? (contains value ·)).getD setting.bestOutputMode

def getBestMatchResolution : Bytes :=
  match supportList (readSupportList setting lines) with
  | none => setting.bestOutputMode
  | some list => ((list.find? (star ∈ ·)).map List.dropLast).getD setting.bestOutputMode

def getSupportedResolution (curMode : Bytes) : Bytes :=
  match supportList (readSupportList setting lines) with
  | none => curMode
  | some list =>
      if curMode ∈ list then curMode
      else if useBestMode then getBestMatchResolution setting lines
      else getHighestMatchResolution setting lines

def Marked (line : Bytes) : Prop := line.getLast? = some star

instance (line : Bytes) : Decidable (Marked line) := inferInstanceAs (Decidable (_ = _))

def allowed : List Bytes := lines.filter fun str => !skipped setting str

def Listed (mode : Bytes) : Prop := ∃ line ∈ allowed setting lines, unmarked star line = mode

def Occurs (mode : Bytes) : Prop := ∃ line ∈ allowed setting lines, contains line mode = true

-- One of the allowed lines, or the configured mode where none of the candidates is one.
def Chosen (candidates : List Bytes) (mode : Bytes) : Prop :=
  Listed setting lines mode ∨ mode = setting.bestOutputMode ∧ ∀ candidate ∈ candidates, ¬Listed setting lines candidate

def bestCandidates : List Bytes := ((allowed setting lines).filter (Marked ·)).map List.dropLast

structure Follows (curMode : Bytes) : Prop where
  saved : Listed setting lines curMode → getSupportedResolution setting lines curMode = curMode
  other : ¬Listed setting lines curMode → Chosen setting lines (table setting) (getSupportedResolution setting lines curMode)
  best : Chosen setting lines (bestCandidates setting lines) (getBestMatchResolution setting lines)
  highest : Chosen setting lines (table setting) (getHighestMatchResolution setting lines)

-- The last entry of the table that occurs somewhere in an allowed line.
def LastOccurring (mode : Bytes) : Prop :=
  ∃ before after, table setting = before ++ mode :: after ∧ Occurs setting lines mode ∧
    ∀ later ∈ after, ¬Occurs setting lines later

def FirstStarred (line : Bytes) : Prop :=
  ∃ before after, allowed setting lines = before ++ line :: after ∧ star ∈ line ∧ ∀ earlier ∈ before, star ∉ earlier

-- The lines up to the last one that is not empty.
def shown : List Bytes := (allowed setting lines).rdropWhile (· = [])

structure Settled (curMode : Bytes) : Prop where
  highest : ∀ mode, LastOccurring setting lines mode → Chosen setting lines (table setting) mode
  best : ∀ line, FirstStarred setting lines line → Chosen setting lines (bestCandidates setting lines) line.dropLast
  saved : Listed setting lines curMode → curMode ∉ shown setting lines → LastOccurring setting lines curMode ∨
    (∀ mode ∈ table setting, ¬Occurs setting lines mode) ∧ curMode = setting.bestOutputMode
  marked : ¬Listed setting lines curMode → curMode ∈ allowed setting lines →
    curMode = setting.bestOutputMode ∧ ∀ mode ∈ table setting, ¬Listed setting lines mode

theorem read_support_list_eq : readSupportList setting lines = joined comma (allowed setting lines) := by
  induction lines with
  | nil => rfl
  | cons str rest ih =>
      rw [readSupportList, allowed, List.filter_cons]
      by_cases skip : skipped setting str = true
      · rw [if_pos skip, ih, skip]
        rfl
      · rw [if_neg skip, ih, Bool.eq_false_iff.mpr skip]
        rfl

theorem split_joined (pieces : List Bytes) (plain : ∀ piece ∈ pieces, comma ∉ piece) (some : ∃ piece ∈ pieces, piece ≠ []) :
    split (joined comma pieces).dropLast = pieces.rdropWhile (· = []) := by
  obtain ⟨piece, member, nonempty⟩ := some
  rw [joined_drop_last, split]
  by_cases more : comma ∈ [comma].intercalate pieces
  · rw [if_pos more, List.splitOn_intercalate comma plain (List.ne_nil_of_mem member)]
  · rw [if_neg more]
    cases pieces with
    | nil => cases member
    | cons first rest =>
        cases rest with
        | nil =>
            rw [List.mem_singleton.mp member] at nonempty
            rw [List.intercalate_singleton, List.rdropWhile_singleton, if_neg (by rw [decide_eq_true_eq]; exact nonempty)]
        | cons second rest =>
            rw [List.intercalate_cons_cons] at more
            exact absurd (List.mem_append_left _ (List.mem_append_right _ List.mem_cons_self)) more

theorem table_plain : ∀ mode ∈ table setting, comma ∉ mode ∧ mode ≠ [] := by
  rw [table]
  split <;> decide

theorem value_contains_iff (mode : Bytes) (plain : comma ∉ mode) (nonempty : mode ≠ []) :
    contains (readSupportList setting lines) mode = true ↔ Occurs setting lines mode := by
  rw [read_support_list_eq, contains_iff, infix_joined comma mode _ plain nonempty]
  exact exists_congr fun line => and_congr_right fun _ => (contains_iff line mode).symm

theorem listed_occurs (mode : Bytes) (listed : Listed setting lines mode) : Occurs setting lines mode := by
  obtain ⟨line, member, rfl⟩ := listed
  exact ⟨line, member, (contains_iff _ _).mpr (unmarked_begins star line).isInfix⟩

theorem find_reverse_iff {Item : Type} (items : List Item) (test : Item → Bool) (item : Item) :
    items.reverse.find? test = some item ↔
      ∃ before after, items = before ++ item :: after ∧ test item = true ∧ ∀ later ∈ after, ¬test later = true := by
  rw [List.find?_eq_some_iff_append]
  constructor
  · rintro ⟨holds, front, back, split, none⟩
    refine ⟨back.reverse, front.reverse, ?_, holds, fun later member => ?_⟩
    · rw [← List.reverse_reverse items, split]
      simp
    · have false := none later (List.mem_reverse.mp member)
      simpa using false
  · rintro ⟨before, after, rfl, holds, none⟩
    refine ⟨holds, after.reverse, before.reverse, by simp, fun later member => ?_⟩
    have false := none later (List.mem_reverse.mp member)
    simpa using false

theorem last_occurring_iff (mode : Bytes) :
    (table setting).reverse.find? (contains (readSupportList setting lines) ·) = some mode ↔ LastOccurring setting lines mode := by
  rw [find_reverse_iff]
  refine exists_congr fun before => exists_congr fun after => and_congr_right fun split => ?_
  have plain := table_plain setting
  rw [split] at plain
  have here := plain mode (List.mem_append_right _ List.mem_cons_self)
  rw [value_contains_iff setting lines mode here.1 here.2]
  refine and_congr_right fun _ => forall₂_congr fun later member => not_congr ?_
  have behind := plain later (List.mem_append_right _ (List.mem_cons_of_mem _ member))
  exact value_contains_iff setting lines later behind.1 behind.2

theorem none_occurring_iff :
    (table setting).reverse.find? (contains (readSupportList setting lines) ·) = none ↔
      ∀ mode ∈ table setting, ¬Occurs setting lines mode := by
  rw [List.find?_eq_none]
  have plain := table_plain setting
  constructor
  · intro none mode member occurs
    exact none mode (List.mem_reverse.mpr member) ((value_contains_iff setting lines mode (plain mode member).1 (plain mode member).2).mpr occurs)
  · intro none mode member found
    have inside := List.mem_reverse.mp member
    exact none mode inside ((value_contains_iff setting lines mode (plain mode inside).1 (plain mode inside).2).mp found)

-- What getHighestMatchResolution gives.
theorem highest_iff (mode : Bytes) :
    getHighestMatchResolution setting lines = mode ↔ LastOccurring setting lines mode ∨
      (∀ mode ∈ table setting, ¬Occurs setting lines mode) ∧ mode = setting.bestOutputMode := by
  rw [getHighestMatchResolution]
  cases found : (table setting).reverse.find? (contains (readSupportList setting lines) ·) with
  | none =>
      have none := (none_occurring_iff setting lines).mp found
      constructor
      · exact fun same => Or.inr ⟨none, same.symm⟩
      · rintro (last | ⟨_, same⟩)
        · exact absurd (found.symm.trans ((last_occurring_iff setting lines mode).mpr last)).symm (Option.some_ne_none _)
        · exact same.symm
  | some first =>
      have last := (last_occurring_iff setting lines first).mp found
      constructor
      · rintro rfl
        exact Or.inl last
      · rintro (same | ⟨none, _⟩)
        · exact Option.some.inj (found.symm.trans ((last_occurring_iff setting lines mode).mpr same))
        · exact absurd (found.symm.trans ((none_occurring_iff setting lines).mpr none)) (Option.some_ne_none _)

def keywords : List Bytes := [hdmi480, hdmi576, hdmi720, hdmi1080, hdmi4k2k, hdmiSmpte]

theorem has_mode_iff (value : Bytes) : hasMode value = true ↔ ∃ keyword ∈ keywords, contains value keyword = true := by
  simp only [hasMode, keywords, Bool.or_eq_true, List.mem_cons, List.not_mem_nil, or_false, exists_eq_or_imp, exists_eq_left, or_assoc]

theorem keywords_plain : ∀ keyword ∈ keywords, comma ∉ keyword ∧ keyword ≠ [] := by
  decide

theorem shown_append : shown setting lines ++ (allowed setting lines).rtakeWhile (· = []) = allowed setting lines :=
  List.rdropWhile_append_rtakeWhile

theorem shown_member (line : Bytes) (nonempty : line ≠ []) : line ∈ shown setting lines ↔ line ∈ allowed setting lines := by
  constructor
  · exact fun member => (List.rdropWhile_prefix _ _).subset member
  · intro member
    rw [← shown_append] at member
    rcases List.mem_append.mp member with front | back
    · exact front
    · exact absurd (by simpa using List.mem_rtakeWhile_imp back) nonempty

theorem shown_starred : (shown setting lines).find? (star ∈ ·) = (allowed setting lines).find? (star ∈ ·) := by
  have behind : ((allowed setting lines).rtakeWhile (· = [])).find? (star ∈ ·) = none := by
    rw [List.find?_eq_none]
    intro line member
    have empty : line = [] := by simpa using List.mem_rtakeWhile_imp member
    rw [empty]
    decide
  have whole := congrArg (List.find? (star ∈ ·)) (shown_append setting lines)
  rw [List.find?_append, behind, Option.or_none] at whole
  exact whole

theorem first_starred_iff (line : Bytes) :
    (allowed setting lines).find? (star ∈ ·) = some line ↔ FirstStarred setting lines line := by
  rw [List.find?_eq_some_iff_append]
  constructor
  · rintro ⟨starred, before, after, split, none⟩
    exact ⟨before, after, split, of_decide_eq_true starred, fun earlier member => by simpa using none earlier member⟩
  · rintro ⟨before, after, split, starred, none⟩
    exact ⟨decide_eq_true starred, before, after, split, fun earlier member => by simpa using none earlier member⟩

theorem marked_starred (line : Bytes) (marked : Marked line) : star ∈ line := List.mem_of_getLast? marked

theorem default_chosen (none : ∀ mode ∈ table setting, ¬Occurs setting lines mode) :
    Chosen setting lines (table setting) setting.bestOutputMode :=
  Or.inr ⟨rfl, fun mode member listed => none mode member (listed_occurs setting lines mode listed)⟩

section
variable (plain : ∀ line ∈ lines, comma ∉ line) (known : ∃ line ∈ allowed setting lines, hasMode line = true)
include plain known

theorem support_list_eq : supportList (readSupportList setting lines) = some (shown setting lines) := by
  obtain ⟨line, member, mode⟩ := known
  obtain ⟨keyword, among, inside⟩ := (has_mode_iff line).mp mode
  have whole : hasMode (readSupportList setting lines) = true := by
    obtain ⟨absent, nonempty⟩ := keywords_plain keyword among
    exact (has_mode_iff _).mpr ⟨keyword, among, (value_contains_iff setting lines keyword absent nonempty).mpr ⟨line, member, inside⟩⟩
  have nonempty : line ≠ [] := by
    rintro rfl
    exact absurd mode (by decide)
  have pieces : ∀ piece ∈ allowed setting lines, comma ∉ piece := fun piece among => plain piece (List.mem_of_mem_filter among)
  rw [supportList, if_pos whole, read_support_list_eq, split_joined _ pieces ⟨line, member, nonempty⟩, shown]

theorem supported_eq (curMode : Bytes) :
    getSupportedResolution setting lines curMode =
      if curMode ∈ shown setting lines then curMode else getHighestMatchResolution setting lines := by
  rw [getSupportedResolution, support_list_eq setting lines plain known]
  rfl

theorem best_eq :
    getBestMatchResolution setting lines =
      (((allowed setting lines).find? (star ∈ ·)).map List.dropLast).getD setting.bestOutputMode := by
  rw [getBestMatchResolution, support_list_eq setting lines plain known]
  simp only [shown_starred]

theorem follows_iff (curMode : Bytes) : Follows setting lines curMode ↔ Settled setting lines curMode := by
  have supported := supported_eq setting lines plain known curMode
  have best := best_eq setting lines plain known
  constructor
  · rintro ⟨saved, other, bestChosen, highestChosen⟩
    constructor
    · intro mode last
      rw [(highest_iff setting lines mode).mpr (Or.inl last)] at highestChosen
      exact highestChosen
    · intro line first
      rw [best, (first_starred_iff setting lines line).mpr first] at bestChosen
      exact bestChosen
    · intro listed absent
      have same := saved listed
      rw [supported, if_neg absent] at same
      exact (highest_iff setting lines curMode).mp same
    · intro unlisted member
      have nonempty : curMode ≠ [] := by
        rintro rfl
        exact unlisted ⟨[], member, rfl⟩
      have chosen := other unlisted
      rw [supported, if_pos ((shown_member setting lines curMode nonempty).mpr member)] at chosen
      exact chosen.resolve_left unlisted
  · intro settled
    have highest : Chosen setting lines (table setting) (getHighestMatchResolution setting lines) := by
      rcases (highest_iff setting lines _).mp rfl with last | ⟨none, same⟩
      · exact settled.highest _ last
      · rw [same]
        exact default_chosen setting lines none
    refine ⟨?_, ?_, ?_, highest⟩
    · intro listed
      rw [supported]
      by_cases inside : curMode ∈ shown setting lines
      · exact if_pos inside
      · rw [if_neg inside]
        exact (highest_iff setting lines curMode).mpr (settled.saved listed inside)
    · intro unlisted
      rw [supported]
      by_cases inside : curMode ∈ shown setting lines
      · rw [if_pos inside]
        exact Or.inr (settled.marked unlisted ((List.rdropWhile_prefix _ _).subset inside))
      · rw [if_neg inside]
        exact highest
    · rw [best]
      cases found : (allowed setting lines).find? (star ∈ ·) with
      | some line => exact settled.best line ((first_starred_iff setting lines line).mp found)
      | none =>
          refine Or.inr ⟨rfl, fun candidate member => ?_⟩
          obtain ⟨line, among, _⟩ := List.mem_map.mp member
          obtain ⟨inside, marked⟩ := List.mem_filter.mp among
          have starred := marked_starred line (of_decide_eq_true marked)
          exact absurd (decide_eq_true starred) (List.find?_eq_none.mp found line inside)

end

end

-- 4K is supported, the default is 720p60hz.
def plainSetting : Setting := ⟨true, true, false, mode720p60hz⟩

def twoLines : List Bytes := [mode720p60hz, mode1080p60hz ++ [star]]

theorem two_lines_settled : Settled plainSetting twoLines mode720p60hz :=
  (follows_iff plainSetting twoLines (by decide) ⟨mode720p60hz, by decide, by decide⟩ mode720p60hz).mp
    ⟨fun _ => by decide, fun unlisted => absurd ⟨mode720p60hz, by decide, by decide⟩ unlisted,
      Or.inl ⟨mode1080p60hz ++ [star], by decide, by decide⟩, Or.inl ⟨mode1080p60hz ++ [star], by decide, by decide⟩⟩

-- The saved mode stands in the list with its mark and is not found there, and a longer line
-- passes for the mode that it contains.
theorem marked_mode_lost :
    ¬Follows plainSetting [mode720p60hz ++ [star], mode1080p60hz] mode720p60hz ∧
      ¬Follows plainSetting [mode2160p60hz ++ ascii ['4', '2', '0']] mode720p60hz := by
  constructor
  · intro follows
    have kept := follows.saved ⟨mode720p60hz ++ [star], by decide, by decide⟩
    exact absurd kept (by decide)
  · intro follows
    have taken : getHighestMatchResolution plainSetting [mode2160p60hz ++ ascii ['4', '2', '0']] = mode2160p60hz := by decide
    rcases follows.highest with ⟨line, member, same⟩ | ⟨same, _⟩
    · rw [taken] at same
      cases List.mem_singleton.mp (List.mem_of_mem_filter member)
      exact absurd same (by decide)
    · rw [taken] at same
      exact absurd same (by decide)

end Droidlogic.Display.FrameworkMode
