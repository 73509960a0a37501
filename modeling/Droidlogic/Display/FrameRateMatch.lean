import Droidlogic.Display.FrameRate

set_option autoImplicit false

namespace Droidlogic.Display.FrameRate

open Lib

-- A mode <resolution><rate>hz.
structure CurMode where
  resolution : Bytes
  tens : UInt8
  ones : UInt8
  short : resolution.length ≤ 9
  digits : isDigit tens = true ∧ isDigit ones = true

def CurMode.rate (cur : CurMode) : Bytes := [cur.tens, cur.ones] ++ hz

def CurMode.text (cur : CurMode) : Mode := cur.resolution ++ cur.rate

-- A line of the sink's list. A '*' marks the mode the sink prefers.
structure SinkMode where
  name : Mode
  starred : Bool
  oneLine : 0 ∉ name ∧ 10 ∉ name

def SinkMode.line (mode : SinkMode) : Bytes := mode.name ++ (if mode.starred then [42] else []) ++ [10]

def sinkText (modes : List SinkMode) : Bytes := modes.flatMap SinkMode.line

def Lists (modes : List SinkMode) (mode : Mode) : Prop := mode ∈ modes.map SinkMode.name

-- Durations count 1/96000 of a second.
def nominal (dur : Int) : Int := (96000 + dur / 2) / dur

def paired (rate : Int) : Int :=
  if rate = 24 ∨ rate = 30 then 60
  else if rate = 60 then 30
  else if rate = 25 then 50
  else 25

def rateHz (rate : Int) : Bytes := decimal rate ++ hz

structure Displayable (dur : Int) (cur : CurMode) (modes : List SinkMode) (newMode : Mode) (pulldown : Bool) : Prop where
  listed : newMode ≠ [] → Lists modes newMode
  rated : newMode ≠ [] → ∃ rate ∈ [nominal dur, paired (nominal dur)], newMode = cur.resolution ++ rateHz rate
  pulled : pulldown = true → fractional dur = true ∧
    ∃ rate ∈ [24, 30, 60], (if newMode = [] then cur.text else newMode) = cur.resolution ++ rateHz rate

def MatchesSink (dur : Int) (cur : CurMode) (modes : List SinkMode) : Prop :=
  ∃ newMode pulldown,
    getMatchDurOutputMode dur cur.text frameRateHdmiSwitchForce (sinkText modes) = some (newMode, pulldown) ∧
      Displayable dur cur modes newMode pulldown

-- The first candidate that stands in the text of the list is a mode of the list, not a
-- part of a longer name.
def Chosen (cur : CurMode) (modes : List SinkMode) (first second : Bytes) : Prop :=
  first ≠ cur.rate →
    if contains (sinkText modes) (cur.resolution ++ first) then Lists modes (cur.resolution ++ first)
    else second ≠ cur.rate → contains (sinkText modes) (cur.resolution ++ second) = true →
      Lists modes (cur.resolution ++ second)

-- What the resolution is cut to at a "hz" of its own, p places from its front.
structure CutShort (dur : Int) (cur : CurMode) (modes : List SinkMode) (p : Nat) : Prop where
  inside : 2 ≤ p
  unlisted : ∀ first second, rates dur = some (first, second) →
    contains (sinkText modes) (cur.resolution.take (p - 2) ++ first) = false ∧
      contains (sinkText modes) (cur.resolution.take (p - 2) ++ second) = false
  pulled : fractional dur = true → pulldownMode cur.text = true → pulldownMode cur.rate = true

def Unmistaken (dur : Int) (cur : CurMode) (modes : List SinkMode) : Prop :=
  contains cur.text smpte = true ∨
    (sinkText modes).length < maxStrLen ∧
      match strstr cur.resolution hz with
      | none => ∀ first second, rates dur = some (first, second) → Chosen cur modes first second
      | some p => CutShort dur cur modes p

theorem rates_nominal (dur : Int) (first second : Bytes) (named : rates dur = some (first, second)) :
    first = rateHz (nominal dur) ∧ second = rateHz (paired (nominal dur)) := by
  simp only [rates] at named
  repeat' split at named
  case isTrue known =>
    cases Option.some.inj named
    rcases known with rfl | rfl | rfl <;> decide
  case isFalse.isTrue known =>
    cases Option.some.inj named
    rcases known with rfl | rfl <;> decide
  case isFalse.isFalse.isTrue known =>
    cases Option.some.inj named
    rcases known with rfl | rfl | rfl <;> decide
  case isFalse.isFalse.isFalse.isTrue known =>
    cases Option.some.inj named
    subst known
    decide
  case isFalse.isFalse.isFalse.isFalse.isTrue known =>
    cases Option.some.inj named
    subst known
    decide
  case isFalse.isFalse.isFalse.isFalse.isFalse => cases named

-- The rates of a fractional duration can be pulled down.
theorem rates_fractional (dur : Int) (first second : Bytes) (named : rates dur = some (first, second))
    (fraction : fractional dur = true) : first ∈ [hz24, hz30, hz60] ∧ second ∈ [hz24, hz30, hz60] := by
  have known : dur = frameRateDuration2397 ∨ dur = frameRateDuration2398 ∨ dur = frameRateDuration2997 ∨
      dur = frameRateDuration5992 ∨ dur = frameRateDuration5994 := by
    simpa [fractional, or_assoc] using fraction
  rcases known with rfl | rfl | rfl | rfl | rfl <;> cases Option.some.inj named <;> decide

theorem rates_unknown (dur : Int) (unknown : rates dur = none) : fractional dur = false := by
  refine Bool.eq_false_iff.mpr fun fraction => ?_
  have known : dur = frameRateDuration2397 ∨ dur = frameRateDuration2398 ∨ dur = frameRateDuration2997 ∨
      dur = frameRateDuration5992 ∨ dur = frameRateDuration5994 := by
    simpa [fractional, or_assoc] using fraction
  rcases known with rfl | rfl | rfl | rfl | rfl <;> cases unknown

theorem digit_apart (byte : UInt8) (digit : isDigit byte = true) : byte ≠ 104 ∧ byte ≠ 122 := by
  constructor
  · rintro rfl
    exact absurd digit (by decide)
  · rintro rfl
    exact absurd digit (by decide)

theorem rate_length (cur : CurMode) : cur.rate.length = 4 := rfl

theorem resolution_unchanged (cur : CurMode) (rate : Bytes) : cur.resolution ++ rate = cur.text ↔ rate = cur.rate :=
  List.append_right_inj cur.resolution

theorem pulldown_rates (rate : Bytes) (member : rate ∈ [hz24, hz30, hz60]) :
    ∃ n ∈ [24, 30, 60], rate = rateHz n := by
  rcases List.mem_cons.mp member with rfl | member
  · exact ⟨24, by decide, by decide⟩
  rcases List.mem_cons.mp member with rfl | member
  · exact ⟨30, by decide, by decide⟩
  · rw [List.mem_singleton.mp member]
    exact ⟨60, by decide, by decide⟩

-- The empty list reads as "null edid", which names no rate.
theorem sink_contains (edid front : Bytes) (rate : Bytes) (ends : ∃ digits, rate = digits ++ hz) :
    contains (readSinkEdid edid) (front ++ rate) = contains edid (front ++ rate) := by
  obtain ⟨digits, rfl⟩ := ends
  by_cases empty : edid = []
  · have z : (122 : UInt8) ∈ front ++ (digits ++ hz) := by simp [hz, ascii]
    have nowhere (text : Bytes) (absent : (122 : UInt8) ∉ text) : contains text (front ++ (digits ++ hz)) = false := by
      refine Bool.eq_false_iff.mpr fun inside => absent ?_
      exact ((contains_iff _ _).mp inside).subset z
    rw [readSinkEdid, if_pos empty, nowhere nullEdid (by decide), empty, nowhere [] (by simp)]
  · rw [readSinkEdid, if_neg empty]

section
variable (cur : CurMode)

theorem first_hz (plain : strstr cur.resolution hz = none) : strstr cur.text hz = some (cur.resolution.length + 2) := by
  obtain ⟨tensDigit, onesDigit⟩ := cur.digits
  obtain ⟨tensH, tensZ⟩ := digit_apart cur.tens tensDigit
  obtain ⟨onesH, _⟩ := digit_apart cur.ones onesDigit
  rw [CurMode.text]
  generalize cur.resolution = resolution at plain
  induction resolution with
  | nil => simp [CurMode.rate, strstr, hz, ascii, Ne.symm tensH, Ne.symm onesH]
  | cons head rest ih =>
      rw [strstr] at plain
      split at plain
      · cases plain
      · rename_i away
        have later : strstr rest hz = none := Option.map_eq_none_iff.mp plain
        have still : ¬hz.isPrefixOf (head :: (rest ++ cur.rate)) = true := by
          intro begins
          cases rest with
          | nil => simp [hz, ascii, CurMode.rate, Ne.symm tensZ] at begins
          | cons next rest => exact away (by simpa [hz, ascii] using begins)
        rw [List.cons_append, strstr, if_neg still, ih later]
        rfl

-- Without a "hz" in the resolution a rate stands at the end of the mode or nowhere.
theorem contained_rate (plain : strstr cur.resolution hz = none) (first second : UInt8)
    (inside : contains cur.text ([first, second] ++ hz) = true) : [first, second] ++ hz = cur.rate := by
  obtain ⟨before, after, whole⟩ := (contains_iff _ _).mp inside
  have split : cur.text = (before ++ [first, second]) ++ (hz ++ after) := by
    rw [← whole]
    simp
  have place := strstr_first cur.text _ after hz _ (first_hz cur plain) split
  have lengths := congrArg List.length whole
  simp only [CurMode.text, List.length_append, List.length_cons, List.length_nil, rate_length] at place lengths
  have hzLength : hz.length = 2 := rfl
  have atEnd : after = [] := List.length_eq_zero_iff.mp (by omega)
  rw [atEnd, List.append_nil] at whole
  exact (List.append_inj whole (by omega)).2

theorem pulldown_rate (plain : strstr cur.resolution hz = none) (pulls : pulldownMode cur.text = true) :
    cur.rate ∈ [hz24, hz30, hz60] := by
  simp only [pulldownMode, Bool.or_eq_true] at pulls
  rcases pulls with (is24 | is30) | is60
  · rw [← contained_rate cur plain 50 52 is24]
    exact .head _
  · rw [← contained_rate cur plain 51 48 is30]
    exact .tail _ (.head _)
  · rw [← contained_rate cur plain 54 48 is60]
    exact .tail _ (.tail _ (.head _))

theorem rate_pulldown : pulldownMode cur.rate = true ↔ cur.rate ∈ [hz24, hz30, hz60] := by
  have whole (rate : Bytes) (sized : rate.length = 4) : contains cur.rate rate = true ↔ cur.rate = rate := by
    rw [contains_iff]
    constructor
    · exact fun inside => (inside.eq_of_length (sized.trans (rate_length cur).symm)).symm
    · rintro rfl
      exact List.infix_refl _
  simp only [pulldownMode, Bool.or_eq_true, whole hz24 rfl, whole hz30 rfl, whole hz60 rfl, List.mem_cons, or_assoc,
    List.not_mem_nil, or_false]

theorem text_length : cur.text.length = cur.resolution.length + 4 := by
  rw [CurMode.text, List.length_append, rate_length]

theorem rate_ends (dur : Int) (first second : Bytes) (named : rates dur = some (first, second)) :
    (∃ digits, first = digits ++ hz) ∧ ∃ digits, second = digits ++ hz := by
  obtain ⟨firstIs, secondIs⟩ := rates_nominal dur first second named
  exact ⟨⟨_, firstIs⟩, ⟨_, secondIs⟩⟩

theorem rate_four (dur : Int) (first second : Bytes) (named : rates dur = some (first, second)) :
    first.length = 4 ∧ second.length = 4 := by
  obtain ⟨firstKnown, secondKnown⟩ := rates_known dur first second named
  have four : ∀ rate ∈ [hz24, hz25, hz30, hz50, hz60], rate.length = 4 := by decide
  exact ⟨four first firstKnown, four second secondKnown⟩

variable (dur : Int) (modes : List SinkMode)

theorem matches_some (result : Mode × Bool)
    (matched : getMatchDurOutputMode dur cur.text frameRateHdmiSwitchForce (sinkText modes) = some result) :
    MatchesSink dur cur modes ↔ Displayable dur cur modes result.1 result.2 := by
  rw [MatchesSink, matched]
  constructor
  · rintro ⟨newMode, pulldown, same, displayable⟩
    cases same
    exact displayable
  · exact fun displayable => ⟨result.1, result.2, rfl, displayable⟩

theorem displayable_kept (pulldown : Bool)
    (pulls : pulldown = true → fractional dur = true ∧ cur.rate ∈ [hz24, hz30, hz60]) :
    Displayable dur cur modes [] pulldown where
  listed := fun other => absurd rfl other
  rated := fun other => absurd rfl other
  pulled := by
    intro down
    obtain ⟨fraction, member⟩ := pulls down
    obtain ⟨n, known, rate⟩ := pulldown_rates cur.rate member
    refine ⟨fraction, n, known, ?_⟩
    rw [if_pos rfl, CurMode.text, rate]

theorem rate_nonempty (resolution rate : Bytes) (four : rate.length = 4) : resolution ++ rate ≠ [] := by
  intro empty
  have noBytes := congrArg List.length empty
  rw [List.length_append, List.length_nil, four] at noBytes
  omega

theorem displayable_new (first second rate : Bytes) (named : rates dur = some (first, second))
    (one : rate = first ∨ rate = second) :
    Displayable dur cur modes (cur.resolution ++ rate) (fractional dur) ↔ Lists modes (cur.resolution ++ rate) := by
  obtain ⟨firstIs, secondIs⟩ := rates_nominal dur first second named
  have nonempty : cur.resolution ++ rate ≠ [] := by
    obtain ⟨firstFour, secondFour⟩ := rate_four dur first second named
    rcases one with rfl | rfl
    · exact rate_nonempty _ _ firstFour
    · exact rate_nonempty _ _ secondFour
  refine ⟨fun displayable => displayable.listed nonempty, fun listed => ⟨fun _ => listed, fun _ => ?_, fun fraction => ?_⟩⟩
  · rcases one with rfl | rfl
    · exact ⟨_, .head _, by rw [firstIs]⟩
    · exact ⟨_, .tail _ (.head _), by rw [secondIs]⟩
  · obtain ⟨firstPulls, secondPulls⟩ := rates_fractional dur first second named fraction
    obtain ⟨n, known, rateIs⟩ := pulldown_rates rate (by rcases one with rfl | rfl <;> assumption)
    exact ⟨fraction, n, known, by rw [if_neg nonempty, rateIs]⟩

theorem cut_shorter (p : Nat) (low : 2 ≤ p) (inside : p + 2 ≤ cur.resolution.length) (rate : Bytes) (four : rate.length = 4) :
    (cur.resolution.take (p - 2) ++ rate).length < cur.resolution.length + 4 := by
  rw [List.length_append, List.length_take]
  omega

theorem cut_apart (p : Nat) (low : 2 ≤ p) (inside : p + 2 ≤ cur.resolution.length) (rate : Bytes) (four : rate.length = 4) :
    cur.resolution.take (p - 2) ++ rate ≠ cur.text := by
  intro same
  have length := cut_shorter cur p low inside rate four
  rw [same, text_length] at length
  exact Nat.lt_irrefl _ length

-- A mode of the shorter resolution is not one of the resolution.
theorem cut_misread (p : Nat) (low : 2 ≤ p) (inside : p + 2 ≤ cur.resolution.length) (first second rate : Bytes)
    (named : rates dur = some (first, second)) (four : rate.length = 4) :
    ¬Displayable dur cur modes (cur.resolution.take (p - 2) ++ rate) (fractional dur) := by
  intro displayable
  obtain ⟨n, known, same⟩ := displayable.rated (rate_nonempty _ _ four)
  obtain ⟨firstIs, secondIs⟩ := rates_nominal dur first second named
  obtain ⟨firstFour, secondFour⟩ := rate_four dur first second named
  have length : (rateHz n).length = 4 := by
    rcases List.mem_cons.mp known with rfl | known
    · rw [← firstIs, firstFour]
    · rw [List.mem_singleton.mp known, ← secondIs, secondFour]
  have less := cut_shorter cur p low inside rate four
  rw [same, List.length_append, length] at less
  exact Nat.lt_irrefl _ less

variable (other : contains cur.text smpte = false) (fits : (sinkText modes).length < maxStrLen)
include other fits

theorem switch_at (p : Nat) (found : strstr cur.text hz = some p) (low : 2 ≤ p) (high : p < 12) :
    getMatchDurOutputMode dur cur.text frameRateHdmiSwitchForce (sinkText modes) =
      match rates dur with
      | some (first, second) =>
          some (chooseMode (cur.text.take (p - 2) ++ first) (cur.text.take (p - 2) ++ second) cur.text
            (readSinkEdid (sinkText modes)) (fractional dur))
      | none => some (chooseMode [] [] cur.text (readSinkEdid (sinkText modes)) (fractional dur)) := by
  rw [getMatchDurOutputMode, if_neg (by rw [other]; decide), if_neg (by decide), if_pos rfl, switchForce,
    if_neg (Nat.not_le.mpr fits), found]
  have inside : ¬(p < 2 ∨ 12 ≤ p) := by omega
  cases rates dur with
  | none => exact if_neg inside
  | some pair => exact if_neg inside

-- Without rates both candidates are empty, and the empty text is in every list.
theorem unknown_matches (p : Nat) (found : strstr cur.text hz = some p) (low : 2 ≤ p) (high : p < 12)
    (unknown : rates dur = none) : MatchesSink dur cur modes := by
  have nonempty : ([] : Mode) ≠ cur.text := by
    intro empty
    have length := text_length cur
    rw [← empty, List.length_nil] at length
    omega
  have everywhere : contains (readSinkEdid (sinkText modes)) [] = true :=
    (contains_iff _ _).mpr List.nil_infix
  have chosen := switch_at cur dur modes other fits p found low high
  rw [unknown] at chosen
  simp only [chooseMode, if_neg nonempty, if_pos everywhere] at chosen
  refine (matches_some cur dur modes _ chosen).mpr (displayable_kept cur dur modes _ fun fraction => ?_)
  exact absurd fraction (Bool.eq_false_iff.mp (rates_unknown dur unknown))

theorem plain_matches (plain : strstr cur.resolution hz = none) (first second : Bytes)
    (named : rates dur = some (first, second)) : MatchesSink dur cur modes ↔ Chosen cur modes first second := by
  obtain ⟨firstEnds, secondEnds⟩ := rate_ends dur first second named
  have cut : cur.text.take (cur.resolution.length + 2 - 2) = cur.resolution := by
    rw [Nat.add_sub_cancel, CurMode.text, List.take_left]
  have short := cur.short
  have chosen := switch_at cur dur modes other fits _ (first_hz cur plain) (Nat.le_add_left _ _) (by omega)
  rw [named, cut] at chosen
  dsimp only at chosen
  rw [matches_some cur dur modes _ chosen]
  simp only [chooseMode, resolution_unchanged, sink_contains _ _ _ firstEnds, sink_contains _ _ _ secondEnds, Chosen]
  have keeps (rate : Bytes) (one : rate = first ∨ rate = second) (same : rate = cur.rate) :
      Displayable dur cur modes [] (fractional dur) := by
    refine displayable_kept cur dur modes _ fun fraction => ⟨fraction, ?_⟩
    obtain ⟨firstPulls, secondPulls⟩ := rates_fractional dur first second named fraction
    rw [← same]
    rcases one with rfl | rfl <;> assumption
  by_cases firstSame : first = cur.rate
  · rw [if_pos firstSame]
    exact iff_of_true (keeps first (.inl rfl) firstSame) fun differs => absurd firstSame differs
  rw [if_neg firstSame]
  by_cases firstIn : contains (sinkText modes) (cur.resolution ++ first) = true
  · rw [if_pos firstIn, if_pos firstIn, displayable_new cur dur modes first second first named (.inl rfl)]
    exact ⟨fun listed _ => listed, fun listed => listed firstSame⟩
  rw [if_neg firstIn, if_neg firstIn]
  by_cases secondSame : second = cur.rate
  · rw [if_pos secondSame]
    exact iff_of_true (keeps second (.inr rfl) secondSame) fun _ differs => absurd secondSame differs
  rw [if_neg secondSame]
  by_cases secondIn : contains (sinkText modes) (cur.resolution ++ second) = true
  · rw [if_pos secondIn, displayable_new cur dur modes first second second named (.inr rfl)]
    exact ⟨fun listed _ _ _ => listed, fun listed => listed firstSame secondSame secondIn⟩
  · rw [if_neg secondIn]
    refine iff_of_true ?_ fun _ _ inside => absurd inside secondIn
    by_cases pulls : pulldownMode cur.text = true
    · rw [if_pos pulls]
      exact displayable_kept cur dur modes _ fun fraction => ⟨fraction, pulldown_rate cur plain pulls⟩
    · rw [if_neg pulls]
      exact displayable_kept cur dur modes _ fun never => by cases never

-- With rates the text is cut before the first "hz", and the candidates are modes of what is left.
theorem cut_pair_matches (p : Nat) (found : strstr cur.resolution hz = some p) (low : 2 ≤ p) (first second : Bytes)
    (named : rates dur = some (first, second)) : MatchesSink dur cur modes ↔ CutShort dur cur modes p := by
  have short := cur.short
  have inside : p + 2 ≤ cur.resolution.length := strstr_length _ _ _ found
  obtain ⟨firstEnds, secondEnds⟩ := rate_ends dur first second named
  obtain ⟨firstFour, secondFour⟩ := rate_four dur first second named
  have cut : cur.text.take (p - 2) = cur.resolution.take (p - 2) := by
    rw [CurMode.text, List.take_append_of_le_length (by omega)]
  have chosen := switch_at cur dur modes other fits p (strstr_append _ cur.rate _ _ found) low (by omega)
  rw [named, cut] at chosen
  dsimp only at chosen
  rw [matches_some cur dur modes _ chosen]
  simp only [chooseMode, if_neg (cut_apart cur p low inside first firstFour),
    if_neg (cut_apart cur p low inside second secondFour), sink_contains _ _ _ firstEnds, sink_contains _ _ _ secondEnds]
  by_cases firstIn : contains (sinkText modes) (cur.resolution.take (p - 2) ++ first) = true
  · rw [if_pos firstIn]
    refine iff_of_false (cut_misread cur dur modes p low inside first second first named firstFour) fun short => ?_
    rw [(short.unlisted first second named).1] at firstIn
    cases firstIn
  rw [if_neg firstIn]
  by_cases secondIn : contains (sinkText modes) (cur.resolution.take (p - 2) ++ second) = true
  · rw [if_pos secondIn]
    refine iff_of_false (cut_misread cur dur modes p low inside first second second named secondFour) fun short => ?_
    rw [(short.unlisted first second named).2] at secondIn
    cases secondIn
  rw [if_neg secondIn]
  have unlisted (one two : Bytes) (known : rates dur = some (one, two)) :
      contains (sinkText modes) (cur.resolution.take (p - 2) ++ one) = false ∧
        contains (sinkText modes) (cur.resolution.take (p - 2) ++ two) = false := by
    rw [named] at known
    cases known
    exact ⟨Bool.eq_false_iff.mpr firstIn, Bool.eq_false_iff.mpr secondIn⟩
  by_cases pulls : pulldownMode cur.text = true
  · rw [if_pos pulls]
    constructor
    · intro displayable
      refine ⟨low, unlisted, fun fraction _ => (rate_pulldown cur).mpr ?_⟩
      obtain ⟨_, n, known, same⟩ := displayable.pulled fraction
      rw [if_pos rfl, CurMode.text, List.append_right_inj] at same
      rw [same]
      have three : ∀ n ∈ [24, 30, 60], rateHz n ∈ [hz24, hz30, hz60] := by decide
      exact three n known
    · intro short
      exact displayable_kept cur dur modes _ fun fraction =>
        ⟨fraction, (rate_pulldown cur).mp (short.pulled fraction pulls)⟩
  · rw [if_neg pulls]
    exact iff_of_true (displayable_kept cur dur modes _ fun never => by cases never)
      ⟨low, unlisted, fun _ other => absurd other pulls⟩

theorem cut_matches (p : Nat) (found : strstr cur.resolution hz = some p) :
    MatchesSink dur cur modes ↔ CutShort dur cur modes p := by
  have short := cur.short
  have inside : p + 2 ≤ cur.resolution.length := strstr_length _ _ _ found
  have first_found : strstr cur.text hz = some p := strstr_append _ cur.rate _ _ found
  by_cases low : 2 ≤ p
  · cases named : rates dur with
    | none =>
        refine iff_of_true (unknown_matches cur dur modes other fits p first_found low (by omega) named)
          ⟨low, fun first second known => ?_, fun fraction => ?_⟩
        · rw [named] at known
          cases known
        · exact absurd fraction (Bool.eq_false_iff.mp (rates_unknown dur named))
    | some pair => exact cut_pair_matches cur dur modes other fits p found low pair.1 pair.2 named
  · refine iff_of_false ?_ fun short => low short.inside
    rintro ⟨newMode, pulldown, matched, _⟩
    rw [getMatchDurOutputMode, if_neg (by rw [other]; decide), if_neg (by decide), if_pos rfl, switchForce,
      if_neg (Nat.not_le.mpr fits), first_found] at matched
    dsimp only at matched
    rw [if_pos (.inl (Nat.lt_of_not_le low))] at matched
    cases matched

end

theorem frame_rate_matches_iff (dur : Int) (cur : CurMode) (modes : List SinkMode) :
    MatchesSink dur cur modes ↔ Unmistaken dur cur modes := by
  rw [Unmistaken]
  cases interlaced : contains cur.text smpte with
  | true =>
      refine iff_of_true ?_ (.inl rfl)
      refine (matches_some cur dur modes ([], false) ?_).mpr
        (displayable_kept cur dur modes _ fun never => by cases never)
      rw [getMatchDurOutputMode, if_pos interlaced]
  | false =>
      rw [or_iff_right (by decide)]
      by_cases fits : (sinkText modes).length < maxStrLen
      · rw [and_iff_right fits]
        cases found : strstr cur.resolution hz with
        | some p => exact cut_matches cur dur modes interlaced fits p found
        | none =>
            cases named : rates dur with
            | none =>
                have short := cur.short
                refine iff_of_true ?_ fun first second known => by cases known
                exact unknown_matches cur dur modes interlaced fits _ (first_hz cur found) (Nat.le_add_left _ _)
                  (by omega) named
            | some pair =>
                rw [plain_matches cur dur modes interlaced fits found pair.1 pair.2 named]
                constructor
                · rintro chosen first second ⟨⟩
                  exact chosen
                · exact fun chosen => chosen pair.1 pair.2 rfl
      · refine iff_of_false ?_ fun both => fits both.1
        rintro ⟨newMode, pulldown, matched, _⟩
        rw [getMatchDurOutputMode, if_neg (by rw [interlaced]; decide), if_neg (by decide), if_pos rfl, switchForce,
          if_pos (Nat.le_of_not_lt fits)] at matched
        cases matched

def p2160 : Bytes := ascii ['2', '1', '6', '0', 'p']

def cur2160p30 : CurMode := ⟨p2160, 51, 48, by decide, by decide⟩

-- 60hz only with the 4:2:0 format.
def sink420 : List SinkMode :=
  [⟨p2160 ++ hz30, true, by decide⟩, ⟨p2160 ++ hz60 ++ ascii ['4', '2', '0'], false, by decide⟩]

theorem unlisted_mode_chosen :
    getMatchDurOutputMode frameRateDuration60 cur2160p30.text frameRateHdmiSwitchForce (sinkText sink420) =
        some (p2160 ++ hz60, false) ∧
      ¬Lists sink420 (p2160 ++ hz60) := by
  unfold Lists
  decide +kernel

end Droidlogic.Display.FrameRate
