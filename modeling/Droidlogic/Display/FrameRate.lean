import Droidlogic.Lib.Run
import Droidlogic.Lib.Text

set_option autoImplicit false

namespace Droidlogic.Display.FrameRate

open Lib

abbrev Mode := Bytes

def modeLen : Nat := 64
def maxStrLen : Nat := 4096

def hz : Bytes := ascii ['h', 'z']
def hz24 : Bytes := ascii ['2', '4', 'h', 'z']
def hz25 : Bytes := ascii ['2', '5', 'h', 'z']
def hz30 : Bytes := ascii ['3', '0', 'h', 'z']
def hz50 : Bytes := ascii ['5', '0', 'h', 'z']
def hz60 : Bytes := ascii ['6', '0', 'h', 'z']
def smpte : Bytes := ascii ['s', 'm', 'p', 't', 'e']
def cvbs : Bytes := ascii ['c', 'v', 'b', 's']
def endHint : Bytes := ascii ['e', 'n', 'd', '_', 'h', 'i', 'n', 't']
def nullEdid : Bytes := ascii ['n', 'u', 'l', 'l', ' ', 'e', 'd', 'i', 'd']

def frameRateHdmiOff : Bytes := ascii ['0']
def frameRateHdmiClkPulldown : Bytes := ascii ['1']
def frameRateHdmiSwitchForce : Bytes := ascii ['2']

def frameRateDuration2397 : Int := 4004
def frameRateDuration2398 : Int := 4003
def frameRateDuration24 : Int := 4000
def frameRateDuration25 : Int := 3840
def frameRateDuration2997 : Int := 3203
def frameRateDuration30 : Int := 3200
def frameRateDuration50 : Int := 1920
def frameRateDuration5994 : Int := 1601
def frameRateDuration5992 : Int := 1602
def frameRateDuration60 : Int := 1600

-- A uevent, and the EDID of the sink while it is handled: "" where no read of it returned text.
structure UeventData where
  switchName : Bytes
  edid : Bytes
deriving DecidableEq

structure State where
  display : Mode
  mLastVideoMode : Mode
  autoSwitchFlag : Bool
deriving DecidableEq

def readSinkEdid (edid : Bytes) : Bytes := if edid = [] then nullEdid else edid

def fractional (dur : Int) : Bool :=
  dur = frameRateDuration2397 || dur = frameRateDuration2398 || dur = frameRateDuration2997 ||
    dur = frameRateDuration5992 || dur = frameRateDuration5994

-- The rates of the first and the second mode.
def rates (dur : Int) : Option (Bytes × Bytes) :=
  if dur = frameRateDuration2397 ∨ dur = frameRateDuration2398 ∨ dur = frameRateDuration24 then some (hz24, hz60)
  else if dur = frameRateDuration2997 ∨ dur = frameRateDuration30 then some (hz30, hz60)
  else if dur = frameRateDuration5992 ∨ dur = frameRateDuration5994 ∨ dur = frameRateDuration60 then some (hz60, hz30)
  else if dur = frameRateDuration25 then some (hz25, hz50)
  else if dur = frameRateDuration50 then some (hz50, hz25)
  else none

def pulldownMode (mode : Mode) : Bool := contains mode hz24 || contains mode hz30 || contains mode hz60

def chooseMode (firstMode secondMode curMode sinkEdid : Bytes) (needPulldown : Bool) : Mode × Bool :=
  if firstMode = curMode then ([], needPulldown)
  else if contains sinkEdid firstMode then (firstMode, needPulldown)
  else if secondMode = curMode then ([], needPulldown)
  else if contains sinkEdid secondMode then (secondMode, needPulldown)
  else if pulldownMode curMode then ([], needPulldown)
  else ([], false)

-- none is a copy past resolution[10] or sinkEdid, or from before the mode.
def switchForce (dur : Int) (curMode edid : Bytes) : Option (Mode × Bool) :=
  if maxStrLen ≤ edid.length then none
  else
    match strstr curMode hz with
    | none => some ([], false)
    | some pos =>
        if pos < 2 ∨ 12 ≤ pos then none
        else
          let resolution := curMode.take (pos - 2)
          match rates dur with
          | some (first, second) =>
              some (chooseMode (resolution ++ first) (resolution ++ second) curMode (readSinkEdid edid) (fractional dur))
          | none => some (chooseMode [] [] curMode (readSinkEdid edid) (fractional dur))

-- The new mode, "" for none, and pulldown.
def getMatchDurOutputMode (dur : Int) (curMode frameRateMode edid : Bytes) : Option (Mode × Bool) :=
  if contains curMode smpte then some ([], false)
  else if frameRateMode = frameRateHdmiClkPulldown then some ([], fractional dur && pulldownMode curMode)
  else if frameRateMode = frameRateHdmiSwitchForce then switchForce dur curMode edid
  else some ([], false)

-- The duration is 0 where the name is not a number.
def adaption (framerateMode display : Bytes) (event : UeventData) : Option (Mode × Bool) :=
  let duration := toInt ((scanNumber event.switchName).getD 0)
  if 0 < duration then getMatchDurOutputMode duration display framerateMode event.edid else some ([], false)

def onTxUeventReceived (framerateMode : Bytes) (state : State) (event : UeventData) : Option State :=
  if modeLen ≤ state.display.length then none
  else
    let state := if event.switchName = endHint then { state with autoSwitchFlag := false } else state
    if contains state.display cvbs then some state
    else if framerateMode = frameRateHdmiOff then some state
    else if event.switchName = endHint then
      if state.mLastVideoMode = [] then some state
      else some { state with display := state.mLastVideoMode, mLastVideoMode := [] }
    else
      (adaption framerateMode state.display event).map fun (newMode, pulldown) =>
        if pulldown then
          { display := if newMode = [] then state.display else newMode
            mLastVideoMode := state.display
            autoSwitchFlag := true }
        else if newMode = [] then state
        else { state with display := newMode, mLastVideoMode := state.display }

-- A hint that switches the mode, or pulls its clock down.
def Acts (framerateMode : Bytes) (display : Mode) (event : UeventData) : Prop :=
  contains display cvbs = false ∧ framerateMode ≠ frameRateHdmiOff ∧
    match adaption framerateMode display event with
    | some (newMode, pulldown) => pulldown = true ∨ newMode ≠ []
    | none => False

instance (framerateMode : Bytes) (display : Mode) (event : UeventData) : Decidable (Acts framerateMode display event) :=
  have : Decidable (match adaption framerateMode display event with
    | some (newMode, pulldown) => pulldown = true ∨ newMode ≠ []
    | none => False) :=
    match adaption framerateMode display event with
    | some (newMode, pulldown) => inferInstanceAs (Decidable (pulldown = true ∨ newMode ≠ []))
    | none => inferInstanceAs (Decidable False)
  inferInstanceAs (Decidable (_ ∧ _ ∧ _))

theorem choose_mode_shape (firstMode secondMode curMode sinkEdid : Bytes) (needPulldown : Bool) :
    (chooseMode firstMode secondMode curMode sinkEdid needPulldown).1 ∈ [[], firstMode, secondMode] := by
  simp only [chooseMode]
  repeat' split
  all_goals simp

theorem rates_known (dur : Int) (first second : Bytes) (named : rates dur = some (first, second)) :
    first ∈ [hz24, hz25, hz30, hz50, hz60] ∧ second ∈ [hz24, hz25, hz30, hz50, hz60] := by
  simp only [rates] at named
  repeat' split at named
  all_goals first | (cases Option.some.inj named; decide) | cases named

def AtRate (curMode newMode : Mode) : Prop :=
  ∃ n rate, rate ∈ [hz24, hz25, hz30, hz50, hz60] ∧ newMode = curMode.take n ++ rate

theorem switch_force_shape (dur : Int) (curMode edid newMode : Bytes) (pulldown : Bool)
    (matched : switchForce dur curMode edid = some (newMode, pulldown)) : newMode = [] ∨ AtRate curMode newMode := by
  simp only [switchForce] at matched
  split at matched
  · cases matched
  · split at matched
    · cases matched
      exact .inl rfl
    · split at matched
      · cases matched
      · rename_i pos _ _
        split at matched
        · rename_i first second named
          have shape := choose_mode_shape (curMode.take (pos - 2) ++ first) (curMode.take (pos - 2) ++ second) curMode
            (readSinkEdid edid) (fractional dur)
          simp only [Option.some.inj matched, List.mem_cons, List.not_mem_nil, or_false] at shape
          obtain ⟨firstKnown, secondKnown⟩ := rates_known dur first second named
          rcases shape with empty | isFirst | isSecond
          · exact .inl empty
          · exact .inr ⟨_, first, firstKnown, isFirst⟩
          · exact .inr ⟨_, second, secondKnown, isSecond⟩
        · have shape := choose_mode_shape [] [] curMode (readSinkEdid edid) (fractional dur)
          simp only [Option.some.inj matched, List.mem_cons, List.not_mem_nil, or_false, or_self] at shape
          exact .inl shape

-- A new mode is the current one at another rate.
theorem new_mode_shape (framerateMode display : Bytes) (event : UeventData) (newMode : Mode) (pulldown : Bool)
    (matched : adaption framerateMode display event = some (newMode, pulldown)) :
    newMode = [] ∨ AtRate display newMode := by
  have nothing (flag : Bool) (same : some (([] : Mode), flag) = some (newMode, pulldown)) : newMode = [] := by
    cases same
    rfl
  simp only [adaption, getMatchDurOutputMode] at matched
  repeat' split at matched
  case isTrue.isFalse.isFalse.isTrue => exact switch_force_shape _ _ _ _ _ matched
  all_goals exact .inl (nothing _ matched)

theorem at_rate_cvbs (curMode newMode : Mode) (shape : AtRate curMode newMode) (plain : contains curMode cvbs = false) :
    contains newMode cvbs = false := by
  obtain ⟨n, rate, known, rfl⟩ := shape
  refine Bool.eq_false_iff.mpr fun inside => ?_
  have apart : ∀ rate ∈ [hz24, hz25, hz30, hz50, hz60], (115 : UInt8) ∉ rate := by decide
  have cut := contains_append (curMode.take n) rate (ascii ['c', 'v', 'b']) 115 (apart rate known) inside
  have whole := contains_prefix curMode _ n cut
  exact Bool.eq_false_iff.mp plain whole

theorem display_nonempty (framerateMode display : Bytes) (event : UeventData) (acts : Acts framerateMode display event) :
    display ≠ [] := by
  intro empty
  subst empty
  obtain ⟨_, _, matched⟩ := acts
  split at matched
  · rename_i newMode pulldown named
    have empty : pulldownMode [] = false := by decide
    have nowhere : strstr ([] : Bytes) hz = none := by decide
    simp only [adaption, getMatchDurOutputMode, switchForce, nowhere, empty, Bool.and_false] at named
    repeat' split at named
    all_goals first | (cases Option.some.inj named; simp at matched) | cases named
  · exact matched

theorem hint_acts (framerateMode : Bytes) (state next : State) (event : UeventData) (hint : event.switchName ≠ endHint)
    (acts : Acts framerateMode state.display event) (taken : onTxUeventReceived framerateMode state event = some next) :
    next.mLastVideoMode = state.display ∧ contains next.display cvbs = false := by
  obtain ⟨plain, on, matched⟩ := acts
  simp only [onTxUeventReceived, if_neg hint, plain, Bool.false_eq_true, if_false, if_neg on] at taken
  split at taken
  · cases taken
  · rw [Option.map_eq_some_iff] at taken
    obtain ⟨⟨newMode, pulldown⟩, named, made⟩ := taken
    simp only [named] at matched
    have shape := new_mode_shape framerateMode state.display event newMode pulldown named
    have switched (other : newMode ≠ []) : contains newMode cvbs = false :=
      at_rate_cvbs state.display newMode (shape.resolve_left other) plain
    simp only at made
    by_cases empty : newMode = []
    · have down : pulldown = true := matched.resolve_right fun other => other empty
      rw [if_pos down, if_pos empty] at made
      subst made
      exact ⟨rfl, plain⟩
    · rw [if_neg empty, if_neg empty] at made
      split at made
      · subst made
        exact ⟨rfl, switched empty⟩
      · subst made
        exact ⟨rfl, switched empty⟩

theorem hint_idle (framerateMode : Bytes) (state next : State) (event : UeventData) (hint : event.switchName ≠ endHint)
    (idle : ¬Acts framerateMode state.display event)
    (taken : onTxUeventReceived framerateMode state event = some next) : next = state := by
  simp only [onTxUeventReceived, if_neg hint] at taken
  split at taken
  · cases taken
  · split at taken
    · exact (Option.some.inj taken).symm
    · rename_i plain
      split at taken
      · exact (Option.some.inj taken).symm
      · rename_i on
        rw [Option.map_eq_some_iff] at taken
        obtain ⟨⟨newMode, pulldown⟩, named, made⟩ := taken
        have nothing : ¬(pulldown = true ∨ newMode ≠ []) := by
          intro acted
          refine idle ⟨Bool.eq_false_iff.mpr plain, on, ?_⟩
          rw [named]
          exact acted
        have empty : newMode = [] := not_not.mp fun other => nothing (.inr other)
        simp only [if_neg fun down => nothing (.inl down), if_pos empty] at made
        exact made.symm

theorem end_restores (framerateMode : Bytes) (state next : State) (event : UeventData) (ends : event.switchName = endHint)
    (taken : onTxUeventReceived framerateMode state event = some next) :
    next = { state with autoSwitchFlag := false } ∧
        (state.mLastVideoMode = [] ∨ contains state.display cvbs = true ∨ framerateMode = frameRateHdmiOff) ∨
      next = ⟨state.mLastVideoMode, [], false⟩ ∧ state.mLastVideoMode ≠ [] := by
  simp only [onTxUeventReceived, if_pos ends] at taken
  split at taken
  · cases taken
  · split at taken
    · rename_i cvbsMode
      exact .inl ⟨(Option.some.inj taken).symm, .inr (.inl cvbsMode)⟩
    · split at taken
      · rename_i off
        exact .inl ⟨(Option.some.inj taken).symm, .inr (.inr off)⟩
      · split at taken
        · rename_i empty
          exact .inl ⟨(Option.some.inj taken).symm, .inl empty⟩
        · rename_i saved
          exact .inr ⟨(Option.some.inj taken).symm, saved⟩

-- A run next to what it should restore: the mode shown at the first hint since the last end_hint,
-- and the one that the last hint to act found.
structure Watched where
  state : State
  origin : Option Mode
  found : Option Mode
deriving DecidableEq

def startAt (mode : Mode) : Watched := ⟨⟨mode, [], false⟩, none, none⟩

def watch (framerateMode : Bytes) (w : Watched) (event : UeventData) : Option Watched :=
  (onTxUeventReceived framerateMode w.state event).map fun next =>
    if event.switchName = endHint then ⟨next, none, none⟩
    else
      ⟨next, some (w.origin.getD w.state.display),
        if Acts framerateMode w.state.display event then some w.state.display else w.found⟩

def Restores (w : Watched) (event : UeventData) (next : Watched) : Prop :=
  event.switchName = endHint → ∀ mode, w.origin = some mode → next.state.display = mode

-- The last hint to act, if any did, found the mode that its playback began with.
def Undisturbed (w : Watched) (event : UeventData) (_ : Watched) : Prop :=
  event.switchName = endHint → ∀ mode, w.found = some mode → w.origin = some mode

instance (w : Watched) (event : UeventData) (next : Watched) : Decidable (Restores w event next) :=
  match same : w.origin with
  | none => isTrue fun _ mode other => by simp [same] at other
  | some mode =>
      decidable_of_iff (event.switchName = endHint → next.state.display = mode)
        ⟨fun holds ends other its => Option.some.inj (same.symm.trans its) ▸ holds ends,
          fun holds ends => holds ends mode same⟩

structure Inv (framerateMode : Bytes) (w : Watched) : Prop where
  saved : w.state.mLastVideoMode = w.found.getD []
  found : ∀ mode, w.found = some mode →
    mode ≠ [] ∧ w.origin ≠ none ∧ contains w.state.display cvbs = false ∧ framerateMode ≠ frameRateHdmiOff
  unmoved : w.found = none → ∀ mode, w.origin = some mode → w.state.display = mode

theorem watch_inv (framerateMode : Bytes) (w next : Watched) (event : UeventData) (inv : Inv framerateMode w)
    (taken : watch framerateMode w event = some next) : Inv framerateMode next := by
  rw [watch, Option.map_eq_some_iff] at taken
  obtain ⟨state, handled, made⟩ := taken
  by_cases ends : event.switchName = endHint
  · rw [if_pos ends] at made
    subst made
    refine ⟨?_, fun mode none => (by cases none), fun _ mode none => (by cases none)⟩
    rcases end_restores framerateMode w.state state event ends handled with ⟨kept, why⟩ | ⟨restored, _⟩
    · rw [kept]
      refine inv.saved.trans ?_
      cases found : w.found with
      | none => rfl
      | some mode =>
          obtain ⟨nonempty, _, plain, on⟩ := inv.found mode found
          rcases why with empty | cvbsMode | off
          · rw [inv.saved, found, Option.getD_some] at empty
            exact absurd empty nonempty
          · rw [plain] at cvbsMode
            cases cvbsMode
          · exact absurd off on
    · rw [restored]
      rfl
  · rw [if_neg ends] at made
    subst made
    by_cases acts : Acts framerateMode w.state.display event
    · obtain ⟨saved, plain⟩ := hint_acts framerateMode w.state state event ends acts handled
      rw [if_pos acts]
      refine ⟨saved, fun mode same => ?_, fun none => (by cases none)⟩
      cases Option.some.inj same
      exact ⟨display_nonempty framerateMode _ event acts, by simp, plain, acts.2.1⟩
    · rw [if_neg acts, hint_idle framerateMode w.state state event ends acts handled]
      refine ⟨inv.saved, fun mode same => ?_, fun none mode same => ?_⟩
      · obtain ⟨nonempty, _, plain, on⟩ := inv.found mode same
        exact ⟨nonempty, by simp, plain, on⟩
      · have first := Option.some.inj same
        cases origin : w.origin with
        | none =>
            rw [origin] at first
            exact first
        | some before =>
            rw [origin] at first
            exact (inv.unmoved none before origin).trans first

theorem end_hint_iff (framerateMode : Bytes) (w next : Watched) (event : UeventData) (inv : Inv framerateMode w)
    (taken : watch framerateMode w event = some next) : Restores w event next ↔ Undisturbed w event next := by
  rw [watch, Option.map_eq_some_iff] at taken
  obtain ⟨state, handled, made⟩ := taken
  by_cases ends : event.switchName = endHint
  · rw [if_pos ends] at made
    subst made
    simp only [Restores, Undisturbed, ends, true_imp_iff]
    cases found : w.found with
    | none =>
        have empty : w.state.mLastVideoMode = [] := by rw [inv.saved, found, Option.getD_none]
        rcases end_restores framerateMode w.state state event ends handled with ⟨kept, _⟩ | ⟨_, saved⟩
        · refine ⟨fun _ mode other => (by cases other), fun _ mode origin => ?_⟩
          rw [kept]
          exact inv.unmoved found mode origin
        · exact absurd empty saved
    | some last =>
        obtain ⟨nonempty, started, plain, on⟩ := inv.found last found
        have saved : w.state.mLastVideoMode = last := by rw [inv.saved, found, Option.getD_some]
        rcases end_restores framerateMode w.state state event ends handled with ⟨_, why⟩ | ⟨restored, _⟩
        · rcases why with empty | cvbsMode | off
          · exact absurd (saved.symm.trans empty) nonempty
          · rw [plain] at cvbsMode
            cases cvbsMode
          · exact absurd off on
        · obtain ⟨mode, origin⟩ := Option.ne_none_iff_exists'.mp started
          simp only [restored, saved, origin, Option.some.injEq]
          constructor
          · intro back mode' same
            rw [← same]
            exact (back mode rfl).symm
          · intro same mode' other
            rw [← other]
            exact (same last rfl).symm
  · simp only [Restores, Undisturbed, ends, false_imp_iff]

theorem mode_restored_iff (framerateMode : Bytes) (mode : Mode) (events : List UeventData) :
    Along (watch framerateMode) Restores (startAt mode) events ↔
      Along (watch framerateMode) Undisturbed (startAt mode) events := by
  refine along_iff (watch framerateMode) (Inv framerateMode) Restores Undisturbed ?_ ?_ (startAt mode) events ?_
  · exact fun w event next inv taken _ => watch_inv framerateMode w next event inv taken
  · exact fun w event next inv taken => end_hint_iff framerateMode w next event inv taken
  · exact ⟨rfl, fun _ none => (by cases none), fun _ _ none => (by cases none)⟩

def p1080 : Bytes := ascii ['1', '0', '8', '0', 'p']

def sinkModes : Bytes := p1080 ++ hz60 ++ p1080 ++ hz25 ++ p1080 ++ hz24

def hint (frames : List Char) : UeventData := ⟨ascii frames, sinkModes⟩

-- A second hint within one playback: the mode of the first is what comes back.
theorem second_hint_kept :
    ¬Along (watch frameRateHdmiSwitchForce) Restores (startAt (p1080 ++ hz60))
        [hint ['4', '0', '0', '0'], hint ['3', '8', '4', '0'], ⟨endHint, sinkModes⟩] ∧
      (run (watch frameRateHdmiSwitchForce) (startAt (p1080 ++ hz60))
        [hint ['4', '0', '0', '0'], hint ['3', '8', '4', '0'], ⟨endHint, sinkModes⟩]).map (fun w => w.state.display) =
        some (p1080 ++ hz24) := by
  decide +kernel

-- Pulling down the clock leaves the mode as it is.
structure Steady (mode : Mode) (w : Watched) : Prop where
  display : w.state.display = mode
  saved : w.state.mLastVideoMode = [] ∨ w.state.mLastVideoMode = mode
  origin : ∀ other, w.origin = some other → other = mode

theorem pulldown_no_mode (display : Mode) (event : UeventData) (newMode : Mode) (pulldown : Bool)
    (matched : adaption frameRateHdmiClkPulldown display event = some (newMode, pulldown)) : newMode = [] := by
  simp only [adaption, getMatchDurOutputMode, if_true] at matched
  repeat' split at matched
  all_goals exact (congrArg Prod.fst (Option.some.inj matched)).symm

theorem steady_kept (mode : Mode) (w next : Watched) (event : UeventData) (steady : Steady mode w)
    (taken : watch frameRateHdmiClkPulldown w event = some next) : Steady mode next := by
  rw [watch, Option.map_eq_some_iff] at taken
  obtain ⟨state, handled, made⟩ := taken
  by_cases ends : event.switchName = endHint
  · rw [if_pos ends] at made
    subst made
    refine ⟨?_, ?_, fun _ none => (by cases none)⟩
    · rcases end_restores _ w.state state event ends handled with ⟨kept, _⟩ | ⟨restored, nonempty⟩
      · rw [kept]
        exact steady.display
      · rw [restored]
        exact steady.saved.resolve_left nonempty
    · rcases end_restores _ w.state state event ends handled with ⟨kept, _⟩ | ⟨restored, _⟩
      · rw [kept]
        exact steady.saved
      · rw [restored]
        exact .inl rfl
  · rw [if_neg ends] at made
    have began : w.origin.getD w.state.display = mode := by
      cases origin : w.origin with
      | none => exact steady.display
      | some before => exact steady.origin before origin
    by_cases acts : Acts frameRateHdmiClkPulldown w.state.display event
    · have shown : state.display = w.state.display := by
        obtain ⟨plain, on, _⟩ := acts
        simp only [onTxUeventReceived, if_neg ends, plain, Bool.false_eq_true, if_false, if_neg on] at handled
        split at handled
        · cases handled
        · obtain ⟨⟨newMode, pulldown⟩, named, done⟩ := Option.map_eq_some_iff.mp handled
          have empty := pulldown_no_mode _ event newMode pulldown named
          simp only [if_pos empty] at done
          rw [← done]
          split <;> rfl
      obtain ⟨saved, _⟩ := hint_acts _ w.state state event ends acts handled
      rw [if_pos acts, began] at made
      subst made
      exact ⟨shown.trans steady.display, .inr (saved.trans steady.display), fun other same => (Option.some.inj same).symm⟩
    · rw [if_neg acts, began, hint_idle _ w.state state event ends acts handled] at made
      subst made
      exact ⟨steady.display, steady.saved, fun other same => (Option.some.inj same).symm⟩

theorem clk_pulldown_restores (mode : Mode) (events : List UeventData) :
    Along (watch frameRateHdmiClkPulldown) Restores (startAt mode) events := by
  refine (along_iff (watch frameRateHdmiClkPulldown) (Steady mode) Restores (fun _ _ _ => True) ?_ ?_ _ events ?_).mpr
    (along_each _ _ (fun _ _ _ _ => trivial) _ events)
  · exact fun w event next steady taken _ => steady_kept mode w next event steady taken
  · intro w event next steady taken
    refine ⟨fun _ => trivial, fun _ _ other origin => ?_⟩
    exact (steady_kept mode w next event steady taken).display.trans (steady.origin other origin).symm
  · exact ⟨rfl, .inl rfl, fun _ none => (by cases none)⟩

end Droidlogic.Display.FrameRate
