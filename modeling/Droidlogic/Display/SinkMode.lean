import Droidlogic.Lib.Lines
import Droidlogic.Lib.Text

set_option autoImplicit false

namespace Droidlogic.Display.SinkMode

open Lib

def mode480i : Bytes := ascii ['4', '8', '0', 'i', '6', '0', 'h', 'z']
def mode480p : Bytes := ascii ['4', '8', '0', 'p', '6', '0', 'h', 'z']
def mode480cvbs : Bytes := ascii ['4', '8', '0', 'c', 'v', 'b', 's']
def mode576i : Bytes := ascii ['5', '7', '6', 'i', '5', '0', 'h', 'z']
def mode576p : Bytes := ascii ['5', '7', '6', 'p', '5', '0', 'h', 'z']
def mode576cvbs : Bytes := ascii ['5', '7', '6', 'c', 'v', 'b', 's']
def mode720p : Bytes := ascii ['7', '2', '0', 'p', '6', '0', 'h', 'z']
def mode720p50hz : Bytes := ascii ['7', '2', '0', 'p', '5', '0', 'h', 'z']
def mode1080p24hz : Bytes := ascii ['1', '0', '8', '0', 'p', '2', '4', 'h', 'z']
def mode1080i50hz : Bytes := ascii ['1', '0', '8', '0', 'i', '5', '0', 'h', 'z']
def mode1080p50hz : Bytes := ascii ['1', '0', '8', '0', 'p', '5', '0', 'h', 'z']
def mode1080i : Bytes := ascii ['1', '0', '8', '0', 'i', '6', '0', 'h', 'z']
def mode1080p : Bytes := ascii ['1', '0', '8', '0', 'p', '6', '0', 'h', 'z']
def mode4k2k24hz : Bytes := ascii ['2', '1', '6', '0', 'p', '2', '4', 'h', 'z']
def mode4k2k25hz : Bytes := ascii ['2', '1', '6', '0', 'p', '2', '5', 'h', 'z']
def mode4k2k30hz : Bytes := ascii ['2', '1', '6', '0', 'p', '3', '0', 'h', 'z']
def mode4k2k50hz : Bytes := ascii ['2', '1', '6', '0', 'p', '5', '0', 'h', 'z']
def mode4k2k60hz : Bytes := ascii ['2', '1', '6', '0', 'p', '6', '0', 'h', 'z']
def mode4k2ksmpte : Bytes := ascii ['s', 'm', 'p', 't', 'e', '2', '4', 'h', 'z']
def mode4k2ksmpte30hz : Bytes := ascii ['s', 'm', 'p', 't', 'e', '3', '0', 'h', 'z']
def mode4k2ksmpte50hz : Bytes := ascii ['s', 'm', 'p', 't', 'e', '5', '0', 'h', 'z']
def mode4k2ksmpte60hz : Bytes := ascii ['s', 'm', 'p', 't', 'e', '6', '0', 'h', 'z']
def mode768p : Bytes := ascii ['7', '6', '8', 'p', '6', '0', 'h', 'z']
def modePanel : Bytes := ascii ['p', 'a', 'n', 'e', 'l']
def modePalM : Bytes := ascii ['p', 'a', 'l', '_', 'm']
def modePalN : Bytes := ascii ['p', 'a', 'l', '_', 'n']
def modeNtscM : Bytes := ascii ['n', 't', 's', 'c', '_', 'm']
def mode1024x768p : Bytes := ascii ['1', '0', '2', '4', 'x', '7', '6', '8', 'p', '6', '0', 'h', 'z']
def mode1440x900p : Bytes := ascii ['1', '4', '4', '0', 'x', '9', '0', '0', 'p', '6', '0', 'h', 'z']
def mode640x480p : Bytes := ascii ['6', '4', '0', 'x', '4', '8', '0', 'p', '6', '0', 'h', 'z']
def mode1280x1024p : Bytes := ascii ['1', '2', '8', '0', 'x', '1', '0', '2', '4', 'p', '6', '0', 'h', 'z']
def mode800x600p : Bytes := ascii ['8', '0', '0', 'x', '6', '0', '0', 'p', '6', '0', 'h', 'z']
def mode1680x1050p : Bytes := ascii ['1', '6', '8', '0', 'x', '1', '0', '5', '0', 'p', '6', '0', 'h', 'z']
def mode1024x600p : Bytes := ascii ['1', '0', '2', '4', 'x', '6', '0', '0', 'p', '6', '0', 'h', 'z']
def mode2560x1600p : Bytes := ascii ['2', '5', '6', '0', 'x', '1', '6', '0', '0', 'p', '6', '0', 'h', 'z']
def mode2560x1440p : Bytes := ascii ['2', '5', '6', '0', 'x', '1', '4', '4', '0', 'p', '6', '0', 'h', 'z']
def mode2560x1080p : Bytes := ascii ['2', '5', '6', '0', 'x', '1', '0', '8', '0', 'p', '6', '0', 'h', 'z']
def mode1920x1200p : Bytes := ascii ['1', '9', '2', '0', 'x', '1', '2', '0', '0', 'p', '6', '0', 'h', 'z']
def mode1600x1200p : Bytes := ascii ['1', '6', '0', '0', 'x', '1', '2', '0', '0', 'p', '6', '0', 'h', 'z']
def mode1600x900p : Bytes := ascii ['1', '6', '0', '0', 'x', '9', '0', '0', 'p', '6', '0', 'h', 'z']
def mode1360x768p : Bytes := ascii ['1', '3', '6', '0', 'x', '7', '6', '8', 'p', '6', '0', 'h', 'z']
def mode1280x800p : Bytes := ascii ['1', '2', '8', '0', 'x', '8', '0', '0', 'p', '6', '0', 'h', 'z']
def mode480x320p : Bytes := ascii ['4', '8', '0', 'x', '3', '2', '0', 'p', '6', '0', 'h', 'z']
def mode800x480p : Bytes := ascii ['8', '0', '0', 'x', '4', '8', '0', 'p', '6', '0', 'h', 'z']
def mode1280x480p : Bytes := ascii ['1', '2', '8', '0', 'x', '4', '8', '0', 'p', '6', '0', 'h', 'z']

def displayModeList : List Bytes :=
  [mode480i, mode480p, mode480cvbs, mode576i, mode576p, mode576cvbs, mode720p, mode720p50hz, mode1080p24hz,
    mode1080i50hz, mode1080p50hz, mode1080i, mode1080p, mode4k2k24hz, mode4k2k25hz, mode4k2k30hz, mode4k2k50hz,
    mode4k2k60hz, mode4k2ksmpte, mode4k2ksmpte30hz, mode4k2ksmpte50hz, mode4k2ksmpte60hz, mode768p, modePanel,
    modePalM, modePalN, modeNtscM, mode1024x768p, mode1440x900p, mode640x480p, mode1280x1024p, mode800x600p,
    mode1680x1050p, mode1024x600p, mode2560x1600p, mode2560x1440p, mode2560x1080p, mode1920x1200p, mode1600x1200p,
    mode1600x900p, mode1360x768p, mode1280x800p, mode480x320p, mode800x480p, mode1280x480p]

def modeResolutionFirst : List Bytes :=
  [mode480i, mode576i, mode480p, mode576p, mode720p50hz, mode720p, mode1080p50hz, mode1080p, mode4k2k24hz,
    mode4k2k25hz, mode4k2k30hz, mode4k2k50hz, mode4k2k60hz]

def modeFramerateFirst : List Bytes :=
  [mode480i, mode576i, mode480p, mode576p, mode720p50hz, mode720p, mode4k2k24hz, mode4k2k25hz, mode4k2k30hz,
    mode1080p50hz, mode1080p, mode4k2k50hz, mode4k2k60hz]

def defaultOutputMode : Bytes := mode480p

def modeLen : Nat := 64

-- PROP_SUPPORT_4K, PROP_SUPPORT_OVER_4K30 and PROP_HDMI_FRAMERATE_PRIORITY
structure Platform where
  support4k : Bool
  supportOver4k30 : Bool
  frameratePriority : Bool

def newline : UInt8 := 10

def star : UInt8 := 42

def smpte : Bytes := ascii ['s', 'm', 'p', 't', 'e']

def modeToIndex (mode : Bytes) : Nat := (displayModeList.findIdx? (· = mode)).getD 12

-- DISPLAY_MODE_1024x768P to DISPLAY_MODE_1280x480P
def monitorIndex (index : Nat) : Bool := 27 ≤ index && index ≤ 44

section
variable (platform : Platform)

def resolveResolutionValue (mode : Bytes) : Int :=
  if mode ≠ [] ∧ displayModeList.any (· = mode) then
    let table := if platform.frameratePriority then modeFramerateFirst else modeResolutionFirst
    ((table.findIdx? (· = mode)).map Int.ofNat).getD (-1)
  else -1

-- The mode so far, the line that was read last, and the number of lines.
structure Scan where
  value : Bytes
  tempMode : Bytes
  resolutionNum : Nat

def without4k (line : Bytes) : Bool :=
  !platform.support4k && (contains line (ascii ['2', '1', '6', '0']) || contains line smpte)

def withoutOver4k30 (tempMode : Bytes) : Bool :=
  !platform.supportOver4k30 &&
    (resolveResolutionValue platform tempMode > resolveResolutionValue platform mode4k2k30hz || contains tempMode smpte)

-- none is a line that does not fit tempMode, or the character in front of it.
def scanLine (line : Bytes) (scan : Scan) : Option Scan :=
  if line.length < modeLen then
    if without4k platform line then some ⟨scan.value, line, scan.resolutionNum + 1⟩
    else if line = [] then none
    else
      let tempMode := unmarked star line
      if withoutOver4k30 platform tempMode then some ⟨scan.value, tempMode, scan.resolutionNum + 1⟩
      else if resolveResolutionValue platform tempMode > resolveResolutionValue platform scan.value then
        some ⟨tempMode, tempMode, scan.resolutionNum + 1⟩
      else some ⟨scan.value, tempMode, scan.resolutionNum + 1⟩
  else none

-- while (strlen(startpos) > 0), line after line up to the last newline.
def scanLines : List Bytes → Scan → Option Scan
  | [], scan => some scan
  | line :: rest, scan => (scanLine platform line scan).bind (scanLines rest)

-- The mode that is copied out, with the switch over the one line of the list.
def chosen (scan : Scan) : Bytes :=
  if scan.resolutionNum = 1 ∧ monitorIndex (modeToIndex scan.tempMode) then scan.tempMode else scan.value

def getHighestHdmiMode (edid : Bytes) : Option Bytes :=
  (scanLines platform (terminated newline edid) ⟨defaultOutputMode, [], 0⟩).map chosen

def monitorModes : List Bytes := displayModeList.drop 27

def Allowed (line : Bytes) : Prop :=
  without4k platform line = false ∧ withoutOver4k30 platform (unmarked star line) = false

def SingleMonitor (lines : List Bytes) (mode : Bytes) : Prop :=
  ∃ line, lines = [line] ∧ mode = unmarked star line ∧ mode ∈ monitorModes

structure Highest (lines : List Bytes) (mode : Bytes) : Prop where
  single : ∀ monitor, SingleMonitor lines monitor → mode = monitor
  listed : (∀ monitor, ¬SingleMonitor lines monitor) →
    mode = defaultOutputMode ∨ ∃ line ∈ lines, Allowed platform line ∧ mode = unmarked star line
  most : (∀ monitor, ¬SingleMonitor lines monitor) → ∀ line ∈ lines, Allowed platform line →
    resolveResolutionValue platform (unmarked star line) ≤ resolveResolutionValue platform mode

theorem monitor_index_iff (mode : Bytes) : monitorIndex (modeToIndex mode) = true ↔ mode ∈ monitorModes := by
  have known : ∀ mode ∈ displayModeList, monitorIndex (modeToIndex mode) = decide (mode ∈ monitorModes) := by
    decide +kernel
  by_cases member : mode ∈ displayModeList
  · rw [known mode member, decide_eq_true_eq]
  · have none : displayModeList.findIdx? (· = mode) = none := by
      rw [List.findIdx?_eq_none_iff]
      intro other among
      exact decide_eq_false fun same => member (same ▸ among)
    rw [modeToIndex, none]
    exact iff_of_false (by decide) fun among => member (List.mem_of_mem_drop among)

theorem monitor_supported : ∀ mode ∈ monitorModes,
    (contains mode (ascii ['2', '1', '6', '0']) || contains mode smpte) = false ∧
      (contains (mode ++ [star]) (ascii ['2', '1', '6', '0']) || contains (mode ++ [star]) smpte) = false := by
  decide +kernel

theorem unmarked_cases (line : Bytes) : line = unmarked star line ∨ line = unmarked star line ++ [star] := by
  rw [unmarked]
  split
  · rename_i marked
    exact Or.inr (List.dropLast_append_getLast? star marked).symm
  · exact Or.inl rfl

-- What one line does to the scan.
structure Scanned (line : Bytes) (before after : Scan) : Prop where
  num : after.resolutionNum = before.resolutionNum + 1
  temp : without4k platform line = true ∧ after.tempMode = line ∨
    without4k platform line = false ∧ after.tempMode = unmarked star line
  value : after.value = before.value ∨ Allowed platform line ∧ after.value = unmarked star line
  grows : resolveResolutionValue platform before.value ≤ resolveResolutionValue platform after.value
  most : Allowed platform line →
    resolveResolutionValue platform (unmarked star line) ≤ resolveResolutionValue platform after.value

theorem scan_line_some (line : Bytes) (scan : Scan) (short : line.length < modeLen) (nonempty : line ≠ []) :
    ∃ after, scanLine platform line scan = some after ∧ Scanned platform line scan after := by
  rw [scanLine, if_pos short]
  by_cases no4k : without4k platform line = true
  · rw [if_pos no4k]
    refine ⟨_, rfl, rfl, Or.inl ⟨no4k, rfl⟩, Or.inl rfl, Int.le_refl _, fun allowed => ?_⟩
    exact absurd (allowed.1.symm.trans no4k) Bool.false_ne_true
  · have with4k := Bool.eq_false_iff.mpr no4k
    rw [if_neg no4k, if_neg nonempty]
    by_cases noOver : withoutOver4k30 platform (unmarked star line) = true
    · simp only [if_pos noOver]
      refine ⟨_, rfl, rfl, Or.inr ⟨with4k, rfl⟩, Or.inl rfl, Int.le_refl _, fun allowed => ?_⟩
      exact absurd (allowed.2.symm.trans noOver) Bool.false_ne_true
    · simp only [if_neg noOver]
      by_cases higher : resolveResolutionValue platform (unmarked star line) > resolveResolutionValue platform scan.value
      · simp only [if_pos higher]
        exact ⟨_, rfl, rfl, Or.inr ⟨with4k, rfl⟩, Or.inr ⟨⟨with4k, Bool.eq_false_iff.mpr noOver⟩, rfl⟩, Int.le_of_lt higher,
          fun _ => Int.le_refl _⟩
      · simp only [if_neg higher]
        exact ⟨_, rfl, rfl, Or.inr ⟨with4k, rfl⟩, Or.inl rfl, Int.le_refl _, fun _ => Int.not_lt.mp higher⟩

theorem scan_line_empty (scan : Scan) : scanLine platform [] scan = none := by
  have supported : without4k platform [] = false := by
    rw [without4k]
    cases platform.support4k <;> rfl
  rw [scanLine, if_pos (by decide), supported]
  rfl

theorem scan_lines_some (lines : List Bytes) (scan : Scan) (short : ∀ line ∈ lines, line.length < modeLen)
    (nonempty : ∀ line ∈ lines, line ≠ []) :
    ∃ after, scanLines platform lines scan = some after ∧
      after.resolutionNum = scan.resolutionNum + lines.length ∧
      (after.value = scan.value ∨ ∃ line ∈ lines, Allowed platform line ∧ after.value = unmarked star line) ∧
      resolveResolutionValue platform scan.value ≤ resolveResolutionValue platform after.value ∧
      ∀ line ∈ lines, Allowed platform line →
        resolveResolutionValue platform (unmarked star line) ≤ resolveResolutionValue platform after.value := by
  induction lines generalizing scan with
  | nil => exact ⟨scan, rfl, rfl, Or.inl rfl, Int.le_refl _, fun line member => absurd member List.not_mem_nil⟩
  | cons line rest ih =>
      obtain ⟨next, done, scanned⟩ :=
        scan_line_some platform line scan (short line List.mem_cons_self) (nonempty line List.mem_cons_self)
      obtain ⟨after, finished, num, value, grows, most⟩ := ih next (fun other member => short other (List.mem_cons_of_mem _ member))
        (fun other member => nonempty other (List.mem_cons_of_mem _ member))
      refine ⟨after, ?_, ?_, ?_, Int.le_trans scanned.grows grows, ?_⟩
      · rw [scanLines, done]
        exact finished
      · rw [num, scanned.num, List.length_cons]
        omega
      · rcases value with same | ⟨other, member, allowed, found⟩
        · rcases scanned.value with kept | ⟨allowed, found⟩
          · exact Or.inl (same.trans kept)
          · exact Or.inr ⟨line, List.mem_cons_self, allowed, same.trans found⟩
        · exact Or.inr ⟨other, List.mem_cons_of_mem _ member, allowed, found⟩
      · intro other member allowed
        rcases List.mem_cons.mp member with rfl | later
        · exact Int.le_trans (scanned.most allowed) grows
        · exact most other later allowed

theorem scan_lines_empty (lines : List Bytes) (scan : Scan) (short : ∀ line ∈ lines, line.length < modeLen)
    (empty : [] ∈ lines) : scanLines platform lines scan = none := by
  induction lines generalizing scan with
  | nil => cases empty
  | cons line rest ih =>
      rw [scanLines]
      by_cases here : line = []
      · rw [here, scan_line_empty]
        rfl
      · obtain ⟨next, done, _⟩ := scan_line_some platform line scan (short line List.mem_cons_self) here
        have later := (List.mem_cons.mp empty).resolve_left fun same => here same.symm
        rw [done]
        exact ih next (fun other member => short other (List.mem_cons_of_mem _ member)) later

theorem monitor_not_filtered (line : Bytes) (monitor : unmarked star line ∈ monitorModes) : without4k platform line = false := by
  rw [without4k, Bool.and_eq_false_iff]
  right
  rcases unmarked_cases line with plain | marked
  · rw [plain]
    exact (monitor_supported _ monitor).1
  · rw [marked]
    exact (monitor_supported _ monitor).2

theorem monitor_unmarked (mode : Bytes) (monitor : mode ∈ monitorModes) : unmarked star mode = mode := by
  have all : ∀ mode ∈ monitorModes, unmarked star mode = mode := by decide +kernel
  exact all mode monitor

theorem index_low (index : Option Nat) : -1 ≤ (index.map Int.ofNat).getD (-1) := by
  cases index with
  | none => exact Int.le_refl _
  | some index => exact Int.le_trans (by decide) (Int.natCast_nonneg index)

theorem value_low (mode : Bytes) : -1 ≤ resolveResolutionValue platform mode := by
  rw [resolveResolutionValue]
  split
  · exact index_low _
  · exact Int.le_refl _

theorem monitor_unranked (mode : Bytes) (monitor : mode ∈ monitorModes) : resolveResolutionValue platform mode = -1 := by
  have all : ∀ mode ∈ monitorModes,
      modeFramerateFirst.findIdx? (· = mode) = none ∧ modeResolutionFirst.findIdx? (· = mode) = none := by
    decide +kernel
  obtain ⟨framerate, resolution⟩ := all mode monitor
  rw [resolveResolutionValue]
  split
  · cases platform.frameratePriority
    · simp only [Bool.false_eq_true, if_false, resolution, Option.map_none, Option.getD_none]
    · simp only [if_true, framerate, Option.map_none, Option.getD_none]
  · rfl

theorem scanned_monitor (line : Bytes) (before after : Scan) (scanned : Scanned platform line before after) :
    (monitorIndex (modeToIndex after.tempMode) = true ↔ unmarked star line ∈ monitorModes) ∧
      (unmarked star line ∈ monitorModes → after.tempMode = unmarked star line) := by
  rcases scanned.temp with ⟨no4k, same⟩ | ⟨_, same⟩
  · have filtered : unmarked star line ∉ monitorModes := fun monitor =>
      Bool.false_ne_true ((monitor_not_filtered platform line monitor).symm.trans no4k)
    have other : line ∉ monitorModes := fun monitor => filtered ((monitor_unmarked line monitor).symm ▸ monitor)
    rw [same, monitor_index_iff]
    exact ⟨iff_of_false other filtered, fun monitor => absurd monitor filtered⟩
  · rw [same, monitor_index_iff]
    exact ⟨Iff.rfl, fun _ => rfl⟩

theorem monitor_allowed (line : Bytes) (monitor : unmarked star line ∈ monitorModes) : Allowed platform line := by
  refine ⟨monitor_not_filtered platform line monitor, ?_⟩
  have noSmpte : contains (unmarked star line) smpte = false := (Bool.or_eq_false_iff.mp (monitor_supported _ monitor).1).2
  have low : ¬resolveResolutionValue platform (unmarked star line) > resolveResolutionValue platform mode4k2k30hz := by
    rw [monitor_unranked platform _ monitor]
    exact Int.not_lt.mpr (value_low platform mode4k2k30hz)
  rw [withoutOver4k30, noSmpte, Bool.or_false, decide_eq_false low, Bool.and_false]

theorem chosen_scanned (lines : List Bytes) (scan : Scan) (short : ∀ line ∈ lines, line.length < modeLen)
    (nonempty : ∀ line ∈ lines, line ≠ []) (num : scan.resolutionNum = lines.length)
    (done : scanLines platform lines ⟨defaultOutputMode, [], 0⟩ = some scan) :
    (∀ monitor, SingleMonitor lines monitor → chosen scan = monitor) ∧
      ((∀ monitor, ¬SingleMonitor lines monitor) → chosen scan = scan.value) := by
  by_cases one : ∃ line, lines = [line]
  · obtain ⟨line, rfl⟩ := one
    obtain ⟨after, read, scanned⟩ := scan_line_some platform line ⟨defaultOutputMode, [], 0⟩ (short line List.mem_cons_self)
      (nonempty line List.mem_cons_self)
    rw [scanLines, read] at done
    cases Option.some.inj done
    obtain ⟨index, temp⟩ := scanned_monitor platform line _ _ scanned
    constructor
    · rintro monitor ⟨first, only, rfl, member⟩
      cases List.cons.inj only |>.1
      rw [chosen, if_pos ⟨num, index.mpr member⟩, temp member]
    · intro none
      have absent : ¬monitorIndex (modeToIndex scan.tempMode) = true := fun monitor =>
        none _ ⟨line, rfl, rfl, index.mp monitor⟩
      rw [chosen, if_neg fun both => absent both.2]
  · have several : scan.resolutionNum ≠ 1 := fun single => one (List.length_eq_one_iff.mp (num.symm.trans single))
    constructor
    · rintro monitor ⟨line, only, _⟩
      exact absurd ⟨line, only⟩ one
    · intro _
      rw [chosen, if_neg fun both => several both.1]

theorem highest_scanned (lines : List Bytes) (short : ∀ line ∈ lines, line.length < modeLen) (nonempty : ∀ line ∈ lines, line ≠ []) :
    ∃ scan, scanLines platform lines ⟨defaultOutputMode, [], 0⟩ = some scan ∧
      Highest platform lines (chosen scan) ∧
      ((∀ monitor, ¬SingleMonitor lines monitor) →
        resolveResolutionValue platform defaultOutputMode ≤ resolveResolutionValue platform (chosen scan)) := by
  obtain ⟨scan, done, num, value, grows, most⟩ := scan_lines_some platform lines ⟨defaultOutputMode, [], 0⟩ short nonempty
  obtain ⟨single, otherwise⟩ := chosen_scanned platform lines scan short nonempty (num.trans (Nat.zero_add _)) done
  refine ⟨scan, done, ⟨single, fun none => ?_, fun none => ?_⟩, fun none => ?_⟩
  · rw [otherwise none]
    exact value
  · rw [otherwise none]
    exact most
  · rw [otherwise none]
    exact grows

-- A line is ranked no higher than the mode that these lines give.
def Reached (lines : List Bytes) (last : Bytes) : Prop :=
  (∃ line ∈ lines, Allowed platform line ∧
    resolveResolutionValue platform (unmarked star last) ≤ resolveResolutionValue platform (unmarked star line)) ∨
  (∀ monitor, ¬SingleMonitor lines monitor) ∧
    resolveResolutionValue platform (unmarked star last) ≤ resolveResolutionValue platform defaultOutputMode

-- A last line without a newline is not read: the mode is the highest where that line adds nothing.
structure Readable (edid : Bytes) : Prop where
  nonempty : ∀ line ∈ terminated newline edid, line ≠ []
  monitor : terminated newline edid = [] → unmarked star (unfinished newline edid) ∉ monitorModes
  last : unfinished newline edid ≠ [] → Allowed platform (unfinished newline edid) →
    Reached platform (terminated newline edid) (unfinished newline edid)

theorem single_last (lines : List Bytes) (last monitor : Bytes) :
    SingleMonitor (lines ++ [last]) monitor ↔ lines = [] ∧ monitor = unmarked star last ∧ monitor ∈ monitorModes := by
  constructor
  · rintro ⟨line, one, same, member⟩
    have none : lines = [] := by
      cases lines with
      | nil => rfl
      | cons first rest => simp at one
    subst none
    cases (List.cons.inj one).1
    exact ⟨rfl, same, member⟩
  · rintro ⟨rfl, same, member⟩
    exact ⟨last, rfl, same, member⟩

theorem single_absent_iff (lines : List Bytes) (last : Bytes) :
    (∀ monitor, ¬SingleMonitor (lines ++ [last]) monitor) ↔ (lines = [] → unmarked star last ∉ monitorModes) := by
  constructor
  · intro none empty member
    exact none _ ((single_last lines last _).mpr ⟨empty, rfl, member⟩)
  · rintro absent monitor single
    obtain ⟨empty, rfl, member⟩ := (single_last lines last monitor).mp single
    exact absent empty member

theorem highest_among (lines : List Bytes) (mode : Bytes) (found : Highest platform lines mode) :
    mode = defaultOutputMode ∧ (∀ monitor, ¬SingleMonitor lines monitor) ∨
      ∃ line ∈ lines, Allowed platform line ∧ mode = unmarked star line := by
  by_cases single : ∃ monitor, SingleMonitor lines monitor
  · obtain ⟨monitor, line, one, same, member⟩ := single
    have chosen := found.single monitor ⟨line, one, same, member⟩
    exact Or.inr ⟨line, one ▸ List.mem_cons_self, monitor_allowed platform line (same ▸ member), chosen.trans same⟩
  · have none := not_exists.mp single
    exact (found.listed none).imp_left fun default => ⟨default, none⟩

theorem highest_above (lines : List Bytes) (mode : Bytes) (found : Highest platform lines mode) :
    ∀ line ∈ lines, Allowed platform line →
      resolveResolutionValue platform (unmarked star line) ≤ resolveResolutionValue platform mode := by
  by_cases single : ∃ monitor, SingleMonitor lines monitor
  · obtain ⟨monitor, line, one, same, member⟩ := single
    have chosen := found.single monitor ⟨line, one, same, member⟩
    intro other inside _
    cases List.mem_singleton.mp (one ▸ inside)
    exact Int.le_of_eq (congrArg _ (same.symm.trans chosen.symm))
  · exact found.most (not_exists.mp single)

theorem highest_last (lines : List Bytes) (last mode : Bytes) (found : Highest platform lines mode)
    (grows : (∀ monitor, ¬SingleMonitor lines monitor) →
      resolveResolutionValue platform defaultOutputMode ≤ resolveResolutionValue platform mode) :
    Highest platform (lines ++ [last]) mode ↔
      (lines = [] → unmarked star last ∉ monitorModes) ∧ (Allowed platform last → Reached platform lines last) := by
  have among := highest_among platform lines mode found
  have only := single_absent_iff lines last
  constructor
  · intro whole
    have absent : lines = [] → unmarked star last ∉ monitorModes := by
      intro empty member
      rcases among with ⟨default, _⟩ | ⟨line, inside, _⟩
      · have monitor := whole.single _ ((single_last lines last _).mpr ⟨empty, rfl, member⟩)
        exact absurd ((monitor.symm.trans default) ▸ member) (by decide +kernel)
      · exact absurd (empty ▸ inside) List.not_mem_nil
    refine ⟨absent, fun allowed => ?_⟩
    have most := whole.most (only.mpr absent) last (List.mem_append_right _ List.mem_cons_self) allowed
    rcases among with ⟨default, none⟩ | ⟨line, inside, allowedLine, same⟩
    · exact Or.inr ⟨none, default ▸ most⟩
    · exact Or.inl ⟨line, inside, allowedLine, same ▸ most⟩
  · rintro ⟨absent, reached⟩
    have none := only.mpr absent
    have above := highest_above platform lines mode found
    refine ⟨fun monitor single => absurd single (none monitor), fun _ => ?_, fun _ line inside allowed => ?_⟩
    · rcases among with ⟨default, _⟩ | ⟨line, inside, allowedLine, same⟩
      · exact Or.inl default
      · exact Or.inr ⟨line, List.mem_append_left _ inside, allowedLine, same⟩
    · rcases List.mem_append.mp inside with early | final
      · exact above line early allowed
      · cases List.mem_singleton.mp final
        rcases reached allowed with ⟨other, early, allowedOther, below⟩ | ⟨plain, below⟩
        · exact Int.le_trans below (above other early allowedOther)
        · exact Int.le_trans below (grows plain)

-- The highest mode of every line of the list, in the buffers: no line is empty, and a last line without a newline is no higher.
theorem highest_mode_iff (edid : Bytes) (short : ∀ line ∈ lines newline edid, line.length < modeLen) :
    (∃ mode, getHighestHdmiMode platform edid = some mode ∧ Highest platform (lines newline edid) mode) ↔
      Readable platform edid := by
  have split := lines_split newline edid
  have shortRead : ∀ line ∈ terminated newline edid, line.length < modeLen := fun line member =>
    short line (split ▸ List.mem_append_left _ member)
  by_cases nonempty : ∀ line ∈ terminated newline edid, line ≠ []
  · obtain ⟨scan, done, found, grows⟩ := highest_scanned platform (terminated newline edid) shortRead nonempty
    have result : getHighestHdmiMode platform edid = some (chosen scan) := by rw [getHighestHdmiMode, done, Option.map_some]
    have exact : (∃ mode, getHighestHdmiMode platform edid = some mode ∧ Highest platform (lines newline edid) mode) ↔
        Highest platform (lines newline edid) (chosen scan) := by
      rw [result]
      constructor
      · rintro ⟨mode, same, highest⟩
        exact Option.some.inj same ▸ highest
      · intro highest
        exact ⟨_, rfl, highest⟩
    rw [exact, split]
    split
    · rename_i whole
      rw [List.append_nil]
      refine iff_of_true found ⟨nonempty, fun _ => ?_, fun more => absurd whole more⟩
      rw [whole]
      decide +kernel
    · rename_i more
      rw [highest_last platform _ _ _ found grows]
      constructor
      · rintro ⟨monitor, last⟩
        exact ⟨nonempty, monitor, fun _ => last⟩
      · intro readable
        exact ⟨readable.monitor, readable.last more⟩
  · refine iff_of_false ?_ fun readable => nonempty readable.nonempty
    rintro ⟨mode, result, _⟩
    have empty : [] ∈ terminated newline edid := by
      by_contra absent
      exact nonempty fun line member same => absent (same ▸ member)
    rw [getHighestHdmiMode, scan_lines_empty platform _ _ shortRead empty] at result
    cases result

end

theorem full_hd_highest :
    ∃ mode, getHighestHdmiMode ⟨true, true, false⟩ (mode720p ++ star :: newline :: mode1080p ++ [newline]) = some mode ∧
      Highest ⟨true, true, false⟩ (lines newline (mode720p ++ star :: newline :: mode1080p ++ [newline])) mode :=
  (highest_mode_iff ⟨true, true, false⟩ (mode720p ++ star :: newline :: mode1080p ++ [newline]) (by decide +kernel)).mpr
    ⟨by decide +kernel, by decide +kernel, fun more => absurd (by decide +kernel) more⟩

theorem blank_line_read :
    ¬∃ mode, getHighestHdmiMode ⟨true, true, false⟩ (mode1080p ++ [newline, newline]) = some mode ∧
      Highest ⟨true, true, false⟩ (lines newline (mode1080p ++ [newline, newline])) mode := by
  rintro ⟨mode, result, _⟩
  have none : getHighestHdmiMode ⟨true, true, false⟩ (mode1080p ++ [newline, newline]) = none := by decide +kernel
  cases none.symm.trans result

end Droidlogic.Display.SinkMode
