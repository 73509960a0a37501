import Droidlogic.Display.BootEnv
import Droidlogic.Lib.Text

set_option autoImplicit false

namespace Droidlogic.Display.Window

open Lib Bootenv

def mode480 : CStr := ⟨ascii ['4', '8', '0'], by decide⟩
def mode480p : CStr := ⟨ascii ['4', '8', '0', 'p'], by decide⟩
def mode480i : CStr := ⟨ascii ['4', '8', '0', 'i'], by decide⟩
def mode576 : CStr := ⟨ascii ['5', '7', '6'], by decide⟩
def mode576p : CStr := ⟨ascii ['5', '7', '6', 'p'], by decide⟩
def mode576i : CStr := ⟨ascii ['5', '7', '6', 'i'], by decide⟩
def mode720p : CStr := ⟨ascii ['7', '2', '0', 'p'], by decide⟩
def mode768p : CStr := ⟨ascii ['7', '6', '8', 'p'], by decide⟩
def mode1080i : CStr := ⟨ascii ['1', '0', '8', '0', 'i'], by decide⟩
def mode1080p : CStr := ⟨ascii ['1', '0', '8', '0', 'p'], by decide⟩
def mode4k2k : CStr := ⟨ascii ['2', '1', '6', '0', 'p'], by decide⟩
def modeSmpte : CStr := ⟨ascii ['s', 'm', 'p', 't', 'e'], by decide⟩
def mode4k2ksmpte : CStr := ⟨ascii ['4', 'k', '2', 'k', 's', 'm', 'p', 't', 'e'], by decide⟩
def mode640x480p : CStr := ⟨ascii ['6', '4', '0', 'x', '4', '8', '0', 'p'], by decide⟩
def mode800x480p : CStr := ⟨ascii ['8', '0', '0', 'x', '4', '8', '0', 'p'], by decide⟩
def mode1024x768p : CStr := ⟨ascii ['1', '0', '2', '4', 'x', '7', '6', '8', 'p'], by decide⟩
def mode1360x768p : CStr := ⟨ascii ['1', '3', '6', '0', 'x', '7', '6', '8', 'p'], by decide⟩

-- A key of the environment, and the size where it holds none.
structure Area where
  keyValue : CStr
  defaultWidth : Int32
  defaultHeight : Int32

def shows (curMode : Bytes) (mode : CStr) : Bool := contains curMode mode.bytes

def vesa : List Area :=
  [⟨mode1024x768p, 1024, 768⟩,
    ⟨⟨ascii ['1', '4', '4', '0', 'x', '9', '0', '0', 'p'], by decide⟩, 1440, 900⟩,
    ⟨mode640x480p, 640, 480⟩,
    ⟨⟨ascii ['1', '2', '8', '0', 'x', '1', '0', '2', '4', 'p'], by decide⟩, 1280, 1024⟩,
    ⟨⟨ascii ['8', '0', '0', 'x', '6', '0', '0', 'p'], by decide⟩, 800, 600⟩,
    ⟨⟨ascii ['1', '6', '8', '0', 'x', '1', '0', '5', '0', 'p'], by decide⟩, 1680, 1050⟩,
    ⟨⟨ascii ['1', '0', '2', '4', 'x', '6', '0', '0', 'p'], by decide⟩, 1024, 600⟩,
    ⟨⟨ascii ['2', '5', '6', '0', 'x', '1', '6', '0', '0', 'p'], by decide⟩, 2560, 1600⟩,
    ⟨⟨ascii ['2', '5', '6', '0', 'x', '1', '4', '4', '0', 'p'], by decide⟩, 2560, 1440⟩,
    ⟨⟨ascii ['2', '5', '6', '0', 'x', '1', '0', '8', '0', 'p'], by decide⟩, 2560, 1080⟩,
    ⟨⟨ascii ['1', '9', '2', '0', 'x', '1', '2', '0', '0', 'p'], by decide⟩, 1920, 1200⟩,
    ⟨⟨ascii ['1', '6', '0', '0', 'x', '1', '2', '0', '0', 'p'], by decide⟩, 1600, 1200⟩,
    ⟨⟨ascii ['1', '6', '0', '0', 'x', '9', '0', '0', 'p'], by decide⟩, 1600, 900⟩,
    ⟨mode1360x768p, 1360, 768⟩,
    ⟨⟨ascii ['1', '2', '8', '0', 'x', '8', '0', '0', 'p'], by decide⟩, 1280, 800⟩,
    ⟨⟨ascii ['4', '8', '0', 'x', '3', '2', '0', 'p'], by decide⟩, 480, 320⟩,
    ⟨mode800x480p, 800, 480⟩,
    ⟨⟨ascii ['1', '2', '8', '0', 'x', '4', '8', '0', 'p'], by decide⟩, 1280, 480⟩]

def uiModes : List (Bytes × Int32 × Int32) :=
  [(ascii ['1', '2', '8', '0', 'x', '7', '2', '0'], 1280, 720),
    (ascii ['1', '9', '2', '0', 'x', '1', '0', '8', '0'], 1920, 1080),
    (ascii ['1', '0', '8', '0', 'x', '1', '9', '2', '0'], 1080, 1920),
    (ascii ['7', '2', '0', 'x', '1', '2', '8', '0'], 720, 1280),
    (ascii ['1', '0', '2', '4', 'x', '7', '6', '8'], 1024, 768),
    (ascii ['7', '6', '8', 'x', '1', '0', '2', '4'], 768, 1024),
    (ascii ['1', '0', '2', '4', 'x', '6', '0', '0'], 1024, 600),
    (ascii ['6', '0', '0', 'x', '1', '0', '2', '4'], 600, 1024),
    (ascii ['1', '2', '8', '0', 'x', '8', '0', '0'], 1280, 800),
    (ascii ['8', '0', '0', 'x', '1', '2', '8', '0'], 800, 1280)]

-- What the build and the properties give: HWC_PRIMARY_FRAMEBUFFER_WIDTH and _HEIGHT, where they are
-- defined, and persist.sys.builtin.ui_mode.
structure Panel where
  hwcPrimaryFramebuffer : Option (Int32 × Int32)
  uiMode : Bytes

def Panel.size (panel : Panel) : Int32 × Int32 :=
  match uiModes.find? fun entry => entry.1.isPrefixOf panel.uiMode with
  | some (_, size) => size
  | none => panel.hwcPrimaryFramebuffer.getD (1024, 600)

-- The tests that getPosition makes from the VESA modes on, and those that setPosition makes there.
def lastArea (panel : Panel) (curMode : Bytes) : Area :=
  match vesa.find? fun area => shows curMode area.keyValue with
  | some area => area
  | none =>
      if shows curMode mode1080p then ⟨mode1080p, 1920, 1080⟩
      else if shows curMode mode4k2k then ⟨mode4k2k, 3840, 2160⟩
      else if shows curMode modeSmpte then ⟨mode4k2ksmpte, 4096, 2160⟩
      else if shows curMode modePanel then ⟨modePanel, panel.size.1, panel.size.2⟩
      else ⟨mode1080p, 1920, 1080⟩

def lastKey (curMode : Bytes) : Option CStr :=
  if shows curMode mode1080p then some mode1080p
  else if shows curMode mode4k2k then some mode4k2k
  else if shows curMode modeSmpte then some mode4k2ksmpte
  else if shows curMode modePanel then none
  else some .empty

def getPositionArea (panel : Panel) (curMode : Bytes) : Area :=
  if shows curMode mode480Cvbs then ⟨mode480Cvbs, 720, 480⟩
  else if shows curMode mode480 && !shows curMode mode640x480p && !shows curMode mode800x480p then
    ⟨if shows curMode mode480p then mode480p else mode480i, 720, 480⟩
  else if shows curMode mode576Cvbs then ⟨mode576Cvbs, 720, 576⟩
  else if shows curMode mode576 then ⟨if shows curMode mode576p then mode576p else mode576i, 720, 576⟩
  else if shows curMode modePalM then ⟨modePalM, 720, 480⟩
  else if shows curMode modePalN then ⟨modePalN, 720, 576⟩
  else if shows curMode modeNtscM then ⟨modeNtscM, 720, 480⟩
  else if shows curMode mode720p then ⟨mode720p, 1280, 720⟩
  else if shows curMode mode768p && !shows curMode mode1024x768p && !shows curMode mode1360x768p then
    ⟨mode768p, 1366, 768⟩
  else if shows curMode mode1080i then ⟨mode1080i, 1920, 1080⟩
  else lastArea panel curMode

-- none is the return for the panel; a mode that no test knows has the key "".
def setPositionKey (curMode : Bytes) : Option CStr :=
  if shows curMode mode480Cvbs then some mode480Cvbs
  else if shows curMode mode480 then some (if shows curMode mode480p then mode480p else mode480i)
  else if shows curMode mode576Cvbs then some mode576Cvbs
  else if shows curMode mode576 then some (if shows curMode mode576p then mode576p else mode576i)
  else if shows curMode modePalM then some modePalM
  else if shows curMode modePalN then some modePalN
  else if shows curMode modeNtscM then some modeNtscM
  else if shows curMode mode720p then some mode720p
  else if shows curMode mode768p then some mode768p
  else if shows curMode mode1080i then some mode1080i
  else lastKey curMode

inductive Side
  | x
  | y
  | w
  | h
deriving DecidableEq

def Side.suffix : Side → CStr
  | .x => ⟨ascii ['_', 'x'], by decide⟩
  | .y => ⟨ascii ['_', 'y'], by decide⟩
  | .w => ⟨ascii ['_', 'w'], by decide⟩
  | .h => ⟨ascii ['_', 'h'], by decide⟩

def envKey (keyValue : CStr) (side : Side) : CStr := keyValue.append side.suffix

structure Position where
  left : Int32
  top : Int32
  width : Int32
  height : Int32
deriving DecidableEq

def Position.at (position : Position) : Side → Int32
  | .x => position.left
  | .y => position.top
  | .w => position.width
  | .h => position.height

theorem decimal_no_nul (value : Int) : (0 : UInt8) ∉ decimal value := by
  intro member
  rcases decimal_bytes value 0 member with digit | minus
  · exact absurd digit (by decide)
  · cases minus

def printed (value : Int32) : CStr := ⟨decimal value.toInt, decimal_no_nul value.toInt⟩

section
variable {device : EnvDevice} (crc32 : Bytes → UInt32)

def getBootenvInt (env : Ubootenv device) (key : CStr) (defaultVal : Int32) : Int32 :=
  match getValue env key with
  | some value => Int32.ofInt (atoi value.bytes)
  | none => defaultVal

def getPosition (panel : Panel) (env : Ubootenv device) (curMode : Bytes) : Position :=
  let area := getPositionArea panel curMode
  { left := getBootenvInt env (nameOf (envKey area.keyValue .x)) 0
    top := getBootenvInt env (nameOf (envKey area.keyValue .y)) 0
    width := getBootenvInt env (nameOf (envKey area.keyValue .w)) area.defaultWidth
    height := getBootenvInt env (nameOf (envKey area.keyValue .h)) area.defaultHeight }

-- outcomes are those of the writes of each of the four variables.
def setPosition (board : Board device) (curMode : Bytes) (position : Position)
    (outcomes : Side → Nat → SaveOutcome device) : Option (Board device) :=
  match setPositionKey curMode with
  | none => some board
  | some keyValue => do
      let board ← setBootEnv crc32 board (nameOf (envKey keyValue .x)) (printed position.left) (outcomes .x)
      let board ← setBootEnv crc32 board (nameOf (envKey keyValue .y)) (printed position.top) (outcomes .y)
      let board ← setBootEnv crc32 board (nameOf (envKey keyValue .w)) (printed position.width) (outcomes .w)
      setBootEnv crc32 board (nameOf (envKey keyValue .h)) (printed position.height) (outcomes .h)

-- The text of a variable of the environment.
def stored (env : Ubootenv device) (keyValue : CStr) (side : Side) : Option CStr :=
  getValue env (nameOf (envKey keyValue side))

theorem env_key_named (keyValue : CStr) (side : Side) : (envKey keyValue side).bytes ≠ [] := by
  cases side <;> simp [envKey, CStr.append, Side.suffix, ascii]

theorem env_key_eq (keyValue other : CStr) (side its : Side) :
    envKey keyValue side = envKey other its ↔ keyValue = other ∧ side = its := by
  constructor
  · intro same
    have bytes := congrArg CStr.bytes same
    have lengths : side.suffix.bytes.length = its.suffix.bytes.length := by
      cases side <;> cases its <;> rfl
    obtain ⟨keys, suffixes⟩ := List.append_inj' bytes lengths
    refine ⟨CStr.ext_bytes _ _ keys, ?_⟩
    cases side <;> cases its <;> first | rfl | exact absurd suffixes (by decide)
  · rintro ⟨rfl, rfl⟩
    rfl

theorem printed_text (value : Int32) : printed value ≠ .empty := by
  intro empty
  have digits := (decimal_digits value.toInt.natAbs).2.2
  have none : decimal value.toInt = [] := congrArg CStr.bytes empty
  simp only [decimal] at none
  split at none
  · cases none
  · exact digits none

theorem printed_value (value : Int32) : Int32.ofInt (atoi (printed value).bytes) = value := by
  rw [printed, atoi_decimal _ value.le_toInt (by have := value.toInt_lt; omega), Int32.ofInt_toInt]

theorem set_env_stored (board next : Board device) (keyValue : CStr) (side : Side) (value : Int32)
    (outcomes : Nat → SaveOutcome device) (done : board.env.mEnvInitDone = true)
    (set : setBootEnv crc32 board (nameOf (envKey keyValue side)) (printed value) outcomes = some next) :
    next.env.mEnvInitDone = true ∧ ∀ other its,
      stored next.env other its =
        if other = keyValue ∧ its = side then some (printed value) else stored board.env other its := by
  obtain ⟨init, written, others⟩ := set_boot_env_cases crc32 board next (envKey keyValue side) (printed value) outcomes
    done (env_key_named keyValue side) set
  refine ⟨init, fun other its => ?_⟩
  by_cases same : other = keyValue ∧ its = side
  · rw [if_pos same, same.1, same.2]
    exact written (printed_text value)
  · rw [if_neg same]
    exact others _ (env_key_named other its) fun equal => same ((env_key_eq other keyValue its side).mp equal)

-- The four variables of the key, and no others.
theorem set_position_stored (board next : Board device) (curMode : Bytes) (keyValue : CStr) (position : Position)
    (outcomes : Side → Nat → SaveOutcome device) (done : board.env.mEnvInitDone = true)
    (key : setPositionKey curMode = some keyValue)
    (set : setPosition crc32 board curMode position outcomes = some next) (other : CStr) (side : Side) :
    stored next.env other side =
      if other = keyValue then some (printed (position.at side)) else stored board.env other side := by
  simp only [setPosition, key, Option.bind_eq_bind, Option.bind_eq_some_iff] at set
  obtain ⟨first, x, second, y, third, w, h⟩ := set
  obtain ⟨init, afterX⟩ := set_env_stored crc32 board first keyValue .x position.left _ done x
  obtain ⟨init, afterY⟩ := set_env_stored crc32 first second keyValue .y position.top _ init y
  obtain ⟨init, afterW⟩ := set_env_stored crc32 second third keyValue .w position.width _ init w
  obtain ⟨_, afterH⟩ := set_env_stored crc32 third next keyValue .h position.height _ init h
  rw [afterH, afterW, afterY, afterX]
  by_cases same : other = keyValue
  · cases side <;> simp [same, Position.at]
  · simp [same]

end

-- The modes that both cascades give the same key.
def Own (curMode : Bytes) : Prop :=
  shows curMode mode480Cvbs = true ∨
    if shows curMode mode480 = true then shows curMode mode640x480p = false ∧ shows curMode mode800x480p = false
    else
      (shows curMode mode576 = true ∨ shows curMode modePalM = true ∨ shows curMode modePalN = true ∨
          shows curMode modeNtscM = true ∨ shows curMode mode720p = true) ∨
        if shows curMode mode768p = true then shows curMode mode1024x768p = false ∧ shows curMode mode1360x768p = false
        else
          shows curMode mode1080i = true ∨
            ((∀ area ∈ vesa, shows curMode area.keyValue = false) ∧
              (shows curMode mode1080p = true ∨ shows curMode mode4k2k = true ∨ shows curMode modeSmpte = true))

theorem vesa_keys : ∀ area ∈ vesa,
    area.keyValue ∉ [mode480p, mode480i, mode768p, mode1080p, mode4k2k, mode4k2ksmpte, .empty] := by
  decide +kernel

theorem last_area_keys (panel : Panel) (curMode : Bytes) :
    (lastArea panel curMode).keyValue ∉ [mode480p, mode480i, mode768p, .empty] := by
  have others : ∀ key ∈ [mode1080p, mode4k2k, mode4k2ksmpte, modePanel],
      key ∉ [mode480p, mode480i, mode768p, .empty] := by
    decide
  rw [lastArea]
  split
  · rename_i area found
    have keys := vesa_keys area (List.mem_of_find?_eq_some found)
    exact fun member => keys (by simp only [List.mem_cons, List.not_mem_nil, or_false] at member ⊢; tauto)
  · repeat' split
    all_goals
      dsimp only
      exact others _ (by decide)

theorem last_key_iff (panel : Panel) (curMode : Bytes) :
    lastKey curMode = some (lastArea panel curMode).keyValue ↔
      (∀ area ∈ vesa, shows curMode area.keyValue = false) ∧
        (shows curMode mode1080p = true ∨ shows curMode mode4k2k = true ∨ shows curMode modeSmpte = true) := by
  have keys : ∀ key, lastKey curMode = some key → key ∈ [mode1080p, mode4k2k, mode4k2ksmpte, .empty] := by
    intro key its
    simp only [lastKey] at its
    repeat' split at its
    all_goals first | (cases Option.some.inj its; decide) | cases its
  cases found : vesa.find? fun area => shows curMode area.keyValue with
  | some area =>
      have member := List.mem_of_find?_eq_some found
      have shown : shows curMode area.keyValue = true := by
        have stopped := List.find?_some found
        exact stopped
      have its : (lastArea panel curMode).keyValue = area.keyValue := by simp only [lastArea, found]
      constructor
      · intro same
        have known := keys _ same
        rw [its] at known
        refine absurd ?_ (vesa_keys area member)
        simp only [List.mem_cons, List.not_mem_nil, or_false] at known ⊢
        tauto
      · intro ⟨absent, _⟩
        rw [absent area member] at shown
        cases shown
  | none =>
      have absent : ∀ area ∈ vesa, shows curMode area.keyValue = false := fun area member =>
        Bool.eq_false_iff.mpr (List.find?_eq_none.mp found area member)
      simp only [lastKey, lastArea, found]
      by_cases hd : shows curMode mode1080p = true
      · simp only [hd, if_true, true_or, and_true, true_iff]
        exact absent
      · by_cases uhd : shows curMode mode4k2k = true
        · simp only [hd, uhd, Bool.false_eq_true, if_true, if_false, true_or, or_true, and_true, true_iff]
          exact absent
        · by_cases smpte : shows curMode modeSmpte = true
          · simp only [hd, uhd, smpte, Bool.false_eq_true, if_true, if_false, or_true, and_true, true_iff]
            exact absent
          · have apart : (CStr.empty = mode1080p) = False := by decide
            by_cases panelMode : shows curMode modePanel = true
            · simp [hd, uhd, smpte, panelMode]
            · simp [hd, uhd, smpte, panelMode, apart]

theorem neither_false (a b : Bool) (one : ¬(a = false ∧ b = false)) : (!a && !b) = false := by
  cases a <;> cases b <;> first | rfl | exact absurd ⟨rfl, rfl⟩ one

-- From the 768 lines on, where two VESA modes are left to their own keys by getPosition only.
theorem key_768 (panel : Panel) (curMode : Bytes) :
    (if shows curMode mode768p then some mode768p
      else if shows curMode mode1080i then some mode1080i
      else lastKey curMode) =
        some (if shows curMode mode768p && !shows curMode mode1024x768p && !shows curMode mode1360x768p then
            ⟨mode768p, 1366, 768⟩
          else if shows curMode mode1080i then ⟨mode1080i, 1920, 1080⟩
          else lastArea panel curMode : Area).keyValue ↔
      if shows curMode mode768p = true then shows curMode mode1024x768p = false ∧ shows curMode mode1360x768p = false
      else
        shows curMode mode1080i = true ∨
          ((∀ area ∈ vesa, shows curMode area.keyValue = false) ∧
            (shows curMode mode1080p = true ∨ shows curMode mode4k2k = true ∨ shows curMode modeSmpte = true)) := by
  have foreign := last_area_keys panel curMode
  simp only [List.mem_cons, List.not_mem_nil, or_false, not_or] at foreign
  by_cases has768 : shows curMode mode768p = true
  · by_cases plain : shows curMode mode1024x768p = false ∧ shows curMode mode1360x768p = false
    · simp [has768, plain.1, plain.2]
    · have excluded : (!shows curMode mode1024x768p && !shows curMode mode1360x768p) = false :=
        neither_false _ _ plain
      simp only [has768, Bool.true_and, excluded, plain, Bool.false_eq_true, if_true, if_false, iff_false]
      intro same
      have key := Option.some.inj same
      split at key
      · exact absurd key (by decide)
      · exact foreign.2.2.1 key.symm
  · by_cases interlaced : shows curMode mode1080i = true
    · simp [has768, interlaced]
    · simp only [has768, interlaced, Bool.false_and, Bool.false_eq_true, if_false, false_or]
      exact last_key_iff panel curMode

-- A test that both cascades make, with the same key.
theorem shared_case (shown : Bool) (area last : Area) (lastKey : Option CStr) (own : Prop)
    (rest : lastKey = some last.keyValue ↔ own) :
    (if shown then some area.keyValue else lastKey) = some (if shown then area else last).keyValue ↔
      shown = true ∨ own := by
  cases shown with
  | true => simp
  | false => simpa using rest

theorem case_key (shown : Bool) (area last : Area) (keys : List CStr) (here : area.keyValue ∉ keys)
    (rest : last.keyValue ∉ keys) : (if shown then area else last).keyValue ∉ keys := by
  cases shown with
  | true => exact here
  | false => exact rest

theorem cvbs_576 (curMode : Bytes) (shown : shows curMode mode576Cvbs = true) : shows curMode mode576 = true :=
  (contains_iff _ _).mpr (List.IsInfix.trans ⟨[], ascii ['c', 'v', 'b', 's'], rfl⟩ ((contains_iff _ _).mp shown))

theorem own_key (panel : Panel) (curMode : Bytes) :
    setPositionKey curMode = some (getPositionArea panel curMode).keyValue ↔ Own curMode := by
  rw [setPositionKey, getPositionArea, Own]
  refine shared_case _ ⟨mode480Cvbs, 720, 480⟩ _ _ _ ?_
  by_cases has480 : shows curMode mode480 = true
  · rw [if_pos has480, if_pos has480]
    by_cases plain : shows curMode mode640x480p = false ∧ shows curMode mode800x480p = false
    · have kept : (shows curMode mode480 && !shows curMode mode640x480p && !shows curMode mode800x480p) = true := by
        rw [has480, plain.1, plain.2]
        rfl
      rw [if_pos kept]
      exact iff_of_true rfl plain
    · have excluded : (shows curMode mode480 && !shows curMode mode640x480p && !shows curMode mode800x480p) = false := by
        rw [has480, Bool.true_and, neither_false _ _ plain]
      simp only [excluded, Bool.false_eq_true, if_false]
      -- What getPosition goes on to has another key.
      refine iff_of_false (fun same => ?_) plain
      have own : (if shows curMode mode480p then mode480p else mode480i) ∈ [mode480p, mode480i] := by
        split <;> decide
      rw [Option.some.inj same] at own
      refine absurd own ?_
      have keys576 : (if shows curMode mode576p then mode576p else mode576i) ∉ [mode480p, mode480i] := by
        split <;> decide
      refine case_key _ _ _ _ (by decide) (case_key _ _ _ _ keys576 ?_)
      refine case_key _ _ _ _ (by decide) (case_key _ _ _ _ (by decide) (case_key _ _ _ _ (by decide) ?_))
      refine case_key _ _ _ _ (by decide) (case_key _ _ _ _ (by decide) (case_key _ _ _ _ (by decide) ?_))
      exact fun member => last_area_keys panel curMode (List.mem_append_left [mode768p, .empty] member)
  · simp only [has480, Bool.false_and, Bool.false_eq_true, if_false]
    have shared := key_768 panel curMode
    have shared := shared_case (shows curMode mode720p) ⟨mode720p, 1280, 720⟩ _ _ _ shared
    have shared := shared_case (shows curMode modeNtscM) ⟨modeNtscM, 720, 480⟩ _ _ _ shared
    have shared := shared_case (shows curMode modePalN) ⟨modePalN, 720, 576⟩ _ _ _ shared
    have shared := shared_case (shows curMode modePalM) ⟨modePalM, 720, 480⟩ _ _ _ shared
    have shared := shared_case (shows curMode mode576)
      ⟨if shows curMode mode576p then mode576p else mode576i, 720, 576⟩ _ _ _ shared
    refine (shared_case (shows curMode mode576Cvbs) ⟨mode576Cvbs, 720, 576⟩ _ _ _ shared).trans ?_
    have within := cvbs_576 curMode
    simp only [or_assoc]
    exact or_iff_right_of_imp fun shown => .inl (within shown)

section
variable {device : EnvDevice} (crc32 : Bytes → UInt32)

theorem get_position_after (panel : Panel) (board next : Board device) (curMode : Bytes) (keyValue : CStr)
    (position : Position) (outcomes : Side → Nat → SaveOutcome device) (done : board.env.mEnvInitDone = true)
    (key : setPositionKey curMode = some keyValue)
    (set : setPosition crc32 board curMode position outcomes = some next) (other : Bytes) :
    getPosition panel next.env other =
      if (getPositionArea panel other).keyValue = keyValue then position else getPosition panel board.env other := by
  have after := set_position_stored crc32 board next curMode keyValue position outcomes done key set
    (getPositionArea panel other).keyValue
  have value (side : Side) (defaultVal : Int32) :
      getBootenvInt next.env (nameOf (envKey (getPositionArea panel other).keyValue side)) defaultVal =
        if (getPositionArea panel other).keyValue = keyValue then position.at side
        else getBootenvInt board.env (nameOf (envKey (getPositionArea panel other).keyValue side)) defaultVal := by
    have here := after side
    simp only [stored] at here
    rw [getBootenvInt, here]
    by_cases same : (getPositionArea panel other).keyValue = keyValue
    · rw [if_pos same, if_pos same]
      exact printed_value (position.at side)
    · rw [if_neg same, if_neg same]
      rfl
  simp only [getPosition, value]
  by_cases same : (getPositionArea panel other).keyValue = keyValue
  · simp only [if_pos same, Position.at]
  · simp only [if_neg same]

def StoreLoad (panel : Panel) (board next : Board device) (curMode : Bytes) (position : Position) : Prop :=
  getPosition panel next.env curMode = position ∧
    ∀ other, (getPositionArea panel other).keyValue ≠ (getPositionArea panel curMode).keyValue →
      getPosition panel next.env other = getPosition panel board.env other

-- The position is stored already, here and wherever setPosition writes it.
def Already (panel : Panel) (board : Board device) (curMode : Bytes) (position : Position) : Prop :=
  getPosition panel board.env curMode = position ∧
    ∀ other, setPositionKey curMode = some (getPositionArea panel other).keyValue →
      getPosition panel board.env other = position

theorem position_stored_iff (panel : Panel) (board next : Board device) (curMode : Bytes) (position : Position)
    (outcomes : Side → Nat → SaveOutcome device) (done : board.env.mEnvInitDone = true)
    (set : setPosition crc32 board curMode position outcomes = some next) :
    StoreLoad panel board next curMode position ↔ Own curMode ∨ Already panel board curMode position := by
  rw [← own_key panel]
  cases key : setPositionKey curMode with
  | none =>
      simp only [setPosition, key] at set
      cases Option.some.inj set
      simp [StoreLoad, Already, key]
  | some keyValue =>
      have after := get_position_after crc32 panel board next curMode keyValue position outcomes done key set
      by_cases own : (getPositionArea panel curMode).keyValue = keyValue
      · have stored : StoreLoad panel board next curMode position := by
          refine ⟨(after curMode).trans (if_pos own), fun other different => (after other).trans (if_neg fun same => ?_)⟩
          exact different (same.trans own.symm)
        exact iff_of_true stored (.inl (congrArg some own.symm))
      · have foreign : ¬some keyValue = some (getPositionArea panel curMode).keyValue := fun same =>
          own (Option.some.inj same).symm
        simp only [foreign, false_or, StoreLoad, Already, key, Option.some.injEq]
        rw [after curMode, if_neg own]
        refine and_congr_right fun _ => ?_
        constructor
        · intro kept other same
          rw [← kept other fun equal => own (equal.symm.trans same.symm), after other, if_pos same.symm]
        · intro already other _
          rw [after other]
          by_cases same : (getPositionArea panel other).keyValue = keyValue
          · rw [if_pos same, already other same.symm]
          · rw [if_neg same]

end

def panel : Panel := ⟨none, []⟩

def smallDevice : EnvDevice := .blockUbootenv 60 8 (by decide)

def blankFlash : EnvImage smallDevice :=
  ⟨Crc.crc32 (List.replicate 52 0), List.replicate 52 0, List.replicate 4 0, rfl, rfl⟩

def blankBoard : Board smallDevice := ⟨⟨some blankFlash, [], true⟩, blankFlash⟩

def hd60 : Bytes := ascii ['1', '0', '8', '0', 'p', '6', '0', 'h', 'z']
def vga60 : Bytes := ascii ['6', '4', '0', 'x', '4', '8', '0', 'p', '6', '0', 'h', 'z']
def sd60 : Bytes := ascii ['4', '8', '0', 'p', '6', '0', 'h', 'z']

theorem position_stored_hd60 :
    ∃ next, setPosition Crc.crc32 blankBoard hd60 ⟨10, 20, 1900, 1040⟩ (fun _ _ => .stored) = some next ∧
      StoreLoad panel blankBoard next hd60 ⟨10, 20, 1900, 1040⟩ := by
  have done : (setPosition Crc.crc32 blankBoard hd60 ⟨10, 20, 1900, 1040⟩ fun _ _ => .stored).isSome = true := by
    decide +kernel
  obtain ⟨next, set⟩ := Option.isSome_iff_exists.mp done
  have own : Own hd60 := by
    unfold Own
    decide +kernel
  exact ⟨next, set, (position_stored_iff Crc.crc32 panel blankBoard next hd60 _ _ rfl set).mpr (.inl own)⟩

-- The position of 640x480p60hz goes to the variables of 480p60hz.
theorem position_under_other_key :
    (setPosition Crc.crc32 blankBoard vga60 ⟨10, 20, 600, 440⟩ fun _ _ => .stored).map
      (fun next => (getPosition panel next.env vga60, getPosition panel next.env sd60)) =
        some (⟨0, 0, 640, 480⟩, ⟨10, 20, 600, 440⟩) ∧
      getPosition panel blankBoard.env sd60 = ⟨0, 0, 720, 480⟩ ∧
      (getPositionArea panel sd60).keyValue ≠ (getPositionArea panel vga60).keyValue := by
  decide +kernel

end Droidlogic.Display.Window
