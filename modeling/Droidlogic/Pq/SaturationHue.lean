import Droidlogic.Pq.PictureMode

set_option autoImplicit false

namespace Droidlogic.Pq.Hue

open Droidlogic.Pq.Picture

-- hueParams and saturationParams are the level tables of the database, pack is
-- video_set_saturation_hue.
structure Tables where
  hueParams : Source → Int → Int
  saturationParams : Source → Int → Int
  pack : Int → Int → Int
  dbParams : PictureMode → PqPara

-- The saved levels are bytes of the SSM area; programmed is what the last
-- AMVECM_IOC_S_PIC_MODE with saturation and hue has set.
structure Control where
  input : SourceInputParam
  enabled : Bool
  mode : PictureMode
  savedSaturation : UInt8
  savedHue : UInt8
  programmed : Option Int
deriving DecidableEq

def ntsc (input : SourceInputParam) : Bool :=
  (input.sourceInput = .tv || input.sourceInput = .av1 || input.sourceInput = .av2) &&
    (input.sigFmt = tvinSigFmtCvbsNtscM || input.sigFmt = tvinSigFmtCvbsNtsc443)

def inRange (data : Int) : Int := if data < 0 ∨ data > 100 then 50 else data

def getHue (tables : Tables) (s : Control) : Int :=
  inRange (if s.mode = .user then s.savedHue.toNat else (tables.dbParams s.mode).hue)

def getSaturation (tables : Tables) (s : Control) : Int :=
  inRange (if s.mode = .user then s.savedSaturation.toNat else (tables.dbParams s.mode).saturation)

def ssmSaveHue (s : Control) (value : Int) : Control := { s with savedHue := .ofInt value }

def ssmSaveSaturation (s : Control) (value : Int) : Control := { s with savedSaturation := .ofInt value }

def setVideoSaturationHue (tables : Tables) (s : Control) (ioctlOk : Bool) (satVal hueVal : Int) : Int × Control :=
  if ioctlOk then (0, { s with programmed := some (tables.pack satVal hueVal) }) else (-1, s)

def cpqSetHue (tables : Tables) (s : Control) (ioctlOk : Bool) (value : Int) : Int × Control :=
  if s.enabled then
    if 0 ≤ value ∧ value ≤ 100 then
      let hue := tables.hueParams s.input.sourceInput (100 - value)
      let saturation := tables.saturationParams s.input.sourceInput (getSaturation tables s)
      setVideoSaturationHue tables s ioctlOk saturation hue
    else (-1, s)
  else (0, s)

def cpqSetSaturation (tables : Tables) (s : Control) (ioctlOk : Bool) (value : Int) : Int × Control :=
  if s.enabled then
    if 0 ≤ value ∧ value ≤ 100 then
      let hueLevel := if ntsc s.input then 100 - getHue tables s else 50
      let hue := tables.hueParams s.input.sourceInput hueLevel
      let saturation := tables.saturationParams s.input.sourceInput value
      setVideoSaturationHue tables s ioctlOk saturation hue
    else (-1, s)
  else (0, s)

def setHue (tables : Tables) (s : Control) (ioctlOk : Bool) (value isSave : Int) : Int × Control :=
  let (ret, s) := cpqSetHue tables s ioctlOk value
  if ret = 0 ∧ isSave = 1 then (0, ssmSaveHue s value) else (ret, s)

def setSaturation (tables : Tables) (s : Control) (ioctlOk : Bool) (value isSave : Int) : Int × Control :=
  let (ret, s) := cpqSetSaturation tables s ioctlOk value
  if ret = 0 ∧ isSave = 1 then (0, ssmSaveSaturation s value) else (ret, s)

-- The saturation and hue part of SetPQParams, which asks no configuration flag.
def setPQParams (tables : Tables) (s : Control) (ioctlOk : Bool) (saturation hue : Int) : Int × Control :=
  let hueLevel := if ntsc s.input then 100 - hue else 50
  setVideoSaturationHue tables s ioctlOk (tables.saturationParams s.input.sourceInput saturation)
    (tables.hueParams s.input.sourceInput hueLevel)

-- Cpq_SetPQMode for the picture mode USER.
def reloadUser (tables : Tables) (s : Control) : Int × Control :=
  setPQParams tables s true s.savedSaturation.toNat s.savedHue.toNat

inductive Setter
  | hue
  | saturation
deriving DecidableEq

def setLevel (tables : Tables) (s : Control) (ioctlOk : Bool) : Setter → Int → Int × Control
  | .hue, value => setHue tables s ioctlOk value 1
  | .saturation, value => setSaturation tables s ioctlOk value 1

-- The word SetPQParams programs for two levels.
def reloadWord (tables : Tables) (input : SourceInputParam) (saturation hue : Int) : Int :=
  tables.pack (tables.saturationParams input.sourceInput saturation)
    (tables.hueParams input.sourceInput (if ntsc input then 100 - hue else 50))

structure UserLevels (s : Control) : Prop where
  mode : s.mode = .user
  saturation : s.savedSaturation.toNat ≤ 100
  hue : s.savedHue.toNat ≤ 100

-- With the module off the register still has to hold what it held; with it on,
-- SetHue has to be called where the hue counts, or with a level that is as good as 50.
def Agrees (tables : Tables) (s : Control) (setter : Setter) (value : Int) : Prop :=
  match setter with
  | .saturation => s.enabled = true ∨ s.programmed = some (reloadWord tables s.input value s.savedHue.toNat)
  | .hue =>
      if s.enabled then
        ntsc s.input = true ∨
          tables.pack (tables.saturationParams s.input.sourceInput s.savedSaturation.toNat)
              (tables.hueParams s.input.sourceInput (100 - value)) =
            tables.pack (tables.saturationParams s.input.sourceInput s.savedSaturation.toNat)
              (tables.hueParams s.input.sourceInput 50)
      else s.programmed = some (reloadWord tables s.input s.savedSaturation.toNat value)

theorem reload_programs (tables : Tables) (s : Control) :
    (reloadUser tables s).2.programmed =
      some (reloadWord tables s.input s.savedSaturation.toNat s.savedHue.toNat) := rfl

theorem byte_level (value : Int) (low : 0 ≤ value) (high : value ≤ 100) : ((UInt8.ofInt value).toNat : Int) = value := by
  have small : value % 2 ^ 8 = value := Int.emod_eq_of_lt low (by omega)
  rw [UInt8.ofInt, UInt8.toNat_ofNat', small]
  omega

theorem in_range (level : Nat) (small : level ≤ 100) : inRange level = level := by
  rw [inRange, if_neg]
  omega

theorem user_saturation (tables : Tables) (s : Control) (levels : UserLevels s) :
    getSaturation tables s = s.savedSaturation.toNat := by
  rw [getSaturation, if_pos levels.mode, in_range _ levels.saturation]

theorem user_hue (tables : Tables) (s : Control) (levels : UserLevels s) : getHue tables s = s.savedHue.toNat := by
  rw [getHue, if_pos levels.mode, in_range _ levels.hue]

section
variable (tables : Tables) (s : Control) (ioctlOk : Bool) (value : Int)

theorem set_hue_off (off : s.enabled = false) : setHue tables s ioctlOk value 1 = (0, ssmSaveHue s value) := by
  simp [setHue, cpqSetHue, off]

theorem set_saturation_off (off : s.enabled = false) :
    setSaturation tables s ioctlOk value 1 = (0, ssmSaveSaturation s value) := by
  simp [setSaturation, cpqSetSaturation, off]

theorem set_hue_on (on : s.enabled = true) (low : 0 ≤ value) (high : value ≤ 100)
    (succeeds : (setHue tables s ioctlOk value 1).1 = 0) :
    (setHue tables s ioctlOk value 1).2 = ssmSaveHue { s with
      programmed := some (tables.pack (tables.saturationParams s.input.sourceInput (getSaturation tables s))
        (tables.hueParams s.input.sourceInput (100 - value))) } value := by
  cases ioctlOk with
  | false => simp [setHue, cpqSetHue, setVideoSaturationHue, on, low, high] at succeeds
  | true => simp [setHue, cpqSetHue, setVideoSaturationHue, on, low, high]

theorem set_saturation_on (on : s.enabled = true) (low : 0 ≤ value) (high : value ≤ 100)
    (succeeds : (setSaturation tables s ioctlOk value 1).1 = 0) :
    (setSaturation tables s ioctlOk value 1).2 = ssmSaveSaturation { s with
      programmed := some (tables.pack (tables.saturationParams s.input.sourceInput value)
        (tables.hueParams s.input.sourceInput (if ntsc s.input then 100 - getHue tables s else 50))) } value := by
  cases ioctlOk with
  | false => simp [setSaturation, cpqSetSaturation, setVideoSaturationHue, on, low, high] at succeeds
  | true => simp [setSaturation, cpqSetSaturation, setVideoSaturationHue, on, low, high]

variable (levels : UserLevels s) (low : 0 ≤ value) (high : value ≤ 100)

include levels low high

theorem hue_agrees_iff (succeeds : (setHue tables s ioctlOk value 1).1 = 0) :
    (setHue tables s ioctlOk value 1).2.programmed =
        (reloadUser tables (setHue tables s ioctlOk value 1).2).2.programmed ↔
      Agrees tables s .hue value := by
  rw [reload_programs, Agrees]
  by_cases on : s.enabled = true
  · rw [set_hue_on tables s ioctlOk value on low high succeeds, if_pos on]
    simp only [ssmSaveHue, reloadWord, byte_level value low high, user_saturation tables s levels, Option.some.injEq]
    by_cases signal : ntsc s.input = true
    · simp [signal]
    · simp [signal]
  · rw [set_hue_off tables s ioctlOk value ((Bool.not_eq_true _).mp on), if_neg on]
    simp only [ssmSaveHue, byte_level value low high]

theorem saturation_agrees_iff (succeeds : (setSaturation tables s ioctlOk value 1).1 = 0) :
    (setSaturation tables s ioctlOk value 1).2.programmed =
        (reloadUser tables (setSaturation tables s ioctlOk value 1).2).2.programmed ↔
      Agrees tables s .saturation value := by
  rw [reload_programs, Agrees]
  by_cases on : s.enabled = true
  · rw [set_saturation_on tables s ioctlOk value on low high succeeds]
    simp [ssmSaveSaturation, reloadWord, byte_level value low high, user_hue tables s levels, on]
  · rw [set_saturation_off tables s ioctlOk value ((Bool.not_eq_true _).mp on)]
    simp [ssmSaveSaturation, byte_level value low high, on]

end

theorem set_then_reload_iff (tables : Tables) (s : Control) (ioctlOk : Bool) (setter : Setter) (value : Int)
    (levels : UserLevels s) (low : 0 ≤ value) (high : value ≤ 100)
    (succeeds : (setLevel tables s ioctlOk setter value).1 = 0) :
    (setLevel tables s ioctlOk setter value).2.programmed =
        (reloadUser tables (setLevel tables s ioctlOk setter value).2).2.programmed ↔
      Agrees tables s setter value := by
  cases setter with
  | hue => exact hue_agrees_iff tables s ioctlOk value levels low high succeeds
  | saturation => exact saturation_agrees_iff tables s ioctlOk value levels low high succeeds

def linear : Tables where
  hueParams := fun _ level => level - 50
  saturationParams := fun _ level => level - 50
  pack := fun satVal hueVal => satVal * 256 + hueVal
  dbParams := fun _ => ⟨50, 50, 50, 50, 50⟩

def tunerNtsc : Control := ⟨⟨.tv, tvinSigFmtCvbsNtscM, 0⟩, true, .user, 50, 50, none⟩

def mpegVideo : Control := ⟨⟨.mpeg, tvinSigFmtHdmi1920x1080p60hz, 0⟩, true, .user, 50, 50, none⟩

theorem set_then_reload_ntsc : UserLevels tunerNtsc ∧ (setLevel linear tunerNtsc true .hue 30).1 = 0 ∧
    (setLevel linear tunerNtsc true .hue 30).2.programmed =
      (reloadUser linear (setLevel linear tunerNtsc true .hue 30).2).2.programmed := by
  have levels : UserLevels tunerNtsc := ⟨rfl, by decide, by decide⟩
  have succeeds : (setLevel linear tunerNtsc true .hue 30).1 = 0 := rfl
  exact ⟨levels, succeeds, (set_then_reload_iff linear tunerNtsc true .hue 30 levels (by decide) (by decide) succeeds).mpr
    (.inl rfl)⟩

-- Hue 30 on a source without an NTSC signal.
theorem hue_lost_on_reload : UserLevels mpegVideo ∧ (setLevel linear mpegVideo true .hue 30).1 = 0 ∧
    ¬ (setLevel linear mpegVideo true .hue 30).2.programmed =
      (reloadUser linear (setLevel linear mpegVideo true .hue 30).2).2.programmed := by
  exact ⟨⟨rfl, by decide, by decide⟩, rfl, by decide⟩

end Droidlogic.Pq.Hue
