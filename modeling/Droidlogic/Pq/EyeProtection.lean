import Droidlogic.Lib.Run
import Droidlogic.Pq.ColorTemperature

set_option autoImplicit false

namespace Droidlogic.Pq.Eye

open Droidlogic.Lib Droidlogic.Pq.ColorTemp

-- rgb_ogo_type_t; every other value takes the default branch.
inductive Component
  | rGain
  | gGain
  | bGain
  | rPostOffset
  | gPostOffset
  | bPostOffset
  | other
deriving DecidableEq

-- rgbogo.r_gain = value and its siblings.
def putComponent (params : RgbOgo) (component : Component) (value : Int32) : RgbOgo :=
  match component with
  | .rGain => { params with rGain := value.toUInt32 }
  | .gGain => { params with gGain := value.toUInt32 }
  | .bGain => { params with bGain := value.toUInt32 }
  | .rPostOffset => { params with rPostOffset := value }
  | .gPostOffset => { params with gPostOffset := value }
  | .bPostOffset => { params with bPostOffset := value }
  | .other => params

def temperatureUser : Int := 3

-- user is what the SSM area has for the six user values, with en and the pre
-- offsets as Cpq_GetColorTemperatureUser sets them. eyeByte and temperatureByte
-- are one byte of the SSM area each, programmed is the last Cpq_SetRGBOGO.
structure Control where
  whitebalance : Bool
  area : Area
  user : RgbOgo
  temperatureByte : UInt8
  eyeByte : UInt8
  programmed : RgbOgo

def getColorTemperature (s : Control) : Int := if s.temperatureByte > 3 then 0 else s.temperatureByte.toNat

def saveColorTemperature (s : Control) (tempMode : Int) : Control := { s with temperatureByte := .ofInt tempMode }

def getEyeProtectionMode (s : Control) : Int := s.eyeByte.toNat

def getColorTemperatureUser (s : Control) : RgbOgo :=
  { s.user with en := 1, rPreOffset := 0, gPreOffset := 0, bPreOffset := 0 }

def saveColorTemperatureUser (s : Control) (component : Component) (value : Int32) : Control :=
  { s with user := putComponent s.user component value }

def setRGBOGO (s : Control) (rgbogo : RgbOgo) : Control := { s with programmed := rgbogo }

def halveBlue (rgbogo : RgbOgo) : RgbOgo := { rgbogo with bGain := rgbogo.bGain / 2 }

def setEyeProtectionMode (s : Control) (enable : Int) : Control :=
  let tempMode := getColorTemperature s
  let param :=
    if tempMode = temperatureUser then getColorTemperatureUser s else getColorTemperatureParams s.area tempMode .zero
  let s := setRGBOGO s (if enable ≠ 0 then halveBlue param else param)
  { s with eyeByte := .ofInt enable }

-- stack is the content of the local that GetColorTemperatureParams leaves alone for
-- a mode it does not know.
def setColorTemperatureWithoutSave (s : Control) (tempMode : Int) (stack : RgbOgo) : Control :=
  let rgbogo := getColorTemperatureParams s.area tempMode stack
  setRGBOGO s (if getEyeProtectionMode s ≠ 0 then halveBlue rgbogo else rgbogo)

def setColorTemperatureUser (s : Control) (component : Component) (isSave : Int) (value : Int32) : Int × Control :=
  if component = .other then (-1, s)
  else
    let rgbogo := putComponent (getColorTemperatureUser s) component value
    let s := setRGBOGO s (if getEyeProtectionMode s = 1 then halveBlue rgbogo else rgbogo)
    (0, if isSave = 1 then saveColorTemperatureUser s component value else s)

def setColorTemperature (s : Control) (tempMode isSave : Int) (component : Component) (value : Int32)
    (stack : RgbOgo) : Int × Control :=
  if s.whitebalance then
    let (ret, s) :=
      if tempMode = temperatureUser then setColorTemperatureUser s component isSave value
      else (0, setColorTemperatureWithoutSave s tempMode stack)
    (ret, if ret = 0 ∧ isSave = 1 then saveColorTemperature s tempMode else s)
  else (0, s)

-- What the six FactorySetColorTemp functions do, each with its component.
def factorySetColorTemp (component : Component) (s : Control) (tempMode : Int) (value : Int32) : Control :=
  let rgbogo := putComponent (getColorTemperatureParams s.area tempMode .zero) component value
  setRGBOGO s { rgbogo with en := 1 }

def factorySetColorTemp_Rgain := factorySetColorTemp .rGain
def factorySetColorTemp_Ggain := factorySetColorTemp .gGain
def factorySetColorTemp_Bgain := factorySetColorTemp .bGain
def factorySetColorTemp_Roffset := factorySetColorTemp .rPostOffset
def factorySetColorTemp_Goffset := factorySetColorTemp .gPostOffset
def factorySetColorTemp_Boffset := factorySetColorTemp .bPostOffset

def factorySaveColorTemp (component : Component) (s : Control) (tempMode : Int) (value : Int32) : Control :=
  let rgbogo := putComponent (getColorTemperatureParams s.area tempMode .zero) component value
  { s with area := setColorTemperatureParams s.area tempMode rgbogo }

def factorySaveColorTemp_Rgain := factorySaveColorTemp .rGain
def factorySaveColorTemp_Ggain := factorySaveColorTemp .gGain
def factorySaveColorTemp_Bgain := factorySaveColorTemp .bGain
def factorySaveColorTemp_Roffset := factorySaveColorTemp .rPostOffset
def factorySaveColorTemp_Goffset := factorySaveColorTemp .gPostOffset
def factorySaveColorTemp_Boffset := factorySaveColorTemp .bPostOffset

inductive Call
  | setEyeProtectionMode (enable : Int)
  | setColorTemperature (tempMode isSave : Int) (component : Component) (value : Int32) (stack : RgbOgo)
  | factorySetColorTemp (component : Component) (tempMode : Int) (value : Int32)
  | factorySaveColorTemp (component : Component) (tempMode : Int) (value : Int32)

-- There are six factory functions of each kind and none for another component.
def perform (s : Control) : Call → Option Control
  | .setEyeProtectionMode enable => some (setEyeProtectionMode s enable)
  | .setColorTemperature tempMode isSave component value stack =>
      some (setColorTemperature s tempMode isSave component value stack).2
  | .factorySetColorTemp component tempMode value =>
      match component with
      | .rGain => some (factorySetColorTemp_Rgain s tempMode value)
      | .gGain => some (factorySetColorTemp_Ggain s tempMode value)
      | .bGain => some (factorySetColorTemp_Bgain s tempMode value)
      | .rPostOffset => some (factorySetColorTemp_Roffset s tempMode value)
      | .gPostOffset => some (factorySetColorTemp_Goffset s tempMode value)
      | .bPostOffset => some (factorySetColorTemp_Boffset s tempMode value)
      | .other => none
  | .factorySaveColorTemp component tempMode value =>
      match component with
      | .rGain => some (factorySaveColorTemp_Rgain s tempMode value)
      | .gGain => some (factorySaveColorTemp_Ggain s tempMode value)
      | .bGain => some (factorySaveColorTemp_Bgain s tempMode value)
      | .rPostOffset => some (factorySaveColorTemp_Roffset s tempMode value)
      | .gPostOffset => some (factorySaveColorTemp_Goffset s tempMode value)
      | .bPostOffset => some (factorySaveColorTemp_Boffset s tempMode value)
      | .other => none

-- The blue gain of a colour temperature as it is stored.
def blueGain (s : Control) (tempMode : Int) (stack : RgbOgo) : UInt32 :=
  if tempMode = temperatureUser then s.user.bGain else (getColorTemperatureParams s.area tempMode stack).bGain

-- The blue gain chosen for the colour temperature a call makes the active one: the
-- stored one, or the value that the call is given for it.
def chosenGain (s : Control) : Call → Option UInt32
  | .setEyeProtectionMode _ => some (blueGain s (getColorTemperature s) .zero)
  | .setColorTemperature tempMode _ component value stack =>
      if s.whitebalance = false ∨ (tempMode = temperatureUser ∧ component = .other) then none
      else if tempMode = temperatureUser ∧ component = .bGain then some value.toUInt32
      else some (blueGain s tempMode stack)
  | .factorySetColorTemp component tempMode value =>
      some (if component = .bGain then value.toUInt32 else (getColorTemperatureParams s.area tempMode .zero).bGain)
  | .factorySaveColorTemp _ _ _ => none

-- The state together with the blue gain chosen for the active colour temperature.
structure Tracked where
  control : Control
  chosen : UInt32

def step (t : Tracked) (call : Call) : Option Tracked :=
  (perform t.control call).map fun next => ⟨next, (chosenGain t.control call).getD t.chosen⟩

def Protected (t : Tracked) : Prop :=
  t.control.programmed.bGain = if t.control.eyeByte = 0 then t.chosen else t.chosen / 2

-- What a call must look like for the halving to be right after it: an enable value
-- that its byte shows, a saved flag that both tests read alike, no factory setting
-- while the protection is on; or a gain of 0, of which a half is no less.
def Halves (t : Tracked) (call : Call) : Prop :=
  match call with
  | .setEyeProtectionMode enable =>
      enable = 0 ∨ UInt8.ofInt enable ≠ 0 ∨ chosenGain t.control call = some 0
  | .setColorTemperature tempMode _ _ _ _ =>
      tempMode ≠ temperatureUser ∨ t.control.eyeByte ≤ 1 ∨ chosenGain t.control call = some 0 ∨
        chosenGain t.control call = none
  | .factorySetColorTemp _ _ _ => t.control.eyeByte = 0 ∨ chosenGain t.control call = some 0
  | .factorySaveColorTemp _ _ _ => True

theorem half_eq_self (gain : UInt32) : gain = gain / 2 ↔ gain = 0 := by
  have two : (2 : UInt32).toNat = 2 := rfl
  have zero : (0 : UInt32).toNat = 0 := rfl
  rw [← UInt32.toNat_inj, ← UInt32.toNat_inj, UInt32.toNat_div, two, zero]
  omega

theorem put_blue (params : RgbOgo) (component : Component) (value : Int32) :
    (putComponent params component value).bGain = if component = .bGain then value.toUInt32 else params.bGain := by
  cases component <;> rfl

theorem perform_factory_set (s next : Control) (component : Component) (tempMode : Int) (value : Int32)
    (done : perform s (.factorySetColorTemp component tempMode value) = some next) :
    next = factorySetColorTemp component s tempMode value := by
  cases component with
  | other => exact absurd done (by simp [perform])
  | _ => exact (Option.some.inj done).symm

theorem perform_factory_save (s next : Control) (component : Component) (tempMode : Int) (value : Int32)
    (done : perform s (.factorySaveColorTemp component tempMode value) = some next) :
    next = factorySaveColorTemp component s tempMode value := by
  cases component with
  | other => exact absurd done (by simp [perform])
  | _ => exact (Option.some.inj done).symm

theorem step_some (t next : Tracked) (call : Call) (taken : step t call = some next) :
    perform t.control call = some next.control ∧ next.chosen = (chosenGain t.control call).getD t.chosen := by
  obtain ⟨control, done, rfl⟩ := Option.map_eq_some_iff.mp taken
  exact ⟨done, rfl⟩

-- A call that programs the chosen gain plain or halved, and what the eye byte says after it.
theorem protected_when (next : Tracked) (halved : Prop) [Decidable halved]
    (programmed : next.control.programmed.bGain = if halved then next.chosen / 2 else next.chosen) :
    Protected next ↔ (halved ↔ next.control.eyeByte ≠ 0) ∨ next.chosen = 0 := by
  simp only [Protected, programmed]
  by_cases half : halved
  · by_cases off : next.control.eyeByte = 0
    · rw [if_pos half, if_pos off, eq_comm, half_eq_self]
      simp [half, off]
    · simp [half, off]
  · by_cases off : next.control.eyeByte = 0
    · simp [half, off]
    · rw [if_neg half, if_neg off, half_eq_self]
      simp [half, off]

theorem programmed_blue (s : Control) (rgbogo : RgbOgo) (halved : Prop) [Decidable halved] :
    (setRGBOGO s (if halved then halveBlue rgbogo else rgbogo)).programmed.bGain =
      if halved then rgbogo.bGain / 2 else rgbogo.bGain := by
  by_cases half : halved
  · rw [if_pos half, if_pos half]
    rfl
  · rw [if_neg half, if_neg half]
    rfl

theorem eye_mode_programs (s : Control) (enable : Int) :
    (setEyeProtectionMode s enable).programmed.bGain =
      if enable ≠ 0 then blueGain s (getColorTemperature s) .zero / 2 else blueGain s (getColorTemperature s) .zero := by
  have param : (if getColorTemperature s = temperatureUser then getColorTemperatureUser s
      else getColorTemperatureParams s.area (getColorTemperature s) .zero).bGain =
        blueGain s (getColorTemperature s) .zero := by
    rw [blueGain, apply_ite RgbOgo.bGain]
    rfl
  rw [← param]
  exact programmed_blue s _ _

theorem without_save_programs (s : Control) (tempMode : Int) (stack : RgbOgo) (notUser : tempMode ≠ temperatureUser) :
    (setColorTemperatureWithoutSave s tempMode stack).programmed.bGain =
      if s.eyeByte ≠ 0 then blueGain s tempMode stack / 2 else blueGain s tempMode stack := by
  have flag : getEyeProtectionMode s ≠ 0 ↔ s.eyeByte ≠ 0 := by
    rw [getEyeProtectionMode, Int.natCast_ne_zero, ne_eq, ne_eq, ← UInt8.toNat_inj]
    rfl
  rw [blueGain, if_neg notUser, setColorTemperatureWithoutSave, programmed_blue]
  simp only [flag]

theorem user_programs (s : Control) (component : Component) (isSave : Int) (value : Int32)
    (listed : component ≠ .other) :
    (setColorTemperatureUser s component isSave value).1 = 0 ∧
      (setColorTemperatureUser s component isSave value).2.eyeByte = s.eyeByte ∧
      (setColorTemperatureUser s component isSave value).2.programmed.bGain =
        if s.eyeByte = 1 then (if component = .bGain then value.toUInt32 else s.user.bGain) / 2
        else if component = .bGain then value.toUInt32 else s.user.bGain := by
  have flag : getEyeProtectionMode s = 1 ↔ s.eyeByte = 1 := by
    rw [getEyeProtectionMode, ← UInt8.toNat_inj]
    exact Int.natCast_inj
  have blue : (putComponent (getColorTemperatureUser s) component value).bGain =
      if component = .bGain then value.toUInt32 else s.user.bGain := put_blue _ component value
  rw [setColorTemperatureUser, if_neg listed, ← blue]
  have programmed := programmed_blue s (putComponent (getColorTemperatureUser s) component value) (getEyeProtectionMode s = 1)
  simp only [flag] at programmed
  by_cases save : isSave = 1
  · simp only [if_pos save, flag]
    exact ⟨trivial, rfl, programmed⟩
  · simp only [if_neg save, flag]
    exact ⟨trivial, rfl, programmed⟩

section
variable (t next : Tracked)

theorem eye_mode_protected_iff (enable : Int) (taken : step t (.setEyeProtectionMode enable) = some next) :
    Protected next ↔ Halves t (.setEyeProtectionMode enable) := by
  obtain ⟨done, chosen⟩ := step_some t next _ taken
  have control : next.control = setEyeProtectionMode t.control enable := (Option.some.inj done).symm
  have gain : next.chosen = blueGain t.control (getColorTemperature t.control) .zero := chosen
  have eye : next.control.eyeByte = UInt8.ofInt enable := control ▸ rfl
  have programmed : next.control.programmed.bGain = if enable ≠ 0 then next.chosen / 2 else next.chosen := by
    rw [control, gain]
    exact eye_mode_programs t.control enable
  rw [protected_when next (enable ≠ 0) programmed, Halves, chosenGain, eye, gain, Option.some.injEq]
  by_cases zero : enable = 0
  · subst zero
    exact iff_of_true (.inl ⟨fun differ => absurd rfl differ, fun lost => absurd rfl lost⟩) (.inl rfl)
  · simp [zero]

theorem factory_set_protected_iff (component : Component) (tempMode : Int) (value : Int32)
    (taken : step t (.factorySetColorTemp component tempMode value) = some next) :
    Protected next ↔ Halves t (.factorySetColorTemp component tempMode value) := by
  obtain ⟨done, chosen⟩ := step_some t next _ taken
  have control := perform_factory_set _ _ _ _ _ done
  have eye : next.control.eyeByte = t.control.eyeByte := control ▸ rfl
  have programmed : next.control.programmed.bGain = if False then next.chosen / 2 else next.chosen := by
    rw [if_neg not_false, chosen, control]
    exact put_blue _ component value
  rw [protected_when next False programmed, Halves, eye, chosen]
  simp [chosenGain]

theorem factory_save_protected_iff (component : Component) (tempMode : Int) (value : Int32)
    (taken : step t (.factorySaveColorTemp component tempMode value) = some next) :
    Protected next ↔ Protected t := by
  obtain ⟨done, chosen⟩ := step_some t next _ taken
  have control := perform_factory_save _ _ _ _ _ done
  have kept : next.chosen = t.chosen := chosen
  simp only [Protected, kept, control]
  exact Iff.rfl

theorem user_protected_iff (isSave : Int) (component : Component) (value : Int32) (stack : RgbOgo)
    (on : t.control.whitebalance = true) (listed : component ≠ .other)
    (taken : step t (.setColorTemperature temperatureUser isSave component value stack) = some next) :
    Protected next ↔ t.control.eyeByte ≤ 1 ∨ next.chosen = 0 := by
  obtain ⟨done, chosen⟩ := step_some t next _ taken
  obtain ⟨zero, eye, programmed⟩ := user_programs t.control component isSave value listed
  have gain : next.chosen = if component = .bGain then value.toUInt32 else t.control.user.bGain := by
    rw [chosen, chosenGain, if_neg (by simp [on, listed])]
    by_cases blue : component = .bGain
    · simp [blue]
    · simp [blue, blueGain]
  have result : next.control.eyeByte = t.control.eyeByte ∧
      next.control.programmed = (setColorTemperatureUser t.control component isSave value).2.programmed := by
    rw [← Option.some.inj done]
    simp only [setColorTemperature, if_pos on, if_pos, zero]
    split_ifs <;> exact ⟨eye, rfl⟩
  rw [protected_when next (t.control.eyeByte = 1) (by rw [result.2, programmed, gain]), result.1]
  have bytes : (t.control.eyeByte = 1 ↔ t.control.eyeByte ≠ 0) ↔ t.control.eyeByte ≤ 1 := by
    rw [UInt8.le_iff_toNat_le, ne_eq, ← UInt8.toNat_inj, ← UInt8.toNat_inj]
    have one : (1 : UInt8).toNat = 1 := rfl
    have none : (0 : UInt8).toNat = 0 := rfl
    omega
  rw [bytes]

theorem preset_protected (tempMode isSave : Int) (component : Component) (value : Int32) (stack : RgbOgo)
    (on : t.control.whitebalance = true) (notUser : tempMode ≠ temperatureUser)
    (taken : step t (.setColorTemperature tempMode isSave component value stack) = some next) : Protected next := by
  obtain ⟨done, chosen⟩ := step_some t next _ taken
  have gain : next.chosen = blueGain t.control tempMode stack := by
    rw [chosen, chosenGain, if_neg (by simp [on, notUser]), if_neg (by simp [notUser])]
    rfl
  have result : next.control.eyeByte = t.control.eyeByte ∧
      next.control.programmed = (setColorTemperatureWithoutSave t.control tempMode stack).programmed := by
    rw [← Option.some.inj done]
    simp only [setColorTemperature, if_pos on, if_neg notUser]
    split_ifs <;> exact ⟨rfl, rfl⟩
  have programmed := without_save_programs t.control tempMode stack notUser
  rw [protected_when next (t.control.eyeByte ≠ 0) (by rw [result.2, programmed, gain]), result.1]
  exact .inl Iff.rfl

theorem idle_protected_iff (tempMode isSave : Int) (component : Component) (value : Int32) (stack : RgbOgo)
    (idle : t.control.whitebalance = false ∨ (tempMode = temperatureUser ∧ component = .other))
    (taken : step t (.setColorTemperature tempMode isSave component value stack) = some next) :
    Protected next ↔ Protected t := by
  obtain ⟨done, chosen⟩ := step_some t next _ taken
  have kept : next.chosen = t.chosen := by
    rw [chosen, chosenGain, if_pos idle]
    rfl
  have same : next.control = t.control := by
    rw [← Option.some.inj done, setColorTemperature]
    by_cases on : t.control.whitebalance = true
    · obtain ⟨user, other⟩ := idle.resolve_left (by simp [on])
      simp [on, user, other, setColorTemperatureUser]
    · rw [if_neg on]
  simp only [Protected, kept, same]

theorem protected_iff (call : Call) (held : Protected t) (taken : step t call = some next) :
    Protected next ↔ Halves t call := by
  cases call with
  | setEyeProtectionMode enable => exact eye_mode_protected_iff t next enable taken
  | factorySetColorTemp component tempMode value => exact factory_set_protected_iff t next component tempMode value taken
  | factorySaveColorTemp component tempMode value =>
      exact iff_of_true ((factory_save_protected_iff t next component tempMode value taken).mpr held) trivial
  | setColorTemperature tempMode isSave component value stack =>
      by_cases idle : t.control.whitebalance = false ∨ (tempMode = temperatureUser ∧ component = .other)
      · have none : chosenGain t.control (.setColorTemperature tempMode isSave component value stack) = none := if_pos idle
        exact iff_of_true ((idle_protected_iff t next tempMode isSave component value stack idle taken).mpr held)
          (.inr (.inr (.inr none)))
      · obtain ⟨off, busy⟩ := not_or.mp idle
        have on : t.control.whitebalance = true := (Bool.not_eq_false _).mp off
        by_cases user : tempMode = temperatureUser
        · subst user
          have listed : component ≠ .other := fun same => busy ⟨rfl, same⟩
          obtain ⟨gain, chosen⟩ : ∃ gain, chosenGain t.control
              (.setColorTemperature temperatureUser isSave component value stack) = some gain := by
            rw [chosenGain, if_neg idle]
            split_ifs <;> exact ⟨_, rfl⟩
          have next_gain : next.chosen = gain := by
            rw [(step_some t next _ taken).2, chosen]
            rfl
          rw [user_protected_iff t next isSave component value stack on listed taken, Halves, chosen, next_gain]
          simp
        · exact iff_of_true (preset_protected t next tempMode isSave component value stack on user taken) (.inl user)

end

instance (t : Tracked) : Decidable (Protected t) := inferInstanceAs (Decidable (_ = _))

instance (t : Tracked) (call : Call) : Decidable (Halves t call) :=
  match call with
  | .setEyeProtectionMode _ => inferInstanceAs (Decidable (_ ∨ _ ∨ _))
  | .setColorTemperature _ _ _ _ _ => inferInstanceAs (Decidable (_ ∨ _ ∨ _ ∨ _))
  | .factorySetColorTemp _ _ _ => inferInstanceAs (Decidable (_ ∨ _))
  | .factorySaveColorTemp _ _ _ => isTrue trivial

theorem eye_protected_iff (start : Tracked) (calls : List Call) (programmed : Protected start) :
    Along step (fun _ _ next => Protected next) start calls ↔ Along step (fun t call _ => Halves t call) start calls := by
  apply along_iff step Protected
  · exact fun t call next held taken halves => (protected_iff t next call held taken).mpr halves
  · exact fun t call next held taken => protected_iff t next call held taken
  · exact programmed

def switchedOn : Tracked := ⟨⟨true, blank, .zero, 0, 0, .zero⟩, 0⟩

theorem eye_protected_warm : Protected switchedOn ∧ Along step (fun _ _ next => Protected next) switchedOn
    [.factorySaveColorTemp .bGain 1 1000, .setEyeProtectionMode 1, .setColorTemperature 1 1 .other 0 .zero] := by
  have programmed : Protected switchedOn := by decide
  exact ⟨programmed, (eye_protected_iff switchedOn _ programmed).mpr (by decide +kernel)⟩

-- A blue gain set in the factory menu while the protection is on.
theorem factory_gain_unhalved : ¬ Along step (fun _ _ next => Protected next) switchedOn
    [.setEyeProtectionMode 1, .factorySetColorTemp .bGain 0 1024] := by
  decide +kernel

end Droidlogic.Pq.Eye
