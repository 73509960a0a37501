import Mathlib.Logic.Function.Basic
import Droidlogic.Pq.HdrStatus
import Droidlogic.Pq.SaturationHue
import Droidlogic.Ssm.Lifecycle

set_option autoImplicit false

namespace Droidlogic.Pq.Levels

open Droidlogic.Lib Droidlogic.Ssm Droidlogic.Pq.Picture

inductive Level
  | brightness
  | contrast
  | saturation
  | hue
  | sharpness
deriving DecidableEq

def Level.setting : Level → Setting
  | .brightness => .brightness
  | .contrast => .contrast
  | .saturation => .saturation
  | .hue => .hue
  | .sharpness => .sharpness

def Level.ofPara (para : PqPara) : Level → Int
  | .brightness => para.brightness
  | .contrast => para.contrast
  | .saturation => para.saturation
  | .hue => para.hue
  | .sharpness => para.sharpness

-- The node tables that Cpq_LoadBasicRegs loads.
inductive Table
  | brightness
  | contrast
  | saturation
  | hue
  | sharpness0
  | sharpness1
deriving DecidableEq

inductive Register
  | brightness
  | contrast
  | saturationHue
  | sharpness0
  | sharpness1
deriving DecidableEq

structure Config where
  allPQMoudle : Bool
  brightnessContrast : Bool
  saturationHue : Bool
  sharpness0 : Bool
  sharpness1 : Bool

def Config.loads (config : Config) : Table → Bool
  | .brightness | .contrast => config.brightnessContrast
  | .saturation | .hue => config.saturationHue
  | .sharpness0 => config.sharpness0
  | .sharpness1 => config.sharpness1

-- SetPQParams programs saturation and hue without asking.
def Config.programs (config : Config) : Register → Bool
  | .brightness | .contrast => config.brightnessContrast
  | .saturationHue => true
  | .sharpness0 => config.sharpness0
  | .sharpness1 => config.sharpness1

-- What selects the tables of a signal.
structure Signal where
  input : SourceInputParam
  mHdrStatus : Bool
  mOutPutType : Int

-- A load without a row leaves the nodes as they are. levelParam is the non-linear mapping and then the nodes.
structure Database (Nodes Value : Type) where
  loadVppBasicParam : Table → Signal → Option Nodes
  initial : Table → Nodes
  levelParam : Table → Nodes → Source → Int → Value
  videoSetSaturationHue : Value → Value → Value
  getPQModeParams : Source → PictureMode → Option PqPara

structure Control (Nodes Value : Type) where
  input : Hdr.Control
  store : Store
  nodes : Table → Nodes
  regs : Register → Option Value

-- Which of the ioctls of a call succeed.
abbrev Answers := Register → Bool

section
variable {Nodes Value : Type} (config : Config) (db : Database Nodes Value) (s : Control Nodes Value)

def Control.slot : Int32 := .ofInt s.input.sourceForSave.code

def Control.read (setting : Setting) : Int := s.store setting s.slot

def Control.save (setting : Setting) (value : Int) : Control Nodes Value :=
  { s with store := s.store.save ⟨setting, s.slot, value, 0⟩ }

def Control.source : Source := s.input.current.sourceInput

def Control.signal : Signal := ⟨s.input.current, s.input.dbHdrStatus, s.input.dbOutputType⟩

def getPQMode : PictureMode :=
  (PictureMode.all.find? fun mode => (mode.code.toNat : Int) = s.read .pictureMode).getD .standard

def getLevel (level : Level) : Int :=
  Hue.inRange
    (if getPQMode s = .user then s.read level.setting
      else ((db.getPQModeParams s.source (getPQMode s)).map fun para => level.ofPara para).getD 50)

def getBrightness : Int := getLevel db s .brightness
def getContrast : Int := getLevel db s .contrast
def getSaturation : Int := getLevel db s .saturation
def getHue : Int := getLevel db s .hue
def getSharpness : Int := getLevel db s .sharpness

def program (register : Register) (ok : Bool) (value : Value) : Int × Control Nodes Value :=
  if ok then (0, { s with regs := Function.update s.regs register (some value) }) else (-1, s)

def levelValue (table : Table) (value : Int) : Value := db.levelParam table (s.nodes table) s.source value

def cpqSetPlain (table : Table) (register : Register) (ok : Bool) (value : Int) : Int × Control Nodes Value :=
  if config.brightnessContrast then
    if 0 ≤ value ∧ value ≤ 100 then program s register ok (levelValue db s table value) else (-1, s)
  else (0, s)

def cpqSetBrightness := cpqSetPlain config db s .brightness .brightness
def cpqSetContrast := cpqSetPlain config db s .contrast .contrast

def saturationHueValue (saturation hueLevel : Int) : Value :=
  db.videoSetSaturationHue (levelValue db s .saturation saturation) (levelValue db s .hue hueLevel)

def reloadHue (hue : Int) : Int := if Hue.ntsc s.input.current then 100 - hue else 50

def cpqSetSaturation (ok : Bool) (value : Int) : Int × Control Nodes Value :=
  if config.saturationHue then
    if 0 ≤ value ∧ value ≤ 100 then
      program s .saturationHue ok (saturationHueValue db s value (reloadHue s (getHue db s)))
    else (-1, s)
  else (0, s)

def cpqSetHue (ok : Bool) (value : Int) : Int × Control Nodes Value :=
  if config.saturationHue then
    if 0 ≤ value ∧ value ≤ 100 then
      program s .saturationHue ok (saturationHueValue db s (getSaturation db s) (100 - value))
    else (-1, s)
  else (0, s)

-- The result is the one of the second list, whatever became of the first. Cpq_LoadRegs fails on an empty list too.
def cpqSetSharpness (answers : Answers) (value : Int) : Int × Control Nodes Value :=
  if 0 ≤ value ∧ value ≤ 100 then
    let s := if config.sharpness0 then (program s .sharpness0 (answers .sharpness0) (levelValue db s .sharpness0 value)).2 else s
    if config.sharpness1 then program s .sharpness1 (answers .sharpness1) (levelValue db s .sharpness1 value) else (0, s)
  else (-1, s)

def setLevel (s : Control Nodes Value) (answers : Answers) (value isSave : Int) : Level → Int × Control Nodes Value
  | .brightness =>
      let (ret, s) := cpqSetBrightness config db s (answers .brightness) value
      (0, if ret = 0 ∧ isSave = 1 then s.save .brightness value else s)
  | .contrast =>
      let (ret, s) := cpqSetContrast config db s (answers .contrast) value
      (ret, if ret = 0 ∧ isSave = 1 then s.save .contrast value else s)
  | .saturation =>
      let (ret, s) := cpqSetSaturation config db s (answers .saturationHue) value
      (ret, if ret = 0 ∧ isSave = 1 then s.save .saturation value else s)
  | .hue =>
      let (ret, s) := cpqSetHue config db s (answers .saturationHue) value
      (ret, if ret = 0 ∧ isSave = 1 then s.save .hue value else s)
  | .sharpness =>
      let (ret, s) := cpqSetSharpness config db s answers value
      (ret, if ret = 0 ∧ isSave = 1 then s.save .sharpness value else s)

def cpqLoadBasicRegs : Control Nodes Value :=
  { s with
    nodes := fun table =>
      if config.loads table then (db.loadVppBasicParam table s.signal).getD (s.nodes table) else s.nodes table }

-- The results are joined with |.
def setPQParams (s : Control Nodes Value) (answers : Answers) (para : PqPara) : Int × Control Nodes Value :=
  let (hue, s) := program s .saturationHue (answers .saturationHue)
    (saturationHueValue db s para.saturation (reloadHue s para.hue))
  let (sharpness, s) := cpqSetSharpness config db s answers para.sharpness
  let (brightness, s) := cpqSetBrightness config db s (answers .brightness) para.brightness
  let (contrast, s) := cpqSetContrast config db s (answers .contrast) para.contrast
  (if hue = 0 ∧ sharpness = 0 ∧ brightness = 0 ∧ contrast = 0 then 0 else -1, s)

def savedPara : PqPara :=
  ⟨s.read .brightness, s.read .contrast, s.read .saturation, s.read .hue, s.read .sharpness⟩

def cpqSetPQMode (answers : Answers) (mode : PictureMode) : Int × Control Nodes Value :=
  if mode.Special then (0, s)
  else if mode = .user then setPQParams config db (cpqLoadBasicRegs config db s) answers (savedPara s)
  else
    match db.getPQModeParams s.source mode with
    | none => (-1, s)
    | some para => setPQParams config db (cpqLoadBasicRegs config db s) answers para

def setPQMode (answers : Answers) (mode : PictureMode) (isSave : Int) : Int × Control Nodes Value :=
  let (ret, s) := if getPQMode s = mode then (0, s) else cpqSetPQMode config db s answers mode
  (ret, if ret = 0 ∧ isSave = 1 then s.save .pictureMode mode.code.toNat else s)

def loadPQSettings (answers : Answers) : Control Nodes Value :=
  if config.allPQMoudle then (cpqSetPQMode config db s answers (getPQMode s)).2 else s

def setCurrentSourceInputInfo (param : SourceInputParam) (devices : Hdr.Devices) (answers : Answers) : Control Nodes Value :=
  let (reload, input) := Hdr.setCurrentSourceInputInfo s.input param devices
  let s := { s with input := input }
  match reload with
  | .pqSettings => loadPQSettings config db s answers
  | .displayMode | .none => s

-- What CPQControlInit starts from; mCurentOutputType is what CheckOutPutMode returns.
def initialInput (paramCheckSource : Bool) (devices : Hdr.Devices) : Hdr.Control :=
  let input := Hdr.checkOutPutMode (.init paramCheckSource) devices
  { input with currentOutputType := input.dbOutputType }

-- The registers of the hardware are those the machine came up with.
def cpqControlInit (devices : Hdr.Devices) (regs : Register → Option Value) (answers : Answers) : Control Nodes Value :=
  loadPQSettings config db ⟨initialInput s.input.paramCheckSource devices, s.store, db.initial, regs⟩ answers

end

inductive Event (Value : Type)
  | setLevel (level : Level) (value isSave : Int) (answers : Answers)
  | setPQMode (mode : PictureMode) (isSave : Int) (answers : Answers)
  | setCurrentHdrInfo (hdrInfo : UInt32)
  | setCurrentSourceInputInfo (param : SourceInputParam) (devices : Hdr.Devices) (answers : Answers)
  | cpqControlInit (devices : Hdr.Devices) (regs : Register → Option Value) (answers : Answers)

section
variable {Nodes Value : Type} (config : Config) (db : Database Nodes Value)

def handle (s : Control Nodes Value) : Event Value → Control Nodes Value
  | .setLevel level value isSave answers => (setLevel config db s answers value isSave level).2
  | .setPQMode mode isSave answers => (setPQMode config db s answers mode isSave).2
  | .setCurrentHdrInfo hdrInfo => { s with input := Hdr.setCurrentHdrInfo s.input hdrInfo }
  | .setCurrentSourceInputInfo param devices answers => setCurrentSourceInputInfo config db s param devices answers
  | .cpqControlInit devices regs answers => cpqControlInit config db s devices regs answers

def step (s : Control Nodes Value) (event : Event Value) : Option (Control Nodes Value) := some (handle config db s event)

-- The register contents for the levels that the getters read.
def valueOf (s : Control Nodes Value) (levels : PqPara) : Register → Value
  | .brightness => levelValue db s .brightness levels.brightness
  | .contrast => levelValue db s .contrast levels.contrast
  | .saturationHue => saturationHueValue db s levels.saturation (reloadHue s levels.hue)
  | .sharpness0 => levelValue db s .sharpness0 levels.sharpness
  | .sharpness1 => levelValue db s .sharpness1 levels.sharpness

def gotten (s : Control Nodes Value) : PqPara :=
  ⟨getBrightness db s, getContrast db s, getSaturation db s, getHue db s, getSharpness db s⟩

structure Shown (s : Control Nodes Value) : Prop where
  nodes : ∀ table nodes, config.loads table = true → db.loadVppBasicParam table s.signal = some nodes → s.nodes table = nodes
  regs : ∀ register, config.programs register = true → s.regs register = some (valueOf db s (gotten db s) register)

-- A signal is there, and its picture mode is one with levels.
def Watched (s : Control Nodes Value) : Prop := s.input.current.sigFmt ≠ tvinSigFmtNull ∧ ¬ (getPQMode s).Special

instance (s : Control Nodes Value) : Decidable (Watched s) := inferInstanceAs (Decidable (_ ∧ _))

def InRange (value : Int) : Prop := 0 ≤ value ∧ value ≤ 100

instance (value : Int) : Decidable (InRange value) := inferInstanceAs (Decidable (_ ∧ _))

structure Sound (s : Control Nodes Value) : Prop where
  hdr : s.input.currentHdrStatus = s.input.dbHdrStatus
  output : s.input.currentOutputType = s.input.dbOutputType
  stored : ∀ level : Level, ∀ offset, InRange (s.store level.setting offset)
  shown : Watched s → Shown config db s

def AllSucceed (answers : Answers) : Prop := ∀ register, answers register = true

-- The setters whose program and whose save are one: the hue only counts on some signals, and of the
-- two sharpness lists only the last one's result is looked at.
def Applies (s : Control Nodes Value) (answers : Answers) : Level → Prop
  | .brightness | .contrast => True
  | .saturation => config.saturationHue = true
  | .hue => config.saturationHue = true ∧ Hue.ntsc s.input.current = true
  | .sharpness =>
      config.sharpness0 = true → answers .sharpness0 = if config.sharpness1 then answers .sharpness1 else true

def Keeps (s : Control Nodes Value) : Event Value → Prop
  | .setLevel level value isSave answers =>
      InRange value ∧ (Watched s → getPQMode s = .user ∧ isSave = 1 ∧ Applies config s answers level)
  | .setPQMode _ isSave answers => s.input.current.sigFmt ≠ tvinSigFmtNull → isSave = 1 ∧ AllSucceed answers
  | .setCurrentHdrInfo _ => True
  | .setCurrentSourceInputInfo _ _ answers | .cpqControlInit _ _ answers => AllSucceed answers

instance (answers : Answers) : Decidable (AllSucceed answers) :=
  decidable_of_iff
    (answers .brightness = true ∧ answers .contrast = true ∧ answers .saturationHue = true ∧ answers .sharpness0 = true ∧
      answers .sharpness1 = true)
    ⟨fun ⟨brightness, contrast, saturationHue, sharpness0, sharpness1⟩ register => by cases register <;> assumption,
      fun all => ⟨all _, all _, all _, all _, all _⟩⟩

instance (s : Control Nodes Value) (answers : Answers) (level : Level) : Decidable (Applies config s answers level) :=
  match level with
  | .brightness | .contrast => inferInstanceAs (Decidable True)
  | .saturation => inferInstanceAs (Decidable (_ = _))
  | .hue => inferInstanceAs (Decidable (_ ∧ _))
  | .sharpness => inferInstanceAs (Decidable (_ → _))

instance (s : Control Nodes Value) (event : Event Value) : Decidable (Keeps config s event) :=
  match event with
  | .setLevel .. => inferInstanceAs (Decidable (_ ∧ (_ → _)))
  | .setPQMode .. => inferInstanceAs (Decidable (_ → _))
  | .setCurrentHdrInfo _ => inferInstanceAs (Decidable True)
  | .setCurrentSourceInputInfo .. | .cpqControlInit .. => inferInstanceAs (Decidable (AllSucceed _))

-- Every source has a row for every picture mode with levels, and the row has levels.
def Complete : Prop := ∀ source mode, ¬ PictureMode.Special mode → mode ≠ .user →
  ∃ para, db.getPQModeParams source mode = some para ∧ ∀ level : Level, InRange (level.ofPara para)

end

end Droidlogic.Pq.Levels
