import Mathlib.Logic.Function.Basic
import Droidlogic.Display.BootEnv
import Droidlogic.Lib.Text

set_option autoImplicit false

namespace Droidlogic.Display

open Lib Bootenv

def modeLen : Nat := 64
def maxStrLen : Nat := 4096
def edidSize : Nat := 1025

def hz : CStr := ⟨ascii ['h', 'z'], by decide⟩
def cvbs : CStr := ⟨ascii ['c', 'v', 'b', 's'], by decide⟩
def nullMode : CStr := ⟨ascii ['n', 'u', 'l', 'l'], by decide⟩
def mode4k2k60hz : CStr := ⟨ascii ['2', '1', '6', '0', 'p', '6', '0', 'h', 'z'], by decide⟩
def mode4k2k50hz : CStr := ⟨ascii ['2', '1', '6', '0', 'p', '5', '0', 'h', 'z'], by decide⟩
def mode4k2ksmpte60hz : CStr := ⟨ascii ['s', 'm', 'p', 't', 'e', '6', '0', 'h', 'z'], by decide⟩
def mode4k2ksmpte50hz : CStr := ⟨ascii ['s', 'm', 'p', 't', 'e', '5', '0', 'h', 'z'], by decide⟩

def colorYcbcr444 (depth : CStr) : CStr := CStr.append ⟨ascii ['4', '4', '4', ','], by decide⟩ depth
def colorYcbcr422 (depth : CStr) : CStr := CStr.append ⟨ascii ['4', '2', '2', ','], by decide⟩ depth
def colorYcbcr420 (depth : CStr) : CStr := CStr.append ⟨ascii ['4', '2', '0', ','], by decide⟩ depth
def colorRgb (depth : CStr) : CStr := CStr.append ⟨ascii ['r', 'g', 'b', ','], by decide⟩ depth

def bit12 : CStr := ⟨ascii ['1', '2', 'b', 'i', 't'], by decide⟩
def bit10 : CStr := ⟨ascii ['1', '0', 'b', 'i', 't'], by decide⟩
def bit8 : CStr := ⟨ascii ['8', 'b', 'i', 't'], by decide⟩
def bit : CStr := ⟨ascii ['b', 'i', 't'], by decide⟩

def colorAttributeList1 : List CStr :=
  [colorYcbcr420 bit12, colorYcbcr420 bit10, colorYcbcr420 bit8, colorYcbcr422 bit12, colorYcbcr422 bit10,
    colorYcbcr444 bit8, colorYcbcr422 bit8, colorRgb bit8]

def colorAttributeList2 : List CStr :=
  [colorYcbcr444 bit12, colorYcbcr422 bit12, colorRgb bit12, colorYcbcr444 bit10, colorYcbcr422 bit10,
    colorRgb bit10, colorYcbcr444 bit8, colorYcbcr422 bit8, colorRgb bit8]

def colorAttributeList3 : List CStr :=
  [colorYcbcr420 bit8, colorYcbcr420 bit10, colorYcbcr420 bit12, colorYcbcr422 bit8, colorYcbcr422 bit10,
    colorYcbcr422 bit12, colorYcbcr444 bit8, colorRgb bit8]

def colorAttributeList4 : List CStr :=
  [colorYcbcr444 bit8, colorYcbcr422 bit8, colorRgb bit8, colorYcbcr444 bit10, colorYcbcr422 bit10,
    colorRgb bit10, colorYcbcr444 bit12, colorYcbcr422 bit12, colorRgb bit12]

def ubootenvIsbestmode : CStr := ⟨ascii ['i', 's', '.', 'b', 'e', 's', 't', 'm', 'o', 'd', 'e'], by decide⟩

def ubootenvColorattribute : CStr :=
  ⟨ascii ['c', 'o', 'l', 'o', 'r', 'a', 't', 't', 'r', 'i', 'b', 'u', 't', 'e'], by decide⟩

def deepcolor : CStr := ⟨ascii ['_', 'd', 'e', 'e', 'p', 'c', 'o', 'l', 'o', 'r'], by decide⟩

def trueText : CStr := ⟨ascii ['t', 'r', 'u', 'e'], by decide⟩
def falseText : CStr := ⟨ascii ['f', 'a', 'l', 's', 'e'], by decide⟩

-- The sysfs nodes that are read or written.
inductive Node
  | displayMode
  | displayMode2
  | framratePolicy
  | hdmiColorAttr
  | hdmiDeepColor
  | edidRaw
  | hdmiAvmute
  | hdmiAudioMute
  | hdmiHdcpMode
  | hdmiHdcpPower
  | hdmiHdcpConf
  | hdmiPhy
  | hdmiHdrMode
  | hdmiSdrMode
  | hdrPolicy
  | audioDspDigitalRaw
  | avHdmiConfig
  | disableVideo
deriving DecidableEq

inductive Property
  | deepcolor
  | hdmionly
  | defaultColor
  | lowPowerDefaultColor
  | hdrModeState
  | sdrModeState
  | enableSdr2hdr
  | disableSdr2hdr
  | dolbyVisionFeature
  | lcdExist
deriving DecidableEq

def getPropertyString (value default : CStr) : CStr := if value = .empty then default else value

def getPropertyBoolean (value : CStr) (default : Bool) : Bool :=
  let is (word : List Char) : Bool := value.bytes = ascii word
  if is ['0'] || is ['n'] || is ['n', 'o'] || is ['f', 'a', 'l', 's', 'e'] || is ['o', 'f', 'f'] then false
  else if is ['1'] || is ['y'] || is ['y', 'e', 's'] || is ['t', 'r', 'u', 'e'] || is ['o', 'n'] then true
  else default

inductive DisplayType
  | none
  | tablet
  | mbox
  | tv
  | repeater
deriving DecidableEq

inductive OutputModeState
  | init
  | power
  | switch
  | switchAdapter
  | reserve
  | adapterEnd
deriving DecidableEq

def HdmiMode (mode : CStr) : Prop := contains mode.bytes hz.bytes = true ∧ contains mode.bytes cvbs.bytes = false

-- The driver of the transmitter: what valid_mode reads after a mode and a colour were written to it, and
-- whether the PHY is on after a mode was written to the node of the mode.
structure Driver where
  validMode : CStr → CStr
  phyAfter : CStr → Bool → Bool
  lit : ∀ mode phy, HdmiMode mode → phyAfter mode phy = true

structure Config where
  mDisplayType : DisplayType
  mRebootMode : CStr
  mFilterEdid : List CStr
  driver : Driver

-- written holds what the last call has written to the nodes.
structure Output (device : EnvDevice) where
  board : Board device
  nodes : Node → CStr
  props : Property → CStr
  phy : Bool
  hdcpTx : Bool
  mBootAnimFinished : Bool
  mEdid : CStr
  written : List (Node × CStr)

-- A text in char[capacity]; none where it does not fit.
def copy (capacity : Nat) (text : CStr) : Option CStr := (strcpy capacity text).map CharArray.str

theorem copy_eq_some (capacity : Nat) (text copied : CStr) (fits : copy capacity text = some copied) : copied = text := by
  obtain ⟨array, stored, same⟩ := Option.map_eq_some_iff.mp fits
  rw [← same, strcpy_eq_some _ _ _ stored]

section
variable {device : EnvDevice}

-- The outer none is a variable whose text does not fit.
def getBootEnv (capacity : Nat) (env : Ubootenv device) (key : CStr) : Option (Option CStr) :=
  match getValue env key with
  | none => some none
  | some value => (copy capacity value).map some

def fourK (outputmode : CStr) : Bool :=
  outputmode ∈ [mode4k2k60hz, mode4k2k50hz, mode4k2ksmpte60hz, mode4k2ksmpte50hz]

variable (config : Config) (output : Output device)

def isFilterEdid : Option Bool := do
  let edid ← copy edidSize (output.nodes .edidRaw)
  some (edid ∈ config.mFilterEdid)

def isModeSupportDeepColorAttr (mode color : CStr) : Option Bool := do
  let outputmode ← copy modeLen (mode.append color)
  let filtered ← isFilterEdid config output
  if filtered && !contains color.bytes bit8.bytes then some false
  else
    let value ← copy 10 (config.driver.validMode outputmode)
    some (decide (atoi value.bytes ≠ 0))

def firstSupported (supportedColorList outputmode colorAttribute : CStr) : List CStr → Option CStr
  | [] => some colorAttribute
  | color :: rest =>
      if contains supportedColorList.bytes color.bytes then do
        if ← isModeSupportDeepColorAttr config output outputmode color then some color
        else firstSupported supportedColorList outputmode colorAttribute rest
      else firstSupported supportedColorList outputmode colorAttribute rest

def colorList (outputmode : CStr) : List CStr :=
  let lowPower := getPropertyBoolean (output.props .lowPowerDefaultColor) false
  if fourK outputmode then if lowPower then colorAttributeList3 else colorAttributeList1
  else if lowPower then colorAttributeList4 else colorAttributeList2

def getBestHdmiDeepColorAttr (outputmode colorAttribute : CStr) : Option CStr := do
  let supportedColorList ← copy maxStrLen (output.nodes .hdmiDeepColor)
  if supportedColorList = .empty then some colorAttribute
  else firstSupported config output supportedColorList outputmode colorAttribute (colorList output outputmode)

-- The priority colour of the mode, "" where the environment has none that the sink takes.
def savedColor (outputmode : CStr) : Option CStr := do
  let isBestMode ← getBootEnv modeLen output.board.env (nameOf ubootenvIsbestmode)
  if isBestMode = some falseText then
    let ubootvar ← copy modeLen (nameOf (outputmode.append deepcolor))
    match ← getBootEnv modeLen output.board.env ubootvar with
    | none => some .empty
    | some value =>
        if contains value.bytes bit.bytes then
          let supported ← isModeSupportDeepColorAttr config output outputmode value
          some (if supported then value else .empty)
        else some .empty
  else some .empty

def getProperHdmiColorArrtibute (outputmode : CStr) : Option CStr := do
  let saved ← savedColor config output outputmode
  if saved ≠ .empty then some saved
  else
    let colorAttribute ← getBestHdmiDeepColorAttr config output outputmode .empty
    some (if contains colorAttribute.bytes bit.bytes then colorAttribute else colorYcbcr444 bit8)

def getHdmiColorAttribute (outputmode : CStr) (state : OutputModeState) : Option CStr := do
  let supportedColorList ← copy maxStrLen (output.nodes .hdmiDeepColor)
  if supportedColorList = .empty then
    copy modeLen (getPropertyString (output.props .defaultColor)
      (if fourK outputmode then colorYcbcr420 bit8 else colorYcbcr444 bit8))
  else if getPropertyBoolean (output.props .hdmionly) true then
    let curMode ← copy modeLen (output.nodes .displayMode)
    let isBestMode ← getBootEnv modeLen output.board.env (nameOf ubootenvIsbestmode)
    if state = .switch ∧ curMode = outputmode ∧ isBestMode = some falseText then
      let saved ← getBootEnv modeLen output.board.env (nameOf ubootenvColorattribute)
      some (saved.getD .empty)
    else getProperHdmiColorArrtibute config output outputmode
  else some .empty

-- What the choice of a colour reads.
structure Agree (output other : Output device) : Prop where
  board : other.board = output.board
  props : other.props = output.props
  mode : other.nodes .displayMode = output.nodes .displayMode
  colors : other.nodes .hdmiDeepColor = output.nodes .hdmiDeepColor
  edid : other.nodes .edidRaw = output.nodes .edidRaw

theorem supports_agree (other : Output device) (agree : Agree output other) (mode color : CStr) :
    isModeSupportDeepColorAttr config other mode color = isModeSupportDeepColorAttr config output mode color := by
  simp only [isModeSupportDeepColorAttr, isFilterEdid, agree.edid]

theorem first_supported_agree (other : Output device) (agree : Agree output other)
    (supportedColorList outputmode colorAttribute : CStr) (colors : List CStr) :
    firstSupported config other supportedColorList outputmode colorAttribute colors =
      firstSupported config output supportedColorList outputmode colorAttribute colors := by
  induction colors with
  | nil => rfl
  | cons color rest ih => simp only [firstSupported, ih, supports_agree config output other agree]

theorem best_color_agree (other : Output device) (agree : Agree output other) (outputmode colorAttribute : CStr) :
    getBestHdmiDeepColorAttr config other outputmode colorAttribute =
      getBestHdmiDeepColorAttr config output outputmode colorAttribute := by
  simp only [getBestHdmiDeepColorAttr, colorList, agree.colors, agree.props,
    first_supported_agree config output other agree]

theorem hdmi_color_agree (other : Output device) (agree : Agree output other) (outputmode : CStr)
    (state : OutputModeState) :
    getHdmiColorAttribute config other outputmode state = getHdmiColorAttribute config output outputmode state := by
  simp only [getHdmiColorAttribute, getProperHdmiColorArrtibute, savedColor, agree.board, agree.props, agree.mode,
    agree.colors, supports_agree config output other agree, best_color_agree config output other agree]

end

end Droidlogic.Display
