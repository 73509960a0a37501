import Droidlogic.Display.ColorDepth

set_option autoImplicit false

namespace Droidlogic.Display

open Lib Bootenv

def digit (value : UInt8) (text : value ≠ 0) : CStr :=
  ⟨[value], fun member => text (List.mem_singleton.mp member).symm⟩

def zero : CStr := digit 0x30 (by decide)
def one : CStr := digit 0x31 (by decide)
def two : CStr := digit 0x32 (by decide)
def minusOne : CStr := ⟨ascii ['-', '1'], by decide⟩
def stop14 : CStr := ⟨ascii ['s', 't', 'o', 'p', '1', '4'], by decide⟩
def stop22 : CStr := ⟨ascii ['s', 't', 'o', 'p', '2', '2'], by decide⟩
def defaultText : CStr := ⟨ascii ['d', 'e', 'f', 'a', 'u', 'l', 't'], by decide⟩
def quiescent : CStr := ⟨ascii ['q', 'u', 'i', 'e', 's', 'c', 'e', 'n', 't'], by decide⟩
def audioOn : CStr := ⟨ascii ['a', 'u', 'd', 'i', 'o', '_', 'o', 'n'], by decide⟩

def ubootenvHdmimode : CStr := ⟨ascii ['h', 'd', 'm', 'i', 'm', 'o', 'd', 'e'], by decide⟩
def ubootenvCvbsmode : CStr := ⟨ascii ['c', 'v', 'b', 's', 'm', 'o', 'd', 'e'], by decide⟩
def ubootenvOutputmode : CStr := ⟨ascii ['o', 'u', 't', 'p', 'u', 't', 'm', 'o', 'd', 'e'], by decide⟩
def ubootenvHdrPolicy : CStr := ⟨ascii ['h', 'd', 'r', '_', 'p', 'o', 'l', 'i', 'c', 'y'], by decide⟩
def ubootenvSdr2hdr : CStr := ⟨ascii ['s', 'd', 'r', '2', 'h', 'd', 'r'], by decide⟩

def ubootenvDigitaudio : CStr :=
  ⟨ascii ['d', 'i', 'g', 'i', 't', 'a', 'u', 'd', 'i', 'o', 'o', 'u', 't', 'p', 'u', 't'], by decide⟩

-- The modes that are not sent over HDMI, and the null mode.
def cvbsMode (outputmode : CStr) : Bool :=
  outputmode ∈ [mode480Cvbs, mode576Cvbs, modePanel, modePalM, modePalN, modeNtscM, nullMode]

section
variable {device : EnvDevice} (config : Config)

-- A node reads back what was written to it.
def writeSysfs (output : Output device) (node : Node) (value : CStr) : Output device :=
  { output with
    nodes := Function.update output.nodes node value
    phy :=
      match node with
      | .displayMode => config.driver.phyAfter value output.phy
      | .hdmiPhy => decide (value ≠ zero)
      | _ => output.phy
    written := output.written ++ [(node, value)] }

def setProperty (output : Output device) (property : Property) (value : CStr) : Output device :=
  { output with props := Function.update output.props property value }

def isLcdExist (output : Output device) : Int := atoi (getPropertyString (output.props .lcdExist) zero).bytes

def isBestOutputmode (output : Output device) : Option Bool :=
  if config.mDisplayType = .tv then some false
  else do
    let isBestMode ← getBootEnv modeLen output.board.env (nameOf ubootenvIsbestmode)
    some (isBestMode = none || isBestMode = some trueText)

-- The returns before anything is written.
def alreadyShown (output : Output device) (outputmode : CStr) (state : OutputModeState) : Option Bool := do
  let deepColorEnabled := getPropertyBoolean (output.props .deepcolor) true
  let value ← copy maxStrLen (output.nodes .framratePolicy)
  let curDisplayMode ← copy modeLen (output.nodes .displayMode)
  if state = .switch ∧ value = zero ∧ outputmode = curDisplayMode then
    if cvbsMode outputmode || !deepColorEnabled then some true
    else
      let curColorAttribute ← copy modeLen (output.nodes .hdmiColorAttr)
      let saved ← getBootEnv modeLen output.board.env (nameOf ubootenvColorattribute)
      let best ← isBestOutputmode config output
      let saveColorAttribute ←
        (if best then getBestHdmiDeepColorAttr config output outputmode (saved.getD .empty) else some (saved.getD .empty))
      some (contains curColorAttribute.bytes saveColorAttribute.bytes)
  else some false

-- The outputs muted, and phy_enabled_already.
def closePhy (output : Output device) (state : OutputModeState) : Output device × Bool :=
  if state = .init then (output, true)
  else
    let output := writeSysfs config output .hdmiAvmute one
    if state = .power then (output, true)
    else (writeSysfs config (writeSysfs config output .hdmiHdcpMode minusOne) .hdmiPhy zero, false)

def stop (output : Output device) : Output device :=
  let output := writeSysfs config output .hdmiHdcpPower one
  let output := writeSysfs config (writeSysfs config output .hdmiHdcpConf stop14) .hdmiHdcpConf stop22
  { output with hdcpTx := false }

def start (output : Output device) : Output device := { output with hdcpTx := true, mBootAnimFinished := true }

def deepColorOf (output : Output device) (outputmode : CStr) (state : OutputModeState) : Option CStr :=
  if getPropertyBoolean (output.props .deepcolor) true then getHdmiColorAttribute config output outputmode state
  else some defaultText

def setColor (output : Output device) (attr colorAttribute : CStr) : Output device :=
  if contains attr.bytes colorAttribute.bytes then output
  else
    let output := if isLcdExist output = 0 then writeSysfs config output .displayMode nullMode else output
    writeSysfs config output .hdmiColorAttr colorAttribute

def switchMode (output : Output device) (curDisplayMode curMode outputmode : CStr) : Output device :=
  if contains curMode.bytes outputmode.bytes then output
  else
    let output :=
      if cvbsMode outputmode && !contains outputmode.bytes modePanel.bytes && isLcdExist output = 0 then
        writeSysfs config output .displayMode nullMode
      else output
    if isLcdExist output = 1 ∧ config.mDisplayType = .tablet ∧ curDisplayMode = modePanel then
      writeSysfs config output .displayMode2 nullMode
    else writeSysfs config output .displayMode outputmode

def openPhy (output : Output device) (phyEnabledAlready : Bool) : Output device :=
  let output := if phyEnabledAlready then output else writeSysfs config output .hdmiPhy one
  let output := writeSysfs config (writeSysfs config output .hdmiAudioMute one) .hdmiAudioMute zero
  writeSysfs config output .hdmiAvmute minusOne

def setDigitalMode (output : Output device) (mode : CStr) : Output device :=
  let raw (value : CStr) := writeSysfs config (writeSysfs config output .audioDspDigitalRaw value) .avHdmiConfig audioOn
  let passthrough := [' ', 'p', 'a', 's', 's', 't', 'h', 'r', 'o', 'u', 'g', 'h']
  if mode.bytes = ascii ['P', 'C', 'M'] then raw zero
  else if mode.bytes = ascii (['S', 'P', 'D', 'I', 'F'] ++ passthrough) then raw one
  else if mode.bytes = ascii (['H', 'D', 'M', 'I'] ++ passthrough) then raw two
  else output

def setHdrMode (output : Output device) (mode : CStr) : Output device :=
  if 0 ≤ atoi mode.bytes ∧ atoi mode.bytes ≤ 2 then
    setProperty (writeSysfs config output .hdmiHdrMode mode) .hdrModeState mode
  else output

def getHdrStrategy (output : Output device) : Option CStr := do
  match ← getBootEnv modeLen output.board.env (nameOf ubootenvHdrPolicy) with
  | none => some zero
  | some policy => some (if contains policy.bytes one.bytes then one else zero)

variable (crc32 : Bytes → UInt32) (outcomes : CStr → Nat → SaveOutcome device)

-- setBootEnv, with what the writes of this variable come to.
def saveBootEnv (output : Output device) (key value : CStr) : Option (Output device) :=
  (setBootEnv crc32 output.board (nameOf key) value (outcomes key)).map fun board => { output with board := board }

def saveDeepColorAttr (output : Output device) (mode dcValue : CStr) : Option (Output device) := do
  let _ ← copy 100 (nameOf (mode.append deepcolor))
  saveBootEnv crc32 outcomes output (mode.append deepcolor) dcValue

def updateDeepColor (output : Output device) (outputmode : CStr) (state : OutputModeState) : Option (Output device) :=
  if cvbsMode outputmode ∨ config.mDisplayType = .tv then some output
  else do
    let colorAttribute ← deepColorOf config output outputmode state
    let attr ← copy modeLen (output.nodes .hdmiColorAttr)
    let output ← saveDeepColorAttr crc32 outcomes (setColor config output attr colorAttribute) outputmode colorAttribute
    saveBootEnv crc32 outcomes output ubootenvColorattribute colorAttribute

def setSdrMode (output : Output device) (mode : CStr) : Option (Output device) :=
  if atoi mode.bytes = 0 ∨ atoi mode.bytes = 2 then
    saveBootEnv crc32 outcomes (setProperty (writeSysfs config output .hdmiSdrMode mode) .sdrModeState mode)
      ubootenvSdr2hdr mode
  else some output

def initHdrSdrMode (output : Output device) : Option (Output device) := do
  let mode ← copy modeLen (getPropertyString (output.props .hdrModeState) two)
  let output := setHdrMode config output mode
  let flag := getPropertyBoolean (output.props .enableSdr2hdr) false
  let mode ← copy modeLen (getPropertyString (output.props .sdrModeState) (if flag then two else zero))
  setSdrMode config crc32 outcomes output (if getPropertyBoolean (output.props .disableSdr2hdr) false then zero else mode)

def setHdrStrategy (output : Output device) (type : CStr) : Option (Output device) :=
  let output :=
    if contains type.bytes zero.bytes then writeSysfs config output .hdrPolicy zero
    else if contains type.bytes one.bytes then writeSysfs config output .hdrPolicy one
    else output
  saveBootEnv crc32 outcomes output ubootenvHdrPolicy type

def setHdr (output : Output device) : Option (Output device) :=
  if getPropertyBoolean (output.props .dolbyVisionFeature) false then do
    let policy ← getHdrStrategy output
    setHdrStrategy config crc32 outcomes output policy
  else initHdrSdrMode config crc32 outcomes output

def saveMode (output : Output device) : Option (Output device) := do
  let finalMode ← copy modeLen (output.nodes .displayMode)
  let output ←
    (if config.mDisplayType = .tablet then some output else saveBootEnv crc32 outcomes output ubootenvOutputmode finalMode)
  if contains finalMode.bytes cvbs.bytes then saveBootEnv crc32 outcomes output ubootenvCvbsmode finalMode
  else if contains finalMode.bytes hz.bytes then saveBootEnv crc32 outcomes output ubootenvHdmimode finalMode
  else some output

-- From the mode on.
def finish (output : Output device) (outputmode : CStr) (state : OutputModeState) (phyEnabledAlready : Bool) :
    Option (Output device) := do
  let output ← (if cvbsMode outputmode then some output else setHdr config crc32 outcomes output)
  let output := if state ≠ .init ∧ cvbsMode outputmode = false then openPhy config output phyEnabledAlready else output
  let output := if cvbsMode outputmode then output else start output
  let output ←
    (if state ≠ .init then some (writeSysfs config output .disableVideo zero)
      else if cvbsMode outputmode then some output
      else (copy edidSize (output.nodes .edidRaw)).map fun edid => { output with mEdid := edid })
  let value ← getBootEnv maxStrLen output.board.env (nameOf ubootenvDigitaudio)
  saveMode config crc32 outcomes (setDigitalMode config output (value.getD .empty))

-- Dolby Vision is neither supported nor enabled, and "auto" has been replaced by the mode it stands for.
def setSourceOutputMode (output : Output device) (outputmode : CStr) (state : OutputModeState) :
    Option (Output device) := do
  let shown ← alreadyShown config output outputmode state
  let output := { output with written := [] }
  if shown then some output
  else
    let (closed, phyEnabledAlready) := closePhy config output state
    let colored ← updateDeepColor config crc32 outcomes (stop config closed) outputmode state
    let curMode ← copy modeLen (colored.nodes .displayMode)
    if contains config.mRebootMode.bytes quiescent.bytes && !contains outputmode.bytes modePanel.bytes then
      some (if isLcdExist colored = 0 then writeSysfs config colored .displayMode nullMode else colored)
    else
      let switched := switchMode config colored (output.nodes .displayMode) curMode outputmode
      finish config crc32 outcomes switched outputmode state
        (phyEnabledAlready || !contains curMode.bytes outputmode.bytes)

-- What a step that is not about the mode leaves alone.
structure Leaves (before after : Output device) : Prop where
  mode : after.nodes .displayMode = before.nodes .displayMode
  avmute : after.nodes .hdmiAvmute = before.nodes .hdmiAvmute
  phy : after.phy = before.phy
  hdcpTx : after.hdcpTx = before.hdcpTx
  lcd : isLcdExist after = isLcdExist before
  done : after.board.env.mEnvInitDone = before.board.env.mEnvInitDone
  hdmimode : getValue after.board.env (nameOf ubootenvHdmimode) = getValue before.board.env (nameOf ubootenvHdmimode)
  written : before.written ⊆ after.written

theorem Leaves.refl (output : Output device) : Leaves output output :=
  ⟨rfl, rfl, rfl, rfl, rfl, rfl, rfl, List.Subset.refl _⟩

theorem Leaves.trans {first second third : Output device} (front : Leaves first second) (back : Leaves second third) :
    Leaves first third :=
  ⟨back.mode.trans front.mode, back.avmute.trans front.avmute, back.phy.trans front.phy,
    back.hdcpTx.trans front.hdcpTx, back.lcd.trans front.lcd, back.done.trans front.done,
    back.hdmimode.trans front.hdmimode, List.Subset.trans front.written back.written⟩

theorem write_node (output : Output device) (node : Node) (value : CStr) :
    (writeSysfs config output node value).nodes node = value := by
  simp [writeSysfs]

theorem write_other (output : Output device) (node other : Node) (value : CStr) (different : other ≠ node) :
    (writeSysfs config output node value).nodes other = output.nodes other := by
  simp [writeSysfs, different]

theorem write_kept (output : Output device) (node : Node) (value : CStr) :
    output.written ⊆ (writeSysfs config output node value).written := by
  simp [writeSysfs]

theorem write_leaves (output : Output device) (node : Node) (value : CStr)
    (apart : node ∉ [Node.displayMode, .hdmiAvmute, .hdmiPhy]) : Leaves output (writeSysfs config output node value) := by
  simp only [List.mem_cons, List.not_mem_nil, or_false, not_or] at apart
  obtain ⟨mode, avmute, phy⟩ := apart
  refine ⟨write_other config output node _ value (Ne.symm mode), write_other config output node _ value (Ne.symm avmute),
    ?_, rfl, rfl, rfl, rfl, write_kept config output node value⟩
  cases node <;> first | rfl | exact absurd rfl mode | exact absurd rfl phy

theorem property_leaves (output : Output device) (property : Property) (value : CStr) (apart : property ≠ .lcdExist) :
    Leaves output (setProperty output property value) := by
  refine ⟨rfl, rfl, rfl, rfl, ?_, rfl, rfl, List.Subset.refl _⟩
  simp [isLcdExist, setProperty, Ne.symm apart]

theorem save_leaves (output next : Output device) (key value : CStr) (named : key.bytes ≠ [])
    (different : ubootenvHdmimode ≠ key) (saved : saveBootEnv crc32 outcomes output key value = some next) :
    Leaves output next := by
  obtain ⟨board, set, same⟩ := Option.map_eq_some_iff.mp saved
  subst same
  by_cases done : output.board.env.mEnvInitDone = true
  · obtain ⟨init, _, others⟩ := set_boot_env_cases crc32 output.board board key value (outcomes key) done named set
    exact ⟨rfl, rfl, rfl, rfl, rfl, init.trans done.symm, others ubootenvHdmimode (by decide) different,
      List.Subset.refl _⟩
  · rw [Bool.not_eq_true] at done
    rw [set_boot_env_off crc32 output.board board (nameOf key) value (outcomes key) done set]
    exact .refl output

theorem save_kept (output next : Output device) (key value : CStr) (named : key.bytes ≠ [])
    (saved : saveBootEnv crc32 outcomes output key value = some next) :
    next.nodes = output.nodes ∧ next.phy = output.phy ∧ next.hdcpTx = output.hdcpTx ∧ next.written = output.written ∧
      next.board.env.mEnvInitDone = output.board.env.mEnvInitDone := by
  obtain ⟨board, set, same⟩ := Option.map_eq_some_iff.mp saved
  subst same
  refine ⟨rfl, rfl, rfl, rfl, ?_⟩
  by_cases done : output.board.env.mEnvInitDone = true
  · exact (set_boot_env_cases crc32 output.board board key value (outcomes key) done named set).1.trans done.symm
  · rw [Bool.not_eq_true] at done
    rw [set_boot_env_off crc32 output.board board (nameOf key) value (outcomes key) done set]

theorem save_color_leaves (output next : Output device) (mode dcValue : CStr)
    (saved : saveDeepColorAttr crc32 outcomes output mode dcValue = some next) : Leaves output next := by
  obtain ⟨_, _, saved⟩ := Option.bind_eq_some_iff.mp saved
  have long : 10 ≤ (mode.append deepcolor).bytes.length := by
    simp [CStr.append, deepcolor, ascii]
  refine save_leaves crc32 outcomes output next (mode.append deepcolor) dcValue ?_ ?_ saved
  · exact List.ne_nil_of_length_pos (by omega)
  · intro same
    rw [← same] at long
    exact absurd long (by decide)

theorem digital_leaves (output : Output device) (mode : CStr) : Leaves output (setDigitalMode config output mode) := by
  have raw (value : CStr) := (write_leaves config output .audioDspDigitalRaw value (by decide)).trans
    (write_leaves config _ .avHdmiConfig audioOn (by decide))
  simp only [setDigitalMode]
  repeat' split
  all_goals first | exact raw _ | exact .refl output

theorem hdr_mode_leaves (output : Output device) (mode : CStr) : Leaves output (setHdrMode config output mode) := by
  rw [setHdrMode]
  split
  · exact (write_leaves config output .hdmiHdrMode mode (by decide)).trans (property_leaves _ _ _ (by decide))
  · exact .refl output

theorem sdr_mode_leaves (output next : Output device) (mode : CStr)
    (set : setSdrMode config crc32 outcomes output mode = some next) : Leaves output next := by
  rw [setSdrMode] at set
  split at set
  · exact ((write_leaves config output .hdmiSdrMode mode (by decide)).trans (property_leaves _ _ _ (by decide))).trans
      (save_leaves crc32 outcomes _ next _ _ (by decide) (by decide) set)
  · cases Option.some.inj set
    exact .refl output

theorem hdr_leaves (output next : Output device) (set : setHdr config crc32 outcomes output = some next) :
    Leaves output next := by
  rw [setHdr] at set
  split at set
  · obtain ⟨policy, _, strategy⟩ := Option.bind_eq_some_iff.mp set
    refine Leaves.trans ?_ (save_leaves crc32 outcomes _ next _ _ (by decide) (by decide) strategy)
    repeat' split
    all_goals first | exact write_leaves config output .hdrPolicy _ (by decide) | exact .refl output
  · simp only [initHdrSdrMode, Option.bind_eq_bind, Option.bind_eq_some_iff] at set
    obtain ⟨mode, _, _, _, sdr⟩ := set
    exact (hdr_mode_leaves config output mode).trans (sdr_mode_leaves config crc32 outcomes _ next _ sdr)

-- Whether updateDeepColor goes through the null mode.
def nulls (output : Output device) (outputmode : CStr) (state : OutputModeState) : Option Bool :=
  if config.mDisplayType = .tv then some false
  else do
    let colorAttribute ← deepColorOf config output outputmode state
    let attr ← copy modeLen (output.nodes .hdmiColorAttr)
    some (!contains attr.bytes colorAttribute.bytes)

theorem nulls_agree (output other : Output device) (agree : Agree output other)
    (attr : other.nodes .hdmiColorAttr = output.nodes .hdmiColorAttr) (outputmode : CStr) (state : OutputModeState) :
    nulls config other outputmode state = nulls config output outputmode state := by
  simp only [nulls, deepColorOf, attr, agree.props, hdmi_color_agree config output other agree]

theorem hdmi_not_cvbs (outputmode : CStr) (hdmi : HdmiMode outputmode) : cvbsMode outputmode = false := by
  rw [cvbsMode, decide_eq_false_iff_not]
  have others : ∀ mode ∈ [mode480Cvbs, mode576Cvbs, modePanel, modePalM, modePalN, modeNtscM, nullMode],
      contains mode.bytes hz.bytes = false := by
    decide
  intro member
  have absent := others outputmode member
  rw [hdmi.1] at absent
  cases absent

theorem null_not_hdmi (outputmode : CStr) (hdmi : HdmiMode outputmode) :
    contains nullMode.bytes outputmode.bytes = false := by
  rw [Bool.eq_false_iff]
  intro inside
  have both := ((contains_iff _ _).mp hdmi.1).trans ((contains_iff _ _).mp inside)
  exact absurd ((contains_iff _ _).mpr both) (by decide)

theorem set_color_cases (output : Output device) (attr colorAttribute : CStr) (lcd : isLcdExist output = 0) :
    if contains attr.bytes colorAttribute.bytes = true then setColor config output attr colorAttribute = output
    else
      Leaves (writeSysfs config output .displayMode nullMode) (setColor config output attr colorAttribute) := by
  rw [setColor]
  split
  · rfl
  · exact write_leaves config _ .hdmiColorAttr colorAttribute (by decide)

theorem update_deep_color_cases (output next : Output device) (outputmode : CStr) (state : OutputModeState)
    (hdmi : HdmiMode outputmode) (lcd : isLcdExist output = 0)
    (updated : updateDeepColor config crc32 outcomes output outputmode state = some next) :
    ∃ nulled, nulls config output outputmode state = some nulled ∧
      Leaves (if nulled then writeSysfs config output .displayMode nullMode else output) next := by
  rw [updateDeepColor, hdmi_not_cvbs outputmode hdmi] at updated
  by_cases tv : config.mDisplayType = .tv
  · rw [if_pos (.inr tv)] at updated
    cases Option.some.inj updated
    exact ⟨false, by rw [nulls, if_pos tv], .refl output⟩
  · rw [if_neg (by simp [tv])] at updated
    simp only [Option.bind_eq_bind, Option.bind_eq_some_iff] at updated
    obtain ⟨colorAttribute, its, attr, read, colored, saved, last⟩ := updated
    have after := (save_color_leaves crc32 outcomes _ colored _ _ saved).trans
      (save_leaves crc32 outcomes colored next _ _ (by decide) (by decide) last)
    refine ⟨!contains attr.bytes colorAttribute.bytes, by simp [nulls, tv, its, read], ?_⟩
    have set := set_color_cases config output attr colorAttribute lcd
    by_cases same : contains attr.bytes colorAttribute.bytes = true
    · rw [if_pos same] at set
      rw [same]
      exact set ▸ after
    · rw [if_neg same] at set
      rw [Bool.not_eq_true] at same
      rw [same]
      exact set.trans after

theorem save_mode_cases (output next : Output device) (saved : saveMode config crc32 outcomes output = some next) :
    next.nodes = output.nodes ∧ next.phy = output.phy ∧ next.hdcpTx = output.hdcpTx ∧ next.written = output.written ∧
      next.board.env.mEnvInitDone = output.board.env.mEnvInitDone ∧
      (output.board.env.mEnvInitDone = true → HdmiMode (output.nodes .displayMode) →
        getValue next.board.env (nameOf ubootenvHdmimode) = some (output.nodes .displayMode)) := by
  simp only [saveMode, Option.bind_eq_bind, Option.bind_eq_some_iff] at saved
  obtain ⟨finalMode, read, middle, first, last⟩ := saved
  cases copy_eq_some _ _ _ read
  have opened : middle.nodes = output.nodes ∧ middle.phy = output.phy ∧ middle.hdcpTx = output.hdcpTx ∧
      middle.written = output.written ∧ middle.board.env.mEnvInitDone = output.board.env.mEnvInitDone := by
    split at first
    · cases Option.some.inj first
      exact ⟨rfl, rfl, rfl, rfl, rfl⟩
    · exact save_kept crc32 outcomes output middle _ _ (by decide) first
  obtain ⟨nodes, phy, hdcpTx, written, init⟩ := opened
  by_cases analog : contains (output.nodes .displayMode).bytes cvbs.bytes = true
  · rw [if_pos analog] at last
    obtain ⟨nodes', phy', hdcpTx', written', init'⟩ := save_kept crc32 outcomes middle next _ _ (by decide) last
    refine ⟨nodes'.trans nodes, phy'.trans phy, hdcpTx'.trans hdcpTx, written'.trans written, init'.trans init,
      fun _ hdmi => ?_⟩
    rw [hdmi.2] at analog
    cases analog
  rw [if_neg analog] at last
  by_cases rate : contains (output.nodes .displayMode).bytes hz.bytes = true
  · rw [if_pos rate] at last
    obtain ⟨nodes', phy', hdcpTx', written', init'⟩ := save_kept crc32 outcomes middle next _ _ (by decide) last
    refine ⟨nodes'.trans nodes, phy'.trans phy, hdcpTx'.trans hdcpTx, written'.trans written, init'.trans init,
      fun done _ => ?_⟩
    obtain ⟨board, set, same⟩ := Option.map_eq_some_iff.mp last
    subst same
    refine (set_boot_env_cases crc32 middle.board board _ _ _ (init.trans done) (by decide) set).2.1 fun empty => ?_
    rw [empty] at rate
    exact absurd rate (by decide)
  · rw [if_neg rate] at last
    cases Option.some.inj last
    exact ⟨nodes, phy, hdcpTx, written, init, fun _ hdmi => absurd hdmi.1 rate⟩

theorem open_phy_cases (output : Output device) (phyEnabledAlready : Bool) :
    (openPhy config output phyEnabledAlready).nodes .displayMode = output.nodes .displayMode ∧
      (openPhy config output phyEnabledAlready).nodes .hdmiAvmute = minusOne ∧
      (openPhy config output phyEnabledAlready).phy = (output.phy || !phyEnabledAlready) ∧
      (openPhy config output phyEnabledAlready).board = output.board ∧
      output.written ⊆ (openPhy config output phyEnabledAlready).written := by
  have on : decide (one ≠ zero) = true := by decide
  cases phyEnabledAlready with
  | true => simp [openPhy, writeSysfs]
  | false => simp [openPhy, writeSysfs, on]

theorem finish_cases (output next : Output device) (outputmode : CStr) (state : OutputModeState)
    (phyEnabledAlready : Bool) (hdmi : HdmiMode outputmode)
    (finished : finish config crc32 outcomes output outputmode state phyEnabledAlready = some next) :
    next.nodes .displayMode = output.nodes .displayMode ∧ output.written ⊆ next.written ∧
      next.board.env.mEnvInitDone = output.board.env.mEnvInitDone ∧
      (state ≠ .init →
        next.phy = (output.phy || !phyEnabledAlready) ∧ next.nodes .hdmiAvmute = minusOne ∧ next.hdcpTx = true) ∧
      (output.board.env.mEnvInitDone = true → HdmiMode (output.nodes .displayMode) →
        getValue next.board.env (nameOf ubootenvHdmimode) = some (output.nodes .displayMode)) := by
  simp only [finish, hdmi_not_cvbs outputmode hdmi, Option.bind_eq_bind, Option.bind_eq_some_iff, Bool.false_eq_true,
    if_false, and_true] at finished
  obtain ⟨processed, hdr, lit, after, value, _, saved⟩ := finished
  have hdr := hdr_leaves config crc32 outcomes output processed hdr
  have digital := digital_leaves config lit (value.getD .empty)
  obtain ⟨nodes, phy, hdcpTx, written, init, hdmimode⟩ := save_mode_cases config crc32 outcomes _ next saved
  rw [nodes, phy, hdcpTx, written, init, digital.mode, digital.avmute, digital.phy, digital.hdcpTx, digital.done]
  by_cases first : state = .init
  · simp only [first, ne_eq, not_true_eq_false, if_false, Option.map_eq_some_iff] at after
    obtain ⟨edid, _, same⟩ := after
    subst same
    refine ⟨hdr.mode, List.Subset.trans hdr.written digital.written, hdr.done, fun other => absurd first other,
      fun done shown => ?_⟩
    have started := digital.mode.trans hdr.mode
    rw [hdmimode (digital.done.trans (hdr.done.trans done)) (started ▸ shown)]
    exact congrArg some started
  · simp only [first, ne_eq, not_false_eq_true, if_true, Option.some.injEq] at after
    obtain ⟨mode, avmute, powered, board, opened⟩ := open_phy_cases config processed phyEnabledAlready
    have video := write_leaves config (start (openPhy config processed phyEnabledAlready)) .disableVideo zero (by decide)
    subst after
    have shown := digital.mode.trans (video.mode.trans (mode.trans hdr.mode))
    have kept := video.done.trans ((congrArg (fun b => b.env.mEnvInitDone) board).trans hdr.done)
    refine ⟨video.mode.trans (mode.trans hdr.mode), ?_, kept, fun _ => ⟨?_, video.avmute.trans avmute, video.hdcpTx⟩,
      fun done its => ?_⟩
    · exact List.Subset.trans (List.Subset.trans hdr.written opened) (List.Subset.trans video.written digital.written)
    · rw [video.phy]
      exact powered.trans (congrArg (· || !phyEnabledAlready) hdr.phy)
    · rw [hdmimode (digital.done.trans (kept.trans done)) (shown ▸ its)]
      exact congrArg some shown

-- The outputs are muted and HDCP has stopped, and nothing else has changed.
theorem closed_cases (output : Output device) (state : OutputModeState) :
    Agree output (stop config (closePhy config output state).1) ∧
      (stop config (closePhy config output state).1).nodes .hdmiColorAttr = output.nodes .hdmiColorAttr ∧
      (state ≠ .init →
        ((stop config (closePhy config output state).1).phy || !(closePhy config output state).2) =
            (output.phy || decide (state ≠ .power)) ∧
          (.hdmiAvmute, one) ∈ (stop config (closePhy config output state).1).written) := by
  by_cases first : state = .init
  · refine ⟨⟨?_, ?_, ?_, ?_, ?_⟩, ?_, fun other => absurd first other⟩ <;> simp [closePhy, stop, writeSysfs, first]
  by_cases power : state = .power
  · refine ⟨⟨?_, ?_, ?_, ?_, ?_⟩, ?_, fun _ => ⟨?_, ?_⟩⟩ <;> simp [closePhy, stop, writeSysfs, power]
  · refine ⟨⟨?_, ?_, ?_, ?_, ?_⟩, ?_, fun _ => ⟨?_, ?_⟩⟩ <;> simp [closePhy, stop, writeSysfs, first, power]

theorem switch_mode_cases (output : Output device) (curDisplayMode curMode outputmode : CStr) (hdmi : HdmiMode outputmode)
    (lcd : isLcdExist output = 0) :
    switchMode config output curDisplayMode curMode outputmode =
      if contains curMode.bytes outputmode.bytes then output else writeSysfs config output .displayMode outputmode := by
  simp [switchMode, hdmi_not_cvbs outputmode hdmi, lcd]

-- What a call that turned the picture off is over with.
def Dark (next : Output device) : Prop := (.hdmiAvmute, one) ∈ next.written ∨ (.hdmiPhy, zero) ∈ next.written

structure Reaches (next : Output device) (outputmode : CStr) (state : OutputModeState) : Prop where
  shown : next.nodes .displayMode = outputmode
  saved : getValue next.board.env (nameOf ubootenvHdmimode) = some outputmode
  lit : state ≠ .init → Dark next → next.phy = true ∧ next.nodes .hdmiAvmute = minusOne ∧ next.hdcpTx = true

def Switches (output : Output device) (outputmode : CStr) (state : OutputModeState) : Prop :=
  if alreadyShown config output outputmode state = some true then
    getValue output.board.env (nameOf ubootenvHdmimode) = some outputmode
  else
    output.board.env.mEnvInitDone = true ∧
      (nulls config output outputmode state = some true ∨
        contains (output.nodes .displayMode).bytes outputmode.bytes = false ∨
        (output.nodes .displayMode = outputmode ∧ (state = .power → output.phy = true)))

theorem get_value_off (env : Ubootenv device) (key : CStr) (off : env.mEnvInitDone = false) : getValue env key = none := by
  simp [getValue, Bootenv.get, off]

theorem already_shown_mode (output : Output device) (outputmode : CStr) (state : OutputModeState)
    (shown : alreadyShown config output outputmode state = some true) : output.nodes .displayMode = outputmode := by
  simp only [alreadyShown, Option.bind_eq_bind, Option.bind_eq_some_iff] at shown
  obtain ⟨value, _, curDisplayMode, read, rest⟩ := shown
  cases copy_eq_some _ _ _ read
  by_cases same : state = .switch ∧ value = zero ∧ outputmode = output.nodes .displayMode
  · exact same.2.2.symm
  · rw [if_neg same] at rest
    cases rest

-- What a call that does not return early leaves; wrote says whether it writes the mode.
structure Switched (output next : Output device) (outputmode : CStr) (state : OutputModeState) (wrote : Bool) : Prop where
  mode : next.nodes .displayMode = if wrote then outputmode else output.nodes .displayMode
  done : next.board.env.mEnvInitDone = output.board.env.mEnvInitDone
  phy : state ≠ .init → next.phy = (wrote || output.phy || decide (state ≠ .power))
  dark : state ≠ .init → (.hdmiAvmute, one) ∈ next.written
  lit : state ≠ .init → next.nodes .hdmiAvmute = minusOne ∧ next.hdcpTx = true
  saved : output.board.env.mEnvInitDone = true → HdmiMode (next.nodes .displayMode) →
    getValue next.board.env (nameOf ubootenvHdmimode) = some (next.nodes .displayMode)

-- The state in which the mode is compared.
structure Colored (output colored : Output device) (state : OutputModeState) (phyEnabledAlready nulled : Bool) : Prop where
  mode : colored.nodes .displayMode = if nulled then nullMode else output.nodes .displayMode
  lcd : isLcdExist colored = 0
  done : colored.board.env.mEnvInitDone = output.board.env.mEnvInitDone
  phy : state ≠ .init → nulled = false → (colored.phy || !phyEnabledAlready) = (output.phy || decide (state ≠ .power))
  dark : state ≠ .init → (.hdmiAvmute, one) ∈ colored.written

theorem colored_cases (output colored : Output device) (outputmode : CStr) (state : OutputModeState)
    (hdmi : HdmiMode outputmode) (lcd : isLcdExist output = 0)
    (deep : updateDeepColor config crc32 outcomes
      (stop config (closePhy config { output with written := [] } state).1) outputmode state = some colored) :
    ∃ nulled, nulls config output outputmode state = some nulled ∧
      Colored output colored state (closePhy config { output with written := [] } state).2 nulled := by
  obtain ⟨agree, attr, dark⟩ := closed_cases config { output with written := [] } state
  generalize stop config (closePhy config { output with written := [] } state).1 = closed at deep agree attr dark
  have agree : Agree output closed := ⟨agree.board, agree.props, agree.mode, agree.colors, agree.edid⟩
  have screen : isLcdExist closed = 0 := by rw [isLcdExist, agree.props, ← isLcdExist, lcd]
  obtain ⟨nulled, color, leaves⟩ :=
    update_deep_color_cases config crc32 outcomes closed colored outputmode state hdmi screen deep
  rw [nulls_agree config output closed agree attr] at color
  refine ⟨nulled, color, ?_⟩
  cases nulled with
  | true =>
      refine ⟨?_, leaves.lcd.trans screen, leaves.done.trans (by rw [← agree.board]; rfl), fun _ plain => ?_, fun later => ?_⟩
      · exact leaves.mode.trans (write_node config closed .displayMode nullMode)
      · cases plain
      · exact leaves.written (write_kept config closed .displayMode nullMode (dark later).2)
  | false =>
      refine ⟨leaves.mode.trans agree.mode, leaves.lcd.trans screen, leaves.done.trans (by rw [← agree.board]; rfl),
        fun later _ => ?_, fun later => leaves.written (dark later).2⟩
      rw [leaves.phy]
      exact (dark later).1

theorem switch_cases (output next : Output device) (outputmode : CStr) (state : OutputModeState)
    (hdmi : HdmiMode outputmode) (lcd : isLcdExist output = 0)
    (quiet : contains config.mRebootMode.bytes quiescent.bytes = false)
    (ran : setSourceOutputMode config crc32 outcomes output outputmode state = some next)
    (shown : alreadyShown config output outputmode state ≠ some true) :
    ∃ nulled, nulls config output outputmode state = some nulled ∧
      Switched output next outputmode state
        (nulled || !contains (output.nodes .displayMode).bytes outputmode.bytes) := by
  simp only [setSourceOutputMode, Option.bind_eq_bind, Option.bind_eq_some_iff] at ran
  obtain ⟨early, its, ran⟩ := ran
  have late : early = false := Bool.eq_false_iff.mpr fun same => shown (same ▸ its)
  subst late
  simp only [Bool.false_eq_true, if_false, quiet, Bool.false_and, Option.bind_eq_some_iff] at ran
  obtain ⟨colored, deep, curMode, read, finished⟩ := ran
  cases copy_eq_some _ _ _ read
  obtain ⟨nulled, color, after⟩ := colored_cases config crc32 outcomes output colored outputmode state hdmi lcd deep
  refine ⟨nulled, color, ?_⟩
  rw [switch_mode_cases config colored _ _ outputmode hdmi after.lcd] at finished
  have compared : contains (colored.nodes .displayMode).bytes outputmode.bytes =
      !(nulled || !contains (output.nodes .displayMode).bytes outputmode.bytes) := by
    rw [after.mode]
    cases nulled with
    | true => exact null_not_hdmi outputmode hdmi
    | false => simp
  generalize written : (nulled || !contains (output.nodes .displayMode).bytes outputmode.bytes) = wrote at compared ⊢
  rw [compared] at finished
  obtain ⟨shows, logged, kept, opened, saved⟩ := finish_cases config crc32 outcomes _ next outputmode state _ hdmi finished
  cases wrote with
  | true =>
      simp only [Bool.not_true, Bool.false_eq_true, if_false, write_node] at shows logged kept opened saved
      refine ⟨shows, kept.trans after.done, fun later => ?_, fun later => ?_, fun later => (opened later).2, fun done _ => ?_⟩
      · rw [(opened later).1]
        simp [writeSysfs, config.driver.lit outputmode _ hdmi]
      · exact logged (write_kept config colored _ _ (after.dark later))
      · rw [saved (after.done.trans done) hdmi, shows]
  | false =>
      obtain ⟨plain, _⟩ := Bool.or_eq_false_iff.mp written
      subst plain
      simp only [Bool.not_false, if_true, Bool.not_true, Bool.or_false] at shows logged kept opened saved
      have mode := shows.trans after.mode
      refine ⟨mode, kept.trans after.done, fun later => ?_, fun later => logged (after.dark later),
        fun later => (opened later).2, fun done its => ?_⟩
      · rw [(opened later).1, after.phy later rfl, Bool.false_or]
      · rw [saved (after.done.trans done) (shows ▸ its), shows]

theorem switched_reaches_iff (output next : Output device) (outputmode : CStr) (state : OutputModeState) (wrote : Bool)
    (hdmi : HdmiMode outputmode) (switched : Switched output next outputmode state wrote) :
    Reaches next outputmode state ↔ output.board.env.mEnvInitDone = true ∧
      (wrote = true ∨ (output.nodes .displayMode = outputmode ∧ (state = .power → output.phy = true))) := by
  constructor
  · intro reaches
    have inited : output.board.env.mEnvInitDone = true := by
      rw [← switched.done, ← Bool.not_eq_false]
      intro off
      have stored := reaches.saved
      rw [get_value_off _ _ off] at stored
      cases stored
    refine ⟨inited, ?_⟩
    cases wrote with
    | true => exact .inl rfl
    | false =>
        refine .inr ⟨switched.mode.symm.trans reaches.shown, fun power => ?_⟩
        have later : state ≠ .init := by rw [power]; decide
        have on := (reaches.lit later (.inl (switched.dark later))).1
        rw [switched.phy later, power] at on
        simpa using on
  · rintro ⟨done, way⟩
    have shown : next.nodes .displayMode = outputmode := by
      rw [switched.mode]
      rcases way with wrote | ⟨same, _⟩
      · rw [if_pos wrote]
      · rw [same, ite_self]
    refine ⟨shown, (switched.saved done (shown ▸ hdmi)).trans (congrArg some shown), fun later _ => ⟨?_, switched.lit later⟩⟩
    rw [switched.phy later]
    rcases way with wrote | ⟨_, power⟩
    · rw [wrote, Bool.true_or, Bool.true_or]
    · by_cases on : state = .power
      · simp [power on]
      · simp [on]

-- The call reaches its target exactly when it writes the mode, or finds that mode shown, with the PHY on
-- where it does not turn it off itself.
theorem mode_reached_iff (output next : Output device) (outputmode : CStr) (state : OutputModeState)
    (hdmi : HdmiMode outputmode) (lcd : isLcdExist output = 0)
    (quiet : contains config.mRebootMode.bytes quiescent.bytes = false)
    (ran : setSourceOutputMode config crc32 outcomes output outputmode state = some next) :
    Reaches next outputmode state ↔ Switches config output outputmode state := by
  by_cases early : alreadyShown config output outputmode state = some true
  · rw [Switches, if_pos early]
    have same : next = { output with written := [] } := by
      simp only [setSourceOutputMode, early, Option.bind_eq_bind, Option.bind_some, if_true, Option.some.injEq] at ran
      exact ran.symm
    subst same
    constructor
    · exact Reaches.saved
    · intro saved
      exact ⟨already_shown_mode config output outputmode state early, saved, fun _ dark => by simp [Dark] at dark⟩
  · rw [Switches, if_neg early]
    obtain ⟨nulled, color, switched⟩ := switch_cases config crc32 outcomes output next outputmode state hdmi lcd quiet ran early
    rw [switched_reaches_iff output next outputmode state _ hdmi switched, color, Option.some.injEq, Bool.or_eq_true,
      Bool.not_eq_true', or_assoc]

end

def hdmiDriver : Driver where
  validMode := fun _ => one
  phyAfter := fun mode _ => decide (mode ≠ nullMode)
  lit := by
    intro mode _ hdmi
    refine decide_eq_true fun same => ?_
    rw [same] at hdmi
    exact absurd hdmi.1 (by decide)

def box : Config := ⟨.mbox, .empty, [], hdmiDriver⟩

def vga60 : CStr := ⟨ascii ['6', '4', '0', 'x', '4', '8', '0', 'p', '6', '0', 'h', 'z'], by decide⟩
def sd60 : CStr := ⟨ascii ['4', '8', '0', 'p', '6', '0', 'h', 'z'], by decide⟩

def line (key value : CStr) : Bytes := key.bytes ++ 0x3D :: value.bytes ++ [0]

def envText : Bytes :=
  line (vga60.append deepcolor) (colorYcbcr444 bit8) ++ line (sd60.append deepcolor) (colorYcbcr444 bit8) ++
    line ubootenvColorattribute (colorYcbcr444 bit8) ++ line ubootenvHdmimode vga60 ++ line ubootenvOutputmode vga60 ++
    line ubootenvSdr2hdr zero ++ [0]

def boxFlash : EnvImage (.blockUbootenv 149 8 (by decide)) :=
  ⟨Crc.crc32 envText, envText, List.replicate 4 0, by decide +kernel, by decide +kernel⟩

def shownOn (mode : CStr) : Output (.blockUbootenv 149 8 (by decide)) where
  board := ⟨⟨some boxFlash, (parseAttribute envText).getD [], true⟩, boxFlash⟩
  nodes := fun node =>
    match node with
    | .displayMode => mode
    | .hdmiColorAttr => colorYcbcr444 bit8
    | _ => .empty
  props := fun _ => .empty
  phy := true
  hdcpTx := true
  mBootAnimFinished := true
  mEdid := .empty
  written := []

theorem mode_reached_vga60 :
    ∃ next, setSourceOutputMode box Crc.crc32 (fun _ _ => .stored) (shownOn sd60) vga60 .switch = some next ∧
      Reaches next vga60 .switch := by
  have done : (setSourceOutputMode box Crc.crc32 (fun _ _ => .stored) (shownOn sd60) vga60 .switch).isSome = true := by
    decide +kernel
  obtain ⟨next, ran⟩ := Option.isSome_iff_exists.mp done
  have switches : Switches box (shownOn sd60) vga60 .switch := by
    unfold Switches
    decide +kernel
  exact ⟨next, ran, (mode_reached_iff box Crc.crc32 _ (shownOn sd60) next vga60 .switch ⟨by decide, by decide⟩
    (by decide) (by decide) ran).mpr switches⟩

-- 640x480p60hz stays where 480p60hz is asked for.
theorem contained_mode_kept :
    HdmiMode sd60 ∧ isLcdExist (shownOn vga60) = 0 ∧
      ∃ next, setSourceOutputMode box Crc.crc32 (fun _ _ => .stored) (shownOn vga60) sd60 .switch = some next ∧
        next.nodes .displayMode = vga60 ∧ ¬Reaches next sd60 .switch := by
  have kept : (setSourceOutputMode box Crc.crc32 (fun _ _ => .stored) (shownOn vga60) sd60 .switch).map
      (fun next => next.nodes .displayMode) = some vga60 := by
    decide +kernel
  obtain ⟨next, ran, mode⟩ := Option.map_eq_some_iff.mp kept
  refine ⟨⟨by decide, by decide⟩, by decide, next, ran, mode, fun reaches => ?_⟩
  rw [reaches.shown] at mode
  exact absurd mode (by decide)

end Droidlogic.Display
