import Droidlogic.Pq.IntegerList
import Droidlogic.Ssm.Isolation
import Droidlogic.Ssm.Recovery

set_option autoImplicit false

namespace Droidlogic.Ssm

open Droidlogic.Lib Droidlogic.Config Droidlogic.Pq.IntegerList

def ssmRsvWCharacterCharStart : Nat := 10
def ssmMark01Start : Nat := 12
def ssmMark02Start : Nat := 13
def ssmMark03Start : Nat := 14
def customerDataPosHdmi1EdidStart : Nat := 281
def customerDataPosHdmi2EdidStart : Nat := 282
def customerDataPosHdmi3EdidStart : Nat := 283
def customerDataPosHdmi4EdidStart : Nat := 284
def customerDataPosHdmiHdcpSwitcherStart : Nat := 285
def customerDataPosHdmiColorRangeStart : Nat := 287

def ccDefCharacterCharVal : Int32 := 0x8A

def saveBurnWriteCharaterChar (rw_val : Int32) (dev : File) : Int × File :=
  saveWord ssmRsvWCharacterCharStart 1 0 rw_val.toUInt32 dev

def readBurnWriteCharaterChar (dev : File) : Int32 × File :=
  let done := readWord ssmRsvWCharacterCharStart 1 0 0 UInt32.toInt32 dev
  if done.1 < 0 then (-1, done.2.2) else done.2

def marks : List (Nat × Int32) := [(ssmMark01Start, 0x90), (ssmMark02Start, 0xCE), (ssmMark03Start, 0xDF)]

-- A read that fails leaves the loop.
def checkMarks : List (Nat × Int32) → Nat → File → Nat × File
  | [], failed_count, dev => (failed_count, dev)
  | (mark_offset, mark_value) :: rest, failed_count, dev =>
      let done := readWord mark_offset 1 0 0 UInt32.toUInt8 dev
      if done.1 < 0 then (failed_count, done.2.2)
      else checkMarks rest (if done.2.1 ≠ mark_value.toUInt32.toUInt8 then failed_count + 1 else failed_count) done.2.2

-- What DeviceMarkCheck does before it comes to the marks.
def checkCharacter (dev : File) : File :=
  let temp := readWord 0 1 0 0 id dev
  let character := readBurnWriteCharaterChar temp.2.2
  if character.1 ≠ ccDefCharacterCharVal then (saveBurnWriteCharaterChar ccDefCharacterCharVal character.2).2
  else character.2

def deviceMarkCheck (dev : File) : Int × File :=
  let checked := checkMarks marks 0 (checkCharacter dev)
  (if checked.1 ≥ 3 then -1 else 0, checked.2)

def restoreMarks : List (Nat × Int32) → File → Int × File
  | [], dev => (0, dev)
  | (mark_offset, mark_value) :: rest, dev =>
      let done := saveWord mark_offset 1 0 mark_value.toUInt32 dev
      if done.1 < 0 then (-1, done.2) else restoreMarks rest done.2

def restoreDeviceMarkValues (dev : File) : Int × File := restoreMarks marks dev

inductive SSMStatus
  | ssmHeaderInvalid
  | ssmHeaderValid
  | ssmHeaderStructChange
deriving DecidableEq

def decodeSection1 (memory : Bytes) : SSMHeaderSection1 :=
  ⟨word32 memory, word32 (memory.drop 4), word32 (memory.drop 8), (List.range 6).map fun i => word32 (memory.drop (12 + 4 * i))⟩

-- A short read leaves what mSSMHeader_section1 had, which is not looked at then.
def section1Status (got : Bytes) : SSMStatus :=
  let header := decodeSection1 got
  if got.length ≠ 36 ∨ header.magic ≠ gSSMHeaderSection1.magic ∨ header.count ≠ gSSMHeaderSection1.count then
    .ssmHeaderInvalid
  else if header.version ≠ gSSMHeaderSection1.version then .ssmHeaderStructChange
  else .ssmHeaderValid

def ssmSection1Verify (hdr : File) : SSMStatus × File :=
  let got := (hdr.lseek 0).read 36
  (section1Status got.1, got.2)

def ssmSection2Verify (status : SSMStatus) : SSMStatus := status

def ssmVerify (hdr : File) : SSMStatus × File :=
  let verified := ssmSection1Verify hdr
  (ssmSection2Verify verified.1, verified.2)

-- The files of SSMHandler and of SSMAction.
structure Flash where
  hdr : File
  dev : File

-- none is an observer that crashes.
def init (mpObserver : Option (File → Option File)) (flash : Flash) : Option Flash :=
  let status := ssmVerify flash.hdr
  let checked := deviceMarkCheck flash.dev
  if checked.1 < 0 ∨ status.1 = .ssmHeaderInvalid then
    match mpObserver with
    | none => some ⟨status.2, checked.2⟩
    | some resetAllUserSettingParam => do
        let dev ← resetAllUserSettingParam checked.2
        some ⟨(ssmRecreateHeader status.2).2, (restoreDeviceMarkValues dev).2⟩
  else if status.1 = .ssmHeaderStructChange then
    match mpObserver with
    | none => some ⟨status.2, checked.2⟩
    | some resetAllUserSettingParam => do
        let dev ← resetAllUserSettingParam checked.2
        some ⟨status.2, (restoreDeviceMarkValues dev).2⟩
  else some ⟨status.2, checked.2⟩

structure VppPqPara where
  brightness : Int32
  contrast : Int32
  saturation : Int32
  hue : Int32
  sharpness : Int32
  backlight : Int32
  nr : Int32

def sectionHdmi : CStr := .read (ascii ['H', 'D', 'M', 'I'])

def cfgPicturemodeDef : CStr := .read (ascii ("pq.PictureMode.def").toList)
def cfgColortempturemodeDef : CStr := .read (ascii ("pq.ColorTemperature.def").toList)
def cfgColordemomodeDef : CStr := .read (ascii ("pq.ColorDemoMode.def").toList)
def cfgColorspaceDef : CStr := .read (ascii ("pq.ColorSpace.def").toList)
def cfgRgbgainRDef : CStr := .read (ascii ("pq.RGBGainR.def").toList)
def cfgRgbgainGDef : CStr := .read (ascii ("pq.RGBGainG.def").toList)
def cfgRgbgainBDef : CStr := .read (ascii ("pq.RGBGainB.def").toList)
def cfgRgbpostoffsetRDefDef : CStr := .read (ascii ("pq.RGBPostOffsetR.def").toList)
def cfgRgbpostoffsetGDefDef : CStr := .read (ascii ("pq.RGBPostOffsetG.def").toList)
def cfgRgbpostoffsetBDefDef : CStr := .read (ascii ("pq.RGBPostOffsetB.def").toList)
def cfgGammalevelDef : CStr := .read (ascii ("pq.GammaLevel.def").toList)
def cfgDisplaymodeDef : CStr := .read (ascii ("pq.DisplayMode.def").toList)
def cfgAutoaspectDef : CStr := .read (ascii ("pq.AutoAspect.def").toList)
def cfg43stretchDef : CStr := .read (ascii ("pq.43Stretch.def").toList)
def cfgDnlplevelDef : CStr := .read (ascii ("pq.DnlpLevel.def").toList)
def cfgDnlpgainDef : CStr := .read (ascii ("pq.DnlpGain.def").toList)
def cfgEyeprojectmodeDef : CStr := .read (ascii ("pq.EyeProtectionMode.def").toList)
def cfgDdrsscDef : CStr := .read (ascii ("pq.DDRSSC.def").toList)
def cfgLocalcontrastmodeDef : CStr := .read (ascii ("pq.LocalContrastMode.def").toList)
def cfgEdidVersionDef : CStr := .read (ascii ("hdmi.edid.version.def").toList)
def cfgColorRangeModeDef : CStr := .read (ascii ("hdmi.color.range.mode.def").toList)

def vppDisplayModeNormal : Int := 6

-- What PQ_GetPQModeParams leaves in pq_para for each source, and the configuration file.
structure Factory where
  pqPara : Nat → VppPqPara
  mPQConfigFile : CConfigFile

namespace Factory

variable (factory : Factory)

def pqInt (key : CStr) (def_value : Int) : Int := getInt factory.mPQConfigFile sectionPq key def_value

def sourceCalls (stack : UInt32) (i : Nat) : List Call :=
  let pq_para := factory.pqPara i
  [⟨.brightness, .ofNat i, pq_para.brightness.toInt, stack⟩,
    ⟨.contrast, .ofNat i, pq_para.contrast.toInt, stack⟩,
    ⟨.saturation, .ofNat i, pq_para.saturation.toInt, stack⟩,
    ⟨.hue, .ofNat i, pq_para.hue.toInt, stack⟩,
    ⟨.sharpness, .ofNat i, pq_para.sharpness.toInt, stack⟩,
    ⟨.backLightVal, 0, pq_para.backlight.toInt, stack⟩,
    ⟨.noiseReduction, .ofNat i, pq_para.nr.toInt, stack⟩,
    ⟨.pictureMode, .ofNat i, factory.pqInt cfgPicturemodeDef vppPictureModeStandard.toInt, stack⟩,
    ⟨.colorTemperature, .ofNat i, factory.pqInt cfgColortempturemodeDef vppColorTemperatureModeStandard.toInt, stack⟩,
    ⟨.displayMode, .ofNat i, factory.pqInt cfgDisplaymodeDef vppDisplayModeNormal, stack⟩,
    ⟨.gammaValue, .ofNat i, factory.pqInt cfgGammalevelDef vppGammaCurveDefault.toInt, stack⟩,
    ⟨.autoAspect, .ofNat i, factory.pqInt cfgAutoaspectDef 1, stack⟩,
    ⟨.stretch43, .ofNat i, factory.pqInt cfg43stretchDef 0, stack⟩,
    ⟨.dnlpMode, .ofNat i, factory.pqInt cfgDnlplevelDef dynamicContrastMid.toInt, stack⟩,
    ⟨.dnlpGainValue, .ofNat i, factory.pqInt cfgDnlpgainDef 0, stack⟩,
    ⟨.localContrastMode, .ofNat i, factory.pqInt cfgLocalcontrastmodeDef 2, stack⟩]

def rgbCalls (stack : UInt32) (i : Nat) : List Call :=
  [⟨.rgbValue, .ofNat i + vppColorTemperatureModeStandard * 6, (stdBuf.getD i 0).toInt, stack⟩,
    ⟨.rgbValue, .ofNat i + vppColorTemperatureModeWarm * 6, (warmBuf.getD i 0).toInt, stack⟩,
    ⟨.rgbValue, .ofNat i + vppColorTemperatureModeCold * 6, (coldBuf.getD i 0).toInt, stack⟩]

-- The value of the key for the base mode is read but not used.
def panelCalls (stack : UInt32) : List Call :=
  [⟨.colorDemoMode, 0, factory.pqInt cfgColordemomodeDef vppColorDemoModeAllon.toNat, stack⟩,
    ⟨.colorBaseMode, 0, vppColorBaseModeOptimize.toNat, stack⟩,
    ⟨.rgbGainR, 0, factory.pqInt cfgRgbgainRDef 0, stack⟩,
    ⟨.rgbGainG, 0, factory.pqInt cfgRgbgainGDef 0, stack⟩,
    ⟨.rgbGainB, 0, factory.pqInt cfgRgbgainBDef 0, stack⟩,
    ⟨.rgbPostOffsetR, 0, factory.pqInt cfgRgbpostoffsetRDefDef 1024, stack⟩,
    ⟨.rgbPostOffsetG, 0, factory.pqInt cfgRgbpostoffsetGDefDef 1024, stack⟩,
    ⟨.rgbPostOffsetB, 0, factory.pqInt cfgRgbpostoffsetBDefDef 1024, stack⟩]

def lastCalls (stack : UInt32) : List Call :=
  [⟨.colorSpace, 0, factory.pqInt cfgColorspaceDef vppColorSpaceAuto.toNat, stack⟩,
    ⟨.ddrSsc, 0, factory.pqInt cfgDdrsscDef 0, stack⟩,
    ⟨.lvdsSsc, 0, 0, stack⟩,
    ⟨.eyeProtectionMode, 0, factory.pqInt cfgEyeprojectmodeDef 0, stack⟩]

def calls (stack : UInt32) : List Call :=
  (List.range sourceMax).flatMap (factory.sourceCalls stack) ++ factory.panelCalls stack ++
    (List.range 6).flatMap (rgbCalls stack) ++ factory.lastCalls stack

end Factory

def ssmEdidRestoreDefault (rw_val : Int32) (dev : File) : File :=
  [customerDataPosHdmi1EdidStart, customerDataPosHdmi2EdidStart, customerDataPosHdmi3EdidStart,
    customerDataPosHdmi4EdidStart].foldl (fun dev id => (saveWord id 1 0 rw_val.toUInt32 dev).2) dev

def ssmHdcpSwitcherRestoreDefault (rw_val : Int32) (dev : File) : File :=
  (saveWord customerDataPosHdmiHdcpSwitcherStart 1 0 rw_val.toUInt32 dev).2

def ssmSColorRangeModeRestoreDefault (rw_val : Int32) (dev : File) : File :=
  (saveWord customerDataPosHdmiColorRangeStart 1 0 rw_val.toUInt32 dev).2

-- none is a strcmp with the null pointer or a list that does not fit tmp[2].
def resetAllUserSettingParam (factory : Factory) (stack : UInt32) (dev : File) : Option File := do
  let _tmp ← lvdssscParam factory.mPQConfigFile
  let edid ← find sectionHdmi cfgEdidVersionDef factory.mPQConfigFile.mpFirstLine
  let range ← find sectionHdmi cfgColorRangeModeDef factory.mPQConfigFile.mpFirstLine
  let dev := (factory.calls stack).foldl (fun dev call => call.apply dev) dev
  let dev := ssmEdidRestoreDefault (if edid.bytes = ascii ("edid_20").toList then 1 else 0) dev
  let dev := ssmHdcpSwitcherRestoreDefault 0 dev
  some (ssmSColorRangeModeRestoreDefault
    (if range.bytes = ascii ("full").toList then 1 else if range.bytes = ascii ("limit").toList then 2 else 0) dev)

inductive Event
  | boot (stack : UInt32)
  | save (call : Call)
  | fcatorySSMRestore (stack : UInt32)

def lifeStep (factory : Factory) (flash : Flash) : Event → Option Flash
  | .boot stack => init (some (resetAllUserSettingParam factory stack)) flash
  | .save call => some { flash with dev := call.apply flash.dev }
  | .fcatorySSMRestore stack => (resetAllUserSettingParam factory stack flash.dev).map fun dev => { flash with dev := dev }

end Droidlogic.Ssm
