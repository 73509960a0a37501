import Droidlogic.Lib.File
import Droidlogic.Ssm.Layout

set_option autoImplicit false

namespace Droidlogic.Ssm

open Droidlogic.Lib

-- lseek, write and read: what they return is not looked at.
def writeBytes (offset : Int32) (size : Nat) (buf : Bytes) (dev : File) : Int × File :=
  (0, (dev.lseek offset.toInt).write (buf.take size))

def readBytes (offset : Int32) (size : Nat) (buf : Bytes) (dev : File) : Int × Bytes × File :=
  let got := (dev.lseek offset.toInt).read size
  (0, got.1 ++ buf.drop got.1.length, got.2)

def eraseAllData (dev : File) : Int × File := (0, (dev.ftruncate 0).lseek 0)

def ssmWriteNTypes (id data_len : Nat) (data_buf : Bytes) (offset : Int32) (dev : File) : Int × File :=
  if data_len = 0 then (-1, dev)
  else
    let done := writeBytes (ssmGetActualAddr id + offset.toUInt32).toInt32 data_len data_buf dev
    if done.1 < 0 then (-1, done.2) else (0, done.2)

def ssmReadNTypes (id data_len : Nat) (data_buf : Bytes) (offset : Int32) (dev : File) : Int × Bytes × File :=
  if data_len = 0 then (-1, data_buf, dev)
  else
    let done := readBytes (ssmGetActualAddr id + offset.toUInt32).toInt32 data_len data_buf dev
    if done.1 < 0 then (-1, done.2) else (0, done.2)

-- The accessors differ in their slot, width and types only. tmp_val is the local
-- whose address is passed on; where it is an argument, the source leaves it
-- uninitialised.
def saveWord (id data_len : Nat) (offset : Int32) (tmp_val : UInt32) (dev : File) : Int × File :=
  ssmWriteNTypes id data_len (le32 tmp_val) offset dev

def readWord {Value : Type} (id data_len : Nat) (offset : Int32) (tmp_val : UInt32) (convert : UInt32 → Value)
    (dev : File) : Int × Value × File :=
  let done := ssmReadNTypes id data_len (le32 tmp_val) offset dev
  (done.1, convert (word32 done.2.1), done.2.2)

def ssmSavePictureMode (offset : Int32) (rw_val : Int32) (dev : File) : Int × File :=
  saveWord vppDataPosPictureModeStart 1 offset rw_val.toUInt32 dev

def ssmReadPictureMode (offset : Int32) (dev : File) : Int × Int32 × File :=
  readWord vppDataPosPictureModeStart 1 offset 0 UInt32.toInt32 dev

def ssmSaveColorTemperature (offset : Int32) (rw_val : Int32) (dev : File) : Int × File :=
  saveWord vppDataPosColorTemperatureStart 1 offset rw_val.toUInt32 dev

def ssmReadColorTemperature (offset : Int32) (dev : File) : Int × Int32 × File :=
  readWord vppDataPosColorTemperatureStart 1 offset 0 UInt32.toInt32 dev

def ssmSaveColorDemoMode (rw_val : UInt8) (dev : File) : Int × File :=
  saveWord vppDataPosColorDemoModeStart 1 0 rw_val.toUInt32 dev

def ssmReadColorDemoMode (dev : File) : Int × UInt8 × File :=
  readWord vppDataPosColorDemoModeStart 1 0 0 UInt32.toUInt8 dev

def ssmSaveColorBaseMode (rw_val : UInt8) (dev : File) : Int × File :=
  saveWord vppDataPosColorBaseModeStart 1 0 rw_val.toUInt32 dev

def ssmReadColorBaseMode (dev : File) : Int × UInt8 × File :=
  readWord vppDataPosColorBaseModeStart 1 0 0 UInt32.toUInt8 dev

def ssmSaveRGBGainRStart (offset : Int32) (rw_val : UInt32) (dev : File) : Int × File :=
  saveWord vppDataPosRgbGainRStart 4 offset rw_val dev

def ssmReadRGBGainRStart (offset : Int32) (dev : File) : Int × UInt32 × File :=
  readWord vppDataPosRgbGainRStart 4 offset 0 id dev

def ssmSaveRGBGainGStart (offset : Int32) (rw_val : UInt32) (dev : File) : Int × File :=
  saveWord vppDataPosRgbGainGStart 4 offset rw_val dev

def ssmReadRGBGainGStart (offset : Int32) (dev : File) : Int × UInt32 × File :=
  readWord vppDataPosRgbGainGStart 4 offset 0 id dev

def ssmSaveRGBGainBStart (offset : Int32) (rw_val : UInt32) (dev : File) : Int × File :=
  saveWord vppDataPosRgbGainBStart 4 offset rw_val dev

def ssmReadRGBGainBStart (offset : Int32) (dev : File) : Int × UInt32 × File :=
  readWord vppDataPosRgbGainBStart 4 offset 0 id dev

def ssmSaveRGBPostOffsetRStart (offset : Int32) (rw_val : Int32) (dev : File) : Int × File :=
  saveWord vppDataPosRgbPostOffsetRStart 4 offset rw_val.toUInt32 dev

def ssmReadRGBPostOffsetRStart (offset : Int32) (dev : File) : Int × Int32 × File :=
  readWord vppDataPosRgbPostOffsetRStart 4 offset 0 UInt32.toInt32 dev

def ssmSaveRGBPostOffsetGStart (offset : Int32) (rw_val : Int32) (dev : File) : Int × File :=
  saveWord vppDataPosRgbPostOffsetGStart 4 offset rw_val.toUInt32 dev

def ssmReadRGBPostOffsetGStart (offset : Int32) (dev : File) : Int × Int32 × File :=
  readWord vppDataPosRgbPostOffsetGStart 4 offset 0 UInt32.toInt32 dev

def ssmSaveRGBPostOffsetBStart (offset : Int32) (rw_val : Int32) (dev : File) : Int × File :=
  saveWord vppDataPosRgbPostOffsetBStart 4 offset rw_val.toUInt32 dev

def ssmReadRGBPostOffsetBStart (offset : Int32) (dev : File) : Int × Int32 × File :=
  readWord vppDataPosRgbPostOffsetBStart 4 offset 0 UInt32.toInt32 dev

def ssmSaveRGBValueStart (offset : Int32) (rw_val : Int8) (dev : File) : Int × File :=
  saveWord vppDataRgbStart 1 offset rw_val.toInt32.toUInt32 dev

def ssmReadRGBValueStart (offset : Int32) (dev : File) : Int × Int8 × File :=
  readWord vppDataRgbStart 1 offset 0 (fun word => word.toInt32.toInt8) dev

def ssmSaveColorSpaceStart (rw_val : UInt8) (dev : File) : Int × File :=
  saveWord vppDataColorSpaceStart 1 0 rw_val.toUInt32 dev

def ssmReadColorSpaceStart (dev : File) : Int × UInt8 × File :=
  readWord vppDataColorSpaceStart 1 0 0 UInt32.toUInt8 dev

def ssmSaveBrightness (offset : Int32) (rw_val : Int32) (dev : File) : Int × File :=
  saveWord vppDataPosBrightnessStart 1 offset rw_val.toUInt32 dev

def ssmReadBrightness (offset : Int32) (dev : File) : Int × Int32 × File :=
  readWord vppDataPosBrightnessStart 1 offset 0 UInt32.toInt32 dev

def ssmSaveContrast (offset : Int32) (rw_val : Int32) (dev : File) : Int × File :=
  saveWord vppDataPosContrastStart 1 offset rw_val.toUInt32 dev

def ssmReadContrast (offset : Int32) (dev : File) : Int × Int32 × File :=
  readWord vppDataPosContrastStart 1 offset 0 UInt32.toInt32 dev

def ssmSaveSaturation (offset : Int32) (rw_val : Int32) (dev : File) : Int × File :=
  saveWord vppDataPosSaturationStart 1 offset rw_val.toUInt32 dev

def ssmReadSaturation (offset : Int32) (dev : File) : Int × Int32 × File :=
  readWord vppDataPosSaturationStart 1 offset 0 UInt32.toInt32 dev

def ssmSaveHue (offset : Int32) (rw_val : Int32) (dev : File) : Int × File :=
  saveWord vppDataPosHueStart 1 offset rw_val.toUInt32 dev

def ssmReadHue (offset : Int32) (dev : File) : Int × Int32 × File :=
  readWord vppDataPosHueStart 1 offset 0 UInt32.toInt32 dev

def ssmSaveSharpness (offset : Int32) (rw_val : Int32) (dev : File) : Int × File :=
  saveWord vppDataPosSharpnessStart 1 offset rw_val.toUInt32 dev

def ssmReadSharpness (offset : Int32) (dev : File) : Int × Int32 × File :=
  readWord vppDataPosSharpnessStart 1 offset 0 UInt32.toInt32 dev

def ssmSaveNoiseReduction (offset : Int32) (rw_val : Int32) (dev : File) : Int × File :=
  saveWord vppDataPosNoiseReductionStart 1 offset rw_val.toUInt32 dev

def ssmReadNoiseReduction (offset : Int32) (dev : File) : Int × Int32 × File :=
  readWord vppDataPosNoiseReductionStart 1 offset 0 UInt32.toInt32 dev

def ssmSaveGammaValue (offset : Int32) (rw_val : Int32) (dev : File) : Int × File :=
  saveWord vppDataGammaValueStart 1 offset rw_val.toUInt32 dev

def ssmReadGammaValue (offset : Int32) (dev : File) : Int × Int32 × File :=
  readWord vppDataGammaValueStart 1 offset 0 UInt32.toInt32 dev

def ssmSaveEdgeEnhanceStatus (offset : Int32) (rw_val : Int32) (dev : File) : Int × File :=
  saveWord customerDataPosEdgeEnhancer 1 offset rw_val.toUInt32 dev

def ssmReadEdgeEnhanceStatus (offset : Int32) (dev : File) : Int × Int32 × File :=
  readWord customerDataPosEdgeEnhancer 1 offset 0 UInt32.toInt32 dev

def ssmSaveMpegNoiseReduction (offset : Int32) (rw_val : Int32) (dev : File) : Int × File :=
  saveWord customerDataPosMpegNoiseReduction 1 offset rw_val.toUInt32 dev

def ssmReadMpegNoiseReduction (offset : Int32) (dev : File) : Int × Int32 × File :=
  readWord customerDataPosMpegNoiseReduction 1 offset 0 UInt32.toInt32 dev

def ssmSaveDynamicContrast (offset : Int32) (rw_val : Int32) (dev : File) : Int × File :=
  saveWord customerDataPosDynamicContrast 1 offset rw_val.toUInt32 dev

def ssmReadDynamicContrast (offset : Int32) (dev : File) : Int × Int32 × File :=
  readWord customerDataPosDynamicContrast 1 offset 0 UInt32.toInt32 dev

def ssmSaveDynamicBacklightMode (rw_val : Int32) (dev : File) : Int × File :=
  saveWord customerDataPosDynamicBacklight 1 0 rw_val.toUInt32 dev

def ssmReadDynamicBacklightMode (dev : File) : Int × Int32 × File :=
  readWord customerDataPosDynamicBacklight 1 0 0 UInt32.toInt32 dev

def ssmSaveDnlpMode (offset : Int32) (rw_val : Int32) (dev : File) : Int × File :=
  saveWord vppDataDnlpModeStart 1 offset rw_val.toUInt32 dev

def ssmReadDnlpMode (offset : Int32) (dev : File) : Int × Int32 × File :=
  readWord vppDataDnlpModeStart 1 offset 0 UInt32.toInt32 dev

def ssmSaveDnlpGainValue (_offset : Int32) (rw_val : Int32) (dev : File) : Int × File :=
  saveWord vppDataDnlpGainStart 1 0 rw_val.toUInt32 dev

def ssmReadDnlpGainValue (_offset : Int32) (dev : File) : Int × Int32 × File :=
  readWord vppDataDnlpGainStart 1 0 0 UInt32.toInt32 dev

def ssmSaveEyeProtectionMode (rw_val : Int32) (dev : File) : Int × File :=
  saveWord vppDataEyeProtectionModeStart 1 0 rw_val.toUInt32 dev

def ssmReadEyeProtectionMode (dev : File) : Int × Int32 × File :=
  readWord vppDataEyeProtectionModeStart 1 0 0 UInt32.toInt32 dev

def ssmSaveDDRSSC (rw_val : UInt8) (dev : File) : Int × File :=
  saveWord vppDataPosDdrSscStart 1 0 rw_val.toUInt32 dev

def ssmReadDDRSSC (tmp_val : UInt32) (dev : File) : Int × UInt8 × File :=
  readWord vppDataPosDdrSscStart 1 0 tmp_val UInt32.toUInt8 dev

-- tmp_val is neither given rw_val nor any other value.
def ssmSaveLVDSSSC (tmp_val : UInt32) (_rw_val : Int32) (dev : File) : Int × Int32 × File :=
  let done := saveWord vppDataPosLvdsSscStart 2 0 tmp_val dev
  (done.1, tmp_val.toInt32, done.2)

def ssmReadLVDSSSC (tmp_val : UInt32) (dev : File) : Int × Int32 × File :=
  readWord vppDataPosLvdsSscStart 2 0 tmp_val UInt32.toInt32 dev

def ssmSaveDisplayMode (offset : Int32) (rw_val : Int32) (dev : File) : Int × File :=
  saveWord vppDataPosDisplayModeStart 1 offset rw_val.toUInt32 dev

def ssmReadDisplayMode (offset : Int32) (dev : File) : Int × Int32 × File :=
  readWord vppDataPosDisplayModeStart 1 offset 0 UInt32.toInt32 dev

def ssmSaveBackLightVal (rw_val : Int32) (dev : File) : Int × File :=
  saveWord vppDataPosBacklightStart 1 0 rw_val.toUInt32 dev

def ssmReadBackLightVal (dev : File) : Int × Int32 × File :=
  readWord vppDataPosBacklightStart 1 0 0 UInt32.toInt32 dev

def ssmSaveAutoAspect (offset : Int32) (rw_val : Int32) (dev : File) : Int × File :=
  saveWord customerDataPosAutoAspect 1 offset rw_val.toUInt32 dev

def ssmReadAutoAspect (offset : Int32) (dev : File) : Int × Int32 × File :=
  readWord customerDataPosAutoAspect 1 offset 0 UInt32.toInt32 dev

def ssmSave43Stretch (offset : Int32) (rw_val : Int32) (dev : File) : Int × File :=
  saveWord customerDataPos43Stretch 1 offset rw_val.toUInt32 dev

def ssmRead43Stretch (offset : Int32) (dev : File) : Int × Int32 × File :=
  readWord customerDataPos43Stretch 1 offset 0 UInt32.toInt32 dev

def ssmSaveLocalContrastMode (offset : Int32) (rw_val : Int32) (dev : File) : Int × File :=
  saveWord vppDataPosLocalContrastModeStart 1 offset rw_val.toUInt32 dev

def ssmReadLocalContrastMode (offset : Int32) (dev : File) : Int × Int32 × File :=
  readWord vppDataPosLocalContrastModeStart 1 offset 0 UInt32.toInt32 dev

-- The cri_data block device, none when it cannot be opened. A negative nsize
-- becomes a size_t that write and read refuse.
def saveDataToFile (offset nsize : Int32) (data_buf : Bytes) (cri : Option File) : Int × Option File :=
  match cri with
  | none => (-1, none)
  | some device => (0, some (({ device with pos := 0 }.lseek offset.toInt).write (data_buf.take nsize.toInt.toNat)))

def readDataFromFile (offset nsize : Int32) (data_buf : Bytes) (cri : Option File) : Int × Bytes :=
  match cri with
  | none => (-1, data_buf)
  | some device =>
      let got := (({ device with pos := 0 }.lseek offset.toInt).read nsize.toInt.toNat).1
      (0, got ++ data_buf.drop got.length)

def ssmRgbogoFileOffset : Int32 := 0

def ssmCrRgbogoLen : Int32 := 256

def ssmCrRgbogoChksumLen : Int32 := 2

def ssmSaveRGBOGOValue (offset size : Int32) (data_buf : Bytes) (cri : Option File) : Int × Option File :=
  if ssmCrRgbogoLen + ssmCrRgbogoChksumLen < offset + size then (-1, cri)
  else saveDataToFile (ssmRgbogoFileOffset + offset) size data_buf cri

def ssmReadRGBOGOValue (offset size : Int32) (data_buf : Bytes) (cri : Option File) : Int × Bytes :=
  if ssmCrRgbogoLen + ssmCrRgbogoChksumLen < offset + size then (-1, data_buf)
  else readDataFromFile (ssmRgbogoFileOffset + offset) size data_buf cri

def vppColorDemoModeAllon : UInt8 := 0
def vppColorBaseModeOptimize : UInt8 := 1
def vppColorSpaceAuto : UInt8 := 0
def vppColorTemperatureModeStandard : Int32 := 0
def vppColorTemperatureModeWarm : Int32 := 1
def vppColorTemperatureModeCold : Int32 := 2
def vppPictureModeStandard : Int32 := 0
def vppDisplayMode169 : Int32 := 0
def vppNoiseReductionModeAuto : Int32 := 4
def vppGammaCurveDefault : Int32 := 0
def dynamicContrastMid : Int32 := 2
def defaultBacklightBrightness : Int32 := 10
def sourceTypeHdmi : Int32 := 3

abbrev Save := File → Int × File

def stdBuf : List Int8 := [0, 0, 0, 0, 0, 0]
def warmBuf : List Int8 := [0, 0, -8, 0, 0, 0]
def coldBuf : List Int8 := [-8, 0, 0, 0, 0, 0]

def rgbDefaults : List (Nat × Save) :=
  (List.range 6).flatMap fun i =>
    [(vppDataRgbStart, ssmSaveRGBValueStart (.ofNat i + vppColorTemperatureModeStandard * 6) (stdBuf.getD i 0)),
      (vppDataRgbStart, ssmSaveRGBValueStart (.ofNat i + vppColorTemperatureModeWarm * 6) (warmBuf.getD i 0)),
      (vppDataRgbStart, ssmSaveRGBValueStart (.ofNat i + vppColorTemperatureModeCold * 6) (coldBuf.getD i 0))]

def sourceDefaults (i : Int32) : List (Nat × Save) :=
  (if i = sourceTypeHdmi then [(vppDataColorSpaceStart, ssmSaveColorSpaceStart vppColorSpaceAuto)] else []) ++
    [(vppDataPosColorTemperatureStart, ssmSaveColorTemperature i vppColorTemperatureModeStandard),
      (vppDataPosBrightnessStart, ssmSaveBrightness i 50),
      (vppDataPosContrastStart, ssmSaveContrast i 50),
      (vppDataPosSaturationStart, ssmSaveSaturation i 50),
      (vppDataPosHueStart, ssmSaveHue i 50),
      (vppDataPosSharpnessStart, ssmSaveSharpness i 50),
      (vppDataPosPictureModeStart, ssmSavePictureMode i vppPictureModeStandard),
      (vppDataPosDisplayModeStart, ssmSaveDisplayMode i vppDisplayMode169),
      (vppDataPosNoiseReductionStart, ssmSaveNoiseReduction i vppNoiseReductionModeAuto),
      (vppDataGammaValueStart, ssmSaveGammaValue i vppGammaCurveDefault),
      (customerDataPosAutoAspect, ssmSaveAutoAspect i 1),
      (customerDataPos43Stretch, ssmSave43Stretch i 0),
      (vppDataDnlpModeStart, ssmSaveDnlpMode i dynamicContrastMid),
      (vppDataDnlpGainStart, ssmSaveDnlpGainValue i 0)]

-- Every save of SSMRestoreDefault in its order, with the id that asks for it.
def defaults (stack : UInt32) : List (Nat × Save) :=
  [(vppDataPosColorDemoModeStart, ssmSaveColorDemoMode vppColorDemoModeAllon),
    (vppDataPosColorBaseModeStart, ssmSaveColorBaseMode vppColorBaseModeOptimize),
    (vppDataPosRgbGainRStart, ssmSaveRGBGainRStart 0 1024),
    (vppDataPosRgbGainGStart, ssmSaveRGBGainGStart 0 1024),
    (vppDataPosRgbGainBStart, ssmSaveRGBGainBStart 0 1024),
    (vppDataPosRgbPostOffsetRStart, ssmSaveRGBPostOffsetRStart 0 0),
    (vppDataPosRgbPostOffsetGStart, ssmSaveRGBPostOffsetGStart 0 0),
    (vppDataPosRgbPostOffsetBStart, ssmSaveRGBPostOffsetBStart 0 0)] ++
  rgbDefaults ++
  ((List.range (sourceMax + 1)).flatMap fun i => sourceDefaults (.ofInt (sourceInvalid + i))) ++
  [(vppDataPosBacklightStart, ssmSaveBackLightVal defaultBacklightBrightness),
    (vppDataPosDdrSscStart, ssmSaveDDRSSC 0),
    (vppDataPosLvdsSscStart, fun dev => let done := ssmSaveLVDSSSC stack 0 dev; (done.1, done.2.2)),
    (vppDataEyeProtectionModeStart, ssmSaveEyeProtectionMode 0)]

def ssmRestoreDefault (stack : UInt32) (id : Nat) (resetAll : Bool) (dev : File) : Int × File :=
  (0, (defaults stack).foldl (fun dev save => if resetAll = true ∨ save.1 = id then (save.2 dev).2 else dev) dev)

-- Every setting that has both accessors over the device file.
inductive Setting
  | pictureMode
  | colorTemperature
  | colorDemoMode
  | colorBaseMode
  | rgbGainR
  | rgbGainG
  | rgbGainB
  | rgbPostOffsetR
  | rgbPostOffsetG
  | rgbPostOffsetB
  | rgbValue
  | colorSpace
  | brightness
  | contrast
  | saturation
  | hue
  | sharpness
  | noiseReduction
  | gammaValue
  | edgeEnhanceStatus
  | mpegNoiseReduction
  | dynamicContrast
  | dynamicBacklightMode
  | dnlpMode
  | dnlpGainValue
  | eyeProtectionMode
  | ddrSsc
  | lvdsSsc
  | displayMode
  | backLightVal
  | autoAspect
  | stretch43
  | localContrastMode
deriving DecidableEq, Repr

def Setting.id : Setting → Nat
  | .pictureMode => vppDataPosPictureModeStart
  | .colorTemperature => vppDataPosColorTemperatureStart
  | .colorDemoMode => vppDataPosColorDemoModeStart
  | .colorBaseMode => vppDataPosColorBaseModeStart
  | .rgbGainR => vppDataPosRgbGainRStart
  | .rgbGainG => vppDataPosRgbGainGStart
  | .rgbGainB => vppDataPosRgbGainBStart
  | .rgbPostOffsetR => vppDataPosRgbPostOffsetRStart
  | .rgbPostOffsetG => vppDataPosRgbPostOffsetGStart
  | .rgbPostOffsetB => vppDataPosRgbPostOffsetBStart
  | .rgbValue => vppDataRgbStart
  | .colorSpace => vppDataColorSpaceStart
  | .brightness => vppDataPosBrightnessStart
  | .contrast => vppDataPosContrastStart
  | .saturation => vppDataPosSaturationStart
  | .hue => vppDataPosHueStart
  | .sharpness => vppDataPosSharpnessStart
  | .noiseReduction => vppDataPosNoiseReductionStart
  | .gammaValue => vppDataGammaValueStart
  | .edgeEnhanceStatus => customerDataPosEdgeEnhancer
  | .mpegNoiseReduction => customerDataPosMpegNoiseReduction
  | .dynamicContrast => customerDataPosDynamicContrast
  | .dynamicBacklightMode => customerDataPosDynamicBacklight
  | .dnlpMode => vppDataDnlpModeStart
  | .dnlpGainValue => vppDataDnlpGainStart
  | .eyeProtectionMode => vppDataEyeProtectionModeStart
  | .ddrSsc => vppDataPosDdrSscStart
  | .lvdsSsc => vppDataPosLvdsSscStart
  | .displayMode => vppDataPosDisplayModeStart
  | .backLightVal => vppDataPosBacklightStart
  | .autoAspect => customerDataPosAutoAspect
  | .stretch43 => customerDataPos43Stretch
  | .localContrastMode => vppDataPosLocalContrastModeStart

-- A caller's value is converted to the type of the parameter. stack is what an
-- uninitialised local holds.
def ssmSave (setting : Setting) (offset : Int32) (value : Int) (stack : UInt32) (dev : File) : Int × File :=
  match setting with
  | .pictureMode => ssmSavePictureMode offset (.ofInt value) dev
  | .colorTemperature => ssmSaveColorTemperature offset (.ofInt value) dev
  | .colorDemoMode => ssmSaveColorDemoMode (.ofInt value) dev
  | .colorBaseMode => ssmSaveColorBaseMode (.ofInt value) dev
  | .rgbGainR => ssmSaveRGBGainRStart offset (.ofInt value) dev
  | .rgbGainG => ssmSaveRGBGainGStart offset (.ofInt value) dev
  | .rgbGainB => ssmSaveRGBGainBStart offset (.ofInt value) dev
  | .rgbPostOffsetR => ssmSaveRGBPostOffsetRStart offset (.ofInt value) dev
  | .rgbPostOffsetG => ssmSaveRGBPostOffsetGStart offset (.ofInt value) dev
  | .rgbPostOffsetB => ssmSaveRGBPostOffsetBStart offset (.ofInt value) dev
  | .rgbValue => ssmSaveRGBValueStart offset (.ofInt value) dev
  | .colorSpace => ssmSaveColorSpaceStart (.ofInt value) dev
  | .brightness => ssmSaveBrightness offset (.ofInt value) dev
  | .contrast => ssmSaveContrast offset (.ofInt value) dev
  | .saturation => ssmSaveSaturation offset (.ofInt value) dev
  | .hue => ssmSaveHue offset (.ofInt value) dev
  | .sharpness => ssmSaveSharpness offset (.ofInt value) dev
  | .noiseReduction => ssmSaveNoiseReduction offset (.ofInt value) dev
  | .gammaValue => ssmSaveGammaValue offset (.ofInt value) dev
  | .edgeEnhanceStatus => ssmSaveEdgeEnhanceStatus offset (.ofInt value) dev
  | .mpegNoiseReduction => ssmSaveMpegNoiseReduction offset (.ofInt value) dev
  | .dynamicContrast => ssmSaveDynamicContrast offset (.ofInt value) dev
  | .dynamicBacklightMode => ssmSaveDynamicBacklightMode (.ofInt value) dev
  | .dnlpMode => ssmSaveDnlpMode offset (.ofInt value) dev
  | .dnlpGainValue => ssmSaveDnlpGainValue offset (.ofInt value) dev
  | .eyeProtectionMode => ssmSaveEyeProtectionMode (.ofInt value) dev
  | .ddrSsc => ssmSaveDDRSSC (.ofInt value) dev
  | .lvdsSsc => let done := ssmSaveLVDSSSC stack (.ofInt value) dev; (done.1, done.2.2)
  | .displayMode => ssmSaveDisplayMode offset (.ofInt value) dev
  | .backLightVal => ssmSaveBackLightVal (.ofInt value) dev
  | .autoAspect => ssmSaveAutoAspect offset (.ofInt value) dev
  | .stretch43 => ssmSave43Stretch offset (.ofInt value) dev
  | .localContrastMode => ssmSaveLocalContrastMode offset (.ofInt value) dev

def asInt {Value : Type} (toInt : Value → Int) (done : Int × Value × File) : Int × Int × File :=
  (done.1, toInt done.2.1, done.2.2)

def ssmRead (setting : Setting) (offset : Int32) (stack : UInt32) (dev : File) : Int × Int × File :=
  match setting with
  | .pictureMode => asInt (Int32.toInt) (ssmReadPictureMode offset dev)
  | .colorTemperature => asInt (Int32.toInt) (ssmReadColorTemperature offset dev)
  | .colorDemoMode => asInt (fun value => value.toNat) (ssmReadColorDemoMode dev)
  | .colorBaseMode => asInt (fun value => value.toNat) (ssmReadColorBaseMode dev)
  | .rgbGainR => asInt (fun value => value.toNat) (ssmReadRGBGainRStart offset dev)
  | .rgbGainG => asInt (fun value => value.toNat) (ssmReadRGBGainGStart offset dev)
  | .rgbGainB => asInt (fun value => value.toNat) (ssmReadRGBGainBStart offset dev)
  | .rgbPostOffsetR => asInt (Int32.toInt) (ssmReadRGBPostOffsetRStart offset dev)
  | .rgbPostOffsetG => asInt (Int32.toInt) (ssmReadRGBPostOffsetGStart offset dev)
  | .rgbPostOffsetB => asInt (Int32.toInt) (ssmReadRGBPostOffsetBStart offset dev)
  | .rgbValue => asInt (Int8.toInt) (ssmReadRGBValueStart offset dev)
  | .colorSpace => asInt (fun value => value.toNat) (ssmReadColorSpaceStart dev)
  | .brightness => asInt (Int32.toInt) (ssmReadBrightness offset dev)
  | .contrast => asInt (Int32.toInt) (ssmReadContrast offset dev)
  | .saturation => asInt (Int32.toInt) (ssmReadSaturation offset dev)
  | .hue => asInt (Int32.toInt) (ssmReadHue offset dev)
  | .sharpness => asInt (Int32.toInt) (ssmReadSharpness offset dev)
  | .noiseReduction => asInt (Int32.toInt) (ssmReadNoiseReduction offset dev)
  | .gammaValue => asInt (Int32.toInt) (ssmReadGammaValue offset dev)
  | .edgeEnhanceStatus => asInt (Int32.toInt) (ssmReadEdgeEnhanceStatus offset dev)
  | .mpegNoiseReduction => asInt (Int32.toInt) (ssmReadMpegNoiseReduction offset dev)
  | .dynamicContrast => asInt (Int32.toInt) (ssmReadDynamicContrast offset dev)
  | .dynamicBacklightMode => asInt (Int32.toInt) (ssmReadDynamicBacklightMode dev)
  | .dnlpMode => asInt (Int32.toInt) (ssmReadDnlpMode offset dev)
  | .dnlpGainValue => asInt (Int32.toInt) (ssmReadDnlpGainValue offset dev)
  | .eyeProtectionMode => asInt (Int32.toInt) (ssmReadEyeProtectionMode dev)
  | .ddrSsc => asInt (fun value => value.toNat) (ssmReadDDRSSC stack dev)
  | .lvdsSsc => asInt (Int32.toInt) (ssmReadLVDSSSC stack dev)
  | .displayMode => asInt (Int32.toInt) (ssmReadDisplayMode offset dev)
  | .backLightVal => asInt (Int32.toInt) (ssmReadBackLightVal dev)
  | .autoAspect => asInt (Int32.toInt) (ssmReadAutoAspect offset dev)
  | .stretch43 => asInt (Int32.toInt) (ssmRead43Stretch offset dev)
  | .localContrastMode => asInt (Int32.toInt) (ssmReadLocalContrastMode offset dev)

end Droidlogic.Ssm
