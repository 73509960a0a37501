import Droidlogic.Lib.ByteSum
import Droidlogic.Pq.Source
import Droidlogic.Ssm.Action

set_option autoImplicit false

namespace Droidlogic.Pq.ColorTemp

open Droidlogic.Lib Droidlogic.Ssm

-- tcon_rgb_ogo_t
structure RgbOgo where
  en : UInt32
  rPreOffset : Int32
  gPreOffset : Int32
  bPreOffset : Int32
  rGain : UInt32
  gGain : UInt32
  bGain : UInt32
  rPostOffset : Int32
  gPostOffset : Int32
  bPostOffset : Int32
deriving DecidableEq

-- The RGBOGO block device, large enough for the 258 bytes, with complete writes.
structure Area where
  device : File
  whole : 258 ≤ device.bytes.length
  full : device.shorts = []

def le16 (word : UInt16) : Bytes := [word.toUInt8, (word >>> 8).toUInt8]

def word16 (bytes : Bytes) : UInt16 := (bytes.getD 0 0).toUInt16 + ((bytes.getD 1 0).toUInt16 <<< 8)

theorem saved_whole (device : File) (whole : 258 ≤ device.bytes.length) (offset : Nat) (data_buf : Bytes) :
    258 ≤ (((ssmSaveRGBOGOValue (.ofNat offset) (.ofNat data_buf.length) data_buf (some device)).2).getD
      device).bytes.length := by
  unfold ssmSaveRGBOGOValue
  split
  · exact whole
  · refine Nat.le_trans ?_ (File.write_length _ _)
    rw [File.lseek_bytes]
    exact whole

theorem saved_full (device : File) (full : device.shorts = []) (offset : Nat) (data_buf : Bytes) :
    (((ssmSaveRGBOGOValue (.ofNat offset) (.ofNat data_buf.length) data_buf (some device)).2).getD device).shorts = [] := by
  unfold ssmSaveRGBOGOValue
  split
  · exact full
  · apply File.write_shorts
    unfold File.lseek
    split
    · exact full
    · exact full

def Area.save (area : Area) (offset : Nat) (data_buf : Bytes) : Area where
  device := ((ssmSaveRGBOGOValue (.ofNat offset) (.ofNat data_buf.length) data_buf (some area.device)).2).getD area.device
  whole := saved_whole area.device area.whole offset data_buf
  full := saved_full area.device area.full offset data_buf

def Area.read (area : Area) (offset size : Nat) : Bytes :=
  (ssmReadRGBOGOValue (.ofNat offset) (.ofNat size) (List.replicate size 0) (some area.device)).2

def Area.readWord (area : Area) (offset : Nat) : UInt16 := word16 (area.read offset 2)

def checkTemperatureDataLable (area : Area) : Bool := area.read 254 2 = [0x55, 0xAA]

def setTemperatureDataLable (area : Area) : Area := area.save 254 [0x55, 0xAA]

def calColorTemperatureParamsChecksum (area : Area) : UInt16 := addBytes 0 (area.read 0 256)

def setColorTemperatureParamsChecksum (area : Area) : Area :=
  area.save 256 (le16 (calColorTemperatureParamsChecksum area))

def getColorTemperatureParamsChecksum (area : Area) : UInt16 := area.readWord 256

-- STANDARD, WARM and COLD; the branches of the source differ in this offset only.
def paramsOffset : Int → Option Nat
  | 0 => some 0
  | 1 => some 20
  | 2 => some 40
  | _ => none

def short (value : Int32) : UInt16 := value.toInt16.toUInt16

def fields (params : RgbOgo) : List UInt16 :=
  [params.en.toUInt16, short params.rPreOffset, short params.gPreOffset, short params.bPreOffset,
    params.rGain.toUInt16, params.gGain.toUInt16, params.bGain.toUInt16,
    short params.rPostOffset, short params.gPostOffset, short params.bPostOffset]

def saveFields (area : Area) (offset : Nat) : List UInt16 → Area
  | [] => area
  | word :: rest => saveFields (area.save offset (le16 word)) (offset + 2) rest

def saveColorTemperatureParams (area : Area) (mode : Int) (params : RgbOgo) : Area :=
  match paramsOffset mode with
  | none => area
  | some offset => saveFields area offset (fields params)

def signed (word : UInt16) : Int32 := word.toInt16.toInt32

-- For another mode *params stays as it is.
def getColorTemperatureParams (area : Area) (mode : Int) (params : RgbOgo) : RgbOgo :=
  match paramsOffset mode with
  | none => params
  | some offset =>
      { en := (area.readWord offset).toUInt32
        rPreOffset := signed (area.readWord (offset + 2))
        gPreOffset := signed (area.readWord (offset + 4))
        bPreOffset := signed (area.readWord (offset + 6))
        rGain := (area.readWord (offset + 8)).toUInt32
        gGain := (area.readWord (offset + 10)).toUInt32
        bGain := (area.readWord (offset + 12)).toUInt32
        rPostOffset := signed (area.readWord (offset + 14))
        gPostOffset := signed (area.readWord (offset + 16))
        bPostOffset := signed (area.readWord (offset + 18)) }

def setColorTemperatureParams (area : Area) (mode : Int) (params : RgbOgo) : Area :=
  setColorTemperatureParamsChecksum (saveColorTemperatureParams area mode params)

def RgbOgo.zero : RgbOgo := ⟨0, 0, 0, 0, 0, 0, 0, 0, 0, 0⟩

def GainOut (params : RgbOgo) : Prop := params.rGain > 2047 ∨ params.bGain > 2047 ∨ params.gGain > 2047

def OffsetOut (params : RgbOgo) : Prop :=
  params.rPostOffset > 1023 ∨ params.gPostOffset > 1023 ∨ params.bPostOffset > 1023 ∨
    params.rPostOffset < -1024 ∨ params.gPostOffset < -1024 ∨ params.bPostOffset < -1024

instance (params : RgbOgo) : Decidable (GainOut params) := inferInstanceAs (Decidable (_ ∨ _ ∨ _))

instance (params : RgbOgo) : Decidable (OffsetOut params) := inferInstanceAs (Decidable (_ ∨ _ ∨ _ ∨ _ ∨ _ ∨ _))

-- The loop of Cpq_CheckColorTemperatureParams; 0 stands for a failed check.
def checkModes (area : Area) (params : RgbOgo) : List Int → Int
  | [] => 1
  | mode :: rest =>
      let params := getColorTemperatureParams area mode params
      if GainOut params then
        if OffsetOut params then 0 else checkModes area params rest
      else checkModes area params rest

def checkColorTemperatureParams (area : Area) : Int := checkModes area .zero [0, 1, 2]

-- What PQ_GetColorTemperatureParams finds for the three modes, with gains and
-- offsets in the ranges of the hardware.
structure Database where
  params : Int → RgbOgo
  gains : ∀ mode, ¬ GainOut (params mode)
  offsets : ∀ mode, ¬ OffsetOut (params mode)

def restoreColorTemperatureParamsFromDB (db : Database) (area : Area) : Area :=
  let area := saveColorTemperatureParams area 0 (db.params 0)
  let area := saveColorTemperatureParams area 1 (db.params 1)
  let area := saveColorTemperatureParams area 2 (db.params 2)
  setColorTemperatureParamsChecksum area

def checkColorTemperatureParamAlldata (db : Database) (area : Area) : Area :=
  if checkTemperatureDataLable area ∧
      calColorTemperatureParamsChecksum area = getColorTemperatureParamsChecksum area then
    if checkColorTemperatureParams area = 0 then restoreColorTemperatureParamsFromDB db area else area
  else restoreColorTemperatureParamsFromDB db (setTemperatureDataLable area)

theorem small_int (n : Nat) (small : n ≤ 258) : (Int32.ofNat n).toInt = n := Int32.toInt_ofNat_of_lt (by omega)

theorem accepted (offset size : Nat) (inside : offset + size ≤ 258) :
    ¬ ssmCrRgbogoLen + ssmCrRgbogoChksumLen < Int32.ofNat offset + Int32.ofNat size := by
  rw [← Int32.ofNat_add, Int32.lt_iff_toInt_lt, small_int _ inside]
  have limit : (ssmCrRgbogoLen + ssmCrRgbogoChksumLen).toInt = 258 := rfl
  omega

theorem seek_offset (device : File) (offset : Nat) (inside : offset ≤ 258) :
    device.lseek (ssmRgbogoFileOffset + Int32.ofNat offset).toInt = { device with pos := offset } := by
  have origin : ssmRgbogoFileOffset + Int32.ofNat offset = Int32.ofNat offset := Int32.zero_add _
  rw [origin, small_int offset inside, File.lseek, if_neg (Int.not_lt.mpr (Int.natCast_nonneg offset)), Int.toNat_natCast]

theorem save_bytes (area : Area) (offset : Nat) (data_buf : Bytes) (some : data_buf ≠ [])
    (inside : offset + data_buf.length ≤ 258) :
    (area.save offset data_buf).device.bytes = splice area.device.bytes offset data_buf := by
  simp only [Area.save, ssmSaveRGBOGOValue, if_neg (accepted offset _ inside), saveDataToFile, Option.getD_some,
    seek_offset _ offset (by omega), small_int data_buf.length (by omega), Int.toNat_natCast, List.take_length]
  exact File.write_full _ _ area.full some

theorem read_fetch (area : Area) (offset size : Nat) (inside : offset + size ≤ 258) :
    area.read offset size = fetch area.device.bytes offset size := by
  have covered : offset + size ≤ area.device.bytes.length := Nat.le_trans inside area.whole
  simp only [Area.read, ssmReadRGBOGOValue, if_neg (accepted offset size inside), readDataFromFile,
    seek_offset _ offset (by omega), small_int size (by omega), Int.toNat_natCast, File.read,
    fetch_covered _ _ _ covered, fetch_length, List.drop_replicate]
  simp

def blankDevice : File := ⟨List.replicate 258 0, 0, []⟩

theorem blank_whole : 258 ≤ blankDevice.bytes.length := Nat.le_of_eq List.length_replicate.symm

def blank : Area := ⟨blankDevice, blank_whole, rfl⟩

def Area.byte (area : Area) (index : Nat) : UInt8 := byteAt area.device.bytes index

theorem byte_save (area : Area) (offset index : Nat) (data_buf : Bytes) (some : data_buf ≠ [])
    (inside : offset + data_buf.length ≤ 258) :
    (area.save offset data_buf).byte index =
      if offset ≤ index ∧ index < offset + data_buf.length then data_buf.getD (index - offset) 0 else area.byte index := by
  rw [Area.byte, save_bytes area offset data_buf some inside, byte_at_splice]
  rfl

theorem read_word (area : Area) (offset : Nat) (inside : offset + 2 ≤ 258) :
    area.readWord offset = word16 [area.byte offset, area.byte (offset + 1)] := by
  rw [Area.readWord, read_fetch area offset 2 inside]
  rfl

theorem word_bytes (word : UInt16) : word16 (le16 word) = word := by
  apply UInt16.toNat_inj.mp
  have bound := word.toNat_lt
  simp only [word16, le16, List.getD_cons_zero, List.getD_cons_succ, UInt16.toNat_add, UInt8.toNat_toUInt16,
    UInt16.toNat_toUInt8, UInt16.toNat_shiftLeft, UInt16.toNat_shiftRight, Nat.shiftRight_eq_div_pow,
    Nat.shiftLeft_eq, UInt16.reduceToNat, Nat.reduceMod, Nat.reducePow]
  omega

theorem byte_save_fields (words : List UInt16) (area : Area) (offset index : Nat)
    (inside : offset + 2 * words.length ≤ 258) (outside : ¬ (offset ≤ index ∧ index < offset + 2 * words.length)) :
    (saveFields area offset words).byte index = area.byte index := by
  induction words generalizing area offset with
  | nil => rfl
  | cons word rest ih =>
      simp only [List.length_cons] at inside outside
      rw [saveFields, ih _ _ (by omega) (by omega), byte_save area offset index (le16 word) (by simp [le16])
        (by simp only [le16, List.length_cons, List.length_nil]; omega), if_neg]
      simp only [le16, List.length_cons, List.length_nil]
      omega

theorem read_saved_field (words : List UInt16) (area : Area) (offset k : Nat)
    (inside : offset + 2 * words.length ≤ 258) (listed : k < words.length) :
    (saveFields area offset words).readWord (offset + 2 * k) = words.getD k 0 := by
  induction words generalizing area offset k with
  | nil => exact absurd listed (Nat.not_lt_zero k)
  | cons word rest ih =>
      simp only [List.length_cons] at inside listed
      rw [saveFields]
      cases k with
      | zero =>
          have two : (le16 word).length = 2 := rfl
          rw [read_word _ _ (by omega), byte_save_fields rest _ _ _ (by omega) (by omega),
            byte_save_fields rest _ _ _ (by omega) (by omega), byte_save _ _ _ _ (by simp [le16]) (by omega),
            byte_save _ _ _ _ (by simp [le16]) (by omega), if_pos (by omega), if_pos (by omega)]
          have first : offset + 2 * 0 - offset = 0 := by omega
          have second : offset + 2 * 0 + 1 - offset = 1 := by omega
          rw [first, second]
          exact word_bytes word
      | succ k =>
          have later : offset + 2 * (k + 1) = offset + 2 + 2 * k := by omega
          rw [later, ih _ _ k (by omega) (by omega), List.getD_cons_succ]

end Droidlogic.Pq.ColorTemp
