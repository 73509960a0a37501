import Droidlogic.Ssm.Access

set_option autoImplicit false

namespace Droidlogic.Ssm

open Droidlogic.Lib

def Setting.Representable (setting : Setting) (value : Int) : Prop :=
  match setting.argType, setting.width with
  | .int8, _ => -128 ≤ value ∧ value < 128
  | .int, 4 => -2147483648 ≤ value ∧ value < 2147483648
  | _, width => 0 ≤ value ∧ value < 256 ^ width

def StoreLoad (setting : Setting) : Prop :=
  ∀ (offset : Int32) (value : Int) (saveStack readStack : UInt32) (dev : File),
    setting.InsideSlot offset → setting.Representable value → dev.shorts = [] →
      (ssmSave setting offset value saveStack dev).1 = 0 ∧
        (ssmRead setting offset readStack (ssmSave setting offset value saveStack dev).2).1 = 0 ∧
        (ssmRead setting offset readStack (ssmSave setting offset value saveStack dev).2).2.1 = value

-- The slot is the block device's first 258 bytes.
def RgbogoStoreLoad : Prop :=
  ∀ (offset size : Int32) (data_buf out_buf : Bytes) (device : File),
    0 ≤ offset.toInt → 0 ≤ size.toInt → offset.toInt + size.toInt ≤ 258 → data_buf.length = size.toInt →
      out_buf.length = size.toInt → device.shorts = [] →
        (ssmSaveRGBOGOValue offset size data_buf (some device)).1 = 0 ∧
          ssmReadRGBOGOValue offset size out_buf (ssmSaveRGBOGOValue offset size data_buf (some device)).2 = (0, data_buf)

theorem read_back (setting : Setting) (offset : Int32) (value : Int) (saveStack readStack : UInt32) (dev : File)
    (inside : setting.InsideSlot offset) (full : dev.shorts = []) :
    (ssmRead setting offset readStack (ssmSave setting offset value saveStack dev).2).2.1 =
      setting.result (word32 ((le32 (setting.stored value saveStack)).take setting.width ++
        (le32 (setting.initial readStack)).drop setting.width)) := by
  have onDevice := inside_on_device setting offset inside
  have length := stored_length setting value saveStack
  have written : (le32 (setting.stored value saveStack)).take setting.width ≠ [] := by
    intro empty
    rw [empty] at length
    exact absurd length (Nat.ne_of_lt (width_fits setting).1)
  have bytes : (ssmSave setting offset value saveStack dev).2.bytes = splice dev.bytes (setting.position offset)
      ((le32 (setting.stored value saveStack)).take setting.width) := by
    rw [save_file setting offset onDevice]
    exact File.write_full { dev with pos := setting.position offset } _ full written
  have fetched := fetch_splice dev.bytes ((le32 (setting.stored value saveStack)).take setting.width)
    (setting.position offset)
  have covers := splice_covers dev.bytes ((le32 (setting.stored value saveStack)).take setting.width)
    (setting.position offset)
  rw [length] at fetched covers
  rw [read_value setting offset onDevice _ _ (.inr (by rw [bytes]; exact covers)), bytes, fetched]

theorem word32_low (byte : UInt8) (rest : Bytes) : (word32 (byte :: rest)).toUInt8 = byte := by
  have bound := byte.toNat_lt
  apply UInt8.toNat_inj.mp
  simp only [word32, List.getD_cons_zero, UInt32.toNat_toUInt8, UInt32.toNat_ofNat']
  omega

theorem word32_padded (byte : UInt8) : word32 [byte, 0, 0, 0] = .ofNat byte.toNat := by
  simp [word32]

-- A conversion to a signed type keeps the low byte.
theorem to_int8 (word : UInt32) : word.toInt32.toInt8 = word.toUInt8.toInt8 :=
  Int8.toBitVec_inj.mp (BitVec.signExtend_eq_setWidth_of_le word.toBitVec (by decide))

theorem int_round_trip (value : Int) (low : -2147483648 ≤ value) (high : value < 2147483648) :
    (Int32.ofInt value).toUInt32.toInt32.toInt = value := by
  have same : (Int32.ofInt value).toUInt32.toInt32 = Int32.ofInt value := Int32.toInt32_toUInt32 _
  rw [same, Int32.toInt_ofInt, Int.bmod_eq_of_le]
  · exact low
  · exact high

theorem byte_of_int (value : Int) (low : 0 ≤ value) (high : value < 256) :
    (Int32.ofInt value).toUInt32.toUInt8.toNat = value := by
  obtain ⟨n, rfl⟩ := Int.eq_ofNat_of_zero_le low
  have plain : (Int32.ofInt (n : Int)).toUInt32 = .ofNat n := by
    rw [Int32.ofInt_eq_ofNat]
    rfl
  rw [plain, UInt32.toNat_toUInt8, UInt32.toNat_ofNat']
  omega

theorem shapes (setting : Setting) (proper : setting ≠ .lvdsSsc) :
    (setting.argType = .int ∧ setting.width = 1 ∧ ∀ stack, setting.initial stack = 0) ∨
      (setting.argType = .int ∧ setting.width = 4) ∨ (setting.argType = .unsignedInt ∧ setting.width = 4) ∨
      (setting.argType = .unsignedChar ∧ setting.width = 1) ∨ (setting.argType = .int8 ∧ setting.width = 1) := by
  cases setting <;> simp [Setting.argType, Setting.width, Setting.initial] at proper ⊢

theorem value_back (setting : Setting) (proper : setting ≠ .lvdsSsc) (value : Int) (saveStack readStack : UInt32)
    (fits : setting.Representable value) :
    setting.result (word32 ((le32 (setting.stored value saveStack)).take setting.width ++
      (le32 (setting.initial readStack)).drop setting.width)) = value := by
  have one : ∀ first second : UInt32, (le32 first).take 1 ++ (le32 second).drop 1 = first.toUInt8 :: (le32 second).drop 1 :=
    fun _ _ => rfl
  have four : ∀ first second : UInt32, (le32 first).take 4 ++ (le32 second).drop 4 = le32 first := fun _ _ => rfl
  rcases shapes setting proper with ⟨type, width, zeroed⟩ | ⟨type, width⟩ | ⟨type, width⟩ | ⟨type, width⟩ | ⟨type, width⟩
  · simp only [Setting.Representable, type, width] at fits
    simp only [Setting.result, Setting.stored, if_neg proper, type, width, one, zeroed]
    have zeros : (le32 0).drop 1 = [0, 0, 0] := rfl
    have byte := byte_of_int value fits.1 fits.2
    have bound := (Int32.ofInt value).toUInt32.toUInt8.toNat_lt
    have whole : (UInt32.ofNat (Int32.ofInt value).toUInt32.toUInt8.toNat).toNat =
        (Int32.ofInt value).toUInt32.toUInt8.toNat := by
      rw [UInt32.toNat_ofNat']
      omega
    rw [zeros, word32_padded, word_to_int _ (by omega), whole, byte]
  · simp only [Setting.Representable, type, width] at fits
    simp only [Setting.result, Setting.stored, if_neg proper, type, width, four, word32_le32]
    exact int_round_trip value fits.1 fits.2
  · simp only [Setting.Representable, type, width] at fits
    simp only [Setting.result, Setting.stored, if_neg proper, type, width, four, word32_le32]
    have low := fits.1
    have high := fits.2
    rw [UInt32.ofInt, UInt32.toNat_ofNat']
    omega
  · simp only [Setting.Representable, type, width] at fits
    simp only [Setting.result, Setting.stored, if_neg proper, type, width, one, word32_low]
    have low := fits.1
    have high := fits.2
    rw [UInt8.toUInt8_toUInt32, UInt8.ofInt, UInt8.toNat_ofNat']
    omega
  · simp only [Setting.Representable, type, width] at fits
    simp only [Setting.result, Setting.stored, if_neg proper, type, width, one, to_int8, word32_low]
    have same := to_int8 (Int8.ofInt value).toInt32.toUInt32
    rw [← same]
    have back : (Int8.ofInt value).toInt32.toUInt32.toInt32.toInt8 = Int8.ofInt value := Int8.toInt8_toInt32 _
    rw [back, Int8.toInt_ofInt, Int.bmod_eq_of_le]
    · exact fits.1
    · exact fits.2

theorem store_load (setting : Setting) (proper : setting ≠ .lvdsSsc) : StoreLoad setting := by
  intro offset value saveStack readStack dev inside fits full
  have onDevice := inside_on_device setting offset inside
  refine ⟨?_, ?_, ?_⟩
  · rw [save_file setting offset onDevice]
  · rw [read_memory setting offset onDevice]
  · rw [read_back setting offset value saveStack readStack dev inside full]
    exact value_back setting proper value saveStack readStack fits

theorem rgbogo_store_load : RgbogoStoreLoad := by
  intro offset size data_buf out_buf device low sized fits length outLength full
  have sum : (offset + size).toInt = offset.toInt + size.toInt := by
    rw [Int32.toInt_add, Int.bmod_eq_of_le] <;> omega
  have accepted : ¬ ssmCrRgbogoLen + ssmCrRgbogoChksumLen < offset + size := by
    rw [Int32.lt_iff_toInt_lt, sum]
    exact Int.not_lt.mpr fits
  have origin : ssmRgbogoFileOffset + offset = offset := Int32.zero_add offset
  have count : size.toInt.toNat = data_buf.length := by omega
  have seek : ∀ file : File, file.lseek offset.toInt = { file with pos := offset.toInt.toNat } := fun file => by
    rw [File.lseek, if_neg (Int.not_lt.mpr low)]
  simp only [ssmSaveRGBOGOValue, ssmReadRGBOGOValue, if_neg accepted, origin, saveDataToFile, readDataFromFile, seek,
    count, List.take_length, true_and, Prod.mk.injEq]
  by_cases empty : data_buf = []
  · subst empty
    have none : out_buf = [] := List.eq_nil_of_length_eq_zero (by simp at length; omega)
    simp [File.read, none]
  · have written := File.write_full { device with pos := offset.toInt.toNat } data_buf full empty
    have covers := splice_covers device.bytes data_buf offset.toInt.toNat
    simp only [File.read, written, fetch_covered _ _ _ covers, fetch_splice]
    rw [List.drop_eq_nil_of_le (by omega), List.append_nil]

-- LVDS: nothing of the caller's value reaches the device, and what comes back has
-- two bytes that were never read.
theorem lvds_store_load_fails : ¬ StoreLoad .lvdsSsc := by
  intro law
  have back := (law 0 1 0 0 ⟨[], 0, []⟩ (by decide +kernel) ⟨by decide, by decide⟩ rfl).2.2
  exact absurd back (by decide +kernel)

theorem store_load_iff (setting : Setting) : (StoreLoad setting ↔ setting ≠ .lvdsSsc) ∧ RgbogoStoreLoad := by
  refine ⟨⟨?_, store_load setting⟩, rgbogo_store_load⟩
  rintro law rfl
  exact lvds_store_load_fails law

theorem lvds_value_lost :
    ¬ ((∀ setting, StoreLoad setting) ∧ RgbogoStoreLoad) := fun law => lvds_store_load_fails (law.1 .lvdsSsc)

end Droidlogic.Ssm
