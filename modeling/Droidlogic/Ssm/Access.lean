import Droidlogic.Ssm.Action

set_option autoImplicit false

namespace Droidlogic.Ssm

open Droidlogic.Lib

-- What the accessors of a setting do, read off their definitions once.
inductive ArgType
  | int
  | unsignedInt
  | unsignedChar
  | int8

namespace Setting

def argType : Setting → ArgType
  | .rgbGainR | .rgbGainG | .rgbGainB => .unsignedInt
  | .colorDemoMode | .colorBaseMode | .colorSpace | .ddrSsc => .unsignedChar
  | .rgbValue => .int8
  | _ => .int

def width : Setting → Nat
  | .rgbGainR | .rgbGainG | .rgbGainB | .rgbPostOffsetR | .rgbPostOffsetG | .rgbPostOffsetB => 4
  | .lvdsSsc => 2
  | _ => 1

def usesOffset : Setting → Bool
  | .colorDemoMode | .colorBaseMode | .colorSpace | .dynamicBacklightMode | .dnlpGainValue | .eyeProtectionMode
  | .ddrSsc | .lvdsSsc | .backLightVal => false
  | _ => true

def place (setting : Setting) (offset : Int32) : Int32 := if setting.usesOffset then offset else 0

def stored (setting : Setting) (value : Int) (stack : UInt32) : UInt32 :=
  if setting = .lvdsSsc then stack
  else
    match setting.argType with
    | .int => (Int32.ofInt value).toUInt32
    | .unsignedInt => UInt32.ofInt value
    | .unsignedChar => (UInt8.ofInt value).toUInt32
    | .int8 => (Int8.ofInt value).toInt32.toUInt32

def result (setting : Setting) (word : UInt32) : Int :=
  match setting.argType with
  | .int => word.toInt32.toInt
  | .unsignedInt => word.toNat
  | .unsignedChar => word.toUInt8.toNat
  | .int8 => word.toInt32.toInt8.toInt

def initial (setting : Setting) (stack : UInt32) : UInt32 :=
  match setting with
  | .ddrSsc | .lvdsSsc => stack
  | _ => 0

def start (setting : Setting) : Nat := slotStart sizes setting.id

def slotSize (setting : Setting) : Nat := sizes.getD setting.id 0

def room : Setting → Nat
  | .rgbGainR | .rgbGainG | .rgbGainB | .rgbPostOffsetR | .rgbPostOffsetG | .rgbPostOffsetB => 4
  | .rgbValue => 18
  | .lvdsSsc => 2
  | .colorDemoMode | .colorBaseMode | .colorSpace | .gammaValue | .eyeProtectionMode | .ddrSsc => 1
  | _ => sourceMax

def position (setting : Setting) (offset : Int32) : Nat := (setting.start + (setting.place offset).toInt).toNat

def OnDevice (setting : Setting) (offset : Int32) : Prop :=
  0 ≤ setting.start + (setting.place offset).toInt ∧ (setting.place offset).toInt ≤ 2 ^ 30

-- The accessor stays in the slot of its setting.
def InsideSlot (setting : Setting) (offset : Int32) : Prop :=
  0 ≤ (setting.place offset).toInt ∧ (setting.place offset).toInt + setting.width ≤ setting.slotSize

instance (setting : Setting) (offset : Int32) : Decidable (setting.InsideSlot offset) :=
  inferInstanceAs (Decidable (_ ∧ _))

end Setting

theorem save_eq (setting : Setting) (offset : Int32) (value : Int) (stack : UInt32) (dev : File) :
    ssmSave setting offset value stack dev =
      saveWord setting.id setting.width (setting.place offset) (setting.stored value stack) dev := by
  cases setting <;> rfl

theorem read_eq (setting : Setting) (offset : Int32) (stack : UInt32) (dev : File) :
    ssmRead setting offset stack dev =
      readWord setting.id setting.width (setting.place offset) (setting.initial stack) setting.result dev := by
  cases setting <;> rfl

theorem id_listed (setting : Setting) : 151 ≤ setting.id ∧ setting.id < 297 := by
  cases setting <;> exact ⟨by decide, by decide⟩

theorem width_fits (setting : Setting) : 0 < setting.width ∧ setting.width ≤ 4 := by
  cases setting <;> exact ⟨by decide, by decide⟩

theorem start_bounds (setting : Setting) : 1 ≤ setting.start ∧ setting.start ≤ 2051 := by
  obtain ⟨lower, upper⟩ := id_listed setting
  have first : 1 ≤ slotStart sizes 151 := by decide +kernel
  have last : slotStart sizes 297 = 2051 := by decide +kernel
  exact ⟨Nat.le_trans first (slot_start_mono sizes 151 setting.id lower),
    last ▸ slot_start_mono sizes setting.id 297 (Nat.le_of_lt upper)⟩

-- The unsigned sum of SSMWriteNTypes, turned into the int that WriteBytes takes.
theorem address (setting : Setting) (offset : Int32) (small : offset.toInt ≤ 2 ^ 30)
    (low : 0 ≤ setting.start + offset.toInt) :
    ((ssmGetActualAddr setting.id + offset.toUInt32).toInt32).toInt = setting.start + offset.toInt := by
  have addr : (ssmGetActualAddr setting.id).toNat = setting.start := actual_addr setting.id (id_listed setting).2
  have bound := (start_bounds setting).2
  have apart : (ssmGetActualAddr setting.id + offset.toUInt32).toInt32 = (ssmGetActualAddr setting.id).toInt32 + offset :=
    UInt32.toInt32_add _ _
  have plain : (ssmGetActualAddr setting.id).toInt32.toInt = setting.start := by
    rw [word_to_int _ (by omega), addr]
  rw [apart, Int32.toInt_add, plain, Int.bmod_eq_of_le]
  · omega
  · omega

theorem slot_size (setting : Setting) : setting.slotSize = setting.room := by
  cases setting <;> decide +kernel

theorem inside_on_device (setting : Setting) (offset : Int32) (inside : setting.InsideSlot offset) :
    setting.OnDevice offset := by
  have room : setting.slotSize ≤ 18 := by
    rw [slot_size]
    cases setting <;> decide
  obtain ⟨low, high⟩ := inside
  exact ⟨by omega, by omega⟩

theorem inside_position (setting : Setting) (offset : Int32) (inside : setting.InsideSlot offset) :
    setting.start ≤ setting.position offset ∧
      setting.position offset + setting.width ≤ setting.start + setting.slotSize := by
  obtain ⟨low, high⟩ := inside
  simp only [Setting.position]
  omega

theorem stored_length (setting : Setting) (value : Int) (stack : UInt32) :
    ((le32 (setting.stored value stack)).take setting.width).length = setting.width := by
  rw [List.length_take, le32_length]
  exact Nat.min_eq_left (width_fits setting).2

section
variable (setting : Setting) (offset : Int32) (onDevice : setting.OnDevice offset)

include onDevice

theorem lseek_position (dev : File) :
    dev.lseek (ssmGetActualAddr setting.id + (setting.place offset).toUInt32).toInt32.toInt =
      { dev with pos := setting.position offset } := by
  rw [address setting _ onDevice.2 onDevice.1, File.lseek, if_neg (Int.not_lt.mpr onDevice.1)]
  rfl

theorem save_file (value : Int) (stack : UInt32) (dev : File) :
    ssmSave setting offset value stack dev =
      (0, { dev with pos := setting.position offset }.write ((le32 (setting.stored value stack)).take setting.width)) := by
  have some : setting.width ≠ 0 := Nat.ne_of_gt (width_fits setting).1
  simp only [save_eq, saveWord, ssmWriteNTypes, if_neg some, writeBytes, lseek_position setting offset onDevice]
  rfl

theorem read_memory (stack : UInt32) (dev : File) :
    ssmRead setting offset stack dev =
      (let got := (dev.bytes.drop (setting.position offset)).take setting.width
       (0, setting.result (word32 (got ++ (le32 (setting.initial stack)).drop got.length)),
        { dev with pos := setting.position offset + got.length })) := by
  have some : setting.width ≠ 0 := Nat.ne_of_gt (width_fits setting).1
  simp only [read_eq, readWord, ssmReadNTypes, if_neg some, readBytes, lseek_position setting offset onDevice]
  rfl

-- A local that is not initialised does not matter where the file has all the bytes.
theorem read_value (stack : UInt32) (dev : File)
    (determined : setting.initial stack = 0 ∨ setting.position offset + setting.width ≤ dev.bytes.length) :
    (ssmRead setting offset stack dev).2.1 =
      setting.result (word32 (fetch dev.bytes (setting.position offset) setting.width ++
        (le32 (setting.initial stack)).drop setting.width)) := by
  rw [read_memory setting offset onDevice]
  rcases determined with zero | covered
  · have buffer : le32 0 = List.replicate 4 0 := rfl
    simp only [zero, buffer]
    rw [fetch_padded _ _ _ _ (width_fits setting).2, List.drop_replicate]
  · simp only [fetch_covered _ _ _ covered, fetch_length]

end

end Droidlogic.Ssm
