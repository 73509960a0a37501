import Droidlogic.Pq.ColorTemperature

set_option autoImplicit false

namespace Droidlogic.Pq.ColorTemp

open Droidlogic.Lib

-- A set of parameters after its way through ten 16-bit words.
def stored (params : RgbOgo) : RgbOgo where
  en := params.en.toUInt16.toUInt32
  rPreOffset := signed (short params.rPreOffset)
  gPreOffset := signed (short params.gPreOffset)
  bPreOffset := signed (short params.bPreOffset)
  rGain := params.rGain.toUInt16.toUInt32
  gGain := params.gGain.toUInt16.toUInt32
  bGain := params.bGain.toUInt16.toUInt32
  rPostOffset := signed (short params.rPostOffset)
  gPostOffset := signed (short params.gPostOffset)
  bPostOffset := signed (short params.bPostOffset)

inductive Mode
  | standard
  | warm
  | cold
deriving DecidableEq

def Mode.code : Mode → Int
  | .standard => 0
  | .warm => 1
  | .cold => 2

def Mode.offset : Mode → Nat
  | .standard => 0
  | .warm => 20
  | .cold => 40

theorem params_offset (mode : Mode) : paramsOffset mode.code = some mode.offset := by
  cases mode <;> rfl

theorem offset_inside (mode : Mode) : mode.offset + 20 ≤ 60 := by
  cases mode <;> decide

theorem offsets_apart (a b : Mode) (differ : a ≠ b) : a.offset + 20 ≤ b.offset ∨ b.offset + 20 ≤ a.offset := by
  cases a <;> cases b <;> first | exact absurd rfl differ | decide

theorem fields_length (params : RgbOgo) : (fields params).length = 10 := rfl

def Area.params (area : Area) (mode : Mode) : RgbOgo := getColorTemperatureParams area mode.code .zero

theorem get_params (area : Area) (mode : Mode) (params : RgbOgo) :
    getColorTemperatureParams area mode.code params = area.params mode := by
  simp only [Area.params, getColorTemperatureParams, params_offset]

theorem byte_save_params (area : Area) (mode : Mode) (params : RgbOgo) (index : Nat)
    (outside : ¬ (mode.offset ≤ index ∧ index < mode.offset + 20)) :
    (saveColorTemperatureParams area mode.code params).byte index = area.byte index := by
  have inside := offset_inside mode
  rw [saveColorTemperatureParams, params_offset]
  exact byte_save_fields (fields params) area mode.offset index (by rw [fields_length]; omega)
    (by rw [fields_length]; exact outside)

theorem params_saved (area : Area) (mode : Mode) (params : RgbOgo) :
    (saveColorTemperatureParams area mode.code params).params mode = stored params := by
  have inside := offset_inside mode
  have field : ∀ k index, index = mode.offset + 2 * k → k < 10 →
      (saveFields area mode.offset (fields params)).readWord index = (fields params).getD k 0 := by
    rintro k _ rfl listed
    exact read_saved_field (fields params) area mode.offset k (by rw [fields_length]; omega) listed
  simp only [Area.params, getColorTemperatureParams, saveColorTemperatureParams, params_offset, stored]
  rw [field 0 mode.offset rfl (by decide), field 1 _ rfl (by decide), field 2 _ rfl (by decide),
    field 3 _ rfl (by decide), field 4 _ rfl (by decide), field 5 _ rfl (by decide), field 6 _ rfl (by decide),
    field 7 _ rfl (by decide), field 8 _ rfl (by decide), field 9 _ rfl (by decide)]
  rfl

theorem params_congr (first second : Area) (mode : Mode)
    (same : ∀ i, i < 20 → first.byte (mode.offset + i) = second.byte (mode.offset + i)) :
    first.params mode = second.params mode := by
  have inside := offset_inside mode
  have word : ∀ k index, index = mode.offset + k → k + 2 ≤ 20 → first.readWord index = second.readWord index := by
    rintro k _ rfl fits
    rw [read_word first _ (by omega), read_word second _ (by omega), same k (by omega),
      Nat.add_assoc, same (k + 1) (by omega)]
  simp only [Area.params, getColorTemperatureParams, params_offset]
  rw [word 0 mode.offset rfl (by decide), word 2 _ rfl (by decide), word 4 _ rfl (by decide), word 6 _ rfl (by decide),
    word 8 _ rfl (by decide), word 10 _ rfl (by decide), word 12 _ rfl (by decide), word 14 _ rfl (by decide),
    word 16 _ rfl (by decide), word 18 _ rfl (by decide)]

theorem params_save_other (area : Area) (mode other : Mode) (params : RgbOgo) (differ : mode ≠ other) :
    (saveColorTemperatureParams area mode.code params).params other = area.params other := by
  have apart := offsets_apart mode other differ
  apply params_congr
  intro i inside
  exact byte_save_params area mode params _ (by omega)

theorem byte_set_checksum (area : Area) (index : Nat) (inside : index < 256) :
    (setColorTemperatureParamsChecksum area).byte index = area.byte index := by
  rw [setColorTemperatureParamsChecksum, byte_save _ _ _ _ (by simp [le16]) (by simp [le16]), if_neg (by omega)]

theorem params_set_checksum (area : Area) (mode : Mode) :
    (setColorTemperatureParamsChecksum area).params mode = area.params mode := by
  have inside := offset_inside mode
  exact params_congr _ _ mode fun i below => byte_set_checksum area _ (by omega)

theorem sum_congr (first second : Area) (same : ∀ i, i < 256 → first.byte i = second.byte i) :
    calColorTemperatureParamsChecksum first = calColorTemperatureParamsChecksum second := by
  have bytes : fetch first.device.bytes 0 256 = fetch second.device.bytes 0 256 :=
    fetch_congr _ _ 0 256 fun i inside => by rw [Nat.zero_add]; exact same i inside
  rw [calColorTemperatureParamsChecksum, calColorTemperatureParamsChecksum, read_fetch first 0 256 (by decide),
    read_fetch second 0 256 (by decide), bytes]

theorem checksum_after_set (area : Area) :
    getColorTemperatureParamsChecksum (setColorTemperatureParamsChecksum area) =
      calColorTemperatureParamsChecksum (setColorTemperatureParamsChecksum area) := by
  rw [sum_congr _ area fun i inside => byte_set_checksum area i inside, getColorTemperatureParamsChecksum,
    read_word _ _ (by decide), setColorTemperatureParamsChecksum,
    byte_save _ _ _ _ (by simp [le16]) (by simp [le16]), byte_save _ _ _ _ (by simp [le16]) (by simp [le16])]
  exact word_bytes _

theorem label_bytes (area : Area) : checkTemperatureDataLable area = true ↔ area.byte 254 = 0x55 ∧ area.byte 255 = 0xAA := by
  rw [checkTemperatureDataLable, read_fetch area 254 2 (by decide), decide_eq_true_iff]
  have two : fetch area.device.bytes 254 2 = [area.byte 254, area.byte 255] := rfl
  rw [two]
  simp

def InRange (params : RgbOgo) : Prop := ¬ GainOut params ∧ ¬ OffsetOut params

instance (params : RgbOgo) : Decidable (InRange params) := inferInstanceAs (Decidable (_ ∧ _))

theorem signed_short (value : Int32) (low : -32768 ≤ value.toInt) (high : value.toInt < 32768) :
    signed (short value) = value := by
  apply Int32.toInt_inj.mp
  rw [signed, short, Int16.toInt16_toUInt16, Int16.toInt_toInt32, Int32.toInt_toInt16, Int.bmod_eq_of_le]
  · exact low
  · exact high

theorem gain_word (value : UInt32) (small : value.toNat < 65536) : value.toUInt16.toUInt32 = value := by
  apply UInt32.toNat_inj.mp
  rw [UInt16.toNat_toUInt32, UInt32.toNat_toUInt16]
  exact Nat.mod_eq_of_lt small

theorem stored_in_range (params : RgbOgo) (inside : InRange params) : InRange (stored params) := by
  simp only [InRange, GainOut, OffsetOut, not_or, gt_iff_lt, UInt32.not_lt, Int32.not_lt, UInt32.le_iff_toNat_le,
    Int32.le_iff_toInt_le] at inside ⊢
  have two : (2047 : UInt32).toNat = 2047 := rfl
  have top : (1023 : Int32).toInt = 1023 := rfl
  have bottom : (-1024 : Int32).toInt = -1024 := rfl
  rw [two, top, bottom] at inside
  obtain ⟨⟨rGain, bGain, gGain⟩, rTop, gTop, bTop, rBottom, gBottom, bBottom⟩ := inside
  simp only [stored]
  rw [gain_word _ (by omega), gain_word _ (by omega), gain_word _ (by omega), signed_short _ (by omega) (by omega),
    signed_short _ (by omega) (by omega), signed_short _ (by omega) (by omega), two, top, bottom]
  exact ⟨⟨rGain, bGain, gGain⟩, rTop, gTop, bTop, rBottom, gBottom, bBottom⟩

def Unsigned16 (value : UInt32) : Prop := value.toNat < 65536

def Signed16 (value : Int32) : Prop := -32768 ≤ value.toInt ∧ value.toInt < 32768

structure SixteenBit (params : RgbOgo) : Prop where
  en : Unsigned16 params.en
  preOffsets : Signed16 params.rPreOffset ∧ Signed16 params.gPreOffset ∧ Signed16 params.bPreOffset
  gains : Unsigned16 params.rGain ∧ Unsigned16 params.gGain ∧ Unsigned16 params.bGain
  postOffsets : Signed16 params.rPostOffset ∧ Signed16 params.gPostOffset ∧ Signed16 params.bPostOffset

theorem stored_sixteen_bit (params : RgbOgo) (fits : SixteenBit params) : stored params = params := by
  obtain ⟨en, ⟨rPre, gPre, bPre⟩, ⟨rGain, gGain, bGain⟩, rPost, gPost, bPost⟩ := fits
  simp only [stored]
  rw [gain_word _ en, gain_word _ rGain, gain_word _ gGain, gain_word _ bGain, signed_short _ rPre.1 rPre.2,
    signed_short _ gPre.1 gPre.2, signed_short _ bPre.1 bPre.2, signed_short _ rPost.1 rPost.2,
    signed_short _ gPost.1 gPost.2, signed_short _ bPost.1 bPost.2]

structure Valid (area : Area) : Prop where
  label : area.byte 254 = 0x55 ∧ area.byte 255 = 0xAA
  checksum : (getColorTemperatureParamsChecksum area).toNat = byteSum (fetch area.device.bytes 0 256) % 65536
  inRange : ∀ mode, InRange (area.params mode)

def Restored (db : Database) (area : Area) : Prop :=
  Valid area ∧ ∀ mode : Mode, area.params mode = stored (db.params mode.code)

def OneByteOff (good area : Area) : Prop :=
  ∃ i, i < 258 ∧ good.byte i ≠ area.byte i ∧ ∀ j, j < 258 → j ≠ i → good.byte j = area.byte j

structure Sound (db : Database) (area : Area) : Prop where
  valid : Valid (checkColorTemperatureParamAlldata db area)
  kept : Valid area → checkColorTemperatureParamAlldata db area = area
  restored : ∀ good, Valid good → OneByteOff good area → Restored db (checkColorTemperatureParamAlldata db area)

def StoreLoad (area : Area) : Prop :=
  ∀ (mode : Mode) (params : RgbOgo), SixteenBit params →
    (setColorTemperatureParams area mode.code params).params mode = params ∧
      ∀ other, other ≠ mode → (setColorTemperatureParams area mode.code params).params other = area.params other

-- Label or checksum are wrong, or the range test sees what is out of range: it
-- fails a mode only for a gain and a post offset together.
def Caught (area : Area) : Prop :=
  (checkTemperatureDataLable area = false ∨
      calColorTemperatureParamsChecksum area ≠ getColorTemperatureParamsChecksum area) ∨
    (∀ mode, InRange (area.params mode)) ∨ ∃ mode, GainOut (area.params mode) ∧ OffsetOut (area.params mode)

theorem sum_iff (area : Area) : calColorTemperatureParamsChecksum area = getColorTemperatureParamsChecksum area ↔
    (getColorTemperatureParamsChecksum area).toNat = byteSum (fetch area.device.bytes 0 256) % 65536 := by
  have sum : (calColorTemperatureParamsChecksum area).toNat = byteSum (fetch area.device.bytes 0 256) % 65536 := by
    rw [calColorTemperatureParamsChecksum, read_fetch area 0 256 (by decide), add_bytes_sum]
    exact congrArg (· % 65536) (Nat.zero_add _)
  rw [← sum, UInt16.toNat_inj]
  exact eq_comm

theorem check_fails_iff (area : Area) : checkColorTemperatureParams area = 0 ↔
    ∃ mode, GainOut (area.params mode) ∧ OffsetOut (area.params mode) := by
  have modes : (∃ mode, GainOut (area.params mode) ∧ OffsetOut (area.params mode)) ↔
      (GainOut (area.params .standard) ∧ OffsetOut (area.params .standard)) ∨
        (GainOut (area.params .warm) ∧ OffsetOut (area.params .warm)) ∨
          (GainOut (area.params .cold) ∧ OffsetOut (area.params .cold)) := by
    constructor
    · rintro ⟨mode, fails⟩
      cases mode with
      | standard => exact .inl fails
      | warm => exact .inr (.inl fails)
      | cold => exact .inr (.inr fails)
    · rintro (fails | fails | fails)
      · exact ⟨.standard, fails⟩
      · exact ⟨.warm, fails⟩
      · exact ⟨.cold, fails⟩
  have standard := get_params area .standard
  have warm := get_params area .warm
  have cold := get_params area .cold
  simp only [Mode.code] at standard warm cold
  rw [modes]
  simp only [checkColorTemperatureParams, checkModes, standard, warm, cold]
  split_ifs <;> simp_all

theorem label_set (area : Area) : (setTemperatureDataLable area).byte 254 = 0x55 ∧
    (setTemperatureDataLable area).byte 255 = 0xAA := by
  rw [setTemperatureDataLable, byte_save _ _ _ _ (by simp) (by decide), byte_save _ _ _ _ (by simp) (by decide)]
  exact ⟨rfl, rfl⟩

theorem restored_from_db (db : Database) (area : Area) (label : area.byte 254 = 0x55 ∧ area.byte 255 = 0xAA) :
    Restored db (restoreColorTemperatureParamsFromDB db area) := by
  have saved : ∀ (start : Area) (mode : Mode),
      (saveColorTemperatureParams start mode.code (db.params mode.code)).byte 254 = start.byte 254 ∧
        (saveColorTemperatureParams start mode.code (db.params mode.code)).byte 255 = start.byte 255 := by
    intro start mode
    have inside := offset_inside mode
    exact ⟨byte_save_params start mode _ 254 (by omega), byte_save_params start mode _ 255 (by omega)⟩
  have params : ∀ mode : Mode,
      (restoreColorTemperatureParamsFromDB db area).params mode = stored (db.params mode.code) := by
    intro mode
    rw [restoreColorTemperatureParamsFromDB, params_set_checksum]
    cases mode with
    | standard =>
        exact (params_save_other _ .cold .standard _ (by decide)).trans
          ((params_save_other _ .warm .standard _ (by decide)).trans (params_saved area .standard _))
    | warm => exact (params_save_other _ .cold .warm _ (by decide)).trans (params_saved _ .warm _)
    | cold => exact params_saved _ .cold _
  refine ⟨⟨?_, ?_, ?_⟩, params⟩
  · rw [restoreColorTemperatureParamsFromDB, byte_set_checksum _ 254 (by decide), byte_set_checksum _ 255 (by decide)]
    have standard := saved area .standard
    have warm := saved (saveColorTemperatureParams area 0 (db.params 0)) .warm
    have cold := saved (saveColorTemperatureParams (saveColorTemperatureParams area 0 (db.params 0)) 1 (db.params 1)) .cold
    exact ⟨cold.1.trans (warm.1.trans (standard.1.trans label.1)), cold.2.trans (warm.2.trans (standard.2.trans label.2))⟩
  · exact (sum_iff _).mp (checksum_after_set _).symm
  · intro mode
    rw [params mode]
    exact stored_in_range _ ⟨db.gains _, db.offsets _⟩

theorem word16_inj (a b c d : UInt8) (same : word16 [a, b] = word16 [c, d]) : a = c ∧ b = d := by
  have words := congrArg UInt16.toNat same
  have aByte := a.toNat_lt
  have bByte := b.toNat_lt
  have cByte := c.toNat_lt
  have dByte := d.toNat_lt
  simp only [word16, List.getD_cons_zero, List.getD_cons_succ, UInt16.toNat_add, UInt8.toNat_toUInt16,
    UInt16.toNat_shiftLeft, Nat.shiftLeft_eq, UInt16.reduceToNat, Nat.reduceMod, Nat.reducePow] at words
  exact ⟨UInt8.toNat_inj.mp (by omega), UInt8.toNat_inj.mp (by omega)⟩

theorem sum_differs (good area : Area) (i : Nat) (inside : i < 256) (differ : good.byte i ≠ area.byte i)
    (same : ∀ j, j < 258 → j ≠ i → good.byte j = area.byte j) :
    calColorTemperatureParamsChecksum good ≠ calColorTemperatureParamsChecksum area := by
  have split : ∀ some : Area, some.read 0 256 = fetch some.device.bytes 0 i ++
      some.byte i :: fetch some.device.bytes (i + 1) (255 - i) := by
    intro some
    have at_i := fetch_at some.device.bytes 0 i (255 - i)
    have length : i + 1 + (255 - i) = 256 := by omega
    rw [length, Nat.zero_add] at at_i
    rw [read_fetch some 0 256 (by decide), at_i]
    rfl
  have before : fetch good.device.bytes 0 i = fetch area.device.bytes 0 i :=
    fetch_congr _ _ 0 i fun j below => by rw [Nat.zero_add]; exact same j (by omega) (by omega)
  have after : fetch good.device.bytes (i + 1) (255 - i) = fetch area.device.bytes (i + 1) (255 - i) :=
    fetch_congr _ _ (i + 1) (255 - i) fun j below => same (i + 1 + j) (by omega) (by omega)
  rw [calColorTemperatureParamsChecksum, calColorTemperatureParamsChecksum, split good, split area, before, after]
  exact one_byte_changes_sum _ _ _ _ differ

-- Whichever byte it is, label or checksum show it.
theorem one_byte_seen (good area : Area) (valid : Valid good) (off : OneByteOff good area) :
    ¬ (checkTemperatureDataLable area = true ∧
      calColorTemperatureParamsChecksum area = getColorTemperatureParamsChecksum area) := by
  obtain ⟨i, inside, differ, same⟩ := off
  rintro ⟨label, checksum⟩
  have goodSum := (sum_iff good).mpr valid.checksum
  rcases Nat.lt_or_ge i 256 with data | tail
  · have words : getColorTemperatureParamsChecksum good = getColorTemperatureParamsChecksum area := by
      rw [getColorTemperatureParamsChecksum, getColorTemperatureParamsChecksum, read_word good 256 (by decide),
        read_word area 256 (by decide), same 256 (by decide) (by omega), same 257 (by decide) (by omega)]
    exact sum_differs good area i data differ same (goodSum.trans (words.trans checksum.symm))
  · have sums := sum_congr good area fun j below => same j (by omega) (by omega)
    have words : getColorTemperatureParamsChecksum good = getColorTemperatureParamsChecksum area :=
      goodSum.symm.trans (sums.trans checksum)
    rw [getColorTemperatureParamsChecksum, getColorTemperatureParamsChecksum, read_word good 256 (by decide),
      read_word area 256 (by decide)] at words
    obtain ⟨low, high⟩ := word16_inj _ _ _ _ words
    rcases Nat.lt_or_ge i 257 with first | second
    · have here : i = 256 := by omega
      exact differ (here ▸ low)
    · have here : i = 257 := by omega
      exact differ (here ▸ high)

theorem check_kept (db : Database) (area : Area) (label : checkTemperatureDataLable area = true)
    (checksum : calColorTemperatureParamsChecksum area = getColorTemperatureParamsChecksum area)
    (passes : ¬ ∃ mode, GainOut (area.params mode) ∧ OffsetOut (area.params mode)) :
    checkColorTemperatureParamAlldata db area = area := by
  rw [checkColorTemperatureParamAlldata, if_pos ⟨label, checksum⟩, if_neg fun zero => passes ((check_fails_iff area).mp zero)]

theorem check_restores (db : Database) (area : Area)
    (seen : ¬ (checkTemperatureDataLable area = true ∧
        calColorTemperatureParamsChecksum area = getColorTemperatureParamsChecksum area) ∨
      ∃ mode, GainOut (area.params mode) ∧ OffsetOut (area.params mode)) :
    Restored db (checkColorTemperatureParamAlldata db area) := by
  by_cases intact : checkTemperatureDataLable area = true ∧
      calColorTemperatureParamsChecksum area = getColorTemperatureParamsChecksum area
  · have fails := seen.resolve_left fun broken => broken intact
    rw [checkColorTemperatureParamAlldata, if_pos intact, if_pos ((check_fails_iff area).mpr fails)]
    exact restored_from_db db area ((label_bytes area).mp intact.1)
  · rw [checkColorTemperatureParamAlldata, if_neg intact]
    exact restored_from_db db _ (label_set area)

theorem valid_kept (db : Database) (area : Area) (valid : Valid area) :
    checkColorTemperatureParamAlldata db area = area :=
  check_kept db area ((label_bytes area).mpr valid.label) ((sum_iff area).mpr valid.checksum)
    fun ⟨mode, gain, _⟩ => (valid.inRange mode).1 gain

theorem set_params (area : Area) (mode other : Mode) (params : RgbOgo) :
    (setColorTemperatureParams area mode.code params).params other =
      if other = mode then stored params else area.params other := by
  rw [setColorTemperatureParams, params_set_checksum]
  by_cases same : other = mode
  · rw [if_pos same, same, params_saved]
  · rw [if_neg same, params_save_other _ mode other _ (Ne.symm same)]

theorem byte_set_params (area : Area) (mode : Mode) (params : RgbOgo) (index : Nat) (behind : 60 ≤ index)
    (inside : index < 256) : (setColorTemperatureParams area mode.code params).byte index = area.byte index := by
  have fits := offset_inside mode
  rw [setColorTemperatureParams, byte_set_checksum _ index inside, byte_save_params area mode params index (by omega)]

theorem params_set_then_get (area : Area) : StoreLoad area := by
  intro mode params fits
  refine ⟨?_, fun other differ => ?_⟩
  · rw [set_params, if_pos rfl, stored_sixteen_bit params fits]
  · rw [set_params, if_neg differ]

theorem integrity_iff (db : Database) (area : Area) : (Sound db area ∧ StoreLoad area) ↔ Caught area := by
  constructor
  · rintro ⟨sound, -⟩
    by_cases intact : checkTemperatureDataLable area = true ∧
        calColorTemperatureParamsChecksum area = getColorTemperatureParamsChecksum area
    · by_cases fails : ∃ mode, GainOut (area.params mode) ∧ OffsetOut (area.params mode)
      · exact .inr (.inr fails)
      · have kept := check_kept db area intact.1 intact.2 fails
        exact .inr (.inl (kept ▸ sound.valid.inRange))
    · refine .inl ((not_and_or.mp intact).imp ?_ id)
      exact (Bool.not_eq_true _).mp
  · intro caught
    refine ⟨⟨?_, valid_kept db area, fun good valid off => check_restores db area (.inl (one_byte_seen good area valid off))⟩,
      params_set_then_get area⟩
    by_cases intact : checkTemperatureDataLable area = true ∧
        calColorTemperatureParamsChecksum area = getColorTemperatureParamsChecksum area
    · by_cases fails : ∃ mode, GainOut (area.params mode) ∧ OffsetOut (area.params mode)
      · exact (check_restores db area (.inr fails)).1
      · have broken : ¬ (checkTemperatureDataLable area = false ∨
            calColorTemperatureParamsChecksum area ≠ getColorTemperatureParamsChecksum area) := by
          rintro (label | checksum)
          · exact absurd intact.1 (by simp [label])
          · exact checksum intact.2
        have inRange := (caught.resolve_left broken).resolve_right fails
        rw [check_kept db area intact.1 intact.2 fails]
        exact ⟨(label_bytes area).mp intact.1, (sum_iff area).mp intact.2, inRange⟩
    · exact (check_restores db area (.inl intact)).1

def RgbOgo.unity : RgbOgo := ⟨1, 0, 0, 0, 1024, 1024, 1024, 0, 0, 0⟩

theorem unity_in_range : InRange .unity := by decide

def unityDatabase : Database := ⟨fun _ => .unity, fun _ => unity_in_range.1, fun _ => unity_in_range.2⟩

-- A red gain of 3000 with the post offsets in range, label and checksum right.
def redTooStrong : Area :=
  let area := setColorTemperatureParams (setTemperatureDataLable blank) 0 { RgbOgo.unity with rGain := 3000 }
  setColorTemperatureParams (setColorTemperatureParams area 1 .unity) 2 .unity

theorem red_too_strong_params (mode : Mode) :
    redTooStrong.params mode = stored (if mode = .standard then { RgbOgo.unity with rGain := 3000 } else .unity) := by
  cases mode with
  | cold => exact (set_params _ .cold .cold _).trans (if_pos rfl)
  | warm =>
      refine (set_params _ .cold .warm _).trans ((if_neg (by decide)).trans ?_)
      exact (set_params _ .warm .warm _).trans (if_pos rfl)
  | standard =>
      refine (set_params _ .cold .standard _).trans ((if_neg (by decide)).trans ?_)
      refine (set_params _ .warm .standard _).trans ((if_neg (by decide)).trans ?_)
      exact (set_params _ .standard .standard _).trans (if_pos rfl)

theorem red_too_strong_byte (index : Nat) (behind : 60 ≤ index) (inside : index < 256) :
    redTooStrong.byte index = (setTemperatureDataLable blank).byte index :=
  (byte_set_params _ .cold _ index behind inside).trans
    ((byte_set_params _ .warm _ index behind inside).trans (byte_set_params _ .standard _ index behind inside))

theorem gain_not_caught : ¬ (Sound unityDatabase redTooStrong ∧ StoreLoad redTooStrong) := by
  rintro ⟨sound, -⟩
  have passes : ¬ ∃ mode, GainOut (redTooStrong.params mode) ∧ OffsetOut (redTooStrong.params mode) := by
    rintro ⟨mode, -, offset⟩
    rw [red_too_strong_params] at offset
    cases mode <;> exact absurd offset (by decide)
  have label : checkTemperatureDataLable redTooStrong = true := by
    rw [label_bytes, red_too_strong_byte 254 (by decide) (by decide), red_too_strong_byte 255 (by decide) (by decide)]
    exact label_set blank
  have kept := check_kept unityDatabase redTooStrong label (checksum_after_set _).symm passes
  have inRange := sound.valid.inRange .standard
  rw [kept, red_too_strong_params] at inRange
  exact absurd inRange (by decide)

end Droidlogic.Pq.ColorTemp
