import Droidlogic.Config.Lookup
import Droidlogic.Lib.CopyLoop
import Droidlogic.Lib.Text
import Droidlogic.Lib.Tokens

set_option autoImplicit false

namespace Droidlogic.Pq.IntegerList

open Lib Config

def comma : UInt8 := 44

-- val[i++] = atoi(p) for each token of temp_buf. none is a write outside of temp_buf or
-- of val, and a buf of none the null pointer.
def pqTransformStringToInt (buf : Option CStr) (val : List Int) : Option (List Int) :=
  match buf with
  | none => some val
  | some buf => (strcpy 256 buf).bind fun temp_buf =>
      copyLoop atoi (tokens comma temp_buf.str.bytes).length (tokens comma temp_buf.str.bytes) val

def sectionPq : CStr := .read (ascii ['P', 'Q'])

def sectionBacklight : CStr := .read (ascii ['B', 'A', 'C', 'K', 'L', 'I', 'G', 'H', 'T'])

-- auto.backlight. and what follows it
def autoBacklight (key : List Char) : CStr :=
  .read (ascii (['a', 'u', 't', 'o', '.', 'b', 'a', 'c', 'k', 'l', 'i', 'g', 'h', 't', '.'] ++ key))

def autoBacklightThtf : CStr := autoBacklight ['t', 'h', 't', 'f']

def autoBacklightLutmode : CStr := autoBacklight ['l', 'u', 't', 'm', 'o', 'd', 'e']

def autoBacklightLuthigh : CStr :=
  autoBacklight ['l', 'u', 't', 'v', 'a', 'l', 'u', 'e', '_', 'h', 'i', 'g', 'h']

def autoBacklightLutlow : CStr := autoBacklight ['l', 'u', 't', 'v', 'a', 'l', 'u', 'e', '_', 'l', 'o', 'w']

def lvdssscDef : CStr := .read (ascii ['p', 'q', '.', 'L', 'V', 'D', 'S', 'S', 'S', 'C', '.', 'd', 'e', 'f'])

section
variable (mPQConfigFile : CConfigFile)

def getInt (sectionName key : CStr) (def_value : Int) : Int :=
  ((find sectionName key mPQConfigFile.mpFirstLine).map fun num => atoi num.bytes).getD def_value

structure BacklightConfig where
  thtf : Int
  lut_mode : Int
  heigh_param : List Int
  low_param : List Int

def getDynamicBacklighConfig (heigh_param low_param : List Int) : Option BacklightConfig := do
  let heigh_param ← pqTransformStringToInt (find sectionBacklight autoBacklightLuthigh mPQConfigFile.mpFirstLine) heigh_param
  let low_param ← pqTransformStringToInt (find sectionBacklight autoBacklightLutlow mPQConfigFile.mpFirstLine) low_param
  some ⟨getInt mPQConfigFile sectionBacklight autoBacklightThtf 0,
    getInt mPQConfigFile sectionBacklight autoBacklightLutmode 1, heigh_param, low_param⟩

-- LUT_high[17] and LUT_low[17], cleared.
def clearedLut : List Int := List.replicate 17 0

-- The part of resetAllUserSettingParam that sets int tmp[2] = {0, 0}.
def lvdssscParam : Option (List Int) :=
  pqTransformStringToInt (find sectionPq lvdssscDef mPQConfigFile.mpFirstLine) [0, 0]

end

-- The numbers of a list, a number being what stands between two commas.
def numbers (text : CStr) : List Int := (pieces comma text.bytes).map atoi

-- The i-th number goes to place i, and the places behind the last number stay.
def Stored (buf : Option CStr) (val : List Int) (result : Option (List Int)) : Prop :=
  result = some (buf.elim [] numbers ++ val.drop (buf.elim [] numbers).length)

def Fits (buf : Option CStr) (places : Nat) : Prop :=
  ∀ text, buf = some text → text.bytes.length < 256 ∧ (pieces comma text.bytes).length ≤ places

theorem transform_string (text : CStr) (val : List Int) :
    pqTransformStringToInt (some text) val =
      if text.bytes.length < 256 ∧ (pieces comma text.bytes).length ≤ val.length then
        some (numbers text ++ val.drop (numbers text).length)
      else none := by
  rw [pqTransformStringToInt]
  by_cases short : text.bytes.length < 256
  · rw [strcpy_some 256 text short, Option.bind_some, tokens_pieces]
    by_cases room : (pieces comma text.bytes).length ≤ val.length
    · rw [copy_loop_some atoi _ _ _ le_rfl room, if_pos ⟨short, room⟩, List.take_length, numbers, List.length_map]
    · rw [if_neg fun both => room both.2, copy_loop_none_iff]
      exact fun both => room both.2
  · rw [if_neg fun both => short both.1, strcpy, dif_neg short, Option.bind_none]

theorem stored_iff (buf : Option CStr) (val : List Int) :
    Stored buf val (pqTransformStringToInt buf val) ↔ Fits buf val.length := by
  cases buf with
  | none => exact iff_of_true rfl fun text null => by cases null
  | some text =>
      rw [Stored, transform_string]
      constructor
      · intro stored _ same
        cases same
        by_contra large
        rw [if_neg large] at stored
        cases stored
      · intro fits
        rw [if_pos (fits text rfl)]
        rfl

theorem backlight_config_iff (mPQConfigFile : CConfigFile) (heigh_param low_param : List Int) :
    (∃ result, getDynamicBacklighConfig mPQConfigFile heigh_param low_param = some result ∧
        Stored (find sectionBacklight autoBacklightLuthigh mPQConfigFile.mpFirstLine) heigh_param (some result.heigh_param) ∧
        Stored (find sectionBacklight autoBacklightLutlow mPQConfigFile.mpFirstLine) low_param (some result.low_param)) ↔
      Fits (find sectionBacklight autoBacklightLuthigh mPQConfigFile.mpFirstLine) heigh_param.length ∧
        Fits (find sectionBacklight autoBacklightLutlow mPQConfigFile.mpFirstLine) low_param.length := by
  rw [← stored_iff, ← stored_iff, getDynamicBacklighConfig]
  constructor
  · rintro ⟨result, read, high, low⟩
    obtain ⟨heigh, readHigh, read⟩ := Option.bind_eq_some_iff.mp read
    obtain ⟨lowParam, readLow, read⟩ := Option.bind_eq_some_iff.mp read
    cases read
    rw [readHigh, readLow]
    exact ⟨high, low⟩
  · rintro ⟨high, low⟩
    rw [Stored] at high low
    rw [high, low]
    exact ⟨_, rfl, rfl, rfl⟩

-- Every string and array, and the arrays and settings of the three calls.
theorem integer_list_iff (mPQConfigFile : CConfigFile) :
    (∀ (text : CStr) (val : List Int), Stored (some text) val (pqTransformStringToInt (some text) val) ↔
      text.bytes.length < 256 ∧ (pieces comma text.bytes).length ≤ val.length) ∧
    ((∃ result, getDynamicBacklighConfig mPQConfigFile clearedLut clearedLut = some result ∧
        Stored (find sectionBacklight autoBacklightLuthigh mPQConfigFile.mpFirstLine) clearedLut (some result.heigh_param) ∧
        Stored (find sectionBacklight autoBacklightLutlow mPQConfigFile.mpFirstLine) clearedLut (some result.low_param)) ↔
      Fits (find sectionBacklight autoBacklightLuthigh mPQConfigFile.mpFirstLine) 17 ∧
        Fits (find sectionBacklight autoBacklightLutlow mPQConfigFile.mpFirstLine) 17) ∧
    (Stored (find sectionPq lvdssscDef mPQConfigFile.mpFirstLine) [0, 0] (lvdssscParam mPQConfigFile) ↔
      Fits (find sectionPq lvdssscDef mPQConfigFile.mpFirstLine) 2) := by
  have seventeen : clearedLut.length = 17 := List.length_replicate
  refine ⟨fun text val => ?_, ?_, stored_iff _ _⟩
  · rw [stored_iff]
    exact ⟨fun fits => fits text rfl, fun fits other same => by cases same; exact fits⟩
  · have both := backlight_config_iff mPQConfigFile clearedLut clearedLut
    rw [seventeen] at both
    exact both

-- "[PQ]" and "pq.LVDSSSC.def=1,2,3" on two lines.
def threeItems : Bytes :=
  ascii ['[', 'P', 'Q', ']'] ++ [newline] ++ lvdssscDef.bytes ++ ascii ['=', '1', ',', '2', ',', '3'] ++ [newline]

-- 256 digits for a table, and three numbers for the setting of two.
theorem integer_list_overruns :
    (¬ ∀ text : CStr, Stored (some text) clearedLut (pqTransformStringToInt (some text) clearedLut)) ∧
    (¬ ∀ (mpFileName : CharArray 256) (content : Bytes),
      Stored (find sectionPq lvdssscDef (loadLines content)) [0, 0] (lvdssscParam ⟨mpFileName, loadLines content⟩)) := by
  constructor
  · intro all
    have digits : (CStr.read (List.replicate 256 49)).bytes = List.replicate 256 49 :=
      CStr.read_bytes _ fun zero => absurd (List.eq_of_mem_replicate zero) (by decide)
    have fits := (stored_iff _ _).mp (all (CStr.read (List.replicate 256 49))) _ rfl
    rw [digits, List.length_replicate] at fits
    exact absurd fits.1 (by decide)
  · intro all
    have unnamed : CStr.empty.bytes.length < 256 := Nat.zero_lt_succ _
    have read : find sectionPq lvdssscDef (loadLines threeItems) = some (CStr.read (ascii ['1', ',', '2', ',', '3'])) := by
      decide +kernel
    have fits := (stored_iff _ _).mp (all ⟨CStr.empty, unnamed⟩ threeItems) _ read
    exact absurd fits.2 (by decide +kernel)

end Droidlogic.Pq.IntegerList
