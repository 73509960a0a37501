import Droidlogic.Fbc.Image
import Droidlogic.Lib.Crc

set_option autoImplicit false

namespace Droidlogic.Fbc

open Droidlogic.Lib Droidlogic.Lib.Crc

def crcBit (crc : UInt32) : UInt32 := if crc &&& 1 ≠ 0 then (crc >>> 1) ^^^ 0xEDB88320 else crc >>> 1

def initCrc32Table : List UInt32 := (List.range 256).map fun i => Nat.repeat crcBit 8 (.ofNat i)

def tableByte (crc : UInt32) (byte : UInt8) : UInt32 :=
  (crc >>> 8) ^^^ initCrc32Table.getD ((crc &&& 0xFF) ^^^ byte.toUInt32).toNat 0

-- The loop counts up to (int)len.
def getCrc32 (inStr : Bytes) (len : UInt32) : UInt32 :=
  (inStr.take len.toInt32.toInt.toNat).foldl tableByte 0xffffffff ^^^ 0xFFFFFFFF

theorem crc_bit_shift (crc : UInt32) : crcBit crc = lsbShift 0xEDB88320 crc := by
  rcases low_bit crc with even | odd
  · rw [lsb_shift_even _ _ even, crcBit, even]
    rfl
  · rw [lsb_shift_odd _ _ odd, crcBit, odd]
    rfl

theorem low_index (crc value mask : UInt32) (bits : Nat) (isMask : mask.toNat = 2 ^ bits - 1)
    (small : value.toNat < 2 ^ bits) : ((crc &&& mask) ^^^ value).toNat < 2 ^ bits := by
  rw [UInt32.toNat_xor, UInt32.toNat_and, isMask, Nat.and_two_pow_sub_one_eq_mod]
  exact Nat.xor_lt_two_pow (Nat.mod_lt _ (Nat.two_pow_pos bits)) small

theorem s_crc32_entry (index : UInt32) (small : index.toNat < 16) :
    s_crc32.getD index.toNat 0 = Nat.repeat (lsbShift 0xEDB88320) 4 index := by
  have entries : ∀ i : Fin 16, s_crc32.getD i 0 = Nat.repeat (lsbShift 0xEDB88320) 4 (.ofNat i) := by decide +kernel
  have entry := entries ⟨index.toNat, small⟩
  rwa [UInt32.ofNat_toNat] at entry

theorem crc32_table_entry (index : UInt32) (small : index.toNat < 256) :
    initCrc32Table.getD index.toNat 0 = Nat.repeat (lsbShift 0xEDB88320) 8 index := by
  have shift : crcBit = lsbShift 0xEDB88320 := funext crc_bit_shift
  rw [initCrc32Table, List.getD_eq_getElem?_getD, List.getElem?_map, List.getElem?_range small, Option.map_some,
    Option.getD_some, UInt32.ofNat_toNat, shift]

theorem crc_nibble_shifts (crc : UInt32) (nibble : UInt8) (small : nibble.toNat < 16) :
    crcNibble crc nibble = Nat.repeat (lsbShift 0xEDB88320) 4 (crc ^^^ nibble.toUInt32) := by
  have inside : ((crc &&& 0xF) ^^^ nibble.toUInt32).toNat < 16 := low_index crc _ 0xF 4 rfl small
  rw [crcNibble, s_crc32_entry _ inside]
  exact lsb_lookup 0xEDB88320 4 0xF crc nibble.toUInt32 (by decide) rfl

theorem crc_byte_bitwise (crc : UInt32) (byte : UInt8) : crcByte crc byte = lsbByte 0xEDB88320 crc byte := by
  have low : (byte &&& 0xF).toNat < 16 := by
    rw [UInt8.toNat_and]
    exact Nat.lt_of_le_of_lt Nat.and_le_right (by decide)
  have high : (byte >>> 4).toNat < 16 := by
    have bound := byte.toNat_lt
    rw [UInt8.toNat_shiftRight]
    simp [Nat.shiftRight_eq_div_pow]
    omega
  rw [crcByte, crc_nibble_shifts _ _ low, crc_nibble_shifts _ _ high, lsb_byte_halves]

theorem table_byte_bitwise (crc : UInt32) (byte : UInt8) : tableByte crc byte = lsbByte 0xEDB88320 crc byte := by
  have inside : ((crc &&& 0xFF) ^^^ byte.toUInt32).toNat < 256 := low_index crc _ 0xFF 8 rfl byte.toNat_lt
  rw [tableByte, crc32_table_entry _ inside]
  exact lsb_lookup 0xEDB88320 8 0xFF crc byte.toUInt32 (by decide) rfl

theorem calcrc32_bitwise (bytes : Bytes) : calcrc32 0 bytes = crc32 bytes := by
  have byte : crcByte = lsbByte 0xEDB88320 := funext fun crc => funext fun byte => crc_byte_bitwise crc byte
  rw [calcrc32, byte, crc32]
  rfl

theorem calcrc32_append (crc : UInt32) (first second : Bytes) :
    calcrc32 (calcrc32 crc first) second = calcrc32 crc (first ++ second) := by
  rw [calcrc32, calcrc32, UInt32.not_not, calcrc32, List.foldl_append]

-- A length from 2^31 on is negative as an int: the loop does nothing.
theorem get_crc32_bitwise (bytes : Bytes) (fits : bytes.length < 4294967296) :
    getCrc32 bytes (.ofNat bytes.length) = if bytes.length < 2147483648 then crc32 bytes else 0 := by
  have step : tableByte = lsbByte 0xEDB88320 := funext fun crc => funext fun byte => table_byte_bitwise crc byte
  have ones : (0xFFFFFFFF : UInt32) = -1 := rfl
  have length : (UInt32.ofNat bytes.length).toNat = bytes.length := Nat.mod_eq_of_lt fits
  rw [getCrc32, step, ones, UInt32.xor_neg_one]
  by_cases short : bytes.length < 2147483648
  · rw [if_pos short, word_to_int _ (by rw [length]; exact short), length, Int.toNat_natCast, List.take_length]
    rfl
  · have word := word_to_int_high (.ofNat bytes.length) (by rw [length]; exact Nat.le_of_not_lt short)
    have none_left : ((bytes.length : Int) - 4294967296).toNat = 0 := by omega
    rw [if_neg short, word, length, none_left, List.take_zero, List.foldl_nil]
    rfl

-- The CRC of the code and of the data behind it is the one of both in a row.
theorem check_partition_crc (file : UpgradeFile) (info : PartitionInfo) (code data : Bytes)
    (codeThere : info.code_offset ≠ 0 ∧ info.code_size ≠ 0) (dataThere : info.data_offset ≠ 0 ∧ info.data_size ≠ 0)
    (codeIs : file.slice info.code_offset.toNat info.code_size.toNat = some code)
    (dataIs : file.slice info.data_offset.toNat info.data_size.toNat = some data) :
    check_partition file info = some (decide (crc32 (code ++ data) = info.crc)) := by
  rw [check_partition, checkRange, if_pos codeThere, codeIs]
  simp only [Option.map_some]
  rw [checkRange, if_pos dataThere, dataIs]
  simp only [Option.map_some, Bool.or_self, Bool.true_and]
  rw [calcrc32_append, calcrc32_bitwise]

def Agree (s t : Bytes) : Prop :=
  calcrc32 0 s = crc32 s ∧ getCrc32 s (.ofNat s.length) = crc32 s ∧ calcrc32 (calcrc32 0 s) t = calcrc32 0 (s ++ t)

theorem crc_agree (s t : Bytes) :
    calcrc32 0 s = crc32 s ∧ calcrc32 (calcrc32 0 s) t = calcrc32 0 (s ++ t) ∧
      (s.length < 2147483648 → Agree s t) := by
  refine ⟨calcrc32_bitwise s, calcrc32_append 0 s t, fun short => ⟨calcrc32_bitwise s, ?_, calcrc32_append 0 s t⟩⟩
  rw [get_crc32_bitwise s (Nat.lt_trans short (by decide)), if_pos short]

-- "123456789"
theorem crc_agree_digits : Agree (ascii ['1', '2', '3', '4', '5']) (ascii ['6', '7', '8', '9']) :=
  (crc_agree _ _).2.2 (by decide)

theorem zeros_keep (count : Nat) : (List.replicate count 0).foldl (lsbByte 0xEDB88320) 0 = 0 := by
  have still : lsbByte 0xEDB88320 0 0 = 0 := by decide
  induction count with
  | zero => rfl
  | succ count ih => rw [List.replicate_succ, List.foldl_cons, still, ih]

-- Four bytes that bring the register to 0, and zeros up to a length of 2^31.
theorem crc_apart : ¬ ∀ s t : Bytes, s.length < 4294967296 → Agree s t := by
  intro all
  have length : ([0xFF, 0xFF, 0xFF, 0xFF] ++ List.replicate 2147483644 (0 : UInt8)).length = 2147483648 := by
    rw [List.length_append, List.length_replicate]
    rfl
  have value : crc32 ([0xFF, 0xFF, 0xFF, 0xFF] ++ List.replicate 2147483644 0) = 0xFFFFFFFF := by
    have four : [0xFF, 0xFF, 0xFF, 0xFF].foldl (lsbByte 0xEDB88320) 0xFFFFFFFF = 0 := by decide +kernel
    rw [crc32, List.foldl_append, four, zeros_keep]
    rfl
  have fits : ([0xFF, 0xFF, 0xFF, 0xFF] ++ List.replicate 2147483644 (0 : UInt8)).length < 4294967296 := by
    rw [length]
    decide
  have long : ¬([0xFF, 0xFF, 0xFF, 0xFF] ++ List.replicate 2147483644 (0 : UInt8)).length < 2147483648 := by
    rw [length]
    decide
  have same := (all _ [] fits).2.1
  rw [get_crc32_bitwise _ fits, if_neg long, value] at same
  exact absurd same (by decide)

end Droidlogic.Fbc
