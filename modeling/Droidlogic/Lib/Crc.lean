import Mathlib.Algebra.Ring.Nat
import Droidlogic.Lib.Bytes

set_option autoImplicit false

namespace Droidlogic.Lib.Crc

section
variable (polynomial : UInt32)

-- Least significant bit first, as in zlib's crc32 and its 0xEDB88320.
def lsbShift (crc : UInt32) : UInt32 :=
  if crc &&& 1 = 1 then (crc >>> 1) ^^^ polynomial else crc >>> 1

def lsbByte (crc : UInt32) (byte : UInt8) : UInt32 :=
  Nat.repeat (lsbShift polynomial) 8 (crc ^^^ byte.toUInt32)

-- Most significant bit first, as in the CRC of MPEG-2 sections.
def msbShift (crc : UInt32) : UInt32 :=
  (crc <<< 1) ^^^ (if crc &&& 0x80000000 ≠ 0 then polynomial else 0)

def msbEntry (index : UInt8) : UInt32 := Nat.repeat (msbShift polynomial) 8 (index.toUInt32 <<< 24)

def msbByte (crc : UInt32) (byte : UInt8) : UInt32 :=
  (crc <<< 8) ^^^ msbEntry polynomial ((crc >>> 24) ^^^ byte.toUInt32).toUInt8

end

def crc32 (bytes : Bytes) : UInt32 := ~~~ bytes.foldl (lsbByte 0xEDB88320) 0xFFFFFFFF

example : crc32 (ascii ['1', '2', '3', '4', '5', '6', '7', '8', '9']) = 0xCBF43926 := by decide +kernel

theorem msb_entry_zero (polynomial : UInt32) : msbEntry polynomial 0 = 0 := by
  have still : msbShift polynomial 0 = 0 := by simp [msbShift]
  simp [msbEntry, Nat.repeat, still]

theorem msb_byte_own (polynomial crc : UInt32) : msbByte polynomial crc (crc >>> 24).toUInt8 = crc <<< 8 := by
  have index : ((crc >>> 24) ^^^ (crc >>> 24).toUInt8.toUInt32).toUInt8 = 0 := by
    rw [UInt32.toUInt8_xor, UInt8.toUInt8_toUInt32, UInt8.xor_self]
  rw [msbByte, index, msb_entry_zero, UInt32.xor_zero]

-- A message followed by its checksum leaves no remainder.
theorem msb_residue (polynomial crc : UInt32) : (be32 crc).foldl (msbByte polynomial) crc = 0 := by
  have second : (crc >>> 16).toUInt8 = ((crc <<< 8) >>> 24).toUInt8 := by
    apply UInt8.toNat_inj.mp
    simp [UInt32.toNat_shiftRight, UInt32.toNat_shiftLeft, Nat.shiftRight_eq_div_pow, Nat.shiftLeft_eq]
    omega
  have third : (crc >>> 8).toUInt8 = ((crc <<< 8 <<< 8) >>> 24).toUInt8 := by
    apply UInt8.toNat_inj.mp
    simp [UInt32.toNat_shiftRight, UInt32.toNat_shiftLeft, Nat.shiftRight_eq_div_pow, Nat.shiftLeft_eq]
    omega
  have fourth : crc.toUInt8 = ((crc <<< 8 <<< 8 <<< 8) >>> 24).toUInt8 := by
    apply UInt8.toNat_inj.mp
    simp [UInt32.toNat_shiftRight, UInt32.toNat_shiftLeft, Nat.shiftRight_eq_div_pow, Nat.shiftLeft_eq]
    omega
  have out : crc <<< 8 <<< 8 <<< 8 <<< 8 = 0 := by
    apply UInt32.toNat_inj.mp
    simp [UInt32.toNat_shiftLeft, Nat.shiftLeft_eq]
    omega
  simp only [be32, List.foldl_cons, List.foldl_nil]
  rw [msb_byte_own, second, msb_byte_own, third, msb_byte_own, fourth, msb_byte_own, out]

section
variable (polynomial : UInt32)

theorem low_bit (crc : UInt32) : crc &&& 1 = 0 ∨ crc &&& 1 = 1 := by
  rcases Nat.mod_two_eq_zero_or_one crc.toNat with even | odd
  · exact .inl (UInt32.toNat_inj.mp ((UInt32.toNat_and crc 1).trans ((Nat.and_one_is_mod _).trans even)))
  · exact .inr (UInt32.toNat_inj.mp ((UInt32.toNat_and crc 1).trans ((Nat.and_one_is_mod _).trans odd)))

theorem and_xor (first second mask : UInt32) : (first ^^^ second) &&& mask = (first &&& mask) ^^^ (second &&& mask) := by
  apply UInt32.toBitVec_inj.mp
  ext i inside
  simp [Bool.and_xor_distrib_right]

theorem lsb_shift_odd (crc : UInt32) (odd : crc &&& 1 = 1) : lsbShift polynomial crc = (crc >>> 1) ^^^ polynomial :=
  if_pos odd

theorem lsb_shift_even (crc : UInt32) (even : crc &&& 1 = 0) : lsbShift polynomial crc = crc >>> 1 := by
  rw [lsbShift, even]
  rfl

theorem lsb_shift_xor (first second : UInt32) :
    lsbShift polynomial (first ^^^ second) = lsbShift polynomial first ^^^ lsbShift polynomial second := by
  have both := and_xor first second 1
  rcases low_bit first with even | odd
  · rw [even, UInt32.zero_xor] at both
    rw [lsb_shift_even polynomial first even]
    rcases low_bit second with evenToo | oddToo
    · rw [lsb_shift_even _ _ (both.trans evenToo), lsb_shift_even _ _ evenToo, UInt32.shiftRight_xor]
    · rw [lsb_shift_odd _ _ (both.trans oddToo), lsb_shift_odd _ _ oddToo, UInt32.shiftRight_xor, UInt32.xor_assoc]
  · rw [lsb_shift_odd polynomial first odd]
    rcases low_bit second with evenToo | oddToo
    · rw [odd, evenToo, UInt32.xor_zero] at both
      rw [lsb_shift_odd _ _ both, lsb_shift_even _ _ evenToo, UInt32.shiftRight_xor]
      ac_rfl
    · rw [odd, oddToo, UInt32.xor_self] at both
      have twice : (first >>> 1) ^^^ polynomial ^^^ ((second >>> 1) ^^^ polynomial) =
          (first >>> 1) ^^^ (second >>> 1) ^^^ (polynomial ^^^ polynomial) := by ac_rfl
      rw [lsb_shift_even _ _ both, lsb_shift_odd _ _ oddToo, UInt32.shiftRight_xor, twice, UInt32.xor_self,
        UInt32.xor_zero]

theorem lsb_shifts_xor (count : Nat) (first second : UInt32) :
    Nat.repeat (lsbShift polynomial) count (first ^^^ second) =
      Nat.repeat (lsbShift polynomial) count first ^^^ Nat.repeat (lsbShift polynomial) count second := by
  induction count with
  | zero => rfl
  | succ count ih => rw [Nat.repeat, ih, lsb_shift_xor, Nat.repeat, Nat.repeat]

-- Bits that a shift lets out one by one only move down.
theorem lsb_shifts_high (count : Nat) (high crc : UInt32) (moved : crc.toNat = high.toNat * 2 ^ count) :
    Nat.repeat (lsbShift polynomial) count crc = high := by
  induction count generalizing high with
  | zero => exact UInt32.toNat_inj.mp (moved.trans (Nat.mul_one _))
  | succ count ih =>
      have bound := crc.toNat_lt
      have positive : 0 < 2 ^ count := Nat.two_pow_pos count
      have fits : 2 * high.toNat < 4294967296 := by
        rw [Nat.pow_succ] at moved
        have less : high.toNat * 2 ≤ crc.toNat := by
          rw [moved, Nat.mul_comm (2 ^ count), ← Nat.mul_assoc]
          exact Nat.le_mul_of_pos_right _ positive
        omega
      have doubled : (high <<< 1).toNat = 2 * high.toNat := by
        rw [UInt32.toNat_shiftLeft]
        simp [Nat.shiftLeft_eq]
        omega
      have even : (high <<< 1) &&& 1 = 0 := by
        apply UInt32.toNat_inj.mp
        rw [UInt32.toNat_and, doubled]
        exact (Nat.and_one_is_mod _).trans (Nat.mul_mod_right 2 _)
      have back : (high <<< 1) >>> 1 = high := by
        apply UInt32.toNat_inj.mp
        rw [UInt32.toNat_shiftRight, doubled]
        simp [Nat.shiftRight_eq_div_pow]
      have earlier := ih (high <<< 1) (by rw [moved, doubled, Nat.pow_succ]; ac_rfl)
      rw [Nat.repeat, earlier, lsb_shift_even _ _ even, back]

theorem xor_low (value count : Nat) : value ^^^ value % 2 ^ count = value / 2 ^ count * 2 ^ count := by
  apply Nat.eq_of_testBit_eq
  intro i
  rw [Nat.testBit_xor, Nat.testBit_mod_two_pow, Nat.testBit_mul_two_pow, Nat.testBit_div_two_pow]
  by_cases low : i < count
  · simp [low, Nat.not_le_of_lt low]
  · simp [low, Nat.le_of_not_lt low]

-- As many shifts as the mask has bits look the masked bits up in a table.
theorem lsb_shifts_table (count : Nat) (mask crc : UInt32) (small : count < 32) (isMask : mask.toNat = 2 ^ count - 1) :
    Nat.repeat (lsbShift polynomial) count crc =
      (crc >>> .ofNat count) ^^^ Nat.repeat (lsbShift polynomial) count (crc &&& mask) := by
  have shifted : (crc >>> .ofNat count).toNat = crc.toNat / 2 ^ count := by
    have amount : (UInt32.ofNat count).toNat = count := Nat.mod_eq_of_lt (by omega)
    rw [UInt32.toNat_shiftRight, amount, Nat.mod_eq_of_lt small, Nat.shiftRight_eq_div_pow]
  have high : (crc ^^^ (crc &&& mask)).toNat = (crc >>> .ofNat count).toNat * 2 ^ count := by
    rw [UInt32.toNat_xor, UInt32.toNat_and, isMask, Nat.and_two_pow_sub_one_eq_mod, xor_low, shifted]
  have whole : crc ^^^ (crc &&& mask) ^^^ (crc &&& mask) = crc := by
    rw [UInt32.xor_assoc, UInt32.xor_self, UInt32.xor_zero]
  have split := lsb_shifts_xor polynomial count (crc ^^^ (crc &&& mask)) (crc &&& mask)
  rwa [whole, lsb_shifts_high polynomial count _ _ high] at split

theorem lsb_lookup (count : Nat) (mask crc value : UInt32) (small : count < 32) (isMask : mask.toNat = 2 ^ count - 1) :
    (crc >>> .ofNat count) ^^^ Nat.repeat (lsbShift polynomial) count ((crc &&& mask) ^^^ value) =
      Nat.repeat (lsbShift polynomial) count (crc ^^^ value) := by
  rw [lsb_shifts_xor, lsb_shifts_xor, lsb_shifts_table polynomial count mask crc small isMask, UInt32.xor_assoc]

theorem lsb_shifts_add (first second : Nat) (crc : UInt32) :
    Nat.repeat (lsbShift polynomial) (first + second) crc =
      Nat.repeat (lsbShift polynomial) second (Nat.repeat (lsbShift polynomial) first crc) := by
  induction second with
  | zero => rfl
  | succ second ih => rw [← Nat.add_assoc, Nat.repeat, ih, Nat.repeat]

-- A byte in two halves of four bits.
theorem lsb_byte_halves (crc : UInt32) (byte : UInt8) :
    lsbByte polynomial crc byte =
      Nat.repeat (lsbShift polynomial) 4
        (Nat.repeat (lsbShift polynomial) 4 (crc ^^^ (byte &&& 0xF).toUInt32) ^^^ (byte >>> 4).toUInt32) := by
  have nibbles : ∀ index : Fin 256, let byte := UInt8.ofNat index
      byte.toUInt32 = (byte &&& 0xF).toUInt32 ^^^ ((byte >>> 4).toUInt32 <<< 4) ∧
        ((byte >>> 4).toUInt32 <<< 4).toNat = (byte >>> 4).toUInt32.toNat * 2 ^ 4 := by decide +kernel
  have own : UInt8.ofNat byte.toNat = byte := UInt8.ofNat_toNat
  obtain ⟨halves, moved⟩ := nibbles ⟨byte.toNat, byte.toNat_lt⟩
  simp only [own] at halves moved
  rw [lsbByte, halves, ← UInt32.xor_assoc, lsb_shifts_add polynomial 4 4,
    lsb_shifts_xor polynomial 4 (crc ^^^ (byte &&& 0xF).toUInt32), lsb_shifts_high polynomial 4 _ _ moved]

end

end Droidlogic.Lib.Crc
