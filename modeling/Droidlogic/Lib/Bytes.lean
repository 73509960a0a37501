import Mathlib.Data.List.Basic

set_option autoImplicit false

namespace Droidlogic.Lib

abbrev Bytes := List UInt8

def ascii (text : List Char) : Bytes := text.map fun c => c.toNat.toUInt8

def be32 (word : UInt32) : Bytes :=
  [(word >>> 24).toUInt8, (word >>> 16).toUInt8, (word >>> 8).toUInt8, word.toUInt8]

def le32 (word : UInt32) : Bytes :=
  [word.toUInt8, (word >>> 8).toUInt8, (word >>> 16).toUInt8, (word >>> 24).toUInt8]

theorem be32_length (word : UInt32) : (be32 word).length = 4 := rfl

@[simp] theorem le32_length (word : UInt32) : (le32 word).length = 4 := rfl

def word32 (memory : Bytes) : UInt32 :=
  .ofNat ((memory.getD 0 0).toNat + 256 * (memory.getD 1 0).toNat + 65536 * (memory.getD 2 0).toNat +
    16777216 * (memory.getD 3 0).toNat)

theorem word32_le32 (word : UInt32) : word32 (le32 word) = word := by
  apply UInt32.toNat_inj.mp
  have bound := word.toNat_lt
  simp only [word32, le32, List.getD_cons_zero, List.getD_cons_succ, UInt32.toNat_ofNat', UInt32.toNat_toUInt8,
    UInt32.toNat_shiftRight, Nat.shiftRight_eq_div_pow, UInt32.reduceToNat, Nat.reduceMod, Nat.reducePow]
  omega

theorem shift_or (low high width : Nat) (fits : low < 1 <<< width) : low ||| high <<< width = low + high <<< width := by
  rw [Nat.shiftLeft_eq, Nat.one_mul] at fits
  rw [Nat.or_comm, ← Nat.shiftLeft_add_eq_or_of_lt fits, Nat.add_comm]

theorem shifted_byte (byte : UInt8) (shift : Nat) (inside : shift ≤ 24) :
    byte.toNat <<< shift % 4294967296 = byte.toNat <<< shift := by
  apply Nat.mod_eq_of_lt
  rw [Nat.shiftLeft_eq]
  calc
    byte.toNat * 2 ^ shift ≤ 255 * 2 ^ 24 :=
      Nat.mul_le_mul (Nat.le_of_lt_succ byte.toNat_lt) (Nat.pow_le_pow_right Nat.two_pos inside)
    _ < 4294967296 := by decide

theorem word32_or (memory : Bytes) :
    word32 memory = (memory.getD 0 0).toUInt32 ||| (memory.getD 1 0).toUInt32 <<< 8 |||
      (memory.getD 2 0).toUInt32 <<< 16 ||| (memory.getD 3 0).toUInt32 <<< 24 := by
  apply UInt32.toNat_inj.mp
  have first := (memory.getD 0 0).toNat_lt
  have second := (memory.getD 1 0).toNat_lt
  have third := (memory.getD 2 0).toNat_lt
  have fourth := (memory.getD 3 0).toNat_lt
  simp only [UInt32.toNat_or, UInt32.toNat_shiftLeft, UInt8.toNat_toUInt32, UInt32.reduceToNat, Nat.reduceMod,
    Nat.reducePow]
  rw [shifted_byte _ 8 (by decide), shifted_byte _ 16 (by decide), shifted_byte _ 24 (by decide), shift_or _ _ 8 first,
    shift_or _ _ 16 (by omega), shift_or _ _ 24 (by omega), word32, UInt32.toNat_ofNat']
  omega

theorem word_to_int (word : UInt32) (small : word.toNat < 2147483648) : word.toInt32.toInt = word.toNat := by
  have half : 2 * word.toBitVec.toNat < 2 ^ 32 := by
    rw [UInt32.toNat_toBitVec]
    omega
  exact BitVec.toInt_eq_toNat_of_lt half

theorem word_to_int_high (word : UInt32) (high : 2147483648 ≤ word.toNat) :
    word.toInt32.toInt = word.toNat - 4294967296 := by
  have half : ¬2 * word.toBitVec.toNat < 2 ^ 32 := by
    rw [UInt32.toNat_toBitVec]
    omega
  have value := BitVec.toInt_eq_toNat_cond word.toBitVec
  rw [if_neg half] at value
  exact value

-- memcpy into a buffer of fixed size; none is a write past its end.
def overwrite (buffer : Bytes) (offset : Nat) (source : Bytes) : Option Bytes :=
  if offset + source.length ≤ buffer.length then
    some (buffer.take offset ++ source ++ buffer.drop (offset + source.length))
  else none

theorem overwrite_none_iff (buffer source : Bytes) (offset : Nat) :
    overwrite buffer offset source = none ↔ buffer.length < offset + source.length := by
  simp [overwrite]

theorem overwrite_length (buffer source result : Bytes) (offset : Nat)
    (written : overwrite buffer offset source = some result) : result.length = buffer.length := by
  by_cases room : offset + source.length ≤ buffer.length
  · simp only [overwrite, if_pos room, Option.some.injEq] at written
    subst result
    simp only [List.length_append, List.length_take, List.length_drop]
    omega
  · simp [overwrite, room] at written

theorem overwrite_middle (before old after source : Bytes) (same : source.length = old.length) :
    overwrite (before ++ old ++ after) before.length source = some (before ++ source ++ after) := by
  have room : before.length + source.length ≤ (before ++ old ++ after).length := by
    simp only [List.length_append]
    omega
  have suffix : (before ++ old ++ after).drop (before.length + source.length) = after := by
    rw [same, ← List.length_append, List.drop_left]
  rw [overwrite, if_pos room, suffix, List.append_assoc before old, List.take_left]

-- A cleared buffer of a size with some bytes at its front.
def zeroFilled (size : Nat) (got : Bytes) : Bytes := got ++ List.replicate (size - got.length) 0

theorem zero_filled_length (size : Nat) (got : Bytes) (inside : got.length ≤ size) :
    (zeroFilled size got).length = size := by
  rw [zeroFilled, List.length_append, List.length_replicate]
  omega

theorem overwrite_zero_filled (size : Nat) (got source : Bytes) (inside : got.length + source.length ≤ size) :
    overwrite (zeroFilled size got) got.length source = some (zeroFilled size (got ++ source)) := by
  have room : got.length + source.length ≤ (zeroFilled size got).length := by
    rw [zero_filled_length size got (by omega)]
    exact inside
  have behind : (zeroFilled size got).drop (got.length + source.length) =
      List.replicate (size - (got ++ source).length) 0 := by
    rw [zeroFilled, ← List.drop_drop, List.drop_left, List.drop_replicate, List.length_append, Nat.sub_add_eq]
  rw [overwrite, if_pos room, behind, zeroFilled, List.take_left, zeroFilled]

def cut (separator : UInt8) : Bytes → Option (Bytes × Bytes)
  | [] => none
  | byte :: rest =>
      if byte = separator then some ([], rest)
      else (cut separator rest).map fun (before, after) => (byte :: before, after)

theorem cut_at (separator : UInt8) (before after : Bytes) (absent : separator ∉ before) :
    cut separator (before ++ separator :: after) = some (before, after) := by
  induction before with
  | nil => simp [cut]
  | cons byte rest ih =>
      have different : byte ≠ separator := fun same => absent (by simp [same])
      have later : separator ∉ rest := fun member => absent (by simp [member])
      simp [cut, different, ih later]

theorem cut_some (separator : UInt8) (bytes before after : Bytes)
    (found : cut separator bytes = some (before, after)) :
    bytes = before ++ separator :: after ∧ separator ∉ before := by
  induction bytes generalizing before with
  | nil => simp [cut] at found
  | cons byte rest ih =>
      by_cases same : byte = separator
      · simp only [cut, if_pos same, Option.some.injEq, Prod.mk.injEq] at found
        obtain ⟨rfl, rfl⟩ := found
        simp [same]
      · simp only [cut, if_neg same, Option.map_eq_some_iff, Prod.exists, Prod.mk.injEq] at found
        obtain ⟨head, tail, inner, rfl, rfl⟩ := found
        obtain ⟨whole, absent⟩ := ih head inner
        exact ⟨by simp [whole], by simp [absent, Ne.symm same]⟩

end Droidlogic.Lib
