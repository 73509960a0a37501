import Droidlogic.Hdcp.Authentic
import Droidlogic.Hdcp.Extract

set_option autoImplicit false

namespace Droidlogic.Hdcp.ChecksumPaths

open Lib

-- bufLen is an int, and so is the size where the two are compared.
def storageCalcImgCrc (pbuf : Bytes) (bufLen : Int32) (checkSz : UInt32) : UInt32 :=
  if checkSz = 0 then Hdcp.addSum pbuf bufLen.toUInt32.toNat 0
  else if bufLen < checkSz.toInt32 then 0
  else Hdcp.addSum pbuf checkSz.toNat 0

-- HdcpKeyDecrypt's own addSum starts from a sum of 0.
def addSum (pBuf : Bytes) (size : UInt32) : UInt32 := Hdcp.addSum pBuf size.toNat 0

theorem storage_whole (pbuf : Bytes) (fits : pbuf.length < 2147483648) :
    storageCalcImgCrc pbuf (.ofNat pbuf.length) 0 = Hdcp.storageCalcImgCrc pbuf := by
  have size : (Int32.ofNat pbuf.length).toUInt32.toNat = pbuf.length := Nat.mod_eq_of_lt (by omega)
  rw [storageCalcImgCrc, if_pos rfl, size, Hdcp.storageCalcImgCrc]

section
variable (allocated : Bool) (heap file behind : Bytes) (offset : Nat) (size : UInt32)

def summed : Bytes := (file.drop offset).take size.toNat

-- In memory the bytes from the offset on, with anything behind them.
def Agree : Prop :=
  calcImgCrc allocated heap file offset size = wordSum (summed file offset size) ∧
    storageCalcImgCrc (file.drop offset ++ behind) (.ofNat (file.length - offset)) size =
      wordSum (summed file offset size) ∧
    addSum (file.drop offset ++ behind) size = wordSum (summed file offset size)

-- Both of the lengths from the offset on, as an unsigned and as an int, cover the size.
def Counted : Prop :=
  size.toNat ≤ (file.length - offset) % 4294967296 ∧ size.toInt32 ≤ Int32.ofNat (file.length - offset)

theorem counted_short (inside : offset + size.toNat ≤ file.length) (short : file.length - offset < 2147483648) :
    Counted file offset size := by
  have covered : size.toNat ≤ file.length - offset := by omega
  have length : (Int32.ofNat (file.length - offset)).toInt = (file.length - offset : Nat) :=
    Int32.toInt_ofNat_of_lt short
  have small : (file.length - offset) % 4294967296 = file.length - offset := Nat.mod_eq_of_lt (by omega)
  refine ⟨small.symm ▸ covered, Int32.le_iff_toInt_le.mpr ?_⟩
  rw [word_to_int size (by omega), length]
  exact Int.ofNat_le.mpr covered

theorem add_sum_summed (inside : offset + size.toNat ≤ file.length) :
    Hdcp.addSum (file.drop offset ++ behind) size.toNat 0 = wordSum (summed file offset size) := by
  have covered : size.toNat ≤ (file.drop offset).length := by
    rw [List.length_drop]
    omega
  have whole : size.toNat ≤ (file.drop offset ++ behind).length :=
    Nat.le_trans covered (by rw [List.length_append]; exact Nat.le_add_right _ _)
  rw [add_sum_spec _ _ _ whole, UInt32.zero_add, List.take_append_of_le_length covered, summed]

theorem max_check_len (inside : offset ≤ file.length) :
    (UInt32.ofNat file.length - UInt32.ofNat offset).toNat = (file.length - offset) % 4294967296 := by
  rw [UInt32.toNat_sub, UInt32.toNat_ofNat', UInt32.toNat_ofNat']
  omega

theorem calc_img_crc_sum (nonzero : size ≠ 0) (inside : offset + size.toNat ≤ file.length) :
    calcImgCrc allocated heap file offset size =
      if allocated = true ∧ size.toNat ≤ (file.length - offset) % 4294967296 then wordSum (summed file offset size)
      else 0 := by
  have covered : size.toNat ≤ (file.drop offset).length := by
    rw [List.length_drop]
    omega
  have max := max_check_len file offset (Nat.le_trans (Nat.le_add_right _ _) inside)
  cases allocated with
  | false => rfl
  | true =>
      simp only [calcImgCrc, Bool.true_eq_false, if_false, if_neg nonzero, true_and, UInt32.lt_iff_toNat_lt, max]
      by_cases less : (file.length - offset) % 4294967296 < size.toNat
      · rw [if_pos less, if_neg (Nat.not_le_of_lt less)]
      · rw [if_neg less, if_pos (Nat.le_of_not_lt less), crc_loop_sum _ _ _ 0 0 _ _ covered rfl (Nat.sub_le _ _),
          UInt32.zero_add, List.drop_zero, Nat.sub_zero, summed]

theorem storage_sum (nonzero : size ≠ 0) (inside : offset + size.toNat ≤ file.length) :
    storageCalcImgCrc (file.drop offset ++ behind) (.ofNat (file.length - offset)) size =
      if size.toInt32 ≤ Int32.ofNat (file.length - offset) then wordSum (summed file offset size) else 0 := by
  rw [storageCalcImgCrc, if_neg nonzero, add_sum_summed file behind offset size inside]
  by_cases less : Int32.ofNat (file.length - offset) < size.toInt32
  · rw [if_pos less, if_neg (Int32.not_le.mpr less)]
  · rw [if_neg less, if_pos (Int32.not_lt.mp less)]

theorem ite_zero_iff (test : Prop) [Decidable test] (sum : UInt32) : (if test then sum else 0) = sum ↔ test ∨ sum = 0 := by
  by_cases holds : test
  · simp [holds]
  · simp [holds, eq_comm]

theorem checksum_paths_iff (nonzero : size ≠ 0) (inside : offset + size.toNat ≤ file.length) :
    Agree allocated heap file behind offset size ↔
      (allocated = true ∧ Counted file offset size) ∨ wordSum (summed file offset size) = 0 := by
  have covers : (allocated = true ∧ Counted file offset size) ↔
      (allocated = true ∧ size.toNat ≤ (file.length - offset) % 4294967296) ∧
        size.toInt32 ≤ Int32.ofNat (file.length - offset) := by
    rw [Counted, and_assoc]
  rw [covers, and_or_right, Agree, calc_img_crc_sum allocated heap file offset size nonzero inside,
    storage_sum file behind offset size nonzero inside, addSum, add_sum_summed file behind offset size inside,
    ite_zero_iff, ite_zero_iff, eq_self_iff_true, and_true]

end

-- Three bytes behind the checksum's own four.
theorem checksum_paths_tail : Agree true [] [0, 0, 0, 0, 1, 2, 3, 4] [5] 4 3 :=
  (checksum_paths_iff true [] [0, 0, 0, 0, 1, 2, 3, 4] [5] 4 3 (by decide) (by decide)).mpr
    (.inl ⟨rfl, counted_short _ _ _ (by decide) (by decide)⟩)

-- setImgPath sums four bytes from offset 4 for this header; the file goes on for 4 GiB behind that offset.
def shortHead : Bytes := [1, 0, 0, 0, 1, 0, 0, 0] ++ amlResImgV1Magic ++ [8, 0, 0, 0, 0, 0, 0, 0]

def longImage : Bytes := shortHead ++ List.replicate 4294967276 0

theorem long_image_length : longImage.length = 4294967300 := by
  rw [longImage, List.length_append, List.length_replicate]
  rfl

theorem long_image_summed : summed longImage 4 4 = [1, 0, 0, 0] := by
  rw [summed, longImage, List.drop_append_of_le_length (by decide), List.take_append_of_le_length (by decide)]
  decide

theorem checksum_paths_apart :
    ¬ ∀ (heap file behind : Bytes) (offset : Nat) (size : UInt32), size ≠ 0 → offset + size.toNat ≤ file.length →
      Agree true heap file behind offset size := by
  intro all
  have inside : 4 + (4 : UInt32).toNat ≤ longImage.length := by
    rw [long_image_length]
    decide
  have wrapped : ¬(true = true ∧ (4 : UInt32).toNat ≤ (longImage.length - 4) % 4294967296) := by
    rw [long_image_length]
    decide
  have same := (all [] longImage [] 4 4 (by decide) inside).1
  rw [calc_img_crc_sum true [] longImage 4 4 (by decide) inside, if_neg wrapped, long_image_summed] at same
  exact absurd same (by decide)

end Droidlogic.Hdcp.ChecksumPaths
