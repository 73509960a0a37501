import Droidlogic.Lib.WordSum

set_option autoImplicit false

namespace Droidlogic.Hdcp

open Droidlogic.Lib

-- The unrolled loop takes four words at a time.
def addQuads : Nat → Bytes → UInt32 → Nat × Bytes × UInt32
  | wordLen + 4, data, sum =>
      addQuads wordLen (data.drop 16)
        (sum + word32 data + word32 (data.drop 4) + word32 (data.drop 8) + word32 (data.drop 12))
  | wordLen, data, sum => (wordLen, data, sum)

def addWords : Nat → Bytes → UInt32 → Bytes × UInt32
  | 0, data, sum => (data, sum)
  | wordLen + 1, data, sum => addWords wordLen (data.drop 4) (sum + word32 data)

def addRest (rest : Nat) (data : Bytes) (sum : UInt32) : UInt32 :=
  if rest = 1 then sum + (word32 data &&& 0xff)
  else if rest = 2 then sum + (word32 data &&& 0xffff)
  else if rest = 3 then sum + (word32 data &&& 0xffffff)
  else sum

def addSum (pBuf : Bytes) (size : Nat) (sum : UInt32) : UInt32 :=
  let quads := addQuads (size / 4) pBuf sum
  let words := addWords quads.1 quads.2.1 quads.2.2
  addRest (size % 4) words.1 words.2

theorem add_quads_words (wordLen : Nat) (data : Bytes) (sum : UInt32) :
    addWords (addQuads wordLen data sum).1 (addQuads wordLen data sum).2.1 (addQuads wordLen data sum).2.2 =
      addWords wordLen data sum := by
  induction wordLen, data, sum using addQuads.induct with
  | case1 wordLen data sum ih =>
      rw [addQuads, ih, addWords, addWords, addWords, addWords]
      simp only [List.drop_drop]
  | case2 wordLen data sum few =>
      rw [addQuads]
      exact few

theorem add_words_sum (wordLen : Nat) (data : Bytes) (sum : UInt32) (covered : 4 * wordLen ≤ data.length) :
    addWords wordLen data sum = (data.drop (4 * wordLen), sum + wordSum (data.take (4 * wordLen))) := by
  induction wordLen generalizing data sum with
  | zero => simp [addWords]
  | succ wordLen ih =>
      have rest : 4 * wordLen ≤ (data.drop 4).length := by
        rw [List.length_drop]
        omega
      have long : 4 ≤ (data.take (4 * (wordLen + 1))).length := by
        rw [List.length_take]
        omega
      have head : word32 (data.take (4 * (wordLen + 1))) = word32 data := by
        rw [← word32_take_four, List.take_take, Nat.min_eq_left (by omega), word32_take_four]
      have less : 4 * (wordLen + 1) - 4 = 4 * wordLen := by omega
      have more : 4 + 4 * wordLen = 4 * (wordLen + 1) := by omega
      rw [addWords, ih _ _ rest, word_sum_step _ long, head, List.drop_take, List.drop_drop, less, more,
        ← UInt32.add_assoc]

theorem get_d_take (data : Bytes) (count index : Nat) :
    (data.take count).getD index 0 = if index < count then data.getD index 0 else 0 := by
  rw [List.getD_eq_getElem?_getD, List.getElem?_take, List.getD_eq_getElem?_getD]
  by_cases inside : index < count
  · rw [if_pos inside, if_pos inside]
  · rw [if_neg inside, if_neg inside]
    rfl

theorem low_bytes (a b c d count : Nat) (few : count < 4) (aByte : a < 256) (bByte : b < 256) (cByte : c < 256) :
    (a + 256 * b + 65536 * c + 16777216 * d) % 2 ^ 32 % 2 ^ (8 * count) =
      ((if 0 < count then a else 0) + 256 * (if 1 < count then b else 0) + 65536 * (if 2 < count then c else 0) +
        16777216 * (if 3 < count then d else 0)) % 2 ^ 32 := by
  obtain rfl | rfl | rfl | rfl : count = 0 ∨ count = 1 ∨ count = 2 ∨ count = 3 := by omega
  · simp [Nat.mod_one]
  · simp
    omega
  · simp
    omega
  · simp
    omega

theorem masked_word (data : Bytes) (count : Nat) (few : count < 4) (mask : UInt32)
    (isMask : mask.toNat = 2 ^ (8 * count) - 1) : word32 data &&& mask = word32 (data.take count) := by
  have byte (index : Nat) : ((if index < count then data.getD index 0 else 0).toNat) =
      if index < count then (data.getD index 0).toNat else 0 := by
    by_cases inside : index < count
    · rw [if_pos inside, if_pos inside]
    · rw [if_neg inside, if_neg inside]
      rfl
  apply UInt32.toNat_inj.mp
  rw [UInt32.toNat_and, isMask, Nat.and_two_pow_sub_one_eq_mod, word32, word32, UInt32.toNat_ofNat',
    UInt32.toNat_ofNat']
  simp only [get_d_take, byte]
  exact low_bytes _ _ _ _ count few (UInt8.toNat_lt _) (UInt8.toNat_lt _) (UInt8.toNat_lt _)

theorem add_rest_sum (rest : Nat) (data : Bytes) (sum : UInt32) (few : rest < 4) :
    addRest rest data sum = sum + wordSum (data.take rest) := by
  have short : (data.take rest).length < 4 := by
    rw [List.length_take]
    omega
  rw [word_sum_short _ short]
  match rest, few with
  | 0, _ => simp [addRest, word32]
  | 1, _ => simp [addRest, masked_word data 1 (by decide) 0xff rfl]
  | 2, _ => simp [addRest, masked_word data 2 (by decide) 0xffff rfl]
  | 3, _ => simp [addRest, masked_word data 3 (by decide) 0xffffff rfl]

theorem add_sum_spec (pBuf : Bytes) (size : Nat) (sum : UInt32) (covered : size ≤ pBuf.length) :
    addSum pBuf size sum = sum + wordSum (pBuf.take size) := by
  have whole : 4 * (size / 4) ≤ pBuf.length := by omega
  have aligned : (pBuf.take (4 * (size / 4))).length = 4 * (size / 4) := by
    rw [List.length_take]
    omega
  have split : pBuf.take size = pBuf.take (4 * (size / 4)) ++ (pBuf.drop (4 * (size / 4))).take (size % 4) := by
    rw [← List.take_add]
    congr 1
    omega
  simp only [addSum]
  rw [add_quads_words, add_words_sum _ _ _ whole, add_rest_sum _ _ _ (by omega), split,
    word_sum_append _ _ _ aligned, UInt32.add_assoc]

end Droidlogic.Hdcp
