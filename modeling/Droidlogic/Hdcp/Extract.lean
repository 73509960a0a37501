import Droidlogic.Hdcp.Items

set_option autoImplicit false

namespace Droidlogic.Hdcp

open Droidlogic.Lib

def maxPackedImg : Nat := 11 * 1024

def keySize : Nat := 2080

-- The header and the heads of four items.
def headsCopied : Nat := 216

-- A C string that a name field can hold, and not the empty one.
structure ItemName where
  text : Bytes
  nonempty : text ≠ []
  ended : text.length < 32
  noNul : 0 ∉ text

-- outside is a read behind the image or behind the buffer of the item heads, or through
-- pItemHeadInfo while it is NULL.
inductive Extract
  | outside
  | failed
  | done (data : Bytes)
deriving DecidableEq

-- The item heads as the search finds them: four from the image, and zeros to the end of the buffer.
def headBuffer (image : Bytes) : Bytes :=
  (image.drop imgHeadSz).take (headsCopied - imgHeadSz) ++ List.replicate (itemReadBufSz - headsCopied) 0

def findItem (heads itemName : Bytes) : Nat → Nat → Option (Option Nat)
  | 0, _ => some none
  | left + 1, index =>
      if heads.length ≤ itemHeadSz * index + 16 then none
      else if named (itemAt heads index).name itemName then some (some index)
      else findItem heads itemName left (index + 1)

-- The part from the search on, which is the same in the two functions.
def extractItem (image itemName : Bytes) (dataBufSz : UInt32) : Extract :=
  let imgItemNum := (imgHead image).imgItemNum.toNat
  if 2 ^ 31 ≤ imgItemNum then .outside
  else
    match findItem (headBuffer image) itemName imgItemNum 0 with
    | none => .outside
    | some none => .failed
    | some (some index) =>
        let item := itemAt (headBuffer image) index
        if dataBufSz < item.dataSz then .failed
        else if (payload image item).length < item.dataSz.toNat then .outside
        else .done (payload image item)

structure PackedEnv where
  opened : Bool
  readWhole : Bool
  crcBuf : Bool
  heap : Bytes

def amlExtractOneItemToBuf (env : PackedEnv) (packedImg itemName : Bytes) (dataBufSz : UInt32) : Extract :=
  if packedImg.length = 0 ∨ maxPackedImg < packedImg.length then .failed
  else if env.opened = false then .failed
  else if env.readWhole = false then .failed
  else if packedImg.length < headsCopied then .outside
  else if (imgHead packedImg).crc ≠ calcImgCrc env.crcBuf env.heap packedImg 4 0 then .failed
  else extractItem packedImg itemName dataBufSz

-- What the read of the key node has left in keyBuf: the rest is memory nobody has written.
def keyBytes (key : Bytes) (behind : Nat → UInt8) : Bytes := key ++ (List.range (keySize - key.length)).map behind

def storageCalcImgCrc (pbuf : Bytes) : UInt32 := addSum pbuf pbuf.length 0

def storageExtractOneItemToBuf (behind : Nat → UInt8) (key itemName : Bytes) (dataBufSz : UInt32) : Extract :=
  if key.length < headsCopied then .outside
  else if (imgHead key).crc ≠ storageCalcImgCrc ((keyBytes key behind).drop 4) then .failed
  else extractItem key itemName dataBufSz

def ExtractInside (image itemName : Bytes) (dataBufSz : UInt32) : Prop :=
  let imgItemNum := (imgHead image).imgItemNum.toNat
  let found := (List.range (min 4 imgItemNum)).find? (hasName image itemName)
  headsCopied ≤ image.length ∧ imgItemNum < 2 ^ 31 ∧ (found = none → imgItemNum ≤ 1365) ∧
    ∀ index ∈ found, dataBufSz < (imageItem image index).dataSz ∨ InImage image (imageItem image index)

instance (image itemName : Bytes) (dataBufSz : UInt32) : Decidable (ExtractInside image itemName dataBufSz) :=
  inferInstanceAs (Decidable (_ ∧ _ ∧ (_ → _) ∧ ∀ index ∈ List.find? _ _, _))

theorem head_buffer_length (image : Bytes) (long : headsCopied ≤ image.length) :
    (headBuffer image).length = itemReadBufSz - imgHeadSz := by
  rw [headsCopied] at long
  simp only [headBuffer, List.length_append, List.length_take, List.length_drop, List.length_replicate, headsCopied,
    imgHeadSz, itemReadBufSz]
  omega

theorem head_buffer_front (image : Bytes) (index : Nat) (long : headsCopied ≤ image.length) (front : index < 4) :
    itemAt (headBuffer image) index = imageItem image index := by
  refine item_at_covered _ _ index (headsCopied - imgHeadSz) (by rw [itemHeadSz, headsCopied, imgHeadSz]; omega) ?_
  rw [headBuffer, List.take_left']
  rw [List.length_take, List.length_drop, Nat.min_eq_left]
  rw [imgHeadSz]
  omega

theorem head_buffer_zeros (image : Bytes) (index : Nat) (behind : 4 ≤ index) :
    ∀ byte ∈ (itemAt (headBuffer image) index).name, byte = 0 := by
  intro byte member
  have inside : byte ∈ (headBuffer image).drop (itemHeadSz * index) :=
    List.mem_of_mem_drop (List.mem_of_mem_take member)
  have front : ((image.drop imgHeadSz).take (headsCopied - imgHeadSz)).length ≤ itemHeadSz * index := by
    rw [List.length_take, headsCopied, imgHeadSz, itemHeadSz]
    omega
  rw [headBuffer, List.drop_append, List.drop_eq_nil_of_le front, List.nil_append] at inside
  exact List.eq_of_mem_replicate (List.mem_of_mem_drop inside)

theorem zeros_not_named (name : Bytes) (itemName : ItemName) (zeros : ∀ byte ∈ name, byte = 0) :
    named name itemName.text = false := by
  refine Bool.eq_false_iff.mpr fun same => ?_
  have prefixed : name.take (itemName.text.length + 1) = itemName.text ++ [0] := eq_of_beq same
  obtain ⟨byte, member⟩ := List.exists_mem_of_ne_nil itemName.text itemName.nonempty
  have inName : byte ∈ name := List.mem_of_mem_take (prefixed ▸ List.mem_append_left [0] member)
  exact itemName.noNul (zeros byte inName ▸ member)

-- The search stops at the first head that runs behind the buffer or has the name.
theorem find_item_spec (heads itemName : Bytes) (left index : Nat) :
    match findItem heads itemName left index with
    | none => ∃ stop, index ≤ stop ∧ stop < index + left ∧ heads.length ≤ itemHeadSz * stop + 16 ∧
        ∀ i, index ≤ i → i < stop → named (itemAt heads i).name itemName = false
    | some none => ∀ i, index ≤ i → i < index + left →
        itemHeadSz * i + 16 < heads.length ∧ named (itemAt heads i).name itemName = false
    | some (some found) => index ≤ found ∧ found < index + left ∧ named (itemAt heads found).name itemName = true ∧
        ∀ i, index ≤ i → i < found → named (itemAt heads i).name itemName = false := by
  induction left generalizing index with
  | zero =>
      rw [findItem]
      intro i least below
      omega
  | succ left ih =>
      rw [findItem]
      by_cases past : heads.length ≤ itemHeadSz * index + 16
      · rw [if_pos past]
        exact ⟨index, Nat.le_refl _, by omega, past, fun i least most => absurd most (Nat.not_lt_of_le least)⟩
      rw [if_neg past]
      by_cases here : named (itemAt heads index).name itemName = true
      · rw [if_pos here]
        exact ⟨Nat.le_refl _, by omega, here, fun i least below => by omega⟩
      rw [if_neg here]
      have later := ih (index + 1)
      have missed : named (itemAt heads index).name itemName = false := Bool.eq_false_iff.mpr here
      cases search : findItem heads itemName left (index + 1) with
      | none =>
          rw [search] at later
          obtain ⟨stop, first, below, ends, before⟩ := later
          refine ⟨stop, by omega, by omega, ends, fun i least most => ?_⟩
          rcases Nat.eq_or_lt_of_le least with rfl | beyond
          · exact missed
          · exact before i beyond most
      | some result =>
          cases result with
          | none =>
              rw [search] at later
              intro i least below
              rcases Nat.eq_or_lt_of_le least with rfl | beyond
              · exact ⟨Nat.lt_of_not_le past, missed⟩
              · exact later i beyond (by omega)
          | some found =>
              rw [search] at later
              obtain ⟨first, below, same, before⟩ := later
              refine ⟨by omega, by omega, same, fun i least most => ?_⟩
              rcases Nat.eq_or_lt_of_le least with rfl | beyond
              · exact missed
              · exact before i beyond most

theorem head_named (image : Bytes) (itemName : ItemName) (long : headsCopied ≤ image.length) (index : Nat) :
    named (itemAt (headBuffer image) index).name itemName.text = (decide (index < 4) && hasName image itemName.text index) := by
  by_cases front : index < 4
  · have inside : imgHeadSz + itemHeadSz * (index + 1) ≤ image.length := by
      rw [headsCopied] at long
      rw [imgHeadSz, itemHeadSz]
      omega
    simp only [head_buffer_front image index long front, hasName, front, inside, decide_true, Bool.true_and]
  · rw [zeros_not_named _ itemName (head_buffer_zeros image index (Nat.le_of_not_lt front))]
    simp [front]

theorem find_item_found (image : Bytes) (itemName : ItemName) (long : headsCopied ≤ image.length) (imgItemNum index : Nat)
    (found : (List.range (min 4 imgItemNum)).find? (hasName image itemName.text) = some index) :
    findItem (headBuffer image) itemName.text imgItemNum 0 = some (some index) := by
  obtain ⟨same, bound, before⟩ := List.find?_range_eq_some.mp found
  have front : index < 4 ∧ index < imgItemNum := by simpa [Nat.lt_min] using bound
  have here : named (itemAt (headBuffer image) index).name itemName.text = true := by
    rw [head_named image itemName long, same, decide_eq_true front.1]
    rfl
  have earlier (i : Nat) (less : i < index) : named (itemAt (headBuffer image) i).name itemName.text = false := by
    rw [head_named image itemName long, (Bool.not_eq_true' _).mp (before i less), Bool.and_false]
  have spec := find_item_spec (headBuffer image) itemName.text imgItemNum 0
  cases search : findItem (headBuffer image) itemName.text imgItemNum 0 with
  | none =>
      rw [search] at spec
      obtain ⟨stop, _, _, ends, missed⟩ := spec
      rw [head_buffer_length image long, itemReadBufSz, imgHeadSz, itemHeadSz] at ends
      exact absurd (here.symm.trans (missed index (Nat.zero_le _) (by omega))) (by decide)
  | some result =>
      rw [search] at spec
      cases result with
      | none => exact absurd (here.symm.trans (spec index (Nat.zero_le _) (by omega)).2) (by decide)
      | some other =>
          obtain ⟨_, _, match_, missed⟩ := spec
          rcases Nat.lt_trichotomy other index with less | rfl | more
          · exact absurd (match_.symm.trans (earlier other less)) (by decide)
          · rfl
          · exact absurd (here.symm.trans (missed index (Nat.zero_le _) more)) (by decide)

theorem find_item_missing (image : Bytes) (itemName : ItemName) (long : headsCopied ≤ image.length) (imgItemNum : Nat)
    (missing : (List.range (min 4 imgItemNum)).find? (hasName image itemName.text) = none) :
    findItem (headBuffer image) itemName.text imgItemNum 0 = if imgItemNum ≤ 1365 then some none else none := by
  have never (i : Nat) (bound : i < imgItemNum) : named (itemAt (headBuffer image) i).name itemName.text = false := by
    rw [head_named image itemName long]
    by_cases front : i < 4
    · have none_ := List.find?_eq_none.mp missing i (List.mem_range.mpr (Nat.lt_min.mpr ⟨front, bound⟩))
      rw [Bool.eq_false_iff.mpr none_, Bool.and_false]
    · simp [front]
  have room := head_buffer_length image long
  rw [itemReadBufSz, imgHeadSz] at room
  have spec := find_item_spec (headBuffer image) itemName.text imgItemNum 0
  cases search : findItem (headBuffer image) itemName.text imgItemNum 0 with
  | none =>
      rw [search] at spec
      obtain ⟨stop, _, bound, ends, _⟩ := spec
      rw [room, itemHeadSz] at ends
      rw [if_neg (by omega)]
  | some result =>
      rw [search] at spec
      cases result with
      | none =>
          by_cases few : imgItemNum ≤ 1365
          · rw [if_pos few]
          · have last := (spec 1365 (Nat.zero_le _) (by omega)).1
            rw [room, itemHeadSz] at last
            omega
      | some found =>
          obtain ⟨_, bound, same, _⟩ := spec
          exact absurd (same.symm.trans (never found (by omega))) (by decide)

theorem extract_item_inside (image : Bytes) (itemName : ItemName) (dataBufSz : UInt32) (long : headsCopied ≤ image.length) :
    extractItem image itemName.text dataBufSz ≠ .outside ↔ ExtractInside image itemName.text dataBufSz := by
  simp only [extractItem, ExtractInside, long, true_and]
  by_cases negative : 2 ^ 31 ≤ (imgHead image).imgItemNum.toNat
  · rw [if_pos negative]
    exact ⟨fun inside => absurd rfl inside, fun inside => absurd negative (Nat.not_le_of_lt inside.1)⟩
  rw [if_neg negative]
  have small : (imgHead image).imgItemNum.toNat < 2 ^ 31 := Nat.lt_of_not_le negative
  simp only [small, true_and]
  cases found : (List.range (min 4 (imgHead image).imgItemNum.toNat)).find? (hasName image itemName.text) with
  | none =>
      rw [find_item_missing image itemName long _ found]
      by_cases few : (imgHead image).imgItemNum.toNat ≤ 1365
      · simp [few]
      · simp [few]
  | some index =>
      have front : index < 4 := by
        have bound := List.mem_range.mp (List.mem_of_find?_eq_some found)
        omega
      rw [find_item_found image itemName long _ index found]
      simp only [head_buffer_front image index long front, reduceCtorEq, false_imp_iff, true_and, Option.mem_some,
        forall_eq']
      by_cases large : dataBufSz < (imageItem image index).dataSz
      · simp [large]
      · simp only [large, if_false, false_or]
        have most : (payload image (imageItem image index)).length ≤ (imageItem image index).dataSz.toNat :=
          List.length_take_le _ _
        by_cases cut : (payload image (imageItem image index)).length < (imageItem image index).dataSz.toNat
        · simp [cut, InImage, Nat.ne_of_lt cut]
        · have whole : InImage image (imageItem image index) := Nat.le_antisymm most (Nat.le_of_not_lt cut)
          simp [cut, whole]

theorem extract_item_done (image : Bytes) (itemName : ItemName) (dataBufSz : UInt32) (data : Bytes)
    (long : headsCopied ≤ image.length) (done : extractItem image itemName.text dataBufSz = .done data) :
    HandedOut image itemName.text data := by
  simp only [extractItem] at done
  split at done
  · cases done
  cases found : (List.range (min 4 (imgHead image).imgItemNum.toNat)).find? (hasName image itemName.text) with
  | none =>
      rw [find_item_missing image itemName long _ found] at done
      by_cases few : (imgHead image).imgItemNum.toNat ≤ 1365
      · simp [few] at done
      · simp [few] at done
  | some index =>
      obtain ⟨same, bound, before⟩ := List.find?_range_eq_some.mp found
      have front : index < 4 ∧ index < (imgHead image).imgItemNum.toNat := by simpa [Nat.lt_min] using bound
      rw [find_item_found image itemName long _ index found] at done
      simp only [head_buffer_front image index long front.1] at done
      split at done
      · cases done
      split at done
      · cases done
      rename_i _ whole
      have first : firstNamed image itemName.text = some index :=
        (first_named_iff image itemName.text index).mpr
          ⟨front.2, same, fun i less => (Bool.not_eq_true' _).mp (before i less)⟩
      exact ⟨index, first, Nat.le_antisymm (List.length_take_le _ _) (Nat.le_of_not_lt whole),
        (Extract.done.inj done).symm⟩

-- A call of an extracting function that does what it should.
def Extracts (image itemName : Bytes) (result : Extract) : Prop :=
  result ≠ .outside ∧ ∀ data, result = .done data → HandedOut image itemName data

def amlAccepts (packedImg : Bytes) : Prop :=
  0 < packedImg.length ∧ packedImg.length ≤ maxPackedImg ∧
    ∃ crcBuf heap, (imgHead packedImg).crc = calcImgCrc crcBuf heap packedImg 4 0

def storageAccepts (key : Bytes) : Prop :=
  key.length ≤ keySize ∧ ∃ behind, (imgHead key).crc = storageCalcImgCrc ((keyBytes key behind).drop 4)

theorem extracts_inside (image : Bytes) (itemName : ItemName) (dataBufSz : UInt32) (long : headsCopied ≤ image.length) :
    Extracts image itemName.text (extractItem image itemName.text dataBufSz) ↔
      ExtractInside image itemName.text dataBufSz := by
  rw [← extract_item_inside image itemName dataBufSz long, Extracts]
  exact and_iff_left fun data done => extract_item_done image itemName dataBufSz data long done

theorem extracts_failed (image itemName : Bytes) : Extracts image itemName .failed :=
  ⟨Extract.noConfusion, fun _ done => Extract.noConfusion done⟩

theorem aml_extracts_iff (packedImg : Bytes) (itemName : ItemName) (dataBufSz : UInt32) (accepted : amlAccepts packedImg) :
    (∀ env, Extracts packedImg itemName.text (amlExtractOneItemToBuf env packedImg itemName.text dataBufSz)) ↔
      ExtractInside packedImg itemName.text dataBufSz := by
  obtain ⟨positive, most, crcBuf, heap, summed⟩ := accepted
  have sized : ¬ (packedImg.length = 0 ∨ maxPackedImg < packedImg.length) := by omega
  by_cases short : packedImg.length < headsCopied
  · refine ⟨fun all => ?_, fun inside => absurd inside.1 (Nat.not_le_of_lt short)⟩
    have call := (all ⟨true, true, crcBuf, heap⟩).1
    rw [amlExtractOneItemToBuf, if_neg sized, if_neg Bool.noConfusion, if_neg Bool.noConfusion, if_pos short] at call
    exact absurd rfl call
  · have long : headsCopied ≤ packedImg.length := Nat.le_of_not_lt short
    rw [← extracts_inside packedImg itemName dataBufSz long]
    constructor
    · intro all
      have call := all ⟨true, true, crcBuf, heap⟩
      rwa [amlExtractOneItemToBuf, if_neg sized, if_neg Bool.noConfusion, if_neg Bool.noConfusion, if_neg short,
        if_neg (not_not_intro summed)] at call
    · intro inside env
      rw [amlExtractOneItemToBuf, if_neg sized]
      split
      · exact extracts_failed _ _
      split
      · exact extracts_failed _ _
      split
      · exact extracts_failed _ _
      · exact inside

theorem storage_extracts_iff (key : Bytes) (itemName : ItemName) (dataBufSz : UInt32) (accepted : storageAccepts key) :
    (∀ behind, Extracts key itemName.text (storageExtractOneItemToBuf behind key itemName.text dataBufSz)) ↔
      ExtractInside key itemName.text dataBufSz := by
  obtain ⟨_, behind, summed⟩ := accepted
  by_cases short : key.length < headsCopied
  · refine ⟨fun all => ?_, fun inside => absurd inside.1 (Nat.not_le_of_lt short)⟩
    have call := (all behind).1
    rw [storageExtractOneItemToBuf, if_pos short] at call
    exact absurd rfl call
  · have long : headsCopied ≤ key.length := Nat.le_of_not_lt short
    rw [← extracts_inside key itemName dataBufSz long]
    constructor
    · intro all
      have call := all behind
      rwa [storageExtractOneItemToBuf, if_neg short, if_neg (not_not_intro summed)] at call
    · intro inside other
      rw [storageExtractOneItemToBuf, if_neg short]
      split
      · exact extracts_failed _ _
      · exact inside

end Droidlogic.Hdcp
