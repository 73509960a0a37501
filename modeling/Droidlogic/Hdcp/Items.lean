import Droidlogic.Hdcp.Image

set_option autoImplicit false

namespace Droidlogic.Hdcp

open Droidlogic.Lib

-- The items of an image, and what an item of a given name stands for.
def imageItem (image : Bytes) (i : Nat) : AmlResItemHead := itemAt (image.drop imgHeadSz) i

def payload (image : Bytes) (item : AmlResItemHead) : Bytes :=
  (image.drop item.dataOffset.toNat).take item.dataSz.toNat

def InImage (image : Bytes) (item : AmlResItemHead) : Prop := (payload image item).length = item.dataSz.toNat

instance (image : Bytes) (item : AmlResItemHead) : Decidable (InImage image item) := inferInstanceAs (Decidable (_ = _))

def hasName (image name : Bytes) (i : Nat) : Bool :=
  imgHeadSz + itemHeadSz * (i + 1) ≤ image.length && named (imageItem image i).name name

def firstNamed (image name : Bytes) : Option Nat :=
  (List.range (imgHead image).imgItemNum.toNat).find? (hasName image name)

-- The data are those of the first item with the name, all of them in the image.
def HandedOut (image name data : Bytes) : Prop :=
  ∃ i, firstNamed image name = some i ∧ InImage image (imageItem image i) ∧ data = payload image (imageItem image i)

theorem first_named_iff (image name : Bytes) (i : Nat) :
    firstNamed image name = some i ↔
      i < (imgHead image).imgItemNum.toNat ∧ hasName image name i = true ∧ ∀ j < i, hasName image name j = false := by
  rw [firstNamed, List.find?_range_eq_some]
  simp only [List.mem_range, Bool.not_eq_true']
  exact and_left_comm

theorem first_named_exists (image name : Bytes) (i : Nat) (bound : i < (imgHead image).imgItemNum.toNat)
    (holds : hasName image name i = true) :
    ∃ j ≤ i, firstNamed image name = some j ∧ hasName image name j = true := by
  have found : (firstNamed image name).isSome := List.find?_isSome.mpr ⟨i, List.mem_range.mpr bound, holds⟩
  obtain ⟨j, first⟩ := Option.isSome_iff_exists.mp found
  obtain ⟨_, here, before⟩ := (first_named_iff image name j).mp first
  refine ⟨j, Nat.le_of_not_lt fun less => ?_, first, here⟩
  rw [before i less] at holds
  cases holds

theorem in_image_iff (image : Bytes) (item : AmlResItemHead) :
    InImage image item ↔ item.dataSz = 0 ∨ item.dataOffset.toNat + item.dataSz.toNat ≤ image.length := by
  rw [InImage, payload, List.length_take, List.length_drop]
  constructor
  · intro whole
    by_cases empty : item.dataSz = 0
    · exact .inl empty
    · have positive : item.dataSz.toNat ≠ 0 := fun zero => empty (UInt32.toNat_inj.mp zero)
      exact .inr (by omega)
  · rintro (empty | inside)
    · simp [empty]
    · omega

theorem named_text (name constant : Bytes) (noNul : 0 ∉ constant) (same : named name constant = true) :
    name.takeWhile (· ≠ 0) = constant := by
  have front : name.take (constant.length + 1) = constant ++ [0] := beq_iff_eq.mp same
  have nonzero : ∀ byte ∈ constant, decide (byte ≠ 0) = true := fun byte member =>
    decide_eq_true fun zero => noNul (zero ▸ member)
  rw [← List.take_append_drop (constant.length + 1) name, front, List.append_assoc,
    List.takeWhile_append_of_pos nonzero]
  simp

theorem word32_prefix (first second : Bytes) (offset : Nat) (inside : offset + 4 ≤ itemHeadSz)
    (same : first.take itemHeadSz = second.take itemHeadSz) : word32 (first.drop offset) = word32 (second.drop offset) := by
  have front (bytes : Bytes) : (bytes.drop offset).take 4 = ((bytes.take itemHeadSz).drop offset).take 4 := by
    rw [List.drop_take, List.take_take, Nat.min_eq_left (by omega)]
  rw [← word32_take_four (first.drop offset), ← word32_take_four (second.drop offset), front first, front second, same]

-- An item head is its first 48 bytes.
theorem item_head_prefix (first second : Bytes) (same : first.take itemHeadSz = second.take itemHeadSz) :
    itemHead first = itemHead second := by
  have byte (bytes : Bytes) (offset : Nat) (inside : offset < itemHeadSz) :
      bytes.getD offset 0 = (bytes.take itemHeadSz).getD offset 0 := by rw [get_d_take, if_pos inside]
  have name (bytes : Bytes) : (bytes.drop 16).take 32 = ((bytes.take itemHeadSz).drop 16).take 32 := by
    rw [List.drop_take, List.take_take]
    rfl
  rw [itemHead, itemHead, name first, name second, byte first 12 (by decide), byte first 13 (by decide),
    byte second 12 (by decide), byte second 13 (by decide), same]
  have sizes (offset : Nat) (inside : offset + 4 ≤ itemHeadSz) := word32_prefix first second offset inside same
  have total : word32 first = word32 second := sizes 0 (by decide)
  rw [total, sizes 4 (by decide), sizes 8 (by decide)]

theorem item_at_covered (first second : Bytes) (i count : Nat) (inside : itemHeadSz * (i + 1) ≤ count)
    (same : first.take count = second.take count) : itemAt first i = itemAt second i := by
  have front (bytes : Bytes) :
      (bytes.drop (itemHeadSz * i)).take itemHeadSz = ((bytes.take count).drop (itemHeadSz * i)).take itemHeadSz := by
    rw [List.drop_take, List.take_take, Nat.min_eq_left (by rw [itemHeadSz] at *; omega)]
  exact item_head_prefix _ _ (by rw [front first, front second, same])

end Droidlogic.Hdcp
