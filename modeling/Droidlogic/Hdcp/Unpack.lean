import Droidlogic.Hdcp.Items
import Droidlogic.Hdcp.Firmware

set_option autoImplicit false

namespace Droidlogic.Hdcp

open Droidlogic.Lib

-- outside is a read behind the image or behind itembuf, aborted an exception of new.
inductive Unpacking
  | outside
  | aborted
  | returned (status : Unpacked) (written : List KeyWrite)

-- What is met while one item is handled.
structure UnpackItemEnv where
  allocated : Bool
  opened : Bool
  srcBuf : Bool

structure UnpackEnv where
  aicPresent : Bool
  item : Nat → UnpackItemEnv

-- The size that do_aes answers: the cipher itself is compiled out, and no byte of the item is read.
def doAes (allocated : Bool) (dataSz : UInt32) : Option Int :=
  let nInLen := dataSz.toInt32.toInt
  let dataLen := (nInLen + 15) / 16 * 16
  if nInLen = 0 then some 0
  else if nInLen % 16 ≠ 0 ∧ (allocated = false ∨ dataLen < 0 ∨ 2 ^ 31 ≤ dataLen) then none
  else some dataLen

-- The name of an item that goes to a file.
def unpackedName (item : AmlResItemHead) : Option Bytes :=
  if named item.name firmwareItem then some firmwareItem
  else if named item.name hdcpRx then some hdcpRx
  else none

-- What write takes from the zeroed itembuf: nothing for a size below zero.
def itemBytes (itemSz : Int) : Bytes := zeros itemSz.toNat

def Unpacking.after (write : KeyWrite) : Unpacking → Unpacking
  | .returned status written => .returned status (write :: written)
  | other => other

def unpackLoop (env : UnpackEnv) (inBuf : Bytes) : Nat → Nat → Unpacking
  | 0, _ => .returned .armTool []
  | left + 1, i =>
      if inBuf.length < imgHeadSz + itemHeadSz * (i + 1) then .outside
      else
        match doAes (env.item i).allocated (imageItem inBuf i).dataSz with
        | none => .aborted
        | some itemSz =>
            match unpackedName (imageItem inBuf i) with
            | none => unpackLoop env inBuf left (i + 1)
            | some name =>
                if (env.item i).opened = false then .returned .failed []
                else if keyMaxSize < itemSz then .outside
                else if name = firmwareItem ∧ (env.item i).srcBuf = false then .returned .failed [⟨name, itemBytes itemSz⟩]
                else (unpackLoop env inBuf left (i + 1)).after ⟨name, itemBytes itemSz⟩

-- The loop takes the number for an int.
def unpackCount (inBuf : Bytes) : Nat :=
  let imgItemNum := (imgHead inBuf).imgItemNum.toNat
  if 2 ^ 31 ≤ imgItemNum then 0 else imgItemNum

-- hdcpKeyUnpack of a buffer that holds the image and nothing else, with what it hands to the files.
def unpackImage (env : UnpackEnv) (inBuf : Bytes) : Unpacking :=
  let magic := (inBuf.drop 8).take 8
  if magic ≠ amlResImgV1Magic then
    if magic.length < 8 ∧ magic.isPrefixOf amlResImgV1Magic = true then .outside else .returned .pcTool []
  else if (imgHead inBuf).crc ≠ addSum (inBuf.drop 4) (inBuf.length - 4) 0 then .returned .pcTool []
  else if keyMaxSize < inBuf.length then .returned .failed []
  else if env.aicPresent = false then .returned .failed []
  else if inBuf.length < imgHeadSz then .outside
  else unpackLoop env inBuf (unpackCount inBuf) 0

def passEnv (pass : Pass) : UnpackEnv := ⟨pass.aicPresent, fun i => ⟨true, pass.itemOpens i, true⟩⟩

theorem aes_size (dataSz : UInt32) (small : ¬ 2 ^ 31 ≤ dataSz.toNat + 15) :
    doAes true dataSz = some (((dataSz.toNat + 15) / 16 * 16 : Nat) : Int) := by
  have size : dataSz.toInt32.toInt = dataSz.toNat := word_to_int dataSz (by omega)
  simp only [doAes, size]
  by_cases empty : dataSz.toNat = 0
  · simp [empty]
  · have whole : ((dataSz.toNat : Int) + 15) / 16 * 16 = (((dataSz.toNat + 15) / 16 * 16 : Nat) : Int) := by omega
    rw [whole, if_neg (by omega), if_neg (by simp only [Bool.true_eq_false, false_or]; omega)]

theorem after_returned (result : Unpacking) (status : Unpacked) (write : KeyWrite)
    (done : ∃ written, result = .returned status written) : ∃ written, result.after write = .returned status written := by
  obtain ⟨written, rfl⟩ := done
  exact ⟨write :: written, rfl⟩

theorem unpack_items_status (pass : Pass) (inBuf : Bytes) (left i : Nat) (status : Unpacked)
    (done : unpackItems pass inBuf left i = some status) :
    ∃ written, unpackLoop (passEnv pass) inBuf left i = .returned status written := by
  induction left generalizing i with
  | zero => exact ⟨[], congrArg (Unpacking.returned · []) (Option.some.inj done)⟩
  | succ left ih =>
      have same : itemHead (inBuf.drop (imgHeadSz + itemHeadSz * i)) = imageItem inBuf i := by
        rw [imageItem, itemAt, List.drop_drop]
      simp only [unpackItems, same] at done
      rw [unpackLoop]
      by_cases past : inBuf.length < imgHeadSz + itemHeadSz * (i + 1)
      · simp [past] at done
      rw [if_neg past] at done ⊢
      by_cases wide : 2 ^ 31 ≤ (imageItem inBuf i).dataSz.toNat + 15
      · rw [if_pos wide] at done
        cases done
      rw [if_neg wide] at done
      have size : doAes ((passEnv pass).item i).allocated (imageItem inBuf i).dataSz = _ := aes_size _ wide
      simp only [size, unpackedName]
      by_cases plain : named (imageItem inBuf i).name firmwareItem = true ∨ named (imageItem inBuf i).name hdcpRx = true
      · rw [if_pos plain] at done
        by_cases closed : pass.itemOpens i = false
        · rw [if_pos closed] at done
          by_cases firmware : named (imageItem inBuf i).name firmwareItem = true
          · simp [firmware, passEnv, closed, Option.some.inj done]
          · simp [firmware, plain.resolve_left firmware, passEnv, closed, Option.some.inj done]
        rw [if_neg closed] at done
        by_cases large : keyMaxSize < ((imageItem inBuf i).dataSz.toNat + 15) / 16 * 16
        · simp [large] at done
        rw [if_neg large] at done
        have fits : ¬ (keyMaxSize : Int) < (((imageItem inBuf i).dataSz.toNat + 15) / 16 * 16 : Nat) := by omega
        have rest := ih (i + 1) done
        by_cases firmware : named (imageItem inBuf i).name firmwareItem = true
        · simp only [firmware, if_true, passEnv, closed, if_false, fits, Bool.true_eq_false, and_false]
          exact after_returned _ status _ rest
        · simp only [firmware, plain.resolve_left firmware, if_true, passEnv, closed, if_false, fits, Bool.true_eq_false,
            and_false, Bool.false_eq_true]
          exact after_returned _ status _ rest
      · rw [if_neg plain] at done
        simp only [not_or] at plain
        simp only [plain.1, plain.2, Bool.false_eq_true, if_false]
        exact ih (i + 1) done

-- The status is that of hdcpKeyUnpack.
theorem unpack_image_status (pass : Pass) (inBuf : Bytes) (status : Unpacked) (header : imgHeadSz ≤ inBuf.length)
    (done : hdcpKeyUnpack pass inBuf inBuf.length = some status) :
    ∃ written, unpackImage (passEnv pass) inBuf = .returned status written := by
  simp only [hdcpKeyUnpack] at done
  simp only [unpackImage]
  split at done
  · rename_i foreign
    rw [if_pos foreign]
    split at done
    · cases done
    · rename_i apart
      rw [if_neg apart]
      exact ⟨[], congrArg (Unpacking.returned · []) (Option.some.inj done)⟩
  rename_i magic
  rw [if_neg magic]
  split at done
  · rename_i mismatch
    rw [if_pos mismatch]
    exact ⟨[], congrArg (Unpacking.returned · []) (Option.some.inj done)⟩
  rename_i summed
  rw [if_neg summed]
  split at done
  · rename_i large
    rw [if_pos large]
    exact ⟨[], congrArg (Unpacking.returned · []) (Option.some.inj done)⟩
  rename_i fits
  rw [if_neg fits]
  split at done
  · rename_i missing
    rw [if_pos (show (passEnv pass).aicPresent = false from missing)]
    exact ⟨[], congrArg (Unpacking.returned · []) (Option.some.inj done)⟩
  · rename_i present
    rw [if_neg (show ¬ (passEnv pass).aicPresent = false from present), if_neg (Nat.not_lt_of_le header)]
    exact unpack_items_status pass inBuf _ 0 status done

def Unpacks (inBuf : Bytes) : Unpacking → Prop
  | .outside => False
  | .aborted => True
  | .returned status written => status = .armTool → ∀ write ∈ written, HandedOut inBuf write.name write.data

def unpackAccepts (inBuf : Bytes) : Prop :=
  (inBuf.drop 8).take 8 = amlResImgV1Magic ∧ (imgHead inBuf).crc = addSum (inBuf.drop 4) (inBuf.length - 4) 0

def ItemsInside (inBuf : Bytes) : Nat → Nat → Prop
  | 0, _ => True
  | left + 1, i =>
      imgHeadSz + itemHeadSz * (i + 1) ≤ inBuf.length ∧
        ∀ itemSz ∈ doAes true (imageItem inBuf i).dataSz,
          (unpackedName (imageItem inBuf i) ≠ none → itemSz ≤ keyMaxSize) ∧ ItemsInside inBuf left (i + 1)

-- An item of a given size that lies in the image and holds zeros only.
structure Blank (inBuf : Bytes) (item : AmlResItemHead) (size : Nat) : Prop where
  sized : item.dataSz.toNat = size
  inside : size = 0 ∨ item.dataOffset.toNat + size ≤ inBuf.length
  zero : ∀ byte ∈ payload inBuf item, byte = 0

-- Unless an item ends the program: the first item of each name that goes to a
-- file is blank and as large as each item of the name, rounded up to 16.
def ItemsBlank (inBuf : Bytes) : Prop :=
  (∀ i < unpackCount inBuf, doAes true (imageItem inBuf i).dataSz ≠ none) →
    ∀ i < unpackCount inBuf, ∀ itemSz ∈ doAes true (imageItem inBuf i).dataSz,
      ∀ name ∈ unpackedName (imageItem inBuf i), ∀ first ∈ firstNamed inBuf name,
        Blank inBuf (imageItem inBuf first) itemSz.toNat

def UnpackInside (inBuf : Bytes) : Prop :=
  keyMaxSize < inBuf.length ∨
    imgHeadSz ≤ inBuf.length ∧ ItemsInside inBuf (unpackCount inBuf) 0 ∧ ItemsBlank inBuf

theorem aes_allocated (allocated : Bool) (dataSz : UInt32) (itemSz : Int) (done : doAes allocated dataSz = some itemSz) :
    doAes true dataSz = some itemSz := by
  simp only [doAes] at done ⊢
  by_cases empty : dataSz.toInt32.toInt = 0
  · rwa [if_pos empty] at done ⊢
  rw [if_neg empty] at done ⊢
  split at done
  · cases done
  · rename_i fits
    rwa [if_neg fun other => fits ⟨other.1, .inr (other.2.resolve_left Bool.noConfusion)⟩]

def willingUnpack : UnpackEnv := ⟨true, fun _ => ⟨true, true, true⟩⟩

-- The writes of a loop in which nothing fails.
def itemWrites (inBuf : Bytes) : Nat → Nat → List KeyWrite
  | 0, _ => []
  | left + 1, i =>
      let rest := itemWrites inBuf left (i + 1)
      match doAes true (imageItem inBuf i).dataSz, unpackedName (imageItem inBuf i) with
      | some itemSz, some name => ⟨name, itemBytes itemSz⟩ :: rest
      | _, _ => rest

theorem after_status (result : Unpacking) (write : KeyWrite) (written : List KeyWrite)
    (done : result.after write = .returned .armTool written) :
    ∃ rest, result = .returned .armTool rest ∧ written = write :: rest := by
  cases result with
  | outside => cases done
  | aborted => cases done
  | returned status rest =>
      cases done
      exact ⟨rest, rfl, rfl⟩

theorem after_inside (result : Unpacking) (write : KeyWrite) :
    result.after write = .outside ↔ result = .outside := by
  cases result <;> simp [Unpacking.after]

section
variable (inBuf : Bytes)

theorem unpack_loop_inside (env : UnpackEnv) (left i : Nat) (inside : ItemsInside inBuf left i) :
    unpackLoop env inBuf left i ≠ .outside := by
  induction left generalizing i with
  | zero => simp [unpackLoop]
  | succ left ih =>
      obtain ⟨here, later⟩ := inside
      rw [unpackLoop, if_neg (Nat.not_lt_of_le here)]
      cases aes : doAes (env.item i).allocated (imageItem inBuf i).dataSz with
      | none => simp
      | some itemSz =>
          obtain ⟨small, rest⟩ := later itemSz (aes_allocated _ _ _ aes)
          cases kind : unpackedName (imageItem inBuf i) with
          | none => exact ih (i + 1) rest
          | some name =>
              have fits : ¬ (keyMaxSize : Int) < itemSz := Int.not_lt_of_ge (small (by simp [kind]))
              simp only [if_neg fits]
              split
              · simp
              split
              · simp
              · exact fun outside => ih (i + 1) rest ((after_inside _ _).mp outside)

theorem unpack_loop_done (env : UnpackEnv) (left i : Nat) (written : List KeyWrite)
    (done : unpackLoop env inBuf left i = .returned .armTool written) :
    (∀ j, i ≤ j → j < i + left → doAes true (imageItem inBuf j).dataSz ≠ none) ∧ written = itemWrites inBuf left i := by
  induction left generalizing i written with
  | zero =>
      rw [unpackLoop] at done
      cases done
      exact ⟨fun j least most => by omega, rfl⟩
  | succ left ih =>
      rw [unpackLoop] at done
      split at done
      · cases done
      split at done
      · cases done
      rename_i itemSz aes
      have size := aes_allocated _ _ _ aes
      have first (others : ∀ j, i + 1 ≤ j → j < i + 1 + left → doAes true (imageItem inBuf j).dataSz ≠ none) :
          ∀ j, i ≤ j → j < i + (left + 1) → doAes true (imageItem inBuf j).dataSz ≠ none := by
        intro j least most
        rcases Nat.eq_or_lt_of_le least with rfl | beyond
        · simp [size]
        · exact others j beyond (by omega)
      split at done
      · rename_i kind
        obtain ⟨others, same⟩ := ih (i + 1) written done
        exact ⟨first others, by simp only [itemWrites, size, kind, same]⟩
      · rename_i name kind
        split at done
        · cases done
        split at done
        · cases done
        split at done
        · cases done
        · obtain ⟨rest, inner, rfl⟩ := after_status _ _ _ done
          obtain ⟨others, same⟩ := ih (i + 1) rest inner
          exact ⟨first others, by simp only [itemWrites, size, kind, same]⟩

theorem item_writes_mem (left i : Nat) (write : KeyWrite) :
    write ∈ itemWrites inBuf left i ↔ ∃ j, i ≤ j ∧ j < i + left ∧ ∃ itemSz ∈ doAes true (imageItem inBuf j).dataSz,
      ∃ name ∈ unpackedName (imageItem inBuf j), write = ⟨name, itemBytes itemSz⟩ := by
  induction left generalizing i with
  | zero =>
      rw [itemWrites]
      constructor
      · intro member
        cases member
      · rintro ⟨j, least, most, _⟩
        omega
  | succ left ih =>
      have onward : (∃ j, i ≤ j ∧ j < i + (left + 1) ∧ ∃ itemSz ∈ doAes true (imageItem inBuf j).dataSz,
            ∃ name ∈ unpackedName (imageItem inBuf j), write = ⟨name, itemBytes itemSz⟩) ↔
          (∃ itemSz ∈ doAes true (imageItem inBuf i).dataSz, ∃ name ∈ unpackedName (imageItem inBuf i),
            write = ⟨name, itemBytes itemSz⟩) ∨ write ∈ itemWrites inBuf left (i + 1) := by
        rw [ih (i + 1)]
        constructor
        · rintro ⟨j, least, most, here⟩
          rcases Nat.eq_or_lt_of_le least with rfl | beyond
          · exact .inl here
          · exact .inr ⟨j, beyond, by omega, here⟩
        · rintro (here | ⟨j, least, most, here⟩)
          · exact ⟨i, Nat.le_refl _, by omega, here⟩
          · exact ⟨j, by omega, by omega, here⟩
      rw [onward, itemWrites]
      cases doAes true (imageItem inBuf i).dataSz with
      | none => simp
      | some itemSz => cases unpackedName (imageItem inBuf i) <;> simp

theorem willing_inside (left i : Nat) (result : unpackLoop willingUnpack inBuf left i ≠ .outside) :
    ItemsInside inBuf left i := by
  induction left generalizing i with
  | zero => trivial
  | succ left ih =>
      rw [unpackLoop] at result
      by_cases past : inBuf.length < imgHeadSz + itemHeadSz * (i + 1)
      · rw [if_pos past] at result
        exact absurd rfl result
      rw [if_neg past] at result
      refine ⟨Nat.le_of_not_lt past, fun itemSz aes => ?_⟩
      have size : doAes (willingUnpack.item i).allocated (imageItem inBuf i).dataSz = some itemSz := aes
      simp only [size] at result
      cases kind : unpackedName (imageItem inBuf i) with
      | none =>
          simp only [kind] at result
          exact ⟨fun other => absurd rfl other, ih (i + 1) result⟩
      | some name =>
          simp only [kind, willingUnpack, Bool.true_eq_false, if_false, and_false] at result
          by_cases large : (keyMaxSize : Int) < itemSz
          · rw [if_pos large] at result
            exact absurd rfl result
          · rw [if_neg large] at result
            exact ⟨fun _ => Int.not_lt.mp large, ih (i + 1) fun outside => result ((after_inside _ _).mpr outside)⟩

theorem willing_returns (left i : Nat) (inside : ItemsInside inBuf left i)
    (allocated : ∀ j, i ≤ j → j < i + left → doAes true (imageItem inBuf j).dataSz ≠ none) :
    unpackLoop willingUnpack inBuf left i = .returned .armTool (itemWrites inBuf left i) := by
  induction left generalizing i with
  | zero => rfl
  | succ left ih =>
      obtain ⟨here, later⟩ := inside
      obtain ⟨itemSz, aes⟩ := Option.ne_none_iff_exists'.mp (allocated i (Nat.le_refl _) (by omega))
      obtain ⟨small, rest⟩ := later itemSz aes
      have size : doAes (willingUnpack.item i).allocated (imageItem inBuf i).dataSz = some itemSz := aes
      have onward := ih (i + 1) rest fun j least most => allocated j (by omega) (by omega)
      rw [unpackLoop, if_neg (Nat.not_lt_of_le here)]
      simp only [size, itemWrites, aes]
      cases kind : unpackedName (imageItem inBuf i) with
      | none => simpa only [kind] using onward
      | some name =>
          have fits : ¬ (keyMaxSize : Int) < itemSz := Int.not_lt_of_ge (small (by simp [kind]))
          simp only [willingUnpack, Bool.true_eq_false, if_false, and_false, if_neg fits]
          rw [show (unpackLoop ⟨true, fun _ => ⟨true, true, true⟩⟩ inBuf left (i + 1)) = _ from onward]
          rfl

end

theorem handed_blank (inBuf name : Bytes) (first : Nat) (itemSz : Int) (found : firstNamed inBuf name = some first) :
    HandedOut inBuf name (itemBytes itemSz) ↔ Blank inBuf (imageItem inBuf first) itemSz.toNat := by
  constructor
  · rintro ⟨also, same, whole, data⟩
    cases found.symm.trans same
    have sized : (imageItem inBuf first).dataSz.toNat = itemSz.toNat := by
      rw [← whole, ← data, itemBytes, zeros, List.length_replicate]
    refine ⟨sized, ?_, fun byte member => ?_⟩
    · rcases (in_image_iff inBuf _).mp whole with empty | inside
      · exact .inl (by rw [← sized, empty]; rfl)
      · exact .inr (sized ▸ inside)
    · rw [← data] at member
      exact List.eq_of_mem_replicate member
  · rintro ⟨sized, inside, zero⟩
    have whole : InImage inBuf (imageItem inBuf first) := by
      refine (in_image_iff inBuf _).mpr (inside.imp (fun empty => ?_) fun inside => sized.symm ▸ inside)
      exact UInt32.toNat_inj.mp (sized.trans empty)
    refine ⟨first, found, whole, ?_⟩
    exact (List.eq_replicate_iff.mpr ⟨whole.trans sized, zero⟩).symm

theorem items_inside_at (inBuf : Bytes) (left i : Nat) (inside : ItemsInside inBuf left i)
    (allocated : ∀ j, i ≤ j → j < i + left → doAes true (imageItem inBuf j).dataSz ≠ none) :
    ∀ j, i ≤ j → j < i + left → imgHeadSz + itemHeadSz * (j + 1) ≤ inBuf.length := by
  induction left generalizing i with
  | zero => exact fun j least most => by omega
  | succ left ih =>
      intro j least most
      rcases Nat.eq_or_lt_of_le least with rfl | beyond
      · exact inside.1
      · obtain ⟨itemSz, aes⟩ := Option.ne_none_iff_exists'.mp (allocated i (Nat.le_refl _) (by omega))
        exact ih (i + 1) (inside.2 itemSz aes).2 (fun other least most => allocated other (by omega) (by omega)) j beyond
          (by omega)

theorem unpacked_named (item : AmlResItemHead) (name : Bytes) (kind : unpackedName item = some name) :
    named item.name name = true := by
  simp only [unpackedName] at kind
  split at kind
  · rename_i firmware
    cases kind
    exact firmware
  split at kind
  · rename_i rx
    cases kind
    exact rx
  · cases kind

-- Each item that goes to a file has a first one of its name.
theorem unpacked_first (inBuf name : Bytes) (inside : ItemsInside inBuf (unpackCount inBuf) 0)
    (allocated : ∀ i < unpackCount inBuf, doAes true (imageItem inBuf i).dataSz ≠ none) (i : Nat)
    (bound : i < unpackCount inBuf) (kind : unpackedName (imageItem inBuf i) = some name) :
    ∃ first, firstNamed inBuf name = some first := by
  have room := items_inside_at inBuf _ 0 inside (fun j _ most => allocated j (by omega)) i (Nat.zero_le _) (by omega)
  have count : i < (imgHead inBuf).imgItemNum.toNat := by
    rw [unpackCount] at bound
    split at bound
    · cases bound
    · exact bound
  have here : hasName inBuf name i = true := by rw [hasName, decide_eq_true room, unpacked_named _ _ kind]; rfl
  obtain ⟨first, _, found, _⟩ := first_named_exists inBuf name i count here
  exact ⟨first, found⟩

theorem unpacks_iff (inBuf : Bytes) (accepted : unpackAccepts inBuf) :
    (∀ env, Unpacks inBuf (unpackImage env inBuf)) ↔ UnpackInside inBuf := by
  obtain ⟨magic, summed⟩ := accepted
  have checked (env : UnpackEnv) : unpackImage env inBuf =
      if keyMaxSize < inBuf.length then .returned .failed []
      else if env.aicPresent = false then .returned .failed []
      else if inBuf.length < imgHeadSz then .outside
      else unpackLoop env inBuf (unpackCount inBuf) 0 := by
    simp only [unpackImage]
    rw [if_neg (not_not_intro magic), if_neg (not_not_intro summed)]
  simp only [checked, UnpackInside]
  by_cases large : keyMaxSize < inBuf.length
  · simp [large, Unpacks]
  simp only [large, if_false, false_or]
  constructor
  · intro all
    have call := all willingUnpack
    rw [if_neg (show ¬ willingUnpack.aicPresent = false from Bool.noConfusion)] at call
    by_cases short : inBuf.length < imgHeadSz
    · rw [if_pos short] at call
      exact absurd call id
    rw [if_neg short] at call
    have inside := willing_inside inBuf _ 0 fun outside => by rw [outside] at call; exact call
    refine ⟨Nat.le_of_not_lt short, inside, fun allocated i bound itemSz aes name kind first found => ?_⟩
    refine (handed_blank inBuf name first itemSz found).mp ?_
    rw [willing_returns inBuf _ 0 inside fun j _ most => allocated j (by omega)] at call
    exact call rfl ⟨name, itemBytes itemSz⟩
      ((item_writes_mem inBuf _ 0 _).mpr ⟨i, Nat.zero_le _, by omega, itemSz, aes, name, kind, rfl⟩)
  · rintro ⟨long, inside, blank⟩ env
    by_cases missing : env.aicPresent = false
    · rw [if_pos missing]
      exact fun other => Unpacked.noConfusion other
    rw [if_neg missing, if_neg (Nat.not_lt_of_le long)]
    cases result : unpackLoop env inBuf (unpackCount inBuf) 0 with
    | outside => exact absurd result (unpack_loop_inside inBuf env _ 0 inside)
    | aborted => trivial
    | returned status written =>
        rintro rfl write member
        obtain ⟨allocated, rfl⟩ := unpack_loop_done inBuf env _ 0 written result
        obtain ⟨j, _, bound, itemSz, aes, name, kind, rfl⟩ := (item_writes_mem inBuf _ 0 write).mp member
        have all : ∀ i < unpackCount inBuf, doAes true (imageItem inBuf i).dataSz ≠ none := fun i less =>
          allocated i (Nat.zero_le _) (by omega)
        obtain ⟨first, found⟩ := unpacked_first inBuf name inside all j (by omega) kind
        exact (handed_blank inBuf name first itemSz found).mpr (blank all j (by omega) itemSz aes name kind first found)

end Droidlogic.Hdcp
