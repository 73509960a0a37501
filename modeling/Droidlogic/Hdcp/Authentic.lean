import Droidlogic.Hdcp.Image

set_option autoImplicit false

namespace Droidlogic.Hdcp

open Droidlogic.Lib

-- What the checksum of an image is the sum of: the bytes from offset 4 to imgSz.
def bodySum (file : Bytes) : UInt32 := wordSum ((file.drop 4).take ((imgHead file).imgSz.toNat - 4))

structure Authentic (file : Bytes) : Prop where
  magic : (imgHead file).magic = amlResImgV1Magic
  whole : (imgHead file).imgSz.toNat ≤ file.length
  summed : (imgHead file).crc = bodySum file

theorem crc_loop_sum (content : Bytes) (checkSz fuel total words : Nat) (buf : Bytes) (crc : UInt32)
    (covered : checkSz ≤ content.length) (aligned : total = 4 * words) (enough : checkSz - total ≤ fuel) :
    crcLoop content checkSz fuel total buf crc = crc + wordSum ((content.drop total).take (checkSz - total)) := by
  induction fuel generalizing total words buf crc with
  | zero =>
      have done : checkSz - total = 0 := Nat.eq_zero_of_le_zero enough
      rw [crcLoop, done, List.take_zero, word_sum_nil, UInt32.add_zero]
  | succ fuel ih =>
      rw [crcLoop]
      by_cases more : total < checkSz
      · rw [if_pos more]
        have chunk (size : Nat) (fits : size ≤ checkSz - total) :
            ((content.drop total).take size).length = size := by
          rw [List.length_take, List.length_drop]
          omega
        have summed (size : Nat) (fits : size ≤ checkSz - total) (buf : Bytes) :
            addSum ((content.drop total).take size ++ buf.drop ((content.drop total).take size).length) size crc =
              crc + wordSum ((content.drop total).take size) := by
          have got := chunk size fits
          rw [add_sum_spec _ _ _ (by rw [List.length_append]; omega)]
          congr 2
          exact List.take_left' got
        by_cases long : oneReadSz < checkSz - total
        · have size : oneReadSz ≤ checkSz - total := Nat.le_of_lt long
          have onward : checkSz - total = oneReadSz + (checkSz - (total + oneReadSz)) := by
            rw [Nat.sub_add_eq, Nat.add_sub_cancel' size]
          have next_aligned : total + oneReadSz = 4 * (words + 3072) := by
            rw [oneReadSz]
            omega
          have less : checkSz - (total + oneReadSz) ≤ fuel := by
            rw [oneReadSz]
            omega
          simp only [if_pos long]
          have joined := word_sum_append ((content.drop total).take oneReadSz)
            (((content.drop total).drop oneReadSz).take (checkSz - (total + oneReadSz))) 3072 (chunk oneReadSz size)
          rw [summed _ size, ih _ _ _ _ next_aligned less, UInt32.add_assoc, ← List.drop_drop, ← joined,
            ← List.take_add, ← onward]
        · have last : checkSz - (total + (checkSz - total)) = 0 := by omega
          have ends : ∀ (fuel : Nat) (buf : Bytes) (crc : UInt32),
              crcLoop content checkSz fuel (total + (checkSz - total)) buf crc = crc := by
            intro fuel buf crc
            cases fuel with
            | zero => rfl
            | succ fuel => rw [crcLoop, if_neg (by omega)]
          simp only [if_neg long]
          rw [summed _ (Nat.le_refl _), ends]
      · have done : checkSz - total = 0 := by omega
        rw [if_neg more, done, List.take_zero, word_sum_nil, UInt32.add_zero]

def maxLen (file : Bytes) : Nat := (file.length - 4) % 2 ^ 32

-- What imgSz - 4 is in 32-bit arithmetic, where zero stands for the rest of the file.
def checkedRange (file : Bytes) : Nat :=
  if (imgHead file).imgSz.toNat = 4 then maxLen file
  else ((imgHead file).imgSz.toNat + (2 ^ 32 - 4)) % 2 ^ 32

theorem calc_img_crc_range (heap file : Bytes) (long : 4 ≤ file.length) :
    calcImgCrc true heap file 4 ((imgHead file).imgSz - 4) =
      if maxLen file < checkedRange file then 0 else wordSum ((file.drop 4).take (checkedRange file)) := by
  have maxIs : (UInt32.ofNat file.length - UInt32.ofNat 4).toNat = maxLen file := by
    rw [UInt32.toNat_sub, UInt32.toNat_ofNat', UInt32.toNat_ofNat', maxLen]
    omega
  have fits : maxLen file ≤ (file.drop 4).length := by
    rw [List.length_drop, maxLen]
    exact Nat.mod_le _ _
  have sizeIs : ((imgHead file).imgSz - 4).toNat = ((imgHead file).imgSz.toNat + (2 ^ 32 - 4)) % 2 ^ 32 := by
    rw [UInt32.toNat_sub, Nat.add_comm]
    rfl
  have loop (size : Nat) (inside : size ≤ maxLen file) :
      crcLoop (file.drop 4) size size 0 heap 0 = wordSum ((file.drop 4).take size) := by
    rw [crc_loop_sum _ _ _ 0 0 _ _ (Nat.le_trans inside fits) rfl (Nat.sub_le _ _), UInt32.zero_add, List.drop_zero,
      Nat.sub_zero]
  have bound := (imgHead file).imgSz.toNat_lt
  simp only [calcImgCrc, Bool.true_eq_false, if_false]
  by_cases four : (imgHead file).imgSz.toNat = 4
  · have zero : (imgHead file).imgSz - 4 = 0 := by
      apply UInt32.toNat_inj.mp
      rw [sizeIs, four]
      rfl
    rw [if_pos zero, maxIs, loop _ (Nat.le_refl _), checkedRange, if_pos four, if_neg (Nat.lt_irrefl _)]
  · have nonzero : (imgHead file).imgSz - 4 ≠ 0 := by
      intro zero
      have noSize : ((imgHead file).imgSz - 4).toNat = 0 := by rw [zero]; rfl
      rw [sizeIs] at noSize
      omega
    rw [if_neg nonzero, checkedRange, if_neg four, ← sizeIs]
    by_cases past : maxLen file < ((imgHead file).imgSz - 4).toNat
    · rw [if_pos past, if_pos (UInt32.lt_iff_toNat_lt.mpr (maxIs ▸ past))]
    · rw [if_neg past, if_neg (fun less => past (maxIs ▸ UInt32.lt_iff_toNat_lt.mp less)), loop _ (Nat.le_of_not_lt past)]

-- The checksums that pass although they are not the sum: zero where the routine gives
-- up, and the sum over another range where imgSz - 4 wraps.
def Forged (file : Bytes) : Prop :=
  ((imgHead file).crc = 0 ∧ (file.length < (imgHead file).imgSz.toNat ∨ bodySum file ≠ 0)) ∨
    ((imgHead file).imgSz.toNat ≤ 4 ∧ (imgHead file).crc ≠ 0 ∧ checkedRange file ≤ maxLen file ∧
      (imgHead file).crc = wordSum ((file.drop 4).take (checkedRange file)))

def Accepted (env : ImgEnv) (file : Bytes) : Prop :=
  (imgHead file).crc = calcImgCrc env.crcBuf env.heap file 4 ((imgHead file).imgSz - 4)

theorem empty_body_sum (file : Bytes) (empty : (imgHead file).imgSz.toNat ≤ 4) : bodySum file = 0 := by
  rw [bodySum, Nat.sub_eq_zero_of_le empty, List.take_zero, word_sum_nil]

theorem zero_crc_authentic (file : Bytes) (zero : (imgHead file).crc = 0) (honest : ¬ Forged file) :
    (imgHead file).imgSz.toNat ≤ file.length ∧ (imgHead file).crc = bodySum file := by
  have none_of : ¬ (file.length < (imgHead file).imgSz.toNat ∨ bodySum file ≠ 0) := fun some_of =>
    honest (.inl ⟨zero, some_of⟩)
  rw [not_or, not_not, Nat.not_lt] at none_of
  exact ⟨none_of.1, zero.trans none_of.2.symm⟩

theorem accepted_authentic (env : ImgEnv) (file : Bytes) (long : 4 ≤ file.length) (accepted : Accepted env file)
    (honest : ¬ Forged file) : (imgHead file).imgSz.toNat ≤ file.length ∧ (imgHead file).crc = bodySum file := by
  rw [Accepted] at accepted
  cases allocated : env.crcBuf with
  | false =>
      rw [allocated] at accepted
      exact zero_crc_authentic file accepted honest
  | true =>
      rw [allocated, calc_img_crc_range _ _ long] at accepted
      by_cases past : maxLen file < checkedRange file
      · rw [if_pos past] at accepted
        exact zero_crc_authentic file accepted honest
      · rw [if_neg past] at accepted
        have inside : checkedRange file ≤ maxLen file := Nat.le_of_not_lt past
        by_cases empty : (imgHead file).imgSz.toNat ≤ 4
        · by_cases zero : (imgHead file).crc = 0
          · exact ⟨Nat.le_trans empty long, zero.trans (empty_body_sum file empty).symm⟩
          · exact absurd (.inr ⟨empty, zero, inside, accepted⟩) honest
        · have bound := (imgHead file).imgSz.toNat_lt
          have range : checkedRange file = (imgHead file).imgSz.toNat - 4 := by
            rw [checkedRange, if_neg (by omega)]
            omega
          have room : maxLen file ≤ file.length - 4 := Nat.mod_le _ _
          rw [range] at accepted inside
          exact ⟨by omega, accepted⟩

theorem forged_accepted (file : Bytes) (long : 4 ≤ file.length) (forged : Forged file) :
    ∃ crcBuf, (∀ env : ImgEnv, env.crcBuf = crcBuf → Accepted env file) ∧
      ¬ ((imgHead file).imgSz.toNat ≤ file.length ∧ (imgHead file).crc = bodySum file) := by
  rcases forged with ⟨zero, wrong⟩ | ⟨empty, nonzero, inside, summed⟩
  · refine ⟨false, ?_, ?_⟩
    · intro env failed
      rw [Accepted, failed]
      exact zero
    · rintro ⟨whole, sum⟩
      rcases wrong with past | other
      · omega
      · exact other (sum.symm.trans zero)
  · refine ⟨true, ?_, ?_⟩
    · intro env allocated
      rw [Accepted, allocated, calc_img_crc_range _ _ long, if_neg (Nat.not_lt_of_le inside)]
      exact summed
    · rintro ⟨_, sum⟩
      exact nonzero (sum.trans (empty_body_sum file empty))

def IsKey (item : AmlResItemHead) : Prop :=
  named item.name hdcpRxPrivate = true ∨ named item.name hdcpRx = true ∨ named item.name hdcpRxFw = true

instance (item : AmlResItemHead) : Decidable (IsKey item) := inferInstanceAs (Decidable (_ ∨ _ ∨ _))

-- The item's data lie in the file and fit the buffer of dataSz + 4 bytes.
def Readable (file : Bytes) (item : AmlResItemHead) : Prop :=
  ((file.drop item.dataOffset.toNat).take item.dataSz.toNat).length = item.dataSz.toNat ∧
    item.dataSz.toNat ≤ (item.dataSz + 4).toNat

def ReachesKey (file table : Bytes) : Nat → Nat → Prop
  | 0, _ => False
  | left + 1, num =>
      itemHeadSz * (num + 1) ≤ table.length ∧
        if IsKey (itemAt table num) then Readable file (itemAt table num) else ReachesKey file table left (num + 1)

def itemTable (file : Bytes) : Bytes := readItems file (itemHeadsSz (imgHead file).imgItemNum)

-- A file whose first key item can be read, once its checksum has passed.
structure Delivers (file : Bytes) : Prop where
  header : imgHeadSz ≤ file.length
  magic : (imgHead file).magic = amlResImgV1Magic
  fits : imgHeadSz + (itemTable file).length ≤ itemReadBufSz
  table : ((itemTable file).length : Int) = itemHeadsSz (imgHead file).imgItemNum
  key : ReachesKey file (itemTable file) (imgHead file).imgItemNum.toNat 0

theorem deliver_done (env : ItemEnv) (file : Bytes) (item : AmlResItemHead) (name : Bytes) (change : Bytes → Bytes)
    (writes : List KeyWrite) (result : Int) (done : deliver env file item name change = .done writes result) :
    Readable file item := by
  simp only [deliver] at done
  by_cases past : (item.dataSz + 4).toNat < ((file.drop item.dataOffset.toNat).take item.dataSz.toNat).length
  · rw [if_pos past] at done
    cases done
  · rw [if_neg past] at done
    by_cases cut : ((file.drop item.dataOffset.toNat).take item.dataSz.toNat).length ≠ item.dataSz.toNat
    · rw [if_pos cut] at done
      cases done
    · have whole := Decidable.of_not_not cut
      exact ⟨whole, by omega⟩

theorem handle_done (env : ItemEnv) (file : Bytes) (item : AmlResItemHead) (writes : List KeyWrite) (result : Int)
    (done : handleItem env file item = some (.done writes result)) : IsKey item ∧ Readable file item := by
  rw [handleItem] at done
  by_cases rxPrivate : named item.name hdcpRxPrivate = true
  · rw [if_pos rxPrivate] at done
    refine ⟨.inl rxPrivate, ?_⟩
    cases tmp : env.tmpBuffer <;> cases out : env.writeBuffer <;> simp [tmp, out] at done
    exact deliver_done _ _ _ _ _ _ _ done
  · rw [if_neg rxPrivate] at done
    by_cases rx : named item.name hdcpRx = true
    · rw [if_pos rx] at done
      refine ⟨.inr (.inl rx), ?_⟩
      cases out : env.writeBuffer <;> simp [out] at done
      exact deliver_done _ _ _ _ _ _ _ done
    · rw [if_neg rx] at done
      by_cases fw : named item.name hdcpRxFw = true
      · rw [if_pos fw] at done
        refine ⟨.inr (.inr fw), ?_⟩
        cases out : env.writeBuffer <;> simp [out] at done
        exact deliver_done _ _ _ _ _ _ _ done
      · rw [if_neg fw] at done
        cases done

theorem handle_none (env : ItemEnv) (file : Bytes) (item : AmlResItemHead) :
    handleItem env file item = none ↔ ¬ IsKey item := by
  rw [handleItem, IsKey]
  by_cases rxPrivate : named item.name hdcpRxPrivate = true
  · simp [rxPrivate]
  · by_cases rx : named item.name hdcpRx = true
    · simp [rxPrivate, rx]
    · by_cases fw : named item.name hdcpRxFw = true <;> simp [rxPrivate, rx, fw]

theorem item_loop_reaches (env : ImgEnv) (file table : Bytes) (left num : Nat) (result : Int)
    (wrote : (itemLoop env file table left num result).writes ≠ []) : ReachesKey file table left num := by
  induction left generalizing num result with
  | zero => exact absurd rfl wrote
  | succ left ih =>
      rw [itemLoop] at wrote
      by_cases past : table.length < itemHeadSz * (num + 1)
      · rw [if_pos past] at wrote
        exact absurd rfl wrote
      · rw [if_neg past] at wrote
        refine ⟨Nat.le_of_not_lt past, ?_⟩
        cases handled : handleItem (env.item num) file (itemAt table num) with
        | none =>
            rw [if_neg ((handle_none _ _ _).mp handled)]
            simp only [handled] at wrote
            exact ih (num + 1) result wrote
        | some delivery =>
            cases delivery with
            | undefined => simp [handled] at wrote
            | failed => simp [handled] at wrote
            | done writes outcome =>
                obtain ⟨key, readable⟩ := handle_done _ _ _ _ _ handled
                rw [if_pos key]
                exact readable

theorem set_img_path_writes (env : ImgEnv) (file : Bytes) (wrote : (setImgPath env file).writes ≠ []) :
    Delivers file ∧ Accepted env file := by
  by_contra refused
  apply wrote
  have table : readItems file (itemHeadsSz (imgHead file).imgItemNum) = itemTable file := rfl
  simp only [setImgPath, table]
  by_cases noPath : env.path = false
  · rw [if_pos noPath]
  rw [if_neg noPath]
  by_cases closed : env.opened = false
  · rw [if_pos closed]
  rw [if_neg closed]
  by_cases noBuffer : env.itemReadBuf = false
  · rw [if_pos noBuffer]
  rw [if_neg noBuffer]
  by_cases short : file.length < imgHeadSz
  · rw [if_pos short]
  rw [if_neg short]
  by_cases foreign : (imgHead file).magic ≠ amlResImgV1Magic
  · rw [if_pos foreign]
  rw [if_neg foreign]
  by_cases mismatch : (imgHead file).crc ≠ calcImgCrc env.crcBuf env.heap file 4 ((imgHead file).imgSz - 4)
  · rw [if_pos mismatch]
  rw [if_neg mismatch]
  by_cases overflow : itemReadBufSz < imgHeadSz + (itemTable file).length
  · rw [if_pos overflow]
  rw [if_neg overflow]
  by_cases cut : ((itemTable file).length : Int) ≠ itemHeadsSz (imgHead file).imgItemNum
  · rw [if_pos cut]
  rw [if_neg cut]
  by_contra some_written
  have accepted : (imgHead file).crc = calcImgCrc env.crcBuf env.heap file 4 ((imgHead file).imgSz - 4) :=
    Decidable.of_not_not mismatch
  exact refused ⟨⟨Nat.le_of_not_lt short, Decidable.of_not_not foreign, Nat.le_of_not_lt overflow,
    Decidable.of_not_not cut, item_loop_reaches _ _ _ _ _ _ some_written⟩, accepted⟩

-- Surroundings in which everything but the checksum buffer works.
def willing (crcBuf : Bool) : ImgEnv where
  path := true
  opened := true
  itemReadBuf := true
  crcBuf := crcBuf
  heap := []
  item := fun _ => ⟨true, true, true, true, some true, [0x31]⟩

theorem deliver_willing (file : Bytes) (item : AmlResItemHead) (name : Bytes) (change : Bytes → Bytes)
    (readable : Readable file item) :
    deliver ⟨true, true, true, true, some true, [0x31]⟩ file item name change =
      .done [⟨name, change ((file.drop item.dataOffset.toNat).take item.dataSz.toNat)⟩] 0 := by
  obtain ⟨whole, fits⟩ := readable
  have inside : ¬ (item.dataSz + 4).toNat < ((file.drop item.dataOffset.toNat).take item.dataSz.toNat).length := by
    omega
  simp only [deliver, if_neg inside, if_neg (not_not_intro whole)]
  rfl

theorem handle_willing (file : Bytes) (item : AmlResItemHead) (key : IsKey item) (readable : Readable file item) :
    ∃ write, handleItem ⟨true, true, true, true, some true, [0x31]⟩ file item = some (.done [write] 0) := by
  rw [handleItem]
  simp only [Bool.true_eq_false, if_false, deliver_willing file item _ _ readable]
  by_cases rxPrivate : named item.name hdcpRxPrivate = true
  · exact ⟨_, if_pos rxPrivate⟩
  · rw [if_neg rxPrivate]
    by_cases rx : named item.name hdcpRx = true
    · exact ⟨_, if_pos rx⟩
    · rw [if_neg rx]
      exact ⟨_, if_pos ((key.resolve_left rxPrivate).resolve_left rx)⟩

theorem reaches_written (crcBuf : Bool) (file table : Bytes) (left num : Nat) (result : Int)
    (reaches : ReachesKey file table left num) : (itemLoop (willing crcBuf) file table left num result).writes ≠ [] := by
  induction left generalizing num result with
  | zero => exact absurd reaches id
  | succ left ih =>
      obtain ⟨inside, rest⟩ := reaches
      rw [itemLoop, if_neg (Nat.not_lt_of_le inside)]
      by_cases key : IsKey (itemAt table num)
      · rw [if_pos key] at rest
        obtain ⟨write, handled⟩ := handle_willing file _ key rest
        have handledHere : handleItem ((willing crcBuf).item num) file (itemAt table num) = some (.done [write] 0) := handled
        simp [handledHere]
      · rw [if_neg key] at rest
        have skipped := (handle_none ((willing crcBuf).item num) file (itemAt table num)).mpr key
        simp only [skipped]
        exact ih (num + 1) result rest

theorem delivers_written (crcBuf : Bool) (file : Bytes) (delivers : Delivers file)
    (accepted : Accepted (willing crcBuf) file) : (setImgPath (willing crcBuf) file).writes ≠ [] := by
  obtain ⟨header, magic, fits, table, key⟩ := delivers
  have reached : setImgPath (willing crcBuf) file =
      itemLoop (willing crcBuf) file (itemTable file) (imgHead file).imgItemNum.toNat 0 (-1) := by
    rw [Accepted] at accepted
    rw [itemTable] at fits table
    simp only [setImgPath]
    rw [if_neg Bool.noConfusion, if_neg Bool.noConfusion, if_neg Bool.noConfusion,
      if_neg (Nat.not_lt_of_le header), if_neg (not_not_intro magic), if_neg (not_not_intro accepted),
      if_neg (Nat.not_lt_of_le fits),
      if_neg (not_not_intro table)]
    rfl
  rw [reached]
  exact reaches_written crcBuf file _ _ 0 (-1) key

-- Two images with the same bytes behind the checksum field carry the same sum.
theorem same_body (first second : Bytes) (same : first.drop 4 = second.drop 4) : bodySum first = bodySum second := by
  have imgSz : (imgHead first).imgSz = (imgHead second).imgSz := by
    have fields := congrArg (fun rest : Bytes => word32 (rest.drop 12)) same
    simp only [List.drop_drop] at fields
    exact fields
  rw [bodySum, bodySum, same, imgSz]

theorem same_checksum (first second : Bytes) (firstLong : 4 ≤ first.length) (secondLong : 4 ≤ second.length)
    (same : first.drop 4 = second.drop 4) (firstSum : (imgHead first).crc = bodySum first)
    (secondSum : (imgHead second).crc = bodySum second) : first = second := by
  have crc : word32 first = word32 second := firstSum.trans ((same_body first second same).trans secondSum.symm)
  rw [← List.take_append_drop 4 first, ← List.take_append_drop 4 second, same,
    word32_inj first second firstLong secondLong crc]

theorem written_authentic (env : ImgEnv) (file : Bytes) (honest : ¬ (Delivers file ∧ Forged file))
    (wrote : (setImgPath env file).writes ≠ []) : 4 ≤ file.length ∧ Authentic file := by
  obtain ⟨delivers, accepted⟩ := set_img_path_writes env file wrote
  have long : 4 ≤ file.length := Nat.le_trans (by decide) delivers.header
  obtain ⟨whole, summed⟩ := accepted_authentic env file long accepted (fun forged => honest ⟨delivers, forged⟩)
  exact ⟨long, delivers.magic, whole, summed⟩

theorem image_authenticated_iff (file other : Bytes) :
    ((∀ env, (setImgPath env file).writes ≠ [] → Authentic file) ↔ ¬ (Delivers file ∧ Forged file)) ∧
      (file.drop 4 = other.drop 4 → file ≠ other → ¬ (Delivers file ∧ Forged file) → ¬ (Delivers other ∧ Forged other) →
        ∀ one two, (setImgPath one file).writes = [] ∨ (setImgPath two other).writes = []) := by
  refine ⟨⟨?_, ?_⟩, ?_⟩
  · rintro authentic ⟨delivers, forged⟩
    obtain ⟨crcBuf, accepted, wrong⟩ := forged_accepted file (Nat.le_trans (by decide) delivers.header) forged
    have wrote := delivers_written crcBuf file delivers (accepted (willing crcBuf) rfl)
    have whole := authentic (willing crcBuf) wrote
    exact wrong ⟨whole.whole, whole.summed⟩
  · intro honest env wrote
    exact (written_authentic env file honest wrote).2
  · intro same differ honest otherHonest one two
    by_contra both
    obtain ⟨wrote, otherWrote⟩ := not_or.mp both
    obtain ⟨long, authentic⟩ := written_authentic one file honest wrote
    obtain ⟨otherLong, otherAuthentic⟩ := written_authentic two other otherHonest otherWrote
    exact differ (same_checksum file other long otherLong same authentic.summed otherAuthentic.summed)

def forgedImage : Bytes :=
  le32 0 ++ le32 1 ++ amlResImgV1Magic ++ le32 1000 ++ le32 1 ++
    (le32 4 ++ le32 4 ++ le32 72 ++ [0, 0, 0, 0] ++ hdcpRxFw ++ List.replicate 20 0) ++ [1, 2, 3, 4]

theorem forged_key_written :
    (setImgPath (willing true) forgedImage).writes = [⟨hdcp22RxFw, [1, 2, 3, 4]⟩] ∧
      forgedImage.length < (imgHead forgedImage).imgSz.toNat := by
  decide +kernel

end Droidlogic.Hdcp
