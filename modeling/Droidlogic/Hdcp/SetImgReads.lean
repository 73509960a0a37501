import Droidlogic.Hdcp.Authentic
import Droidlogic.Hdcp.Items

set_option autoImplicit false

namespace Droidlogic.Hdcp

open Droidlogic.Lib

-- An item that setImgPath hands on: under which name, and what is done to the data.
structure KeyItem where
  item : Bytes
  key : Bytes
  change : Bytes → Bytes

def keyOf (item : AmlResItemHead) : Option KeyItem :=
  if named item.name hdcpRxPrivate then some ⟨hdcpRxPrivate, hdcpRxPrivate, hdcp2DataDecryption⟩
  else if named item.name hdcpRx then some ⟨hdcpRx, hdcpRx, id⟩
  else if named item.name hdcpRxFw then some ⟨hdcpRxFw, hdcp22RxFw, id⟩
  else none

def requestedName (key : Bytes) : Bytes := if key = hdcp22RxFw then hdcpRxFw else key

-- The items whose names the loop logs.
def loggedItems (env : ImgEnv) (file table : Bytes) : Nat → Nat → List Nat
  | 0, _ => []
  | left + 1, num =>
      if table.length < itemHeadSz * (num + 1) then []
      else
        num ::
          match handleItem (env.item num) file (itemAt table num) with
          | none => loggedItems env file table left (num + 1)
          | some (.done _ outcome) => if outcome ≠ 0 then [] else loggedItems env file table left (num + 1)
          | some _ => []

structure ReachesLoop (env : ImgEnv) (file : Bytes) : Prop where
  path : env.path = true
  opened : env.opened = true
  itemReadBuf : env.itemReadBuf = true
  summed : Accepted env file
  fits : imgHeadSz + (itemTable file).length ≤ itemReadBufSz
  read : ((itemTable file).length : Int) = itemHeadsSz (imgHead file).imgItemNum

-- itemReadBuf behind the header: the heads that were read, and memory nobody has written.
def headMemory (table : Bytes) (memory : Nat → UInt8) : Bytes :=
  table ++ (List.range (itemReadBufSz - imgHeadSz - table.length)).map memory

-- The log of a name reads up to a NUL.
def SetImgReads (file : Bytes) : Prop :=
  ∀ (env : ImgEnv) (memory : Nat → UInt8),
    (setImgPath env file).result ≠ none ∧
      (ReachesLoop env file → ∀ num ∈ loggedItems env file (itemTable file) (imgHead file).imgItemNum.toNat 0,
        0 ∈ (headMemory (itemTable file) memory).drop (itemHeadSz * num + 16)) ∧
      ((setImgPath env file).result = some 0 →
        ∀ write ∈ (setImgPath env file).writes, HandedOut file (requestedName write.name) write.data)

structure SetImgAccepts (file : Bytes) : Prop where
  header : imgHeadSz ≤ file.length
  magic : (imgHead file).magic = amlResImgV1Magic
  summed : ∃ env, Accepted env file

def LoopInside (file table : Bytes) : Nat → Nat → Prop
  | 0, _ => True
  | left + 1, num =>
      itemHeadSz * (num + 1) ≤ table.length ∧ 0 ∈ table.drop (itemHeadSz * num + 16) ∧
        match keyOf (itemAt table num) with
        | none => LoopInside file table left (num + 1)
        | some _ => (payload file (itemAt table num)).length ≤ ((itemAt table num).dataSz + 4).toNat ∧
            (InImage file (itemAt table num) → LoopInside file table left (num + 1))

-- Unless an item ends the call: the key items of one name hold the same data, and
-- those of the private key bytes that turned around are themselves.
def KeysAlike (file table : Bytes) (count : Nat) : Prop :=
  (∀ i < count, keyOf (itemAt table i) ≠ none → InImage file (itemAt table i)) →
    (∀ i < count, ∀ key ∈ keyOf (itemAt table i), ∀ j < count, named (itemAt table j).name key.item = true →
        payload file (itemAt table j) = payload file (itemAt table i)) ∧
      ∀ i < count, named (itemAt table i).name hdcpRxPrivate = true →
        ∀ byte ∈ payload file (itemAt table i), generalDataChange byte = byte

def SetImgInside (file : Bytes) : Prop :=
  let table := itemTable file
  let imgItemNum := (imgHead file).imgItemNum
  imgHeadSz + table.length ≤ itemReadBufSz ∧
    ((table.length : Int) = itemHeadsSz imgItemNum →
      LoopInside file table imgItemNum.toNat 0 ∧ KeysAlike file table imgItemNum.toNat)

theorem handle_key (env : ItemEnv) (file : Bytes) (item : AmlResItemHead) :
    match keyOf item with
    | none => handleItem env file item = none
    | some key => handleItem env file item = some .failed ∨
        handleItem env file item = some (deliver env file item key.key key.change) := by
  simp only [keyOf, handleItem]
  by_cases rxPrivate : named item.name hdcpRxPrivate = true
  · simp only [rxPrivate, if_true]
    cases env.tmpBuffer <;> cases env.writeBuffer <;> simp
  · by_cases rx : named item.name hdcpRx = true
    · simp only [rxPrivate, rx, if_true, Bool.false_eq_true, if_false]
      cases env.writeBuffer <;> simp
    · by_cases fw : named item.name hdcpRxFw = true
      · simp only [rxPrivate, rx, fw, if_true, Bool.false_eq_true, if_false]
        cases env.writeBuffer <;> simp
      · simp [rxPrivate, rx, fw]

theorem requested_key (item : AmlResItemHead) (key : KeyItem) (kind : keyOf item = some key) :
    requestedName key.key = key.item := by
  simp only [keyOf] at kind
  split at kind
  · cases kind
    decide
  split at kind
  · cases kind
    decide
  split at kind
  · cases kind
    decide
  · cases kind

theorem deliver_cases (env : ItemEnv) (file : Bytes) (item : AmlResItemHead) (name : Bytes) (change : Bytes → Bytes)
    (fits : (payload file item).length ≤ (item.dataSz + 4).toNat) :
    (¬ InImage file item ∧ deliver env file item name change = .failed) ∨
      InImage file item ∧ ∃ outcome writes, deliver env file item name change = .done writes outcome ∧
        (outcome = 0 → writes = [⟨name, change (payload file item)⟩]) := by
  have room : ¬ (item.dataSz + 4).toNat < (payload file item).length := Nat.not_lt_of_le fits
  by_cases whole : InImage file item
  · have same : ¬ (payload file item).length ≠ item.dataSz.toNat := not_not_intro whole
    refine .inr ⟨whole, (writeHdcpKey env (change (payload file item)) name).2,
      (writeHdcpKey env (change (payload file item)) name).1, ?_, ?_⟩
    · simp only [deliver]
      rw [if_neg (show ¬ (item.dataSz + 4).toNat < ((file.drop _).take _).length from room),
        if_neg (show ¬ ((file.drop _).take _).length ≠ _ from same)]
      rfl
    · intro zero
      simp only [writeHdcpKey] at zero ⊢
      split at zero
      · cases zero
      split at zero
      · cases zero
      split at zero
      · cases zero
      · cases zero
      · rename_i attached selected _ written
        simp [attached, selected]
  · refine .inl ⟨whole, ?_⟩
    have cut : (payload file item).length ≠ item.dataSz.toNat := whole
    simp only [deliver]
    rw [if_neg (show ¬ (item.dataSz + 4).toNat < ((file.drop _).take _).length from room),
      if_pos (show ((file.drop _).take _).length ≠ _ from cut)]

section
variable (file table : Bytes)

theorem nul_logged (memory : Nat → UInt8) (offset : Nat) (ended : 0 ∈ table.drop offset) :
    0 ∈ (headMemory table memory).drop offset := by
  rw [headMemory, List.drop_append]
  exact List.mem_append_left _ ended

-- What one item does: nothing, the end of the call, or one key.
theorem item_loop_step (env : ImgEnv) (left num : Nat) (result : Int) (inside : LoopInside file table (left + 1) num) :
    (keyOf (itemAt table num) = none ∧ LoopInside file table left (num + 1) ∧
        itemLoop env file table (left + 1) num result = itemLoop env file table left (num + 1) result ∧
        loggedItems env file table (left + 1) num = num :: loggedItems env file table left (num + 1)) ∨
      ((itemLoop env file table (left + 1) num result).result = some (-1) ∧
        loggedItems env file table (left + 1) num = [num]) ∨
      ∃ key, keyOf (itemAt table num) = some key ∧ InImage file (itemAt table num) ∧ LoopInside file table left (num + 1) ∧
        itemLoop env file table (left + 1) num result =
          ⟨⟨key.key, key.change (payload file (itemAt table num))⟩ :: (itemLoop env file table left (num + 1) 0).writes,
            (itemLoop env file table left (num + 1) 0).result⟩ ∧
        loggedItems env file table (left + 1) num = num :: loggedItems env file table left (num + 1) := by
  obtain ⟨room, _, rest⟩ := inside
  have handled := handle_key (env.item num) file (itemAt table num)
  rw [itemLoop, loggedItems, if_neg (Nat.not_lt_of_le room), if_neg (Nat.not_lt_of_le room)]
  cases kind : keyOf (itemAt table num) with
  | none =>
      rw [kind] at rest handled
      rw [handled]
      exact .inl ⟨rfl, rest, rfl, rfl⟩
  | some key =>
      rw [kind] at rest handled
      obtain ⟨fits, onward⟩ := rest
      rcases handled with failed | delivered
      · rw [failed]
        exact .inr (.inl ⟨rfl, rfl⟩)
      · rcases deliver_cases (env.item num) file (itemAt table num) key.key key.change fits with
          ⟨_, failed⟩ | ⟨whole, outcome, writes, done, single⟩
        · rw [delivered, failed]
          exact .inr (.inl ⟨rfl, rfl⟩)
        · rw [delivered, done]
          dsimp only
          by_cases good : outcome = 0
          · subst good
            rw [single rfl]
            exact .inr (.inr ⟨key, rfl, whole, onward whole, rfl, rfl⟩)
          · rw [if_pos good, if_pos good]
            exact .inr (.inl ⟨rfl, rfl⟩)

theorem loop_inside (env : ImgEnv) (memory : Nat → UInt8) (left num : Nat) (result : Int)
    (inside : LoopInside file table left num) :
    (itemLoop env file table left num result).result ≠ none ∧
      ∀ i ∈ loggedItems env file table left num, 0 ∈ (headMemory table memory).drop (itemHeadSz * i + 16) := by
  induction left generalizing num result with
  | zero => exact ⟨by simp [itemLoop], fun i member => absurd member List.not_mem_nil⟩
  | succ left ih =>
      have here := nul_logged table memory _ inside.2.1
      have logged (later : List Nat)
          (others : ∀ i ∈ later, 0 ∈ (headMemory table memory).drop (itemHeadSz * i + 16)) :
          ∀ i ∈ num :: later, 0 ∈ (headMemory table memory).drop (itemHeadSz * i + 16) := by
        intro i member
        rcases List.mem_cons.mp member with rfl | other
        · exact here
        · exact others i other
      rcases item_loop_step file table env left num result inside with
        ⟨_, rest, loop, log⟩ | ⟨ended, log⟩ | ⟨_, _, _, rest, loop, log⟩
      · rw [loop, log]
        exact ⟨(ih (num + 1) result rest).1, logged _ (ih (num + 1) result rest).2⟩
      · rw [ended, log]
        exact ⟨by simp, logged _ fun i member => absurd member List.not_mem_nil⟩
      · rw [loop, log]
        exact ⟨(ih (num + 1) 0 rest).1, logged _ (ih (num + 1) 0 rest).2⟩

-- A loop that ends in success has handed on every key item.
theorem loop_success (env : ImgEnv) (left num : Nat) (result : Int) (inside : LoopInside file table left num)
    (success : (itemLoop env file table left num result).result = some 0) :
    (∀ i, num ≤ i → i < num + left → keyOf (itemAt table i) ≠ none → InImage file (itemAt table i)) ∧
      ∀ write ∈ (itemLoop env file table left num result).writes, ∃ i, num ≤ i ∧ i < num + left ∧
        ∃ key ∈ keyOf (itemAt table i), write = ⟨key.key, key.change (payload file (itemAt table i))⟩ := by
  induction left generalizing num result with
  | zero =>
      refine ⟨fun i least most => by omega, fun write member => ?_⟩
      simp [itemLoop] at member
  | succ left ih =>
      rcases item_loop_step file table env left num result inside with
        ⟨kind, rest, loop, _⟩ | ⟨ended, _⟩ | ⟨key, kind, here, rest, loop, _⟩
      · rw [loop] at success ⊢
        obtain ⟨whole, written⟩ := ih (num + 1) result rest success
        refine ⟨fun i least most isKey => ?_, fun write member => ?_⟩
        · rcases Nat.eq_or_lt_of_le least with rfl | beyond
          · exact absurd kind isKey
          · exact whole i beyond (by omega) isKey
        · obtain ⟨i, least, most, same⟩ := written write member
          exact ⟨i, by omega, by omega, same⟩
      · rw [ended] at success
        cases success
      · rw [loop] at success ⊢
        obtain ⟨whole, written⟩ := ih (num + 1) 0 rest success
        refine ⟨fun i least most isKey => ?_, fun write member => ?_⟩
        · rcases Nat.eq_or_lt_of_le least with rfl | beyond
          · exact here
          · exact whole i beyond (by omega) isKey
        · rcases List.mem_cons.mp member with now | later
          · exact ⟨num, Nat.le_refl _, by omega, key, kind, now⟩
          · obtain ⟨i, least, most, same⟩ := written write later
            exact ⟨i, by omega, by omega, same⟩

-- Surroundings in which nothing fails but what the image makes fail.
def agreeable (env : ImgEnv) : ImgEnv :=
  { path := true, opened := true, itemReadBuf := true, crcBuf := env.crcBuf, heap := env.heap,
    item := fun _ => ⟨true, true, true, true, some true, [0x31]⟩ }

theorem handle_agreeable (item : AmlResItemHead) (key : KeyItem) (kind : keyOf item = some key) :
    handleItem ⟨true, true, true, true, some true, [0x31]⟩ file item =
      some (deliver ⟨true, true, true, true, some true, [0x31]⟩ file item key.key key.change) := by
  simp only [keyOf] at kind
  simp only [handleItem, Bool.true_eq_false, if_false]
  split at kind
  · rename_i rxPrivate
    cases kind
    rw [if_pos rxPrivate]
  rename_i notPrivate
  rw [if_neg notPrivate]
  split at kind
  · rename_i rx
    cases kind
    rw [if_pos rx]
  rename_i notRx
  rw [if_neg notRx]
  split at kind
  · rename_i fw
    cases kind
    rw [if_pos fw]
  · cases kind

theorem agreeable_inside (env : ImgEnv) (left num : Nat) (result : Int)
    (defined : (itemLoop (agreeable env) file table left num result).result ≠ none)
    (ended : ∀ i ∈ loggedItems (agreeable env) file table left num, 0 ∈ table.drop (itemHeadSz * i + 16)) :
    LoopInside file table left num := by
  induction left generalizing num result with
  | zero => trivial
  | succ left ih =>
      rw [itemLoop] at defined
      rw [loggedItems] at ended
      by_cases past : table.length < itemHeadSz * (num + 1)
      · rw [if_pos past] at defined
        exact absurd rfl defined
      rw [if_neg past] at defined ended
      refine ⟨Nat.le_of_not_lt past, ended num List.mem_cons_self, ?_⟩
      have handled := handle_key ((agreeable env).item num) file (itemAt table num)
      cases kind : keyOf (itemAt table num) with
      | none =>
          rw [kind] at handled
          simp only [handled] at defined ended
          exact ih (num + 1) result defined fun i member => ended i (List.mem_cons_of_mem _ member)
      | some key =>
          have delivered : handleItem ((agreeable env).item num) file (itemAt table num) = _ :=
            handle_agreeable file (itemAt table num) key kind
          simp only [delivered] at defined ended
          by_cases overflow : ((itemAt table num).dataSz + 4).toNat < (payload file (itemAt table num)).length
          · have undefined_ : deliver ⟨true, true, true, true, some true, [0x31]⟩ file (itemAt table num) key.key
                key.change = .undefined := if_pos overflow
            rw [undefined_] at defined
            exact absurd rfl defined
          · refine ⟨Nat.le_of_not_lt overflow, fun whole => ?_⟩
            have done : deliver ⟨true, true, true, true, some true, [0x31]⟩ file (itemAt table num) key.key key.change =
                .done [⟨key.key, key.change (payload file (itemAt table num))⟩] 0 :=
              deliver_willing file (itemAt table num) key.key key.change ⟨whole, whole ▸ Nat.le_of_not_lt overflow⟩
            rw [done] at defined ended
            exact ih (num + 1) 0 defined fun i member => ended i (List.mem_cons_of_mem _ member)

theorem agreeable_success (env : ImgEnv) (left num : Nat) (result : Int) (inside : LoopInside file table left num)
    (whole : ∀ i, num ≤ i → i < num + left → keyOf (itemAt table i) ≠ none → InImage file (itemAt table i)) :
    ((result = 0 ∨ ∃ i, num ≤ i ∧ i < num + left ∧ keyOf (itemAt table i) ≠ none) →
      (itemLoop (agreeable env) file table left num result).result = some 0) ∧
      ∀ i, num ≤ i → i < num + left → ∀ key ∈ keyOf (itemAt table i),
        ⟨key.key, key.change (payload file (itemAt table i))⟩ ∈ (itemLoop (agreeable env) file table left num result).writes := by
  induction left generalizing num result with
  | zero =>
      refine ⟨?_, fun i least most => by omega⟩
      rintro (zero | ⟨i, least, most, _⟩)
      · rw [itemLoop, zero]
      · omega
  | succ left ih =>
      obtain ⟨room, _, rest⟩ := inside
      have handled := handle_key ((agreeable env).item num) file (itemAt table num)
      rw [itemLoop, if_neg (Nat.not_lt_of_le room)]
      have others : ∀ i, num + 1 ≤ i → i < num + 1 + left → keyOf (itemAt table i) ≠ none →
          InImage file (itemAt table i) := fun i least most => whole i (by omega) (by omega)
      cases kind : keyOf (itemAt table num) with
      | none =>
          rw [kind] at rest handled
          simp only [handled]
          obtain ⟨ends, written⟩ := ih (num + 1) result rest others
          refine ⟨?_, fun i least most key isKey => ?_⟩
          · rintro (zero | ⟨i, least, most, isKey⟩)
            · exact ends (.inl zero)
            · rcases Nat.eq_or_lt_of_le least with rfl | beyond
              · exact absurd kind isKey
              · exact ends (.inr ⟨i, beyond, by omega, isKey⟩)
          · rcases Nat.eq_or_lt_of_le least with rfl | beyond
            · exact absurd (kind.symm.trans isKey) (by simp)
            · exact written i beyond (by omega) key isKey
      | some key =>
          rw [kind] at rest
          obtain ⟨fits, onward⟩ := rest
          have here : InImage file (itemAt table num) := whole num (Nat.le_refl _) (by omega) (by simp [kind])
          have delivered : handleItem ((agreeable env).item num) file (itemAt table num) = _ :=
            handle_agreeable file (itemAt table num) key kind
          have done := deliver_willing file (itemAt table num) key.key key.change ⟨here, here ▸ fits⟩
          simp only [delivered, done, ne_eq, not_true_eq_false, if_false]
          obtain ⟨ends, written⟩ := ih (num + 1) 0 (onward here) others
          refine ⟨fun _ => ends (.inl rfl), fun i least most other isKey => ?_⟩
          rcases Nat.eq_or_lt_of_le least with rfl | beyond
          · cases Option.some.inj (kind.symm.trans isKey)
            exact List.mem_append_left _ List.mem_cons_self
          · exact List.mem_append_right _ (written i beyond (by omega) other isKey)

end

theorem set_img_loop (env : ImgEnv) (file : Bytes) (header : imgHeadSz ≤ file.length)
    (magic : (imgHead file).magic = amlResImgV1Magic) (reaches : ReachesLoop env file) :
    setImgPath env file = itemLoop env file (itemTable file) (imgHead file).imgItemNum.toNat 0 (-1) := by
  obtain ⟨path, opened, itemReadBuf, summed, fits, read⟩ := reaches
  rw [Accepted] at summed
  rw [itemTable] at fits read
  simp only [setImgPath, path, opened, itemReadBuf, Bool.true_eq_false, if_false]
  rw [if_neg (Nat.not_lt_of_le header), if_neg (not_not_intro magic), if_neg (not_not_intro summed),
    if_neg (Nat.not_lt_of_le fits), if_neg (not_not_intro read)]
  rfl

theorem set_img_stops (env : ImgEnv) (file : Bytes) (fits : imgHeadSz + (itemTable file).length ≤ itemReadBufSz)
    (stops : ¬ ReachesLoop env file) : (setImgPath env file).result = some (-1) := by
  have table : readItems file (itemHeadsSz (imgHead file).imgItemNum) = itemTable file := rfl
  simp only [setImgPath, table]
  by_cases path : env.path = false
  · rw [if_pos path]
  rw [if_neg path]
  by_cases opened : env.opened = false
  · rw [if_pos opened]
  rw [if_neg opened]
  by_cases itemReadBuf : env.itemReadBuf = false
  · rw [if_pos itemReadBuf]
  rw [if_neg itemReadBuf]
  split
  · rfl
  split
  · rfl
  split
  · rfl
  rename_i _ _ summed
  rw [if_neg (Nat.not_lt_of_le fits)]
  split
  · rfl
  · rename_i read
    exact absurd ⟨eq_true_of_ne_false path, eq_true_of_ne_false opened,
      eq_true_of_ne_false itemReadBuf, not_not.mp summed, fits, not_not.mp read⟩ stops

theorem written_memory (table : Bytes) (offset : Nat) (ended : 0 ∈ (headMemory table fun _ => 1).drop offset) :
    0 ∈ table.drop offset := by
  rw [headMemory, List.drop_append] at ended
  rcases List.mem_append.mp ended with inside | beyond
  · exact inside
  · obtain ⟨i, _, zero⟩ := List.mem_map.mp (List.mem_of_mem_drop beyond)
    exact absurd zero (by decide)

theorem named_same (name first second : Bytes) (firstNoNul : 0 ∉ first) (secondNoNul : 0 ∉ second)
    (here : named name first = true) (also : named name second = true) : first = second :=
  (named_text name first firstNoNul here).symm.trans (named_text name second secondNoNul also)

theorem key_named (item : AmlResItemHead) (key : KeyItem) (kind : keyOf item = some key) :
    named item.name key.item = true := by
  simp only [keyOf] at kind
  split at kind
  · rename_i rxPrivate
    cases kind
    exact rxPrivate
  split at kind
  · rename_i rx
    cases kind
    exact rx
  split at kind
  · rename_i fw
    cases kind
    exact fw
  · cases kind

theorem key_private (item : AmlResItemHead) (rxPrivate : named item.name hdcpRxPrivate = true) :
    keyOf item = some ⟨hdcpRxPrivate, hdcpRxPrivate, hdcp2DataDecryption⟩ := if_pos rxPrivate

-- No name starts with two of the three.
theorem key_of_named (item other : AmlResItemHead) (key : KeyItem) (kind : keyOf item = some key)
    (same : named other.name key.item = true) : keyOf other = some key := by
  have apart (first second : Bytes) (different : first ≠ second) (firstNoNul : 0 ∉ first) (secondNoNul : 0 ∉ second)
      (here : named other.name first = true) : ¬ named other.name second = true := fun also =>
    different (named_same other.name first second firstNoNul secondNoNul here also)
  simp only [keyOf] at kind
  split at kind
  · cases kind
    exact key_private other same
  split at kind
  · cases kind
    rw [keyOf, if_neg (apart hdcpRx hdcpRxPrivate (by decide) (by decide) (by decide) same), if_pos same]
  split at kind
  · cases kind
    rw [keyOf, if_neg (apart hdcpRxFw hdcpRxPrivate (by decide) (by decide) (by decide) same),
      if_neg (apart hdcpRxFw hdcpRx (by decide) (by decide) (by decide) same), if_pos same]
  · cases kind

theorem data_change_twice (byte : UInt8) : generalDataChange (generalDataChange byte) = byte := by
  have all : ∀ n < 256, generalDataChange (generalDataChange (.ofNat n)) = UInt8.ofNat n := by decide +kernel
  have here := all byte.toNat byte.toNat_lt
  rwa [UInt8.ofNat_toNat] at here

theorem decryption_injective : Function.Injective hdcp2DataDecryption :=
  List.map_injective_iff.mpr (Function.LeftInverse.injective data_change_twice)

theorem change_injective (item : AmlResItemHead) (key : KeyItem) (kind : keyOf item = some key) :
    Function.Injective key.change := by
  simp only [keyOf] at kind
  split at kind
  · cases kind
    exact decryption_injective
  split at kind
  · cases kind
    exact Function.injective_id
  split at kind
  · cases kind
    exact Function.injective_id
  · cases kind

theorem decryption_fixed (data : Bytes) :
    hdcp2DataDecryption data = data ↔ ∀ byte ∈ data, generalDataChange byte = byte := by
  induction data with
  | nil => exact iff_of_true rfl fun byte member => absurd member List.not_mem_nil
  | cons byte rest ih =>
      rw [List.forall_mem_cons, ← ih]
      exact List.cons_eq_cons

theorem change_fixed (item : AmlResItemHead) (key : KeyItem) (kind : keyOf item = some key) (data : Bytes)
    (turned : named item.name hdcpRxPrivate = true → ∀ byte ∈ data, generalDataChange byte = byte) :
    key.change data = data := by
  simp only [keyOf] at kind
  split at kind
  · rename_i rxPrivate
    cases kind
    exact (decryption_fixed data).mpr (turned rxPrivate)
  split at kind
  · cases kind
    rfl
  split at kind
  · cases kind
    rfl
  · cases kind

theorem table_item (file : Bytes) (i : Nat) (room : itemHeadSz * (i + 1) ≤ (itemTable file).length) :
    imageItem file i = itemAt (itemTable file) i ∧ imgHeadSz + itemHeadSz * (i + 1) ≤ file.length := by
  have part : (file.drop imgHeadSz).take (itemTable file).length = itemTable file := by
    simp only [itemTable, readItems]
    split
    · rw [List.take_length]
    · rw [List.length_take, List.take_eq_take_iff]
      omega
  refine ⟨item_at_covered _ _ i (itemTable file).length room (by rw [part, List.take_length]), ?_⟩
  have most := congrArg List.length part
  rw [List.length_take, List.length_drop] at most
  have positive : 0 < itemHeadSz * (i + 1) := Nat.mul_pos (by decide) (Nat.add_one_pos i)
  omega

theorem loop_inside_at (file table : Bytes) (left num : Nat) (inside : LoopInside file table left num)
    (whole : ∀ i, num ≤ i → i < num + left → keyOf (itemAt table i) ≠ none → InImage file (itemAt table i)) :
    ∀ i, num ≤ i → i < num + left → itemHeadSz * (i + 1) ≤ table.length := by
  induction left generalizing num with
  | zero => exact fun i least most => by omega
  | succ left ih =>
      obtain ⟨room, _, rest⟩ := inside
      intro i least most
      rcases Nat.eq_or_lt_of_le least with rfl | beyond
      · exact room
      · refine ih (num + 1) ?_ (fun j least most => whole j (by omega) (by omega)) i beyond (by omega)
        cases kind : keyOf (itemAt table num) with
        | none =>
            rw [kind] at rest
            exact rest
        | some key =>
            rw [kind] at rest
            exact rest.2 (whole num (Nat.le_refl _) (by omega) (by simp [kind]))

section
variable (file : Bytes) (inside : LoopInside file (itemTable file) (imgHead file).imgItemNum.toNat 0)
  (whole : ∀ i < (imgHead file).imgItemNum.toNat, keyOf (itemAt (itemTable file) i) ≠ none →
    InImage file (itemAt (itemTable file) i))

include inside whole

-- The item that the image has under the name of a key item.
theorem handed_first (i : Nat) (bound : i < (imgHead file).imgItemNum.toNat) (key : KeyItem)
    (kind : keyOf (itemAt (itemTable file) i) = some key) :
    ∃ j < (imgHead file).imgItemNum.toNat, keyOf (itemAt (itemTable file) j) = some key ∧
      ∀ data, HandedOut file key.item data ↔ data = payload file (itemAt (itemTable file) j) := by
  have room (j : Nat) (bound : j < (imgHead file).imgItemNum.toNat) :=
    table_item file j (loop_inside_at file (itemTable file) _ 0 inside (fun i _ most => whole i (by omega)) j
      (Nat.zero_le _) (by omega))
  obtain ⟨here, head⟩ := room i bound
  have holds : hasName file key.item i = true := by
    rw [hasName, decide_eq_true head, here, key_named _ key kind]
    rfl
  obtain ⟨j, least, first, also⟩ := first_named_exists file key.item i bound holds
  obtain ⟨there, _⟩ := room j (by omega)
  rw [hasName, Bool.and_eq_true, there] at also
  have same := key_of_named _ (itemAt (itemTable file) j) key kind also.2
  refine ⟨j, by omega, same, fun data => ?_⟩
  rw [HandedOut]
  constructor
  · rintro ⟨other, found, _, rfl⟩
    cases first.symm.trans found
    rw [there]
  · rintro rfl
    exact ⟨j, first, there ▸ whole j (by omega) (by simp [same]), by rw [there]⟩

theorem keys_handed_iff :
    (∀ i < (imgHead file).imgItemNum.toNat, ∀ key ∈ keyOf (itemAt (itemTable file) i),
        HandedOut file key.item (key.change (payload file (itemAt (itemTable file) i)))) ↔
      KeysAlike file (itemTable file) (imgHead file).imgItemNum.toNat := by
  constructor
  · intro handed _
    -- The first item of a name answers for all of them: it is handed on as well.
    have data (i : Nat) (bound : i < (imgHead file).imgItemNum.toNat) (key : KeyItem)
        (kind : keyOf (itemAt (itemTable file) i) = some key) :
        ∃ first, key.change first = first ∧ payload file (itemAt (itemTable file) i) = first ∧
          HandedOut file key.item first := by
      obtain ⟨j, within_, same, alone⟩ := handed_first file inside whole i bound key kind
      have fixed := (alone _).mp (handed j within_ key same)
      have turned := (alone _).mp (handed i bound key kind)
      exact ⟨_, fixed, change_injective _ key kind (turned.trans fixed.symm), (alone _).mpr rfl⟩
    refine ⟨fun i bound key kind j within_ same => ?_, fun i bound rxPrivate byte member => ?_⟩
    · obtain ⟨_, _, there, otherHanded⟩ := data j within_ key (key_of_named _ _ key kind same)
      obtain ⟨_, _, here, handed⟩ := data i bound key kind
      obtain ⟨_, _, _, alone⟩ := handed_first file inside whole i bound key kind
      rw [there, here, (alone _).mp otherHanded, (alone _).mp handed]
    · obtain ⟨first, fixed, here, _⟩ := data i bound _ (key_private _ rxPrivate)
      rw [here] at member
      exact (decryption_fixed first).mp fixed byte member
  · intro alike i bound key kind
    obtain ⟨same, turned⟩ := alike whole
    obtain ⟨j, within_, there, alone⟩ := handed_first file inside whole i bound key kind
    rw [alone, change_fixed _ key kind _ (turned i bound)]
    exact same j within_ key there i bound (key_named _ key kind)

end

theorem set_img_reads_iff (file : Bytes) (accepted : SetImgAccepts file) : SetImgReads file ↔ SetImgInside file := by
  obtain ⟨header, magic, env, summed⟩ := accepted
  constructor
  · intro reads
    have fits : imgHeadSz + (itemTable file).length ≤ itemReadBufSz := by
      by_contra overflow
      refine (reads (agreeable env) fun _ => 1).1 ?_
      have table : readItems file (itemHeadsSz (imgHead file).imgItemNum) = itemTable file := rfl
      have passes : ¬ (imgHead file).crc ≠ calcImgCrc (agreeable env).crcBuf (agreeable env).heap file 4
          ((imgHead file).imgSz - 4) := not_not_intro summed
      simp only [setImgPath, table]
      rw [if_neg Bool.noConfusion, if_neg Bool.noConfusion, if_neg Bool.noConfusion, if_neg (Nat.not_lt_of_le header),
        if_neg (not_not_intro magic), if_neg passes, if_pos (Nat.lt_of_not_le overflow)]
    refine ⟨fits, fun read => ?_⟩
    have reaches : ReachesLoop (agreeable env) file := ⟨rfl, rfl, rfl, summed, fits, read⟩
    obtain ⟨defined, logged, honest⟩ := reads (agreeable env) fun _ => 1
    rw [set_img_loop _ file header magic reaches] at defined honest
    have inside := agreeable_inside file (itemTable file) env _ 0 (-1) defined fun i member =>
      written_memory _ _ (logged reaches i member)
    refine ⟨inside, fun whole => (keys_handed_iff file inside whole).mp (fun i bound key kind => ?_) whole⟩
    obtain ⟨ends, written⟩ := agreeable_success file (itemTable file) env _ 0 (-1) inside fun j _ most =>
      whole j (by omega)
    have success := ends (.inr ⟨i, Nat.zero_le _, by omega, by rw [kind]; simp⟩)
    have handed := honest success _ (written i (Nat.zero_le _) (by omega) key kind)
    rwa [requested_key _ key kind] at handed
  · rintro ⟨fits, rest⟩ other memory
    by_cases reaches : ReachesLoop other file
    · obtain ⟨inside, honest⟩ := rest reaches.read
      obtain ⟨defined, logged⟩ := loop_inside file (itemTable file) other memory _ 0 (-1) inside
      rw [set_img_loop other file header magic reaches]
      refine ⟨defined, fun _ => logged, fun success write member => ?_⟩
      obtain ⟨whole, written⟩ := loop_success file (itemTable file) other _ 0 (-1) inside success
      obtain ⟨i, _, bound, key, kind, rfl⟩ := written write member
      have handed := (keys_handed_iff file inside fun j less => whole j (Nat.zero_le _) (by omega)).mpr honest i (by omega)
        key kind
      rwa [← requested_key _ key kind] at handed
    · have stops := set_img_stops other file fits reaches
      rw [stops]
      exact ⟨by simp, fun reached => absurd reached reaches, fun success => by simp at success⟩

end Droidlogic.Hdcp
