import Mathlib.Data.List.Forall2
import Droidlogic.Lib.Run
import Droidlogic.Fbc.Image

set_option autoImplicit false

namespace Droidlogic.Fbc

open Droidlogic.Lib

-- A round of the inner loop: what was sent and what uartReadStream returned.
structure Block where
  start : Int
  count : Int
  command : Bytes
  data : Bytes
  crc : Bytes
  answer : Bytes
deriving DecidableEq

-- Before the condition of the for loop, before that of the while loop, in the
-- body of the while loop, and after the last report.
inductive Position
  | outer
  | inner
  | block
  | finished
deriving DecidableEq

-- sections are those from itor on, reports the codes the observer is given and
-- acked the rounds counted as written.
structure Transfer where
  position : Position
  sections : List SectionInfo
  start : Int
  length : Int
  currentWriteLength : Int
  reSendTimes : Nat
  ret : Bool
  ret_code : Int
  exitPending : Bool
  reports : List Int
  acked : List Block
deriving DecidableEq

def beginTransfer (sections : List SectionInfo) : Transfer :=
  ⟨.outer, sections, 0, 0, 0, 0, true, 0, false, [], []⟩

-- check is the evaluation of a loop condition, with whether stop was called
-- since the one before; exchange tells which of the three sends wrote all their
-- bytes (writeFile returns -1 otherwise) and what came back.
inductive TransferEvent
  | check (stop : Bool)
  | exchange (cmdSent dataSent crcSent : Bool) (answer : Bytes)
deriving DecidableEq

def upgradeCmd (start count : Int) : Bytes :=
  ascii (['u', 'p', 'g', 'r', 'a', 'd', 'e', ' ', '0', 'x'] ++ Nat.toDigits 16 start.toNat ++ [' ', '0', 'x'] ++
    Nat.toDigits 16 count.toNat) ++ [0x0a]

-- The scan for i < ret_count - 3: a match that ends the answer is not looked at.
def acknowledged : Bytes → Bool
  | a :: b :: c :: d :: rest => (a = 0x5a && b = 0x5a && c = 0x5a) || acknowledged (b :: c :: d :: rest)
  | _ => false

def transferRange (info : SectionInfo) : Int × Int :=
  if 0x49030 = info.start then (0x49000, (info.length + 0x30).bmod (2 ^ 32)) else (info.start, info.length)

def Transfer.requested (t : Transfer) (stop : Bool) : Transfer := { t with exitPending := t.exitPending || stop }

def Transfer.finish (t : Transfer) : Transfer := { t with position := .finished, reports := t.reports ++ [t.ret_code] }

def Transfer.beginSection (t : Transfer) (info : SectionInfo) (rest : List SectionInfo) : Transfer :=
  { t with position := .inner, sections := rest, start := (transferRange info).1, length := (transferRange info).2,
           currentWriteLength := 0 }

def Transfer.outerCheck (t : Transfer) : Transfer :=
  if t.exitPending then t.finish
  else
    match t.sections with
    | [] => t.finish
    | info :: rest => t.beginSection info rest

def Transfer.moved (t : Transfer) (position : Position) : Transfer := { t with position := position }

def Transfer.innerCheck (t : Transfer) : Transfer :=
  if t.exitPending = false ∧ t.currentWriteLength < t.length then t.moved .block else t.moved .outer

def Transfer.blockCount (t : Transfer) (mUpgradeBlockSize : Int) : Int :=
  if mUpgradeBlockSize ≤ t.length - t.currentWriteLength then mUpgradeBlockSize else t.length - t.currentWriteLength

def Transfer.blockWritten (t : Transfer) (block : Block) : Transfer :=
  { t with position := .inner, start := t.start + block.count, currentWriteLength := t.currentWriteLength + block.count,
           reSendTimes := 0, acked := t.acked ++ [block] }

def Transfer.blockRefused (t : Transfer) : Transfer :=
  if 3 < t.reSendTimes + 1 then
    { t with position := .outer, reSendTimes := t.reSendTimes + 1, ret_code := ERR_SERIAL_CONNECT, exitPending := true,
             reports := t.reports ++ [ERR_SERIAL_CONNECT] }
  else
    { t with position := .inner, reSendTimes := t.reSendTimes + 1, reports := t.reports ++ [ERR_SERIAL_CONNECT] }

def Transfer.sendFailed (t : Transfer) : Transfer :=
  { t with position := .inner, ret := false, ret_code := ERR_SERIAL_CONNECT, exitPending := true }

def Transfer.exchangeBlock (t : Transfer) (file : UpgradeFile) (mUpgradeBlockSize : Int) (sent : Bool) (answer : Bytes) :
    Option Transfer :=
  let count := t.blockCount mUpgradeBlockSize
  match file.slice t.start count with
  | none => none
  | some data =>
      if t.ret && sent then
        if acknowledged answer then
          some (t.blockWritten ⟨t.start, count, upgradeCmd t.start count, data, le32 (calcrc32 0 data), answer⟩)
        else some t.blockRefused
      else some t.sendFailed

-- threadLoop from prepare_success on, up to the report of ret_code.
def threadLoopStep (file : UpgradeFile) (mUpgradeBlockSize : Int) (t : Transfer) (event : TransferEvent) : Option Transfer :=
  match t.position with
  | .outer =>
      match event with
      | .check stop => some (t.requested stop).outerCheck
      | .exchange .. => none
  | .inner =>
      match event with
      | .check stop => some (t.requested stop).innerCheck
      | .exchange .. => none
  | .block =>
      match event with
      | .check _ => none
      | .exchange cmdSent dataSent crcSent answer =>
          t.exchangeBlock file mUpgradeBlockSize (cmdSent && dataSent && crcSent) answer
  | .finished => none

theorem thread_loop_cases (file : UpgradeFile) (mUpgradeBlockSize : Int) (t : Transfer) (event : TransferEvent) (next : Transfer)
    (taken : threadLoopStep file mUpgradeBlockSize t event = some next) :
    (∃ stop, t.position = .outer ∧ event = .check stop ∧ next = (t.requested stop).outerCheck) ∨
      (∃ stop, t.position = .inner ∧ event = .check stop ∧ next = (t.requested stop).innerCheck) ∨
      ∃ sent answer, t.position = .block ∧ t.exchangeBlock file mUpgradeBlockSize sent answer = some next := by
  cases position : t.position with
  | outer =>
      cases event with
      | check stop =>
          simp only [threadLoopStep, position, Option.some.injEq] at taken
          exact .inl ⟨stop, rfl, rfl, taken.symm⟩
      | exchange => simp [threadLoopStep, position] at taken
  | inner =>
      cases event with
      | check stop =>
          simp only [threadLoopStep, position, Option.some.injEq] at taken
          exact .inr (.inl ⟨stop, rfl, rfl, taken.symm⟩)
      | exchange => simp [threadLoopStep, position] at taken
  | block =>
      cases event with
      | check => simp [threadLoopStep, position] at taken
      | exchange cmdSent dataSent crcSent answer =>
          simp only [threadLoopStep, position] at taken
          exact .inr (.inr ⟨cmdSent && dataSent && crcSent, answer, rfl, taken⟩)
  | finished => simp [threadLoopStep, position] at taken

def sentFrom (info : SectionInfo) : Int := (transferRange info).1

def sectionEnd (info : SectionInfo) : Int := max (sentFrom info) (info.start + info.length)

structure Sent (file : UpgradeFile) (block : Block) : Prop where
  counted : 0 < block.count
  data : file.slice block.start block.count = some block.data
  command : block.command = upgradeCmd block.start block.count
  crc : block.crc = le32 (calcrc32 0 block.data)
  acknowledged : [0x5a, 0x5a, 0x5a] <:+: block.answer

-- The blocks follow one another from the first position to the last.
inductive Tiles (file : UpgradeFile) (first : Int) : Int → List Block → Prop
  | nil : Tiles file first first []
  | snoc {blocks : List Block} {last : Int} (block : Block) (before : Tiles file first last blocks)
      (adjacent : block.start = last) (sent : Sent file block) :
      Tiles file first (last + block.count) (blocks ++ [block])

def Covered (file : UpgradeFile) (sections : List SectionInfo) (blocks : List Block) : Prop :=
  ∃ parts : List (List Block), blocks = parts.flatten ∧
    List.Forall₂ (fun info part => Tiles file (sentFrom info) (sectionEnd info) part) sections parts

theorem covered_nil (file : UpgradeFile) : Covered file [] [] := ⟨[], rfl, .nil⟩

theorem covered_append (file : UpgradeFile) (first second : List SectionInfo) (before after : List Block)
    (one : Covered file first before) (two : Covered file second after) :
    Covered file (first ++ second) (before ++ after) := by
  obtain ⟨parts, rfl, tiled⟩ := one
  obtain ⟨more, rfl, tiledToo⟩ := two
  exact ⟨parts ++ more, List.flatten_append.symm, List.rel_append tiled tiledToo⟩

theorem covered_section (file : UpgradeFile) (info : SectionInfo) (part : List Block)
    (tiled : Tiles file (sentFrom info) (sectionEnd info) part) : Covered file [info] part :=
  ⟨[part], List.flatten_singleton.symm, .cons tiled .nil⟩

theorem covered_empty (file : UpgradeFile) (sections : List SectionInfo)
    (empty : ∀ info ∈ sections, info.start + info.length ≤ sentFrom info) : Covered file sections [] := by
  induction sections with
  | nil => exact covered_nil file
  | cons info rest ih =>
      have ends : sectionEnd info = sentFrom info := Int.max_eq_left (empty info List.mem_cons_self)
      have here : Covered file [info] [] := covered_section file info [] (ends ▸ .nil)
      exact covered_append file [info] rest [] [] here (ih fun other member => empty other (List.mem_cons_of_mem _ member))

theorem acknowledged_infix (answer : Bytes) (found : acknowledged answer = true) :
    [0x5a, 0x5a, 0x5a] <:+: answer := by
  induction answer with
  | nil => simp [acknowledged] at found
  | cons a rest ih =>
      match rest, ih, found with
      | b :: c :: d :: tail, ih, found =>
          simp only [acknowledged, Bool.or_eq_true, Bool.and_eq_true, decide_eq_true_eq] at found
          rcases found with ⟨⟨rfl, rfl⟩, rfl⟩ | later
          · exact (List.prefix_append _ _).isInfix
          · exact List.infix_cons (ih later)
      | [], _, found => simp [acknowledged] at found
      | [_], _, found => simp [acknowledged] at found
      | [_, _], _, found => simp [acknowledged] at found

def Representable (info : SectionInfo) : Prop := info.start = 0x49030 → info.length < 2 ^ 31 - 0x30

instance (info : SectionInfo) : Decidable (Representable info) := inferInstanceAs (Decidable (_ → _))

theorem transfer_length (info : SectionInfo) (least : -2 ^ 31 ≤ info.length) (fits : Representable info) :
    (transferRange info).2 = info.start + info.length - sentFrom info := by
  by_cases special : 0x49030 = info.start
  · have below := fits special.symm
    rw [sentFrom, transferRange, if_pos special, Int.bmod_eq_of_le (by omega) (by omega)]
    omega
  · rw [sentFrom, transferRange, if_neg special]
    omega

def Unsent (t : Transfer) : Prop :=
  (t.position = .inner ∧ t.currentWriteLength < t.length) ∨ ∃ info ∈ t.sections, sentFrom info < info.start + info.length

instance (t : Transfer) : Decidable (Unsent t) := inferInstanceAs (Decidable (_ ∨ _))

-- stop is not seen while nothing has failed and part of a section is unsent, and
-- the length of a section that is begun stays an int.
def KeepsGoing (t : Transfer) : TransferEvent → Prop
  | .check true => t.ret_code = 0 → ¬ Unsent t
  | .check false => t.position = .outer → t.exitPending = false → ∀ info ∈ t.sections.head?, Representable info
  | .exchange .. => True

instance decidableKeepsGoing (t : Transfer) : (event : TransferEvent) → Decidable (KeepsGoing t event)
  | .check true => inferInstanceAs (Decidable (_ → ¬ Unsent t))
  | .check false => inferInstanceAs (Decidable (_ → _ → ∀ info ∈ t.sections.head?, Representable info))
  | .exchange .. => isTrue trivial

section
variable (file : UpgradeFile) (all : List SectionInfo)

-- The sections before the current one are covered, and it is up to start.
def Sending (t : Transfer) : Prop :=
  ∃ (done : List SectionInfo) (info : SectionInfo) (blocks part : List Block),
    all = done ++ info :: t.sections ∧ Covered file done blocks ∧ t.acked = blocks ++ part ∧
      Tiles file (sentFrom info) t.start part ∧ t.start = sentFrom info + t.currentWriteLength ∧
      t.length = info.start + info.length - sentFrom info ∧ 0 ≤ t.currentWriteLength ∧
      t.currentWriteLength ≤ max 0 t.length

def Account (t : Transfer) : Prop :=
  match t.position with
  | .outer => ∃ done, all = done ++ t.sections ∧ Covered file done t.acked
  | .inner => Sending file all t
  | .block => Sending file all t ∧ t.currentWriteLength < t.length ∧ t.exitPending = false
  | .finished => Covered file all t.acked

structure Honest (t : Transfer) : Prop where
  account : t.ret_code = 0 → Account file all t
  stopped : t.ret_code = 0 → t.exitPending = true → ¬ Unsent t
  told : t.position = .finished → t.reports.getLast? = some t.ret_code

theorem begin_honest : Honest file all (beginTransfer all) where
  account := fun _ => ⟨[], rfl, covered_nil file⟩
  stopped := fun _ exit => by simp [beginTransfer] at exit
  told := fun finished => by simp [beginTransfer] at finished

theorem not_requested (t : Transfer) (stop : Bool) (going : KeepsGoing t (.check stop))
    (stopped : t.ret_code = 0 → t.exitPending = true → ¬ Unsent t) (good : t.ret_code = 0)
    (exit : (t.requested stop).exitPending = true) : ¬ Unsent t := by
  cases stop with
  | true => exact going good
  | false => exact stopped good (by simpa [Transfer.requested] using exit)

theorem finish_honest (t : Transfer)
    (account : t.ret_code = 0 → ∃ done, all = done ++ t.sections ∧ Covered file done t.acked)
    (nothing : t.ret_code = 0 → ∀ info ∈ t.sections, info.start + info.length ≤ sentFrom info) :
    Honest file all t.finish where
  account := fun good => by
    obtain ⟨done, rfl, covered⟩ := account good
    have rest := covered_empty file t.sections (nothing good)
    simpa [Account, Transfer.finish] using covered_append file done t.sections t.acked [] covered rest
  stopped := fun good _ unsent => by
    rcases unsent with ⟨inner, _⟩ | ⟨info, member, more⟩
    · cases inner
    · exact absurd (nothing good info member) (Int.not_le.mpr more)
  told := fun _ => List.getLast?_concat

theorem begin_section_sending (t : Transfer) (info : SectionInfo) (rest done : List SectionInfo)
    (least : -2 ^ 31 ≤ info.length) (fits : Representable info) (split : all = done ++ info :: rest)
    (covered : Covered file done t.acked) : Sending file all (t.beginSection info rest) :=
  ⟨done, info, t.acked, [], split, covered, (List.append_nil _).symm, .nil, (Int.add_zero _).symm,
    transfer_length info least fits, Int.le_refl 0, Int.le_max_left 0 _⟩

theorem outer_honest (t : Transfer) (stop : Bool) (least : ∀ info ∈ all, -2 ^ 31 ≤ info.length)
    (outer : t.position = .outer) (honest : Honest file all t) (going : KeepsGoing t (.check stop)) :
    Honest file all (t.requested stop).outerCheck := by
  have account : t.ret_code = 0 → ∃ done, all = done ++ t.sections ∧ Covered file done t.acked := by
    intro good
    have held := honest.account good
    rwa [Account, outer] at held
  cases exit : (t.requested stop).exitPending with
  | true =>
      rw [Transfer.outerCheck, if_pos exit]
      refine finish_honest file all _ account fun good info member => Int.not_lt.mp fun more => ?_
      exact not_requested t stop going honest.stopped good exit (.inr ⟨info, member, more⟩)
  | false =>
      have running : t.exitPending = false ∧ stop = false := by simpa [Transfer.requested] using exit
      obtain ⟨pending, rfl⟩ := running
      rw [Transfer.outerCheck, if_neg (by simp [exit])]
      cases sections : t.sections with
      | nil =>
          have none : (t.requested false).sections = [] := sections
          rw [none]
          exact finish_honest file all _ account fun _ info member => by simp [none] at member
      | cons info rest =>
          have head : (t.requested false).sections = info :: rest := sections
          rw [head]
          have fits : Representable info := going outer pending info (by simp [sections])
          refine ⟨fun good => ?_, fun _ exiting => ?_, fun finished => by cases finished⟩
          · obtain ⟨done, split, covered⟩ := account good
            rw [sections] at split
            have member : info ∈ all := by simp [split]
            exact begin_section_sending file all _ info rest done (least info member) fits split covered
          · exact absurd (exit.symm.trans exiting) Bool.false_ne_true

theorem sending_done (t : Transfer) (sending : Sending file all t) (complete : t.length ≤ t.currentWriteLength) :
    ∃ done, all = done ++ t.sections ∧ Covered file done t.acked := by
  obtain ⟨done, info, blocks, part, split, covered, acked, tiled, start, length, nonneg, most⟩ := sending
  have ends : t.start = sectionEnd info := by
    rw [sectionEnd]
    omega
  have whole := covered_append file done [info] blocks part covered (covered_section file info part (ends ▸ tiled))
  exact ⟨done ++ [info], by rw [split, List.append_assoc, List.singleton_append], acked ▸ whole⟩

theorem inner_honest (t : Transfer) (stop : Bool) (inner : t.position = .inner) (honest : Honest file all t)
    (going : KeepsGoing t (.check stop)) : Honest file all (t.requested stop).innerCheck := by
  have account : t.ret_code = 0 → Sending file all t := by
    intro good
    have held := honest.account good
    rwa [Account, inner] at held
  have stopped := not_requested t stop going honest.stopped
  by_cases more : (t.requested stop).exitPending = false ∧ (t.requested stop).currentWriteLength < (t.requested stop).length
  · rw [Transfer.innerCheck, if_pos more]
    exact ⟨fun good => ⟨account good, more.2, more.1⟩, fun _ exiting => absurd (more.1.symm.trans exiting) Bool.false_ne_true,
      fun finished => by cases finished⟩
  · rw [Transfer.innerCheck, if_neg more]
    refine ⟨fun good => ?_, fun good exiting unsent => ?_, fun finished => by cases finished⟩
    · refine sending_done file all t (account good) (Int.not_lt.mp fun short => more ⟨?_, short⟩)
      exact Bool.eq_false_iff.mpr fun exit => stopped good exit (.inl ⟨inner, short⟩)
    · rcases unsent with ⟨other, _⟩ | later
      · cases other
      · exact stopped good exiting (.inr later)

theorem block_count_bounds (t : Transfer) (mUpgradeBlockSize : Int) (size : 0 < mUpgradeBlockSize)
    (more : t.currentWriteLength < t.length) :
    0 < t.blockCount mUpgradeBlockSize ∧ t.currentWriteLength + t.blockCount mUpgradeBlockSize ≤ t.length := by
  by_cases full : mUpgradeBlockSize ≤ t.length - t.currentWriteLength
  · rw [Transfer.blockCount, if_pos full]
    omega
  · rw [Transfer.blockCount, if_neg full]
    omega

theorem written_sending (t : Transfer) (block : Block) (sending : Sending file all t) (here : block.start = t.start)
    (sent : Sent file block) (room : t.currentWriteLength + block.count ≤ t.length) :
    Sending file all (t.blockWritten block) := by
  obtain ⟨done, info, blocks, part, split, covered, acked, tiled, start, length, nonneg, most⟩ := sending
  have positive := sent.counted
  refine ⟨done, info, blocks, part ++ [block], split, covered, ?_, .snoc block tiled here sent, ?_, length, ?_, ?_⟩
  · rw [Transfer.blockWritten, acked, List.append_assoc]
  · simp only [Transfer.blockWritten]
    omega
  · simp only [Transfer.blockWritten]
    omega
  · simp only [Transfer.blockWritten]
    omega

theorem failed_honest (t : Transfer) (failed : t.ret_code ≠ 0) (running : t.position ≠ .finished) : Honest file all t :=
  ⟨fun good => absurd good failed, fun good => absurd good failed, fun finished => absurd finished running⟩

theorem refused_honest (t : Transfer) (account : t.ret_code = 0 → Sending file all t ∧ t.exitPending = false) :
    Honest file all t.blockRefused := by
  by_cases often : 3 < t.reSendTimes + 1
  · rw [Transfer.blockRefused, if_pos often]
    exact failed_honest file all _ (by simp [ERR_SERIAL_CONNECT]) (by simp)
  · rw [Transfer.blockRefused, if_neg often]
    exact ⟨fun good => (account good).1, fun good exiting => absurd ((account good).2.symm.trans exiting) Bool.false_ne_true,
      fun finished => by cases finished⟩

theorem block_honest (t next : Transfer) (mUpgradeBlockSize : Int) (sent : Bool) (answer : Bytes)
    (size : 0 < mUpgradeBlockSize) (block : t.position = .block) (honest : Honest file all t)
    (taken : t.exchangeBlock file mUpgradeBlockSize sent answer = some next) : Honest file all next := by
  have account : t.ret_code = 0 → Sending file all t ∧ t.currentWriteLength < t.length ∧ t.exitPending = false := by
    intro good
    have held := honest.account good
    rwa [Account, block] at held
  cases read : file.slice t.start (t.blockCount mUpgradeBlockSize) with
  | none => simp [Transfer.exchangeBlock, read] at taken
  | some data =>
      simp only [Transfer.exchangeBlock, read] at taken
      by_cases whole : (t.ret && sent) = true
      · rw [if_pos whole] at taken
        by_cases confirmed : acknowledged answer = true
        · rw [if_pos confirmed, Option.some.injEq] at taken
          subst taken
          refine ⟨fun good => ?_, fun good exiting => ?_, fun finished => by cases finished⟩
          · obtain ⟨sending, more, _⟩ := account good
            obtain ⟨positive, room⟩ := block_count_bounds t mUpgradeBlockSize size more
            exact written_sending file all t _ sending rfl ⟨positive, read, rfl, rfl, acknowledged_infix answer confirmed⟩ room
          · exact absurd ((account good).2.2.symm.trans exiting) Bool.false_ne_true
        · rw [if_neg confirmed, Option.some.injEq] at taken
          exact taken ▸ refused_honest file all t fun good => ⟨(account good).1, (account good).2.2⟩
      · rw [if_neg whole, Option.some.injEq] at taken
        subst taken
        exact failed_honest file all _ (by simp [Transfer.sendFailed, ERR_SERIAL_CONNECT]) (by simp [Transfer.sendFailed])

theorem step_honest (mUpgradeBlockSize : Int) (size : 0 < mUpgradeBlockSize) (least : ∀ info ∈ all, -2 ^ 31 ≤ info.length)
    (t : Transfer) (event : TransferEvent) (next : Transfer) (honest : Honest file all t) (going : KeepsGoing t event)
    (taken : threadLoopStep file mUpgradeBlockSize t event = some next) : Honest file all next := by
  rcases thread_loop_cases file mUpgradeBlockSize t event next taken with
    ⟨stop, outer, rfl, rfl⟩ | ⟨stop, inner, rfl, rfl⟩ | ⟨sent, answer, block, exchanged⟩
  · exact outer_honest file all t stop least outer honest going
  · exact inner_honest file all t stop inner honest going
  · exact block_honest file all t next mUpgradeBlockSize sent answer size block honest exchanged

def total (blocks : List Block) : Int := (blocks.map Block.count).sum

def toSend (sections : List SectionInfo) : Int := (sections.map fun info => sectionEnd info - sentFrom info).sum

theorem to_send_cons (info : SectionInfo) (rest : List SectionInfo) :
    toSend (info :: rest) = max (sentFrom info) (info.start + info.length) - sentFrom info + toSend rest := by
  rw [toSend, List.map_cons, List.sum_cons]
  rfl

theorem to_send_append (first second : List SectionInfo) : toSend (first ++ second) = toSend first + toSend second := by
  rw [toSend, List.map_append, List.sum_append]
  rfl

theorem tiles_total (first last : Int) (blocks : List Block) (tiled : Tiles file first last blocks) :
    total blocks = last - first := by
  induction tiled with
  | nil => exact (Int.sub_self first).symm
  | snoc block before adjacent sent ih =>
      rw [total, List.map_append, List.sum_append, ← total, ih, List.map_singleton, List.sum_singleton]
      omega

theorem covered_total (sections : List SectionInfo) (blocks : List Block) (covered : Covered file sections blocks) :
    total blocks = toSend sections := by
  obtain ⟨parts, rfl, tiled⟩ := covered
  induction tiled with
  | nil => rfl
  | cons here _ ih =>
      rw [List.flatten_cons, total, List.map_append, List.sum_append, ← total, ← total, ih, tiles_total file _ _ _ here,
        toSend, toSend, List.map_cons, List.sum_cons]

theorem to_send_positive (sections : List SectionInfo) :
    0 ≤ toSend sections ∧ ((∃ info ∈ sections, sentFrom info < info.start + info.length) → 0 < toSend sections) := by
  induction sections with
  | nil => exact ⟨Int.le_refl 0, fun ⟨_, member, _⟩ => absurd member List.not_mem_nil⟩
  | cons info rest ih =>
      obtain ⟨nonneg, positive⟩ := ih
      have here := to_send_cons info rest
      refine ⟨by omega, ?_⟩
      rintro ⟨other, member, more⟩
      rcases List.mem_cons.mp member with rfl | later
      · omega
      · have behind := positive ⟨other, later, more⟩
        omega

theorem unsent_incomplete (t : Transfer) (honest : Honest file all t) (good : t.ret_code = 0)
    (waiting : t.position = .outer ∨ t.position = .inner) (unsent : Unsent t) : ¬ Covered file all t.acked := by
  intro covered
  have whole := covered_total file all t.acked covered
  have account := honest.account good
  obtain ⟨nonneg, positive⟩ := to_send_positive t.sections
  rcases waiting with outer | inner
  · rw [Account, outer] at account
    obtain ⟨done, rfl, sent⟩ := account
    rcases unsent with ⟨other, _⟩ | later
    · rw [outer] at other
      cases other
    · have part := covered_total file done t.acked sent
      have rest := positive later
      rw [to_send_append] at whole
      omega
  · rw [Account, inner] at account
    obtain ⟨done, info, blocks, part, rfl, sent, acked, tiled, start, length, least, most⟩ := account
    have before := covered_total file done blocks sent
    have current := tiles_total file _ _ part tiled
    rw [acked, total, List.map_append, List.sum_append, ← total, ← total, to_send_append, to_send_cons] at whole
    rcases unsent with ⟨_, short⟩ | later
    · omega
    · have rest := positive later
      omega

-- The stop that the condition leaves out always ends in a report of 0.
theorem early_stop_told (t : Transfer) (mUpgradeBlockSize : Int) (honest : Honest file all t) (good : t.ret_code = 0)
    (waiting : t.position = .outer ∨ t.position = .inner) (unsent : Unsent t) :
    ∃ more final, run (threadLoopStep file mUpgradeBlockSize) t (.check true :: more) = some final ∧
      final.position = .finished ∧ final.reports.getLast? = some 0 ∧ ¬ Covered file all final.acked := by
  have incomplete := unsent_incomplete file all t honest good waiting unsent
  have told : (t.reports ++ [t.ret_code]).getLast? = some 0 := by rw [good, List.getLast?_concat]
  have exit : (t.requested true).exitPending = true := by simp [Transfer.requested]
  rcases waiting with outer | inner
  · refine ⟨[], (t.requested true).finish, ?_, rfl, told, incomplete⟩
    simp only [run, threadLoopStep, outer, Transfer.outerCheck, exit, if_true, Option.bind_some]
  · refine ⟨[.check false], (((t.requested true).moved .outer).requested false).finish, ?_, rfl, told, incomplete⟩
    have left : ((t.requested true).moved .outer).position = .outer := rfl
    have still : (((t.requested true).moved .outer).requested false).exitPending = true := by
      simp [Transfer.requested, Transfer.moved]
    simp only [run, threadLoopStep, inner, Transfer.innerCheck, exit, Bool.true_eq_false, false_and, if_false,
      Option.bind_some, left, Transfer.outerCheck, still, if_true]

end

theorem success_is_complete (setup : Setup) (file : UpgradeFile) (sections : List SectionInfo)
    (success : prepare setup = some (.ok (file, sections))) (events : List TransferEvent) (final : Transfer)
    (going : Guarded (threadLoopStep file setup.mUpgradeBlockSize) KeepsGoing (beginTransfer sections) events)
    (reached : run (threadLoopStep file setup.mUpgradeBlockSize) (beginTransfer sections) events = some final)
    (finished : final.position = .finished) (told : final.reports.getLast? = some 0) :
    Covered file sections final.acked := by
  obtain ⟨size, loaded⟩ := prepared setup file sections success
  have least : ∀ info ∈ sections, -2 ^ 31 ≤ info.length := by
    rw [(loaded_file setup.access file sections loaded).2]
    exact section_length_least file
  have honest := run_invariant _ KeepsGoing (Honest file sections)
    (step_honest file sections setup.mUpgradeBlockSize (by omega) least) _ _ events (begin_honest file sections) going reached
  have good : final.ret_code = 0 := Option.some.inj ((honest.told finished).symm.trans told)
  have account := honest.account good
  rwa [Account, finished] at account

-- A first boot partition of one byte at 0x44000, and no other partition.
def sampleBytes (offset : Nat) : UInt8 :=
  if offset = 0x41001 then 0x40
  else if offset = 0x41002 then 0x04
  else if offset = 0x41004 then 0x01
  else if offset = 0x41138 then 0x8d
  else if offset = 0x41139 then 0xef
  else if offset = 0x4113a then 0x02
  else if offset = 0x4113b then 0xd2
  else 0

def sampleFile : UpgradeFile := ⟨0x200000, sampleBytes⟩

def sampleSetup : Setup := ⟨true, 0x10000, 0, ⟨true, 0x200000, 0x200000, sampleBytes⟩, true, 0, false⟩

theorem sample_prepared : prepare sampleSetup = some (.ok (sampleFile, initBlocksInfo sampleFile)) := by
  have checked : check_partition sampleFile (getPartitionInfoUpgFile sampleFile .firstBoot) = some true := by decide +kernel
  simp [prepare, loadUpgradeFile, sampleSetup, show (⟨0x200000, sampleBytes⟩ : UpgradeFile) = sampleFile from rfl, checked]

def sampleEvents : List TransferEvent :=
  [.check false, .check false, .exchange true true true [0x5a, 0x5a, 0x5a, 0x00], .check false] ++
    List.replicate 13 (.check false)

theorem success_is_complete_sample :
    ∃ final, run (threadLoopStep sampleFile 0x10000) (beginTransfer (initBlocksInfo sampleFile)) sampleEvents = some final ∧
      Covered sampleFile (initBlocksInfo sampleFile) final.acked := by
  have ends : (run (threadLoopStep sampleFile 0x10000) (beginTransfer (initBlocksInfo sampleFile)) sampleEvents).map
      (fun final => (final.position, final.reports.getLast?)) = some (.finished, some 0) := by decide +kernel
  obtain ⟨final, reached, same⟩ := Option.map_eq_some_iff.mp ends
  have finished := (Prod.mk.inj same).1
  have told := (Prod.mk.inj same).2
  exact ⟨final, reached, success_is_complete sampleSetup sampleFile _ sample_prepared sampleEvents final
    (by decide +kernel) reached finished told⟩

theorem tiles_nothing (file : UpgradeFile) (first last : Int) (blocks : List Block) (tiled : Tiles file first last blocks)
    (nothing : blocks = []) : last = first := by
  cases tiled with
  | nil => rfl
  | snoc => simp at nothing

theorem covered_nothing (file : UpgradeFile) (info : SectionInfo) (rest : List SectionInfo)
    (covered : Covered file (info :: rest) []) : sectionEnd info = sentFrom info := by
  obtain ⟨parts, empty, tiled⟩ := covered
  cases tiled with
  | cons here _ => exact tiles_nothing file _ _ _ here (List.flatten_eq_nil_iff.mp empty.symm _ List.mem_cons_self)

theorem stopped_reports_success :
    ¬ ∀ (setup : Setup) (file : UpgradeFile) (sections : List SectionInfo),
      prepare setup = some (.ok (file, sections)) → ∀ (events : List TransferEvent) (final : Transfer),
        run (threadLoopStep file setup.mUpgradeBlockSize) (beginTransfer sections) events = some final →
          final.position = .finished → final.reports.getLast? = some 0 → Covered file sections final.acked := by
  intro claim
  have covered := claim sampleSetup sampleFile _ sample_prepared [.check true] _ rfl rfl rfl
  exact absurd (covered_nothing sampleFile _ _ covered) (by decide)

end Droidlogic.Fbc
