import Droidlogic.Lib.Sha1

set_option autoImplicit false

namespace Droidlogic.Hdcp.Sha1

open Droidlogic.Lib Droidlogic.Lib.Sha1

def rol (value bits : UInt32) : UInt32 := (value <<< bits) ||| (value >>> (32 - bits))

inductive Reg
  | a
  | b
  | c
  | d
  | e
deriving DecidableEq

-- The working variables, and also state[0] to state[4].
abbrev Vars := Hash

def get (vars : Vars) : Reg → UInt32
  | .a => vars.a
  | .b => vars.b
  | .c => vars.c
  | .d => vars.d
  | .e => vars.e

def set (vars : Vars) (reg : Reg) (value : UInt32) : Vars :=
  match reg with
  | .a => { vars with a := value }
  | .b => { vars with b := value }
  | .c => { vars with c := value }
  | .d => { vars with d := value }
  | .e => { vars with e := value }

inductive Macro
  | R0
  | R1
  | R2
  | R3
  | R4
deriving DecidableEq

-- What blk0 makes of a word on a little-endian machine.
def turned (word : UInt32) : UInt32 := (rol word 24 &&& 0xFF00FF00) ||| (rol word 8 &&& 0x00FF00FF)

-- Both blk0 and blk store the word they give in block->l.
def blk0 (block : List UInt32) (i : Nat) : UInt32 × List UInt32 :=
  let value := turned (block.getD i 0)
  (value, block.set i value)

def blk (block : List UInt32) (i : Nat) : UInt32 × List UInt32 :=
  let value := rol (block.getD ((i + 13) &&& 15) 0 ^^^ block.getD ((i + 8) &&& 15) 0 ^^^
    block.getD ((i + 2) &&& 15) 0 ^^^ block.getD (i &&& 15) 0) 1
  (value, block.set (i &&& 15) value)

def Macro.word (op : Macro) (block : List UInt32) (i : Nat) : UInt32 × List UInt32 :=
  match op with
  | .R0 => blk0 block i
  | .R1 | .R2 | .R3 | .R4 => blk block i

def Macro.mix (op : Macro) (w x y : UInt32) : UInt32 :=
  match op with
  | .R0 | .R1 => (w &&& (x ^^^ y)) ^^^ y
  | .R2 | .R4 => w ^^^ x ^^^ y
  | .R3 => ((w ||| x) &&& y) ||| (w &&& x)

def Macro.added (op : Macro) : UInt32 :=
  match op with
  | .R0 | .R1 => 0x5A827999
  | .R2 => 0x6ED9EBA1
  | .R3 => 0x8F1BBCDC
  | .R4 => 0xCA62C1D6

structure Call where
  op : Macro
  v : Reg
  w : Reg
  x : Reg
  y : Reg
  z : Reg
  i : Nat
deriving DecidableEq

def calls : List Call :=
  [⟨.R0, .a, .b, .c, .d, .e, 0⟩, ⟨.R0, .e, .a, .b, .c, .d, 1⟩, ⟨.R0, .d, .e, .a, .b, .c, 2⟩, ⟨.R0, .c, .d, .e, .a, .b, 3⟩,
    ⟨.R0, .b, .c, .d, .e, .a, 4⟩, ⟨.R0, .a, .b, .c, .d, .e, 5⟩, ⟨.R0, .e, .a, .b, .c, .d, 6⟩, ⟨.R0, .d, .e, .a, .b, .c, 7⟩,
    ⟨.R0, .c, .d, .e, .a, .b, 8⟩, ⟨.R0, .b, .c, .d, .e, .a, 9⟩, ⟨.R0, .a, .b, .c, .d, .e, 10⟩, ⟨.R0, .e, .a, .b, .c, .d, 11⟩,
    ⟨.R0, .d, .e, .a, .b, .c, 12⟩, ⟨.R0, .c, .d, .e, .a, .b, 13⟩, ⟨.R0, .b, .c, .d, .e, .a, 14⟩, ⟨.R0, .a, .b, .c, .d, .e, 15⟩,
    ⟨.R1, .e, .a, .b, .c, .d, 16⟩, ⟨.R1, .d, .e, .a, .b, .c, 17⟩, ⟨.R1, .c, .d, .e, .a, .b, 18⟩, ⟨.R1, .b, .c, .d, .e, .a, 19⟩,
    ⟨.R2, .a, .b, .c, .d, .e, 20⟩, ⟨.R2, .e, .a, .b, .c, .d, 21⟩, ⟨.R2, .d, .e, .a, .b, .c, 22⟩, ⟨.R2, .c, .d, .e, .a, .b, 23⟩,
    ⟨.R2, .b, .c, .d, .e, .a, 24⟩, ⟨.R2, .a, .b, .c, .d, .e, 25⟩, ⟨.R2, .e, .a, .b, .c, .d, 26⟩, ⟨.R2, .d, .e, .a, .b, .c, 27⟩,
    ⟨.R2, .c, .d, .e, .a, .b, 28⟩, ⟨.R2, .b, .c, .d, .e, .a, 29⟩, ⟨.R2, .a, .b, .c, .d, .e, 30⟩, ⟨.R2, .e, .a, .b, .c, .d, 31⟩,
    ⟨.R2, .d, .e, .a, .b, .c, 32⟩, ⟨.R2, .c, .d, .e, .a, .b, 33⟩, ⟨.R2, .b, .c, .d, .e, .a, 34⟩, ⟨.R2, .a, .b, .c, .d, .e, 35⟩,
    ⟨.R2, .e, .a, .b, .c, .d, 36⟩, ⟨.R2, .d, .e, .a, .b, .c, 37⟩, ⟨.R2, .c, .d, .e, .a, .b, 38⟩, ⟨.R2, .b, .c, .d, .e, .a, 39⟩,
    ⟨.R3, .a, .b, .c, .d, .e, 40⟩, ⟨.R3, .e, .a, .b, .c, .d, 41⟩, ⟨.R3, .d, .e, .a, .b, .c, 42⟩, ⟨.R3, .c, .d, .e, .a, .b, 43⟩,
    ⟨.R3, .b, .c, .d, .e, .a, 44⟩, ⟨.R3, .a, .b, .c, .d, .e, 45⟩, ⟨.R3, .e, .a, .b, .c, .d, 46⟩, ⟨.R3, .d, .e, .a, .b, .c, 47⟩,
    ⟨.R3, .c, .d, .e, .a, .b, 48⟩, ⟨.R3, .b, .c, .d, .e, .a, 49⟩, ⟨.R3, .a, .b, .c, .d, .e, 50⟩, ⟨.R3, .e, .a, .b, .c, .d, 51⟩,
    ⟨.R3, .d, .e, .a, .b, .c, 52⟩, ⟨.R3, .c, .d, .e, .a, .b, 53⟩, ⟨.R3, .b, .c, .d, .e, .a, 54⟩, ⟨.R3, .a, .b, .c, .d, .e, 55⟩,
    ⟨.R3, .e, .a, .b, .c, .d, 56⟩, ⟨.R3, .d, .e, .a, .b, .c, 57⟩, ⟨.R3, .c, .d, .e, .a, .b, 58⟩, ⟨.R3, .b, .c, .d, .e, .a, 59⟩,
    ⟨.R4, .a, .b, .c, .d, .e, 60⟩, ⟨.R4, .e, .a, .b, .c, .d, 61⟩, ⟨.R4, .d, .e, .a, .b, .c, 62⟩, ⟨.R4, .c, .d, .e, .a, .b, 63⟩,
    ⟨.R4, .b, .c, .d, .e, .a, 64⟩, ⟨.R4, .a, .b, .c, .d, .e, 65⟩, ⟨.R4, .e, .a, .b, .c, .d, 66⟩, ⟨.R4, .d, .e, .a, .b, .c, 67⟩,
    ⟨.R4, .c, .d, .e, .a, .b, 68⟩, ⟨.R4, .b, .c, .d, .e, .a, 69⟩, ⟨.R4, .a, .b, .c, .d, .e, 70⟩, ⟨.R4, .e, .a, .b, .c, .d, 71⟩,
    ⟨.R4, .d, .e, .a, .b, .c, 72⟩, ⟨.R4, .c, .d, .e, .a, .b, 73⟩, ⟨.R4, .b, .c, .d, .e, .a, 74⟩, ⟨.R4, .a, .b, .c, .d, .e, 75⟩,
    ⟨.R4, .e, .a, .b, .c, .d, 76⟩, ⟨.R4, .d, .e, .a, .b, .c, 77⟩, ⟨.R4, .c, .d, .e, .a, .b, 78⟩, ⟨.R4, .b, .c, .d, .e, .a, 79⟩]

structure Working where
  vars : Vars
  block : List UInt32

def Call.perform (call : Call) (working : Working) : Working :=
  let vars := working.vars
  let (word, block) := call.op.word working.block call.i
  let z := get vars call.z +
    (call.op.mix (get vars call.w) (get vars call.x) (get vars call.y) + word + call.op.added + rol (get vars call.v) 5)
  let vars := set vars call.z z
  ⟨set vars call.w (rol (get vars call.w) 30), block⟩

-- The words of the union as a little-endian machine reads them.
def loadBlock (buffer : Bytes) : List UInt32 := (List.range 16).map fun i => word32 (buffer.drop (4 * i))

def sha1Transform (state : Vars) (buffer : Bytes) : Vars :=
  let working := calls.foldl (fun working call => call.perform working) ⟨state, loadBlock buffer⟩
  state.add working.vars

example :
    encode (sha1Transform initial (ascii ['a', 'b', 'c'] ++ padding 3)) =
      [0xA9, 0x99, 0x3E, 0x36, 0x47, 0x06, 0x81, 0x6A, 0xBA, 0x3E,
        0x25, 0x71, 0x78, 0x50, 0xC2, 0x6C, 0x9C, 0xD0, 0xD8, 0x9D] := by decide +kernel

theorem or_and (first second mask : UInt32) : (first ||| second) &&& mask = (first &&& mask) ||| (second &&& mask) := by
  apply UInt32.toBitVec_inj.mp
  ext i inside
  simp [Bool.and_or_distrib_right]

theorem rol_or (first second bits : UInt32) : rol (first ||| second) bits = rol first bits ||| rol second bits := by
  simp only [rol, UInt32.shiftLeft_or, UInt32.shiftRight_or]
  ac_rfl

theorem turned_or (first second : UInt32) : turned (first ||| second) = turned first ||| turned second := by
  simp only [turned, rol_or, or_and]
  ac_rfl

theorem turned_byte (byte : UInt8) :
    turned byte.toUInt32 = byte.toUInt32 <<< 24 ∧ turned (byte.toUInt32 <<< 8) = byte.toUInt32 <<< 16 ∧
      turned (byte.toUInt32 <<< 16) = byte.toUInt32 <<< 8 ∧ turned (byte.toUInt32 <<< 24) = byte.toUInt32 := by
  have each : ∀ index : Fin 256, let word := (UInt8.ofNat index).toUInt32
      turned word = word <<< 24 ∧ turned (word <<< 8) = word <<< 16 ∧ turned (word <<< 16) = word <<< 8 ∧
        turned (word <<< 24) = word := by decide +kernel
  have own : UInt8.ofNat byte.toNat = byte := UInt8.ofNat_toNat
  simpa only [own] using each ⟨byte.toNat, byte.toNat_lt⟩

-- Each byte on its own lands where the big-endian word has it.
theorem turned_word (memory : Bytes) : turned (word32 memory) = wordBe memory := by
  rw [word32_or, turned_or, turned_or, turned_or, (turned_byte _).1, (turned_byte _).2.1, (turned_byte _).2.2.1,
    (turned_byte _).2.2.2, wordBe]

theorem choose_mix (w x y : UInt32) : (w &&& (x ^^^ y)) ^^^ y = choose w x y := by
  apply UInt32.toBitVec_inj.mp
  ext i inside
  simp only [choose, UInt32.toBitVec_xor, UInt32.toBitVec_and, UInt32.toBitVec_not, BitVec.getElem_xor, BitVec.getElem_and,
    BitVec.getElem_not]
  cases w.toBitVec[i] <;> cases x.toBitVec[i] <;> cases y.toBitVec[i] <;> rfl

theorem majority_mix (w x y : UInt32) : ((w ||| x) &&& y) ||| (w &&& x) = majority w x y := by
  apply UInt32.toBitVec_inj.mp
  ext i inside
  simp only [majority, UInt32.toBitVec_xor, UInt32.toBitVec_and, UInt32.toBitVec_or, BitVec.getElem_xor, BitVec.getElem_and,
    BitVec.getElem_or]
  cases w.toBitVec[i] <;> cases x.toBitVec[i] <;> cases y.toBitVec[i] <;> rfl

def nth (n : Nat) : Reg :=
  match n % 5 with
  | 0 => .a
  | 1 => .b
  | 2 => .c
  | 3 => .d
  | _ => .e

def opAt (i : Nat) : Macro :=
  if i < 16 then .R0 else if i < 20 then .R1 else if i < 40 then .R2 else if i < 60 then .R3 else .R4

-- The names move on from call to call, where the standard moves the values.
def callAt (i : Nat) : Call :=
  ⟨opAt i, nth (4 * i), nth (4 * i + 1), nth (4 * i + 2), nth (4 * i + 3), nth (4 * i + 4), i⟩

theorem calls_eq : calls = (List.range 80).map callAt := by decide +kernel

theorem get_set (vars : Vars) (reg other : Reg) (value : UInt32) :
    get (set vars reg value) other = if other = reg then value else get vars other := by
  cases reg <;> cases other <;> rfl

theorem nth_next (n : Nat) : nth (n + 5) = nth n := by rw [nth, nth, Nat.add_mod_right]

theorem nth_ne (n k : Nat) (positive : 0 < k) (small : k < 5) : nth (n + k) ≠ nth n := by
  have bound := Nat.mod_lt n (by decide : 0 < 5)
  have both : ∀ r < 5, ∀ k < 5, 0 < k → nth (r + k) ≠ nth r := by decide
  have reduced := both (n % 5) bound k small positive
  rwa [nth, nth, Nat.mod_add_mod, Nat.mod_mod, ← nth, ← nth] at reduced

-- The registers of call i hold the working variables of round i.
structure Named (h : Hash) (vars : Vars) (i : Nat) : Prop where
  a : get vars (nth (4 * i)) = h.a
  b : get vars (nth (4 * i + 1)) = h.b
  c : get vars (nth (4 * i + 2)) = h.c
  d : get vars (nth (4 * i + 3)) = h.d
  e : get vars (nth (4 * i + 4)) = h.e

theorem op_mix (i : Nat) (small : i < 80) (w x y : UInt32) :
    (opAt i).mix w x y = mixer i w x y ∧ (opAt i).added = constant i := by
  by_cases first : i < 16
  · rw [opAt, if_pos first, mixer, if_pos (by omega), constant, if_pos (by omega)]
    exact ⟨choose_mix w x y, rfl⟩
  by_cases second : i < 20
  · rw [opAt, if_neg first, if_pos second, mixer, if_pos second, constant, if_pos second]
    exact ⟨choose_mix w x y, rfl⟩
  rw [opAt, if_neg first, if_neg second, mixer, if_neg second, constant, if_neg second]
  by_cases third : i < 40
  · rw [if_pos third, if_pos third, if_pos third]
    exact ⟨rfl, rfl⟩
  rw [if_neg third, if_neg third, if_neg third]
  by_cases fourth : i < 60
  · rw [if_pos fourth, if_pos fourth, if_pos fourth]
    exact ⟨majority_mix w x y, rfl⟩
  · rw [if_neg fourth, if_neg fourth, if_neg fourth]
    exact ⟨rfl, rfl⟩

-- Of the sixteen words of block->l those behind call i are as read, the others the last sixteen of the schedule.
structure Scheduled (block : Nat → UInt32) (l : List UInt32) (i : Nat) : Prop where
  sized : l.length = 16
  made : ∀ t < i, i ≤ t + 16 → l.getD (t % 16) 0 = schedule block t
  unread : ∀ t, i ≤ t → t < 16 → turned (l.getD t 0) = block t

theorem getD_set (l : List UInt32) (i j : Nat) (value : UInt32) (inside : i < l.length) :
    (l.set i value).getD j 0 = if i = j then value else l.getD j 0 := by
  rw [List.getD_eq_getElem?_getD, List.getD_eq_getElem?_getD, List.getElem?_set]
  by_cases same : i = j
  · rw [if_pos same, if_pos same, if_pos inside]
    rfl
  · rw [if_neg same, if_neg same]

theorem masked (i : Nat) : i &&& 15 = i % 16 := Nat.and_two_pow_sub_one_eq_mod i 4

theorem word_scheduled (block : Nat → UInt32) (l : List UInt32) (i : Nat) (small : i < 80)
    (scheduled : Scheduled block l i) :
    ((opAt i).word l i).1 = schedule block i ∧ ((opAt i).word l i).2 = l.set (i % 16) (schedule block i) := by
  by_cases first : i < 16
  · have word : turned (l.getD i 0) = schedule block i := by
      rw [scheduled.unread i (Nat.le_refl i) first, schedule, if_pos first]
    rw [opAt, if_pos first, Macro.word, blk0, word, Nat.mod_eq_of_lt first]
    exact ⟨rfl, rfl⟩
  · have later : ∀ k, 1 ≤ k → k ≤ 16 → l.getD ((i + (16 - k)) &&& 15) 0 = schedule block (i - k) := by
      intro k least most
      have behind : (i + (16 - k)) % 16 = (i - k) % 16 := by omega
      rw [masked, behind]
      exact scheduled.made (i - k) (by omega) (by omega)
    have oldest : l.getD (i &&& 15) 0 = schedule block (i - 16) := later 16 (by decide) (by decide)
    have word : (blk l i).1 = schedule block i := by
      have made : schedule block i = rotl (schedule block (i - 3) ^^^ schedule block (i - 8) ^^^
          schedule block (i - 14) ^^^ schedule block (i - 16)) 1 := by rw [schedule, if_neg first]
      rw [blk, later 3 (by decide) (by decide), later 8 (by decide) (by decide), later 14 (by decide) (by decide), oldest,
        made]
      rfl
    have taken : (opAt i).word l i = blk l i := by
      rw [opAt, if_neg first]
      split
      · rfl
      split
      · rfl
      split
      · rfl
      · rfl
    rw [taken]
    refine ⟨word, ?_⟩
    rw [← word, ← masked]
    rfl

theorem set_scheduled (block : Nat → UInt32) (l : List UInt32) (i : Nat) (scheduled : Scheduled block l i) :
    Scheduled block (l.set (i % 16) (schedule block i)) (i + 1) where
  sized := (List.length_set ..).trans scheduled.sized
  made := by
    intro t before recent
    rw [getD_set l (i % 16) (t % 16) _ (by rw [scheduled.sized]; omega)]
    by_cases same : t = i
    · rw [same, if_pos rfl]
    · rw [if_neg (by omega)]
      exact scheduled.made t (by omega) (by omega)
  unread := by
    intro t behind small
    rw [getD_set l (i % 16) t _ (by rw [scheduled.sized]; omega), if_neg (by omega)]
    exact scheduled.unread t (by omega) small

theorem call_named (block : Nat → UInt32) (h : Hash) (working : Working) (i : Nat) (small : i < 80)
    (named : Named h working.vars i) (scheduled : Scheduled block working.block i) :
    Named (oneRound (schedule block) i h) ((callAt i).perform working).vars (i + 1) ∧
      Scheduled block ((callAt i).perform working).block (i + 1) := by
  obtain ⟨word, stored⟩ := word_scheduled block working.block i small scheduled
  obtain ⟨mixed, added⟩ := op_mix i small h.b h.c h.d
  have apart (n k : Nat) (positive : 0 < k) (few : k < 5) : nth n ≠ nth (n + k) := (nth_ne n k positive few).symm
  have kept (n : Nat) (other : nth n ≠ nth (4 * i + 4)) (otherToo : nth n ≠ nth (4 * i + 1)) :
      get ((callAt i).perform working).vars (nth n) = get working.vars (nth n) := by
    simp only [callAt, Call.perform, get_set, if_neg other, if_neg otherToo]
  have added_up : get ((callAt i).perform working).vars (nth (4 * i + 4)) = (oneRound (schedule block) i h).a := by
    simp only [callAt, Call.perform, get_set, if_neg (nth_ne (4 * i + 1) 3 (by decide) (by decide)), if_pos, named.a,
      named.b, named.c, named.d, named.e, mixed, added, word, oneRound, rol, rotl]
    ac_rfl
  have turned_up : get ((callAt i).perform working).vars (nth (4 * i + 1)) = (oneRound (schedule block) i h).c := by
    simp only [callAt, Call.perform, get_set, if_neg (apart (4 * i + 1) 3 (by decide) (by decide)), if_pos, named.b, oneRound,
      rol, rotl]
  constructor
  · constructor
    · exact added_up
    · rw [show 4 * (i + 1) + 1 = 4 * i + 5 by omega, nth_next,
        kept _ (apart _ 4 (by decide) (by decide)) (apart _ 1 (by decide) (by decide))]
      exact named.a
    · rw [show 4 * (i + 1) + 2 = 4 * i + 1 + 5 by omega, nth_next]
      exact turned_up
    · rw [show 4 * (i + 1) + 3 = 4 * i + 2 + 5 by omega, nth_next,
        kept _ (apart (4 * i + 2) 2 (by decide) (by decide)) (nth_ne (4 * i + 1) 1 (by decide) (by decide))]
      exact named.c
    · rw [show 4 * (i + 1) + 4 = 4 * i + 3 + 5 by omega, nth_next,
        kept _ (apart (4 * i + 3) 1 (by decide) (by decide)) (nth_ne (4 * i + 1) 2 (by decide) (by decide))]
      exact named.d
  · have block_eq : ((callAt i).perform working).block = ((opAt i).word working.block i).2 := rfl
    rw [block_eq, stored]
    exact set_scheduled block working.block i scheduled

def performAll (count : Nat) (working : Working) : Working :=
  ((List.range count).map callAt).foldl (fun working call => call.perform working) working

theorem performAll_succ (count : Nat) (working : Working) :
    performAll (count + 1) working = (callAt count).perform (performAll count working) := by
  rw [performAll, List.range_succ, List.map_append, List.foldl_append]
  rfl

theorem calls_named (block : Nat → UInt32) (h : Hash) (working : Working) (named : Named h working.vars 0)
    (scheduled : Scheduled block working.block 0) (count : Nat) (few : count ≤ 80) :
    Named (rounds (schedule block) count h) (performAll count working).vars count ∧
      Scheduled block (performAll count working).block count := by
  induction count with
  | zero => exact ⟨named, scheduled⟩
  | succ count ih =>
    obtain ⟨named, scheduled⟩ := ih (by omega)
    rw [performAll_succ]
    exact call_named block _ _ count few named scheduled

theorem named_start (h : Hash) : Named h h 0 := ⟨rfl, rfl, rfl, rfl, rfl⟩

theorem load_scheduled (buffer : Bytes) :
    Scheduled (fun t => wordBe (buffer.drop (4 * t))) (loadBlock buffer) 0 where
  sized := by rw [loadBlock, List.length_map, List.length_range]
  made := fun t before => absurd before (Nat.not_lt_zero t)
  unread := by
    intro t _ small
    rw [loadBlock, List.getD_eq_getElem?_getD, List.getElem?_map, List.getElem?_range small]
    exact turned_word _

-- After eighty calls the names have come round to where they began.
theorem named_end {h : Hash} {vars : Vars} (named : Named h vars 80) : vars = h := by
  obtain ⟨a, b, c, d, e⟩ := named
  cases vars
  cases h
  exact (Hash.mk.injEq ..).mpr ⟨a, b, c, d, e⟩

theorem sha1_transform_compress (state : Vars) (buffer : Bytes) : sha1Transform state buffer = compress state buffer := by
  have run := calls_named _ state ⟨state, loadBlock buffer⟩ (named_start state) (load_scheduled buffer) 80 (Nat.le_refl 80)
  have vars := named_end run.1
  rw [sha1Transform, compress, calls_eq, ← vars]
  rfl

end Droidlogic.Hdcp.Sha1
