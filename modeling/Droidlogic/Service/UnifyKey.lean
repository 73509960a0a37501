import Droidlogic.Service.KeyTransport

set_option autoImplicit false

namespace Droidlogic.Service.UnifyKey

open Droidlogic.Lib

-- size = strlen(value) goes into an int.
def writeUnifyKeyfs (platform : Platform) (fuel : Nat) (path value : CStr) : Except Stop (Int × Handed) :=
  writePlayreadyKeyfs platform fuel path value.bytes ((value.bytes.length : Int).bmod 4294967296)

-- The driver when a call begins: whether the key of that name is there, what the lock node
-- holds, what the exist node shows for a key that is there and for one that is not, what a
-- write of the key returns, and whether a key that was written whole is there afterwards.
structure Driver where
  present : Bool
  lock : Bytes
  shown : Bool → CharArray 10
  written : Int
  keeps : Bool
  missing : atoi (shown false).str.bytes = 0

section
variable (driver : Driver) (base : Platform) (size : Int)

def Driver.takes : Bool := decide (0 ≤ size) && decide (driver.written = size)

def Driver.presentAfter : Bool := driver.present || (driver.takes size && driver.keeps)

def Driver.lockAfter (handed : Handed) : Bytes := (handedTo .unifykeyLock handed).getLast?.getD driver.lock

-- Every node opens. A missing key ends the wait with the first look, so that the looks
-- behind it follow the write.
def Driver.platform : Platform :=
  { base with
    opens := fun _ => true
    written := driver.written
    exist := fun look => some (driver.shown (if look = 0 then driver.present else driver.presentAfter size)).str.bytes }

-- key is what the call is to write.
def Settled (key : Bytes) (run : Nat → Except Stop (Int × Handed)) : Prop :=
  ∃ fuel ret handed, run fuel = .ok (ret, handed) ∧ (handedTo .unifykeyWrite handed).length ≤ 1 ∧
    (ret = 0 → handedTo .unifykeyWrite handed = [key] ∧ driver.takes size = true ∧ driver.presentAfter size = true) ∧
    driver.lockAfter handed = ascii ['0']

-- The exist node reads 0 at entry, the array has as many bytes as are to be written, and
-- where the write succeeds the whole key was handed over and is there, or the node shows "0".
def Reliable (key value : Bytes) : Prop :=
  atoi (driver.shown driver.present).str.bytes = 0 ∧ size.toNat ≤ value.length ∧
    (driver.takes size = true → (driver.shown (driver.present || driver.keeps)).str.bytes = ascii ['0'] ∨
      (value.take size.toNat = key ∧ (driver.present || driver.keeps) = true)) ∧
    (size = -1 → (driver.shown driver.present).str.bytes = ascii ['0'])

theorem looked_text (text : CharArray 10) :
    looked (some text.str.bytes) (zeros 10) = text.str.bytes ++ zeros (10 - text.str.bytes.length) := by
  have whole : text.str.bytes.take 10 = text.str.bytes := List.take_of_length_le text.fits.le
  rw [looked, Option.elim_some, whole, zeros, List.drop_replicate]
  rfl

theorem looked_again (text : CharArray 10) (rest : Bytes) :
    looked (some text.str.bytes) (text.str.bytes ++ rest) = text.str.bytes ++ rest := by
  have whole : text.str.bytes.take 10 = text.str.bytes := List.take_of_length_le text.fits.le
  rw [looked, Option.elim_some, whole, List.drop_left]

theorem text_ends (text : CharArray 10) : 0 ∈ text.str.bytes ++ zeros (10 - text.str.bytes.length) := by
  have room : 10 - text.str.bytes.length ≠ 0 := Nat.sub_ne_zero_of_lt text.fits
  exact List.mem_append_right _ (List.mem_replicate.mpr ⟨room, rfl⟩)

theorem text_read (text : CharArray 10) :
    (CStr.read (text.str.bytes ++ zeros (10 - text.str.bytes.length))).bytes = text.str.bytes := by
  have room : 10 - text.str.bytes.length ≠ 0 := Nat.sub_ne_zero_of_lt text.fits
  obtain ⟨more, spare⟩ := Nat.exists_eq_succ_of_ne_zero room
  have all : ∀ byte ∈ text.str.bytes, (byte ≠ 0 : Bool) = true := by
    intro byte member
    exact decide_eq_true fun zero => text.str.noNul (zero ▸ member)
  rw [spare]
  exact (List.takeWhile_append_of_pos all).trans (List.append_nil _)

-- One look that reads 0 ends the wait.
theorem driver_wait_ends (fuel : Nat) (zero : atoi (driver.shown driver.present).str.bytes = 0) :
    waitExist (driver.platform base size) (fuel + 1) 0 (zeros 10) = .ok 1 := by
  have first : lockStr (driver.platform base size) 1 =
      (driver.shown driver.present).str.bytes ++ zeros (10 - (driver.shown driver.present).str.bytes.length) :=
    looked_text (driver.shown driver.present)
  have step := wait_exist_step (driver.platform base size) fuel 0
  rw [first, text_read, if_neg (not_not.mpr (text_ends _)), if_pos zero] at step
  exact step

theorem driver_lock_str (there : driver.present = true) (look : Nat) :
    lockStr (driver.platform base size) (look + 1) =
      (driver.shown true).str.bytes ++ zeros (10 - (driver.shown true).str.bytes.length) := by
  have shows (look : Nat) : (driver.platform base size).exist look = some (driver.shown true).str.bytes := by
    simp [Driver.platform, Driver.presentAfter, there]
  induction look with
  | zero => rw [lockStr, shows, lockStr, looked_text]
  | succ look ih => rw [lockStr, shows, ih, looked_again]

-- The wait itself changes nothing that the exist node shows.
theorem driver_wait_stays (fuel : Nat) (nonzero : atoi (driver.shown driver.present).str.bytes ≠ 0) :
    waitExist (driver.platform base size) fuel 0 (zeros 10) = .error .waiting := by
  have there : driver.present = true := by
    cases present : driver.present with
    | true => rfl
    | false => exact absurd driver.missing (present ▸ nonzero)
  rw [there] at nonzero
  have ends (look : Nat) (_ : look < fuel) : 0 ∈ lockStr (driver.platform base size) (look + 1) := by
    rw [driver_lock_str driver base size there]
    exact text_ends _
  have counts (look : Nat) (_ : look < fuel) :
      atoi (CStr.read (lockStr (driver.platform base size) (look + 1))).bytes ≠ 0 := by
    rw [driver_lock_str driver base size there, text_read]
    exact nonzero
  have skipped := wait_exist_skip (driver.platform base size) 0 fuel ends counts
  rw [Nat.zero_add] at skipped
  rw [skipped, waitExist]

-- Everything the nodes have been handed once the wait is over.
def handedOver (path : CStr) (data : Handed) : Handed :=
  [(.unifykeyAttach, ascii ['1']), (.unifykeyName, path.bytes), (.unifykeyLock, ascii ['1'])] ++ data ++
    [(.unifykeyLock, ascii ['0'])]

def keyData (value : Bytes) : Handed := if size < 0 then [] else [(.unifykeyWrite, value.take size.toNat)]

theorem takes_iff : driver.takes size = true ↔ 0 ≤ size ∧ driver.written = size := by
  rw [Driver.takes, Bool.and_eq_true, decide_eq_true_eq, decide_eq_true_eq]

theorem driver_key_len (value : Bytes) (handed : Handed) (room : size.toNat ≤ value.length) :
    writeSys (driver.platform base size) 3 .unifykeyWrite value size handed =
      .ok (if driver.takes size = true ∨ size = -1 then 0 else -1, handed ++ keyData size value) := by
  have opens : (driver.platform base size).opens 3 = true := rfl
  have written : (driver.platform base size).written = driver.written := rfl
  rw [writeSys, if_pos opens, keyData, written]
  simp only [takes_iff]
  by_cases negative : size < 0
  · rw [if_pos negative, if_pos negative, List.append_nil]
    simp only [Int.not_le.mpr negative, false_and, false_or]
  · have positive : size ≠ -1 := fun minus => negative (minus ▸ by decide)
    rw [if_neg negative, if_neg negative, if_pos room]
    simp only [Int.not_lt.mp negative, positive, true_and, or_false]

theorem driver_exist_key : ∃ len, within (readSys ((driver.platform base size).exist 1) (zeros 10) 10) =
    .ok ((driver.shown (driver.presentAfter size)).str.bytes ++
      zeros (10 - (driver.shown (driver.presentAfter size)).str.bytes.length), len) := by
  have shows : (driver.platform base size).exist 1 = some (driver.shown (driver.presentAfter size)).str.bytes := rfl
  obtain ⟨len, read⟩ := read_sys_look ((driver.platform base size).exist 1) (zeros 10) List.length_replicate
  rw [read, shows, looked_text]
  exact ⟨len, rfl⟩

-- What a call does whose wait is over.
theorem driver_key_written (fuel : Nat) (path : CStr) (value : Bytes) (room : size.toNat ≤ value.length)
    (zero : atoi (driver.shown driver.present).str.bytes = 0) :
    writePlayreadyKeyfs (driver.platform base size) (fuel + 1) path value size =
      .ok (if (driver.takes size = true ∨ size = -1) ∧
          (driver.shown (driver.presentAfter size)).str.bytes ≠ ascii ['0'] then 0 else -1,
        handedOver path (keyData size value)) := by
  obtain ⟨len, existKey⟩ := driver_exist_key driver base size
  rw [writePlayreadyKeyfs]
  simp only [driver_wait_ends driver base size fuel zero, bind, Except.bind]
  rw [driver_key_len driver base size value _ room]
  by_cases accepted : driver.takes size = true ∨ size = -1
  · simp only [accepted, if_true, ne_eq, not_true_eq_false, if_false, existKey, text_read, true_and]
    by_cases stays : (driver.shown (driver.presentAfter size)).str.bytes = ascii ['0']
    · simp only [stays, if_true, not_true_eq_false, if_false]
      rfl
    · simp only [stays, if_false, not_false_eq_true, if_true]
      rfl
  · simp only [accepted, if_false, false_and]
    rfl

theorem driver_key_outside (fuel : Nat) (path : CStr) (value : Bytes) (large : ¬size.toNat ≤ value.length) :
    ∃ stop, writePlayreadyKeyfs (driver.platform base size) fuel path value size = .error stop := by
  have opens : (driver.platform base size).opens 3 = true := rfl
  have positive : ¬size < 0 := by omega
  rw [writePlayreadyKeyfs]
  cases waited : waitExist (driver.platform base size) fuel 0 (zeros 10) with
  | error stop => exact ⟨stop, rfl⟩
  | ok look =>
      refine ⟨.outside, ?_⟩
      simp only [bind, Except.bind, writeSys, opens, if_true, positive, if_false, large]

theorem handed_over_data (path : CStr) (value : Bytes) :
    handedTo .unifykeyWrite (handedOver path (keyData size value)) =
      if size < 0 then [] else [value.take size.toNat] := by
  rw [handedOver, keyData, handed_to_append, handed_to_append]
  split
  · rfl
  · rfl

theorem handed_over_lock (path : CStr) (data : Handed) :
    driver.lockAfter (handedOver path data) = ascii ['0'] := by
  have last : handedTo .unifykeyLock [(.unifykeyLock, ascii ['0'])] = [ascii ['0']] := rfl
  rw [Driver.lockAfter, handedOver, handed_to_append, last, List.getLast?_concat]
  rfl

-- When the last look makes the call return 0, and what it takes to have returned it rightly.
theorem answer_iff (key value : Bytes) :
    ((driver.takes size = true ∨ size = -1) ∧ (driver.shown (driver.presentAfter size)).str.bytes ≠ ascii ['0'] →
        (if size < 0 then [] else [value.take size.toNat]) = [key] ∧ driver.takes size = true ∧
          driver.presentAfter size = true) ↔
      (driver.takes size = true → (driver.shown (driver.present || driver.keeps)).str.bytes = ascii ['0'] ∨
        (value.take size.toNat = key ∧ (driver.present || driver.keeps) = true)) ∧
      (size = -1 → (driver.shown driver.present).str.bytes = ascii ['0']) := by
  by_cases takes : driver.takes size = true
  · have positive : ¬size < 0 := Int.not_lt.mpr ((takes_iff driver size).mp takes).1
    have regular : size ≠ -1 := fun minus => positive (minus ▸ by decide)
    have after : driver.presentAfter size = (driver.present || driver.keeps) := by
      rw [Driver.presentAfter, takes, Bool.true_and]
    rw [after, if_neg positive]
    constructor
    · intro right
      refine ⟨fun _ => or_iff_not_imp_left.mpr fun other => ?_, fun minus => absurd minus regular⟩
      obtain ⟨data, -, there⟩ := right ⟨.inl takes, other⟩
      exact ⟨List.singleton_inj.mp data, there⟩
    · rintro ⟨sound, -⟩ ⟨-, other⟩
      obtain ⟨whole, there⟩ := (sound takes).resolve_left other
      exact ⟨congrArg (fun data => [data]) whole, takes, there⟩
  · have after : driver.presentAfter size = driver.present := by
      rw [Driver.presentAfter, Bool.eq_false_iff.mpr takes, Bool.false_and, Bool.or_false]
    constructor
    · intro right
      refine ⟨fun taken => absurd taken takes, fun minus => ?_⟩
      by_contra other
      exact takes (right ⟨.inr minus, after ▸ other⟩).2.1
    · rintro ⟨-, zero⟩ ⟨taken | minus, other⟩
      · exact absurd taken takes
      · exact absurd (zero minus) (after ▸ other)

theorem settled_iff (path : CStr) (key value : Bytes) :
    Settled driver size key (fun fuel => writePlayreadyKeyfs (driver.platform base size) fuel path value size) ↔
      Reliable driver size key value := by
  by_cases zero : atoi (driver.shown driver.present).str.bytes = 0
  · by_cases room : size.toNat ≤ value.length
    · have once : (if size < 0 then [] else [value.take size.toNat]).length ≤ 1 := by
        split
        · exact Nat.zero_le 1
        · exact Nat.le_refl 1
      have written (fuel : Nat) := driver_key_written driver base size fuel path value room zero
      have answers := answer_iff driver size key value
      constructor
      · rintro ⟨fuel, ret, handed, run, -, right, -⟩
        refine ⟨zero, room, answers.mp fun answered => ?_⟩
        cases fuel with
        | zero => cases run
        | succ fuel =>
            have run := (written fuel).symm.trans run
            rw [if_pos answered] at run
            cases run
            rw [handed_over_data] at right
            exact right rfl
      · rintro ⟨-, -, sound⟩
        refine ⟨1, _, _, written 0, ?_, fun answered => ?_, handed_over_lock driver path _⟩
        · rw [handed_over_data]
          exact once
        · rw [handed_over_data]
          refine answers.mpr sound ?_
          by_contra refused
          rw [if_neg refused] at answered
          exact absurd answered (by decide)
    · refine ⟨?_, fun reliable => absurd reliable.2.1 room⟩
      rintro ⟨fuel, ret, handed, run, -⟩
      obtain ⟨stop, outside⟩ := driver_key_outside driver base size fuel path value room
      exact absurd (outside.symm.trans run) (by simp)
  · refine ⟨?_, fun reliable => absurd reliable.1 zero⟩
    rintro ⟨fuel, ret, handed, run, -⟩
    have stays := driver_wait_stays driver base size fuel zero
    simp only [writePlayreadyKeyfs, stays, bind, Except.bind] at run
    cases run

end

-- Both functions, over every state of the driver.
theorem unify_key_settled_iff (driver : Driver) (base : Platform) (path : CStr) :
    (∀ value : CStr, Settled driver ((value.bytes.length : Int).bmod 4294967296) value.bytes
        (fun fuel => writeUnifyKeyfs (driver.platform base ((value.bytes.length : Int).bmod 4294967296)) fuel path value) ↔
      Reliable driver ((value.bytes.length : Int).bmod 4294967296) value.bytes value.bytes) ∧
    (∀ (value : Bytes) (size : Int32), Settled driver size.toInt (value.take size.toInt.toNat)
        (fun fuel => writePlayreadyKeyfs (driver.platform base size.toInt) fuel path value size.toInt) ↔
      Reliable driver size.toInt (value.take size.toInt.toNat) value) :=
  ⟨fun value => settled_iff driver base _ path value.bytes value.bytes,
    fun value size => settled_iff driver base size.toInt path _ value⟩

-- A key that is stored already.
theorem unify_key_waits :
    (¬ ∀ (driver : Driver) (base : Platform) (path value : CStr),
      Settled driver ((value.bytes.length : Int).bmod 4294967296) value.bytes
        (fun fuel => writeUnifyKeyfs (driver.platform base ((value.bytes.length : Int).bmod 4294967296)) fuel path value)) ∧
    (¬ ∀ (driver : Driver) (base : Platform) (path : CStr) (value : Bytes) (size : Int32),
      0 ≤ size.toInt → size.toInt.toNat ≤ value.length →
        Settled driver size.toInt (value.take size.toInt.toNat)
          (fun fuel => writePlayreadyKeyfs (driver.platform base size.toInt) fuel path value size.toInt)) := by
  let driver : Driver := {
    present := true
    lock := ascii ['0']
    shown := fun present => ⟨CStr.read [if present then 49 else 48], by cases present <;> decide⟩
    written := 1
    keeps := true
    missing := by decide }
  let base : Platform := {
    signedChar := false
    opens := fun _ => true
    written := 1
    exist := fun _ => none
    key := none
    mallocs := true
    staleLen := 0
    stale := List.replicate 4096 0
    sized := List.length_replicate }
  have stored : ¬atoi (driver.shown driver.present).str.bytes = 0 := by decide
  constructor
  · intro all
    have reliable := (settled_iff driver base _ CStr.empty [65] [65]).mp (all driver base CStr.empty (CStr.read [65]))
    exact stored reliable.1
  · intro all
    have reliable := (settled_iff driver base _ CStr.empty [65] [65]).mp
      (all driver base CStr.empty [65] 1 (by decide) (by decide))
    exact stored reliable.1

end Droidlogic.Service.UnifyKey
