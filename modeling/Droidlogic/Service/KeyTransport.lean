import Mathlib.Data.Nat.Find
import Droidlogic.Lib.CString
import Droidlogic.Lib.Text
import Droidlogic.Lib.CopyLoop

set_option autoImplicit false

namespace Droidlogic.Service

open Droidlogic.Lib

-- Why a call has no result: an access outside of an array, or it is still waiting.
inductive Stop
  | outside
  | waiting
deriving DecidableEq

def within {α : Type} (access : Option α) : Except Stop α := access.elim (.error .outside) .ok

inductive Node
  | file (path : CStr)
  | unifykeyAttach
  | unifykeyName
  | unifykeyLock
  | unifykeyWrite
deriving DecidableEq

-- What the nodes have been handed.
abbrev Handed := List (Node × Bytes)

def handedTo (node : Node) (handed : Handed) : List Bytes := (handed.filter fun entry => entry.1 = node).map Prod.snd

-- What one call meets: its writes are numbered, and so are its looks at the exist
-- node. stale is what stands in an array that nothing was written to.
structure Platform where
  signedChar : Bool
  opens : Nat → Bool
  written : Int
  exist : Nat → Option Bytes
  key : Option Bytes
  mallocs : Bool
  staleLen : Int32
  stale : List Int
  sized : stale.length = 4096

structure KeyRead where
  len : Int
  value : Bytes
  handed : Handed

def widen (platform : Platform) (byte : UInt8) : Int :=
  if platform.signedChar then byte.toInt8.toInt else byte.toNat

def narrow (value : Int) : UInt8 := .ofInt value

def zeros (size : Nat) : Bytes := List.replicate size 0

section
variable (platform : Platform)

-- A node that does not open, and a negative count, leave the buffer alone.
def readSys (node : Option Bytes) (buf : Bytes) (count : Int) : Option (Bytes × Int) :=
  match node with
  | none => some (buf, -1)
  | some content =>
      if count < 0 then some (buf, -1)
      else (overwrite buf 0 (content.take count.toNat)).map fun filled => (filled, ((content.take count.toNat).length : Int))

def writeSysText (turn : Nat) (node : Node) (val : Bytes) (handed : Handed) : Handed :=
  if platform.opens turn then handed ++ [(node, val)] else handed

-- writeSys(UNIFYKEY_ATTACH, "1"); writeSys(UNIFYKEY_NAME, path);
def selectKey (path : CStr) : Handed :=
  writeSysText platform 1 .unifykeyName path.bytes (writeSysText platform 0 .unifykeyAttach (ascii ['1']) [])

-- The kernel refuses a negative size with -1 and reads nothing.
def writeSys (turn : Nat) (node : Node) (val : Bytes) (size : Int) (handed : Handed) : Except Stop (Int × Handed) :=
  if platform.opens turn then
    if size < 0 then .ok (if size = -1 then 0 else -1, handed)
    else if size.toNat ≤ val.length then
      .ok (if platform.written = size then 0 else -1, handed ++ [(node, val.take size.toNat)])
    else .error .outside
  else .ok (-1, handed)

-- do { readSys(UNIFYKEY_EXIST, lock_str, 10); ret = atoi(lock_str); } while (ret != 0):
-- the number of the next look. A text without a NUL counts as an access outside, even where atoi would stop before
-- the end of the buffer.
def waitExist : Nat → Nat → Bytes → Except Stop Nat
  | 0, _, _ => .error .waiting
  | fuel + 1, look, lockStr => do
      let (lockStr, _) ← within (readSys (platform.exist look) lockStr 10)
      if 0 ∉ lockStr then .error .outside
      else if atoi (CStr.read lockStr).bytes = 0 then .ok (look + 1)
      else waitExist fuel (look + 1) lockStr

def writePlayreadyKeyfs (fuel : Nat) (path : CStr) (value : Bytes) (size : Int) : Except Stop (Int × Handed) := do
  let handed := selectKey platform path
  let look ← waitExist platform fuel 0 (zeros 10)
  let handed := writeSysText platform 2 .unifykeyLock (ascii ['1']) handed
  let (keyLen, handed) ← writeSys platform 3 .unifykeyWrite value size handed
  if keyLen ≠ 0 then .ok (-1, writeSysText platform 4 .unifykeyLock (ascii ['0']) handed)
  else do
    let (existKey, _) ← within (readSys (platform.exist look) (zeros 10) 10)
    if (CStr.read existKey).bytes = ascii ['0'] then
      .ok (-1, writeSysText platform 4 .unifykeyLock (ascii ['0']) handed)
    else .ok (0, writeSysText platform 4 .unifykeyLock (ascii ['0']) handed)

def readUnifyKeyfs (path : CStr) (value : Bytes) (count : Int) : Option KeyRead :=
  (readSys (platform.exist 0) (zeros 10) 10).bind fun existKey =>
    if (CStr.read existKey.1).bytes = ascii ['0'] then some ⟨0, value, selectKey platform path⟩
    else (readSys platform.key value count).map fun read => ⟨read.2, read.1, selectKey platform path⟩

namespace SysWrite

def writeSysfs (path : CStr) (value : Bytes) (size : Int) : Except Stop (Bool × Handed) :=
  (writeSys platform 0 (.file path) value size []).map fun result => (true, result.2)

def writePlayreadyKey (fuel : Nat) (path : CStr) (value : Bytes) (size : Int) : Except Stop (Bool × Handed) :=
  (writePlayreadyKeyfs platform fuel path value size).map fun result => (decide (result.1 = 0), result.2)

-- A key of one byte is counted but not copied.
def readPlayreadyKey (path : CStr) (value : Bytes) (size : Int) : Option KeyRead :=
  (readUnifyKeyfs platform path (zeros 4096) size).bind fun buf =>
    if 1 < buf.len then (copyLoop id buf.len.toNat buf.value value).map fun value => { buf with value := value }
    else some { buf with value := value }

end SysWrite

namespace Hal

def narrowAll (key : List Int) : Except Stop Bytes := within (copyLoop narrow 4096 key (zeros 4096))

def writeSysfsBin (path : CStr) (key : List Int) (size : Int) : Except Stop (Bool × Handed) := do
  let value ← narrowAll key
  SysWrite.writeSysfs platform path value size

def writePlayreadyKey (fuel : Nat) (path : CStr) (key : List Int) (size : Int) : Except Stop (Bool × Handed) := do
  let value ← narrowAll key
  SysWrite.writePlayreadyKey platform fuel path value size

-- What the callback is given; without memory it is not called.
def readPlayreadyKey (path : CStr) (size : Int) : Option (Option (List Int × Int) × Handed) :=
  if platform.mallocs then
    (SysWrite.readPlayreadyKey platform path (zeros 4096) size).bind fun read =>
      (copyLoop (widen platform) read.len.toNat read.value platform.stale).map fun result =>
        (some (fillFrom result read.len.toNat 0, read.len), read.handed)
  else some (none, [])

end Hal

namespace Client

def widenAll (value : Bytes) (size : Int) : Except Stop (List Int) :=
  within ((copyLoop (widen platform) size.toNat value platform.stale).map fun result => fillFrom result size.toNat 0)

def writeSysfs (path : CStr) (value : Bytes) (size : Int) : Except Stop (Bool × Handed) := do
  let result ← widenAll platform value size
  Hal.writeSysfsBin platform path result size

def writePlayreadyKey (fuel : Nat) (path : CStr) (value : Bytes) (size : Int) : Except Stop (Bool × Handed) := do
  let result ← widenAll platform value size
  Hal.writePlayreadyKey platform fuel path result size

-- len and result are not initialised, and stay so where the callback is not called.
def readPlayreadyKey (path : CStr) (value : Bytes) (size : Int) : Option KeyRead :=
  (Hal.readPlayreadyKey platform path size).bind fun (answer, handed) =>
    match answer with
    | none => (copyLoop narrow platform.staleLen.toInt.toNat platform.stale value).map fun value =>
        ⟨platform.staleLen.toInt, value, handed⟩
    | some (v, l) => (copyLoop id l.toNat v platform.stale).bind fun result =>
        (copyLoop narrow l.toNat result value).map fun value => ⟨l, value, handed⟩

end Client

end

inductive Call
  | writeSysfs (path : CStr) (value : Bytes) (size : Int32)
  | writePlayreadyKey (key : CStr) (value : Bytes) (size : Int32)
  | readPlayreadyKey (key : CStr) (value : Bytes) (size : Int32)

def InRange (size : Int32) : Prop := 0 ≤ size.toInt ∧ size.toInt ≤ 4096

section
variable (platform : Platform)

def looked (node : Option Bytes) (buf : Bytes) : Bytes :=
  node.elim buf fun content => content.take 10 ++ buf.drop (content.take 10).length

-- What lock_str holds before each look.
def lockStr : Nat → Bytes
  | 0 => zeros 10
  | look + 1 => looked (platform.exist look) (lockStr look)

-- What the key node returned in a read.
def keyAnswer (size : Int) : Option Bytes :=
  if platform.mallocs = false ∨ (CStr.read (lockStr platform 1)).bytes = ascii ['0'] ∨ size < 0 then none
  else platform.key.map (·.take size.toNat)

def ReadBack (value : Bytes) (answer : Option Bytes) (read : KeyRead) : Prop :=
  match answer with
  | none => read.len ≤ 0 ∧ read.value = value
  | some bytes => read.len = bytes.length ∧ read.value = bytes ++ value.drop bytes.length

def Transported : Call → Prop
  | .writeSysfs path value size => Client.writeSysfs platform path value size.toInt ≠ .error .outside ∧
      (InRange size → ∃ ok handed, Client.writeSysfs platform path value size.toInt = .ok (ok, handed) ∧
        handedTo (.file path) handed = [value.take size.toInt.toNat])
  | .writePlayreadyKey key value size =>
      (∀ fuel, Client.writePlayreadyKey platform fuel key value size.toInt ≠ .error .outside) ∧
      (InRange size → ∃ fuel ok handed, Client.writePlayreadyKey platform fuel key value size.toInt = .ok (ok, handed) ∧
        handedTo .unifykeyWrite handed = [value.take size.toInt.toNat])
  | .readPlayreadyKey key value size => Client.readPlayreadyKey platform key value size.toInt ≠ none ∧
      (InRange size → ∃ read, Client.readPlayreadyKey platform key value size.toInt = some read ∧
        ReadBack value (keyAnswer platform size.toInt) read)

def Sized (value : Bytes) (size : Int32) : Prop := size.toInt.toNat ≤ 4096 ∧ size.toInt.toNat ≤ value.length

-- Every text that atoi is given ends.
def LooksEnd : Prop := ∀ look, (∀ before < look, atoi (CStr.read (lockStr platform (before + 1))).bytes ≠ 0) →
  0 ∈ lockStr platform (look + 1)

def Inside : Call → Prop
  | .writeSysfs _ value size => Sized value size ∧ (InRange size → platform.opens 0 = true)
  | .writePlayreadyKey _ value size => Sized value size ∧ LooksEnd platform ∧
      (InRange size → platform.opens 3 = true ∧ ∃ look, atoi (CStr.read (lockStr platform (look + 1))).bytes = 0)
  | .readPlayreadyKey _ value size =>
      if platform.mallocs then
        ∀ bytes, keyAnswer platform size.toInt = some bytes → bytes.length ≤ 4096 ∧ bytes.length ≤ value.length ∧
          (InRange size → ∀ byte, bytes = [byte] → byte = 0)
      else platform.staleLen.toInt.toNat ≤ 4096 ∧ platform.staleLen.toInt.toNat ≤ value.length ∧
        (InRange size → platform.staleLen.toInt ≤ 0)

theorem narrow_widen (byte : UInt8) : narrow (widen platform byte) = byte := by
  have signed : ∀ byte : Fin 256, UInt8.ofInt (UInt8.ofNat byte).toInt8.toInt = UInt8.ofNat byte := by
    decide +kernel
  have unsigned : ∀ byte : Fin 256, UInt8.ofInt ((UInt8.ofNat byte).toNat : Int) = UInt8.ofNat byte := by
    decide +kernel
  rw [narrow, widen]
  split
  · simpa using signed ⟨byte.toNat, byte.toNat_lt⟩
  · simpa using unsigned ⟨byte.toNat, byte.toNat_lt⟩

theorem narrow_widen_map (bytes : Bytes) : (bytes.map (widen platform)).map narrow = bytes := by
  rw [List.map_map]
  exact (List.map_congr_left fun byte _ => narrow_widen platform byte).trans (List.map_id bytes)

theorem widen_all (value : Bytes) (size : Int32) (sized : Sized value size) :
    Client.widenAll platform value size.toInt =
      .ok ((value.take size.toInt.toNat).map (widen platform) ++ List.replicate (4096 - size.toInt.toNat) 0) := by
  have writes : size.toInt.toNat ≤ platform.stale.length := platform.sized ▸ sized.1
  rw [Client.widenAll, copy_loop_some _ _ _ _ sized.2 writes, Option.map_some, fill_copied _ _ _ _ _ sized.2,
    platform.sized]
  rfl

theorem widen_all_outside (value : Bytes) (size : Int32) (large : ¬Sized value size) :
    Client.widenAll platform value size.toInt = .error .outside := by
  have outside : copyLoop (widen platform) size.toInt.toNat value platform.stale = none := by
    rw [copy_loop_none_iff, platform.sized]
    exact fun inside => large inside.symm
  rw [Client.widenAll, outside]
  rfl

theorem narrow_all (value : Bytes) (rest : Nat) (whole : value.length + rest = 4096) :
    Hal.narrowAll (value.map (widen platform) ++ List.replicate rest 0) = .ok (value ++ zeros rest) := by
  have length : (value.map (widen platform) ++ List.replicate rest (0 : Int)).length = 4096 := by
    rw [List.length_append, List.length_map, List.length_replicate, whole]
  have room : 4096 ≤ (zeros 4096).length := List.length_replicate.ge
  have nothing : (zeros 4096).drop 4096 = [] := List.drop_eq_nil_of_le List.length_replicate.le
  have zero : narrow 0 = 0 := rfl
  rw [Hal.narrowAll, copy_loop_some narrow _ _ _ length.ge room, List.take_of_length_le length.le, nothing,
    List.append_nil, List.map_append, narrow_widen_map, List.map_replicate, zero]
  rfl

-- The array that arrives at the service.
def arrived (value : Bytes) (size : Int32) : Bytes := value.take size.toInt.toNat ++ zeros (4096 - size.toInt.toNat)

theorem narrow_widened (value : Bytes) (size : Int32) (sized : Sized value size) :
    Hal.narrowAll ((value.take size.toInt.toNat).map (widen platform) ++
      List.replicate (4096 - size.toInt.toNat) 0) = .ok (arrived value size) := by
  have whole : (value.take size.toInt.toNat).length + (4096 - size.toInt.toNat) = 4096 := by
    rw [List.length_take, Nat.min_eq_left sized.2, Nat.add_sub_cancel' sized.1]
  exact narrow_all platform _ _ whole

theorem client_write_sysfs (path : CStr) (value : Bytes) (size : Int32) (sized : Sized value size) :
    Client.writeSysfs platform path value size.toInt =
      SysWrite.writeSysfs platform path (arrived value size) size.toInt := by
  rw [Client.writeSysfs, widen_all platform value size sized]
  simp only [bind, Except.bind, Hal.writeSysfsBin, narrow_widened platform value size sized]

theorem client_write_playready (fuel : Nat) (key : CStr) (value : Bytes) (size : Int32) (sized : Sized value size) :
    Client.writePlayreadyKey platform fuel key value size.toInt =
      SysWrite.writePlayreadyKey platform fuel key (arrived value size) size.toInt := by
  rw [Client.writePlayreadyKey, widen_all platform value size sized]
  simp only [bind, Except.bind, Hal.writePlayreadyKey, narrow_widened platform value size sized]

theorem arrived_front (value : Bytes) (size : Int32) (sized : Sized value size) :
    (arrived value size).take size.toInt.toNat = value.take size.toInt.toNat ∧
      size.toInt.toNat ≤ (arrived value size).length := by
  have front : (value.take size.toInt.toNat).length = size.toInt.toNat := by
    rw [List.length_take, Nat.min_eq_left sized.2]
  refine ⟨List.take_left' front, ?_⟩
  rw [arrived, List.length_append, front]
  exact Nat.le_add_right _ _

-- The data is handed over unless the node does not open or the size is negative.
theorem write_sys_arrived (turn : Nat) (node : Node) (value : Bytes) (size : Int32) (handed : Handed)
    (sized : Sized value size) : ∃ ret, writeSys platform turn node (arrived value size) size.toInt handed =
      .ok (ret, handed ++ if platform.opens turn ∧ 0 ≤ size.toInt then [(node, value.take size.toInt.toNat)] else []) := by
  obtain ⟨front, room⟩ := arrived_front value size sized
  rw [writeSys]
  by_cases opens : platform.opens turn = true
  · by_cases negative : size.toInt < 0
    · have refused : ¬(platform.opens turn = true ∧ 0 ≤ size.toInt) := fun both => absurd both.2 (Int.not_le.mpr negative)
      rw [if_pos opens, if_pos negative, if_neg refused, List.append_nil]
      exact ⟨_, rfl⟩
    · have reaches : platform.opens turn = true ∧ 0 ≤ size.toInt := ⟨opens, Int.not_lt.mp negative⟩
      rw [if_pos opens, if_neg negative, if_pos room, if_pos reaches, front]
      exact ⟨_, rfl⟩
  · have closed : ¬(platform.opens turn = true ∧ 0 ≤ size.toInt) := fun both => opens both.1
    rw [if_neg opens, if_neg closed, List.append_nil]
    exact ⟨_, rfl⟩

theorem handed_to_append (node : Node) (first second : Handed) :
    handedTo node (first ++ second) = handedTo node first ++ handedTo node second := by
  rw [handedTo, List.filter_append, List.map_append]
  rfl

theorem handed_to_text (turn : Nat) (node other : Node) (val : Bytes) (handed : Handed) (apart : other ≠ node) :
    handedTo node (writeSysText platform turn other val handed) = handedTo node handed := by
  rw [writeSysText]
  split
  · rw [handed_to_append]
    simp [handedTo, apart]
  · rfl

theorem handed_to_data (node : Node) (data : Bytes) (reaches : Prop) [Decidable reaches] :
    handedTo node (if reaches then [(node, data)] else []) = if reaches then [data] else [] := by
  split
  · simp [handedTo]
  · rfl

theorem handed_once (data : Bytes) (reaches : Prop) [Decidable reaches] :
    (if reaches then [data] else []) = [data] ↔ reaches := by
  split <;> simp_all

theorem write_sysfs_transported (path : CStr) (value : Bytes) (size : Int32) :
    Transported platform (.writeSysfs path value size) ↔ Inside platform (.writeSysfs path value size) := by
  by_cases sized : Sized value size
  · obtain ⟨ret, written⟩ := write_sys_arrived platform 0 (.file path) value size [] sized
    have done := client_write_sysfs platform path value size sized
    rw [SysWrite.writeSysfs, written, List.nil_append] at done
    have once : handedTo (.file path) (if platform.opens 0 = true ∧ 0 ≤ size.toInt then
        [(Node.file path, value.take size.toInt.toNat)] else []) = [value.take size.toInt.toNat] ↔
        platform.opens 0 = true ∧ 0 ≤ size.toInt := by
      rw [handed_to_data, handed_once]
    constructor
    · rintro ⟨-, exact⟩
      refine ⟨sized, fun inRange => ?_⟩
      obtain ⟨ok, handed, result, whole⟩ := exact inRange
      rw [done] at result
      cases result
      exact (once.mp whole).1
    · rintro ⟨-, opens⟩
      refine ⟨fun fault => ?_, fun inRange => ⟨true, _, done, once.mpr ⟨opens inRange, inRange.1⟩⟩⟩
      rw [done] at fault
      cases fault
  · have fault : Client.writeSysfs platform path value size.toInt = .error .outside := by
      rw [Client.writeSysfs, widen_all_outside platform value size sized]
      rfl
    exact ⟨fun holds => absurd fault holds.1, fun inside => absurd inside.1 sized⟩

theorem looked_length (node : Option Bytes) (buf : Bytes) (sized : buf.length = 10) : (looked node buf).length = 10 := by
  cases node with
  | none => exact sized
  | some content =>
      simp only [looked, Option.elim_some, List.length_append, List.length_take, List.length_drop]
      omega

theorem read_sys_look (node : Option Bytes) (buf : Bytes) (sized : buf.length = 10) :
    ∃ ret, readSys node buf 10 = some (looked node buf, ret) := by
  cases node with
  | none => exact ⟨-1, rfl⟩
  | some content =>
      have room : 0 + (content.take 10).length ≤ buf.length := by
        rw [Nat.zero_add, sized]
        exact List.length_take_le 10 content
      have count : (10 : Int).toNat = 10 := rfl
      refine ⟨(content.take 10).length, ?_⟩
      rw [readSys, if_neg (by decide), overwrite, count, if_pos room, List.take_zero, List.nil_append,
        Nat.zero_add]
      rfl

theorem lock_str_length (look : Nat) : (lockStr platform look).length = 10 := by
  cases look with
  | zero => exact List.length_replicate
  | succ look =>
      exact looked_length _ _ (lock_str_length look)

-- What one look at the exist node does.
theorem wait_exist_step (fuel look : Nat) :
    waitExist platform (fuel + 1) look (lockStr platform look) =
      if 0 ∉ lockStr platform (look + 1) then .error .outside
      else if atoi (CStr.read (lockStr platform (look + 1))).bytes = 0 then .ok (look + 1)
      else waitExist platform fuel (look + 1) (lockStr platform (look + 1)) := by
  obtain ⟨ret, read⟩ := read_sys_look (platform.exist look) (lockStr platform look) (lock_str_length platform look)
  rw [waitExist, read]
  rfl

-- Looks that end and do not read 0 lead to the next one.
theorem wait_exist_skip (fuel count : Nat) (ends : ∀ look < count, 0 ∈ lockStr platform (look + 1))
    (present : ∀ look < count, atoi (CStr.read (lockStr platform (look + 1))).bytes ≠ 0) :
    waitExist platform (fuel + count) 0 (zeros 10) = waitExist platform fuel count (lockStr platform count) := by
  induction count generalizing fuel with
  | zero => rfl
  | succ count ih =>
      have earlier := ih (fuel + 1) (fun look less => ends look (Nat.lt_succ_of_lt less))
        fun look less => present look (Nat.lt_succ_of_lt less)
      rw [Nat.add_right_comm, Nat.add_assoc] at earlier
      rw [earlier, wait_exist_step, if_neg (not_not.mpr (ends count (Nat.lt_succ_self count))),
        if_neg (present count (Nat.lt_succ_self count))]

theorem wait_exist_inside (fuel look : Nat) (ends : LooksEnd platform)
    (present : ∀ before < look, atoi (CStr.read (lockStr platform (before + 1))).bytes ≠ 0) :
    waitExist platform fuel look (lockStr platform look) ≠ .error .outside := by
  induction fuel generalizing look with
  | zero => exact fun fault => by cases fault
  | succ fuel ih =>
      rw [wait_exist_step, if_neg (not_not.mpr (ends look present))]
      by_cases absent : atoi (CStr.read (lockStr platform (look + 1))).bytes = 0
      · rw [if_pos absent]
        exact fun fault => by cases fault
      · rw [if_neg absent]
        refine ih (look + 1) fun before less => ?_
        rcases Nat.lt_succ_iff_lt_or_eq.mp less with less | rfl
        · exact present before less
        · exact absent

theorem wait_exist_found (fuel look next : Nat)
    (found : waitExist platform fuel look (lockStr platform look) = .ok next) :
    ∃ look, atoi (CStr.read (lockStr platform (look + 1))).bytes = 0 := by
  induction fuel generalizing look with
  | zero => cases found
  | succ fuel ih =>
      by_cases absent : atoi (CStr.read (lockStr platform (look + 1))).bytes = 0
      · exact ⟨look, absent⟩
      · rw [wait_exist_step, if_neg absent] at found
        split at found
        · cases found
        · exact ih (look + 1) found

theorem wait_exist_outside (unended : ¬LooksEnd platform) :
    ∃ fuel, waitExist platform fuel 0 (zeros 10) = .error .outside := by
  have some_look : ∃ look, (∀ before < look, atoi (CStr.read (lockStr platform (before + 1))).bytes ≠ 0) ∧
      0 ∉ lockStr platform (look + 1) := by
    simpa [LooksEnd] using unended
  classical
  obtain ⟨present, missingEnd⟩ := Nat.find_spec some_look
  have ends (look : Nat) (less : look < Nat.find some_look) : 0 ∈ lockStr platform (look + 1) := by
    by_contra missing
    exact Nat.find_min some_look less ⟨fun before lessToo => present before (lessToo.trans less), missing⟩
  refine ⟨1 + Nat.find some_look, ?_⟩
  rw [wait_exist_skip platform 1 _ ends present, wait_exist_step, if_pos missingEnd]

theorem wait_exist_ends (ends : LooksEnd platform)
    (absent : ∃ look, atoi (CStr.read (lockStr platform (look + 1))).bytes = 0) :
    ∃ fuel next, waitExist platform fuel 0 (zeros 10) = .ok next := by
  have present (look : Nat) (less : look < Nat.find absent) := Nat.find_min absent less
  have ended (look : Nat) (bound : look ≤ Nat.find absent) : 0 ∈ lockStr platform (look + 1) :=
    ends look fun before less => present before (Nat.lt_of_lt_of_le less bound)
  refine ⟨1 + Nat.find absent, Nat.find absent + 1, ?_⟩
  rw [wait_exist_skip platform 1 _ (fun look less => ended look less.le) present, wait_exist_step,
    if_neg (not_not.mpr (ended _ le_rfl)), if_pos (Nat.find_spec absent)]

-- Once the wait is over the data is handed over, and the lock is written around it.
theorem write_playready_ok (fuel next : Nat) (key : CStr) (value : Bytes) (size : Int32) (sized : Sized value size)
    (waited : waitExist platform fuel 0 (zeros 10) = .ok next) :
    ∃ ret handed, writePlayreadyKeyfs platform fuel key (arrived value size) size.toInt = .ok (ret, handed) ∧
      handedTo .unifykeyWrite handed =
        if platform.opens 3 ∧ 0 ≤ size.toInt then [value.take size.toInt.toNat] else [] := by
  let before := writeSysText platform 2 .unifykeyLock (ascii ['1']) (selectKey platform key)
  have nothing : handedTo .unifykeyWrite before = [] := by
    simp only [before, selectKey]
    rw [handed_to_text _ _ _ _ _ _ (by decide), handed_to_text _ _ _ _ _ _ (by decide),
      handed_to_text _ _ _ _ _ _ (by decide)]
    rfl
  obtain ⟨keyLen, written⟩ := write_sys_arrived platform 3 .unifykeyWrite value size before sized
  obtain ⟨len, existKey⟩ := read_sys_look (platform.exist next) (zeros 10) List.length_replicate
  have after (ret : Int) : ∃ handed, (Except.ok (ret, writeSysText platform 4 .unifykeyLock (ascii ['0']) (before ++
        if platform.opens 3 ∧ 0 ≤ size.toInt then [(.unifykeyWrite, value.take size.toInt.toNat)] else [])) :
          Except Stop (Int × Handed)) = .ok (ret, handed) ∧ handedTo .unifykeyWrite handed =
        if platform.opens 3 ∧ 0 ≤ size.toInt then [value.take size.toInt.toNat] else [] := by
    refine ⟨_, rfl, ?_⟩
    rw [handed_to_text _ _ _ _ _ _ (by decide), handed_to_append, nothing, List.nil_append, handed_to_data]
  rw [writePlayreadyKeyfs]
  simp only [waited, bind, Except.bind]
  rw [written]
  by_cases failed : keyLen = 0
  · simp only [failed, ne_eq, not_true_eq_false, if_false, existKey, within, Option.elim_some]
    split
    · exact ⟨-1, after (-1)⟩
    · exact ⟨0, after 0⟩
  · simp only [ne_eq, failed, not_false_eq_true, if_true]
    exact ⟨-1, after (-1)⟩

theorem write_playready_stopped (fuel : Nat) (key : CStr) (value : Bytes) (size : Int) (stop : Stop)
    (stopped : waitExist platform fuel 0 (zeros 10) = .error stop) :
    SysWrite.writePlayreadyKey platform fuel key value size = .error stop := by
  rw [SysWrite.writePlayreadyKey, writePlayreadyKeyfs]
  simp only [stopped, bind, Except.bind, Except.map]

theorem write_playready_transported (key : CStr) (value : Bytes) (size : Int32) :
    Transported platform (.writePlayreadyKey key value size) ↔ Inside platform (.writePlayreadyKey key value size) := by
  by_cases sized : Sized value size
  · have through (fuel : Nat) := client_write_playready platform fuel key value size sized
    have done (fuel next : Nat) (waited : waitExist platform fuel 0 (zeros 10) = .ok next) :
        ∃ ok handed, Client.writePlayreadyKey platform fuel key value size.toInt = .ok (ok, handed) ∧
          (handedTo .unifykeyWrite handed = [value.take size.toInt.toNat] ↔
            platform.opens 3 = true ∧ 0 ≤ size.toInt) := by
      obtain ⟨ret, handed, result, data⟩ := write_playready_ok platform fuel next key value size sized waited
      refine ⟨decide (ret = 0), handed, ?_, ?_⟩
      · rw [through, SysWrite.writePlayreadyKey, result]
        rfl
      · rw [data, handed_once]
    constructor
    · rintro ⟨noFault, exact⟩
      refine ⟨sized, ?_, fun inRange => ?_⟩
      · by_contra unended
        obtain ⟨fuel, fault⟩ := wait_exist_outside platform unended
        exact noFault fuel ((through fuel).trans (write_playready_stopped platform fuel key _ _ _ fault))
      · obtain ⟨fuel, ok, handed, result, whole⟩ := exact inRange
        cases waited : waitExist platform fuel 0 (zeros 10) with
        | error stop =>
            rw [through, write_playready_stopped platform fuel key _ _ stop waited] at result
            cases result
        | ok next =>
            obtain ⟨okToo, handedToo, resultToo, reaches⟩ := done fuel next waited
            rw [result] at resultToo
            cases resultToo
            exact ⟨(reaches.mp whole).1, wait_exist_found platform fuel 0 next waited⟩
    · rintro ⟨-, ends, reaches⟩
      refine ⟨fun fuel fault => ?_, fun inRange => ?_⟩
      · cases waited : waitExist platform fuel 0 (zeros 10) with
        | error stop =>
            rw [through, write_playready_stopped platform fuel key _ _ stop waited] at fault
            cases fault
            exact wait_exist_inside platform fuel 0 ends (fun before less => absurd less (Nat.not_lt_zero before)) waited
        | ok next =>
            obtain ⟨ok, handed, result, -⟩ := done fuel next waited
            rw [result] at fault
            cases fault
      · obtain ⟨opens, absent⟩ := reaches inRange
        obtain ⟨fuel, next, waited⟩ := wait_exist_ends platform ends absent
        obtain ⟨ok, handed, result, whole⟩ := done fuel next waited
        exact ⟨fuel, ok, handed, result, whole.mpr ⟨opens, inRange.1⟩⟩
  · have fault : Client.writePlayreadyKey platform 0 key value size.toInt = .error .outside := by
      rw [Client.writePlayreadyKey, widen_all_outside platform value size sized]
      rfl
    exact ⟨fun holds => absurd fault (holds.1 0), fun inside => absurd inside.1 sized⟩

-- What SysWrite passes on of a key node's answer.
def passed (bytes : Bytes) : Bytes := if 1 < bytes.length then bytes else zeros bytes.length

theorem passed_length (bytes : Bytes) : (passed bytes).length = bytes.length := by
  rw [passed]
  split
  · rfl
  · exact List.length_replicate

theorem passed_iff (bytes : Bytes) : passed bytes = bytes ↔ ∀ byte, bytes = [byte] → byte = 0 := by
  rcases bytes with _ | ⟨byte, _ | ⟨second, rest⟩⟩
  · simp [passed, zeros]
  · simp [passed, zeros, eq_comm]
  · simp [passed]

theorem take_whole (bytes : Bytes) : (bytes ++ zeros (4096 - bytes.length)).take bytes.length = bytes :=
  List.take_left

theorem key_answer_some (size : Int) (bytes : Bytes) (answered : keyAnswer platform size = some bytes) :
    platform.mallocs = true ∧ (CStr.read (looked (platform.exist 0) (zeros 10))).bytes ≠ ascii ['0'] ∧ ¬size < 0 ∧
      ∃ content, platform.key = some content ∧ content.take size.toNat = bytes := by
  by_cases refused : platform.mallocs = false ∨ (CStr.read (lockStr platform 1)).bytes = ascii ['0'] ∨ size < 0
  · rw [keyAnswer, if_pos refused] at answered
    cases answered
  · rw [keyAnswer, if_neg refused] at answered
    obtain ⟨memory, present, positive⟩ := by simpa only [not_or] using refused
    exact ⟨by simpa using memory, present, positive, Option.map_eq_some_iff.mp answered⟩

theorem read_unify_none (key : CStr) (size : Int) (memory : platform.mallocs = true)
    (silent : keyAnswer platform size = none) :
    ∃ ret, ret ≤ 0 ∧ readUnifyKeyfs platform key (zeros 4096) size = some ⟨ret, zeros 4096, selectKey platform key⟩ := by
  obtain ⟨len, existKey⟩ := read_sys_look (platform.exist 0) (zeros 10) List.length_replicate
  rw [readUnifyKeyfs, existKey]
  by_cases missing : (CStr.read (looked (platform.exist 0) (zeros 10))).bytes = ascii ['0']
  · exact ⟨0, Int.le_refl 0, if_pos missing⟩
  · refine ⟨-1, by decide, (if_neg missing).trans ?_⟩
    cases stored : platform.key with
    | none => rfl
    | some content =>
        have negative : size < 0 := by
          by_contra positive
          have asked : ¬(platform.mallocs = false ∨ (CStr.read (lockStr platform 1)).bytes = ascii ['0'] ∨ size < 0) := by
            rintro (noMemory | zero | negative)
            · exact absurd (memory.symm.trans noMemory) (by decide)
            · exact missing zero
            · exact positive negative
          rw [keyAnswer, if_neg asked, stored] at silent
          cases silent
        rw [readSys, if_pos negative]
        rfl

theorem read_unify_some (key : CStr) (size : Int) (bytes : Bytes) (answered : keyAnswer platform size = some bytes) :
    readUnifyKeyfs platform key (zeros 4096) size =
      if bytes.length ≤ 4096 then
        some ⟨bytes.length, bytes ++ zeros (4096 - bytes.length), selectKey platform key⟩
      else none := by
  obtain ⟨memory, present, positive, content, stored, rfl⟩ := key_answer_some platform size bytes answered
  obtain ⟨len, existKey⟩ := read_sys_look (platform.exist 0) (zeros 10) List.length_replicate
  have length : (zeros 4096).length = 4096 := List.length_replicate
  rw [readUnifyKeyfs, existKey]
  refine (if_neg present).trans ?_
  rw [stored, readSys, if_neg positive, overwrite, Nat.zero_add, length, List.take_zero, List.nil_append, zeros,
    List.drop_replicate]
  by_cases room : (content.take size.toNat).length ≤ 4096
  · rw [if_pos room, if_pos room]
    rfl
  · rw [if_neg room, if_neg room]
    rfl

theorem sys_write_read_none (key : CStr) (size : Int) (memory : platform.mallocs = true)
    (silent : keyAnswer platform size = none) :
    ∃ ret, ret ≤ 0 ∧ SysWrite.readPlayreadyKey platform key (zeros 4096) size =
      some ⟨ret, zeros 4096, selectKey platform key⟩ := by
  obtain ⟨ret, low, read⟩ := read_unify_none platform key size memory silent
  have short : ¬1 < ret := by omega
  refine ⟨ret, low, ?_⟩
  rw [SysWrite.readPlayreadyKey, read, Option.bind_some]
  simp only [if_neg short]

theorem sys_write_read_some (key : CStr) (size : Int) (bytes : Bytes) (answered : keyAnswer platform size = some bytes) :
    SysWrite.readPlayreadyKey platform key (zeros 4096) size =
      if bytes.length ≤ 4096 then
        some ⟨bytes.length, passed bytes ++ zeros (4096 - bytes.length), selectKey platform key⟩
      else none := by
  rw [SysWrite.readPlayreadyKey, read_unify_some platform key size bytes answered]
  by_cases room : bytes.length ≤ 4096
  · rw [if_pos room, if_pos room, Option.bind_some]
    by_cases long : 1 < bytes.length
    · have longInt : (1 : Int) < bytes.length := Int.ofNat_lt.mpr long
      have reads : bytes.length ≤ (bytes ++ zeros (4096 - bytes.length)).length := by
        rw [List.length_append]
        exact Nat.le_add_right _ _
      have writes : bytes.length ≤ (zeros 4096).length := room.trans List.length_replicate.ge
      simp only [if_pos longInt, Int.toNat_natCast]
      rw [copy_loop_some id _ _ _ reads writes, take_whole, List.map_id, passed, if_pos long, zeros, zeros,
        List.drop_replicate]
      rfl
    · have shortInt : ¬(1 : Int) < bytes.length := mt Int.ofNat_lt.mp long
      have whole : zeros bytes.length ++ zeros (4096 - bytes.length) = zeros 4096 := by
        rw [zeros, zeros, List.replicate_append_replicate, Nat.add_sub_cancel' room, zeros]
      simp only [if_neg shortInt]
      rw [passed, if_neg long, whole]
  · rw [if_neg room, if_neg room]
    rfl

theorem client_read_none (key : CStr) (value : Bytes) (size : Int) (memory : platform.mallocs = true)
    (silent : keyAnswer platform size = none) :
    ∃ ret, ret ≤ 0 ∧ Client.readPlayreadyKey platform key value size = some ⟨ret, value, selectKey platform key⟩ := by
  obtain ⟨ret, low, read⟩ := sys_write_read_none platform key size memory silent
  have nothing : ret.toNat = 0 := Int.toNat_of_nonpos low
  refine ⟨ret, low, ?_⟩
  simp only [Client.readPlayreadyKey, Hal.readPlayreadyKey, memory, if_true, read, Option.bind_some, nothing, copyLoop,
    Option.map_some]

theorem client_read_some (key : CStr) (value : Bytes) (size : Int) (bytes : Bytes)
    (answered : keyAnswer platform size = some bytes) (array : bytes.length ≤ 4096) (room : bytes.length ≤ value.length) :
    Client.readPlayreadyKey platform key value size =
      some ⟨bytes.length, passed bytes ++ value.drop bytes.length, selectKey platform key⟩ := by
  have memory := (key_answer_some platform size bytes answered).1
  have reads : bytes.length ≤ (passed bytes ++ zeros (4096 - bytes.length)).length := by
    rw [List.length_append, passed_length]
    exact Nat.le_add_right _ _
  have front : (passed bytes ++ zeros (4096 - bytes.length)).take bytes.length = passed bytes :=
    List.take_left' (passed_length bytes)
  have stale : bytes.length ≤ platform.stale.length := platform.sized ▸ array
  have widened : ((passed bytes).map (widen platform)).length = bytes.length := by
    rw [List.length_map, passed_length]
  have filled (rest : List Int) : bytes.length ≤ ((passed bytes).map (widen platform) ++ rest).length := by
    rw [List.length_append, widened]
    exact Nat.le_add_right _ _
  simp only [Client.readPlayreadyKey, Hal.readPlayreadyKey, memory, if_true,
    sys_write_read_some platform key size bytes answered, if_pos array, Option.bind_some, Int.toNat_natCast]
  rw [copy_loop_some _ _ _ _ reads stale, Option.map_some, fill_copied _ _ _ _ _ reads, front, Option.bind_some]
  simp only [Int.toNat_natCast]
  rw [copy_loop_some id _ _ _ (filled _) stale, Option.bind_some, List.take_left' widened, List.map_id,
    copy_loop_some narrow _ _ _ (filled _) room, List.take_left' widened, narrow_widen_map]
  rfl

theorem client_read_outside (key : CStr) (value : Bytes) (size : Int) (bytes : Bytes)
    (answered : keyAnswer platform size = some bytes) (large : ¬(bytes.length ≤ 4096 ∧ bytes.length ≤ value.length)) :
    Client.readPlayreadyKey platform key value size = none := by
  have memory := (key_answer_some platform size bytes answered).1
  by_cases array : bytes.length ≤ 4096
  · have tooSmall : ¬bytes.length ≤ value.length := fun room => large ⟨array, room⟩
    have outside (result : List Int) : copyLoop narrow bytes.length result value = none :=
      (copy_loop_none_iff narrow _ _ _).mpr fun both => tooSmall both.2
    simp only [Client.readPlayreadyKey, Hal.readPlayreadyKey, memory, if_true,
      sys_write_read_some platform key size bytes answered, if_pos array, Option.bind_some, Int.toNat_natCast]
    cases copyLoop (widen platform) bytes.length (passed bytes ++ zeros (4096 - bytes.length)) platform.stale with
    | none => rfl
    | some result =>
        simp only [Option.map_some, Option.bind_some, Int.toNat_natCast, outside, Option.map_none]
        cases copyLoop id bytes.length (fillFrom result bytes.length 0) platform.stale <;> rfl
  · simp only [Client.readPlayreadyKey, Hal.readPlayreadyKey, memory, if_true,
      sys_write_read_some platform key size bytes answered, if_neg array, Option.bind_none]

theorem read_playready_stale (key : CStr) (value : Bytes) (size : Int) (noMemory : platform.mallocs = false) :
    Client.readPlayreadyKey platform key value size =
      (copyLoop narrow platform.staleLen.toInt.toNat platform.stale value).map fun value =>
        ⟨platform.staleLen.toInt, value, []⟩ := by
  simp only [Client.readPlayreadyKey, Hal.readPlayreadyKey, noMemory, Bool.false_eq_true, if_false, Option.bind_some]

theorem read_playready_transported (key : CStr) (value : Bytes) (size : Int32) :
    Transported platform (.readPlayreadyKey key value size) ↔ Inside platform (.readPlayreadyKey key value size) := by
  cases memory : platform.mallocs with
  | false =>
      have silent : keyAnswer platform size.toInt = none := if_pos (.inl memory)
      have read := read_playready_stale platform key value size.toInt memory
      have length := platform.sized
      simp only [Transported, Inside, memory, Bool.false_eq_true, if_false, silent]
      constructor
      · rintro ⟨noFault, exact⟩
        obtain ⟨result, found⟩ := Option.ne_none_iff_exists'.mp noFault
        obtain ⟨copied, inside, -⟩ := Option.map_eq_some_iff.mp (read.symm.trans found)
        have bounds := copy_loop_inside narrow _ _ _ _ inside
        rw [length] at bounds
        refine ⟨bounds.1, bounds.2, fun inRange => ?_⟩
        obtain ⟨back, foundToo, low, -⟩ := exact inRange
        obtain ⟨again, -, rfl⟩ := Option.map_eq_some_iff.mp (read.symm.trans foundToo)
        exact low
      · rintro ⟨array, room, low⟩
        have inside := copy_loop_some narrow _ platform.stale value (length ▸ array) room
        rw [inside] at read
        refine ⟨fun fault => ?_, fun inRange => ⟨_, read, low inRange, ?_⟩⟩
        · rw [read] at fault
          cases fault
        · simp only [Int.toNat_of_nonpos (low inRange), List.take_zero, List.map_nil, List.drop_zero, List.nil_append]
  | true =>
      cases answered : keyAnswer platform size.toInt with
      | none =>
          obtain ⟨ret, low, read⟩ := client_read_none platform key value size.toInt memory answered
          have holds : Transported platform (.readPlayreadyKey key value size) := by
            simp only [Transported, answered, read]
            exact ⟨Option.some_ne_none _, fun _ => ⟨_, rfl, low, rfl⟩⟩
          have inside : Inside platform (.readPlayreadyKey key value size) := by
            simp only [Inside, memory, if_true, answered]
            exact fun bytes answer => by cases answer
          exact iff_of_true holds inside
      | some bytes =>
          simp only [Transported, Inside, memory, if_true, answered, Option.some.injEq, forall_eq']
          by_cases inside : bytes.length ≤ 4096 ∧ bytes.length ≤ value.length
          · rw [client_read_some platform key value size.toInt bytes answered inside.1 inside.2]
            have same : passed bytes ++ value.drop bytes.length = bytes ++ value.drop bytes.length ↔
                ∀ byte, bytes = [byte] → byte = 0 := by
              rw [List.append_left_inj, passed_iff]
            constructor
            · rintro ⟨-, exact⟩
              refine ⟨inside.1, inside.2, fun inRange => ?_⟩
              obtain ⟨read, found, -, whole⟩ := exact inRange
              cases found
              exact same.mp whole
            · rintro ⟨-, -, single⟩
              exact ⟨Option.some_ne_none _, fun inRange => ⟨_, rfl, rfl, same.mpr (single inRange)⟩⟩
          · rw [client_read_outside platform key value size.toInt bytes answered inside]
            exact ⟨fun holds => absurd rfl holds.1, fun holds => absurd ⟨holds.1, holds.2.1⟩ inside⟩

end

theorem key_transport_iff (platform : Platform) (call : Call) : Transported platform call ↔ Inside platform call := by
  cases call with
  | writeSysfs path value size => exact write_sysfs_transported platform path value size
  | writePlayreadyKey key value size => exact write_playready_transported platform key value size
  | readPlayreadyKey key value size => exact read_playready_transported platform key value size

-- 4097 bytes run past the client's array.
theorem key_transport_overruns : ¬ ∀ (platform : Platform) (call : Call), Transported platform call := by
  intro all
  let platform : Platform := {
    signedChar := false
    opens := fun _ => true
    written := 4097
    exist := fun _ => none
    key := none
    mallocs := true
    staleLen := 0
    stale := List.replicate 4096 0
    sized := List.length_replicate }
  have inside := (write_sysfs_transported platform CStr.empty (zeros 4097) 4097).mp (all platform (.writeSysfs _ _ _))
  exact absurd inside.1.1 (by decide)

end Droidlogic.Service
