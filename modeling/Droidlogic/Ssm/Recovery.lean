import Droidlogic.Ssm.Access

set_option autoImplicit false

namespace Droidlogic.Ssm

open Droidlogic.Lib

def encodeSection1 (section1 : SSMHeaderSection1) : Bytes :=
  le32 section1.magic ++ le32 section1.version ++ le32 section1.count ++ section1.rsv.flatMap le32

def encodeSection2 (entry : SSMHeaderSection2) : Bytes :=
  le32 entry.addr ++ le32 entry.size ++ le32 entry.valid ++ entry.rest

def decodeSection2 (memory : Bytes) : SSMHeaderSection2 :=
  ⟨word32 memory, word32 (memory.drop 4), word32 (memory.drop 8), (memory.drop 12).take 8⟩

-- What the program finds in memory it has not written or no longer owns: the
-- local entry of SSMSaveCurrentHeader, the block malloc hands out (none: no
-- memory) with the bytes behind it, and the elements of the destroyed vector.
structure Memory where
  temp : Bytes
  malloc : UInt32 → Option Bytes
  behind : Bytes
  destroyed : List SSMHeaderSection2 → Nat → SSMHeaderSection2

def readEntries (temp : Bytes) : Nat → File → List SSMHeaderSection2 × File
  | 0, hdr => ([], hdr)
  | left + 1, hdr =>
      let got := hdr.read 20
      let entry := decodeSection2 (got.1 ++ temp.drop got.1.length)
      let rest := readEntries temp left got.2
      (entry :: rest.1, rest.2)

-- header_section2_data is &vsection2[0]: the vector ends with the call.
structure CurrentHeader where
  size : UInt32
  header_section2_data : Nat → SSMHeaderSection2

def ssmSaveCurrentHeader (memory : Memory) (hdr : File) : Int × CurrentHeader × File :=
  let vsection2 := readEntries memory.temp gSSMHeaderSection1.count.toNat (hdr.lseek 36)
  (0, ⟨vsection2.1.foldl (fun size temp => size + temp.size) 0, memory.destroyed vsection2.1⟩, vsection2.2)

def ssmRecreateHeader (hdr : File) : Bool × File :=
  (true, (((hdr.ftruncate 0).lseek 0).write (encodeSection1 gSSMHeaderSection1)).write (layout.flatMap encodeSection2))

-- SSMBuff is an int pointer, so adding addr to it moves by four bytes each.
def moveEntry (memory : Memory) (stack : UInt32) (header_cur : CurrentHeader) (ssmBuff : Bytes) (dev : File) (i : Nat) :
    File :=
  if (header_cur.header_section2_data i).size = ssmGetActualSize i then
    (writeBytes (ssmGetActualAddr i).toInt32 (ssmGetActualSize i).toNat
      ((ssmBuff ++ memory.behind).drop (4 * (header_cur.header_section2_data i).addr.toNat)) dev).2
  else (ssmRestoreDefault stack i false dev).2

-- The files afterwards: header, then data.
def ssmRecovery (memory : Memory) (stack : UInt32) (hdr dev : File) : Bool × File × File :=
  let saved := ssmSaveCurrentHeader memory hdr
  let header_cur := saved.2.1
  let ret := decide (saved.1 ≠ 0)
  match memory.malloc header_cur.size with
  | none => (false, saved.2.2, dev)
  | some ssmBuff =>
      if ret then
        let filled := readBytes 0 header_cur.size.toNat ssmBuff dev
        let erased := (eraseAllData filled.2.2).2
        let moved := (List.range gSSMHeaderSection1.count.toNat).foldl (moveEntry memory stack header_cur filled.2.1) erased
        let recreated := ssmRecreateHeader saved.2.2
        (recreated.1, recreated.2, moved)
      else (ret, saved.2.2, dev)

-- An old header file and the data file that goes with it.
structure OldDevice where
  section1 : SSMHeaderSection1
  entries : List SSMHeaderSection2
  data : Bytes
  counted : entries.length = 297
  reserved : section1.rsv.length = 6 ∧ ∀ entry ∈ entries, entry.rest.length = 8
  packed : ∀ id, id < 297 → (entries.getD id noEntry).addr.toNat = slotStart (sizesOf entries) id
  total : data.length = slotStart (sizesOf entries) 297

namespace OldDevice

def headerFile (old : OldDevice) : Bytes := encodeSection1 old.section1 ++ old.entries.flatMap encodeSection2

def slot (old : OldDevice) (id : Nat) : Bytes :=
  fetch old.data (old.entries.getD id noEntry).addr.toNat (old.entries.getD id noEntry).size.toNat

end OldDevice

def newSlot (bytes : Bytes) (id : Nat) : Bytes := fetch bytes (ssmGetActualAddr id).toNat (ssmGetActualSize id).toNat

structure Migrated (old : OldDevice) (result : Bool × File × File) : Prop where
  succeeded : result.1 = true
  kept : ∀ id, id < 297 → (old.entries.getD id noEntry).size = ssmGetActualSize id →
    newSlot result.2.2.bytes id = old.slot id
  defaulted : ∀ id, id < 297 → (old.entries.getD id noEntry).size ≠ ssmGetActualSize id →
    ∃ stack, newSlot result.2.2.bytes id = newSlot (ssmRestoreDefault stack id false ⟨[], 0, []⟩).2.bytes id
  described : result.2.1.bytes = encodeSection1 gSSMHeaderSection1 ++ layout.flatMap encodeSection2

theorem read_entries_bytes (temp : Bytes) (left : Nat) (hdr : File) : (readEntries temp left hdr).2.bytes = hdr.bytes := by
  induction left generalizing hdr with
  | zero => rfl
  | succ left ih => rw [readEntries, ih, File.read_bytes]

-- The 0 that SSMSaveCurrentHeader returns for success is false as a bool.
theorem recovery_skipped (memory : Memory) (stack : UInt32) (hdr dev : File) :
    (ssmRecovery memory stack hdr dev).1 = false ∧ (ssmRecovery memory stack hdr dev).2.1.bytes = hdr.bytes ∧
      (ssmRecovery memory stack hdr dev).2.2 = dev := by
  have header : (ssmSaveCurrentHeader memory hdr).2.2.bytes = hdr.bytes := by
    rw [ssmSaveCurrentHeader, read_entries_bytes, File.lseek_bytes]
  have code : (ssmSaveCurrentHeader memory hdr).1 = 0 := rfl
  have ret : decide ((ssmSaveCurrentHeader memory hdr).1 ≠ 0) = false := by rw [code]; rfl
  simp only [ssmRecovery, ret]
  cases allocated : memory.malloc (ssmSaveCurrentHeader memory hdr).2.1.size with
  | none => exact ⟨rfl, header, rfl⟩
  | some ssmBuff => exact ⟨rfl, header, rfl⟩

-- Wherever the descriptors stand and whatever the writes would take.
theorem recovery_never_migrates (old : OldDevice) (memory : Memory) (stack : UInt32) (hdrPos devPos : Nat)
    (hdrShorts devShorts : List Nat) :
    ¬ Migrated old (ssmRecovery memory stack ⟨old.headerFile, hdrPos, hdrShorts⟩ ⟨old.data, devPos, devShorts⟩) := by
  intro migrated
  have succeeded := migrated.succeeded
  rw [(recovery_skipped memory stack _ _).1] at succeeded
  cases succeeded

-- The header and a blank data file of the current layout.
def currentDevice : OldDevice where
  section1 := gSSMHeaderSection1
  entries := layout
  data := List.replicate (slotStart sizes 297) 0
  counted := by decide +kernel
  reserved := by decide +kernel
  packed := by
    intro id listed
    rw [layout, ssm_handler_sizes, sizes_of_table]
    exact actual_addr id listed
  total := by rw [List.length_replicate, layout, ssm_handler_sizes, sizes_of_table]

def noMemory : Memory := ⟨[], fun size => some (List.replicate size.toNat 0), [], fun entries id => entries.getD id noEntry⟩

-- Fails although the destroyed vector's memory keeps its contents.
theorem recovery_fails :
    ¬ ∀ (old : OldDevice) (memory : Memory) (stack : UInt32),
      Migrated old (ssmRecovery memory stack ⟨old.headerFile, 0, []⟩ ⟨old.data, 0, []⟩) := by
  intro claim
  have succeeded := (claim currentDevice noMemory 0).succeeded
  rw [(recovery_skipped noMemory 0 _ _).1] at succeeded
  cases succeeded

end Droidlogic.Ssm
