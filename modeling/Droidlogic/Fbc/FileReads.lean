import Droidlogic.Fbc.Upgrade

set_option autoImplicit false

namespace Droidlogic.Fbc

open Droidlogic.Lib

def InFile (file : UpgradeFile) (start count : Int) : Prop := 0 ≤ start ∧ start + count ≤ file.mBinFileSize

instance (file : UpgradeFile) (start count : Int) : Decidable (InFile file start count) :=
  inferInstanceAs (Decidable (_ ∧ _))

-- A load without a result has let check_partition read outside the file.
def ReadsOnlyFile (access : FileAccess) : Prop :=
  (∃ loaded, loadUpgradeFile access = some (.ok loaded)) ∧
    ∀ (setup : Setup) (file : UpgradeFile) (sections : List SectionInfo) (events : List TransferEvent) (t : Transfer),
      setup.access = access → prepare setup = some (.ok (file, sections)) →
        run (threadLoopStep file setup.mUpgradeBlockSize) (beginTransfer sections) events = some t →
          t.position = .block → InFile file t.start (t.blockCount setup.mUpgradeBlockSize)

def RangeInside (file : UpgradeFile) (offset size : UInt32) : Prop :=
  offset = 0 ∨ size = 0 ∨ offset.toNat + size.toNat ≤ file.mBinFileSize

def SectionInside (file : UpgradeFile) (info : SectionInfo) : Prop :=
  0 < (transferRange info).2 → InFile file (transferRange info).1 (transferRange info).2

instance (file : UpgradeFile) (offset size : UInt32) : Decidable (RangeInside file offset size) :=
  inferInstanceAs (Decidable (_ ∨ _))

instance (file : UpgradeFile) (info : SectionInfo) : Decidable (SectionInside file info) :=
  inferInstanceAs (Decidable (_ → _))

theorem slice_some (file : UpgradeFile) (start count : Int) (nonneg : 0 ≤ count) :
    (∃ bytes, file.slice start count = some bytes) ↔ InFile file start count := by
  by_cases inside : 0 ≤ start ∧ 0 ≤ count ∧ start + count ≤ file.mBinFileSize
  · rw [UpgradeFile.slice, if_pos inside]
    exact ⟨fun _ => ⟨inside.1, inside.2.2⟩, fun _ => ⟨_, rfl⟩⟩
  · rw [UpgradeFile.slice, if_neg inside]
    constructor
    · rintro ⟨bytes, none⟩
      cases none
    · intro within
      exact absurd ⟨within.1, nonneg, within.2⟩ inside

theorem check_range_some (file : UpgradeFile) (offset size crc : UInt32) :
    (∃ result, checkRange file offset size crc = some result) ↔ RangeInside file offset size := by
  by_cases used : offset ≠ 0 ∧ size ≠ 0
  · rw [checkRange, if_pos used]
    have within : InFile file offset.toNat size.toNat ↔ RangeInside file offset size := by
      simp only [InFile, RangeInside, used.1, used.2, false_or]
      omega
    rw [← within, ← slice_some file _ _ (Int.natCast_nonneg _)]
    constructor
    · rintro ⟨result, mapped⟩
      obtain ⟨bytes, read, _⟩ := Option.map_eq_some_iff.mp mapped
      exact ⟨bytes, read⟩
    · rintro ⟨bytes, read⟩
      exact ⟨_, Option.map_eq_some_iff.mpr ⟨bytes, read, rfl⟩⟩
  · rw [checkRange, if_neg used]
    refine ⟨fun _ => ?_, fun _ => ⟨_, rfl⟩⟩
    by_cases zero : offset = 0
    · exact .inl zero
    · exact .inr (.inl (not_not.mp fun other => used ⟨zero, other⟩))

theorem check_partition_some (file : UpgradeFile) (info : PartitionInfo) :
    (∃ valid, check_partition file info = some valid) ↔
      RangeInside file info.code_offset info.code_size ∧ RangeInside file info.data_offset info.data_size := by
  rw [← check_range_some file info.code_offset info.code_size 0]
  cases code : checkRange file info.code_offset info.code_size 0 with
  | none => simp [check_partition, code]
  | some result =>
      rw [← check_range_some file info.data_offset info.data_size result.1]
      cases data : checkRange file info.data_offset info.data_size result.1 <;> simp [check_partition, code, data]

-- A file that is not refused is one whose check has passed or has read outside.
theorem load_accepted (access : FileAccess) (accepted : ∀ code, loadUpgradeFile access ≠ some (.error code)) :
    (∃ loaded, loadUpgradeFile access = some (.ok loaded)) ↔
      ∃ valid, check_partition ⟨access.st_size, access.bytes⟩
        (getPartitionInfoUpgFile ⟨access.st_size, access.bytes⟩ .firstBoot) = some valid := by
  have opened : ¬ access.opened = false := fun closed => accepted _ (by rw [loadUpgradeFile, if_pos closed])
  have size : ¬ (access.st_size ≠ 0x200000 ∧ access.st_size ≠ 0x400000) :=
    fun other => accepted _ (by rw [loadUpgradeFile, if_neg opened, if_pos other])
  have read : ¬ (access.rw_size ≠ access.st_size ∨ access.rw_size ≤ 0) :=
    fun short => accepted _ (by rw [loadUpgradeFile, if_neg opened, if_neg size, if_pos short])
  have load := accepted ERR_DATA_CRC_ERROR
  rw [loadUpgradeFile, if_neg opened, if_neg size, if_neg read] at load ⊢
  cases checked : check_partition ⟨access.st_size, access.bytes⟩
      (getPartitionInfoUpgFile ⟨access.st_size, access.bytes⟩ .firstBoot) with
  | none => simp [checked]
  | some valid =>
      cases valid with
      | false => simp [checked] at load
      | true => simp [checked]

section
variable (file : UpgradeFile) (mUpgradeBlockSize : Int)

-- What is still to be sent of the section at hand lies in the file.
structure Inside (t : Transfer) : Prop where
  later : ∀ info ∈ t.sections, SectionInside file info
  rest : t.position = .inner ∨ t.position = .block →
    t.currentWriteLength < t.length → InFile file t.start (t.length - t.currentWriteLength)
  more : t.position = .block → t.currentWriteLength < t.length

theorem block_inside (size : 0 < mUpgradeBlockSize) (t : Transfer) (inside : Inside file t) (block : t.position = .block) :
    InFile file t.start (t.blockCount mUpgradeBlockSize) := by
  have more := inside.more block
  obtain ⟨positive, fits⟩ := block_count_bounds t mUpgradeBlockSize size more
  obtain ⟨least, most⟩ := inside.rest (.inr block) more
  exact ⟨least, by omega⟩

theorem outer_inside (t : Transfer) (inside : Inside file t) : Inside file t.outerCheck := by
  rw [Transfer.outerCheck]
  split
  · exact ⟨inside.later, fun running => by simp [Transfer.finish] at running, fun block => by simp [Transfer.finish] at block⟩
  · cases sections : t.sections with
    | nil =>
        exact ⟨inside.later, fun running => by simp [Transfer.finish] at running,
          fun block => by simp [Transfer.finish] at block⟩
    | cons info rest =>
        have here := inside.later info (sections ▸ List.mem_cons_self)
        refine ⟨fun other member => inside.later other (sections ▸ List.mem_cons_of_mem _ member), fun _ more => ?_,
          fun block => by cases block⟩
        obtain ⟨least, most⟩ := here more
        exact ⟨least, by simpa [Transfer.beginSection] using most⟩

theorem inner_inside (t : Transfer) (inner : t.position = .inner) (inside : Inside file t) : Inside file t.innerCheck := by
  rw [Transfer.innerCheck]
  split
  · rename_i more
    exact ⟨inside.later, fun _ => inside.rest (.inl inner), fun _ => more.2⟩
  · exact ⟨inside.later, fun running => by simp [Transfer.moved] at running, fun block => by simp [Transfer.moved] at block⟩

theorem exchange_inside (size : 0 < mUpgradeBlockSize) (t next : Transfer) (sent : Bool) (answer : Bytes)
    (block : t.position = .block) (inside : Inside file t)
    (taken : t.exchangeBlock file mUpgradeBlockSize sent answer = some next) : Inside file next := by
  have more := inside.more block
  have rest := inside.rest (.inr block) more
  obtain ⟨positive, fits⟩ := block_count_bounds t mUpgradeBlockSize size more
  simp only [Transfer.exchangeBlock] at taken
  split at taken
  · cases taken
  split at taken
  · split at taken
    · cases taken
      refine ⟨inside.later, fun _ _ => ?_, fun block => by simp [Transfer.blockWritten] at block⟩
      obtain ⟨least, most⟩ := rest
      simp only [Transfer.blockWritten, InFile]
      omega
    · cases taken
      rw [Transfer.blockRefused]
      split
      · exact ⟨inside.later, fun running => by simp at running, fun block => by simp at block⟩
      · exact ⟨inside.later, fun _ _ => rest, fun block => by simp at block⟩
  · cases taken
    exact ⟨inside.later, fun _ _ => rest, fun block => by simp [Transfer.sendFailed] at block⟩

theorem step_inside (size : 0 < mUpgradeBlockSize) (t : Transfer) (event : TransferEvent) (next : Transfer)
    (inside : Inside file t) (taken : threadLoopStep file mUpgradeBlockSize t event = some next) : Inside file next := by
  have asked (stop : Bool) : Inside file (t.requested stop) := ⟨inside.later, inside.rest, inside.more⟩
  rcases thread_loop_cases file mUpgradeBlockSize t event next taken with
    ⟨stop, _, _, rfl⟩ | ⟨stop, inner, _, rfl⟩ | ⟨sent, answer, block, exchanged⟩
  · exact outer_inside file _ (asked stop)
  · exact inner_inside file _ inner (asked stop)
  · exact exchange_inside file mUpgradeBlockSize size t next sent answer block inside exchanged

-- No stop was asked for and every exchange has succeeded.
structure Healthy (t : Transfer) : Prop where
  ret : t.ret = true
  running : t.exitPending = false

def ok : Bytes := [0x5a, 0x5a, 0x5a, 0x00]

theorem not_stopped (t : Transfer) : t.requested false = t := by rw [Transfer.requested, Bool.or_false]

def Escapes (t : Transfer) : Prop :=
  ∃ events final, run (threadLoopStep file mUpgradeBlockSize) t events = some final ∧ final.position = .block ∧
    ¬ InFile file final.start (final.blockCount mUpgradeBlockSize)

theorem escapes_later (t next : Transfer) (events : List TransferEvent)
    (reached : run (threadLoopStep file mUpgradeBlockSize) t events = some next)
    (escapes : Escapes file mUpgradeBlockSize next) : Escapes file mUpgradeBlockSize t := by
  obtain ⟨more, final, later, bad⟩ := escapes
  exact ⟨events ++ more, final, run_append _ t next final events more reached later, bad⟩

theorem block_acked (size : 0 < mUpgradeBlockSize) (t : Transfer) (healthy : Healthy t) (block : t.position = .block)
    (more : t.currentWriteLength < t.length) (within : InFile file t.start (t.blockCount mUpgradeBlockSize)) :
    ∃ written, run (threadLoopStep file mUpgradeBlockSize) t [.exchange true true true ok] =
      some (t.blockWritten written) ∧ written.count = t.blockCount mUpgradeBlockSize := by
  obtain ⟨positive, _⟩ := block_count_bounds t mUpgradeBlockSize size more
  obtain ⟨data, read⟩ := (slice_some file _ _ (Int.le_of_lt positive)).mpr within
  have acked : acknowledged ok = true := by decide
  refine ⟨⟨t.start, t.blockCount mUpgradeBlockSize, upgradeCmd t.start (t.blockCount mUpgradeBlockSize), data,
    le32 (calcrc32 0 data), ok⟩, ?_, rfl⟩
  simp only [run, threadLoopStep, block, Transfer.exchangeBlock, read, healthy.ret, Bool.and_self, if_true, acked,
    Option.bind_some]

-- With every block acknowledged, a section is sent to its end or leads out of the file.
theorem section_sent (size : 0 < mUpgradeBlockSize) (remaining : Nat) (t : Transfer) (healthy : Healthy t)
    (inner : t.position = .inner) (left : t.length - t.currentWriteLength ≤ remaining) :
    Escapes file mUpgradeBlockSize t ∨
      (t.currentWriteLength < t.length → InFile file t.start (t.length - t.currentWriteLength)) ∧
        ∃ events next, run (threadLoopStep file mUpgradeBlockSize) t events = some next ∧ Healthy next ∧
          next.position = .outer ∧ next.sections = t.sections := by
  induction remaining generalizing t with
  | zero =>
      have complete : ¬ t.currentWriteLength < t.length := by omega
      refine .inr ⟨fun more => absurd more complete, [.check false], t.moved .outer, ?_, ⟨healthy.ret, healthy.running⟩,
        rfl, rfl⟩
      simp only [run, threadLoopStep, inner, not_stopped, Transfer.innerCheck, complete, and_false, if_false,
        Option.bind_some]
  | succ remaining ih =>
      by_cases more : t.currentWriteLength < t.length
      · have begun : run (threadLoopStep file mUpgradeBlockSize) t [.check false] = some (t.moved .block) := by
          simp only [run, threadLoopStep, inner, not_stopped, Transfer.innerCheck, healthy.running, more,
            true_and, if_true, Option.bind_some]
        by_cases within : InFile file t.start (t.blockCount mUpgradeBlockSize)
        · obtain ⟨positive, fits⟩ := block_count_bounds t mUpgradeBlockSize size more
          obtain ⟨written, acked, counted⟩ := block_acked file mUpgradeBlockSize size (t.moved .block)
            ⟨healthy.ret, healthy.running⟩ rfl more within
          have count : written.count = t.blockCount mUpgradeBlockSize := counted
          have reached := run_append _ _ _ _ _ _ begun acked
          have less : ((t.moved .block).blockWritten written).length -
              ((t.moved .block).blockWritten written).currentWriteLength ≤ remaining := by
            simp only [Transfer.blockWritten, Transfer.moved]
            omega
          rcases ih ((t.moved .block).blockWritten written) ⟨healthy.ret, healthy.running⟩ rfl less with escapes | ⟨rest, events, next, later, done⟩
          · exact .inl (escapes_later file mUpgradeBlockSize t _ _ reached escapes)
          · refine .inr ⟨fun _ => ?_, _, next, run_append _ _ _ _ _ _ reached later, done⟩
            simp only [Transfer.blockWritten, Transfer.moved, InFile] at rest
            obtain ⟨least, most⟩ := within
            refine ⟨least, ?_⟩
            by_cases last : t.currentWriteLength + written.count < t.length
            · have bound := (rest last).2
              omega
            · omega
        · exact .inl ⟨[.check false], t.moved .block, begun, rfl, within⟩
      · have complete : ¬ t.currentWriteLength < t.length := more
        refine .inr ⟨fun more => absurd more complete, [.check false], t.moved .outer, ?_,
          ⟨healthy.ret, healthy.running⟩, rfl, rfl⟩
        simp only [run, threadLoopStep, inner, not_stopped, Transfer.innerCheck, complete, and_false,
          if_false, Option.bind_some]

theorem sections_sent (size : 0 < mUpgradeBlockSize) (sections : List SectionInfo) (t : Transfer) (healthy : Healthy t)
    (outer : t.position = .outer) (left : t.sections = sections) :
    Escapes file mUpgradeBlockSize t ∨ ∀ info ∈ sections, SectionInside file info := by
  induction sections generalizing t with
  | nil => exact .inr fun _ member => absurd member List.not_mem_nil
  | cons info rest ih =>
      have begun : run (threadLoopStep file mUpgradeBlockSize) t [.check false] = some (t.beginSection info rest) := by
        simp only [run, threadLoopStep, outer, not_stopped, Transfer.outerCheck, healthy.running,
          Bool.false_eq_true, if_false, left, Option.bind_some]
      rcases section_sent file mUpgradeBlockSize size _ (t.beginSection info rest) ⟨healthy.ret, healthy.running⟩ rfl
          (Int.self_le_toNat _) with escapes | ⟨inside, events, next, reached, onward, waiting, same⟩
      · exact .inl (escapes_later file mUpgradeBlockSize t _ _ begun escapes)
      · rcases ih next onward waiting same with escapes | others
        · exact .inl (escapes_later file mUpgradeBlockSize t next _ (run_append _ _ _ _ _ _ begun reached) escapes)
        · refine .inr fun other member => ?_
          rcases List.mem_cons.mp member with rfl | later
          · simpa [SectionInside, Transfer.beginSection] using inside
          · exact others other later

end

theorem file_reads_iff (access : FileAccess) (accepted : ∀ code, loadUpgradeFile access ≠ some (.error code)) :
    ReadsOnlyFile access ↔
      let file : UpgradeFile := ⟨access.st_size, access.bytes⟩
      let info := getPartitionInfoUpgFile file .firstBoot
      RangeInside file info.code_offset info.code_size ∧ RangeInside file info.data_offset info.data_size ∧
        ∀ info ∈ initBlocksInfo file, SectionInside file info := by
  have checked := load_accepted access accepted
  rw [check_partition_some] at checked
  rw [ReadsOnlyFile, checked, ← and_assoc]
  refine and_congr_right fun ranges => ?_
  obtain ⟨⟨file, sections⟩, loaded⟩ := checked.mpr ranges
  obtain ⟨content, listed⟩ := loaded_file access file sections loaded
  rw [← content, ← listed]
  constructor
  · intro reads
    let setup : Setup := ⟨true, 0x10000, 0, access, true, 0, false⟩
    have success : prepare setup = some (.ok (file, sections)) := by simp [setup, prepare, loaded]
    rcases sections_sent file 0x10000 (by decide) sections (beginTransfer sections) ⟨rfl, rfl⟩ rfl rfl with
      ⟨events, final, reached, block, outside⟩ | inside
    · exact absurd (reads setup file sections events final rfl success reached block) outside
    · exact inside
  · intro inside setup other list events t here success reached block
    obtain ⟨size, again⟩ := prepared setup other list success
    rw [here, loaded] at again
    cases again
    rw [size] at reached ⊢
    have begun : Inside file (beginTransfer sections) :=
      ⟨inside, fun running => by simp [beginTransfer] at running, fun block => by simp [beginTransfer] at block⟩
    have held := run_kept _ (Inside file) (step_inside file 0x10000 (by decide)) _ t events begun reached
    exact block_inside file 0x10000 (by decide) t held block

theorem sample_reads_inside : ReadsOnlyFile sampleSetup.access := by
  have loaded : loadUpgradeFile sampleSetup.access = some (.ok (sampleFile, initBlocksInfo sampleFile)) :=
    (prepared sampleSetup sampleFile _ sample_prepared).2
  refine (file_reads_iff sampleSetup.access fun code refused => ?_).mpr ?_
  · rw [loaded] at refused
    cases refused
  · change RangeInside sampleFile _ _ ∧ RangeInside sampleFile _ _ ∧
      ∀ info ∈ initBlocksInfo sampleFile, SectionInside sampleFile info
    decide +kernel

-- The same file with a second boot partition of one byte that begins where the file ends.
def beyondBytes (offset : Nat) : UInt8 :=
  if offset = 0x42002 then 0x20 else if offset = 0x42004 then 0x01 else sampleBytes offset

theorem file_overread : ¬ ∀ access : FileAccess, (∀ code, loadUpgradeFile access ≠ some (.error code)) → ReadsOnlyFile access := by
  intro claim
  let access : FileAccess := ⟨true, 0x200000, 0x200000, beyondBytes⟩
  let file : UpgradeFile := ⟨0x200000, beyondBytes⟩
  have loaded : loadUpgradeFile access = some (.ok (file, initBlocksInfo file)) := by
    have checked : check_partition file (getPartitionInfoUpgFile file .firstBoot) = some true := by decide +kernel
    simp [loadUpgradeFile, access, show (⟨0x200000, beyondBytes⟩ : UpgradeFile) = file from rfl, checked]
  have reads := (claim access fun code refused => by rw [loaded] at refused; cases refused).2
  have success : prepare ⟨true, 0x10000, 0, access, true, 0, false⟩ = some (.ok (file, initBlocksInfo file)) := by
    simp [prepare, loaded]
  let events : List TransferEvent :=
    [.check false, .check false, .exchange true true true ok, .check false, .check false, .check false]
  have ends : (run (threadLoopStep file 0x10000) (beginTransfer (initBlocksInfo file)) events).map
      (fun t => (t.position, t.start, t.blockCount 0x10000)) = some (.block, 0x200000, 1) := by decide +kernel
  obtain ⟨t, reached, same⟩ := Option.map_eq_some_iff.mp ends
  obtain ⟨block, start, count⟩ : t.position = .block ∧ t.start = 0x200000 ∧ t.blockCount 0x10000 = 1 := by
    simpa using same
  have within := reads _ file _ events t rfl success reached block
  rw [start, count] at within
  exact absurd within (by decide)

end Droidlogic.Fbc
