import Droidlogic.Hdcp.Generation
import Droidlogic.Lib.Run

set_option autoImplicit false

namespace Droidlogic.Hdcp

open Droidlogic.Lib

structure System where
  files : Files
  success : Bool

-- The two calls, between which the key in secure storage may change and the firmware
-- file may go.
inductive Call
  | setHDCP22Key (pass : Nat → Pass)
  | setHdcpRX22key (store : KeyStore) (pass : Pass) (value : Bytes)
  | provision (key : Option Bytes)
  | lost

def Call.sets : Call → Bool
  | .setHDCP22Key _ => true
  | .setHdcpRX22key _ _ _ => true
  | _ => false

def step (board : Board) (system : System) : Call → Option System
  | .setHDCP22Key pass =>
      (setHDCP22Key board pass system.files).map fun (ret, files) => ⟨files, ret⟩
  | .setHdcpRX22key store pass value =>
      (setHdcpRX22key board store pass value system.files).map fun (ret, files) => ⟨files, ret == 0⟩
  | .provision key => some ⟨{ system.files with stored := key }, false⟩
  | .lost => some ⟨{ system.files with dest := none }, false⟩

def Fresh (board : Board) (tools : Tools) (files : Files) : Prop :=
  ∃ key, files.stored = some key ∧ Current board tools key files

-- The firmware is missing while the saved CRC is the key's.
def Pending (files : Files) : Prop :=
  files.dest = none ∧ ∃ key, files.stored = some key ∧ hdcpRx22KeyCrcLen ≤ key.length ∧ files.crc = some (keyCrc key)

-- An unchanged firmware file whose saved CRC passes for the key's is the key's firmware.
def Sound (board : Board) (tools : Tools) (files : Files) : Prop :=
  ∀ key, files.stored = some key → hdcpRx22KeyCrcLen ≤ key.length → NeedsBuild board key files ∨ Current board tools key files

-- What a call has to find for the key it goes by.
def KeyReady (board : Board) (tools : Tools) (pass : Nat → Pass) (key : Bytes) (files : Files) : Prop :=
  NeedsBuild board key files →
    Settles board tools pass key 2 0 files.crc ∨
      ¬ Pending files ∧ Skips board (pass 0) (unpackStored (pass 0) key) key files.crc ∧
        (Refuses (unpackStored (pass 0) key) ∨ files.dest = none ∨ Current board tools key files)

def ValueReady (board : Board) (tools : Tools) (pass : Pass) (value : Bytes) (files : Files) : Prop :=
  let unpacked := hdcpKeyUnpack pass value value.length
  if NeedsBuild board value files then
    Makes board tools pass unpacked value files.crc ∧ Whole board pass ∨
      ¬ Pending files ∧ (Refuses unpacked ∨ unpacked = some .armTool ∧ toolsRun pass = false ∨
        Skips board pass unpacked value files.crc ∧ Current board tools value files)
  else Current board tools value files

def Meets (board : Board) (tools : Tools) (system : System) : Call → Prop
  | .setHDCP22Key pass =>
      ∀ key, system.files.stored = some key → hdcpRx22KeyCrcLen ≤ key.length →
        KeyReady board tools pass key system.files
  | .setHdcpRX22key store pass value =>
      if store.accepted = true ∧ store.kept = true ∧ hdcpRx22KeyCrcLen ≤ value.length then
        ValueReady board tools pass value system.files
      else ¬ Pending system.files
  | .provision key =>
      ∀ new, key = some new → hdcpRx22KeyCrcLen ≤ new.length →
        NeedsBuild board new system.files ∨ Current board tools new system.files
  | .lost => True

def Holds (board : Board) (tools : Tools) (system : System) (call : Call) : Prop :=
  (∀ after, step board system call = some after → after.success = true → Fresh board tools after.files) ∧
    (call.sets = true → Pending system.files → ∃ after, step board system call = some after ∧ Fresh board tools after.files)

theorem sound_missing (board : Board) (tools : Tools) (files : Files) (missing : files.dest = none) :
    Sound board tools files := fun _ _ _ => .inl (.inl missing)

theorem sound_current (board : Board) (tools : Tools) (key : Bytes) (files : Files) (held : files.stored = some key)
    (current : Current board tools key files) : Sound board tools files := by
  intro other heldToo _
  cases Option.some.inj (held.symm.trans heldToo)
  exact .inr current

theorem pending_needs (board : Board) (key : Bytes) (files : Files) (passes : ¬ NeedsBuild board key files) :
    ¬ Pending files := fun pending => passes (.inl pending.1)

theorem set_hdcp22_key_fresh (board : Board) (tools : Tools) (pass : Nat → Pass) (files : Files)
    (sound : Sound board tools files)
    (ready : ∀ key, files.stored = some key → hdcpRx22KeyCrcLen ≤ key.length → KeyReady board tools pass key files) :
    (∀ ret after, setHDCP22Key board pass files = some (ret, after) →
      (ret = true → Fresh board tools after) ∧ Sound board tools after) ∧
      (Pending files → ∃ ret after, setHDCP22Key board pass files = some (ret, after) ∧ Fresh board tools after) := by
  rw [setHDCP22Key]
  by_cases usable : ∃ key, files.stored = some key ∧ hdcpRx22KeyCrcLen ≤ key.length
  · obtain ⟨key, held, long⟩ := usable
    by_cases need : NeedsBuild board key files
    · rcases ready key held long need with settles | ⟨settled, skips, safe⟩
      · obtain ⟨crc, built⟩ := settles_regenerate board tools pass key (zeros hdcpRx22KeyCrcLen) 2 0 false files held long
          need settles
        have fresh : Fresh board tools ⟨some key, some (firmware board tools key), crc⟩ := ⟨key, rfl, rfl⟩
        rw [built]
        refine ⟨?_, fun _ => ⟨_, _, rfl, fresh⟩⟩
        rintro ret after ⟨⟩
        exact ⟨fun _ => fresh, sound_current board tools key _ rfl rfl⟩
      · refine ⟨?_, fun pending => absurd pending settled⟩
        intro ret after ended
        obtain ⟨still, right, same | missing | current⟩ :=
          skipped_regenerate board tools pass key 2 files after ret held long need skips safe ended
        · exact ⟨fun success => ⟨key, still, right success⟩, same ▸ sound⟩
        · exact ⟨fun success => ⟨key, still, right success⟩, sound_missing board tools after missing⟩
        · exact ⟨fun _ => ⟨key, still, current⟩, sound_current board tools key after still current⟩
    · have current := (sound key held long).resolve_left need
      rw [current_regenerate board tools pass key 2 files held long need current]
      refine ⟨?_, fun pending => absurd pending (pending_needs board key files need)⟩
      rintro ret after ⟨⟩
      exact ⟨fun _ => ⟨key, held, current⟩, sound⟩
  · have absent (key : Bytes) (held : files.stored = some key) : key.length < hdcpRx22KeyCrcLen := by
      by_contra long
      exact usable ⟨key, held, Nat.le_of_not_lt long⟩
    rw [no_key_regenerate board pass 2 files absent]
    refine ⟨?_, fun ⟨_, key, held, long, _⟩ => absurd ⟨key, held, long⟩ usable⟩
    rintro ret after ⟨⟩
    exact ⟨nofun, sound⟩

theorem value_written_fresh (board : Board) (tools : Tools) (store : KeyStore) (pass : Pass) (value : Bytes) (files : Files)
    (taken : store.accepted = true ∧ store.kept = true ∧ hdcpRx22KeyCrcLen ≤ value.length)
    (ready : ValueReady board tools pass value files) :
    (∀ ret after, setHdcpRX22key board store pass value files = some (ret, after) →
      (ret = 0 → Fresh board tools after) ∧ Sound board tools after) ∧
      (Pending files → ∃ ret after, setHdcpRX22key board store pass value files = some (ret, after) ∧
        Fresh board tools after) := by
  obtain ⟨accepted, kept, long⟩ := taken
  have plain : value ++ zeros 0 = value := List.append_nil value
  simp only [setHdcpRX22key, accepted, kept, Bool.true_eq_false, if_false, if_neg (Nat.not_lt_of_le long)]
  rw [ValueReady] at ready
  by_cases need : NeedsBuild board value files
  · have needed : files.dest = none ∨ crcValue board.signedChar (value.take hdcpRx22KeyCrcLen) ≠
        crcValue board.signedChar (readSys files.crc (zeros hdcpRx22KeyCrcLen) hdcpRx22KeyCrcLen) := need
    rw [if_pos need] at ready
    rw [if_pos needed]
    rcases ready with ⟨makes, bytes, write, covered⟩ | ⟨settled, why⟩
    · have made := generate_made board tools pass value value 0 bytes { files with stored := some value } rfl long long
        Iff.rfl (plain.symm ▸ makes) write
      rw [plain, whole_dest board tools value bytes covered, keyCrc] at made
      simp only [made, if_true]
      have fresh : Fresh board tools ⟨some value, some (firmware board tools value),
          saveFile pass.crcWrite (value.take hdcpRx22KeyCrcLen) files.crc⟩ := ⟨value, rfl, rfl⟩
      refine ⟨?_, fun _ => ⟨_, _, rfl, fresh⟩⟩
      rintro ret after ⟨⟩
      exact ⟨fun _ => fresh, sound_current board tools value _ rfl rfl⟩
    · refine ⟨?_, fun pending => absurd pending settled⟩
      have refused : Sound board tools { files with stored := some value } := by
        intro other held _
        cases Option.some.inj held
        exact .inl need
      intro ret after ended
      cases generated : generateFirmware board pass value value.length (value.take hdcpRx22KeyCrcLen)
          { files with stored := some value } with
      | undefined =>
          simp only [generated] at ended
          cases ended
      | refused =>
          simp only [generated, Option.some.injEq, Prod.mk.injEq] at ended
          obtain ⟨rfl, rfl⟩ := ended
          exact ⟨fun zero => absurd zero (by decide), refused⟩
      | done made later =>
          simp only [generated, Option.some.injEq, Prod.mk.injEq] at ended
          obtain ⟨rfl, rfl⟩ := ended
          rcases why with refuses | ⟨arm, idle⟩ | ⟨skips, current⟩
          · exact absurd generated (generate_refused board pass _ _ _ _ later made refuses)
          · have ran : ¬ (genKeyImg pass && esmSwap pass && aicTool pass) = true := ne_true_of_eq_false idle
            simp only [generateFirmware, arm, if_neg ran, Generated.done.injEq] at generated
            obtain ⟨rfl, rfl⟩ := generated
            exact ⟨fun zero => absurd zero (by decide), refused⟩
          · obtain ⟨dest, stored⟩ := generate_kept board pass value value _
              { files with stored := some value } later made rfl skips generated
            have whole : Current board tools value later := dest.trans current
            exact ⟨fun _ => ⟨value, stored, whole⟩, sound_current board tools value later stored whole⟩
  · have skipped : ¬ (files.dest = none ∨ crcValue board.signedChar (value.take hdcpRx22KeyCrcLen) ≠
        crcValue board.signedChar (readSys files.crc (zeros hdcpRx22KeyCrcLen) hdcpRx22KeyCrcLen)) := need
    rw [if_neg need] at ready
    rw [if_neg skipped]
    refine ⟨?_, fun pending => absurd pending (pending_needs board value files need)⟩
    rintro ret after ⟨⟩
    exact ⟨fun zero => absurd zero (by decide), sound_current board tools value _ rfl ready⟩

theorem set_hdcp_rx22_key_fresh (board : Board) (tools : Tools) (store : KeyStore) (pass : Pass) (value : Bytes)
    (system : System) (sound : Sound board tools system.files)
    (meets : Meets board tools system (.setHdcpRX22key store pass value)) :
    (∀ ret after, setHdcpRX22key board store pass value system.files = some (ret, after) →
      (ret = 0 → Fresh board tools after) ∧ Sound board tools after) ∧
      (Pending system.files → ∃ ret after, setHdcpRX22key board store pass value system.files = some (ret, after) ∧
        Fresh board tools after) := by
  rw [Meets] at meets
  by_cases taken : store.accepted = true ∧ store.kept = true ∧ hdcpRx22KeyCrcLen ≤ value.length
  · rw [if_pos taken] at meets
    exact value_written_fresh board tools store pass value system.files taken meets
  · rw [if_neg taken] at meets
    refine ⟨?_, fun pending => absurd pending meets⟩
    intro ret after ended
    rw [setHdcpRX22key] at ended
    by_cases refused : store.accepted = false
    · rw [if_pos refused] at ended
      cases ended
      exact ⟨nofun, sound⟩
    · rw [if_neg refused] at ended
      by_cases dropped : store.kept = false
      · rw [if_pos dropped] at ended
        cases ended
        exact ⟨nofun, nofun⟩
      · have short : value.length < hdcpRx22KeyCrcLen := by
          by_contra long
          exact taken ⟨eq_true_of_ne_false refused, eq_true_of_ne_false dropped, Nat.le_of_not_lt long⟩
        rw [if_neg dropped, if_pos short] at ended
        cases ended

theorem step_fresh (board : Board) (tools : Tools) (system : System) (call : Call)
    (sound : Sound board tools system.files) (meets : Meets board tools system call) :
    Holds board tools system call ∧ ∀ after, step board system call = some after → Sound board tools after.files := by
  cases call with
  | setHDCP22Key pass =>
      obtain ⟨ends, regenerated⟩ := set_hdcp22_key_fresh board tools pass system.files sound meets
      refine ⟨⟨?_, ?_⟩, ?_⟩
      · intro after taken success
        obtain ⟨⟨ret, files⟩, ended, rfl⟩ := Option.map_eq_some_iff.mp taken
        exact (ends ret files ended).1 success
      · intro _ pending
        obtain ⟨ret, files, ended, fresh⟩ := regenerated pending
        exact ⟨⟨files, ret⟩, Option.map_eq_some_iff.mpr ⟨_, ended, rfl⟩, fresh⟩
      · intro after taken
        obtain ⟨⟨ret, files⟩, ended, rfl⟩ := Option.map_eq_some_iff.mp taken
        exact (ends ret files ended).2
  | setHdcpRX22key store pass value =>
      obtain ⟨ends, regenerated⟩ := set_hdcp_rx22_key_fresh board tools store pass value system sound meets
      refine ⟨⟨?_, ?_⟩, ?_⟩
      · intro after taken success
        obtain ⟨⟨ret, files⟩, ended, rfl⟩ := Option.map_eq_some_iff.mp taken
        exact (ends ret files ended).1 (eq_of_beq success)
      · intro _ pending
        obtain ⟨ret, files, ended, fresh⟩ := regenerated pending
        exact ⟨⟨files, ret == 0⟩, Option.map_eq_some_iff.mpr ⟨_, ended, rfl⟩, fresh⟩
      · intro after taken
        obtain ⟨⟨ret, files⟩, ended, rfl⟩ := Option.map_eq_some_iff.mp taken
        exact (ends ret files ended).2
  | provision key =>
      refine ⟨⟨?_, nofun⟩, ?_⟩
      · rintro after ⟨⟩ success
        cases success
      · rintro after ⟨⟩ new held long
        exact meets new held long
  | lost =>
      refine ⟨⟨?_, nofun⟩, ?_⟩
      · rintro after ⟨⟩ success
        cases success
      · rintro after ⟨⟩
        exact sound_missing board tools _ rfl

-- A board that has no firmware file yet, with whatever key and whatever saved CRC.
def withoutFirmware (stored crc : Option Bytes) : System := ⟨⟨stored, none, crc⟩, false⟩

theorem firmware_fresh (board : Board) (tools : Tools) (stored crc : Option Bytes) (calls : List Call) (system : System)
    (call : Call) (guarded : Guarded (step board) (Meets board tools) (withoutFirmware stored crc) calls)
    (reached : run (step board) (withoutFirmware stored crc) calls = some system) (meets : Meets board tools system call) :
    Holds board tools system call := by
  have kept (before : System) (call : Call) (after : System) (sound : Sound board tools before.files)
      (meets : Meets board tools before call) (taken : step board before call = some after) :
      Sound board tools after.files := (step_fresh board tools before call sound meets).2 after taken
  have sound := run_invariant (step board) (Meets board tools) (fun system => Sound board tools system.files) kept
    (withoutFirmware stored crc) system calls (sound_missing board tools _ rfl) guarded reached
  exact (step_fresh board tools system call sound meets).1

def sampleBoard : Board where
  source := zeros 12320
  signedChar := false
  large := by
    rw [zeros_length]
    decide

def sampleTools : Tools where
  derive := fun _ => zeros hdcpRxRp222080ByteSize
  sized := fun _ => zeros_length _

def samplePass (written : Nat) : Pass where
  aicPresent := true
  itemOpens := fun _ => true
  keys := ⟨true, 0, some []⟩
  swap := ⟨true, 0, some []⟩
  aic := ⟨true, 0, some []⟩
  firmwareWrite := some written
  crcWrite := some 4

theorem firmware_fresh_provisioned :
    Holds sampleBoard sampleTools ⟨⟨some [1, 2, 3, 4], none, none⟩, false⟩ (.setHDCP22Key fun _ => samplePass 12320) := by
  have unpacked : unpackStored (samplePass 12320) [1, 2, 3, 4] = some .pcTool := by decide +kernel
  have small : sampleBoard.source.length < 2 ^ 31 - 1 := by
    rw [sampleBoard, zeros_length]
    decide
  have ready : Meets sampleBoard sampleTools ⟨⟨some [1, 2, 3, 4], none, none⟩, false⟩
      (.setHDCP22Key fun _ => samplePass 12320) := by
    rintro key ⟨⟩ _ _
    refine .inl ⟨⟨small, ?_⟩, .inl ⟨12320, rfl, Nat.le_of_eq (zeros_length 12320)⟩⟩
    rw [unpacked]
    decide
  exact firmware_fresh sampleBoard sampleTools none none [.provision (some [1, 2, 3, 4])] _ _
    ⟨fun _ _ _ => .inl (.inl rfl), fun _ _ => trivial⟩ rfl ready

-- The saved CRC outlives a firmware file that was cut short and removed.
theorem cut_firmware_reported :
    ((step sampleBoard (withoutFirmware (some [1, 2, 3, 4]) none) (.setHDCP22Key fun _ => samplePass 50)).map
        fun after => (after.success, after.files.dest)) = some (true, none) ∧
      ((run (step sampleBoard) (withoutFirmware (some [1, 2, 3, 4]) none)
          [.setHDCP22Key fun _ => samplePass 50, .setHDCP22Key fun _ => samplePass 12320]).map
        fun after => (after.files.dest, after.files.crc)) = some (none, some [1, 2, 3, 4]) := by
  decide +kernel

end Droidlogic.Hdcp
