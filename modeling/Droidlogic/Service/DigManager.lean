import Droidlogic.Lib.Run
import Droidlogic.Lib.Text

set_option autoImplicit false

namespace Droidlogic.Service.DigManager

open Droidlogic.Lib

def checkSystemCount : Nat := 5

def dataRoCountMaxDefault : Bytes := ascii ['5']

-- The properties that stay as the build set them, none where it set nothing.
structure Build where
  dataroCountMax : Option Bytes
  abUpdate : Option Bytes
  supportSysBak : Bool

def getDataRoCountMax (build : Build) : Int := atoi (build.dataroCountMax.getD dataRoCountMaxDefault)

def isABupdate (build : Build) : Bool :=
  build.abUpdate.getD (ascii ['f', 'a', 'l', 's', 'e']) = ascii ['t', 'r', 'u', 'e']

-- Where workThread is in its loop: before each of the checks, at the test that ends it, or done.
inductive Place
  | boot
  | cache
  | data
  | system
  | exit
  | done
deriving DecidableEq

-- roCount is the counter's file on the cache partition. rebootsInRow counts the reboots
-- since a boot was completed or recovery was asked for, and is not the program's.
structure State where
  place : Place
  roCount : Option Bytes
  cacheMounted : Bool
  powerctl : Bytes
  mBootCompleted : Bool
  mCheckSystemCount : Nat
  rebootsInRow : Nat

def reboot : Bytes := ascii ['r', 'e', 'b', 'o', 'o', 't']
def recovery : Bytes := reboot ++ ascii [',', 'r', 'e', 'c', 'o', 'v', 'e', 'r', 'y']
def shutdown : Bytes := ascii ['s', 'h', 'u', 't', 'd', 'o', 'w', 'n']

def isRebooting (s : State) : Bool := contains s.powerctl reboot || s.powerctl = shutdown

-- fscanf leaves the zero where it finds no number.
def countIn (file : Option Bytes) : Int := toInt ((file.bind scanNumber).getD 0)

def getDataRoCount (s : State) : Int := countIn (if s.cacheMounted then s.roCount else none)

-- fopen empties the file, and so many bytes get into it.
inductive Write
  | openFailed
  | written (length : Nat)
deriving DecidableEq

-- An unmounted /cache is a directory that cannot be written.
def setDataRoCount (s : State) (count : Int) : Write → State
  | .openFailed => s
  | .written length => if s.cacheMounted then { s with roCount := some ((decimal count).take length) } else s

-- isVolumeRo
inductive Volume
  | ro
  | rw
  | unmounted
deriving DecidableEq

-- What the repair of /cache meets. formatted is the counter's file after make_ext4fs, which
-- is none unless that fails.
structure Repair where
  deviceExists : Bool
  umounts : Bool
  mounts : Bool
  formatted : Option Bytes
  remounts : Bool

def formatCache (s : State) (repair : Repair) : State :=
  { s with roCount := repair.formatted, cacheMounted := repair.remounts }

def handleCacheRo (s : State) (repair : Repair) : State :=
  if isRebooting s then s
  else if !repair.deviceExists then s
  else if repair.umounts then formatCache s repair
  else s

def handleCacheNull (s : State) (repair : Repair) : State :=
  if isRebooting s then s
  else if !repair.deviceExists then s
  else if repair.mounts then { s with cacheMounted := true }
  else formatCache s repair

def doReboot (s : State) : State := { s with powerctl := reboot, rebootsInRow := s.rebootsInRow + 1 }

-- doRebootRecoveryTipDataro and doRestoreSystem differ in the text of the command only.
def doRebootRecovery (s : State) (commandOpens : Bool) : State :=
  if commandOpens then { s with powerctl := recovery, rebootsInRow := 0 } else s

section
variable (build : Build)

def checkCache (s : State) (volume : Volume) (repair : Repair) : State :=
  if isABupdate build then s
  else
    match volume with
    | .ro => handleCacheRo s repair
    | .unmounted => handleCacheNull s repair
    | .rw => s

-- After the boot only a broadcast is sent.
def handleDataRo (s : State) (write : Write) (commandOpens : Bool) : State :=
  if isRebooting s then s
  else if s.mBootCompleted then s
  else if getDataRoCount s < getDataRoCountMax build then doReboot (setDataRoCount s (getDataRoCount s + 1) write)
  else if isABupdate build then setDataRoCount s 0 write
  else doRebootRecovery (setDataRoCount s 0 write) commandOpens

def handleSysChksumError (s : State) (commandOpens : Bool) : State :=
  if isRebooting s then s
  else if s.mBootCompleted then s
  else if isABupdate build then s
  else doRebootRecovery s commandOpens

def checkSystem (s : State) (intact commandOpens : Bool) : State :=
  if !build.supportSysBak then s
  else if s.mCheckSystemCount = checkSystemCount then
    if intact then { s with mCheckSystemCount := 1 }
    else handleSysChksumError build { s with mCheckSystemCount := 1 } commandOpens
  else { s with mCheckSystemCount := s.mCheckSystemCount + 1 }

-- A new boot can begin at any time, and other programs set the property as well.
inductive Event
  | powerUp (cacheMounted : Bool)
  | setPowerctl (value : Bytes)
  | checkBoot (completed : Bool) (write : Write)
  | checkCache (volume : Volume) (repair : Repair)
  | checkData (volume : Volume) (write : Write) (commandOpens : Bool)
  | checkSystem (intact commandOpens : Bool)
  | loop

def bootCompleted (s : State) (write : Write) : State :=
  { setDataRoCount s 0 write with mBootCompleted := true, rebootsInRow := 0 }

def step (s : State) : Event → Option State
  | .powerUp cacheMounted => some
      { s with
        place := .boot
        cacheMounted := cacheMounted
        powerctl := []
        mBootCompleted := false
        mCheckSystemCount := checkSystemCount }
  | .setPowerctl value => some { s with powerctl := value }
  | .checkBoot completed write =>
      if s.place = .boot then
        some { (if !s.mBootCompleted && completed then bootCompleted s write else s) with place := .cache }
      else none
  | .checkCache volume repair =>
      if s.place = .cache then some { checkCache build s volume repair with place := .data } else none
  | .checkData volume write commandOpens =>
      if s.place = .data then
        some { (if volume = .ro then handleDataRo build s write commandOpens else s) with place := .system }
      else none
  | .checkSystem intact commandOpens =>
      if s.place = .system then some { checkSystem build s intact commandOpens with place := .exit } else none
  | .loop =>
      if s.place = .exit then some { s with place := if isRebooting s then .done else .boot } else none

def Write.whole (count : Int) : Write → Bool
  | .openFailed => false
  | .written length => (decimal count).length ≤ length

def formats (s : State) (volume : Volume) (repair : Repair) : Bool :=
  !isRebooting s && repair.deviceExists && (match volume with
    | .ro => repair.umounts
    | .unmounted => !repair.mounts
    | .rw => false)

-- At most mDataRoCountMax reboots in a row.
def Bounded (s : State) : Prop := s.rebootsInRow ≤ (getDataRoCountMax build).toNat

-- A completed boot resets the count, and a read-only /data is answered before that by one
-- more reboot or by recovery.
def Guards (s : State) (event : Event) (next : State) : Prop :=
  Bounded build next ∧
    match event with
    | .checkBoot completed _ => completed = true → s.mBootCompleted = false → countIn next.roCount = 0
    | .checkData volume _ _ => volume = .ro → isRebooting s = false → s.mBootCompleted = false →
        (next.powerctl = reboot ∧ next.rebootsInRow = s.rebootsInRow + 1) ∨ next.powerctl = recovery
    | _ => True

-- The counter can be written where it is to be, recovery's command can be as well, and no
-- repair of /cache takes a counter away that counts.
def Careful (s : State) (event : Event) : Prop :=
  match event with
  | .checkBoot completed write => completed = true → s.mBootCompleted = false →
      countIn s.roCount = 0 ∨ (s.cacheMounted = true ∧ write ≠ .openFailed)
  | .checkCache volume repair => formats s volume repair = true → s.rebootsInRow = 0 ∧ 0 ≤ countIn repair.formatted
  | .checkData volume write commandOpens => volume = .ro → isRebooting s = false → s.mBootCompleted = false →
      if getDataRoCount s < getDataRoCountMax build then
        s.cacheMounted = true ∧ write.whole (getDataRoCount s + 1) = true
      else commandOpens = true
  | _ => True

instance (s : State) (event : Event) : Decidable (Careful build s event) := by
  unfold Careful
  split <;> infer_instance

theorem count_in_decimal (count : Int) (low : -2147483648 ≤ count) (high : count ≤ 2147483647) :
    countIn (some (decimal count)) = count := by
  rw [countIn, Option.bind_some, scan_decimal, Option.getD_some, to_int_fits count low high]

theorem count_in_zero (length : Nat) : countIn (some ((decimal 0).take length)) = 0 := by
  cases length with
  | zero => rfl
  | succ length =>
      have whole : (decimal 0).take (length + 1) = decimal 0 := List.take_of_length_le (Nat.succ_le_succ (Nat.zero_le _))
      rw [whole]
      exact count_in_decimal 0 (by decide) (by decide)

theorem count_max_bounds : getDataRoCountMax build ≤ 2147483647 := (to_int_bounds _).2

-- The counter counts every reboot of the row.
structure Counted (s : State) : Prop where
  bounded : Bounded build s
  counted : (s.rebootsInRow : Int) ≤ countIn s.roCount

theorem set_count_rest (s : State) (count : Int) (write : Write) :
    (setDataRoCount s count write).rebootsInRow = s.rebootsInRow ∧
      (setDataRoCount s count write).powerctl = s.powerctl := by
  cases write with
  | openFailed => exact ⟨rfl, rfl⟩
  | written length =>
      rw [setDataRoCount]
      split <;> exact ⟨rfl, rfl⟩

theorem set_zero_count (s : State) (write : Write) :
    countIn (setDataRoCount s 0 write).roCount = 0 ∨ (setDataRoCount s 0 write).roCount = s.roCount := by
  cases write with
  | openFailed => exact .inr rfl
  | written length =>
      rw [setDataRoCount]
      split
      · exact .inl (count_in_zero length)
      · exact .inr rfl

theorem set_whole_count (s : State) (count : Int) (write : Write) (mounted : s.cacheMounted = true)
    (whole : write.whole count = true) : (setDataRoCount s count write).roCount = some (decimal count) := by
  cases write with
  | openFailed => cases whole
  | written length =>
      rw [Write.whole, decide_eq_true_eq] at whole
      rw [setDataRoCount, if_pos mounted, List.take_of_length_le whole]

theorem zero_counted (s : State) (write : Write) (counted : Counted build s) :
    0 ≤ countIn (setDataRoCount s 0 write).roCount := by
  rcases set_zero_count s write with zero | same
  · exact Int.le_of_eq zero.symm
  · rw [same]
    exact Int.le_trans (Int.natCast_nonneg _) counted.counted

theorem counted_same (s next : State) (counted : Counted build s) (row : next.rebootsInRow = s.rebootsInRow)
    (file : next.roCount = s.roCount) : Counted build next := by
  refine ⟨?_, ?_⟩
  · rw [Bounded, row]
    exact counted.bounded
  · rw [row, file]
    exact counted.counted

theorem recovery_counted (s : State) (nonneg : 0 ≤ countIn s.roCount) : Counted build (doRebootRecovery s true) :=
  ⟨Nat.zero_le _, nonneg⟩

theorem boot_guards (s : State) (completed : Bool) (write : Write) (next : State) (counted : Counted build s)
    (careful : Careful build s (.checkBoot completed write))
    (taken : step build s (.checkBoot completed write) = some next) :
    Counted build next ∧ Guards build s (.checkBoot completed write) next := by
  rw [step] at taken
  split at taken
  · cases taken
    by_cases completes : (!s.mBootCompleted && completed) = true
    · rw [if_pos completes]
      have left : Counted build { bootCompleted s write with place := .cache } :=
        ⟨Nat.zero_le _, zero_counted build s write counted⟩
      refine ⟨left, left.bounded, fun now before => ?_⟩
      rcases careful now before with already | ⟨mounted, opened⟩
      · rcases set_zero_count s write with zero | same
        · exact zero
        · exact (congrArg countIn same).trans already
      · cases write with
        | openFailed => exact absurd rfl opened
        | written length =>
            have stored : (setDataRoCount s 0 (.written length)).roCount = some ((decimal 0).take length) := by
              rw [setDataRoCount, if_pos mounted]
            exact (congrArg countIn stored).trans (count_in_zero length)
    · rw [if_neg completes]
      refine ⟨counted_same build s _ counted rfl rfl, counted.bounded, fun now before => ?_⟩
      rw [now, before] at completes
      exact absurd rfl completes
  · cases taken

-- The check of /cache leaves the count alone, or formats the partition.
theorem check_cache_cases (s : State) (volume : Volume) (repair : Repair) :
    ((checkCache build s volume repair).rebootsInRow = s.rebootsInRow ∧
      (checkCache build s volume repair).roCount = s.roCount) ∨
    (formats s volume repair = true ∧ checkCache build s volume repair = formatCache s repair) := by
  unfold checkCache
  by_cases updates : isABupdate build = true
  · rw [if_pos updates]
    exact .inl ⟨rfl, rfl⟩
  · rw [if_neg updates]
    cases volume with
    | rw => exact .inl ⟨rfl, rfl⟩
    | ro =>
        simp only [handleCacheRo, formats]
        cases isRebooting s with
        | true => exact .inl ⟨rfl, rfl⟩
        | false =>
            cases repair.deviceExists with
            | false => exact .inl ⟨rfl, rfl⟩
            | true =>
                cases repair.umounts with
                | false => exact .inl ⟨rfl, rfl⟩
                | true => exact .inr ⟨rfl, rfl⟩
    | unmounted =>
        simp only [handleCacheNull, formats]
        cases isRebooting s with
        | true => exact .inl ⟨rfl, rfl⟩
        | false =>
            cases repair.deviceExists with
            | false => exact .inl ⟨rfl, rfl⟩
            | true =>
                cases repair.mounts with
                | true => exact .inl ⟨rfl, rfl⟩
                | false => exact .inr ⟨rfl, rfl⟩

theorem repair_counted (s : State) (volume : Volume) (repair : Repair) (counted : Counted build s)
    (careful : Careful build s (.checkCache volume repair)) :
    Counted build (checkCache build s volume repair) := by
  rcases check_cache_cases build s volume repair with ⟨row, file⟩ | ⟨formatting, done⟩
  · exact counted_same build s _ counted row file
  · obtain ⟨none, nonneg⟩ := careful formatting
    rw [done]
    refine ⟨counted.bounded, ?_⟩
    have same : ((formatCache s repair).rebootsInRow : Int) = 0 := by
      rw [formatCache]
      exact congrArg Int.ofNat none
    rw [same]
    exact nonneg

theorem reboot_counted (s : State) (write : Write) (counted : Counted build s) (mounted : s.cacheMounted = true)
    (below : getDataRoCount s < getDataRoCountMax build) (whole : write.whole (getDataRoCount s + 1) = true) :
    Counted build (doReboot (setDataRoCount s (getDataRoCount s + 1) write)) := by
  have seen : getDataRoCount s = countIn s.roCount := by rw [getDataRoCount, if_pos mounted]
  have made := counted.counted
  have largest := count_max_bounds build
  have rest := (set_count_rest s (getDataRoCount s + 1) write).1
  have stored := set_whole_count s (getDataRoCount s + 1) write mounted whole
  have row : (doReboot (setDataRoCount s (getDataRoCount s + 1) write)).rebootsInRow = s.rebootsInRow + 1 :=
    congrArg Nat.succ rest
  have file : countIn (doReboot (setDataRoCount s (getDataRoCount s + 1) write)).roCount = getDataRoCount s + 1 :=
    (congrArg countIn stored).trans (count_in_decimal _ (by omega) (by omega))
  refine ⟨?_, ?_⟩
  · rw [Bounded, row]
    omega
  · rw [row, file]
    omega

theorem data_guards (recovers : isABupdate build = false) (s : State) (volume : Volume) (write : Write)
    (commandOpens : Bool) (next : State) (counted : Counted build s)
    (careful : Careful build s (.checkData volume write commandOpens))
    (taken : step build s (.checkData volume write commandOpens) = some next) :
    Counted build next ∧ Guards build s (.checkData volume write commandOpens) next := by
  rw [step] at taken
  split at taken
  · cases taken
    by_cases acts : volume = .ro ∧ isRebooting s = false ∧ s.mBootCompleted = false
    · obtain ⟨readOnly, running, booting⟩ := acts
      have writable := careful readOnly running booting
      rw [if_pos readOnly, handleDataRo, if_neg (by simp [running]), if_neg (by simp [booting])]
      by_cases below : getDataRoCount s < getDataRoCountMax build
      · rw [if_pos below] at writable ⊢
        have left := reboot_counted build s write counted writable.1 below writable.2
        refine ⟨counted_same build _ _ left rfl rfl, left.bounded, fun _ _ _ => .inl ⟨rfl, ?_⟩⟩
        exact congrArg Nat.succ (set_count_rest s (getDataRoCount s + 1) write).1
      · rw [if_neg below] at writable ⊢
        rw [if_neg (by simp [recovers]), writable]
        have left := recovery_counted build (setDataRoCount s 0 write) (zero_counted build s write counted)
        exact ⟨counted_same build _ _ left rfl rfl, left.bounded, fun _ _ _ => .inr rfl⟩
    · have same : (if volume = .ro then handleDataRo build s write commandOpens else s) = s := by
        split
        · rename_i readOnly
          rw [handleDataRo]
          split
          · rfl
          · rename_i running
            split
            · rfl
            · rename_i booting
              exact absurd ⟨readOnly, by simpa using running, by simpa using booting⟩ acts
        · rfl
      rw [same]
      refine ⟨counted_same build s _ counted rfl rfl, counted.bounded, fun readOnly running booting => ?_⟩
      exact absurd ⟨readOnly, running, booting⟩ acts
  · cases taken

theorem command_counted (s : State) (commandOpens : Bool) (counted : Counted build s) :
    Counted build (doRebootRecovery s commandOpens) := by
  cases commandOpens with
  | false => exact counted
  | true => exact recovery_counted build s (Int.le_trans (Int.natCast_nonneg _) counted.counted)

theorem system_counted (s : State) (intact commandOpens : Bool) (counted : Counted build s) :
    Counted build (checkSystem build s intact commandOpens) := by
  have recounted (count : Nat) : Counted build { s with mCheckSystemCount := count } :=
    counted_same build s _ counted rfl rfl
  rw [checkSystem]
  split
  · exact counted
  · split
    · split
      · exact recounted 1
      · rw [handleSysChksumError]
        split
        · exact recounted 1
        · split
          · exact recounted 1
          · split
            · exact recounted 1
            · exact command_counted build _ commandOpens (recounted 1)
    · exact recounted (s.mCheckSystemCount + 1)

theorem step_guards (recovers : isABupdate build = false) (s : State) (event : Event) (next : State)
    (counted : Counted build s) (careful : Careful build s event) (taken : step build s event = some next) :
    Counted build next ∧ Guards build s event next := by
  cases event with
  | powerUp cacheMounted =>
      cases taken
      exact ⟨counted_same build s _ counted rfl rfl, counted.bounded, trivial⟩
  | setPowerctl value =>
      cases taken
      exact ⟨counted_same build s _ counted rfl rfl, counted.bounded, trivial⟩
  | checkBoot completed write => exact boot_guards build s completed write next counted careful taken
  | checkCache volume repair =>
      rw [step] at taken
      split at taken
      · cases taken
        have left := repair_counted build s volume repair counted careful
        exact ⟨counted_same build _ _ left rfl rfl, left.bounded, trivial⟩
      · cases taken
  | checkData volume write commandOpens =>
      exact data_guards build recovers s volume write commandOpens next counted careful taken
  | checkSystem intact commandOpens =>
      rw [step] at taken
      split at taken
      · cases taken
        have left := system_counted build s intact commandOpens counted
        exact ⟨counted_same build _ _ left rfl rfl, left.bounded, trivial⟩
      · cases taken
  | loop =>
      rw [step] at taken
      split at taken
      · cases taken
        exact ⟨counted_same build s _ counted rfl rfl, counted.bounded, trivial⟩
      · cases taken

theorem reboots_bounded (recovers : isABupdate build = false) (s : State) (events : List Event)
    (first : s.rebootsInRow = 0) (nonneg : 0 ≤ countIn s.roCount)
    (careful : Guarded (step build) (Careful build) s events) : Along (step build) (Guards build) s events := by
  refine guarded_along (step build) (Careful build) (Counted build) (Guards build) (step_guards build recovers) s events
    ⟨?_, ?_⟩ careful
  · rw [Bounded, first]
    exact Nat.zero_le _
  · rw [first]
    exact nonneg

end

-- Two reboots are allowed.
def tv : Build := ⟨some (ascii ['2']), none, false⟩

-- One turn of the loop, with /data read-only and the boot not completed.
def readOnlyTurn (write : Write) : List Event :=
  [.powerUp true, .checkBoot false .openFailed, .checkCache .rw ⟨true, true, true, none, true⟩,
    .checkData .ro write true, .checkSystem true true, .loop]

def fresh (file : Option Bytes) : State := ⟨.boot, file, true, [], false, checkSystemCount, 0⟩

theorem tv_bounded : Along (step tv) (Guards tv) (fresh none)
    (readOnlyTurn (.written 1) ++ readOnlyTurn (.written 1) ++ readOnlyTurn (.written 1)) :=
  reboots_bounded tv (by decide) (fresh none) _ rfl (by decide) (by decide +kernel)

-- The counter's file cannot be opened for writing, or begins with a negative number.
theorem reboots_unbounded :
    ¬Along (step tv) (Guards tv) (fresh none)
        (readOnlyTurn .openFailed ++ readOnlyTurn .openFailed ++ readOnlyTurn .openFailed) ∧
      ¬Along (step tv) (Guards tv) (fresh (some (ascii ['-', '1'])))
        (readOnlyTurn (.written 1) ++ readOnlyTurn (.written 1) ++ readOnlyTurn (.written 1)) := by
  have reached (file : Option Bytes) (write : Write) (middle : State)
      (before : run (step tv) (fresh file) (readOnlyTurn write ++ readOnlyTurn write ++ (readOnlyTurn write).take 3) =
        some middle) (last : State) (taken : step tv middle (.checkData .ro write true) = some last)
      (many : 2 < last.rebootsInRow) :
      ¬Along (step tv) (Guards tv) (fresh file) (readOnlyTurn write ++ readOnlyTurn write ++ readOnlyTurn write) := by
    intro along
    have later := along_after (step tv) (Guards tv) (fresh file) middle
      (readOnlyTurn write ++ readOnlyTurn write ++ (readOnlyTurn write).take 3) ((readOnlyTurn write).drop 3)
      (by rw [List.append_assoc _ (List.take 3 _), List.take_append_drop]; exact along) before
    have bounded : last.rebootsInRow ≤ (getDataRoCountMax tv).toNat := (later last taken).1.1
    exact absurd many (Nat.not_lt.mpr bounded)
  exact ⟨reached none .openFailed _ rfl _ rfl (by decide), reached _ (.written 1) _ rfl _ rfl (by decide)⟩

end Droidlogic.Service.DigManager
