import Droidlogic.Lib.Worker
import Droidlogic.Screen.Manager

set_option autoImplicit false

namespace Droidlogic.Screen

open Droidlogic.Lib

namespace ScreenCatch

inductive Pc
  | whileTest
  | readBuffer
  | statusTest
  | breakTest
  | autoLock
  | pushBack
  | left
  | ended
deriving DecidableEq

-- One step of threadFunc; status is what readBuffer returns. Each test reads mStart anew.
def threadFunc (mStart : Int) (pc : Pc) (status : Int) : Option (Worker.Act Pc) :=
  match pc with
  | .whileTest => some (.go (if mStart = 1 then .readBuffer else .left))
  | .readBuffer => some (.go (if status ≠ ok then .statusTest else .breakTest))
  | .statusTest => some (.go (if mStart = 1 then .whileTest else .breakTest))
  | .breakTest => some (.go (if mStart ≠ 1 then .left else .autoLock))
  | .autoLock => some (.lock .pushBack)
  | .pushBack => some (.pushUnlock .whileTest)
  | .left => some (.go .ended)
  | .ended => none

def outOfLoop (pc : Pc) : Bool := pc = .left || pc = .ended

def loopExit (pc : Pc) : Bool := pc = .whileTest || pc = .breakTest

theorem thread_leaves (mStart : Int) (pc : Pc) (status : Int) (action : Worker.Act Pc)
    (act : threadFunc mStart pc status = some action) (after : outOfLoop action.next = true)
    (before : outOfLoop pc = false) : loopExit pc = true ∧ mStart ≠ 1 := by
  cases pc with
  | whileTest =>
      cases act
      exact ⟨rfl, fun set => by simp [outOfLoop, Worker.Act.next, set] at after⟩
  | readBuffer =>
      cases act
      by_cases good : status = ok <;> simp [outOfLoop, Worker.Act.next, good] at after
  | statusTest =>
      cases act
      by_cases set : mStart = 1 <;> simp [outOfLoop, Worker.Act.next, set] at after
  | breakTest =>
      cases act
      exact ⟨rfl, fun set => by simp [outOfLoop, Worker.Act.next, set] at after⟩
  | autoLock | pushBack =>
      cases act
      cases after
  | left | ended => cases before

theorem thread_waits (mStart : Int) (pc : Pc) (status : Int) (action : Worker.Act Pc)
    (act : threadFunc mStart pc status = some action) (wants : decide (action.next = .autoLock) = true) :
    mStart = 1 := by
  cases pc with
  | whileTest | statusTest =>
      cases act
      by_cases set : mStart = 1 <;> simp [Worker.Act.next, set] at wants
  | readBuffer =>
      cases act
      by_cases good : status = ok <;> simp [Worker.Act.next, good] at wants
  | breakTest =>
      cases act
      by_contra unset
      simp [Worker.Act.next, unset] at wants
  | autoLock | pushBack | left =>
      cases act
      cases wants
  | ended => cases act

-- start, read and stop hold mLock; stop joins the thread while it does.
def worker : Worker.Program Int Pc Int where
  running := 1
  halted := 0
  apart := by decide
  checks := true
  joins := true
  drains := true
  entry := .whileTest
  act := threadFunc
  left := outOfLoop
  exits := loopExit
  wants pc := pc = .autoLock
  ended pc := pc = .ended
  enters := rfl
  leaves := thread_leaves
  waits := thread_waits

end ScreenCatch

namespace TSPacker

inductive Pc
  | csdWhile
  | csdRead
  | whileTest
  | videoRead
  | audioRead
  | ended
deriving DecidableEq

-- One step of threadFunc; err is what the convertor's read returns. A flag that is clear
-- at the first loop leads to the second one.
def threadFunc (mHasAudio mStarted : Bool) (pc : Pc) (err : Int) : Option (Worker.Act Pc) :=
  match pc with
  | .csdWhile => some (.go (if mStarted then .csdRead else .whileTest))
  | .csdRead => some (.go (if err ≠ ok then .csdWhile else .whileTest))
  | .whileTest => some (.go (if mStarted then .videoRead else .ended))
  | .videoRead =>
      if err = ok then some (.push .whileTest) else some (.go (if mHasAudio then .audioRead else .whileTest))
  | .audioRead => if err ≠ ok then some (.go .whileTest) else some (.push .whileTest)
  | .ended => none

theorem thread_leaves (mHasAudio mStarted : Bool) (pc : Pc) (err : Int) (action : Worker.Act Pc)
    (act : threadFunc mHasAudio mStarted pc err = some action) (after : decide (action.next = .ended) = true)
    (before : decide (pc = .ended) = false) : decide (pc = .whileTest) = true ∧ mStarted ≠ true := by
  cases pc with
  | csdWhile =>
      cases act
      cases mStarted <;> cases after
  | csdRead =>
      cases act
      by_cases good : err = ok <;> simp [Worker.Act.next, good] at after
  | whileTest =>
      cases act
      exact ⟨rfl, fun set => by simp [Worker.Act.next, set] at after⟩
  | videoRead =>
      by_cases good : err = ok
      · rw [threadFunc, if_pos good] at act
        cases act
        cases after
      · rw [threadFunc, if_neg good] at act
        cases act
        cases mHasAudio <;> cases after
  | audioRead =>
      by_cases good : err = ok
      · rw [threadFunc, if_neg (not_not.mpr good)] at act
        cases act
        cases after
      · rw [threadFunc, if_pos good] at act
        cases act
        cases after
  | ended => cases before

-- The thread takes no lock, and stop does not wait for it.
def worker (mHasAudio : Bool) : Worker.Program Bool Pc Int where
  running := true
  halted := false
  apart := by decide
  checks := false
  joins := false
  drains := false
  entry := .csdWhile
  act := threadFunc mHasAudio
  left pc := pc = .ended
  exits pc := pc = .whileTest
  wants _ := false
  ended pc := pc = .ended
  enters := rfl
  leaves := thread_leaves mHasAudio
  waits _ _ _ _ _ wants := by cases wants

end TSPacker

theorem capture_worker_lives (mStart : Int) (mHasAudio mStarted : Bool) :
    (∀ (events : List (Worker.Event Int)) (final : Worker.State Int ScreenCatch.Pc),
      Guarded (Worker.step ScreenCatch.worker) (Worker.Orderly ScreenCatch.worker) (Worker.initial mStart) events →
      run (Worker.step ScreenCatch.worker) (Worker.initial mStart) events = some final →
      Worker.Healthy ScreenCatch.worker final) ∧
    ∀ (events : List (Worker.Event Int)) (final : Worker.State Bool TSPacker.Pc),
      Guarded (Worker.step (TSPacker.worker mHasAudio)) (Worker.Orderly (TSPacker.worker mHasAudio))
        (Worker.initial mStarted) events →
      run (Worker.step (TSPacker.worker mHasAudio)) (Worker.initial mStarted) events = some final →
      Worker.Healthy (TSPacker.worker mHasAudio) final :=
  ⟨Worker.orderly_run_healthy ScreenCatch.worker mStart, Worker.orderly_run_healthy (TSPacker.worker mHasAudio) mStarted⟩

-- The caller's steps of one start and of one stop, each in its order.
def startSteps : List (Worker.Event Int) := [.call .start, .caller true, .caller true, .caller true, .caller true]

def stopSteps : List (Worker.Event Int) := [.call .stop, .caller true, .caller true]

-- One frame is captured and read, and stop comes while the worker reads the next.
def captureRun : List (Worker.Event Int) :=
  startSteps ++ List.replicate 5 (.worker 0 0) ++ [.call .read, .caller true, .caller true, .worker 0 0] ++ stopSteps ++
    List.replicate 4 (.worker 0 1) ++ [.caller true, .caller true]

def recordRun : List (Worker.Event Int) :=
  startSteps ++ List.replicate 4 (.worker 0 0) ++ [.call .read, .caller true, .caller true] ++ stopSteps ++
    [.worker 0 0, .caller true]

theorem captured_frame_lives :
    Worker.Healthy ScreenCatch.worker ⟨0, none, .idle, [.ended], none, 1, 0⟩ ∧
      Worker.Healthy (TSPacker.worker false) ⟨false, none, .idle, [.ended], some 0, 1, 0⟩ :=
  ⟨(capture_worker_lives 7 false false).1 captureRun _ (by decide +kernel) rfl,
    (capture_worker_lives 7 false false).2 recordRun _ (by decide +kernel) rfl⟩

-- stop takes the lock between the worker's last test and its lock, and then joins it; the
-- recorder's worker looks at mStarted before start has set it.
theorem capture_worker_lost :
    (¬ ∀ (mStart : Int) (events : List (Worker.Event Int)) (final : Worker.State Int ScreenCatch.Pc),
      run (Worker.step ScreenCatch.worker) (Worker.initial mStart) events = some final →
      Worker.Healthy ScreenCatch.worker final) ∧
    ¬ ∀ (mHasAudio mStarted : Bool) (events : List (Worker.Event Int)) (final : Worker.State Bool TSPacker.Pc),
      run (Worker.step (TSPacker.worker mHasAudio)) (Worker.initial mStarted) events = some final →
      Worker.Healthy (TSPacker.worker mHasAudio) final := by
  constructor
  · intro all
    have stuck := all 0 (startSteps ++ List.replicate 3 (.worker 0 0) ++ stopSteps)
      ⟨0, some .caller, .stopJoin, [.autoLock], some 0, 1, 0⟩ (by decide)
    exact stuck.2 ⟨rfl, rfl, rfl⟩
  · intro all
    have early := all false false (startSteps.take 3 ++ List.replicate 2 (.worker 0 0))
      ⟨false, some .caller, .startFlag, [.ended], some 0, 0, 0⟩ (by decide)
    exact absurd (early.1 0 (Nat.le_refl 0)) (by decide)

end Droidlogic.Screen
