import Mathlib.Data.List.Basic
import Droidlogic.Lib.Run

set_option autoImplicit false

namespace Droidlogic.Lib.Worker

inductive Thread
  | caller
  | worker (n : Nat)
deriving DecidableEq

inductive Act (Pc : Type)
  | go (next : Pc)
  | push (next : Pc)
  | lock (next : Pc)
  | pushUnlock (next : Pc)

def Act.next {Pc : Type} : Act Pc → Pc
  | .go next | .push next | .lock next | .pushUnlock next => next

-- A worker that runs while a flag is set: left are the places behind its loop,
-- exits those where the flag leads there, wants those where it waits for the lock.
-- start checks its source first, stop joins the worker and drains its queue, or not.
structure Program (Flag Pc Input : Type) where
  running : Flag
  halted : Flag
  apart : halted ≠ running
  checks : Bool
  joins : Bool
  drains : Bool
  entry : Pc
  act : Flag → Pc → Input → Option (Act Pc)
  left : Pc → Bool
  exits : Pc → Bool
  wants : Pc → Bool
  ended : Pc → Bool
  enters : left entry = false
  leaves : ∀ flag pc input action, act flag pc input = some action → left action.next = true → left pc = false →
    exits pc = true ∧ flag ≠ running
  waits : ∀ flag pc input action, act flag pc input = some action → wants action.next = true → flag = running

inductive Call
  | start
  | read
  | stop
deriving DecidableEq

inductive CallerPc
  | idle
  | startLock
  | startCreate
  | startFlag
  | startUnlock
  | readLock
  | readPop
  | stopLock
  | stopFlag
  | stopJoin
  | stopUnlock
deriving DecidableEq

-- handle is the thread that a join would wait for; stop has been called for the
-- first stopped workers.
structure State (Flag Pc : Type) where
  flag : Flag
  lock : Option Thread
  caller : CallerPc
  workers : List Pc
  handle : Option Nat
  stopped : Nat
  queue : Nat
deriving DecidableEq

inductive Event (Input : Type)
  | call (call : Call)
  | caller (ok : Bool)
  | worker (n : Nat) (input : Input)

def initial {Flag Pc : Type} (flag : Flag) : State Flag Pc := ⟨flag, none, .idle, [], none, 0, 0⟩

section
variable {Flag Pc Input : Type} (program : Program Flag Pc Input)

def callStep (state : State Flag Pc) (call : Call) : Option (State Flag Pc) :=
  if state.caller = .idle then
    match call with
    | .start => some { state with caller := .startLock }
    | .read => some { state with caller := .readLock }
    | .stop => some { state with caller := .stopLock, stopped := state.workers.length }
  else none

def acquire (state : State Flag Pc) (next : CallerPc) : Option (State Flag Pc) :=
  if state.lock = none then some { state with lock := some .caller, caller := next } else none

def joined (state : State Flag Pc) : Option Pc := state.handle.bind fun n => state.workers[n]?

-- A join of no thread is undefined.
def callerStep (state : State Flag Pc) (ok : Bool) : Option (State Flag Pc) :=
  match state.caller with
  | .idle => none
  | .startLock => acquire state .startCreate
  | .startCreate =>
      if ok || !program.checks then
        some { state with
          workers := state.workers ++ [program.entry]
          handle := some state.workers.length
          caller := .startFlag }
      else some { state with caller := .startUnlock }
  | .startFlag => some { state with flag := program.running, caller := .startUnlock }
  | .startUnlock => some { state with lock := none, caller := .idle }
  | .readLock => acquire state .readPop
  | .readPop => some { state with queue := state.queue - 1, lock := none, caller := .idle }
  | .stopLock => acquire state .stopFlag
  | .stopFlag => some { state with flag := program.halted, caller := if program.joins then .stopJoin else .stopUnlock }
  | .stopJoin => if (joined state).any program.ended then some { state with handle := none, caller := .stopUnlock } else none
  | .stopUnlock =>
      some { state with queue := if program.drains then 0 else state.queue, lock := none, caller := .idle }

def perform (state : State Flag Pc) (n : Nat) (action : Act Pc) : Option (State Flag Pc) :=
  match action with
  | .go next => some { state with workers := state.workers.set n next }
  | .push next => some { state with workers := state.workers.set n next, queue := state.queue + 1 }
  | .lock next =>
      if state.lock = none then some { state with workers := state.workers.set n next, lock := some (.worker n) }
      else none
  | .pushUnlock next =>
      if state.lock = some (.worker n) then
        some { state with workers := state.workers.set n next, lock := none, queue := state.queue + 1 }
      else none

def step (state : State Flag Pc) : Event Input → Option (State Flag Pc)
  | .call call => callStep state call
  | .caller ok => callerStep program state ok
  | .worker n input =>
      state.workers[n]?.bind fun pc => (program.act state.flag pc input).bind fun action => perform state n action

-- No worker has left its loop that stop was not called for, and stop does not wait
-- for a worker that waits for its lock.
def Healthy (state : State Flag Pc) : Prop :=
  (∀ n, state.stopped ≤ n → state.workers[n]?.any program.left = false) ∧
    ¬(state.caller = .stopJoin ∧ state.lock = some .caller ∧ (joined state).any program.wants = true)

-- A worker does not look at the flag before start has set it, and stop does not
-- clear the flag while the worker that it will join waits for the lock.
def Orderly (state : State Flag Pc) : Event Input → Prop
  | .call _ => True
  | .caller _ => state.caller = .stopFlag → program.joins = true → (joined state).any program.wants = false
  | .worker n _ => state.stopped ≤ n → state.caller = .startFlag → state.workers[n]?.any program.exits = true →
      state.flag = program.running

instance [DecidableEq Flag] (state : State Flag Pc) (event : Event Input) : Decidable (Orderly program state event) :=
  match event with
  | .call _ => isTrue trivial
  | .caller _ => inferInstanceAs (Decidable (_ → _ → _))
  | .worker _ _ => inferInstanceAs (Decidable (_ → _ → _ → _))

def Holding (pc : CallerPc) : Prop :=
  pc = .startCreate ∨ pc = .startFlag ∨ pc = .startUnlock ∨ pc = .readPop ∨ pc = .stopFlag ∨ pc = .stopJoin ∨
    pc = .stopUnlock

def InStop (pc : CallerPc) : Prop := pc = .stopLock ∨ pc = .stopFlag ∨ pc = .stopJoin ∨ pc = .stopUnlock

structure Invariant (state : State Flag Pc) : Prop where
  alive : ∀ n, state.stopped ≤ n → state.workers[n]?.any program.left = false
  runs : state.caller = .startFlag ∨ state.flag = program.running ∨ state.workers.length ≤ state.stopped
  called : InStop state.caller → state.workers.length ≤ state.stopped
  holding : Holding state.caller → state.lock = some .caller
  joining : state.caller = .stopJoin → state.flag = program.halted ∧ (joined state).any program.wants = false

theorem initial_invariant (flag : Flag) : Invariant program (initial flag) where
  alive n _ := by simp [initial]
  runs := .inr (.inr (Nat.le_refl _))
  called inStop := by simp [InStop, initial] at inStop
  holding held := by simp [Holding, initial] at held
  joining waiting := by cases waiting

theorem invariant_healthy (state : State Flag Pc) (inv : Invariant program state) : Healthy program state := by
  refine ⟨inv.alive, ?_⟩
  rintro ⟨waiting, -, wants⟩
  rw [(inv.joining waiting).2] at wants
  cases wants

-- What one step of a worker can change.
theorem worker_step_cases (state next : State Flag Pc) (n : Nat) (input : Input)
    (taken : step program state (.worker n input) = some next) :
    ∃ pc action, state.workers[n]? = some pc ∧ program.act state.flag pc input = some action ∧
      next.workers = state.workers.set n action.next ∧ next.flag = state.flag ∧ next.caller = state.caller ∧
      next.handle = state.handle ∧ next.stopped = state.stopped ∧
      (state.lock = some .caller → next.lock = some .caller) := by
  obtain ⟨pc, here, acts⟩ := Option.bind_eq_some_iff.mp taken
  obtain ⟨action, act, performed⟩ := Option.bind_eq_some_iff.mp acts
  refine ⟨pc, action, here, act, ?_⟩
  cases action with
  | go pcNext =>
      cases performed
      exact ⟨rfl, rfl, rfl, rfl, rfl, id⟩
  | push pcNext =>
      cases performed
      exact ⟨rfl, rfl, rfl, rfl, rfl, id⟩
  | lock pcNext =>
      by_cases free : state.lock = none
      · rw [perform, if_pos free] at performed
        cases performed
        exact ⟨rfl, rfl, rfl, rfl, rfl, fun held => absurd (free.symm.trans held) (by simp)⟩
      · rw [perform, if_neg free] at performed
        cases performed
  | pushUnlock pcNext =>
      by_cases mine : state.lock = some (.worker n)
      · rw [perform, if_pos mine] at performed
        cases performed
        exact ⟨rfl, rfl, rfl, rfl, rfl, fun held => absurd (mine.symm.trans held) (by simp)⟩
      · rw [perform, if_neg mine] at performed
        cases performed

theorem any_set (workers : List Pc) (n m : Nat) (next : Pc) (test : Pc → Bool)
    (before : workers[m]?.any test = false) (after : m = n → test next = false) :
    (workers.set n next)[m]?.any test = false := by
  by_cases same : m = n
  · subst m
    by_cases inside : n < workers.length
    · rw [List.getElem?_set_self inside]
      exact after rfl
    · rw [List.getElem?_eq_none (by rw [List.length_set]; exact Nat.le_of_not_lt inside)]
      rfl
  · rw [List.getElem?_set_ne (Ne.symm same)]
    exact before

theorem worker_invariant (state next : State Flag Pc) (n : Nat) (input : Input) (inv : Invariant program state)
    (orderly : Orderly program state (.worker n input)) (taken : step program state (.worker n input) = some next) :
    Invariant program next := by
  obtain ⟨pc, action, here, act, workers, flag, caller, handle, stopped, lock⟩ :=
    worker_step_cases program state next n input taken
  have length : next.workers.length = state.workers.length := by rw [workers, List.length_set]
  constructor
  · intro m bound
    rw [stopped] at bound
    rw [workers]
    refine any_set _ _ _ _ _ (inv.alive m bound) fun same => ?_
    subst same
    have inLoop : program.left pc = false := by simpa [here] using inv.alive m bound
    by_contra leaves
    obtain ⟨exits, unset⟩ := program.leaves _ _ _ _ act (by simpa using leaves) inLoop
    rcases inv.runs with starting | running | none_left
    · exact unset (orderly bound starting (by simp [here, exits]))
    · exact unset running
    · have inside := (List.getElem?_eq_some_iff.mp here).1
      omega
  · rw [caller, flag, length, stopped]
    exact inv.runs
  · rw [caller, length, stopped]
    exact inv.called
  · intro held
    rw [caller] at held
    exact lock (inv.holding held)
  · intro waiting
    obtain ⟨halted, free⟩ := inv.joining (caller ▸ waiting)
    refine ⟨flag.trans halted, ?_⟩
    rw [joined, handle, workers]
    cases joining : state.handle with
    | none => rfl
    | some m =>
        refine any_set _ _ _ _ _ (by simpa [joined, joining] using free) fun _ => ?_
        by_contra wants
        have running := program.waits _ _ _ _ act (by simpa using wants)
        exact program.apart (halted.symm.trans running)

theorem acquire_cases (state next : State Flag Pc) (pc : CallerPc) (taken : acquire state pc = some next) :
    next = { state with lock := some .caller, caller := pc } := by
  by_cases free : state.lock = none
  · rw [acquire, if_pos free] at taken
    exact (Option.some.inj taken).symm
  · rw [acquire, if_neg free] at taken
    cases taken

-- The caller moves on and neither the flag nor the workers change.
theorem caller_moves (state : State Flag Pc) (pc : CallerPc) (lock : Option Thread) (handle : Option Nat) (queue : Nat)
    (inv : Invariant program state) (notStarting : state.caller ≠ .startFlag) (notJoining : pc ≠ .stopJoin)
    (inStop : InStop pc → InStop state.caller) (holding : Holding pc → lock = some .caller) :
    Invariant program { state with caller := pc, lock := lock, handle := handle, queue := queue } where
  alive := inv.alive
  runs := .inr (inv.runs.resolve_left notStarting)
  called inStopToo := inv.called (inStop inStopToo)
  holding := holding
  joining waiting := absurd waiting notJoining

theorem call_invariant (state next : State Flag Pc) (call : Call) (inv : Invariant program state)
    (taken : callStep state call = some next) : Invariant program next := by
  unfold callStep at taken
  by_cases idle : state.caller = .idle
  · have notStarting : state.caller ≠ .startFlag := by simp [idle]
    rw [if_pos idle] at taken
    cases call with
    | start =>
        cases taken
        exact caller_moves program state _ _ _ _ inv notStarting (by decide) (by simp [InStop]) (by simp [Holding])
    | read =>
        cases taken
        exact caller_moves program state _ _ _ _ inv notStarting (by decide) (by simp [InStop]) (by simp [Holding])
    | stop =>
        cases taken
        refine ⟨fun n bound => ?_, .inr (.inr (Nat.le_refl _)), fun _ => Nat.le_refl _, by simp [Holding],
          fun waiting => by cases waiting⟩
        rw [List.getElem?_eq_none bound]
        rfl
  · rw [if_neg idle] at taken
    cases taken

theorem create_invariant (state : State Flag Pc) (inv : Invariant program state) (held : state.lock = some .caller) :
    Invariant program { state with
      workers := state.workers ++ [program.entry]
      handle := some state.workers.length
      caller := .startFlag } where
  alive n bound := by
    rcases Nat.lt_trichotomy n state.workers.length with old | rfl | beyond
    · rw [List.getElem?_append_left old]
      exact inv.alive n bound
    · simpa using program.enters
    · rw [List.getElem?_eq_none (by simpa using Nat.succ_le_of_lt beyond)]
      rfl
  runs := .inl rfl
  called inStop := by simp [InStop] at inStop
  holding _ := held
  joining waiting := by cases waiting

theorem set_invariant (state : State Flag Pc) (inv : Invariant program state) (held : state.lock = some .caller) :
    Invariant program { state with flag := program.running, caller := .startUnlock } where
  alive := inv.alive
  runs := .inr (.inl rfl)
  called inStop := by simp [InStop] at inStop
  holding _ := held
  joining waiting := by cases waiting

theorem clear_invariant (state : State Flag Pc) (inv : Invariant program state) (stopping : state.caller = .stopFlag)
    (free : program.joins = true → (joined state).any program.wants = false) :
    Invariant program { state with flag := program.halted, caller := if program.joins then .stopJoin else .stopUnlock } := by
  have called := inv.called (.inr (.inl stopping))
  have held := inv.holding (by simp [Holding, stopping])
  refine ⟨inv.alive, .inr (.inr called), fun _ => called, fun _ => held, fun waiting => ?_⟩
  cases joins : program.joins with
  | false => simp [joins] at waiting
  | true => exact ⟨rfl, free joins⟩

theorem caller_invariant (state next : State Flag Pc) (ok : Bool) (inv : Invariant program state)
    (orderly : Orderly program state (.caller ok : Event Input)) (taken : callerStep program state ok = some next) :
    Invariant program next := by
  have moves (pc : CallerPc) (lock : Option Thread) (handle : Option Nat) (queue : Nat) :=
    caller_moves program state pc lock handle queue inv
  unfold callerStep at taken
  cases here : state.caller with
  | idle => simp [here] at taken
  | startLock =>
      simp only [here] at taken
      cases acquire_cases state next _ taken
      exact moves _ _ _ _ (by simp [here]) (by decide) (by simp [InStop]) fun _ => rfl
  | startCreate =>
      have held := inv.holding (.inl here)
      simp only [here] at taken
      split at taken
      · cases taken
        exact create_invariant program state inv held
      · cases taken
        exact moves _ _ _ _ (by simp [here]) (by decide) (by simp [InStop]) fun _ => held
  | startFlag =>
      simp only [here] at taken
      cases taken
      exact set_invariant program state inv (inv.holding (.inr (.inl here)))
  | startUnlock =>
      simp only [here] at taken
      cases taken
      exact moves _ _ _ _ (by simp [here]) (by decide) (by simp [InStop]) (by simp [Holding])
  | readLock =>
      simp only [here] at taken
      cases acquire_cases state next _ taken
      exact moves _ _ _ _ (by simp [here]) (by decide) (by simp [InStop]) fun _ => rfl
  | readPop =>
      simp only [here] at taken
      cases taken
      exact moves _ _ _ _ (by simp [here]) (by decide) (by simp [InStop]) (by simp [Holding])
  | stopLock =>
      simp only [here] at taken
      cases acquire_cases state next _ taken
      exact moves _ _ _ _ (by simp [here]) (by decide) (fun _ => .inl here) fun _ => rfl
  | stopFlag =>
      simp only [here] at taken
      cases taken
      exact clear_invariant program state inv here (orderly here)
  | stopJoin =>
      simp only [here] at taken
      split at taken
      · cases taken
        exact moves _ _ _ _ (by simp [here]) (by decide) (fun _ => .inr (.inr (.inl here)))
          fun _ => inv.holding (by simp [Holding, here])
      · cases taken
  | stopUnlock =>
      simp only [here] at taken
      cases taken
      exact moves _ _ _ _ (by simp [here]) (by decide) (by simp [InStop]) (by simp [Holding])

theorem step_invariant (state : State Flag Pc) (event : Event Input) (next : State Flag Pc)
    (inv : Invariant program state) (orderly : Orderly program state event)
    (taken : step program state event = some next) : Invariant program next := by
  cases event with
  | call call => exact call_invariant program state next call inv taken
  | caller ok => exact caller_invariant program state next ok inv orderly taken
  | worker n input => exact worker_invariant program state next n input inv orderly taken

theorem orderly_run_healthy (flag : Flag) (events : List (Event Input)) (final : State Flag Pc)
    (orderly : Guarded (step program) (Orderly program) (initial flag) events)
    (reached : run (step program) (initial flag) events = some final) : Healthy program final :=
  invariant_healthy program final
    (run_invariant (step program) (Orderly program) (Invariant program)
      (fun state event next inv orderlyToo taken => step_invariant program state event next inv orderlyToo taken)
      (initial flag) final events (initial_invariant program flag) orderly reached)

end

end Droidlogic.Lib.Worker
