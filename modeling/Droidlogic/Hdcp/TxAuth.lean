import Mathlib.Data.Fintype.Defs
import Mathlib.Data.List.Nodup
import Droidlogic.Lib.Run
import Droidlogic.Lib.Turn

set_option autoImplicit false

namespace Droidlogic.Hdcp.TxAuth

open Lib

-- Where a caller stands in its pair of stop() and start(): the step it takes next.
inductive Pc
  | idle
  | test
  | exitFlag
  | stopLock
  | join
  | joining (thread : Nat)
  | stopUnlock
  | clear
  | startLock
  | startFlag
  | create
  | wait (thread_id : Nat)
  | record (thread_id : Nat)
  | startUnlock
  deriving DecidableEq

-- Threads are numbered from 1 as they are created, 0 is no thread.
structure State (Caller : Type) where
  pthreadTxMutex : Bool
  pthreadTxSem : Nat
  pthreadIdHdcpTx : Nat
  mExitHdcpTxThread : Bool
  pc : Caller → Pc
  created : Nat
  -- Threads that have not reached their sem_post.
  entering : List Nat
  live : List Nat
  -- Threads that were alive when the exit flag was set, or created while it was.
  told : List Nat
  -- The threads given to pthread_join.
  joins : List Nat

def start (Caller : Type) : State Caller := ⟨false, 0, 0, false, fun _ => .idle, 0, [], [], [], []⟩

-- createFails leaves thread_id as it is, uninitialised. A thread can end at any time after
-- its sem_post: the display decides when the authentication is over.
inductive Input (Caller : Type)
  | caller (c : Caller)
  | createFails (c : Caller) (thread_id : Nat)
  | waitFails (c : Caller)
  | enters (thread : Nat)
  | exits (thread : Nat)

section
variable {Caller : Type} [DecidableEq Caller]

def State.goto (s : State Caller) (c : Caller) (pc : Pc) : State Caller :=
  { s with pc := Function.update s.pc c pc }

-- The error exit of stop() does not unlock, and its caller goes on with start().
def pthreadJoin (s : State Caller) (c : Caller) : State Caller :=
  let thread := s.pthreadIdHdcpTx
  if thread = 0 ∨ s.created < thread then s.goto c .startLock
  else if thread ∈ s.joins then { s with joins := thread :: s.joins }.goto c .startLock
  else { s with joins := thread :: s.joins }.goto c (.joining thread)

def pthreadCreate (s : State Caller) (c : Caller) : State Caller :=
  let thread := s.created + 1
  { s with
    created := thread
    entering := thread :: s.entering
    live := thread :: s.live
    told := if s.mExitHdcpTxThread then thread :: s.told else s.told }.goto c (.wait thread)

-- pthread_mutex_trylock answers EBUSY for a locked mutex, never EDEADLK, so both calls go on.
def callerStep (s : State Caller) (c : Caller) : Option (State Caller) :=
  match s.pc c with
  | .idle => some (s.goto c .test)
  | .test => some (s.goto c (if s.pthreadIdHdcpTx = 0 then .startLock else .exitFlag))
  | .exitFlag => some ({ s with mExitHdcpTxThread := true, told := s.live ++ s.told }.goto c .stopLock)
  | .stopLock => some ({ s with pthreadTxMutex := true }.goto c .join)
  | .join => some (pthreadJoin s c)
  | .joining thread => if thread ∈ s.live then none else some (s.goto c .stopUnlock)
  | .stopUnlock => some ({ s with pthreadTxMutex := false }.goto c .clear)
  | .clear => some ({ s with pthreadIdHdcpTx := 0 }.goto c .startLock)
  | .startLock => some ({ s with pthreadTxMutex := true }.goto c .startFlag)
  | .startFlag => some ({ s with mExitHdcpTxThread := false }.goto c .create)
  | .create => some (pthreadCreate s c)
  | .wait thread_id =>
      if s.pthreadTxSem = 0 then none
      else some ({ s with pthreadTxSem := s.pthreadTxSem - 1 }.goto c (.record thread_id))
  | .record thread_id => some ({ s with pthreadIdHdcpTx := thread_id }.goto c .startUnlock)
  | .startUnlock => some ({ s with pthreadTxMutex := false }.goto c .idle)

def step (s : State Caller) : Input Caller → Option (State Caller)
  | .caller c => callerStep s c
  | .createFails c thread_id => if s.pc c = .create then some (s.goto c (.wait thread_id)) else none
  | .waitFails c =>
      match s.pc c with
      | .wait thread_id => some (s.goto c (.record thread_id))
      | _ => none
  | .enters thread =>
      if thread ∈ s.entering then
        some { s with entering := s.entering.erase thread, pthreadTxSem := s.pthreadTxSem + 1 }
      else none
  | .exits thread =>
      if thread ∈ s.live ∧ thread ∉ s.entering then some { s with live := s.live.erase thread } else none

end

section
variable {Caller : Type}

structure Sound (s : State Caller) : Prop where
  one : (s.live.filter (· ∉ s.told)).length ≤ 1
  -- A new thread is its start()'s own until that has recorded it.
  recorded : ∀ thread ∈ s.live,
    thread = s.pthreadIdHdcpTx ∨ ∃ c, s.pc c = .wait thread ∨ s.pc c = .record thread
  once : s.joins.Nodup
  free : (∀ c, s.pc c = .idle) → s.pthreadTxMutex = false

-- From the test of the recorded id on, until the new one is recorded.
def Pc.Window : Pc → Prop
  | .idle => False
  | .test => False
  | .startUnlock => False
  | _ => True

instance decidableWindow : (pc : Pc) → Decidable pc.Window
  | .idle | .test | .startUnlock => isFalse id
  | .exitFlag | .stopLock | .join | .joining _ | .stopUnlock | .clear | .startLock | .startFlag | .create
  | .wait _ | .record _ => isTrue trivial

-- No caller tests the id while another one is between its test and its recording, and what is
-- recorded, uninitialised after a failed pthread_create, is not a thread joined before.
def Guard (s : State Caller) : Input Caller → Prop
  | .caller c =>
      (s.pc c = .test → ∀ other, (s.pc other).Window → False) ∧ ∀ thread ∈ s.joins, s.pc c ≠ .record thread
  | _ => True

def Recorded (s : State Caller) : Prop :=
  (∀ thread ∈ s.live, thread = s.pthreadIdHdcpTx) ∧ s.pthreadIdHdcpTx ∉ s.joins

-- What the caller in the window relies on.
def Held (s : State Caller) : Pc → Prop
  | .exitFlag | .stopLock | .join => Recorded s
  | .joining thread => s.pthreadIdHdcpTx = thread ∧ ∀ other ∈ s.live, other = thread
  | .stopUnlock | .clear | .startLock | .startFlag | .create => s.live = []
  | .wait thread_id | .record thread_id => ∀ thread ∈ s.live, thread = thread_id
  | .idle | .test | .startUnlock => False

structure Facts (s : State Caller) : Prop where
  few : s.live.length ≤ 1
  valid : ∀ thread ∈ s.live, 0 < thread ∧ thread ≤ s.created
  joined : ∀ thread ∈ s.joins, 0 < thread
  once : s.joins.Nodup

structure Inv (s : State Caller) : Prop where
  turn : Turn Pc.Window (Held s) (Recorded s) s.pc
  facts : Facts s

-- The invariant reads neither the mutex, the semaphore nor the flag.
theorem aside_inv (s : State Caller) (mutex flag : Bool) (sem : Nat) (entering told : List Nat) (inv : Inv s) :
    Inv { s with
      pthreadTxMutex := mutex
      pthreadTxSem := sem
      mExitHdcpTxThread := flag
      entering := entering
      told := told } :=
  ⟨inv.turn, inv.facts.few, inv.facts.valid, inv.facts.joined, inv.facts.once⟩

theorem held_window (s : State Caller) (pc : Pc) (held : Held s pc) : pc.Window := by
  cases pc with
  | idle => exact held
  | test => exact held
  | startUnlock => exact held
  | _ => trivial

theorem held_fewer (s : State Caller) (live : List Nat) (fewer : live ⊆ s.live) (pc : Pc) (held : Held s pc) :
    Held { s with live := live } pc := by
  have every (property : Nat → Prop) (all : ∀ thread ∈ s.live, property thread) : ∀ thread ∈ live, property thread :=
    fun thread inside => all thread (fewer inside)
  have none (empty : s.live = []) : live = [] := List.eq_nil_of_subset_nil (empty ▸ fewer)
  cases pc with
  | exitFlag => exact ⟨every _ held.1, held.2⟩
  | stopLock => exact ⟨every _ held.1, held.2⟩
  | join => exact ⟨every _ held.1, held.2⟩
  | joining thread => exact ⟨held.1, every _ held.2⟩
  | wait thread_id => exact every _ held
  | record thread_id => exact every _ held
  | idle => exact held
  | test => exact held
  | startUnlock => exact held
  | _ => exact none held

theorem exit_inv (s : State Caller) (thread : Nat) (inv : Inv s) : Inv { s with live := s.live.erase thread } := by
  have fewer : s.live.erase thread ⊆ s.live := List.erase_subset
  refine ⟨?_, (List.length_erase_le).trans inv.facts.few, fun other inside => inv.facts.valid other (fewer inside),
    inv.facts.joined, inv.facts.once⟩
  exact turn_mono _ _ _ s.pc inv.turn (held_fewer s _ fewer) fun recorded =>
    ⟨fun other inside => recorded.1 other (fewer inside), recorded.2⟩

theorem start_inv : Inv (start Caller) :=
  ⟨.inr ⟨fun _ => id, nofun, List.not_mem_nil⟩, Nat.zero_le 1, nofun, nofun, List.nodup_nil⟩

-- The last step on the mutex is an unlock once every call has returned: a pair ends with one.
def Busy (s : State Caller) : Prop := s.pthreadTxMutex = true → ∃ c, s.pc c ≠ .idle

theorem busy_free (s : State Caller) (busy : Busy s) (returned : ∀ c, s.pc c = .idle) : s.pthreadTxMutex = false := by
  refine Bool.eq_false_iff.mpr fun locked => ?_
  obtain ⟨c, working⟩ := busy locked
  exact working (returned c)

theorem held_recorded (s : State Caller) (pc : Pc) (held : Held s pc) (thread : Nat) (alive : thread ∈ s.live) :
    thread = s.pthreadIdHdcpTx ∨ pc = .wait thread ∨ pc = .record thread := by
  cases pc with
  | exitFlag => exact .inl (held.1 thread alive)
  | stopLock => exact .inl (held.1 thread alive)
  | join => exact .inl (held.1 thread alive)
  | joining joined => exact .inl ((held.2 thread alive).trans held.1.symm)
  | wait thread_id => exact .inr (.inl (held thread alive ▸ rfl))
  | record thread_id => exact .inr (.inr (held thread alive ▸ rfl))
  | idle => exact held.elim
  | test => exact held.elim
  | startUnlock => exact held.elim
  | _ => exact absurd (held ▸ alive) List.not_mem_nil

theorem inv_sound (s : State Caller) (inv : Inv s) (busy : Busy s) : Sound s := by
  refine ⟨(List.length_filter_le _ _).trans inv.facts.few, fun thread alive => ?_, inv.facts.once, busy_free s busy⟩
  rcases inv.turn with ⟨c, held, -⟩ | ⟨-, recorded⟩
  · exact (held_recorded s _ held thread alive).imp_right fun own => ⟨c, own⟩
  · exact .inl (recorded.1 thread alive)

variable [DecidableEq Caller]

theorem goto_self (s : State Caller) (c : Caller) (pc : Pc) : (s.goto c pc).pc c = pc := by
  simp only [State.goto, Function.update_self]

theorem goto_inv (s : State Caller) (c : Caller) (pc : Pc) (alone : Alone Pc.Window s.pc c) (held : Held s pc)
    (facts : Facts s) : Inv (s.goto c pc) :=
  ⟨turn_update Pc.Window (Held s) (Recorded s) s.pc c pc alone held, facts.few, facts.valid, facts.joined, facts.once⟩

theorem move_inv (s : State Caller) (c : Caller) (pc : Pc) (inv : Inv s) (inside : (s.pc c).Window)
    (held : Held s (s.pc c) → Held s pc) : Inv (s.goto c pc) :=
  have mine := turn_held _ _ _ s.pc c inv.turn inside
  goto_inv s c pc mine.2 (held mine.1) inv.facts

theorem outside_inv (s : State Caller) (c : Caller) (pc : Pc) (inv : Inv s) (before : ¬(s.pc c).Window)
    (after : ¬pc.Window) : Inv (s.goto c pc) :=
  ⟨turn_outside _ _ _ s.pc c pc (held_window s) inv.turn before after, inv.facts.few, inv.facts.valid,
    inv.facts.joined, inv.facts.once⟩

theorem test_inv (s : State Caller) (c : Caller) (inv : Inv s) (calm : ∀ other, ¬(s.pc other).Window) :
    Inv (s.goto c (if s.pthreadIdHdcpTx = 0 then .startLock else .exitFlag)) := by
  have recorded : Recorded s := turn_calm _ _ _ s.pc (held_window s) inv.turn calm
  refine goto_inv s c _ (fun other inside => absurd inside (calm other)) ?_ inv.facts
  by_cases none : s.pthreadIdHdcpTx = 0
  · rw [if_pos none]
    refine List.eq_nil_iff_forall_not_mem.mpr fun thread alive => ?_
    have positive := (inv.facts.valid thread alive).1
    rw [recorded.1 thread alive, none] at positive
    exact absurd positive (Nat.lt_irrefl 0)
  · rw [if_neg none]
    exact recorded

theorem join_inv (s : State Caller) (c : Caller) (inv : Inv s) (pc : s.pc c = .join) : Inv (pthreadJoin s c) := by
  obtain ⟨held, alone⟩ := turn_held _ _ _ s.pc c inv.turn (pc ▸ trivial)
  rw [pc] at held
  rw [pthreadJoin]
  split
  · rename_i invalid
    refine goto_inv s c .startLock alone (List.eq_nil_iff_forall_not_mem.mpr fun thread alive => ?_) inv.facts
    have valid := inv.facts.valid thread alive
    rw [held.1 thread alive] at valid
    omega
  · rename_i valid
    rw [if_neg held.2]
    refine goto_inv _ c _ alone ⟨rfl, held.1⟩ ⟨inv.facts.few, inv.facts.valid, ?_, ?_⟩
    · exact List.forall_mem_cons.mpr ⟨by omega, inv.facts.joined⟩
    · exact List.nodup_cons.mpr ⟨held.2, inv.facts.once⟩

theorem clear_inv (s : State Caller) (c : Caller) (inv : Inv s) (pc : s.pc c = .clear) :
    Inv ({ s with pthreadIdHdcpTx := 0 }.goto c .startLock) := by
  obtain ⟨none, alone⟩ := turn_held _ _ _ s.pc c inv.turn (pc ▸ trivial)
  rw [pc] at none
  exact goto_inv _ c .startLock alone none ⟨inv.facts.few, inv.facts.valid, inv.facts.joined, inv.facts.once⟩

theorem create_inv (s : State Caller) (c : Caller) (inv : Inv s) (pc : s.pc c = .create) :
    Inv (pthreadCreate s c) := by
  obtain ⟨none, alone⟩ := turn_held _ _ _ s.pc c inv.turn (pc ▸ trivial)
  rw [pc] at none
  have single : (s.created + 1) :: s.live = [s.created + 1] := congrArg _ none
  refine goto_inv _ c _ alone ?_ ⟨?_, ?_, inv.facts.joined, inv.facts.once⟩
  · intro thread alive
    exact List.mem_singleton.mp (single ▸ alive)
  · exact (congrArg List.length single).le
  · intro thread alive
    cases List.mem_singleton.mp (single ▸ alive)
    exact ⟨Nat.succ_pos _, Nat.le_refl _⟩

theorem record_inv (s : State Caller) (c : Caller) (thread_id : Nat) (inv : Inv s) (pc : s.pc c = .record thread_id)
    (fresh : thread_id ∉ s.joins) : Inv ({ s with pthreadIdHdcpTx := thread_id }.goto c .startUnlock) := by
  obtain ⟨held, alone⟩ := turn_held _ _ _ s.pc c inv.turn (pc ▸ trivial)
  rw [pc] at held
  have turn := turn_leaves Pc.Window (Held { s with pthreadIdHdcpTx := thread_id })
    (Recorded { s with pthreadIdHdcpTx := thread_id }) s.pc c .startUnlock alone id ⟨held, fresh⟩
  exact ⟨turn, inv.facts.few, inv.facts.valid, inv.facts.joined, inv.facts.once⟩

theorem caller_inv (s next : State Caller) (c : Caller) (inv : Inv s) (guard : Guard s (.caller c))
    (taken : callerStep s c = some next) : Inv next := by
  rw [callerStep] at taken
  split at taken
  case h_1 pc =>
    cases taken
    exact outside_inv s c .test inv (pc ▸ id) id
  case h_2 pc =>
    cases taken
    exact test_inv s c inv (guard.1 pc)
  case h_3 pc =>
    cases taken
    exact move_inv _ c .stopLock (aside_inv s _ _ _ _ _ inv) (pc ▸ trivial) (pc ▸ id)
  case h_4 pc =>
    cases taken
    exact move_inv _ c .join (aside_inv s _ _ _ _ _ inv) (pc ▸ trivial) (pc ▸ id)
  case h_5 pc =>
    cases taken
    exact join_inv s c inv pc
  case h_6 thread pc =>
    split at taken
    · cases taken
    · rename_i ended
      cases taken
      refine move_inv s c .stopUnlock inv (pc ▸ trivial) fun held => ?_
      rw [pc] at held
      exact List.eq_nil_iff_forall_not_mem.mpr fun other alive => ended (held.2 other alive ▸ alive)
  case h_7 pc =>
    cases taken
    exact move_inv _ c .clear (aside_inv s _ _ _ _ _ inv) (pc ▸ trivial) (pc ▸ id)
  case h_8 pc =>
    cases taken
    exact clear_inv s c inv pc
  case h_9 pc =>
    cases taken
    exact move_inv _ c .startFlag (aside_inv s _ _ _ _ _ inv) (pc ▸ trivial) (pc ▸ id)
  case h_10 pc =>
    cases taken
    exact move_inv _ c .create (aside_inv s _ _ _ _ _ inv) (pc ▸ trivial) (pc ▸ id)
  case h_11 pc =>
    cases taken
    exact create_inv s c inv pc
  case h_12 thread_id pc =>
    split at taken
    · cases taken
    · cases taken
      exact move_inv _ c (.record thread_id) (aside_inv s _ _ _ _ _ inv) (pc ▸ trivial) (pc ▸ id)
  case h_13 thread_id pc =>
    cases taken
    exact record_inv s c thread_id inv pc fun member => guard.2 thread_id member pc
  case h_14 pc =>
    cases taken
    exact outside_inv _ c .idle (aside_inv s _ _ _ _ _ inv) (pc ▸ id) id

theorem step_inv (s : State Caller) (input : Input Caller) (next : State Caller) (inv : Inv s)
    (guard : Guard s input) (taken : step s input = some next) : Inv next := by
  cases input with
  | caller c => exact caller_inv s next c inv guard taken
  | createFails c thread_id =>
      obtain ⟨pc, taken⟩ := Option.ite_none_right_eq_some.mp taken
      cases taken
      refine move_inv s c (.wait thread_id) inv (pc ▸ trivial) fun held => ?_
      rw [pc] at held
      exact fun thread alive => absurd (held ▸ alive) List.not_mem_nil
  | waitFails c =>
      rw [step] at taken
      split at taken
      · rename_i thread_id pc
        cases taken
        exact move_inv s c (.record thread_id) inv (pc ▸ trivial) (pc ▸ id)
      · cases taken
  | enters thread =>
      obtain ⟨-, taken⟩ := Option.ite_none_right_eq_some.mp taken
      cases taken
      exact aside_inv s _ _ _ _ _ inv
  | exits thread =>
      obtain ⟨-, taken⟩ := Option.ite_none_right_eq_some.mp taken
      cases taken
      exact exit_inv s thread inv

theorem goto_busy (s : State Caller) (c : Caller) (pc : Pc) (working : pc ≠ .idle) : Busy (s.goto c pc) :=
  fun _ => ⟨c, by rwa [goto_self]⟩

theorem caller_busy (s next : State Caller) (c : Caller) (taken : callerStep s c = some next) : Busy next := by
  rw [callerStep] at taken
  split at taken
  case h_2 =>
    cases taken
    refine goto_busy s c _ ?_
    split
    · nofun
    · nofun
  case h_5 =>
    cases taken
    rw [pthreadJoin]
    split
    · exact goto_busy s c _ nofun
    · split
      · exact goto_busy _ c _ nofun
      · exact goto_busy _ c _ nofun
  case h_6 =>
    split at taken
    · cases taken
    · cases taken
      exact goto_busy s c _ nofun
  case h_12 =>
    split at taken
    · cases taken
    · cases taken
      exact goto_busy _ c _ nofun
  case h_14 =>
    cases taken
    exact nofun
  all_goals
    cases taken
    exact goto_busy _ c _ nofun

theorem step_busy (s : State Caller) (input : Input Caller) (next : State Caller) (busy : Busy s)
    (taken : step s input = some next) : Busy next := by
  cases input with
  | caller c => exact caller_busy s next c taken
  | createFails c thread_id =>
      obtain ⟨-, taken⟩ := Option.ite_none_right_eq_some.mp taken
      cases taken
      exact goto_busy s c _ nofun
  | waitFails c =>
      rw [step] at taken
      split at taken
      · cases taken
        exact goto_busy s c _ nofun
      · cases taken
  | enters thread =>
      obtain ⟨-, taken⟩ := Option.ite_none_right_eq_some.mp taken
      cases taken
      exact busy
  | exits thread =>
      obtain ⟨-, taken⟩ := Option.ite_none_right_eq_some.mp taken
      cases taken
      exact busy

theorem run_busy (inputs : List (Input Caller)) (final : State Caller)
    (reached : run step (start Caller) inputs = some final) : Busy final :=
  run_kept step Busy step_busy (start Caller) final inputs nofun reached

theorem mutex_free (inputs : List (Input Caller)) (final : State Caller)
    (reached : run step (start Caller) inputs = some final) (returned : ∀ c, final.pc c = .idle) :
    final.pthreadTxMutex = false :=
  busy_free final (run_busy inputs final reached) returned

theorem authentication_sound (inputs : List (Input Caller)) (final : State Caller)
    (guarded : Guarded step Guard (start Caller) inputs) (reached : run step (start Caller) inputs = some final) :
    Sound final :=
  inv_sound final (run_invariant step Guard Inv step_inv (start Caller) final inputs start_inv guarded reached)
    (run_busy inputs final reached)

end

instance decidableGuard (s : State Bool) : ∀ input, Decidable (Guard s input)
  | .caller c => inferInstanceAs (Decidable ((s.pc c = .test → ∀ other, (s.pc other).Window → False) ∧ _))
  | .createFails _ _ | .waitFails _ | .enters _ | .exits _ => isTrue trivial

def steps (c : Bool) (count : Nat) : List (Input Bool) := List.replicate count (.caller c)

def firstThread (c : Bool) : List (Input Bool) := steps c 5 ++ [.enters 1] ++ steps c 3

-- The second caller begins before the first one has recorded its thread, and tests after.
def handedOn : List (Input Bool) :=
  steps false 5 ++ [.enters 1] ++ steps true 1 ++ steps false 2 ++ steps true 3 ++ steps false 1 ++ [.exits 1] ++
    steps true 7 ++ [.enters 2] ++ steps true 3

theorem authentication_sound_handed_on : Guarded step Guard (start Bool) handedOn ∧
    ∃ final, run step (start Bool) handedOn = some final ∧ Sound final ∧ final.live = [2] := by
  have guarded : Guarded step Guard (start Bool) handedOn := by decide
  exact ⟨guarded, _, rfl, authentication_sound handedOn _ guarded rfl, rfl⟩

-- Both callers test before either creates its thread.
def twoStarted : List (Input Bool) :=
  steps false 2 ++ steps true 2 ++ steps false 3 ++ [.enters 1] ++ steps false 3 ++ steps true 3 ++ [.enters 2] ++
    steps true 3

-- Both callers test before either joins the thread.
def joinedTwice : List (Input Bool) :=
  firstThread false ++ steps false 3 ++ steps true 4 ++ steps false 2 ++ [.exits 1] ++ steps true 1

-- A failed pthread_create leaves the id of the thread that was joined in thread_id.
def joinedAgain : List (Input Bool) :=
  firstThread false ++ [.exits 1] ++ steps false 10 ++ [.createFails false 1, .waitFails false] ++ steps false 7

theorem second_thread_unrecorded :
    (∃ final, run step (start Bool) twoStarted = some final ∧ (∀ c, final.pc c = .idle) ∧ ¬Sound final) ∧
      (∃ final, run step (start Bool) joinedTwice = some final ∧ ¬Sound final) ∧
      ∃ final, run step (start Bool) joinedAgain = some final ∧ ¬Sound final := by
  refine ⟨⟨_, rfl, by decide, fun sound => ?_⟩, ⟨_, rfl, fun sound => ?_⟩, ⟨_, rfl, fun sound => ?_⟩⟩
  · exact absurd sound.one (by decide)
  · exact absurd sound.once (by decide)
  · exact absurd sound.once (by decide)

end Droidlogic.Hdcp.TxAuth
