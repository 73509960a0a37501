import Droidlogic.Lib.Bytes
import Droidlogic.Lib.Run
import Droidlogic.Screen.Manager
import Mathlib.Data.List.Basic

set_option autoImplicit false

namespace Droidlogic.Screen.SwEncoder

open Droidlogic.Lib

-- encoder is the number of the encoder that gave the slot, session that of the start after
-- which the picture was read. The code keeps neither.
structure Slot where
  encoder : Nat
  bufferIndex : Nat
deriving DecidableEq

structure Frame where
  session : Nat
  picture : Bytes
deriving DecidableEq

structure AccessUnit where
  frame : Frame
  timeUs : Int64
deriving DecidableEq

inductive ThreadPc
  | dequeueInput
  | startedTest
  | readBuffer
  | keepTest (got : Option Frame)
  | pushInput (frame : Frame)
  | feedEncoder
  | queueInput (slot : Slot) (buffer : AccessUnit)
  | dequeueOutput
  | useOutput
  | loopTest
  | out
deriving DecidableEq

inductive StopPc
  | idle
  | waiting
  | drain
  | encoderStop
deriving DecidableEq

-- A call of queueInputBuffer, the encoder it was made to and what it returned.
structure Call where
  encoder : Nat
  slot : Slot
  buffer : AccessUnit
  err : Int
deriving DecidableEq

def Call.frame (call : Call) : Frame := call.buffer.frame

-- mEncoder has the number of the encoder. thread is the one of the last start, and leftThreads
-- are those that were not out when a later start came. given is what readBuffer gave out, dequeued
-- the slots that dequeueInputBuffer gave and calls what was queued, each in its order.
structure State where
  mStarted : Bool
  mEncoder : Option Nat
  mInputBufferQueue : List AccessUnit
  mAvailEncoderInputIndices : List Slot
  thread : ThreadPc
  leftThreads : List ThreadPc
  stop : StopPc
  sessions : Nat
  given : List Frame
  dequeued : List Slot
  calls : List Call
deriving DecidableEq

-- What the codec, the screen manager and the clock answer where the thread asks.
structure Answer where
  slot : Option Nat
  picture : Option Bytes
  nowUs : Int64
  queued : Int

-- created tells whether MediaCodec::CreateByType gave an encoder.
inductive Event
  | thread (answer : Answer)
  | leftThread (i : Nat) (answer : Answer)
  | start (created : Bool)
  | stop

def constructed : State where
  mStarted := false
  mEncoder := none
  mInputBufferQueue := []
  mAvailEncoderInputIndices := []
  thread := .out
  leftThreads := []
  stop := .idle
  sessions := 0
  given := []
  dequeued := []
  calls := []

def videoDequeueInputBuffer (s : State) (encoder : Nat) : Option Nat → State
  | none => s
  | some bufferIndex =>
      { s with
        mAvailEncoderInputIndices := s.mAvailEncoderInputIndices ++ [⟨encoder, bufferIndex⟩]
        dequeued := s.dequeued ++ [⟨encoder, bufferIndex⟩] }

-- threadVideoFunc with videoSwEncoderFeedInputBuffer and feedEncoderInputBuffers. An access
-- through the cleared mEncoder ends the run.
def threadStep (s : State) (answer : Answer) : Option State :=
  match s.thread with
  | .dequeueInput =>
      s.mEncoder.map fun encoder => { videoDequeueInputBuffer s encoder answer.slot with thread := .startedTest }
  | .startedTest => some { s with thread := if s.mStarted then .readBuffer else .dequeueOutput }
  | .readBuffer =>
      match answer.picture with
      | none => some { s with thread := .keepTest none }
      | some picture =>
          let frame : Frame := ⟨s.sessions, picture⟩
          some { s with given := s.given ++ [frame], thread := .keepTest (some frame) }
  | .keepTest none => some { s with thread := .feedEncoder }
  -- A picture that was read when the flag is found clear is lost.
  | .keepTest (some frame) => some { s with thread := if s.mStarted then .pushInput frame else .feedEncoder }
  | .pushInput frame =>
      some { s with mInputBufferQueue := s.mInputBufferQueue ++ [⟨frame, answer.nowUs⟩], thread := .readBuffer }
  | .feedEncoder =>
      match s.mInputBufferQueue, s.mAvailEncoderInputIndices with
      | buffer :: rest, slot :: slots =>
          some { s with
            mInputBufferQueue := rest
            mAvailEncoderInputIndices := slots
            thread := .queueInput slot buffer }
      | _, _ => some { s with thread := .dequeueOutput }
  -- Whatever the call returns, neither the slot nor the picture comes back to its list.
  | .queueInput slot buffer =>
      s.mEncoder.map fun encoder =>
        { s with calls := s.calls ++ [⟨encoder, slot, buffer, answer.queued⟩], thread := .dequeueOutput }
  | .dequeueOutput => some { s with thread := if s.mStarted then .useOutput else .loopTest }
  | .useOutput => s.mEncoder.map fun _ => { s with thread := .loopTest }
  | .loopTest => some { s with thread := if s.mStarted then .dequeueInput else .out }
  | .out => none

-- waitRelative comes back when the thread signals, and also when it does not.
def stopStep (s : State) : State :=
  match s.stop with
  | .idle => if s.mStarted then { s with mStarted := false, stop := .waiting } else s
  | .waiting => { s with stop := .drain }
  | .drain =>
      match s.mInputBufferQueue with
      | [] => { s with stop := .encoderStop }
      | _ :: rest => { s with mInputBufferQueue := rest }
  | .encoderStop => { s with mEncoder := none, stop := .idle }

-- A thread that is left over runs on over the same fields.
def leftThreadStep (s : State) (i : Nat) (answer : Answer) : Option State :=
  match s.leftThreads[i]? with
  | none => none
  | some pc =>
      (threadStep { s with thread := pc } answer).map fun next =>
        { next with thread := s.thread, leftThreads := s.leftThreads.set i next.thread }

-- start checks that mStarted is clear, and mMutex keeps it out of a call of stop. Whether the
-- thread before is out it does not look.
def startStep (s : State) (created : Bool) : Option State :=
  if s.mStarted = false ∧ s.stop = .idle then
    let session := s.sessions + 1
    some { s with
      mStarted := true
      mEncoder := if created then some session else none
      thread := .dequeueInput
      leftThreads := if s.thread = .out then s.leftThreads else s.leftThreads ++ [s.thread]
      sessions := session }
  else none

def step (s : State) : Event → Option State
  | .thread answer => threadStep s answer
  | .leftThread i answer => leftThreadStep s i answer
  | .start created => startStep s created
  | .stop => some (stopStep s)

def ThreadPc.slot : ThreadPc → List Slot
  | .queueInput slot _ => [slot]
  | _ => []

def ThreadPc.feeding : ThreadPc → List Frame
  | .queueInput _ buffer => [buffer.frame]
  | _ => []

def ThreadPc.reading : ThreadPc → List Frame
  | .keepTest (some frame) | .pushInput frame => [frame]
  | _ => []

-- The pictures that are on their way and the slots that wait, first come first.
def line (s : State) : List Frame :=
  s.thread.feeding ++ (s.mInputBufferQueue.map AccessUnit.frame ++ s.thread.reading)

def slots (s : State) : List Slot := s.thread.slot ++ s.mAvailEncoderInputIndices

def calledBy (session : Nat) (calls : List Call) : List Frame :=
  (calls.filter fun call => call.encoder = session).map Call.frame

def givenIn (session : Nat) (given : List Frame) : List Frame := given.filter fun frame => frame.session = session

-- The slots go to the calls in the order in which they came, none left out and none twice,
-- and so do the pictures, of which some may be lost. A call names a slot of its own encoder
-- exactly when the slots that the encoders before it gave are used up.
structure Relayed (s : State) : Prop where
  slots : s.calls.map Call.slot ++ slots s = s.dequeued
  frames : (s.calls.map Call.frame ++ line s).Sublist s.given
  own : ∀ i call, s.calls[i]? = some call →
    (call.slot.encoder = call.encoder ↔ s.dequeued.countP (fun slot => slot.encoder < call.encoder) ≤ i)

-- A start comes when the thread before is out: stop's wait can come back earlier.
def Alone (s : State) : Event → Prop
  | .start _ => s.thread = .out
  | _ => True

instance (s : State) (event : Event) : Decidable (Alone s event) := by
  unfold Alone
  split <;> infer_instance

-- stop goes on only when the thread is out, and every start gets an encoder.
def Careful (s : State) : Event → Prop
  | .thread _ => True
  | .leftThread _ _ => True
  | .start created => created = true
  | .stop => s.stop = .waiting → s.thread = .out

instance (s : State) (event : Event) : Decidable (Careful s event) := by
  unfold Careful
  split <;> infer_instance

-- Each encoder is given the first pictures that were read for it, and while the flag is set
-- the rest of them are on their way. The thread never meets a cleared encoder.
structure Exact (s : State) : Prop where
  first : ∀ session, calledBy session s.calls <+: givenIn session s.given
  whole : s.mStarted = true → calledBy s.sessions s.calls ++ line s = givenIn s.sessions s.given
  alive : s.thread ≠ .out → s.mEncoder = some s.sessions

-- The part of the loop in which a picture may still be read.
def ThreadPc.reads : ThreadPc → Bool
  | .dequeueInput | .startedTest | .readBuffer | .keepTest _ | .pushInput _ => true
  | _ => false

structure Account where
  calls : List Call
  line : List Frame
  slots : List Slot
  given : List Frame
  dequeued : List Slot

def account (s : State) : Account := ⟨s.calls, line s, slots s, s.given, s.dequeued⟩

-- What a step of the thread can do to the pictures, the slots and the calls.
inductive Moves (s next : State) : Prop
  | stays (same : account next = account s) (on : next.thread.reads = true → s.thread.reads = true ∨ s.mStarted = true)
  | dequeues (slot : Slot) (gave : s.mEncoder = some slot.encoder) (on : s.thread.reads = true)
      (same : account next =
        { account s with slots := slots s ++ [slot], dequeued := s.dequeued ++ [slot] })
  | reads (frame : Frame) (now : frame.session = s.sessions) (on : s.thread.reads = true)
      (same : account next = { account s with line := line s ++ [frame], given := s.given ++ [frame] })
  | drops (frame : Frame) (cleared : s.mStarted = false) (on : s.thread.reads = true) (off : next.thread.reads = false)
      (same : account s = { account next with line := line next ++ [frame] })
  | queues (call : Call) (takes : s.mEncoder = some call.encoder) (off : next.thread.reads = false)
      (same : account s = { account next with
        calls := s.calls
        line := call.frame :: line next
        slots := call.slot :: slots next })
      (called : next.calls = s.calls ++ [call])

-- What a step of the thread leaves alone.
structure Leaves (s next : State) : Prop where
  mStarted : next.mStarted = s.mStarted
  mEncoder : next.mEncoder = s.mEncoder
  leftThreads : next.leftThreads = s.leftThreads
  stop : next.stop = s.stop
  sessions : next.sessions = s.sessions
  goes : s.thread ≠ .out
  ends : next.thread = .out → s.mStarted = false

theorem thread_leaves (s next : State) (answer : Answer) (taken : threadStep s answer = some next) : Leaves s next := by
  have goes : s.thread ≠ .out := fun out => by simp [threadStep, out] at taken
  unfold threadStep at taken
  cases here : s.thread with
  | dequeueInput =>
      simp only [here] at taken
      obtain ⟨encoder, _, rfl⟩ := Option.map_eq_some_iff.mp taken
      cases answer.slot <;> exact ⟨rfl, rfl, rfl, rfl, rfl, goes, nofun⟩
  | startedTest =>
      simp only [here] at taken
      cases taken
      exact ⟨rfl, rfl, rfl, rfl, rfl, goes, fun ended => by cases flag : s.mStarted <;> simp [flag] at ended⟩
  | readBuffer =>
      simp only [here] at taken
      split at taken <;> cases taken <;> exact ⟨rfl, rfl, rfl, rfl, rfl, goes, nofun⟩
  | keepTest got =>
      cases got with
      | none =>
          simp only [here] at taken
          cases taken
          exact ⟨rfl, rfl, rfl, rfl, rfl, goes, nofun⟩
      | some frame =>
          simp only [here] at taken
          cases taken
          exact ⟨rfl, rfl, rfl, rfl, rfl, goes, fun ended => by cases flag : s.mStarted <;> simp [flag] at ended⟩
  | pushInput frame =>
      simp only [here] at taken
      cases taken
      exact ⟨rfl, rfl, rfl, rfl, rfl, goes, nofun⟩
  | feedEncoder =>
      simp only [here] at taken
      split at taken <;> cases taken <;> exact ⟨rfl, rfl, rfl, rfl, rfl, goes, nofun⟩
  | queueInput slot buffer =>
      simp only [here] at taken
      obtain ⟨encoder, _, rfl⟩ := Option.map_eq_some_iff.mp taken
      exact ⟨rfl, rfl, rfl, rfl, rfl, goes, nofun⟩
  | dequeueOutput =>
      simp only [here] at taken
      cases taken
      exact ⟨rfl, rfl, rfl, rfl, rfl, goes, fun ended => by cases flag : s.mStarted <;> simp [flag] at ended⟩
  | useOutput =>
      simp only [here] at taken
      obtain ⟨encoder, _, rfl⟩ := Option.map_eq_some_iff.mp taken
      exact ⟨rfl, rfl, rfl, rfl, rfl, goes, nofun⟩
  | loopTest =>
      simp only [here] at taken
      cases taken
      exact ⟨rfl, rfl, rfl, rfl, rfl, goes, fun ended => by cases flag : s.mStarted <;> simp [flag] at ended ⊢⟩
  | out => exact absurd here goes

theorem thread_moves (s next : State) (answer : Answer) (taken : threadStep s answer = some next) : Moves s next := by
  unfold threadStep at taken
  cases here : s.thread with
  | dequeueInput =>
      simp only [here] at taken
      obtain ⟨encoder, gave, rfl⟩ := Option.map_eq_some_iff.mp taken
      cases answer.slot with
      | none =>
          refine .stays ?_ fun _ => .inl (by rw [here, ThreadPc.reads])
          simp [account, line, slots, here, videoDequeueInputBuffer, ThreadPc.slot, ThreadPc.feeding, ThreadPc.reading]
      | some bufferIndex =>
          refine .dequeues ⟨encoder, bufferIndex⟩ gave (by rw [here, ThreadPc.reads]) ?_
          simp [account, line, slots, here, videoDequeueInputBuffer, ThreadPc.slot, ThreadPc.feeding, ThreadPc.reading]
  | startedTest =>
      simp only [here] at taken
      cases taken
      refine .stays ?_ fun _ => .inl (by rw [here, ThreadPc.reads])
      cases s.mStarted <;> simp [account, line, slots, here, ThreadPc.slot, ThreadPc.feeding, ThreadPc.reading]
  | readBuffer =>
      simp only [here] at taken
      split at taken
      · cases taken
        refine .stays ?_ fun _ => .inl (by rw [here, ThreadPc.reads])
        simp [account, line, slots, here, ThreadPc.slot, ThreadPc.feeding, ThreadPc.reading]
      · rename_i picture _
        cases taken
        refine .reads ⟨s.sessions, picture⟩ rfl (by rw [here, ThreadPc.reads]) ?_
        simp [account, line, slots, here, ThreadPc.slot, ThreadPc.feeding, ThreadPc.reading]
  | keepTest got =>
      have on : s.thread.reads = true := by rw [here, ThreadPc.reads]
      cases got with
      | none =>
          simp only [here] at taken
          cases taken
          refine .stays ?_ fun _ => .inl on
          simp [account, line, slots, here, ThreadPc.slot, ThreadPc.feeding, ThreadPc.reading]
      | some frame =>
          simp only [here] at taken
          cases taken
          cases flag : s.mStarted with
          | true =>
              refine .stays ?_ fun _ => .inl on
              simp [account, line, slots, here, ThreadPc.slot, ThreadPc.feeding, ThreadPc.reading]
          | false =>
              refine .drops frame flag on (by simp [ThreadPc.reads]) ?_
              simp [account, line, slots, here, ThreadPc.slot, ThreadPc.feeding, ThreadPc.reading]
  | pushInput frame =>
      simp only [here] at taken
      cases taken
      refine .stays ?_ fun _ => .inl (by rw [here, ThreadPc.reads])
      simp [account, line, slots, here, ThreadPc.slot, ThreadPc.feeding, ThreadPc.reading]
  | feedEncoder =>
      simp only [here] at taken
      split at taken
      · rename_i buffer rest slot more front free
        cases taken
        refine .stays ?_ nofun
        simp [account, line, slots, here, front, free, ThreadPc.slot, ThreadPc.feeding, ThreadPc.reading]
      · cases taken
        refine .stays ?_ nofun
        simp [account, line, slots, here, ThreadPc.slot, ThreadPc.feeding, ThreadPc.reading]
  | queueInput slot buffer =>
      simp only [here] at taken
      obtain ⟨encoder, takes, rfl⟩ := Option.map_eq_some_iff.mp taken
      refine .queues ⟨encoder, slot, buffer, answer.queued⟩ takes rfl ?_ rfl
      simp [account, line, slots, here, Call.frame, ThreadPc.slot, ThreadPc.feeding, ThreadPc.reading]
  | dequeueOutput =>
      simp only [here] at taken
      cases taken
      refine .stays ?_ fun reads => .inr ?_
      · cases s.mStarted <;> simp [account, line, slots, here, ThreadPc.slot, ThreadPc.feeding, ThreadPc.reading]
      · cases flag : s.mStarted <;> simp [flag, ThreadPc.reads] at reads ⊢
  | useOutput =>
      simp only [here] at taken
      obtain ⟨encoder, _, rfl⟩ := Option.map_eq_some_iff.mp taken
      refine .stays ?_ nofun
      simp [account, line, slots, here, ThreadPc.slot, ThreadPc.feeding, ThreadPc.reading]
  | loopTest =>
      simp only [here] at taken
      cases taken
      refine .stays ?_ fun reads => .inr ?_
      · cases s.mStarted <;> simp [account, line, slots, here, ThreadPc.slot, ThreadPc.feeding, ThreadPc.reading]
      · cases flag : s.mStarted <;> simp [flag, ThreadPc.reads] at reads ⊢
  | out => simp [here] at taken

-- What holds whatever stop and the thread do, as long as no start comes beside a thread.
structure Inv (s : State) : Prop where
  alone : s.leftThreads = []
  slots : s.calls.map Call.slot ++ slots s = s.dequeued
  frames : (s.calls.map Call.frame ++ line s).Sublist s.given
  encoder : ∀ encoder, s.mEncoder = some encoder → encoder = s.sessions
  bounded : ∀ slot ∈ s.dequeued, slot.encoder ≤ s.sessions
  ordered : s.dequeued.Pairwise fun a b => a.encoder ≤ b.encoder
  later : ∀ call ∈ s.calls, call.slot.encoder ≤ call.encoder

theorem constructed_inv : Inv constructed where
  alone := rfl
  slots := rfl
  frames := List.Sublist.refl []
  encoder := nofun
  bounded := nofun
  ordered := List.Pairwise.nil
  later := nofun

theorem thread_inv (s next : State) (leaves : Leaves s next) (moves : Moves s next) (inv : Inv s) : Inv next := by
  have encoder : ∀ encoder, next.mEncoder = some encoder → encoder = next.sessions := by
    rw [leaves.mEncoder, leaves.sessions]
    exact inv.encoder
  have alone := leaves.leftThreads.trans inv.alone
  cases moves with
  | stays same on =>
      simp only [account, Account.mk.injEq] at same
      obtain ⟨calls, line, slots, given, dequeued⟩ := same
      refine ⟨alone, ?_, ?_, encoder, ?_, ?_, ?_⟩
      · rw [calls, slots, dequeued]
        exact inv.slots
      · rw [calls, line, given]
        exact inv.frames
      · rw [dequeued, leaves.sessions]
        exact inv.bounded
      · rw [dequeued]
        exact inv.ordered
      · rw [calls]
        exact inv.later
  | dequeues slot gave on same =>
      simp only [account, Account.mk.injEq] at same
      obtain ⟨calls, line, slots, given, dequeued⟩ := same
      have own : slot.encoder = s.sessions := inv.encoder _ gave
      refine ⟨alone, ?_, ?_, encoder, ?_, ?_, ?_⟩
      · rw [calls, slots, dequeued, ← inv.slots, List.append_assoc]
      · rw [calls, line, given]
        exact inv.frames
      · rw [dequeued, leaves.sessions]
        refine List.forall_mem_append.mpr ⟨inv.bounded, fun other member => ?_⟩
        rw [List.mem_singleton.mp member, own]
      · rw [dequeued]
        refine List.pairwise_append.mpr ⟨inv.ordered, List.pairwise_singleton _ _, fun earlier member other last => ?_⟩
        rw [List.mem_singleton.mp last, own]
        exact inv.bounded earlier member
      · rw [calls]
        exact inv.later
  | reads frame now on same =>
      simp only [account, Account.mk.injEq] at same
      obtain ⟨calls, line, slots, given, dequeued⟩ := same
      refine ⟨alone, ?_, ?_, encoder, ?_, ?_, ?_⟩
      · rw [calls, slots, dequeued]
        exact inv.slots
      · rw [calls, line, given, ← List.append_assoc]
        exact inv.frames.append (List.Sublist.refl _)
      · rw [dequeued, leaves.sessions]
        exact inv.bounded
      · rw [dequeued]
        exact inv.ordered
      · rw [calls]
        exact inv.later
  | drops frame cleared on off same =>
      simp only [account, Account.mk.injEq] at same
      obtain ⟨calls, line, slots, given, dequeued⟩ := same
      refine ⟨alone, ?_, ?_, encoder, ?_, ?_, ?_⟩
      · rw [← calls, ← slots, ← dequeued]
        exact inv.slots
      · have frames := inv.frames
        rw [line, ← List.append_assoc] at frames
        rw [← calls, ← given]
        exact (List.sublist_append_left _ _).trans frames
      · rw [← dequeued, leaves.sessions]
        exact inv.bounded
      · rw [← dequeued]
        exact inv.ordered
      · rw [← calls]
        exact inv.later
  | queues call takes off same called =>
      simp only [account, Account.mk.injEq, true_and] at same
      obtain ⟨line, slots, given, dequeued⟩ := same
      have all := inv.slots
      rw [slots] at all
      have waited : call.slot ∈ s.dequeued :=
        all ▸ List.mem_append_right _ List.mem_cons_self
      refine ⟨alone, ?_, ?_, encoder, ?_, ?_, ?_⟩
      · rw [called, ← dequeued, ← all, List.map_append, List.map_singleton, List.append_assoc, List.singleton_append]
      · have frames := inv.frames
        rw [line] at frames
        rw [called, ← given, List.map_append, List.map_singleton, List.append_assoc, List.singleton_append]
        exact frames
      · rw [← dequeued, leaves.sessions]
        exact inv.bounded
      · rw [← dequeued]
        exact inv.ordered
      · rw [called]
        refine List.forall_mem_append.mpr ⟨inv.later, fun other member => ?_⟩
        rw [List.mem_singleton.mp member, inv.encoder _ takes]
        exact inv.bounded call.slot waited

-- What a call of stop does to the pictures: it takes some of those that wait.
theorem stop_inv (s : State) (inv : Inv s) : Inv (stopStep s) := by
  unfold stopStep
  cases stop : s.stop with
  | idle =>
      cases flag : s.mStarted with
      | true => exact ⟨inv.alone, inv.slots, inv.frames, inv.encoder, inv.bounded, inv.ordered, inv.later⟩
      | false => exact inv
  | waiting => exact ⟨inv.alone, inv.slots, inv.frames, inv.encoder, inv.bounded, inv.ordered, inv.later⟩
  | drain =>
      cases front : s.mInputBufferQueue with
      | nil =>
          have frames := inv.frames
          rw [line, front] at frames
          exact ⟨inv.alone, inv.slots, frames, inv.encoder, inv.bounded, inv.ordered, inv.later⟩
      | cons buffer rest =>
          refine ⟨inv.alone, inv.slots, List.Sublist.trans ?_ inv.frames, inv.encoder, inv.bounded, inv.ordered, inv.later⟩
          rw [line, line, front, List.map_cons]
          refine List.Sublist.append_left (List.Sublist.append_left ?_ _) _
          exact List.sublist_cons_self _ _
  | encoderStop => exact ⟨inv.alone, inv.slots, inv.frames, nofun, inv.bounded, inv.ordered, inv.later⟩

theorem start_inv (s next : State) (created : Bool) (inv : Inv s) (out : s.thread = .out)
    (taken : startStep s created = some next) : Inv next := by
  unfold startStep at taken
  split at taken
  · cases taken
    have slots := inv.slots
    have frames := inv.frames
    simp only [SwEncoder.slots, line, out] at slots frames
    refine ⟨inv.alone, slots, frames, fun encoder made => ?_, fun slot member => ?_, inv.ordered, inv.later⟩
    · cases created <;> simp at made
      exact made.symm
    · exact Nat.le_succ_of_le (inv.bounded slot member)
  · exact nomatch taken

theorem no_left_thread (s next : State) (i : Nat) (answer : Answer) (inv : Inv s) : leftThreadStep s i answer ≠ some next := by
  intro taken
  rw [leftThreadStep, inv.alone, List.getElem?_nil] at taken
  cases taken

theorem step_inv (s next : State) (event : Event) (inv : Inv s) (alone : Alone s event) (taken : step s event = some next) :
    Inv next := by
  cases event with
  | thread answer => exact thread_inv s next (thread_leaves s next answer taken) (thread_moves s next answer taken) inv
  | leftThread i answer => exact absurd taken (no_left_thread s next i answer inv)
  | start created => exact start_inv s next created inv alone taken
  | stop => exact Option.some.inj taken ▸ stop_inv s inv

-- In a list in the order of its keys those below a bound stand first.
theorem below_first {Item : Type} (key : Item → Nat) (items : List Item) (bound i : Nat) (item : Item)
    (ordered : items.Pairwise fun a b => key a ≤ key b) (here : items[i]? = some item) :
    i < items.countP (fun other => key other < bound) ↔ key item < bound := by
  induction items generalizing i with
  | nil => simp at here
  | cons first rest ih =>
      obtain ⟨least, tail⟩ := List.pairwise_cons.mp ordered
      by_cases low : key first < bound
      · rw [List.countP_cons_of_pos (by simpa using low)]
        cases i with
        | zero =>
            cases Option.some.inj here
            simp [low]
        | succ i => rw [Nat.add_lt_add_iff_right, ih i tail here]
      · have none : rest.countP (fun other => key other < bound) = 0 := by
          refine List.countP_eq_zero.mpr fun other member => ?_
          simpa using (Nat.le_of_not_lt low).trans (least other member)
        have high : ¬ key item < bound := by
          rcases List.mem_cons.mp (List.mem_of_getElem? here) with rfl | behind
          · exact low
          · exact fun less => low (Nat.lt_of_le_of_lt (least item behind) less)
        rw [List.countP_cons_of_neg (by simpa using low), none]
        simp [high]

theorem inv_relayed (s : State) (inv : Inv s) : Relayed s := by
  refine ⟨inv.slots, inv.frames, fun i call here => ?_⟩
  have at_slot : s.dequeued[i]? = some call.slot := by
    have inside : i < s.calls.length := (List.getElem?_eq_some_iff.mp here).1
    rw [← inv.slots, List.getElem?_append_left (by rw [List.length_map]; exact inside), List.getElem?_map, here]
    rfl
  have below := below_first Slot.encoder s.dequeued call.encoder i call.slot inv.ordered at_slot
  have later := inv.later call (List.mem_of_getElem? here)
  omega

theorem called_by_append (session : Nat) (calls : List Call) (call : Call) :
    calledBy session (calls ++ [call]) = calledBy session calls ++ if call.encoder = session then [call.frame] else [] := by
  rw [calledBy, calledBy, List.filter_append, List.map_append]
  by_cases own : call.encoder = session <;> simp [own]

theorem given_in_append (session : Nat) (given : List Frame) (frame : Frame) :
    givenIn session (given ++ [frame]) = givenIn session given ++ if frame.session = session then [frame] else [] := by
  rw [givenIn, givenIn, List.filter_append]
  by_cases own : frame.session = session <;> simp [own]

-- The pictures of this session: queued, on their way, and lost once stop has cleared the flag.
def Accounted (s : State) : Prop :=
  ∃ lost, calledBy s.sessions s.calls ++ (line s ++ lost) = givenIn s.sessions s.given ∧
    (s.thread.reads = true ∨ s.mStarted = true → lost = [])

theorem thread_accounted (s next : State) (leaves : Leaves s next) (moves : Moves s next) (inv : Inv s)
    (accounted : Accounted s) : Accounted next := by
  obtain ⟨lost, whole, none⟩ := accounted
  rw [Accounted, leaves.sessions, leaves.mStarted]
  cases moves with
  | stays same on =>
      simp only [account, Account.mk.injEq] at same
      obtain ⟨calls, line, _, given, _⟩ := same
      rw [calls, line, given]
      exact ⟨lost, whole, fun still => none (still.elim on .inr)⟩
  | dequeues slot gave on same =>
      simp only [account, Account.mk.injEq] at same
      obtain ⟨calls, line, _, given, _⟩ := same
      rw [calls, line, given]
      exact ⟨lost, whole, fun _ => none (.inl on)⟩
  | reads frame now on same =>
      simp only [account, Account.mk.injEq] at same
      obtain ⟨calls, line, _, given, _⟩ := same
      cases none (.inl on)
      rw [List.append_nil] at whole
      refine ⟨[], ?_, fun _ => rfl⟩
      rw [calls, line, given, given_in_append, if_pos now, ← whole, List.append_nil, List.append_assoc]
  | drops frame cleared on off same =>
      simp only [account, Account.mk.injEq] at same
      obtain ⟨calls, line, _, given, _⟩ := same
      cases none (.inl on)
      rw [line, calls, given, List.append_nil] at whole
      refine ⟨[frame], whole, fun still => ?_⟩
      rw [off, cleared] at still
      exact still.elim nofun nofun
  | queues call takes off same called =>
      simp only [account, Account.mk.injEq, true_and] at same
      obtain ⟨line, _, given, _⟩ := same
      rw [line, given] at whole
      refine ⟨lost, ?_, fun still => none (still.elim (fun reads => absurd reads (by rw [off]; nofun)) .inr)⟩
      rw [called, called_by_append, if_pos (inv.encoder _ takes), List.append_assoc]
      exact whole

-- What a step of the thread adds belongs to this session.
structure Adds (s next : State) : Prop where
  calls : ∃ more, next.calls = s.calls ++ more ∧ ∀ call ∈ more, call.encoder = s.sessions
  given : ∃ more, next.given = s.given ++ more ∧ ∀ frame ∈ more, frame.session = s.sessions

theorem thread_adds (s next : State) (moves : Moves s next) (inv : Inv s) : Adds s next := by
  cases moves with
  | stays same on =>
      simp only [account, Account.mk.injEq] at same
      rw [← List.append_nil s.calls, ← List.append_nil s.given] at same
      exact ⟨⟨[], same.1, nofun⟩, ⟨[], same.2.2.2.1, nofun⟩⟩
  | dequeues slot gave on same =>
      simp only [account, Account.mk.injEq] at same
      rw [← List.append_nil s.calls, ← List.append_nil s.given] at same
      exact ⟨⟨[], same.1, nofun⟩, ⟨[], same.2.2.2.1, nofun⟩⟩
  | reads frame now on same =>
      simp only [account, Account.mk.injEq] at same
      rw [← List.append_nil s.calls] at same
      exact ⟨⟨[], same.1, nofun⟩, ⟨[frame], same.2.2.2.1, by simpa using now⟩⟩
  | drops frame cleared on off same =>
      simp only [account, Account.mk.injEq] at same
      rw [← List.append_nil next.calls, ← List.append_nil next.given] at same
      exact ⟨⟨[], by simpa using same.1.symm, nofun⟩, ⟨[], by simpa using same.2.2.2.1.symm, nofun⟩⟩
  | queues call takes off same called =>
      simp only [account, Account.mk.injEq, true_and] at same
      exact ⟨⟨[call], called, by simpa using inv.encoder _ takes⟩, ⟨[], by simpa using same.2.2.1.symm, nofun⟩⟩

theorem adds_others (s next : State) (adds : Adds s next) (session : Nat) (other : session ≠ s.sessions) :
    calledBy session next.calls = calledBy session s.calls ∧ givenIn session next.given = givenIn session s.given := by
  obtain ⟨⟨calls, called, ofCalls⟩, ⟨frames, given, ofFrames⟩⟩ := adds
  have noCalls : calls.filter (fun call => call.encoder = session) = [] :=
    List.filter_eq_nil_iff.mpr fun call member => by simpa [ofCalls call member] using other.symm
  have noFrames : frames.filter (fun frame => frame.session = session) = [] :=
    List.filter_eq_nil_iff.mpr fun frame member => by simpa [ofFrames frame member] using other.symm
  rw [called, given, calledBy, calledBy, givenIn, givenIn, List.filter_append, List.filter_append, noCalls, noFrames,
    List.append_nil, List.append_nil]
  exact ⟨rfl, rfl⟩

-- What holds as long as stop waits for the thread.
structure Kept (s : State) : Prop where
  first : ∀ session, calledBy session s.calls <+: givenIn session s.given
  accounted : s.thread ≠ .out → Accounted s
  alive : s.thread ≠ .out → s.mEncoder = some s.sessions
  going : s.mStarted = true → s.thread ≠ .out ∧ s.stop = .idle
  quiet : s.stop = .idle ∧ s.mStarted = false ∨ s.stop = .drain ∨ s.stop = .encoderStop → s.thread = .out
  empty : s.stop = .idle ∧ s.mStarted = false ∨ s.stop = .encoderStop → s.mInputBufferQueue = []
  given : ∀ frame ∈ s.given, frame.session ≤ s.sessions
  called : ∀ call ∈ s.calls, call.encoder ≤ s.sessions

theorem constructed_kept : Kept constructed where
  first _ := List.prefix_refl []
  accounted goes := absurd rfl goes
  alive goes := absurd rfl goes
  going := nofun
  quiet _ := rfl
  empty _ := rfl
  given := nofun
  called := nofun

theorem accounted_first (s : State) (accounted : Accounted s) : calledBy s.sessions s.calls <+: givenIn s.sessions s.given := by
  obtain ⟨lost, whole, _⟩ := accounted
  exact whole ▸ List.prefix_append _ _

theorem adds_bounded (s next : State) (adds : Adds s next) (kept : Kept s) :
    (∀ frame ∈ next.given, frame.session ≤ s.sessions) ∧ ∀ call ∈ next.calls, call.encoder ≤ s.sessions := by
  obtain ⟨⟨calls, called, ofCalls⟩, ⟨frames, given, ofFrames⟩⟩ := adds
  rw [called, given]
  exact ⟨List.forall_mem_append.mpr ⟨kept.given, fun frame member => Nat.le_of_eq (ofFrames frame member)⟩,
    List.forall_mem_append.mpr ⟨kept.called, fun call member => Nat.le_of_eq (ofCalls call member)⟩⟩

theorem thread_kept (s next : State) (leaves : Leaves s next) (moves : Moves s next) (inv : Inv s) (kept : Kept s) :
    Kept next := by
  have accounted := thread_accounted s next leaves moves inv (kept.accounted leaves.goes)
  have adds := thread_adds s next moves inv
  have bounded := adds_bounded s next adds kept
  refine ⟨fun session => ?_, fun _ => accounted, fun _ => ?_, fun flag => ?_, fun late => ?_, fun late => ?_, ?_, ?_⟩
  · by_cases own : session = s.sessions
    · rw [own, ← leaves.sessions]
      exact accounted_first next accounted
    · obtain ⟨calls, given⟩ := adds_others s next adds session own
      rw [calls, given]
      exact kept.first session
  · rw [leaves.mEncoder, leaves.sessions]
    exact kept.alive leaves.goes
  · rw [leaves.mStarted] at flag
    exact ⟨fun out => absurd flag (by rw [leaves.ends out]; nofun), leaves.stop.trans (kept.going flag).2⟩
  · rw [leaves.stop, leaves.mStarted] at late
    exact absurd (kept.quiet late) leaves.goes
  · rw [leaves.stop, leaves.mStarted] at late
    exact absurd (kept.quiet (late.imp_right .inr)) leaves.goes
  · rw [leaves.sessions]
    exact bounded.1
  · rw [leaves.sessions]
    exact bounded.2

theorem stop_kept (s : State) (careful : s.stop = .waiting → s.thread = .out) (kept : Kept s) : Kept (stopStep s) := by
  unfold stopStep
  cases stop : s.stop with
  | idle =>
      cases flag : s.mStarted with
      | true =>
          refine ⟨kept.first, fun goes => ?_, kept.alive, nofun, nofun, nofun, kept.given, kept.called⟩
          obtain ⟨lost, whole, none⟩ := kept.accounted goes
          exact ⟨lost, whole, fun _ => none (.inr flag)⟩
      | false => exact kept
  | waiting =>
      refine ⟨kept.first, kept.accounted, kept.alive, fun flag => ?_, fun _ => careful stop, nofun, kept.given, kept.called⟩
      exact absurd (kept.going flag).2 (by rw [stop]; nofun)
  | drain =>
      have out := kept.quiet (.inr (.inl stop))
      have clear : s.mStarted ≠ true := fun flag => (kept.going flag).1 out
      cases front : s.mInputBufferQueue with
      | nil =>
          exact ⟨kept.first, fun goes => absurd out goes, kept.alive, fun flag => absurd flag clear, fun _ => out, fun _ => rfl,
            kept.given, kept.called⟩
      | cons buffer rest =>
          refine ⟨kept.first, fun goes => absurd out goes, kept.alive, fun flag => absurd flag clear, fun _ => out, ?_,
            kept.given, kept.called⟩
          exact fun late => late.elim (fun idle => nomatch idle.1) nofun
  | encoderStop =>
      have out := kept.quiet (.inr (.inr stop))
      have clear : s.mStarted ≠ true := fun flag => (kept.going flag).1 out
      exact ⟨kept.first, fun goes => absurd out goes, fun goes => absurd out goes, fun flag => absurd flag clear,
        fun _ => out, fun _ => kept.empty (.inr stop), kept.given, kept.called⟩

theorem start_kept (s next : State) (kept : Kept s) (taken : startStep s true = some next) : Kept next := by
  unfold startStep at taken
  split at taken
  · rename_i ready
    obtain ⟨clear, idle⟩ := ready
    cases taken
    have empty := kept.empty (.inl ⟨idle, clear⟩)
    have noCalls : calledBy (s.sessions + 1) s.calls = [] := by
      rw [calledBy, List.map_eq_nil_iff, List.filter_eq_nil_iff]
      exact fun call member => by simpa using Nat.ne_of_lt (Nat.lt_succ_of_le (kept.called call member))
    have noFrames : givenIn (s.sessions + 1) s.given = [] := by
      rw [givenIn, List.filter_eq_nil_iff]
      exact fun frame member => by simpa using Nat.ne_of_lt (Nat.lt_succ_of_le (kept.given frame member))
    refine ⟨kept.first, fun _ => ⟨[], ?_, fun _ => rfl⟩, fun _ => rfl, fun _ => ⟨nofun, idle⟩, fun late => ?_, fun late => ?_,
      fun frame member => Nat.le_succ_of_le (kept.given frame member),
      fun call member => Nat.le_succ_of_le (kept.called call member)⟩
    · simp only [noCalls, noFrames, line, empty, ThreadPc.feeding, ThreadPc.reading, List.map_nil, List.append_nil]
    · simp [idle] at late
    · simp [idle] at late
  · exact nomatch taken

-- A stop that waits for the thread lets no start come beside it.
theorem careful_alone (s next : State) (event : Event) (kept : Kept s) (taken : step s event = some next) : Alone s event := by
  cases event with
  | start created =>
      have taken : startStep s created = some next := taken
      unfold startStep at taken
      split at taken
      · rename_i ready
        exact kept.quiet (.inl ⟨ready.2, ready.1⟩)
      · exact nomatch taken
  | _ => trivial

theorem step_kept (s next : State) (event : Event) (inv : Inv s) (kept : Kept s) (careful : Careful s event)
    (taken : step s event = some next) : Kept next := by
  cases event with
  | thread answer =>
      exact thread_kept s next (thread_leaves s next answer taken) (thread_moves s next answer taken) inv kept
  | leftThread i answer => exact absurd taken (no_left_thread s next i answer inv)
  | start created =>
      cases careful
      exact start_kept s next kept taken
  | stop => exact Option.some.inj taken ▸ stop_kept s careful kept

theorem kept_exact (s : State) (kept : Kept s) : Exact s := by
  refine ⟨kept.first, fun flag => ?_, kept.alive⟩
  obtain ⟨lost, whole, none⟩ := kept.accounted (kept.going flag).1
  cases none (.inr flag)
  rw [List.append_nil] at whole
  exact whole

theorem frames_relayed (events : List Event) (s : State) (reached : run step constructed events = some s) :
    (Guarded step Alone constructed events → Relayed s) ∧
      (Guarded step Careful constructed events → Relayed s ∧ Exact s) := by
  refine ⟨fun alone => ?_, fun careful => ?_⟩
  · exact inv_relayed s (run_invariant step Alone Inv
      (fun s event next inv alone taken => step_inv s next event inv alone taken) constructed s events constructed_inv alone reached)
  · have held := run_invariant step Careful (fun s => Inv s ∧ Kept s)
      (fun s event next held careful taken =>
        ⟨step_inv s next event held.1 (careful_alone s next event held.2 taken) taken,
          step_kept s next event held.1 held.2 careful taken⟩)
      constructed s events ⟨constructed_inv, constructed_kept⟩ careful reached
    exact ⟨inv_relayed s held.1, kept_exact s held.2⟩

def answered (slot : Option Nat) (picture : Option Bytes) : Event := .thread ⟨slot, picture, 0, ok⟩

def quietly : Event := answered none none

-- The first encoder gives a slot but no picture comes before stop.
def restarted : List Event :=
  [.start true, answered (some 0) none, quietly, quietly, quietly, quietly, quietly, quietly, .stop, quietly, .stop, .stop, .stop,
    .start true, quietly, quietly, answered none (some [9]), quietly, quietly, quietly, quietly, quietly, quietly]

theorem restarted_names_old_slot :
    ∃ s, run step constructed restarted = some s ∧ Relayed s ∧ Exact s ∧
      s.calls.map (fun call => (call.encoder, call.slot.encoder, call.frame)) = [(2, 1, ⟨2, [9]⟩)] := by
  obtain ⟨s, reached, calls⟩ : ∃ s, run step constructed restarted = some s ∧
      s.calls.map (fun call => (call.encoder, call.slot.encoder, call.frame)) = [(2, 1, ⟨2, [9]⟩)] := ⟨_, rfl, rfl⟩
  obtain ⟨relayed, exact_⟩ := (frames_relayed restarted s reached).2 (by decide)
  exact ⟨s, reached, relayed, exact_, calls⟩

-- The thread takes a slot and a picture up to its call of queueInputBuffer.
def feeds (picture : Bytes) : List Event :=
  [answered (some 0) none, quietly, answered none (some picture), quietly, quietly, quietly, quietly, quietly]

-- Beside a thread that is left over the slots do not keep their order: it holds the first one
-- while the new thread gives the second to the new encoder.
example :
    (run step constructed ([.start true] ++ feeds [9] ++ [.stop, .stop, .stop, .stop, .start true] ++ feeds [7] ++
        [quietly, .leftThread 0 ⟨none, none, 0, ok⟩])).map
      (fun s => (s.dequeued.map Slot.encoder, s.calls.map fun call => call.slot.encoder)) = some ([1, 2], [2, 1]) := by
  decide

end Droidlogic.Screen.SwEncoder
