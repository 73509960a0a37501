import Droidlogic.Lib.Custody
import Droidlogic.Lib.Run
import Droidlogic.Screen.Manager

set_option autoImplicit false

namespace Droidlogic.Screen.ESConvertor

open Droidlogic.Lib

inductive ThreadPc (Token : Type)
  | dequeueInput
  | startedTest
  | readBuffer
  | keepTest (got : Option Token)
  | pushFrame (token : Token)
  | takeFrame
  | pushInput (token : Token)
  | feedEncoder
  | queueInput (token : Token)
  | dequeueOutput
  | loopTest
  | out
deriving DecidableEq

-- The two lists that stop empties.
inductive Queue
  | frames
  | input
deriving DecidableEq

inductive StopPc (Token : Type)
  | idle
  | waiting
  | drain (queue : Queue)
  | copy (queue : Queue) (token : Token)
  | free (queue : Queue) (token : Token)
  | encoderStop
  | returned
deriving DecidableEq

-- encoder holds the media buffers that it was queued; copied are those whose token
-- signalBufferReturned has put into mBufferRelease and not yet passed on. handed is
-- what readBuffer gave out and freed what freeBuffer was passed, last first.
structure State (Token : Type) where
  mStarted : Bool
  mFramesReceived : List Token
  mInputBufferQueue : List Token
  mAvailEncoderInputIndices : List Nat
  mBufferRelease : Option Token
  encoder : List Token
  copied : List Token
  thread : ThreadPc Token
  stop : StopPc Token
  handed : List Token
  freed : List Token
deriving DecidableEq

-- What the codec and the screen manager answer where the thread asks.
structure Answer (Token : Type) where
  slot : Option Nat
  buffer : Option Token
  queued : Int

inductive Event (Token : Type)
  | thread (answer : Answer Token)
  | stop
  | copyBack (token : Token)
  | freeBack (token : Token)

def started {Token : Type} : State Token where
  mStarted := true
  mFramesReceived := []
  mInputBufferQueue := []
  mAvailEncoderInputIndices := []
  mBufferRelease := none
  encoder := []
  copied := []
  thread := .dequeueInput
  stop := .idle
  handed := []
  freed := []

section
variable {Token : Type} [DecidableEq Token]

-- threadVideoFunc with videoFeedInputBuffer and feedEncoderInputBuffers.
def threadStep (s : State Token) (answer : Answer Token) : Option (State Token) :=
  match s.thread with
  | .dequeueInput =>
      some { s with
        mAvailEncoderInputIndices := s.mAvailEncoderInputIndices ++ answer.slot.toList
        thread := .startedTest }
  | .startedTest => some { s with thread := if s.mStarted then .readBuffer else .dequeueOutput }
  | .readBuffer => some { s with handed := answer.buffer.toList ++ s.handed, thread := .keepTest answer.buffer }
  | .keepTest none => some { s with thread := .takeFrame }
  -- A buffer that was read when the flag is found clear goes nowhere.
  | .keepTest (some token) => some { s with thread := if s.mStarted then .pushFrame token else .takeFrame }
  | .pushFrame token => some { s with mFramesReceived := s.mFramesReceived ++ [token], thread := .readBuffer }
  | .takeFrame =>
      match s.mFramesReceived with
      | [] => some { s with thread := .dequeueOutput }
      | token :: rest => some { s with mFramesReceived := rest, thread := .pushInput token }
  | .pushInput token => some { s with mInputBufferQueue := s.mInputBufferQueue ++ [token], thread := .feedEncoder }
  | .feedEncoder =>
      match s.mInputBufferQueue, s.mAvailEncoderInputIndices with
      | token :: rest, _ :: slots =>
          some { s with mInputBufferQueue := rest, mAvailEncoderInputIndices := slots, thread := .queueInput token }
      | _, _ => some { s with thread := .dequeueOutput }
  -- A buffer that is not queued goes nowhere either.
  | .queueInput token =>
      if answer.queued = ok then some { s with encoder := token :: s.encoder, thread := .dequeueOutput }
      else some { s with thread := .dequeueOutput }
  | .dequeueOutput => some { s with thread := .loopTest }
  | .loopTest => some { s with thread := if s.mStarted then .dequeueInput else .out }
  | .out => none

def drainStep (s : State Token) : Queue → Option (State Token)
  | .frames =>
      match s.mFramesReceived with
      | [] => some { s with stop := .drain .input }
      | token :: rest => some { s with mFramesReceived := rest, stop := .copy .frames token }
  | .input =>
      match s.mInputBufferQueue with
      | [] => some { s with stop := .encoderStop }
      | token :: rest => some { s with mInputBufferQueue := rest, stop := .copy .input token }

-- freeBuffer reads what mBufferRelease holds when it is called.
def freeBuffer (s : State Token) : Option (State Token) :=
  s.mBufferRelease.map fun token => { s with freed := token :: s.freed }

def stopStep (s : State Token) : Option (State Token) :=
  match s.stop with
  | .idle | .returned => some (if s.mStarted then { s with mStarted := false, stop := .waiting } else s)
  | .waiting => some { s with stop := .drain .frames }
  | .drain queue => drainStep s queue
  | .copy queue token => some { s with mBufferRelease := some token, stop := .free queue token }
  | .free queue _ => (freeBuffer s).map fun s => { s with stop := .drain queue }
  | .encoderStop => some { s with stop := .returned }

-- signalBufferReturned runs in the codec's thread.
def step (s : State Token) : Event Token → Option (State Token)
  | .thread answer => threadStep s answer
  | .stop => stopStep s
  | .copyBack token =>
      if token ∈ s.encoder then
        some { s with encoder := s.encoder.erase token, copied := token :: s.copied, mBufferRelease := some token }
      else none
  | .freeBack token =>
      if token ∈ s.copied then (freeBuffer s).map fun s => { s with copied := s.copied.erase token } else none

def ThreadPc.holds : ThreadPc Token → List Token
  | .keepTest (some token) | .pushFrame token | .pushInput token | .queueInput token => [token]
  | _ => []

def StopPc.holds : StopPc Token → List Token
  | .copy _ token | .free _ token => [token]
  | _ => []

def StopPc.copied : StopPc Token → List Token
  | .free _ token => [token]
  | _ => []

-- Whose token mBufferRelease is to hold.
def writers (s : State Token) : List Token := s.copied ++ s.stop.copied

def places (s : State Token) : List Token :=
  s.thread.holds ++ (s.mFramesReceived ++ (s.mInputBufferQueue ++ (s.encoder ++ (s.copied ++ s.stop.holds))))

-- No token is passed to freeBuffer more often than it was handed out, and when stop has
-- returned and the encoder has given its buffers back each has been passed to it.
def Returned (s : State Token) : Prop :=
  (∀ token, s.freed.count token ≤ s.handed.count token) ∧
    (s.stop = .returned → s.encoder = [] → s.copied = [] → s.freed.Perm s.handed)

-- The flag is still set after a buffer was read, the codec takes what it is queued, stop
-- goes on only when the thread is out, and one writer at a time uses mBufferRelease.
def Careful (s : State Token) : Event Token → Prop
  | .thread answer =>
      match s.thread with
      | .keepTest (some _) => s.mStarted = true
      | .queueInput _ => answer.queued = ok
      | _ => True
  | .stop =>
      match s.stop with
      | .waiting => s.thread = .out
      | .copy _ _ => s.copied = []
      | _ => True
  | .copyBack _ => writers s = []
  | .freeBack _ => True

instance (s : State Token) (event : Event Token) : Decidable (Careful s event) := by
  unfold Careful
  split
  · split <;> infer_instance
  · split <;> infer_instance
  · infer_instance
  · infer_instance

def ledger (s : State Token) : Ledger Token := ⟨s.handed, s.freed, [], places s, []⟩

-- How far a call of stop is.
def StopPc.stage : StopPc Token → Nat
  | .idle => 0
  | .waiting => 1
  | .drain .frames | .copy .frames _ | .free .frames _ => 2
  | .drain .input | .copy .input _ | .free .input _ => 3
  | .encoderStop => 4
  | .returned => 5

structure Invariant (s : State Token) : Prop where
  balanced : (ledger s).Balanced
  written : writers s = [] ∨ ∃ token, writers s = [token] ∧ s.mBufferRelease = some token
  quiet : 2 ≤ s.stop.stage → s.thread = .out
  noFrames : 3 ≤ s.stop.stage → s.mFramesReceived = []
  noInput : 4 ≤ s.stop.stage → s.mInputBufferQueue = []

theorem started_invariant : Invariant (started : State Token) where
  balanced _ := rfl
  written := .inl rfl
  quiet late := by simp [started, StopPc.stage] at late
  noFrames late := by simp [started, StopPc.stage] at late
  noInput late := by simp [started, StopPc.stage] at late

theorem invariant_returned (s : State Token) (inv : Invariant s) : Returned s := by
  refine ⟨fun token => (ledger s).balanced_returned_le token inv.balanced, fun done noEncoder noCopied => ?_⟩
  have out := inv.quiet (by simp [done, StopPc.stage])
  have noFrames := inv.noFrames (by simp [done, StopPc.stage])
  have noInput := inv.noInput (by simp [done, StopPc.stage])
  have nowhere : places s = [] := by
    simp [places, out, noFrames, noInput, noEncoder, noCopied, done, ThreadPc.holds, StopPc.holds]
  exact (ledger s).balanced_settled inv.balanced rfl nowhere rfl

-- What a step of the thread leaves alone, and that it keeps what it holds.
structure ThreadMoves (s next : State Token) : Prop where
  stop : next.stop = s.stop
  copied : next.copied = s.copied
  mBufferRelease : next.mBufferRelease = s.mBufferRelease
  balanced : (ledger s).Balanced → (ledger next).Balanced

-- A step that hands nothing out and frees nothing keeps the account if it keeps the places.
theorem balanced_places (s next : State Token) (handed : next.handed = s.handed) (freed : next.freed = s.freed)
    (same : (places next).Perm (places s)) (balanced : (ledger s).Balanced) : (ledger next).Balanced := by
  rw [ledger, handed, freed]
  exact (ledger s).balanced_move (places next) same balanced

theorem push_frame_places (s : State Token) (token : Token) (here : s.thread = .pushFrame token) :
    (places { s with mFramesReceived := s.mFramesReceived ++ [token], thread := .readBuffer }).Perm (places s) := by
  refine List.perm_iff_count.mpr fun other => ?_
  simp only [places, here, ThreadPc.holds, List.count_append, List.count_cons, List.count_nil]
  omega

theorem take_frame_places (s : State Token) (token : Token) (rest : List Token) (here : s.thread = .takeFrame)
    (front : s.mFramesReceived = token :: rest) :
    (places { s with mFramesReceived := rest, thread := .pushInput token }).Perm (places s) := by
  refine List.perm_iff_count.mpr fun other => ?_
  simp only [places, here, front, ThreadPc.holds, List.count_append, List.count_cons, List.count_nil]
  omega

theorem push_input_places (s : State Token) (token : Token) (here : s.thread = .pushInput token) :
    (places { s with mInputBufferQueue := s.mInputBufferQueue ++ [token], thread := .feedEncoder }).Perm (places s) := by
  refine List.perm_iff_count.mpr fun other => ?_
  simp only [places, here, ThreadPc.holds, List.count_append, List.count_cons, List.count_nil]
  omega

theorem feed_encoder_places (s : State Token) (token : Token) (rest : List Token) (slots : List Nat)
    (here : s.thread = .feedEncoder) (front : s.mInputBufferQueue = token :: rest) :
    (places { s with
      mInputBufferQueue := rest
      mAvailEncoderInputIndices := slots
      thread := .queueInput token }).Perm (places s) := by
  refine List.perm_iff_count.mpr fun other => ?_
  simp only [places, here, front, ThreadPc.holds, List.count_append, List.count_cons, List.count_nil]
  omega

theorem queue_input_places (s : State Token) (token : Token) (here : s.thread = .queueInput token) :
    (places { s with encoder := token :: s.encoder, thread := .dequeueOutput }).Perm (places s) := by
  refine List.perm_iff_count.mpr fun other => ?_
  simp only [places, here, ThreadPc.holds, List.count_append, List.count_cons, List.count_nil]
  omega

-- The thread goes on with the hands as full as they were.
theorem thread_goes (s : State Token) (pc : ThreadPc Token) (same : pc.holds = s.thread.holds) :
    ThreadMoves s { s with thread := pc } := by
  refine ⟨rfl, rfl, rfl, balanced_places s _ rfl rfl ?_⟩
  rw [places, places, same]

theorem thread_moves (s next : State Token) (answer : Answer Token) (careful : Careful s (.thread answer))
    (taken : threadStep s answer = some next) : ThreadMoves s next := by
  unfold threadStep at taken
  simp only [Careful] at careful
  cases here : s.thread with
  | dequeueInput =>
      simp only [here] at taken
      cases taken
      refine ⟨rfl, rfl, rfl, balanced_places s _ rfl rfl ?_⟩
      simp only [places, here, ThreadPc.holds, List.Perm.refl]
  | startedTest =>
      simp only [here] at taken
      cases taken
      exact thread_goes s _ (by cases s.mStarted <;> simp [here, ThreadPc.holds])
  | readBuffer =>
      simp only [here] at taken
      cases taken
      refine ⟨rfl, rfl, rfl, fun balanced => ?_⟩
      cases got : answer.buffer with
      | none => simpa [ledger, places, here, got, ThreadPc.holds] using balanced
      | some token =>
          refine (ledger s).balanced_lend token _ ?_ balanced
          simp [ledger, places, here, ThreadPc.holds]
  | keepTest got =>
      cases got with
      | none =>
          simp only [here] at taken
          cases taken
          exact thread_goes s _ (by simp [here, ThreadPc.holds])
      | some token =>
          simp only [here] at taken careful
          rw [if_pos careful] at taken
          cases taken
          exact thread_goes s (.pushFrame token) (by simp [here, ThreadPc.holds])
  | pushFrame token =>
      simp only [here] at taken
      cases taken
      exact ⟨rfl, rfl, rfl, balanced_places s _ rfl rfl (push_frame_places s token here)⟩
  | takeFrame =>
      simp only [here] at taken
      split at taken
      · cases taken
        exact thread_goes s .dequeueOutput (by simp [here, ThreadPc.holds])
      · rename_i token rest front
        cases taken
        exact ⟨rfl, rfl, rfl, balanced_places s _ rfl rfl (take_frame_places s token rest here front)⟩
  | pushInput token =>
      simp only [here] at taken
      cases taken
      exact ⟨rfl, rfl, rfl, balanced_places s _ rfl rfl (push_input_places s token here)⟩
  | feedEncoder =>
      simp only [here] at taken
      split at taken
      · rename_i token rest slot slots front _
        cases taken
        exact ⟨rfl, rfl, rfl, balanced_places s _ rfl rfl (feed_encoder_places s token rest slots here front)⟩
      · cases taken
        exact thread_goes s _ (by simp [here, ThreadPc.holds])
  | queueInput token =>
      simp only [here] at taken careful
      rw [if_pos careful] at taken
      cases taken
      exact ⟨rfl, rfl, rfl, balanced_places s _ rfl rfl (queue_input_places s token here)⟩
  | dequeueOutput =>
      simp only [here] at taken
      cases taken
      exact thread_goes s _ (by simp [here, ThreadPc.holds])
  | loopTest =>
      simp only [here] at taken
      cases taken
      exact thread_goes s _ (by cases s.mStarted <;> simp [here, ThreadPc.holds])
  | out => simp [here] at taken

theorem thread_invariant (s next : State Token) (answer : Answer Token) (inv : Invariant s)
    (careful : Careful s (.thread answer)) (taken : threadStep s answer = some next) : Invariant next := by
  have moves := thread_moves s next answer careful taken
  have early : s.stop.stage < 2 := by
    by_contra late
    have out := inv.quiet (Nat.le_of_not_lt late)
    simp [threadStep, out] at taken
  refine ⟨moves.balanced inv.balanced, ?_, fun late => ?_, fun late => ?_, fun late => ?_⟩
  · rw [writers, moves.copied, moves.stop, moves.mBufferRelease]
    exact inv.written
  all_goals
    rw [moves.stop] at late
    omega

theorem drain_frames_places (s : State Token) (token : Token) (rest : List Token) (here : s.stop = .drain .frames)
    (front : s.mFramesReceived = token :: rest) :
    (places { s with mFramesReceived := rest, stop := .copy .frames token }).Perm (places s) := by
  refine List.perm_iff_count.mpr fun other => ?_
  simp only [places, here, front, StopPc.holds, List.count_append, List.count_cons, List.count_nil]
  omega

theorem drain_input_places (s : State Token) (token : Token) (rest : List Token) (here : s.stop = .drain .input)
    (front : s.mInputBufferQueue = token :: rest) :
    (places { s with mInputBufferQueue := rest, stop := .copy .input token }).Perm (places s) := by
  refine List.perm_iff_count.mpr fun other => ?_
  simp only [places, here, front, StopPc.holds, List.count_append, List.count_cons, List.count_nil]
  omega

-- stop goes on with the hands as full as they were and mBufferRelease untouched.
theorem stop_goes (s : State Token) (pc : StopPc Token) (inv : Invariant s) (holds : pc.holds = s.stop.holds)
    (copied : pc.copied = s.stop.copied) (quiet : 2 ≤ pc.stage → s.thread = .out)
    (noFrames : 3 ≤ pc.stage → s.mFramesReceived = []) (noInput : 4 ≤ pc.stage → s.mInputBufferQueue = []) :
    Invariant { s with stop := pc } where
  balanced := by
    refine balanced_places s _ rfl rfl ?_ inv.balanced
    simp only [places, holds, List.Perm.refl]
  written := by
    rw [writers, copied]
    exact inv.written
  quiet := quiet
  noFrames := noFrames
  noInput := noInput

theorem drain_invariant (s next : State Token) (queue : Queue) (inv : Invariant s) (here : s.stop = .drain queue)
    (taken : drainStep s queue = some next) : Invariant next := by
  have written := inv.written
  cases queue with
  | frames =>
      have out := inv.quiet (by simp [here, StopPc.stage])
      simp only [drainStep] at taken
      split at taken
      · rename_i front
        cases taken
        exact stop_goes s (.drain .input) inv (by simp [here, StopPc.holds]) (by simp [here, StopPc.copied])
          (fun _ => out) (fun _ => front) (by simp [StopPc.stage])
      · rename_i token rest front
        cases taken
        refine ⟨balanced_places s _ rfl rfl (drain_frames_places s token rest here front) inv.balanced, ?_,
          fun _ => out, by simp [StopPc.stage], by simp [StopPc.stage]⟩
        simpa [writers, here, StopPc.copied] using written
  | input =>
      have out := inv.quiet (by simp [here, StopPc.stage])
      have noFrames := inv.noFrames (by simp [here, StopPc.stage])
      simp only [drainStep] at taken
      split at taken
      · rename_i front
        cases taken
        exact stop_goes s .encoderStop inv (by simp [here, StopPc.holds]) (by simp [here, StopPc.copied])
          (fun _ => out) (fun _ => noFrames) fun _ => front
      · rename_i token rest front
        cases taken
        refine ⟨balanced_places s _ rfl rfl (drain_input_places s token rest here front) inv.balanced, ?_,
          fun _ => out, fun _ => noFrames, by simp [StopPc.stage]⟩
        simpa [writers, here, StopPc.copied] using written

-- What freeBuffer is passed where only one writer uses mBufferRelease is that writer's token.
theorem free_buffer_own (s next : State Token) (token : Token) (inv : Invariant s) (mine : token ∈ writers s)
    (taken : freeBuffer s = some next) : writers s = [token] ∧ next = { s with freed := token :: s.freed } := by
  rcases inv.written with none_writes | ⟨only, alone, content⟩
  · rw [none_writes] at mine
    cases mine
  · rw [alone, List.mem_singleton] at mine
    subst mine
    obtain ⟨passed, found, rfl⟩ := Option.map_eq_some_iff.mp taken
    cases Option.some.inj (found.symm.trans content)
    exact ⟨alone, rfl⟩

theorem copy_invariant (s : State Token) (queue : Queue) (token : Token) (inv : Invariant s)
    (here : s.stop = .copy queue token) (free : s.copied = []) :
    Invariant { s with mBufferRelease := some token, stop := .free queue token } where
  balanced := by
    refine balanced_places s _ rfl rfl ?_ inv.balanced
    simp only [places, here, StopPc.holds, List.Perm.refl]
  written := .inr ⟨token, by simp [writers, free, StopPc.copied], rfl⟩
  quiet late := inv.quiet (by cases queue <;> simp [here, StopPc.stage])
  noFrames late := inv.noFrames (by cases queue <;> simp_all [StopPc.stage])
  noInput late := by cases queue <;> simp [StopPc.stage] at late

theorem free_invariant (s next : State Token) (queue : Queue) (token : Token) (inv : Invariant s)
    (here : s.stop = .free queue token) (taken : freeBuffer s = some next) :
    Invariant { next with stop := .drain queue } := by
  obtain ⟨alone, rfl⟩ := free_buffer_own s next token inv (by simp [writers, here, StopPc.copied]) taken
  have noCopies : s.copied = [] := by simpa [writers, here, StopPc.copied] using alone
  refine ⟨?_, .inl (by simp [writers, noCopies, StopPc.copied]), fun _ => ?_, fun late => ?_, fun late => ?_⟩
  · refine (ledger s).balanced_give_back token _ (List.perm_iff_count.mpr fun other => ?_) inv.balanced
    simp only [ledger, places, here, StopPc.holds, List.count_append, List.count_cons, List.count_nil]
    omega
  · exact inv.quiet (by cases queue <;> simp [here, StopPc.stage])
  · exact inv.noFrames (by cases queue <;> simp_all [StopPc.stage])
  · cases queue <;> simp [StopPc.stage] at late

theorem stop_invariant (s next : State Token) (inv : Invariant s) (careful : Careful s .stop)
    (taken : stopStep s = some next) : Invariant next := by
  unfold stopStep at taken
  simp only [Careful] at careful
  cases here : s.stop with
  | idle | returned =>
      simp only [here] at taken
      split at taken
      · cases taken
        refine ⟨?_, ?_, by simp [StopPc.stage], by simp [StopPc.stage], by simp [StopPc.stage]⟩
        · refine balanced_places s _ rfl rfl ?_ inv.balanced
          simp only [places, here, StopPc.holds, List.Perm.refl]
        · simpa [writers, here, StopPc.copied] using inv.written
      · cases taken
        exact inv
  | waiting =>
      simp only [here] at taken careful
      cases taken
      exact stop_goes s (.drain .frames) inv (by simp [here, StopPc.holds]) (by simp [here, StopPc.copied])
        (fun _ => careful) (by simp [StopPc.stage]) (by simp [StopPc.stage])
  | drain queue =>
      simp only [here] at taken
      exact drain_invariant s next queue inv here taken
  | copy queue token =>
      simp only [here] at taken careful
      cases taken
      exact copy_invariant s queue token inv here careful
  | free queue token =>
      simp only [here] at taken
      obtain ⟨freed, passed, rfl⟩ := Option.map_eq_some_iff.mp taken
      exact free_invariant s freed queue token inv here passed
  | encoderStop =>
      simp only [here] at taken
      cases taken
      exact stop_goes s .returned inv (by simp [here, StopPc.holds]) (by simp [here, StopPc.copied])
        (fun _ => inv.quiet (by simp [here, StopPc.stage])) (fun _ => inv.noFrames (by simp [here, StopPc.stage]))
        fun _ => inv.noInput (by simp [here, StopPc.stage])

theorem copy_back_invariant (s : State Token) (token : Token) (inv : Invariant s) (queued : token ∈ s.encoder)
    (free : writers s = []) :
    Invariant { s with
      encoder := s.encoder.erase token, copied := token :: s.copied, mBufferRelease := some token } where
  balanced := by
    refine balanced_places s _ rfl rfl (List.perm_iff_count.mpr fun other => ?_) inv.balanced
    have one := (List.perm_cons_erase queued).count_eq other
    simp only [List.count_cons] at one
    simp only [places, List.count_append, List.count_cons]
    omega
  written := by
    refine .inr ⟨token, ?_, rfl⟩
    rw [writers, List.cons_append]
    exact congrArg (token :: ·) free
  quiet := inv.quiet
  noFrames := inv.noFrames
  noInput := inv.noInput

theorem free_back_invariant (s next : State Token) (token : Token) (inv : Invariant s) (mine : token ∈ s.copied)
    (taken : freeBuffer s = some next) : Invariant { next with copied := next.copied.erase token } := by
  obtain ⟨alone, rfl⟩ := free_buffer_own s next token inv (List.mem_append_left _ mine) taken
  refine ⟨?_, .inl ?_, inv.quiet, inv.noFrames, inv.noInput⟩
  · refine (ledger s).balanced_give_back token _ (List.perm_iff_count.mpr fun other => ?_) inv.balanced
    have one := (List.perm_cons_erase mine).count_eq other
    simp only [List.count_cons] at one
    simp only [ledger, places, List.count_append, List.count_cons]
    omega
  · have rest : (writers s).erase token = s.copied.erase token ++ s.stop.copied := List.erase_append_left _ mine
    rw [alone, List.erase_cons_head] at rest
    exact rest.symm

theorem step_invariant (s : State Token) (event : Event Token) (next : State Token) (inv : Invariant s)
    (careful : Careful s event) (taken : step s event = some next) : Invariant next := by
  cases event with
  | thread answer => exact thread_invariant s next answer inv careful taken
  | stop => exact stop_invariant s next inv careful taken
  | copyBack token =>
      simp only [step] at taken
      split at taken
      · rename_i queued
        cases taken
        exact copy_back_invariant s token inv queued careful
      · cases taken
  | freeBack token =>
      simp only [step] at taken
      split at taken
      · rename_i mine
        obtain ⟨freed, passed, rfl⟩ := Option.map_eq_some_iff.mp taken
        exact free_back_invariant s freed token inv mine passed
      · cases taken

theorem tokens_returned (events : List (Event Token)) (final : State Token)
    (careful : Guarded step Careful started events) (reached : run step started events = some final) : Returned final :=
  invariant_returned final
    (run_invariant step Careful Invariant step_invariant started final events started_invariant careful reached)

end

-- The thread's next steps, which find a slot and read the given buffers, as far as they are asked.
def reads (buffers : List (Option Nat)) : List (Event Nat) :=
  buffers.map fun buffer => .thread ⟨some 0, buffer, ok⟩

-- One buffer goes through the encoder and comes back, and stop finds the other one in its list.
def bothReturn : List (Event Nat) :=
  reads [none, none, some 1, none, none, some 2, none, none] ++ List.replicate 8 (.thread ⟨none, none, ok⟩) ++
    [.stop] ++ List.replicate 4 (.thread ⟨none, none, ok⟩) ++ [.copyBack 1, .freeBack 1] ++ List.replicate 7 .stop

theorem both_returned :
    Returned { (started : State Nat) with
      mStarted := false, mBufferRelease := some 2, mAvailEncoderInputIndices := []
      thread := .out, stop := .returned, handed := [2, 1], freed := [2, 1] } :=
  tokens_returned bothReturn _ (by decide +kernel) rfl

-- stop clears the flag after the buffer was read and before the thread looks at it.
def clearedRun : List (Event Nat) :=
  reads [none, none, some 1] ++ [.stop] ++ List.replicate 4 (.thread ⟨none, none, ok⟩) ++ List.replicate 4 .stop

theorem token_lost : ¬ ∀ (events : List (Event Nat)) (final : State Nat),
    run step started events = some final → Returned final := by
  intro all
  have lost := all clearedRun { (started : State Nat) with
    mStarted := false, mAvailEncoderInputIndices := [0], thread := .out, stop := .returned, handed := [1] } (by decide)
  exact absurd (lost.2 rfl rfl rfl).length_eq (by decide)

end Droidlogic.Screen.ESConvertor
