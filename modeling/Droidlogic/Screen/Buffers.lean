import Droidlogic.Lib.Custody
import Droidlogic.Screen.Serving

set_option autoImplicit false

namespace Droidlogic.Screen

open Droidlogic.Lib

-- A buffer that the device delivered and whose callback returned without an error.
def captured (event : Event) : Option ScreenBuffer :=
  match event.call with
  | .dataCallBack buffer _ => if event.status = ok then buffer else none
  | _ => none

def deliveredBy (event : Event) : List Nat := (captured event).toList.map fun buffer => buffer.bufferMem

-- A callback that fails is not accounted for on either side.
def releasedBy (event : Event) : List Nat :=
  match event.call with
  | .dataCallBack .. => if event.status = ok then releasePtrs event.commands else []
  | _ => releasePtrs event.commands

def bufPtrs (frames : List FrameBufferInfo) : List Nat := frames.map fun frame => frame.bufPtr

def Resets (event : Event) : Prop :=
  match event.call with
  | .stop _ => event.before.mClientList.size = 1 ∧ event.before.mStarted = true
  | _ => False

instance (event : Event) : Decidable (Resets event) := by
  unfold Resets
  cases event.call with
  | stop => exact inferInstanceAs (Decidable (_ ∧ _))
  | _ => exact instDecidableFalse

def heldAfter (event : Event) (held : List (Int × Nat)) : List (Int × Nat) :=
  match event.call, event.payload with
  | .readBuffer clientId _, .canvas frame => (clientId, frame.bufPtr) :: held
  | .freeBuffer clientId (some info), _ => held.erase (clientId, info.bufPtr)
  | _, _ => if Resets event then [] else held

-- The frames that canvas clients have read and not freed, with who read them.
def held : List Event → List (Int × Nat)
  | [] => []
  | event :: log => heldAfter event (held log)

def heldPtrs (log : List Event) : List Nat := (held log).map Prod.snd

def delivered : List Event → List Nat
  | [] => []
  | event :: log => deliveredBy event ++ delivered log

def released : List Event → List Nat
  | [] => []
  | event :: log => releasedBy event ++ released log

def reclaimed : List Event → List Nat
  | [] => []
  | event :: log =>
      if Resets event then bufPtrs event.before.mCanvasFramesReceived ++ (heldPtrs log ++ reclaimed log)
      else reclaimed log

def ledger (s : System) : Ledger Nat :=
  ⟨delivered s.log, released s.log, bufPtrs s.manager.mCanvasFramesReceived, heldPtrs s.log, reclaimed s.log⟩

-- What a canvas client does to bring back the frames that wait for it.
def drain (clientId : Int) : List FrameBufferInfo → List Call
  | [] => []
  | frame :: rest =>
      .readBuffer clientId true :: .freeBuffer clientId (some ⟨frame.bufPtr, frame.canvas⟩) :: drain clientId rest

def Drained (s last : System) : Prop :=
  last.manager.mCanvasFramesReceived = [] ∧
    ledger last = { ledger s with queued := [], returned := (ledger s).queued.reverse ++ (ledger s).returned }

-- A captured buffer is released in its callback or queued, once and not both; none is
-- lost or released a second time later; and freeBuffer releases each queued one once.
structure ReturnedOnce (s : System) (_ : Call) (next : System) : Prop where
  once : ∀ event ∈ next.log.head?, ∀ buffer ∈ captured event,
    (releasePtrs event.commands = [buffer.bufferMem] ∧
        next.manager.mCanvasFramesReceived = s.manager.mCanvasFramesReceived) ∨
      (releasePtrs event.commands = [] ∧
        next.manager.mCanvasFramesReceived = s.manager.mCanvasFramesReceived ++ [frameOf buffer])
  balanced : (ledger next).Balanced
  returnable : ∀ clientId, Frees next.manager clientId →
    ∃ last, run step next (drain clientId next.manager.mCanvasFramesReceived) = some last ∧ Drained next last

def CallbackFails (m : ScreenManager) (buffer : ScreenBuffer) (window : Nat → Dequeue) : Prop :=
  Running m ∧
    (buffer.bufferMem = 0 ∨ (m.mCanvasMode = true ∧ buffer.bufferCanvas = 0) ∨
      AnyWindowFails m window 0 m.mClientList.values)

instance (m : ScreenManager) (buffer : ScreenBuffer) (window : Nat → Dequeue) :
    Decidable (CallbackFails m buffer window) := inferInstanceAs (Decidable (_ ∧ (_ ∨ _)))

instance (m : ScreenManager) (clientId : Int) : Decidable (Frees m clientId) :=
  decidable_of_iff (m.mStarted = true ∧ m.mScreenDev = true ∧
      (m.mClientList.valueFor clientId).any (fun client => client.dataType = .canvas) = true) (by
    simp [Frees, Option.any_eq_true])

-- The calls that keep the account: a callback in a state that gives its buffer back once,
-- and a freeBuffer that releases exactly what its client holds.
def KeepsAccount (s : System) : Call → Prop
  | .dataCallBack (some buffer) window => CallbackFails s.manager buffer window ∨ GivesBackOnce s.manager
  | .freeBuffer clientId (some info) => Frees s.manager clientId ↔ (clientId, info.bufPtr) ∈ held s.log
  | _ => True

instance (s : System) (call : Call) : Decidable (KeepsAccount s call) := by
  unfold KeepsAccount
  split
  · exact inferInstanceAs (Decidable (_ ∨ _))
  · exact inferInstanceAs (Decidable (_ ↔ _))
  · exact instDecidableTrue

theorem read_canvas (m : ScreenManager) (clientId : Int) (frame : FrameBufferInfo) (rest : List FrameBufferInfo)
    (frees : Frees m clientId) (queued : m.mCanvasFramesReceived = frame :: rest) :
    readBuffer m clientId true = some ⟨ok, .canvas frame, [], { m with mCanvasFramesReceived := rest }⟩ := by
  obtain ⟨started, _, client, found, canvas⟩ := frees
  simp [readBuffer, found, started, canvas, queued]

theorem free_canvas (m : ScreenManager) (clientId : Int) (info : BuffInfo) (frees : Frees m clientId) :
    freeBuffer m clientId (some info) = some ⟨ok, .nothing, [.releaseBuffer info.bufPtr], m⟩ := by
  obtain ⟨started, device, client, found, canvas⟩ := frees
  simp [freeBuffer, found, started, canvas, device]

theorem drains (clientId : Int) (frames : List FrameBufferInfo) (s : System)
    (queued : s.manager.mCanvasFramesReceived = frames) (frees : Frees s.manager clientId) :
    ∃ last, run step s (drain clientId frames) = some last ∧ Drained s last := by
  induction frames generalizing s with
  | nil =>
      refine ⟨s, rfl, queued, ?_⟩
      rw [ledger, queued]
      rfl
  | cons frame rest ih =>
      have readDone := read_canvas s.manager clientId frame rest frees queued
      have freed := free_canvas { s.manager with mCanvasFramesReceived := rest } clientId
        ⟨frame.bufPtr, frame.canvas⟩ frees
      let emptied : System :=
        ⟨{ s.manager with mCanvasFramesReceived := rest },
          ⟨.freeBuffer clientId (some ⟨frame.bufPtr, frame.canvas⟩), { s.manager with mCanvasFramesReceived := rest },
            ok, .nothing, [.releaseBuffer frame.bufPtr]⟩ ::
          ⟨.readBuffer clientId true, s.manager, ok, .canvas frame, []⟩ :: s.log⟩
      obtain ⟨last, reached, none_left, accounts⟩ := ih emptied rfl frees
      have twoSteps : run step s (drain clientId (frame :: rest)) = run step emptied (drain clientId rest) := by
        rw [drain, run, step, perform, readDone, Option.map_some, Option.bind_some, run, step, perform, freed]
        rfl
      refine ⟨last, twoSteps.trans reached, none_left, ?_⟩
      have heldSame : held emptied.log = held s.log := List.erase_cons_head ..
      have accounted : ledger emptied =
          { ledger s with
            queued := bufPtrs rest
            returned := frame.bufPtr :: (ledger s).returned } := by
        rw [ledger, heldPtrs, heldSame]
        rfl
      rw [accounts, accounted, ledger, queued]
      simp [bufPtrs]

theorem returned_once_of (s next : System) (call : Call) (event : Event) (logged : next.log = event :: s.log)
    (nothing : captured event = none) (balanced : (ledger next).Balanced) : ReturnedOnce s call next := by
  refine ⟨?_, balanced, fun clientId frees => drains clientId _ next rfl frees⟩
  rw [logged]
  intro other head buffer given
  cases head
  rw [nothing] at given
  cases given

theorem ledger_step (s next : System) (event : Event) (logged : next.log = event :: s.log) :
    ledger next =
      ⟨deliveredBy event ++ (ledger s).delivered, releasedBy event ++ (ledger s).returned,
        bufPtrs next.manager.mCanvasFramesReceived, (heldAfter event (held s.log)).map Prod.snd,
        if Resets event then bufPtrs event.before.mCanvasFramesReceived ++ ((ledger s).held ++ (ledger s).reclaimed)
        else (ledger s).reclaimed⟩ := by
  rw [ledger, logged]
  rfl

-- A call that neither delivers, releases, reads, frees nor resets.
theorem account_unchanged (s next : System) (call : Call) (event : Event) (logged : next.log = event :: s.log)
    (same : next.manager.mCanvasFramesReceived = s.manager.mCanvasFramesReceived)
    (nothing : captured event = none) (noRelease : releasedBy event = [])
    (noHolder : heldAfter event (held s.log) = held s.log) (noReset : ¬ Resets event)
    (balanced : (ledger s).Balanced) : ReturnedOnce s call next := by
  refine returned_once_of s next call event logged nothing ?_
  have unchanged : ledger next = ledger s := by
    rw [ledger_step s next event logged, same, deliveredBy, nothing, noRelease, noHolder, if_neg noReset]
    rfl
  rw [unchanged]
  exact balanced

theorem opening_releases (m : ScreenManager) (hal : Hal) : releasePtrs (opening m hal).commands = [] := by
  rcases opening_cases m hal with ⟨_, same⟩ | ⟨_, same⟩ | ⟨_, same⟩ | ⟨_, same⟩ | ⟨_, _, _, _, _, same⟩
  all_goals
    rw [same]
    rfl

theorem clearing_releases (m : ScreenManager) : releasePtrs (clearing m).1 = [] := by
  rcases clearing_cases m with ⟨_, _, cleared⟩ | ⟨_, same⟩
  · rw [cleared]
    cases m.mScreenDev <;> rfl
  · rw [same]
    rfl

theorem clearing_frames (m : ScreenManager) :
    (clearing m).2.mCanvasFramesReceived =
      if m.mClientList.size = 1 ∧ m.mStarted = true then [] else m.mCanvasFramesReceived := by
  rcases clearing_cases m with ⟨sole, started, cleared⟩ | ⟨other, same⟩
  · exact (congrArg (·.2.mCanvasFramesReceived) cleared).trans (if_pos (And.intro sole started)).symm
  · exact (congrArg (·.2.mCanvasFramesReceived) same).trans (if_neg other).symm

theorem start_account (s next : System) (clientId : Int) (hal : Hal) (balanced : (ledger s).Balanced)
    (taken : step s (.start clientId hal) = some next) : ReturnedOnce s (.start clientId hal) next := by
  obtain ⟨outcome, done, rfl⟩ := step_cases s next _ taken
  have released_none : releasedBy (eventOf s.manager (.start clientId hal) outcome) = [] := by
    rcases start_cases s.manager clientId hal outcome done with ⟨_, rfl⟩ | ⟨_, client, _, rfl⟩
    · exact opening_releases s.manager hal
    · exact opening_releases s.manager hal
  have same : outcome.manager.mCanvasFramesReceived = s.manager.mCanvasFramesReceived := by
    rcases start_cases s.manager clientId hal outcome done with ⟨_, rfl⟩ | ⟨_, client, _, rfl⟩
    · exact (opening_same s.manager hal).2.2.2
    · exact (opening_same s.manager hal).2.2.2
  exact account_unchanged s _ _ _ rfl same rfl released_none rfl id balanced

theorem stop_account (s next : System) (clientId : Int) (balanced : (ledger s).Balanced)
    (taken : step s (.stop clientId) = some next) : ReturnedOnce s (.stop clientId) next := by
  obtain ⟨outcome, done, rfl⟩ := step_cases s next _ taken
  obtain ⟨client, _, made⟩ := stop_cases s.manager clientId outcome done
  have noRelease : releasedBy (eventOf s.manager (.stop clientId) outcome) = [] := by
    rw [made]
    exact clearing_releases s.manager
  have frames : outcome.manager.mCanvasFramesReceived =
      if s.manager.mClientList.size = 1 ∧ s.manager.mStarted = true then [] else s.manager.mCanvasFramesReceived := by
    rw [made]
    exact clearing_frames s.manager
  by_cases resets : Resets (eventOf s.manager (.stop clientId) outcome)
  · refine returned_once_of s _ _ _ rfl rfl ?_
    have nobody : heldAfter (eventOf s.manager (.stop clientId) outcome) (held s.log) = [] := if_pos resets
    rw [ledger_step s _ (eventOf s.manager (.stop clientId) outcome) rfl, noRelease, nobody, if_pos resets,
      frames.trans (if_pos resets)]
    exact (ledger s).balanced_reclaim balanced
  · exact account_unchanged s _ _ _ rfl (frames.trans (if_neg resets)) rfl noRelease (if_neg resets) resets balanced

theorem read_account (s next : System) (clientId : Int) (buffer : Bool) (balanced : (ledger s).Balanced)
    (taken : step s (.readBuffer clientId buffer) = some next) : ReturnedOnce s (.readBuffer clientId buffer) next := by
  obtain ⟨outcome, done, rfl⟩ := step_cases s next _ taken
  obtain ⟨quiet, _, _, handed⟩ := read_buffer_cases s.manager clientId buffer outcome done
  have noRelease : releasedBy (eventOf s.manager (.readBuffer clientId buffer) outcome) = [] :=
    congrArg releasePtrs quiet
  rcases handed with ⟨_, frame, given, front⟩ | ⟨noFrame, same⟩
  · refine returned_once_of s _ _ _ rfl rfl ?_
    have holder : heldAfter (eventOf s.manager (.readBuffer clientId buffer) outcome) (held s.log) =
        (clientId, frame.bufPtr) :: held s.log := by
      simp only [heldAfter, eventOf, given]
    rw [ledger_step s _ _ rfl, noRelease, holder]
    refine (ledger s).balanced_take frame.bufPtr (bufPtrs outcome.manager.mCanvasFramesReceived) ?_ balanced
    rw [ledger, front]
    rfl
  · refine account_unchanged s _ _ _ rfl same rfl noRelease ?_ id balanced
    unfold heldAfter
    split
    · next frame _ given => exact absurd given (noFrame frame)
    · next clash => exact Call.noConfusion (show Call.readBuffer clientId buffer = Call.freeBuffer _ _ from clash)
    · exact if_neg id

theorem held_perm (log : List Event) (clientId : Int) (bufPtr : Nat) (holds : (clientId, bufPtr) ∈ held log) :
    (heldPtrs log).Perm (bufPtr :: ((held log).erase (clientId, bufPtr)).map Prod.snd) :=
  (List.perm_cons_erase holds).map Prod.snd

theorem free_account (s next : System) (clientId : Int) (buffer : Option BuffInfo) (balanced : (ledger s).Balanced)
    (taken : step s (.freeBuffer clientId buffer) = some next) :
    ReturnedOnce s (.freeBuffer clientId buffer) next ↔ KeepsAccount s (.freeBuffer clientId buffer) := by
  obtain ⟨outcome, done, rfl⟩ := step_cases s next _ taken
  obtain ⟨_, same, action⟩ := free_buffer_cases s.manager clientId buffer outcome done
  cases buffer with
  | none =>
      have noRelease : releasedBy (eventOf s.manager (.freeBuffer clientId none) outcome) = [] := by
        rcases action with ⟨_, info, other, _⟩ | ⟨_, quiet⟩
        · cases other
        · exact congrArg releasePtrs quiet
      exact iff_of_true (account_unchanged s _ _ _ rfl (congrArg (·.mCanvasFramesReceived) same) rfl noRelease rfl id
        balanced) trivial
  | some info =>
      have framesSame : bufPtrs outcome.manager.mCanvasFramesReceived = (ledger s).queued := by rw [same]; rfl
      have accounted := ledger_step s ⟨outcome.manager, _⟩
        (eventOf s.manager (.freeBuffer clientId (some info)) outcome) rfl
      have kept_iff : ReturnedOnce s (.freeBuffer clientId (some info))
            ⟨outcome.manager, eventOf s.manager (.freeBuffer clientId (some info)) outcome :: s.log⟩ ↔
          (ledger ⟨outcome.manager, eventOf s.manager (.freeBuffer clientId (some info)) outcome :: s.log⟩).Balanced :=
        ⟨fun holds => holds.balanced, fun after => returned_once_of s _ _ _ rfl rfl after⟩
      have noReset : ¬ Resets (eventOf s.manager (.freeBuffer clientId (some info)) outcome) := id
      have holder : heldAfter (eventOf s.manager (.freeBuffer clientId (some info)) outcome) (held s.log) =
          (held s.log).erase (clientId, info.bufPtr) := by
        cases outcome.payload <;> rfl
      rw [kept_iff, accounted, framesSame, if_neg noReset, holder]
      rcases action with ⟨frees, _, given, command⟩ | ⟨refuses, quiet⟩
      · have release : releasedBy (eventOf s.manager (.freeBuffer clientId (some info)) outcome) = [info.bufPtr] := by
          cases given
          exact congrArg releasePtrs command
        rw [release]
        by_cases holds : (clientId, info.bufPtr) ∈ held s.log
        · exact iff_of_true
            ((ledger s).balanced_give_back info.bufPtr _ (held_perm s.log clientId info.bufPtr holds) balanced)
            (iff_of_true frees holds)
        · rw [List.erase_of_not_mem holds]
          exact iff_of_false ((ledger s).unbalanced_return info.bufPtr balanced) fun keeps => holds (keeps.mp frees)
      · have release : releasedBy (eventOf s.manager (.freeBuffer clientId (some info)) outcome) = [] :=
          congrArg releasePtrs quiet
        rw [release]
        by_cases holds : (clientId, info.bufPtr) ∈ held s.log
        · exact iff_of_false
            ((ledger s).unbalanced_drop info.bufPtr _ (held_perm s.log clientId info.bufPtr holds) balanced)
            fun keeps => refuses (keeps.mpr holds)
        · rw [List.erase_of_not_mem holds]
          exact iff_of_true balanced (iff_of_false refuses holds)

theorem callback_status (m : ScreenManager) (buffer : ScreenBuffer) (window : Nat → Dequeue) (outcome : Outcome)
    (done : dataCallBack m (some buffer) window = some outcome) :
    outcome.status = ok ↔ ¬ CallbackFails m buffer window := by
  unfold dataCallBack at done
  by_cases running : m.mStarted = true ∧ m.mError = false
  · rw [if_pos running] at done
    simp only at done
    by_cases missing : buffer.bufferMem = 0
    · rw [if_pos missing] at done
      cases done
      exact iff_of_false nofun (not_not_intro ⟨running, .inl missing⟩)
    · rw [if_neg missing] at done
      by_cases noCanvas : m.mCanvasMode = true ∧ buffer.bufferCanvas = 0
      · rw [if_pos noCanvas] at done
        cases done
        exact iff_of_false nofun (not_not_intro ⟨running, .inr (.inl noCanvas)⟩)
      · rw [if_neg noCanvas] at done
        obtain ⟨served, serving, rfl⟩ := Option.map_eq_some_iff.mp done
        rcases serve_clients_cases _ _ _ _ _ _ served serving with ⟨fails, bad⟩ | ⟨works, fine, _⟩
        · exact iff_of_false (fun fine => absurd (bad.symm.trans fine) (by decide))
            (not_not_intro ⟨running, .inr (.inr fails)⟩)
        · exact iff_of_true fine fun fails => fails.2.elim missing fun other => other.elim noCanvas works
  · rw [if_neg running] at done
    cases done
    exact iff_of_true rfl fun fails => running fails.1

-- The frame goes back to the source once for each release and is kept once for each client that waits for it.
theorem callback_served (s : System) (buffer : ScreenBuffer) (window : Nat → Dequeue) (outcome : Outcome)
    (balanced : (ledger s).Balanced) (running : Running s.manager) (fine : outcome.status = ok)
    (ptrs : releasePtrs outcome.commands = List.replicate (releaseCount s.manager) buffer.bufferMem)
    (frames : outcome.manager.mCanvasFramesReceived =
      s.manager.mCanvasFramesReceived ++ List.replicate (queueCount s.manager) (frameOf buffer)) :
    ReturnedOnce s (.dataCallBack (some buffer) window)
        ⟨outcome.manager, eventOf s.manager (.dataCallBack (some buffer) window) outcome :: s.log⟩ ↔
      GivesBackOnce s.manager := by
  have noReset : ¬ Resets (eventOf s.manager (.dataCallBack (some buffer) window) outcome) := id
  have holder : heldAfter (eventOf s.manager (.dataCallBack (some buffer) window) outcome) (held s.log) = held s.log := by
    cases outcome.payload <;> rfl
  have taken_in : captured (eventOf s.manager (.dataCallBack (some buffer) window) outcome) = some buffer := if_pos fine
  rw [gives_back_once_iff s.manager running]
  have accounted := ledger_step s ⟨outcome.manager, _⟩
    (eventOf s.manager (.dataCallBack (some buffer) window) outcome) rfl
  have release : releasedBy (eventOf s.manager (.dataCallBack (some buffer) window) outcome) =
      List.replicate (releaseCount s.manager) buffer.bufferMem := (if_pos fine).trans ptrs
  rw [deliveredBy, taken_in, release, holder, if_neg noReset, frames] at accounted
  constructor
  · intro holds
    rcases holds.once _ rfl buffer taken_in with ⟨one, same⟩ | ⟨none_given, queued⟩
    · refine .inl ⟨?_, ?_⟩
      · simpa using congrArg List.length (ptrs.symm.trans one)
      · simpa using congrArg List.length (frames.symm.trans same)
    · refine .inr ⟨?_, ?_⟩
      · simpa using congrArg List.length (ptrs.symm.trans none_given)
      · simpa using congrArg List.length (frames.symm.trans queued)
  · intro counts
    refine ⟨?_, ?_, fun clientId frees => drains clientId _ _ rfl frees⟩
    · intro event head other isOther
      cases head
      cases Option.some.inj (taken_in.symm.trans isOther)
      rcases counts with ⟨one, zero⟩ | ⟨zero, one⟩
      · refine .inl ⟨ptrs.trans (by rw [one]; rfl), ?_⟩
        rw [frames, zero]
        exact List.append_nil _
      · exact .inr ⟨ptrs.trans (by rw [zero]; rfl), by rw [frames, one]; rfl⟩
    · rw [accounted]
      rcases counts with ⟨one, zero⟩ | ⟨zero, one⟩
      · rw [one, zero]
        have after := (ledger s).balanced_return buffer.bufferMem balanced
        simpa [ledger, bufPtrs, heldPtrs] using after
      · rw [one, zero]
        have after := (ledger s).balanced_queue buffer.bufferMem balanced
        simpa [ledger, bufPtrs, heldPtrs, frameOf] using after

theorem callback_account (s next : System) (buffer : Option ScreenBuffer) (window : Nat → Dequeue)
    (balanced : (ledger s).Balanced) (taken : step s (.dataCallBack buffer window) = some next) :
    ReturnedOnce s (.dataCallBack buffer window) next ↔ KeepsAccount s (.dataCallBack buffer window) := by
  obtain ⟨outcome, done, rfl⟩ := step_cases s next _ taken
  obtain ⟨_, _, _, ends⟩ := data_call_back_cases s.manager buffer window outcome done
  have noReset : ¬ Resets (eventOf s.manager (.dataCallBack buffer window) outcome) := id
  have holder : heldAfter (eventOf s.manager (.dataCallBack buffer window) outcome) (held s.log) = held s.log := by
    cases outcome.payload <;> rfl
  cases buffer with
  | none =>
      have nothing : captured (eventOf s.manager (.dataCallBack none window) outcome) = none := ite_self none
      rcases ends with ⟨failed, same⟩ | ⟨_, _, quiet, same⟩ | ⟨_, _, _, other, _⟩
      · exact iff_of_true (account_unchanged s _ _ _ rfl same nothing (if_neg failed) holder noReset balanced) trivial
      · have noRelease : releasedBy (eventOf s.manager (.dataCallBack none window) outcome) = [] := by
          rw [releasedBy, eventOf, quiet]
          exact ite_self []
        exact iff_of_true (account_unchanged s _ _ _ rfl same nothing noRelease holder noReset balanced) trivial
      · cases other
  | some buffer =>
      have status := callback_status s.manager buffer window outcome done
      rcases ends with ⟨failed, same⟩ | ⟨idle, fine, quiet, same⟩ |
        ⟨running, _, served, isBuffer, serving, servedFine, fine, given, frames⟩
      · have nothing : captured (eventOf s.manager (.dataCallBack (some buffer) window) outcome) = none := if_neg failed
        have fails : CallbackFails s.manager buffer window := by
          by_contra works
          exact failed (status.mpr works)
        exact iff_of_true (account_unchanged s _ _ _ rfl same nothing (if_neg failed) holder noReset balanced)
          (.inl fails)
      · have breaks : ¬ KeepsAccount s (.dataCallBack (some buffer) window) :=
          fun keeps => keeps.elim (fun fails => idle fails.1) fun gives => idle gives.1
        refine iff_of_false (fun holds => ?_) breaks
        rcases holds.once _ rfl buffer (if_pos fine) with ⟨release, _⟩ | ⟨_, queued⟩
        · have none_given : releasePtrs outcome.commands = [] := congrArg releasePtrs quiet
          cases none_given.symm.trans release
        · have longer := congrArg List.length (same.symm.trans queued)
          simp at longer
      · cases isBuffer
        have works : ¬ CallbackFails s.manager buffer window := status.mp fine
        have ptrs : releasePtrs outcome.commands = List.replicate (releaseCount s.manager) buffer.bufferMem := by
          rcases serve_clients_cases _ _ _ _ _ _ served serving with ⟨_, bad⟩ | ⟨_, _, all⟩
          · exact absurd (bad.symm.trans servedFine) (by decide)
          · rw [given]
            exact all
        exact (callback_served s buffer window outcome balanced running fine ptrs
          (frames.trans (queue_frames_count s.manager buffer))).trans (or_iff_right works).symm

theorem account_step (s next : System) (call : Call) (balanced : (ledger s).Balanced)
    (taken : step s call = some next) : ReturnedOnce s call next ↔ KeepsAccount s call := by
  cases call with
  | init width height sourceType framerate dataType gbp =>
      obtain ⟨outcome, done, rfl⟩ := step_cases s next _ taken
      have untouched : outcome.commands = [] ∧
          outcome.manager.mCanvasFramesReceived = s.manager.mCanvasFramesReceived := by
        rcases init_cases _ _ _ _ _ _ _ outcome done with ⟨_, _, quiet, same⟩ | ⟨_, _, _, quiet, same, _⟩
        · exact ⟨quiet, congrArg (·.mCanvasFramesReceived) same⟩
        · exact ⟨quiet, congrArg (·.mCanvasFramesReceived) same⟩
      exact iff_of_true (account_unchanged s _ _ _ rfl untouched.2 rfl (congrArg releasePtrs untouched.1)
        (by cases outcome.payload <;> rfl) id balanced) trivial
  | uninit clientId =>
      obtain ⟨outcome, done, rfl⟩ := step_cases s next _ taken
      obtain ⟨_, rfl⟩ := uninit_cases s.manager clientId outcome done
      exact iff_of_true (account_unchanged s _ _ _ rfl rfl rfl rfl rfl id balanced) trivial
  | setVideoCrop x y width height =>
      obtain ⟨outcome, done, rfl⟩ := step_cases s next _ taken
      cases done
      exact iff_of_true (account_unchanged s _ _ _ rfl rfl rfl rfl rfl id balanced) trivial
  | start clientId hal => exact iff_of_true (start_account s next clientId hal balanced taken) trivial
  | stop clientId => exact iff_of_true (stop_account s next clientId balanced taken) trivial
  | readBuffer clientId buffer => exact iff_of_true (read_account s next clientId buffer balanced taken) trivial
  | freeBuffer clientId buffer => exact free_account s next clientId buffer balanced taken
  | dataCallBack buffer window => exact callback_account s next buffer window balanced taken

theorem powered_balanced (boot : Boot) : (ledger (powered boot)).Balanced := Ledger.balanced_empty

theorem account_runs (s : System) (calls : List Call) (balanced : (ledger s).Balanced) :
    Along step ReturnedOnce s calls ↔ Along step (fun s call _ => KeepsAccount s call) s calls := by
  refine along_iff step (fun s => (ledger s).Balanced) ReturnedOnce (fun s call _ => KeepsAccount s call) ?_ ?_ s calls
    balanced
  · intro s call next balanced taken keeps
    exact ((account_step s next call balanced taken).mpr keeps).balanced
  · intro s call next balanced taken
    exact account_step s next call balanced taken

theorem buffers_returned_once_iff (boot : Boot) (calls : List Call) :
    Along step ReturnedOnce (powered boot) calls ↔
      Along step (fun s call _ => KeepsAccount s call) (powered boot) calls :=
  account_runs (powered boot) calls (powered_balanced boot)

-- One canvas client alone meets the condition from its init to its uninit.
example : Along step (fun s call _ => KeepsAccount s call) (powered sampleBoot)
    [.init 2 2 0 30 .canvas none, .start 1 sampleHal, .dataCallBack (some ⟨4096, 7, []⟩) fun _ => ⟨0, true⟩,
      .readBuffer 1 true, .freeBuffer 1 (some ⟨4096, 7⟩), .stop 1, .uninit 1] := by decide +kernel

def smallRaw : Call := .init 2 2 0 30 .rawdata none

-- Two raw-data clients and no canvas client: each of them releases the one buffer.
def doubleRelease : List Call :=
  [smallRaw, smallRaw, .start 1 sampleHal, .start 2 sampleHal,
    .dataCallBack (some ⟨4096, 7, [0, 0, 0, 0, 0, 0]⟩) fun _ => ⟨0, true⟩]

theorem buffer_released_twice : ¬ Along step ReturnedOnce (powered sampleBoot) doubleRelease := by
  intro once
  have keeps := (account_runs (powered sampleBoot) doubleRelease (powered_balanced sampleBoot)).mp once
  revert keeps
  decide +kernel

end Droidlogic.Screen
