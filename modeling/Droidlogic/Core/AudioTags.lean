import Droidlogic.Core.AudioRing

set_option autoImplicit false

namespace Droidlogic.Core.AudioRing

open Lib Lib.Ring

-- Where a sample comes from: a place of the memory as it was given, the tracker's own buffer, a
-- memset, or the recorder; there with the mutes and resets before it and its number.
inductive Origin
  | memory (place : Nat)
  | left
  | silence
  | recorded (drops n : Nat)
deriving DecidableEq

structure Tagged where
  value : Int16
  origin : Origin
deriving DecidableEq

def silent : Tagged := ⟨0, .silence⟩

def tags (drops count : Nat) (raw : List Int16) : List Tagged :=
  raw.mapIdx fun i value => ⟨value, .recorded drops (count + i)⟩

def Op.tagged (drops count : Nat) : Op Int16 → Op Tagged
  | .create memory => .create fun i => ⟨memory i, .memory i⟩
  | .mute => .mute
  | .resetRecord => .resetRecord
  | .resetPlayback => .resetPlayback
  | .record raw => .record (tags drops count raw)
  | .play raw => .play (raw.map (⟨·, .left⟩))

def traced (state : State Tagged) (op : Op Int16) : Option (State Tagged) :=
  step silent state (op.tagged state.drops state.captured.length)

def number (sample : Tagged) : Option Nat :=
  match sample.origin with
  | .recorded _ n => some n
  | _ => none

-- The number of a sample that no mute or reset came after.
def current (drops : Nat) (sample : Tagged) : Option Nat :=
  match sample.origin with
  | .recorded before n => if before = drops then some n else none
  | _ => none

-- memory is what the buffer held when it was created.
structure Sourced (memory : Nat → Int16) (captured : List Tagged) (sample : Tagged) : Prop where
  memory : ∀ place, sample.origin = .memory place → sample.value = memory place
  silence : sample.origin = .silence → sample.value = 0
  recorded : ∀ drops n, sample.origin = .recorded drops n → captured[n]? = some sample

-- What a place of the ring holds: nothing of the tracker's, and of the memory only its own.
structure InRing (memory : Nat → Int16) (captured : List Tagged) (place : Nat) (sample : Tagged) : Prop where
  sourced : Sourced memory captured sample
  ours : sample.origin ≠ .left
  unwritten : ∀ other, sample.origin = .memory other → other = place

def numbers (handed : List (Nat × Tagged)) : List Nat := handed.filterMap fun entry => number entry.2

-- Those that were played before a mute or a reset could drop them.
def inTime (handed : List (Nat × Tagged)) : List Nat := handed.filterMap fun entry => current entry.1 entry.2

-- What the tracker has been given: each recorded sample once, and in order those that were not
-- dropped before.
structure Played (memory : Nat → Int16) (state : State Tagged) : Prop where
  inside : Inside state.temp
  ring : ∀ i < tempBufferSize, InRing memory state.captured i (state.temp.tempBuffer i)
  source : ∀ entry ∈ state.handed, Sourced memory state.captured entry.2
  once : (numbers state.handed).Nodup
  order : (inTime state.handed).Pairwise (· < ·)

-- The tracker is left what its buffer held in an underrun only.
def LeavesOwn (state : State Tagged) (op : Op Int16) (next : State Tagged) : Prop :=
  ∃ out, next.handed = state.handed ++ out.map (state.drops, ·) ∧
    ((∀ sample ∈ out, sample.origin ≠ .left) ∨
      ∃ raw, op = .play raw ∧ (pending state.temp).length ≤ saveDistanceMin ∧ out = raw.map (⟨·, .left⟩))

def Temp.map {α β : Type} (f : α → β) (temp : Temp α) : Temp β :=
  ⟨f ∘ temp.tempBuffer, temp.recordWritePointer, temp.playbackReadPointer⟩

def State.map {α β : Type} (f : α → β) (state : State α) : State β :=
  ⟨state.temp.map f, state.captured.map f, state.handed.map (Prod.map id f), state.drops⟩

def Op.map {α β : Type} (f : α → β) : Op α → Op β
  | .create memory => .create (f ∘ memory)
  | .mute => .mute
  | .resetRecord => .resetRecord
  | .resetPlayback => .resetPlayback
  | .record raw => .record (raw.map f)
  | .play raw => .play (raw.map f)

section
variable {α β : Type} (f : α → β)

theorem put_map (cells : Nat → α) (place : Nat) (items : List α) :
    f ∘ put cells place items = put (f ∘ cells) place (items.map f) := by
  funext i
  simp only [put, Function.comp_apply, List.getD_eq_getElem?_getD, List.getElem?_map]
  split
  · cases items[i - place]? <;> rfl
  · rfl

theorem copy_in_map (cells : Nat → α) (place : Nat) (items : List α) :
    copyIn (f ∘ cells) place (items.map f) = (copyIn cells place items).map (f ∘ ·) := by
  rw [copyIn, copyIn, List.length_map]
  split
  · rw [Option.map_some, put_map]
  · rfl

theorem copy_out_map (cells : Nat → α) (place count : Nat) :
    copyOut (f ∘ cells) place count = (copyOut cells place count).map (List.map f) := by
  rw [copyOut, copyOut]
  split
  · rw [Option.map_some, straight, straight, List.map_map]
    rfl
  · rfl

theorem clear_map (zero : α) (cells : Nat → α) (place count : Nat) :
    clear (f zero) (f ∘ cells) place count = (clear zero cells place count).map (f ∘ ·) := by
  rw [clear, clear, ← copy_in_map, List.map_replicate]

theorem mute_map (zero : α) (temp : Temp α) :
    muteTempBuffer (f zero) (temp.map f) = (muteTempBuffer zero temp).map (Prod.map (Temp.map f) (List.map f)) := by
  simp only [muteTempBuffer, Temp.map, clear_map, Option.bind_eq_bind]
  cases clear zero temp.tempBuffer 0 (tempBufferSize / 2) with
  | none => rfl
  | some cleared =>
      simp only [Option.map_some, Option.bind_some, copy_out_map]
      cases copyOut cleared 0 (tempBufferSize / 2) with
      | none => rfl
      | some written =>
          simp only [Option.map_some, Option.bind_some, Prod.map, List.map_flatten, List.map_replicate]
          rfl

theorem recorder_map (temp : Temp α) (raw : List α) :
    recorderCallback (temp.map f) (raw.map f) = (recorderCallback temp raw).map (Temp.map f) := by
  simp only [recorderCallback, Temp.map, List.length_map, ← List.map_take, ← List.map_drop, copy_in_map]
  split
  · rfl
  · split
    · cases copyIn temp.tempBuffer temp.recordWritePointer raw <;> rfl
    · cases copyIn temp.tempBuffer temp.recordWritePointer (raw.take (tempBufferSize - temp.recordWritePointer)) with
      | none => rfl
      | some first =>
          simp only [Option.map_some, Option.bind_eq_bind, Option.bind_some, copy_in_map]
          cases copyIn first 0 (raw.drop (tempBufferSize - temp.recordWritePointer)) <;> rfl

theorem tracker_map (zero : α) (temp : Temp α) (raw : List α) :
    trackerCallback (f zero) (temp.map f) (raw.map f) =
      (trackerCallback zero temp raw).map (Prod.map (Temp.map f) (List.map f)) := by
  simp only [trackerCallback, Temp.map, List.length_map, copy_out_map, clear_map]
  split
  · rfl
  · split
    · cases copyOut temp.tempBuffer temp.playbackReadPointer raw.length with
      | none => rfl
      | some copied => cases clear zero temp.tempBuffer temp.playbackReadPointer raw.length <;> rfl
    · cases copyOut temp.tempBuffer temp.playbackReadPointer (tempBufferSize - temp.playbackReadPointer) with
      | none => rfl
      | some copied =>
          cases clear zero temp.tempBuffer temp.playbackReadPointer (tempBufferSize - temp.playbackReadPointer) with
          | none => rfl
          | some cleared =>
              simp only [Option.map_some, Option.bind_eq_bind, Option.bind_some, copy_out_map, clear_map]
              cases copyOut cleared 0 (raw.length - (tempBufferSize - temp.playbackReadPointer)) with
              | none => rfl
              | some behind =>
                  cases clear zero cleared 0 (raw.length - (tempBufferSize - temp.playbackReadPointer)) with
                  | none => rfl
                  | some last =>
                      simp only [Option.map_some, Option.bind_some, Prod.map, List.map_append]
                      rfl

theorem handed_map (handed : List (Nat × α)) (drops : Nat) (out : List α) :
    (handed ++ out.map (drops, ·)).map (Prod.map id f) = handed.map (Prod.map id f) ++ (out.map f).map (drops, ·) := by
  rw [List.map_append, List.map_map, List.map_map]
  rfl

-- The code does not look at what it copies.
theorem step_map (zero : α) (state : State α) (op : Op α) :
    step (f zero) (state.map f) (op.map f) = (step zero state op).map (State.map f) := by
  cases op with
  | create memory => rfl
  | resetRecord => rfl
  | resetPlayback => rfl
  | mute =>
      simp only [step, Op.map, State.map, mute_map, Option.map_map]
      cases muteTempBuffer zero state.temp with
      | none => rfl
      | some result => simp only [Option.map_some, Function.comp_apply, State.map, handed_map, Prod.map]
  | record raw =>
      simp only [step, Op.map, State.map, recorder_map, Option.map_map]
      cases recorderCallback state.temp raw with
      | none => rfl
      | some temp => simp only [Option.map_some, Function.comp_apply, State.map, List.map_append]
  | play raw =>
      simp only [step, Op.map, State.map, tracker_map, Option.map_map]
      cases trackerCallback zero state.temp raw with
      | none => rfl
      | some result => simp only [Option.map_some, Function.comp_apply, State.map, handed_map, Prod.map]

end

theorem tags_value (drops count : Nat) (raw : List Int16) : (tags drops count raw).map Tagged.value = raw := by
  apply List.ext_getElem
  · rw [tags, List.length_map, List.length_mapIdx]
  · intro i _ _
    rw [List.getElem_map]
    simp only [tags, List.getElem_mapIdx]

theorem tagged_value (drops count : Nat) (op : Op Int16) : (op.tagged drops count).map Tagged.value = op := by
  cases op with
  | create memory => rfl
  | mute => rfl
  | resetRecord => rfl
  | resetPlayback => rfl
  | record raw => exact congrArg Op.record (tags_value drops count raw)
  | play raw =>
      refine congrArg Op.play ?_
      rw [List.map_map]
      exact List.map_id raw

-- Without its tags a run is the program's own.
theorem traced_value (state : State Tagged) (op : Op Int16) :
    step 0 (state.map Tagged.value) op = (traced state op).map (State.map Tagged.value) := by
  have same := step_map Tagged.value silent state (op.tagged state.drops state.captured.length)
  rw [tagged_value] at same
  exact same

theorem number_some (sample : Tagged) (n : Nat) :
    number sample = some n ↔ ∃ drops, sample.origin = .recorded drops n := by
  rw [number]
  cases sample.origin with
  | recorded before m => simp only [Option.some.injEq, Origin.recorded.injEq, exists_eq_left']
  | _ => exact iff_of_false (Option.some_ne_none n).symm fun ⟨_, same⟩ => by cases same

theorem current_some (drops : Nat) (sample : Tagged) (n : Nat) :
    current drops sample = some n ↔ sample.origin = .recorded drops n := by
  rw [current]
  cases sample.origin with
  | recorded before m => simp only [Option.ite_none_right_eq_some, Option.some.injEq, Origin.recorded.injEq]
  | _ => exact iff_of_false (Option.some_ne_none n).symm fun same => by cases same

theorem number_of_current (drops : Nat) (sample : Tagged) (n : Nat) (found : current drops sample = some n) :
    number sample = some n :=
  (number_some sample n).mpr ⟨drops, (current_some drops sample n).mp found⟩

theorem current_none (drops : Nat) (sample : Tagged) (plain : number sample = none) : current drops sample = none := by
  cases found : current drops sample with
  | none => rfl
  | some n => exact absurd (plain.symm.trans (number_of_current drops sample n found)) (Option.some_ne_none n).symm

section
variable {memory : Nat → Int16}

theorem number_lt (captured : List Tagged) (sample : Tagged) (n : Nat) (sourced : Sourced memory captured sample)
    (found : number sample = some n) : n < captured.length := by
  obtain ⟨drops, origin⟩ := (number_some sample n).mp found
  exact (List.getElem?_eq_some_iff.mp (sourced.recorded drops n origin)).1

theorem sourced_append (captured later : List Tagged) (sample : Tagged) (sourced : Sourced memory captured sample) :
    Sourced memory (captured ++ later) sample := by
  refine ⟨sourced.memory, sourced.silence, fun drops n origin => ?_⟩
  have found := sourced.recorded drops n origin
  rw [List.getElem?_append_left (List.getElem?_eq_some_iff.mp found).1, found]

theorem in_ring_append (captured later : List Tagged) (place : Nat) (sample : Tagged)
    (held : InRing memory captured place sample) : InRing memory (captured ++ later) place sample :=
  ⟨sourced_append captured later sample held.sourced, held.ours, held.unwritten⟩

theorem silent_sourced (captured : List Tagged) : Sourced memory captured silent :=
  ⟨fun _ origin => (by cases origin), fun _ => rfl, fun _ _ origin => by cases origin⟩

theorem silent_in_ring (captured : List Tagged) (place : Nat) : InRing memory captured place silent :=
  ⟨silent_sourced captured, fun origin => (by cases origin), fun _ origin => by cases origin⟩

theorem left_sourced (captured : List Tagged) (value : Int16) : Sourced memory captured ⟨value, .left⟩ :=
  ⟨fun _ origin => (by cases origin), fun origin => (by cases origin), fun _ _ origin => by cases origin⟩

end

theorem numbers_append (handed : List (Nat × Tagged)) (drops : Nat) (out : List Tagged) :
    numbers (handed ++ out.map (drops, ·)) = numbers handed ++ out.filterMap number := by
  rw [numbers, List.filterMap_append, List.filterMap_map]
  rfl

theorem in_time_append (handed : List (Nat × Tagged)) (drops : Nat) (out : List Tagged) :
    inTime (handed ++ out.map (drops, ·)) = inTime handed ++ out.filterMap (current drops) := by
  rw [inTime, List.filterMap_append, List.filterMap_map]
  rfl

end Droidlogic.Core.AudioRing
