import Mathlib.Data.List.Nodup
import Mathlib.Tactic.Common
import Droidlogic.Lib.Ring
import Droidlogic.Lib.Run

set_option autoImplicit false

namespace Droidlogic.Core.AudioRing

open Lib Lib.Ring

def tempBufferSize : Nat := 4096 * 5

def saveDistanceMin : Nat := 4096

def midBufferDistance : Nat := 2048 * 5

section
variable {Sample : Type} (zero : Sample)

-- temp_buffer once it is created, by its shorts; the pointers are places in it.
structure Temp (Sample : Type) where
  tempBuffer : Nat → Sample
  recordWritePointer : Nat
  playbackReadPointer : Nat

-- memcpy and memset over the buffer: none is an access outside of it.
def copyIn (tempBuffer : Nat → Sample) (place : Nat) (items : List Sample) : Option (Nat → Sample) :=
  if place + items.length ≤ tempBufferSize then some (put tempBuffer place items) else none

def copyOut (tempBuffer : Nat → Sample) (place count : Nat) : Option (List Sample) :=
  if place + count ≤ tempBufferSize then some (straight tempBuffer place count) else none

def clear (tempBuffer : Nat → Sample) (place count : Nat) : Option (Nat → Sample) :=
  copyIn tempBuffer place (List.replicate count zero)

def initTempBuffer (temp : Option (Temp Sample)) (memory : Nat → Sample) : Temp Sample :=
  match temp with
  | none => ⟨memory, 0, 0⟩
  | some temp => temp

-- memset and write are both given temp_buffer_size bytes, half of the buffer.
def muteTempBuffer (temp : Temp Sample) : Option (Temp Sample × List Sample) := do
  let tempBuffer ← clear zero temp.tempBuffer 0 (tempBufferSize / 2)
  let written ← copyOut tempBuffer 0 (tempBufferSize / 2)
  some (⟨tempBuffer, temp.recordWritePointer, temp.recordWritePointer⟩, (List.replicate 10 written).flatten)

def resetRecordWritePointer (temp : Temp Sample) : Temp Sample :=
  { temp with recordWritePointer := temp.playbackReadPointer }

def resetPlaybackReadPointer (temp : Temp Sample) : Temp Sample :=
  { temp with playbackReadPointer := temp.recordWritePointer }

def getWriteSpace (writePoint readPoint : Nat) : Nat :=
  if readPoint ≤ writePoint then tempBufferSize - (writePoint - readPoint) else readPoint - writePoint

def getReadSpace (writePoint readPoint : Nat) : Nat :=
  if readPoint ≤ writePoint then writePoint - readPoint else tempBufferSize - (readPoint - writePoint)

-- raw is what the recorder has for us: pbuf->size is twice its length.
def recorderCallback (temp : Temp Sample) (raw : List Sample) : Option (Temp Sample) :=
  if getWriteSpace temp.recordWritePointer temp.playbackReadPointer ≤ saveDistanceMin then some temp
  else
    let offset := tempBufferSize - temp.recordWritePointer
    if raw.length ≤ offset then do
      let tempBuffer ← copyIn temp.tempBuffer temp.recordWritePointer raw
      let moved := temp.recordWritePointer + raw.length
      some ⟨tempBuffer, if moved = tempBufferSize then 0 else moved, temp.playbackReadPointer⟩
    else do
      let tempBuffer ← copyIn temp.tempBuffer temp.recordWritePointer (raw.take offset)
      let tempBuffer ← copyIn tempBuffer 0 (raw.drop offset)
      some ⟨tempBuffer, raw.length - offset, temp.playbackReadPointer⟩

-- raw is what the tracker's buffer holds before; the second result is what it holds then.
def trackerCallback (temp : Temp Sample) (raw : List Sample) : Option (Temp Sample × List Sample) :=
  if getReadSpace temp.recordWritePointer temp.playbackReadPointer ≤ saveDistanceMin then
    some (⟨temp.tempBuffer, 0, midBufferDistance⟩, raw)
  else
    let offset := tempBufferSize - temp.playbackReadPointer
    if raw.length ≤ offset then do
      let copied ← copyOut temp.tempBuffer temp.playbackReadPointer raw.length
      let tempBuffer ← clear zero temp.tempBuffer temp.playbackReadPointer raw.length
      let moved := temp.playbackReadPointer + raw.length
      some (⟨tempBuffer, temp.recordWritePointer, if moved = tempBufferSize then 0 else moved⟩, copied)
    else do
      let copied ← copyOut temp.tempBuffer temp.playbackReadPointer offset
      let tempBuffer ← clear zero temp.tempBuffer temp.playbackReadPointer offset
      let behind ← copyOut tempBuffer 0 (raw.length - offset)
      let tempBuffer ← clear zero tempBuffer 0 (raw.length - offset)
      some (⟨tempBuffer, temp.recordWritePointer, raw.length - offset⟩, copied ++ behind)

inductive Op (Sample : Type)
  | create (memory : Nat → Sample)
  | mute
  | resetRecord
  | resetPlayback
  | record (raw : List Sample)
  | play (raw : List Sample)

-- captured is what the recorder has had for us so far, handed what the tracker has been given,
-- each sample with the number of mutes and resets before it.
structure State (Sample : Type) where
  temp : Temp Sample
  captured : List Sample
  handed : List (Nat × Sample)
  drops : Nat

def start (memory : Nat → Sample) : State Sample := ⟨initTempBuffer none memory, [], [], 0⟩

def step (state : State Sample) : Op Sample → Option (State Sample)
  | .create memory => some { state with temp := initTempBuffer (some state.temp) memory }
  | .mute => (muteTempBuffer zero state.temp).map fun result =>
      ⟨result.1, state.captured, state.handed ++ result.2.map (state.drops, ·), state.drops + 1⟩
  | .resetRecord => some { state with temp := resetRecordWritePointer state.temp, drops := state.drops + 1 }
  | .resetPlayback => some { state with temp := resetPlaybackReadPointer state.temp, drops := state.drops + 1 }
  | .record raw => (recorderCallback state.temp raw).map fun temp =>
      ⟨temp, state.captured ++ raw, state.handed, state.drops⟩
  | .play raw => (trackerCallback zero state.temp raw).map fun result =>
      ⟨result.1, state.captured, state.handed ++ result.2.map (state.drops, ·), state.drops⟩

-- The callbacks never move more than save_distance_min samples.
def Op.Sized : Op Sample → Prop
  | .record raw => raw.length ≤ saveDistanceMin
  | .play raw => raw.length ≤ saveDistanceMin
  | _ => True

-- What is recorded and neither played nor given up.
def pending (temp : Temp Sample) : List Sample :=
  window tempBufferSize temp.tempBuffer temp.playbackReadPointer
    (getReadSpace temp.recordWritePointer temp.playbackReadPointer)

structure Inside (temp : Temp Sample) : Prop where
  write : temp.recordWritePointer < tempBufferSize
  read : temp.playbackReadPointer < tempBufferSize

theorem temp_buffer_size : tempBufferSize = 20480 := rfl

theorem save_distance_min : saveDistanceMin = 4096 := rfl

theorem mid_buffer_distance : midBufferDistance = 10240 := rfl

theorem read_space_lt (temp : Temp Sample) (inside : Inside temp) :
    getReadSpace temp.recordWritePointer temp.playbackReadPointer < tempBufferSize := by
  obtain ⟨write, read⟩ := inside
  rw [getReadSpace]
  split <;> omega

-- What is not pending can be written.
theorem write_space_eq (temp : Temp Sample) (inside : Inside temp) :
    getWriteSpace temp.recordWritePointer temp.playbackReadPointer =
      tempBufferSize - getReadSpace temp.recordWritePointer temp.playbackReadPointer := by
  obtain ⟨write, read⟩ := inside
  rw [getReadSpace, getWriteSpace]
  split <;> omega

theorem write_pointer_eq (temp : Temp Sample) (inside : Inside temp) :
    temp.recordWritePointer = around tempBufferSize temp.playbackReadPointer
      (getReadSpace temp.recordWritePointer temp.playbackReadPointer) := by
  obtain ⟨write, read⟩ := inside
  rw [getReadSpace, around]
  split <;> split <;> omega

theorem read_space_of (write read count : Nat) (small : count < tempBufferSize) (inside : read < tempBufferSize)
    (place : write = around tempBufferSize read count) : getReadSpace write read = count := by
  rw [around] at place
  rw [getReadSpace]
  split at place <;> split <;> omega

theorem wrap_around (place count : Nat) (inside : place < tempBufferSize) (fits : count ≤ tempBufferSize - place) :
    (if place + count = tempBufferSize then 0 else place + count) = around tempBufferSize place count := by
  rw [around]
  split <;> split <;> omega

theorem wrap_behind (place count : Nat) (inside : place < tempBufferSize) (passes : ¬count ≤ tempBufferSize - place) :
    count - (tempBufferSize - place) = around tempBufferSize place count := by
  rw [around, if_neg (by omega)]
  omega

theorem record_spec (temp : Temp Sample) (raw : List Sample) (inside : Inside temp) (sized : raw.length ≤ saveDistanceMin)
    (space : ¬getWriteSpace temp.recordWritePointer temp.playbackReadPointer ≤ saveDistanceMin) :
    ∃ next, recorderCallback temp raw = some next ∧
      Overlaid tempBufferSize temp.tempBuffer temp.recordWritePointer raw next.tempBuffer ∧
      next.recordWritePointer = around tempBufferSize temp.recordWritePointer raw.length ∧
      next.playbackReadPointer = temp.playbackReadPointer := by
  have size := temp_buffer_size
  have margin := save_distance_min
  have write := inside.write
  rw [recorderCallback, if_neg space]
  by_cases fits : raw.length ≤ tempBufferSize - temp.recordWritePointer
  · have room : temp.recordWritePointer + raw.length ≤ tempBufferSize := by omega
    simp only [if_pos fits, copyIn, if_pos room]
    exact ⟨_, rfl, put_overlaid _ _ _ _ room, wrap_around _ _ write fits, rfl⟩
  · have first : (raw.take (tempBufferSize - temp.recordWritePointer)).length = tempBufferSize - temp.recordWritePointer := by
      rw [List.length_take]
      omega
    have second : (raw.drop (tempBufferSize - temp.recordWritePointer)).length ≤ temp.recordWritePointer := by
      rw [List.length_drop]
      omega
    have reaches : temp.recordWritePointer + (raw.take (tempBufferSize - temp.recordWritePointer)).length = tempBufferSize := by
      omega
    have room : 0 + (raw.drop (tempBufferSize - temp.recordWritePointer)).length ≤ tempBufferSize := by omega
    simp only [if_neg fits, copyIn, if_pos (Nat.le_of_eq reaches), if_pos room, Option.bind_eq_bind, Option.bind_some]
    refine ⟨_, rfl, ?_, wrap_behind _ _ write fits, rfl⟩
    have laid := put_twice_overlaid _ temp.tempBuffer _ _ _ reaches second
    rw [List.take_append_drop] at laid
    exact laid

theorem play_spec (temp : Temp Sample) (raw : List Sample) (inside : Inside temp) (sized : raw.length ≤ saveDistanceMin)
    (space : ¬getReadSpace temp.recordWritePointer temp.playbackReadPointer ≤ saveDistanceMin) :
    ∃ next, trackerCallback zero temp raw =
        some (next, window tempBufferSize temp.tempBuffer temp.playbackReadPointer raw.length) ∧
      Overlaid tempBufferSize temp.tempBuffer temp.playbackReadPointer (List.replicate raw.length zero) next.tempBuffer ∧
      next.recordWritePointer = temp.recordWritePointer ∧
      next.playbackReadPointer = around tempBufferSize temp.playbackReadPointer raw.length := by
  have size := temp_buffer_size
  have margin := save_distance_min
  have read := inside.read
  rw [trackerCallback, if_neg space]
  by_cases fits : raw.length ≤ tempBufferSize - temp.playbackReadPointer
  · have room : temp.playbackReadPointer + raw.length ≤ tempBufferSize := by omega
    have silent : temp.playbackReadPointer + (List.replicate raw.length zero).length ≤ tempBufferSize := by
      rw [List.length_replicate]
      exact room
    simp only [if_pos fits, copyOut, clear, copyIn, if_pos room, if_pos silent, Option.bind_eq_bind, Option.bind_some,
      ← window_straight tempBufferSize temp.tempBuffer temp.playbackReadPointer raw.length room]
    exact ⟨_, rfl, put_overlaid _ _ _ _ silent, rfl, wrap_around _ _ read fits⟩
  · obtain ⟨rest, split⟩ := Nat.exists_eq_add_of_le (Nat.le_of_not_le fits)
    have behind : raw.length - (tempBufferSize - temp.playbackReadPointer) = rest := by omega
    have room : temp.playbackReadPointer + (tempBufferSize - temp.playbackReadPointer) ≤ tempBufferSize := by omega
    have front : 0 + rest ≤ tempBufferSize := by omega
    have silent : temp.playbackReadPointer + (List.replicate (tempBufferSize - temp.playbackReadPointer) zero).length ≤
        tempBufferSize := by
      rw [List.length_replicate]
      exact room
    have hushed : 0 + (List.replicate rest zero).length ≤ tempBufferSize := by
      rw [List.length_replicate]
      exact front
    -- The second piece is read from the buffer with the first one cleared.
    have untouched : straight (put temp.tempBuffer temp.playbackReadPointer
          (List.replicate (tempBufferSize - temp.playbackReadPointer) zero)) 0 rest = straight temp.tempBuffer 0 rest := by
      refine List.map_congr_left fun j member => put_away _ _ _ _ (Or.inl ?_)
      have below := List.mem_range.mp member
      omega
    have laid := put_twice_overlaid tempBufferSize temp.tempBuffer temp.playbackReadPointer
      (List.replicate (tempBufferSize - temp.playbackReadPointer) zero) (List.replicate rest zero)
      (by rw [List.length_replicate]; omega) (by rw [List.length_replicate]; omega)
    rw [List.replicate_append_replicate, ← split] at laid
    have played : window tempBufferSize temp.tempBuffer temp.playbackReadPointer raw.length =
        straight temp.tempBuffer temp.playbackReadPointer (tempBufferSize - temp.playbackReadPointer) ++
          straight temp.tempBuffer 0 rest := by
      rw [split, window_twice tempBufferSize _ _ _ rest (by omega) (by omega) (by omega)]
    simp only [played, if_neg fits, behind, copyOut, clear, copyIn, if_pos room, if_pos silent, if_pos front, if_pos hushed,
      Option.bind_eq_bind, Option.bind_some, untouched]
    exact ⟨_, rfl, laid, rfl, behind.symm.trans (wrap_behind _ _ read fits)⟩

theorem mute_spec (temp : Temp Sample) :
    ∃ next out, muteTempBuffer zero temp = some (next, out) ∧ (∀ item ∈ out, item = zero) ∧
      Overlaid tempBufferSize temp.tempBuffer 0 (List.replicate (tempBufferSize / 2) zero) next.tempBuffer ∧
      next.recordWritePointer = temp.recordWritePointer ∧ next.playbackReadPointer = temp.recordWritePointer := by
  have size := temp_buffer_size
  have room : 0 + tempBufferSize / 2 ≤ tempBufferSize := by omega
  have silent : 0 + (List.replicate (tempBufferSize / 2) zero).length ≤ tempBufferSize := by
    rw [List.length_replicate]
    exact room
  have laid := put_overlaid tempBufferSize temp.tempBuffer 0 (List.replicate (tempBufferSize / 2) zero) silent
  have written : straight (put temp.tempBuffer 0 (List.replicate (tempBufferSize / 2) zero)) 0 (tempBufferSize / 2) =
      List.replicate (tempBufferSize / 2) zero := by
    have whole := window_overlaid tempBufferSize _ _ 0 _ laid
    rw [List.length_replicate, window_straight _ _ _ _ room] at whole
    exact whole
  simp only [muteTempBuffer, clear, copyIn, copyOut, if_pos silent, if_pos room, Option.bind_eq_bind, Option.bind_some, written]
  refine ⟨_, _, rfl, ?_, laid, rfl, rfl⟩
  intro item member
  obtain ⟨piece, among, inPiece⟩ := List.mem_flatten.mp member
  rw [List.eq_of_mem_replicate among] at inPiece
  exact List.eq_of_mem_replicate inPiece

-- What an operation does to the samples that are pending, and what the tracker is given.
def Moves (state : State Sample) (op : Op Sample) (next : State Sample) : Prop :=
  match op with
  | .create _ => next = state
  | .mute => pending next.temp = [] ∧
      ∃ out : List Sample, (∀ item ∈ out, item = zero) ∧ next.handed = state.handed ++ out.map (state.drops, ·)
  | .resetRecord => pending next.temp = [] ∧ next.handed = state.handed
  | .resetPlayback => pending next.temp = [] ∧ next.handed = state.handed
  | .record raw => next.handed = state.handed ∧
      (getWriteSpace state.temp.recordWritePointer state.temp.playbackReadPointer ≤ saveDistanceMin ∧
          next.temp = state.temp ∨
        pending next.temp = pending state.temp ++ raw)
  | .play raw => ∃ out, next.handed = state.handed ++ out.map (state.drops, ·) ∧
      ((pending state.temp).length ≤ saveDistanceMin ∧ out = raw ∧
          pending next.temp = straight state.temp.tempBuffer midBufferDistance (tempBufferSize - midBufferDistance) ∨
        out.length = raw.length ∧ pending state.temp = out ++ pending next.temp)

theorem pending_empty (temp : Temp Sample) (met : temp.recordWritePointer = temp.playbackReadPointer) :
    pending temp = [] := by
  rw [pending, getReadSpace, met, if_pos (Nat.le_refl _), Nat.sub_self]
  rfl

theorem record_pending (temp next : Temp Sample) (raw : List Sample) (inside : Inside temp)
    (sized : raw.length ≤ saveDistanceMin)
    (space : ¬getWriteSpace temp.recordWritePointer temp.playbackReadPointer ≤ saveDistanceMin)
    (laid : Overlaid tempBufferSize temp.tempBuffer temp.recordWritePointer raw next.tempBuffer)
    (write : next.recordWritePointer = around tempBufferSize temp.recordWritePointer raw.length)
    (read : next.playbackReadPointer = temp.playbackReadPointer) :
    getReadSpace next.recordWritePointer next.playbackReadPointer =
        getReadSpace temp.recordWritePointer temp.playbackReadPointer + raw.length ∧
      pending next = pending temp ++ raw := by
  have less := read_space_lt temp inside
  have place := write_pointer_eq temp inside
  rw [write_space_eq temp inside] at space
  generalize many : getReadSpace temp.recordWritePointer temp.playbackReadPointer = count at less place space
  have room : count + raw.length < tempBufferSize := by omega
  rw [place] at laid write
  rw [around_add _ _ _ _ inside.read (Nat.le_of_lt room)] at write
  have space := read_space_of next.recordWritePointer temp.playbackReadPointer _ room inside.read write
  refine ⟨by rw [read, space], ?_⟩
  rw [pending, pending, read, space, many, window_add _ _ _ _ _ inside.read (Nat.le_of_lt room),
    window_before _ _ _ _ _ _ inside.read (Nat.le_of_lt room) laid, window_overlaid _ _ _ _ _ laid]

theorem play_pending (temp next : Temp Sample) (count : Nat) (inside : Inside temp) (sized : count ≤ saveDistanceMin)
    (space : ¬getReadSpace temp.recordWritePointer temp.playbackReadPointer ≤ saveDistanceMin)
    (laid : Overlaid tempBufferSize temp.tempBuffer temp.playbackReadPointer (List.replicate count zero) next.tempBuffer)
    (write : next.recordWritePointer = temp.recordWritePointer)
    (read : next.playbackReadPointer = around tempBufferSize temp.playbackReadPointer count) :
    getReadSpace temp.recordWritePointer temp.playbackReadPointer =
        count + getReadSpace next.recordWritePointer next.playbackReadPointer ∧
      pending temp = window tempBufferSize temp.tempBuffer temp.playbackReadPointer count ++ pending next := by
  have less := read_space_lt temp inside
  have place := write_pointer_eq temp inside
  generalize many : getReadSpace temp.recordWritePointer temp.playbackReadPointer = whole at less place space
  obtain ⟨rest, split⟩ := Nat.exists_eq_add_of_le (Nat.le_trans sized (Nat.le_of_not_le space))
  have room : (List.replicate count zero).length + rest ≤ tempBufferSize := by
    rw [List.length_replicate]
    omega
  have behind := window_behind _ _ _ _ rest _ inside.read room laid
  rw [List.length_replicate] at behind
  rw [split, ← around_add _ _ _ _ inside.read (by omega), ← read, ← write] at place
  have left := read_space_of next.recordWritePointer next.playbackReadPointer rest (by omega)
    (read ▸ around_lt _ _ _ inside.read (by omega)) place
  refine ⟨by rw [left, split], ?_⟩
  rw [pending, pending, many, left, split, window_add _ _ _ _ _ inside.read (by omega), read, behind]

theorem underrun_space : getReadSpace 0 midBufferDistance = tempBufferSize - midBufferDistance := by
  have middle := mid_buffer_distance
  rw [getReadSpace, if_neg (by omega), Nat.sub_zero]

theorem underrun_pending (tempBuffer : Nat → Sample) :
    pending ⟨tempBuffer, 0, midBufferDistance⟩ = straight tempBuffer midBufferDistance (tempBufferSize - midBufferDistance) := by
  have size := temp_buffer_size
  have middle := mid_buffer_distance
  have room : midBufferDistance + (tempBufferSize - midBufferDistance) ≤ tempBufferSize := by omega
  rw [pending, underrun_space]
  exact window_straight _ _ _ _ room

theorem step_moves (state : State Sample) (op : Op Sample) (inside : Inside state.temp) (sized : op.Sized) :
    ∃ next, step zero state op = some next ∧ Inside next.temp ∧ Moves zero state op next := by
  have size := temp_buffer_size
  cases op with
  | create memory => exact ⟨state, rfl, inside, rfl⟩
  | mute =>
      obtain ⟨next, out, done, silent, _, write, read⟩ := mute_spec zero state.temp
      refine ⟨⟨next, state.captured, state.handed ++ out.map (state.drops, ·), state.drops + 1⟩, ?_, ?_, ?_⟩
      · rw [step, done]
        rfl
      · exact ⟨write ▸ inside.write, read ▸ inside.write⟩
      · exact ⟨pending_empty next (write.trans read.symm), out, silent, rfl⟩
  | resetRecord => exact ⟨_, rfl, ⟨inside.read, inside.read⟩, pending_empty _ rfl, rfl⟩
  | resetPlayback => exact ⟨_, rfl, ⟨inside.write, inside.write⟩, pending_empty _ rfl, rfl⟩
  | record raw =>
      by_cases space : getWriteSpace state.temp.recordWritePointer state.temp.playbackReadPointer ≤ saveDistanceMin
      · refine ⟨⟨state.temp, state.captured ++ raw, state.handed, state.drops⟩, ?_, inside, rfl, Or.inl ⟨space, rfl⟩⟩
        rw [step, recorderCallback, if_pos space]
        rfl
      · obtain ⟨next, done, laid, write, read⟩ := record_spec state.temp raw inside sized space
        have margin := save_distance_min
        have small : raw.length ≤ tempBufferSize := by
          have fits : raw.length ≤ saveDistanceMin := sized
          omega
        refine ⟨⟨next, state.captured ++ raw, state.handed, state.drops⟩, ?_, ?_, rfl, Or.inr ?_⟩
        · rw [step, done]
          rfl
        · exact ⟨write ▸ around_lt _ _ _ inside.write small, read ▸ inside.read⟩
        · exact (record_pending state.temp next raw inside sized space laid write read).2
  | play raw =>
      by_cases space : getReadSpace state.temp.recordWritePointer state.temp.playbackReadPointer ≤ saveDistanceMin
      · refine ⟨⟨⟨state.temp.tempBuffer, 0, midBufferDistance⟩, state.captured,
          state.handed ++ raw.map (state.drops, ·), state.drops⟩, ?_, ?_, raw, rfl, Or.inl ⟨?_, rfl, ?_⟩⟩
        · rw [step, trackerCallback, if_pos space]
          rfl
        · exact ⟨(by decide : 0 < tempBufferSize), (by decide : midBufferDistance < tempBufferSize)⟩
        · rw [pending, window_length]
          exact space
        · exact underrun_pending state.temp.tempBuffer
      · obtain ⟨next, done, laid, write, read⟩ := play_spec zero state.temp raw inside sized space
        have margin := save_distance_min
        have small : raw.length ≤ tempBufferSize := by
          have fits : raw.length ≤ saveDistanceMin := sized
          omega
        refine ⟨⟨next, state.captured, state.handed ++ (window tempBufferSize state.temp.tempBuffer
          state.temp.playbackReadPointer raw.length).map (state.drops, ·), state.drops⟩, ?_, ?_, _, rfl, Or.inr ⟨?_, ?_⟩⟩
        · rw [step, done]
          rfl
        · exact ⟨write ▸ inside.write, read ▸ around_lt _ _ _ inside.read small⟩
        · exact window_length _ _ _ _
        · exact (play_pending zero state.temp next raw.length inside sized space laid write read).2

end

end Droidlogic.Core.AudioRing
