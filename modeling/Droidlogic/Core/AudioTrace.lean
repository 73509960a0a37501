import Droidlogic.Core.AudioTags

set_option autoImplicit false

namespace Droidlogic.Core.AudioRing

open Lib Lib.Ring

section
variable (memory : Nat → Int16)

structure Traced (state : State Tagged) : Prop where
  source : ∀ i < tempBufferSize, InRing memory state.captured i (state.temp.tempBuffer i)
  earlier : ∀ i < tempBufferSize, ∀ drops n,
    (state.temp.tempBuffer i).origin = .recorded drops n → drops ≤ state.drops
  apart : ∀ i < tempBufferSize, ∀ k < tempBufferSize, ∀ n,
    number (state.temp.tempBuffer i) = some n → number (state.temp.tempBuffer k) = some n → i = k
  unplayed : ∀ i < tempBufferSize, ∀ n, number (state.temp.tempBuffer i) = some n → n ∉ numbers state.handed
  handed : ∀ entry ∈ state.handed, Sourced memory state.captured entry.2
  once : (numbers state.handed).Nodup

-- The recorded samples that wait stand in order behind those that were played. The others that
-- no mute or reset dropped lie where an underrun takes the recorder to.
structure Queued (state : State Tagged) : Prop where
  queue : (inTime state.handed ++ (pending state.temp).filterMap (current state.drops)).Pairwise (· < ·)
  aside : ∀ i < tempBufferSize,
    (∀ j < getReadSpace state.temp.recordWritePointer state.temp.playbackReadPointer,
      around tempBufferSize state.temp.playbackReadPointer j ≠ i) →
    ∀ n, current state.drops (state.temp.tempBuffer i) = some n → i < midBufferDistance

structure Inv (state : State Tagged) : Prop where
  inside : Inside state.temp
  traced : Traced memory state
  queued : Queued state

end

section
variable {memory : Nat → Int16}

theorem Inv.played (state : State Tagged) (inv : Inv memory state) : Played memory state :=
  ⟨inv.inside, inv.traced.source, inv.traced.handed, inv.traced.once, (List.pairwise_append.mp inv.queued.queue).1⟩

-- A step that silences cells and hands out nothing that is recorded.
theorem traced_quiet (state next : State Tagged) (extra : List Tagged) (traced : Traced memory state)
    (captured : next.captured = state.captured) (handed : next.handed = state.handed ++ extra.map (state.drops, ·))
    (plain : ∀ sample ∈ extra, number sample = none ∧ Sourced memory state.captured sample) (drops : state.drops ≤ next.drops)
    (cells : ∀ i < tempBufferSize,
      next.temp.tempBuffer i = state.temp.tempBuffer i ∨ next.temp.tempBuffer i = silent) : Traced memory next := by
  have same : numbers next.handed = numbers state.handed := by
    rw [handed, numbers_append, List.filterMap_eq_nil_iff.mpr fun sample member => (plain sample member).1, List.append_nil]
  have old (i : Nat) (inside : i < tempBufferSize) (n : Nat) (found : number (next.temp.tempBuffer i) = some n) :
      next.temp.tempBuffer i = state.temp.tempBuffer i :=
    (cells i inside).resolve_right fun quiet => by
      rw [quiet] at found
      cases found
  constructor
  · intro i inside
    rw [captured]
    rcases cells i inside with same | quiet
    · rw [same]
      exact traced.source i inside
    · rw [quiet]
      exact silent_in_ring _ i
  · intro i inside before n origin
    have there := old i inside n ((number_some _ n).mpr ⟨before, origin⟩)
    rw [there] at origin
    exact Nat.le_trans (traced.earlier i inside before n origin) drops
  · intro i inside k within n first second
    rw [old i inside n first] at first
    rw [old k within n second] at second
    exact traced.apart i inside k within n first second
  · intro i inside n found
    rw [same]
    rw [old i inside n found] at found
    exact traced.unplayed i inside n found
  · intro entry member
    rw [captured]
    rw [handed] at member
    rcases List.mem_append.mp member with old | new
    · exact traced.handed entry old
    · obtain ⟨sample, among, rfl⟩ := List.mem_map.mp new
      exact (plain sample among).2
  · rw [same]
    exact traced.once

-- After a mute or a reset nothing is pending, and what is in the buffer was dropped.
theorem queued_dropped (state next : State Tagged) (traced : Traced memory state) (queued : Queued state)
    (empty : pending next.temp = []) (kept : inTime next.handed = inTime state.handed) (drops : next.drops = state.drops + 1)
    (cells : ∀ i < tempBufferSize,
      next.temp.tempBuffer i = state.temp.tempBuffer i ∨ next.temp.tempBuffer i = silent) : Queued next := by
  constructor
  · rw [empty, kept, List.filterMap_nil, List.append_nil]
    exact (List.pairwise_append.mp queued.queue).1
  · intro i inside _ n found
    have origin := (current_some _ _ n).mp found
    rcases cells i inside with same | quiet
    · rw [same, drops] at origin
      exact absurd (traced.earlier i inside _ n origin) (Nat.not_succ_le_self _)
    · rw [quiet] at origin
      cases origin

theorem tags_length (drops count : Nat) (raw : List Int16) : (tags drops count raw).length = raw.length :=
  List.length_mapIdx

theorem tag_origin (drops count : Nat) (raw : List Int16) (j : Nat) (small : j < (tags drops count raw).length) :
    (tags drops count raw)[j].origin = .recorded drops (count + j) := by
  simp only [tags, List.getElem_mapIdx]

theorem tag_sourced (captured : List Tagged) (drops : Nat) (raw : List Int16) (j : Nat)
    (small : j < (tags drops captured.length raw).length) :
    Sourced memory (captured ++ tags drops captured.length raw) (tags drops captured.length raw)[j] := by
  have origin := tag_origin drops captured.length raw j small
  constructor
  · intro place same
    cases origin.symm.trans same
  · intro quiet
    cases origin.symm.trans quiet
  · intro before n same
    cases origin.symm.trans same
    rw [List.getElem?_append_right (Nat.le_add_right _ _), Nat.add_sub_cancel_left, List.getElem?_eq_getElem small]

theorem tags_current (drops count : Nat) (raw : List Int16) :
    (tags drops count raw).filterMap (current drops) = (List.range raw.length).map (count + ·) := by
  have each : (tags drops count raw).map (current drops) = ((List.range raw.length).map (count + ·)).map some := by
    apply List.ext_getElem
    · rw [List.length_map, tags_length, List.length_map, List.length_map, List.length_range]
    · intro j small _
      rw [List.length_map] at small
      rw [List.getElem_map, List.getElem_map, List.getElem_map, List.getElem_range]
      exact (current_some drops _ _).mpr (tag_origin drops count raw j small)
  have whole := congrArg (List.filterMap id) each
  rw [List.filterMap_map, List.filterMap_map, Function.id_comp, Function.id_comp, List.filterMap_some] at whole
  exact whole

theorem in_time_lt (state : State Tagged) (traced : Traced memory state) (n : Nat) (member : n ∈ inTime state.handed) :
    n < state.captured.length := by
  obtain ⟨entry, among, found⟩ := List.mem_filterMap.mp member
  exact number_lt _ _ n (traced.handed entry among) (number_of_current _ _ n found)

theorem numbers_lt (state : State Tagged) (traced : Traced memory state) (n : Nat) (member : n ∈ numbers state.handed) :
    n < state.captured.length := by
  obtain ⟨entry, among, found⟩ := List.mem_filterMap.mp member
  exact number_lt _ _ n (traced.handed entry among) found

theorem pending_cell (temp : Temp Tagged) (inside : Inside temp) (sample : Tagged) (member : sample ∈ pending temp) :
    ∃ i < tempBufferSize, temp.tempBuffer i = sample := by
  obtain ⟨j, among, same⟩ := List.mem_map.mp member
  have small := List.mem_range.mp among
  have less := read_space_lt temp inside
  exact ⟨_, around_lt _ _ j inside.read (by omega), same⟩

theorem record_traced (state : State Tagged) (next : Temp Tagged) (raw : List Int16) (traced : Traced memory state)
    (laid : Overlaid tempBufferSize state.temp.tempBuffer state.temp.recordWritePointer
      (tags state.drops state.captured.length raw) next.tempBuffer) :
    Traced memory ⟨next, state.captured ++ tags state.drops state.captured.length raw, state.handed, state.drops⟩ := by
  -- A cell is an old one with an old number, or a new one with the number of its place.
  have cell (i : Nat) (small : i < tempBufferSize) :
      next.tempBuffer i = state.temp.tempBuffer i ∨
        ∃ j < raw.length, around tempBufferSize state.temp.recordWritePointer j = i ∧
          (next.tempBuffer i).origin = .recorded state.drops (state.captured.length + j) ∧
          Sourced memory (state.captured ++ tags state.drops state.captured.length raw) (next.tempBuffer i) := by
    refine (overlaid_cases _ _ _ _ _ laid i small).imp_right fun ⟨j, below, place, same⟩ => ?_
    refine ⟨j, tags_length _ _ raw ▸ below, place, ?_, ?_⟩
    · rw [same]
      exact tag_origin _ _ raw j below
    · rw [same]
      exact tag_sourced _ _ raw j below
  have old (i : Nat) (small : i < tempBufferSize) (n : Nat) (found : number (state.temp.tempBuffer i) = some n) :
      n < state.captured.length := number_lt _ _ n (traced.source i small).sourced found
  have numbered (i j n : Nat) (origin : (next.tempBuffer i).origin = .recorded state.drops (state.captured.length + j))
      (found : number (next.tempBuffer i) = some n) : n = state.captured.length + j :=
    Option.some.inj (found.symm.trans ((number_some _ _).mpr ⟨_, origin⟩))
  constructor
  · intro i small
    rcases cell i small with same | ⟨j, _, _, origin, sourced⟩
    · exact same ▸ in_ring_append _ _ i _ (traced.source i small)
    · refine ⟨sourced, fun left => ?_, fun place given => ?_⟩
      · cases origin.symm.trans left
      · cases origin.symm.trans given
  · intro i small before n origin
    rcases cell i small with same | ⟨j, _, _, fresh, _⟩
    · rw [same] at origin
      exact traced.earlier i small before n origin
    · cases fresh.symm.trans origin
      exact Nat.le_refl _
  · intro i small k within n first second
    rcases cell i small with same | ⟨j, below, place, origin, _⟩
    · rcases cell k within with equal | ⟨l, under, spot, source, _⟩
      · rw [same] at first
        rw [equal] at second
        exact traced.apart i small k within n first second
      · rw [same] at first
        have less := old i small n first
        have later := numbered k l n source second
        omega
    · have later := numbered i j n origin first
      rcases cell k within with equal | ⟨l, under, spot, source, _⟩
      · rw [equal] at second
        have less := old k within n second
        omega
      · have both := numbered k l n source second
        have met : j = l := by omega
        rw [← place, ← spot, met]
  · intro i small n found member
    have less := numbers_lt state traced n member
    rcases cell i small with same | ⟨j, _, _, origin, _⟩
    · rw [same] at found
      exact traced.unplayed i small n found member
    · have later := numbered i j n origin found
      omega
  · exact fun entry member => sourced_append _ _ _ (traced.handed entry member)
  · exact traced.once

theorem record_queued (state : State Tagged) (next : Temp Tagged) (raw : List Int16) (traced : Traced memory state)
    (queued : Queued state) (inside : Inside state.temp)
    (laid : Overlaid tempBufferSize state.temp.tempBuffer state.temp.recordWritePointer
      (tags state.drops state.captured.length raw) next.tempBuffer)
    (read : next.playbackReadPointer = state.temp.playbackReadPointer)
    (space : getReadSpace next.recordWritePointer next.playbackReadPointer =
      getReadSpace state.temp.recordWritePointer state.temp.playbackReadPointer + raw.length)
    (room : getReadSpace state.temp.recordWritePointer state.temp.playbackReadPointer + raw.length ≤ tempBufferSize)
    (grown : pending next = pending state.temp ++ tags state.drops state.captured.length raw) :
    Queued ⟨next, state.captured ++ tags state.drops state.captured.length raw, state.handed, state.drops⟩ := by
  constructor
  · change (inTime state.handed ++ (pending next).filterMap (current state.drops)).Pairwise (· < ·)
    rw [grown, List.filterMap_append, tags_current, ← List.append_assoc, List.pairwise_append]
    refine ⟨queued.queue, ?_, ?_⟩
    · rw [List.pairwise_map]
      exact List.pairwise_lt_range.imp fun less => Nat.add_lt_add_left less _
    · intro a old b new
      obtain ⟨j, _, rfl⟩ := List.mem_map.mp new
      refine Nat.lt_of_lt_of_le ?_ (Nat.le_add_right _ _)
      rcases List.mem_append.mp old with played | waits
      · exact in_time_lt state traced a played
      · obtain ⟨sample, among, found⟩ := List.mem_filterMap.mp waits
        obtain ⟨i, small, rfl⟩ := pending_cell state.temp inside sample among
        exact number_lt _ _ a (traced.source i small).sourced (number_of_current _ _ a found)
  · intro i small free n found
    change ∀ j < getReadSpace next.recordWritePointer next.playbackReadPointer,
      around tempBufferSize next.playbackReadPointer j ≠ i at free
    rw [space, read] at free
    have same : next.tempBuffer i = state.temp.tempBuffer i := by
      apply laid.miss i small
      intro j below
      rw [tags_length] at below
      rw [write_pointer_eq state.temp inside, around_add _ _ _ _ inside.read (by omega)]
      exact free _ (by omega)
    exact queued.aside i small (fun j below => free j (by omega)) n (same ▸ found)

theorem replicate_cell (count : Nat) (cells next : Nat → Tagged) (place : Nat)
    (laid : Overlaid tempBufferSize cells place (List.replicate count silent) next) (i : Nat) (small : i < tempBufferSize) :
    next i = cells i ∨ next i = silent := by
  refine (overlaid_cases _ _ _ _ _ laid i small).imp_right fun ⟨_, _, _, same⟩ => ?_
  rw [same, List.getElem_replicate]

theorem play_traced (state : State Tagged) (next : Temp Tagged) (count : Nat) (traced : Traced memory state)
    (inside : Inside state.temp) (sized : count ≤ saveDistanceMin)
    (laid : Overlaid tempBufferSize state.temp.tempBuffer state.temp.playbackReadPointer (List.replicate count silent)
      next.tempBuffer) :
    Traced memory ⟨next, state.captured, state.handed ++ (window tempBufferSize state.temp.tempBuffer
      state.temp.playbackReadPointer count).map (state.drops, ·), state.drops⟩ := by
  have size := temp_buffer_size
  have margin := save_distance_min
  have within (j : Nat) (below : j < count) : around tempBufferSize state.temp.playbackReadPointer j < tempBufferSize :=
    around_lt _ _ j inside.read (by omega)
  have old (i : Nat) (small : i < tempBufferSize) (n : Nat) (found : number (next.tempBuffer i) = some n) :
      next.tempBuffer i = state.temp.tempBuffer i :=
    (replicate_cell count _ _ _ laid i small).resolve_right fun quiet => by
      rw [quiet] at found
      cases found
  constructor
  · intro i small
    rcases replicate_cell count _ _ _ laid i small with same | quiet
    · exact same ▸ traced.source i small
    · exact quiet ▸ silent_in_ring _ i
  · intro i small before n origin
    have there := old i small n ((number_some _ n).mpr ⟨before, origin⟩)
    rw [there] at origin
    exact traced.earlier i small before n origin
  · intro i small k below n first second
    rw [old i small n first] at first
    rw [old k below n second] at second
    exact traced.apart i small k below n first second
  · intro i small n found member
    rw [numbers_append] at member
    have here := found
    rw [old i small n found] at here
    rcases List.mem_append.mp member with before | now
    · exact traced.unplayed i small n here before
    · -- The cell it was played from is silent.
      obtain ⟨sample, among, same⟩ := List.mem_filterMap.mp now
      obtain ⟨j, range, rfl⟩ := List.mem_map.mp among
      have below := List.mem_range.mp range
      have place := traced.apart _ small _ (within j below) n here same
      have quiet := laid.hit j (by rw [List.length_replicate]; exact below)
      rw [← place, List.getElem_replicate] at quiet
      rw [quiet] at found
      cases found
  · intro entry member
    rcases List.mem_append.mp member with before | now
    · exact traced.handed entry before
    · obtain ⟨sample, among, rfl⟩ := List.mem_map.mp now
      obtain ⟨j, range, rfl⟩ := List.mem_map.mp among
      exact (traced.source _ (within j (List.mem_range.mp range))).sourced
  · rw [numbers_append, List.nodup_append']
    refine ⟨traced.once, ?_, ?_⟩
    · rw [window, List.filterMap_map, List.Nodup, List.pairwise_filterMap]
      refine List.nodup_range.imp_of_mem fun {a b} first second different n one m two same => different ?_
      have low := List.mem_range.mp first
      have high := List.mem_range.mp second
      have place := traced.apart _ (within a low) _ (within b high) n one (same ▸ two)
      exact around_injective _ _ a b (by omega) (by omega) place
    · intro n before now
      obtain ⟨sample, among, same⟩ := List.mem_filterMap.mp now
      obtain ⟨j, range, rfl⟩ := List.mem_map.mp among
      exact traced.unplayed _ (within j (List.mem_range.mp range)) n same before

theorem play_queued (state : State Tagged) (next : Temp Tagged) (count : Nat) (queued : Queued state)
    (inside : Inside state.temp)
    (laid : Overlaid tempBufferSize state.temp.tempBuffer state.temp.playbackReadPointer (List.replicate count silent)
      next.tempBuffer)
    (read : next.playbackReadPointer = around tempBufferSize state.temp.playbackReadPointer count)
    (space : getReadSpace state.temp.recordWritePointer state.temp.playbackReadPointer =
      count + getReadSpace next.recordWritePointer next.playbackReadPointer)
    (split : pending state.temp =
      window tempBufferSize state.temp.tempBuffer state.temp.playbackReadPointer count ++ pending next) :
    Queued ⟨next, state.captured, state.handed ++ (window tempBufferSize state.temp.tempBuffer
      state.temp.playbackReadPointer count).map (state.drops, ·), state.drops⟩ := by
  have less := read_space_lt state.temp inside
  constructor
  · change (inTime (state.handed ++ _) ++ (pending next).filterMap (current state.drops)).Pairwise (· < ·)
    have queue := queued.queue
    rw [split, List.filterMap_append] at queue
    rw [in_time_append, List.append_assoc]
    exact queue
  · intro i small free n found
    change ∀ j < getReadSpace next.recordWritePointer next.playbackReadPointer,
      around tempBufferSize next.playbackReadPointer j ≠ i at free
    have same : next.tempBuffer i = state.temp.tempBuffer i :=
      (replicate_cell count _ _ _ laid i small).resolve_right fun quiet => by
        change current state.drops (next.tempBuffer i) = some n at found
        rw [quiet] at found
        cases found
    refine queued.aside i small (fun j below place => ?_) n (same ▸ found)
    by_cases played : j < count
    · have quiet := laid.hit j (by rw [List.length_replicate]; exact played)
      rw [place, List.getElem_replicate] at quiet
      change current state.drops (next.tempBuffer i) = some n at found
      rw [quiet] at found
      cases found
    · obtain ⟨rest, rfl⟩ := Nat.exists_eq_add_of_le (Nat.le_of_not_lt played)
      refine free rest (by omega) ?_
      rw [read, around_add _ _ _ _ inside.read (by omega)]
      exact place

theorem straight_plain {Item : Type} (f : Item → Option Nat) (cells : Nat → Item) (start count : Nat)
    (plain : ∀ i, start ≤ i → i < start + count → f (cells i) = none) : (straight cells start count).filterMap f = [] := by
  apply List.filterMap_eq_nil_iff.mpr
  intro item member
  obtain ⟨j, range, rfl⟩ := List.mem_map.mp member
  exact plain _ (Nat.le_add_right _ _) (Nat.add_lt_add_left (List.mem_range.mp range) _)

-- The part of the buffer that an underrun leaves to play has no sample in time but those that
-- were pending there.
theorem underrun_sublist (state : State Tagged) (queued : Queued state) (inside : Inside state.temp)
    (few : getReadSpace state.temp.recordWritePointer state.temp.playbackReadPointer ≤ saveDistanceMin) :
    List.Sublist
      ((straight state.temp.tempBuffer midBufferDistance (tempBufferSize - midBufferDistance)).filterMap (current state.drops))
      ((pending state.temp).filterMap (current state.drops)) := by
  have size := temp_buffer_size
  have margin := save_distance_min
  have middle := mid_buffer_distance
  have read := inside.read
  have aside := queued.aside
  rw [pending]
  generalize getReadSpace state.temp.recordWritePointer state.temp.playbackReadPointer = count at few aside ⊢
  generalize state.temp.playbackReadPointer = place at read aside ⊢
  -- [low, low + both) is what was pending of the part that is left.
  obtain ⟨low, isLow⟩ : ∃ low, low = max midBufferDistance place := ⟨_, rfl⟩
  obtain ⟨both, isBoth⟩ : ∃ both, both = min (place + count) tempBufferSize - low := ⟨_, rfl⟩
  have free (i : Nat) (small : i < tempBufferSize) (least : midBufferDistance ≤ i) (out : i < low ∨ low + both ≤ i) :
      current state.drops (state.temp.tempBuffer i) = none := by
    cases found : current state.drops (state.temp.tempBuffer i) with
    | none => rfl
    | some n =>
        have below := aside i small (fun j waits same => by rw [around] at same; split at same <;> omega) n found
        omega
  have cut : tempBufferSize - midBufferDistance = (low - midBufferDistance) + (both + (tempBufferSize - low - both)) := by omega
  have first : midBufferDistance + (low - midBufferDistance) = low := by omega
  rw [cut, straight_add, first, straight_add, List.filterMap_append, List.filterMap_append,
    straight_plain _ _ _ _ fun i least most => free i (by omega) least (Or.inl (by omega)),
    straight_plain _ _ (low + both) _ fun i least most => free i (by omega) (by omega) (Or.inr least),
    List.nil_append, List.append_nil]
  by_cases none : both = 0
  · rw [none]
    exact List.nil_sublist _
  · have parts : count = (low - place) + (both + (count - (low - place) - both)) := by omega
    have reached : around tempBufferSize place (low - place) = low := by
      rw [around, if_pos (by omega)]
      omega
    rw [parts, window_add _ _ _ _ _ read (by omega), reached, window_add _ _ _ _ _ (by omega) (by omega),
      window_straight _ _ low both (by omega), List.filterMap_append, List.filterMap_append]
    exact (List.sublist_append_left _ _).trans (List.sublist_append_right _ _)

theorem underrun_queued (state : State Tagged) (raw : List Int16) (queued : Queued state) (inside : Inside state.temp)
    (few : getReadSpace state.temp.recordWritePointer state.temp.playbackReadPointer ≤ saveDistanceMin) :
    Queued ⟨⟨state.temp.tempBuffer, 0, midBufferDistance⟩, state.captured,
      state.handed ++ (raw.map (⟨·, .left⟩)).map (state.drops, ·), state.drops⟩ := by
  have size := temp_buffer_size
  have middle := mid_buffer_distance
  constructor
  · have plain : (raw.map fun value => (⟨value, .left⟩ : Tagged)).filterMap (current state.drops) = [] := by
      apply List.filterMap_eq_nil_iff.mpr
      intro sample member
      obtain ⟨value, _, rfl⟩ := List.mem_map.mp member
      rfl
    change (inTime (state.handed ++ _) ++ (pending ⟨_, 0, midBufferDistance⟩).filterMap (current state.drops)).Pairwise (· < ·)
    rw [in_time_append, plain, List.append_nil, underrun_pending]
    exact queued.queue.sublist ((List.Sublist.refl _).append (underrun_sublist state queued inside few))
  · intro i small free n _
    by_contra beyond
    have space := underrun_space
    refine free (i - midBufferDistance) ?_ ?_
    · change _ < getReadSpace 0 midBufferDistance
      omega
    · change around tempBufferSize midBufferDistance _ = i
      rw [around, if_pos (by omega)]
      omega

theorem sized_tagged (drops count : Nat) (op : Op Int16) (sized : op.Sized) : (op.tagged drops count).Sized := by
  cases op with
  | record raw => exact Nat.le_trans (Nat.le_of_eq (tags_length drops count raw)) sized
  | play raw => exact Nat.le_trans (Nat.le_of_eq (List.length_map _)) sized
  | _ => trivial

theorem mute_inv (state : State Tagged) (inv : Inv memory state) : ∃ next, traced state .mute = some next ∧ Inv memory next := by
  obtain ⟨inside, kept, queued⟩ := inv
  obtain ⟨next, out, done, quiet, laid, write, read⟩ := mute_spec silent state.temp
  have cells := replicate_cell _ _ _ _ laid
  have plain : ∀ sample ∈ out, number sample = none ∧ Sourced memory state.captured sample := fun sample member =>
    quiet sample member ▸ ⟨rfl, silent_sourced _⟩
  refine ⟨⟨next, state.captured, state.handed ++ out.map (state.drops, ·), state.drops + 1⟩, ?_, ?_, ?_, ?_⟩
  · rw [traced, Op.tagged, step, done]
    rfl
  · exact ⟨write ▸ inside.write, read ▸ inside.write⟩
  · exact traced_quiet state _ out kept rfl rfl plain (Nat.le_succ _) cells
  · have none := List.filterMap_eq_nil_iff.mpr fun sample member => current_none state.drops sample (plain sample member).1
    refine queued_dropped state _ kept queued (pending_empty next (write.trans read.symm)) ?_ rfl cells
    rw [in_time_append, none, List.append_nil]

-- A reset moves one position to the other.
theorem reset_inv (state : State Tagged) (position : Nat) (inv : Inv memory state) (small : position < tempBufferSize) :
    Inv memory ⟨⟨state.temp.tempBuffer, position, position⟩, state.captured, state.handed, state.drops + 1⟩ := by
  obtain ⟨inside, kept, queued⟩ := inv
  have calm (i : Nat) (_ : i < tempBufferSize) :
      state.temp.tempBuffer i = state.temp.tempBuffer i ∨ state.temp.tempBuffer i = silent := Or.inl rfl
  refine ⟨⟨small, small⟩, ?_, ?_⟩
  · exact traced_quiet state _ [] kept rfl (List.append_nil _).symm (fun _ none => absurd none List.not_mem_nil)
      (Nat.le_succ _) calm
  · exact queued_dropped state _ kept queued (pending_empty _ rfl) rfl rfl calm

theorem record_inv (state : State Tagged) (raw : List Int16) (inv : Inv memory state) (fits : raw.length ≤ saveDistanceMin) :
    ∃ next, traced state (.record raw) = some next ∧ Inv memory next := by
  have size := temp_buffer_size
  have margin := save_distance_min
  obtain ⟨inside, kept, queued⟩ := inv
  have short : (tags state.drops state.captured.length raw).length ≤ saveDistanceMin := by
    rw [tags_length]
    exact fits
  by_cases space : getWriteSpace state.temp.recordWritePointer state.temp.playbackReadPointer ≤ saveDistanceMin
  · refine ⟨⟨state.temp, state.captured ++ tags state.drops state.captured.length raw, state.handed, state.drops⟩,
      ?_, inside, ?_, queued.queue, queued.aside⟩
    · rw [traced, Op.tagged, step, recorderCallback, if_pos space]
      rfl
    · exact ⟨fun i small => in_ring_append _ _ i _ (kept.source i small), kept.earlier, kept.apart, kept.unplayed,
        fun entry member => sourced_append _ _ _ (kept.handed entry member), kept.once⟩
  · obtain ⟨next, done, laid, write, read⟩ := record_spec state.temp _ inside short space
    obtain ⟨space', grown⟩ := record_pending state.temp next _ inside short space laid write read
    rw [tags_length] at space'
    have less := write_space_eq state.temp inside
    refine ⟨⟨next, state.captured ++ tags state.drops state.captured.length raw, state.handed, state.drops⟩,
      ?_, ⟨?_, ?_⟩, ?_, ?_⟩
    · rw [traced, Op.tagged, step, done]
      rfl
    · exact write ▸ around_lt _ _ _ inside.write (by omega)
    · exact read ▸ inside.read
    · exact record_traced state next raw kept laid
    · exact record_queued state next raw kept queued inside laid read space' (by omega) grown

theorem play_inv (state : State Tagged) (raw : List Int16) (inv : Inv memory state) (fits : raw.length ≤ saveDistanceMin) :
    ∃ next, traced state (.play raw) = some next ∧ Inv memory next := by
  have size := temp_buffer_size
  have margin := save_distance_min
  obtain ⟨inside, kept, queued⟩ := inv
  have short : (raw.map fun value => (⟨value, .left⟩ : Tagged)).length ≤ saveDistanceMin := by
    rw [List.length_map]
    exact fits
  by_cases space : getReadSpace state.temp.recordWritePointer state.temp.playbackReadPointer ≤ saveDistanceMin
  · refine ⟨⟨⟨state.temp.tempBuffer, 0, midBufferDistance⟩, state.captured,
      state.handed ++ (raw.map (⟨·, .left⟩)).map (state.drops, ·), state.drops⟩, ?_, ⟨?_, ?_⟩, ?_, ?_⟩
    · rw [traced, Op.tagged, step, trackerCallback, if_pos space]
      rfl
    · exact (by decide : 0 < tempBufferSize)
    · exact (by decide : midBufferDistance < tempBufferSize)
    · refine traced_quiet state _ _ kept rfl rfl ?_ (Nat.le_refl _) fun _ _ => Or.inl rfl
      intro sample member
      obtain ⟨value, _, rfl⟩ := List.mem_map.mp member
      exact ⟨rfl, left_sourced _ value⟩
    · exact underrun_queued state raw queued inside space
  · obtain ⟨next, done, laid, write, read⟩ := play_spec silent state.temp _ inside short space
    obtain ⟨space', split⟩ := play_pending silent state.temp next _ inside short space laid write read
    refine ⟨⟨next, state.captured, state.handed ++ (window tempBufferSize state.temp.tempBuffer
      state.temp.playbackReadPointer (raw.map fun value => (⟨value, .left⟩ : Tagged)).length).map (state.drops, ·),
      state.drops⟩, ?_, ⟨?_, ?_⟩, ?_, ?_⟩
    · rw [traced, Op.tagged, step, done]
      rfl
    · exact write ▸ inside.write
    · exact read ▸ around_lt _ _ _ inside.read (by omega)
    · exact play_traced state next _ kept inside short laid
    · exact play_queued state next _ queued inside laid read space' split

theorem traced_inv (state : State Tagged) (op : Op Int16) (inv : Inv memory state) (sized : op.Sized) :
    ∃ next, traced state op = some next ∧ Inv memory next := by
  cases op with
  | create memory => exact ⟨state, rfl, inv⟩
  | mute => exact mute_inv state inv
  | resetRecord => exact ⟨_, rfl, reset_inv state _ inv inv.inside.read⟩
  | resetPlayback => exact ⟨_, rfl, reset_inv state _ inv inv.inside.write⟩
  | record raw => exact record_inv state raw inv sized
  | play raw => exact play_inv state raw inv sized

theorem ring_no_left (state : State Tagged) (inv : Inv memory state) (sample : Tagged)
    (member : sample ∈ pending state.temp) : sample.origin ≠ .left := by
  obtain ⟨i, small, rfl⟩ := pending_cell state.temp inv.inside sample member
  exact (inv.traced.source i small).ours

theorem leaves_own (state next : State Tagged) (op : Op Int16) (inv : Inv memory state)
    (moves : Moves silent state (op.tagged state.drops state.captured.length) next) : LeavesOwn state op next := by
  have nothing (same : next.handed = state.handed) : LeavesOwn state op next :=
    ⟨[], by rw [same, List.map_nil, List.append_nil], .inl fun _ none => absurd none List.not_mem_nil⟩
  cases op with
  | create memory => exact nothing (congrArg State.handed moves)
  | mute =>
      obtain ⟨_, out, quiet, handed⟩ := moves
      refine ⟨out, handed, .inl fun sample member => ?_⟩
      rw [quiet sample member]
      decide
  | resetRecord => exact nothing moves.2
  | resetPlayback => exact nothing moves.2
  | record raw => exact nothing moves.1
  | play raw =>
      obtain ⟨out, handed, ⟨few, own, _⟩ | ⟨_, split⟩⟩ := moves
      · exact ⟨out, handed, .inr ⟨raw, rfl, few, own⟩⟩
      · refine ⟨out, handed, .inl fun sample member => ring_no_left state inv sample ?_⟩
        rw [split]
        exact List.mem_append_left _ member

theorem traced_step (state : State Tagged) (op : Op Int16) (inv : Inv memory state) (sized : op.Sized) :
    ∃ next, traced state op = some next ∧ Inv memory next ∧
      Moves silent state (op.tagged state.drops state.captured.length) next := by
  obtain ⟨next, done, kept⟩ := traced_inv state op inv sized
  obtain ⟨other, same, _, moves⟩ := step_moves silent state (op.tagged state.drops state.captured.length) inv.inside
    (sized_tagged _ _ op sized)
  cases Option.some.inj (same.symm.trans done)
  exact ⟨_, done, kept, moves⟩

end

def opened (memory : Nat → Int16) : State Tagged := start fun i => ⟨memory i, .memory i⟩

theorem opened_inv (memory : Nat → Int16) : Inv memory (opened memory) := by
  have none (i n : Nat) (found : number ((opened memory).temp.tempBuffer i) = some n) : False := by cases found
  have first : 0 < tempBufferSize := by decide
  refine ⟨⟨first, first⟩, ⟨?_, ?_, ?_, ?_, ?_, List.nodup_nil⟩, ?_, ?_⟩
  · intro i _
    refine ⟨⟨?_, fun origin => (by cases origin), fun _ _ origin => by cases origin⟩, fun origin => (by cases origin), ?_⟩
    · intro place origin
      cases origin
      rfl
    · intro place origin
      cases origin
      rfl
  · intro i _ before n origin
    cases origin
  · exact fun i _ _ _ n found => (none i n found).elim
  · exact fun i _ n found => (none i n found).elim
  · exact fun entry member => absurd member List.not_mem_nil
  · rw [pending_empty _ rfl]
    exact List.Pairwise.nil
  · intro i _ _ n found
    cases found

theorem traced_run (memory : Nat → Int16) (ops : List (Op Int16)) (state : State Tagged) (inv : Inv memory state)
    (sized : ∀ op ∈ ops, op.Sized) :
    (∃ final, run traced state ops = some final ∧
        run (step 0) (state.map Tagged.value) ops = some (final.map Tagged.value)) ∧
      Along traced (fun state op next => Played memory next ∧ LeavesOwn state op next ∧
        Moves silent state (op.tagged state.drops state.captured.length) next) state ops := by
  induction ops generalizing state with
  | nil => exact ⟨⟨state, rfl, rfl⟩, trivial⟩
  | cons op rest ih =>
      obtain ⟨next, done, kept, moves⟩ := traced_step state op inv (sized op List.mem_cons_self)
      obtain ⟨⟨final, ran, same⟩, along⟩ := ih next kept fun op member => sized op (List.mem_cons_of_mem _ member)
      refine ⟨⟨final, ?_, ?_⟩, fun other taken => ?_⟩
      · rw [run, done]
        exact ran
      · rw [run, traced_value, done]
        exact same
      · cases Option.some.inj (done.symm.trans taken)
        exact ⟨⟨kept.played, leaves_own state next op inv moves, moves⟩, along⟩

theorem ring_kept (memory : Nat → Int16) (ops : List (Op Int16)) (sized : ∀ op ∈ ops, op.Sized) :
    (∃ final, run traced (opened memory) ops = some final ∧
        run (step 0) (start memory) ops = some (final.map Tagged.value)) ∧
      Along traced (fun state op next => Played memory next ∧ LeavesOwn state op next ∧
        Moves silent state (op.tagged state.drops state.captured.length) next) (opened memory) ops :=
  traced_run memory ops (opened memory) (opened_inv memory) sized

theorem ring_kept_two : ∃ final, run traced (opened fun _ => 0) [.record [1, 2], .play [0], .mute] = some final :=
  (ring_kept (fun _ => 0) [.record [1, 2], .play [0], .mute] (by simp [Op.Sized, saveDistanceMin])).1.imp fun _ ran => ran.1

-- An underrun moves the recorder back over a sample that was not played, and it is overwritten.
-- What the tracker held, and what new left in the buffer, is handed to it; and a sample that a
-- reset dropped is played after one that was recorded later.
theorem unplayed_overwritten :
    ((run traced (opened fun _ => 0) [.record [1]]).map fun state => (state.temp.tempBuffer 0, state.handed)) =
        some (⟨1, .recorded 0 0⟩, []) ∧
      ((run traced (opened fun _ => 0) [.record [1], .play [0], .record [2]]).map fun state =>
        (state.temp.tempBuffer 0, state.handed)) = some (⟨2, .recorded 0 1⟩, [(0, ⟨0, .left⟩)]) ∧
      ((run traced (opened fun _ => 5) [.play [7], .play [0]]).map fun state => state.handed) =
        some [(0, ⟨7, .left⟩), (0, ⟨5, .memory midBufferDistance⟩)] ∧
      ((run traced (opened fun _ => 0) [.play [0], .resetRecord, .record [1, 2], .play [0], .resetRecord, .record [3],
          .play [0], .play [0, 0]]).map fun state => numbers state.handed) = some [2, 1] := by
  decide +kernel

end Droidlogic.Core.AudioRing
