import Mathlib.Data.List.Forall2
import Droidlogic.Lib.Bytes
import Droidlogic.Lib.Run
import Droidlogic.Screen.Manager

set_option autoImplicit false

namespace Droidlogic.Screen.StreamRelay

open Lib

def bufferFlagCodecConfig : UInt32 := 2
def bufferFlagEos : UInt32 := 4

-- What dequeueOutputBuffer gives, with the bytes that stand in the slot at the offset.
structure Output where
  bufferIndex : Nat
  bytes : Bytes
  timeUs : Int64
  flags : UInt32
deriving DecidableEq

def Output.eos (output : Output) : Bool := output.flags &&& bufferFlagEos ≠ 0
def Output.codecConfig (output : Output) : Bool := output.flags &&& bufferFlagCodecConfig ≠ 0

-- timeUs is the entry of the meta data, none where there is no such entry.
structure ABuffer where
  bytes : Bytes
  timeUs : Option Int64
deriving DecidableEq

-- time is kKeyTime, none where it was set from a variable that has no value.
structure MediaBuffer where
  bytes : Bytes
  time : Option Int64
deriving DecidableEq

-- crashed is the access through a null pointer. dequeued has the outputs of the encoder,
-- last first, held the slots that it was not given back, and returned what read gave out.
structure State where
  mStarted : Bool
  mCSDbuffer : Option ABuffer
  mOutputBufferQueue : List ABuffer
  crashed : Bool
  dequeued : List Output
  held : List Nat
  returned : List MediaBuffer
deriving DecidableEq

def started : State := ⟨true, none, [], false, [], [], []⟩

def taken (s : State) (output : Output) : State :=
  { s with dequeued := output :: s.dequeued, held := output.bufferIndex :: s.held }

def prependCSD (accessUnit csdBuffer : ABuffer) : ABuffer := ⟨csdBuffer.bytes ++ accessUnit.bytes, none⟩

section
variable (isIDR : Bytes → Bool)

def queueOutput (s : State) (output : Output) : State :=
  let buffer : ABuffer := ⟨output.bytes, none⟩
  if output.codecConfig then
    { s with mCSDbuffer := some buffer, mOutputBufferQueue := s.mOutputBufferQueue ++ [buffer] }
  else if isIDR buffer.bytes then
    match s.mCSDbuffer with
    | none => { s with crashed := true }
    | some csd =>
        let unit := { prependCSD buffer csd with timeUs := some output.timeUs }
        { s with mOutputBufferQueue := s.mOutputBufferQueue ++ [unit] }
  else
    let unit := { buffer with timeUs := some output.timeUs }
    { s with mOutputBufferQueue := s.mOutputBufferQueue ++ [unit] }

def releaseOutputBuffer (s : State) (bufferIndex : Nat) : State := { s with held := s.held.erase bufferIndex }

-- answer is none where dequeueOutputBuffer fails.
def videoDequeueOutputBuffer (s : State) (answer : Option Output) : Int × State :=
  if !s.mStarted then (notOk, s)
  else
    match answer with
    | none => (notOk, s)
    | some output =>
        if output.eos then (notOk, taken s output)
        else
          let queued := queueOutput isIDR (taken s output) output
          (ok, if queued.crashed then queued else releaseOutputBuffer queued output.bufferIndex)

def read (s : State) : Int × State :=
  match s.mOutputBufferQueue with
  | [] => (notOk, s)
  | aBuffer :: rest =>
      (ok, { s with mOutputBufferQueue := rest, returned := s.returned ++ [⟨aBuffer.bytes, aBuffer.timeUs⟩] })

inductive Event
  | encoder (answer : Option Output)
  | read
  | stop
deriving DecidableEq

def step (s : State) (event : Event) : Option State :=
  if s.crashed then none
  else
    match event with
    | .encoder answer => some (videoDequeueOutputBuffer isIDR s answer).2
    | .read => some (read s).2
    | .stop => some { s with mStarted := false }

-- The bytes of the last codec config in a list of outputs, last first.
def latestConfig : List Output → Option Bytes
  | [] => none
  | output :: earlier => if !output.eos && output.codecConfig then some output.bytes else latestConfig earlier

def idr (output : Output) : Bool := !output.codecConfig && isIDR output.bytes

-- The buffers that the outputs are to become, in order.
def relay : List Output → List MediaBuffer
  | [] => []
  | output :: earlier =>
      if output.eos then relay earlier
      else
        let csd := if idr isIDR output then (latestConfig earlier).getD [] else []
        relay earlier ++ [⟨csd ++ output.bytes, some output.timeUs⟩]

-- What was read is the start of the stream, and the rest of it waits in the queue.
structure Relayed (s : State) : Prop where
  alive : s.crashed = false
  released : s.held = []
  inOrder : s.returned <+: relay isIDR s.dequeued
  whole : s.returned.length + s.mOutputBufferQueue.length = (relay isIDR s.dequeued).length

-- No output ends the stream, no IDR unit comes before a codec config, and none of the
-- codec configs is read.
def Plain (s : State) : Event → Prop
  | .encoder (some output) =>
      s.mStarted = true → output.eos = false ∧ (idr isIDR output = true → (latestConfig s.dequeued).isSome = true)
  | .read => ∀ buffer, s.mOutputBufferQueue.head? = some buffer → buffer.timeUs.isSome = true
  | _ => True

-- A buffer of the queue and what the stream has there. A codec config has no time.
structure Waits (buffer : ABuffer) (unit : MediaBuffer) : Prop where
  bytes : buffer.bytes = unit.bytes
  time : unit.time ≠ none
  same : ∀ time, buffer.timeUs = some time → unit.time = some time

structure Inv (s : State) : Prop where
  alive : s.crashed = false
  released : s.held = []
  csd : s.mCSDbuffer.map ABuffer.bytes = latestConfig s.dequeued
  stream : ∃ pending, relay isIDR s.dequeued = s.returned ++ pending ∧ List.Forall₂ Waits s.mOutputBufferQueue pending

theorem inv_relayed (s : State) (inv : Inv isIDR s) : Relayed isIDR s := by
  obtain ⟨pending, stream, waits⟩ := inv.stream
  refine ⟨inv.alive, inv.released, stream ▸ List.prefix_append _ _, ?_⟩
  rw [stream, List.length_append, waits.length_eq]

theorem relay_cons (output : Output) (earlier : List Output) (going : output.eos = false) :
    relay isIDR (output :: earlier) =
      relay isIDR earlier ++
        [⟨(if idr isIDR output then (latestConfig earlier).getD [] else []) ++ output.bytes, some output.timeUs⟩] := by
  rw [relay, going, if_neg nofun]

-- The stream grows by one buffer, which is put behind the queue.
theorem stream_grows (s : State) (output : Output) (buffer : ABuffer) (going : output.eos = false)
    (stream : ∃ pending, relay isIDR s.dequeued = s.returned ++ pending ∧ List.Forall₂ Waits s.mOutputBufferQueue pending)
    (bytes : buffer.bytes = (if idr isIDR output then (latestConfig s.dequeued).getD [] else []) ++ output.bytes)
    (time : ∀ time, buffer.timeUs = some time → time = output.timeUs) :
    ∃ pending, relay isIDR (output :: s.dequeued) = s.returned ++ pending ∧
      List.Forall₂ Waits (s.mOutputBufferQueue ++ [buffer]) pending := by
  obtain ⟨pending, whole, waits⟩ := stream
  refine ⟨pending ++ [⟨buffer.bytes, some output.timeUs⟩], ?_, ?_⟩
  · rw [relay_cons isIDR output s.dequeued going, whole, bytes, List.append_assoc]
  · exact List.rel_append waits (.cons ⟨rfl, nofun, fun t its => congrArg some (time t its).symm⟩ .nil)

-- What is queued for an output, and what the codec config is after it.
structure Queued (s : State) (output : Output) (csd : Option ABuffer) (buffer : ABuffer) : Prop where
  bytes : buffer.bytes = (if idr isIDR output then (s.mCSDbuffer.map ABuffer.bytes).getD [] else []) ++ output.bytes
  time : ∀ time, buffer.timeUs = some time → time = output.timeUs
  csd : csd.map ABuffer.bytes = if output.codecConfig then some output.bytes else s.mCSDbuffer.map ABuffer.bytes

theorem queue_output_cases (s : State) (output : Output) :
    (idr isIDR output = true ∧ s.mCSDbuffer = none ∧ queueOutput isIDR s output = { s with crashed := true }) ∨
      (idr isIDR output = true → s.mCSDbuffer.isSome = true) ∧
        ∃ csd buffer, Queued isIDR s output csd buffer ∧
          queueOutput isIDR s output =
            { s with mCSDbuffer := csd, mOutputBufferQueue := s.mOutputBufferQueue ++ [buffer] } := by
  rw [queueOutput]
  by_cases config : output.codecConfig = true
  · have plain : idr isIDR output = false := by rw [idr, config, Bool.not_true, Bool.false_and]
    rw [if_pos config, plain]
    refine .inr ⟨nofun, some ⟨output.bytes, none⟩, ⟨output.bytes, none⟩, ⟨?_, nofun, (if_pos config).symm⟩, rfl⟩
    rw [plain, if_neg nofun, List.nil_append]
  · have bare : output.codecConfig = false := Bool.eq_false_iff.mpr config
    have same : idr isIDR output = isIDR output.bytes := by rw [idr, bare, Bool.not_false, Bool.true_and]
    rw [if_neg config, same]
    by_cases first : isIDR output.bytes = true
    · rw [if_pos first, first]
      cases csd : s.mCSDbuffer with
      | none => exact .inl ⟨rfl, rfl, rfl⟩
      | some header =>
          refine .inr ⟨fun _ => rfl, some header, ⟨header.bytes ++ output.bytes, some output.timeUs⟩, ⟨?_, ?_, ?_⟩, rfl⟩
          · rw [same, if_pos first, csd]
            rfl
          · rintro _ ⟨⟩
            rfl
          · rw [if_neg config, csd]
    · rw [if_neg first]
      refine .inr ⟨fun asked => absurd asked first, s.mCSDbuffer, ⟨output.bytes, some output.timeUs⟩, ⟨?_, ?_, ?_⟩, rfl⟩
      · rw [same, if_neg first, List.nil_append]
      · rintro _ ⟨⟩
        rfl
      · rw [if_neg config]

theorem encoder_next (s : State) (output : Output) (on : s.mStarted = true) :
    (videoDequeueOutputBuffer isIDR s (some output)).2 =
      if output.eos then taken s output
      else if (queueOutput isIDR (taken s output) output).crashed then queueOutput isIDR (taken s output) output
      else releaseOutputBuffer (queueOutput isIDR (taken s output) output) output.bufferIndex := by
  have going : ¬(!s.mStarted) = true := by
    rw [on]
    nofun
  rw [videoDequeueOutputBuffer, if_neg going]
  dsimp only
  split <;> rfl

theorem encoder_step (s : State) (output : Output) (inv : Inv isIDR s) (on : s.mStarted = true) :
    (Relayed isIDR (videoDequeueOutputBuffer isIDR s (some output)).2 ↔ Plain isIDR s (.encoder (some output))) ∧
      (Plain isIDR s (.encoder (some output)) → Inv isIDR (videoDequeueOutputBuffer isIDR s (some output)).2) := by
  rw [encoder_next isIDR s output on]
  by_cases eos : output.eos = true
  · have ended : ¬Plain isIDR s (.encoder (some output)) := by
      intro plain
      have going := (plain on).1
      rw [eos] at going
      cases going
    rw [if_pos eos]
    refine ⟨iff_of_false (fun relayed => ?_) ended, fun plain => absurd plain ended⟩
    exact absurd relayed.released (List.cons_ne_nil _ _)
  · have going : output.eos = false := Bool.eq_false_iff.mpr eos
    rw [if_neg eos]
    rcases queue_output_cases isIDR (taken s output) output with ⟨first, missing, crashes⟩ | ⟨ready, csd, buffer, queued, same⟩
    · have early : ¬Plain isIDR s (.encoder (some output)) := by
        intro plain
        have known := (plain on).2 first
        have nothing : s.mCSDbuffer = none := missing
        rw [← inv.csd, nothing] at known
        cases known
      rw [crashes, if_pos rfl]
      refine ⟨iff_of_false (fun relayed => ?_) early, fun plain => absurd plain early⟩
      cases relayed.alive
    · have plain : Plain isIDR s (.encoder (some output)) := by
        refine fun _ => ⟨going, fun first => ?_⟩
        rw [← inv.csd, Option.isSome_map]
        exact ready first
      have held : [output.bufferIndex].erase output.bufferIndex = [] := List.erase_cons_head _ _
      have next : Inv isIDR (releaseOutputBuffer
          { taken s output with mCSDbuffer := csd, mOutputBufferQueue := s.mOutputBufferQueue ++ [buffer] }
          output.bufferIndex) := by
        refine ⟨inv.alive, ?_, ?_, ?_⟩
        · rw [releaseOutputBuffer]
          dsimp only [taken]
          rw [inv.released, held]
        · show csd.map ABuffer.bytes = latestConfig (output :: s.dequeued)
          rw [latestConfig, going, Bool.not_false, Bool.true_and, ← inv.csd]
          exact queued.csd
        · exact stream_grows isIDR s output buffer going inv.stream (inv.csd ▸ queued.bytes) queued.time
      have alive : ¬(taken s output).crashed = true := by
        rw [taken, inv.alive]
        nofun
      rw [same, if_neg alive]
      exact ⟨iff_of_true (inv_relayed isIDR _ next) plain, fun _ => next⟩

theorem read_step (s : State) (inv : Inv isIDR s) :
    (Relayed isIDR (read s).2 ↔ Plain isIDR s .read) ∧ (Plain isIDR s .read → Inv isIDR (read s).2) := by
  rw [read]
  cases queue : s.mOutputBufferQueue with
  | nil =>
      have plain : Plain isIDR s .read := by
        intro buffer front
        rw [queue] at front
        cases front
      exact ⟨iff_of_true (inv_relayed isIDR s inv) plain, fun _ => inv⟩
  | cons buffer rest =>
      obtain ⟨pending, stream, waits⟩ := inv.stream
      rw [queue] at waits
      cases waits with
      | @cons _ unit _ units first later =>
          have asked : Plain isIDR s .read ↔ buffer.timeUs.isSome = true := by
            rw [Plain, queue, List.head?_cons]
            simp only [Option.some.injEq, forall_eq']
          rw [asked]
          dsimp only
          cases time : buffer.timeUs with
          | none =>
              refine ⟨iff_of_false (fun relayed => ?_) nofun, nofun⟩
              have order := relayed.inOrder
              dsimp only at order
              rw [stream] at order
              have head := (List.prefix_append_right_inj s.returned).mp order
              rw [List.cons_prefix_cons] at head
              exact first.time (head.1 ▸ rfl)
          | some t =>
              have its : (⟨buffer.bytes, some t⟩ : MediaBuffer) = unit := by
                rw [first.bytes, ← first.same t time]
              have next : Inv isIDR { s with
                  mOutputBufferQueue := rest, returned := s.returned ++ [⟨buffer.bytes, some t⟩] } := by
                refine ⟨inv.alive, inv.released, inv.csd, units, ?_, later⟩
                rw [stream, its, List.append_assoc, List.singleton_append]
              exact ⟨iff_of_true (inv_relayed isIDR _ next) rfl, fun _ => next⟩

theorem step_both (s : State) (event : Event) (next : State) (inv : Inv isIDR s) (done : step isIDR s event = some next) :
    (Relayed isIDR next ↔ Plain isIDR s event) ∧ (Plain isIDR s event → Inv isIDR next) := by
  have alive : ¬s.crashed = true := by
    rw [inv.alive]
    nofun
  rw [step.eq_def, if_neg alive] at done
  have unchanged (plain : Plain isIDR s event) : (Relayed isIDR s ↔ Plain isIDR s event) ∧ (Plain isIDR s event → Inv isIDR s) :=
    ⟨iff_of_true (inv_relayed isIDR s inv) plain, fun _ => inv⟩
  cases event with
  | encoder answer =>
      rw [← Option.some.inj done]
      cases answer with
      | none =>
          rw [videoDequeueOutputBuffer]
          split <;> exact unchanged trivial
      | some output =>
          by_cases on : s.mStarted = true
          · exact encoder_step isIDR s output inv on
          · have off : (!s.mStarted) = true := by rw [Bool.eq_false_iff.mpr on, Bool.not_false]
            rw [videoDequeueOutputBuffer, if_pos off]
            exact unchanged fun started => absurd started on
  | read =>
      rw [← Option.some.inj done]
      exact read_step isIDR s inv
  | stop =>
      rw [← Option.some.inj done]
      have next : Inv isIDR { s with mStarted := false } := ⟨inv.alive, inv.released, inv.csd, inv.stream⟩
      exact ⟨iff_of_true (inv_relayed isIDR _ next) trivial, fun _ => next⟩

theorem stream_relayed_iff (events : List Event) :
    Along (step isIDR) (fun _ _ next => Relayed isIDR next) started events ↔
      Along (step isIDR) (fun s event _ => Plain isIDR s event) started events := by
  refine along_iff (step isIDR) (Inv isIDR) _ _ ?_ ?_ started events ⟨rfl, rfl, rfl, [], rfl, .nil⟩
  · exact fun s event next inv done plain => (step_both isIDR s event next inv done).2 plain
  · exact fun s event next inv done => (step_both isIDR s event next inv done).1

end

def header : Output := ⟨0, [0, 0, 0, 1, 0x67], 1000, bufferFlagCodecConfig⟩
def keyFrame : Output := ⟨1, [0, 0, 0, 1, 0x65], 2000, 0⟩
def lastOutput : Output := ⟨2, [], 3000, bufferFlagEos⟩

def naluIDR (bytes : Bytes) : Bool := bytes.getD 4 0 &&& 0x1F = 5

-- A codec config has no time when it is read, the slot of the last output stays with the
-- convertor, and a key frame without a codec config goes through a null pointer.
theorem header_has_no_time :
    ¬Along (step naluIDR) (fun _ _ next => Relayed naluIDR next) started [.encoder (some header), .read] ∧
      ¬Along (step naluIDR) (fun _ _ next => Relayed naluIDR next) started [.encoder (some lastOutput)] ∧
        ¬Along (step naluIDR) (fun _ _ next => Relayed naluIDR next) started [.encoder (some keyFrame)] := by
  refine ⟨fun along => ?_, fun along => ?_, fun along => ?_⟩
  · have order := ((along _ rfl).2 _ rfl).1.inOrder
    exact absurd order (by decide)
  · exact absurd (along _ rfl).1.released (by decide)
  · exact absurd (along _ rfl).1.alive (by decide)

end Droidlogic.Screen.StreamRelay
