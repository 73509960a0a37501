import Droidlogic.Lib.Retry
import Droidlogic.Lib.Run
import Droidlogic.Bootenv.Durability
import Mathlib.Data.Nat.Find

set_option autoImplicit false

namespace Droidlogic.Bootenv.Pointers

open Droidlogic.Lib

-- mEnvData.image. A dangling one is not NULL and has been freed, or was never set.
inductive ImagePtr
  | null
  | dangling
  | live (device : EnvDevice) (image : EnvImage device)

-- attributes is none while mEnvAttrHeader has not been set.
structure Ubootenv where
  mEnvData : ImagePtr
  attributes : Option (List EnvAttribute)
  mEnvInitDone : Bool

-- A short read leaves something in the image.
inductive Attempt (device : EnvDevice)
  | openFailed
  | mallocFailed
  | shortRead (image : EnvImage device)
  | whole (image : EnvImage device)

-- What init() meets: the device node, the MTD layer's answers and up to five reads.
structure Load where
  device : EnvDevice
  query : MtdQuery
  reads : Nat → Attempt device

-- free(): nothing for NULL, undefined for a pointer that is not one of malloc's.
def freeImage : ImagePtr → Option ImagePtr
  | .null => some .null
  | .dangling => none
  | .live _ _ => some .dangling

section
variable (crc32 : Bytes → UInt32)

def readPartitionData (env : Ubootenv) {device : EnvDevice} : Attempt device → Option (Int × Ubootenv)
  | .openFailed => some (-1, env)
  | .mallocFailed => some (-2, env)
  | .shortRead image => some (-5, { env with mEnvData := .live device image })
  | .whole image =>
      if crc32 image.data ≠ image.crc then some (-3, { env with mEnvData := .live device image })
      else
        (parseAttribute image.data).map fun attrs =>
          (0, { env with mEnvData := .live device image, attributes := some attrs })

-- if (ret < -2) free(mEnvData.image)
def readOnce {device : EnvDevice} (reads : Nat → Attempt device) (i : Nat) (env : Ubootenv) :
    Option (Int × Ubootenv) :=
  (readPartitionData crc32 env (reads i)).bind fun (ret, next) =>
    if ret < -2 then (freeImage next.mEnvData).map fun image => (ret, { next with mEnvData := image })
    else some (ret, next)

def init (env : Ubootenv) (load : Load) : Option (Int × Ubootenv) :=
  if load.query.code load.device < 0 then some (load.query.code load.device, env)
  else
    (retry (readOnce crc32 load.reads) maxUbootRwretry 0 (-1) env).map fun (i, _, next) =>
      if i ≥ maxUbootRwretry then (-2, next) else (0, { next with mEnvInitDone := true })

-- What memory holds that an object is made in. The constructor sets the lock only.
structure Memory where
  imageIsNull : Bool
  attributes : Option (List EnvAttribute)
  mEnvInitDone : Bool

def Memory.object (memory : Memory) : Ubootenv :=
  ⟨if memory.imageIsNull then .null else .dangling, memory.attributes, memory.mEnvInitDone⟩

def construct (memory : Memory) (load : Load) : Option (Int × Ubootenv) := init crc32 memory.object load

-- What reInit frees before it calls init: the image, and the list that the header begins.
def released (env : Ubootenv) : Option Ubootenv :=
  match freeImage env.mEnvData, env.attributes with
  | some _, some _ => some { env with mEnvData := .null, attributes := some [.cleared] }
  | _, _ => none

-- Whatever init returns.
def reInit (env : Ubootenv) (load : Load) : Option (Int × Ubootenv) :=
  (released env).bind fun env => (init crc32 env load).map fun (_, next) => (0, next)

inductive Call
  | construct (memory : Memory) (load : Load)
  | reInit (load : Load)

def Call.load : Call → Load
  | .construct _ load => load
  | .reInit load => load

-- The call of init that is made.
def initCall (env : Option Ubootenv) : Call → Option (Int × Ubootenv)
  | .construct memory load => init crc32 memory.object load
  | .reInit load => (env.bind released).bind fun env => init crc32 env load

def step (env : Option Ubootenv) : Call → Option (Option Ubootenv)
  | .construct memory load => (construct crc32 memory load).map fun (_, next) => some next
  | .reInit load => env.bind fun env => (reInit crc32 env load).map fun (_, next) => some next

def matched {device : EnvDevice} : Attempt device → Bool
  | .whole image => crc32 image.data = image.crc
  | _ => false

def parses {device : EnvDevice} : Attempt device → Bool
  | .whole image => (parseAttribute image.data).isSome
  | _ => false

def Load.answered (load : Load) : Prop := ¬load.query.code load.device < 0

def Succeeds (load : Load) : Prop := load.answered ∧ ∃ i < maxUbootRwretry, matched crc32 (load.reads i) = true

def Initialised (env : Ubootenv) : Prop :=
  env.mEnvInitDone = true → ∃ device image attrs, env.mEnvData = .live device image ∧ crc32 image.data = image.crc ∧
    parseAttribute image.data = some attrs ∧ env.attributes = some attrs

-- The load is defined, tells whether it succeeded, and leaves what can be used.
def HonestLoad (result : Option (Int × Ubootenv)) (load : Load) : Prop :=
  ∃ ret next, result = some (ret, next) ∧ (ret = 0 ↔ Succeeds crc32 load) ∧ Initialised crc32 next

def Honest (env : Option Ubootenv) (event : Call) : Prop := HonestLoad crc32 (initCall crc32 env event) event.load

-- The first attempt that succeeds is not the last one, and its image is one that can be parsed.
def InTime (load : Load) : Prop :=
  load.answered → ∀ i < maxUbootRwretry, matched crc32 (load.reads i) = true →
    (∀ j < i, matched crc32 (load.reads j) = false) → i + 1 < maxUbootRwretry ∧ parses (load.reads i) = true

-- What reInit frees is live, or NULL.
def Releasable (env : Ubootenv) : Prop := (freeImage env.mEnvData).isSome = true ∧ env.attributes.isSome = true

-- A load that fails finds the flag clear.
def Careful (env : Option Ubootenv) : Call → Prop
  | .construct memory load => InTime crc32 load ∧ (memory.mEnvInitDone = true → Succeeds crc32 load)
  | .reInit load => InTime crc32 load ∧
      ∃ before, env = some before ∧ Releasable before ∧ (before.mEnvInitDone = true → Succeeds crc32 load)

def NotLive (image : ImagePtr) : Prop := ∀ device left, image ≠ .live device left

-- What a failed attempt leaves of an object whose flag was done.
def Unread (done : Bool) (env : Ubootenv) : Prop := env.mEnvInitDone = done ∧ NotLive env.mEnvData

theorem read_fails {device : EnvDevice} (reads : Nat → Attempt device) (done : Bool) (i : Nat) (env : Ubootenv)
    (fails : matched crc32 (reads i) = false) (unread : Unread done env) :
    ∃ ret next, readOnce crc32 reads i env = some (ret, next) ∧ ret < 0 ∧ Unread done next := by
  rw [readOnce]
  have freed : Unread done { env with mEnvData := .dangling } := ⟨unread.1, fun _ _ => ImagePtr.noConfusion⟩
  cases outcome : reads i with
  | openFailed => exact ⟨-1, env, rfl, by decide, unread⟩
  | mallocFailed => exact ⟨-2, env, rfl, by decide, unread⟩
  | shortRead image => exact ⟨-5, _, rfl, by decide, freed⟩
  | whole image =>
      rw [outcome, matched, decide_eq_false_iff_not] at fails
      refine ⟨-3, _, ?_, by decide, freed⟩
      rw [readPartitionData, if_pos fails]
      rfl

theorem read_wins {device : EnvDevice} (reads : Nat → Attempt device) (i : Nat) (env : Ubootenv)
    (wins : matched crc32 (reads i) = true) :
    ∃ image, crc32 image.data = image.crc ∧ parses (reads i) = (parseAttribute image.data).isSome ∧
      readOnce crc32 reads i env = (parseAttribute image.data).map fun attrs =>
        (0, { env with mEnvData := .live device image, attributes := some attrs }) := by
  rw [readOnce]
  cases outcome : reads i with
  | openFailed => simp [outcome, matched] at wins
  | mallocFailed => simp [outcome, matched] at wins
  | shortRead image => simp [outcome, matched] at wins
  | whole image =>
      rw [outcome, matched, decide_eq_true_eq] at wins
      refine ⟨image, wins, rfl, ?_⟩
      rw [readPartitionData, if_neg (not_not.mpr wins)]
      cases parseAttribute image.data <;> rfl

theorem init_unanswered (env : Ubootenv) (load : Load) (silent : ¬load.answered) :
    ∃ ret, init crc32 env load = some (ret, env) ∧ ret ≠ 0 := by
  rw [Load.answered, not_not] at silent
  exact ⟨_, if_pos silent, Int.ne_of_lt silent⟩

theorem init_fails (env : Ubootenv) (load : Load) (answered : load.answered) (unread : NotLive env.mEnvData)
    (fails : ∀ i < maxUbootRwretry, matched crc32 (load.reads i) = false) :
    ∃ next, init crc32 env load = some (-2, next) ∧ Unread env.mEnvInitDone next := by
  obtain ⟨ret, next, failed, kept, same⟩ := retry_skip (readOnce crc32 load.reads) (Unread env.mEnvInitDone)
    (fun i => matched crc32 (load.reads i) = false) (read_fails crc32 load.reads env.mEnvInitDone) maxUbootRwretry 0 0 (-1)
    env (by decide) ⟨rfl, unread⟩ fun i less => by rw [Nat.zero_add]; exact fails i less
  refine ⟨next, ?_, kept⟩
  rw [Nat.zero_add] at same
  rw [init, if_neg answered, same]
  rfl

-- The attempt that succeeds leaves a usable image, unless it is the last one it is not noticed.
theorem init_first (env : Ubootenv) (load : Load) (answered : load.answered) (unread : NotLive env.mEnvData) (i : Nat)
    (inside : i < maxUbootRwretry) (wins : matched crc32 (load.reads i) = true)
    (first : ∀ j < i, matched crc32 (load.reads j) = false) :
    if parses (load.reads i) then
      ∃ next, init crc32 env load = some (if i + 1 < maxUbootRwretry then 0 else -2, next) ∧ Initialised crc32 next
    else init crc32 env load = none := by
  obtain ⟨ret, middle, failed, kept, same⟩ := retry_skip (readOnce crc32 load.reads) (Unread env.mEnvInitDone)
    (fun i => matched crc32 (load.reads i) = false) (read_fails crc32 load.reads env.mEnvInitDone) i
    (maxUbootRwretry - i) 0 (-1) env (by decide) ⟨rfl, unread⟩ fun j less => by rw [Nat.zero_add]; exact first j less
  have left : maxUbootRwretry - i = maxUbootRwretry - i - 1 + 1 := by omega
  obtain ⟨image, crc, parsed, read⟩ := read_wins crc32 load.reads i middle wins
  rw [Nat.sub_add_cancel (Nat.le_of_lt inside), Nat.zero_add, left] at same
  rw [init, if_neg answered, same, parsed]
  cases attributes : parseAttribute image.data with
  | none =>
      rw [attributes] at read
      rw [retry_undefined _ _ _ _ _ failed read]
      rfl
  | some attrs =>
      rw [attributes] at read
      rw [retry_won _ _ _ _ _ _ _ failed read (Int.le_refl 0)]
      by_cases early : i + 1 < maxUbootRwretry
      · refine ⟨⟨.live load.device image, some attrs, true⟩, ?_, fun _ => ⟨_, image, attrs, rfl, crc, attributes, rfl⟩⟩
        rw [if_pos early, Option.map_some]
        exact congrArg some (if_neg (Nat.not_le.mpr early))
      · refine ⟨⟨.live load.device image, some attrs, middle.mEnvInitDone⟩, ?_,
          fun _ => ⟨_, image, attrs, rfl, crc, attributes, rfl⟩⟩
        rw [if_neg early, Option.map_some]
        exact congrArg some (if_pos (Nat.le_of_not_lt early))

theorem unread_initialised_iff (done : Bool) (env : Ubootenv) (unread : Unread done env) :
    Initialised crc32 env ↔ done = false := by
  rw [← unread.1, Initialised]
  constructor
  · intro initialised
    by_contra set
    obtain ⟨device, image, _, live, _⟩ := initialised (by simpa using set)
    exact unread.2 device image live
  · intro clear set
    rw [clear] at set
    cases set

theorem first_match (load : Load) (some_match : ∃ i < maxUbootRwretry, matched crc32 (load.reads i) = true) :
    ∃ i < maxUbootRwretry, matched crc32 (load.reads i) = true ∧ ∀ j < i, matched crc32 (load.reads j) = false := by
  obtain ⟨inside, wins⟩ := Nat.find_spec some_match
  refine ⟨Nat.find some_match, inside, wins, fun j less => ?_⟩
  by_contra also
  exact Nat.find_min some_match less ⟨Nat.lt_trans less inside, by simpa using also⟩

-- A load that fails has to find the flag clear.
theorem failed_honest_iff (done : Bool) (load : Load) (ret : Int) (next : Ubootenv) (nonzero : ret ≠ 0)
    (failed : ¬Succeeds crc32 load) (inTime : InTime crc32 load) (unread : Unread done next) :
    HonestLoad crc32 (some (ret, next)) load ↔ InTime crc32 load ∧ (done = true → Succeeds crc32 load) := by
  have clear := unread_initialised_iff crc32 done next unread
  constructor
  · rintro ⟨_, _, same, _, initialised⟩
    cases same
    refine ⟨inTime, fun set => ?_⟩
    cases set.symm.trans (clear.mp initialised)
  · rintro ⟨_, cleared⟩
    have notSet : done = false := by
      by_contra set
      exact failed (cleared (by simpa using set))
    exact ⟨ret, next, rfl, iff_of_false nonzero failed, clear.mpr notSet⟩

theorem in_time_iff (load : Load) (answered : load.answered) (i : Nat) (inside : i < maxUbootRwretry)
    (wins : matched crc32 (load.reads i) = true) (first : ∀ j < i, matched crc32 (load.reads j) = false) :
    InTime crc32 load ↔ i + 1 < maxUbootRwretry ∧ parses (load.reads i) = true := by
  constructor
  · exact fun inTime => inTime answered i inside wins first
  · intro early _ j _ also before
    rcases Nat.lt_trichotomy j i with earlier | rfl | later
    · rw [first j earlier] at also
      cases also
    · exact early
    · rw [before i later] at wins
      cases wins

theorem init_honest_iff (env : Ubootenv) (load : Load) (unread : NotLive env.mEnvData) :
    HonestLoad crc32 (init crc32 env load) load ↔
      InTime crc32 load ∧ (env.mEnvInitDone = true → Succeeds crc32 load) := by
  by_cases answered : load.answered
  · by_cases wins : ∃ i < maxUbootRwretry, matched crc32 (load.reads i) = true
    · have succeeds : Succeeds crc32 load := ⟨answered, wins⟩
      obtain ⟨i, inside, here, first⟩ := first_match crc32 load wins
      have found := init_first crc32 env load answered unread i inside here first
      rw [in_time_iff crc32 load answered i inside here first]
      by_cases parsed : parses (load.reads i) = true
      · rw [if_pos parsed] at found
        obtain ⟨next, done, initialised⟩ := found
        rw [done]
        by_cases early : i + 1 < maxUbootRwretry
        · rw [if_pos early]
          exact iff_of_true ⟨0, next, rfl, iff_of_true rfl succeeds, initialised⟩ ⟨⟨early, parsed⟩, fun _ => succeeds⟩
        · rw [if_neg early]
          refine iff_of_false ?_ fun both => early both.1.1
          rintro ⟨_, _, same, honest, _⟩
          cases same
          exact absurd (honest.mpr succeeds) (by decide)
      · rw [if_neg parsed] at found
        rw [found]
        refine iff_of_false ?_ fun both => parsed both.1.2
        rintro ⟨_, _, defined, _⟩
        cases defined
    · have fails : ∀ i < maxUbootRwretry, matched crc32 (load.reads i) = false := fun i less => by
        by_contra also
        exact wins ⟨i, less, by simpa using also⟩
      obtain ⟨next, done, kept⟩ := init_fails crc32 env load answered unread fails
      rw [done]
      exact failed_honest_iff crc32 env.mEnvInitDone load (-2) next (by decide) (fun succeeds => wins succeeds.2)
        (fun _ i less here _ => absurd ⟨i, less, here⟩ wins) kept
  · obtain ⟨ret, done, nonzero⟩ := init_unanswered crc32 env load answered
    rw [done]
    exact failed_honest_iff crc32 env.mEnvInitDone load ret env nonzero (fun succeeds => answered succeeds.1)
      (fun also => absurd also answered) ⟨rfl, unread⟩

theorem memory_not_live (memory : Memory) : NotLive memory.object.mEnvData := by
  intro device image
  rw [Memory.object]
  cases memory.imageIsNull <;> exact ImagePtr.noConfusion

theorem released_some (env : Ubootenv) (releasable : Releasable env) :
    released env = some { env with mEnvData := .null, attributes := some [.cleared] } := by
  obtain ⟨image, freed⟩ := Option.isSome_iff_exists.mp releasable.1
  obtain ⟨attrs, header⟩ := Option.isSome_iff_exists.mp releasable.2
  rw [released, freed, header]

theorem released_none (env : Ubootenv) (held : ¬Releasable env) : released env = none := by
  unfold released
  split
  · rename_i freed header
    exact absurd ⟨by rw [freed]; rfl, by rw [header]; rfl⟩ held
  · rfl

theorem call_honest_iff (env : Option Ubootenv) (event : Call) : Honest crc32 env event ↔ Careful crc32 env event := by
  cases event with
  | construct memory load => exact init_honest_iff crc32 memory.object load (memory_not_live memory)
  | reInit load =>
      cases env with
      | none =>
          refine iff_of_false ?_ ?_
          · rintro ⟨_, _, defined, _⟩
            cases defined
          · rintro ⟨_, _, found, _⟩
            cases found
      | some before =>
          have honest : Honest crc32 (some before) (.reInit load) ↔
              HonestLoad crc32 ((released before).bind fun env => init crc32 env load) load := Iff.rfl
          rw [honest]
          by_cases releasable : Releasable before
          · rw [released_some before releasable, Option.bind_some]
            refine (init_honest_iff crc32 _ load fun _ _ => ImagePtr.noConfusion).trans (and_congr_right fun _ => ?_)
            constructor
            · exact fun clear => ⟨before, rfl, releasable, clear⟩
            · rintro ⟨_, same, _, clear⟩
              cases same
              exact clear
          · rw [released_none before releasable]
            refine iff_of_false ?_ ?_
            · rintro ⟨_, _, defined, _⟩
              cases defined
            · rintro ⟨_, _, same, also, _⟩
              cases same
              exact releasable also

section
variable {device : EnvDevice}

-- An object and what the calls see of it, for whom a freed image is no image.
structure Pictures (env : Ubootenv) (seen : Bootenv.Ubootenv device) : Prop where
  attributes : env.attributes = some seen.attributes
  done : env.mEnvInitDone = seen.mEnvInitDone
  live : ∀ image, seen.mEnvData = some image → env.mEnvData = .live device image
  gone : seen.mEnvData = none → NotLive env.mEnvData

def Agree : Int × Ubootenv → Int × Bootenv.Ubootenv device → Prop :=
  fun result seen => result.1 = seen.1 ∧ Pictures result.2 seen.2

def attemptOf (flash : EnvImage device) : ReadOutcome → Attempt device
  | .openFailed => .openFailed
  | .mallocFailed => .mallocFailed
  | .shortRead => .shortRead flash
  | .whole => .whole flash

theorem freed_pictures (env : Ubootenv) (seen : Bootenv.Ubootenv device) (pictures : Pictures env seen) :
    Pictures { env with mEnvData := .dangling }
      (⟨none, seen.attributes, seen.mEnvInitDone⟩ : Bootenv.Ubootenv device) :=
  ⟨pictures.attributes, pictures.done, fun _ found => (Option.some_ne_none _ found.symm).elim,
    fun _ _ _ => ImagePtr.noConfusion⟩

theorem read_agrees (flash : EnvImage device) (reads : Nat → ReadOutcome) (i : Nat) (env : Ubootenv)
    (seen : Bootenv.Ubootenv device) (pictures : Pictures env seen) :
    Option.Rel Agree (readOnce crc32 (fun i => attemptOf flash (reads i)) i env)
      (Bootenv.readPartitionData crc32 seen flash (reads i)) := by
  rw [readOnce]
  cases reads i with
  | openFailed => exact .some ⟨rfl, pictures⟩
  | mallocFailed => exact .some ⟨rfl, pictures⟩
  | shortRead => exact .some ⟨rfl, freed_pictures env seen pictures⟩
  | whole =>
      simp only [attemptOf, readPartitionData, Bootenv.readPartitionData]
      by_cases same : crc32 flash.data = flash.crc
      · rw [if_neg (not_not.mpr same), if_neg (not_not.mpr same)]
        cases parseAttribute flash.data with
        | none => exact .none
        | some attrs =>
            refine .some ⟨rfl, rfl, pictures.done, fun image found => ?_, fun gone => (Option.some_ne_none _ gone).elim⟩
            cases found
            rfl
      · rw [if_pos same, if_pos same]
        exact .some ⟨rfl, freed_pictures env seen pictures⟩

theorem retry_agrees (flash : EnvImage device) (reads : Nat → ReadOutcome) (left made : Nat) (ret : Int)
    (env : Ubootenv) (seen : Bootenv.Ubootenv device) (count : made + left = maxUbootRwretry)
    (pictures : Pictures env seen) :
    Option.Rel (fun tried counted => tried.1 + counted.1 = maxUbootRwretry ∧ Pictures tried.2.2 counted.2)
      (retry (readOnce crc32 fun i => attemptOf flash (reads i)) left made ret env)
      (Bootenv.readRetry crc32 flash reads left ret seen) := by
  induction left generalizing made ret env seen with
  | zero => exact .some ⟨count, pictures⟩
  | succ left ih =>
      have here : maxUbootRwretry - (left + 1) = made := by omega
      rw [retry, Bootenv.readRetry, here]
      by_cases failed : ret < 0
      · rw [if_pos failed, if_pos failed]
        have agrees := read_agrees crc32 flash reads made env seen pictures
        generalize readOnce crc32 (fun i => attemptOf flash (reads i)) made env = tried at agrees ⊢
        generalize Bootenv.readPartitionData crc32 seen flash (reads made) = read at agrees ⊢
        cases agrees with
        | none => exact .none
        | @some once result kept =>
            obtain ⟨code, next⟩ := once
            obtain ⟨same, kept⟩ := kept
            cases same
            exact ih (made + 1) _ next _ (by omega) kept
      · rw [if_neg failed, if_neg failed]
        exact .some ⟨count, pictures⟩

theorem init_agrees (flash : EnvImage device) (query : MtdQuery) (reads : Nat → ReadOutcome) (env : Ubootenv)
    (seen : Bootenv.Ubootenv device) (pictures : Pictures env seen) :
    Option.Rel Agree (init crc32 env ⟨device, query, fun i => attemptOf flash (reads i)⟩)
      (Bootenv.init crc32 seen flash query reads) := by
  rw [init, Bootenv.init]
  by_cases silent : query.code device < 0
  · rw [if_pos silent, if_pos silent]
    exact .some ⟨rfl, pictures⟩
  · rw [if_neg silent, if_neg silent]
    have agrees := retry_agrees crc32 flash reads maxUbootRwretry 0 (-1) env seen (Nat.zero_add _) pictures
    simp only at agrees ⊢
    generalize retry (readOnce crc32 fun i => attemptOf flash (reads i)) maxUbootRwretry 0 (-1) env = tried at agrees ⊢
    generalize Bootenv.readRetry crc32 flash reads maxUbootRwretry (-1) seen = read at agrees ⊢
    cases agrees with
    | none => exact .none
    | @some made result kept =>
        obtain ⟨counted, kept⟩ := kept
        obtain ⟨rest, next⟩ := result
        cases rest with
        | zero =>
            have all : made.1 ≥ maxUbootRwretry := Nat.le_of_eq counted.symm
            rw [Option.map_some, if_pos all]
            exact .some ⟨rfl, kept⟩
        | succ rest =>
            have early : ¬made.1 ≥ maxUbootRwretry := by
              simp only at counted
              omega
            rw [Option.map_some, if_neg early]
            exact .some ⟨rfl, kept.attributes, rfl, kept.live, kept.gone⟩

-- What getValue serves and updateValue saves is an image that was loaded.
theorem initialised_loaded (env : Ubootenv) (seen : Bootenv.Ubootenv device) (initialised : Initialised crc32 env)
    (pictures : Pictures env seen) (done : seen.mEnvInitDone = true) :
    ∃ image : EnvImage device, Loaded crc32 seen image := by
  obtain ⟨there, image, attrs, live, crc, parsed, header⟩ := initialised (pictures.done.trans done)
  cases data : seen.mEnvData with
  | none => exact absurd live (pictures.gone data there image)
  | some found =>
      cases live.symm.trans (pictures.live found data)
      cases header.symm.trans pictures.attributes
      exact ⟨found, crc, parsed, data⟩

-- Where its frees are defined, reInit does what it does to the environment without pointers.
theorem re_init_agrees (flash : EnvImage device) (query : MtdQuery) (reads : Nat → ReadOutcome) (env : Ubootenv)
    (seen : Bootenv.Ubootenv device) (pictures : Pictures env seen) (releasable : Releasable env) :
    Option.Rel (fun result board => result.1 = board.1 ∧ Pictures result.2 board.2.env)
      (reInit crc32 env ⟨device, query, fun i => attemptOf flash (reads i)⟩)
      (Bootenv.reInit crc32 ⟨seen, flash⟩ query reads) := by
  rw [reInit, Bootenv.reInit, released_some env releasable, Option.bind_some]
  have cleared : Pictures { env with mEnvData := .null, attributes := some [.cleared] }
      (⟨none, [.cleared], seen.mEnvInitDone⟩ : Bootenv.Ubootenv device) :=
    ⟨rfl, pictures.done, fun _ found => (Option.some_ne_none _ found.symm).elim, fun _ _ _ => ImagePtr.noConfusion⟩
  have agrees := init_agrees crc32 flash query reads _ _ cleared
  simp only at agrees ⊢
  generalize init crc32 { env with mEnvData := .null, attributes := some [.cleared] }
    ⟨device, query, fun i => attemptOf flash (reads i)⟩ = result at agrees ⊢
  generalize Bootenv.init crc32 ⟨none, [.cleared], seen.mEnvInitDone⟩ flash query reads = board at agrees ⊢
  cases agrees with
  | none => exact .none
  | some kept => exact .some ⟨rfl, kept.2⟩

end

theorem init_state_iff (calls : List Call) :
    Guarded (step crc32) (Honest crc32) none calls ↔ Guarded (step crc32) (Careful crc32) none calls :=
  guarded_iff (step crc32) _ _ (call_honest_iff crc32) none calls

end

def zeroed : Memory := ⟨true, some [.cleared], false⟩

def readFrom (reads : Nat → Attempt smallDevice) : Load := ⟨smallDevice, .answered, reads⟩

-- Only the fifth attempt opens the partition, which goes unnoticed; a reload that never
-- does leaves the flag of the first load.
theorem load_misjudged :
    ¬Guarded (step Crc.crc32) (Honest Crc.crc32) none
        [.construct zeroed (readFrom fun i => if i < 4 then .openFailed else .whole smallFlash)] ∧
      ¬Guarded (step Crc.crc32) (Honest Crc.crc32) none
        [.construct zeroed (readFrom fun _ => .whole smallFlash), .reInit (readFrom fun _ => .openFailed)] := by
  constructor
  · rintro ⟨honest, _⟩
    have late := ((call_honest_iff Crc.crc32 _ _).mp honest).1 (by unfold Load.answered; decide) 4 (by decide)
      (by decide +kernel) (by decide)
    exact absurd late.1 (by decide)
  · rintro ⟨_, later⟩
    have loaded : (construct Crc.crc32 zeroed (readFrom fun _ => .whole smallFlash)).map
        (fun result => result.2.mEnvInitDone) = some true := by decide +kernel
    obtain ⟨⟨ret, next⟩, called, done⟩ := Option.map_eq_some_iff.mp loaded
    have stepped : step Crc.crc32 none (.construct zeroed (readFrom fun _ => .whole smallFlash)) = some (some next) := by
      rw [step, called]
      rfl
    obtain ⟨_, before, same, _, cleared⟩ := (call_honest_iff Crc.crc32 _ _).mp (later _ stepped).1
    cases same
    obtain ⟨_, i, _, wins⟩ := cleared done
    cases wins

end Droidlogic.Bootenv.Pointers
