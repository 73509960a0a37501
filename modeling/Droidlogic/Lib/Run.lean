import Mathlib.Data.List.Basic

set_option autoImplicit false

namespace Droidlogic.Lib

section
variable {State Input : Type} (step : State → Input → Option State)

-- A step without a result ends the run: the input is not possible there, or
-- the program's behaviour is undefined.
def run : State → List Input → Option State
  | state, [] => some state
  | state, input :: rest => (step state input).bind fun next => run next rest

def Guarded (guard : State → Input → Prop) : State → List Input → Prop
  | _, [] => True
  | state, input :: rest =>
      guard state input ∧ ∀ next, step state input = some next → Guarded guard next rest

instance decidableGuarded (guard : State → Input → Prop) [∀ state input, Decidable (guard state input)] :
    ∀ (inputs : List Input) (state : State), Decidable (Guarded step guard state inputs)
  | [], _ => isTrue trivial
  | input :: rest, state =>
      match taken : step state input with
      | none => decidable_of_iff (guard state input) ⟨fun holds => ⟨holds, fun _ other => by simp [taken] at other⟩, And.left⟩
      | some next =>
          have : Decidable (Guarded step guard next rest) := decidableGuarded guard rest next
          decidable_of_iff (guard state input ∧ Guarded step guard next rest)
            ⟨fun holds => ⟨holds.1, fun other takenToo => Option.some.inj (taken.symm.trans takenToo) ▸ holds.2⟩,
              fun holds => ⟨holds.1, holds.2 next taken⟩⟩

theorem run_append (state middle final : State) (first second : List Input)
    (reached : run step state first = some middle) (later : run step middle second = some final) :
    run step state (first ++ second) = some final := by
  induction first generalizing state with
  | nil =>
      cases Option.some.inj reached
      exact later
  | cons input rest ih =>
      obtain ⟨next, taken, reached⟩ := Option.bind_eq_some_iff.mp reached
      exact Option.bind_eq_some_iff.mpr ⟨next, taken, ih next reached⟩

theorem run_split (state final : State) (first second : List Input)
    (reached : run step state (first ++ second) = some final) :
    ∃ middle, run step state first = some middle ∧ run step middle second = some final := by
  induction first generalizing state with
  | nil => exact ⟨state, rfl, reached⟩
  | cons input rest ih =>
      obtain ⟨next, taken, later⟩ := Option.bind_eq_some_iff.mp reached
      obtain ⟨middle, before, after⟩ := ih next later
      exact ⟨middle, Option.bind_eq_some_iff.mpr ⟨next, taken, before⟩, after⟩

theorem guarded_append (guard : State → Input → Prop) (state middle : State) (first second : List Input)
    (guarded : Guarded step guard state (first ++ second)) (reached : run step state first = some middle) :
    Guarded step guard state first ∧ Guarded step guard middle second := by
  induction first generalizing state with
  | nil =>
      cases Option.some.inj reached
      exact ⟨trivial, guarded⟩
  | cons input rest ih =>
      obtain ⟨next, taken, later⟩ := Option.bind_eq_some_iff.mp reached
      have tail := ih next (guarded.2 next taken) later
      refine ⟨⟨guarded.1, fun other takenToo => ?_⟩, tail.2⟩
      cases Option.some.inj (taken.symm.trans takenToo)
      exact tail.1

theorem guarded_iff_kept (inv : State → Prop) (first second : State → Input → Prop)
    (kept : ∀ state input next, inv state → step state input = some next → inv next)
    (same : ∀ state input, inv state → (first state input ↔ second state input)) (state : State) (inputs : List Input)
    (start : inv state) : Guarded step first state inputs ↔ Guarded step second state inputs := by
  induction inputs generalizing state with
  | nil => exact Iff.rfl
  | cons input rest ih =>
      exact and_congr (same state input start)
        (forall₂_congr fun next taken => ih next (kept state input next start taken))

theorem guarded_iff (first second : State → Input → Prop) (same : ∀ state input, first state input ↔ second state input)
    (state : State) (inputs : List Input) : Guarded step first state inputs ↔ Guarded step second state inputs :=
  guarded_iff_kept step (fun _ => True) first second (fun _ _ _ _ _ => trivial) (fun state input _ => same state input)
    state inputs trivial

theorem run_invariant (guard : State → Input → Prop) (inv : State → Prop)
    (kept : ∀ state input next, inv state → guard state input → step state input = some next → inv next)
    (state final : State) (inputs : List Input) (start : inv state)
    (guarded : Guarded step guard state inputs) (reached : run step state inputs = some final) : inv final := by
  induction inputs generalizing state with
  | nil => exact Option.some.inj reached ▸ start
  | cons input rest ih =>
      obtain ⟨next, taken, later⟩ := Option.bind_eq_some_iff.mp reached
      exact ih next (kept state input next start guarded.1 taken) (guarded.2 next taken) later

theorem guarded_each (guard : State → Input → Prop) (each : ∀ state input, guard state input) (state : State)
    (inputs : List Input) : Guarded step guard state inputs := by
  induction inputs generalizing state with
  | nil => trivial
  | cons input rest ih => exact ⟨each state input, fun next _ => ih next⟩

theorem run_kept (inv : State → Prop)
    (kept : ∀ state input next, inv state → step state input = some next → inv next)
    (state final : State) (inputs : List Input) (start : inv state) (reached : run step state inputs = some final) :
    inv final :=
  run_invariant step (fun _ _ => True) inv (fun before input next held _ taken => kept before input next held taken)
    state final inputs start (guarded_each step _ (fun _ _ => trivial) state inputs) reached

-- A fact about each step that the run really takes.
def Along (fact : State → Input → State → Prop) : State → List Input → Prop
  | _, [] => True
  | state, input :: rest => ∀ next, step state input = some next → fact state input next ∧ Along fact next rest

instance decidableAlong (fact : State → Input → State → Prop)
    [∀ state input next, Decidable (fact state input next)] :
    ∀ (inputs : List Input) (state : State), Decidable (Along step fact state inputs)
  | [], _ => isTrue trivial
  | input :: rest, state =>
      match taken : step state input with
      | none => isTrue fun other takenToo => by simp [taken] at takenToo
      | some next =>
          have : Decidable (Along step fact next rest) := decidableAlong fact rest next
          decidable_of_iff (fact state input next ∧ Along step fact next rest)
            ⟨fun holds other takenToo => Option.some.inj (taken.symm.trans takenToo) ▸ holds,
              fun holds => holds next taken⟩

theorem along_after (fact : State → Input → State → Prop) (state middle : State) (first second : List Input)
    (along : Along step fact state (first ++ second)) (reached : run step state first = some middle) :
    Along step fact middle second := by
  induction first generalizing state with
  | nil =>
      cases Option.some.inj reached
      exact along
  | cons input rest ih =>
      obtain ⟨next, taken, later⟩ := Option.bind_eq_some_iff.mp reached
      exact ih next (along next taken).2 later

theorem along_each (fact : State → Input → State → Prop)
    (each : ∀ state input next, step state input = some next → fact state input next) (state : State)
    (inputs : List Input) : Along step fact state inputs := by
  induction inputs generalizing state with
  | nil => trivial
  | cons input rest ih => exact fun next taken => ⟨each state input next taken, ih next⟩

-- What each guarded step does in a state where the invariant holds.
theorem guarded_along (guard : State → Input → Prop) (inv : State → Prop) (fact : State → Input → State → Prop)
    (kept : ∀ state input next, inv state → guard state input → step state input = some next →
      inv next ∧ fact state input next)
    (state : State) (inputs : List Input) (start : inv state) (guarded : Guarded step guard state inputs) :
    Along step fact state inputs := by
  induction inputs generalizing state with
  | nil => trivial
  | cons input rest ih =>
      intro next taken
      obtain ⟨held, done⟩ := kept state input next start guarded.1 taken
      exact ⟨done, ih next held (guarded.2 next taken)⟩

theorem along_iff (inv : State → Prop) (first second : State → Input → State → Prop)
    (kept : ∀ state input next, inv state → step state input = some next → second state input next → inv next)
    (same : ∀ state input next, inv state → step state input = some next →
      (first state input next ↔ second state input next))
    (state : State) (inputs : List Input) (start : inv state) :
    Along step first state inputs ↔ Along step second state inputs := by
  induction inputs generalizing state with
  | nil => exact Iff.rfl
  | cons input rest ih =>
      constructor
      · intro holds next taken
        obtain ⟨here, later⟩ := holds next taken
        have now := (same state input next start taken).mp here
        exact ⟨now, (ih next (kept state input next start taken now)).mp later⟩
      · intro holds next taken
        obtain ⟨now, later⟩ := holds next taken
        exact ⟨(same state input next start taken).mpr now, (ih next (kept state input next start taken now)).mpr later⟩

end

end Droidlogic.Lib
