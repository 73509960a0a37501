import Mathlib.Data.List.Basic

set_option autoImplicit false

namespace Droidlogic.Lib

section
variable {State : Type}

-- A result that is there where good holds, and that meets its postcondition wherever it is there.
structure Yields (result : Option State) (good : Prop) (post : State → Prop) : Prop where
  there : good → ∃ final, result = some final
  meets : ∀ final, result = some final → post final

theorem yields_bind {Next : Type} (result : Option State) (later : State → Option Next) (good goodLater : Prop)
    (middle : State → Prop) (post : Next → Prop) (first : Yields result good middle)
    (second : ∀ state, middle state → Yields (later state) goodLater post) :
    Yields (result.bind later) (good ∧ goodLater) post := by
  constructor
  · rintro ⟨holds, holdsLater⟩
    obtain ⟨state, done⟩ := first.there holds
    obtain ⟨final, finished⟩ := (second state (first.meets state done)).there holdsLater
    exact ⟨final, Option.bind_eq_some_iff.mpr ⟨state, done, finished⟩⟩
  · intro final finished
    obtain ⟨state, done, rest⟩ := Option.bind_eq_some_iff.mp finished
    exact (second state (first.meets state done)).meets final rest

theorem yields_imp (result : Option State) (good weaker : Prop) (post : State → Prop) (holds : Yields result good post)
    (enough : weaker → good) : Yields result weaker post :=
  ⟨fun given => holds.there (enough given), holds.meets⟩

-- A result that is there exactly where good holds, and is value then.
structure Exact (result : Option State) (good : Prop) (value : State) : Prop where
  there : good → result = some value
  only : ∀ final, result = some final → good

theorem exact_some (value : State) : Exact (some value) True value := ⟨fun _ => rfl, fun _ _ => trivial⟩

theorem exact_congr (result : Option State) (good other : Prop) (value same : State) (exact : Exact result good value)
    (iff : good ↔ other) (equal : good → value = same) : Exact result other same :=
  ⟨fun holds => equal (iff.mpr holds) ▸ exact.there (iff.mpr holds), fun final done => iff.mp (exact.only final done)⟩

theorem exact_bind {Next : Type} (result : Option State) (later : State → Option Next) (good goodLater : Prop)
    (value : State) (last : Next) (first : Exact result good value) (second : Exact (later value) goodLater last) :
    Exact (result.bind later) (good ∧ goodLater) last := by
  constructor
  · rintro ⟨holds, holdsLater⟩
    rw [first.there holds]
    exact second.there holdsLater
  · intro final finished
    obtain ⟨state, done, rest⟩ := Option.bind_eq_some_iff.mp finished
    have holds := first.only state done
    cases Option.some.inj (done.symm.trans (first.there holds))
    exact ⟨holds, second.only final rest⟩

theorem exact_map {Next : Type} (f : State → Next) (result : Option State) (good : Prop) (value : State)
    (exact : Exact result good value) : Exact (result.map f) good (f value) := by
  constructor
  · intro holds
    rw [exact.there holds]
    rfl
  · intro final done
    obtain ⟨state, found, _⟩ := Option.map_eq_some_iff.mp done
    exact exact.only state found

variable (body : Nat → State → Option State)

-- for (i = 0; i < count; i++) body(i); none is a fault of the body.
def counted : Nat → State → Option State
  | 0, state => some state
  | count + 1, state => (counted count state).bind (body count)

theorem counted_yields (inv : Nat → State → Prop) (good : Nat → Prop) (count : Nat) (state : State) (start : inv 0 state)
    (step : ∀ i < count, ∀ before, inv i before → Yields (body i before) (good i) (inv (i + 1))) :
    Yields (counted body count state) (∀ i < count, good i) (inv count) := by
  induction count with
  | zero => exact ⟨fun _ => ⟨state, rfl⟩, fun final done => Option.some.inj done ▸ start⟩
  | succ count ih =>
      have earlier := ih fun i small => step i (Nat.lt_succ_of_lt small)
      have last := yields_bind _ (body count) _ (good count) _ _ earlier (step count (Nat.lt_succ_self count))
      refine yields_imp _ _ _ _ last fun all => ⟨fun i small => all i (Nat.lt_succ_of_lt small), ?_⟩
      exact all count (Nat.lt_succ_self count)

theorem counted_exact (good : Nat → Prop) (values : Nat → State) (count : Nat)
    (step : ∀ i < count, Exact (body i (values i)) (good i) (values (i + 1))) :
    Exact (counted body count (values 0)) (∀ i < count, good i) (values count) := by
  induction count with
  | zero => exact ⟨fun _ => rfl, fun _ _ _ none => absurd none (Nat.not_lt_zero _)⟩
  | succ count ih =>
      have earlier := ih fun i small => step i (Nat.lt_succ_of_lt small)
      have both := exact_bind _ (body count) _ (good count) _ _ earlier (step count (Nat.lt_succ_self count))
      refine exact_congr _ _ _ _ _ both ?_ fun _ => rfl
      exact Nat.forall_lt_succ_right.symm

end

section
variable {Item : Type} (source : List Item) (place : Nat → Nat) (size : Nat)

-- The first k items of a buffer are those that stand at their places in the source.
structure Filled (k : Nat) (buffer : List Item) : Prop where
  length : buffer.length = size
  items : ∀ n < k, buffer[n]? = source[place n]?

theorem filled_set (k : Nat) (buffer : List Item) (item : Item) (filled : Filled source place size k buffer)
    (small : k < size) (found : source[place k]? = some item) : Filled source place size (k + 1) (buffer.set k item) := by
  constructor
  · rw [List.length_set]
    exact filled.length
  · intro n below
    rcases Nat.lt_succ_iff_lt_or_eq.mp below with earlier | rfl
    · rw [List.getElem?_set_ne (Nat.ne_of_gt earlier)]
      exact filled.items n earlier
    · rw [List.getElem?_set_self (filled.length ▸ small), found]

end

end Droidlogic.Lib
