import Droidlogic.Lib.Run
import Mathlib.Data.Int.Basic

set_option autoImplicit false

namespace Droidlogic.Core.DaylightSavingTime

open Droidlogic.Lib

def daylightTimeAuto : Int := 0
def daylightTimeOn : Int := 1
def daylightTimeOff : Int := 2
def defaultDaylightTime : Int := daylightTimeOff
def defaultInDaylightTime : Int := 0

def hour : Int := 60 * 60 * 1000

-- clock is what the calendar and the zone's rule read, standard is the time without a
-- daylight hour. The two properties are none until they are set.
structure State where
  clock : Int
  standard : Int
  inDaylightTime : Int → Bool
  daylightSavingTime : Option Int
  inDaylightSavingTime : Option Int

def getDaylightSavingTime (s : State) : Int := s.daylightSavingTime.getD defaultDaylightTime

def hasInDaylightSavingTime (s : State) : Bool := s.inDaylightSavingTime.getD defaultInDaylightTime = 1

def updateDaylightSavingTime (s : State) (calendar diff : Int) : State :=
  { s with clock := calendar + diff * hour, inDaylightSavingTime := some (if diff = 1 then 1 else 0) }

def setDaylightSavingTime (s : State) (value : Int) : State :=
  let isInDaylightTimeZone := s.inDaylightTime s.clock
  let hasInDaylightTime := hasInDaylightSavingTime s
  if value = daylightTimeAuto then
    { (if isInDaylightTimeZone && !hasInDaylightTime then updateDaylightSavingTime s s.clock 1
      else if !isInDaylightTimeZone && hasInDaylightTime then updateDaylightSavingTime s s.clock (-1)
      else s) with daylightSavingTime := some value }
  else if value = daylightTimeOn then
    { (if !hasInDaylightTime then updateDaylightSavingTime s s.clock 1 else s) with daylightSavingTime := some value }
  else if value = daylightTimeOff then
    { (if hasInDaylightTime then updateDaylightSavingTime s s.clock (-1) else s) with daylightSavingTime := some value }
  else s

def updateDaylightSavingTimeForce (s : State) : State :=
  let daylightTime := getDaylightSavingTime s
  let isInDaylightTimeZone := s.inDaylightTime s.clock
  if (isInDaylightTimeZone = true ∧ daylightTime = daylightTimeAuto) ∨ daylightTime = daylightTimeOn then
    updateDaylightSavingTime s s.clock 1
  else s

-- The zone's daylight period changes as time goes by and with the zone's rule.
inductive Event
  | setDaylightSavingTime (value : Int)
  | elapse (millis : Nat)
  | setZone (inDaylightTime : Int → Bool)
  | networkTime

def step (s : State) : Event → Option State
  | .setDaylightSavingTime value => some (setDaylightSavingTime s value)
  | .elapse millis => some { s with clock := s.clock + millis, standard := s.standard + millis }
  | .setZone inDaylightTime => some { s with inDaylightTime := inDaylightTime }
  | .networkTime => some (updateDaylightSavingTimeForce { s with clock := s.standard })

def hours (applied : Bool) : Int := if applied then hour else 0

def Applied (s : State) : Prop := s.clock = s.standard + hours (hasInDaylightSavingTime s)

instance (s : State) : Decidable (Applied s) := by
  unfold Applied
  infer_instance

-- What a mode asks for; the other values are rejected.
def asks (s : State) (value : Int) : Option Bool :=
  if value = daylightTimeAuto then some (s.inDaylightTime s.clock)
  else if value = daylightTimeOn then some true
  else if value = daylightTimeOff then some false
  else none

def Obeyed (s : State) (event : Event) (next : State) : Prop :=
  match event with
  | .setDaylightSavingTime value => ∀ applied, asks s value = some applied → next.clock = next.standard + hours applied
  | _ => True

-- The network's time is set while the flag is clear, or the hour is added again.
def Careful (s : State) (event : Event) : Prop :=
  match event with
  | .networkTime => hasInDaylightSavingTime s = true →
      (s.inDaylightTime s.standard = true ∧ getDaylightSavingTime s = daylightTimeAuto) ∨
        getDaylightSavingTime s = daylightTimeOn
  | _ => True

instance (s : State) (event : Event) : Decidable (Careful s event) := by
  unfold Careful
  split <;> infer_instance

theorem updated_flag (s : State) (calendar diff : Int) :
    hasInDaylightSavingTime (updateDaylightSavingTime s calendar diff) = decide (diff = 1) := by
  simp only [hasInDaylightSavingTime, updateDaylightSavingTime, Option.getD_some]
  by_cases one : diff = 1 <;> simp [one]

-- Adding or taking back the hour keeps the clock in step with the flag.
theorem add_applied (s : State) (plain : s.clock = s.standard) : Applied (updateDaylightSavingTime s s.clock 1) := by
  rw [Applied, updated_flag]
  simp only [updateDaylightSavingTime, plain, Int.one_mul, hours, decide_true, if_true]

theorem take_applied (s : State) (added : s.clock = s.standard + hour) :
    Applied (updateDaylightSavingTime s s.clock (-1)) := by
  rw [Applied, updated_flag]
  have back : s.clock + -1 * hour = s.standard + 0 := by
    rw [added]
    omega
  exact back

-- The clock is brought to what is wanted, once.
def toward (s : State) (wanted : Bool) : State :=
  if wanted && !hasInDaylightSavingTime s then updateDaylightSavingTime s s.clock 1
  else if !wanted && hasInDaylightSavingTime s then updateDaylightSavingTime s s.clock (-1)
  else s

theorem set_accepted (s : State) (value : Int) (wanted : Bool) (asked : asks s value = some wanted) :
    setDaylightSavingTime s value = { toward s wanted with daylightSavingTime := some value } := by
  rw [asks] at asked
  rw [setDaylightSavingTime, toward]
  split at asked
  · rename_i auto
    cases asked
    rw [if_pos auto]
  · rename_i notAuto
    rw [if_neg notAuto]
    split at asked
    · rename_i on
      cases asked
      rw [if_pos on]
      cases hasInDaylightSavingTime s <;> rfl
    · rename_i notOn
      rw [if_neg notOn]
      split at asked
      · rename_i off
        cases asked
        rw [if_pos off]
        cases hasInDaylightSavingTime s <;> rfl
      · cases asked

theorem set_rejected (s : State) (value : Int) (unasked : asks s value = none) : setDaylightSavingTime s value = s := by
  rw [asks] at unasked
  rw [setDaylightSavingTime]
  split at unasked
  · cases unasked
  · rename_i notAuto
    split at unasked
    · cases unasked
    · rename_i notOn
      split at unasked
      · cases unasked
      · rename_i notOff
        rw [if_neg notAuto, if_neg notOn, if_neg notOff]

theorem toward_applied (s : State) (wanted : Bool) (applied : Applied s) :
    Applied (toward s wanted) ∧ hasInDaylightSavingTime (toward s wanted) = wanted := by
  have offset : s.clock = s.standard + hours (hasInDaylightSavingTime s) := applied
  rw [toward]
  cases has : hasInDaylightSavingTime s with
  | true =>
      rw [has] at offset
      cases wanted with
      | true => exact ⟨applied, has⟩
      | false => exact ⟨take_applied s offset, updated_flag s s.clock (-1)⟩
  | false =>
      rw [has] at offset
      cases wanted with
      | true => exact ⟨add_applied s (offset.trans (Int.add_zero _)), updated_flag s s.clock 1⟩
      | false => exact ⟨applied, has⟩

theorem set_applied (s : State) (value : Int) (applied : Applied s) :
    Applied (setDaylightSavingTime s value) ∧
      Obeyed s (.setDaylightSavingTime value) (setDaylightSavingTime s value) := by
  cases asked : asks s value with
  | none =>
      rw [set_rejected s value asked]
      refine ⟨applied, fun wanted other => ?_⟩
      cases asked.symm.trans other
  | some wanted =>
      obtain ⟨right, reached⟩ := toward_applied s wanted applied
      rw [set_accepted s value wanted asked]
      refine ⟨right, fun other also => ?_⟩
      cases asked.symm.trans also
      rw [Applied, reached] at right
      exact right

-- The network's time takes the hour off the clock and leaves the flag.
theorem network_applied_iff (s : State) :
    Applied (updateDaylightSavingTimeForce { s with clock := s.standard }) ↔ Careful s .networkTime := by
  have forced : updateDaylightSavingTimeForce { s with clock := s.standard } =
      if (s.inDaylightTime s.standard = true ∧ getDaylightSavingTime s = daylightTimeAuto) ∨
          getDaylightSavingTime s = daylightTimeOn then
        updateDaylightSavingTime { s with clock := s.standard } s.standard 1
      else { s with clock := s.standard } := rfl
  rw [forced, Careful]
  by_cases added : (s.inDaylightTime s.standard = true ∧ getDaylightSavingTime s = daylightTimeAuto) ∨
      getDaylightSavingTime s = daylightTimeOn
  · refine iff_of_true ?_ fun _ => added
    rw [if_pos added]
    exact add_applied { s with clock := s.standard } rfl
  · rw [if_neg added]
    have kept : Applied { s with clock := s.standard } ↔ s.standard = s.standard + hours (hasInDaylightSavingTime s) :=
      Iff.rfl
    rw [kept]
    cases hasInDaylightSavingTime s with
    | true =>
        have long : hours true ≠ 0 := by decide
        exact iff_of_false (by omega) fun careful => added (careful rfl)
    | false => exact iff_of_true (Int.add_zero _).symm nofun

theorem step_applied_iff (s : State) (event : Event) (next : State) (applied : Applied s)
    (taken : step s event = some next) : (Applied next ∧ Obeyed s event next) ↔ Careful s event := by
  cases event with
  | setDaylightSavingTime value =>
      cases taken
      exact iff_of_true (set_applied s value applied) trivial
  | elapse millis =>
      cases taken
      refine iff_of_true ⟨?_, trivial⟩ trivial
      have before : s.clock = s.standard + hours (hasInDaylightSavingTime s) := applied
      have after : s.clock + millis = s.standard + millis + hours (hasInDaylightSavingTime s) := by omega
      exact after
  | setZone inDaylightTime =>
      cases taken
      exact iff_of_true ⟨applied, trivial⟩ trivial
  | networkTime =>
      cases taken
      rw [← network_applied_iff s]
      exact and_iff_left trivial

theorem hour_once_iff (s : State) (events : List Event) (plain : s.clock = s.standard)
    (clear : hasInDaylightSavingTime s = false) :
    Along step (fun before event next => Applied next ∧ Obeyed before event next) s events ↔
      Along step (fun before event _ => Careful before event) s events := by
  have applied : Applied s := by
    rw [Applied, clear, plain]
    exact (Int.add_zero _).symm
  refine along_iff step Applied _ _ ?_ step_applied_iff s events applied
  intro before event next applied taken careful
  exact ((step_applied_iff before event next applied taken).mpr careful).1

-- A zone whose daylight period ends at a time.
def endsAt (time : Int) (now : Int) : Bool := now < time

def summer : State := ⟨0, 0, endsAt (2 * hour), none, none⟩

theorem summer_hour_once :
    Along step (fun before event next => Applied next ∧ Obeyed before event next) summer
      [.setDaylightSavingTime daylightTimeAuto, .networkTime, .elapse 7200000, .setDaylightSavingTime daylightTimeAuto,
        .networkTime] :=
  (hour_once_iff summer _ rfl rfl).mpr (by decide)

-- The network's time is set after the end of the period.
theorem hour_flag_stale : ¬ ∀ (s : State) (events : List Event), s.clock = s.standard → hasInDaylightSavingTime s = false →
    Along step (fun before event next => Applied next ∧ Obeyed before event next) s events := by
  intro all
  have later := along_after step _ summer _ [.setDaylightSavingTime daylightTimeAuto, .elapse 7200000] [.networkTime]
    (all summer _ rfl rfl) rfl
  exact absurd (later _ rfl).1.1 (by decide)

end Droidlogic.Core.DaylightSavingTime
