import Droidlogic.Lib.Curve
import Droidlogic.Lib.Run

set_option autoImplicit false

namespace Droidlogic.Pq.DynamicBackLight

open Lib

def colorRangeMode : Int := 0

def gdStepTh : Int := 5

def aplLut : List Int := [0, 16, 35, 58, 69, 80, 91, 102, 235, 255]

inductive DynamicBacklightStatus
  | off
  | low
  | high
deriving DecidableEq

structure DynamicBacklightParam where
  curBacklightValue : Int
  uiBackLightValue : Int
  curDynamicBacklightMode : DynamicBacklightStatus
  histAve : Int
deriving DecidableEq

-- none is a frame without an average: the value stays.
def rangedAverage (value : Int) : Option Int :=
  if colorRangeMode = 1 then
    let value := if value < 16 then 16 else if 236 < value then 236 else value
    some (((value - 16) * 256).tdiv (236 - 16))
  else if value < 0 then some 0
  else if 255 < value then none
  else some value

-- The segment of apl_lut that holds the average, and its width. Both are 0 where none does.
def aplSegment (average : Int) : Nat × Int :=
  match (List.range 9).find? fun i => decide (average ≤ aplLut.getD (i + 1) 0 ∧ aplLut.getD i 0 ≤ average) with
  | some i => (i, aplLut.getD (i + 1) 0 - aplLut.getD i 0)
  | none => (0, 0)

def readLut (lut : List Int) (index : Int) : Option Int := if index < 0 then none else lut[index.toNat]?

-- none is a read outside the table, or a division by zero.
def tableValue (lutMode average : Int) (lut : List Int) : Option Int :=
  if lutMode = 0 then
    let nT0 := average.tdiv 16
    let nT1 := average.tmod 16
    match readLut lut nT0, readLut lut (nT0 + 1) with
    | some nL0, some nR0 => some ((nL0 * (16 - nT1) + nR0 * nT1 + 8).tdiv 16)
    | _, _ => none
  else
    let (nT0, step) := aplSegment average
    let nT1 := average - aplLut.getD nT0 0
    match readLut lut nT0, readLut lut (nT0 + 1) with
    | some nL0, some nR0 =>
        if step = 0 then none else some ((nL0 * (step - nT1) + nR0 * nT1 + step.tdiv 2).tdiv step)
    | _, _ => none

def limitStep (mPreBacklightValue blValue : Int) : Int :=
  let step := blValue - mPreBacklightValue
  let step := if gdStepTh < step then gdStepTh else if step < -gdStepTh then -gdStepTh else step
  mPreBacklightValue + step

def gdFwAlgFrm (lutMode mPreBacklightValue value : Int) (lut : List Int) : Option Int :=
  match rangedAverage value with
  | none => some mPreBacklightValue
  | some average => (tableValue lutMode average lut).map (limitStep mPreBacklightValue)

def backLightScale (backLight uiVal : Int) : Int :=
  if backLight ≤ 0 then 1
  else
    let backLight := if 255 ≤ backLight then 255 else backLight
    let ret := (backLight * uiVal).tdiv 100
    if ret ≤ 0 then 1 else if 255 ≤ ret then 255 else ret

-- The object, the tables of the loop that runs, and what the last frame computed for the display.
structure BackLight where
  mPreBacklightValue : Int
  gdLutMode : Int
  lutHigh : List Int
  lutLow : List Int
  newBacklightValue : Int
  setBacklight : Option Int
deriving DecidableEq

def construct : BackLight := ⟨255, 1, List.replicate 17 0, List.replicate 17 0, 0, none⟩

inductive Event
  | start (lutMode : Int) (lutHigh lutLow : List Int)
  | frame (param : DynamicBacklightParam)

def startLoop (light : BackLight) (lutMode : Int) (lutHigh lutLow : List Int) : BackLight :=
  { light with
    gdLutMode := if lutMode < 0 ∨ 255 < lutMode then 0 else lutMode
    lutHigh := lutHigh
    lutLow := lutLow }

def frameMode (param : DynamicBacklightParam) : DynamicBacklightStatus :=
  if param.histAve = -1 then .off else param.curDynamicBacklightMode

def backLight (light : BackLight) (param : DynamicBacklightParam) : Option Int :=
  match frameMode param with
  | .high => gdFwAlgFrm light.gdLutMode light.mPreBacklightValue param.histAve light.lutHigh
  | .low => gdFwAlgFrm light.gdLutMode light.mPreBacklightValue param.histAve light.lutLow
  | .off => some (if 5 < 255 - light.mPreBacklightValue then light.mPreBacklightValue + 5 else 255)

def frame (light : BackLight) (param : DynamicBacklightParam) : Option BackLight :=
  (backLight light param).map fun value =>
    let newBacklightValue := backLightScale value param.uiBackLightValue
    { light with
      mPreBacklightValue := value
      newBacklightValue := newBacklightValue
      setBacklight := if param.curBacklightValue ≠ newBacklightValue then some newBacklightValue else none }

def step (light : BackLight) : Event → Option BackLight
  | .start lutMode lutHigh lutLow => some (startLoop light lutMode lutHigh lutLow)
  | .frame param => frame light param

def InRange (value : Int) : Prop := 0 ≤ value ∧ value ≤ 255

-- The new format uses the first ten entries only.
def used (lutMode : Int) : Nat := if lutMode = 0 then 17 else 10

structure Usable (lutMode : Int) (lut : List Int) : Prop where
  covered : used lutMode ≤ lut.length
  ranged : ∀ entry ∈ lut.take (used lutMode), InRange entry

def Admitted : Event → Prop
  | .start lutMode lutHigh lutLow =>
      let mode := (startLoop construct lutMode lutHigh lutLow).gdLutMode
      Usable mode lutHigh ∧ Usable mode lutLow
  | .frame param => 0 ≤ param.uiBackLightValue ∧ param.uiBackLightValue ≤ 100

structure Sound (light : BackLight) : Prop where
  ranged : InRange light.mPreBacklightValue
  high : Usable light.gdLutMode light.lutHigh
  low : Usable light.gdLutMode light.lutLow

-- The averages that the entries of a table stand for.
def knots (lutMode : Int) : List Int := if lutMode = 0 then (List.range 17).map fun i : Nat => 16 * (i : Int) else aplLut

-- On the line between the entries left and right of the average.
def Interpolates (lutMode : Int) (lut : List Int) (average value : Int) : Prop :=
  ∃ i left right lower upper, (knots lutMode)[i]? = some left ∧ (knots lutMode)[i + 1]? = some right ∧
    left ≤ average ∧ average ≤ right ∧ lut[i]? = some lower ∧ lut[i + 1]? = some upper ∧
    value = blend lower upper (average - left) (right - left) ∧ min lower upper ≤ value ∧ value ≤ max lower upper

-- What the value goes to while average and mode stay.
def Aims (light : BackLight) (average : Int) (mode : DynamicBacklightStatus) (goal : Int) : Prop :=
  if average = -1 ∨ mode = .off then goal = 255
  else if 255 < average then goal = light.mPreBacklightValue
  else Interpolates light.gdLutMode (if mode = .high then light.lutHigh else light.lutLow) (max 0 average) goal

-- One frame: a value in range, near the one before.
structure Smooth (light next : BackLight) : Prop where
  ranged : InRange next.mPreBacklightValue
  near : -5 ≤ next.mPreBacklightValue - light.mPreBacklightValue ∧
    next.mPreBacklightValue - light.mPreBacklightValue ≤ 5
  shown : 1 ≤ next.newBacklightValue ∧ next.newBacklightValue ≤ 255

def FramesOf (average : Int) (mode : DynamicBacklightStatus) (params : List DynamicBacklightParam) : Prop :=
  ∀ param ∈ params, param.histAve = average ∧ param.curDynamicBacklightMode = mode ∧ Admitted (.frame param)

-- The run goes through, a further frame is smooth, and frames of one average and mode
-- settle within 51.
def StaysSmooth (events : List Event) : Prop :=
  ∃ light, run step construct events = some light ∧ InRange light.mPreBacklightValue ∧
    (∀ param, Admitted (.frame param) → ∃ next, step light (.frame param) = some next ∧ Smooth light next) ∧
    ∀ average mode, ∃ goal, Aims light average mode goal ∧
      ∀ params, FramesOf average mode params → 51 ≤ params.length →
        ∃ settled, run step light (params.map .frame) = some settled ∧ settled.mPreBacklightValue = goal

theorem limit_step_slew (pre value : Int) : limitStep pre value = slew 5 value pre := by
  have limit : gdStepTh = 5 := rfl
  simp only [limitStep, slew]
  by_cases up : gdStepTh < value - pre
  · rw [if_pos up]
    omega
  rw [if_neg up]
  by_cases down : value - pre < -gdStepTh
  · rw [if_pos down]
    omega
  · rw [if_neg down]
    omega

theorem scale_range (backLight uiVal : Int) : 1 ≤ backLightScale backLight uiVal ∧ backLightScale backLight uiVal ≤ 255 := by
  simp only [backLightScale]
  generalize ((if 255 ≤ backLight then 255 else backLight) * uiVal).tdiv 100 = ret
  repeat' split
  all_goals omega

theorem usable_get (lutMode : Int) (lut : List Int) (usable : Usable lutMode lut) (i : Nat) (inside : i < used lutMode) :
    ∃ entry, lut[i]? = some entry ∧ InRange entry := by
  have present : i < lut.length := Nat.lt_of_lt_of_le inside usable.covered
  refine ⟨lut[i], List.getElem?_eq_getElem present, usable.ranged _ ?_⟩
  rw [List.mem_take_iff_getElem]
  exact ⟨i, by omega, rfl⟩

theorem read_lut (lut : List Int) (index : Int) (i : Nat) (same : index = i) : readLut lut index = lut[i]? := by
  rw [readLut, same, if_neg (by omega), Int.toNat_natCast]

-- The ten places of apl_lut cover every average.
theorem segment_found (average : Int) (inside : InRange average) :
    ∃ i < 9, aplLut.getD i 0 ≤ average ∧ average ≤ aplLut.getD (i + 1) 0 ∧
      aplSegment average = (i, aplLut.getD (i + 1) 0 - aplLut.getD i 0) := by
  obtain ⟨low, high⟩ := inside
  rw [aplSegment]
  cases found : (List.range 9).find? fun i =>
      decide (average ≤ aplLut.getD (i + 1) 0 ∧ aplLut.getD i 0 ≤ average) with
  | some i =>
      have holds := List.find?_some found
      have member := List.mem_of_find?_eq_some found
      exact ⟨i, List.mem_range.mp member, (of_decide_eq_true holds).2, (of_decide_eq_true holds).1, rfl⟩
  | none =>
      have nowhere := List.find?_eq_none.mp found
      have apart : ∀ i < 9, ¬(average ≤ aplLut.getD (i + 1) 0 ∧ aplLut.getD i 0 ≤ average) := fun i small holds =>
        nowhere i (List.mem_range.mpr small) (decide_eq_true holds)
      have h0 := apart 0 (by decide)
      have h1 := apart 1 (by decide)
      have h2 := apart 2 (by decide)
      have h3 := apart 3 (by decide)
      have h4 := apart 4 (by decide)
      have h5 := apart 5 (by decide)
      have h6 := apart 6 (by decide)
      have h7 := apart 7 (by decide)
      have h8 := apart 8 (by decide)
      simp only [aplLut, List.getD_cons_succ, List.getD_cons_zero] at h0 h1 h2 h3 h4 h5 h6 h7 h8
      omega

theorem blend_numerator (lower upper distance width : Int) (lower_in : InRange lower) (upper_in : InRange upper)
    (right : 0 ≤ distance) (left : distance ≤ width) :
    0 ≤ lower * (width - distance) + upper * distance + width / 2 := by
  have first := Int.mul_nonneg lower_in.1 (Int.sub_nonneg_of_le left)
  have second := Int.mul_nonneg upper_in.1 right
  omega

theorem blend_range (lower upper distance width : Int) (lower_in : InRange lower) (upper_in : InRange upper)
    (positive : 0 < width) (right : 0 ≤ distance) (left : distance ≤ width) :
    InRange (blend lower upper distance width) := by
  obtain ⟨lowest, highest⟩ := blend_between lower upper distance width positive right left
  obtain ⟨lower0, lower255⟩ := lower_in
  obtain ⟨upper0, upper255⟩ := upper_in
  exact ⟨by omega, by omega⟩

theorem table_value_old (lut : List Int) (average : Int) (usable : Usable 0 lut) (inside : InRange average) :
    ∃ value, tableValue 0 average lut = some value ∧ InRange value ∧ Interpolates 0 lut average value := by
  obtain ⟨low, high⟩ := inside
  obtain ⟨i, place⟩ : ∃ i : Nat, average.tdiv 16 = i :=
    ⟨(average.tdiv 16).toNat, (Int.toNat_of_nonneg (Int.tdiv_nonneg low (by decide))).symm⟩
  have quotient : average / 16 = i := by rw [← place, Int.tdiv_eq_ediv_of_nonneg low]
  have rest : average.tmod 16 = average - 16 * i := by
    rw [Int.tmod_eq_emod_of_nonneg low]
    omega
  have small : i < 16 := by omega
  obtain ⟨lower, lowerAt, lower_in⟩ := usable_get 0 lut usable i (Nat.lt_trans small (by decide))
  obtain ⟨upper, upperAt, upper_in⟩ := usable_get 0 lut usable (i + 1) (Nat.succ_lt_succ small)
  have right : 0 ≤ average - 16 * i := by omega
  have left : average - 16 * i ≤ 16 := by omega
  refine ⟨blend lower upper (average - 16 * i) 16, ?_, ?_, ?_⟩
  · have numerator := blend_numerator lower upper _ 16 lower_in upper_in right left
    have eight : lower * (16 - (average - 16 * i)) + upper * (average - 16 * i) + 8 =
        lower * (16 - (average - 16 * i)) + upper * (average - 16 * i) + 16 / 2 := rfl
    simp only [tableValue, if_true, place, rest, read_lut lut i i rfl, read_lut lut (i + 1) (i + 1) rfl, lowerAt,
      upperAt, eight]
    rw [Int.tdiv_eq_ediv_of_nonneg numerator, blend]
  · exact blend_range lower upper _ 16 lower_in upper_in (by decide) right left
  · have knot (j : Nat) (bound : j < 17) : (knots 0)[j]? = some (16 * (j : Int)) := by
      rw [knots, if_pos rfl, List.getElem?_map, List.getElem?_range bound]
      rfl
    have width : 16 * ((i + 1 : Nat) : Int) - 16 * (i : Int) = 16 := by omega
    have between := blend_between lower upper (average - 16 * i) 16 (by decide) right left
    refine ⟨i, 16 * (i : Int), 16 * ((i + 1 : Nat) : Int), lower, upper, knot i (by omega), knot (i + 1) (by omega),
      by omega, by omega, lowerAt, upperAt, ?_, between⟩
    rw [width]

theorem table_value_new (lutMode : Int) (lut : List Int) (average : Int) (new : lutMode ≠ 0) (usable : Usable lutMode lut)
    (inside : InRange average) :
    ∃ value, tableValue lutMode average lut = some value ∧ InRange value ∧ Interpolates lutMode lut average value := by
  obtain ⟨i, small, low, high, segment⟩ := segment_found average inside
  have ten : used lutMode = 10 := if_neg new
  obtain ⟨lower, lowerAt, lower_in⟩ := usable_get lutMode lut usable i (by omega)
  obtain ⟨upper, upperAt, upper_in⟩ := usable_get lutMode lut usable (i + 1) (by omega)
  have rising : ∀ i < 9, aplLut.getD i 0 < aplLut.getD (i + 1) 0 := by decide
  have knot : ∀ j < 10, aplLut[j]? = some (aplLut.getD j 0) := by decide
  have wide := rising i small
  have right : 0 ≤ average - aplLut.getD i 0 := by omega
  have left : average - aplLut.getD i 0 ≤ aplLut.getD (i + 1) 0 - aplLut.getD i 0 := by omega
  have positive : 0 < aplLut.getD (i + 1) 0 - aplLut.getD i 0 := by omega
  refine ⟨blend lower upper (average - aplLut.getD i 0) (aplLut.getD (i + 1) 0 - aplLut.getD i 0), ?_, ?_, ?_⟩
  · have numerator := blend_numerator lower upper _ _ lower_in upper_in right left
    have half : (aplLut.getD (i + 1) 0 - aplLut.getD i 0).tdiv 2 = (aplLut.getD (i + 1) 0 - aplLut.getD i 0) / 2 :=
      Int.tdiv_eq_ediv_of_nonneg (Int.le_of_lt positive)
    simp only [tableValue, if_neg new, segment, read_lut lut i i rfl, read_lut lut (i + 1) (i + 1) rfl, lowerAt, upperAt,
      if_neg (Int.ne_of_gt positive), half]
    rw [Int.tdiv_eq_ediv_of_nonneg numerator, blend]
  · exact blend_range lower upper _ _ lower_in upper_in positive right left
  · have between := blend_between lower upper _ _ positive right left
    rw [Interpolates, knots, if_neg new]
    exact ⟨i, _, _, lower, upper, knot i (by omega), knot (i + 1) (by omega), low, high, lowerAt, upperAt, rfl, between⟩

theorem table_value_spec (lutMode : Int) (lut : List Int) (average : Int) (usable : Usable lutMode lut)
    (inside : InRange average) :
    ∃ value, tableValue lutMode average lut = some value ∧ InRange value ∧ Interpolates lutMode lut average value := by
  by_cases old : lutMode = 0
  · subst old
    exact table_value_old lut average usable inside
  · exact table_value_new lutMode lut average old usable inside

-- What a frame goes to, as the code computes it.
def aim (light : BackLight) (average : Int) (mode : DynamicBacklightStatus) : Option Int :=
  if average = -1 ∨ mode = .off then some 255
  else
    match rangedAverage average with
    | none => some light.mPreBacklightValue
    | some ranged => tableValue light.gdLutMode ranged (if mode = .high then light.lutHigh else light.lutLow)

theorem ranged_average (average : Int) :
    rangedAverage average = if 255 < average then none else some (max 0 average) := by
  rw [rangedAverage, if_neg (by decide)]
  by_cases negative : average < 0
  · rw [if_pos negative, if_neg (by omega), Int.max_eq_left (by omega)]
  · rw [if_neg negative, Int.max_eq_right (by omega)]

theorem aim_spec (light : BackLight) (sound : Sound light) (average : Int) (mode : DynamicBacklightStatus) :
    ∃ goal, aim light average mode = some goal ∧ InRange goal ∧ Aims light average mode goal := by
  simp only [aim, Aims, ranged_average]
  by_cases off : average = -1 ∨ mode = .off
  · simp only [if_pos off]
    exact ⟨255, rfl, ⟨by decide, by decide⟩, rfl⟩
  simp only [if_neg off]
  by_cases bright : 255 < average
  · simp only [if_pos bright]
    exact ⟨_, rfl, sound.ranged, rfl⟩
  · simp only [if_neg bright]
    have inside : InRange (max 0 average) := ⟨by omega, by omega⟩
    refine table_value_spec light.gdLutMode _ _ ?_ inside
    split
    · exact sound.high
    · exact sound.low

-- Every branch of a frame is a step towards its aim.
theorem back_light_slew (light : BackLight) (sound : Sound light) (param : DynamicBacklightParam) :
    backLight light param =
      (aim light param.histAve param.curDynamicBacklightMode).map fun goal => slew 5 goal light.mPreBacklightValue := by
  have low := sound.ranged.1
  have high := sound.ranged.2
  have dimmed : (if 5 < 255 - light.mPreBacklightValue then light.mPreBacklightValue + 5 else 255) =
      slew 5 255 light.mPreBacklightValue := by
    rw [slew]
    by_cases far : 5 < 255 - light.mPreBacklightValue
    · rw [if_pos far]
      omega
    · rw [if_neg far]
      omega
  have still : slew 5 light.mPreBacklightValue light.mPreBacklightValue = light.mPreBacklightValue := by
    rw [slew]
    omega
  have formed (lut : List Int) : gdFwAlgFrm light.gdLutMode light.mPreBacklightValue param.histAve lut =
      (match rangedAverage param.histAve with
        | none => some light.mPreBacklightValue
        | some ranged => tableValue light.gdLutMode ranged lut).map fun goal => slew 5 goal light.mPreBacklightValue := by
    rw [gdFwAlgFrm]
    cases rangedAverage param.histAve with
    | none => rw [Option.map_some, still]
    | some ranged => exact congrArg (fun f => Option.map f _) (funext (limit_step_slew light.mPreBacklightValue))
  rw [backLight, frameMode, aim, dimmed]
  by_cases absent : param.histAve = -1
  · rw [if_pos absent, if_pos (.inl absent)]
    rfl
  rw [if_neg absent]
  cases param.curDynamicBacklightMode with
  | off =>
      rw [if_pos (.inr rfl)]
      rfl
  | low =>
      rw [if_neg (by simp [absent])]
      exact formed light.lutLow
  | high =>
      rw [if_neg (by simp [absent])]
      exact formed light.lutHigh

theorem frame_spec (light : BackLight) (sound : Sound light) (param : DynamicBacklightParam) (goal : Int)
    (aimed : aim light param.histAve param.curDynamicBacklightMode = some goal) :
    ∃ next, step light (.frame param) = some next ∧ next.mPreBacklightValue = slew 5 goal light.mPreBacklightValue ∧
      next.gdLutMode = light.gdLutMode ∧ next.lutHigh = light.lutHigh ∧ next.lutLow = light.lutLow ∧
      next.newBacklightValue = backLightScale next.mPreBacklightValue param.uiBackLightValue := by
  rw [step, frame, back_light_slew light sound param, aimed]
  exact ⟨_, rfl, rfl, rfl, rfl, rfl, rfl⟩

theorem frame_smooth (light : BackLight) (sound : Sound light) (param : DynamicBacklightParam) :
    ∃ next, step light (.frame param) = some next ∧ Smooth light next ∧ Sound next := by
  obtain ⟨goal, aimed, inside, _⟩ := aim_spec light sound param.histAve param.curDynamicBacklightMode
  obtain ⟨next, taken, value, lutMode, high, low, shown⟩ := frame_spec light sound param goal aimed
  have ranged : InRange next.mPreBacklightValue := value ▸ slew_between 5 goal _ 0 255 (by decide) sound.ranged inside
  refine ⟨next, taken, ⟨ranged, value ▸ slew_step 5 goal _ (by decide), shown ▸ scale_range _ _⟩, ranged, ?_, ?_⟩
  · rw [lutMode, high]
    exact sound.high
  · rw [lutMode, low]
    exact sound.low

theorem step_sound (light : BackLight) (event : Event) (sound : Sound light) (admitted : Admitted event) :
    ∃ next, step light event = some next ∧ Sound next := by
  cases event with
  | start lutMode lutHigh lutLow => exact ⟨_, rfl, sound.ranged, admitted.1, admitted.2⟩
  | frame param =>
      obtain ⟨next, taken, _, after⟩ := frame_smooth light sound param
      exact ⟨next, taken, after⟩

theorem run_sound (light : BackLight) (sound : Sound light) (events : List Event)
    (admitted : ∀ event ∈ events, Admitted event) : ∃ final, run step light events = some final ∧ Sound final := by
  induction events generalizing light with
  | nil => exact ⟨light, rfl, sound⟩
  | cons event rest ih =>
      obtain ⟨next, taken, after⟩ := step_sound light event sound (admitted event (.head _))
      obtain ⟨final, reached, whole⟩ := ih next after fun later member => admitted later (.tail _ member)
      exact ⟨final, Option.bind_eq_some_iff.mpr ⟨next, taken, reached⟩, whole⟩

-- A step towards the aim leaves the aim where it is.
theorem aim_kept (light next : BackLight) (average : Int) (mode : DynamicBacklightStatus) (goal : Int)
    (aimed : aim light average mode = some goal) (value : next.mPreBacklightValue = slew 5 goal light.mPreBacklightValue)
    (lutMode : next.gdLutMode = light.gdLutMode) (high : next.lutHigh = light.lutHigh)
    (low : next.lutLow = light.lutLow) : aim next average mode = some goal := by
  rw [aim] at aimed ⊢
  split
  · rename_i off
    rw [if_pos off] at aimed
    exact aimed
  · rename_i on
    rw [if_neg on] at aimed
    rw [lutMode, high, low]
    cases ranged : rangedAverage average with
    | some inside =>
        rw [ranged] at aimed
        exact aimed
    | none =>
        rw [ranged] at aimed
        cases aimed
        refine congrArg some ?_
        rw [value, slew]
        omega

theorem frames_slew (light : BackLight) (sound : Sound light) (average : Int) (mode : DynamicBacklightStatus) (goal : Int)
    (aimed : aim light average mode = some goal) (params : List DynamicBacklightParam)
    (same : FramesOf average mode params) :
    ∃ settled, run step light (params.map .frame) = some settled ∧
      settled.mPreBacklightValue = (slew 5 goal)^[params.length] light.mPreBacklightValue := by
  induction params generalizing light with
  | nil => exact ⟨light, rfl, rfl⟩
  | cons param rest ih =>
      obtain ⟨ave, shown, _⟩ := same param (.head _)
      obtain ⟨next, taken, value, lutMode, high, low, _⟩ := frame_spec light sound param goal (by rw [ave, shown, aimed])
      obtain ⟨other, takenToo, _, after⟩ := frame_smooth light sound param
      cases Option.some.inj (taken.symm.trans takenToo)
      obtain ⟨settled, reached, final⟩ := ih next after (aim_kept light next average mode goal aimed value lutMode high low)
        fun later member => same later (.tail _ member)
      refine ⟨settled, Option.bind_eq_some_iff.mpr ⟨next, taken, reached⟩, ?_⟩
      rw [final, value, List.length_cons, Function.iterate_succ_apply]

theorem construct_sound : Sound construct := by
  have zeros : Usable 1 (List.replicate 17 0) := by
    refine ⟨by decide, fun entry member => ?_⟩
    rw [List.eq_of_mem_replicate (List.mem_of_mem_take member)]
    exact ⟨by decide, by decide⟩
  exact ⟨⟨by decide, by decide⟩, zeros, zeros⟩

theorem backlight_smooth (events : List Event) (admitted : ∀ event ∈ events, Admitted event) : StaysSmooth events := by
  obtain ⟨light, reached, sound⟩ := run_sound construct construct_sound events admitted
  refine ⟨light, reached, sound.ranged, fun param _ => ?_, fun average mode => ?_⟩
  · obtain ⟨next, taken, smooth, _⟩ := frame_smooth light sound param
    exact ⟨next, taken, smooth⟩
  · obtain ⟨goal, aimed, inside, aims⟩ := aim_spec light sound average mode
    refine ⟨goal, aims, fun params same enough => ?_⟩
    obtain ⟨settled, done, value⟩ := frames_slew light sound average mode goal aimed params same
    have low := sound.ranged.1
    have high := sound.ranged.2
    have goal0 := inside.1
    have goal255 := inside.2
    refine ⟨settled, done, value.trans (slew_settles 5 goal _ params.length (by decide) ?_ ?_)⟩
    · omega
    · omega

def sampleLut : List Int := [0, 10, 20, 40, 60, 80, 100, 140, 200, 255, 255, 255, 255, 255, 255, 255, 255]

def darkFrame : DynamicBacklightParam := ⟨255, 100, .high, 40⟩

theorem sample_run_smooth : StaysSmooth [.start 1 sampleLut sampleLut, .frame darkFrame] := by
  have usable : Usable 1 sampleLut := by
    refine ⟨by decide, fun entry member => ?_⟩
    have all : ∀ entry ∈ sampleLut.take (used 1), 0 ≤ entry ∧ entry ≤ 255 := by decide
    exact all entry member
  refine backlight_smooth [.start 1 sampleLut sampleLut, .frame darkFrame] fun event member => ?_
  rcases List.mem_cons.mp member with rfl | member
  · exact ⟨usable, usable⟩
  · rw [List.mem_singleton.mp member]
    exact ⟨by decide, by decide⟩

def brightFrame : DynamicBacklightParam := ⟨255, 100, .high, 300⟩

-- An average above 255 is not a place of the table: the value stays at 255 over a table of zeros.
theorem bright_average_kept :
    (run step construct (.start 0 (List.replicate 17 0) (List.replicate 17 0) ::
        List.replicate 51 (.frame brightFrame))).map BackLight.mPreBacklightValue = some 255 ∧
      ¬Interpolates 0 (List.replicate 17 0) (max 0 brightFrame.histAve) 255 := by
  refine ⟨by decide +kernel, ?_⟩
  rintro ⟨i, left, right, lower, upper, _, _, _, _, lowerAt, upperAt, _, _, below⟩
  have none_of (place : Nat) (entry : Int) (found : (List.replicate 17 (0 : Int))[place]? = some entry) : entry = 0 :=
    List.eq_of_mem_replicate (List.mem_of_getElem? found)
  rw [none_of i lower lowerAt, none_of (i + 1) upper upperAt] at below
  exact absurd below (by decide)

end Droidlogic.Pq.DynamicBackLight
