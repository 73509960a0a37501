import Droidlogic.Display.OutputMode

set_option autoImplicit false

namespace Droidlogic.Display.ColorChoice

open Lib Bootenv

section
variable {device : EnvDevice} (config : Config) (output : Output device)

def Filtered (color : CStr) : Prop :=
  output.nodes .edidRaw ∈ config.mFilterEdid ∧ contains color.bytes bit8.bytes = false

instance (color : CStr) : Decidable (Filtered config output color) :=
  inferInstanceAs (Decidable (_ ∧ _))

-- The driver answers for the mode and the colour in one text.
def Valid (outputmode color : CStr) : Prop := atoi (config.driver.validMode (outputmode.append color)).bytes ≠ 0

instance (outputmode color : CStr) : Decidable (Valid config outputmode color) :=
  inferInstanceAs (Decidable (_ ≠ _))

def Taken (outputmode color : CStr) : Prop := Valid config outputmode color ∧ ¬Filtered config output color

instance (outputmode color : CStr) : Decidable (Taken config output outputmode color) :=
  inferInstanceAs (Decidable (_ ∧ _))

def Listed (color : CStr) : Prop := contains (output.nodes .hdmiDeepColor).bytes color.bytes = true

instance (color : CStr) : Decidable (Listed output color) := inferInstanceAs (Decidable (_ = _))

def BestModeOff : Prop := getValue output.board.env (nameOf ubootenvIsbestmode) = some falseText

instance : Decidable (BestModeOff output) := inferInstanceAs (Decidable (_ = _))

def savedValue (outputmode : CStr) : Option CStr :=
  getValue output.board.env (nameOf (outputmode.append deepcolor))

def suits (outputmode value : CStr) : Bool :=
  contains value.bytes bit.bytes && Taken config output outputmode value

-- The attribute that the environment has for the mode.
def preferred (outputmode : CStr) : Option CStr :=
  if BestModeOff output then (savedValue output outputmode).filter (suits config output outputmode) else none

def firstTaken (outputmode : CStr) (colors : List CStr) : Option CStr :=
  colors.find? fun color => Listed output color && Taken config output outputmode color

-- What the caller is promised.
def choice (outputmode : CStr) : CStr :=
  match preferred config output outputmode with
  | some value => value
  | none => (firstTaken config output outputmode (colorList output outputmode)).getD (colorYcbcr444 bit8)

-- A colour that is filtered is not put to the driver.
structure QueryFits (outputmode color : CStr) : Prop where
  mode : (outputmode.append color).bytes.length < modeLen
  edid : (output.nodes .edidRaw).bytes.length < edidSize
  answer : ¬Filtered config output color → (config.driver.validMode (outputmode.append color)).bytes.length < 10

-- The colours that are tried: those the sink lists, up to the first that is taken.
def ListFits (outputmode : CStr) (colors : List CStr) : Prop :=
  ∀ before color after, colors = before ++ color :: after →
    (∀ earlier ∈ before, Listed output earlier → ¬Taken config output outputmode earlier) → Listed output color →
      QueryFits config output outputmode color

structure SavedFits (outputmode : CStr) : Prop where
  name : (nameOf (outputmode.append deepcolor)).bytes.length < modeLen
  value : ∀ value, savedValue output outputmode = some value →
    value.bytes.length < modeLen ∧ (contains value.bytes bit.bytes = true → QueryFits config output outputmode value)

structure Fits (outputmode : CStr) : Prop where
  best : ∀ value, getValue output.board.env (nameOf ubootenvIsbestmode) = some value → value.bytes.length < modeLen
  saved : BestModeOff output → SavedFits config output outputmode
  sink : preferred config output outputmode = none → (output.nodes .hdmiDeepColor).bytes.length < maxStrLen
  list : preferred config output outputmode = none →
    ListFits config output outputmode (colorList output outputmode)

theorem copy_iff (capacity : Nat) (text copied : CStr) :
    copy capacity text = some copied ↔ text.bytes.length < capacity ∧ copied = text := by
  rw [copy, strcpy]
  split
  · rename_i fits
    rw [Option.map_some, Option.some.injEq, eq_comm]
    exact (and_iff_right fits).symm
  · rename_i long
    exact iff_of_false (Option.some_ne_none copied).symm fun both => long both.1

theorem filtered_flag (color : CStr) :
    (decide (output.nodes .edidRaw ∈ config.mFilterEdid) && !contains color.bytes bit8.bytes) =
      decide (Filtered config output color) := by
  rw [Bool.eq_iff_iff, Bool.and_eq_true, decide_eq_true_iff, Bool.not_eq_true', decide_eq_true_iff]
  exact Iff.rfl

theorem supports_iff (outputmode color : CStr) (answer : Bool) :
    isModeSupportDeepColorAttr config output outputmode color = some answer ↔
      QueryFits config output outputmode color ∧ answer = decide (Taken config output outputmode color) := by
  simp only [isModeSupportDeepColorAttr, isFilterEdid, Option.bind_eq_bind, Option.bind_eq_some_iff, copy_iff,
    Option.some.injEq]
  by_cases blocked : Filtered config output color
  · have refused : decide (Taken config output outputmode color) = false :=
      decide_eq_false fun taken => taken.2 blocked
    rw [refused]
    constructor
    · rintro ⟨_, ⟨mode, rfl⟩, _, ⟨_, ⟨edid, rfl⟩, rfl⟩, done⟩
      rw [filtered_flag, if_pos (decide_eq_true blocked)] at done
      exact ⟨⟨mode, edid, fun free => absurd blocked free⟩, (Option.some.inj done).symm⟩
    · rintro ⟨query, rfl⟩
      refine ⟨_, ⟨query.mode, rfl⟩, _, ⟨_, ⟨query.edid, rfl⟩, rfl⟩, ?_⟩
      rw [filtered_flag, if_pos (decide_eq_true blocked)]
  · have asked : decide (Taken config output outputmode color) =
        decide (atoi (config.driver.validMode (outputmode.append color)).bytes ≠ 0) :=
      decide_eq_decide.mpr ⟨And.left, fun valid => ⟨valid, blocked⟩⟩
    have flag : ¬decide (Filtered config output color) = true := fun flag => blocked (of_decide_eq_true flag)
    rw [asked]
    constructor
    · rintro ⟨_, ⟨mode, rfl⟩, _, ⟨_, ⟨edid, rfl⟩, rfl⟩, done⟩
      rw [filtered_flag, if_neg flag] at done
      obtain ⟨_, read, valid⟩ := Option.bind_eq_some_iff.mp done
      obtain ⟨small, rfl⟩ := (copy_iff _ _ _).mp read
      exact ⟨⟨mode, edid, fun _ => small⟩, (Option.some.inj valid).symm⟩
    · rintro ⟨query, rfl⟩
      refine ⟨_, ⟨query.mode, rfl⟩, _, ⟨_, ⟨query.edid, rfl⟩, rfl⟩, ?_⟩
      rw [filtered_flag, if_neg flag]
      exact Option.bind_eq_some_iff.mpr ⟨_, (copy_iff _ _ _).mpr ⟨query.answer blocked, rfl⟩, rfl⟩

-- A colour that is not chosen leaves the search to the rest of the list.
theorem list_fits_cons (outputmode first : CStr) (rest : List CStr) :
    ListFits config output outputmode (first :: rest) ↔
      (Listed output first → QueryFits config output outputmode first) ∧
        ((Listed output first → ¬Taken config output outputmode first) → ListFits config output outputmode rest) := by
  constructor
  · intro fits
    refine ⟨fits [] first rest rfl nofun, fun passed before color after split earlier => ?_⟩
    refine fits (first :: before) color after (congrArg (first :: ·) split) fun other member => ?_
    rcases List.mem_cons.mp member with rfl | member
    · exact passed
    · exact earlier other member
  · rintro ⟨head, tail⟩ before color after split earlier
    cases before with
    | nil =>
        cases split
        exact head
    | cons other before =>
        cases split
        exact tail (earlier first List.mem_cons_self) before color after rfl fun other member =>
          earlier other (List.mem_cons_of_mem _ member)

theorem first_supported_cons (outputmode fallback first color : CStr) (rest : List CStr) (listed : Listed output first) :
    firstSupported config output (output.nodes .hdmiDeepColor) outputmode fallback (first :: rest) = some color ↔
      QueryFits config output outputmode first ∧
        (if Taken config output outputmode first then some first
          else firstSupported config output (output.nodes .hdmiDeepColor) outputmode fallback rest) = some color := by
  have inside : contains (output.nodes .hdmiDeepColor).bytes first.bytes = true := listed
  rw [firstSupported, if_pos inside, Option.bind_eq_bind, Option.bind_eq_some_iff]
  simp only [supports_iff, and_assoc, exists_and_left, exists_eq_left, decide_eq_true_eq]

theorem first_supported_iff (outputmode fallback color : CStr) (colors : List CStr) :
    firstSupported config output (output.nodes .hdmiDeepColor) outputmode fallback colors = some color ↔
      ListFits config output outputmode colors ∧
        color = (firstTaken config output outputmode colors).getD fallback := by
  induction colors with
  | nil =>
      rw [firstSupported, Option.some.injEq, eq_comm]
      refine (and_iff_right ?_).symm
      intro before _ after split
      exact absurd split (by simp)
  | cons first rest ih =>
      rw [list_fits_cons]
      by_cases listed : Listed output first
      · rw [first_supported_cons config output outputmode fallback first color rest listed, forall_prop_of_true listed,
          and_assoc]
        refine and_congr_right fun _ => ?_
        by_cases taken : Taken config output outputmode first
        · have found : firstTaken config output outputmode (first :: rest) = some first :=
            List.find?_cons_of_pos (by rw [decide_eq_true listed, decide_eq_true taken]; rfl)
          rw [if_pos taken, found, Option.getD_some, Option.some.injEq, eq_comm]
          exact (and_iff_right fun passed => absurd taken (passed listed)).symm
        · have passed : firstTaken config output outputmode (first :: rest) = firstTaken config output outputmode rest :=
            List.find?_cons_of_neg (by rw [decide_eq_false taken, Bool.and_false]; exact Bool.false_ne_true)
          rw [if_neg taken, passed, ih, forall_prop_of_true fun _ => taken]
      · have passed : firstTaken config output outputmode (first :: rest) = firstTaken config output outputmode rest :=
          List.find?_cons_of_neg (by rw [decide_eq_false listed, Bool.false_and]; exact Bool.false_ne_true)
        have outside : ¬contains (output.nodes .hdmiDeepColor).bytes first.bytes = true := listed
        have skipped : Listed output first → ¬Taken config output outputmode first := fun inside => absurd inside listed
        rw [firstSupported, if_neg outside, passed, ih, forall_prop_of_true skipped]
        exact and_congr_left fun _ => (and_iff_right fun inside => absurd inside listed).symm

theorem color_list_bits (outputmode : CStr) : ∀ color ∈ colorList output outputmode, contains color.bytes bit.bytes = true := by
  have all : ∀ colors ∈ [colorAttributeList1, colorAttributeList2, colorAttributeList3, colorAttributeList4],
      ∀ color ∈ colors, contains color.bytes bit.bytes = true := by
    decide
  refine all _ ?_
  rw [colorList]
  split <;> split <;> simp

theorem nothing_supported (outputmode fallback : CStr) (colors : List CStr)
    (bits : ∀ color ∈ colors, contains color.bytes bit.bytes = true) :
    firstSupported config output .empty outputmode fallback colors = some fallback := by
  induction colors with
  | nil => rfl
  | cons first rest ih =>
      have absent : ¬contains CStr.empty.bytes first.bytes = true := by
        intro inside
        have nothing := List.eq_nil_of_infix_nil ((contains_iff _ _).mp inside)
        have its := bits first List.mem_cons_self
        rw [nothing] at its
        exact absurd its (by decide)
      rw [firstSupported, if_neg absent]
      exact ih fun color member => bits color (List.mem_cons_of_mem _ member)

theorem best_color_iff (outputmode fallback color : CStr) :
    getBestHdmiDeepColorAttr config output outputmode fallback = some color ↔
      ((output.nodes .hdmiDeepColor).bytes.length < maxStrLen ∧
        ListFits config output outputmode (colorList output outputmode)) ∧
        color = (firstTaken config output outputmode (colorList output outputmode)).getD fallback := by
  have search (sink : CStr) :
      (if sink = .empty then some fallback
        else firstSupported config output sink outputmode fallback (colorList output outputmode)) =
        firstSupported config output sink outputmode fallback (colorList output outputmode) := by
    split
    · rename_i empty
      rw [empty]
      exact (nothing_supported config output outputmode fallback _ (color_list_bits output outputmode)).symm
    · rfl
  rw [getBestHdmiDeepColorAttr, Option.bind_eq_bind, Option.bind_eq_some_iff, and_assoc,
    ← first_supported_iff config output outputmode fallback color]
  simp only [search, copy_iff]
  constructor
  · rintro ⟨_, ⟨small, rfl⟩, done⟩
    exact ⟨small, done⟩
  · rintro ⟨small, done⟩
    exact ⟨_, ⟨small, rfl⟩, done⟩

theorem boot_env_iff (capacity : Nat) (key : CStr) (value : Option CStr) :
    getBootEnv capacity output.board.env key = some value ↔
      (∀ text, getValue output.board.env key = some text → text.bytes.length < capacity) ∧
        value = getValue output.board.env key := by
  rw [getBootEnv]
  cases getValue output.board.env key with
  | none => simp [eq_comm]
  | some text =>
      simp only [Option.map_eq_some_iff, copy_iff, Option.some.injEq, forall_eq']
      constructor
      · rintro ⟨_, ⟨small, rfl⟩, rfl⟩
        exact ⟨small, rfl⟩
      · rintro ⟨small, rfl⟩
        exact ⟨text, ⟨small, rfl⟩, rfl⟩

theorem saved_value_iff (outputmode value color : CStr) :
    (if contains value.bytes bit.bytes then
        (isModeSupportDeepColorAttr config output outputmode value).bind fun supported =>
          some (if supported then value else .empty)
      else some .empty) = some color ↔
      (contains value.bytes bit.bytes = true → QueryFits config output outputmode value) ∧
        color = ((some value).filter (suits config output outputmode)).getD .empty := by
  rw [Option.filter_some, suits]
  by_cases bits : contains value.bytes bit.bytes = true
  · rw [if_pos bits, forall_prop_of_true bits, bits, Bool.true_and, Option.bind_eq_some_iff]
    simp only [supports_iff, Option.some.injEq]
    constructor
    · rintro ⟨_, ⟨query, rfl⟩, rfl⟩
      refine ⟨query, ?_⟩
      split <;> rfl
    · rintro ⟨query, rfl⟩
      refine ⟨_, ⟨query, rfl⟩, ?_⟩
      split <;> rfl
  · have without : contains value.bytes bit.bytes = false := Bool.eq_false_iff.mpr bits
    rw [without, if_neg nofun, Bool.false_and, if_neg nofun, Option.getD_none, Option.some.injEq, eq_comm]
    exact (and_iff_right nofun).symm

theorem saved_color_iff (outputmode color : CStr) :
    savedColor config output outputmode = some color ↔
      ((∀ value, getValue output.board.env (nameOf ubootenvIsbestmode) = some value → value.bytes.length < modeLen) ∧
        (BestModeOff output → SavedFits config output outputmode)) ∧
        color = (preferred config output outputmode).getD .empty := by
  rw [savedColor, Option.bind_eq_bind, Option.bind_eq_some_iff]
  simp only [boot_env_iff, and_assoc, exists_and_left, exists_eq_left]
  refine and_congr_right fun _ => ?_
  by_cases off : BestModeOff output
  · have off' : getValue output.board.env (nameOf ubootenvIsbestmode) = some falseText := off
    rw [if_pos off', preferred, if_pos off, forall_prop_of_true off, Option.bind_eq_bind, Option.bind_eq_some_iff]
    simp only [copy_iff, Option.bind_eq_some_iff, boot_env_iff, and_assoc, exists_and_left, exists_eq_left]
    cases held : savedValue output outputmode with
    | none =>
        have nothing : getValue output.board.env (nameOf (outputmode.append deepcolor)) = none := held
        rw [nothing]
        constructor
        · rintro ⟨name, _, done⟩
          exact ⟨⟨name, fun _ found => absurd (held.symm.trans found).symm (Option.some_ne_none _)⟩, (Option.some.inj done).symm⟩
        · rintro ⟨fits, rfl⟩
          exact ⟨fits.name, fun _ found => absurd found.symm (Option.some_ne_none _), rfl⟩
    | some value =>
        have its : getValue output.board.env (nameOf (outputmode.append deepcolor)) = some value := held
        rw [its]
        constructor
        · rintro ⟨name, small, done⟩
          obtain ⟨query, same⟩ := (saved_value_iff config output outputmode value color).mp done
          refine ⟨⟨name, ?_⟩, same⟩
          intro other found
          cases held.symm.trans found
          exact ⟨small value rfl, query⟩
        · rintro ⟨fits, same⟩
          obtain ⟨small, query⟩ := fits.value value held
          refine ⟨fits.name, ?_, (saved_value_iff config output outputmode value color).mpr ⟨query, same⟩⟩
          rintro _ ⟨⟩
          exact small
  · have on : ¬getValue output.board.env (nameOf ubootenvIsbestmode) = some falseText := off
    rw [if_neg on, preferred, if_neg off, Option.getD_none, Option.some.injEq, eq_comm]
    exact (and_iff_right fun other => absurd other off).symm

theorem preferred_bits (outputmode value : CStr) (held : preferred config output outputmode = some value) :
    contains value.bytes bit.bytes = true := by
  rw [preferred] at held
  split at held
  · exact (Bool.and_eq_true_iff.mp (Option.filter_eq_some_iff.mp held).2).1
  · cases held

theorem not_empty (value : CStr) (bits : contains value.bytes bit.bytes = true) : value ≠ .empty := by
  rintro rfl
  exact absurd bits (by decide)

theorem first_taken_bits (outputmode color : CStr)
    (found : firstTaken config output outputmode (colorList output outputmode) = some color) :
    contains color.bytes bit.bytes = true :=
  color_list_bits output outputmode color (List.mem_of_find?_eq_some found)

theorem proper_color_iff (outputmode : CStr) :
    getProperHdmiColorArrtibute config output outputmode = some (choice config output outputmode) ↔
      Fits config output outputmode := by
  rw [getProperHdmiColorArrtibute, Option.bind_eq_bind, Option.bind_eq_some_iff, choice]
  simp only [saved_color_iff]
  cases held : preferred config output outputmode with
  | some value =>
      have text := not_empty value (preferred_bits config output outputmode value held)
      constructor
      · rintro ⟨_, ⟨⟨best, saved⟩, rfl⟩, _⟩
        have chosen : preferred config output outputmode ≠ none := held ▸ Option.some_ne_none _
        exact ⟨best, saved, fun none => absurd none chosen, fun none => absurd none chosen⟩
      · intro fits
        refine ⟨value, ⟨⟨fits.best, fits.saved⟩, rfl⟩, ?_⟩
        rw [if_pos text]
  | none =>
      have fallback : ∀ found, found = firstTaken config output outputmode (colorList output outputmode) →
          (if contains (found.getD .empty).bytes bit.bytes then found.getD .empty else colorYcbcr444 bit8) =
            found.getD (colorYcbcr444 bit8) := by
        intro found same
        cases found with
        | none => exact if_neg (by decide)
        | some color => exact if_pos (first_taken_bits config output outputmode color same.symm)
      constructor
      · rintro ⟨_, ⟨⟨best, saved⟩, rfl⟩, done⟩
        rw [if_neg (fun other => other rfl), Option.bind_eq_some_iff] at done
        obtain ⟨color, chosen, _⟩ := done
        obtain ⟨⟨sink, list⟩, _⟩ := (best_color_iff config output outputmode .empty color).mp chosen
        exact ⟨best, saved, fun _ => sink, fun _ => list⟩
      · intro fits
        refine ⟨.empty, ⟨⟨fits.best, fits.saved⟩, rfl⟩, ?_⟩
        rw [if_neg (fun other => other rfl), Option.bind_eq_some_iff]
        refine ⟨_, (best_color_iff config output outputmode .empty _).mpr ⟨⟨fits.sink held, fits.list held⟩, rfl⟩, ?_⟩
        rw [fallback _ rfl]

end

def longMode : CStr := ⟨List.replicate 58 0x31 ++ ascii ['h', 'z'], by decide +kernel⟩

def withSink {device : EnvDevice} (output : Output device) (colors : CStr) : Output device :=
  { output with
    nodes := fun node =>
      match node with
      | .hdmiDeepColor => colors
      | _ => .empty }

-- The mode and the colour together do not fit in outputmode.
theorem long_mode_overruns :
    longMode.bytes.length < modeLen ∧ choice box (withSink (shownOn sd60) (colorYcbcr444 bit8)) longMode = colorYcbcr444 bit8 ∧
      getProperHdmiColorArrtibute box (withSink (shownOn sd60) (colorYcbcr444 bit8)) longMode = none := by
  decide +kernel

end Droidlogic.Display.ColorChoice
