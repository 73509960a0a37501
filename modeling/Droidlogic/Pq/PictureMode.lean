import Droidlogic.Lib.Run
import Droidlogic.Pq.Source

set_option autoImplicit false

namespace Droidlogic.Pq.Picture

open Droidlogic.Lib

inductive PictureMode
  | standard
  | bright
  | soft
  | user
  | movie
  | colorful
  | monitor
  | game
  | sports
  | sony
  | samsung
  | sharp
deriving DecidableEq

def PictureMode.code : PictureMode → UInt8
  | .standard => 0
  | .bright => 1
  | .soft => 2
  | .user => 3
  | .movie => 4
  | .colorful => 5
  | .monitor => 6
  | .game => 7
  | .sports => 8
  | .sony => 9
  | .samsung => 10
  | .sharp => 11

def PictureMode.all : List PictureMode :=
  [.standard, .bright, .soft, .user, .movie, .colorful, .monitor, .game, .sports, .sony, .samsung, .sharp]

structure PqPara where
  brightness : Int
  contrast : Int
  saturation : Int
  hue : Int
  sharpness : Int
deriving DecidableEq

inductive SwitchType
  | manual
  | auto
  | init
deriving DecidableEq

-- The arguments of vdinUpdateForPQ.
structure Status where
  game : Bool
  monitor : Bool
  switchType : SwitchType
deriving DecidableEq

structure Setup where
  sourceInput : Source
  initialized : Bool
  dbParams : PictureMode → PqPara
  ssmParams : PqPara

-- savedByte is the picture mode in the SSM area, status what the tv service was
-- told last, params what SetPQParams programmed last.
structure Control where
  savedByte : UInt8
  status : Status
  params : PqPara
deriving DecidableEq

def getPQMode (s : Control) : PictureMode :=
  (PictureMode.all.find? fun mode => mode.code = s.savedByte).getD .standard

def savePQMode (s : Control) (mode : PictureMode) : Control := { s with savedByte := mode.code }

def setPQModeByTvService (s : Control) (game monitor : Bool) (switchType : SwitchType) : Control :=
  { s with status := ⟨game, monitor, switchType⟩ }

def setPQParams (s : Control) (pqPara : PqPara) : Control := { s with params := pqPara }

-- The message of Cpq_SetPQMode to the tv service.
def tellTvService (setup : Setup) (s : Control) (mode : PictureMode) (switchType : SwitchType) : Control :=
  if setup.sourceInput.IsHdmi then
    if getPQMode s = .game then
      if mode = .game then setPQModeByTvService s true false switchType
      else if mode = .monitor then setPQModeByTvService s false true switchType
      else setPQModeByTvService s false false switchType
    else if getPQMode s = .monitor then
      if mode = .monitor then setPQModeByTvService s false true switchType
      else if mode = .game then setPQModeByTvService s true false switchType
      else setPQModeByTvService s false false switchType
    else
      if mode = .game then setPQModeByTvService s true false switchType
      else if mode = .monitor then setPQModeByTvService s false true switchType
      else s
  else if setup.initialized then setPQModeByTvService s false false .init
  else s

-- Reading the database, the SSM area and the ioctls succeed, so the result is 0.
def cpqSetPQMode (setup : Setup) (s : Control) (mode : PictureMode) (switchType : SwitchType) : Int × Control :=
  let s := tellTvService setup s mode switchType
  if mode = .monitor ∨ mode = .game then (0, s)
  else if mode = .user then (0, setPQParams s setup.ssmParams)
  else (0, setPQParams s (setup.dbParams mode))

structure Call where
  mode : PictureMode
  isSave : Int
  isAutoswitch : Bool
deriving DecidableEq

-- The display mode is set again after a save, which changes nothing here.
def setPQMode (setup : Setup) (s : Control) (call : Call) : Int × Control :=
  let (ret, s) :=
    if getPQMode s = call.mode then (0, s)
    else cpqSetPQMode setup s call.mode (if call.isAutoswitch then .auto else .manual)
  if ret = 0 ∧ call.isSave = 1 then (0, savePQMode s call.mode) else (ret, s)

def step (setup : Setup) (s : Control) (call : Call) : Option Control := some (setPQMode setup s call).2

def PictureMode.Special (mode : PictureMode) : Prop := mode = .game ∨ mode = .monitor

instance (mode : PictureMode) : Decidable mode.Special := inferInstanceAs (Decidable (_ ∨ _))

def paramsOf (setup : Setup) (mode : PictureMode) : PqPara :=
  if mode = .user then setup.ssmParams else setup.dbParams mode

def Programmed (setup : Setup) (s : Control) (mode : PictureMode) : Prop :=
  s.status.game = decide (mode = .game) ∧ s.status.monitor = decide (mode = .monitor) ∧
    (¬ mode.Special → s.params = paramsOf setup mode)

instance (setup : Setup) (s : Control) (mode : PictureMode) : Decidable (Programmed setup s mode) :=
  inferInstanceAs (Decidable (_ ∧ _ ∧ _))

def Applies (setup : Setup) (s : Control) (call : Call) (next : Control) : Prop :=
  (setPQMode setup s call).1 = 0 → Programmed setup next call.mode

instance (setup : Setup) (s : Control) (call : Call) (next : Control) : Decidable (Applies setup s call next) :=
  inferInstanceAs (Decidable (_ → _))

-- Where the saved mode decides that nothing has to be done, nothing has to be done.
def Uptodate (setup : Setup) (s : Control) (call : Call) (_ : Control) : Prop :=
  (getPQMode s = call.mode → Programmed setup s call.mode) ∧
    (getPQMode s ≠ call.mode →
      call.mode.Special ∨ (getPQMode s).Special ∨ (s.status.game = false ∧ s.status.monitor = false))

instance (setup : Setup) (s : Control) (call : Call) (next : Control) : Decidable (Uptodate setup s call next) :=
  inferInstanceAs (Decidable ((_ → _) ∧ (_ → _)))

theorem get_saved (s : Control) (mode : PictureMode) : getPQMode (savePQMode s mode) = mode := by
  have found : PictureMode.all.find? (fun other => other.code = mode.code) = some mode := by
    cases mode <;> rfl
  exact congrArg (fun first => first.getD .standard) found

@[simp] theorem programmed_saved (setup : Setup) (s : Control) (saved mode : PictureMode) :
    Programmed setup (savePQMode s saved) mode ↔ Programmed setup s mode := Iff.rfl

def Told (s : Control) (mode : PictureMode) : Prop :=
  s.status.game = decide (mode = .game) ∧ s.status.monitor = decide (mode = .monitor)

section
variable (setup : Setup) (hdmi : setup.sourceInput.IsHdmi) (s : Control) (mode : PictureMode) (switchType : SwitchType)

include hdmi

theorem tell_sends (special : mode.Special ∨ (getPQMode s).Special) :
    Told (tellTvService setup s mode switchType) mode := by
  rw [tellTvService, if_pos hdmi]
  by_cases fromGame : getPQMode s = .game
  · rw [if_pos fromGame]
    cases mode <;> exact ⟨rfl, rfl⟩
  · rw [if_neg fromGame]
    by_cases fromMonitor : getPQMode s = .monitor
    · rw [if_pos fromMonitor]
      cases mode <;> exact ⟨rfl, rfl⟩
    · rw [if_neg fromMonitor]
      have toSpecial : mode.Special := special.resolve_right fun saved => saved.elim fromGame fromMonitor
      rcases toSpecial with rfl | rfl
      · exact ⟨rfl, rfl⟩
      · exact ⟨rfl, rfl⟩

theorem tell_silent (special : ¬ mode.Special) (saved : ¬ (getPQMode s).Special) :
    tellTvService setup s mode switchType = s := by
  obtain ⟨notGame, notMonitor⟩ := not_or.mp special
  obtain ⟨fromGame, fromMonitor⟩ := not_or.mp saved
  rw [tellTvService, if_pos hdmi, if_neg fromGame, if_neg fromMonitor, if_neg notGame, if_neg notMonitor]

theorem told_iff : Told (tellTvService setup s mode switchType) mode ↔
    mode.Special ∨ (getPQMode s).Special ∨ (s.status.game = false ∧ s.status.monitor = false) := by
  by_cases special : mode.Special ∨ (getPQMode s).Special
  · exact iff_of_true (tell_sends setup hdmi s mode switchType special) (or_assoc.mp (.inl special))
  · obtain ⟨ordinary, saved⟩ := not_or.mp special
    obtain ⟨notGame, notMonitor⟩ := not_or.mp ordinary
    rw [tell_silent setup hdmi s mode switchType ordinary saved]
    simp [Told, notGame, notMonitor, ordinary, saved]

theorem programmed_iff : Programmed setup (cpqSetPQMode setup s mode switchType).2 mode ↔
    mode.Special ∨ (getPQMode s).Special ∨ (s.status.game = false ∧ s.status.monitor = false) := by
  rw [← told_iff setup hdmi s mode switchType, Programmed, ← and_assoc]
  by_cases special : mode.Special
  · rw [cpqSetPQMode, if_pos special.symm]
    exact and_iff_left fun ordinary => absurd special ordinary
  · rw [cpqSetPQMode, if_neg fun other => special other.symm]
    by_cases user : mode = .user
    · rw [if_pos user]
      exact and_iff_left fun _ => (if_pos user).symm
    · rw [if_neg user]
      exact and_iff_left fun _ => (if_neg user).symm

end

theorem cpq_set_zero (setup : Setup) (s : Control) (mode : PictureMode) (switchType : SwitchType) :
    (cpqSetPQMode setup s mode switchType).1 = 0 := by
  simp only [cpqSetPQMode]
  split_ifs <;> rfl

-- What a call leaves in the pipeline; whether it saves does not matter for that.
theorem set_programmed (setup : Setup) (s : Control) (call : Call) (mode : PictureMode) :
    (setPQMode setup s call).1 = 0 ∧
      (Programmed setup (setPQMode setup s call).2 mode ↔
        Programmed setup (if getPQMode s = call.mode then s
          else (cpqSetPQMode setup s call.mode (if call.isAutoswitch then .auto else .manual)).2) mode) := by
  by_cases same : getPQMode s = call.mode
  · by_cases save : call.isSave = 1
    · simp [setPQMode, same, save]
    · simp [setPQMode, same, save]
  · have zero := cpq_set_zero setup s call.mode (if call.isAutoswitch then .auto else .manual)
    by_cases save : call.isSave = 1
    · simp [setPQMode, same, save, zero]
    · simp [setPQMode, same, save, zero]

theorem applies_iff (setup : Setup) (hdmi : setup.sourceInput.IsHdmi) (s : Control) (call : Call) (next : Control)
    (taken : step setup s call = some next) : Applies setup s call next ↔ Uptodate setup s call next := by
  obtain ⟨zero, programmed⟩ := set_programmed setup s call call.mode
  cases Option.some.inj taken
  have applies : Applies setup s call (setPQMode setup s call).2 ↔ Programmed setup (setPQMode setup s call).2 call.mode :=
    ⟨fun holds => holds zero, fun programmed _ => programmed⟩
  rw [applies, programmed, Uptodate]
  by_cases same : getPQMode s = call.mode
  · simp [same]
  · simp only [same, false_implies, true_and, ne_eq, not_false_eq_true, true_implies]
    exact programmed_iff setup hdmi s call.mode _

theorem ordinary_quiet (setup : Setup) (s : Control) (mode : PictureMode) (ordinary : ¬ mode.Special)
    (programmed : Programmed setup s mode) : s.status.game = false ∧ s.status.monitor = false := by
  obtain ⟨notGame, notMonitor⟩ := not_or.mp ordinary
  exact ⟨programmed.1.trans (decide_eq_false notGame), programmed.2.1.trans (decide_eq_false notMonitor)⟩

theorem saved_uptodate (setup : Setup) (s : Control) (call : Call) (next : Control)
    (programmed : Programmed setup s (getPQMode s)) : Uptodate setup s call next := by
  refine ⟨fun same => same ▸ programmed, fun _ => .inr ?_⟩
  by_cases special : (getPQMode s).Special
  · exact .inl special
  · exact .inr (ordinary_quiet setup s _ special programmed)

theorem saving_call_saves (setup : Setup) (s : Control) (call : Call) (save : call.isSave = 1) :
    getPQMode (setPQMode setup s call).2 = call.mode := by
  have zero := cpq_set_zero setup s call.mode (if call.isAutoswitch then .auto else .manual)
  by_cases same : getPQMode s = call.mode
  · simp [setPQMode, same, save, get_saved]
  · simp [setPQMode, same, save, zero, get_saved]

-- While every call saves, the saved mode is the applied one and the property holds.
theorem saved_calls_applied (setup : Setup) (hdmi : setup.sourceInput.IsHdmi) (s : Control) (calls : List Call)
    (start : Programmed setup s (getPQMode s)) (saves : ∀ call ∈ calls, call.isSave = 1) :
    Along (step setup) (Applies setup) s calls := by
  induction calls generalizing s with
  | nil => trivial
  | cons call rest ih =>
      intro next taken
      have applies := (applies_iff setup hdmi s call next taken).mpr (saved_uptodate setup s call next start)
      refine ⟨applies, ih next ?_ fun other member => saves other (List.mem_cons_of_mem _ member)⟩
      cases Option.some.inj taken
      rw [saving_call_saves setup s call (saves call (List.mem_cons_self ..))]
      exact applies (set_programmed setup s call call.mode).1

theorem last_mode_applied_iff (setup : Setup) (hdmi : setup.sourceInput.IsHdmi) (s : Control) (calls : List Call) :
    Along (step setup) (Applies setup) s calls ↔ Along (step setup) (Uptodate setup) s calls := by
  apply along_iff (step setup) (fun _ => True)
  · exact fun _ _ _ _ _ _ => trivial
  · exact fun state call next _ taken => applies_iff setup hdmi state call next taken
  · trivial

def hdmi1Setup : Setup := ⟨.hdmi1, true, fun mode => ⟨mode.code.toNat, 50, 50, 50, 50⟩, ⟨50, 50, 50, 50, 50⟩⟩

-- Saved and programmed: the standard mode.
def atStandard : Control := ⟨0, ⟨false, false, .init⟩, hdmi1Setup.dbParams .standard⟩

theorem last_mode_applied_movie : hdmi1Setup.sourceInput.IsHdmi ∧
    Along (step hdmi1Setup) (Applies hdmi1Setup) atStandard [⟨.game, 1, false⟩, ⟨.movie, 1, false⟩] := by
  have hdmi : hdmi1Setup.sourceInput.IsHdmi := by decide
  exact ⟨hdmi, (last_mode_applied_iff hdmi1Setup hdmi atStandard _).mpr (by decide)⟩

-- A game mode that is not saved, and back to the saved mode: nothing is sent.
theorem game_left_on :
    ¬ Along (step hdmi1Setup) (Applies hdmi1Setup) atStandard [⟨.game, 0, false⟩, ⟨.standard, 1, false⟩] := by
  decide

end Droidlogic.Pq.Picture
