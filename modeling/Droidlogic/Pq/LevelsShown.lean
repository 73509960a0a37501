import Droidlogic.Pq.PictureLevels

set_option autoImplicit false

namespace Droidlogic.Pq.Levels

open Droidlogic.Lib Droidlogic.Ssm Droidlogic.Pq.Picture

section
variable {Nodes Value : Type} (config : Config) (db : Database Nodes Value)

theorem in_range_self (value : Int) (within : InRange value) : Hue.inRange value = value :=
  if_neg (by have := within.1; have := within.2; omega)

theorem kept_level (level : Level) (value : Int) (within : InRange value) : kept level.setting value = value := by
  obtain ⟨n, rfl⟩ := Int.eq_ofNat_of_zero_le within.1
  have small : n < 101 := by
    have := within.2
    omega
  have each : ∀ level : Level, ∀ n : Nat, n < 101 → kept level.setting n = n := by
    intro level
    cases level <;> decide +kernel
  exact each level n small

theorem kept_mode (mode : PictureMode) : kept .pictureMode mode.code.toNat = mode.code.toNat := by
  cases mode <;> decide +kernel

section
variable (s : Control Nodes Value)

theorem saved_para_eq (levels : PqPara) (same : ∀ level : Level, s.read level.setting = level.ofPara levels) : savedPara s = levels := by
  rw [savedPara]
  obtain ⟨brightness, contrast, saturation, hue, sharpness⟩ := levels
  rw [PqPara.mk.injEq]
  exact ⟨same .brightness, same .contrast, same .saturation, same .hue, same .sharpness⟩

theorem gotten_user (user : getPQMode s = .user) (stored : ∀ level : Level, InRange (s.read level.setting)) :
    gotten db s = savedPara s := by
  have each : ∀ level : Level, getLevel db s level = s.read level.setting := fun level => by
    rw [getLevel, if_pos user, in_range_self _ (stored level)]
  rw [gotten, getBrightness, getContrast, getSaturation, getHue, getSharpness, each .brightness, each .contrast, each .saturation,
    each .hue, each .sharpness]
  rfl

theorem gotten_row (other : getPQMode s ≠ .user) (para : PqPara) (row : db.getPQModeParams s.source (getPQMode s) = some para)
    (within : ∀ level : Level, InRange (level.ofPara para)) : gotten db s = para := by
  have each : ∀ level : Level, getLevel db s level = level.ofPara para := fun level => by
    rw [getLevel, if_neg other, row]
    exact in_range_self _ (within level)
  rw [gotten, getBrightness, getContrast, getSaturation, getHue, getSharpness, each .brightness, each .contrast, each .saturation,
    each .hue, each .sharpness]
  rfl

def programmed (levels : PqPara) : Control Nodes Value :=
  { s with
    regs := fun register => if config.programs register then some (valueOf db s levels register) else s.regs register }

theorem set_params (answers : Answers) (succeed : AllSucceed answers) (para : PqPara)
    (within : ∀ level : Level, InRange (level.ofPara para)) :
    setPQParams config db s answers para = (0, programmed config db s para) := by
  have sharpness := within .sharpness
  have brightness := within .brightness
  have contrast := within .contrast
  simp only [InRange, Level.ofPara] at sharpness brightness contrast
  have all : ∀ register, answers register = true := succeed
  obtain ⟨allPQ, plain, color, zero, one⟩ := config
  have regs : ∀ (before : Register → Option Value) (value : Register → Value),
      (fun register => if Config.programs ⟨allPQ, plain, color, zero, one⟩ register then some (value register) else before register) =
        let b := Function.update before .saturationHue (some (value .saturationHue))
        let b := if zero then Function.update b .sharpness0 (some (value .sharpness0)) else b
        let b := if one then Function.update b .sharpness1 (some (value .sharpness1)) else b
        let b := if plain then Function.update b .brightness (some (value .brightness)) else b
        if plain then Function.update b .contrast (some (value .contrast)) else b := by
    intro before value
    funext register
    cases register <;> cases plain <;> cases zero <;> cases one <;> rfl
  rw [programmed, regs]
  cases plain <;> cases zero <;> cases one <;>
    simp [setPQParams, cpqSetSharpness, cpqSetBrightness, cpqSetContrast, cpqSetPlain, program, all, sharpness, brightness, contrast] <;> rfl

theorem value_of_congr (t : Control Nodes Value) (nodes : t.nodes = s.nodes) (signal : t.signal = s.signal) (levels : PqPara)
    (register : Register) : valueOf db t levels register = valueOf db s levels register := by
  have current : t.input.current = s.input.current := congrArg Signal.input signal
  cases register <;>
    simp only [valueOf, saturationHueValue, levelValue, reloadHue, Control.source, nodes, current]

theorem shown_congr (t : Control Nodes Value) (nodes : t.nodes = s.nodes) (signal : t.signal = s.signal) (regs : t.regs = s.regs)
    (same : gotten db t = gotten db s) (shown : Shown config db s) : Shown config db t := by
  refine ⟨fun table found loads row => ?_, fun register programs => ?_⟩
  · rw [nodes]
    rw [signal] at row
    exact shown.nodes table found loads row
  · rw [regs, same, value_of_congr db s t nodes signal]
    exact shown.regs register programs

theorem programmed_shown (t : Control Nodes Value) (nodes : t.nodes = (cpqLoadBasicRegs config db s).nodes)
    (signal : t.signal = s.signal)
    (regs : t.regs = (programmed config db (cpqLoadBasicRegs config db s) (gotten db t)).regs) : Shown config db t := by
  refine ⟨fun table found loads row => ?_, fun register programs => ?_⟩
  · rw [signal] at row
    rw [nodes]
    simp only [cpqLoadBasicRegs, loads, row, if_true, Option.getD_some]
  · rw [regs, value_of_congr db (cpqLoadBasicRegs config db s) t nodes signal]
    exact if_pos programs

-- What a mode with levels programs.
theorem set_mode_para (complete : Complete db) (stored : ∀ level : Level, InRange (s.read level.setting)) (answers : Answers)
    (succeed : AllSucceed answers) (mode : PictureMode) (ordinary : ¬ mode.Special) :
    ∃ para, cpqSetPQMode config db s answers mode = (0, programmed config db (cpqLoadBasicRegs config db s) para) ∧
      if mode = .user then para = savedPara s
      else db.getPQModeParams s.source mode = some para ∧ ∀ level : Level, InRange (level.ofPara para) := by
  rw [cpqSetPQMode, if_neg ordinary]
  by_cases user : mode = .user
  · refine ⟨savedPara s, ?_, by rw [if_pos user]⟩
    rw [if_pos user]
    refine set_params config db _ answers succeed (savedPara s) fun level => ?_
    have saved := stored level
    cases level <;> exact saved
  · obtain ⟨para, row, within⟩ := complete s.source mode ordinary user
    refine ⟨para, ?_, by rw [if_neg user]; exact ⟨row, within⟩⟩
    rw [if_neg user, row]
    exact set_params config db _ answers succeed para within

-- A state whose mode and levels are those that were programmed.
theorem gotten_para (t : Control Nodes Value) (input : t.input = s.input) (mode : PictureMode) (now : getPQMode t = mode)
    (saved : ∀ level : Level, t.read level.setting = s.read level.setting) (stored : ∀ level : Level, InRange (s.read level.setting))
    (para : PqPara)
    (levels : if mode = .user then para = savedPara s
      else db.getPQModeParams s.source mode = some para ∧ ∀ level : Level, InRange (level.ofPara para)) :
    gotten db t = para := by
  by_cases user : mode = .user
  · rw [if_pos user] at levels
    have same : savedPara t = savedPara s := saved_para_eq t _ fun level => (saved level).trans (by cases level <;> rfl)
    rw [gotten_user db t (now.trans user) fun level => saved level ▸ stored level, levels, same]
  · rw [if_neg user] at levels
    refine gotten_row db t (fun other => user (now.symm.trans other)) para ?_ levels.2
    rw [now, Control.source, input]
    exact levels.1

theorem save_other (saved setting : Setting) (value : Int) (other : setting ≠ saved) :
    (s.save saved value).read setting = s.read setting :=
  if_neg fun both => other both.1

theorem save_level (level : Level) (value : Int) (within : InRange value) :
    (s.save level.setting value).read level.setting = value :=
  (if_pos ⟨rfl, rfl⟩).trans (kept_level level value within)

theorem save_mode (mode : PictureMode) : getPQMode (s.save .pictureMode mode.code.toNat) = mode := by
  have read : (s.save .pictureMode mode.code.toNat).read .pictureMode = mode.code.toNat := (if_pos ⟨rfl, rfl⟩).trans (kept_mode mode)
  rw [getPQMode, read]
  cases mode <;> rfl

-- What programming leaves alone.
structure Frame (s t : Control Nodes Value) : Prop where
  input : t.input = s.input
  store : t.store = s.store

theorem Frame.trans {s t u : Control Nodes Value} (first : Frame s t) (second : Frame t u) : Frame s u :=
  ⟨second.input.trans first.input, second.store.trans first.store⟩

theorem program_frame (register : Register) (ok : Bool) (value : Value) : Frame s (program s register ok value).2 := by
  rw [program]
  split <;> exact ⟨rfl, rfl⟩

theorem set_plain_frame (table : Table) (register : Register) (ok : Bool) (value : Int) :
    Frame s (cpqSetPlain config db s table register ok value).2 := by
  rw [cpqSetPlain]
  split
  · split
    · exact program_frame s register ok _
    · exact ⟨rfl, rfl⟩
  · exact ⟨rfl, rfl⟩

theorem set_sharpness_frame (answers : Answers) (value : Int) : Frame s (cpqSetSharpness config db s answers value).2 := by
  rw [cpqSetSharpness]
  split
  · have first : Frame s (if config.sharpness0 then
        (program s .sharpness0 (answers .sharpness0) (levelValue db s .sharpness0 value)).2 else s) := by
      split
      · exact program_frame s _ _ _
      · exact ⟨rfl, rfl⟩
    dsimp only
    split
    · exact first.trans (program_frame _ _ _ _)
    · exact first
  · exact ⟨rfl, rfl⟩

theorem set_params_frame (answers : Answers) (para : PqPara) : Frame s (setPQParams config db s answers para).2 := by
  unfold setPQParams
  exact (((program_frame s _ _ _).trans (set_sharpness_frame config db _ answers _)).trans (set_plain_frame config db _ _ _ _ _)).trans
    (set_plain_frame config db _ _ _ _ _)

theorem set_mode_frame (answers : Answers) (mode : PictureMode) : Frame s (cpqSetPQMode config db s answers mode).2 := by
  have loaded : Frame s (cpqLoadBasicRegs config db s) := ⟨rfl, rfl⟩
  rw [cpqSetPQMode]
  split
  · exact ⟨rfl, rfl⟩
  · split
    · exact loaded.trans (set_params_frame config db _ answers _)
    · split
      · exact ⟨rfl, rfl⟩
      · exact loaded.trans (set_params_frame config db _ answers _)

theorem load_sound (enabled : config.allPQMoudle = true) (complete : Complete db) (answers : Answers) (succeed : AllSucceed answers)
    (hdr : s.input.currentHdrStatus = s.input.dbHdrStatus) (output : s.input.currentOutputType = s.input.dbOutputType)
    (stored : ∀ level : Level, ∀ offset, InRange (s.store level.setting offset)) :
    Sound config db (loadPQSettings config db s answers) := by
  rw [loadPQSettings, if_pos enabled]
  by_cases ordinary : (getPQMode s).Special
  · rw [cpqSetPQMode, if_pos ordinary]
    exact ⟨hdr, output, stored, fun watched => absurd ordinary watched.2⟩
  · obtain ⟨para, done, levels⟩ := set_mode_para config db s complete (fun level => stored level s.slot) answers succeed
      (getPQMode s) ordinary
    rw [done]
    refine ⟨hdr, output, stored, fun _ => ?_⟩
    refine programmed_shown config db s _ rfl rfl ?_
    rw [gotten_para db s (programmed config db (cpqLoadBasicRegs config db s) para) rfl (getPQMode s) rfl (fun _ => rfl)
      (fun level => stored level s.slot) para levels]

theorem saved_range (stored : ∀ level : Level, ∀ offset, InRange (s.store level.setting offset)) (saved : Setting) (value : Int)
    (within : ∀ level : Level, level.setting = saved → InRange value) (level : Level) (offset : Int32) :
    InRange ((s.save saved value).store level.setting offset) := by
  show InRange (if _ then _ else _)
  split
  · rename_i same
    have range := within level same.1
    show InRange (kept level.setting value)
    rw [kept_level level value range]
    exact range
  · exact stored level offset

theorem mode_not_level (level : Level) : level.setting ≠ .pictureMode := by
  cases level <;> decide

theorem gotten_congr (t : Control Nodes Value) (source : t.source = s.source) (mode : getPQMode t = getPQMode s)
    (saved : ∀ level : Level, t.read level.setting = s.read level.setting) : gotten db t = gotten db s := by
  have each : ∀ level : Level, getLevel db t level = getLevel db s level := fun level => by
    rw [getLevel, getLevel, mode, saved level, source]
  simp only [gotten, getBrightness, getContrast, getSaturation, getHue, getSharpness, each]

theorem set_mode_sound (complete : Complete db) (sound : Sound config db s) (answers : Answers) (mode : PictureMode) (isSave : Int)
    (keeps : s.input.current.sigFmt ≠ tvinSigFmtNull → isSave = 1 ∧ AllSucceed answers) :
    Sound config db (setPQMode config db s answers mode isSave).2 := by
  have others := fun (t : Control Nodes Value) (level : Level) =>
    save_other t .pictureMode level.setting mode.code.toNat (mode_not_level level)
  have kept : ∀ t : Control Nodes Value, Frame s t →
      ((t.save .pictureMode mode.code.toNat).input.currentHdrStatus = t.input.dbHdrStatus ∧
        t.input.currentOutputType = t.input.dbOutputType) ∧
      ∀ level : Level, ∀ offset, InRange ((t.save .pictureMode mode.code.toNat).store level.setting offset) := by
    intro t frame
    refine ⟨?_, saved_range t (frame.store ▸ sound.stored) .pictureMode _ fun level same => absurd same (mode_not_level level)⟩
    show t.input.currentHdrStatus = _ ∧ _
    rw [frame.input]
    exact ⟨sound.hdr, sound.output⟩
  by_cases signal : s.input.current.sigFmt = tvinSigFmtNull
  · have frame : Frame s (if getPQMode s = mode then ((0 : Int), s) else cpqSetPQMode config db s answers mode).2 := by
      split
      · exact ⟨rfl, rfl⟩
      · exact set_mode_frame config db s answers mode
    have blind : ∀ t : Control Nodes Value, t.input = s.input → ¬ Watched t := fun t input watched => watched.1 (input ▸ signal)
    unfold setPQMode
    generalize (if getPQMode s = mode then ((0 : Int), s) else cpqSetPQMode config db s answers mode) = done at frame
    obtain ⟨ret, t⟩ := done
    dsimp only at frame ⊢
    split
    · obtain ⟨⟨hdr, output⟩, stored⟩ := kept t frame
      exact ⟨hdr, output, stored, fun watched => absurd watched (blind _ frame.input)⟩
    · exact ⟨frame.input ▸ sound.hdr, frame.input ▸ sound.output, frame.store ▸ sound.stored,
        fun watched => absurd watched (blind _ frame.input)⟩
  · obtain ⟨saves, succeed⟩ := keeps signal
    by_cases same : getPQMode s = mode
    · obtain ⟨⟨hdr, output⟩, stored⟩ := kept s ⟨rfl, rfl⟩
      have result : (setPQMode config db s answers mode isSave).2 = s.save .pictureMode mode.code.toNat := by
        simp [setPQMode, same, saves]
      rw [result]
      refine ⟨hdr, output, stored, fun watched => ?_⟩
      have now := (save_mode s mode).trans same.symm
      have before : Watched s := ⟨signal, now ▸ watched.2⟩
      exact shown_congr config db s _ rfl rfl rfl (gotten_congr db s _ rfl now (others s)) (sound.shown before)
    · by_cases special : mode.Special
      · obtain ⟨⟨hdr, output⟩, stored⟩ := kept s ⟨rfl, rfl⟩
        have result : (setPQMode config db s answers mode isSave).2 = s.save .pictureMode mode.code.toNat := by
          simp [setPQMode, cpqSetPQMode, same, saves, special]
        rw [result]
        exact ⟨hdr, output, stored, fun watched => absurd ((save_mode s mode).symm ▸ special) watched.2⟩
      · obtain ⟨para, done, levels⟩ := set_mode_para config db s complete (fun level => sound.stored level s.slot) answers succeed
          mode special
        obtain ⟨⟨hdr, output⟩, stored⟩ := kept (programmed config db (cpqLoadBasicRegs config db s) para) ⟨rfl, rfl⟩
        have result : (setPQMode config db s answers mode isSave).2 =
            (programmed config db (cpqLoadBasicRegs config db s) para).save .pictureMode mode.code.toNat := by
          simp [setPQMode, done, same, saves]
        rw [result]
        refine ⟨hdr, output, stored, fun _ => programmed_shown config db s _ rfl rfl ?_⟩
        rw [gotten_para db s ((programmed config db (cpqLoadBasicRegs config db s) para).save .pictureMode mode.code.toNat) rfl mode
          (save_mode _ mode) (others _) (fun level => sound.stored level s.slot) para levels]
        rfl

def cpqSetLevel (answers : Answers) (value : Int) : Level → Int × Control Nodes Value
  | .brightness => cpqSetBrightness config db s (answers .brightness) value
  | .contrast => cpqSetContrast config db s (answers .contrast) value
  | .saturation => cpqSetSaturation config db s (answers .saturationHue) value
  | .hue => cpqSetHue config db s (answers .saturationHue) value
  | .sharpness => cpqSetSharpness config db s answers value

theorem set_level_eq (answers : Answers) (value isSave : Int) (level : Level) :
    (setLevel config db s answers value isSave level).2 =
      if (cpqSetLevel config db s answers value level).1 = 0 ∧ isSave = 1 then
        (cpqSetLevel config db s answers value level).2.save level.setting value
      else (cpqSetLevel config db s answers value level).2 := by
  cases level <;> rfl

theorem set_level_frame (answers : Answers) (value : Int) (level : Level) :
    Frame s (cpqSetLevel config db s answers value level).2 := by
  have colors : ∀ (ok : Bool) (content : Value), Frame s
      (if config.saturationHue then if 0 ≤ value ∧ value ≤ 100 then program s .saturationHue ok content else (-1, s) else (0, s)).2 := by
    intro ok content
    split
    · split
      · exact program_frame s _ _ _
      · exact ⟨rfl, rfl⟩
    · exact ⟨rfl, rfl⟩
  cases level with
  | brightness => exact set_plain_frame config db s _ _ _ _
  | contrast => exact set_plain_frame config db s _ _ _ _
  | saturation => exact colors _ _
  | hue => exact colors _ _
  | sharpness => exact set_sharpness_frame config db s _ _

def Level.put (value : Int) (levels : PqPara) : Level → PqPara
  | .brightness => { levels with brightness := value }
  | .contrast => { levels with contrast := value }
  | .saturation => { levels with saturation := value }
  | .hue => { levels with hue := value }
  | .sharpness => { levels with sharpness := value }

-- What is shown once a level is saved: each register that it does not go to keeps its content.
def ShownWith (s t : Control Nodes Value) (levels : PqPara) : Prop :=
  t.nodes = s.nodes ∧ ∀ register, config.programs register = true → t.regs register = some (valueOf db s levels register)

theorem shown_untouched (shown : Shown config db s) (levels : PqPara)
    (same : ∀ register, config.programs register = true → valueOf db s levels register = valueOf db s (gotten db s) register) :
    ShownWith config db s s levels :=
  ⟨rfl, fun register programs => (same register programs).symm ▸ shown.regs register programs⟩

theorem program_shown (shown : Shown config db s) (register : Register) (levels : PqPara)
    (same : ∀ other, other ≠ register → config.programs other = true →
      valueOf db s levels other = valueOf db s (gotten db s) other) :
    ShownWith config db s (program s register true (valueOf db s levels register)).2 levels := by
  refine ⟨rfl, fun other programs => ?_⟩
  by_cases here : other = register
  · rw [here]
    exact Function.update_self _ _ _
  · exact (Function.update_of_ne here _ _).trans ((same other here programs).symm ▸ shown.regs other programs)

-- What a setter that returns 0 has done, and one that does not.
def Done (levels : PqPara) (result : Int × Control Nodes Value) : Prop :=
  (result.1 = 0 ∧ ShownWith config db s result.2 levels) ∨ (result.1 ≠ 0 ∧ result.2 = s)

theorem program_done (shown : Shown config db s) (register : Register) (ok : Bool) (levels : PqPara)
    (same : ∀ other, other ≠ register → config.programs other = true →
      valueOf db s levels other = valueOf db s (gotten db s) other) :
    Done config db s levels (program s register ok (valueOf db s levels register)) := by
  cases ok with
  | false => exact .inr ⟨(by decide : (-1 : Int) ≠ 0), rfl⟩
  | true => exact .inl ⟨rfl, program_shown config db s shown register levels same⟩

theorem set_sharpness_done (shown : Shown config db s) (answers : Answers) (value : Int) (within : InRange value)
    (applies : Applies config s answers .sharpness) :
    Done config db s (Level.sharpness.put value (gotten db s)) (cpqSetSharpness config db s answers value) := by
  have both : cpqSetSharpness config db s answers value =
      let t := if config.sharpness0 then (program s .sharpness0 (answers .sharpness0) (levelValue db s .sharpness0 value)).2 else s
      if config.sharpness1 then program t .sharpness1 (answers .sharpness1) (levelValue db t .sharpness1 value) else (0, t) :=
    if_pos within
  have other : ∀ register, register ≠ .sharpness0 → register ≠ .sharpness1 →
      valueOf db s (Level.sharpness.put value (gotten db s)) register = valueOf db s (gotten db s) register := by
    intro register first second
    cases register <;> first | rfl | exact absurd rfl first | exact absurd rfl second
  cases zero : config.sharpness0 with
  | false =>
      have off : ∀ register, config.programs register = true → register ≠ .sharpness0 := by
        rintro _ programs rfl
        exact absurd (zero.symm.trans programs) (by decide)
      cases one : config.sharpness1 with
      | false =>
          rw [both, zero, one]
          refine .inl ⟨rfl, shown_untouched config db s shown _ fun register programs => other register (off register programs) ?_⟩
          rintro rfl
          exact absurd (one.symm.trans programs) (by decide)
      | true =>
          rw [both, zero, one]
          exact program_done config db s shown .sharpness1 _ _ fun register apart programs =>
            other register (off register programs) apart
  | true =>
      have first : answers .sharpness0 = if config.sharpness1 then answers .sharpness1 else true := applies zero
      cases one : config.sharpness1 with
      | false =>
          rw [one] at first
          rw [both, zero, one, show answers .sharpness0 = true from first]
          refine .inl ⟨rfl, program_shown config db s shown .sharpness0 _ fun register apart programs => other register apart ?_⟩
          rintro rfl
          exact absurd (one.symm.trans programs) (by decide)
      | true =>
          rw [one, if_pos rfl] at first
          rw [both, zero, one, first]
          cases answers .sharpness1 with
          | false => exact .inr ⟨(by decide : (-1 : Int) ≠ 0), rfl⟩
          | true =>
              refine .inl ⟨rfl, rfl, fun register programs => ?_⟩
              cases register with
              | sharpness0 => rfl
              | sharpness1 => rfl
              | brightness => exact shown.regs .brightness programs
              | contrast => exact shown.regs .contrast programs
              | saturationHue => exact shown.regs .saturationHue programs

theorem set_level_done (shown : Shown config db s) (answers : Answers) (value : Int) (within : InRange value) (level : Level)
    (applies : Applies config s answers level) :
    Done config db s (level.put value (gotten db s)) (cpqSetLevel config db s answers value level) := by
  have plain : ∀ level : Level, ∀ table register ok,
      valueOf db s (level.put value (gotten db s)) register = levelValue db s table value →
      (∀ other, other ≠ register → valueOf db s (level.put value (gotten db s)) other = valueOf db s (gotten db s) other) →
      config.programs register = config.brightnessContrast →
      Done config db s (level.put value (gotten db s)) (cpqSetPlain config db s table register ok value) := by
    intro level table register ok content same module
    rw [cpqSetPlain, ← content]
    cases enabled : config.brightnessContrast with
    | true =>
        rw [if_pos rfl, if_pos (show 0 ≤ value ∧ value ≤ 100 from within)]
        exact program_done config db s shown register ok _ fun other apart _ => same other apart
    | false =>
        refine .inl ⟨rfl, shown_untouched config db s shown _ fun other programs => same other ?_⟩
        rintro rfl
        exact absurd ((module.trans enabled).symm.trans programs) (by decide)
  cases level with
  | brightness => exact plain .brightness _ _ _ rfl (by intro other apart; cases other <;> first | rfl | exact absurd rfl apart) rfl
  | contrast => exact plain .contrast _ _ _ rfl (by intro other apart; cases other <;> first | rfl | exact absurd rfl apart) rfl
  | saturation =>
      have result : cpqSetLevel config db s answers value .saturation = program s .saturationHue (answers .saturationHue)
          (valueOf db s (Level.saturation.put value (gotten db s)) .saturationHue) :=
        (if_pos applies).trans (if_pos within)
      rw [result]
      exact program_done config db s shown _ _ _ fun other apart _ => by cases other <;> first | rfl | exact absurd rfl apart
  | hue =>
      have hueLevel : reloadHue s value = 100 - value := if_pos applies.2
      have result : cpqSetLevel config db s answers value .hue = program s .saturationHue (answers .saturationHue)
          (valueOf db s (Level.hue.put value (gotten db s)) .saturationHue) := by
        show cpqSetHue config db s _ value = program s _ _ (saturationHueValue db s _ (reloadHue s value))
        rw [cpqSetHue, if_pos applies.1, if_pos (show 0 ≤ value ∧ value ≤ 100 from within), hueLevel]
        rfl
      rw [result]
      exact program_done config db s shown _ _ _ fun other apart _ => by cases other <;> first | rfl | exact absurd rfl apart
  | sharpness => exact set_sharpness_done config db s shown answers value within applies

theorem mode_congr (t : Control Nodes Value) (same : t.read .pictureMode = s.read .pictureMode) : getPQMode t = getPQMode s := by
  rw [getPQMode, getPQMode, same]

theorem frame_read (t : Control Nodes Value) (frame : Frame s t) (setting : Setting) : t.read setting = s.read setting := by
  rw [Control.read, Control.read, Control.slot, Control.slot, frame.input, frame.store]

theorem save_keeps_mode (level : Level) (value : Int) (t : Control Nodes Value) (frame : Frame s t) :
    getPQMode (t.save level.setting value) = getPQMode s :=
  mode_congr s _ ((save_other t _ _ value (mode_not_level level).symm).trans (frame_read s t frame .pictureMode))

theorem gotten_saved (user : getPQMode s = .user) (stored : ∀ level : Level, ∀ offset, InRange (s.store level.setting offset))
    (level : Level) (value : Int) (within : InRange value) (t : Control Nodes Value) (frame : Frame s t) :
    gotten db (t.save level.setting value) = level.put value (gotten db s) := by
  have read : ∀ other : Level, (t.save level.setting value).read other.setting = other.ofPara (level.put value (savedPara s)) := by
    intro other
    by_cases same : other = level
    · subst same
      rw [save_level t other value within]
      cases other <;> rfl
    · have apart : other.setting ≠ level.setting := by
        revert same
        cases other <;> cases level <;> decide
      rw [save_other t _ _ value apart, frame_read s t frame]
      cases other <;> cases level <;> first | rfl | exact absurd rfl same
  have ranges : ∀ other : Level, InRange ((t.save level.setting value).read other.setting) := fun other =>
    saved_range t (frame.store ▸ stored) level.setting value (fun _ _ => within) other t.slot
  rw [gotten_user db s user fun level => stored level s.slot,
    gotten_user db _ ((save_keeps_mode s level value t frame).trans user) ranges, saved_para_eq _ _ read]

theorem set_level_sound (sound : Sound config db s) (answers : Answers) (value isSave : Int) (within : InRange value) (level : Level)
    (keeps : Watched s → getPQMode s = .user ∧ isSave = 1 ∧ Applies config s answers level) :
    Sound config db (setLevel config db s answers value isSave level).2 := by
  have frame := set_level_frame config db s answers value level
  have done := fun shown applies => set_level_done config db s shown answers value within level applies
  rw [set_level_eq]
  generalize cpqSetLevel config db s answers value level = result at frame done
  obtain ⟨ret, t⟩ := result
  dsimp only at frame ⊢
  have stored : ∀ level : Level, ∀ offset, InRange (t.store level.setting offset) := frame.store ▸ sound.stored
  have hdr := sound.hdr
  have output := sound.output
  rw [← frame.input] at hdr output
  have saved : ∀ level' : Level, ∀ offset, InRange ((t.save level.setting value).store level'.setting offset) :=
    saved_range t stored level.setting value fun _ _ => within
  have sameMode := save_keeps_mode s level value t frame
  have signal : (t.save level.setting value).signal = s.signal :=
    congrArg (fun input : Hdr.Control => Signal.mk input.current input.dbHdrStatus input.dbOutputType) frame.input
  by_cases watched : Watched s
  · obtain ⟨user, saves, applies⟩ := keeps watched
    rcases done (sound.shown watched) applies with ⟨zero, nodes, regs⟩ | ⟨failed, same⟩
    · rw [if_pos ⟨zero, saves⟩]
      refine ⟨hdr, output, saved, fun _ => ⟨fun table found loads row => ?_, fun register programs => ?_⟩⟩
      · rw [signal] at row
        exact (congrFun nodes table).trans ((sound.shown watched).nodes table found loads row)
      · rw [gotten_saved db s user sound.stored level value within t frame,
          value_of_congr db s (t.save level.setting value) nodes signal]
        exact regs register programs
    · rw [if_neg fun both => failed both.1, show t = s from same]
      exact sound
  · have stillMode : getPQMode t = getPQMode s := mode_congr s t (frame_read s t frame .pictureMode)
    split
    · refine ⟨hdr, output, saved, fun later => absurd ⟨?_, ?_⟩ watched⟩
      · exact frame.input ▸ later.1
      · exact sameMode ▸ later.2
    · refine ⟨hdr, output, stored, fun later => absurd ⟨?_, ?_⟩ watched⟩
      · exact frame.input ▸ later.1
      · exact stillMode ▸ later.2

end

theorem check_hdr_same (input : Hdr.Control) (hdr : input.currentHdrStatus = input.dbHdrStatus)
    (output : input.currentOutputType = input.dbOutputType) (param : SourceInputParam) (devices : Hdr.Devices)
    (same : ¬ (Hdr.checkOutPutMode (Hdr.checkHdr input param devices) devices).Differs param) :
    Hdr.checkOutPutMode (Hdr.checkHdr input param devices) devices = input := by
  have shape : ∃ status, Hdr.checkHdr input param devices = { input with dbHdrStatus := status } := by
    rw [Hdr.checkHdr]
    split
    · exact ⟨_, rfl⟩
    · split
      · exact ⟨_, rfl⟩
      · exact ⟨input.dbHdrStatus, rfl⟩
  obtain ⟨status, checked⟩ := shape
  rw [checked] at same ⊢
  simp only [Hdr.Control.Differs, Hdr.checkOutPutMode, not_or, not_not, hdr, output] at same
  rw [Hdr.checkOutPutMode]
  dsimp only
  rw [← same.2.1, ← same.2.2]

theorem source_info_sound (s : Control Nodes Value) (enabled : config.allPQMoudle = true) (complete : Complete db)
    (sound : Sound config db s) (param : SourceInputParam) (devices : Hdr.Devices) (answers : Answers)
    (succeed : AllSucceed answers) : Sound config db (setCurrentSourceInputInfo config db s param devices answers) := by
  have same := check_hdr_same s.input sound.hdr sound.output param devices
  unfold setCurrentSourceInputInfo Hdr.setCurrentSourceInputInfo
  dsimp only
  generalize Hdr.checkOutPutMode (Hdr.checkHdr s.input param devices) devices = input at same
  by_cases differs : input.Differs param
  · rw [if_pos differs]
    by_cases signal : param.sigFmt = tvinSigFmtNull
    · rw [if_neg (not_not.mpr signal)]
      exact ⟨rfl, rfl, sound.stored, fun watched => absurd signal watched.1⟩
    · rw [if_pos signal]
      exact load_sound config db _ enabled complete answers succeed rfl rfl sound.stored
  · rw [if_neg differs, same differs]
    exact sound

theorem step_sound (enabled : config.allPQMoudle = true) (complete : Complete db) (s next : Control Nodes Value) (event : Event Value)
    (sound : Sound config db s) (keeps : Keeps config s event) (taken : step config db s event = some next) :
    Sound config db next := by
  cases Option.some.inj taken
  cases event with
  | setLevel level value isSave answers => exact set_level_sound config db s sound answers value isSave keeps.1 level keeps.2
  | setPQMode mode isSave answers => exact set_mode_sound config db s complete sound answers mode isSave keeps
  | setCurrentHdrInfo hdrInfo =>
      refine ⟨sound.hdr, sound.output, sound.stored, fun watched => ?_⟩
      exact shown_congr config db s _ rfl rfl rfl (gotten_congr db s _ rfl rfl fun _ => rfl) (sound.shown watched)
  | setCurrentSourceInputInfo param devices answers =>
      exact source_info_sound config db s enabled complete sound param devices answers keeps
  | cpqControlInit devices regs answers =>
      exact load_sound config db _ enabled complete answers keeps rfl rfl sound.stored

theorem levels_shown (enabled : config.allPQMoudle = true) (complete : Complete db) (s final : Control Nodes Value)
    (stored : ∀ level : Level, ∀ offset, InRange (s.store level.setting offset)) (devices : Hdr.Devices)
    (regs : Register → Option Value) (answers : Answers) (events : List (Event Value))
    (keeps : Guarded (step config db) (Keeps config) s (.cpqControlInit devices regs answers :: events))
    (ran : run (step config db) s (.cpqControlInit devices regs answers :: events) = some final) (watched : Watched final) :
    Shown config db final := by
  obtain ⟨first, taken, later⟩ := Option.bind_eq_some_iff.mp ran
  have start : Sound config db first := by
    cases Option.some.inj taken
    exact load_sound config db _ enabled complete answers keeps.1 rfl rfl stored
  have sound := run_invariant (step config db) (Keeps config) (Sound config db)
    (fun before event next sound keeps taken => step_sound config db enabled complete before next event sound keeps taken)
    first final events start (keeps.2 first taken) later
  exact sound.shown watched

end

def tvConfig : Config := ⟨true, true, true, true, true⟩

-- Nodes are the format of the signal, a level is taken up or down by a part of it.
def tvDatabase : Database Nat Int where
  loadVppBasicParam := fun _ signal => some signal.input.sigFmt
  initial := fun _ => 0
  levelParam := fun _ nodes source level => level - 50 + nodes % 16 + source.code
  videoSetSaturationHue := fun saturation hue => saturation * 1024 + hue
  getPQModeParams := fun _ mode => some ⟨mode.code.toNat, 50, 50, 50, 50⟩

def tvStart : Control Nat Int := ⟨.init true, fun _ _ => 50, fun _ => 0, fun _ => none⟩

def works : Answers := fun _ => true

def tvDevices : Hdr.Devices := ⟨some 0, some 11⟩

-- An antenna signal in the user's mode, and from there to HDMI and back.
def tvEvents : List (Event Int) :=
  [.cpqControlInit tvDevices (fun _ => none) works, .setCurrentSourceInputInfo ⟨.tv, tvinSigFmtCvbsNtscM, 0⟩ tvDevices works,
    .setPQMode .user 1 works, .setLevel .hue 60 1 works, .setLevel .saturation 70 1 works,
    .setCurrentSourceInputInfo ⟨.hdmi1, tvinSigFmtHdmi1920x1080p60hz, 0⟩ tvDevices works,
    .setCurrentSourceInputInfo ⟨.tv, tvinSigFmtCvbsNtscM, 0⟩ tvDevices works]

theorem levels_shown_back :
    ∃ final, run (step tvConfig tvDatabase) tvStart tvEvents = some final ∧ Shown tvConfig tvDatabase final ∧
      final.regs .saturationHue = some (21 * 1024 - 9) := by
  have complete : Complete tvDatabase := fun source mode _ _ =>
    ⟨_, rfl, fun level => by cases level <;> cases mode <;> decide⟩
  have stored : ∀ level : Level, ∀ offset, InRange (tvStart.store level.setting offset) := fun _ _ => (by decide : InRange 50)
  have keeps : Guarded (step tvConfig tvDatabase) (Keeps tvConfig) tvStart tvEvents := by decide +kernel
  refine ⟨_, rfl, levels_shown tvConfig tvDatabase rfl complete tvStart _ stored tvDevices (fun _ => none) works tvEvents.tail keeps
    rfl ?_, ?_⟩
  · decide +kernel
  · decide +kernel

end Droidlogic.Pq.Levels
