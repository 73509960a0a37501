import Droidlogic.Ssm.Boot
import Droidlogic.Ssm.StoreLoad

set_option autoImplicit false

namespace Droidlogic.Ssm

open Droidlogic.Lib Droidlogic.Config Droidlogic.Pq.IntegerList

-- The values of the settings, whatever file they are kept in.
abbrev Store := Setting → Int32 → Int

-- What is left of a value in a slot of the setting's width.
def kept (setting : Setting) (value : Int) : Int :=
  setting.result (word32 ((le32 (setting.stored value 0)).take setting.width ++ List.replicate (4 - setting.width) 0))

def Store.save (store : Store) (call : Call) : Store := fun setting offset =>
  if setting = call.setting ∧ setting.place offset = setting.place call.offset then kept setting call.value
  else store setting offset

-- The last source's backlight stays, and of the gamma values the one of the first place. The
-- default of the LVDS spread spectrum is read, but SSMSaveLVDSSSC does not store what it is given.
def factoryValue (factory : Factory) (setting : Setting) (offset : Int32) : Option Int :=
  let pq_para := factory.pqPara offset.toInt.toNat
  match setting with
  | .brightness => some pq_para.brightness.toInt
  | .contrast => some pq_para.contrast.toInt
  | .saturation => some pq_para.saturation.toInt
  | .hue => some pq_para.hue.toInt
  | .sharpness => some pq_para.sharpness.toInt
  | .noiseReduction => some pq_para.nr.toInt
  | .backLightVal => some (factory.pqPara 16).backlight.toInt
  | .pictureMode => some (factory.pqInt cfgPicturemodeDef 0)
  | .colorTemperature => some (factory.pqInt cfgColortempturemodeDef 0)
  | .displayMode => some (factory.pqInt cfgDisplaymodeDef 6)
  | .gammaValue => some (factory.pqInt cfgGammalevelDef 0)
  | .autoAspect => some (factory.pqInt cfgAutoaspectDef 1)
  | .stretch43 => some (factory.pqInt cfg43stretchDef 0)
  | .dnlpMode => some (factory.pqInt cfgDnlplevelDef 2)
  | .dnlpGainValue => some (factory.pqInt cfgDnlpgainDef 0)
  | .localContrastMode => some (factory.pqInt cfgLocalcontrastmodeDef 2)
  | .colorDemoMode => some (factory.pqInt cfgColordemomodeDef 0)
  | .colorBaseMode => some 1
  | .rgbGainR => some (factory.pqInt cfgRgbgainRDef 0)
  | .rgbGainG => some (factory.pqInt cfgRgbgainGDef 0)
  | .rgbGainB => some (factory.pqInt cfgRgbgainBDef 0)
  | .rgbPostOffsetR => some (factory.pqInt cfgRgbpostoffsetRDefDef 1024)
  | .rgbPostOffsetG => some (factory.pqInt cfgRgbpostoffsetGDefDef 1024)
  | .rgbPostOffsetB => some (factory.pqInt cfgRgbpostoffsetBDefDef 1024)
  | .rgbValue => some (if offset = 8 ∨ offset = 12 then -8 else 0)
  | .colorSpace => some (factory.pqInt cfgColorspaceDef 0)
  | .ddrSsc => some (factory.pqInt cfgDdrsscDef 0)
  | .lvdsSsc => (lvdssscParam factory.mPQConfigFile).map fun tmp => tmp.headD 0
  | .eyeProtectionMode => some (factory.pqInt cfgEyeprojectmodeDef 0)
  | .edgeEnhanceStatus | .mpegNoiseReduction | .dynamicContrast | .dynamicBacklightMode => none

def Store.reset (factory : Factory) (store : Store) : Store := fun setting offset =>
  ((factoryValue factory setting offset).map (kept setting)).getD (store setting offset)

structure Device where
  status : SSMStatus
  marked : Bool
  store : Store

-- A changed layout is found again at every start: only an invalid header is written anew.
def Device.step (factory : Factory) (device : Device) : Event → Device
  | .boot _ =>
      if device.marked = false ∨ device.status = .ssmHeaderInvalid then
        ⟨.ssmHeaderValid, true, device.store.reset factory⟩
      else if device.status = .ssmHeaderStructChange then
        { device with store := device.store.reset factory }
      else device
  | .save call => { device with store := device.store.save call }
  | .fcatorySSMRestore _ => { device with store := device.store.reset factory }

def content (setting : Setting) (offset : Int32) (dev : File) : Int :=
  setting.result (word32 (fetch dev.bytes (setting.position offset) setting.width ++
    List.replicate (4 - setting.width) 0))

def markAt (dev : File) (id : Nat) : UInt8 := byteAt dev.bytes (slotStart sizes id)

-- One mark that is right is enough.
def Marked (dev : File) : Prop :=
  markAt dev ssmMark01Start = 0x90 ∨ markAt dev ssmMark02Start = 0xCE ∨ markAt dev ssmMark03Start = 0xDF

instance (dev : File) : Decidable (Marked dev) := inferInstanceAs (Decidable (_ ∨ _))

def AgreesBut (apart : Setting → Prop) (store : Store) (dev : File) : Prop :=
  ∀ setting offset, setting ≠ .lvdsSsc → ¬ apart setting → setting.InsideSlot offset →
    content setting offset dev = store setting offset

def Agrees (store : Store) (dev : File) : Prop := AgreesBut (fun _ => False) store dev

structure Represents (device : Device) (flash : Flash) : Prop where
  status : (ssmVerify flash.hdr).1 = device.status
  marked : decide (Marked flash.dev) = device.marked
  store : Agrees device.store flash.dev
  hdrFull : flash.hdr.shorts = []
  devFull : flash.dev.shorts = []

def SavesInside (_flash : Flash) : Event → Prop
  | .save call => call.setting.InsideSlot call.offset
  | .boot _ | .fcatorySSMRestore _ => True

-- The reading functions give the content, unless they give what was never read.
theorem read_content (setting : Setting) (proper : setting ≠ .lvdsSsc) (offset : Int32)
    (inside : setting.InsideSlot offset) (stack : UInt32) (dev : File) (determined : Determined setting dev) :
    (ssmRead setting offset stack dev).2.1 = content setting offset dev := by
  have ends := (inside_position setting offset inside).2
  have covered : setting.initial stack = 0 ∨ setting.position offset + setting.width ≤ dev.bytes.length := by
    rcases determined with zero | present
    · exact .inl (zero stack)
    · exact .inr (Nat.le_trans ends present)
  rw [read_value setting offset (inside_on_device setting offset inside) stack dev covered, content]
  by_cases ddr : setting = .ddrSsc
  · subst ddr
    have low : ∀ (bytes : Bytes) (rest : Bytes), bytes.length = 1 →
        (word32 (bytes ++ rest)).toUInt8 = bytes.getD 0 0 := by
      intro bytes rest one
      obtain ⟨byte, rfl⟩ := List.length_eq_one_iff.mp one
      exact word32_low byte rest
    show ((word32 (fetch _ _ 1 ++ _)).toUInt8.toNat : Int) = ((word32 (fetch _ _ 1 ++ _)).toUInt8.toNat : Int)
    rw [low _ _ (fetch_length _ _ _), low _ _ (fetch_length _ _ _)]
  · have zero : setting.initial stack = 0 := by
      cases setting <;> first | rfl | exact absurd rfl ddr | exact absurd rfl proper
    have buffer : le32 0 = List.replicate 4 0 := rfl
    rw [zero, buffer, List.drop_replicate]

theorem content_congr (setting : Setting) (offset : Int32) (before after : File)
    (same : ∀ i < setting.width, byteAt after.bytes (setting.position offset + i) =
      byteAt before.bytes (setting.position offset + i)) :
    content setting offset after = content setting offset before := by
  rw [content, content, fetch_congr after.bytes before.bytes _ _ same]

theorem apply_bytes (call : Call) (dev : File) (onDevice : call.setting.OnDevice call.offset) (full : dev.shorts = []) :
    (call.apply dev).bytes = splice dev.bytes (call.setting.position call.offset)
      ((le32 (call.setting.stored call.value call.stack)).take call.setting.width) := by
  have length := stored_length call.setting call.value call.stack
  have some : (le32 (call.setting.stored call.value call.stack)).take call.setting.width ≠ [] := by
    intro empty
    rw [empty] at length
    exact absurd length (Nat.ne_of_lt (width_fits call.setting).1)
  rw [Call.apply, save_file call.setting call.offset onDevice]
  exact File.write_full { dev with pos := call.setting.position call.offset } _ full some

theorem content_apart (call : Call) (dev : File) (onDevice : call.setting.OnDevice call.offset) (full : dev.shorts = [])
    (setting : Setting) (offset : Int32)
    (apart : setting.position offset + setting.width ≤ call.setting.position call.offset ∨
      call.setting.position call.offset + call.setting.width ≤ setting.position offset) :
    content setting offset (call.apply dev) = content setting offset dev := by
  apply content_congr
  intro i small
  rw [apply_bytes call dev onDevice full, byte_at_splice, stored_length, if_neg (by omega)]

theorem stored_proper (setting : Setting) (proper : setting ≠ .lvdsSsc) (value : Int) (stack : UInt32) :
    setting.stored value stack = setting.stored value 0 := by
  rw [Setting.stored, Setting.stored, if_neg proper, if_neg proper]

theorem content_saved (call : Call) (dev : File) (onDevice : call.setting.OnDevice call.offset) (full : dev.shorts = [])
    (proper : call.setting ≠ .lvdsSsc) (offset : Int32)
    (same : call.setting.place offset = call.setting.place call.offset) :
    content call.setting offset (call.apply dev) = kept call.setting call.value := by
  have position : call.setting.position offset = call.setting.position call.offset := by
    rw [Setting.position, Setting.position, same]
  have length := stored_length call.setting call.value call.stack
  have fetched := fetch_splice dev.bytes ((le32 (call.setting.stored call.value call.stack)).take call.setting.width)
    (call.setting.position call.offset)
  rw [length] at fetched
  rw [content, kept, apply_bytes call dev onDevice full, position, fetched, stored_proper _ proper]

theorem slots_apart (first second : Setting) (different : first ≠ second) (i j : Int32)
    (firstInside : first.InsideSlot i) (secondInside : second.InsideSlot j) :
    first.position i + first.width ≤ second.position j ∨ second.position j + second.width ≤ first.position i := by
  obtain ⟨starts, ends⟩ := inside_position first i firstInside
  obtain ⟨startsToo, endsToo⟩ := inside_position second j secondInside
  have ids : first.id ≠ second.id := fun same => different (id_injective _ _ same)
  rcases Nat.lt_or_gt_of_ne ids with before | behind
  · have order : first.start + first.slotSize ≤ second.start := slot_ends_before sizes first.id second.id before
    omega
  · have order : second.start + second.slotSize ≤ first.start := slot_ends_before sizes second.id first.id behind
    omega

-- A slot with more than one place has places of one byte.
theorem places_apart (setting : Setting) (i j : Int32) (firstInside : setting.InsideSlot i)
    (secondInside : setting.InsideSlot j) (different : setting.place i ≠ setting.place j) :
    setting.position i + setting.width ≤ setting.position j ∨ setting.position j + setting.width ≤ setting.position i := by
  have apart : (setting.place i).toInt ≠ (setting.place j).toInt := fun same => different (Int32.toInt_inj.mp same)
  have narrow : setting.width = 1 ∨ setting.slotSize = setting.width := by
    rw [slot_size]
    cases setting <;> decide
  obtain ⟨low, high⟩ := firstInside
  obtain ⟨lowToo, highToo⟩ := secondInside
  simp only [Setting.position]
  rcases narrow with one | whole
  · omega
  · omega

theorem save_agrees (apart : Setting → Prop) (store : Store) (call : Call) (dev : File) (full : dev.shorts = [])
    (inside : call.setting.InsideSlot call.offset) (agrees : AgreesBut apart store dev) :
    AgreesBut apart (store.save call) (call.apply dev) := by
  intro setting offset proper wanted ownInside
  have onDevice := inside_on_device call.setting call.offset inside
  rw [Store.save]
  by_cases same : setting = call.setting
  · subst same
    by_cases place : call.setting.place offset = call.setting.place call.offset
    · rw [if_pos ⟨rfl, place⟩]
      exact content_saved call dev onDevice full proper offset place
    · rw [if_neg fun both => place both.2,
        content_apart call dev onDevice full _ _ (places_apart _ _ _ ownInside inside place)]
      exact agrees call.setting offset proper wanted ownInside
  · rw [if_neg fun both => same both.1,
      content_apart call dev onDevice full _ _ (slots_apart _ _ same _ _ ownInside inside)]
    exact agrees setting offset proper wanted ownInside

-- The gamma values behind the first go to the slots that follow, up to the first byte of one that is not a setting's.
theorem gamma_apart (i : Nat) (positive : 0 < i) (small : i < sourceMax) (setting : Setting) (eye : setting ≠ .eyeProtectionMode)
    (offset : Int32) (inside : setting.InsideSlot offset) :
    setting.position offset + setting.width ≤ Setting.gammaValue.position (.ofNat i) ∨
      Setting.gammaValue.position (.ofNat i) + Setting.gammaValue.width ≤ setting.position offset := by
  obtain ⟨starts, ends⟩ := inside_position setting offset inside
  have at_i : Setting.gammaValue.position (.ofNat i) = slotStart sizes 186 + i := by
    have value : (Int32.ofNat i).toInt = i := Int32.toInt_ofNat_of_lt (Nat.lt_trans small (by decide))
    show ((slotStart sizes 186 : Int) + (Int32.ofNat i).toInt).toNat = _
    omega
  have one : Setting.gammaValue.width = 1 := rfl
  have last : slotStart sizes 186 + 17 ≤ slotStart sizes 288 := by decide +kernel
  simp only [sourceMax] at small
  rcases Nat.lt_trichotomy setting.id 186 with before | same | behind
  · have order : setting.start + setting.slotSize ≤ slotStart sizes 186 := slot_ends_before sizes setting.id 186 before
    omega
  · have whole : setting = .gammaValue := id_injective setting .gammaValue same
    have single : Setting.slotSize .gammaValue = 1 := slot_size .gammaValue
    subst whole
    have start : Setting.start .gammaValue = slotStart sizes 186 := rfl
    omega
  · have far : 288 ≤ setting.id := by
      cases setting <;> first | decide | exact absurd behind (by decide) | exact absurd rfl eye
    have order : slotStart sizes 288 ≤ setting.start := slot_start_mono sizes 288 setting.id far
    omega

def IsEye (setting : Setting) : Prop := setting = .eyeProtectionMode

def Store.saveAll (store : Store) (calls : List Call) : Store := calls.foldl Store.save store

def applyAll (calls : List Call) (dev : File) : File := calls.foldl (fun dev call => call.apply dev) dev

-- A gamma value behind the first, which the store does not have.
def Overflows (call : Call) : Prop := ∃ i, 0 < i ∧ i < sourceMax ∧ call.setting = .gammaValue ∧ call.offset = .ofNat i

theorem overflow_agrees (store : Store) (call : Call) (dev : File) (full : dev.shorts = []) (overflows : Overflows call)
    (agrees : AgreesBut IsEye store dev) : AgreesBut IsEye (store.save call) (call.apply dev) ∧ (call.apply dev).shorts = [] := by
  obtain ⟨i, positive, small, gamma, at_i⟩ := overflows
  obtain ⟨callSetting, callOffset, value, stack⟩ := call
  dsimp only at gamma at_i
  subst gamma at_i
  have at_nat : (Int32.ofNat i).toInt = i := Int32.toInt_ofNat_of_lt (Nat.lt_trans small (by decide))
  have onDevice : Setting.gammaValue.OnDevice (.ofNat i) := by
    apply from_source_on_device
    rw [FromSource, at_nat]
    simp only [sourceInvalid]
    omega
  refine ⟨fun setting offset proper wanted inside => ?_, apply_shorts _ dev onDevice full⟩
  have elsewhere : ¬ (setting = .gammaValue ∧ setting.place offset = setting.place (.ofNat i)) := by
    rintro ⟨rfl, same⟩
    have single : Setting.slotSize .gammaValue = 1 := slot_size .gammaValue
    have one : Setting.gammaValue.width = 1 := rfl
    have value : (Setting.gammaValue.place offset).toInt = i := by
      rw [same]
      exact at_nat
    obtain ⟨low, high⟩ := inside
    omega
  rw [content_apart ⟨.gammaValue, .ofNat i, value, stack⟩ dev onDevice full setting offset
    (gamma_apart i positive small setting wanted offset inside), Store.save, if_neg elsewhere]
  exact agrees setting offset proper wanted inside

theorem calls_agree (calls : List Call) (each : ∀ call ∈ calls, call.setting.InsideSlot call.offset ∨ Overflows call)
    (store : Store) (dev : File) (full : dev.shorts = []) (agrees : AgreesBut IsEye store dev) :
    AgreesBut IsEye (store.saveAll calls) (applyAll calls dev) ∧ (applyAll calls dev).shorts = [] := by
  induction calls generalizing store dev with
  | nil => exact ⟨agrees, full⟩
  | cons call rest ih =>
      have one : AgreesBut IsEye (store.save call) (call.apply dev) ∧ (call.apply dev).shorts = [] := by
        rcases each call List.mem_cons_self with inside | overflows
        · exact ⟨save_agrees IsEye store call dev full inside agrees,
            apply_shorts call dev (inside_on_device _ _ inside) full⟩
        · exact overflow_agrees store call dev full overflows agrees
      exact ih (fun later member => each later (List.mem_cons_of_mem _ member)) _ _ one.2 one.1

def lastSaved (calls : List Call) (setting : Setting) (offset : Int32) : Option Int :=
  calls.foldl (fun last call =>
    if setting = call.setting ∧ setting.place offset = setting.place call.offset then some call.value else last) none

theorem last_saved_snoc (calls : List Call) (call : Call) (setting : Setting) (offset : Int32) :
    lastSaved (calls ++ [call]) setting offset =
      if setting = call.setting ∧ setting.place offset = setting.place call.offset then some call.value
      else lastSaved calls setting offset := by
  rw [lastSaved, List.foldl_append]
  rfl

theorem last_saved_append (first second : List Call) (setting : Setting) (offset : Int32) :
    lastSaved (first ++ second) setting offset = (lastSaved second setting offset).or (lastSaved first setting offset) := by
  induction second using List.reverseRecOn with
  | nil => rw [List.append_nil]; rfl
  | append_singleton rest call ih =>
      rw [← List.append_assoc, last_saved_snoc, last_saved_snoc, ih]
      split
      · rfl
      · rfl

theorem last_saved_none (calls : List Call) (setting : Setting) (offset : Int32)
    (absent : ∀ call ∈ calls, call.setting ≠ setting) : lastSaved calls setting offset = none := by
  induction calls using List.reverseRecOn with
  | nil => rfl
  | append_singleton rest call ih =>
      have here := absent call (List.mem_append_right _ List.mem_cons_self)
      rw [last_saved_snoc, if_neg fun both => here both.1.symm]
      exact ih fun earlier member => absent earlier (List.mem_append_left _ member)

theorem save_all_last (store : Store) (calls : List Call) (setting : Setting) (offset : Int32) :
    store.saveAll calls setting offset =
      ((lastSaved calls setting offset).map (kept setting)).getD (store setting offset) := by
  induction calls using List.reverseRecOn with
  | nil => rfl
  | append_singleton rest call ih =>
      rw [last_saved_snoc, Store.saveAll, List.foldl_append]
      simp only [List.foldl_cons, List.foldl_nil, Store.save]
      split
      · rfl
      · exact ih

theorem first_inside (setting : Setting) : setting.InsideSlot 0 := by
  have place : (setting.place 0).toInt = 0 := by
    rw [Setting.place]
    split <;> rfl
  have room : setting.width ≤ setting.room := by cases setting <;> decide
  rw [Setting.InsideSlot, slot_size, place]
  omega

namespace Factory

variable (factory : Factory)

-- What one turn of the loop over the sources saves.
def sourceValue (setting : Setting) (i : Nat) : Option Int :=
  match setting with
  | .backLightVal => some (factory.pqPara i).backlight.toInt
  | .colorDemoMode | .colorBaseMode | .rgbGainR | .rgbGainG | .rgbGainB | .rgbPostOffsetR | .rgbPostOffsetG
  | .rgbPostOffsetB | .rgbValue | .colorSpace | .ddrSsc | .lvdsSsc | .eyeProtectionMode => none
  | _ => factoryValue factory setting (.ofNat i)

theorem source_value_some (setting : Setting) (i j : Nat) (none_i : factory.sourceValue setting i = none) :
    factory.sourceValue setting j = none := by
  cases setting <;> first | rfl | cases none_i

theorem source_last (stack : UInt32) (i : Nat) (small : i < sourceMax) (setting : Setting) (offset : Int32) :
    lastSaved (factory.sourceCalls stack i) setting offset =
      if setting.place offset = setting.place (.ofNat i) then factory.sourceValue setting i else none := by
  have at_i : (Int32.ofNat i).toInt.toNat = i := by
    rw [Int32.toInt_ofNat_of_lt (Nat.lt_trans small (by decide))]
    rfl
  have picture : vppPictureModeStandard.toInt = 0 := by decide
  have temperature : vppColorTemperatureModeStandard.toInt = 0 := by decide
  have gamma : vppGammaCurveDefault.toInt = 0 := by decide
  have dnlp : dynamicContrastMid.toInt = 2 := by decide
  cases setting <;>
    simp [-Int32.toInt_ofNat', sourceCalls, lastSaved, sourceValue, factoryValue, Setting.place, Setting.usesOffset, at_i,
      picture, temperature, gamma, dnlp, vppDisplayModeNormal]

theorem sources_last (stack : UInt32) (n : Nat) (few : n ≤ sourceMax) (setting : Setting) (offset : Int32) :
    lastSaved ((List.range n).flatMap (factory.sourceCalls stack)) setting offset =
      if setting.usesOffset = true then
        if 0 ≤ offset.toInt ∧ offset.toInt < n then factory.sourceValue setting offset.toInt.toNat else none
      else if n = 0 then none else factory.sourceValue setting (n - 1) := by
  induction n with
  | zero =>
      have none_below : ¬ (0 ≤ offset.toInt ∧ offset.toInt < (0 : Nat)) := by omega
      rw [if_neg none_below, if_pos rfl, ite_self]
      rfl
  | succ n ih =>
      have at_n : (Int32.ofNat n).toInt = n := Int32.toInt_ofNat_of_lt (Nat.lt_trans few (by decide))
      rw [List.range_succ, List.flatMap_append, List.flatMap_singleton, last_saved_append,
        source_last factory stack n few, ih (Nat.le_of_succ_le few)]
      by_cases uses : setting.usesOffset = true
      · rw [if_pos uses, if_pos uses, Setting.place, Setting.place, if_pos uses, if_pos uses]
        by_cases here : offset = .ofNat n
        · have value : offset.toInt = n := by rw [here, at_n]
          rw [if_pos here, if_neg (by omega), if_pos (by omega), Option.or_none, value]
          rfl
        · have value : offset.toInt ≠ n := fun same => here (Int32.toInt_inj.mp (same.trans at_n.symm))
          rw [if_neg here, Option.none_or]
          by_cases below : 0 ≤ offset.toInt ∧ offset.toInt < n
          · rw [if_pos below, if_pos (by omega)]
          · rw [if_neg below, if_neg (by omega)]
      · rw [if_neg uses, if_neg uses, Setting.place, Setting.place, if_neg uses, if_neg uses, if_pos rfl,
          if_neg (Nat.succ_ne_zero n), Nat.add_sub_cancel]
        cases value : factory.sourceValue setting n with
        | some v => rfl
        | none => rw [factory.source_value_some setting n (n - 1) value, ite_self, Option.or_none]

theorem rgb_last (stack : UInt32) (offset : Int32) (inside : Setting.rgbValue.InsideSlot offset) :
    lastSaved ((List.range 6).flatMap (rgbCalls stack)) .rgbValue offset = factoryValue factory .rgbValue offset := by
  have room : Setting.slotSize .rgbValue = 18 := slot_size .rgbValue
  have whole : Setting.rgbValue.place offset = offset := rfl
  have one : Setting.rgbValue.width = 1 := rfl
  obtain ⟨low, high⟩ := inside
  obtain ⟨i, value⟩ := Int.eq_ofNat_of_zero_le low
  have small : i < 18 := by omega
  have at_i : (Int32.ofNat i).toInt = i := Int32.toInt_ofNat_of_lt (Nat.lt_trans small (by decide))
  have same : offset = .ofNat i := Int32.toInt_inj.mp (value.trans at_i.symm)
  subst same
  have each : ∀ i < 18, lastSaved ((List.range 6).flatMap (rgbCalls 0)) .rgbValue (.ofNat i) =
      some (if Int32.ofNat i = 8 ∨ Int32.ofNat i = 12 then -8 else 0) := by decide +kernel
  exact each i small

theorem rgb_none (stack : UInt32) (setting : Setting) (other : setting ≠ .rgbValue) (offset : Int32) :
    lastSaved ((List.range 6).flatMap (rgbCalls stack)) setting offset = none := by
  apply last_saved_none
  intro call member
  obtain ⟨i, -, listed⟩ := List.mem_flatMap.mp member
  simp only [rgbCalls, List.mem_cons, List.not_mem_nil, or_false] at listed
  rcases listed with rfl | rfl | rfl
  · exact other.symm
  · exact other.symm
  · exact other.symm

-- A slot of one place has it at its start.
theorem single_place (setting : Setting) (offset : Int32) (inside : setting.InsideSlot offset)
    (single : setting.slotSize = setting.width) : setting.place offset = 0 := by
  obtain ⟨low, high⟩ := inside
  have zero : (setting.place offset).toInt = 0 := by omega
  exact Int32.toInt_inj.mp zero

theorem panel_last (stack : UInt32) (setting : Setting) (offset : Int32) (inside : setting.InsideSlot offset) :
    lastSaved (factory.panelCalls stack) setting offset =
      match setting with
      | .colorDemoMode | .colorBaseMode | .rgbGainR | .rgbGainG | .rgbGainB | .rgbPostOffsetR | .rgbPostOffsetG
      | .rgbPostOffsetB => factoryValue factory setting offset
      | _ => none := by
  have single := single_place setting offset inside
  rw [slot_size] at single
  have demo : vppColorDemoModeAllon.toNat = 0 := rfl
  have base : vppColorBaseModeOptimize.toNat = 1 := rfl
  cases setting <;>
    simp [lastSaved, panelCalls, factoryValue, Setting.place, Setting.usesOffset, Setting.room, Setting.width, demo,
      base] at single ⊢ <;> exact single

theorem last_last (stack : UInt32) (setting : Setting) (proper : setting ≠ .lvdsSsc) (offset : Int32) :
    lastSaved (factory.lastCalls stack) setting offset =
      match setting with
      | .colorSpace | .ddrSsc | .eyeProtectionMode => factoryValue factory setting offset
      | _ => none := by
  have space : vppColorSpaceAuto.toNat = 0 := rfl
  cases setting <;> simp [lastSaved, lastCalls, factoryValue, Setting.place, Setting.usesOffset, space] at proper ⊢

theorem source_offset (setting : Setting) (rgb : setting ≠ .rgbValue) (offset : Int32) (inside : setting.InsideSlot offset)
    (uses : setting.usesOffset = true) :
    0 ≤ offset.toInt ∧ offset.toInt < sourceMax ∧ Int32.ofNat offset.toInt.toNat = offset := by
  have room : setting.room ≤ sourceMax := by cases setting <;> first | decide | exact absurd rfl rgb
  have some := (width_fits setting).1
  obtain ⟨low, high⟩ := inside
  rw [slot_size, Setting.place, if_pos uses] at high
  rw [Setting.place, if_pos uses] at low
  refine ⟨low, by omega, Int32.toInt_inj.mp ?_⟩
  have small : offset.toInt.toNat < 2 ^ 31 := by
    simp only [sourceMax] at room
    omega
  rw [Int32.toInt_ofNat_of_lt small, Int.toNat_of_nonneg low]

theorem calls_last (stack : UInt32) (setting : Setting) (proper : setting ≠ .lvdsSsc) (offset : Int32)
    (inside : setting.InsideSlot offset) :
    lastSaved (factory.calls stack) setting offset = factoryValue factory setting offset := by
  rw [calls, last_saved_append, last_saved_append, last_saved_append, sources_last factory stack sourceMax (Nat.le_refl _),
    last_last factory stack setting proper, panel_last factory stack setting offset inside]
  by_cases rgb : setting = .rgbValue
  · subst rgb
    rw [rgb_last factory stack offset inside]
    rfl
  · rw [rgb_none stack setting rgb, Option.none_or]
    by_cases uses : setting.usesOffset = true
    · obtain ⟨low, high, back⟩ := source_offset setting rgb offset inside uses
      rw [if_pos uses, if_pos ⟨low, high⟩]
      cases setting <;>
        first | exact absurd rfl rgb | exact absurd uses (by decide) | simp only [sourceValue, back, Option.none_or, Option.or_none]
    · rw [if_neg uses, if_neg (by decide)]
      cases setting <;> first | rfl | exact absurd rfl proper | exact absurd rfl uses

theorem calls_reset (stack : UInt32) (store : Store) (setting : Setting) (proper : setting ≠ .lvdsSsc) (offset : Int32)
    (inside : setting.InsideSlot offset) :
    store.saveAll (factory.calls stack) setting offset = store.reset factory setting offset := by
  rw [save_all_last, calls_last factory stack setting proper offset inside, Store.reset]

theorem source_calls_each (stack : UInt32) (i : Nat) (small : i < sourceMax) :
    ∀ call ∈ factory.sourceCalls stack i, call.setting.InsideSlot call.offset ∨ Overflows call := by
  have at_i : (Int32.ofNat i).toInt = i := Int32.toInt_ofNat_of_lt (Nat.lt_trans small (by decide))
  have wide (setting : Setting) (room : setting.room = sourceMax) (narrow : setting.width = 1) :
      setting.InsideSlot (.ofNat i) := by
    rw [Setting.InsideSlot, slot_size, room, narrow, Setting.place]
    split
    · omega
    · exact ⟨by decide, by decide⟩
  have gamma (value : Int) : Setting.gammaValue.InsideSlot (.ofNat i) ∨
      Overflows ⟨.gammaValue, .ofNat i, value, stack⟩ := by
    rcases Nat.eq_zero_or_pos i with rfl | positive
    · exact .inl (first_inside .gammaValue)
    · exact .inr ⟨i, positive, small, rfl, rfl⟩
  simp only [sourceCalls, List.forall_mem_cons, List.not_mem_nil, false_implies, implies_true, and_true]
  exact ⟨.inl (wide _ rfl rfl), .inl (wide _ rfl rfl), .inl (wide _ rfl rfl), .inl (wide _ rfl rfl), .inl (wide _ rfl rfl),
    .inl (first_inside _), .inl (wide _ rfl rfl), .inl (wide _ rfl rfl), .inl (wide _ rfl rfl), .inl (wide _ rfl rfl), gamma _,
    .inl (wide _ rfl rfl), .inl (wide _ rfl rfl), .inl (wide _ rfl rfl), .inl (wide _ rfl rfl), .inl (wide _ rfl rfl)⟩

theorem rgb_calls_inside (stack : UInt32) :
    ∀ call ∈ (List.range 6).flatMap (rgbCalls stack), call.setting.InsideSlot call.offset := by
  have each : ∀ i < 6, Setting.rgbValue.InsideSlot (.ofNat i + vppColorTemperatureModeStandard * 6) ∧
      Setting.rgbValue.InsideSlot (.ofNat i + vppColorTemperatureModeWarm * 6) ∧
      Setting.rgbValue.InsideSlot (.ofNat i + vppColorTemperatureModeCold * 6) := by
    simp only [Setting.InsideSlot, slot_size]
    decide
  intro call member
  obtain ⟨i, small, listed⟩ := List.mem_flatMap.mp member
  obtain ⟨standard, warm, cold⟩ := each i (List.mem_range.mp small)
  simp only [rgbCalls, List.mem_cons, List.not_mem_nil, or_false] at listed
  rcases listed with rfl | rfl | rfl
  · exact standard
  · exact warm
  · exact cold

theorem calls_each (stack : UInt32) :
    ∀ call ∈ factory.calls stack, call.setting.InsideSlot call.offset ∨ Overflows call := by
  intro call member
  simp only [calls, List.mem_append] at member
  rcases member with ((source | panel) | rgb) | last
  · obtain ⟨i, small, listed⟩ := List.mem_flatMap.mp source
    exact factory.source_calls_each stack i (List.mem_range.mp small) call listed
  · have zero : call.offset = 0 := by
      simp only [panelCalls, List.mem_cons, List.not_mem_nil, or_false] at panel
      rcases panel with rfl | rfl | rfl | rfl | rfl | rfl | rfl | rfl <;> rfl
    exact .inl (zero ▸ first_inside call.setting)
  · exact .inl (rgb_calls_inside stack call rgb)
  · have zero : call.offset = 0 := by
      simp only [lastCalls, List.mem_cons, List.not_mem_nil, or_false] at last
      rcases last with rfl | rfl | rfl | rfl <;> rfl
    exact .inl (zero ▸ first_inside call.setting)

end Factory

-- The eye protection mode is saved behind the gamma values, one of which has gone to its slot.
theorem reset_calls_agree (factory : Factory) (stack : UInt32) (store : Store) (dev : File) (full : dev.shorts = [])
    (agrees : Agrees store dev) :
    Agrees (store.reset factory) (applyAll (factory.calls stack) dev) ∧
      (applyAll (factory.calls stack) dev).shorts = [] := by
  have but : AgreesBut IsEye store dev := fun setting offset proper _ => agrees setting offset proper not_false
  obtain ⟨agreesBut, fullAfter⟩ := calls_agree (factory.calls stack) (factory.calls_each stack) store dev full but
  refine ⟨fun setting offset proper _ inside => ?_, fullAfter⟩
  rw [← factory.calls_reset stack store setting proper offset inside]
  by_cases eye : setting = .eyeProtectionMode
  · subst eye
    have split : factory.calls stack = (factory.calls stack).dropLast ++
        [⟨.eyeProtectionMode, 0, factory.pqInt cfgEyeprojectmodeDef 0, stack⟩] := by
      have last : factory.lastCalls stack = (factory.lastCalls stack).dropLast ++
          [⟨.eyeProtectionMode, 0, factory.pqInt cfgEyeprojectmodeDef 0, stack⟩] := rfl
      rw [Factory.calls, last, ← List.append_assoc, List.dropLast_concat]
    have early := calls_agree (factory.calls stack).dropLast
      (fun call member => factory.calls_each stack call (List.mem_of_mem_dropLast member)) store dev full but
    rw [split, applyAll, Store.saveAll, List.foldl_append, List.foldl_append]
    have single : Setting.InsideSlot .eyeProtectionMode 0 := first_inside .eyeProtectionMode
    have place : Setting.place .eyeProtectionMode offset = Setting.place .eyeProtectionMode 0 := rfl
    have saved := content_saved ⟨.eyeProtectionMode, 0, factory.pqInt cfgEyeprojectmodeDef 0, stack⟩
      (applyAll (factory.calls stack).dropLast dev) (inside_on_device _ _ single) early.2 proper offset place
    exact saved
  · exact agreesBut setting offset proper eye inside

section
variable (id : Nat) (listed : id < 297)

include listed

theorem byte_address : ((ssmGetActualAddr id + (0 : Int32).toUInt32).toInt32).toInt = slotStart sizes id := by
  have addr : (ssmGetActualAddr id).toNat = slotStart sizes id := actual_addr id listed
  have bound : slotStart sizes id ≤ 2051 := by
    have last : slotStart sizes 297 = 2051 := by decide +kernel
    exact last ▸ slot_start_mono sizes id 297 (Nat.le_of_lt listed)
  have zero : ssmGetActualAddr id + (0 : Int32).toUInt32 = ssmGetActualAddr id := UInt32.add_zero _
  rw [zero, word_to_int _ (by omega), addr]

theorem save_byte (word : UInt32) (dev : File) (full : dev.shorts = []) :
    (saveWord id 1 0 word dev).1 = 0 ∧ (saveWord id 1 0 word dev).2.shorts = [] ∧
      (saveWord id 1 0 word dev).2.bytes = splice dev.bytes (slotStart sizes id) [word.toUInt8] := by
  have low : (le32 word).take 1 = [word.toUInt8] := rfl
  have seek : dev.lseek (slotStart sizes id) = { dev with pos := slotStart sizes id } := by
    rw [File.lseek, if_neg (by omega)]
    rfl
  have saved : saveWord id 1 0 word dev = (0, { dev with pos := slotStart sizes id }.write [word.toUInt8]) := by
    simp only [saveWord, ssmWriteNTypes, writeBytes, byte_address id listed, seek, low]
    rfl
  rw [saved]
  exact ⟨rfl, File.write_shorts _ _ full, File.write_full { dev with pos := slotStart sizes id } _ full (by simp)⟩

theorem save_covers (word : UInt32) (dev : File) (full : dev.shorts = []) :
    slotStart sizes id < (saveWord id 1 0 word dev).2.bytes.length := by
  have covers := splice_covers dev.bytes [word.toUInt8] (slotStart sizes id)
  rw [List.length_singleton] at covers
  rw [(save_byte id listed word dev full).2.2]
  omega

theorem read_byte {Value : Type} (convert : UInt32 → Value) (dev : File) :
    (readWord id 1 0 0 convert dev).1 = 0 ∧
      (readWord id 1 0 0 convert dev).2.1 = convert (.ofNat (byteAt dev.bytes (slotStart sizes id)).toNat) ∧
      (readWord id 1 0 0 convert dev).2.2.bytes = dev.bytes ∧ (readWord id 1 0 0 convert dev).2.2.shorts = dev.shorts := by
  have seek : dev.lseek (slotStart sizes id) = { dev with pos := slotStart sizes id } := by
    rw [File.lseek, if_neg (by omega)]
    rfl
  have buffer : le32 0 = List.replicate 4 0 := rfl
  have padded := fetch_padded dev.bytes (slotStart sizes id) 1 4 (by decide)
  have one : fetch dev.bytes (slotStart sizes id) 1 = [byteAt dev.bytes (slotStart sizes id)] := rfl
  have value : (readWord id 1 0 0 convert dev).2.1 = convert (word32 ((dev.bytes.drop (slotStart sizes id)).take 1 ++
      (List.replicate 4 0).drop ((dev.bytes.drop (slotStart sizes id)).take 1).length)) := by
    simp only [readWord, ssmReadNTypes, readBytes, byte_address id listed, seek, buffer]
    rfl
  refine ⟨rfl, ?_, ?_, ?_⟩
  · rw [value, padded, one]
    exact congrArg convert (word32_padded _)
  · simp only [readWord, ssmReadNTypes, readBytes, byte_address id listed, seek]
    rfl
  · simp only [readWord, ssmReadNTypes, readBytes, byte_address id listed, seek]
    rfl

end

-- An id whose slot holds something that is not a setting.
structure Foreign (id : Nat) : Prop where
  listed : id < 297
  holds : 1 ≤ sizes.getD id 0
  apart : ∀ setting : Setting, setting.id ≠ id

theorem foreign_agrees (id : Nat) (foreign : Foreign id) (word : UInt32) (store : Store) (dev : File)
    (full : dev.shorts = []) (agrees : Agrees store dev) : Agrees store (saveWord id 1 0 word dev).2 := by
  intro setting offset proper wanted inside
  obtain ⟨-, -, bytes⟩ := save_byte id foreign.listed word dev full
  obtain ⟨starts, ends⟩ := inside_position setting offset inside
  have holds := foreign.holds
  have elsewhere : slotStart sizes id + 1 ≤ setting.position offset ∨
      setting.position offset + setting.width ≤ slotStart sizes id := by
    rcases Nat.lt_or_gt_of_ne (foreign.apart setting) with before | behind
    · have order : setting.start + setting.slotSize ≤ slotStart sizes id := slot_ends_before sizes setting.id id before
      omega
    · have order : slotStart sizes id + sizes.getD id 0 ≤ setting.start := slot_ends_before sizes id setting.id behind
      omega
  rw [← agrees setting offset proper wanted inside]
  apply content_congr
  intro i small
  rw [bytes, byte_at_splice, if_neg (by rw [List.length_singleton]; omega)]

-- What stands in front of the settings and of what the reset of them writes.
def SameMarks (before after : File) : Prop :=
  markAt after ssmMark01Start = markAt before ssmMark01Start ∧ markAt after ssmMark02Start = markAt before ssmMark02Start ∧
    markAt after ssmMark03Start = markAt before ssmMark03Start

theorem same_marks_iff (before after : File) (same : SameMarks before after) : Marked after ↔ Marked before := by
  rw [Marked, Marked, same.1, same.2.1, same.2.2]

theorem SameMarks.then {first second third : File} (here : SameMarks first second) (there : SameMarks second third) :
    SameMarks first third :=
  ⟨there.1.trans here.1, there.2.1.trans here.2.1, there.2.2.trans here.2.2⟩

theorem splice_same_marks (dev after : File) (offset : Nat) (source : Bytes) (bytes : after.bytes = splice dev.bytes offset source)
    (elsewhere : offset + source.length ≤ slotStart sizes ssmMark01Start ∨ slotStart sizes ssmMark03Start < offset) :
    SameMarks dev after := by
  have first : slotStart sizes ssmMark01Start ≤ slotStart sizes ssmMark02Start := by decide +kernel
  have second : slotStart sizes ssmMark02Start ≤ slotStart sizes ssmMark03Start := by decide +kernel
  refine ⟨?_, ?_, ?_⟩
  · rw [markAt, markAt, bytes, byte_at_splice, if_neg (by omega)]
  · rw [markAt, markAt, bytes, byte_at_splice, if_neg (by omega)]
  · rw [markAt, markAt, bytes, byte_at_splice, if_neg (by omega)]

theorem foreign_same_marks (id : Nat) (foreign : Foreign id) (word : UInt32) (dev : File) (full : dev.shorts = [])
    (elsewhere : slotStart sizes id + 1 ≤ slotStart sizes ssmMark01Start ∨ slotStart sizes ssmMark03Start < slotStart sizes id) :
    SameMarks dev (saveWord id 1 0 word dev).2 :=
  splice_same_marks dev _ _ _ (save_byte id foreign.listed word dev full).2.2 elsewhere

theorem call_same_marks (call : Call) (dev : File) (full : dev.shorts = [])
    (onDevice : call.setting.OnDevice call.offset) (behind : 0 ≤ (call.setting.place call.offset).toInt) :
    SameMarks dev (call.apply dev) := by
  apply splice_same_marks dev _ _ _ (apply_bytes call dev onDevice full)
  have start : slotStart sizes ssmMark03Start < call.setting.start := by
    have front : slotStart sizes ssmMark03Start < slotStart sizes 151 := by decide +kernel
    exact Nat.lt_of_lt_of_le front (slot_start_mono sizes 151 call.setting.id (id_listed call.setting).1)
  have position : call.setting.start ≤ call.setting.position call.offset := by
    rw [Setting.position]
    omega
  omega

theorem overflow_on_device (call : Call) (overflows : Overflows call) :
    call.setting.OnDevice call.offset ∧ 0 ≤ (call.setting.place call.offset).toInt := by
  obtain ⟨i, positive, small, gamma, at_i⟩ := overflows
  have value : (Int32.ofNat i).toInt = i := Int32.toInt_ofNat_of_lt (Nat.lt_trans small (by decide))
  rw [gamma, at_i]
  constructor
  · apply from_source_on_device
    rw [FromSource, value]
    simp only [sourceInvalid]
    omega
  · show 0 ≤ (Int32.ofNat i).toInt
    omega

theorem calls_same_marks (calls : List Call) (each : ∀ call ∈ calls, call.setting.InsideSlot call.offset ∨ Overflows call)
    (dev : File) (full : dev.shorts = []) : SameMarks dev (applyAll calls dev) := by
  induction calls generalizing dev with
  | nil => exact ⟨rfl, rfl, rfl⟩
  | cons call rest ih =>
      obtain ⟨onDevice, behind⟩ : call.setting.OnDevice call.offset ∧ 0 ≤ (call.setting.place call.offset).toInt := by
        rcases each call List.mem_cons_self with inside | overflows
        · exact ⟨inside_on_device _ _ inside, inside.1⟩
        · exact overflow_on_device call overflows
      exact (call_same_marks call dev full onDevice behind).then
        (ih (fun later member => each later (List.mem_cons_of_mem _ member)) _ (apply_shorts call dev onDevice full))

-- One more byte that neither a setting nor a mark has.
structure Kept (store : Store) (before after : File) : Prop where
  agrees : Agrees store after
  same : SameMarks before after
  full : after.shorts = []

theorem hdmi_kept (id : Nat) (hdmi : id ∈ [281, 282, 283, 284, 285, 287]) (word : UInt32) (store : Store)
    (before dev : File) (here : Kept store before dev) : Kept store before (saveWord id 1 0 word dev).2 := by
  have foreign : Foreign id := by
    simp only [List.mem_cons, List.not_mem_nil, or_false] at hdmi
    rcases hdmi with rfl | rfl | rfl | rfl | rfl | rfl
    all_goals exact ⟨by decide, by decide +kernel, fun setting => by cases setting <;> decide⟩
  have elsewhere : slotStart sizes ssmMark03Start < slotStart sizes id := by
    have front : slotStart sizes ssmMark03Start < slotStart sizes 281 := by decide +kernel
    have order : 281 ≤ id := by
      simp only [List.mem_cons, List.not_mem_nil, or_false] at hdmi
      omega
    exact Nat.lt_of_lt_of_le front (slot_start_mono sizes 281 id order)
  exact {
    agrees := foreign_agrees id foreign word store dev here.full here.agrees
    same := here.same.then (foreign_same_marks id foreign word dev here.full (.inr elsewhere))
    full := (save_byte id foreign.listed word dev here.full).2.1 }

theorem edid_kept (rw_val : Int32) (store : Store) (before dev : File) (here : Kept store before dev) :
    Kept store before (ssmEdidRestoreDefault rw_val dev) :=
  hdmi_kept 284 (by decide) _ _ _ _ (hdmi_kept 283 (by decide) _ _ _ _ (hdmi_kept 282 (by decide) _ _ _ _
    (hdmi_kept 281 (by decide) _ _ _ _ here)))

-- The colour range is written last, behind the settings that have a default.
theorem reset_kept (factory : Factory) (stack : UInt32) (store : Store) (dev after : File) (full : dev.shorts = [])
    (agrees : Agrees store dev) (reset : resetAllUserSettingParam factory stack dev = some after) :
    Kept (store.reset factory) dev after ∧ slotStart sizes customerDataPosHdmiColorRangeStart < after.bytes.length := by
  simp only [resetAllUserSettingParam, Option.bind_eq_bind, Option.bind_eq_some_iff, Option.some.injEq] at reset
  obtain ⟨tmp, -, edid, -, range, -, rfl⟩ := reset
  obtain ⟨agreesAfter, fullAfter⟩ := reset_calls_agree factory stack store dev full agrees
  have called : Kept (store.reset factory) dev (applyAll (factory.calls stack) dev) :=
    ⟨agreesAfter, calls_same_marks _ (factory.calls_each stack) dev full, fullAfter⟩
  have edids := edid_kept (if edid.bytes = ascii ("edid_20").toList then 1 else 0) _ _ _ called
  have switcher : Kept (store.reset factory) dev (ssmHdcpSwitcherRestoreDefault 0 _) :=
    hdmi_kept 285 (by decide) (0 : Int32).toUInt32 _ _ _ edids
  refine ⟨hdmi_kept 287 (by decide) _ _ _ _ switcher, ?_⟩
  exact save_covers customerDataPosHdmiColorRangeStart (by decide) _ _ switcher.full

theorem character_foreign : Foreign ssmRsvWCharacterCharStart :=
  ⟨by decide, by decide +kernel, fun setting => by cases setting <;> decide⟩

-- Reading leaves the bytes and the writes to come as they were.
structure Unread (before after : File) : Prop where
  bytes : after.bytes = before.bytes
  shorts : after.shorts = before.shorts

theorem unread_agrees (store : Store) (before after : File) (unread : Unread before after) (agrees : Agrees store before) :
    Agrees store after := fun setting offset proper wanted inside => by
  rw [content, unread.bytes]
  exact agrees setting offset proper wanted inside

theorem unread_same_marks (before after : File) (unread : Unread before after) : SameMarks before after := by
  simp only [SameMarks, markAt, unread.bytes, and_self]

theorem read_unread (id : Nat) (listed : id < 297) {Value : Type} (convert : UInt32 → Value) (dev : File) :
    Unread dev (readWord id 1 0 0 convert dev).2.2 :=
  ⟨(read_byte id listed convert dev).2.2.1, (read_byte id listed convert dev).2.2.2⟩

theorem check_marks (list : List (Nat × Int32)) (listed : ∀ mark ∈ list, mark.1 < 297) (failed : Nat) (dev : File) :
    (checkMarks list failed dev).1 =
        failed + (list.filter fun mark => markAt dev mark.1 ≠ mark.2.toUInt32.toUInt8).length ∧
      Unread dev (checkMarks list failed dev).2 := by
  induction list generalizing failed dev with
  | nil => exact ⟨rfl, rfl, rfl⟩
  | cons mark rest ih =>
      obtain ⟨mark_offset, mark_value⟩ := mark
      obtain ⟨code, value, bytes, shorts⟩ := read_byte mark_offset (listed _ List.mem_cons_self) UInt32.toUInt8 dev
      have byte : UInt32.toUInt8 (.ofNat (byteAt dev.bytes (slotStart sizes mark_offset)).toNat) = markAt dev mark_offset := by
        apply UInt8.toNat_inj.mp
        have small := (byteAt dev.bytes (slotStart sizes mark_offset)).toNat_lt
        rw [UInt32.toNat_toUInt8, UInt32.toNat_ofNat', markAt]
        omega
      have not_failed : ¬ (readWord mark_offset 1 0 0 UInt32.toUInt8 dev).1 < 0 := by
        rw [code]
        decide
      obtain ⟨count, unread⟩ := ih (fun later member => listed later (List.mem_cons_of_mem _ member))
        (if markAt dev mark_offset ≠ mark_value.toUInt32.toUInt8 then failed + 1 else failed)
        (readWord mark_offset 1 0 0 UInt32.toUInt8 dev).2.2
      have same : ∀ id, markAt (readWord mark_offset 1 0 0 UInt32.toUInt8 dev).2.2 id = markAt dev id := fun id => by
        rw [markAt, bytes, markAt]
      simp only [same] at count
      rw [checkMarks]
      simp only [value, byte, if_neg not_failed]
      refine ⟨?_, unread.bytes.trans bytes, unread.shorts.trans shorts⟩
      rw [count, List.filter_cons]
      by_cases right : markAt dev mark_offset = mark_value.toUInt32.toUInt8
      · simp [right]
      · simp only [ne_eq, right, not_false_eq_true, if_true, decide_true, List.length_cons]
        omega

theorem marks_failed (dev : File) :
    3 ≤ (marks.filter fun mark => markAt dev mark.1 ≠ mark.2.toUInt32.toUInt8).length ↔ ¬ Marked dev := by
  have first : (0x90 : Int32).toUInt32.toUInt8 = 0x90 := rfl
  have second : (0xCE : Int32).toUInt32.toUInt8 = 0xCE := rfl
  have third : (0xDF : Int32).toUInt32.toUInt8 = 0xDF := rfl
  simp only [marks, List.filter_cons, List.filter_nil, first, second, third, Marked]
  by_cases one : markAt dev ssmMark01Start = 0x90 <;> by_cases two : markAt dev ssmMark02Start = 0xCE <;>
    by_cases three : markAt dev ssmMark03Start = 0xDF <;> simp [one, two, three]

theorem check_character (store : Store) (dev : File) (full : dev.shorts = []) (agrees : Agrees store dev) :
    Kept store dev (checkCharacter dev) := by
  have temp := read_unread 0 (by decide) id dev
  have character : Unread (readWord 0 1 0 0 id dev).2.2 (readBurnWriteCharaterChar (readWord 0 1 0 0 id dev).2.2).2 := by
    have unread := read_unread ssmRsvWCharacterCharStart (by decide) UInt32.toInt32 (readWord 0 1 0 0 id dev).2.2
    rw [readBurnWriteCharaterChar]
    split
    · exact unread
    · exact unread
  have start : Unread dev (readBurnWriteCharaterChar (readWord 0 1 0 0 id dev).2.2).2 :=
    ⟨character.bytes.trans temp.bytes, character.shorts.trans temp.shorts⟩
  have startKept : Kept store dev (readBurnWriteCharaterChar (readWord 0 1 0 0 id dev).2.2).2 :=
    ⟨unread_agrees store _ _ start agrees, unread_same_marks _ _ start, start.shorts.trans full⟩
  have front : slotStart sizes ssmRsvWCharacterCharStart + 1 ≤ slotStart sizes ssmMark01Start := by decide +kernel
  rw [checkCharacter]
  split
  · exact ⟨foreign_agrees _ character_foreign _ store _ startKept.full startKept.agrees,
      startKept.same.then (foreign_same_marks _ character_foreign _ _ startKept.full (.inl front)),
      (save_byte _ character_foreign.listed _ _ startKept.full).2.1⟩
  · exact startKept

theorem device_mark_check (store : Store) (dev : File) (full : dev.shorts = []) (agrees : Agrees store dev) :
    ((deviceMarkCheck dev).1 < 0 ↔ ¬ Marked dev) ∧ Kept store dev (deviceMarkCheck dev).2 := by
  have before := check_character store dev full agrees
  obtain ⟨count, unread⟩ := check_marks marks (by decide) 0 (checkCharacter dev)
  have code : (deviceMarkCheck dev).1 < 0 ↔ ¬ Marked dev := by
    rw [deviceMarkCheck, ← same_marks_iff _ _ before.same, ← marks_failed, count, Nat.zero_add]
    by_cases many : 3 ≤ (marks.filter fun mark => markAt (checkCharacter dev) mark.1 ≠ mark.2.toUInt32.toUInt8).length
    · simp only [ge_iff_le, many, iff_true]
      decide
    · simp only [ge_iff_le, many, iff_false]
      decide
  exact ⟨code, unread_agrees store _ _ unread before.agrees, before.same.then (unread_same_marks _ _ unread),
    unread.shorts.trans before.full⟩

theorem mark_foreign (mark : Nat × Int32) (listed : mark ∈ marks) : Foreign mark.1 := by
  simp only [marks, List.mem_cons, List.not_mem_nil, or_false] at listed
  rcases listed with rfl | rfl | rfl
  all_goals exact ⟨by decide, by decide +kernel, fun setting => by cases setting <;> decide⟩

theorem restore_marks_cons (mark : Nat × Int32) (rest : List (Nat × Int32)) (listed : mark ∈ marks) (dev : File)
    (full : dev.shorts = []) :
    restoreMarks (mark :: rest) dev = restoreMarks rest (saveWord mark.1 1 0 mark.2.toUInt32 dev).2 := by
  have not_failed : ¬ (saveWord mark.1 1 0 mark.2.toUInt32 dev).1 < 0 := by
    rw [(save_byte mark.1 (mark_foreign mark listed).listed mark.2.toUInt32 dev full).1]
    decide
  rw [restoreMarks]
  simp only [if_neg not_failed]

theorem restore_marks (list : List (Nat × Int32)) (listed : ∀ mark ∈ list, mark ∈ marks) (store : Store) (dev : File)
    (full : dev.shorts = []) (agrees : Agrees store dev) :
    Agrees store (restoreMarks list dev).2 ∧ (restoreMarks list dev).2.shorts = [] := by
  induction list generalizing dev with
  | nil => exact ⟨agrees, full⟩
  | cons mark rest ih =>
      have own := listed mark List.mem_cons_self
      have foreign := mark_foreign mark own
      obtain ⟨-, shorts, -⟩ := save_byte mark.1 foreign.listed mark.2.toUInt32 dev full
      rw [restore_marks_cons mark rest own dev full]
      exact ih (fun later member => listed later (List.mem_cons_of_mem _ member)) _ shorts
        (foreign_agrees _ foreign _ store dev full agrees)

theorem restore_agrees (store : Store) (dev : File) (full : dev.shorts = []) (agrees : Agrees store dev) :
    Agrees store (restoreDeviceMarkValues dev).2 ∧ (restoreDeviceMarkValues dev).2.shorts = [] :=
  restore_marks marks (fun _ listed => listed) store dev full agrees

-- The last mark, which no write comes behind.
theorem restore_marked (dev : File) (full : dev.shorts = []) : Marked (restoreDeviceMarkValues dev).2 := by
  obtain ⟨-, shorts, -⟩ := save_byte ssmMark01Start (by decide) (0x90 : Int32).toUInt32 dev full
  obtain ⟨-, shortsToo, -⟩ := save_byte ssmMark02Start (by decide) (0xCE : Int32).toUInt32 _ shorts
  obtain ⟨-, -, bytesLast⟩ := save_byte ssmMark03Start (by decide) (0xDF : Int32).toUInt32 _ shortsToo
  have restored : (restoreDeviceMarkValues dev).2 = (saveWord ssmMark03Start 1 0 (0xDF : Int32).toUInt32
      (saveWord ssmMark02Start 1 0 (0xCE : Int32).toUInt32
        (saveWord ssmMark01Start 1 0 (0x90 : Int32).toUInt32 dev).2).2).2 := by
    rw [restoreDeviceMarkValues, marks, restore_marks_cons _ _ (by decide) dev full,
      restore_marks_cons _ _ (by decide) _ shorts, restore_marks_cons _ _ (by decide) _ shortsToo, restoreMarks]
  right
  right
  have value : (0xDF : Int32).toUInt32.toUInt8 = 0xDF := rfl
  rw [restored, markAt, bytesLast, byte_at_splice, if_pos ⟨Nat.le_refl _, Nat.lt_succ_self _⟩, value, Nat.sub_self]
  rfl

theorem header1_length : (encodeSection1 gSSMHeaderSection1).length = 36 := by decide

theorem recreated_bytes (hdr : File) (full : hdr.shorts = []) :
    (ssmRecreateHeader hdr).2.bytes = encodeSection1 gSSMHeaderSection1 ++ layout.flatMap encodeSection2 ∧
      (ssmRecreateHeader hdr).2.shorts = [] := by
  have erased : ((hdr.ftruncate 0).lseek 0) = { bytes := [], pos := 0, shorts := [] } := by
    rw [File.ftruncate, File.lseek, if_neg (by decide), full, Nat.zero_sub]
    rfl
  have some : encodeSection1 gSSMHeaderSection1 ≠ [] := by decide
  have first : (({ bytes := [], pos := 0, shorts := [] } : File).write (encodeSection1 gSSMHeaderSection1)) =
      { bytes := encodeSection1 gSSMHeaderSection1, pos := 36, shorts := [] } := by decide +kernel
  have someToo : layout.flatMap encodeSection2 ≠ [] := by decide +kernel
  rw [ssmRecreateHeader, erased, first]
  constructor
  · rw [File.write_full _ _ rfl someToo, splice, ← header1_length, List.take_length, Nat.sub_self, List.replicate_zero,
      List.append_nil, List.drop_eq_nil_of_le (Nat.le_add_right _ _), List.append_nil]
  · exact File.write_shorts _ _ rfl

theorem verify_eq (hdr : File) : (ssmVerify hdr).1 = section1Status (hdr.bytes.take 36) ∧ Unread hdr (ssmVerify hdr).2 := by
  have seek : hdr.lseek 0 = { hdr with pos := 0 } := by
    rw [File.lseek, if_neg (by decide)]
    rfl
  rw [ssmVerify, ssmSection1Verify, ssmSection2Verify, seek]
  exact ⟨rfl, rfl, rfl⟩

theorem recreated_valid (hdr : File) (full : hdr.shorts = []) :
    (ssmVerify (ssmRecreateHeader hdr).2).1 = .ssmHeaderValid := by
  have front : (ssmRecreateHeader hdr).2.bytes.take 36 = encodeSection1 gSSMHeaderSection1 := by
    rw [(recreated_bytes hdr full).1, ← header1_length]
    exact List.take_left
  rw [(verify_eq _).1, front]
  decide

theorem represents_of {status : SSMStatus} {marked : Bool} {store : Store} {hdr dev : File}
    (verified : (ssmVerify hdr).1 = status) (right : decide (Marked dev) = marked) (agrees : Agrees store dev)
    (hdrFull : hdr.shorts = []) (devFull : dev.shorts = []) : Represents ⟨status, marked, store⟩ ⟨hdr, dev⟩ :=
  ⟨verified, right, agrees, hdrFull, devFull⟩

theorem boot_represents (factory : Factory) (stack : UInt32) (device : Device) (flash next : Flash)
    (here : Represents device flash)
    (booted : init (some (resetAllUserSettingParam factory stack)) flash = some next) :
    Represents (device.step factory (.boot stack)) next := by
  obtain ⟨code, checked⟩ := device_mark_check device.store flash.dev here.devFull here.store
  have unread := (verify_eq flash.hdr).2
  have hdrFull : (ssmVerify flash.hdr).2.shorts = [] := unread.shorts.trans here.hdrFull
  have status_after : (ssmVerify (ssmVerify flash.hdr).2).1 = device.status := by
    rw [(verify_eq _).1, unread.bytes, ← (verify_eq _).1, here.status]
  have bad_iff : (deviceMarkCheck flash.dev).1 < 0 ∨ (ssmVerify flash.hdr).1 = .ssmHeaderInvalid ↔
      device.marked = false ∨ device.status = .ssmHeaderInvalid := by
    rw [code, here.status, ← here.marked, decide_eq_false_iff_not]
  simp only [Device.step]
  rw [init] at booted
  by_cases bad : device.marked = false ∨ device.status = .ssmHeaderInvalid
  · rw [if_pos bad]
    rw [if_pos (bad_iff.mpr bad)] at booted
    simp only [Option.bind_eq_bind, Option.bind_eq_some_iff, Option.some.injEq] at booted
    obtain ⟨dev, reset, rfl⟩ := booted
    have after := (reset_kept factory stack device.store _ dev checked.full checked.agrees reset).1
    obtain ⟨agrees, devFull⟩ := restore_agrees _ dev after.full after.agrees
    have marked : decide (Marked (restoreDeviceMarkValues dev).2) = true := by
      rw [decide_eq_true_eq]
      exact restore_marked dev after.full
    have valid := recreated_valid (ssmVerify flash.hdr).2 hdrFull
    have recreatedFull := (recreated_bytes (ssmVerify flash.hdr).2 hdrFull).2
    exact represents_of valid marked agrees recreatedFull devFull
  · rw [if_neg bad]
    rw [if_neg (mt bad_iff.mp bad), here.status] at booted
    have good : device.marked = true := eq_true_of_ne_false fun none => bad (.inl none)
    by_cases changed : device.status = .ssmHeaderStructChange
    · rw [if_pos changed] at booted ⊢
      simp only [Option.bind_eq_bind, Option.bind_eq_some_iff, Option.some.injEq] at booted
      obtain ⟨dev, reset, rfl⟩ := booted
      have after := (reset_kept factory stack device.store _ dev checked.full checked.agrees reset).1
      obtain ⟨agrees, devFull⟩ := restore_agrees _ dev after.full after.agrees
      have marked : decide (Marked (restoreDeviceMarkValues dev).2) = true := by
        rw [decide_eq_true_eq]
        exact restore_marked dev after.full
      exact represents_of status_after (marked.trans good.symm) agrees hdrFull devFull
    · rw [if_neg changed] at booted ⊢
      cases booted
      have marked : decide (Marked (deviceMarkCheck flash.dev).2) = device.marked := by
        rw [← here.marked, decide_eq_decide]
        exact same_marks_iff _ _ checked.same
      exact represents_of status_after marked checked.agrees hdrFull checked.full

theorem life_step_represents (factory : Factory) (device : Device) (flash next : Flash) (event : Event)
    (here : Represents device flash) (inside : SavesInside flash event)
    (taken : lifeStep factory flash event = some next) : Represents (device.step factory event) next := by
  cases event with
  | boot stack => exact boot_represents factory stack device flash next here taken
  | save call =>
      simp only [lifeStep, Option.some.injEq] at taken
      subst taken
      have onDevice := inside_on_device call.setting call.offset inside
      exact {
        status := here.status
        marked := by
          rw [Device.step, ← here.marked, decide_eq_decide]
          exact same_marks_iff _ _ (call_same_marks call flash.dev here.devFull onDevice inside.1)
        store := save_agrees _ device.store call flash.dev here.devFull inside here.store
        hdrFull := here.hdrFull
        devFull := apply_shorts call flash.dev onDevice here.devFull }
  | fcatorySSMRestore stack =>
      obtain ⟨dev, reset, rfl⟩ := Option.map_eq_some_iff.mp taken
      have after := (reset_kept factory stack device.store _ dev here.devFull here.store reset).1
      exact {
        status := here.status
        marked := by
          rw [Device.step, ← here.marked, decide_eq_decide]
          exact same_marks_iff _ _ after.same
        store := after.agrees
        hdrFull := here.hdrFull
        devFull := after.full }

theorem life_represents (factory : Factory) (device : Device) (flash last : Flash) (events : List Event)
    (here : Represents device flash) (inside : Guarded (lifeStep factory) SavesInside flash events)
    (reached : run (lifeStep factory) flash events = some last) :
    Represents (events.foldl (Device.step factory) device) last := by
  induction events generalizing device flash with
  | nil => exact Option.some.inj reached ▸ here
  | cons event rest ih =>
      obtain ⟨next, taken, later⟩ := Option.bind_eq_some_iff.mp reached
      exact ih (device.step factory event) next (life_step_represents factory device flash next event here inside.1 taken)
        (inside.2 next taken) later

-- What any two files stand for.
def deviceOf (flash : Flash) : Device :=
  ⟨(ssmVerify flash.hdr).1, decide (Marked flash.dev), fun setting offset => content setting offset flash.dev⟩

theorem device_of_represents (flash : Flash) (hdrFull : flash.hdr.shorts = []) (devFull : flash.dev.shorts = []) :
    Represents (deviceOf flash) flash := ⟨rfl, rfl, fun _ _ _ _ _ => rfl, hdrFull, devFull⟩

theorem life_reads (factory : Factory) (flash last : Flash) (events : List Event) (hdrFull : flash.hdr.shorts = [])
    (devFull : flash.dev.shorts = []) (inside : Guarded (lifeStep factory) SavesInside flash events)
    (reached : run (lifeStep factory) flash events = some last) :
    Represents (events.foldl (Device.step factory) (deviceOf flash)) last :=
  life_represents factory (deviceOf flash) flash last events (device_of_represents flash hdrFull devFull) inside reached

-- Whatever the two files hold at first and whatever is saved, restored and started again.
theorem settings_lifecycle (factory : Factory) (flash last : Flash) (events : List Event) (hdrFull : flash.hdr.shorts = [])
    (devFull : flash.dev.shorts = []) (inside : Guarded (lifeStep factory) SavesInside flash events)
    (reached : run (lifeStep factory) flash events = some last) :
    (ssmVerify last.hdr).1 = (events.foldl (Device.step factory) (deviceOf flash)).status ∧
      ∀ (setting : Setting) (offset : Int32) (stack : UInt32), setting ≠ .lvdsSsc → setting.InsideSlot offset →
        Determined setting last.dev →
          (ssmRead setting offset stack last.dev).2.1 =
            (events.foldl (Device.step factory) (deviceOf flash)).store setting offset := by
  have represents := life_reads factory flash last events hdrFull devFull inside reached
  refine ⟨represents.status, fun setting offset stack proper own determined => ?_⟩
  rw [read_content setting proper offset own stack last.dev determined]
  exact represents.store setting offset proper not_false own

def sampleFactory : Factory where
  pqPara _ := ⟨50, 50, 50, 50, 50, 100, 4⟩
  mPQConfigFile :=
    ⟨⟨CStr.empty, Nat.zero_lt_succ _⟩,
      loadLines (ascii ("[HDMI]\nhdmi.edid.version.def=edid_14\nhdmi.color.range.mode.def=auto\n").toList)⟩

def blankFlash : Flash := ⟨⟨[], 0, []⟩, ⟨[], 0, []⟩⟩

theorem brightness_inside : Setting.brightness.InsideSlot 3 := by decide +kernel

theorem settings_lifecycle_saved :
    ∃ last, run (lifeStep sampleFactory) blankFlash [.boot 0, .fcatorySSMRestore 0, .save ⟨.brightness, 3, 70, 0⟩] = some last ∧
      (ssmVerify last.hdr).1 = .ssmHeaderValid ∧ (ssmRead .brightness 3 0 last.dev).2.1 = 70 ∧
      (ssmRead .contrast 3 0 last.dev).2.1 = 50 := by
  obtain ⟨last, reached⟩ : ∃ last,
      run (lifeStep sampleFactory) blankFlash [.boot 0, .fcatorySSMRestore 0, .save ⟨.brightness, 3, 70, 0⟩] = some last :=
    Option.isSome_iff_exists.mp (by decide +kernel)
  have life := settings_lifecycle sampleFactory blankFlash last
    [.boot 0, .fcatorySSMRestore 0, .save ⟨.brightness, 3, 70, 0⟩] rfl rfl
    ⟨trivial, fun _ _ => ⟨trivial, fun _ _ => ⟨brightness_inside, fun _ _ => trivial⟩⟩⟩ reached
  have contrast_inside : Setting.contrast.InsideSlot 3 := by decide +kernel
  exact ⟨last, reached, life.1,
    life.2 .brightness 3 0 (by decide) brightness_inside (.inl fun _ => rfl),
    life.2 .contrast 3 0 (by decide) contrast_inside (.inl fun _ => rfl)⟩

theorem splice_grows (bytes source : Bytes) (offset : Nat) : bytes.length ≤ (splice bytes offset source).length := by
  simp only [splice, List.length_append, List.length_take, List.length_replicate, List.length_drop]
  omega

theorem restore_grows (list : List (Nat × Int32)) (listed : ∀ mark ∈ list, mark ∈ marks) (dev : File)
    (full : dev.shorts = []) : dev.bytes.length ≤ (restoreMarks list dev).2.bytes.length := by
  induction list generalizing dev with
  | nil => exact Nat.le_refl _
  | cons mark rest ih =>
      have own := listed mark List.mem_cons_self
      obtain ⟨-, shorts, bytes⟩ := save_byte mark.1 (mark_foreign mark own).listed mark.2.toUInt32 dev full
      rw [restore_marks_cons mark rest own dev full]
      refine Nat.le_trans ?_ (ih (fun later member => listed later (List.mem_cons_of_mem _ member)) _ shorts)
      rw [bytes]
      exact splice_grows _ _ _

theorem boot_changed_covers (factory : Factory) (stack : UInt32) (device : Device) (flash next : Flash)
    (here : Represents device flash) (changed : device.status = .ssmHeaderStructChange)
    (booted : init (some (resetAllUserSettingParam factory stack)) flash = some next) :
    slotStart sizes customerDataPosHdmiColorRangeStart < next.dev.bytes.length := by
  obtain ⟨-, checked⟩ := device_mark_check device.store flash.dev here.devFull here.store
  have covers (hdr dev : File) (reset : resetAllUserSettingParam factory stack (deviceMarkCheck flash.dev).2 = some dev)
      (whole : (⟨hdr, (restoreDeviceMarkValues dev).2⟩ : Flash) = next) :
      slotStart sizes customerDataPosHdmiColorRangeStart < next.dev.bytes.length := by
    obtain ⟨after, covered⟩ := reset_kept factory stack device.store _ dev checked.full checked.agrees reset
    rw [← whole]
    exact Nat.lt_of_lt_of_le covered (restore_grows marks (fun _ listed => listed) dev after.full)
  rw [init, here.status, changed] at booted
  by_cases bad : (deviceMarkCheck flash.dev).1 < 0 ∨ SSMStatus.ssmHeaderStructChange = .ssmHeaderInvalid
  · rw [if_pos bad] at booted
    simp only [Option.bind_eq_bind, Option.bind_eq_some_iff, Option.some.injEq] at booted
    obtain ⟨dev, reset, whole⟩ := booted
    exact covers _ dev reset whole
  · rw [if_neg bad, if_pos rfl] at booted
    simp only [Option.bind_eq_bind, Option.bind_eq_some_iff, Option.some.injEq] at booted
    obtain ⟨dev, reset, whole⟩ := booted
    exact covers _ dev reset whole

theorem changed_stays (factory : Factory) (device : Device) (events : List Event)
    (changed : device.status = .ssmHeaderStructChange) (marked : device.marked = true) :
    (events.foldl (Device.step factory) device).status = .ssmHeaderStructChange ∧
      (events.foldl (Device.step factory) device).marked = true := by
  induction events generalizing device with
  | nil => exact ⟨changed, marked⟩
  | cons event rest ih =>
      have kept : (device.step factory event).status = .ssmHeaderStructChange ∧ (device.step factory event).marked = true := by
        cases event with
        | boot stack => simp [Device.step, changed, marked]
        | save call => exact ⟨changed, marked⟩
        | fcatorySSMRestore stack => exact ⟨changed, marked⟩
      exact ih _ kept.1 kept.2

theorem covered_determined (setting : Setting) (proper : setting ≠ .lvdsSsc) (dev : File)
    (covered : slotStart sizes customerDataPosHdmiColorRangeStart < dev.bytes.length) : Determined setting dev := by
  by_cases ddr : setting = .ddrSsc
  · subst ddr
    right
    have order : Setting.id .ddrSsc < customerDataPosHdmiColorRangeStart := by decide
    rw [Setting.start, Setting.slotSize]
    exact Nat.le_of_lt (Nat.lt_of_le_of_lt (slot_ends_before sizes _ _ order) covered)
  · exact .inl fun stack => by cases setting <;> first | rfl | exact absurd rfl ddr | exact absurd rfl proper

-- The header of another version is never written anew, so that no saved value outlives a start.
theorem changed_layout_forgets (factory : Factory) (stack : UInt32) (flash last : Flash) (events : List Event)
    (hdrFull : flash.hdr.shorts = []) (devFull : flash.dev.shorts = [])
    (changed : (ssmVerify flash.hdr).1 = .ssmHeaderStructChange) (marked : Marked flash.dev)
    (inside : Guarded (lifeStep factory) SavesInside flash events)
    (reached : run (lifeStep factory) flash (events ++ [.boot stack]) = some last) :
    (ssmVerify last.hdr).1 = .ssmHeaderStructChange ∧
      ∀ (setting : Setting) (offset : Int32) (value : Int) (readStack : UInt32), setting ≠ .lvdsSsc →
        setting.InsideSlot offset → factoryValue factory setting offset = some value →
          (ssmRead setting offset readStack last.dev).2.1 = kept setting value := by
  obtain ⟨middle, before, booted⟩ := run_split (lifeStep factory) flash last events [.boot stack] reached
  obtain ⟨next, taken, done⟩ := Option.bind_eq_some_iff.mp booted
  obtain rfl : next = last := Option.some.inj done
  have here := life_reads factory flash middle events hdrFull devFull inside before
  obtain ⟨still, right⟩ := changed_stays factory (deviceOf flash) events changed (decide_eq_true marked)
  have there := boot_represents factory stack _ middle next here taken
  have covered := boot_changed_covers factory stack _ middle next here still taken
  have started : Device.step factory (events.foldl (Device.step factory) (deviceOf flash)) (.boot stack) =
      { events.foldl (Device.step factory) (deviceOf flash) with
        store := (events.foldl (Device.step factory) (deviceOf flash)).store.reset factory } := by
    simp only [Device.step, still, right]
    rfl
  rw [started] at there
  refine ⟨there.status.trans still, fun setting offset value readStack proper own default => ?_⟩
  have determined := covered_determined setting proper next.dev covered
  rw [read_content setting proper offset own readStack next.dev determined,
    there.store setting offset proper not_false own]
  simp only [Store.reset, default]
  rfl

-- The header of version 1, and the first mark.
def changedFlash : Flash :=
  ⟨⟨encodeSection1 { gSSMHeaderSection1 with version := 1 }, 0, []⟩, ⟨List.replicate 1556 0 ++ [0x90], 0, []⟩⟩

theorem changed_layout_forgets_brightness :
    ∃ last, run (lifeStep sampleFactory) changedFlash ([.save ⟨.brightness, 3, 70, 0⟩] ++ [.boot 0]) = some last ∧
      (ssmRead .brightness 3 0 last.dev).2.1 = 50 := by
  obtain ⟨last, reached⟩ : ∃ last,
      run (lifeStep sampleFactory) changedFlash ([.save ⟨.brightness, 3, 70, 0⟩] ++ [.boot 0]) = some last :=
    Option.isSome_iff_exists.mp (by decide +kernel)
  exact ⟨last, reached, (changed_layout_forgets sampleFactory 0 changedFlash last [.save ⟨.brightness, 3, 70, 0⟩] rfl rfl
    (by decide +kernel) (by decide +kernel) ⟨brightness_inside, fun _ _ => trivial⟩ reached).2 .brightness 3 50 0
      (by decide) brightness_inside rfl⟩

end Droidlogic.Ssm
