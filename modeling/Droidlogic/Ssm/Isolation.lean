import Droidlogic.Lib.Run
import Droidlogic.Ssm.Access

set_option autoImplicit false

namespace Droidlogic.Ssm

open Droidlogic.Lib

structure Call where
  setting : Setting
  offset : Int32
  value : Int
  stack : UInt32

def Call.target (call : Call) : Setting × Int32 := (call.setting, call.offset)

def Call.apply (call : Call) (dev : File) : File := (ssmSave call.setting call.offset call.value call.stack dev).2

def step (dev : File) (call : Call) : Option File := some (call.apply dev)

def FromSource (offset : Int32) : Prop := sourceInvalid ≤ offset.toInt ∧ offset.toInt < sourceMax

instance (offset : Int32) : Decidable (FromSource offset) := inferInstanceAs (Decidable (_ ∧ _))

-- Two readers return some of an uninitialised local where the file is too short.
def Determined (setting : Setting) (dev : File) : Prop :=
  (∀ stack, setting.initial stack = 0) ∨ setting.start + setting.slotSize ≤ dev.bytes.length

structure Isolated (setting : Setting) (before after : File) : Prop where
  bytes : ∀ index, ¬ InSlot sizes setting.id index → byteAt after.bytes index = byteAt before.bytes index
  reads : ∀ (other : Setting) (offset : Int32) (stack : UInt32), other ≠ setting → other.InsideSlot offset →
    Determined other before → (ssmRead other offset stack after).2.1 = (ssmRead other offset stack before).2.1

def EachIsolated (dev : File) (calls : List Call) : Prop :=
  Guarded step (fun dev call => Isolated call.setting dev (call.apply dev)) dev calls

-- A slot that holds one value takes offset 0 only, one with a byte for every
-- source takes the sources but not sourceInvalid.
def OffsetOk (setting : Setting) (offset : Int32) : Prop :=
  match setting with
  | .gammaValue | .rgbGainR | .rgbGainG | .rgbGainB | .rgbPostOffsetR | .rgbPostOffsetG | .rgbPostOffsetB => offset = 0
  | _ => setting.usesOffset = true → 0 ≤ offset.toInt

theorem id_injective (first second : Setting) (same : first.id = second.id) : first = second := by
  cases first <;> cases second <;> first | rfl | exact absurd same (by decide)

theorem offset_ok_iff (setting : Setting) (offset : Int32) (ranged : FromSource offset) :
    OffsetOk setting offset ↔ setting.InsideSlot offset := by
  have zero : offset = 0 ↔ offset.toInt = 0 := Int32.toInt_inj.symm
  obtain ⟨lower, upper⟩ := ranged
  simp only [sourceInvalid, sourceMax] at lower upper
  simp only [Setting.InsideSlot, slot_size]
  cases setting <;>
    simp only [OffsetOk, Setting.place, Setting.usesOffset, Setting.width, Setting.room, sourceMax, zero, if_true] <;>
    simp <;> omega

theorem from_source_on_device (setting : Setting) (offset : Int32) (ranged : FromSource offset) :
    setting.OnDevice offset := by
  have first := (start_bounds setting).1
  obtain ⟨lower, upper⟩ := ranged
  simp only [sourceInvalid, sourceMax] at lower upper
  have bounds : -1 ≤ (setting.place offset).toInt ∧ (setting.place offset).toInt ≤ 16 := by
    unfold Setting.place
    split
    · omega
    · exact ⟨by decide, by decide⟩
  exact ⟨by omega, by omega⟩

theorem save_bytes (call : Call) (dev : File) (inside : call.setting.InsideSlot call.offset) (index : Nat)
    (outside : ¬ InSlot sizes call.setting.id index) :
    byteAt (call.apply dev).bytes index = byteAt dev.bytes index := by
  obtain ⟨starts, ends⟩ := inside_position call.setting call.offset inside
  rw [Call.apply, save_file call.setting call.offset (inside_on_device _ _ inside)]
  apply File.write_frame
  intro written
  rw [stored_length] at written
  exact outside ⟨Nat.le_trans starts written.1, Nat.lt_of_lt_of_le written.2 ends⟩

theorem save_length (call : Call) (dev : File) (onDevice : call.setting.OnDevice call.offset) :
    dev.bytes.length ≤ (call.apply dev).bytes.length := by
  rw [Call.apply, save_file call.setting call.offset onDevice]
  exact File.write_length { dev with pos := call.setting.position call.offset } _

theorem read_congr (setting : Setting) (offset : Int32) (stack : UInt32) (before after : File)
    (inside : setting.InsideSlot offset) (grown : before.bytes.length ≤ after.bytes.length)
    (determined : Determined setting before)
    (same : ∀ index, InSlot sizes setting.id index → byteAt after.bytes index = byteAt before.bytes index) :
    (ssmRead setting offset stack after).2.1 = (ssmRead setting offset stack before).2.1 := by
  obtain ⟨starts, ends⟩ := inside_position setting offset inside
  have onDevice := inside_on_device setting offset inside
  have covered : ∀ dev : File, before.bytes.length ≤ dev.bytes.length → setting.initial stack = 0 ∨
      setting.position offset + setting.width ≤ dev.bytes.length := by
    intro dev longer
    rcases determined with zero | present
    · exact .inl (zero stack)
    · exact .inr (Nat.le_trans ends (Nat.le_trans present longer))
  rw [read_value setting offset onDevice stack after (covered after grown),
    read_value setting offset onDevice stack before (covered before (Nat.le_refl _))]
  congr 3
  apply fetch_congr
  intro i counted
  exact same _ ⟨Nat.le_trans starts (Nat.le_add_right _ _), Nat.lt_of_lt_of_le (Nat.add_lt_add_left counted _) ends⟩

theorem save_isolated (call : Call) (dev : File) (inside : call.setting.InsideSlot call.offset) :
    Isolated call.setting dev (call.apply dev) where
  bytes := save_bytes call dev inside
  reads := by
    intro other offset stack different own determined
    apply read_congr other offset stack dev (call.apply dev) own
      (save_length call dev (inside_on_device _ _ inside)) determined
    intro index member
    have apart : other.id ≠ call.setting.id := fun same => different (id_injective _ _ same)
    exact save_bytes call dev inside index (slots_disjoint sizes _ _ index apart member)

-- Where an offset is refused, 0 and -1 leave no byte of the place they are
-- written to as it was.
theorem stored_filled (setting : Setting) (offset : Int32) (bad : ¬ OffsetOk setting offset) :
    (le32 (setting.stored 0 0)).take setting.width = List.replicate setting.width 0 ∧
      (le32 (setting.stored (-1) 0)).take setting.width = List.replicate setting.width 255 := by
  cases setting <;> first | exact ⟨by decide, by decide⟩ | simp [OffsetOk, Setting.usesOffset] at bad

theorem stored_differs (setting : Setting) (offset : Int32) (bad : ¬ OffsetOk setting offset) (old : UInt8) :
    ∃ value byte, (le32 (setting.stored value 0)).take setting.width = List.replicate setting.width byte ∧ byte ≠ old := by
  obtain ⟨zeros, ones⟩ := stored_filled setting offset bad
  by_cases zero : old = 0
  · exact ⟨-1, 255, ones, by rw [zero]; decide⟩
  · exact ⟨0, 0, zeros, Ne.symm zero⟩

theorem escapes (setting : Setting) (offset : Int32) (ranged : FromSource offset) (bad : ¬ OffsetOk setting offset) :
    ∃ i, i < setting.width ∧ ¬ InSlot sizes setting.id (setting.position offset + i) := by
  have first := (start_bounds setting).1
  have some := (width_fits setting).1
  obtain ⟨low, small⟩ := from_source_on_device setting offset ranged
  rw [offset_ok_iff setting offset ranged, Setting.InsideSlot, not_and_or] at bad
  simp only [InSlot, Setting.position]
  simp only [Setting.start, Setting.slotSize] at *
  rcases bad with before | past
  · exact ⟨0, some, by omega⟩
  · exact ⟨setting.width - 1, by omega, by omega⟩

theorem not_isolated (setting : Setting) (offset : Int32) (ranged : FromSource offset) (bad : ¬ OffsetOk setting offset)
    (dev : File) (full : dev.shorts = []) :
    ∃ value, ¬ Isolated setting dev (Call.apply ⟨setting, offset, value, 0⟩ dev) := by
  obtain ⟨i, counted, outside⟩ := escapes setting offset ranged bad
  obtain ⟨value, byte, repeated, differs⟩ := stored_differs setting offset bad
    (byteAt dev.bytes (setting.position offset + i))
  refine ⟨value, fun isolated => ?_⟩
  have kept := isolated.bytes _ outside
  have written : ((le32 (setting.stored value 0)).take setting.width) ≠ [] := by
    intro empty
    have length := stored_length setting value 0
    rw [empty] at length
    exact absurd length (Nat.ne_of_lt (width_fits setting).1)
  simp only [Call.apply, save_file setting offset (from_source_on_device setting offset ranged)] at kept
  rw [File.write_full { dev with pos := setting.position offset } _ full written, byte_at_splice, stored_length,
    if_pos ⟨Nat.le_add_right _ _, Nat.add_lt_add_left counted _⟩, Nat.add_sub_cancel_left, repeated,
    List.getD_replicate _ counted] at kept
  exact differs kept

theorem apply_shorts (call : Call) (dev : File) (onDevice : call.setting.OnDevice call.offset)
    (full : dev.shorts = []) : (call.apply dev).shorts = [] := by
  rw [Call.apply, save_file call.setting call.offset onDevice]
  exact File.write_shorts _ _ full

theorem inside_each_isolated (calls : List Call) (inside : ∀ call ∈ calls, call.setting.InsideSlot call.offset)
    (dev : File) : EachIsolated dev calls := by
  induction calls generalizing dev with
  | nil => exact trivial
  | cons call rest ih =>
      refine ⟨save_isolated call dev (inside call List.mem_cons_self), ?_⟩
      intro next _
      exact ih (fun later member => inside later (List.mem_cons_of_mem _ member)) next

theorem each_isolated_ok (targets : List (Setting × Int32)) (ranged : ∀ target ∈ targets, FromSource target.2)
    (dev : File) (full : dev.shorts = [])
    (isolated : ∀ calls : List Call, calls.map Call.target = targets → EachIsolated dev calls) :
    ∀ target ∈ targets, OffsetOk target.1 target.2 := by
  induction targets generalizing dev with
  | nil => simp
  | cons first rest ih =>
      obtain ⟨setting, offset⟩ := first
      have here := ranged _ List.mem_cons_self
      let others : List Call := rest.map fun target => ⟨target.1, target.2, 0, 0⟩
      have default : others.map Call.target = rest := by
        rw [List.map_map]
        exact List.map_id rest
      rw [List.forall_mem_cons]
      constructor
      · apply Classical.byContradiction
        intro bad
        obtain ⟨value, broken⟩ := not_isolated setting offset here bad dev full
        exact broken (isolated (⟨setting, offset, value, 0⟩ :: others) (by rw [List.map_cons, default]; rfl)).1
      · let call : Call := ⟨setting, offset, 0, 0⟩
        apply ih (fun target member => ranged target (List.mem_cons_of_mem _ member)) (call.apply dev)
          (apply_shorts call dev (from_source_on_device setting offset here) full)
        intro calls same
        have whole := isolated (call :: calls) (by rw [List.map_cons, same]; rfl)
        exact whole.2 _ rfl

-- For every order of settings and source offsets: whatever values are saved and
-- whatever the device holds, each save keeps to its own slot.
theorem saves_isolated_iff (targets : List (Setting × Int32)) (ranged : ∀ target ∈ targets, FromSource target.2) :
    (∀ calls : List Call, calls.map Call.target = targets → ∀ dev, EachIsolated dev calls) ↔
      ∀ target ∈ targets, OffsetOk target.1 target.2 := by
  constructor
  · intro isolated
    exact each_isolated_ok targets ranged ⟨[], 0, []⟩ rfl fun calls same => isolated calls same _
  · rintro ok calls rfl dev
    apply inside_each_isolated
    intro call member
    have listed : call.target ∈ calls.map Call.target := List.mem_map_of_mem member
    exact (offset_ok_iff _ _ (ranged _ listed)).mp (ok _ listed)

theorem saves_isolated_small :
    EachIsolated ⟨[7, 7], 0, [0]⟩ [⟨.brightness, 16, 50, 0⟩, ⟨.gammaValue, 0, 300, 0⟩, ⟨.lvdsSsc, -1, 1, 9⟩] :=
  (saves_isolated_iff [(.brightness, 16), (.gammaValue, 0), (.lvdsSsc, -1)] (by decide)).mpr
    (by simp [OffsetOk, Setting.usesOffset]) _ rfl _

-- resetAllUserSettingParam's sourceInvalid reaches the byte that the last source has in the slot before.
theorem save_reaches_previous_slot :
    ¬ ∀ (calls : List Call) (dev : File), (∀ call ∈ calls, FromSource call.offset) → EachIsolated dev calls := by
  intro isolated
  have first := (isolated [⟨.colorTemperature, -1, 9, 0⟩] ⟨[], 0, []⟩ (by decide)).1
  have kept := first.reads .sharpness 16 0 (by decide) (by decide +kernel) (.inl fun _ => rfl)
  exact absurd kept (by decide +kernel)

end Droidlogic.Ssm
