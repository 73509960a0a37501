import Droidlogic.Bootenv.Reload

set_option autoImplicit false

namespace Droidlogic.Display

open Lib Bootenv

-- Modes that are not sent over HDMI.
def mode480Cvbs : CStr := ⟨ascii ['4', '8', '0', 'c', 'v', 'b', 's'], by decide⟩
def mode576Cvbs : CStr := ⟨ascii ['5', '7', '6', 'c', 'v', 'b', 's'], by decide⟩
def modePalM : CStr := ⟨ascii ['p', 'a', 'l', '_', 'm'], by decide⟩
def modePalN : CStr := ⟨ascii ['p', 'a', 'l', '_', 'n'], by decide⟩
def modeNtscM : CStr := ⟨ascii ['n', 't', 's', 'c', '_', 'm'], by decide⟩
def modePanel : CStr := ⟨ascii ['p', 'a', 'n', 'e', 'l'], by decide⟩

section
variable {device : EnvDevice} (crc32 : Bytes → UInt32)

def setBootEnv (board : Board device) (key value : CStr) (outcomes : Nat → SaveOutcome device) : Option (Board device) :=
  (updateValue crc32 board key value outcomes).map Prod.snd

theorem get_value_named (env : Ubootenv device) (key : CStr) (named : key.bytes ≠ []) :
    getValue env (nameOf key) = Bootenv.get env key := by
  rw [getValue, name_of_env key named, if_pos rfl, name_of_drop]

theorem set_boot_env_off (board next : Board device) (key value : CStr) (outcomes : Nat → SaveOutcome device)
    (off : board.env.mEnvInitDone = false) (set : setBootEnv crc32 board key value outcomes = some next) : next = board := by
  rw [setBootEnv, updateValue, if_pos off] at set
  exact (Option.some.inj set).symm

-- The variable gets the text, and every other variable keeps its own.
theorem set_boot_env_cases (board next : Board device) (key value : CStr) (outcomes : Nat → SaveOutcome device)
    (done : board.env.mEnvInitDone = true) (named : key.bytes ≠ [])
    (set : setBootEnv crc32 board (nameOf key) value outcomes = some next) :
    next.env.mEnvInitDone = true ∧ (value ≠ .empty → getValue next.env (nameOf key) = some value) ∧
      ∀ other : CStr, other.bytes ≠ [] → other ≠ key →
        getValue next.env (nameOf other) = getValue board.env (nameOf other) := by
  obtain ⟨⟨ret, last⟩, updated, same⟩ := Option.map_eq_some_iff.mp set
  cases same
  have env := (env_name_of_env (nameOf key) (name_of_env key named)).trans (congrArg some (name_of_drop key))
  rcases update_cases crc32 board last (nameOf key) value outcomes ret updated with
    ⟨_, _, early⟩ | ⟨envName, its, _, finished⟩
  · rcases early with off | missing
    · rw [done] at off
      cases off
    · rw [env] at missing
      cases missing
  · cases Option.some.inj (env.symm.trans its)
    rcases finished with ⟨_, unchanged, equal⟩ | ⟨_, code, attrs, changed, saved⟩
    · subst unchanged
      refine ⟨done, fun text => ?_, fun _ _ _ => rfl⟩
      rw [get_value_named _ key named]
      cases held : Bootenv.get last.env key with
      | none =>
          rw [held, Option.getD_none] at equal
          exact absurd equal text
      | some old =>
          rw [held, Option.getD_some] at equal
          rw [equal]
    · obtain ⟨attributes, init, _⟩ := save_retry_cases crc32 outcomes maxUbootRwretry _ last (-1) ret (by decide) saved
      have init : last.env.mEnvInitDone = true := init.trans done
      have lookups (other : CStr) := set_attribute_lookup key value other _ attrs code changed
      refine ⟨init, fun _ => ?_, fun other letters different => ?_⟩
      · rw [get_value_named _ key named, Bootenv.get, if_pos init, attributes]
        exact (lookups key).trans (if_pos rfl)
      · rw [get_value_named _ other letters, get_value_named _ other letters, Bootenv.get, Bootenv.get, if_pos init,
          if_pos done, attributes]
        exact (lookups other).trans (if_neg different)

end

end Droidlogic.Display
