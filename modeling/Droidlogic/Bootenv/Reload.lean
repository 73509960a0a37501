import Droidlogic.Bootenv.Durability

set_option autoImplicit false

namespace Droidlogic.Bootenv

open Droidlogic.Lib

theorem name_key (name : CStr) (env : isEnv name = true) :
    name.bytes = profixUbootenvVar ++ (name.drop profixUbootenvVar.length).bytes := by
  simp only [isEnv, Bool.and_eq_true, List.isPrefixOf_iff_prefix] at env
  obtain ⟨rest, whole⟩ := env.1
  rw [CStr.drop_bytes, ← whole, List.drop_left]

theorem env_name_of_env (name : CStr) (env : isEnv name = true) :
    envNameOf name = some (name.drop profixUbootenvVar.length) := by
  by_cases boot : name.bytes = profixUbootenvVar ++ bootcmd.bytes
  · rw [envNameOf, if_pos boot, Option.some.injEq]
    apply CStr.ext_bytes
    rw [CStr.drop_bytes, boot, List.drop_left]
  · rw [envNameOf, if_neg boot, if_pos env]

def nameOf (key : CStr) : CStr :=
  ⟨profixUbootenvVar ++ key.bytes, by
    rw [List.mem_append, not_or]
    exact ⟨by decide, key.noNul⟩⟩

theorem name_of_drop (key : CStr) : (nameOf key).drop profixUbootenvVar.length = key :=
  CStr.ext_bytes _ _ (by simp only [nameOf, CStr.drop, List.drop_left])

theorem name_of_env (key : CStr) (named : key.bytes ≠ []) : isEnv (nameOf key) = true := by
  have size := List.length_pos_iff.mpr named
  simp only [isEnv, nameOf, Bool.and_eq_true, List.isPrefixOf_iff_prefix, List.prefix_append, decide_eq_true_eq,
    List.length_append, true_and]
  omega

section
variable {device : EnvDevice} (crc32 : Bytes → UInt32)

def loadedBoard (flash : EnvImage device) (attrs : List EnvAttribute) : Board device :=
  ⟨⟨some flash, attrs, true⟩, flash⟩

def UpdateReload (flash : EnvImage device) (attrs : List EnvAttribute) (name value : CStr)
    (outcomes : Nat → SaveOutcome device) (query : MtdQuery) (reads : Nat → ReadOutcome) : Prop :=
  ∃ updated reloaded, updateValue crc32 (loadedBoard flash attrs) name value outcomes = some (0, updated) ∧
    reInit crc32 updated query reads = some (0, reloaded) ∧
    getValue reloaded.env name = some value ∧
    ∀ other, other ≠ name → getValue reloaded.env other = getValue (loadedBoard flash attrs).env other

-- The last two clauses only speak of an update that writes: there the strings
-- fit their arrays, the empty entry that closes the data still fits, and a
-- one-letter variable is empty only as the last entry and its only content.
structure ReloadOk (size : Nat) (attrs : List EnvAttribute) (key value : CStr) : Prop where
  plain : 0x3D ∉ key.bytes
  present : value = .empty → lookup key attrs ≠ none
  fits : lookup key attrs ≠ some value →
    value.bytes.length < 1024 ∧ (lookup key attrs = none → key.bytes.length < 256)
  closed : lookup key attrs ≠ some value →
    ∀ result ∈ setAttribute key value true attrs, (block (stored result.2)).length < size ∧
      ∀ letter : CStr, letter.bytes.length = 1 → lookup letter result.2 = some .empty → LeftOver letter result.2

theorem parse_unclosed (attrs : List EnvAttribute) (some_attr : attrs ≠ []) : parseAttribute (block attrs) = none := by
  induction attrs with
  | nil => exact absurd rfl some_attr
  | cons attr rest ih =>
      have open_block : block (attr :: rest) = attr.text ++ (0 :: block rest) := by simp [block]
      rw [open_block]
      cases rest with
      | nil =>
          rw [parseAttribute, parse_scan _ _ _ (text_no_nul attr), List.nil_append]
          cases entry : parseEntry attr.text with
          | none => simp [parseLoop, entry]
          | some parsed => simp [parseLoop, entry, block]
      | cons following rest =>
          obtain ⟨byte, tail, shape, nonzero⟩ := block_head following rest []
          have later := ih (by simp)
          rw [List.append_nil] at shape
          rw [shape] at later ⊢
          rw [parse_next _ _ _ (text_no_nul attr) nonzero, later]
          cases parseEntry attr.text with
          | none => rfl
          | some parsed => rfl

theorem formatted_reload (attrs : List EnvAttribute) (board : Board device) (query : MtdQuery)
    (reads : Nat → ReadOutcome) (some_attr : attrs ≠ []) (formats : Formats crc32 attrs board.flash)
    (answered : query.code device = 0) (whole : ∃ i, i + 1 < maxUbootRwretry ∧ reads i = .whole) (plain : PlainKeys attrs) :
    reInit crc32 board query reads =
      if (block (stored attrs)).length < mEnvSize device then
        some (0, ⟨⟨some board.flash, stored attrs, true⟩, board.flash⟩)
      else none := by
  rw [reinit_whole crc32 board query reads answered whole formats.2]
  by_cases closed : (block (stored attrs)).length < mEnvSize device
  · rw [if_pos closed, parse_format _ attrs _ some_attr plain formats.1 closed, Option.map_some]
  · rw [if_neg closed]
    obtain ⟨left, shape⟩ := format_shape _ attrs _ some_attr formats.1
    have size := format_length _ _ _ formats.1
    rw [shape, List.length_append, List.length_replicate] at size
    have none_left : left = 0 := by omega
    rw [none_left, List.replicate_zero, List.append_nil] at shape
    cases attrs with
    | nil => exact absurd rfl some_attr
    | cons attr next => rw [shape, parse_unclosed _ (stored_ne_nil attr next), Option.map_none]

variable (flash : EnvImage device) (attrs : List EnvAttribute) (name value : CStr)
  (outcomes : Nat → SaveOutcome device) (query : MtdQuery) (reads : Nat → ReadOutcome)

theorem get_value_loaded (env : isEnv name = true) :
    getValue (loadedBoard flash attrs).env name = lookup (name.drop profixUbootenvVar.length) attrs := by
  simp [getValue, env, get, loadedBoard]

theorem update_reload_plain (env : isEnv name = true)
    (holds : UpdateReload crc32 flash attrs name value outcomes query reads) :
    0x3D ∉ (name.drop profixUbootenvVar.length).bytes := by
  obtain ⟨updated, reloaded, _, loaded, shown, _⟩ := holds
  obtain ⟨_, _, outcome⟩ := reinit_cases crc32 updated reloaded query reads 0 loaded
  have plain : PlainKeys reloaded.env.attributes := by
    rcases outcome with unloaded | loaded
    · simp [PlainKeys, unloaded.1, EnvAttribute.cleared, CStr.empty]
    · exact parse_plain _ _ loaded.2.1
  simp only [getValue, env, if_true, get] at shown
  split at shown
  · exact lookup_plain _ value _ plain shown
  · cases shown

-- One write followed by a load, reduced to the attribute list that was written.
theorem update_reload_written (env : isEnv name = true) (plainKey : 0x3D ∉ (name.drop profixUbootenvVar.length).bytes)
    (parsed : parseAttribute flash.data = some attrs)
    (attempt : ∃ i, i < maxUbootRwretry ∧ outcomes i = .stored) (answered : query.code device = 0)
    (whole : ∃ i, i + 1 < maxUbootRwretry ∧ reads i = .whole) (code : Nat) (next : List EnvAttribute)
    (written : value ≠ (lookup (name.drop profixUbootenvVar.length) attrs).getD .empty)
    (changed : setAttribute (name.drop profixUbootenvVar.length) value true attrs = some (code, next))
    (printable : formatAttribute (mEnvSize device) next ≠ none) :
    UpdateReload crc32 flash attrs name value outcomes query reads ↔
      (block (stored next)).length < mEnvSize device ∧
        ∀ key : CStr, key.bytes ≠ [] → lookup key (stored next) = lookup key next := by
  have plain := set_attribute_plain _ value attrs next code (parse_plain _ _ parsed) plainKey changed
  have some_attr := set_attribute_ne_nil _ value attrs next code changed
  have named := env_name_of_env name env
  obtain ⟨data, formatted⟩ := Option.ne_none_iff_exists'.mp printable
  obtain ⟨updated, saved⟩ := save_retry_succeeds crc32 outcomes maxUbootRwretry
    ⟨⟨some flash, next, true⟩, flash⟩ (-1) flash data rfl formatted (by decide)
    (by simpa using attempt) (Nat.le_refl _)
  have call : updateValue crc32 (loadedBoard flash attrs) name value outcomes = some (0, updated) := by
    simp [updateValue, loadedBoard, named, get, written, changed, saved]
  obtain ⟨_, _, ⟨_, formats, _⟩ | negative⟩ := save_retry_cases crc32 outcomes _ _ updated (-1) 0 (by decide) saved
  · have reload := formatted_reload crc32 next updated query reads some_attr formats answered whole plain
    have asked : lookup (name.drop profixUbootenvVar.length) next = some value := by
      rw [set_attribute_lookup _ value _ attrs next code changed, if_pos rfl]
    constructor
    · rintro ⟨other, reloaded, callToo, loaded, shown, frame⟩
      cases Option.some.inj (call.symm.trans callToo)
      rw [reload] at loaded
      by_cases closed : (block (stored next)).length < mEnvSize device
      · rw [if_pos closed] at loaded
        cases Option.some.inj loaded
        refine ⟨closed, fun key some_key => ?_⟩
        by_cases same : key = name.drop profixUbootenvVar.length
        · subst key
          simpa [getValue, env, get, asked] using shown
        · have different : nameOf key ≠ name := by
            rintro rfl
            exact same (name_of_drop key).symm
          have kept := frame (nameOf key) different
          rw [set_attribute_lookup _ value key attrs next code changed, if_neg same]
          simpa [getValue, name_of_env key some_key, name_of_drop, get, loadedBoard] using kept
      · rw [if_neg closed] at loaded
        cases loaded
    · rintro ⟨closed, same⟩
      rw [if_pos closed] at reload
      refine ⟨updated, _, call, reload, ?_, ?_⟩
      · simp [getValue, env, get, same _ (env_name_named name _ named), asked]
      · intro other different
        by_cases otherEnv : isEnv other = true
        · have otherNamed := env_name_named other _ (env_name_of_env other otherEnv)
          have keys : other.drop profixUbootenvVar.length ≠ name.drop profixUbootenvVar.length := by
            intro equal
            apply different
            apply CStr.ext_bytes
            rw [name_key other otherEnv, name_key name env, equal]
          simp [getValue, otherEnv, get, loadedBoard, same _ otherNamed,
            set_attribute_lookup _ value _ attrs next code changed, keys]
        · simp [getValue, otherEnv]
  · exact absurd negative (by decide)

theorem update_reload_unwritten (env : isEnv name = true) (valid : crc32 flash.data = flash.crc)
    (parsed : parseAttribute flash.data = some attrs) (answered : query.code device = 0) (whole : ∃ i, i + 1 < maxUbootRwretry ∧ reads i = .whole)
    (same : value = (lookup (name.drop profixUbootenvVar.length) attrs).getD .empty) :
    UpdateReload crc32 flash attrs name value outcomes query reads ↔
      lookup (name.drop profixUbootenvVar.length) attrs = some value := by
  have named := env_name_of_env name env
  have call : updateValue crc32 (loadedBoard flash attrs) name value outcomes = some (0, loadedBoard flash attrs) := by
    simp [updateValue, loadedBoard, named, get, same]
  have reload := reinit_whole crc32 (loadedBoard flash attrs) query reads answered whole valid
  rw [show (loadedBoard flash attrs).flash = flash from rfl, parsed, Option.map_some] at reload
  constructor
  · rintro ⟨updated, reloaded, callToo, loaded, shown, _⟩
    cases Option.some.inj (call.symm.trans callToo)
    cases Option.some.inj (reload.symm.trans loaded)
    simpa [getValue, env, get, loadedBoard] using shown
  · intro found
    exact ⟨_, _, call, reload, (get_value_loaded flash attrs name env).trans found, fun _ _ => rfl⟩

theorem update_reload_iff (env : isEnv name = true) (valid : crc32 flash.data = flash.crc)
    (parsed : parseAttribute flash.data = some attrs)
    (printable : ∀ result ∈ setAttribute (name.drop profixUbootenvVar.length) value true attrs,
      formatAttribute (mEnvSize device) result.2 ≠ none)
    (attempt : ∃ i, i < maxUbootRwretry ∧ outcomes i = .stored) (answered : query.code device = 0)
    (whole : ∃ i, i + 1 < maxUbootRwretry ∧ reads i = .whole) :
    UpdateReload crc32 flash attrs name value outcomes query reads ↔
      ReloadOk (mEnvSize device) attrs (name.drop profixUbootenvVar.length) value := by
  by_cases same : value = (lookup (name.drop profixUbootenvVar.length) attrs).getD .empty
  · rw [update_reload_unwritten crc32 flash attrs name value outcomes query reads env valid parsed answered whole same]
    rcases (shown_iff _ value attrs).mp same with found | ⟨absent, empty⟩
    · exact ⟨fun _ => ⟨lookup_plain _ value attrs (parse_plain _ _ parsed) found, fun _ => by simp [found],
        fun differs => absurd found differs, fun differs => absurd found differs⟩, fun _ => found⟩
    · exact ⟨fun found => by simp [absent] at found, fun ok => absurd absent (ok.present empty)⟩
  · have differs : lookup (name.drop profixUbootenvVar.length) attrs ≠ some value :=
      fun found => same ((shown_iff _ value attrs).mpr (.inl found))
    have present : value = .empty → lookup (name.drop profixUbootenvVar.length) attrs ≠ none :=
      fun empty absent => same ((shown_iff _ value attrs).mpr (.inr ⟨absent, empty⟩))
    cases changed : setAttribute (name.drop profixUbootenvVar.length) value true attrs with
    | none =>
        have overflow := (set_attribute_none_iff _ value attrs).mp changed
        constructor
        · rintro ⟨updated, _, call, _⟩
          simp [updateValue, loadedBoard, env_name_of_env name env, get, same, changed] at call
        · intro ok
          obtain ⟨valueFits, keyFits⟩ := ok.fits differs
          rcases overflow with long | ⟨absent, long⟩
          · omega
          · have := keyFits absent
            omega
    | some result =>
        obtain ⟨code, next⟩ := result
        have fits := set_attribute_fits _ value attrs (code, next) changed
        constructor
        · intro holds
          have plainKey := update_reload_plain crc32 flash attrs name value outcomes query reads env holds
          obtain ⟨closed, kept⟩ := (update_reload_written crc32 flash attrs name value outcomes query reads env plainKey
            parsed attempt answered whole code next same changed (printable _ changed)).mp holds
          refine ⟨plainKey, present, fun _ => fits, fun _ other member => ?_⟩
          cases Option.some.inj (changed.symm.trans member)
          exact ⟨closed, (stored_lookup_all_iff next).mp kept⟩
        · intro ok
          obtain ⟨closed, kept⟩ := ok.closed differs (code, next) changed
          exact (update_reload_written crc32 flash attrs name value outcomes query reads env ok.plain parsed attempt
            answered whole code next same changed (printable _ changed)).mpr ⟨closed, (stored_lookup_all_iff next).mpr kept⟩

end

theorem update_reload_small :
    UpdateReload Crc.crc32 smallFlash smallBoard.env.attributes nameAb ⟨[0x32], by decide⟩ (fun _ => .stored)
        .answered (fun _ => .whole) ↔
      ReloadOk (mEnvSize smallDevice) smallBoard.env.attributes (nameAb.drop profixUbootenvVar.length)
        ⟨[0x32], by decide⟩ :=
  update_reload_iff Crc.crc32 smallFlash smallBoard.env.attributes nameAb ⟨[0x32], by decide⟩ (fun _ => .stored)
    .answered (fun _ => .whole) (by decide) (by decide +kernel) (by decide +kernel) (by decide +kernel)
    ⟨0, by decide, rfl⟩ rfl ⟨0, by decide, rfl⟩

-- ubootenv.var.a=b is written as a=b=c and comes back as the variable a.
theorem update_name_with_equals_lost :
    isEnv ⟨profixUbootenvVar ++ [0x61, 0x3D, 0x62], by decide⟩ = true ∧
      ¬ UpdateReload Crc.crc32 smallFlash smallBoard.env.attributes
          ⟨profixUbootenvVar ++ [0x61, 0x3D, 0x62], by decide⟩ ⟨[0x63], by decide⟩ (fun _ => .stored) .answered
          (fun _ => .whole) := by
  refine ⟨by decide, fun holds => ?_⟩
  exact update_reload_plain Crc.crc32 smallFlash _ _ _ _ _ _ (by decide) holds (by decide)

end Droidlogic.Bootenv
