import Droidlogic.Bootenv.Format

set_option autoImplicit false

namespace Droidlogic.Bootenv

open Droidlogic.Lib

theorem cstr_empty_iff (text : CStr) : text = .empty ↔ text.bytes.length = 0 := by
  constructor
  · rintro rfl
    rfl
  · intro size
    exact CStr.ext_bytes _ _ (List.length_eq_zero_iff.mp size)

theorem lookup_member (key value : CStr) (attrs : List EnvAttribute) (found : lookup key attrs = some value) :
    ∃ attr ∈ attrs, attr.key.str = key ∧ attr.value.str = value := by
  induction attrs with
  | nil => simp [lookup] at found
  | cons attr next ih =>
      by_cases same : key = attr.key.str
      · rw [lookup, if_pos same] at found
        exact ⟨attr, List.mem_cons_self, same.symm, Option.some.inj found⟩
      · rw [lookup, if_neg same] at found
        obtain ⟨other, member, rest⟩ := ih found
        exact ⟨other, List.mem_cons_of_mem _ member, rest⟩

theorem lookup_none_iff (key : CStr) (attrs : List EnvAttribute) :
    lookup key attrs = none ↔ ∀ attr ∈ attrs, key ≠ attr.key.str := by
  induction attrs with
  | nil => simp [lookup]
  | cons attr next ih =>
      by_cases same : key = attr.key.str
      · simp [lookup, same]
      · simp [lookup, same, ih]

theorem lookup_plain (key value : CStr) (attrs : List EnvAttribute) (plain : PlainKeys attrs)
    (found : lookup key attrs = some value) : 0x3D ∉ key.bytes := by
  obtain ⟨attr, member, rfl, _⟩ := lookup_member key value attrs found
  exact plain attr member

-- The list before and after set(): the first variable with the key gets the value, or a new one the last place.
inductive Written (key value : CStr) : List EnvAttribute → List EnvAttribute → Prop
  | created (attr : EnvAttribute) (named : attr.key.str = key) (holds : attr.value.str = value) :
      Written key value [] [attr]
  | replaced (attr : EnvAttribute) (newValue : CharArray 1024) (next : List EnvAttribute) (here : key = attr.key.str)
      (holds : newValue.str = value) : Written key value (attr :: next) ({ attr with value := newValue } :: next)
  | kept (attr : EnvAttribute) (rest next : List EnvAttribute) (other : key ≠ attr.key.str)
      (later : Written key value rest next) : Written key value (attr :: rest) (attr :: next)

theorem set_attribute_written (key value : CStr) (attrs next : List EnvAttribute) (code : Nat)
    (changed : setAttribute key value true attrs = some (code, next)) : Written key value attrs next := by
  induction attrs generalizing next code with
  | nil =>
      simp only [setAttribute, if_true, Option.bind_eq_bind, Option.bind_eq_some_iff] at changed
      obtain ⟨newKey, keyEq, newValue, valueEq, same⟩ := changed
      cases Option.some.inj same
      exact .created _ (strcpy_eq_some _ _ _ keyEq) (strcpy_eq_some _ _ _ valueEq)
  | cons attr rest ih =>
      by_cases here : key = attr.key.str
      · simp only [setAttribute, if_pos here, Option.bind_eq_bind, Option.bind_eq_some_iff] at changed
        obtain ⟨newValue, valueEq, same⟩ := changed
        cases Option.some.inj same
        exact .replaced attr newValue rest here (strcpy_eq_some _ _ _ valueEq)
      · simp only [setAttribute, if_neg here, Option.map_eq_some_iff, Prod.exists, Prod.mk.injEq] at changed
        obtain ⟨innerCode, tail, inner, rfl, rfl⟩ := changed
        exact .kept attr rest tail here (ih tail innerCode inner)

theorem set_attribute_lookup (key value other : CStr) (attrs next : List EnvAttribute) (code : Nat)
    (changed : setAttribute key value true attrs = some (code, next)) :
    lookup other next = if other = key then some value else lookup other attrs := by
  have written := set_attribute_written key value attrs next code changed
  clear changed
  induction written with
  | created attr named holds => simp [lookup, named, holds]
  | replaced attr newValue next here holds =>
      by_cases asked : other = key
      · simp [lookup, asked, here, holds]
      · simp [lookup, asked, ← here]
  | kept attr rest next different _ ih =>
      by_cases head : other = attr.key.str
      · have apart : other ≠ key := fun same => different (same.symm.trans head)
        rw [if_neg apart, lookup, if_pos head, lookup, if_pos head]
      · simp only [lookup, if_neg head, ih]

theorem set_attribute_plain (key value : CStr) (attrs next : List EnvAttribute) (code : Nat)
    (plain : PlainKeys attrs) (plainKey : 0x3D ∉ key.bytes)
    (changed : setAttribute key value true attrs = some (code, next)) : PlainKeys next := by
  have written := set_attribute_written key value attrs next code changed
  clear changed
  induction written with
  | created attr named _ => simpa [PlainKeys, named] using plainKey
  | replaced attr newValue next _ _ =>
      intro other member
      rcases List.mem_cons.mp member with same | later
      · exact same ▸ plain attr List.mem_cons_self
      · exact plain other (List.mem_cons_of_mem _ later)
  | kept attr rest next _ _ ih =>
      intro other member
      rcases List.mem_cons.mp member with same | later
      · exact same ▸ plain attr List.mem_cons_self
      · exact ih (fun a inside => plain a (List.mem_cons_of_mem _ inside)) other later

theorem set_attribute_ne_nil (key value : CStr) (attrs next : List EnvAttribute) (code : Nat)
    (changed : setAttribute key value true attrs = some (code, next)) : next ≠ [] := by
  rintro rfl
  have found := set_attribute_lookup key value key attrs [] code changed
  simp [lookup] at found

-- A copy leaves its array exactly when one of the two strings is too long for it.
theorem set_attribute_none_iff (key value : CStr) (attrs : List EnvAttribute) :
    setAttribute key value true attrs = none ↔
      1024 ≤ value.bytes.length ∨ (lookup key attrs = none ∧ 256 ≤ key.bytes.length) := by
  induction attrs with
  | nil =>
      by_cases keyFits : key.bytes.length < 256 <;> by_cases valueFits : value.bytes.length < 1024 <;>
        simp [setAttribute, strcpy, lookup, keyFits, valueFits] <;> omega
  | cons attr rest ih =>
      by_cases here : key = attr.key.str
      · by_cases valueFits : value.bytes.length < 1024 <;>
          simp [setAttribute, lookup, here, strcpy, valueFits]
        omega
      · simp [setAttribute, lookup, here, ih]

theorem stored_lookup_none (key : CStr) (attrs : List EnvAttribute) (absent : lookup key attrs = none) :
    lookup key (stored attrs) = none := by
  rw [lookup_none_iff] at absent ⊢
  exact fun attr member => absent attr (stored_member attr attrs member)

theorem set_attribute_fits (key value : CStr) (attrs : List EnvAttribute) (result : Nat × List EnvAttribute)
    (changed : setAttribute key value true attrs = some result) :
    value.bytes.length < 1024 ∧ (lookup key attrs = none → key.bytes.length < 256) := by
  have copied : ¬ setAttribute key value true attrs = none := by simp [changed]
  rw [set_attribute_none_iff, not_or, not_and] at copied
  exact ⟨by omega, fun absent => by have := copied.2 absent; omega⟩

-- The first entry of a variable stays, and so stays first, unless its text is too short.
theorem stored_lookup_kept (key value : CStr) (attrs : List EnvAttribute)
    (long : 3 ≤ key.bytes.length + 1 + value.bytes.length) (found : lookup key attrs = some value) :
    lookup key (stored attrs) = some value := by
  induction attrs with
  | nil => exact found
  | cons attr next ih =>
      cases next with
      | nil => exact found
      | cons following rest =>
          by_cases same : key = attr.key.str
          · have head : attr.value.str = value := by
              rw [lookup, if_pos same] at found
              exact Option.some.inj found
            have keeps : ¬ attr.text.length < 3 := by
              rw [text_length, ← same, head]
              omega
            rw [stored, if_neg keeps, lookup, if_pos same, head]
          · rw [lookup, if_neg same] at found
            by_cases short : attr.text.length < 3
            · rw [stored, if_pos short]
              exact ih found
            · rw [stored, if_neg short, lookup, if_neg same]
              exact ih found

theorem stored_lookup_long (key : CStr) (attrs : List EnvAttribute) (long : 2 ≤ key.bytes.length) :
    lookup key (stored attrs) = lookup key attrs := by
  cases found : lookup key attrs with
  | none => exact stored_lookup_none key attrs found
  | some value => exact stored_lookup_kept key value attrs (by omega) found

-- An empty one-letter variable is only left over as the text printed last.
def LeftOver (key : CStr) (attrs : List EnvAttribute) : Prop :=
  (∀ attr ∈ attrs, attr.key.str = key → attr.value.str = .empty) ∧
    ∃ last, attrs.getLast? = some last ∧ last.key.str = key

theorem stored_lookup_empty (key : CStr) (attrs : List EnvAttribute) (letter : key.bytes.length = 1) :
    lookup key (stored attrs) = some .empty ↔ LeftOver key attrs := by
  induction attrs with
  | nil => simp [stored, lookup, LeftOver]
  | cons attr next ih =>
      cases next with
      | nil =>
          by_cases same : key = attr.key.str
          · simp [stored, lookup, LeftOver, same]
          · simp [stored, lookup, LeftOver, same, Ne.symm same]
      | cons following rest =>
          have size := text_length attr
          have tail : LeftOver key (attr :: following :: rest) ↔
              (attr.key.str = key → attr.value.str = .empty) ∧ LeftOver key (following :: rest) := by
            simp only [LeftOver, List.forall_mem_cons, List.getLast?_cons_cons, and_assoc]
          rw [tail]
          by_cases same : key = attr.key.str
          · rw [← same, letter] at size
            by_cases short : attr.text.length < 3
            · have empty : attr.value.str = .empty := (cstr_empty_iff _).mpr (by omega)
              rw [stored, if_pos short, ih]
              simp [empty]
            · have nonempty : attr.value.str ≠ .empty := by
                rw [ne_eq, cstr_empty_iff]
                omega
              rw [stored, if_neg short, lookup, if_pos same]
              simp [nonempty, same]
          · have drop : lookup key (stored (attr :: following :: rest)) = lookup key (stored (following :: rest)) := by
              by_cases short : attr.text.length < 3
              · rw [stored, if_pos short]
              · rw [stored, if_neg short, lookup, if_neg same]
            rw [drop, ih]
            simp [Ne.symm same]

theorem stored_lookup_iff (key : CStr) (attrs : List EnvAttribute) (named : key.bytes ≠ []) :
    lookup key (stored attrs) = lookup key attrs ↔
      (key.bytes.length = 1 → lookup key attrs = some .empty → LeftOver key attrs) := by
  have size : 0 < key.bytes.length := List.length_pos_iff.mpr named
  by_cases letter : key.bytes.length = 1
  · cases found : lookup key attrs with
    | none => simp [stored_lookup_none key attrs found]
    | some value =>
        by_cases empty : value = .empty
        · rw [empty, stored_lookup_empty key attrs letter]
          simp [letter]
        · have long : value.bytes.length ≠ 0 := fun zero => empty ((cstr_empty_iff value).mpr zero)
          rw [stored_lookup_kept key value attrs (by omega) found]
          simp [empty]
  · rw [stored_lookup_long key attrs (by omega)]
    simp [letter]

theorem stored_lookup_all_iff (attrs : List EnvAttribute) :
    (∀ key : CStr, key.bytes ≠ [] → lookup key (stored attrs) = lookup key attrs) ↔
      ∀ letter : CStr, letter.bytes.length = 1 → lookup letter attrs = some .empty → LeftOver letter attrs := by
  constructor
  · intro every letter one
    have some_letter : letter.bytes ≠ [] := fun empty => by simp [empty] at one
    exact (stored_lookup_iff letter attrs some_letter).mp (every letter some_letter) one
  · intro every key some_key
    exact (stored_lookup_iff key attrs some_key).mpr (every key)

theorem shown_iff (key value : CStr) (attrs : List EnvAttribute) :
    value = (lookup key attrs).getD .empty ↔ lookup key attrs = some value ∨ (lookup key attrs = none ∧ value = .empty) := by
  cases lookup key attrs with
  | none => simp
  | some current => simp [eq_comm]

end Droidlogic.Bootenv
