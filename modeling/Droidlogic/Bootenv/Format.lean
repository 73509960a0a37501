import Droidlogic.Bootenv.Env

set_option autoImplicit false

namespace Droidlogic.Bootenv

open Droidlogic.Lib

-- The attributes whose text survives formatAttribute: every one that is stepped
-- over, and the last one in any case, since nothing is printed over it.
def stored : List EnvAttribute → List EnvAttribute
  | [] => []
  | [last] => [last]
  | attr :: following :: rest =>
      if attr.text.length < 3 then stored (following :: rest) else attr :: stored (following :: rest)

def block (attrs : List EnvAttribute) : Bytes := attrs.flatMap fun attr => attr.text ++ [0]

def PlainKeys (attrs : List EnvAttribute) : Prop := ∀ attr ∈ attrs, 0x3D ∉ attr.key.str.bytes

theorem text_length (attr : EnvAttribute) :
    attr.text.length = attr.key.str.bytes.length + 1 + attr.value.str.bytes.length := by
  simp only [EnvAttribute.text, List.length_append, List.length_cons]
  omega

theorem text_no_nul (attr : EnvAttribute) : 0 ∉ attr.text := by
  simp [EnvAttribute.text, attr.key.str.noNul, attr.value.str.noNul]

theorem stored_ne_nil (attr : EnvAttribute) (next : List EnvAttribute) : stored (attr :: next) ≠ [] := by
  induction next generalizing attr with
  | nil => simp [stored]
  | cons following rest ih =>
      by_cases short : attr.text.length < 3
      · simpa only [stored, if_pos short] using ih following
      · simp [stored, short]

theorem stored_member (attr : EnvAttribute) (attrs : List EnvAttribute) (member : attr ∈ stored attrs) :
    attr ∈ attrs := by
  induction attrs with
  | nil => exact member
  | cons head next ih =>
      cases next with
      | nil => exact member
      | cons following rest =>
          by_cases short : head.text.length < 3
          · rw [stored, if_pos short] at member
            exact List.mem_cons_of_mem _ (ih member)
          · rw [stored, if_neg short] at member
            rcases List.mem_cons.mp member with same | later
            · exact same ▸ List.mem_cons_self
            · exact List.mem_cons_of_mem _ (ih later)

-- Printing over a shorter leftover of an earlier entry leaves zeros behind.
theorem print_over (before leftover text printed : Bytes) (zeros : Nat) (short : leftover.length ≤ text.length)
    (written : overwrite (before ++ leftover ++ List.replicate zeros 0) before.length text = some printed) :
    ∃ left, printed = before ++ text ++ List.replicate left 0 := by
  have room : text.length ≤ leftover.length + zeros := by
    by_contra absent
    rw [(overwrite_none_iff (before ++ leftover ++ List.replicate zeros 0) text before.length).mpr
      (by simp only [List.length_append, List.length_replicate]; omega)] at written
    cases written
  have split : List.replicate zeros (0 : UInt8) =
      List.replicate (text.length - leftover.length) 0 ++ List.replicate (leftover.length + zeros - text.length) 0 := by
    rw [← List.replicate_add]
    congr 1
    omega
  have whole : before ++ leftover ++ List.replicate zeros 0 =
      before ++ (leftover ++ List.replicate (text.length - leftover.length) 0) ++
        List.replicate (leftover.length + zeros - text.length) 0 := by
    rw [split]
    simp only [List.append_assoc]
  rw [whole, overwrite_middle _ _ _ _ (by simp only [List.length_append, List.length_replicate]; omega)] at written
  exact ⟨_, (Option.some.inj written).symm⟩

theorem format_loop_shape (attrs : List EnvAttribute) (before leftover data : Bytes) (zeros : Nat)
    (some_attr : attrs ≠ []) (short : leftover.length ≤ 2)
    (formatted : formatLoop (before ++ leftover ++ List.replicate zeros 0) before.length attrs = some data) :
    ∃ left, data = before ++ block (stored attrs) ++ List.replicate left 0 := by
  induction attrs generalizing before leftover zeros with
  | nil => exact absurd rfl some_attr
  | cons attr next ih =>
      cases written : overwrite (before ++ leftover ++ List.replicate zeros 0) before.length (attr.text ++ [0]) with
      | none => simp only [formatLoop, written, reduceCtorEq] at formatted
      | some printed =>
          have size := text_length attr
          obtain ⟨left, rfl⟩ := print_over before leftover (attr.text ++ [0]) printed zeros
            (by simp only [List.length_append, List.length_cons, List.length_nil]; omega) written
          simp only [formatLoop, written] at formatted
          cases next with
          | nil =>
              refine ⟨left, ?_⟩
              rw [← Option.some.inj formatted]
              simp [stored, block]
          | cons following rest =>
              by_cases dropped : attr.text.length < 3
              · rw [if_pos dropped] at formatted
                have again : before ++ (attr.text ++ [0]) ++ List.replicate left 0 =
                    before ++ attr.text ++ List.replicate (left + 1) 0 := by
                  simp [List.replicate_succ]
                rw [again] at formatted
                simpa only [stored, if_pos dropped] using ih _ _ _ (by simp) (by omega) formatted
              · rw [if_neg dropped] at formatted
                have cursor : before.length + (attr.text.length + 1) = (before ++ (attr.text ++ [0])).length := by
                  simp
                have again : before ++ (attr.text ++ [0]) ++ List.replicate left 0 =
                    (before ++ (attr.text ++ [0])) ++ [] ++ List.replicate left 0 := by simp
                rw [cursor, again] at formatted
                obtain ⟨zeros, result⟩ := ih _ _ _ (by simp) (by simp) formatted
                exact ⟨zeros, by simpa [stored, dropped, block, List.append_assoc] using result⟩

theorem format_shape (size : Nat) (attrs : List EnvAttribute) (data : Bytes) (some_attr : attrs ≠ [])
    (formatted : formatAttribute size attrs = some data) :
    ∃ left, data = block (stored attrs) ++ List.replicate left 0 := by
  simpa using format_loop_shape attrs [] [] data size some_attr (by simp) (by simpa [formatAttribute] using formatted)

theorem parse_scan (text proc rest : Bytes) (noNul : 0 ∉ text) :
    parseLoop proc (text ++ rest) = parseLoop (proc ++ text) rest := by
  induction text generalizing proc with
  | nil => simp
  | cons byte text ih =>
      have nonzero : byte ≠ 0 := fun zero => noNul (by simp [zero])
      have later : 0 ∉ text := fun member => noNul (by simp [member])
      simp [parseLoop, nonzero, ih (proc ++ [byte]) later]

theorem parse_last (entry behind : Bytes) (noNul : 0 ∉ entry) :
    parseAttribute (entry ++ 0 :: 0 :: behind) = (parseEntry entry).map fun attr => [attr] := by
  rw [parseAttribute, parse_scan _ _ _ noNul, List.nil_append, parseLoop, if_neg (not_not_intro rfl)]
  cases parseEntry entry with
  | none => rfl
  | some attr => rfl

theorem parse_next (entry rest : Bytes) (byte : UInt8) (noNul : 0 ∉ entry) (nonzero : byte ≠ 0) :
    parseAttribute (entry ++ 0 :: byte :: rest) =
      (parseEntry entry).bind fun attr => (parseAttribute (byte :: rest)).map fun attrs => attr :: attrs := by
  rw [parseAttribute, parse_scan _ _ _ noNul, List.nil_append, parseLoop, if_neg (not_not_intro rfl)]
  cases parseEntry entry with
  | none => rfl
  | some attr => simp only [List.head?_cons, if_neg nonzero, Option.bind_some, parseAttribute]

theorem parse_entry_text (attr : EnvAttribute) (plain : 0x3D ∉ attr.key.str.bytes) :
    parseEntry attr.text = some attr := by
  have key : CStr.read attr.key.str.bytes = attr.key.str :=
    CStr.ext_bytes _ _ (CStr.read_bytes _ attr.key.str.noNul)
  have value : CStr.read attr.value.str.bytes = attr.value.str :=
    CStr.ext_bytes _ _ (CStr.read_bytes _ attr.value.str.noNul)
  rw [parseEntry, EnvAttribute.text, cut_at _ _ _ plain]
  simp only [key, value, strcpy_some 256 _ attr.key.fits, strcpy_some 1024 _ attr.value.fits, Option.bind_eq_bind,
    Option.bind_some]

theorem block_head (attr : EnvAttribute) (rest : List EnvAttribute) (behind : Bytes) :
    ∃ byte tail, block (attr :: rest) ++ behind = byte :: tail ∧ byte ≠ 0 := by
  have noNul := text_no_nul attr
  cases text : attr.text with
  | nil =>
      have size := text_length attr
      simp [text] at size
      omega
  | cons byte tail =>
      refine ⟨byte, tail ++ [0] ++ block rest ++ behind, by simp [block, text], ?_⟩
      intro zero
      exact noNul (by simp [text, zero])

theorem parse_block (attrs : List EnvAttribute) (behind : Bytes) (some_attr : attrs ≠ []) (plain : PlainKeys attrs) :
    parseAttribute (block attrs ++ 0 :: behind) = some attrs := by
  induction attrs with
  | nil => exact absurd rfl some_attr
  | cons attr rest ih =>
      have entry := parse_entry_text attr (plain attr List.mem_cons_self)
      have open_block : block (attr :: rest) ++ 0 :: behind = attr.text ++ 0 :: (block rest ++ 0 :: behind) := by
        simp [block]
      rw [open_block]
      cases rest with
      | nil => exact (parse_last _ _ (text_no_nul attr)).trans (by rw [entry, Option.map_some])
      | cons following rest =>
          obtain ⟨byte, tail, shape, nonzero⟩ := block_head following rest (0 :: behind)
          have later := ih (by simp) (fun a member => plain a (List.mem_cons_of_mem _ member))
          rw [shape] at later ⊢
          rw [parse_next _ _ _ (text_no_nul attr) nonzero, entry, Option.bind_some, later, Option.map_some]

-- Every image that ends its variables with an empty entry, in keys and values
-- that fit their arrays, is parsed to the end.
theorem parse_terminated (entries : List Bytes) (behind : Bytes) (some_entry : entries ≠ [])
    (noNul : ∀ entry ∈ entries, 0 ∉ entry) (inner : ∀ entry ∈ entries.tail, entry ≠ [])
    (fits : ∀ entry ∈ entries, ∀ key value, cut 0x3D entry = some (key, value) → key.length < 256 ∧ value.length < 1024) :
    ∃ attrs, parseAttribute (entries.flatMap (fun entry => entry ++ [0]) ++ 0 :: behind) = some attrs := by
  induction entries with
  | nil => exact absurd rfl some_entry
  | cons entry rest ih =>
      have head : ∃ attr, parseEntry entry = some attr := by
        cases found : cut 0x3D entry with
        | none => exact ⟨_, by rw [parseEntry, found]⟩
        | some pair =>
            obtain ⟨key, value⟩ := pair
            obtain ⟨keyFits, valueFits⟩ := fits entry List.mem_cons_self key value found
            have keyRead : (CStr.read key).bytes.length < 256 :=
              Nat.lt_of_le_of_lt (List.takeWhile_sublist _).length_le keyFits
            have valueRead : (CStr.read value).bytes.length < 1024 :=
              Nat.lt_of_le_of_lt (List.takeWhile_sublist _).length_le valueFits
            exact ⟨⟨⟨_, keyRead⟩, ⟨_, valueRead⟩⟩, by
              simp [parseEntry, found, strcpy_some 256 _ keyRead, strcpy_some 1024 _ valueRead]⟩
      obtain ⟨attr, parsed⟩ := head
      have opened : (entry :: rest).flatMap (fun entry => entry ++ [0]) ++ 0 :: behind =
          entry ++ 0 :: (rest.flatMap (fun entry => entry ++ [0]) ++ 0 :: behind) := by simp
      have plain := noNul entry List.mem_cons_self
      rw [opened]
      cases rest with
      | nil => exact ⟨[attr], (parse_last _ _ plain).trans (by rw [parsed, Option.map_some])⟩
      | cons following rest =>
          obtain ⟨attrs, later⟩ := ih (by simp) (fun e member => noNul e (List.mem_cons_of_mem _ member))
            (fun e member => inner e (List.mem_of_mem_tail member))
            (fun e member => fits e (List.mem_cons_of_mem _ member))
          cases text : following with
          | nil => exact absurd text (inner following List.mem_cons_self)
          | cons byte tail =>
              have nonzero : byte ≠ 0 := fun zero =>
                noNul following (by simp) (by simp [text, zero])
              rw [text] at later
              refine ⟨attr :: attrs, (parse_next _ _ _ plain nonzero).trans ?_⟩
              rw [parsed, Option.bind_some]
              exact (congrArg _ later).trans (Option.map_some ..)

theorem parse_format (size : Nat) (attrs : List EnvAttribute) (data : Bytes) (some_attr : attrs ≠ [])
    (plain : PlainKeys attrs) (formatted : formatAttribute size attrs = some data)
    (closed : (block (stored attrs)).length < size) : parseAttribute data = some (stored attrs) := by
  obtain ⟨left, rfl⟩ := format_shape size attrs data some_attr formatted
  have size_eq := format_length _ _ _ formatted
  simp only [List.length_append, List.length_replicate] at size_eq
  obtain ⟨behind, rfl⟩ : ∃ behind, left = behind + 1 := ⟨left - 1, by omega⟩
  rw [List.replicate_succ]
  apply parse_block
  · cases attrs with
    | nil => exact absurd rfl some_attr
    | cons attr next => exact stored_ne_nil attr next
  · intro attr member
    exact plain attr (stored_member attr attrs member)

theorem parse_entry_plain (proc : Bytes) (attr : EnvAttribute) (parsed : parseEntry proc = some attr) :
    0x3D ∉ attr.key.str.bytes := by
  cases found : cut 0x3D proc with
  | none =>
      simp only [parseEntry, found, Option.some.injEq] at parsed
      subst attr
      simp [EnvAttribute.cleared, CStr.empty]
  | some pair =>
      obtain ⟨key, value⟩ := pair
      obtain ⟨_, absent⟩ := cut_some _ _ _ _ found
      simp only [parseEntry, found, Option.bind_eq_bind, Option.bind_eq_some_iff] at parsed
      obtain ⟨keyCopy, keyEq, valueCopy, _, same⟩ := parsed
      cases Option.some.inj same
      rw [strcpy_eq_some _ _ _ keyEq]
      intro member
      exact absent (List.takeWhile_subset _ member)

theorem parse_loop_plain (proc bytes : Bytes) (attrs : List EnvAttribute)
    (parsed : parseLoop proc bytes = some attrs) : PlainKeys attrs := by
  induction bytes generalizing proc attrs with
  | nil => simp [parseLoop] at parsed
  | cons byte rest ih =>
      by_cases scanning : byte ≠ 0
      · rw [parseLoop, if_pos scanning] at parsed
        exact ih _ _ parsed
      · rw [parseLoop, if_neg scanning] at parsed
        cases entry : parseEntry proc with
        | none => simp [entry] at parsed
        | some attr =>
            have head := parse_entry_plain proc attr entry
            cases rest with
            | nil => simp [entry] at parsed
            | cons next rest =>
                simp only [entry, List.head?_cons] at parsed
                by_cases last : next = 0
                · simp only [if_pos last, Option.some.injEq] at parsed
                  subst attrs
                  simpa [PlainKeys] using head
                · simp only [if_neg last, Option.map_eq_some_iff] at parsed
                  obtain ⟨tail, inner, rfl⟩ := parsed
                  intro other member
                  rcases List.mem_cons.mp member with same | later
                  · exact same ▸ head
                  · exact ih _ _ inner other later

theorem parse_plain (data : Bytes) (attrs : List EnvAttribute) (parsed : parseAttribute data = some attrs) :
    PlainKeys attrs :=
  parse_loop_plain [] data attrs parsed

end Droidlogic.Bootenv
