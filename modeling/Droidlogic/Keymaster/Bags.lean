import Droidlogic.Keymaster.AuthorizationSet

set_option autoImplicit false

namespace Droidlogic.Keymaster

open Droidlogic.Lib

-- What tells two parameters of one type apart: the tag, the number and the blob, in the order of keyParamLess.
abbrev Value := Nat ×ₗ (Nat ×ₗ List Nat)

section
variable (hal : Hal)

def payload (param : KeyParameter) : Nat ×ₗ List Nat :=
  match typeFromTag hal param.tag with
  | some .invalid | some .bool | none => toLex (0, [])
  | some .enum | some .enumRep | some .uint | some .uintRep => toLex (param.f.integer, [])
  | some .ulong | some .ulongRep => toLex (param.f.longInteger, [])
  | some .date => toLex (param.f.dateTime, [])
  | some .bignum | some .bytes => toLex (0, param.blob.map UInt8.toNat)

def value (param : KeyParameter) : Value := toLex (param.tag.toNat, payload hal param)

theorem memcmp_equal (a b : Bytes) (same : a.length = b.length) : memcmp a b a.length = 0 ↔ a = b := by
  induction a generalizing b with
  | nil =>
      cases b with
      | nil => exact ⟨fun _ => rfl, fun _ => rfl⟩
      | cons y ys => cases same
  | cons x xs ih =>
      cases b with
      | nil => cases same
      | cons y ys =>
          rw [List.length_cons, memcmp, List.cons.injEq]
          by_cases equal : x = y
          · rw [if_pos equal, ih ys (Nat.succ.inj same)]
            exact ⟨fun tails => ⟨equal, tails⟩, And.right⟩
          · have apart : x.toNat ≠ y.toNat := fun numbers => equal (UInt8.toNat_inj.mp numbers)
            rw [if_neg equal]
            exact ⟨fun zero => by omega, fun both => absurd both.1 equal⟩

theorem blob_equal_iff (a b : Bytes) : blobEqual a b = true ↔ a = b := by
  unfold blobEqual
  by_cases same : a.length = b.length
  · rw [if_neg (not_not_intro same), Bool.or_eq_true, decide_eq_true_iff, decide_eq_true_iff, memcmp_equal a b same]
    refine ⟨fun either => either.elim (fun empty => ?_) id, Or.inr⟩
    rw [List.length_eq_zero_iff.mp empty, List.length_eq_zero_iff.mp (same.symm.trans empty)]
  · rw [if_pos same]
    exact ⟨fun never => Bool.noConfusion never, fun equal => absurd (congrArg List.length equal) same⟩

theorem memcmp_order (a b : Bytes) :
    (if memcmp a b (min a.length b.length) = 0 then a.length < b.length else memcmp a b (min a.length b.length) < 0) ↔
      a.map UInt8.toNat < b.map UInt8.toNat := by
  induction a generalizing b with
  | nil =>
      cases b with
      | nil => simp [memcmp]
      | cons y ys => simp [memcmp]
  | cons x xs ih =>
      cases b with
      | nil => simp [memcmp]
      | cons y ys =>
          rw [List.length_cons, List.length_cons, Nat.add_min_add_right, memcmp, List.map_cons, List.map_cons,
            List.cons_lt_cons_iff, ← ih ys]
          by_cases equal : x = y
          · rw [if_pos equal, equal]
            simp
          · have apart : x.toNat ≠ y.toNat := fun numbers => equal (UInt8.toNat_inj.mp numbers)
            rw [if_neg equal, if_neg (by omega)]
            simp only [apart, false_and, or_false]
            omega

theorem blob_less_iff (a b : Bytes) : blobLess a b = true ↔ a.map UInt8.toNat < b.map UInt8.toNat := by
  rw [← memcmp_order]
  unfold blobLess
  by_cases first : a.length = 0
  · rw [if_pos first, List.length_eq_zero_iff.mp first]
    simp [memcmp, Nat.pos_iff_ne_zero]
  · by_cases second : b.length = 0
    · rw [if_neg first, if_pos second, List.length_eq_zero_iff.mp second]
      cases a <;> simp [memcmp]
    · rw [if_neg first, if_neg second]
      simp only
      split <;> simp

theorem less_iff (a b : KeyParameter) : keyParamLess hal a b = true ↔ value hal a < value hal b := by
  unfold keyParamLess value
  rw [Prod.Lex.toLex_lt_toLex]
  by_cases same : a.tag = b.tag
  · rw [if_neg (not_not_intro same)]
    unfold payload
    rw [same]
    have blobs := blob_less_iff a.blob b.blob
    cases typeFromTag hal b.tag with
    | none => simp
    | some type => cases type <;> simp [Prod.Lex.toLex_lt_toLex, blobs]
  · have apart : a.tag.toNat ≠ b.tag.toNat := fun numbers => same (UInt32.toNat_inj.mp numbers)
    rw [if_pos same, decide_eq_true_iff, UInt32.lt_iff_toNat_lt]
    simp only [apart, false_and, or_false]

theorem equal_iff (a b : KeyParameter) :
    keyParamEqual hal a b = true ↔ (typeFromTag hal a.tag).isSome ∧ value hal a = value hal b := by
  unfold keyParamEqual value
  rw [toLex.injective.eq_iff, Prod.mk.injEq, UInt32.toNat_inj]
  by_cases same : a.tag = b.tag
  · rw [if_neg (not_not_intro same)]
    unfold payload
    rw [same]
    have blobs := blob_equal_iff a.blob b.blob
    have mapped : a.blob.map UInt8.toNat = b.blob.map UInt8.toNat ↔ a.blob = b.blob :=
      (List.map_injective_iff.mpr fun _ _ numbers => UInt8.toNat_inj.mp numbers).eq_iff
    cases typeFromTag hal b.tag with
    | none => simp
    | some type => cases type <;> simp [blobs, mapped]
  · rw [if_pos same]
    exact ⟨fun never => Bool.noConfusion never, fun both => absurd both.2.1 same⟩

-- A parameter whose type keyParamEqual knows counts by its value, one of a type it does not know by itself.
def Typed (tag : UInt32) : Prop := tag ≠ hal.invalid ∧ (typeFromTag hal tag).isSome

def Foreign (tag : UInt32) : Prop := tag ≠ hal.invalid ∧ (typeFromTag hal tag).isNone

instance (tag : UInt32) : Decidable (Typed hal tag) := inferInstanceAs (Decidable (_ ∧ _))

instance (tag : UInt32) : Decidable (Foreign hal tag) := inferInstanceAs (Decidable (_ ∧ _))

@[ext]
structure Contents where
  values : Multiset Value
  foreign : Multiset KeyParameter
  invalid : Nat

def contents (data : AuthorizationSet) : Contents where
  values := ((data.filter fun param => Typed hal param.tag).map (value hal) : List Value)
  foreign := (data.filter fun param => Foreign hal param.tag : List KeyParameter)
  invalid := data.countP fun param => param.tag = hal.invalid

structure Hal.Documented : Prop where
  invalid_least : ∀ tag, hal.invalid ≤ tag
  invalid_type : typeFromTag hal hal.invalid = some .invalid

variable {hal}

theorem apart {tag : UInt32} (typed : Typed hal tag) : ¬ Foreign hal tag := fun foreign => by
  have none := Option.isNone_iff_eq_none.mp foreign.2
  exact absurd typed.2 (by rw [none]; exact Bool.false_ne_true)

theorem contents_typed (param : KeyParameter) (data : AuthorizationSet) (typed : Typed hal param.tag) :
    contents hal (param :: data) =
      ⟨value hal param ::ₘ (contents hal data).values, (contents hal data).foreign, (contents hal data).invalid⟩ := by
  have notForeign := apart typed
  rw [contents, List.filter_cons_of_pos (by simpa using typed), List.filter_cons_of_neg (by simpa using notForeign),
    List.countP_cons_of_neg (by simpa using typed.1)]
  rfl

theorem contents_foreign (param : KeyParameter) (data : AuthorizationSet) (foreign : Foreign hal param.tag) :
    contents hal (param :: data) =
      ⟨(contents hal data).values, param ::ₘ (contents hal data).foreign, (contents hal data).invalid⟩ := by
  have notTyped : ¬ Typed hal param.tag := fun typed => apart typed foreign
  rw [contents, List.filter_cons_of_neg (by simpa using notTyped), List.filter_cons_of_pos (by simpa using foreign),
    List.countP_cons_of_neg (by simpa using foreign.1)]
  rfl

theorem contents_invalid (param : KeyParameter) (data : AuthorizationSet) (invalid : param.tag = hal.invalid) :
    contents hal (param :: data) =
      ⟨(contents hal data).values, (contents hal data).foreign, (contents hal data).invalid + 1⟩ := by
  rw [contents, List.filter_cons_of_neg (by simp [Typed, invalid]), List.filter_cons_of_neg (by simp [Foreign, invalid]),
    List.countP_cons_of_pos (by simpa using invalid)]
  rfl

theorem kinds (tag : UInt32) : tag = hal.invalid ∨ Typed hal tag ∨ Foreign hal tag := by
  by_cases invalid : tag = hal.invalid
  · exact Or.inl invalid
  · cases known : (typeFromTag hal tag).isSome with
    | true => exact Or.inr (Or.inl ⟨invalid, known⟩)
    | false => exact Or.inr (Or.inr ⟨invalid, Option.isNone_iff_eq_none.mpr (Option.not_isSome_iff_eq_none.mp (by simp [known]))⟩)

theorem contents_perm {first second : AuthorizationSet} (same : first.Perm second) : contents hal first = contents hal second := by
  ext1
  · exact Multiset.coe_eq_coe.mpr ((same.filter _).map _)
  · exact Multiset.coe_eq_coe.mpr (same.filter _)
  · exact same.countP_eq _

def Contents.add (first second : Contents) : Contents where
  values := first.values + second.values
  foreign := first.foreign + second.foreign
  invalid := first.invalid + second.invalid

theorem contents_append (first second : AuthorizationSet) :
    contents hal (first ++ second) = (contents hal first).add (contents hal second) := by
  simp only [contents, Contents.add, List.filter_append, List.map_append, List.countP_append, Multiset.coe_add]

def Contents.size (bag : Contents) : Nat := bag.values.card + bag.foreign.card + bag.invalid

theorem contents_size (data : AuthorizationSet) : (contents hal data).size = data.length := by
  induction data with
  | nil => rfl
  | cons param rest ih =>
      unfold Contents.size at ih ⊢
      rcases @kinds hal param.tag with invalid | typed | foreign
      · rw [contents_invalid param rest invalid, List.length_cons]
        dsimp only
        omega
      · rw [contents_typed param rest typed, Multiset.card_cons, List.length_cons]
        dsimp only
        omega
      · rw [contents_foreign param rest foreign, Multiset.card_cons, List.length_cons]
        dsimp only
        omega

-- Of each value one is kept; of the invalid entries one, and only where there is nothing else.
def Contents.deduplicated (bag : Contents) : Contents where
  values := bag.values.dedup
  foreign := bag.foreign
  invalid := if bag.values.card + bag.foreign.card = 0 then min bag.invalid 1 else 0

variable (hal) in
def Sorted (data : AuthorizationSet) : Prop := data.Pairwise fun a b => value hal a ≤ value hal b

theorem deduplicated_present (bag : Contents) (v : Value) (present : v ∈ bag.values) :
    Contents.deduplicated ⟨v ::ₘ bag.values, bag.foreign, bag.invalid⟩ = bag.deduplicated := by
  have occupied := Multiset.card_pos_iff_exists_mem.mpr ⟨v, present⟩
  unfold Contents.deduplicated
  rw [Multiset.dedup_cons_of_mem present, Multiset.card_cons, if_neg (by omega), if_neg (by omega)]

theorem deduplicated_absent (bag : Contents) (v : Value) (absent : v ∉ bag.values) (gone : bag.invalid = 0) :
    Contents.deduplicated ⟨v ::ₘ bag.values, bag.foreign, bag.invalid⟩ =
      ⟨v ::ₘ bag.deduplicated.values, bag.deduplicated.foreign, bag.deduplicated.invalid⟩ := by
  unfold Contents.deduplicated
  rw [Multiset.dedup_cons_of_notMem absent, gone, Nat.zero_min, ite_self, ite_self]

theorem deduplicated_foreign (bag : Contents) (param : KeyParameter) (gone : bag.invalid = 0) :
    Contents.deduplicated ⟨bag.values, param ::ₘ bag.foreign, bag.invalid⟩ =
      ⟨bag.deduplicated.values, param ::ₘ bag.deduplicated.foreign, bag.deduplicated.invalid⟩ := by
  unfold Contents.deduplicated
  rw [gone, Nat.zero_min, ite_self, ite_self]

theorem deduplicated_invalid (bag : Contents) (more : 0 < bag.size) :
    Contents.deduplicated ⟨bag.values, bag.foreign, bag.invalid + 1⟩ = bag.deduplicated := by
  unfold Contents.size at more
  unfold Contents.deduplicated
  dsimp only
  by_cases alone : bag.values.card + bag.foreign.card = 0
  · rw [if_pos alone, if_pos alone, Nat.min_eq_right (by omega), Nat.min_eq_right (by omega)]
  · rw [if_neg alone, if_neg alone]

-- Tag::INVALID is the least tag, so behind a valid entry of a sorted set there is no invalid one.
theorem invalid_gone (documented : hal.Documented) (first : KeyParameter) (rest : AuthorizationSet)
    (sorted : Sorted hal (first :: rest)) (valid : first.tag ≠ hal.invalid) : (contents hal rest).invalid = 0 := by
  refine List.countP_eq_zero.mpr fun param later => ?_
  rw [decide_eq_true_iff]
  intro invalid
  have order : value hal first ≤ value hal param := List.rel_of_pairwise_cons sorted later
  have tags : first.tag.toNat ≤ param.tag.toNat := Prod.Lex.monotone_fst _ _ order
  have least := UInt32.le_iff_toNat_le.mp (documented.invalid_least first.tag)
  rw [invalid] at tags
  exact valid (UInt32.toNat_inj.mp (Nat.le_antisymm tags least))

-- In a sorted set a value that differs from the next one does not come again.
theorem value_gone (prev curr : KeyParameter) (rest : AuthorizationSet) (sorted : Sorted hal (prev :: curr :: rest))
    (differs : value hal prev ≠ value hal curr) : value hal prev ∉ (contents hal (curr :: rest)).values := by
  intro present
  obtain ⟨param, member, same⟩ := List.mem_map.mp (Multiset.mem_coe.mp present)
  have order : value hal prev ≤ value hal curr := List.rel_of_pairwise_cons sorted List.mem_cons_self
  have reached : value hal curr ≤ value hal param := by
    rcases List.mem_cons.mp (List.mem_of_mem_filter member) with rfl | after
    · exact le_refl _
    · exact List.rel_of_pairwise_cons (List.Pairwise.of_cons sorted) after
  exact differs (le_antisymm order (same ▸ reached))

theorem deduplicate_loop_contents (documented : hal.Documented) (prev : KeyParameter) (rest : AuthorizationSet)
    (sorted : Sorted hal (prev :: rest)) :
    contents hal (deduplicateLoop hal prev rest) = (contents hal (prev :: rest)).deduplicated := by
  induction rest generalizing prev with
  | nil =>
      rw [deduplicateLoop]
      rcases @kinds hal prev.tag with invalid | typed | foreign
      · rw [contents_invalid prev [] invalid]
        rfl
      · rw [contents_typed prev [] typed]
        rfl
      · rw [contents_foreign prev [] foreign]
        rfl
  | cons curr rest ih =>
      have later : Sorted hal (curr :: rest) := List.Pairwise.of_cons sorted
      have more : 0 < (contents hal (curr :: rest)).size := by
        rw [contents_size]
        exact Nat.succ_pos _
      rw [deduplicateLoop]
      rcases @kinds hal prev.tag with invalid | typed | foreign
      · rw [if_pos invalid, ih curr later, contents_invalid prev (curr :: rest) invalid, deduplicated_invalid _ more]
      · rw [if_neg typed.1, contents_typed prev (curr :: rest) typed]
        have gone := invalid_gone documented prev (curr :: rest) sorted typed.1
        by_cases same : value hal prev = value hal curr
        · have equal := (equal_iff hal prev curr).mpr ⟨typed.2, same⟩
          have tags : prev.tag = curr.tag := UInt32.toNat_inj.mp (congrArg (fun v => (ofLex v).1) same)
          have present : value hal prev ∈ (contents hal (curr :: rest)).values := by
            rw [contents_typed curr rest (tags ▸ typed), same]
            exact Multiset.mem_cons_self (value hal curr) (contents hal rest).values
          rw [equal, if_neg (by decide), ih curr later, deduplicated_present _ _ present]
        · have differs : keyParamEqual hal prev curr = false :=
            Bool.eq_false_iff.mpr fun equal => same ((equal_iff hal prev curr).mp equal).2
          have absent := value_gone prev curr rest sorted same
          rw [differs, if_pos (by decide), contents_typed prev _ typed, ih curr later, deduplicated_absent _ _ absent gone]
      · have gone := invalid_gone documented prev (curr :: rest) sorted foreign.1
        have differs : keyParamEqual hal prev curr = false := Bool.eq_false_iff.mpr fun equal =>
          apart ⟨foreign.1, ((equal_iff hal prev curr).mp equal).1⟩ foreign
        rw [if_neg foreign.1, differs, if_pos (by decide), contents_foreign prev _ foreign, ih curr later,
          contents_foreign prev (curr :: rest) foreign, deduplicated_foreign _ _ gone]

variable (hal) in
-- What the standard promises of std::sort with keyParamLess.
def Sorts (sort : AuthorizationSet → AuthorizationSet) : Prop :=
  ∀ data, (sort data).Perm data ∧ (sort data).Pairwise fun a b => keyParamLess hal b a = false

theorem sorts_sorted {sort : AuthorizationSet → AuthorizationSet} (sorts : Sorts hal sort) (data : AuthorizationSet) :
    Sorted hal (sort data) :=
  (sorts data).2.imp fun {a b} notLess => le_of_not_gt fun less => by
    rw [(less_iff hal b a).mpr less] at notLess
    cases notLess

theorem deduplicate_contents (documented : hal.Documented) {sort : AuthorizationSet → AuthorizationSet} (sorts : Sorts hal sort)
    (data : AuthorizationSet) : contents hal (Deduplicate hal sort data) = (contents hal data).deduplicated := by
  have same := @contents_perm hal _ _ (sorts data).1
  have sorted := sorts_sorted sorts data
  unfold Deduplicate
  cases taken : sort data with
  | nil =>
      rw [taken] at same
      rw [← same]
      rfl
  | cons prev rest =>
      rw [taken] at same sorted
      rw [← same]
      exact deduplicate_loop_contents documented prev rest sorted

end

end Droidlogic.Keymaster
