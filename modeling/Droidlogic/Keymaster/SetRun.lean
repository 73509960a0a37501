import Droidlogic.Keymaster.Bags

set_option autoImplicit false

namespace Droidlogic.Keymaster

open Droidlogic.Lib

theorem find_none (data : AuthorizationSet) (tag : UInt32) (start : Nat) (missed : find data tag start = none) :
    ∀ param ∈ data.drop start, param.tag ≠ tag := by
  intro param member
  have never := List.findIdx?_eq_none_iff.mp (Option.map_eq_none_iff.mp missed) param member
  exact of_decide_eq_false never

theorem find_some (data : AuthorizationSet) (tag : UInt32) (start pos : Nat) (found : find data tag start = some pos) :
    ∃ before param after, data.drop start = before ++ param :: after ∧ pos = start + before.length ∧ param.tag = tag ∧
      ∀ earlier ∈ before, earlier.tag ≠ tag := by
  obtain ⟨index, at_, rfl⟩ := Option.map_eq_some_iff.mp found
  obtain ⟨inside, hit, misses⟩ := List.findIdx?_eq_some_iff_getElem.mp at_
  refine ⟨(data.drop start).take index, (data.drop start)[index], (data.drop start).drop (index + 1), ?_, ?_,
    of_decide_eq_true hit, fun earlier member => ?_⟩
  · rw [List.getElem_cons_drop, List.take_append_drop]
  · rw [List.length_take, Nat.min_eq_left (Nat.le_of_lt inside)]
  · obtain ⟨j, bound, rfl⟩ := List.getElem_of_mem member
    rw [List.getElem_take]
    have before : j < index := Nat.lt_of_lt_of_le bound (by rw [List.length_take]; exact Nat.min_le_left _ _)
    exact fun same => misses j before (decide_eq_true same)

section
variable {hal : Hal}

theorem equal_tag {a b : KeyParameter} (equal : keyParamEqual hal a b = true) : b.tag = a.tag :=
  UInt32.toNat_inj.mp (congrArg (fun v => (ofLex v).1) ((equal_iff hal a b).mp equal).2.symm)

-- With turns enough, the inner loop of Subtract erases the first entry that is equal.
theorem erase_equal_first (data : AuthorizationSet) (i : KeyParameter) (turns start : Nat) (seen unseen : AuthorizationSet)
    (split : data = seen ++ unseen) (at_ : seen.length = start) (enough : unseen.length < turns)
    (passed : ∀ param ∈ seen, keyParamEqual hal i param = false) :
    eraseEqual hal data i turns start = data.eraseP (keyParamEqual hal i) := by
  induction turns generalizing start seen unseen with
  | zero => exact absurd enough (Nat.not_lt_zero _)
  | succ turns ih =>
      have rest : data.drop start = unseen := by rw [split, ← at_, List.drop_left]
      have missed : ∀ params : AuthorizationSet, (∀ param ∈ params, param.tag ≠ i.tag) →
          ∀ param ∈ params, keyParamEqual hal i param = false :=
        fun params others param member => Bool.eq_false_iff.mpr fun equal => others param member (equal_tag equal)
      rw [eraseEqual]
      cases found : find data i.tag start with
      | none =>
          have others := find_none data i.tag start found
          rw [rest] at others
          have never : ∀ param ∈ data, ¬ keyParamEqual hal i param = true := fun param member =>
            Bool.eq_false_iff.mp ((List.mem_append.mp (split ▸ member)).elim (passed param) (missed unseen others param))
          exact (List.eraseP_of_forall_not never).symm
      | some pos =>
          obtain ⟨before, param, after, shape, place, tagged, others⟩ := find_some data i.tag start pos found
          rw [rest] at shape
          have whole : data = (seen ++ before) ++ param :: after := by rw [split, shape, List.append_assoc]
          have sized : (seen ++ before).length = pos := by rw [List.length_append, at_, place]
          have skipped : ∀ earlier ∈ seen ++ before, keyParamEqual hal i earlier = false := fun earlier member =>
            (List.mem_append.mp member).elim (passed earlier) (missed before others earlier)
          have here : data[pos]? = some param := by rw [whole, ← sized, List.getElem?_append_right (le_refl _), Nat.sub_self]; rfl
          simp only [here, Option.any_some]
          cases equal : keyParamEqual hal i param with
          | true =>
              rw [if_pos rfl, whole, ← sized, List.eraseIdx_append_of_length_le (le_refl _), Nat.sub_self, List.eraseIdx_cons_zero,
                List.eraseP_append_right _ fun earlier member => Bool.eq_false_iff.mp (skipped earlier member),
                List.eraseP_cons_of_pos equal]
          | false =>
              rw [if_neg (by decide)]
              refine ih (pos + 1) (seen ++ before ++ [param]) after (by rw [whole]; simp) (by rw [List.length_append, sized]; rfl)
                ?_ fun earlier member => ?_
              · have lengths := congrArg List.length shape
                rw [List.length_append, List.length_cons] at lengths
                omega
              · rcases List.mem_append.mp member with before | last
                · exact skipped earlier before
                · rwa [List.mem_singleton.mp last]

theorem erase_equal_whole (data : AuthorizationSet) (i : KeyParameter) :
    eraseEqual hal data i (data.length + 1) 0 = data.eraseP (keyParamEqual hal i) :=
  erase_equal_first data i (data.length + 1) 0 [] data rfl rfl (Nat.lt_succ_self _) fun _ member => absurd member List.not_mem_nil

def Contents.minus (bag other : Contents) : Contents where
  values := bag.values - other.values
  foreign := bag.foreign
  invalid := bag.invalid - other.invalid

theorem invalid_equal (documented : hal.Documented) {a b : KeyParameter} (first : a.tag = hal.invalid) (second : b.tag = hal.invalid) :
    keyParamEqual hal a b = true := by
  unfold keyParamEqual
  rw [if_neg (not_not_intro (first.trans second.symm)), first, documented.invalid_type]

theorem single_values (i : KeyParameter) :
    (contents hal [i]).values = if Typed hal i.tag then {value hal i} else 0 := by
  rcases @kinds hal i.tag with invalid | typed | foreign
  · rw [if_neg fun typed => typed.1 invalid, contents_invalid i [] invalid]
    rfl
  · rw [if_pos typed, contents_typed i [] typed]
    rfl
  · rw [if_neg fun typed => apart typed foreign, contents_foreign i [] foreign]
    rfl

theorem single_invalid (i : KeyParameter) : (contents hal [i]).invalid = if i.tag = hal.invalid then 1 else 0 := by
  simp [contents, List.countP_cons]

theorem erase_equal_contents (documented : hal.Documented) (data : AuthorizationSet) (i : KeyParameter) :
    contents hal (data.eraseP (keyParamEqual hal i)) = (contents hal data).minus (contents hal [i]) := by
  unfold Contents.minus
  rw [single_values, single_invalid]
  induction data with
  | nil =>
      rw [List.eraseP_nil]
      ext1
      · exact (Multiset.zero_sub _).symm
      · rfl
      · exact (Nat.zero_sub _).symm
  | cons param rest ih =>
      by_cases equal : keyParamEqual hal i param = true
      · have known := (equal_iff hal i param).mp equal
        have tags := equal_tag equal
        rw [List.eraseP_cons_of_pos equal]
        by_cases invalid : i.tag = hal.invalid
        · rw [contents_invalid param rest (tags.trans invalid), if_neg fun typed => typed.1 invalid, if_pos invalid]
          ext1
          · exact (Multiset.sub_zero _).symm
          · rfl
          · rfl
        · rw [contents_typed param rest (tags ▸ ⟨invalid, known.1⟩), if_pos ⟨invalid, known.1⟩, if_neg invalid, known.2]
          ext1
          · rw [Multiset.sub_singleton, Multiset.erase_cons_head]
          · rfl
          · rfl
      · rw [List.eraseP_cons_of_neg equal]
        rcases @kinds hal param.tag with invalid | typed | foreign
        · have valid : i.tag ≠ hal.invalid := fun first => equal (invalid_equal documented first invalid)
          rw [contents_invalid param _ invalid, contents_invalid param rest invalid, ih, if_neg valid]
          rfl
        · rw [contents_typed param _ typed, contents_typed param rest typed, ih]
          ext1
          · dsimp only
            split
            · rename_i known
              have differs : value hal param ≠ value hal i := fun same => equal ((equal_iff hal i param).mpr ⟨known.2, same.symm⟩)
              rw [Multiset.sub_singleton, Multiset.sub_singleton, Multiset.erase_cons_tail _ differs]
            · rw [Multiset.sub_zero, Multiset.sub_zero]
          · rfl
          · rfl
        · rw [contents_foreign param _ foreign, contents_foreign param rest foreign, ih]

theorem minus_add (bag first second : Contents) : (bag.minus first).minus second = bag.minus (first.add second) := by
  ext1
  · exact Multiset.sub_add_eq_sub_sub.symm
  · rfl
  · exact Nat.sub_sub _ _ _

theorem erase_all_contents (documented : hal.Documented) (left other : AuthorizationSet) :
    contents hal (other.foldl (fun left i => eraseEqual hal left i (left.length + 1) 0) left) =
      (contents hal left).minus (contents hal other) := by
  induction other generalizing left with
  | nil =>
      ext1
      · exact (Multiset.sub_zero _).symm
      · rfl
      · rfl
  | cons i rest ih =>
      rw [List.foldl_cons, ih, erase_equal_whole, erase_equal_contents documented, minus_add, ← contents_append]
      rfl

-- A value of the first bag stays, once, if the other has it nowhere.
def Contents.subtracted (bag other : Contents) : Contents where
  values := bag.values.dedup.filter fun v => v ∉ other.values
  foreign := bag.foreign
  invalid := bag.deduplicated.invalid - other.invalid

theorem subtract_contents (documented : hal.Documented) {sort : AuthorizationSet → AuthorizationSet} (sorts : Sorts hal sort)
    (data other : AuthorizationSet) :
    contents hal (Subtract hal sort data other) = (contents hal data).subtracted (contents hal other) := by
  rw [Subtract, erase_all_contents documented, deduplicate_contents documented sorts]
  ext1
  · have once := Multiset.nodup_dedup (contents hal data).values
    refine (Multiset.Nodup.ext (Multiset.nodup_of_le (Multiset.sub_le_self _ _) once) (once.filter _)).mpr fun v => ?_
    rw [Multiset.mem_filter]
    exact Multiset.mem_sub_of_nodup once
  · rfl
  · rfl

theorem count_loop_drop (data : AuthorizationSet) (tag : UInt32) (turns start : Nat) (enough : data.length < start + turns) :
    countLoop data tag turns start = (data.drop start).countP fun param => param.tag = tag := by
  induction turns generalizing start with
  | zero => rw [List.drop_of_length_le (by omega), countLoop, List.countP_nil]
  | succ turns ih =>
      rw [countLoop]
      cases found : find data tag start with
      | none =>
          have others := find_none data tag start found
          exact (List.countP_eq_zero.mpr fun param member => by simpa using others param member).symm
      | some pos =>
          obtain ⟨before, param, after, shape, rfl, tagged, others⟩ := find_some data tag start pos found
          have later : data.drop (start + before.length + 1) = after := by
            rw [Nat.add_assoc, ← List.drop_drop, shape, ← List.drop_drop, List.drop_left, List.drop_one, List.tail_cons]
          have none : before.countP (fun param => param.tag = tag) = 0 :=
            List.countP_eq_zero.mpr fun earlier member => by simpa using others earlier member
          dsimp only
          rw [ih _ (by omega), later, shape, List.countP_append, none, List.countP_cons_of_pos (by simpa using tagged), Nat.zero_add]

theorem get_tag_count (data : AuthorizationSet) (tag : UInt32) :
    GetTagCount data tag = data.countP fun param => param.tag = tag :=
  count_loop_drop data tag (data.length + 1) 0 (by omega)

theorem contains_count (data : AuthorizationSet) (tag : UInt32) :
    Contains data tag = true ↔ 0 < data.countP fun param => param.tag = tag := by
  rw [Contains, List.countP_pos_iff]
  cases found : find data tag 0 with
  | none =>
      have others := find_none data tag 0 found
      exact ⟨fun never => Bool.noConfusion never, fun ⟨param, member, tagged⟩ => absurd (of_decide_eq_true tagged) (others param member)⟩
  | some pos =>
      obtain ⟨before, param, after, shape, -, tagged, -⟩ := find_some data tag 0 pos found
      rw [List.drop_zero] at shape
      exact ⟨fun _ => ⟨param, by simp [shape], decide_eq_true tagged⟩, fun _ => rfl⟩

variable (hal) in
def Contents.tagCount (bag : Contents) (tag : UInt32) : Nat :=
  bag.values.countP (fun v => (ofLex v).1 = tag.toNat) + bag.foreign.countP (fun param => param.tag = tag) +
    if tag = hal.invalid then bag.invalid else 0

theorem tag_count_contents (data : AuthorizationSet) (tag : UInt32) :
    data.countP (fun param => param.tag = tag) = (contents hal data).tagCount hal tag := by
  induction data with
  | nil => simp [Contents.tagCount, contents]
  | cons param rest ih =>
      have tags : (ofLex (value hal param)).1 = tag.toNat ↔ param.tag = tag := UInt32.toNat_inj
      rw [List.countP_cons, ih]
      unfold Contents.tagCount
      rcases @kinds hal param.tag with invalid | typed | foreign
      · rw [contents_invalid param rest invalid]
        by_cases same : param.tag = tag
        · have first : tag = hal.invalid := same.symm.trans invalid
          simp only [same, decide_true, if_true, first]
          omega
        · have first : tag ≠ hal.invalid := fun first => same (invalid.trans first.symm)
          simp only [same, decide_false, Bool.false_eq_true, if_false, first]
      · rw [contents_typed param rest typed, Multiset.countP_cons]
        simp only [tags, decide_eq_true_iff]
        omega
      · rw [contents_foreign param rest foreign, Multiset.countP_cons]
        simp only [decide_eq_true_iff]
        omega

end

-- The public operations on a program's sets; an operation of a set with itself that walks over what it changes is undefined.
inductive SetOp where
  | pushBack (target : Nat) (param : KeyParameter)
  | pushBackSet (target source : Nat)
  | moveSet (target source : Nat)
  | assign (target source : Nat)
  | assignHidl (target : Nat) (other : AuthorizationSet)
  | clear (target : Nat)
  | sort (target : Nat)
  | deduplicate (target : Nat)
  | union (target source : Nat)
  | subtract (target source : Nat)

section
variable (hal : Hal) (sort : AuthorizationSet → AuthorizationSet)

def setStep (sets : Nat → AuthorizationSet) : SetOp → Option (Nat → AuthorizationSet)
  | .pushBack target param => some (Function.update sets target (sets target ++ [param]))
  | .pushBackSet target source =>
      if target = source then none else some (Function.update sets target (sets target ++ sets source))
  | .moveSet target source =>
      if target = source then none
      else some (Function.update (Function.update sets target (sets target ++ sets source)) source [])
  | .assign target source => some (Function.update sets target (sets source))
  | .assignHidl target other => some (Function.update sets target (assignHidl (sets target) other))
  | .clear target => some (Function.update sets target [])
  | .sort target => some (Function.update sets target (sort (sets target)))
  | .deduplicate target => some (Function.update sets target (Deduplicate hal sort (sets target)))
  | .union target source =>
      if target = source then none else some (Function.update sets target (Union hal sort (sets target) (sets source)))
  | .subtract target source =>
      if target = source then none else some (Function.update sets target (Subtract hal sort (sets target) (sets source)))

-- What each operation means for bags; an empty hidl_vec is not assigned.
def bagStep (bags : Nat → Contents) : SetOp → Nat → Contents
  | .pushBack target param => Function.update bags target ((bags target).add (contents hal [param]))
  | .pushBackSet target source => Function.update bags target ((bags target).add (bags source))
  | .moveSet target source =>
      Function.update (Function.update bags target ((bags target).add (bags source))) source ⟨0, 0, 0⟩
  | .assign target source => Function.update bags target (bags source)
  | .assignHidl target other => if other = [] then bags else Function.update bags target (contents hal other)
  | .clear target => Function.update bags target ⟨0, 0, 0⟩
  | .sort _ => bags
  | .deduplicate target => Function.update bags target (bags target).deduplicated
  | .union target source => Function.update bags target ((bags target).add (bags source)).deduplicated
  | .subtract target source => Function.update bags target ((bags target).subtracted (bags source))

variable {hal sort}

theorem update_contents (sets : Nat → AuthorizationSet) (target : Nat) (data : AuthorizationSet) :
    (fun i => contents hal (Function.update sets target data i)) =
      Function.update (fun i => contents hal (sets i)) target (contents hal data) := by
  funext i
  exact Function.apply_update (fun _ => contents hal) sets target data i

theorem set_step_bags (documented : hal.Documented) (sorts : Sorts hal sort) (sets next : Nat → AuthorizationSet) (op : SetOp)
    (stepped : setStep hal sort sets op = some next) :
    (fun i => contents hal (next i)) = bagStep hal (fun i => contents hal (sets i)) op := by
  cases op with
  | pushBack target param =>
      cases stepped
      rw [update_contents, contents_append]
      rfl
  | pushBackSet target source =>
      by_cases same : target = source
      · rw [setStep, if_pos same] at stepped
        cases stepped
      · rw [setStep, if_neg same] at stepped
        cases stepped
        rw [update_contents, contents_append]
        rfl
  | moveSet target source =>
      by_cases same : target = source
      · rw [setStep, if_pos same] at stepped
        cases stepped
      · rw [setStep, if_neg same] at stepped
        cases stepped
        rw [update_contents, update_contents, contents_append]
        rfl
  | assign target source =>
      cases stepped
      rw [update_contents]
      rfl
  | assignHidl target other =>
      cases stepped
      rw [update_contents, assignHidl, bagStep]
      by_cases empty : other = []
      · rw [if_pos empty, empty, List.length_nil, if_neg (Nat.lt_irrefl 0)]
        exact Function.update_eq_self target _
      · rw [if_neg empty, if_pos (List.length_pos_iff.mpr empty)]
  | clear target =>
      cases stepped
      rw [update_contents]
      rfl
  | sort target =>
      cases stepped
      rw [update_contents, contents_perm (sorts (sets target)).1]
      exact Function.update_eq_self target _
  | deduplicate target =>
      cases stepped
      rw [update_contents, deduplicate_contents documented sorts]
      rfl
  | union target source =>
      by_cases same : target = source
      · rw [setStep, if_pos same] at stepped
        cases stepped
      · rw [setStep, if_neg same] at stepped
        cases stepped
        rw [update_contents, Union, deduplicate_contents documented sorts, contents_append]
        rfl
  | subtract target source =>
      by_cases same : target = source
      · rw [setStep, if_pos same] at stepped
        cases stepped
      · rw [setStep, if_neg same] at stepped
        cases stepped
        rw [update_contents, subtract_contents documented sorts]
        rfl

theorem run_bags (documented : hal.Documented) (sorts : Sorts hal sort) (sets final : Nat → AuthorizationSet) (ops : List SetOp)
    (ran : run (setStep hal sort) sets ops = some final) :
    (fun i => contents hal (final i)) = ops.foldl (bagStep hal) fun i => contents hal (sets i) := by
  induction ops generalizing sets with
  | nil =>
      cases ran
      rfl
  | cons op rest ih =>
      obtain ⟨next, stepped, later⟩ := Option.bind_eq_some_iff.mp ran
      rw [List.foldl_cons, ← set_step_bags documented sorts sets next op stepped]
      exact ih next later

theorem sets_hold_bags (documented : hal.Documented) (sorts : Sorts hal sort) (sets final : Nat → AuthorizationSet)
    (ops : List SetOp) (ran : run (setStep hal sort) sets ops = some final) (i : Nat) :
    let bag := ops.foldl (bagStep hal) (fun i => contents hal (sets i)) i
    contents hal (final i) = bag ∧ (final i).length = bag.size ∧
      ∀ tag, GetTagCount (final i) tag = bag.tagCount hal tag ∧ (Contains (final i) tag = true ↔ 0 < bag.tagCount hal tag) := by
  have same : contents hal (final i) = ops.foldl (bagStep hal) (fun i => contents hal (sets i)) i :=
    congrFun (run_bags documented sorts sets final ops ran) i
  refine ⟨same, ?_, fun tag => ⟨?_, ?_⟩⟩
  · rw [← same, contents_size]
  · rw [get_tag_count, @tag_count_contents hal, same]
  · rw [contains_count, @tag_count_contents hal, same]

-- The enumerators' documented values, and three of the tags.
def keymaster3 : Hal where
  tagType bits := [.invalid, .enum, .enumRep, .uint, .uintRep, .ulong, .date, .bool, .bignum, .bytes, .ulongRep][(bits >>> 28).toNat]?
  invalid := 0
  all_tags_t := [0, 0x30000003, 0x90000259]

theorem keymaster_documented : keymaster3.Documented where
  invalid_least tag := UInt32.le_iff_toNat_le.mpr (Nat.zero_le _)
  invalid_type := by decide

variable (hal) in
def mergeSorted (data : AuthorizationSet) : AuthorizationSet := data.mergeSort fun a b => !keyParamLess hal b a

theorem merge_sorts : Sorts hal (mergeSorted hal) := by
  intro data
  have order : ∀ a b, (!keyParamLess hal b a) = true ↔ value hal a ≤ value hal b := fun a b => by
    rw [Bool.not_eq_true', Bool.eq_false_iff, ne_eq, less_iff, not_lt]
  refine ⟨List.mergeSort_perm data _, (List.pairwise_mergeSort ?_ ?_ data).imp fun ordered => ?_⟩
  · exact fun a b c first second => (order a c).mpr (le_trans ((order a b).mp first) ((order b c).mp second))
  · exact fun a b => Bool.or_eq_true _ _ |>.mpr ((le_total (value hal a) (value hal b)).imp (order a b).mpr (order b a).mpr)
  · exact Bool.not_eq_true' _ |>.mp ordered

def keySize (size : UInt8) : KeyParameter := ⟨0x30000003, ⟨[size, 0, 0, 0, 0, 0, 0, 0], rfl⟩, []⟩

def sizesJoined : List SetOp := [.pushBack 0 (keySize 128), .pushBack 0 (keySize 192), .pushBack 1 (keySize 192), .union 0 1]

theorem union_counts_once :
    ∃ final, run (setStep keymaster3 (mergeSorted keymaster3)) (fun _ => []) sizesJoined = some final ∧
      GetTagCount (final 0) 0x30000003 = 2 := by
  obtain ⟨final, ran⟩ : ∃ final, run (setStep keymaster3 (mergeSorted keymaster3)) (fun _ => []) sizesJoined = some final :=
    ⟨_, rfl⟩
  have counted := ((sets_hold_bags keymaster_documented merge_sorts _ final sizesJoined ran 0).2.2 0x30000003).1
  exact ⟨final, ran, counted.trans (by decide)⟩

end

end Droidlogic.Keymaster
