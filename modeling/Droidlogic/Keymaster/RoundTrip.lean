import Droidlogic.Keymaster.Serialized
import Droidlogic.Keymaster.SetRun

set_option autoImplicit false

namespace Droidlogic.Keymaster

open Droidlogic.Lib

section
variable (hal : Hal)

def Written (param : KeyParameter) : Prop := param.tag ∈ hal.all_tags_t ∧ param.tag ≠ hal.invalid

instance (param : KeyParameter) : Decidable (Written hal param) := inferInstanceAs (Decidable (_ ∧ _))

def written (params : AuthorizationSet) : AuthorizationSet := params.filter fun param => Written hal param

def blobOf (param : KeyParameter) : Bytes := if inBlob (typeFromTag hal param.tag) then param.blob else []

def elementOf (offset : Nat) (param : KeyParameter) : Bytes :=
  le32 param.tag ++
    if inBlob (typeFromTag hal param.tag) then le32 param.blob.length.toUInt32 ++ le32 offset.toUInt32
    else param.f.memory.take (valueSize (typeFromTag hal param.tag))

def blobsOf (params : AuthorizationSet) : Bytes := (params.map (blobOf hal)).flatten

def elementsFrom : Nat → AuthorizationSet → Bytes
  | _, [] => []
  | offset, param :: rest => elementOf hal offset param ++ elementsFrom (offset + (blobOf hal param).length) rest

variable {hal}

theorem serialize_param_bad (out : OutStreams) (param : KeyParameter) (bad : out.bad = true) :
    (serializeParam hal out param).bad = true := by
  have kept : ∀ bytes, out.write bytes = out := fun bytes => by rw [OutStreams.write, if_pos bad]
  unfold serializeParam
  split
  · split
    · exact bad
    · rw [kept]
      dsimp only
      split
      · unfold serializeBlob
        split
        · rfl
        · rw [kept]
          dsimp only
          split
          · rfl
          · rw [kept]
            exact bad
      · rw [kept]
        exact bad
  · exact bad

theorem serialize_bad (params : AuthorizationSet) (out : OutStreams) (bad : out.bad = true) :
    (params.foldl (serializeParam hal) out).bad = true := by
  induction params generalizing out with
  | nil => exact bad
  | cons param rest ih => exact ih _ (serialize_param_bad out param bad)

theorem serialize_param_skips (out : OutStreams) (param : KeyParameter) (skipped : ¬ Written hal param) :
    serializeParam hal out param = out := by
  unfold serializeParam
  by_cases listed : param.tag ∈ hal.all_tags_t
  · rw [if_pos listed, if_pos (not_not.mp fun valid => skipped ⟨listed, valid⟩)]
  · rw [if_neg listed]

-- The next two lemmas are for streams as the loop of serialize has them: good, and with an offset of 32 bits.
theorem serialize_param_writes (indirect elements : Bytes) (param : KeyParameter) (kept : Written hal param)
    (fits : indirect.length + (blobOf hal param).length ≤ 4294967295) :
    serializeParam hal ⟨indirect, elements, false⟩ param =
      ⟨indirect ++ blobOf hal param, elements ++ elementOf hal indirect.length param, false⟩ := by
  unfold serializeParam elementOf
  rw [if_pos kept.1, if_neg kept.2]
  unfold blobOf at fits ⊢
  by_cases apart : inBlob (typeFromTag hal param.tag) = true
  · rw [if_pos apart] at fits
    simp only [OutStreams.write, serializeBlob, apart, if_true, Bool.false_eq_true, if_false]
    rw [if_neg (by omega), if_neg (by omega)]
    simp only [List.append_assoc]
  · simp only [OutStreams.write, apart, if_false, Bool.false_eq_true, List.append_nil, List.append_assoc]

theorem serialize_param_overflows (indirect elements : Bytes) (param : KeyParameter) (kept : Written hal param)
    (sofar : indirect.length ≤ 4294967295) (large : 4294967295 < indirect.length + (blobOf hal param).length) :
    (serializeParam hal ⟨indirect, elements, false⟩ param).bad = true := by
  unfold serializeParam
  rw [if_pos kept.1, if_neg kept.2]
  unfold blobOf at large
  by_cases apart : inBlob (typeFromTag hal param.tag) = true
  · rw [if_pos apart] at large
    simp only [OutStreams.write, serializeBlob, apart, if_true, Bool.false_eq_true, if_false]
    split
    · rfl
    · rw [if_pos (by omega)]
  · rw [if_neg apart, List.length_nil] at large
    omega

theorem blobs_cons (param : KeyParameter) (rest : AuthorizationSet) : blobsOf hal (param :: rest) = blobOf hal param ++ blobsOf hal rest := rfl

theorem serialize_all (params : AuthorizationSet) (indirect elements : Bytes) (sofar : indirect.length ≤ 4294967295) :
    if indirect.length + (blobsOf hal (written hal params)).length ≤ 4294967295 then
      params.foldl (serializeParam hal) ⟨indirect, elements, false⟩ =
        ⟨indirect ++ blobsOf hal (written hal params), elements ++ elementsFrom hal indirect.length (written hal params), false⟩
    else (params.foldl (serializeParam hal) ⟨indirect, elements, false⟩).bad = true := by
  induction params generalizing indirect elements with
  | nil =>
      rw [if_pos (by simpa [written, blobsOf] using sofar)]
      simp [written, blobsOf, elementsFrom]
  | cons param rest ih =>
      rw [List.foldl_cons]
      by_cases kept : Written hal param
      · have split : written hal (param :: rest) = param :: written hal rest := List.filter_cons_of_pos (by simpa using kept)
        rw [split, blobs_cons, elementsFrom]
        by_cases fits : indirect.length + (blobOf hal param).length ≤ 4294967295
        · rw [serialize_param_writes indirect elements param kept fits]
          have later := ih (indirect ++ blobOf hal param) (elements ++ elementOf hal indirect.length param)
            (by rw [List.length_append]; exact fits)
          simpa only [List.length_append, List.append_assoc, Nat.add_assoc] using later
        · rw [if_neg (by rw [List.length_append]; omega)]
          exact serialize_bad rest _ (serialize_param_overflows indirect elements param kept sofar (by omega))
      · have split : written hal (param :: rest) = written hal rest := List.filter_cons_of_neg (by simpa using kept)
        rw [serialize_param_skips _ param kept, split]
        exact ih indirect elements sofar

theorem value_size_le (type : Option TagType) : valueSize type ≤ 8 := by
  cases type with
  | none => decide
  | some type => cases type <;> decide

theorem value_memory_length (param : KeyParameter) :
    (param.f.memory.take (valueSize (typeFromTag hal param.tag))).length = valueSize (typeFromTag hal param.tag) := by
  rw [List.length_take, param.f.sized]
  exact Nat.min_eq_left (value_size_le _)

variable (hal) in
-- The entry that comes back: what keyParamLess looks at, and zero elsewhere.
def stored (param : KeyParameter) : KeyParameter :=
  if inBlob (typeFromTag hal param.tag) then { freshParam with tag := param.tag, blob := param.blob }
  else
    { freshParam with
      tag := param.tag, f := freshParam.f.assign (param.f.memory.take (valueSize (typeFromTag hal param.tag))) }

theorem word_read (got old : Bytes) (word : UInt32) (read : got = le32 word) (sized : old.length = 4) : word32 (into got old) = word := by
  rw [read, into_full (le32 word) old sized.symm, word32_le32]

theorem word_small (size : Nat) (small : size ≤ 4294967295) : size.toUInt32.toNat = size := by
  rw [Nat.toUInt32, UInt32.toNat_ofNat']
  exact Nat.mod_eq_of_lt (by omega)

theorem blob_reads (streams : InStreams) (before left blob blobsBefore blobsAfter : Bytes) (indirectBefore indirectLeft : Bytes)
    (elements : streams.elements.At before (le32 blob.length.toUInt32 ++ le32 blobsBefore.length.toUInt32 ++ left))
    (indirect : streams.indirect.At indirectBefore indirectLeft)
    (whole : indirectBefore ++ indirectLeft = blobsBefore ++ (blob ++ blobsAfter))
    (fits : blobsBefore.length + blob.length ≤ 4294967295) :
    ∃ later, deserializeBlob streams [] = (blob, later) ∧
      later.elements.At (before ++ (le32 blob.length.toUInt32 ++ le32 blobsBefore.length.toUInt32)) left ∧
      later.indirect.At (blobsBefore ++ blob) blobsAfter := by
  rw [List.append_assoc] at elements
  have length := elements.read 4 (le32_length _)
  have offset := length.2.read 4 (le32_length _)
  have sought := indirect.seekg blobsBefore (blob ++ blobsAfter) whole
  have bytes := sought.read blob.length rfl
  have resized : (resize [] blob.length).length = blob.length := by
    rw [resize, List.take_nil, zero_filled_length _ _ (Nat.zero_le _)]
  unfold deserializeBlob
  simp only [word_read _ (le32 0) _ length.1 rfl, word_read _ (le32 0) _ offset.1 rfl, word_small blob.length (by omega),
    word_small blobsBefore.length (by omega), resized]
  refine ⟨_, Prod.ext ?_ rfl, ?_, bytes.2⟩
  · rw [bytes.1]
    exact into_full _ _ resized.symm
  · simpa only [List.append_assoc] using offset.2

theorem param_reads (streams : InStreams) (param : KeyParameter) (before left blobsBefore blobsAfter : Bytes)
    (indirectBefore indirectLeft : Bytes) (kept : Written hal param)
    (elements : streams.elements.At before (elementOf hal blobsBefore.length param ++ left))
    (indirect : streams.indirect.At indirectBefore indirectLeft)
    (whole : indirectBefore ++ indirectLeft = blobsBefore ++ (blobOf hal param ++ blobsAfter))
    (fits : blobsBefore.length + (blobOf hal param).length ≤ 4294967295) :
    ∃ later, deserializeParam hal streams freshParam = (stored hal param, later) ∧
      later.elements.At (before ++ elementOf hal blobsBefore.length param) left ∧
      ∃ indirectBefore indirectLeft, later.indirect.At indirectBefore indirectLeft ∧
        indirectBefore ++ indirectLeft = blobsBefore ++ (blobOf hal param ++ blobsAfter) := by
  unfold elementOf at elements ⊢
  unfold blobOf at whole fits ⊢
  rw [List.append_assoc] at elements
  have tag := elements.read 4 (le32_length _)
  have tagged := word_read _ (le32 freshParam.tag) _ tag.1 rfl
  unfold deserializeParam
  simp only [tagged, if_pos kept.1, if_neg kept.2]
  by_cases apart : inBlob (typeFromTag hal param.tag) = true
  · rw [if_pos apart] at tag whole fits
    simp only [apart, if_true]
    obtain ⟨later, read, elementsLater, indirectLater⟩ :=
      blob_reads ⟨streams.indirect, (streams.elements.read 4).2⟩ (before ++ le32 param.tag) left param.blob blobsBefore
        blobsAfter indirectBefore indirectLeft tag.2 indirect whole fits
    have blob : (deserializeBlob ⟨streams.indirect, (streams.elements.read 4).2⟩ freshParam.blob) = (param.blob, later) := read
    rw [blob]
    refine ⟨later, ?_, ?_, _, _, indirectLater, List.append_assoc _ _ _⟩
    · rw [stored, if_pos apart]
    · simpa only [List.append_assoc] using elementsLater
  · rw [if_neg apart] at tag whole
    simp only [apart, Bool.false_eq_true, if_false]
    have number := tag.2.read (valueSize (typeFromTag hal param.tag)) (value_memory_length param)
    refine ⟨_, Prod.ext ?_ rfl, ?_, _, _, indirect, ?_⟩
    · rw [number.1, stored, if_neg apart]
    · simpa only [List.append_assoc] using number.2
    · exact whole

variable (hal) in
-- What Deserialize makes of a count of entries when only some of them were written.
def restored (count : Nat) (params : AuthorizationSet) : AuthorizationSet :=
  (params.map (stored hal)).take count ++ List.replicate (count - params.length) freshParam

theorem dry_reads (streams : InStreams) (documented : hal.Documented) (dry : streams.elements.Dry) :
    ∃ later, deserializeParam hal streams freshParam = (freshParam, later) ∧ later.elements.Dry := by
  have tag := dry.read 4 (by decide)
  have unread : word32 (into (streams.elements.read 4).1 (le32 freshParam.tag)) = freshParam.tag := by
    rw [tag.1]
    exact word32_le32 _
  have invalid : freshParam.tag = hal.invalid := UInt32.le_antisymm (UInt32.zero_le) (documented.invalid_least 0)
  unfold deserializeParam
  by_cases listed : freshParam.tag ∈ hal.all_tags_t
  · simp only [unread, if_pos listed, if_pos invalid]
    exact ⟨_, rfl, tag.2⟩
  · simp only [unread, if_neg listed]
    exact ⟨_, rfl, Or.inl (by simp [InStream.good])⟩

theorem dry_all (documented : hal.Documented) (count : Nat) (streams : InStreams) (dry : streams.elements.Dry) :
    deserializeAll hal streams (List.replicate count freshParam) = List.replicate count freshParam := by
  induction count generalizing streams with
  | zero => rfl
  | succ count ih =>
      obtain ⟨later, read, dry⟩ := dry_reads streams documented dry
      rw [List.replicate_succ, deserializeAll, read]
      dsimp only
      rw [ih later dry]

theorem deserialize_all (documented : hal.Documented) (params : AuthorizationSet) (kept : ∀ param ∈ params, Written hal param)
    (count : Nat) (streams : InStreams) (before blobsBefore indirectBefore indirectLeft : Bytes)
    (elements : streams.elements.At before (elementsFrom hal blobsBefore.length params))
    (indirect : streams.indirect.At indirectBefore indirectLeft)
    (whole : indirectBefore ++ indirectLeft = blobsBefore ++ blobsOf hal params)
    (fits : blobsBefore.length + (blobsOf hal params).length ≤ 4294967295) :
    deserializeAll hal streams (List.replicate count freshParam) = restored hal count params := by
  induction params generalizing count streams before blobsBefore indirectBefore indirectLeft with
  | nil =>
      rw [restored, List.map_nil, List.take_nil]
      exact dry_all documented count streams elements.dry
  | cons param rest ih =>
      cases count with
      | zero => simp [restored, deserializeAll]
      | succ count =>
          rw [blobs_cons] at whole fits
          rw [List.length_append] at fits
          obtain ⟨later, read, elementsLater, indirectBefore, indirectLeft, indirectLater, wholeLater⟩ :=
            param_reads streams param before (elementsFrom hal (blobsBefore.length + (blobOf hal param).length) rest) blobsBefore
              (blobsOf hal rest) indirectBefore indirectLeft (kept param List.mem_cons_self) elements indirect whole (by omega)
          rw [← List.length_append] at elementsLater
          rw [← List.append_assoc] at wholeLater
          rw [List.replicate_succ, deserializeAll, read]
          dsimp only
          rw [ih (fun param member => kept param (List.mem_cons_of_mem _ member)) count later _ _ _ _ elementsLater indirectLater
            wholeLater (by rw [List.length_append]; omega)]
          rw [restored, restored, List.map_cons, List.take_succ_cons, List.length_cons, Nat.add_sub_add_right]
          rfl

theorem stored_type (param : KeyParameter) : (stored hal param).tag = param.tag := by
  unfold stored
  split <;> rfl

theorem stored_blob (param : KeyParameter) (apart : inBlob (typeFromTag hal param.tag) = true) :
    (stored hal param).blob = param.blob := by
  rw [stored, if_pos apart]

theorem stored_number (param : KeyParameter) (here : inBlob (typeFromTag hal param.tag) = false) :
    (stored hal param).f.member (valueSize (typeFromTag hal param.tag)) = param.f.member (valueSize (typeFromTag hal param.tag)) := by
  have sized := @value_memory_length hal param
  have inside := value_size_le (typeFromTag hal param.tag)
  rw [stored, if_neg (Bool.eq_false_iff.mp here)]
  unfold IntegerParams.member IntegerParams.assign into
  dsimp only
  rw [List.take_take, Nat.min_eq_left inside, List.take_append_of_le_length (Nat.le_of_eq sized.symm),
    List.take_of_length_le (Nat.le_of_eq sized)]

theorem stored_value (param : KeyParameter) : value hal (stored hal param) = value hal param := by
  have blob := @stored_blob hal param
  have number := @stored_number hal param
  unfold value payload
  rw [stored_type]
  cases known : typeFromTag hal param.tag with
  | none => rfl
  | some type =>
      rw [known] at blob number
      have numbers : inBlob (some type) = false → toLex (param.tag.toNat, toLex ((stored hal param).f.member (valueSize (some type)), ([] : List Nat))) =
          toLex (param.tag.toNat, toLex (param.f.member (valueSize (some type)), [])) := fun here => by rw [number here]
      cases type with
      | invalid | bool => rfl
      | enum | enumRep | uint | uintRep | ulong | ulongRep | date => exact numbers rfl
      | bignum | bytes => exact congrArg (fun bytes : Bytes => toLex (param.tag.toNat, toLex (0, bytes.map UInt8.toNat))) (blob rfl)

variable (hal) in
def TooLarge (params : AuthorizationSet) : Prop :=
  4294967295 < (blobsOf hal (written hal params)).length ∨ 4294967295 < (elementsFrom hal 0 (written hal params)).length

variable (hal) in
def serialized (params : AuthorizationSet) : Bytes :=
  le32 (blobsOf hal (written hal params)).length.toUInt32 ++ blobsOf hal (written hal params) ++ le32 params.length.toUInt32 ++
    le32 (elementsFrom hal 0 (written hal params)).length.toUInt32 ++ elementsFrom hal 0 (written hal params)

theorem serialize_large (params : AuthorizationSet) (large : TooLarge hal params) : serialize hal params = none := by
  have all := @serialize_all hal params [] [] (Nat.zero_le _)
  rw [List.length_nil, Nat.zero_add] at all
  unfold serialize
  by_cases fits : (blobsOf hal (written hal params)).length ≤ 4294967295
  · rw [if_pos fits, List.nil_append, List.nil_append] at all
    simp only [all, Bool.false_eq_true, if_false]
    rw [if_neg (by omega), if_pos (large.resolve_left (by omega))]
  · rw [if_neg fits] at all
    simp only [all, if_true]

theorem serialize_fits (params : AuthorizationSet) (fits : ¬ TooLarge hal params) :
    serialize hal params = some (serialized hal params) := by
  obtain ⟨blobs, elements⟩ := not_or.mp fits
  have all := @serialize_all hal params [] [] (Nat.zero_le _)
  rw [List.length_nil, Nat.zero_add, if_pos (Nat.le_of_not_lt blobs), List.nil_append, List.nil_append] at all
  unfold serialize
  simp only [all, Bool.false_eq_true, if_false]
  rw [if_neg blobs, if_neg elements]
  rfl

theorem written_kept (params : AuthorizationSet) : ∀ param ∈ written hal params, Written hal param :=
  fun _ member => of_decide_eq_true (List.mem_filter.mp member).2

theorem zeros_filled (bytes : Bytes) : into bytes (List.replicate bytes.length 0) = bytes :=
  into_full _ _ (List.length_replicate).symm

theorem deserialize_serialized (documented : hal.Documented) (params : AuthorizationSet) (fits : ¬ TooLarge hal params)
    (stream : InStream) (before left : Bytes) (here : stream.At before (serialized hal params ++ left)) :
    (deserialize hal stream []).1 = restored hal (params.length % 4294967296) (written hal params) ∧
      (deserialize hal stream []).2.At (before ++ serialized hal params) left := by
  obtain ⟨blobsFit, elementsFit⟩ := not_or.mp fits
  unfold serialized at here
  simp only [List.append_assoc] at here
  have first := here.read 4 (le32_length _)
  have second := first.2.read (blobsOf hal (written hal params)).length rfl
  have third := second.2.read 4 (le32_length _)
  have fourth := third.2.read 4 (le32_length _)
  have fifth := fourth.2.read (elementsFrom hal 0 (written hal params)).length rfl
  have count : params.length.toUInt32.toNat = params.length % 4294967296 := UInt32.toNat_ofNat'
  have blobs := word_small (blobsOf hal (written hal params)).length (Nat.le_of_not_lt blobsFit)
  have elements := word_small (elementsFrom hal 0 (written hal params)).length (Nat.le_of_not_lt elementsFit)
  unfold deserialize
  simp only [word_read _ (le32 0) _ first.1 rfl, blobs, word_read _ (le32 0) _ third.1 rfl, count, word_read _ (le32 0) _ fourth.1 rfl,
    elements, second.1, fifth.1, zeros_filled, fifth.2.bad, Bool.false_eq_true, if_false, List.take_nil, List.nil_append,
    List.length_nil, Nat.sub_zero]
  refine ⟨?_, ?_⟩
  · exact deserialize_all documented (written hal params) (written_kept params) _ _ []
      [] [] _ (InStream.opened_at _) (InStream.opened_at _) rfl (by rw [List.length_nil, Nat.zero_add]; exact Nat.le_of_not_lt blobsFit)
  · simpa only [serialized, List.append_assoc] using fifth.2

theorem fresh_values (documented : hal.Documented) (count : Nat) : (contents hal (List.replicate count freshParam)).values = 0 := by
  have invalid : freshParam.tag = hal.invalid := UInt32.le_antisymm UInt32.zero_le (documented.invalid_least 0)
  induction count with
  | zero => rfl
  | succ count ih =>
      rw [List.replicate_succ, contents_invalid _ _ invalid]
      exact ih

theorem contents_values (data : AuthorizationSet) :
    (contents hal data).values = ((data.filter fun param => Typed hal param.tag).map (value hal) : List Value) := rfl

theorem stored_values (params : AuthorizationSet) : (contents hal (params.map (stored hal))).values = (contents hal params).values := by
  have kinds : ∀ param ∈ params, ((fun param : KeyParameter => decide (Typed hal param.tag)) ∘ stored hal) param =
      decide (Typed hal param.tag) := fun param _ => congrArg (fun tag => decide (Typed hal tag)) (stored_type param)
  have values : value hal ∘ stored hal = value hal := funext stored_value
  rw [contents_values, contents_values, List.filter_map, List.map_map, values, List.filter_congr kinds]

theorem tag_listed (param : KeyParameter) :
    (ofLex (value hal param)).1 ∈ hal.all_tags_t.map UInt32.toNat ↔ param.tag ∈ hal.all_tags_t :=
  List.mem_map_of_injective fun _ _ => UInt32.toNat_inj.mp

theorem written_values (params : AuthorizationSet) : (contents hal (written hal params)).values =
    (contents hal params).values.filter fun v => (ofLex v).1 ∈ hal.all_tags_t.map UInt32.toNat := by
  have same : ∀ param ∈ params, (decide (Typed hal param.tag) && decide (Written hal param)) =
      (((fun v => decide ((ofLex v).1 ∈ hal.all_tags_t.map UInt32.toNat)) ∘ value hal) param && decide (Typed hal param.tag)) := by
    intro param _
    rw [Function.comp_apply, Bool.eq_iff_iff, Bool.and_eq_true, Bool.and_eq_true, decide_eq_true_iff, decide_eq_true_iff,
      decide_eq_true_iff, tag_listed]
    exact ⟨fun both => ⟨both.2.1, both.1⟩, fun both => ⟨both.2, both.1, both.2.1⟩⟩
  rw [contents_values, contents_values, Multiset.filter_coe, List.filter_map, written, List.filter_filter, List.filter_filter,
    List.filter_congr same]

theorem restored_values (documented : hal.Documented) (params : AuthorizationSet) :
    (contents hal (restored hal params.length (written hal params))).values =
      (contents hal params).values.filter fun v => (ofLex v).1 ∈ hal.all_tags_t.map UInt32.toNat := by
  have inside : ((written hal params).map (stored hal)).length ≤ params.length := by
    rw [List.length_map]
    exact List.length_filter_le _ params
  have joined : ∀ first second : Contents, (first.add second).values = first.values + second.values := fun _ _ => rfl
  rw [restored, List.take_of_length_le inside, contents_append, joined, fresh_values documented, Multiset.add_zero, stored_values,
    written_values]

-- Deserialize reads into an empty set.
theorem serialized_restored (documented : hal.Documented) (params : AuthorizationSet) :
    (serialize hal params = none ↔ TooLarge hal params) ∧
      ∀ bytes, serialize hal params = some bytes → ∀ (stream : InStream) (before left : Bytes), stream.At before (bytes ++ left) →
        (deserialize hal stream []).1 = restored hal (params.length % 4294967296) (written hal params) ∧
          (deserialize hal stream []).2.At (before ++ bytes) left ∧
          (params.length < 4294967296 → (contents hal (deserialize hal stream []).1).values =
            (contents hal params).values.filter fun v => (ofLex v).1 ∈ hal.all_tags_t.map UInt32.toNat) := by
  by_cases large : TooLarge hal params
  · have none := serialize_large params large
    refine ⟨⟨fun _ => large, fun _ => none⟩, fun bytes wrote => ?_⟩
    rw [none] at wrote
    cases wrote
  · have wrote := serialize_fits params large
    refine ⟨⟨fun none => absurd (wrote.symm.trans none) (Option.some_ne_none _), fun other => absurd other large⟩,
      fun bytes same stream before left here => ?_⟩
    cases Option.some.inj (wrote.symm.trans same)
    obtain ⟨params', later⟩ := deserialize_serialized documented params large stream before left here
    refine ⟨params', later, fun counted => ?_⟩
    rw [params', Nat.mod_eq_of_lt counted]
    exact restored_values documented params

def applicationId (name : Bytes) : KeyParameter := ⟨0x90000259, freshParam.f, name⟩

-- A number, a blob and an invalid entry, with the round trip through a stream that holds nothing else.
theorem application_key_restored : ∃ bytes, serialize keymaster3 [keySize 128, freshParam, applicationId [7, 8]] = some bytes ∧
    (deserialize keymaster3 (.opened bytes) []).1 = [keySize 128, applicationId [7, 8], freshParam] := by
  refine ⟨_, rfl, ?_⟩
  refine ((serialized_restored keymaster_documented [keySize 128, freshParam, applicationId [7, 8]]).2 _ rfl _ [] []
    (InStream.opened_at _ )).1.trans ?_
  decide

end

end Droidlogic.Keymaster
