import Mathlib.Data.List.TakeWhile

set_option autoImplicit false

namespace Droidlogic.Lib

-- A write of the bits of a register that its mask names.
structure Masked (Addr : Type) (w : Nat) where
  addr : Addr
  mask : BitVec w
  val : BitVec w
deriving DecidableEq

namespace Masked

section
variable {Addr : Type} {w : Nat}

def Covers (write : Masked Addr w) (addr : Addr) (bit : Nat) : Prop := write.addr = addr ∧ write.mask.getLsbD bit = true

def Covered (writes : List (Masked Addr w)) (addr : Addr) (bit : Nat) : Prop := ∃ write ∈ writes, write.Covers addr bit

-- Writes to one register in a row.
structure Run (Addr : Type) (w : Nat) where
  first : Masked Addr w
  rest : List (Masked Addr w)
  same : ∀ write ∈ rest, write.addr = first.addr

def Run.writes (run : Run Addr w) : List (Masked Addr w) := run.first :: run.rest

def absorb (before next : Masked Addr w) : Masked Addr w :=
  { next with mask := next.mask ||| before.mask, val := next.val ||| before.val }

-- One write for the run, with the masks and the values or-ed.
def Run.merged (run : Run Addr w) : Masked Addr w := run.rest.foldl absorb run.first

theorem run_addr (run : Run Addr w) (write : Masked Addr w) (member : write ∈ run.writes) :
    write.addr = run.first.addr := by
  rcases List.mem_cons.mp member with rfl | inside
  · rfl
  · exact run.same write inside

theorem absorb_addr (rest : List (Masked Addr w)) (first : Masked Addr w)
    (same : ∀ write ∈ rest, write.addr = first.addr) : (rest.foldl absorb first).addr = first.addr := by
  induction rest generalizing first with
  | nil => rfl
  | cons next rest ih =>
      have here : next.addr = first.addr := same next (.head _)
      rw [List.foldl_cons, ih (absorb first next) fun write member => (same write (.tail _ member)).trans here.symm]
      exact here

theorem absorb_bits (rest : List (Masked Addr w)) (first : Masked Addr w) (bit : Nat) :
    ((rest.foldl absorb first).mask.getLsbD bit = true ↔ ∃ write ∈ first :: rest, write.mask.getLsbD bit = true) ∧
      ((rest.foldl absorb first).val.getLsbD bit = true ↔ ∃ write ∈ first :: rest, write.val.getLsbD bit = true) := by
  induction rest generalizing first with
  | nil => simp
  | cons next rest ih =>
      obtain ⟨masks, vals⟩ := ih (absorb first next)
      rw [List.foldl_cons, masks, vals]
      constructor
      · simp only [List.mem_cons, exists_eq_or_imp, absorb, BitVec.getLsbD_or, Bool.or_eq_true, or_assoc, or_left_comm]
      · simp only [List.mem_cons, exists_eq_or_imp, absorb, BitVec.getLsbD_or, Bool.or_eq_true, or_assoc, or_left_comm]

theorem merged_addr (run : Run Addr w) : run.merged.addr = run.first.addr := absorb_addr run.rest run.first run.same

def unmerged (runs : List (Run Addr w)) : List (Masked Addr w) := runs.flatMap Run.writes

theorem merged_covers (run : Run Addr w) (addr : Addr) (bit : Nat) :
    run.merged.Covers addr bit ↔ Covered run.writes addr bit := by
  rw [Covers, merged_addr, Run.merged, (absorb_bits run.rest run.first bit).1]
  constructor
  · rintro ⟨here, write, member, masked⟩
    exact ⟨write, member, (run_addr run write member).trans here, masked⟩
  · rintro ⟨write, member, here, masked⟩
    exact ⟨(run_addr run write member).symm.trans here, write, member, masked⟩

theorem merged_covered (runs : List (Run Addr w)) (addr : Addr) (bit : Nat) :
    Covered (runs.map Run.merged) addr bit ↔ Covered (unmerged runs) addr bit := by
  constructor
  · rintro ⟨write, member, covers⟩
    obtain ⟨run, found, rfl⟩ := List.mem_map.mp member
    obtain ⟨inner, inside, held⟩ := (merged_covers run addr bit).mp covers
    exact ⟨inner, List.mem_flatMap.mpr ⟨run, found, inside⟩, held⟩
  · rintro ⟨write, member, covers⟩
    obtain ⟨run, found, inside⟩ := List.mem_flatMap.mp member
    exact ⟨run.merged, List.mem_map_of_mem found, (merged_covers run addr bit).mpr ⟨write, inside, covers⟩⟩

-- No value sets a bit of another write of its run, unless a later run writes the bit again.
def Unspilled : List (Run Addr w) → Prop
  | [] => True
  | run :: later =>
      (∀ write ∈ run.writes, ∀ other ∈ run.writes, ∀ bit, write.mask.getLsbD bit = true →
        other.val.getLsbD bit = true → write.val.getLsbD bit = true ∨ Covered (unmerged later) write.addr bit) ∧
        Unspilled later

end

section
variable {Addr : Type} [DecidableEq Addr] {w : Nat}

def load (write : Masked Addr w) (file : Addr → BitVec w) : Addr → BitVec w := fun addr =>
  if addr = write.addr then (file addr &&& ~~~write.mask) ||| (write.val &&& write.mask) else file addr

def loadAll (writes : List (Masked Addr w)) (file : Addr → BitVec w) : Addr → BitVec w :=
  writes.foldl (fun file write => write.load file) file

instance (write : Masked Addr w) (addr : Addr) (bit : Nat) : Decidable (write.Covers addr bit) :=
  inferInstanceAs (Decidable (_ ∧ _))

-- What the writes leave in a bit, none where they leave it as it is.
def left (addr : Addr) (bit : Nat) : List (Masked Addr w) → Option Bool
  | [] => none
  | write :: rest =>
      match left addr bit rest with
      | some value => some value
      | none => if write.Covers addr bit then some (write.val.getLsbD bit) else none

theorem load_bit (write : Masked Addr w) (file : Addr → BitVec w) (addr : Addr) (bit : Nat) :
    (write.load file addr).getLsbD bit =
      if write.Covers addr bit then write.val.getLsbD bit else (file addr).getLsbD bit := by
  rw [load]
  by_cases here : write.addr = addr
  · rw [if_pos here.symm]
    cases masked : write.mask.getLsbD bit with
    | true =>
        rw [if_pos ⟨here, masked⟩]
        simp [masked]
    | false =>
        rw [if_neg (fun covers => Bool.eq_false_iff.mp masked covers.2)]
        by_cases inside : bit < w
        · simp only [BitVec.getLsbD_or, BitVec.getLsbD_and, BitVec.getLsbD_not, masked, inside, decide_true,
            Bool.not_false, Bool.and_true, Bool.and_false, Bool.or_false]
        · rw [BitVec.getLsbD_of_ge _ _ (Nat.le_of_not_lt inside), BitVec.getLsbD_of_ge _ _ (Nat.le_of_not_lt inside)]
  · rw [if_neg (Ne.symm here), if_neg (fun covers => here covers.1)]

theorem load_all_bit (writes : List (Masked Addr w)) (file : Addr → BitVec w) (addr : Addr) (bit : Nat) :
    (loadAll writes file addr).getLsbD bit = (left addr bit writes).getD ((file addr).getLsbD bit) := by
  induction writes generalizing file with
  | nil => rfl
  | cons write rest ih =>
      have step : loadAll (write :: rest) file = loadAll rest (write.load file) := rfl
      rw [step, ih, load_bit, left]
      cases left addr bit rest with
      | some value => rfl
      | none =>
          by_cases covers : write.Covers addr bit
          · rw [if_pos covers, if_pos covers]
            rfl
          · rw [if_neg covers, if_neg covers]

theorem left_none (addr : Addr) (bit : Nat) (writes : List (Masked Addr w)) :
    left addr bit writes = none ↔ ¬Covered writes addr bit := by
  induction writes with
  | nil => simp [left, Covered]
  | cons write rest ih =>
      rw [left]
      have split : Covered (write :: rest) addr bit ↔ write.Covers addr bit ∨ Covered rest addr bit := by
        simp [Covered]
      rw [split, not_or, ← ih]
      cases left addr bit rest with
      | some value => simp
      | none =>
          by_cases covers : write.Covers addr bit
          · simp [covers]
          · simp [covers]

-- Two lists of writes do the same to every file when they leave the same in every bit.
theorem load_all_same (first second : List (Masked Addr w)) :
    (∀ file, loadAll first file = loadAll second file) ↔ ∀ addr bit, bit < w → left addr bit first = left addr bit second := by
  constructor
  · intro same addr bit inside
    have merged_bit (value : BitVec w) : (left addr bit first).getD (value.getLsbD bit) =
        (left addr bit second).getD (value.getLsbD bit) := by
      have bits := congrArg (fun file => (file addr).getLsbD bit) (same fun _ => value)
      simpa only [load_all_bit] using bits
    have zeros := merged_bit 0#w
    have ones := merged_bit (BitVec.allOnes w)
    rw [BitVec.getLsbD_zero] at zeros
    rw [BitVec.getLsbD_allOnes, decide_eq_true inside] at ones
    cases one : left addr bit first with
    | none =>
        cases two : left addr bit second with
        | none => rfl
        | some value =>
            rw [one, two] at zeros ones
            exact absurd (zeros.trans ones.symm) (by decide)
    | some value =>
        cases two : left addr bit second with
        | some other =>
            rw [one, two] at zeros
            exact congrArg some zeros
        | none =>
            rw [one, two] at zeros ones
            exact absurd (zeros.symm.trans ones) (by decide)
  · intro same file
    funext addr
    apply BitVec.eq_of_getLsbD_eq
    intro bit inside
    rw [load_all_bit, load_all_bit, same addr bit inside]

theorem left_append (addr : Addr) (bit : Nat) (first second : List (Masked Addr w)) :
    left addr bit (first ++ second) = (left addr bit second).or (left addr bit first) := by
  induction first with
  | nil =>
      rw [List.nil_append, left]
      cases left addr bit second <;> rfl
  | cons write rest ih =>
      rw [List.cons_append, left, ih, left]
      cases left addr bit second with
      | some value => rfl
      | none => rfl

-- With disjoint masks the one write that covers a bit decides it.
theorem left_only (addr : Addr) (bit : Nat) (writes : List (Masked Addr w))
    (disjoint : writes.Pairwise fun one two => one.mask &&& two.mask = 0) (write : Masked Addr w) (member : write ∈ writes)
    (covers : write.Covers addr bit) : left addr bit writes = some (write.val.getLsbD bit) := by
  induction writes with
  | nil => cases member
  | cons head rest ih =>
      obtain ⟨apart, later⟩ := List.pairwise_cons.mp disjoint
      rw [left]
      rcases List.mem_cons.mp member with rfl | inside
      · have alone : left addr bit rest = none := by
          rw [left_none]
          rintro ⟨other, found, _, masked⟩
          have both := congrArg (fun mask => mask.getLsbD bit) (apart other found)
          simp [covers.2, masked] at both
        rw [alone]
        exact if_pos covers
      · rw [ih later inside]

theorem taken_same (first : Masked Addr w) (rest : List (Masked Addr w)) :
    ∀ write ∈ rest.takeWhile fun write => write.addr = first.addr, write.addr = first.addr := by
  intro write member
  have taken := List.mem_takeWhile_imp member
  exact of_decide_eq_true taken

def runs : List (Masked Addr w) → List (Run Addr w)
  | [] => []
  | first :: rest =>
      ⟨first, rest.takeWhile fun write => write.addr = first.addr, taken_same first rest⟩ ::
        runs (rest.dropWhile fun write => write.addr = first.addr)
termination_by writes => writes.length
decreasing_by
  exact Nat.lt_succ_of_le (List.dropWhile_suffix _).length_le

theorem unmerged_runs (writes : List (Masked Addr w)) : unmerged (runs writes) = writes := by
  induction writes using runs.induct with
  | case1 => rw [runs, unmerged, List.flatMap_nil]
  | case2 first rest ih =>
      rw [unmerged] at ih
      rw [runs, unmerged, List.flatMap_cons, ih, Run.writes, List.cons_append, List.takeWhile_append_dropWhile]

theorem merged_left_iff (run : Run Addr w) (disjoint : run.writes.Pairwise fun one two => one.mask &&& two.mask = 0)
    (addr : Addr) (bit : Nat) :
    left addr bit [run.merged] = left addr bit run.writes ↔
      ∀ write ∈ run.writes, ∀ other ∈ run.writes, write.Covers addr bit →
        other.val.getLsbD bit = true → write.val.getLsbD bit = true := by
  have single : left addr bit [run.merged] =
      if run.merged.Covers addr bit then some (run.merged.val.getLsbD bit) else none := by
    simp only [left]
  have value := (absorb_bits run.rest run.first bit).2
  rw [single]
  by_cases covered : Covered run.writes addr bit
  · obtain ⟨write, member, covers⟩ := covered
    rw [if_pos ((merged_covers run addr bit).mpr ⟨write, member, covers⟩), left_only addr bit _ disjoint write member covers,
      Option.some.injEq, Bool.eq_iff_iff, Run.merged, value]
    constructor
    · intro same one found other inside held set_there
      have decided := left_only addr bit _ disjoint one found held
      rw [left_only addr bit _ disjoint write member covers, Option.some.injEq] at decided
      rw [← decided]
      exact same.mp ⟨other, inside, set_there⟩
    · intro all
      exact ⟨fun ⟨other, inside, set_there⟩ => all write member other inside covers set_there,
        fun set_here => ⟨write, member, set_here⟩⟩
  · rw [if_neg fun covers => covered ((merged_covers run addr bit).mp covers), (left_none addr bit _).mpr covered]
    exact iff_of_true rfl fun write member _ _ covers => absurd ⟨write, member, covers⟩ covered

theorem merged_same_iff (runs : List (Run Addr w))
    (disjoint : ∀ run ∈ runs, run.writes.Pairwise fun one two => one.mask &&& two.mask = 0) :
    (∀ addr bit, left addr bit (runs.map Run.merged) = left addr bit (unmerged runs)) ↔ Unspilled runs := by
  induction runs with
  | nil => exact iff_of_true (fun _ _ => rfl) trivial
  | cons run later ih =>
      have tail := ih fun other member => disjoint other (.tail _ member)
      have here := merged_left_iff run (disjoint run (.head _))
      have front (addr : Addr) (bit : Nat) : left addr bit ((run :: later).map Run.merged) =
          (left addr bit (later.map Run.merged)).or (left addr bit [run.merged]) := left_append addr bit [run.merged] _
      have back (addr : Addr) (bit : Nat) : left addr bit (unmerged (run :: later)) =
          (left addr bit (unmerged later)).or (left addr bit run.writes) := left_append addr bit run.writes _
      have bare (addr : Addr) (bit : Nat) (uncovered : ¬Covered (unmerged later) addr bit) :
          left addr bit (later.map Run.merged) = none ∧ left addr bit (unmerged later) = none :=
        ⟨(left_none addr bit _).mpr fun covered => uncovered ((merged_covered later addr bit).mp covered),
          (left_none addr bit _).mpr uncovered⟩
      rw [Unspilled, ← tail]
      constructor
      · intro same
        refine ⟨fun write member other inside bit masked set_there => ?_, fun addr bit => ?_⟩
        · by_cases covered : Covered (unmerged later) write.addr bit
          · exact .inr covered
          · obtain ⟨one, two⟩ := bare write.addr bit covered
            have whole := same write.addr bit
            rw [front, back, one, two, Option.none_or, Option.none_or] at whole
            exact .inl ((here write.addr bit).mp whole write member other inside ⟨rfl, masked⟩ set_there)
        · by_cases covered : Covered (unmerged later) addr bit
          · have whole := same addr bit
            obtain ⟨one, first⟩ := Option.ne_none_iff_exists'.mp fun none =>
              (left_none addr bit _).mp none ((merged_covered later addr bit).mpr covered)
            obtain ⟨two, second⟩ := Option.ne_none_iff_exists'.mp fun none => (left_none addr bit _).mp none covered
            rw [front, back, first, second, Option.some_or, Option.some_or] at whole
            rw [first, second, whole]
          · obtain ⟨one, two⟩ := bare addr bit covered
            rw [one, two]
      · rintro ⟨clean, same⟩ addr bit
        rw [front, back, same addr bit]
        by_cases covered : Covered (unmerged later) addr bit
        · obtain ⟨value, found⟩ := Option.ne_none_iff_exists'.mp fun none => (left_none addr bit _).mp none covered
          rw [found, Option.some_or, Option.some_or]
        · rw [(bare addr bit covered).2, Option.none_or, Option.none_or]
          refine (here addr bit).mpr fun write member other inside covers set_there => ?_
          refine (clean write member other inside bit covers.2 set_there).resolve_right fun again => covered ?_
          rw [← covers.1]
          exact again

-- Values within their masks cannot spill.
theorem masked_unspilled (runs : List (Run Addr w))
    (disjoint : ∀ run ∈ runs, run.writes.Pairwise fun one two => one.mask &&& two.mask = 0)
    (masked : ∀ run ∈ runs, ∀ write ∈ run.writes, ∀ bit, write.val.getLsbD bit = true → write.mask.getLsbD bit = true) :
    Unspilled runs := by
  refine (merged_same_iff runs disjoint).mp ?_
  induction runs with
  | nil => exact fun _ _ => rfl
  | cons run later ih =>
      have tail := ih (fun other member => disjoint other (.tail _ member)) fun other member => masked other (.tail _ member)
      intro addr bit
      have here : left addr bit [run.merged] = left addr bit run.writes := by
        refine (merged_left_iff run (disjoint run (.head _)) addr bit).mpr fun write member other inside covers set_there => ?_
        have reaches := masked run (.head _) other inside bit set_there
        have decided := left_only addr bit _ (disjoint run (.head _)) write member covers
        rw [left_only addr bit _ (disjoint run (.head _)) other inside
          ⟨(run_addr run other inside).trans ((run_addr run write member).symm.trans covers.1), reaches⟩] at decided
        exact (Option.some.inj decided).symm.trans set_there
      have front : left addr bit ((run :: later).map Run.merged) =
          (left addr bit (later.map Run.merged)).or (left addr bit [run.merged]) := left_append addr bit [run.merged] _
      have back : left addr bit (unmerged (run :: later)) =
          (left addr bit (unmerged later)).or (left addr bit run.writes) := left_append addr bit run.writes _
      rw [front, back, tail, here]

theorem left_high (addr : Addr) (bit : Nat) (writes : List (Masked Addr w)) (high : w ≤ bit) :
    left addr bit writes = none := by
  rw [left_none]
  rintro ⟨write, _, _, masked⟩
  rw [BitVec.getLsbD_of_ge _ _ high] at masked
  cases masked

theorem load_merged_iff (writes : List (Masked Addr w))
    (disjoint : ∀ run ∈ runs writes, run.writes.Pairwise fun one two => one.mask &&& two.mask = 0) :
    (∀ file, loadAll ((runs writes).map Run.merged) file = loadAll writes file) ↔ Unspilled (runs writes) := by
  rw [load_all_same, ← merged_same_iff (runs writes) disjoint, unmerged_runs]
  constructor
  · intro same addr bit
    by_cases inside : bit < w
    · exact same addr bit inside
    · rw [left_high addr bit _ (Nat.le_of_not_lt inside), left_high addr bit _ (Nat.le_of_not_lt inside)]
  · exact fun same addr bit _ => same addr bit

-- The runs follow from the addresses alone.
theorem runs_parts {Item : Type} (first second : Item → Masked Addr w)
    (same : ∀ item, (first item).addr = (second item).addr) (items : List Item) :
    ∃ parts : List (List Item), (runs (items.map first)).map Run.writes = parts.map (List.map first) ∧
      (runs (items.map second)).map Run.writes = parts.map (List.map second) := by
  induction count : items.length using Nat.strongRecOn generalizing items with
  | ind n ih =>
      cases items with
      | nil => exact ⟨[], by rw [List.map_nil, runs]; rfl, by rw [List.map_nil, runs]; rfl⟩
      | cons item rest =>
          have split (form : Item → Masked Addr w) : (runs ((item :: rest).map form)).map Run.writes =
              ((item :: rest.takeWhile fun next => (form next).addr = (form item).addr).map form) ::
                (runs ((rest.dropWhile fun next => (form next).addr = (form item).addr).map form)).map Run.writes := by
            have taken : (rest.map form).takeWhile (fun write => decide (write.addr = (form item).addr)) =
                (rest.takeWhile fun next => (form next).addr = (form item).addr).map form := List.takeWhile_map
            have dropped : (rest.map form).dropWhile (fun write => decide (write.addr = (form item).addr)) =
                (rest.dropWhile fun next => (form next).addr = (form item).addr).map form := List.dropWhile_map
            rw [List.map_cons, runs, List.map_cons, dropped]
            simp only [Run.writes, taken, List.map_cons]
          have shorter : (rest.dropWhile fun next => (first next).addr = (first item).addr).length < n := by
            rw [← count, List.length_cons]
            exact Nat.lt_succ_of_le (List.dropWhile_suffix _).length_le
          obtain ⟨parts, one, two⟩ := ih _ shorter _ rfl
          refine ⟨(item :: rest.takeWhile fun next => (first next).addr = (first item).addr) :: parts, ?_, ?_⟩
          · rw [split first, one]
            rfl
          · have alike : (fun next => decide ((second next).addr = (second item).addr)) =
                fun next => decide ((first next).addr = (first item).addr) := by
              funext next
              rw [same, same]
            rw [split second, alike, two]
            rfl

-- Whether the masks of a run are disjoint does not depend on the values.
theorem disjoint_parts {Item : Type} (first second : Item → Masked Addr w)
    (same : ∀ item, (first item).addr = (second item).addr) (masks : ∀ item, (first item).mask = (second item).mask)
    (items : List Item)
    (disjoint : ∀ run ∈ runs (items.map first), run.writes.Pairwise fun one two => one.mask &&& two.mask = 0) :
    ∀ run ∈ runs (items.map second), run.writes.Pairwise fun one two => one.mask &&& two.mask = 0 := by
  obtain ⟨parts, one, two⟩ := runs_parts first second same items
  intro run member
  obtain ⟨part, inside, writes⟩ : ∃ part ∈ parts, part.map second = run.writes := by
    rw [← List.mem_map, ← two]
    exact List.mem_map_of_mem member
  obtain ⟨other, found, others⟩ : ∃ other ∈ runs (items.map first), other.writes = part.map first := by
    rw [← List.mem_map, one]
    exact List.mem_map_of_mem inside
  have apart := disjoint other found
  rw [others, List.pairwise_map] at apart
  rw [← writes, List.pairwise_map]
  exact apart.imp fun {a b} clear => by rw [← masks a, ← masks b, clear]

end

end Masked

end Droidlogic.Lib
