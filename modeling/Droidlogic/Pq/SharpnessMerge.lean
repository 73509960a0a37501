import Droidlogic.Pq.Database

set_option autoImplicit false

namespace Droidlogic.Pq.SharpnessMerge

open Lib

def writes (regs : List AmReg) : List (Masked Word 32) := regs.map AmReg.write

-- The array behind the list is zeroed, and the last entry is compared with that.
def mergeFrom (reg : AmReg) : List AmReg → List AmReg
  | [] => if reg.addr = 0 then [] else [reg]
  | next :: rest =>
      if reg.addr = next.addr then mergeFrom { next with mask := next.mask ||| reg.mask, val := next.val ||| reg.val } rest
      else reg :: mergeFrom next rest

def mergeLoop : List AmReg → List AmReg
  | [] => []
  | first :: rest => mergeFrom first rest

-- none is a read behind am_reg.
def mergeSameAddrVal (regs : List AmReg) : Option (List AmReg) :=
  if regsMaxNumber ≤ regs.length then none else some (mergeLoop regs)

section
variable {Step : Type}

structure SharpnessReg (Step : Type) where
  value : AmReg
  indexValue : Int
  step : Step

-- A node of a table: its rows, and the level it begins at.
structure SharpnessRegs (Step : Type) where
  first : SharpnessReg Step
  rest : List (SharpnessReg Step)
  fits : rest.length < 50

def SharpnessRegs.regData (node : SharpnessRegs Step) : List (SharpnessReg Step) := node.first :: node.rest

structure SharpnessTable (Step : Type) where
  nodes : List (SharpnessRegs Step)
  loaded : nodes ≠ []
  fits : nodes.length ≤ 10

def SharpnessTable.regData (table : SharpnessTable Step) (i : Nat) : List (SharpnessReg Step) :=
  (table.nodes[i]?.map SharpnessRegs.regData).getD []

-- The first node that begins above the level.
def nodeAbove (table : SharpnessTable Step) (level : Int) : Nat :=
  table.nodes.findIdx fun node => level < node.first.indexValue

def Between (table : SharpnessTable Step) (level : Int) : Prop :=
  nodeAbove table level ≠ 0 ∧ nodeAbove table level ≠ table.nodes.length

instance (table : SharpnessTable Step) (level : Int) : Decidable (Between table level) :=
  inferInstanceAs (Decidable (_ ∧ _))

-- The rows the level falls on.
def levelRows (table : SharpnessTable Step) (level : Int) : List (SharpnessReg Step) :=
  if nodeAbove table level = 0 then table.regData 0 else table.regData (nodeAbove table level - 1)

-- val + distance * step in double, as an unsigned int.
variable (valueAt : Word → Int → Step → Word)

def interpolated (level : Int) (reg : SharpnessReg Step) : AmReg :=
  { reg.value with val := valueAt reg.value.val (level - reg.indexValue) reg.step &&& reg.value.mask }

def levelRegs (table : SharpnessTable Step) (level : Int) : List AmReg :=
  let i := nodeAbove table level
  if i = 0 then (table.regData 0).map SharpnessReg.value
  else if i = table.nodes.length then (table.regData (i - 1)).map SharpnessReg.value
  else (table.regData (i - 1)).map (interpolated valueAt level)

def caculateLevelRegsParam (table : SharpnessTable Step) (level : Int) : Option (List AmReg) :=
  mergeSameAddrVal (levelRegs valueAt table level)

-- The merged list does what the rows do one after the other, and has an entry for each
-- run of rows of one address.
structure Preserves (rows merged : List AmReg) : Prop where
  same : ∀ file, Masked.loadAll (writes merged) file = Masked.loadAll (writes rows) file
  kept : merged.map AmReg.addr = (Masked.runs (writes rows)).map fun run => run.first.addr

def MergePreserves (table : SharpnessTable Step) (level : Int) : Prop :=
  ∃ merged, caculateLevelRegsParam valueAt table level = some merged ∧ Preserves (levelRegs valueAt table level) merged

def values (rows : List (SharpnessReg Step)) : List AmReg := rows.map SharpnessReg.value

-- Rows of one address in a row have disjoint masks.
def DisjointRuns (rows : List (SharpnessReg Step)) : Prop :=
  ∀ run ∈ Masked.runs (writes (values rows)), run.writes.Pairwise fun one two => one.mask &&& two.mask = 0

def MergesCleanly (table : SharpnessTable Step) (level : Int) : Prop :=
  (∀ reg, (levelRows table level).getLast? = some reg → reg.value.addr ≠ 0) ∧
    (Between table level ∨ Masked.Unspilled (Masked.runs (writes (values (levelRows table level)))))

end

-- What the loop leaves, run by run. A last run at address 0 goes into the array behind the list.
def endsAtZero (regs : List AmReg) : Prop := ∃ reg, regs.getLast? = some reg ∧ reg.addr = 0

theorem merge_from_run (reg : AmReg) (rest : List AmReg) :
    writes (mergeFrom reg rest) =
      if (rest.dropWhile fun next => next.addr = reg.addr) = [] ∧ reg.addr = 0 then []
      else (writes (rest.takeWhile fun next => next.addr = reg.addr)).foldl Masked.absorb reg.write ::
        writes (mergeLoop (rest.dropWhile fun next => next.addr = reg.addr)) := by
  induction rest generalizing reg with
  | nil =>
      rw [mergeFrom, List.dropWhile_nil, List.takeWhile_nil]
      by_cases zero : reg.addr = 0
      · rw [if_pos zero, if_pos ⟨rfl, zero⟩]
        rfl
      · rw [if_neg zero, if_neg fun both => zero both.2]
        rfl
  | cons next rest ih =>
      rw [mergeFrom]
      by_cases same : reg.addr = next.addr
      · rw [if_pos same, ih]
        simp only [List.dropWhile_cons, List.takeWhile_cons, same, decide_true, if_true]
        rfl
      · have other : ¬next.addr = reg.addr := Ne.symm same
        rw [if_neg same, List.dropWhile_cons_of_neg (by simpa using other), List.takeWhile_cons_of_neg (by simpa using other),
          if_neg fun both => List.cons_ne_nil _ _ both.1]
        rfl

theorem runs_first (first : AmReg) (rest : List AmReg) :
    (Masked.runs (writes (first :: rest))).map Masked.Run.merged =
      (writes (rest.takeWhile fun next => next.addr = first.addr)).foldl Masked.absorb first.write ::
        (Masked.runs (writes (rest.dropWhile fun next => next.addr = first.addr))).map Masked.Run.merged := by
  have taken : (writes rest).takeWhile (fun write => decide (write.addr = first.write.addr)) =
      writes (rest.takeWhile fun next => next.addr = first.addr) := List.takeWhile_map
  have dropped : (writes rest).dropWhile (fun write => decide (write.addr = first.write.addr)) =
      writes (rest.dropWhile fun next => next.addr = first.addr) := List.dropWhile_map
  rw [writes, List.map_cons, Masked.runs, List.map_cons]
  simp only [Masked.Run.merged]
  rw [← writes, taken, dropped]

-- The last of a list that goes on behind its first run is the last of what follows.
theorem last_behind (first : AmReg) (rest : List AmReg)
    (more : (rest.dropWhile fun next => next.addr = first.addr) ≠ []) :
    (first :: rest).getLast? = (rest.dropWhile fun next => next.addr = first.addr).getLast? := by
  have whole : first :: rest = (first :: rest.takeWhile fun next => next.addr = first.addr) ++
      rest.dropWhile fun next => next.addr = first.addr := by
    rw [List.cons_append, List.takeWhile_append_dropWhile]
  conv => lhs; rw [whole]
  rw [List.getLast?_append, List.getLast?_eq_some_getLast more, Option.some_or]

theorem last_of_run (first : AmReg) (rest : List AmReg) (whole : (rest.dropWhile fun next => next.addr = first.addr) = []) :
    ∃ reg, (first :: rest).getLast? = some reg ∧ reg.addr = first.addr := by
  refine ⟨_, List.getLast?_eq_some_getLast (List.cons_ne_nil _ _), ?_⟩
  rcases List.mem_cons.mp (List.getLast_mem (List.cons_ne_nil first rest)) with same | inside
  · rw [same]
  · exact of_decide_eq_true (List.dropWhile_eq_nil_iff.mp whole _ inside)

theorem merge_loop_runs (regs : List AmReg) :
    (¬endsAtZero regs → writes (mergeLoop regs) = (Masked.runs (writes regs)).map Masked.Run.merged) ∧
      (endsAtZero regs → (mergeLoop regs).length + 1 = (Masked.runs (writes regs)).length) := by
  induction count : regs.length using Nat.strongRecOn generalizing regs with
  | ind n ih =>
      cases regs with
      | nil =>
          have none : Masked.runs (writes []) = [] := by rw [writes, List.map_nil, Masked.runs]
          refine ⟨fun _ => by rw [none]; rfl, ?_⟩
          rintro ⟨reg, found, _⟩
          cases found
      | cons first rest =>
          have shorter : (rest.dropWhile fun next => next.addr = first.addr).length < n := by
            rw [← count, List.length_cons]
            exact Nat.lt_succ_of_le (List.dropWhile_suffix _).length_le
          obtain ⟨plain, zero⟩ := ih _ shorter _ rfl
          have merged := merge_from_run first rest
          have runsOf := runs_first first rest
          have lengths := congrArg List.length runsOf
          rw [List.length_map, List.length_cons, List.length_map] at lengths
          have counted : (mergeFrom first rest).length = (writes (mergeFrom first rest)).length := (List.length_map _).symm
          rw [mergeLoop, runsOf, counted, merged]
          by_cases whole : (rest.dropWhile fun next => next.addr = first.addr) = []
          · obtain ⟨last, found, same⟩ := last_of_run first rest whole
            rw [whole] at lengths plain
            have empty : Masked.runs (writes []) = [] := by rw [writes, List.map_nil, Masked.runs]
            have ends : endsAtZero (first :: rest) ↔ first.addr = 0 := by
              constructor
              · rintro ⟨reg, other, isZero⟩
                rw [found] at other
                cases other
                rw [← same, isZero]
              · exact fun isZero => ⟨last, found, same.trans isZero⟩
            rw [ends]
            constructor
            · intro nonzero
              rw [if_neg fun both => nonzero both.2, whole, empty]
              rfl
            · intro isZero
              rw [if_pos ⟨whole, isZero⟩, lengths, empty]
              rfl
          · have ends : endsAtZero (first :: rest) ↔
                endsAtZero (rest.dropWhile fun next => next.addr = first.addr) := by
              rw [endsAtZero, endsAtZero, last_behind first rest whole]
            rw [ends, if_neg fun both => whole both.1]
            constructor
            · intro nonzero
              rw [plain nonzero]
            · intro isZero
              rw [lengths, ← zero isZero, List.length_cons, writes, List.length_map]

section
variable {Step : Type} (valueAt : Word → Int → Step → Word) (table : SharpnessTable Step) (level : Int)

theorem level_regs : levelRegs valueAt table level =
    if Between table level then (levelRows table level).map (interpolated valueAt level)
    else values (levelRows table level) := by
  simp only [levelRegs, levelRows, values]
  by_cases first : nodeAbove table level = 0
  · have below : ¬Between table level := fun both => both.1 first
    rw [if_pos first, if_pos first, if_neg below]
  · rw [if_neg first, if_neg first]
    by_cases last : nodeAbove table level = table.nodes.length
    · have above : ¬Between table level := fun both => both.2 last
      rw [if_pos last, if_neg above]
    · have between : Between table level := ⟨first, last⟩
      rw [if_neg last, if_pos between]

theorem level_rows_node : ∃ node ∈ table.nodes, levelRows table level = node.regData := by
  have some_node := List.length_pos_iff.mpr table.loaded
  have within : nodeAbove table level ≤ table.nodes.length := List.findIdx_le_length
  have found (i : Nat) (inside : i < table.nodes.length) : ∃ node ∈ table.nodes, table.regData i = node.regData := by
    refine ⟨table.nodes[i], List.getElem_mem inside, ?_⟩
    rw [SharpnessTable.regData, List.getElem?_eq_getElem inside]
    rfl
  rw [levelRows]
  by_cases first : nodeAbove table level = 0
  · rw [if_pos first]
    exact found 0 some_node
  · rw [if_neg first]
    exact found _ (by omega)

theorem level_regs_length : (levelRegs valueAt table level).length ≤ 50 := by
  obtain ⟨node, _, rows⟩ := level_rows_node table level
  have fits := node.fits
  have length : (levelRegs valueAt table level).length = (levelRows table level).length := by
    rw [level_regs]
    split
    · exact List.length_map _
    · exact List.length_map _
  rw [length, rows, SharpnessRegs.regData, List.length_cons]
  omega

theorem ends_at_zero : endsAtZero (levelRegs valueAt table level) ↔
    ¬∀ reg, (levelRows table level).getLast? = some reg → reg.value.addr ≠ 0 := by
  have moved (form : SharpnessReg Step → AmReg) (addr : ∀ reg, (form reg).addr = reg.value.addr) :
      endsAtZero ((levelRows table level).map form) ↔
        ¬∀ reg, (levelRows table level).getLast? = some reg → reg.value.addr ≠ 0 := by
    rw [endsAtZero, List.getLast?_map]
    cases (levelRows table level).getLast? with
    | none => simp
    | some reg => simp [addr]
  rw [level_regs]
  split
  · exact moved _ fun _ => rfl
  · exact moved _ fun _ => rfl

theorem level_regs_disjoint (disjoint : DisjointRuns (levelRows table level)) :
    ∀ run ∈ Masked.runs (writes (levelRegs valueAt table level)),
      run.writes.Pairwise fun one two => one.mask &&& two.mask = 0 := by
  rw [level_regs]
  split
  · have parts := Masked.disjoint_parts (fun reg : SharpnessReg Step => reg.value.write)
      (fun reg => (interpolated valueAt level reg).write) (fun _ => rfl) (fun _ => rfl) (levelRows table level)
    rw [writes, List.map_map]
    rw [DisjointRuns, writes, values, List.map_map] at disjoint
    exact parts disjoint
  · exact disjoint

-- Between two nodes the values are masked.
theorem between_unspilled (disjoint : DisjointRuns (levelRows table level)) (between : Between table level) :
    Masked.Unspilled (Masked.runs (writes (levelRegs valueAt table level))) := by
  refine Masked.masked_unspilled _ (level_regs_disjoint valueAt table level disjoint) fun run member write inside bit set_there => ?_
  have row : write ∈ writes (levelRegs valueAt table level) := by
    rw [← Masked.unmerged_runs (writes (levelRegs valueAt table level))]
    exact List.mem_flatMap.mpr ⟨run, member, inside⟩
  rw [level_regs, if_pos between, writes, List.map_map] at row
  obtain ⟨reg, _, rfl⟩ := List.mem_map.mp row
  have value : (valueAt reg.value.val (level - reg.indexValue) reg.step &&& reg.value.mask).getLsbD bit = true := set_there
  rw [BitVec.getLsbD_and, Bool.and_eq_true] at value
  exact value.2

theorem sharpness_merge_iff (disjoint : ∀ node ∈ table.nodes, DisjointRuns node.regData) :
    MergePreserves valueAt table level ↔ MergesCleanly table level := by
  obtain ⟨node, member, rows⟩ := level_rows_node table level
  have own : DisjointRuns (levelRows table level) := rows ▸ disjoint node member
  have fits := level_regs_length valueAt table level
  have result : caculateLevelRegsParam valueAt table level = some (mergeLoop (levelRegs valueAt table level)) := by
    rw [caculateLevelRegsParam, mergeSameAddrVal, if_neg]
    rw [regsMaxNumber]
    omega
  obtain ⟨plain, zero⟩ := merge_loop_runs (levelRegs valueAt table level)
  have clean : Masked.Unspilled (Masked.runs (writes (levelRegs valueAt table level))) ↔
      Between table level ∨ Masked.Unspilled (Masked.runs (writes (values (levelRows table level)))) := by
    by_cases between : Between table level
    · exact iff_of_true (between_unspilled valueAt table level own between) (.inl between)
    · rw [level_regs, if_neg between, or_iff_right between]
  rw [MergesCleanly, ← clean, MergePreserves, result]
  by_cases ends : endsAtZero (levelRegs valueAt table level)
  · refine iff_of_false ?_ fun both => (ends_at_zero valueAt table level).mp ends both.1
    rintro ⟨merged, same, _, kept⟩
    cases same
    have lengths := congrArg List.length kept
    rw [List.length_map, List.length_map, ← zero ends] at lengths
    omega
  · rw [and_iff_right (not_not.mp fun other => ends ((ends_at_zero valueAt table level).mpr other)),
      ← Masked.load_merged_iff _ (level_regs_disjoint valueAt table level own), ← plain ends]
    constructor
    · rintro ⟨merged, same, preserves⟩
      cases same
      exact preserves.same
    · intro same
      refine ⟨_, rfl, same, ?_⟩
      have addrs : (mergeLoop (levelRegs valueAt table level)).map AmReg.addr =
          (writes (mergeLoop (levelRegs valueAt table level))).map Masked.addr := by
        rw [writes, List.map_map]
        rfl
      rw [addrs, plain ends, List.map_map]
      exact List.map_congr_left fun run _ => Masked.merged_addr run

end

def rowsFrom (indexValue : Int) : SharpnessRegs Unit :=
  ⟨⟨⟨0, 0x3206, 0x0f, 0xff⟩, indexValue, ()⟩, [⟨⟨0, 0x3206, 0xf0, 0x00⟩, indexValue, ()⟩], by simp⟩

-- Two rows of one register, the value of the first wider than its mask.
def spilledTable : SharpnessTable Unit := ⟨[rowsFrom 10, rowsFrom 20], by decide, by decide⟩

theorem spilled_table_disjoint : ∀ node ∈ spilledTable.nodes, DisjointRuns node.regData := by
  have one (indexValue : Int) : DisjointRuns (rowsFrom indexValue).regData := by
    simp [DisjointRuns, SharpnessRegs.regData, rowsFrom, values, writes, AmReg.write, Masked.runs, Masked.Run.writes]
  intro node member
  rcases List.mem_cons.mp member with rfl | member
  · exact one 10
  · rw [List.mem_singleton.mp member]
    exact one 20

theorem between_nodes_merged : MergePreserves (fun val _ _ => val) spilledTable 15 := by
  refine (sharpness_merge_iff (fun val _ _ => val) spilledTable 15 spilled_table_disjoint).mpr ⟨?_, .inl (by decide)⟩
  have rows : levelRows spilledTable 15 = (rowsFrom 10).regData := rfl
  rw [rows]
  rintro reg ⟨⟩
  decide

-- A level below the first node takes the values as the table has them.
theorem spilled_value_merged :
    caculateLevelRegsParam (fun val _ _ => val) spilledTable 0 = some [⟨0, 0x3206, 0xff, 0xff⟩] ∧
      Masked.loadAll (writes [⟨0, 0x3206, 0xff, 0xff⟩]) (fun _ => 0) 0x3206 = 0xff ∧
      Masked.loadAll (writes (levelRegs (fun val _ _ => val) spilledTable 0)) (fun _ => 0) 0x3206 = 0x0f := by
  decide +kernel

end Droidlogic.Pq.SharpnessMerge
