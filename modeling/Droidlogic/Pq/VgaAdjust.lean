import Mathlib.Data.List.Nodup
import Droidlogic.Pq.Source

set_option autoImplicit false

namespace Droidlogic.Pq.VgaAdjust

structure TvafeVgaParm where
  clkStep : Int16
  phase : UInt16
  hposStep : Int16
  vposStep : Int16
  vgaInClean : UInt32
deriving DecidableEq

def TvafeVgaParm.zero : TvafeVgaParm := ⟨0, 0, 0, 0, 0⟩

-- A row of VGA_AutoParams.
structure Row where
  tvinSigFmt : Int
  clk : Int
  phase : Int
  hPos : Int
  vPos : Int
  vgaInClean : Int
deriving DecidableEq

def Row.parm (row : Row) : TvafeVgaParm :=
  ⟨.ofInt row.clk, .ofInt row.phase, .ofInt row.hPos, .ofInt row.vPos, .ofInt row.vgaInClean⟩

-- "%d" prints the flag as a signed number.
def Row.set (row : Row) (parm : TvafeVgaParm) : Row :=
  { row with
    clk := parm.clkStep.toInt
    phase := parm.phase.toNat
    hPos := parm.hposStep.toInt
    vPos := parm.vposStep.toInt
    vgaInClean := parm.vgaInClean.toInt32.toInt }

def newRow (fmt : SigFmt) (parm : TvafeVgaParm) : Row := Row.set ⟨fmt, 0, 0, 0, 0, 0⟩ parm

-- VGA_AutoParams, its rows in the order a select returns them. none is a database without it.
abbrev Table := Option (List Row)

def ofFmt (fmt : SigFmt) (row : Row) : Bool := row.tvinSigFmt = fmt

def select (table : Table) (fmt : SigFmt) : Int × List Row :=
  match table with
  | none => (-1, [])
  | some rows => (0, rows.filter (ofFmt fmt))

-- The format whose rows a function goes on with.
def present (table : Table) (fmt : SigFmt) : SigFmt := if (select table fmt).2 = [] then tvinSigFmtNull else fmt

def firstParm : List Row → TvafeVgaParm
  | [] => .zero
  | row :: _ => row.parm

def pqGetVGAAjustPara (table : Table) (fmt : SigFmt) : Int × TvafeVgaParm :=
  ((select table fmt).1, firstParm (select table (present table fmt)).2)

-- A row that is there is inserted once more, one that is not is updated.
def pqSetVGAAjustPara (table : Table) (fmt : SigFmt) (parm : TvafeVgaParm) (done : Bool) : Int × Table :=
  let key := present table fmt
  let change (rows : List Row) :=
    if (select table key).2 = [] then rows.map fun row => if ofFmt key row then row.set parm else row
    else rows ++ [newRow key parm]
  match if done then table.map change else none with
  | some next => (0, some next)
  | none => (-1, table)

def OneRowEach (rows : List Row) : Prop := (rows.map Row.tvinSigFmt).Nodup

-- After a store that reports success the format reads as stored, and no format has two rows.
def StoreAgrees (table : Table) (fmt : SigFmt) (parm : TvafeVgaParm) (done : Bool) : Prop :=
  (pqSetVGAAjustPara table fmt parm done).1 = 0 →
    (pqGetVGAAjustPara (pqSetVGAAjustPara table fmt parm done).2 fmt).2 = parm ∧
      ∀ rows, (pqSetVGAAjustPara table fmt parm done).2 = some rows → OneRowEach rows

-- The fields survive the text of a statement and the text of a cell.
theorem row_set_parm (row : Row) (parm : TvafeVgaParm) : (row.set parm).parm = parm := by
  have flag : UInt32.ofInt parm.vgaInClean.toInt32.toInt = parm.vgaInClean := by
    have bound := parm.vgaInClean.toNat_lt
    have signed : parm.vgaInClean.toInt32.toInt = (parm.vgaInClean.toNat : Int).bmod (2 ^ 32) :=
      BitVec.toInt_eq_toNat_bmod _
    have small : ((parm.vgaInClean.toNat : Int).bmod (2 ^ 32) % 2 ^ 32).toNat = parm.vgaInClean.toNat := by
      rw [Int.bmod_def]
      omega
    rw [UInt32.ofInt, signed, small, UInt32.ofNat_toNat]
  have phase : UInt16.ofInt (parm.phase.toNat : Int) = parm.phase := by
    have bound := parm.phase.toNat_lt
    have small : ((parm.phase.toNat : Int) % 2 ^ 16).toNat = parm.phase.toNat := by omega
    rw [UInt16.ofInt, small, UInt16.ofNat_toNat]
  cases parm
  simp only [Row.set, Row.parm, Int16.ofInt_toInt, TvafeVgaParm.mk.injEq] at *
  exact ⟨trivial, phase, trivial, trivial, flag⟩

theorem of_fmt_new (key fmt : SigFmt) (parm : TvafeVgaParm) : ofFmt fmt (newRow key parm) = true ↔ key = fmt := by
  simp [ofFmt, newRow, Row.set]

theorem present_default (rows : List Row) (fmt : SigFmt) (absent : rows.filter (ofFmt fmt) = []) :
    present (some rows) fmt = tvinSigFmtNull := if_pos absent

theorem present_own (rows : List Row) (fmt : SigFmt) (there : rows.filter (ofFmt fmt) ≠ []) :
    present (some rows) fmt = fmt := if_neg there

-- What a store that is carried out makes of the rows: a second row for a format that has
-- one, and no change where neither the format nor the default has a row.
theorem set_cases (table : Table) (fmt : SigFmt) (parm : TvafeVgaParm) (done : Bool) :
    ((done = false ∨ table = none) ∧ pqSetVGAAjustPara table fmt parm done = (-1, table)) ∨
      ∃ rows, done = true ∧ table = some rows ∧
        ((rows.filter (ofFmt (present table fmt)) ≠ [] ∧
            pqSetVGAAjustPara table fmt parm done = (0, some (rows ++ [newRow (present table fmt) parm]))) ∨
          (rows.filter (ofFmt fmt) = [] ∧ rows.filter (ofFmt tvinSigFmtNull) = [] ∧
            pqSetVGAAjustPara table fmt parm done = (0, table))) := by
  cases table with
  | none => exact .inl ⟨.inr rfl, by cases done <;> rfl⟩
  | some rows =>
      cases done with
      | false => exact .inl ⟨.inl rfl, rfl⟩
      | true =>
          refine .inr ⟨rows, rfl, rfl, ?_⟩
          by_cases absent : rows.filter (ofFmt (present (some rows) fmt)) = []
          · have own : rows.filter (ofFmt fmt) = [] := by
              by_contra there
              rw [present_own rows fmt there] at absent
              exact there absent
            have fallen := present_default rows fmt own
            rw [fallen] at absent
            refine .inr ⟨own, absent, ?_⟩
            have selected : (select (some rows) tvinSigFmtNull).2 = [] := absent
            have kept : rows.map (fun row => if ofFmt tvinSigFmtNull row then row.set parm else row) = rows := by
              conv => rhs; rw [← List.map_id rows]
              refine List.map_congr_left fun row member => ?_
              rw [if_neg (List.filter_eq_nil_iff.mp absent row member), id]
            simp only [pqSetVGAAjustPara, fallen, if_pos selected, if_true, Option.map_some, kept]
          · have selected : (select (some rows) (present (some rows) fmt)).2 ≠ [] := absent
            refine .inl ⟨absent, ?_⟩
            simp only [pqSetVGAAjustPara, if_neg selected, if_true, Option.map_some]

-- A row behind the others is not the first of its format.
theorem inserted_unseen (rows : List Row) (fmt : SigFmt) (parm : TvafeVgaParm) (other : SigFmt)
    (there : rows.filter (ofFmt (present (some rows) fmt)) ≠ []) :
    pqGetVGAAjustPara (some (rows ++ [newRow (present (some rows) fmt) parm])) other =
      pqGetVGAAjustPara (some rows) other := by
  generalize present (some rows) fmt = key at there
  have first (form : SigFmt) :
      ((rows ++ [newRow key parm]).filter (ofFmt form) = [] ↔ rows.filter (ofFmt form) = []) ∧
        firstParm ((rows ++ [newRow key parm]).filter (ofFmt form)) = firstParm (rows.filter (ofFmt form)) := by
    rw [List.filter_append]
    cases before : rows.filter (ofFmt form) with
    | cons row rest => exact ⟨by simp, rfl⟩
    | nil =>
        have foreign : ¬ofFmt form (newRow key parm) = true := by
          intro same
          rw [(of_fmt_new key form parm).mp same] at there
          exact there before
        rw [List.filter_cons_of_neg foreign, List.filter_nil]
        exact ⟨Iff.rfl, rfl⟩
  have same : present (some (rows ++ [newRow key parm])) other = present (some rows) other := by
    by_cases absent : rows.filter (ofFmt other) = []
    · rw [present_default _ _ absent, present_default _ _ ((first other).1.mpr absent)]
    · rw [present_own _ _ absent, present_own _ _ fun empty => absent ((first other).1.mp empty)]
  simp only [pqGetVGAAjustPara, same, select, (first _).2]

-- No store is seen by the getter.
theorem store_unseen (table : Table) (fmt : SigFmt) (parm : TvafeVgaParm) (done : Bool) (other : SigFmt) :
    pqGetVGAAjustPara (pqSetVGAAjustPara table fmt parm done).2 other = pqGetVGAAjustPara table other := by
  rcases set_cases table fmt parm done with ⟨_, failed⟩ | ⟨rows, _, rfl, ⟨there, inserted⟩ | ⟨_, _, kept⟩⟩
  · rw [failed]
  · rw [inserted]
    exact inserted_unseen rows fmt parm other there
  · rw [kept]

theorem inserted_twice (rows : List Row) (key : SigFmt) (parm : TvafeVgaParm) (there : rows.filter (ofFmt key) ≠ []) :
    ¬OneRowEach (rows ++ [newRow key parm]) := by
  obtain ⟨row, found⟩ := List.exists_mem_of_ne_nil _ there
  obtain ⟨member, own⟩ := List.mem_filter.mp found
  have fmtOf : row.tvinSigFmt = (key : Int) := of_decide_eq_true own
  rw [OneRowEach, List.map_append, List.nodup_append]
  rintro ⟨_, _, apart⟩
  exact apart row.tvinSigFmt (List.mem_map_of_mem member) key (.head _) fmtOf

theorem vga_store_agrees_iff (table : Table) (fmt : SigFmt) (parm : TvafeVgaParm) (done : Bool) :
    StoreAgrees table fmt parm done ↔
      done = false ∨ table = none ∨
        ∃ rows, table = some rows ∧ rows.filter (ofFmt fmt) = [] ∧ rows.filter (ofFmt tvinSigFmtNull) = [] ∧
          parm = .zero ∧ OneRowEach rows := by
  rw [StoreAgrees, store_unseen]
  rcases set_cases table fmt parm done with ⟨why, failed⟩ | ⟨rows, rfl, rfl, ⟨there, inserted⟩ | ⟨own, fallback, kept⟩⟩
  · rw [failed]
    exact iff_of_true (fun zero => by cases zero) (why.imp_right .inl)
  · rw [inserted]
    refine iff_of_false (fun agrees => inserted_twice rows _ parm there ((agrees rfl).2 _ rfl)) ?_
    rintro (other | other | ⟨rows, ⟨⟩, own, fallback, _⟩)
    · cases other
    · cases other
    · rw [present_default rows fmt own] at there
      exact there fallback
  · rw [kept]
    have zeros : (pqGetVGAAjustPara (some rows) fmt).2 = .zero := by
      simp only [pqGetVGAAjustPara, present_default rows fmt own, select, fallback, firstParm]
    rw [zeros]
    constructor
    · intro agrees
      obtain ⟨same, single⟩ := agrees rfl
      exact .inr (.inr ⟨rows, rfl, own, fallback, same.symm, single rows rfl⟩)
    · rintro (other | other | ⟨rows, ⟨⟩, _, _, same, single⟩) _
      · cases other
      · cases other
      · exact ⟨same.symm, fun rows same => by cases same; exact single⟩

def sampleParm : TvafeVgaParm := ⟨-3, 16, 2, -2, 1⟩

-- The table with a default row of zeros.
theorem stored_parm_lost :
    pqSetVGAAjustPara (some [newRow tvinSigFmtNull .zero]) 1 sampleParm true =
        (0, some [newRow tvinSigFmtNull .zero, newRow tvinSigFmtNull sampleParm]) ∧
      pqGetVGAAjustPara (some [newRow tvinSigFmtNull .zero, newRow tvinSigFmtNull sampleParm]) 1 = (0, .zero) := by
  decide +kernel

end Droidlogic.Pq.VgaAdjust
