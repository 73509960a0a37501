import Droidlogic.Lib.Bytes
import Droidlogic.Pq.Source

set_option autoImplicit false

namespace Droidlogic.Pq.Overscan

open Lib

inductive DisplayMode
  | mode169
  | person
  | movie
  | caption
  | mode43
  | full
  | normal
  | noscaleup
  | cropFull
  | crop
  | zoom
  | max
deriving DecidableEq

abbrev TableName := Bytes

def overscan : TableName := ascii ['O', 'V', 'E', 'R', 'S', 'C', 'A', 'N']

def overscanNormal : TableName := overscan ++ ascii ['_', 'N', 'O', 'R', 'M', 'A', 'L']

def overscan169 : TableName := overscan ++ ascii ['_', '1', '6', '_', '9']

def tableName : DisplayMode → TableName
  | .mode169 => overscan169
  | .person => overscan ++ ascii ['_', 'P', 'E', 'R', 'S', 'O', 'N']
  | .movie => overscan ++ ascii ['_', 'M', 'O', 'V', 'I', 'E']
  | .caption => overscan ++ ascii ['_', 'C', 'A', 'P', 'T', 'I', 'O', 'N']
  | .mode43 => overscan ++ ascii ['_', '4', '_', '3']
  | .full => overscan ++ ascii ['_', 'F', 'U', 'L', 'L']
  | .normal => overscanNormal
  | .noscaleup => overscan ++ ascii ['_', 'N', 'O', 'S', 'C', 'A', 'L', 'E', 'U', 'P']
  | .cropFull => overscan ++ ascii ['_', 'C', 'R', 'O', 'P', '_', 'F', 'U', 'L', 'L']
  | .crop => overscan ++ ascii ['_', 'C', 'R', 'O', 'P']
  | .zoom => overscan ++ ascii ['_', 'Z', 'O', 'O', 'M']
  | .max => overscanNormal

structure CutWin where
  hs : UInt16
  he : UInt16
  vs : UInt16
  ve : UInt16
deriving DecidableEq

def CutWin.zero : CutWin := ⟨0, 0, 0, 0⟩

-- A row, whose numbers are wider than those of a window.
structure Row where
  tvinPort : Int
  tvinSigFmt : Int
  tvinTransFmt : Int
  hs : Int
  he : Int
  vs : Int
  ve : Int
deriving DecidableEq

def Row.window (row : Row) : CutWin := ⟨.ofInt row.hs, .ofInt row.he, .ofInt row.vs, .ofInt row.ve⟩

def Row.set (row : Row) (window : CutWin) : Row :=
  { row with hs := window.hs.toNat, he := window.he.toNat, vs := window.vs.toNat, ve := window.ve.toNat }

def atKey (param : SourceInputParam) (row : Row) : Bool :=
  row.tvinPort = param.sourceInput.code && row.tvinSigFmt = param.sigFmt && row.tvinTransFmt = param.transFmt

def newRow (param : SourceInputParam) (window : CutWin) : Row :=
  Row.set ⟨param.sourceInput.code, param.sigFmt, param.transFmt, 0, 0, 0, 0⟩ window

-- none is a table that the database does not have.
structure Database where
  tables : TableName → Option (List Row)

def select (db : Database) (name : TableName) (param : SourceInputParam) : Int × List Row :=
  match db.tables name with
  | none => (-1, [])
  | some rows => (0, rows.filter (atKey param))

-- exeSql of a statement on one table, none where it is not carried out.
def exeSql (db : Database) (name : TableName) (change : List Row → List Row) (done : Bool) : Option Database :=
  if done then
    (db.tables name).map fun rows => ⟨fun other => if other = name then some (change rows) else db.tables other⟩
  else none

def byDefault (param : SourceInputParam) : SourceInputParam := { param with sigFmt := tvinSigFmtNull }

-- The format whose rows a function goes on with.
def present (db : Database) (name : TableName) (param : SourceInputParam) : SourceInputParam :=
  if (select db name param).2 = [] then byDefault param else param

def firstWindow : List Row → CutWin
  | [] => .zero
  | row :: _ => row.window

-- PQ_GetOverscanParams and PQ_SetOverscanParams of CPQdb and of COverScandb are the same.
def pqGetOverscanParams (db : Database) (param : SourceInputParam) (dmode : DisplayMode) : Int × CutWin :=
  let name := tableName dmode
  ((select db name param).1, firstWindow (select db name (present db name param)).2)

def pqSetOverscanParams (db : Database) (param : SourceInputParam) (window : CutWin) (done : Bool) : Int × Database :=
  let key := present db overscan param
  let change (rows : List Row) :=
    if (select db overscan key).2 = [] then rows ++ [newRow key window]
    else rows.map fun row => if atKey key row then row.set window else row
  match exeSql db overscan change done with
  | some next => (0, next)
  | none => (-1, db)

def tvinTfmt2d : Nat := 0
def tvinTfmt3dLdgd : Nat := 11

structure Control where
  mbCpqCfgSeperateDbEnable : Bool
  mPQdb : Database
  mpOverScandb : Database

def Control.active (control : Control) : Database :=
  if control.mbCpqCfgSeperateDbEnable then control.mpOverScandb else control.mPQdb

def factorySetOverscanParam (control : Control) (param : SourceInputParam) (window : CutWin) (done : Bool) :
    Int × Control :=
  if control.mbCpqCfgSeperateDbEnable then
    let (ret, next) := pqSetOverscanParams control.mpOverScandb param window done
    (ret, { control with mpOverScandb := next })
  else
    let (ret, next) := pqSetOverscanParams control.mPQdb param window done
    (ret, { control with mPQdb := next })

def factoryGetOverscanParam (control : Control) (param : SourceInputParam) : CutWin :=
  if param.transFmt < tvinTfmt2d ∨ tvinTfmt3dLdgd < param.transFmt then .zero
  else if control.mbCpqCfgSeperateDbEnable then (pqGetOverscanParams control.mpOverScandb param .mode169).2
  else (pqGetOverscanParams control.mPQdb param .mode169).2

theorem ushort_back (value : UInt16) : UInt16.ofInt value.toNat = value := by
  have bound := value.toNat_lt
  have small : ((value.toNat : Int) % 2 ^ 16).toNat = value.toNat := by omega
  rw [UInt16.ofInt, small, UInt16.ofNat_toNat]

@[simp] theorem row_set_window (row : Row) (window : CutWin) : (row.set window).window = window := by
  cases window
  simp [Row.set, Row.window, ushort_back]

theorem source_code_inj (first second : Source) (same : first.code = second.code) : first = second := by
  cases first <;> cases second <;> first | rfl | cases same

theorem at_key_new (key param : SourceInputParam) (window : CutWin) :
    atKey param (newRow key window) = true ↔ param = key := by
  constructor
  · intro here
    cases param
    cases key
    simp only [atKey, newRow, Row.set, Bool.and_eq_true] at here
    obtain ⟨⟨source, fmt⟩, trans⟩ := here
    rw [source_code_inj _ _ (of_decide_eq_true source), Int.ofNat_inj.mp (of_decide_eq_true fmt),
      Int.ofNat_inj.mp (of_decide_eq_true trans)]
  · rintro rfl
    simp [atKey, newRow, Row.set]

-- What the statement of a setter makes of the rows.
def rewrite (rows : List Row) (key : SourceInputParam) (window : CutWin) : List Row :=
  if rows.filter (atKey key) = [] then rows ++ [newRow key window]
  else rows.map fun row => if atKey key row then row.set window else row

theorem set_key (key param : SourceInputParam) (window : CutWin) (row : Row) :
    atKey param (if atKey key row then row.set window else row) = atKey param row := by
  split <;> rfl

theorem rewrite_own (rows : List Row) (key : SourceInputParam) (window : CutWin) :
    (rewrite rows key window).filter (atKey key) ≠ [] ∧
      ∀ row ∈ (rewrite rows key window).filter (atKey key), row.window = window := by
  rw [rewrite]
  by_cases absent : rows.filter (atKey key) = []
  · have fresh : atKey key (newRow key window) = true := (at_key_new key key window).mpr rfl
    rw [if_pos absent, List.filter_append, absent, List.nil_append, List.filter_cons_of_pos fresh, List.filter_nil]
    refine ⟨List.cons_ne_nil _ _, fun row member => ?_⟩
    rw [List.mem_singleton.mp member, newRow, row_set_window]
  · rw [if_neg absent]
    refine ⟨fun empty => absent ?_, fun row member => ?_⟩
    · rw [List.filter_map, List.map_eq_nil_iff] at empty
      refine List.filter_eq_nil_iff.mpr fun row member here => ?_
      exact List.filter_eq_nil_iff.mp empty row member ((set_key key key window row).trans here)
    · obtain ⟨member, here⟩ := List.mem_filter.mp member
      obtain ⟨old, _, rfl⟩ := List.mem_map.mp member
      rw [set_key] at here
      rw [if_pos here, row_set_window]

theorem rewrite_other (rows : List Row) (key param : SourceInputParam) (window : CutWin) (different : param ≠ key)
    (absent : rows.filter (atKey param) = []) : (rewrite rows key window).filter (atKey param) = [] := by
  have none_of (row : Row) (member : row ∈ rows) : ¬atKey param row = true :=
    List.filter_eq_nil_iff.mp absent row member
  rw [rewrite]
  refine List.filter_eq_nil_iff.mpr fun row member here => ?_
  split at member
  · rcases List.mem_append.mp member with old | fresh
    · exact none_of row old here
    · rw [List.mem_singleton.mp fresh] at here
      exact different ((at_key_new key param window).mp here)
  · obtain ⟨old, there, rfl⟩ := List.mem_map.mp member
    rw [set_key] at here
    exact none_of old there here

theorem set_cases (db : Database) (param : SourceInputParam) (window : CutWin) (done : Bool) :
    ((done = false ∨ db.tables overscan = none) ∧ pqSetOverscanParams db param window done = (-1, db)) ∨
      ∃ rows next, done = true ∧ db.tables overscan = some rows ∧ pqSetOverscanParams db param window done = (0, next) ∧
        next.tables overscan = some (rewrite rows (present db overscan param) window) ∧
        ∀ other, other ≠ overscan → next.tables other = db.tables other := by
  rw [pqSetOverscanParams]
  cases done with
  | false => exact .inl ⟨.inl rfl, rfl⟩
  | true =>
      cases there : db.tables overscan with
      | none => exact .inl ⟨.inr rfl, by simp only [exeSql, if_true, there, Option.map_none]⟩
      | some rows =>
          have selected : (select db overscan (present db overscan param)).2 =
              rows.filter (atKey (present db overscan param)) := by rw [select, there]
          simp only [exeSql, if_true, there, Option.map_some, selected]
          refine .inr ⟨rows, _, trivial, rfl, rfl, ?_, fun other different => if_neg different⟩
          simp only [if_true]
          rfl

-- In its own table a stored window is the first for its format, or for the default where the format has no row.
theorem overscan_holds (db next : Database) (param : SourceInputParam) (window : CutWin) (done : Bool)
    (set : pqSetOverscanParams db param window done = (0, next)) :
    firstWindow (select next overscan (present next overscan param)).2 = window := by
  rcases set_cases db param window done with ⟨_, failed⟩ | ⟨rows, other, _, there, stored, table, _⟩
  · rw [failed] at set
    cases congrArg Prod.fst set
  · rw [stored, Prod.mk.injEq] at set
    rw [← set.2]
    have before (key : SourceInputParam) : (select db overscan key).2 = rows.filter (atKey key) := by
      rw [select, there]
    have after (key : SourceInputParam) : (select other overscan key).2 =
        (rewrite rows (present db overscan param) window).filter (atKey key) := by
      rw [select, table]
    obtain ⟨some_row, all⟩ := rewrite_own rows (present db overscan param) window
    have same : present other overscan param = present db overscan param := by
      by_cases own : param = present db overscan param
      · rw [present, after, if_neg (by rw [← own] at some_row ⊢; exact some_row)]
        exact own
      · have absent : (select db overscan param).2 = [] := by
          by_contra there
          exact own (if_neg there).symm
        rw [present, after, if_pos (rewrite_other rows _ param window own (before param ▸ absent)), present,
          if_pos absent]
    rw [same, after]
    cases found : (rewrite rows (present db overscan param) window).filter (atKey (present db overscan param)) with
    | nil => exact absurd found some_row
    | cons row rest => exact all row (found ▸ .head _)

def at2d (source : Source) (fmt : SigFmt) : SourceInputParam := ⟨source, fmt, tvinTfmt2d⟩

def HasOwnRow (control : Control) (name : TableName) (param : SourceInputParam) : Prop :=
  (select control.active name param).2 ≠ []

-- What the getter is to see of a window that the setter has stored.
structure Agrees (control next : Control) (source : Source) (fmt : SigFmt) (window : CutWin) : Prop where
  own : factoryGetOverscanParam next (at2d source fmt) = window
  others : ∀ other form, (other, form) ≠ (source, fmt) →
    (∃ name, HasOwnRow control name (at2d other form)) →
      factoryGetOverscanParam next (at2d other form) = factoryGetOverscanParam control (at2d other form)

-- The first row of a format in OVERSCAN_16_9, or else of the default format, has the window.
def Shown (control : Control) (param : SourceInputParam) (window : CutWin) : Prop :=
  firstWindow (select control.active overscan169 (present control.active overscan169 param)).2 = window

instance (control : Control) (param : SourceInputParam) (window : CutWin) : Decidable (Shown control param window) :=
  inferInstanceAs (Decidable (_ = _))

theorem factory_get (control : Control) (source : Source) (fmt : SigFmt) :
    factoryGetOverscanParam control (at2d source fmt) =
      firstWindow (select control.active overscan169 (present control.active overscan169 (at2d source fmt))).2 := by
  have plain : ¬((at2d source fmt).transFmt < tvinTfmt2d ∨ tvinTfmt3dLdgd < (at2d source fmt).transFmt) := by
    simp [at2d, tvinTfmt2d]
  rw [factoryGetOverscanParam, if_neg plain, Control.active]
  split <;> rfl

theorem factory_set (control : Control) (param : SourceInputParam) (window : CutWin) (done : Bool) :
    (factorySetOverscanParam control param window done).1 = (pqSetOverscanParams control.active param window done).1 ∧
      (factorySetOverscanParam control param window done).2.active =
        (pqSetOverscanParams control.active param window done).2 := by
  rw [factorySetOverscanParam, Control.active]
  split
  · rename_i separate
    exact ⟨rfl, if_pos separate⟩
  · rename_i single
    exact ⟨rfl, if_neg single⟩

-- The getter reads a table that the setter does not write.
theorem set_unseen (control : Control) (param : SourceInputParam) (window : CutWin) (done : Bool) (source : Source)
    (fmt : SigFmt) :
    factoryGetOverscanParam (factorySetOverscanParam control param window done).2 (at2d source fmt) =
      factoryGetOverscanParam control (at2d source fmt) := by
  have different : overscan169 ≠ overscan := by decide
  have kept : (pqSetOverscanParams control.active param window done).2.tables overscan169 =
      control.active.tables overscan169 := by
    rcases set_cases control.active param window done with ⟨_, failed⟩ | ⟨_, next, _, _, stored, _, frame⟩
    · rw [failed]
    · rw [stored]
      exact frame overscan169 different
  have selected (key : SourceInputParam) :
      select (pqSetOverscanParams control.active param window done).2 overscan169 key =
        select control.active overscan169 key := by
    rw [select, select, kept]
  rw [factory_get, factory_get, (factory_set control param window done).2, present, present, selected, selected]

theorem overscan_stored_iff (control : Control) (source : Source) (fmt : SigFmt) (window : CutWin) (done : Bool) :
    ((factorySetOverscanParam control (at2d source fmt) window done).1 = 0 →
        Agrees control (factorySetOverscanParam control (at2d source fmt) window done).2 source fmt window) ↔
      done = false ∨ control.active.tables overscan = none ∨ Shown control (at2d source fmt) window := by
  rw [(factory_set control _ window done).1]
  rcases set_cases control.active (at2d source fmt) window done with
    ⟨why, failed⟩ | ⟨rows, next, carried, there, stored, _, _⟩
  · rw [failed]
    refine ⟨fun _ => why.imp id .inl, fun _ zero => ?_⟩
    cases zero
  · rw [stored, carried, there]
    constructor
    · intro agrees
      have seen := (agrees rfl).own
      rw [← carried, set_unseen, factory_get] at seen
      exact .inr (.inr seen)
    · rintro (other | other | shown) _
      · cases other
      · cases other
      · refine ⟨?_, fun other form _ _ => ?_⟩
        · rw [← carried, set_unseen, factory_get]
          exact shown
        · rw [← carried, set_unseen]

def sampleWindow : CutWin := ⟨10, 20, 30, 40⟩

-- The overscan tables with one default row for HDMI1 each.
def sampleControl : Control :=
  let db : Database := ⟨fun name =>
    if name = overscan ∨ name = overscan169 then some [newRow ⟨.hdmi1, tvinSigFmtNull, tvinTfmt2d⟩ .zero] else none⟩
  ⟨false, db, db⟩

theorem stored_window_unseen :
    (factorySetOverscanParam sampleControl (at2d .hdmi1 tvinSigFmtNull) sampleWindow true).1 = 0 ∧
      ¬Agrees sampleControl (factorySetOverscanParam sampleControl (at2d .hdmi1 tvinSigFmtNull) sampleWindow true).2
        .hdmi1 tvinSigFmtNull sampleWindow := by
  refine ⟨by decide, fun agrees => absurd agrees.own ?_⟩
  decide

end Droidlogic.Pq.Overscan
