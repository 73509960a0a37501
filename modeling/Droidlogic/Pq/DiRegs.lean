import Droidlogic.Pq.LongRegs

set_option autoImplicit false

namespace Droidlogic.Pq.DiRegs

open Lib

def tableNameDi : Word := 0x200
def tableNameNr : Word := 0x400
def tableNameMcdi : Word := 0x800
def tableNameDeblock : Word := 0x1000
def tableNameDemosquito : Word := 0x2000

def vppMcdiModeStandard : Int := 1
def vppDeblockModeMiddle : Int := 2
def vppNoiseReductionModeOff : Int := 0
def vppNoiseReductionModeMid : Int := 2
def vppNoiseReductionModeAuto : Int := 4

def levelName : Bytes := ascii ['L', 'e', 'v', 'e', 'l']

def diKey (name fName f2Name : Bytes) (val val2 : Int) : RegKey :=
  if f2Name.length = 0 ∧ val2 = 0 then
    if fName.length = 0 ∧ val = 0 then ⟨name, []⟩ else ⟨name, [(fName, val)]⟩
  else ⟨name, [(fName, val), (f2Name, val2)]⟩

def inAmReg (i : Nat) : Bool := i < regsMaxNumber

-- none is a write behind am_reg.
def getDIRegValuesByValue (db : CPQdb) (name fName f2Name : Bytes) (val val2 : Int) (regs : AmRegs) : Option (Int × AmRegs) :=
  let selected := db.registers (diKey name fName f2Name val val2)
  let count := selected.rows.length
  if regsMaxNumber < count then some (-1, regs)
  else if selected.rows = [] then some (-1, regs)
  else
    (fill inAmReg id selected.rows regs.length regs.amReg).map fun amReg => (selected.ret, ⟨regs.length + count, amReg⟩)

-- What the five readers share.
def getParams (table : GeneralTable) (fName : Bytes) (val : Int) (db : CPQdb) (param : SourceInputParam) (regs : AmRegs) :
    Option (Int × AmRegs) :=
  let name := getTableName db table param
  if name.length ≠ 0 then getDIRegValuesByValue db name fName [] val 0 regs else some (-1, regs)

def pqGetDIParams : CPQdb → SourceInputParam → AmRegs → Option (Int × AmRegs) := getParams .di [] 0

def pqGetMCDIParams (mcdiMode : Int) : CPQdb → SourceInputParam → AmRegs → Option (Int × AmRegs) :=
  getParams .mcdi levelName mcdiMode

def pqGetDeblockParams (debMode : Int) : CPQdb → SourceInputParam → AmRegs → Option (Int × AmRegs) :=
  getParams .deblock levelName debMode

def pqGetNR2Params (nrMode : Int) : CPQdb → SourceInputParam → AmRegs → Option (Int × AmRegs) :=
  getParams .nr2 levelName nrMode

def pqGetDemoSquitoParams : CPQdb → SourceInputParam → AmRegs → Option (Int × AmRegs) := getParams .demosquito [] 0

-- The mode is in range or the middle one.
def getNoiseReductionMode (saved : Int) : Int :=
  if saved < vppNoiseReductionModeOff ∨ vppNoiseReductionModeAuto < saved then vppNoiseReductionModeMid else saved

structure AmPqParam where
  tableName : Word
  tableLen : Nat
  table : List AmReg
deriving DecidableEq

structure Ioctl where
  ret : Int
  busy : Bool
deriving DecidableEq

-- answer is what the driver says to each try, and countRetry the tries that are left.
def loadLoop (answer : Nat → Ioctl) : Nat → Nat → Int → Int
  | 0, _, ret => ret
  | countRetry + 1, tries, _ =>
      if (answer tries).ret < 0 ∧ (answer tries).busy = true then loadLoop answer countRetry (tries + 1) (answer tries).ret
      else (answer tries).ret

def diLoadRegs (answer : AmPqParam → Nat → Ioctl) (diRegs : AmPqParam) : Int := loadLoop (answer diRegs) 20 0 0

structure PqCfg where
  diEnable : Bool
  mcdiEnable : Bool
  deblockEnable : Bool
  nrEnable : Bool
  demoSquitoEnable : Bool
deriving DecidableEq

structure Collected where
  regs : AmRegs
  tableName : Word

def collect (enable : Bool) (table : Word) (read : AmRegs → Option (Int × AmRegs)) (s : Collected) : Option Collected :=
  if enable then
    (read s.regs).map fun (ret, regs) => ⟨regs, if ret = 0 then s.tableName ||| table else s.tableName⟩
  else some s

-- The return value, and what the driver is given, if it is called.
structure Outcome where
  ret : Int
  loaded : Option AmPqParam
deriving DecidableEq

def collectAll (db : CPQdb) (cfg : PqCfg) (saved : Int) (param : SourceInputParam) : Option Collected :=
  (collect cfg.diEnable tableNameDi (pqGetDIParams db param) ⟨.zero, 0⟩).bind fun s =>
  (collect cfg.mcdiEnable tableNameMcdi (pqGetMCDIParams vppMcdiModeStandard db param) s).bind fun s =>
  (collect cfg.deblockEnable tableNameDeblock (pqGetDeblockParams vppDeblockModeMiddle db param) s).bind fun s =>
  (collect cfg.nrEnable tableNameNr (pqGetNR2Params (getNoiseReductionMode saved) db param) s).bind fun s =>
  collect cfg.demoSquitoEnable tableNameDemosquito (pqGetDemoSquitoParams db param) s

def cpqSetDIModuleParam (db : CPQdb) (cfg : PqCfg) (saved : Int) (answer : AmPqParam → Nat → Ioctl)
    (param : SourceInputParam) : Option Outcome :=
  (collectAll db cfg saved param).map fun s =>
    if s.regs.length ≠ 0 then
      let diRegs : AmPqParam := ⟨s.tableName, s.regs.length, s.regs.list⟩
      ⟨diLoadRegs answer diRegs, some diRegs⟩
    else ⟨-1, none⟩

-- The five tables as the claim on the driver's list sees them.
structure Module where
  enable : Bool
  table : Word
  rows : List AmReg

def Module.wanted (m : Module) : List AmReg := if m.enable then m.rows else []

def Module.name (m : Module) : Word := if m.wanted = [] then 0 else m.table

def wantedRows (modules : List Module) : List AmReg := modules.flatMap Module.wanted

def wantedNames (modules : List Module) : Word := modules.foldr (fun m names => m.name ||| names) 0

def wantedParam (modules : List Module) : Option AmPqParam :=
  if wantedRows modules = [] then none else some ⟨wantedNames modules, (wantedRows modules).length, wantedRows modules⟩

def tableRows (db : CPQdb) (param : SourceInputParam) (table : GeneralTable) (fName : Bytes) (val : Int) : List AmReg :=
  let name := getTableName db table param
  if name.length ≠ 0 then (db.registers (diKey name fName [] val 0)).rows else []

def diModules (db : CPQdb) (cfg : PqCfg) (saved : Int) (param : SourceInputParam) : List Module :=
  [⟨cfg.diEnable, tableNameDi, tableRows db param .di [] 0⟩,
    ⟨cfg.mcdiEnable, tableNameMcdi, tableRows db param .mcdi levelName vppMcdiModeStandard⟩,
    ⟨cfg.deblockEnable, tableNameDeblock, tableRows db param .deblock levelName vppDeblockModeMiddle⟩,
    ⟨cfg.nrEnable, tableNameNr, tableRows db param .nr2 levelName (getNoiseReductionMode saved)⟩,
    ⟨cfg.demoSquitoEnable, tableNameDemosquito, tableRows db param .demosquito [] 0⟩]

-- No write goes behind am_reg, and the driver is given the rows of the enabled tables in
-- order, their number and the names of the tables that have some.
def Aggregates (db : CPQdb) (cfg : PqCfg) (saved : Int) (answer : AmPqParam → Nat → Ioctl) (param : SourceInputParam) : Prop :=
  ∃ outcome, cpqSetDIModuleParam db cfg saved answer param = some outcome ∧
    outcome.loaded = wantedParam (diModules db cfg saved param)

def gatherOne (m : Module) (s : Collected) : Option Collected :=
  if m.wanted = [] ∨ regsMaxNumber < m.wanted.length then some s
  else (fill inAmReg id m.wanted s.regs.length s.regs.amReg).map fun amReg =>
    ⟨⟨s.regs.length + m.wanted.length, amReg⟩, s.tableName ||| m.table⟩

def gather : List Module → Collected → Option Collected
  | [], s => some s
  | m :: rest, s => (gatherOne m s).bind (gather rest)

-- What a reader and its caller do.
theorem collect_gather (enable : Bool) (bit : Word) (table : GeneralTable) (fName : Bytes) (val : Int) (db : CPQdb)
    (param : SourceInputParam) (s : Collected) :
    collect enable bit (getParams table fName val db param) s = gatherOne ⟨enable, bit, tableRows db param table fName val⟩ s := by
  cases enable with
  | false => simp [collect, gatherOne, Module.wanted]
  | true =>
      simp only [collect, getParams, gatherOne, Module.wanted, tableRows, if_true]
      by_cases named : (getTableName db table param).length ≠ 0
      · rw [if_pos named, if_pos named, getDIRegValuesByValue]
        generalize found : db.registers (diKey (getTableName db table param) fName [] val 0) = selected
        by_cases excess : regsMaxNumber < selected.rows.length
        · simp [excess]
        · by_cases empty : selected.rows = []
          · simp [empty]
          · simp [excess, empty, selected_ret_rows selected empty, Function.comp_def]
      · simp [named]

theorem collect_all_gather (db : CPQdb) (cfg : PqCfg) (saved : Int) (param : SourceInputParam) :
    collectAll db cfg saved param = gather (diModules db cfg saved param) ⟨.zero, 0⟩ := by
  simp only [collectAll, pqGetDIParams, pqGetMCDIParams, pqGetDeblockParams, pqGetNR2Params, pqGetDemoSquitoParams,
    collect_gather, diModules, gather, Option.bind_fun_some]

theorem regs_list_length (regs : AmRegs) : regs.list.length = regs.length := entries_length _ _

theorem gather_one_bounded (m : Module) (s t : Collected) (inside : s.regs.length ≤ regsMaxNumber)
    (done : gatherOne m s = some t) : t.regs.length ≤ regsMaxNumber := by
  rw [gatherOne] at done
  split at done
  · cases done
    exact inside
  · rename_i some_row
    rw [not_or] at some_row
    obtain ⟨amReg, filled, rfl⟩ := Option.map_eq_some_iff.mp done
    have count : 0 < m.wanted.length := List.length_pos_iff.mpr some_row.1
    have last := (fill_some_iff inAmReg id m.wanted s.regs.length s.regs.amReg).mp ⟨amReg, filled⟩ (m.wanted.length - 1) (by omega)
    have below : s.regs.length + (m.wanted.length - 1) < regsMaxNumber := of_decide_eq_true last
    show s.regs.length + m.wanted.length ≤ regsMaxNumber
    omega

theorem gather_bounded (modules : List Module) (s t : Collected) (inside : s.regs.length ≤ regsMaxNumber)
    (done : gather modules s = some t) : t.regs.length ≤ regsMaxNumber := by
  induction modules generalizing s with
  | nil =>
      cases done
      exact inside
  | cons m rest ih =>
      obtain ⟨next, first, later⟩ := Option.bind_eq_some_iff.mp done
      exact ih next (gather_one_bounded m s next inside first) later

theorem gather_one_fits (m : Module) (s : Collected) (fits : s.regs.length + m.wanted.length ≤ regsMaxNumber) :
    ∃ t, gatherOne m s = some t ∧ t.regs.list = s.regs.list ++ m.wanted ∧ t.tableName = s.tableName ||| m.name := by
  by_cases empty : m.wanted = []
  · exact ⟨s, if_pos (.inl empty), by simp [empty], by simp [Module.name, empty]⟩
  · have inside : ∀ i < m.wanted.length, inAmReg (id (s.regs.length + i)) = true := fun i small =>
      decide_eq_true (Nat.lt_of_lt_of_le (Nat.add_lt_add_left small _) fits)
    obtain ⟨amReg, filled⟩ := (fill_some_iff inAmReg id m.wanted s.regs.length s.regs.amReg).mpr inside
    have list := fill_entries inAmReg m.wanted s.regs.length s.regs.amReg amReg filled
    refine ⟨⟨⟨s.regs.length + m.wanted.length, amReg⟩, s.tableName ||| m.table⟩, ?_, list, ?_⟩
    · rw [gatherOne, if_neg (not_or.mpr ⟨empty, by omega⟩), filled]
      rfl
    · rw [Module.name, if_neg empty]

theorem gather_fits (modules : List Module) (s : Collected)
    (fits : s.regs.length + (wantedRows modules).length ≤ regsMaxNumber) :
    ∃ t, gather modules s = some t ∧ t.regs.list = s.regs.list ++ wantedRows modules ∧
      t.tableName = s.tableName ||| wantedNames modules := by
  induction modules generalizing s with
  | nil => exact ⟨s, rfl, (List.append_nil _).symm, (BitVec.or_zero).symm⟩
  | cons m rest ih =>
      have split : wantedRows (m :: rest) = m.wanted ++ wantedRows rest := rfl
      rw [split, List.length_append] at fits
      obtain ⟨next, first, list, name⟩ := gather_one_fits m s (by omega)
      have length : next.regs.length = s.regs.length + m.wanted.length := by
        rw [← regs_list_length, list, List.length_append, regs_list_length]
      obtain ⟨t, later, whole, names⟩ := ih next (by omega)
      refine ⟨t, ?_, ?_, ?_⟩
      · rw [gather, first]
        exact later
      · rw [whole, list, split, List.append_assoc]
      · rw [names, name, BitVec.or_assoc]
        rfl

section
variable (db : CPQdb) (cfg : PqCfg) (saved : Int) (answer : AmPqParam → Nat → Ioctl) (param : SourceInputParam)

theorem aggregates_bounded (aggregates : Aggregates db cfg saved answer param) :
    (wantedRows (diModules db cfg saved param)).length ≤ regsMaxNumber := by
  obtain ⟨outcome, run, same⟩ := aggregates
  rw [cpqSetDIModuleParam, collect_all_gather] at run
  obtain ⟨t, gathered, rfl⟩ := Option.map_eq_some_iff.mp run
  have bounded := gather_bounded _ _ t (Nat.zero_le _) gathered
  by_cases empty : wantedRows (diModules db cfg saved param) = []
  · rw [empty]
    exact Nat.zero_le _
  · rw [wantedParam, if_neg empty] at same
    by_cases none : t.regs.length ≠ 0
    · rw [if_pos none] at same
      have length : t.regs.length = (wantedRows (diModules db cfg saved param)).length :=
        congrArg AmPqParam.tableLen (Option.some.inj same)
      rw [← length]
      exact bounded
    · rw [if_neg none] at same
      cases same

theorem cpq_set_di_module_param_aggregates :
    Aggregates db cfg saved answer param ↔ (wantedRows (diModules db cfg saved param)).length ≤ regsMaxNumber := by
  constructor
  · exact aggregates_bounded db cfg saved answer param
  · intro fits
    have start : AmRegs.zero.length = 0 := rfl
    obtain ⟨t, gathered, list, names⟩ := gather_fits (diModules db cfg saved param) ⟨.zero, 0⟩ (by rw [start]; omega)
    have rows : t.regs.list = wantedRows (diModules db cfg saved param) := list
    have length : t.regs.length = (wantedRows (diModules db cfg saved param)).length := by rw [← rows, regs_list_length]
    have name : t.tableName = wantedNames (diModules db cfg saved param) := names.trans BitVec.zero_or
    refine ⟨_, by rw [cpqSetDIModuleParam, collect_all_gather, gathered, Option.map_some], ?_⟩
    rw [wantedParam, length]
    by_cases empty : wantedRows (diModules db cfg saved param) = []
    · rw [if_pos empty, if_neg (by simp [empty])]
    · rw [if_neg empty, if_pos (by simpa using empty), rows, name]

end

-- Two tables of 500 rows, each below the bound.
def halfTable : List AmReg := List.replicate 500 ⟨0, 0x1700, 0xff, 0x12⟩

def diAndNr : PqCfg := ⟨true, false, false, true, false⟩

theorem di_and_nr_rows (rows : List AmReg) (saved : Int) (param : SourceInputParam) :
    wantedRows (diModules (.uniform rows) diAndNr saved param) = rows ++ rows := by
  show rows ++ ([] ++ ([] ++ (rows ++ ([] ++ [])))) = rows ++ rows
  rw [List.append_nil, List.append_nil, List.nil_append, List.nil_append]

theorem two_halves_overflow :
    ¬Aggregates (.uniform halfTable) diAndNr vppNoiseReductionModeMid (fun _ _ => ⟨0, false⟩)
      ⟨.hdmi1, tvinSigFmtHdmi1920x1080p60hz, 0⟩ := by
  intro aggregates
  have bounded := aggregates_bounded _ _ _ _ _ aggregates
  rw [di_and_nr_rows, List.length_append, halfTable, List.length_replicate] at bounded
  exact absurd bounded (by decide)

end Droidlogic.Pq.DiRegs
