import Droidlogic.Lib.Bytes
import Droidlogic.Pq.Source

set_option autoImplicit false

namespace Droidlogic.Pq.Factory

open Lib

abbrev Word := BitVec 32

abbrev TableName := Bytes

structure RegKey where
  nodeNumber : Nat
  regAddr : Nat
  regMask : Nat
deriving DecidableEq

structure RegRow where
  key : RegKey
  regValue : Word
deriving DecidableEq

-- The tables of registers, and the tables that the general ones name for a signal; "" is none.
structure PqDb where
  rows : TableName → List RegRow
  generalCvd2 : SourceInputParam → TableName
  generalBlackBlue : SourceInputParam → TableName
  generalSharpnessG9 : SourceInputParam → List TableName
  generalCommon : SourceInputParam → List TableName

def PqDb.listed (db : PqDb) (names : List TableName) : List (TableName × RegRow) :=
  names.flatMap fun name => (db.rows name).map fun row => (name, row)

def wanted (want : TableName → RegKey → Bool) (entry : TableName × RegRow) : Bool := want entry.1 entry.2.key

-- The first row that a loop over some tables and their rows stops at.
def PqDb.find (db : PqDb) (names : List TableName) (want : TableName → RegKey → Bool) : Option (TableName × RegRow) :=
  (db.listed names).find? (wanted want)

def PqDb.findIndex (db : PqDb) (names : List TableName) (want : TableName → RegKey → Bool) : Option Nat :=
  (db.listed names).findIdx? (wanted want)

-- update name set RegValue = value where …
def RegRow.set (changed : RegKey → Bool) (value : Word) (row : RegRow) : RegRow :=
  if changed row.key then { row with regValue := value } else row

def PqDb.update (db : PqDb) (name : TableName) (changed : RegKey → Bool) (value : Word) : PqDb :=
  { db with rows := fun other => if other = name then (db.rows other).map (RegRow.set changed value) else db.rows other }

def amend (name : TableName) (changed : RegKey → Bool) (value : Word) (entry : TableName × RegRow) :
    TableName × RegRow :=
  (entry.1, if entry.1 = name then entry.2.set changed value else entry.2)

theorem set_key (changed : RegKey → Bool) (value : Word) (row : RegRow) : (row.set changed value).key = row.key := by
  rw [RegRow.set]
  split <;> rfl

theorem amend_wanted (name : TableName) (changed : RegKey → Bool) (value : Word) (want : TableName → RegKey → Bool) :
    wanted want ∘ amend name changed value = wanted want := by
  funext entry
  simp only [Function.comp, wanted, amend]
  by_cases same : entry.1 = name
  · rw [if_pos same, set_key]
  · rw [if_neg same]

theorem listed_update (db : PqDb) (name : TableName) (changed : RegKey → Bool) (value : Word) (names : List TableName) :
    (db.update name changed value).listed names = (db.listed names).map (amend name changed value) := by
  simp only [PqDb.listed, List.map_flatMap, List.map_map]
  congr 1
  funext other
  by_cases same : other = name
  · simp only [PqDb.update, if_pos same, List.map_map]
    exact List.map_congr_left fun row _ => by simp [amend, same]
  · simp only [PqDb.update, if_neg same]
    exact List.map_congr_left fun row _ => by simp [amend, same]

theorem find_update (db : PqDb) (name : TableName) (changed : RegKey → Bool) (value : Word) (names : List TableName)
    (want : TableName → RegKey → Bool) :
    (db.update name changed value).find names want = (db.find names want).map (amend name changed value) := by
  rw [PqDb.find, listed_update, List.find?_map, amend_wanted, PqDb.find]

theorem index_update (db : PqDb) (name : TableName) (changed : RegKey → Bool) (value : Word) (names : List TableName)
    (want : TableName → RegKey → Bool) :
    (db.update name changed value).findIndex names want = db.findIndex names want := by
  rw [PqDb.findIndex, listed_update, List.findIdx?_map, amend_wanted, PqDb.findIndex]

theorem find_wanted (db : PqDb) (names : List TableName) (want : TableName → RegKey → Bool)
    (entry : TableName × RegRow) (found : db.find names want = some entry) : want entry.1 entry.2.key = true := by
  have stopped : wanted want entry = true := List.find?_some found
  exact stopped

-- An update of other rows is not seen.
theorem find_other (db : PqDb) (name : TableName) (changed : RegKey → Bool) (value : Word) (names : List TableName)
    (want : TableName → RegKey → Bool) (other : ∀ key, want name key = true → changed key = false) :
    (db.update name changed value).find names want = db.find names want := by
  rw [find_update]
  cases found : db.find names want with
  | none => rfl
  | some entry =>
      have mine := find_wanted db names want entry found
      have kept : amend name changed value entry = entry := by
        by_cases same : entry.1 = name
        · have away := other entry.2.key (same ▸ mine)
          simp [amend, RegRow.set, away]
        · simp [amend, same]
      rw [Option.map_some, kept]

theorem find_own (db : PqDb) (changed : RegKey → Bool) (value : Word) (names : List TableName)
    (want : TableName → RegKey → Bool) (name : TableName) (row : RegRow) (found : db.find names want = some (name, row))
    (updated : changed row.key = true) :
    (db.update name changed value).find names want = some (name, { row with regValue := value }) := by
  rw [find_update, found, Option.map_some]
  simp [amend, RegRow.set, updated]

theorem find_cons (db : PqDb) (name : TableName) (rest : List TableName) (want : TableName → RegKey → Bool) :
    db.find (name :: rest) want = (db.find [name] want).or (db.find rest want) := by
  simp only [PqDb.find, PqDb.listed, List.flatMap_cons, List.flatMap_nil, List.append_nil, List.find?_append]

theorem find_table (db : PqDb) (name : TableName) (want : TableName → RegKey → Bool) (entry : TableName × RegRow)
    (found : db.find [name] want = some entry) : entry.1 = name := by
  have member := List.mem_of_find?_eq_some found
  simp only [PqDb.listed, List.flatMap_cons, List.flatMap_nil, List.append_nil, List.mem_map] at member
  obtain ⟨row, _, rfl⟩ := member
  rfl

-- The first row of a narrower kind is in the table where the first of the wider kind is, if that has one.
theorem find_narrower (db : PqDb) (names : List TableName) (want wider : TableName → RegKey → Bool)
    (narrower : ∀ name key, want name key = true → wider name key = true) (first entry : TableName × RegRow)
    (found : db.find names wider = some first) (inTable : db.find [first.1] want = some entry) :
    db.find names want = some entry := by
  induction names with
  | nil => cases found
  | cons name rest ih =>
      rw [find_cons] at found ⊢
      cases here : db.find [name] wider with
      | some other =>
          rw [here, Option.some_or, Option.some.injEq] at found
          subst found
          rw [find_table db name wider other here] at inTable
          rw [inTable, Option.some_or]
      | none =>
          rw [here, Option.none_or] at found
          have absent : db.find [name] want = none := by
            refine List.find?_eq_none.mpr fun entry member mine => ?_
            exact List.find?_eq_none.mp here entry member (narrower entry.1 entry.2.key mine)
          rw [absent, Option.none_or]
          exact ih found

def cvdYcDelay : Nat := 0
def decodeCti : Nat := 1
def sr0CtiGain0 : Nat := 2
def sr0CtiGain3 : Nat := 5
def sr1CtiGain0 : Nat := 6
def sr1CtiGain3 : Nat := 9

-- The types are those of the CTI: a brightness or contrast of the decoder has the same numbers.
def cvd2Signal (param : SourceInputParam) (paramType : Nat) : SourceInputParam :=
  if paramType = cvdYcDelay ∨ paramType = decodeCti then { param with sigFmt := tvinSigFmtCvbsNtscM } else param

def atRow (regAddr regMask : Nat) (key : RegKey) : Bool := key.regAddr = regAddr && key.regMask = regMask

def pqGetCvd2Param (db : PqDb) (param : SourceInputParam) (regAddr paramType regMask : Nat) : Word :=
  let name := db.generalCvd2 (cvd2Signal param paramType)
  if name = [] then -1
  else ((db.find [name] fun _ => atRow regAddr regMask).map fun entry => entry.2.regValue).getD (-1)

def pqSetCvd2Param (db : PqDb) (param : SourceInputParam) (regAddr : Nat) (value : Word) (paramType regMask : Nat) : PqDb :=
  let name := db.generalCvd2 (cvd2Signal param paramType)
  if name = [] then db else db.update name (atRow regAddr regMask) value

def sharpnessTables (db : PqDb) (param : SourceInputParam) : List TableName :=
  if db.generalSharpnessG9 param = [] then db.generalSharpnessG9 { param with sigFmt := tvinSigFmtNull }
  else db.generalSharpnessG9 param

def sharpness0 : TableName := ascii ['S', 'h', 'a', 'r', 'p', 'n', 'e', 's', 's', '_', '0']
def sharpness1 : TableName := ascii ['S', 'h', 'a', 'r', 'p', 'n', 'e', 's', 's', '_', '1']

def ofGain (paramType : Nat) (name : TableName) : Bool :=
  (sr0CtiGain0 ≤ paramType && paramType ≤ sr0CtiGain3 && sharpness0.isPrefixOf name) ||
    (sr1CtiGain0 ≤ paramType && paramType ≤ sr1CtiGain3 && sharpness1.isPrefixOf name)

def gainRow (paramType regAddr regMask : Nat) (name : TableName) (key : RegKey) : Bool :=
  ofGain paramType name && key.nodeNumber = 1 && atRow regAddr regMask key

def gainTable (paramType regAddr : Nat) (name : TableName) (key : RegKey) : Bool :=
  ofGain paramType name && key.nodeNumber = 1 && key.regAddr = regAddr

def pqGetSharpnessCtiParams (db : PqDb) (param : SourceInputParam) (regAddr paramType regMask : Nat) : Word :=
  if paramType = cvdYcDelay ∨ paramType = decodeCti then pqGetCvd2Param db param regAddr paramType regMask
  else
    ((db.find (sharpnessTables db param) (gainRow paramType regAddr regMask)).map fun entry => entry.2.regValue).getD 0

-- The table is chosen by the address alone, and its row by the mask too.
def pqSetSharpnessCtiParams (db : PqDb) (param : SourceInputParam) (regAddr : Nat) (value : Word)
    (paramType regMask : Nat) : PqDb :=
  if paramType = cvdYcDelay ∨ paramType = decodeCti then pqSetCvd2Param db param regAddr value paramType regMask
  else
    match db.find (sharpnessTables db param) (gainTable paramType regAddr) with
    | some (name, _) => db.update name (fun key => key.nodeNumber = 1 && atRow regAddr regMask key) value
    | none => db

inductive Timing
  | sd
  | hd
deriving DecidableEq

def fixed : List Char := ['_', 'F', 'i', 'x', 'e', 'd']

def timed (timing : Timing) (sd hd : List Char) : TableName :=
  match timing with
  | .sd => sharpness0 ++ ascii (sd ++ fixed)
  | .hd => sharpness1 ++ ascii (hd ++ fixed)

-- none is NULL.
def getSharpnessTableName (param : SourceInputParam) (timing : Timing) : Option TableName :=
  match param.sourceInput with
  | .tv => some (timed timing ['_', 'A', 'T', 'V'] ['_', 'A', 'T', 'V'])
  | .av1 | .av2 =>
      if param.sigFmt = tvinSigFmtCvbsNtscM ∨ param.sigFmt = tvinSigFmtCvbsNtsc443 then
        some (timed timing ['_', 'A', 'V', '_', 'N', 'T', 'S', 'C'] ['_', 'A', 'V', '_', 'N', 'T', 'S', 'C'])
      else some (timed timing ['_', 'A', 'V', '_', 'P', 'A', 'L'] ['_', 'A', 'V', '_', 'P', 'A', 'L'])
  | .hdmi1 | .hdmi2 | .hdmi3 | .hdmi4 =>
      some (timed timing ['_', 'H', 'D', 'M', 'I', '_', 'S', 'D'] ['_', 'H', 'D', 'M', 'I', '_', 'H', 'D'])
  | .mpeg => some (timed timing ['_', 'M', 'P', 'E', 'G', '_', 'S', 'D'] ['_', 'M', 'P', 'E', 'G', '_', 'H', 'D'])
  | .dtv => some (timed timing ['_', 'D', 'T', 'V', '_', 'S', 'D'] ['_', 'D', 'T', 'V', '_', 'H', 'D'])
  | _ => none

def commonTables (db : PqDb) (param : SourceInputParam) : List TableName :=
  if db.generalCommon param = [] then db.generalCommon { param with sigFmt := tvinSigFmtNull }
  else db.generalCommon param

def regsMaxNumber : Nat := 900

def sharpnessRow (table : TableName) (regAddr : Nat) (name : TableName) (key : RegKey) : Bool :=
  name = table && key.regAddr = regAddr

-- none is a strcmp with NULL, or a register stored past the end of regs.
def pqGetSharpnessAdvancedParams (db : PqDb) (param : SourceInputParam) (regAddr : Nat) (timing : Timing) : Option Word :=
  match getSharpnessTableName param timing with
  | none => if db.listed (commonTables db param) = [] then some 0 else none
  | some table =>
      match db.findIndex (commonTables db param) (sharpnessRow table regAddr) with
      | none => some 0
      | some index =>
          if index < regsMaxNumber then
            (db.find (commonTables db param) (sharpnessRow table regAddr)).map fun entry => entry.2.regValue
          else none

def pqSetSharpnessAdvancedParams (db : PqDb) (param : SourceInputParam) (regAddr : Nat) (value : Word)
    (timing : Timing) : Option PqDb :=
  match getSharpnessTableName param timing with
  | none => if db.listed (commonTables db param) = [] then some db else none
  | some table =>
      match db.find (commonTables db param) (sharpnessRow table regAddr) with
      | none => some db
      | some (name, _) => some (db.update name (fun key => key.regAddr = regAddr) value)

-- none is the value of a register that was never stored.
def pqGetBeParams (db : PqDb) (param : SourceInputParam) (regAddr : Nat) : Option Word :=
  let name := db.generalBlackBlue param
  if name = [] ∨ regsMaxNumber < ((db.rows name).filter fun row => row.key.regAddr = regAddr).length then none
  else (db.find [name] fun _ key => key.regAddr = regAddr).map fun entry => entry.2.regValue

def pqSetBeParams (db : PqDb) (param : SourceInputParam) (regAddr : Nat) (value : Word) : Int × PqDb :=
  let name := db.generalBlackBlue param
  if name = [] then (-1, db) else (1, db.update name (fun key => key.regAddr = regAddr) value)

end Droidlogic.Pq.Factory
