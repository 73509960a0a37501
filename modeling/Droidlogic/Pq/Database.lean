import Droidlogic.Lib.Bytes
import Droidlogic.Lib.MaskedWrite
import Droidlogic.Pq.HdrStatus

set_option autoImplicit false

namespace Droidlogic.Pq

open Lib

abbrev Word := BitVec 32

def regsMaxNumber : Nat := 900

structure AmReg where
  type : Word
  addr : Word
  mask : Word
  val : Word
deriving DecidableEq

-- What loading an entry does.
def AmReg.write (reg : AmReg) : Masked Word 32 := ⟨reg.addr, reg.mask, reg.val⟩

-- What a select answers. none is an SQL error, which leaves the cursor without rows.
abbrev Selected (Row : Type) := Option (List Row)

def Selected.ret {Row : Type} (selected : Selected Row) : Int := if selected.isSome then 0 else -1

def Selected.rows {Row : Type} (selected : Selected Row) : List Row := selected.getD []

theorem selected_ret_rows {Row : Type} (selected : Selected Row) (some_row : selected.rows ≠ []) : selected.ret = 0 := by
  cases selected with
  | none => exact absurd rfl some_row
  | some rows => rfl

inductive GeneralTable
  | di
  | mcdi
  | deblock
  | nr2
  | demosquito
  | brightness
  | contrast
  | saturation
  | hue
  | sharpness0Fixed
  | sharpness0Variable
deriving DecidableEq

-- The where clause of a select from a general table.
inductive GeneralKey
  | source (param : SourceInputParam)
  | sourceOut (param : SourceInputParam) (tvoutCvbs : Int)
  | out (tvoutCvbs : Int)
  | hdr
deriving DecidableEq

inductive DbMatchType
  | noDbversion
  | newcodeOlddb
  | isMatch
  | oldcodeNewdb
deriving DecidableEq

def outputTypeHdmi4k : Int := 10
def outputTypeMax : Int := 16
def tvinSigFmtHdmiHdr : SigFmt := 0x447

-- The where clause of a select from a register table.
structure RegKey where
  name : Bytes
  columns : List (Bytes × Int)
deriving DecidableEq

structure CPQdb where
  control : Hdr.Control
  matchType : DbMatchType
  -- TVOUT_CVBS is a column of GeneralSharpness0FixedTable.
  cvbsColumn : Bool
  general : GeneralTable → GeneralKey → Selected Bytes
  registers : RegKey → Selected AmReg

-- A database in which every select from a register table answers rows.
def CPQdb.uniform (rows : List AmReg) : CPQdb :=
  ⟨Hdr.Control.init false, .isMatch, true, fun _ _ => some [ascii ['T']], fun _ => some rows⟩

def generalKey (db : CPQdb) (table : GeneralTable) (param : SourceInputParam) : Option GeneralKey :=
  let out := db.control.dbOutputType
  match db.matchType with
  | .noDbversion =>
      if db.cvbsColumn then
        some (.sourceOut param (if outputTypeHdmi4k ≤ out ∧ out ≤ outputTypeMax then Hdr.outputTypeLvds else out))
      else some (.source param)
  | .newcodeOlddb => none
  | .oldcodeNewdb => none
  | .isMatch =>
      if table = .sharpness0Fixed ∨ table = .sharpness0Variable then
        if out = Hdr.outputTypeLvds then some (.source param) else some (.out out)
      else some (.sourceOut param Hdr.outputTypeLvds)

def getTableName (db : CPQdb) (table : GeneralTable) (param : SourceInputParam) : Bytes :=
  match generalKey db table param with
  | none => []
  | some key => (db.general table key).rows.headD []

def checkHdrStatus (db : CPQdb) (table : GeneralTable) : Bool :=
  Hdr.checkHdrStatus (fun table => (db.general table .hdr).rows.length) db.control table

end Droidlogic.Pq
