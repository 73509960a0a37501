import Droidlogic.Lib.CString

set_option autoImplicit false

namespace Droidlogic.Config

open Droidlogic.Lib

def newline : UInt8 := 10
def carriageReturn : UInt8 := 13
def space : UInt8 := 32
def hash : UInt8 := 35
def equals : UInt8 := 61
def opening : UInt8 := 91
def closing : UInt8 := 93

inductive LineType
  | lineTypeSection
  | lineTypeKey
  | lineTypeComment
deriving DecidableEq

-- char Text[MAX_CONFIG_FILE_LINE_LEN]: what stood behind a shorter string stays there.
structure Text where
  bytes : Bytes
  sized : bytes.length = 512
  terminated : 0 ∈ bytes
deriving DecidableEq

def Text.str (text : Text) : CStr := CStr.read text.bytes

def Text.strAt (text : Text) (offset : Nat) : CStr := CStr.read (text.bytes.drop offset)

def Text.zero : Text := ⟨List.replicate 512 0, List.length_replicate, List.mem_replicate.mpr ⟨Nat.succ_ne_zero _, rfl⟩⟩

def Text.store (text : Text) (source : CharArray 512) : Text where
  bytes := source.str.bytes ++ 0 :: text.bytes.drop (source.str.bytes.length + 1)
  sized := by
    have fits := source.fits
    have size := text.sized
    simp only [List.length_append, List.length_cons, List.length_drop]
    omega
  terminated := List.mem_append_right _ List.mem_cons_self

-- none is a print past the array.
def Text.print (text : Text) (out : CStr) : Option Text := (strcpy 512 out).map text.store

-- pValueStart is an offset into Text.
structure Line where
  type : LineType
  text : Text
  pValueStart : Nat
deriving DecidableEq

def Line.reprinted (text : Text) (line : Line) : Line := { line with text := text }

structure CConfigFile where
  mpFileName : CharArray 256
  mpFirstLine : List Line
deriving DecidableEq

-- The lines fgets returns with a buffer of 512 bytes: room is what is left of its 511 characters.
def fgetsLines : Nat → Bytes → Bytes → List Bytes
  | _, line, [] => if line = [] then [] else [line]
  | room, line, byte :: rest =>
      if byte = newline ∨ room = 1 then (line ++ [byte]) :: fgetsLines 511 [] rest
      else fgetsLines (room - 1) (line ++ [byte]) rest

def lineStr (chunk : Bytes) : CharArray 512 where
  str := CStr.read (chunk.take 511)
  fits := by
    have whole : (CStr.read (chunk.take 511)).bytes.length ≤ (chunk.take 511).length :=
      (List.takeWhile_sublist _).length_le
    rw [List.length_take] at whole
    omega

-- Up to the newline, without one '\r' at the end, without its spaces.
def trim (bytes : Bytes) : Bytes :=
  let cut := bytes.takeWhile (· ≠ newline)
  (if cut.getLast? = some carriageReturn then cut.dropLast else cut).filter (· ≠ space)

theorem trim_part (bytes : Bytes) : (trim bytes).Sublist (bytes.takeWhile (· ≠ newline)) := by
  refine List.filter_sublist.trans ?_
  split
  · exact List.dropLast_sublist _
  · exact List.Sublist.refl _

theorem trim_sublist (bytes : Bytes) : (trim bytes).Sublist bytes := (trim_part bytes).trans (List.takeWhile_sublist _)

def allTrim (line : CharArray 512) : CharArray 512 where
  str := ⟨trim line.str.bytes, fun member => line.str.noNul ((trim_sublist _).subset member)⟩
  fits := Nat.lt_of_le_of_lt (trim_sublist _).length_le line.fits

def getLineType (str : CStr) : LineType :=
  if hash ∈ str.bytes then .lineTypeComment
  else if opening ∈ str.bytes ∧ closing ∈ str.bytes then .lineTypeSection
  else if equals ∈ str.bytes then .lineTypeKey
  else .lineTypeComment

def valueStart (str : CStr) : Nat := (str.bytes.takeWhile (· ≠ equals)).length + 1

def loadLine (chunk : Bytes) : Line :=
  let trimmed := allTrim (lineStr chunk)
  let type := getLineType trimmed.str
  { type := type
    text := Text.zero.store trimmed
    pValueStart := if type = .lineTypeKey then valueStart trimmed.str else 0 }

def loadLines (content : Bytes) : List Line := (fgetsLines 511 [] content).map loadLine

-- content is what fopen finds, none if it fails. None in all is the copy of a name past its array.
def loadFromFile (filename : Option CStr) (content : Option Bytes) (config : CConfigFile) : Option (Int × CConfigFile) :=
  match filename with
  | none => some (-1, { config with mpFirstLine := [] })
  | some filename =>
      match strcpy 256 filename with
      | none => none
      | some mpFileName =>
          match content with
          | none => some (-1, ⟨mpFileName, []⟩)
          | some content => some (0, ⟨mpFileName, loadLines content⟩)

def fileContent (lines : List Line) : Bytes :=
  lines.flatMap fun line => line.text.str.bytes ++ [carriageReturn, newline]

-- The path that is written and its new content.
def saveToFile (filename : Option CStr) (opens : Bool) (config : CConfigFile) : Int × Option (CStr × Bytes) :=
  match filename with
  | none =>
      if config.mpFileName.str.bytes.length = 0 then (-1, none)
      else if opens then (0, some (config.mpFileName.str, fileContent config.mpFirstLine)) else (-1, none)
  | some filepath => if opens then (0, some (filepath, fileContent config.mpFirstLine)) else (-1, none)

-- A pointer to a line is the line with those behind it. The SECTION list has the
-- section lines in their order: LoadFromFile appends to both lists and
-- InsertSection puts its section first in both.
abbrev LinePtr := Line × List Line

def sections : List Line → List LinePtr
  | [] => []
  | line :: rest => if line.type = .lineTypeSection then (line, rest) :: sections rest else sections rest

-- strncmp over the length of the second string finds a string that starts with it.
def Named (sectionName : CStr) (line : Line) : Prop :=
  line.type = .lineTypeSection ∧ sectionName.bytes <+: (line.text.strAt 1).bytes

def Keyed (key : CStr) (line : Line) : Prop := line.type = .lineTypeKey ∧ key.bytes <+: line.text.str.bytes

instance (sectionName : CStr) (line : Line) : Decidable (Named sectionName line) := inferInstanceAs (Decidable (_ ∧ _))

instance (key : CStr) (line : Line) : Decidable (Keyed key line) := inferInstanceAs (Decidable (_ ∧ _))

def getSection (sectionName : CStr) (lines : List Line) : Option LinePtr :=
  (sections lines).find? fun psec => Named sectionName psec.1

def keyLineFrom (key : CStr) : List Line → Option LinePtr
  | [] => none
  | line :: rest =>
      if line.type = .lineTypeSection then none
      else if Keyed key line then some (line, rest)
      else keyLineFrom key rest

def getKeyLineAtSec (pSec : LinePtr) (key : CStr) : Option LinePtr := keyLineFrom key pSec.2

def getString (config : CConfigFile) (sectionName key def_value : CStr) : CStr :=
  match getSection sectionName config.mpFirstLine with
  | none => def_value
  | some pSec =>
      match getKeyLineAtSec pSec key with
      | none => def_value
      | some pLine => pLine.1.text.strAt pLine.1.pValueStart

-- "[%s]"
def sectionText (sectionName : CStr) : CStr where
  bytes := opening :: sectionName.bytes ++ [closing]
  noNul := by
    have absent := sectionName.noNul
    simp [absent, opening, closing]

-- "%s=%s"
def keyText (key value : CStr) : CStr where
  bytes := key.bytes ++ equals :: value.bytes
  noNul := by
    have absent := And.intro key.noNul value.noNul
    simp [absent, equals]

def newSectionLine (sectionName : CStr) : Option Line :=
  (Text.zero.print (sectionText sectionName)).map fun text => ⟨.lineTypeSection, text, 0⟩

def newKeyLine (key value : CStr) : Option Line :=
  (Text.zero.print (keyText key value)).map fun text => ⟨.lineTypeKey, text, key.bytes.length + 1⟩

-- Changes what is behind the line of the section that getSection finds.
def atSection (sectionName : CStr) (change : List Line → List Line) : List Line → List Line
  | [] => []
  | line :: rest =>
      if Named sectionName line then line :: change rest
      else line :: atSection sectionName change rest

-- Changes the line that keyLineFrom finds.
def atKey (key : CStr) (change : Line → Line) : List Line → List Line
  | [] => []
  | line :: rest =>
      if Keyed key line then change line :: rest
      else line :: atKey key change rest

def setLines (sectionName key value : CStr) (lines : List Line) : Option (List Line) :=
  match getSection sectionName lines with
  | none =>
      match newSectionLine sectionName with
      | none => none
      | some pNewSecLine => (newKeyLine key value).map fun pNewKeyLine => pNewSecLine :: pNewKeyLine :: lines
  | some pSec =>
      match getKeyLineAtSec pSec key with
      | none => (newKeyLine key value).map fun pNewKeyLine => atSection sectionName (pNewKeyLine :: ·) lines
      | some pLine =>
          (pLine.1.text.print (keyText key value)).map fun text =>
            atSection sectionName (atKey key (Line.reprinted text)) lines

def setString (sectionName key value : CStr) (opens : Bool) (config : CConfigFile) :
    Option (Int × CConfigFile × Option (CStr × Bytes)) :=
  (setLines sectionName key value config.mpFirstLine).map fun lines =>
    (0, { config with mpFirstLine := lines }, (saveToFile none opens { config with mpFirstLine := lines }).2)

end Droidlogic.Config
