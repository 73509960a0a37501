import Droidlogic.Lib.CString

set_option autoImplicit false

namespace Droidlogic.Bootenv

open Droidlogic.Lib

def maxUbootRwretry : Nat := 5

def profixUbootenvVar : Bytes := ascii ['u', 'b', 'o', 'o', 't', 'e', 'n', 'v', '.', 'v', 'a', 'r', '.']

def bootcmd : CStr := ⟨ascii ['b', 'o', 'o', 't', 'c', 'm', 'd'], by decide⟩

-- init() takes the first device node that exists: /dev/nand_env, /dev/block/env
-- or /dev/block/ubootenv. Only the last one asks the MTD layer for its size, and
-- keeps sizeof(long) bytes for the checksum instead of four. No path contains
-- "mtd", so the erase branch of save() is never taken.
inductive EnvDevice where
  | nandEnv
  | blockEnv
  | blockUbootenv (size sizeofLong : Nat) (room : 4 ≤ sizeofLong ∧ sizeofLong ≤ size)

def mEnvPartitionSize : EnvDevice → Nat
  | .nandEnv => 0x10000
  | .blockEnv => 0x10000
  | .blockUbootenv size _ _ => size

def mEnvSize : EnvDevice → Nat
  | .nandEnv => 0x10000 - 4
  | .blockEnv => 0x10000 - 4
  | .blockUbootenv size sizeofLong _ => size - sizeofLong

-- struct env_image, and what the partition holds behind its mEnvSize data bytes.
-- The same layout is read from and written to the flash.
structure EnvImage (device : EnvDevice) where
  crc : UInt32
  data : Bytes
  behind : Bytes
  data_size : data.length = mEnvSize device
  behind_size : 4 + data.length + behind.length = mEnvPartitionSize device
deriving DecidableEq

structure EnvAttribute where
  key : CharArray 256
  value : CharArray 1024
deriving DecidableEq

def EnvAttribute.cleared : EnvAttribute :=
  ⟨⟨CStr.empty, by decide⟩, ⟨CStr.empty, by decide⟩⟩

-- "%s=%s"
def EnvAttribute.text (attr : EnvAttribute) : Bytes := attr.key.str.bytes ++ 0x3D :: attr.value.str.bytes

-- mEnvData is none when its image is NULL or has been freed. The list is
-- mEnvAttrHeader followed by what its next pointers reach.
structure Ubootenv (device : EnvDevice) where
  mEnvData : Option (EnvImage device)
  attributes : List EnvAttribute
  mEnvInitDone : Bool
deriving DecidableEq

structure Board (device : EnvDevice) where
  env : Ubootenv device
  flash : EnvImage device
deriving DecidableEq

def parseEntry (proc : Bytes) : Option EnvAttribute :=
  match cut 0x3D proc with
  | none => some .cleared
  | some (key, value) => do
      let key ← strcpy 256 (.read key)
      let value ← strcpy 1024 (.read value)
      some ⟨key, value⟩

-- proc holds what has been scanned since the start of the entry. The result is
-- none when a scan leaves the data or a copy leaves its array: a scan that goes on
-- into the partition's bytes behind the data counts as one that leaves it, though
-- the buffer holds them (behind) and a NUL there would end it. The NULs written
-- over the first '=' of every entry are not kept: formatAttribute clears the
-- data before anything reads it again.
def parseLoop (proc : Bytes) : Bytes → Option (List EnvAttribute)
  | [] => none
  | byte :: rest =>
      if byte ≠ 0 then parseLoop (proc ++ [byte]) rest
      else
        match parseEntry proc with
        | none => none
        | some attr =>
            match rest.head? with
            | none => none
            | some next => if next = 0 then some [attr] else (parseLoop [] rest).map fun attrs => attr :: attrs

def parseAttribute (data : Bytes) : Option (List EnvAttribute) := parseLoop [] data

def lookup (key : CStr) : List EnvAttribute → Option CStr
  | [] => none
  | attr :: next => if key = attr.key.str then some attr.value.str else lookup key next

section
variable {device : EnvDevice}

def get (env : Ubootenv device) (key : CStr) : Option CStr :=
  if env.mEnvInitDone then lookup key env.attributes else none

def setAttribute (key value : CStr) (createNew : Bool) : List EnvAttribute → Option (Nat × List EnvAttribute)
  | [] =>
      if createNew then do
        let newKey ← strcpy 256 key
        let newValue ← strcpy 1024 value
        some (1, [⟨newKey, newValue⟩])
      else some (0, [])
  | attr :: next =>
      if key = attr.key.str then do
        let newValue ← strcpy 1024 value
        some (2, { attr with value := newValue } :: next)
      else (setAttribute key value createNew next).map fun (code, attrs) => (code, attr :: attrs)

-- An entry of fewer than three bytes is printed but not stepped over.
def formatLoop : Bytes → Nat → List EnvAttribute → Option Bytes
  | data, _, [] => some data
  | data, offset, attr :: next =>
      match overwrite data offset (attr.text ++ [0]) with
      | none => none
      | some printed =>
          formatLoop printed (if attr.text.length < 3 then offset else offset + (attr.text.length + 1)) next

def formatAttribute (size : Nat) (attrs : List EnvAttribute) : Option Bytes :=
  formatLoop (List.replicate size 0) 0 attrs

theorem format_loop_length (data result : Bytes) (offset : Nat) (attrs : List EnvAttribute)
    (formatted : formatLoop data offset attrs = some result) : result.length = data.length := by
  induction attrs generalizing data offset with
  | nil => rw [Option.some.inj formatted]
  | cons attr next ih =>
      cases written : overwrite data offset (attr.text ++ [0]) with
      | none => simp [formatLoop, written] at formatted
      | some printed =>
          simp only [formatLoop, written] at formatted
          rw [ih _ _ formatted, overwrite_length _ _ _ _ written]

theorem format_length (size : Nat) (data : Bytes) (attrs : List EnvAttribute)
    (formatted : formatAttribute size attrs = some data) : data.length = size := by
  simpa using format_loop_length _ _ _ _ formatted

variable (crc32 : Bytes → UInt32)

def EnvImage.refill (image : EnvImage device) (data : Bytes) (size : data.length = mEnvSize device) :
    EnvImage device :=
  { crc := crc32 data, data := data, behind := image.behind, data_size := size,
    behind_size := by rw [size, ← image.data_size]; exact image.behind_size }

-- One pass through open() and write(). A failed write may leave anything behind.
inductive SaveOutcome (device : EnvDevice) where
  | openFailed
  | writeFailed (left : EnvImage device)
  | stored

-- The image is formatted before the partition is opened; without a live image
-- the writes go through a NULL or freed pointer.
def save (board : Board device) (outcome : SaveOutcome device) : Option (Int × Board device) :=
  match board.env.mEnvData with
  | none => none
  | some image =>
      match formatted : formatAttribute (mEnvSize device) board.env.attributes with
      | none => none
      | some data =>
          let fresh := image.refill crc32 data (format_length _ _ _ formatted)
          let env := { board.env with mEnvData := some fresh }
          match outcome with
          | .openFailed => some (-1, ⟨env, board.flash⟩)
          | .writeFailed left => some (-3, ⟨env, left⟩)
          | .stored => some (0, ⟨env, fresh⟩)

-- while (i < MAX_UBOOT_RWRETRY && ret < 0), with left = MAX_UBOOT_RWRETRY - i.
def saveRetry (outcomes : Nat → SaveOutcome device) : Nat → Int → Board device → Option (Int × Board device)
  | 0, ret, board => some (ret, board)
  | left + 1, ret, board =>
      if ret < 0 then
        match save crc32 board (outcomes (maxUbootRwretry - (left + 1))) with
        | none => none
        | some (code, next) => saveRetry outcomes left code next
      else some (ret, board)

def isEnv (propName : CStr) : Bool :=
  profixUbootenvVar.isPrefixOf propName.bytes && decide (profixUbootenvVar.length < propName.bytes.length)

def envNameOf (name : CStr) : Option CStr :=
  if name.bytes = profixUbootenvVar ++ bootcmd.bytes then some bootcmd
  else if isEnv name then some (name.drop profixUbootenvVar.length)
  else none

def updateValue (board : Board device) (name value : CStr) (outcomes : Nat → SaveOutcome device) :
    Option (Int × Board device) :=
  if board.env.mEnvInitDone = false then some (-1, board)
  else
    match envNameOf name with
    | none => some (-2, board)
    | some envName =>
        if value = (get board.env envName).getD .empty then some (0, board)
        else
          match setAttribute envName value true board.env.attributes with
          | none => none
          | some (_, attrs) =>
              saveRetry crc32 outcomes maxUbootRwretry (-1) ⟨{ board.env with attributes := attrs }, board.flash⟩

def getValue (env : Ubootenv device) (key : CStr) : Option CStr :=
  if isEnv key then get env (key.drop profixUbootenvVar.length) else none

inductive ReadOutcome where
  | openFailed
  | mallocFailed
  | shortRead
  | whole

-- init() frees the image after every result below -2, which is where a short
-- read and a checksum mismatch end.
def readPartitionData (env : Ubootenv device) (flash : EnvImage device) :
    ReadOutcome → Option (Int × Ubootenv device)
  | .openFailed => some (-1, env)
  | .mallocFailed => some (-2, env)
  | .shortRead => some (-5, { env with mEnvData := none })
  | .whole =>
      if crc32 flash.data ≠ flash.crc then some (-3, { env with mEnvData := none })
      else
        match parseAttribute flash.data with
        | none => none
        | some attrs => some (0, { env with mEnvData := some flash, attributes := attrs })

def readRetry (flash : EnvImage device) (reads : Nat → ReadOutcome) :
    Nat → Int → Ubootenv device → Option (Nat × Ubootenv device)
  | 0, _, env => some (0, env)
  | left + 1, ret, env =>
      if ret < 0 then
        match readPartitionData crc32 env flash (reads (maxUbootRwretry - (left + 1))) with
        | none => none
        | some (code, next) => readRetry flash reads left code next
      else some (left + 1, env)

inductive MtdQuery where
  | openFailed
  | infoFailed
  | answered

def MtdQuery.code : EnvDevice → MtdQuery → Int
  | .blockUbootenv _ _ _, .openFailed => -2
  | .blockUbootenv _ _ _, .infoFailed => -3
  | _, _ => 0

-- propertyLoad() sets mEnvInitDone; a load that needs the fifth attempt is
-- reported as failed and does not reach it.
def init (env : Ubootenv device) (flash : EnvImage device) (query : MtdQuery) (reads : Nat → ReadOutcome) :
    Option (Int × Ubootenv device) :=
  if query.code device < 0 then some (query.code device, env)
  else
    match readRetry crc32 flash reads maxUbootRwretry (-1) env with
    | none => none
    | some (0, next) => some (-2, next)
    | some (_ + 1, next) => some (0, { next with mEnvInitDone := true })

def reInit (board : Board device) (query : MtdQuery) (reads : Nat → ReadOutcome) :
    Option (Int × Board device) :=
  let env := { board.env with mEnvData := none, attributes := [.cleared] }
  (init crc32 env board.flash query reads).map fun (_, next) => (0, ⟨next, board.flash⟩)

end

end Droidlogic.Bootenv
