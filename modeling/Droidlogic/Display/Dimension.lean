import Droidlogic.Lib.Run
import Droidlogic.Display.ColorDepth

set_option autoImplicit false

namespace Droidlogic.Display.Dimension

open Lib

inductive Mode3d
  | off
  | sideBySide
  | topBottom
  | framePacking
deriving DecidableEq

def keyFramePacking : Bytes := ascii ['F', 'r', 'a', 'm', 'e', 'P', 'a', 'c', 'k', 'i', 'n', 'g']

def keystr : Mode3d → Bytes
  | .off => []
  | .sideBySide => ascii ['S', 'i', 'd', 'e', 'b', 'y', 'S', 'i', 'd', 'e']
  | .topBottom => ascii ['T', 'o', 'p', 'B', 'o', 't', 't', 'o', 'm']
  | .framePacking => keyFramePacking

def supportLists : CStr :=
  ⟨ascii ['3', 'D', ' ', 's', 'u', 'p', 'p', 'o', 'r', 't', ' ', 'l', 'i', 's', 't', 's', ':'], by decide⟩

def noMode : CStr := ⟨ascii ['0', 'f', 'p', '0', 'h', 'z'], by decide⟩

def lineLen : Nat := 128
def numMax : Nat := 64
def arrayLen : Nat := 32

structure Info where
  mode : CharArray modeLen
  list : CharArray lineLen
  mo : Int32
  hz : Int32
deriving DecidableEq

def Info.zero : Info := ⟨⟨.empty, by decide⟩, ⟨.empty, by decide⟩, 0, 0⟩

structure Axis where
  x0 : Int32
  y0 : Int32
  x1 : Int32
  y1 : Int32
deriving DecidableEq

def Axis.numbers (axis : Axis) : List Int32 := [axis.x0, axis.y0, axis.x1, axis.y1]

-- sscanf leaves what it finds no number for.
def Axis.scan (axis : Axis) (numbers : List Int32) : Axis :=
  ⟨numbers.getD 0 axis.x0, numbers.getD 1 axis.y0, numbers.getD 2 axis.x1, numbers.getD 3 axis.y1⟩

inductive Fault
  | overrun
  | unterminated
  | outside
deriving DecidableEq

def copied {capacity : Nat} (copy : Option (CharArray capacity)) : Except Fault (CharArray capacity) :=
  match copy with
  | some array => .ok array
  | none => .error .overrun

-- strncpy of as many bytes as the text has, into an array of zeros.
def strncpy (capacity : Nat) (source : CStr) : Except Fault (CharArray capacity) :=
  if source.bytes.length = capacity then .error .unterminated else copied (strcpy capacity source)

def newline : UInt8 := 10
def blank : UInt8 := 32
def letterP : UInt8 := 0x70

-- left: the newlines until num is over NUM_MAX.
def getLineTotal : Nat → Bytes → Nat
  | 0, _ => 0
  | left + 1, buf =>
      match cut newline buf with
      | some (_, rest) => getLineTotal left rest + 1
      | none => if buf = [] then 0 else 1

def getLine : Nat → Bytes → Except Fault (CharArray lineLen)
  | idx, src =>
      match cut newline src with
      | none => copied (strcpy lineLen (CStr.read src))
      | some (line, rest) =>
          match idx with
          | 0 => strncpy lineLen (CStr.read line)
          | idx + 1 => getLine idx rest

def parseNumbers (mode : CharArray modeLen) : Int32 × Int32 :=
  match cut letterP mode.str.bytes with
  | some (mostr, hzstr) => if mostr.length < arrayLen then (.ofInt (atoi mostr), .ofInt (atoi hzstr)) else (0, 0)
  | none => (0, 0)

def parseLine (line : CharArray lineLen) : Except Fault Info :=
  if line.str = supportLists ∨ line.str.bytes = [] then .ok .zero
  else
    match cut blank line.str.bytes with
    | none => .ok .zero
    | some (word, rest) => do
        let mode ← strncpy modeLen (CStr.read word)
        let list ← copied (strcpy lineLen (CStr.read rest))
        let (mo, hz) := parseNumbers mode
        return ⟨mode, list, mo, hz⟩

def readEntry (cap : CStr) (i : Nat) : Except Fault Info :=
  if i < numMax then (getLine i cap.bytes).bind parseLine else .error .outside

def readList (cap : CStr) : Except Fault (List Info) :=
  (List.range (getLineTotal (numMax + 1) cap.bytes)).mapM (readEntry cap)

structure State where
  mMode3d : Mode3d
  mInitDone : Bool
  info : List Info
  stored : CharArray modeLen
  dst : CharArray modeLen
  axisStored : Axis
  axisDst : Axis
deriving DecidableEq

-- What the display shows. The axis has the numbers that stand in its node.
structure Nodes where
  mode : CharArray modeLen
  axis : List Int32
deriving DecidableEq

def init (nodes : Nodes) (cap : CStr) (state : State) : Except Fault State :=
  if state.mInitDone then .ok state
  else
    let captured := { state with mInitDone := true, stored := nodes.mode, axisStored := state.axisStored.scan nodes.axis }
    if nodes.axis.length < 4 then .ok captured
    else (readList cap).map fun info => { captured with info := info }

def isSupportFramePacking (info : List Info) : Bool := info.any fun entry => contains entry.list.str.bytes keyFramePacking

def search (key : Bytes) (stored : CStr) : List Info → Int32 × Int32 → Int32 × Int32
  | [], best => best
  | entry :: rest, (mo, hz) =>
      if contains entry.list.str.bytes key then
        if entry.mode.str = stored then (entry.mo, entry.hz)
        else if mo < entry.mo then search key stored rest (entry.mo, entry.hz)
        else if entry.mo = mo ∧ hz < entry.hz then search key stored rest (mo, entry.hz)
        else search key stored rest (mo, hz)
      else search key stored rest (mo, hz)

def is4k (stored : CStr) : Bool :=
  contains stored.bytes (ascii ['2', '1', '6', '0', 'p']) || contains stored.bytes (ascii ['s', 'm', 'p', 't', 'e'])

def layoutMark (mode3d : Mode3d) : Bytes := if mode3d = .framePacking then ascii ['f', 'p'] else ascii ['p']

def modeText (mode3d : Mode3d) (mo hz : Bytes) : Bytes := mo ++ layoutMark mode3d ++ hz ++ ascii ['h', 'z']

-- mSupport.dst: the numbers are printed into arrays of 8.
def chooseMode (mode3d : Mode3d) (stored : CStr) (info : List Info) : Except Fault (CharArray modeLen) :=
  if mode3d = .framePacking ∨ is4k stored then
    let (mo, hz) := search (keystr mode3d) stored info (0, 0)
    if (decimal mo.toInt).length < 8 ∧ (decimal hz.toInt).length < 8 then
      copied (strcpy modeLen (CStr.read (modeText mode3d (decimal mo.toInt) (decimal hz.toInt))))
    else .error .overrun
  else
    match info.find? fun entry => entry.mode.str = stored with
    | some entry =>
        if contains entry.list.str.bytes (keystr mode3d) then copied (strcpy modeLen stored)
        else .ok ⟨.empty, by decide⟩
    | none => .ok ⟨.empty, by decide⟩

-- setSourceOutputMode sets its argument.
def showMode (nodes : Nodes) (mode : CharArray modeLen) : Nodes :=
  if 0 < mode.str.bytes.length ∧ mode.str ≠ noMode ∧ mode.str ≠ nodes.mode.str then { nodes with mode := mode }
  else nodes

def setDispMode (nodes : Nodes) (state : State) (mode3d : Mode3d) : Except Fault (Nodes × State) :=
  if mode3d = .off then
    if state.stored.str.bytes.length ≠ 0 then
      .ok (showMode nodes state.stored, { state with mInitDone := false })
    else .ok (nodes, state)
  else
    (chooseMode mode3d state.stored.str state.info).map fun dst => (showMode nodes dst, { state with dst := dst })

def windowOf (state : State) (mode3d : Mode3d) : Axis :=
  if mode3d = .off then state.axisStored
  else if contains state.dst.str.bytes (ascii ['7', '2', '0']) then
    if mode3d = .framePacking then ⟨0, 0, 1279, 1469⟩ else ⟨0, 0, 1279, 719⟩
  else if contains state.dst.str.bytes (ascii ['1', '0', '8', '0']) then
    if mode3d = .framePacking then ⟨0, 0, 1919, 2204⟩ else ⟨0, 0, 1919, 1079⟩
  else state.axisDst

def setWindowAxis (nodes : Nodes) (state : State) (mode3d : Mode3d) : Nodes × State :=
  let axis := windowOf state mode3d
  ({ nodes with axis := axis.numbers }, { state with axisDst := axis })

def darkened (nodes : Nodes) : Nodes := { nodes with mode := ⟨nullMode, by decide⟩ }

structure Result where
  ret : Int
  nodes : Nodes
  state : State

-- The sink reports 3D support.
def set3DMode (nodes : Nodes) (cap : CStr) (state : State) (mode3d : Mode3d) : Except Fault Result :=
  if state.mMode3d = mode3d then .ok ⟨0, nodes, state⟩
  else do
    let ready ← init nodes cap state
    if mode3d = .framePacking ∧ ¬isSupportFramePacking ready.info then return ⟨-1, nodes, ready⟩
    else
      let (shown, set) ← setDispMode (darkened nodes) { ready with mMode3d := mode3d } mode3d
      let (windowed, last) := setWindowAxis shown set mode3d
      return ⟨0, windowed, last⟩

def Shown (mode : CStr) : Prop := mode ≠ .empty ∧ mode ≠ noMode ∧ mode ≠ nullMode

-- A display mode has a name.
structure DisplayName where
  text : CharArray modeLen
  shown : Shown text.str

structure System where
  nodes : Nodes
  state : State
  ret : Int
  -- What the display showed at the call that read it, none while no call since the last 3doff has.
  read : Option Nodes
  -- What the display showed when the 3D period began, none while 3D is off.
  period : Option Nodes

inductive Input
  | set3DMode (mode3d : Mode3d) (cap : CStr)
  | setMode (name : DisplayName)
  | setWindow (axis : Axis)

-- What the object's memory holds beside the two members that the constructor sets is not determined.
def start (name : DisplayName) (axis : Axis) (state : State) : System :=
  ⟨⟨name.text, axis.numbers⟩, { state with mMode3d := .off, mInitDone := false }, 0, none, none⟩

def readAfter (s : System) (state : State) : Option Nodes :=
  if state.mInitDone = false then none
  else if s.state.mInitDone then s.read
  else some s.nodes

def periodAfter (s : System) (state : State) : Option Nodes :=
  if state.mMode3d = .off then none
  else if s.state.mMode3d = .off then some s.nodes
  else s.period

def after (s : System) (result : Result) : System :=
  ⟨result.nodes, result.state, result.ret, readAfter s result.state, periodAfter s result.state⟩

def step (s : System) : Input → Option System
  | .set3DMode mode3d cap =>
      match set3DMode s.nodes cap s.state mode3d with
      | .ok result => some (after s result)
      | .error _ => none
  | .setMode name => if s.state.mMode3d = .off then some { s with nodes := { s.nodes with mode := name.text } } else none
  | .setWindow axis => if s.state.mMode3d = .off then some { s with nodes := { s.nodes with axis := axis.numbers } } else none

def Restored (s next : System) : Prop := ∀ nodes, s.period = some nodes → next.nodes = nodes

def Delivered (s : System) (input : Input) (next : System) : Prop :=
  ∀ mode3d cap, input = .set3DMode mode3d cap → next.ret = 0 →
    next.nodes.mode.str ≠ nullMode ∧ (mode3d = .off → Restored s next)

-- For frame packing a mode with a number is found; otherwise the mode shown has the layout, or is a 4K mode.
def Found (mode3d : Mode3d) (stored : CStr) (info : List Info) : Prop :=
  if mode3d = .framePacking then search (keystr mode3d) stored info (0, 0) ≠ (0, 0)
  else
    is4k stored = true ∨
      ∃ entry, (info.find? fun entry => entry.mode.str = stored) = some entry ∧
        contains entry.list.str.bytes (keystr mode3d) = true

-- At each 3doff: the display had not changed from the call that read it to the one that began the period.
def Settled (s : System) (input : Input) (_ : System) : Prop :=
  ∀ mode3d cap, input = .set3DMode mode3d cap → s.state.mMode3d ≠ mode3d →
    if mode3d = .off then s.read = s.period
    else
      ∀ ready, init s.nodes cap s.state = .ok ready →
        (mode3d = .framePacking → isSupportFramePacking ready.info = true) →
          Found mode3d ready.stored.str ready.info

theorem init_cases (nodes : Nodes) (cap : CStr) (state ready : State) (done : init nodes cap state = .ok ready) :
    ready.mMode3d = state.mMode3d ∧ ready.mInitDone = true ∧
      (state.mInitDone = true ∧ ready = state ∨
        state.mInitDone = false ∧ ready.stored = nodes.mode ∧ ready.axisStored = state.axisStored.scan nodes.axis) := by
  rw [init] at done
  split at done
  · rename_i already
    cases done
    exact ⟨rfl, already, .inl ⟨already, rfl⟩⟩
  · rename_i fresh
    have off : state.mInitDone = false := Bool.eq_false_iff.mpr fresh
    simp only at done
    split at done
    · cases done
      exact ⟨rfl, rfl, .inr ⟨off, rfl, rfl⟩⟩
    · cases read : readList cap with
      | error fault =>
          rw [read] at done
          cases done
      | ok info =>
          rw [read] at done
          cases done
          exact ⟨rfl, rfl, .inr ⟨off, rfl, rfl⟩⟩

theorem scan_numbers (axis : Axis) (numbers : List Int32) (four : numbers.length = 4) :
    (axis.scan numbers).numbers = numbers := by
  match numbers with
  | [_, _, _, _] => rfl

section
variable (mode3d : Mode3d) (mo hz : Int)

theorem mode_text_bytes (byte : UInt8) (inside : byte ∈ modeText mode3d (decimal mo) (decimal hz)) :
    isDigit byte = true ∨ byte = 45 ∨ byte ∈ layoutMark mode3d ∨ byte ∈ ascii ['h', 'z'] := by
  rw [modeText, List.mem_append, List.mem_append, List.mem_append] at inside
  rcases inside with ((front | mark) | back) | hertz
  · exact (decimal_bytes mo byte front).imp_right .inl
  · exact .inr (.inr (.inl mark))
  · exact (decimal_bytes hz byte back).imp_right .inl
  · exact .inr (.inr (.inr hertz))

theorem layout_mark_bytes (byte : UInt8) (inside : byte ∈ layoutMark mode3d) : byte ∈ ascii ['f', 'p'] := by
  rw [layoutMark] at inside
  split at inside
  · exact inside
  · exact .tail _ inside

theorem mode_text_without (byte : UInt8) (other : isDigit byte = false ∧ byte ≠ 45 ∧ byte ∉ ascii ['h', 'z'])
    (unmarked : byte ∉ layoutMark mode3d) : byte ∉ modeText mode3d (decimal mo) (decimal hz) := by
  intro inside
  rcases mode_text_bytes mode3d mo hz byte inside with digit | minus | mark | hertz
  · rw [other.1] at digit
    cases digit
  · exact other.2.1 minus
  · exact unmarked mark
  · exact other.2.2 hertz

theorem mode_text_read : (CStr.read (modeText mode3d (decimal mo) (decimal hz))).bytes =
    modeText mode3d (decimal mo) (decimal hz) := by
  refine CStr.read_bytes _ (mode_text_without mode3d mo hz 0 (by decide) fun marked => ?_)
  exact absurd (layout_mark_bytes mode3d 0 marked) (by decide)

theorem mode_text_not_null : modeText mode3d (decimal mo) (decimal hz) ≠ nullMode.bytes := by
  intro same
  have letter : (0x6e : UInt8) ∈ modeText mode3d (decimal mo) (decimal hz) := by
    rw [same]
    decide
  refine mode_text_without mode3d mo hz 0x6e (by decide) (fun marked => ?_) letter
  exact absurd (layout_mark_bytes mode3d 0x6e marked) (by decide)

theorem decimal_zero (value : Int) (same : decimal value = [48]) : value = 0 := by
  have read := scan_decimal value
  rw [same] at read
  exact (Option.some.inj read).symm

theorem mode_text_no_mode :
    modeText mode3d (decimal mo) (decimal hz) = noMode.bytes ↔ mode3d = .framePacking ∧ mo = 0 ∧ hz = 0 := by
  constructor
  · intro same
    by_cases packed : mode3d = .framePacking
    · have plain : (0x66 : UInt8) ∉ decimal mo := fun inside =>
        (decimal_bytes mo 0x66 inside).elim (fun digit => absurd digit (by decide)) (fun minus => by cases minus)
      have split := cut_at 0x66 (decimal mo) (0x70 :: (decimal hz ++ ascii ['h', 'z'])) plain
      have whole : decimal mo ++ 0x66 :: 0x70 :: (decimal hz ++ ascii ['h', 'z']) = noMode.bytes := by
        rw [← same, modeText, layoutMark, if_pos packed, List.append_assoc, List.append_assoc]
        rfl
      rw [whole] at split
      have parts : (([48], [0x70, 48, 0x68, 0x7a]) : Bytes × Bytes) =
          (decimal mo, 0x70 :: (decimal hz ++ ascii ['h', 'z'])) := Option.some.inj split
      obtain ⟨front, back⟩ := Prod.mk.inj parts
      have rest : [48] ++ ascii ['h', 'z'] = decimal hz ++ ascii ['h', 'z'] := (List.cons.inj back).2
      exact ⟨packed, decimal_zero mo front.symm, decimal_zero hz (List.append_cancel_right rest).symm⟩
    · have letter : (0x66 : UInt8) ∈ modeText mode3d (decimal mo) (decimal hz) := by
        rw [same]
        decide
      refine absurd letter (mode_text_without mode3d mo hz 0x66 (by decide) ?_)
      rw [layoutMark, if_neg packed]
      decide
  · rintro ⟨rfl, rfl, rfl⟩
    rfl

end

theorem copied_str {capacity : Nat} (source : CStr) (copy : CharArray capacity)
    (done : copied (strcpy capacity source) = .ok copy) : copy.str = source := by
  cases copying : strcpy capacity source with
  | none =>
      rw [copying] at done
      cases done
  | some array =>
      rw [copying] at done
      cases done
      exact strcpy_eq_some capacity source copy copying

-- What setDispMode gives to setSourceOutputMode.
def Taken (mode : CStr) : Prop := 0 < mode.bytes.length ∧ mode ≠ noMode ∧ mode ≠ nullMode

theorem shown_taken (mode : CStr) (shown : Shown mode) : Taken mode := by
  refine ⟨List.length_pos_iff.mpr fun nothing => shown.1 ?_, shown.2⟩
  exact CStr.ext_bytes _ _ nothing

theorem empty_not_taken : ¬Taken .empty := fun taken => absurd taken.1 (by decide)

theorem show_mode_iff (nodes : Nodes) (mode : CharArray modeLen) (dark : nodes.mode.str = nullMode) :
    (Taken mode.str ∧ showMode nodes mode = { nodes with mode := mode }) ∨
      ¬Taken mode.str ∧ showMode nodes mode = nodes := by
  by_cases taken : Taken mode.str
  · exact .inl ⟨taken, if_pos ⟨taken.1, taken.2.1, dark ▸ taken.2.2⟩⟩
  · exact .inr ⟨taken, if_neg fun ⟨some_text, other, changed⟩ => taken ⟨some_text, other, dark ▸ changed⟩⟩

theorem choose_iff (mode3d : Mode3d) (stored : CStr) (info : List Info) (dst : CharArray modeLen) (shown : Shown stored)
    (done : chooseMode mode3d stored info = .ok dst) : Taken dst.str ↔ Found mode3d stored info := by
  rw [chooseMode] at done
  split at done
  · rename_i searched
    simp only at done
    split at done
    · have text := congrArg CStr.bytes (copied_str _ _ done)
      rw [mode_text_read] at text
      have taken : Taken dst.str ↔
          ¬(mode3d = .framePacking ∧ (search (keystr mode3d) stored info (0, 0)).1.toInt = 0 ∧
            (search (keystr mode3d) stored info (0, 0)).2.toInt = 0) := by
        rw [← mode_text_no_mode, ← text]
        constructor
        · rintro ⟨_, other, _⟩ same
          exact other (CStr.ext_bytes _ _ same)
        · intro other
          refine ⟨?_, fun same => other (congrArg CStr.bytes same), fun same => ?_⟩
          · rw [text, modeText, List.length_append]
            exact Nat.lt_of_lt_of_le (by decide) (Nat.le_add_left (ascii ['h', 'z']).length _)
          · exact mode_text_not_null _ _ _ (text.symm.trans (congrArg CStr.bytes same))
      rw [taken, Found]
      by_cases packed : mode3d = .framePacking
      · rw [if_pos packed, ne_eq, Prod.ext_iff]
        simp only [← Int32.toInt_inj]
        exact not_congr ⟨And.right, fun both => ⟨packed, both⟩⟩
      · rw [if_neg packed]
        exact iff_of_true (fun both => packed both.1) (.inl (searched.resolve_left packed))
    · cases done
  · rename_i named
    obtain ⟨plain, other⟩ := not_or.mp named
    rw [Found, if_neg plain]
    split at done
    · rename_i entry found
      rw [found]
      split at done
      · rename_i supported
        rw [copied_str _ _ done]
        exact iff_of_true (shown_taken stored shown) (.inr ⟨entry, rfl, supported⟩)
      · rename_i unsupported
        cases done
        refine iff_of_false empty_not_taken ?_
        rintro (big | ⟨_, same, supported⟩)
        · exact other big
        · cases same
          exact unsupported supported
    · rename_i missing
      rw [missing]
      cases done
      refine iff_of_false empty_not_taken ?_
      rintro (big | ⟨_, same, _⟩)
      · exact other big
      · cases same

structure Inv (s : System) : Prop where
  lit : s.nodes.mode.str ≠ nullMode
  shown : s.state.mMode3d = .off → Shown s.nodes.mode.str
  four : s.state.mMode3d = .off → s.nodes.axis.length = 4
  running : s.state.mMode3d ≠ .off → s.state.mInitDone = true ∧ s.period ≠ none
  idle : s.state.mMode3d = .off → s.period = none
  stored : s.state.mInitDone = true → Shown s.state.stored.str
  read : s.state.mInitDone = true → s.read = some ⟨s.state.stored, s.state.axisStored.numbers⟩

theorem fresh_off (s : System) (inv : Inv s) (fresh : s.state.mInitDone = false) : s.state.mMode3d = .off := by
  by_contra other
  rw [(inv.running other).1] at fresh
  cases fresh

theorem ready_shown (s : System) (cap : CStr) (ready : State) (inv : Inv s)
    (done : init s.nodes cap s.state = .ok ready) : Shown ready.stored.str := by
  obtain ⟨_, _, ⟨already, same⟩ | ⟨fresh, captured, _⟩⟩ := init_cases _ _ _ _ done
  · exact same ▸ inv.stored already
  · rw [captured]
    exact inv.shown (fresh_off s inv fresh)

theorem ready_read (s : System) (cap : CStr) (ready last : State) (inv : Inv s)
    (done : init s.nodes cap s.state = .ok ready) (already : last.mInitDone = true) (stored : last.stored = ready.stored)
    (axisStored : last.axisStored = ready.axisStored) :
    readAfter s last = some ⟨last.stored, last.axisStored.numbers⟩ := by
  rw [readAfter, already, if_neg nofun, stored, axisStored]
  obtain ⟨_, _, ⟨before, same⟩ | ⟨fresh, mode, axis⟩⟩ := init_cases _ _ _ _ done
  · rw [if_pos before, same]
    exact inv.read before
  · rw [if_neg (Bool.eq_false_iff.mp fresh), mode, axis, scan_numbers _ _ (inv.four (fresh_off s inv fresh))]

structure Leaves (nodes : Nodes) (ready : State) (result : Result) (mode3d : Mode3d) (shown : Nodes) : Prop where
  ret : result.ret = 0
  mode : result.nodes.mode = shown.mode
  mode3d : result.state.mMode3d = mode3d
  stored : result.state.stored = ready.stored
  axisStored : result.state.axisStored = ready.axisStored

theorem set_cases (nodes : Nodes) (cap : CStr) (state : State) (mode3d : Mode3d) (result : Result)
    (done : set3DMode nodes cap state mode3d = .ok result) :
    (state.mMode3d = mode3d ∧ result = ⟨0, nodes, state⟩) ∨
      state.mMode3d ≠ mode3d ∧ ∃ ready, init nodes cap state = .ok ready ∧
        ((mode3d = .framePacking ∧ isSupportFramePacking ready.info = false ∧ result = ⟨-1, nodes, ready⟩) ∨
          (mode3d = .off ∧ ready.stored.str.bytes = [] ∧ Leaves nodes ready result .off (darkened nodes) ∧
            result.state.mInitDone = ready.mInitDone) ∨
          (mode3d = .off ∧ ready.stored.str.bytes ≠ [] ∧
            Leaves nodes ready result .off (showMode (darkened nodes) ready.stored) ∧
              result.state.mInitDone = false ∧ result.nodes.axis = ready.axisStored.numbers) ∨
          mode3d ≠ .off ∧ (mode3d = .framePacking → isSupportFramePacking ready.info = true) ∧
            ∃ dst, chooseMode mode3d ready.stored.str ready.info = .ok dst ∧
              Leaves nodes ready result mode3d (showMode (darkened nodes) dst) ∧
                result.state.mInitDone = ready.mInitDone) := by
  rw [set3DMode] at done
  split at done
  · rename_i same
    cases done
    exact .inl ⟨same, rfl⟩
  · rename_i other
    refine .inr ⟨other, ?_⟩
    cases ran : init nodes cap state with
    | error fault =>
        rw [ran] at done
        cases done
    | ok ready =>
        rw [ran] at done
        refine ⟨ready, rfl, ?_⟩
        simp only [bind, Except.bind] at done
        split at done
        · rename_i refused
          cases done
          exact .inl ⟨refused.1, Bool.eq_false_iff.mpr refused.2, rfl⟩
        · rename_i accepted
          refine .inr ?_
          rw [setDispMode] at done
          by_cases off : mode3d = .off
          · subst off
            simp only [if_true] at done
            by_cases nothing : ready.stored.str.bytes = []
            · simp only [nothing, List.length_nil, ne_eq, not_true, if_false] at done
              cases done
              exact .inl ⟨rfl, nothing, ⟨rfl, rfl, rfl, rfl, rfl⟩, rfl⟩
            · have some_text : ready.stored.str.bytes.length ≠ 0 := fun none => nothing (List.length_eq_zero_iff.mp none)
              simp only [if_pos some_text] at done
              cases done
              exact .inr (.inl ⟨rfl, nothing, ⟨rfl, rfl, rfl, rfl, rfl⟩, rfl, rfl⟩)
          · simp only [if_neg off] at done
            refine .inr (.inr ⟨off, fun packed => ?_, ?_⟩)
            · exact Classical.not_not.mp fun unsupported => accepted ⟨packed, unsupported⟩
            · cases chosen : chooseMode mode3d ready.stored.str ready.info with
              | error fault =>
                  rw [chosen] at done
                  cases done
              | ok dst =>
                  rw [chosen] at done
                  cases done
                  exact ⟨dst, rfl, ⟨rfl, rfl, rfl, rfl, rfl⟩, rfl⟩

theorem set_delivered (s next : System) (mode3d : Mode3d) (cap : CStr) :
    Delivered s (.set3DMode mode3d cap) next ↔
      (next.ret = 0 → next.nodes.mode.str ≠ nullMode ∧ (mode3d = .off → Restored s next)) := by
  constructor
  · exact fun delivered => delivered mode3d cap rfl
  · rintro holds _ _ ⟨⟩
    exact holds

theorem set_settled (s next : System) (mode3d : Mode3d) (cap : CStr) :
    Settled s (.set3DMode mode3d cap) next ↔
      (s.state.mMode3d ≠ mode3d →
        if mode3d = .off then s.read = s.period
        else
          ∀ ready, init s.nodes cap s.state = .ok ready →
            (mode3d = .framePacking → isSupportFramePacking ready.info = true) →
              Found mode3d ready.stored.str ready.info) := by
  constructor
  · exact fun settled => settled mode3d cap rfl
  · rintro holds _ _ ⟨⟩
    exact holds

theorem period_kept (s : System) (state : State) (inv : Inv s) (keeps : state.mMode3d = s.state.mMode3d) :
    periodAfter s state = s.period := by
  rw [periodAfter, keeps]
  split
  · rename_i off
    exact (inv.idle off).symm
  · rfl

theorem refused_inv (s : System) (cap : CStr) (ready : State) (inv : Inv s)
    (done : init s.nodes cap s.state = .ok ready) : Inv (after s ⟨-1, s.nodes, ready⟩) := by
  obtain ⟨keeps, already, _⟩ := init_cases _ _ _ _ done
  have period : periodAfter s ready = s.period := period_kept s ready inv keeps
  exact
    { lit := inv.lit
      shown := fun off => inv.shown (keeps ▸ off)
      four := fun off => inv.four (keeps ▸ off)
      running := fun on => ⟨already, fun none => (inv.running (keeps ▸ on)).2 (period.symm.trans none)⟩
      idle := fun off => period.trans (inv.idle (keeps ▸ off))
      stored := fun _ => ready_shown s cap ready inv done
      read := fun _ => ready_read s cap ready ready inv done already rfl rfl }

theorem restored_inv (s : System) (result : Result) (off : result.state.mMode3d = .off)
    (undone : result.state.mInitDone = false) (named : Shown result.nodes.mode.str)
    (four : result.nodes.axis.length = 4) : Inv (after s result) :=
  { lit := named.2.2
    shown := fun _ => named
    four := fun _ => four
    running := fun on => absurd off on
    idle := fun _ => if_pos off
    stored := fun already => absurd (undone.symm.trans already) nofun
    read := fun already => absurd (undone.symm.trans already) nofun }

theorem running_inv (s : System) (cap : CStr) (ready : State) (result : Result) (mode3d : Mode3d) {shown : Nodes}
    (inv : Inv s) (done : init s.nodes cap s.state = .ok ready) (on : mode3d ≠ .off)
    (lit : result.nodes.mode.str ≠ nullMode) (leaves : Leaves s.nodes ready result mode3d shown)
    (already : result.state.mInitDone = true) : Inv (after s result) := by
  have still : result.state.mMode3d ≠ .off := leaves.mode3d ▸ on
  have period : (after s result).period ≠ none := by
    rw [after, periodAfter, if_neg still]
    split
    · nofun
    · rename_i running
      exact (inv.running running).2
  exact
    { lit := lit
      shown := fun off => absurd off still
      four := fun off => absurd off still
      running := fun _ => ⟨already, period⟩
      idle := fun off => absurd off still
      stored := fun _ => leaves.stored ▸ ready_shown s cap ready inv done
      read := fun _ => ready_read s cap ready result.state inv done already leaves.stored leaves.axisStored }

theorem same_step (s : System) (mode3d : Mode3d) (cap : CStr) (inv : Inv s) (same : s.state.mMode3d = mode3d) :
    (Delivered s (.set3DMode mode3d cap) (after s ⟨0, s.nodes, s.state⟩) ↔
        Settled s (.set3DMode mode3d cap) (after s ⟨0, s.nodes, s.state⟩)) ∧
      Inv (after s ⟨0, s.nodes, s.state⟩) := by
  rw [set_delivered, set_settled]
  have idle : mode3d = .off → Restored s (after s ⟨0, s.nodes, s.state⟩) := by
    intro off nodes began
    rw [inv.idle (same.trans off)] at began
    cases began
  have period : periodAfter s s.state = s.period := period_kept s s.state inv rfl
  have read (already : s.state.mInitDone = true) : readAfter s s.state = s.read := by
    rw [readAfter, already, if_neg nofun, if_pos rfl]
  refine ⟨iff_of_true (fun _ => ⟨inv.lit, idle⟩) fun other => absurd same other, ?_⟩
  exact
    { lit := inv.lit
      shown := inv.shown
      four := inv.four
      running := fun on => ⟨(inv.running on).1, fun none => (inv.running on).2 (period.symm.trans none)⟩
      idle := fun off => period.trans (inv.idle off)
      stored := inv.stored
      read := fun already => (read already).trans (inv.read already) }

theorem refused_step (s : System) (cap : CStr) (ready : State) (inv : Inv s) (done : init s.nodes cap s.state = .ok ready)
    (unsupported : isSupportFramePacking ready.info = false) :
    (Delivered s (.set3DMode .framePacking cap) (after s ⟨-1, s.nodes, ready⟩) ↔
        Settled s (.set3DMode .framePacking cap) (after s ⟨-1, s.nodes, ready⟩)) ∧
      Inv (after s ⟨-1, s.nodes, ready⟩) := by
  rw [set_delivered, set_settled, if_neg nofun]
  refine ⟨iff_of_true nofun fun _ again its supported => ?_, refused_inv s cap ready inv done⟩
  cases done.symm.trans its
  exact absurd (supported rfl) (Bool.eq_false_iff.mp unsupported)

theorem off_step (s : System) (cap : CStr) (result : Result) (inv : Inv s) (other : s.state.mMode3d ≠ .off)
    (leaves : Leaves s.nodes s.state result .off (showMode (darkened s.nodes) s.state.stored))
    (undone : result.state.mInitDone = false) (axis : result.nodes.axis = s.state.axisStored.numbers) :
    (Delivered s (.set3DMode .off cap) (after s result) ↔ Settled s (.set3DMode .off cap) (after s result)) ∧
      Inv (after s result) := by
  have already := (inv.running other).1
  have named := inv.stored already
  have mode : result.nodes.mode = s.state.stored := by
    rcases show_mode_iff (darkened s.nodes) s.state.stored rfl with ⟨_, shows⟩ | ⟨dark, _⟩
    · rw [leaves.mode, shows]
    · exact absurd (shown_taken _ named) dark
  have shown : s.read = some result.nodes := by
    rw [inv.read already, ← mode, ← axis]
  have four : result.nodes.axis.length = 4 := axis ▸ rfl
  refine ⟨?_, restored_inv s result leaves.mode3d undone (mode.symm ▸ named) four⟩
  rw [set_delivered, set_settled, if_pos rfl, shown]
  obtain ⟨nodes, began⟩ := Option.ne_none_iff_exists'.mp (inv.running other).2
  rw [Restored, began]
  constructor
  · intro delivered _
    rw [← (delivered leaves.ret).2 rfl nodes rfl]
    rfl
  · intro settled _
    refine ⟨mode.symm ▸ named.2.2, ?_⟩
    rintro _ _ ⟨⟩
    exact Option.some.inj (settled other)

theorem on_step (s : System) (mode3d : Mode3d) (cap : CStr) (ready : State) (result : Result) (dst : CharArray modeLen)
    (inv : Inv s) (done : init s.nodes cap s.state = .ok ready) (other : s.state.mMode3d ≠ mode3d) (on : mode3d ≠ .off)
    (supported : mode3d = .framePacking → isSupportFramePacking ready.info = true)
    (chosen : chooseMode mode3d ready.stored.str ready.info = .ok dst)
    (leaves : Leaves s.nodes ready result mode3d (showMode (darkened s.nodes) dst))
    (initDone : result.state.mInitDone = ready.mInitDone) :
    (Delivered s (.set3DMode mode3d cap) (after s result) ↔ Settled s (.set3DMode mode3d cap) (after s result)) ∧
      (Settled s (.set3DMode mode3d cap) (after s result) → Inv (after s result)) := by
  have found := choose_iff mode3d ready.stored.str ready.info dst (ready_shown s cap ready inv done) chosen
  have lit : result.nodes.mode.str ≠ nullMode ↔ Found mode3d ready.stored.str ready.info := by
    rw [leaves.mode, ← found]
    rcases show_mode_iff (darkened s.nodes) dst rfl with ⟨taken, shows⟩ | ⟨dark, stays⟩
    · rw [shows]
      exact iff_of_true taken.2.2 taken
    · rw [stays]
      exact iff_of_false (fun changed => changed rfl) dark
  have settled : Settled s (.set3DMode mode3d cap) (after s result) ↔ Found mode3d ready.stored.str ready.info := by
    rw [set_settled, if_neg on]
    constructor
    · exact fun all => all other ready done supported
    · intro holds _ again its _
      cases done.symm.trans its
      exact holds
  rw [set_delivered, settled, ← lit]
  have delivered : (result.ret = 0 → result.nodes.mode.str ≠ nullMode ∧ (mode3d = .off → Restored s (after s result))) ↔
      result.nodes.mode.str ≠ nullMode :=
    ⟨fun all => (all leaves.ret).1, fun holds _ => ⟨holds, fun off => absurd off on⟩⟩
  refine ⟨delivered, fun holds => ?_⟩
  exact running_inv s cap ready result mode3d inv done on holds leaves (initDone.trans (init_cases _ _ _ _ done).2.1)

theorem set_step (s next : System) (mode3d : Mode3d) (cap : CStr) (inv : Inv s)
    (taken : step s (.set3DMode mode3d cap) = some next) :
    (Delivered s (.set3DMode mode3d cap) next ↔ Settled s (.set3DMode mode3d cap) next) ∧
      (Settled s (.set3DMode mode3d cap) next → Inv next) := by
  rw [step] at taken
  split at taken
  · rename_i result done
    cases taken
    rcases set_cases s.nodes cap s.state mode3d result done with ⟨same, rfl⟩ | ⟨other, ready, ran, cases⟩
    · exact (same_step s mode3d cap inv same).imp_right fun holds _ => holds
    · rcases cases with ⟨rfl, unsupported, rfl⟩ | ⟨off, nothing, _⟩ | ⟨rfl, _, leaves, undone, axis⟩ |
        ⟨on, supported, dst, chosen, leaves, initDone⟩
      · exact (refused_step s cap ready inv ran unsupported).imp_right fun holds _ => holds
      · exact absurd (CStr.ext_bytes _ .empty nothing) (ready_shown s cap ready inv ran).1
      · have same : ready = s.state := by
          obtain ⟨_, _, ⟨_, same⟩ | ⟨fresh, _⟩⟩ := init_cases _ _ _ _ ran
          · exact same
          · exact absurd (fresh_off s inv fresh) other
        subst same
        exact (off_step s cap result inv other leaves undone axis).imp_right fun holds _ => holds
      · exact on_step s mode3d cap ready result dst inv ran other on supported chosen leaves initDone
  · cases taken

theorem step_both (s : System) (input : Input) (next : System) (inv : Inv s) (taken : step s input = some next) :
    (Delivered s input next ↔ Settled s input next) ∧ (Settled s input next → Inv next) := by
  cases input with
  | set3DMode mode3d cap => exact set_step s next mode3d cap inv taken
  | setMode name =>
      obtain ⟨off, same⟩ := Option.ite_none_right_eq_some.mp taken
      cases same
      refine ⟨iff_of_true nofun nofun, fun _ => ?_⟩
      exact { inv with lit := name.shown.2.2, shown := fun _ => name.shown }
  | setWindow axis =>
      obtain ⟨off, same⟩ := Option.ite_none_right_eq_some.mp taken
      cases same
      exact ⟨iff_of_true nofun nofun, fun _ => { inv with four := fun _ => rfl }⟩

theorem picture_restored_iff (name : DisplayName) (axis : Axis) (state : State) (inputs : List Input) :
    Along step Delivered (start name axis state) inputs ↔ Along step Settled (start name axis state) inputs := by
  refine along_iff step Inv Delivered Settled ?_ ?_ (start name axis state) inputs ?_
  · exact fun s input next inv taken settled => (step_both s input next inv taken).2 settled
  · exact fun s input next inv taken => (step_both s input next inv taken).1
  · exact ⟨name.shown.2.2, fun _ => name.shown, fun _ => rfl, fun on => absurd rfl on, fun _ => rfl, nofun, nofun⟩

def hd60 : DisplayName :=
  ⟨⟨⟨ascii ['7', '2', '0', 'p', '6', '0', 'h', 'z'], by decide⟩, by decide⟩, by decide, by decide, by decide⟩
def fullHd60 : DisplayName :=
  ⟨⟨⟨ascii ['1', '0', '8', '0', 'p', '6', '0', 'h', 'z'], by decide⟩, by decide⟩, by decide, by decide, by decide⟩

def sideBySideCap : CStr :=
  ⟨ascii ['7', '2', '0', 'p', '6', '0', 'h', 'z', ' ', 'S', 'i', 'd', 'e', 'b', 'y', 'S', 'i', 'd', 'e'], by decide⟩

def freshState : State := ⟨.off, false, [], ⟨.empty, by decide⟩, ⟨.empty, by decide⟩, ⟨0, 0, 0, 0⟩, ⟨0, 0, 0, 0⟩⟩

-- A refused frame packing request captures the mode that a later change replaces, and a sink
-- that does not list the mode leaves the display dark.
theorem stale_mode_restored :
    ¬Along step Delivered (start hd60 ⟨0, 0, 1279, 719⟩ freshState)
        [.set3DMode .framePacking sideBySideCap, .setMode fullHd60, .set3DMode .sideBySide sideBySideCap,
          .set3DMode .off sideBySideCap] ∧
      ¬Along step Delivered (start fullHd60 ⟨0, 0, 1919, 1079⟩ freshState) [.set3DMode .sideBySide sideBySideCap] := by
  constructor
  · intro along
    have restored := ((((along _ rfl).2 _ rfl).2 _ rfl).2 _ rfl).1 .off sideBySideCap rfl rfl
    have stale := restored.2 rfl _ rfl
    exact absurd (congrArg (fun nodes => nodes.mode.str.bytes) stale) (by decide)
  · intro along
    exact ((along _ rfl).1 .sideBySide sideBySideCap rfl rfl).1 rfl

end Droidlogic.Display.Dimension
