import Droidlogic.Lib.CString
import Droidlogic.Lib.Text
import Droidlogic.Pq.Database

set_option autoImplicit false

namespace Droidlogic.Pq.OutputType

open Droidlogic.Lib

def outputTypePal : Int := 0
def outputTypeNtsc : Int := 1
def outputTypeHdmiHdUpscale : Int := 11
def outputTypeHdmiSdUpscale : Int := 12
def outputTypeHdmiNoscale : Int := 13
def outputTypeHdmiSd4096 : Int := 14
def outputTypeHdmiHd4096 : Int := 15

-- char outputModeBuf[32], inputModeBuf[32], tempBuf[32]
def modeBufSize : Nat := 32

-- A NUL with bytes behind it becomes a space, and no newline is kept.
def cleaned : Bytes → Bytes
  | [] => []
  | [last] => if last = 10 then [] else [last]
  | byte :: next :: rest =>
      if byte = 10 then cleaned (next :: rest) else (if byte = 0 then 32 else byte) :: cleaned (next :: rest)

-- What pqReadSys leaves in a buffer of zeros. A node that does not open has no content.
def readString (node : Option Bytes) : CStr := CStr.read (cleaned ((node.getD []).take modeBufSize))

-- none is buf[j] = 0 with j = count.
def pqReadSys (node : Option Bytes) : Option (Int × CStr) :=
  match node with
  | none => some (-1, .empty)
  | some content =>
      if (cleaned (content.take modeBufSize)).length < modeBufSize then
        some ((content.take modeBufSize).length, readString node)
      else none

-- strncpy writes count bytes, and a negative count is a size_t of nearly 2^64.
def strncpy (source : CStr) (count : Int) : Option Bytes :=
  if 0 ≤ count ∧ count ≤ modeBufSize then some (source.bytes.take count.toNat) else none

structure Nodes where
  -- HDMI_OUTPUT_CHECK_PATH exists.
  amhdmitx : Bool
  displayMode : Option Bytes
  videoFrameHeight : Option Bytes
deriving DecidableEq

def positiveHeight (height : Int) : Int := if height ≤ 0 then 1080 else height

def inputFrameHeight (node : Option Bytes) : Option Int :=
  (pqReadSys node).map fun read =>
    positiveHeight (if read.1 < 0 ∨ read.2.bytes = [] then 1080 else atoi read.2.bytes)

def outputFrameHeight (mode : CStr) : Option Int := do
  let outputModeStrSize : Int := mode.bytes.length
  let tempBuf ← strncpy mode (outputModeStrSize - 4)
  if contains tempBuf (ascii ['s', 'm', 'p', 't', 'e']) then some 4096
  else do
    let tempBuf ← strncpy mode (outputModeStrSize - 5)
    some (atoi tempBuf)

-- The product of an int wraps.
def hdmiType (input output : Int) : Int :=
  if 1088 < input then outputTypeHdmi4k
  else if output ≤ input then outputTypeHdmiNoscale
  else if 720 < input ∧ input ≤ 1088 then outputTypeHdmiNoscale
  else if 576 < input ∧ input ≤ 720 then
    if output = 4096 then outputTypeHdmiHd4096
    else if input * 2 ≤ output then outputTypeHdmiHdUpscale
    else outputTypeHdmiNoscale
  else if output = 4096 then outputTypeHdmiSd4096
  else if input * 15 ≤ (output * 8).bmod (2 ^ 32) then outputTypeHdmiSdUpscale
  else outputTypeHdmiNoscale

-- The type returned and the one in mOutPutType. none is a write outside of a buffer.
def checkOutPutMode (nodes : Nodes) (mOutPutType : Int) : Option (Int × Int) :=
  if nodes.amhdmitx = false then some (Hdr.outputTypeLvds, Hdr.outputTypeLvds)
  else do
    let (ret, mode) ← pqReadSys nodes.displayMode
    if ret < 0 ∨ mode.bytes = [] then some (Hdr.outputTypeLvds, Hdr.outputTypeLvds)
    else if contains mode.bytes (ascii ['n', 'u', 'l', 'l']) then some (outputTypeMax, mOutPutType)
    else if contains mode.bytes (ascii ['4', '8', '0', 'c', 'v', 'b', 's']) then some (outputTypeNtsc, outputTypeNtsc)
    else if contains mode.bytes (ascii ['5', '7', '6', 'c', 'v', 'b', 's']) then some (outputTypePal, outputTypePal)
    else do
      let input ← inputFrameHeight nodes.videoFrameHeight
      let output ← outputFrameHeight mode
      some (hdmiType input output, hdmiType input output)

def smpte : Bytes := ascii ['s', 'm', 'p', 't', 'e']

-- "pxxhz"
def rateText (scan tens ones : UInt8) : Bytes := [scan, tens, ones, 104, 122]

-- The number of lines that a mode names.
inductive OutputLines (mode : Bytes) : Int → Prop
  | smpte (inside : contains mode smpte = true) : OutputLines mode 4096
  | lines (digits : Bytes) (scan tens ones : UInt8) (nonempty : digits ≠ []) (number : ∀ digit ∈ digits, isDigit digit = true)
      (scanned : scan = 112 ∨ scan = 105) (rate : isDigit tens = true ∧ isDigit ones = true)
      (whole : mode = digits ++ rateText scan tens ones) : OutputLines mode (digitsValue digits)
  | size (width digits : Bytes) (tens ones : UInt8) (wide : width ≠ []) (across : ∀ digit ∈ width, isDigit digit = true)
      (nonempty : digits ≠ []) (number : ∀ digit ∈ digits, isDigit digit = true)
      (rate : isDigit tens = true ∧ isDigit ones = true)
      (whole : mode = width ++ 120 :: digits ++ rateText 112 tens ones) : OutputLines mode (digitsValue digits)

-- The height that the frame height text stands for.
def frameHeight (node : Option Bytes) : Int :=
  positiveHeight (if (readString node).bytes = [] then 1080 else atoi (readString node).bytes)

-- The scaling class of an input against a number of lines.
def scalingClass (input lines : Int) : Int :=
  if 1088 < input then outputTypeHdmi4k
  else if 720 < input ∨ lines ≤ input then outputTypeHdmiNoscale
  else if lines = 4096 then if 576 < input then outputTypeHdmiHd4096 else outputTypeHdmiSd4096
  else if 576 < input then if 2 * input ≤ lines then outputTypeHdmiHdUpscale else outputTypeHdmiNoscale
  else if 15 * input ≤ 8 * lines then outputTypeHdmiSdUpscale else outputTypeHdmiNoscale

-- All copies stay inside, the type returned is the one stored, and a mode that names its
-- lines gets their class.
def TypeFollows (nodes : Nodes) (mOutPutType : Int) : Prop :=
  ∃ type, checkOutPutMode nodes mOutPutType = some (type, type) ∧
    (nodes.amhdmitx = true → ∀ lines, OutputLines (readString nodes.displayMode).bytes lines →
      type = scalingClass (frameHeight nodes.videoFrameHeight) lines)

-- The text of a node with its NUL fits the buffer.
def ReadFits (node : Option Bytes) : Prop :=
  ∀ content, node = some content → (cleaned (content.take modeBufSize)).length < modeBufSize

-- An input of at most 720 lines sees a number as it sees the number of lines.
def SameSide (input number lines : Int) : Prop :=
  720 < input ∨ ((number = 4096 ↔ lines = 4096) ∧
    if 576 < input then 2 * input ≤ number ↔ 2 * input ≤ lines
    else (input < number ∧ 15 * input ≤ (8 * number).bmod (2 ^ 32)) ↔ 15 * input ≤ 8 * lines)

def ModeReadable (nodes : Nodes) (mOutPutType : Int) : Prop :=
  let mode := (readString nodes.displayMode).bytes
  nodes.amhdmitx = true → mode ≠ [] →
    if contains mode (ascii ['n', 'u', 'l', 'l']) ∨ contains mode (ascii ['4', '8', '0', 'c', 'v', 'b', 's']) ∨
        contains mode (ascii ['5', '7', '6', 'c', 'v', 'b', 's']) then
      contains mode smpte = false ∧ (contains mode (ascii ['n', 'u', 'l', 'l']) → mOutPutType = outputTypeMax)
    else
      5 ≤ mode.length ∧ ReadFits nodes.videoFrameHeight ∧
        (contains (mode.take (mode.length - 4)) smpte ∨ ∀ lines, OutputLines mode lines →
          SameSide (frameHeight nodes.videoFrameHeight) (atoi (mode.take (mode.length - 5))) lines)

theorem positive_height (height : Int) : 0 < positiveHeight height := by
  rw [positiveHeight]
  split
  · decide
  · omega

theorem frame_height_positive (node : Option Bytes) : 0 < frameHeight node := positive_height _

theorem cleaned_length (text : Bytes) : (cleaned text).length ≤ (text.filter (· ≠ 10)).length := by
  induction text using cleaned.induct with
  | case1 => exact Nat.le_refl 0
  | case2 => simp [cleaned]
  | case3 last newline => simp [cleaned, newline]
  | case4 next rest ih => simpa [cleaned] using ih
  | case5 byte next rest newline ih => simpa [cleaned, newline] using ih

theorem read_fits_short (node : Option Bytes) (short : ∀ content, node = some content → (content.filter (· ≠ 10)).length ≤ 31) :
    ReadFits node := by
  intro content holds
  have bound := cleaned_length (content.take modeBufSize)
  have fewer := ((List.take_sublist modeBufSize content).filter (· ≠ 10)).length_le
  have most := short content holds
  have size : modeBufSize = 32 := rfl
  omega

theorem pq_read_sys_some (node : Option Bytes) (fits : ReadFits node) :
    ∃ ret, pqReadSys node = some (ret, readString node) ∧ (ret < 0 → readString node = .empty) := by
  cases node with
  | none => exact ⟨-1, rfl, fun _ => rfl⟩
  | some content =>
      refine ⟨(content.take modeBufSize).length, if_pos (fits content rfl), fun negative => ?_⟩
      omega

theorem pq_read_sys_none (node : Option Bytes) (long : ¬ReadFits node) : pqReadSys node = none := by
  cases node with
  | none => exact absurd (fun _ other => by cases other) long
  | some content =>
      refine if_neg fun small => long fun other same => ?_
      cases same
      exact small

theorem read_string_short (node : Option Bytes) (fits : ReadFits node) : (readString node).bytes.length < modeBufSize := by
  cases node with
  | none => decide
  | some content => exact Nat.lt_of_le_of_lt (List.takeWhile_sublist _).length_le (fits content rfl)

theorem input_frame_height_some (node : Option Bytes) (fits : ReadFits node) :
    inputFrameHeight node = some (frameHeight node) := by
  obtain ⟨ret, read, failed⟩ := pq_read_sys_some node fits
  rw [inputFrameHeight, read, Option.map_some, frameHeight]
  by_cases empty : (readString node).bytes = []
  · rw [if_pos (.inr empty), if_pos empty]
  · have opened : ¬ret < 0 := fun negative => empty (by rw [failed negative]; rfl)
    rw [if_neg (not_or.mpr ⟨opened, empty⟩), if_neg empty]

-- Four characters are cut off first, then five.
theorem output_frame_height_eq (mode : CStr) (short : mode.bytes.length < modeBufSize) :
    outputFrameHeight mode =
      if 5 ≤ mode.bytes.length then
        some (if contains (mode.bytes.take (mode.bytes.length - 4)) smpte then 4096
          else atoi (mode.bytes.take (mode.bytes.length - 5)))
      else none := by
  have size : modeBufSize = 32 := rfl
  by_cases long : 5 ≤ mode.bytes.length
  · have four : strncpy mode ((mode.bytes.length : Int) - 4) = some (mode.bytes.take (mode.bytes.length - 4)) := by
      rw [strncpy, if_pos (by omega)]
      congr 2
      omega
    have five : strncpy mode ((mode.bytes.length : Int) - 5) = some (mode.bytes.take (mode.bytes.length - 5)) := by
      rw [strncpy, if_pos (by omega)]
      congr 2
      omega
    rw [if_pos long, outputFrameHeight, four, five]
    exact (apply_ite some _ _ _).symm
  · rw [if_neg long, outputFrameHeight]
    by_cases four : mode.bytes.length = 4
    · have first : strncpy mode ((mode.bytes.length : Int) - 4) = some [] := by simp [strncpy, four]
      have second : strncpy mode ((mode.bytes.length : Int) - 5) = none := by simp [strncpy, four]
      rw [first, second]
      rfl
    · have first : strncpy mode ((mode.bytes.length : Int) - 4) = none := if_neg (by omega)
      rw [first]
      rfl

theorem hdmi_type_eq_iff (input number lines : Int) (positive : 0 < input) :
    hdmiType input number = scalingClass input lines ↔ SameSide input number lines := by
  have exact4096 : number = 4096 → (number * 8).bmod (2 ^ 32) = 32768 := by
    rintro rfl
    decide
  rw [hdmiType, scalingClass, SameSide, Int.mul_comm 8 number]
  generalize (number * 8).bmod (2 ^ 32) = product at exact4096 ⊢
  simp only [outputTypeHdmi4k, outputTypeHdmiNoscale, outputTypeHdmiHd4096, outputTypeHdmiHdUpscale,
    outputTypeHdmiSd4096, outputTypeHdmiSdUpscale]
  by_cases large : 720 < input
  · simp only [large, true_or, true_and, if_true, iff_true]
    split_ifs <;> omega
  · by_cases middle : 576 < input
    · have low : ¬1088 < input := by omega
      simp only [low, large, middle, false_and, false_or, true_and, if_false, if_true]
      split_ifs <;> omega
    · have low : ¬1088 < input := by omega
      simp only [low, large, middle, false_and, false_or, if_false]
      split_ifs <;> omega

-- A number that is the one of lines, and whose product does not wrap.
theorem same_side_exact (input lines : Int) (positive : 0 < input) (small : 0 ≤ lines ∧ lines < 2 ^ 28) :
    SameSide input lines lines := by
  have product : (8 * lines).bmod (2 ^ 32) = 8 * lines := Int.bmod_eq_of_le (by omega) (by omega)
  refine .inr ⟨Iff.rfl, ?_⟩
  rw [product]
  split <;> omega

theorem scaling_class_hdmi (input lines : Int) : outputTypeHdmi4k ≤ scalingClass input lines ∧
    scalingClass input lines < outputTypeMax := by
  rw [scalingClass]
  split_ifs <;> decide

theorem contains_mem (text needle : Bytes) (inside : contains text needle = true) (byte : UInt8) (letter : byte ∈ needle) :
    byte ∈ text :=
  ((contains_iff text needle).mp inside).subset letter

theorem output_lines_length (mode : Bytes) (lines : Int) (named : OutputLines mode lines) : 5 ≤ mode.length := by
  cases named with
  | smpte inside => exact ((contains_iff mode smpte).mp inside).length_le
  | lines digits scan tens ones nonempty number scanned rate whole => simp [whole, rateText]
  | size width digits tens ones wide across nonempty number rate whole =>
      rw [whole, List.length_append, List.length_append]
      exact Nat.le_add_left 5 _

-- A mode that names its lines by a number is made of digits and these letters.
theorem output_lines_letters (mode : Bytes) (lines : Int) (named : OutputLines mode lines) :
    (contains mode smpte = true ∧ lines = 4096) ∨
      ∀ byte ∈ mode, isDigit byte = true ∨ byte ∈ [120, 112, 105, 104, 122] := by
  have rate_letters (scan tens ones : UInt8) (scanned : scan = 112 ∨ scan = 105) (digits : isDigit tens = true ∧ isDigit ones = true)
      (byte : UInt8) (inside : byte ∈ rateText scan tens ones) : isDigit byte = true ∨ byte ∈ [120, 112, 105, 104, 122] := by
    simp only [rateText, List.mem_cons, List.not_mem_nil, or_false] at inside ⊢
    rcases inside with rfl | rfl | rfl | rfl | rfl
    · rcases scanned with rfl | rfl <;> simp
    · exact .inl digits.1
    · exact .inl digits.2
    · simp
    · simp
  cases named with
  | smpte inside => exact .inl ⟨inside, rfl⟩
  | lines digits scan tens ones nonempty number scanned rate whole =>
      refine .inr fun byte inside => ?_
      rw [whole] at inside
      rcases List.mem_append.mp inside with digit | letter
      · exact .inl (number byte digit)
      · exact rate_letters scan tens ones scanned rate byte letter
  | size width digits tens ones wide across nonempty number rate whole =>
      refine .inr fun byte inside => ?_
      rw [whole] at inside
      rcases List.mem_append.mp inside with front | letter
      · rcases List.mem_append.mp front with digit | rest
        · exact .inl (across byte digit)
        · rcases List.mem_cons.mp rest with rfl | digit
          · exact .inr (.head _)
          · exact .inl (number byte digit)
      · exact rate_letters 112 tens ones (.inl rfl) rate byte letter

-- Another letter stands only in a mode with smpte.
theorem output_lines_foreign (mode : Bytes) (lines : Int) (named : OutputLines mode lines) (letter : UInt8)
    (present : letter ∈ mode) (other : isDigit letter = false ∧ letter ∉ [120, 112, 105, 104, 122]) :
    contains mode smpte = true ∧ lines = 4096 := by
  rcases output_lines_letters mode lines named with found | letters
  · exact found
  · rcases letters letter present with digit | one
    · rw [other.1] at digit
      cases digit
    · exact absurd one other.2

theorem check_out_put_mode_text (nodes : Nodes) (mOutPutType : Int) (hdmi : nodes.amhdmitx = true)
    (fits : ReadFits nodes.displayMode) (nonempty : (readString nodes.displayMode).bytes ≠ []) :
    checkOutPutMode nodes mOutPutType =
      if contains (readString nodes.displayMode).bytes (ascii ['n', 'u', 'l', 'l']) then some (outputTypeMax, mOutPutType)
      else if contains (readString nodes.displayMode).bytes (ascii ['4', '8', '0', 'c', 'v', 'b', 's']) then
        some (outputTypeNtsc, outputTypeNtsc)
      else if contains (readString nodes.displayMode).bytes (ascii ['5', '7', '6', 'c', 'v', 'b', 's']) then
        some (outputTypePal, outputTypePal)
      else (do
        let input ← inputFrameHeight nodes.videoFrameHeight
        let output ← outputFrameHeight (readString nodes.displayMode)
        some (hdmiType input output, hdmiType input output)) := by
  obtain ⟨ret, read, failed⟩ := pq_read_sys_some nodes.displayMode fits
  have opened : ¬(ret < 0 ∨ (readString nodes.displayMode).bytes = []) := by
    rintro (negative | empty)
    · exact nonempty (by rw [failed negative]; rfl)
    · exact nonempty empty
  rw [checkOutPutMode, hdmi, if_neg (by decide), read]
  change (if ret < 0 ∨ (readString nodes.displayMode).bytes = [] then _ else _) = _
  rw [if_neg opened]

theorem check_out_put_mode_lvds (nodes : Nodes) (mOutPutType : Int) (fits : ReadFits nodes.displayMode)
    (unread : nodes.amhdmitx = false ∨ (readString nodes.displayMode).bytes = []) :
    checkOutPutMode nodes mOutPutType = some (Hdr.outputTypeLvds, Hdr.outputTypeLvds) := by
  obtain ⟨ret, read, failed⟩ := pq_read_sys_some nodes.displayMode fits
  by_cases absent : nodes.amhdmitx = false
  · rw [checkOutPutMode, if_pos absent]
  · rw [checkOutPutMode, if_neg absent, read]
    change (if ret < 0 ∨ (readString nodes.displayMode).bytes = [] then _ else _) = _
    rw [if_pos (.inr (unread.resolve_left absent))]

-- A mode with a type of its own: the type is none of the scaling classes.
theorem special_type_follows (nodes : Nodes) (mOutPutType type stored : Int) (hdmi : nodes.amhdmitx = true)
    (result : checkOutPutMode nodes mOutPutType = some (type, stored))
    (other : type < outputTypeHdmi4k ∨ outputTypeMax ≤ type) (letter : UInt8)
    (present : letter ∈ (readString nodes.displayMode).bytes)
    (foreign : isDigit letter = false ∧ letter ∉ [120, 112, 105, 104, 122]) :
    TypeFollows nodes mOutPutType ↔ contains (readString nodes.displayMode).bytes smpte = false ∧ stored = type := by
  constructor
  · rintro ⟨same, answer, follows⟩
    rw [result, Option.some.injEq, Prod.mk.injEq] at answer
    refine ⟨Bool.eq_false_iff.mpr fun inside => ?_, answer.2.trans answer.1.symm⟩
    have classed := follows hdmi 4096 (.smpte inside)
    have bounds := scaling_class_hdmi (frameHeight nodes.videoFrameHeight) 4096
    omega
  · rintro ⟨plain, rfl⟩
    refine ⟨stored, result, fun _ lines named => ?_⟩
    rw [(output_lines_foreign _ lines named letter present foreign).1] at plain
    cases plain

-- A mode that is measured: the number at its front stands for the lines.
theorem measured_type_follows (nodes : Nodes) (mOutPutType : Int) (hdmi : nodes.amhdmitx = true)
    (fits : ReadFits nodes.displayMode)
    (result : checkOutPutMode nodes mOutPutType = do
      let input ← inputFrameHeight nodes.videoFrameHeight
      let output ← outputFrameHeight (readString nodes.displayMode)
      some (hdmiType input output, hdmiType input output)) :
    TypeFollows nodes mOutPutType ↔
      5 ≤ (readString nodes.displayMode).bytes.length ∧ ReadFits nodes.videoFrameHeight ∧
        (contains ((readString nodes.displayMode).bytes.take ((readString nodes.displayMode).bytes.length - 4)) smpte ∨
          ∀ lines, OutputLines (readString nodes.displayMode).bytes lines → SameSide (frameHeight nodes.videoFrameHeight)
            (atoi ((readString nodes.displayMode).bytes.take ((readString nodes.displayMode).bytes.length - 5))) lines) := by
  have short := read_string_short nodes.displayMode fits
  have positive := frame_height_positive nodes.videoFrameHeight
  rw [TypeFollows, result]
  by_cases height : ReadFits nodes.videoFrameHeight
  · rw [input_frame_height_some _ height, output_frame_height_eq _ short]
    by_cases long : 5 ≤ (readString nodes.displayMode).bytes.length
    · rw [if_pos long]
      by_cases front : contains ((readString nodes.displayMode).bytes.take
          ((readString nodes.displayMode).bytes.length - 4)) smpte = true
      · rw [if_pos front]
        refine iff_of_true ⟨_, rfl, fun _ lines named => ?_⟩ ⟨long, height, .inl front⟩
        have inside := contains_prefix _ smpte _ front
        have letter := contains_mem _ smpte inside 115 (by decide)
        rw [(output_lines_foreign _ lines named 115 letter (by decide)).2]
        exact (hdmi_type_eq_iff _ 4096 4096 positive).mpr (same_side_exact _ 4096 positive (by decide))
      · rw [if_neg front]
        constructor
        · rintro ⟨type, answer, follows⟩
          have computed : hdmiType _ _ = type := (Prod.mk.inj (Option.some.inj answer)).1
          refine ⟨long, height, .inr fun lines named => ?_⟩
          rw [← hdmi_type_eq_iff _ _ lines positive, computed]
          exact follows hdmi lines named
        · rintro ⟨_, _, measured⟩
          refine ⟨_, rfl, fun _ lines named => ?_⟩
          exact (hdmi_type_eq_iff _ _ lines positive).mpr (measured.resolve_left front lines named)
    · rw [if_neg long]
      exact iff_of_false (fun ⟨_, never, _⟩ => by cases never) fun ⟨enough, _⟩ => long enough
  · have outside : inputFrameHeight nodes.videoFrameHeight = none := by
      rw [inputFrameHeight, pq_read_sys_none _ height, Option.map_none]
    rw [outside]
    exact iff_of_false (fun ⟨_, never, _⟩ => by cases never) fun ⟨_, enough, _⟩ => height enough

theorem check_out_put_mode_iff (nodes : Nodes) (mOutPutType : Int)
    (short : ∀ content, nodes.displayMode = some content → (content.filter (· ≠ 10)).length ≤ 31) :
    TypeFollows nodes mOutPutType ↔ ModeReadable nodes mOutPutType := by
  have fits := read_fits_short nodes.displayMode short
  by_cases unread : nodes.amhdmitx = false ∨ (readString nodes.displayMode).bytes = []
  · refine iff_of_true ⟨_, check_out_put_mode_lvds nodes mOutPutType fits unread, fun hdmi lines named => ?_⟩
      fun hdmi nonempty => ?_
    · have long := output_lines_length _ lines named
      rcases unread with absent | empty
      · rw [hdmi] at absent
        cases absent
      · rw [empty] at long
        exact absurd long (by decide)
    · rcases unread with absent | empty
      · rw [hdmi] at absent
        cases absent
      · exact absurd empty nonempty
  · obtain ⟨present, nonempty⟩ := not_or.mp unread
    have hdmi : nodes.amhdmitx = true := (Bool.not_eq_false _).mp present
    have result := check_out_put_mode_text nodes mOutPutType hdmi fits nonempty
    rw [ModeReadable]
    simp only [hdmi, forall_const, ne_eq, nonempty, not_false_eq_true]
    by_cases blank : contains (readString nodes.displayMode).bytes (ascii ['n', 'u', 'l', 'l']) = true
    · rw [if_pos blank] at result
      rw [special_type_follows nodes mOutPutType _ _ hdmi result (by decide) 110
        (contains_mem _ _ blank 110 (by decide)) (by decide)]
      simp [blank]
    · rw [if_neg blank] at result
      by_cases ntsc : contains (readString nodes.displayMode).bytes (ascii ['4', '8', '0', 'c', 'v', 'b', 's']) = true
      · rw [if_pos ntsc] at result
        rw [special_type_follows nodes mOutPutType _ _ hdmi result (by decide) 99
          (contains_mem _ _ ntsc 99 (by decide)) (by decide)]
        simp [blank, ntsc]
      · rw [if_neg ntsc] at result
        by_cases pal : contains (readString nodes.displayMode).bytes (ascii ['5', '7', '6', 'c', 'v', 'b', 's']) = true
        · rw [if_pos pal] at result
          rw [special_type_follows nodes mOutPutType _ _ hdmi result (by decide) 99
            (contains_mem _ _ pal 99 (by decide)) (by decide)]
          simp [blank, pal]
        · rw [if_neg pal] at result
          rw [measured_type_follows nodes mOutPutType hdmi fits result]
          simp [blank, ntsc, pal]

theorem smpte_mode_follows :
    TypeFollows ⟨true, some (ascii ['s', 'm', 'p', 't', 'e', '2', '4', 'h', 'z', '\n']), some (ascii ['7', '2', '0'])⟩ (-1) :=
  (check_out_put_mode_iff _ _ fun content holds => by cases holds; decide +kernel).mpr fun _ _ => by
    rw [if_neg (by decide)]
    exact ⟨by decide, fun content holds => by cases holds; decide +kernel, .inl (by decide)⟩

-- The width of 1920x1080p60hz is taken for its lines.
theorem width_taken_for_lines :
    ¬TypeFollows ⟨true, some (ascii ['1', '9', '2', '0', 'x', '1', '0', '8', '0', 'p', '6', '0', 'h', 'z', '\n']),
      some (ascii ['7', '2', '0', '\n'])⟩ (-1) := by
  rintro ⟨type, result, follows⟩
  have upscaled : checkOutPutMode ⟨true, some (ascii ['1', '9', '2', '0', 'x', '1', '0', '8', '0', 'p', '6', '0', 'h', 'z', '\n']),
      some (ascii ['7', '2', '0', '\n'])⟩ (-1) = some (outputTypeHdmiHdUpscale, outputTypeHdmiHdUpscale) := by decide +kernel
  rw [upscaled, Option.some.injEq, Prod.mk.injEq] at result
  have named := follows rfl _ (.size (ascii ['1', '9', '2', '0']) (ascii ['1', '0', '8', '0']) 54 48 (by decide)
    (by decide +kernel) (by decide) (by decide +kernel) (by decide) (by decide +kernel))
  rw [← result.1] at named
  exact absurd named (by decide +kernel)

end Droidlogic.Pq.OutputType
