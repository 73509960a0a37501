import Droidlogic.Lib.CString
import Droidlogic.Lib.Lines
import Droidlogic.Lib.Words

set_option autoImplicit false

namespace Droidlogic.Display.ConfigFile

open Droidlogic.Lib

def maxStrLen : Nat := 4096

def newline : UInt8 := 10

-- What stands from mCurrent to the end of the buffer.
structure SysTokenizer where
  left : Bytes
  mLineNumber : Nat
deriving DecidableEq

namespace SysTokenizer

-- strchr finds the terminator too, so a NUL is a delimiter.
def isDelimiter (delimiters : CStr) (ch : UInt8) : Bool := ch ∈ delimiters.bytes || ch = 0

def isEof (tokenizer : SysTokenizer) : Bool := tokenizer.left = []

def isEol (tokenizer : SysTokenizer) : Bool := tokenizer.left.head?.all (· = newline)

def peekChar (tokenizer : SysTokenizer) : UInt8 := tokenizer.left.head?.getD 0

def ofFile (file : Bytes) : SysTokenizer := ⟨file, 1⟩

-- none is the strncpy that leaves no terminator in mStrs, or runs past it.
def nextToken (tokenizer : SysTokenizer) (delimiters : CStr) : Option (CStr × SysTokenizer) :=
  let token := tokenizer.left.takeWhile fun ch => !(ch = newline || isDelimiter delimiters ch)
  let left := tokenizer.left.dropWhile fun ch => !(ch = newline || isDelimiter delimiters ch)
  if token.length < maxStrLen then some (CStr.read token, { tokenizer with left := left }) else none

def nextLine (tokenizer : SysTokenizer) : SysTokenizer :=
  match tokenizer.left.dropWhile (· ≠ newline) with
  | [] => { tokenizer with left := [] }
  | _ :: left => ⟨left, tokenizer.mLineNumber + 1⟩

def skipDelimiters (tokenizer : SysTokenizer) (delimiters : CStr) : SysTokenizer :=
  { tokenizer with left := tokenizer.left.dropWhile fun ch => !(ch = newline || !isDelimiter delimiters ch) }

end SysTokenizer

-- What follows a line in a file: its newline and the lines behind it, or nothing.
structure Behind (line tail : Bytes) : Prop where
  within : newline ∉ line
  ends : tail = [] ∨ ∃ more, tail = newline :: more

theorem Behind.suffix {line part tail : Bytes} (behind : Behind line tail) (kept : part <:+ line) : Behind part tail :=
  ⟨fun member => behind.within (kept.subset member), behind.ends⟩

theorem Behind.stops {line tail : Bytes} (behind : Behind line tail) (test : UInt8 → Bool) :
    (line ++ tail).dropWhile (fun ch => !(ch = newline || test ch)) = line.dropWhile (!test ·) ++ tail := by
  induction line with
  | nil =>
      rcases behind.ends with rfl | ⟨more, rfl⟩
      · rfl
      · simp
  | cons ch rest ih =>
      have apart : ch ≠ newline := fun same => behind.within (same ▸ List.mem_cons_self)
      have later := ih (behind.suffix (List.suffix_cons ch rest))
      rw [List.cons_append, List.dropWhile_cons, List.dropWhile_cons, later]
      simp only [apart, decide_false, Bool.false_or]
      split <;> rfl

theorem Behind.takes {line tail : Bytes} (behind : Behind line tail) (test : UInt8 → Bool) :
    (line ++ tail).takeWhile (fun ch => !(ch = newline || test ch)) = line.takeWhile (!test ·) := by
  induction line with
  | nil =>
      rcases behind.ends with rfl | ⟨more, rfl⟩
      · rfl
      · simp
  | cons ch rest ih =>
      have apart : ch ≠ newline := fun same => behind.within (same ▸ List.mem_cons_self)
      have later := ih (behind.suffix (List.suffix_cons ch rest))
      rw [List.cons_append, List.takeWhile_cons, List.takeWhile_cons, later]
      simp only [apart, decide_false, Bool.false_or]

theorem Behind.next_line {line tail : Bytes} (behind : Behind line tail) (number : Nat) :
    (SysTokenizer.nextLine ⟨line ++ tail, number⟩).left = tail.tail := by
  have skipped := behind.stops fun _ => false
  have same : (fun ch : UInt8 => decide (ch ≠ newline)) = fun ch => !(ch = newline || false) := by
    funext ch
    simp
  have whole : line.dropWhile (fun _ => !false) = [] := by
    rw [List.dropWhile_eq_nil_iff]
    exact fun _ _ => rfl
  unfold SysTokenizer.nextLine
  rw [same, skipped, whole, List.nil_append]
  rcases behind.ends with rfl | ⟨more, rfl⟩ <;> rfl

section
variable (delimiters : CStr)

def skipped (line : Bytes) : Bytes := line.dropWhile (SysTokenizer.isDelimiter delimiters)

theorem skip_delimiters {line tail : Bytes} (behind : Behind line tail) (number : Nat) :
    SysTokenizer.skipDelimiters ⟨line ++ tail, number⟩ delimiters = ⟨skipped delimiters line ++ tail, number⟩ := by
  have stopped := behind.stops fun ch => !SysTokenizer.isDelimiter delimiters ch
  simp only [Bool.not_not] at stopped
  rw [SysTokenizer.skipDelimiters]
  simp only [stopped]
  rfl

theorem skipped_suffix (line : Bytes) : skipped delimiters line <:+ line := List.dropWhile_suffix _

theorem skipped_head (line : Bytes) (ch : UInt8) (rest : Bytes) (front : skipped delimiters line = ch :: rest) :
    SysTokenizer.isDelimiter delimiters ch = false := by
  have head := List.head?_dropWhile_not (SysTokenizer.isDelimiter delimiters) line
  rw [show line.dropWhile (SysTokenizer.isDelimiter delimiters) = ch :: rest from front] at head
  simpa using head

-- What nextToken leaves of a line when it has taken the first word.
def pastWord (line : Bytes) : Bytes := (skipped delimiters line).dropWhile (!SysTokenizer.isDelimiter delimiters ·)

theorem past_word_suffix (line : Bytes) : pastWord delimiters line <:+ line :=
  (List.dropWhile_suffix _).trans (skipped_suffix delimiters line)

theorem next_token_word {line tail : Bytes} (behind : Behind line tail) (number : Nat) (word : Bytes)
    (first : (words (SysTokenizer.isDelimiter delimiters) line).headD [] = word) :
    SysTokenizer.nextToken (SysTokenizer.skipDelimiters ⟨line ++ tail, number⟩ delimiters) delimiters =
      if word.length < maxStrLen then some (CStr.read word, ⟨pastWord delimiters line ++ tail, number⟩) else none := by
  have later := behind.suffix (skipped_suffix delimiters line)
  rw [skip_delimiters delimiters behind, SysTokenizer.nextToken]
  simp only [later.stops, later.takes]
  cases front : skipped delimiters line with
  | nil =>
      rw [words_nothing _ line front] at first
      rw [← first, pastWord, front]
      rfl
  | cons ch rest =>
      rw [words_skip, show line.dropWhile (SysTokenizer.isDelimiter delimiters) = ch :: rest from front,
        words_first _ ch rest (skipped_head delimiters line ch rest front), List.headD_cons] at first
      rw [← first, pastWord, front]

theorem past_word_words (line : Bytes) : words (SysTokenizer.isDelimiter delimiters) (pastWord delimiters line) =
    (words (SysTokenizer.isDelimiter delimiters) line).tail := by
  rw [pastWord]
  cases front : skipped delimiters line with
  | nil => rw [words_nothing _ line front]; rfl
  | cons ch rest =>
      rw [words_skip _ line, show line.dropWhile (SysTokenizer.isDelimiter delimiters) = ch :: rest from front,
        words_first _ ch rest (skipped_head delimiters line ch rest front), List.tail_cons]

end

end Droidlogic.Display.ConfigFile
