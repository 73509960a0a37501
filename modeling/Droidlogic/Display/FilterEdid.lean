import Droidlogic.Display.ColorChoice
import Droidlogic.Display.ConfigFile

set_option autoImplicit false

namespace Droidlogic.Display.ConfigFile

open Droidlogic.Lib Bootenv

def star : UInt8 := 42

structure EdidState where
  edid : CStr
  mFilterEdidList : List CStr

-- One turn of the loop of parseFilterEdidConfigFile.
def filterTurn (state : EdidState) (tokenizer : SysTokenizer) : Option (EdidState × SysTokenizer) := do
  let tokenizer := tokenizer.skipDelimiters whitespace
  let state := if tokenizer.peekChar = star then ⟨.empty, state.mFilterEdidList ++ [state.edid]⟩ else state
  if !tokenizer.isEol && tokenizer.peekChar ≠ star && tokenizer.peekChar ≠ hash then
    let (token, tokenizer) ← tokenizer.nextToken whitespace
    some ({ state with edid := state.edid.append token }, tokenizer.nextLine)
  else some (state, tokenizer.nextLine)

def filterLoop : Nat → EdidState → SysTokenizer → Option EdidState
  | 0, state, _ => some state
  | turns + 1, state, tokenizer =>
      if tokenizer.isEof then some state
      else (filterTurn state tokenizer).bind fun (state, tokenizer) => filterLoop turns state tokenizer

def parseFilterEdidConfigFile (file : Option Bytes) : Option (List CStr) :=
  match file with
  | none => some []
  | some file => (filterLoop file.length ⟨.empty, []⟩ (.ofFile file)).map EdidState.mFilterEdidList

def Starred (word : Bytes) : Prop := word.head? = some star

instance (word : Bytes) : Decidable (Starred word) := inferInstanceAs (Decidable (_ = _))

-- The first word of every line that counts; a star ends an EDID, and what no star ends is dropped.
def firstWords (file : Bytes) : List Bytes := (entries file).map fun entry => entry.headD []

def records (file : Bytes) : List Bytes := (((firstWords file).splitOnP fun word => Starred word).dropLast).map List.flatten

def Short (file : Bytes) : Prop := ∀ word ∈ firstWords file, ¬ Starred word → word.length < maxStrLen

theorem first_words_silent (file line rest : Bytes) (split : lines newline file = line :: lines newline rest)
    (silent : ¬ Spoken (wordsOf line)) : firstWords file = firstWords rest := by
  rw [firstWords, entries_silent file line rest split silent, firstWords]

theorem first_words_spoken (file line rest : Bytes) (split : lines newline file = line :: lines newline rest)
    (spoken : Spoken (wordsOf line)) : firstWords file = (wordsOf line).headD [] :: firstWords rest := by
  rw [firstWords, entries_spoken file line rest split spoken, List.map_cons, firstWords]

-- The character that the loop looks at is the first one of the first word.
theorem peek_word {line tail : Bytes} (behind : Behind line tail) (number : Nat) (letter : UInt8) (within : letter ≠ newline)
    (some : letter ≠ 0) :
    (SysTokenizer.skipDelimiters ⟨line ++ tail, number⟩ whitespace).peekChar = letter ↔
      ((wordsOf line).headD []).head? = Option.some letter := by
  rw [skip_delimiters whitespace behind]
  cases front : skipped whitespace line with
  | nil =>
      rw [silent_front line front]
      rcases behind.ends with rfl | ⟨more, rfl⟩
      · exact ⟨fun zero => absurd zero.symm some, fun never => nomatch never⟩
      · exact ⟨fun same => absurd same.symm within, fun never => nomatch never⟩
  | cons ch rest =>
      obtain ⟨word, more, split⟩ := word_front line ch rest front
      rw [split]
      simp [SysTokenizer.peekChar]

theorem eol_word {line tail : Bytes} (behind : Behind line tail) (number : Nat) :
    (SysTokenizer.skipDelimiters ⟨line ++ tail, number⟩ whitespace).isEol = decide (wordsOf line = []) := by
  rw [skip_delimiters whitespace behind]
  cases front : skipped whitespace line with
  | nil =>
      rw [silent_front line front]
      rcases behind.ends with rfl | ⟨more, rfl⟩ <;> rfl
  | cons ch rest =>
      obtain ⟨word, more, split⟩ := word_front line ch rest front
      have within := front_within behind ch rest front
      rw [split]
      simp [SysTokenizer.isEol, within]

section
variable {line tail : Bytes} (behind : Behind line tail) (number : Nat)
include behind

theorem skipped_next_line :
    (SysTokenizer.skipDelimiters ⟨line ++ tail, number⟩ whitespace).nextLine.left = tail.tail := by
  rw [skip_delimiters whitespace behind number]
  exact (behind.suffix (skipped_suffix whitespace line)).next_line number

theorem filter_turn_silent (state : EdidState) (silent : ¬ Spoken (wordsOf line)) :
    ∃ next, filterTurn state ⟨line ++ tail, number⟩ = some (state, next) ∧ next.left = tail.tail := by
  have stars := peek_word behind number star (by decide) (by decide)
  have comments := peek_word behind number hash (by decide) (by decide)
  refine ⟨_, ?_, skipped_next_line behind number⟩
  unfold filterTurn
  by_cases blank : wordsOf line = []
  · have noStar : ¬ (SysTokenizer.skipDelimiters ⟨line ++ tail, number⟩ whitespace).peekChar = star := by
      rw [stars, blank]
      exact fun never => nomatch never
    have ends := eol_word behind number
    rw [decide_eq_true blank] at ends
    simp only [ends, if_neg noStar, Bool.not_true, Bool.false_and, Bool.false_eq_true, if_false]
  · have comment := comments.mpr (not_not.mp fun other => silent ⟨blank, other⟩)
    have noStar : ¬ hash = star := by decide
    simp only [comment, if_neg noStar, ne_eq, not_true, decide_false, Bool.and_false, Bool.false_eq_true, if_false]

theorem filter_turn_star (state : EdidState) (starred : Starred ((wordsOf line).headD [])) :
    ∃ next, filterTurn state ⟨line ++ tail, number⟩ = some (⟨.empty, state.mFilterEdidList ++ [state.edid]⟩, next) ∧
      next.left = tail.tail := by
  have front := (peek_word behind number star (by decide) (by decide)).mpr starred
  refine ⟨_, ?_, skipped_next_line behind number⟩
  unfold filterTurn
  simp only [front, if_true, ne_eq, not_true, decide_false, Bool.and_false, Bool.false_and, Bool.false_eq_true, if_false]

theorem filter_turn_word (state : EdidState) (spoken : Spoken (wordsOf line)) (plain : ¬ Starred ((wordsOf line).headD [])) :
    if ((wordsOf line).headD []).length < maxStrLen then
      ∃ next, filterTurn state ⟨line ++ tail, number⟩ =
        some ({ state with edid := state.edid.append (CStr.read ((wordsOf line).headD [])) }, next) ∧ next.left = tail.tail
    else filterTurn state ⟨line ++ tail, number⟩ = none := by
  have noStar := mt (peek_word behind number star (by decide) (by decide)).mp plain
  have noComment := mt (peek_word behind number hash (by decide) (by decide)).mp spoken.2
  have ends := eol_word behind number
  rw [decide_eq_false spoken.1] at ends
  have token := next_token_word whitespace behind number ((wordsOf line).headD []) rfl
  have test : (!(SysTokenizer.skipDelimiters ⟨line ++ tail, number⟩ whitespace).isEol &&
      (SysTokenizer.skipDelimiters ⟨line ++ tail, number⟩ whitespace).peekChar ≠ star &&
      (SysTokenizer.skipDelimiters ⟨line ++ tail, number⟩ whitespace).peekChar ≠ hash) = true := by
    simp [ends, noStar, noComment]
  unfold filterTurn
  by_cases short : ((wordsOf line).headD []).length < maxStrLen
  · rw [if_pos short] at token ⊢
    simp only [test, if_true, if_neg noStar, token, Option.bind_eq_bind, Option.bind_some]
    exact ⟨_, rfl, (behind.suffix (past_word_suffix whitespace line)).next_line number⟩
  · rw [if_neg short] at token ⊢
    simp only [test, if_true, if_neg noStar, token, Option.bind_eq_bind, Option.bind_none]

end

-- The records behind an EDID that has begun.
def recordsFrom (edid : Bytes) : List Bytes → List Bytes
  | [] => []
  | word :: rest => if Starred word then edid :: recordsFrom [] rest else recordsFrom (edid ++ word) rest

theorem modify_head_nothing (pieces : List Bytes) : pieces.modifyHead ([] ++ ·) = pieces := by
  cases pieces <;> rfl

theorem records_from_split (edid : Bytes) (found : List Bytes) : recordsFrom edid found =
    (((found.splitOnP fun word => Starred word).dropLast).map List.flatten).modifyHead (edid ++ ·) := by
  induction found generalizing edid with
  | nil => rfl
  | cons word rest ih =>
      have some := List.splitOnP_ne_nil (fun word => decide (Starred word)) rest
      rw [recordsFrom, List.splitOnP_cons_eq_if_modifyHead]
      by_cases starred : Starred word
      · rw [if_pos starred, if_pos (decide_eq_true starred), ih, List.dropLast_cons_of_ne_nil some, List.map_cons, List.modifyHead_cons,
          modify_head_nothing, List.flatten_nil, List.append_nil]
      · rw [if_neg starred, if_neg (by simpa using starred), ih]
        cases pieces : rest.splitOnP fun word => decide (Starred word) with
        | nil => exact absurd pieces some
        | cons first more =>
            cases more with
            | nil => rfl
            | cons second more => simp

theorem records_eq (file : Bytes) : records file = recordsFrom [] (firstWords file) := by
  rw [records_from_split, modify_head_nothing, records]

def Ends (state : EdidState) (file : Bytes) (final : EdidState) : Prop :=
  final.mFilterEdidList.map CStr.bytes = state.mFilterEdidList.map CStr.bytes ++ recordsFrom state.edid.bytes (firstWords file)

theorem filter_loop (turns number : Nat) (file : Bytes) (enough : file.length ≤ turns) (state : EdidState) :
    (Short file → ∃ final, filterLoop turns state ⟨file, number⟩ = some final ∧ Ends state file final) ∧
      (¬ Short file → filterLoop turns state ⟨file, number⟩ = none) := by
  induction turns generalizing file number state with
  | zero =>
      rw [List.length_eq_zero_iff.mp (Nat.le_zero.mp enough)]
      exact ⟨fun _ => ⟨state, rfl, (List.append_nil _).symm⟩, fun long => absurd (fun _ member => absurd member List.not_mem_nil) long⟩
  | succ turns ih =>
      by_cases empty : file = []
      · rw [empty]
        exact ⟨fun _ => ⟨state, rfl, (List.append_nil _).symm⟩, fun long => absurd (fun _ member => absurd member List.not_mem_nil) long⟩
      · obtain ⟨line, tail, whole, behind, split, shorter⟩ := first_line file empty
        have more : SysTokenizer.isEof ⟨file, number⟩ = false := decide_eq_false empty
        have later := fun state number => ih number tail.tail (by omega) state
        rw [filterLoop, more, if_neg (by decide)]
        unfold Short Ends at later ⊢
        by_cases spoken : Spoken (wordsOf line)
        · rw [first_words_spoken file line tail.tail split spoken, List.forall_mem_cons, recordsFrom]
          by_cases starred : Starred ((wordsOf line).headD [])
          · obtain ⟨⟨_, count⟩, turned, left⟩ := filter_turn_star behind number state starred
            cases left
            have next := later ⟨.empty, state.mFilterEdidList ++ [state.edid]⟩ count
            rw [List.map_append, List.append_assoc] at next
            rw [and_iff_right fun plain => absurd starred plain, if_pos starred, whole, turned]
            exact next
          · have turn := filter_turn_word behind number state spoken starred
            rw [if_neg starred, whole]
            by_cases short : ((wordsOf line).headD []).length < maxStrLen
            · rw [if_pos short] at turn
              obtain ⟨⟨_, count⟩, turned, left⟩ := turn
              cases left
              have next := later { state with edid := state.edid.append (CStr.read ((wordsOf line).headD [])) } count
              have text : (state.edid.append (CStr.read ((wordsOf line).headD []))).bytes =
                  state.edid.bytes ++ (wordsOf line).headD [] := by
                have word : (CStr.read ((wordsOf line).headD [])).bytes = (wordsOf line).headD [] := by
                  rw [getd_zero, word_read]
                exact congrArg (state.edid.bytes ++ ·) word
              rw [text] at next
              rw [and_iff_right fun _ => short, turned]
              exact next
            · rw [if_neg short] at turn
              rw [turn]
              exact ⟨fun both => absurd (both.1 starred) short, fun _ => rfl⟩
        · obtain ⟨⟨_, count⟩, turned, left⟩ := filter_turn_silent behind number state spoken
          cases left
          rw [first_words_silent file line tail.tail split spoken, whole, turned]
          exact later state count

theorem filter_file_some (file : Bytes) (short : Short file) :
    ∃ list, parseFilterEdidConfigFile (some file) = some list ∧ list.map CStr.bytes = records file := by
  obtain ⟨final, ran, ends⟩ := (filter_loop file.length 1 file (Nat.le_refl _) ⟨.empty, []⟩).1 short
  refine ⟨final.mFilterEdidList, ?_, ?_⟩
  · rw [parseFilterEdidConfigFile, SysTokenizer.ofFile, ran, Option.map_some]
  · rw [records_eq]
    exact ends

theorem filter_file_iff (file : Bytes) (list : List CStr) :
    parseFilterEdidConfigFile (some file) = some list ↔ Short file ∧ list.map CStr.bytes = records file := by
  by_cases short : Short file
  · obtain ⟨own, parsed, same⟩ := filter_file_some file short
    rw [parsed, Option.some.injEq, and_iff_right short, ← same]
    have inject : Function.Injective CStr.bytes := fun a b bytes => CStr.ext_bytes a b bytes
    rw [(List.map_injective_iff.mpr inject).eq_iff]
    exact eq_comm
  · have failed := (filter_loop file.length 1 file (Nat.le_refl _) ⟨.empty, []⟩).2 short
    have nothing : parseFilterEdidConfigFile (some file) = none := by
      rw [parseFilterEdidConfigFile, SysTokenizer.ofFile, failed, Option.map_none]
    rw [nothing]
    exact ⟨(nomatch ·), fun both => absurd both.1 short⟩

-- The list as initDisplay gives it to the colour choice, and the sink that is asked for.
theorem listed_sink_iff {device : EnvDevice} (config : Config) (output : Output device) (file : Bytes) (answer : Bool) :
    ((parseFilterEdidConfigFile (some file)).bind fun list => isFilterEdid { config with mFilterEdid := list } output) =
        some answer ↔
      Short file ∧ (output.nodes .edidRaw).bytes.length < edidSize ∧
        answer = decide ((output.nodes .edidRaw).bytes ∈ records file) := by
  simp only [Option.bind_eq_some_iff, filter_file_iff, isFilterEdid, Option.bind_eq_bind, ColorChoice.copy_iff, Option.some.injEq]
  have inject : Function.Injective CStr.bytes := fun a b bytes => CStr.ext_bytes a b bytes
  constructor
  · rintro ⟨list, ⟨short, same⟩, edid, ⟨fits, rfl⟩, rfl⟩
    refine ⟨short, fits, ?_⟩
    rw [← same, decide_eq_decide, List.mem_map_of_injective inject]
  · rintro ⟨short, fits, rfl⟩
    obtain ⟨list, _, same⟩ := filter_file_some file short
    refine ⟨list, ⟨short, same⟩, _, ⟨fits, rfl⟩, ?_⟩
    rw [← same, decide_eq_decide, List.mem_map_of_injective inject]

-- An EDID as the file has it: its pieces on a line each, and a star on the line behind them.
def writtenEdid (pieces : List Bytes) : Bytes := (pieces.map (· ++ [newline])).flatten ++ [star, newline]

def writtenEdids (edids : List (List Bytes)) : Bytes := (edids.map writtenEdid).flatten

structure Piece (piece : Bytes) : Prop where
  plain : ∀ ch ∈ piece, SysTokenizer.isDelimiter whitespace ch = false ∧ ch ≠ newline
  counts : piece ≠ [] ∧ piece.head? ≠ some star ∧ piece.head? ≠ some hash
  short : piece.length < maxStrLen

theorem words_single (piece : Bytes) (plain : ∀ ch ∈ piece, SysTokenizer.isDelimiter whitespace ch = false) (some : piece ≠ []) :
    wordsOf piece = [piece] := by
  cases piece with
  | nil => exact absurd rfl some
  | cons ch rest =>
      have whole : (ch :: rest).takeWhile (!SysTokenizer.isDelimiter whitespace ·) = ch :: rest :=
        List.takeWhile_eq_self_iff.mpr fun other member => by simp [plain other member]
      have nothing : (ch :: rest).dropWhile (!SysTokenizer.isDelimiter whitespace ·) = [] :=
        List.dropWhile_eq_nil_iff.mpr fun other member => by simp [plain other member]
      rw [wordsOf, words_first _ ch rest (plain ch List.mem_cons_self), whole, nothing]
      rfl

theorem first_words_line (word rest : Bytes) (plain : ∀ ch ∈ word, SysTokenizer.isDelimiter whitespace ch = false ∧ ch ≠ newline)
    (some : word ≠ []) (comment : word.head? ≠ Option.some hash) :
    firstWords (word ++ newline :: rest) = word :: firstWords rest := by
  have single := words_single word (fun ch member => (plain ch member).1) some
  have within : newline ∉ word := fun member => (plain newline member).2 rfl
  have split := lines_cut newline _ word rest (cut_at newline word rest within)
  have spoken : Spoken (wordsOf word) := by
    rw [single]
    exact ⟨List.cons_ne_nil _ _, comment⟩
  rw [first_words_spoken _ word rest split spoken, single, List.headD_cons]

theorem first_words_edid (pieces : List Bytes) (rest : Bytes) (good : ∀ piece ∈ pieces, Piece piece) :
    firstWords (writtenEdid pieces ++ rest) = pieces ++ [star] :: firstWords rest := by
  induction pieces with
  | nil =>
      refine first_words_line [star] rest (fun ch member => ?_) (List.cons_ne_nil _ _) (by decide)
      rw [List.mem_singleton.mp member]
      decide
  | cons piece pieces ih =>
      obtain ⟨own, others⟩ := List.forall_mem_cons.mp good
      have whole : writtenEdid (piece :: pieces) ++ rest = piece ++ newline :: (writtenEdid pieces ++ rest) := by
        simp [writtenEdid]
      rw [whole, first_words_line piece _ own.plain own.counts.1 own.counts.2.2, ih others, List.cons_append]

theorem records_pieces (edid : Bytes) (pieces found : List Bytes) (plain : ∀ piece ∈ pieces, ¬ Starred piece) :
    recordsFrom edid (pieces ++ [star] :: found) = (edid ++ pieces.flatten) :: recordsFrom [] found := by
  induction pieces generalizing edid with
  | nil => rw [List.nil_append, recordsFrom, if_pos (show Starred [star] from rfl), List.flatten_nil, List.append_nil]
  | cons piece pieces ih =>
      obtain ⟨own, others⟩ := List.forall_mem_cons.mp plain
      rw [List.cons_append, recordsFrom, if_neg own, ih _ others, List.flatten_cons, List.append_assoc]

theorem records_written (edids : List (List Bytes)) (good : ∀ pieces ∈ edids, ∀ piece ∈ pieces, Piece piece) :
    Short (writtenEdids edids) ∧ records (writtenEdids edids) = edids.map List.flatten := by
  rw [records_eq, Short]
  induction edids with
  | nil => exact ⟨fun _ member => absurd member List.not_mem_nil, rfl⟩
  | cons pieces edids ih =>
      obtain ⟨own, others⟩ := List.forall_mem_cons.mp good
      obtain ⟨short, same⟩ := ih others
      have whole : writtenEdids (pieces :: edids) = writtenEdid pieces ++ writtenEdids edids := rfl
      rw [whole, first_words_edid pieces _ own, records_pieces _ _ _ fun piece member => (own piece member).counts.2.1, same]
      refine ⟨fun word member plain => ?_, rfl⟩
      rcases List.mem_append.mp member with inside | behind
      · exact (own word inside).short
      · rcases List.mem_cons.mp behind with rfl | later
        · exact absurd rfl plain
        · exact short word later plain

theorem written_edids_parsed (edids : List (List Bytes)) (good : ∀ pieces ∈ edids, ∀ piece ∈ pieces, Piece piece) (list : List CStr) :
    parseFilterEdidConfigFile (some (writtenEdids edids)) = some list ↔ list.map CStr.bytes = edids.map List.flatten := by
  obtain ⟨short, same⟩ := records_written edids good
  rw [filter_file_iff, same, and_iff_right short]

def samplePieces : List (List Bytes) := [[ascii ("00ff").toList, ascii ("ffff").toList], [], [ascii ("4c2d").toList]]

theorem sample_pieces (pieces : List Bytes) (member : pieces ∈ samplePieces) (piece : Bytes) (inside : piece ∈ pieces) :
    Piece piece := by
  have plain : ∀ pieces ∈ samplePieces, ∀ piece ∈ pieces,
      piece.all (fun ch => !SysTokenizer.isDelimiter whitespace ch && ch != newline) = true := by decide
  refine ⟨fun ch letter => ?_, by revert pieces piece; decide, by revert pieces piece; decide⟩
  simpa using List.all_eq_true.mp (plain pieces member piece inside) ch letter

theorem sample_edids_parsed :
    ∃ list, parseFilterEdidConfigFile (some (writtenEdids samplePieces)) = some list ∧
      list.map CStr.bytes = [ascii ("00ffffff").toList, [], ascii ("4c2d").toList] := by
  let list : List CStr := [⟨ascii ("00ffffff").toList, by decide⟩, CStr.empty, ⟨ascii ("4c2d").toList, by decide⟩]
  exact ⟨list, (written_edids_parsed samplePieces sample_pieces list).mpr rfl, rfl⟩

end Droidlogic.Display.ConfigFile
