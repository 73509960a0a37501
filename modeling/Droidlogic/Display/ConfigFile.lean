import Droidlogic.Display.ColorDepth
import Droidlogic.Display.SysTokenizer

set_option autoImplicit false

namespace Droidlogic.Display.ConfigFile

open Droidlogic.Lib

def whitespace : CStr := ⟨ascii [' ', '\t', '\r'], by decide⟩

def deviceStrMid : Bytes := ascii ['M', 'I', 'D']
def deviceStrMbox : Bytes := ascii ['M', 'B', 'O', 'X']
def deviceStrTv : Bytes := ascii ['T', 'V']

def hash : UInt8 := 35

structure Fields where
  mDisplayType : DisplayType
  mSocType : CharArray 64
  mDefaultUI : CharArray 64
deriving DecidableEq

def keyword (token : Bytes) : Option DisplayType :=
  if token = deviceStrMbox then some .mbox
  else if token = deviceStrTv then some .tv
  else if token = deviceStrMid then some .tablet
  else none

section
variable (lcdExist : Int)

-- One turn of the loop of parseConfigFile; the flag tells that it breaks. none is a copy past its array.
def configTurn (fields : Fields) (tokenizer : SysTokenizer) : Option (Fields × SysTokenizer × Bool) := do
  let tokenizer := tokenizer.skipDelimiters whitespace
  if !tokenizer.isEol && tokenizer.peekChar ≠ hash then
    let (token, tokenizer) ← tokenizer.nextToken whitespace
    match keyword token.bytes with
    | none => some (fields, tokenizer, true)
    | some type =>
        let (soc, tokenizer) ← (tokenizer.skipDelimiters whitespace).nextToken whitespace
        let mSocType ← strcpy 64 soc
        let (ui, tokenizer) ← (tokenizer.skipDelimiters whitespace).nextToken whitespace
        let mDefaultUI ← strcpy 64 ui
        some (⟨if lcdExist = 0 then .mbox else type, mSocType, mDefaultUI⟩, tokenizer.nextLine, false)
  else some (fields, tokenizer.nextLine, false)

-- Every turn leaves less of the file, so as many turns as it has bytes are enough.
def configLoop : Nat → Fields → SysTokenizer → Option Fields
  | 0, fields, _ => some fields
  | turns + 1, fields, tokenizer =>
      if tokenizer.isEof then some fields
      else
        match configTurn lcdExist fields tokenizer with
        | none => none
        | some (fields, _, true) => some fields
        | some (fields, tokenizer, false) => configLoop turns fields tokenizer

-- A file that cannot be opened is none.
def parseConfigFile (tvsocAsMbox : Bool) (file : Option Bytes) (fields : Fields) : Option Fields := do
  let fields ←
    match file with
    | none => some fields
    | some file => configLoop lcdExist file.length fields (.ofFile file)
  some (if fields.mDisplayType = .tv ∧ tvsocAsMbox then { fields with mDisplayType := .repeater } else fields)

end

def wordsOf (line : Bytes) : List Bytes := words (SysTokenizer.isDelimiter whitespace) line

-- An entry is a line that is neither blank nor a comment.
def Spoken (entry : List Bytes) : Prop := entry ≠ [] ∧ (entry.headD []).head? ≠ some hash

instance (entry : List Bytes) : Decidable (Spoken entry) := inferInstanceAs (Decidable (_ ∧ _))

def entries (file : Bytes) : List (List Bytes) := ((lines newline file).map wordsOf).filter fun entry => Spoken entry

def Known (entry : List Bytes) : Prop := (keyword (entry.headD [])).isSome

instance (entry : List Bytes) : Decidable (Known entry) := inferInstanceAs (Decidable (_ = true))

-- The entries that are read are those before the first one of an unknown keyword.
def read (file : Bytes) : List (List Bytes) := (entries file).takeWhile fun entry => Known entry

def Fits (entry : List Bytes) : Prop := (entry.getD 1 []).length < 64 ∧ (entry.getD 2 []).length < 64

instance (entry : List Bytes) : Decidable (Fits entry) := inferInstanceAs (Decidable (_ ∧ _))

structure Readable (file : Bytes) : Prop where
  fields : ∀ entry ∈ read file, Fits entry
  unknown : ∀ entry ∈ ((entries file).dropWhile fun entry => Known entry).head?, (entry.headD []).length < maxStrLen

structure Holds (lcdExist : Int) (entry : List Bytes) (fields : Fields) : Prop where
  type : some fields.mDisplayType = if lcdExist = 0 then some .mbox else keyword (entry.headD [])
  soc : fields.mSocType.str.bytes = entry.getD 1 []
  ui : fields.mDefaultUI.str.bytes = entry.getD 2 []

theorem word_text (line word : Bytes) (member : word ∈ wordsOf line) : (CStr.read word).bytes = word := by
  refine CStr.read_bytes word fun nul => ?_
  have plain := word_plain (SysTokenizer.isDelimiter whitespace) line word member 0 nul
  exact absurd plain (by decide)

theorem word_read (line : Bytes) (index : Nat) : (CStr.read ((wordsOf line).getD index [])).bytes = (wordsOf line).getD index [] := by
  rw [List.getD_eq_getElem?_getD]
  cases here : (wordsOf line)[index]? with
  | none => rfl
  | some word => exact word_text line word (List.mem_of_getElem? here)

theorem silent_front (line : Bytes) (nothing : skipped whitespace line = []) : wordsOf line = [] :=
  words_nothing _ line nothing

theorem word_front (line : Bytes) (ch : UInt8) (rest : Bytes) (front : skipped whitespace line = ch :: rest) :
    ∃ word more, wordsOf line = (ch :: word) :: more := by
  have begins := skipped_head whitespace line ch rest front
  rw [wordsOf, words_skip, show line.dropWhile (SysTokenizer.isDelimiter whitespace) = ch :: rest from front,
    words_first _ ch rest begins, List.takeWhile_cons_of_pos (by simp [begins])]
  exact ⟨_, _, rfl⟩

-- The test before the first token.
theorem front_within {line tail : Bytes} (behind : Behind line tail) (ch : UInt8) (rest : Bytes)
    (front : skipped whitespace line = ch :: rest) : ch ≠ newline := fun same =>
  behind.within ((skipped_suffix whitespace line).subset (front ▸ same ▸ List.mem_cons_self))

theorem spoken_iff {line tail : Bytes} (behind : Behind line tail) (number : Nat) :
    (!(SysTokenizer.skipDelimiters ⟨line ++ tail, number⟩ whitespace).isEol &&
      (SysTokenizer.skipDelimiters ⟨line ++ tail, number⟩ whitespace).peekChar ≠ hash) = decide (Spoken (wordsOf line)) := by
  rw [skip_delimiters whitespace behind]
  cases front : skipped whitespace line with
  | nil =>
      rw [silent_front line front]
      rcases behind.ends with rfl | ⟨more, rfl⟩ <;> rfl
  | cons ch rest =>
      obtain ⟨word, more, split⟩ := word_front line ch rest front
      have within := front_within behind ch rest front
      rw [split]
      simp [SysTokenizer.isEol, SysTokenizer.peekChar, Spoken, within]
      exact decide_not

theorem getd_zero (entry : List Bytes) : entry.headD [] = entry.getD 0 [] := by
  cases entry <;> rfl

theorem keyword_short (token : Bytes) (type : DisplayType) (known : keyword token = some type) : token.length < maxStrLen := by
  unfold keyword at known
  split at known
  · rename_i same
    rw [same]
    decide
  · split at known
    · rename_i same
      rw [same]
      decide
    · split at known
      · rename_i same
        rw [same]
        decide
      · cases known

section
variable (lcdExist : Int)

theorem turn_silent (fields : Fields) {line tail : Bytes} (behind : Behind line tail) (number : Nat)
    (silent : ¬ Spoken (wordsOf line)) :
    ∃ next, configTurn lcdExist fields ⟨line ++ tail, number⟩ = some (fields, next, false) ∧ next.left = tail.tail := by
  have test := spoken_iff behind number
  rw [decide_eq_false silent] at test
  unfold configTurn
  simp only [test, Bool.false_eq_true, if_false]
  refine ⟨_, rfl, ?_⟩
  rw [skip_delimiters whitespace behind]
  exact (behind.suffix (skipped_suffix whitespace line)).next_line number

-- The k-th call of nextToken on a line finds its k-th word.
theorem token_word {line tail : Bytes} (behind : Behind line tail) (number index : Nat) (whole : List Bytes)
    (rest : wordsOf line = whole.drop index) (short : (whole.getD index []).length < maxStrLen) :
    SysTokenizer.nextToken (SysTokenizer.skipDelimiters ⟨line ++ tail, number⟩ whitespace) whitespace =
      some (CStr.read (whole.getD index []), ⟨pastWord whitespace line ++ tail, number⟩) ∧
      wordsOf (pastWord whitespace line) = whole.drop (index + 1) := by
  have first : (wordsOf line).headD [] = whole.getD index [] := by
    rw [rest, List.headD_eq_head?_getD, List.head?_drop, List.getD_eq_getElem?_getD]
  refine ⟨?_, ?_⟩
  · rw [next_token_word whitespace behind number (whole.getD index []) first, if_pos short]
  · rw [wordsOf, past_word_words]
    exact (congrArg List.tail rest).trans List.tail_drop

theorem turn_unknown (fields : Fields) {line tail : Bytes} (behind : Behind line tail) (number : Nat)
    (spoken : Spoken (wordsOf line)) (unknown : keyword ((wordsOf line).headD []) = none) :
    if ((wordsOf line).headD []).length < maxStrLen then
      ∃ next, configTurn lcdExist fields ⟨line ++ tail, number⟩ = some (fields, next, true)
    else configTurn lcdExist fields ⟨line ++ tail, number⟩ = none := by
  have test := spoken_iff behind number
  rw [decide_eq_true spoken] at test
  have token := next_token_word whitespace behind number ((wordsOf line).headD []) rfl
  have text : (CStr.read ((wordsOf line).headD [])).bytes = (wordsOf line).headD [] := by rw [getd_zero, word_read]
  unfold configTurn
  by_cases short : ((wordsOf line).headD []).length < maxStrLen
  · rw [if_pos short] at token ⊢
    simp only [test, if_true, token, Option.bind_eq_bind, Option.bind_some, text, unknown]
    exact ⟨_, rfl⟩
  · rw [if_neg short] at token ⊢
    simp only [test, if_true, token, Option.bind_eq_bind, Option.bind_none]

theorem bind_fails {First Second Third : Type} (start : Option First) (next : First → Option Second)
    (last : First → Second → Option Third) (fails : start.bind next = none) :
    (start.bind fun first => (next first).bind (last first)) = none := by
  cases start with
  | none => rfl
  | some first =>
      rw [Option.bind_some] at fails ⊢
      rw [fails, Option.bind_none]

-- strcpy of a word into one of the two arrays, after the call of nextToken that returned it.
theorem token_long {line tail : Bytes} (behind : Behind line tail) (number index : Nat) (whole : List Bytes)
    (rest : wordsOf line = whole.drop index) (long : 64 ≤ (whole.getD index []).length) :
    ((SysTokenizer.nextToken (SysTokenizer.skipDelimiters ⟨line ++ tail, number⟩ whitespace) whitespace).bind
      fun pair => strcpy 64 pair.1) = none := by
  by_cases short : (whole.getD index []).length < maxStrLen
  · have text : (CStr.read (whole.getD index [])).bytes = whole.getD index [] := by
      have here := word_read line 0
      rw [List.getD_eq_getElem?_getD, rest, List.getElem?_drop, Nat.add_zero, ← List.getD_eq_getElem?_getD] at here
      exact here
    rw [(token_word behind number index whole rest short).1, Option.bind_some, strcpy, dif_neg (by rw [text]; omega)]
  · have first : (wordsOf line).headD [] = whole.getD index [] := by
      rw [rest, List.headD_eq_head?_getD, List.head?_drop, List.getD_eq_getElem?_getD]
    rw [next_token_word whitespace behind number _ first, if_neg short, Option.bind_none]

theorem turn_known (fields : Fields) {line tail : Bytes} (behind : Behind line tail) (number : Nat)
    (spoken : Spoken (wordsOf line)) (known : Known (wordsOf line)) :
    if Fits (wordsOf line) then
      ∃ read next, configTurn lcdExist fields ⟨line ++ tail, number⟩ = some (read, next, false) ∧ next.left = tail.tail ∧
        Holds lcdExist (wordsOf line) read
    else configTurn lcdExist fields ⟨line ++ tail, number⟩ = none := by
  have test := spoken_iff behind number
  rw [decide_eq_true spoken] at test
  obtain ⟨type, named⟩ := Option.isSome_iff_exists.mp known
  have short : ((wordsOf line).getD 0 []).length < maxStrLen := by
    rw [← getd_zero]
    exact keyword_short _ type named
  have text : keyword (CStr.read ((wordsOf line).getD 0 [])).bytes = some type := by rw [word_read, ← getd_zero, named]
  have first := token_word behind number 0 (wordsOf line) rfl short
  have behindFirst := behind.suffix (past_word_suffix whitespace line)
  by_cases soc : ((wordsOf line).getD 1 []).length < 64
  · have second := token_word behindFirst number 1 (wordsOf line) first.2 (Nat.lt_trans soc (by decide))
    have behindSecond := behindFirst.suffix (past_word_suffix whitespace _)
    have socFits : (CStr.read ((wordsOf line).getD 1 [])).bytes.length < 64 := by rwa [word_read]
    by_cases ui : ((wordsOf line).getD 2 []).length < 64
    · have third := token_word behindSecond number 2 (wordsOf line) second.2 (Nat.lt_trans ui (by decide))
      have uiFits : (CStr.read ((wordsOf line).getD 2 [])).bytes.length < 64 := by rwa [word_read]
      rw [if_pos ⟨soc, ui⟩]
      unfold configTurn
      simp only [test, if_true, first.1, second.1, third.1, Option.bind_eq_bind, Option.bind_some, text, strcpy_some _ _ socFits,
        strcpy_some _ _ uiFits]
      refine ⟨_, _, rfl, (behindSecond.suffix (past_word_suffix whitespace _)).next_line number, ⟨?_, word_read line 1, word_read line 2⟩⟩
      rw [named]
      split <;> rfl
    · have third := token_long behindSecond number 2 (wordsOf line) second.2 (by omega)
      rw [if_neg fun fits => ui fits.2]
      unfold configTurn
      simp only [test, if_true, first.1, second.1, Option.bind_eq_bind, Option.bind_some, text, strcpy_some _ _ socFits]
      exact bind_fails _ _ _ third
  · have second := token_long behindFirst number 1 (wordsOf line) first.2 (by omega)
    rw [if_neg fun fits => soc fits.1]
    unfold configTurn
    simp only [test, if_true, first.1, Option.bind_eq_bind, Option.bind_some, text]
    exact bind_fails _ _ _ second

-- A file that is not empty is its first line and what is behind it.
theorem first_line (file : Bytes) (nonempty : file ≠ []) :
    ∃ line tail, file = line ++ tail ∧ Behind line tail ∧ lines newline file = line :: lines newline tail.tail ∧
      tail.tail.length < file.length := by
  cases found : cut newline file with
  | some pair =>
      obtain ⟨whole, absent⟩ := cut_some newline file pair.1 pair.2 found
      refine ⟨pair.1, newline :: pair.2, whole, ⟨absent, Or.inr ⟨_, rfl⟩⟩, lines_cut newline file pair.1 pair.2 found, ?_⟩
      rw [whole, List.length_append, List.length_cons, List.tail_cons]
      omega
  | none =>
      refine ⟨file, [], (List.append_nil _).symm, ⟨cut_none newline file found, Or.inl rfl⟩, lines_last newline file found nonempty, ?_⟩
      exact List.length_pos_iff.mpr nonempty

theorem entries_silent (file line rest : Bytes) (split : lines newline file = line :: lines newline rest)
    (silent : ¬ Spoken (wordsOf line)) : entries file = entries rest := by
  rw [entries, split, List.map_cons, List.filter_cons_of_neg (by simpa using silent), entries]

theorem entries_spoken (file line rest : Bytes) (split : lines newline file = line :: lines newline rest)
    (spoken : Spoken (wordsOf line)) : entries file = wordsOf line :: entries rest := by
  rw [entries, split, List.map_cons, List.filter_cons_of_pos (by simpa using spoken), entries]

def Leaves (file : Bytes) (fields result : Fields) : Prop :=
  match (read file).getLast? with
  | none => result = fields
  | some entry => Holds lcdExist entry result

theorem holds_unique (entry : List Bytes) (first second : Fields) (one : Holds lcdExist entry first) (other : Holds lcdExist entry second) :
    first = second := by
  cases first
  cases second
  rw [Fields.mk.injEq]
  exact ⟨Option.some.inj (one.type.trans other.type.symm), CharArray.ext_bytes _ _ (one.soc.trans other.soc.symm),
    CharArray.ext_bytes _ _ (one.ui.trans other.ui.symm)⟩

theorem silent_iff (file rest : Bytes) (fields result : Fields) (listed : entries file = entries rest) :
    Readable file ∧ Leaves lcdExist file fields result ↔ Readable rest ∧ Leaves lcdExist rest fields result := by
  have same : read file = read rest := by rw [read, listed, read]
  unfold Leaves
  rw [same]
  refine and_congr_left' ⟨fun whole => ⟨?_, ?_⟩, fun later => ⟨?_, ?_⟩⟩
  · rw [← same]
    exact whole.fields
  · rw [← listed]
    exact whole.unknown
  · rw [same]
    exact later.fields
  · rw [listed]
    exact later.unknown

theorem unknown_iff (file rest : Bytes) (entry : List Bytes) (fields result : Fields) (listed : entries file = entry :: entries rest)
    (unknown : ¬ Known entry) :
    Readable file ∧ Leaves lcdExist file fields result ↔ (entry.headD []).length < maxStrLen ∧ result = fields := by
  have nothing : read file = [] := by rw [read, listed, List.takeWhile_cons_of_neg (by simpa using unknown)]
  have stopped : (entries file).dropWhile (fun entry => Known entry) = entry :: entries rest := by
    rw [listed, List.dropWhile_cons_of_neg (by simpa using unknown)]
  have leaves : Leaves lcdExist file fields result ↔ result = fields := by
    unfold Leaves
    rw [nothing]
    exact Iff.rfl
  rw [leaves]
  refine and_congr_left' ⟨fun readable => ?_, fun short => ⟨?_, ?_⟩⟩
  · exact readable.unknown entry (by rw [stopped]; rfl)
  · rw [nothing]
    exact fun _ member => absurd member List.not_mem_nil
  · rw [stopped]
    intro other same
    cases same
    exact short

theorem known_iff (file rest : Bytes) (entry : List Bytes) (fields result loaded : Fields) (listed : entries file = entry :: entries rest)
    (known : Known entry) (holds : Holds lcdExist entry loaded) :
    Readable file ∧ Leaves lcdExist file fields result ↔ Fits entry ∧ Readable rest ∧ Leaves lcdExist rest loaded result := by
  have front : read file = entry :: read rest := by rw [read, listed, List.takeWhile_cons_of_pos (by simpa using known), read]
  have stopped : (entries file).dropWhile (fun entry => Known entry) = (entries rest).dropWhile fun entry => Known entry := by
    rw [listed, List.dropWhile_cons_of_pos (by simpa using known)]
  have leaves : Leaves lcdExist file fields result ↔ Leaves lcdExist rest loaded result := by
    unfold Leaves
    rw [front]
    cases last : (read rest).getLast? with
    | none =>
        rw [List.getLast?_eq_none_iff.mp last]
        exact ⟨fun own => holds_unique lcdExist entry result loaded own holds, fun same => same ▸ holds⟩
    | some other =>
        rw [List.getLast?_cons, last]
        exact Iff.rfl
  rw [leaves, ← and_assoc]
  refine and_congr_left' ⟨fun readable => ⟨?_, ?_, ?_⟩, fun both => ⟨?_, ?_⟩⟩
  · exact readable.fields entry (front ▸ List.mem_cons_self)
  · exact fun other member => readable.fields other (front ▸ List.mem_cons_of_mem entry member)
  · rw [← stopped]
    exact readable.unknown
  · rw [front]
    exact List.forall_mem_cons.mpr ⟨both.1, both.2.fields⟩
  · rw [stopped]
    exact both.2.unknown

theorem config_loop_iff (turns number : Nat) (file : Bytes) (enough : file.length ≤ turns) (fields result : Fields) :
    configLoop lcdExist turns fields ⟨file, number⟩ = some result ↔ Readable file ∧ Leaves lcdExist file fields result := by
  induction turns generalizing file number fields with
  | zero =>
      rw [List.length_eq_zero_iff.mp (Nat.le_zero.mp enough), configLoop, Option.some.injEq]
      exact ⟨fun same => ⟨⟨fun _ member => absurd member List.not_mem_nil, fun _ member => by cases member⟩, same.symm⟩, fun both => both.2.symm⟩
  | succ turns ih =>
      by_cases empty : file = []
      · rw [configLoop, empty]
        simp only [SysTokenizer.isEof, decide_true, if_true, Option.some.injEq]
        exact ⟨fun same => ⟨⟨fun _ member => absurd member List.not_mem_nil, fun _ member => by cases member⟩, same.symm⟩, fun both => both.2.symm⟩
      · obtain ⟨line, tail, whole, behind, split, shorter⟩ := first_line file empty
        have more : SysTokenizer.isEof ⟨file, number⟩ = false := decide_eq_false empty
        rw [configLoop, more, if_neg (by decide)]
        by_cases spoken : Spoken (wordsOf line)
        · have listed := entries_spoken file line tail.tail split spoken
          by_cases known : Known (wordsOf line)
          · by_cases fits : Fits (wordsOf line)
            · have turn := turn_known lcdExist fields behind number spoken known
              rw [if_pos fits] at turn
              obtain ⟨loaded, next, turned, left, holds⟩ := turn
              obtain ⟨_, count⟩ := next
              cases left
              rw [known_iff lcdExist file tail.tail _ fields result loaded listed known holds, and_iff_right fits,
                ← ih count tail.tail (by omega) loaded, whole, turned]
              exact Iff.rfl
            · have turn := turn_known lcdExist fields behind number spoken known
              rw [if_neg fits] at turn
              rw [whole, turn, ← whole]
              refine ⟨(nomatch ·), fun both => absurd (both.1.fields (wordsOf line) ?_) fits⟩
              rw [read, listed, List.takeWhile_cons_of_pos (by simpa using known)]
              exact List.mem_cons_self
          · have unknown : keyword ((wordsOf line).headD []) = none := Option.not_isSome_iff_eq_none.mp known
            have turn := turn_unknown lcdExist fields behind number spoken unknown
            rw [unknown_iff lcdExist file tail.tail _ fields result listed known, whole]
            by_cases short : ((wordsOf line).headD []).length < maxStrLen
            · rw [if_pos short] at turn
              obtain ⟨next, turned⟩ := turn
              rw [turned, and_iff_right short]
              exact ⟨fun same => (Option.some.inj same).symm, fun same => congrArg some same.symm⟩
            · rw [if_neg short] at turn
              rw [turn]
              exact ⟨(nomatch ·), fun both => absurd both.1 short⟩
        · have listed := entries_silent file line tail.tail split spoken
          obtain ⟨next, turned, left⟩ := turn_silent lcdExist fields behind number spoken
          obtain ⟨_, count⟩ := next
          cases left
          rw [silent_iff lcdExist file tail.tail fields result listed, ← ih count tail.tail (by omega) fields, whole, turned]
          exact Iff.rfl

theorem config_file_iff (tvsocAsMbox : Bool) (file : Bytes) (fields result : Fields) :
    parseConfigFile lcdExist tvsocAsMbox (some file) fields = some result ↔
      Readable file ∧ ∃ loaded, Leaves lcdExist file fields loaded ∧
        result = if loaded.mDisplayType = .tv ∧ tvsocAsMbox then { loaded with mDisplayType := .repeater } else loaded := by
  have loop := fun loaded => config_loop_iff lcdExist file.length 1 file (Nat.le_refl _) fields loaded
  unfold parseConfigFile
  rw [Option.bind_eq_bind, Option.bind_eq_some_iff]
  constructor
  · rintro ⟨loaded, ran, same⟩
    obtain ⟨readable, leaves⟩ := (loop loaded).mp ran
    exact ⟨readable, loaded, leaves, (Option.some.inj same).symm⟩
  · rintro ⟨readable, loaded, leaves, same⟩
    exact ⟨loaded, (loop loaded).mpr ⟨readable, leaves⟩, congrArg some same.symm⟩

end

-- Comments, blank lines and two entries: the last one before the unknown keyword counts.
def sampleFile : Bytes := ascii ("# display

MBOX s905 720p
 TV	t962 1080p panel
PHONE
MID
").toList

example : (read sampleFile).getLast? = some (ascii ("TV t962 1080p panel").toList |>.splitOn 32) := by decide +kernel

end Droidlogic.Display.ConfigFile
