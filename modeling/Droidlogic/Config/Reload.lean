import Droidlogic.Config.Map

set_option autoImplicit false

namespace Droidlogic.Config

open Droidlogic.Lib

def SetCall.text (call : SetCall) : CStr := keyText call.key call.val

def Plain (text : CStr) : Prop := newline ∉ text.bytes ∧ space ∉ text.bytes

instance (text : CStr) : Decidable (Plain text) := inferInstanceAs (Decidable (_ ∧ _))

def SetCall.Plain (call : SetCall) : Prop :=
  Config.Plain call.sectionName ∧ Config.Plain call.key ∧ Config.Plain call.val

instance (call : SetCall) : Decidable call.Plain := inferInstanceAs (Decidable (_ ∧ _))

-- The line of 511 bytes fills fgets' buffer, and '\r' is then its last byte.
def Endless (text : CStr) : Prop := text.bytes.length = 511 ∧ text.bytes.getLast? = some carriageReturn

instance (text : CStr) : Decidable (Endless text) := inferInstanceAs (Decidable (_ ∧ _))

-- The line that is written is classified and split again as it was in memory.
def PersistOk (config : CConfigFile) (call : SetCall) : Prop :=
  ((getSection call.sectionName config.mpFirstLine).isSome = true ∨ hash ∉ call.sectionName.bytes) ∧
    hash ∉ call.text.bytes ∧ ¬ (opening ∈ call.text.bytes ∧ closing ∈ call.text.bytes) ∧ equals ∉ call.key.bytes ∧
    ¬ Endless call.text ∧ ValueInPlace call.sectionName call.key config.mpFirstLine

instance (config : CConfigFile) (call : SetCall) : Decidable (PersistOk config call) :=
  inferInstanceAs (Decidable (_ ∧ _))

structure Stable (line : Line) : Prop where
  plain : Plain line.text.str
  typed : line.type = getLineType line.text.str
  start : line.type = .lineTypeKey → line.pValueStart = valueStart line.text.str
  ends : ¬ Endless line.text.str

theorem trim_newline (bytes : Bytes) : newline ∉ trim bytes := by
  intro member
  simpa using List.mem_takeWhile_imp ((trim_part bytes).subset member)

theorem trim_space (bytes : Bytes) : space ∉ trim bytes := by
  intro member
  simpa using (List.mem_filter.mp member).2

-- A line that keeps 511 bytes has lost none, a '\r' at its end neither.
theorem trim_full (bytes : Bytes) (bound : bytes.length ≤ 511) (full : (trim bytes).length = 511) :
    (trim bytes).getLast? ≠ some carriageReturn := by
  have cutLength : (bytes.takeWhile (· ≠ newline)).length ≤ 511 :=
    Nat.le_trans (List.takeWhile_sublist _).length_le bound
  have whole : trim bytes = bytes.takeWhile (· ≠ newline) :=
    (trim_part bytes).eq_of_length_le (by omega)
  intro last
  have stripped : (bytes.takeWhile (· ≠ newline)).getLast? = some carriageReturn := whole ▸ last
  have shorter : (trim bytes).length ≤ (bytes.takeWhile (· ≠ newline)).dropLast.length := by
    simp only [trim, if_pos stripped]
    exact List.length_filter_le _ _
  rw [List.length_dropLast] at shorter
  omega

theorem value_start_inside (text : CStr) (split : equals ∈ text.bytes) : valueStart text ≤ text.bytes.length := by
  rw [valueStart]
  apply Nat.succ_le_of_lt
  refine Nat.lt_of_le_of_ne (List.takeWhile_sublist _).length_le fun same => ?_
  have whole := (List.takeWhile_sublist (l := text.bytes) (· ≠ equals)).eq_of_length same
  rw [← whole] at split
  simpa using List.mem_takeWhile_imp split

theorem key_type_split (text : CStr) (typed : getLineType text = .lineTypeKey) : equals ∈ text.bytes := by
  unfold getLineType at typed
  by_cases comment : hash ∈ text.bytes
  · rw [if_pos comment] at typed
    cases typed
  · rw [if_neg comment] at typed
    by_cases brackets : opening ∈ text.bytes ∧ closing ∈ text.bytes
    · rw [if_pos brackets] at typed
      cases typed
    · rw [if_neg brackets] at typed
      by_cases split : equals ∈ text.bytes
      · exact split
      · rw [if_neg split] at typed
        cases typed

theorem section_type_some (text : CStr) (typed : getLineType text = .lineTypeSection) : 1 ≤ text.bytes.length := by
  apply Nat.succ_le_of_lt
  apply List.length_pos_of_ne_nil
  intro empty
  rw [getLineType, empty] at typed
  exact absurd typed (by decide)

theorem line_str_bytes (chunk : Bytes) (fits : chunk.length ≤ 511) (noNul : 0 ∉ chunk) :
    (lineStr chunk).str.bytes = chunk := by
  have whole : chunk.take 511 = chunk := List.take_of_length_le fits
  exact (congrArg (fun memory => (CStr.read memory).bytes) whole).trans (CStr.read_bytes chunk noNul)

theorem load_line_text (chunk : Bytes) : (loadLine chunk).text.str = (allTrim (lineStr chunk)).str := store_str _ _

theorem load_line_stable (chunk : Bytes) : Stable (loadLine chunk) where
  plain := by
    rw [load_line_text]
    exact ⟨trim_newline _, trim_space _⟩
  typed := by rw [load_line_text]; rfl
  start := by
    intro typed
    rw [load_line_text]
    exact if_pos typed
  ends := by
    rw [load_line_text]
    rintro ⟨full, last⟩
    exact trim_full _ (Nat.le_of_lt_succ (lineStr chunk).fits) full last

theorem key_text_stable (call : SetCall) (plain : call.Plain) (comment : hash ∉ call.text.bytes)
    (brackets : ¬ (opening ∈ call.text.bytes ∧ closing ∈ call.text.bytes)) (key : equals ∉ call.key.bytes)
    (ends : ¬ Endless call.text) (line : Line) (writes : Writes call.key call.val line)
    (start : line.pValueStart = call.key.bytes.length + 1) : Stable line where
  plain := by
    rw [writes.printed]
    exact ⟨absent_key_text _ _ newline (by decide) plain.2.1.1 plain.2.2.1,
      absent_key_text _ _ space (by decide) plain.2.1.2 plain.2.2.2⟩
  typed := by
    have split : equals ∈ call.text.bytes := by simp [SetCall.text, keyText]
    rw [writes.printed, writes.typed]
    change _ = getLineType call.text
    rw [getLineType, if_neg comment, if_neg brackets, if_pos split]
  start := by
    intro _
    have before : ∀ byte ∈ call.key.bytes, decide (byte ≠ equals) = true := fun byte member =>
      decide_eq_true fun same => key (same ▸ member)
    rw [writes.printed, start, valueStart]
    simp only [keyText]
    rw [List.takeWhile_append_of_pos before]
    simp
  ends := by
    rw [writes.printed]
    exact ends

theorem section_line_stable (sectionName : CStr) (plain : Plain sectionName) (comment : hash ∉ sectionName.bytes)
    (line : Line) (typed : line.type = .lineTypeSection) (printed : line.text.str = sectionText sectionName) :
    Stable line where
  plain := by
    rw [printed]
    exact ⟨absent_section_text _ newline (by decide) (by decide) plain.1,
      absent_section_text _ space (by decide) (by decide) plain.2⟩
  typed := by
    have absent := absent_section_text sectionName hash (by decide) (by decide) comment
    have brackets : opening ∈ (sectionText sectionName).bytes ∧ closing ∈ (sectionText sectionName).bytes := by
      simp [sectionText]
    rw [printed, typed, getLineType, if_neg absent, if_pos brackets]
  start := by
    intro other
    rw [typed] at other
    cases other
  ends := by
    rw [printed]
    rintro ⟨_, last⟩
    rw [sectionText, List.getLast?_append, List.getLast?_singleton, Option.some_or] at last
    exact absurd last (by decide)

theorem at_section_all (good : Line → Prop) (sectionName : CStr) (change : List Line → List Line) (lines : List Line)
    (all : ∀ line ∈ lines, good line) (pSec : LinePtr) (found : getSection sectionName lines = some pSec)
    (changed : (∀ line ∈ pSec.2, good line) → ∀ line ∈ change pSec.2, good line) :
    ∀ line ∈ atSection sectionName change lines, good line := by
  induction lines with
  | nil => cases found
  | cons first rest ih =>
      rw [List.forall_mem_cons] at all
      rw [get_section_cons] at found
      by_cases named : Named sectionName first
      · rw [if_pos named] at found
        cases found
        rw [atSection, if_pos named, List.forall_mem_cons]
        exact ⟨all.1, changed all.2⟩
      · rw [if_neg named] at found
        rw [atSection, if_neg named, List.forall_mem_cons]
        exact ⟨all.1, ih all.2 found⟩

theorem at_key_all (good : Line → Prop) (key : CStr) (change : Line → Line) (lines : List Line)
    (all : ∀ line ∈ lines, good line) (pLine : LinePtr) (found : keyLineFrom key lines = some pLine)
    (changed : good (change pLine.1)) : ∀ line ∈ atKey key change lines, good line := by
  replace found := found_key key lines pLine found
  induction found with
  | here line rest inside keyed =>
      rw [atKey, if_pos keyed, List.forall_mem_cons]
      exact ⟨changed, (List.forall_mem_cons.mp all).2⟩
  | later line rest pLine inside unkeyed found ih =>
      rw [List.forall_mem_cons] at all
      rw [atKey, if_neg unkeyed, List.forall_mem_cons]
      exact ⟨all.1, ih all.2 changed⟩

def AllStable (config : CConfigFile) : Prop := ∀ line ∈ config.mpFirstLine, Stable line

theorem step_stable (config next : CConfigFile) (call : SetCall) (stable : AllStable config) (plain : call.Plain)
    (ok : PersistOk config call) (done : step config call = some next) : AllStable next := by
  obtain ⟨named, comment, brackets, key, ends, inPlace⟩ := ok
  have written := key_text_stable call plain comment brackets key ends
  simp only [step, setString, Option.map_map, Option.map_eq_some_iff, Function.comp_apply] at done
  obtain ⟨lines, changed, rfl⟩ := done
  rcases set_lines_cases _ _ _ _ _ changed with
    ⟨absent, sec, line, rfl, typed, printed, writes, start⟩ | ⟨pSec, located, inserted | updated⟩
  · have uncommented : hash ∉ call.sectionName.bytes := by
      rw [absent] at named
      simpa using named
    rw [AllStable, List.forall_mem_cons, List.forall_mem_cons]
    exact ⟨section_line_stable _ plain.1 uncommented sec typed printed, written line writes start, stable⟩
  · obtain ⟨_, line, rfl, writes, start⟩ := inserted
    apply at_section_all Stable _ _ _ stable pSec located
    intro body
    rw [List.forall_mem_cons]
    exact ⟨written line writes start, body⟩
  · obtain ⟨pLine, text, found, printed, rfl⟩ := updated
    have keyed := key_line_keyed call.key pSec.2 pLine found
    have start := inPlace pLine (by rw [located]; exact found)
    apply at_section_all Stable _ _ _ stable pSec located
    intro body
    exact at_key_all Stable _ _ _ body pLine found
      (written _ (updated_writes call.key call.val pLine.1 text keyed.1 (print_str _ _ _ printed)) start)

structure Alike (line again : Line) : Prop where
  typed : again.type = line.type
  str : again.text.str = line.text.str
  named : line.type = .lineTypeSection → again.text.strAt 1 = line.text.strAt 1
  valued : line.type = .lineTypeKey → value again = value line

-- A line of 510 or 511 bytes leaves its line end to a line of its own.
inductive Reloads : List Line → List Line → Prop
  | nil : Reloads [] []
  | line {first again : Line} {lines reloaded : List Line} (alike : Alike first again)
      (rest : Reloads lines reloaded) : Reloads (first :: lines) (again :: reloaded)
  | lineEnd {comment : Line} {lines reloaded : List Line} (typed : comment.type = .lineTypeComment)
      (rest : Reloads lines reloaded) : Reloads lines (comment :: reloaded)

theorem Alike.keyed {line again : Line} (alike : Alike line again) (key : CStr) : Keyed key again ↔ Keyed key line := by
  rw [Keyed, Keyed, alike.typed, alike.str]

theorem Alike.isNamed {line again : Line} (alike : Alike line again) (sectionName : CStr) :
    Named sectionName again ↔ Named sectionName line := by
  rw [Named, Named, alike.typed]
  exact and_congr_right fun typed => by rw [alike.named typed]

theorem find_key_reloads (key : CStr) (lines reloaded : List Line) (reloads : Reloads lines reloaded) :
    findKey key reloaded = findKey key lines := by
  induction reloads with
  | nil => rfl
  | @line first again lines reloaded alike _ ih =>
      simp only [findKey, keyLineFrom, alike.typed, alike.keyed key]
      by_cases ends : first.type = .lineTypeSection
      · rw [if_pos ends, if_pos ends]
      · rw [if_neg ends, if_neg ends]
        by_cases keyed : Keyed key first
        · rw [if_pos keyed, if_pos keyed]
          exact congrArg some (alike.valued keyed.1)
        · rw [if_neg keyed, if_neg keyed]
          exact ih
  | @lineEnd comment lines reloaded typed _ ih =>
      have open_ : ¬ comment.type = .lineTypeSection := by rw [typed]; decide
      simp only [findKey, keyLineFrom, if_neg open_, if_neg (comment_unkeyed key comment typed)]
      exact ih

theorem find_reloads (sectionName key : CStr) (lines reloaded : List Line) (reloads : Reloads lines reloaded) :
    find sectionName key reloaded = find sectionName key lines := by
  induction reloads with
  | nil => rfl
  | @line first again lines reloaded alike rest ih =>
      simp only [find, get_section_cons, alike.isNamed sectionName]
      by_cases named : Named sectionName first
      · rw [if_pos named, if_pos named]
        exact find_key_reloads key lines reloaded rest
      · rw [if_neg named, if_neg named]
        exact ih
  | @lineEnd comment lines reloaded typed _ ih =>
      simp only [find, get_section_cons, if_neg (comment_unnamed sectionName comment typed)]
      exact ih

theorem fgets_run (text rest line : Bytes) (room : Nat) (plain : newline ∉ text) (fits : text.length < room) :
    fgetsLines room line (text ++ rest) = fgetsLines (room - text.length) (line ++ text) rest := by
  induction text generalizing room line with
  | nil => simp
  | cons byte text ih =>
      simp only [List.mem_cons, not_or] at plain
      simp only [List.length_cons] at fits
      have more : ¬ (byte = newline ∨ room = 1) := by
        rintro (same | one)
        · exact plain.1 same.symm
        · omega
      rw [List.cons_append, fgetsLines, if_neg more, ih _ _ plain.2 (by omega), List.append_assoc, List.length_cons]
      congr 1
      omega

theorem fgets_end (rest line : Bytes) (byte : UInt8) (room : Nat) (ends : byte = newline ∨ room = 1) :
    fgetsLines room line (byte :: rest) = (line ++ [byte]) :: fgetsLines 511 [] rest := by
  rw [fgetsLines, if_pos ends]

-- How fgets cuts a line of the file, and what it returns after it.
theorem fgets_line (text rest : Bytes) (plain : newline ∉ text) (fits : text.length ≤ 511) :
    ∃ chunk lineEnds, fgetsLines 511 [] (text ++ [carriageReturn, newline] ++ rest) =
        chunk :: (lineEnds ++ fgetsLines 511 [] rest) ∧
      ((chunk = text ++ [carriageReturn, newline] ∧ text.length ≤ 509 ∧ lineEnds = []) ∨
        (chunk = text ++ [carriageReturn] ∧ text.length = 510 ∧ lineEnds = [[newline]]) ∨
        (chunk = text ∧ text.length = 511 ∧ lineEnds = [[carriageReturn, newline]])) := by
  rcases Nat.lt_trichotomy text.length 510 with short | exact_ | long
  · refine ⟨_, [], ?_, .inl ⟨rfl, by omega, rfl⟩⟩
    have plainBoth : newline ∉ text ++ [carriageReturn] := by
      rw [List.mem_append, not_or]
      exact ⟨plain, by decide⟩
    have run := fgets_run (text ++ [carriageReturn]) (newline :: rest) [] 511 plainBoth (by simp; omega)
    rw [fgets_end _ _ _ _ (.inl rfl)] at run
    simpa using run
  · refine ⟨_, [[newline]], ?_, .inr (.inl ⟨rfl, exact_, rfl⟩)⟩
    have run := fgets_run text (carriageReturn :: newline :: rest) [] 511 plain (by omega)
    rw [fgets_end _ _ _ _ (.inr (by omega)), fgets_end _ _ _ _ (.inl rfl)] at run
    simpa using run
  · have full : text.length = 511 := by omega
    refine ⟨_, [[carriageReturn, newline]], ?_, .inr (.inr ⟨rfl, full, rfl⟩)⟩
    obtain ⟨init, last, rfl⟩ : ∃ init last, text = init ++ [last] :=
      ⟨text.dropLast, text.getLast (by intro empty; rw [empty] at full; cases full), (List.dropLast_append_getLast _).symm⟩
    simp only [List.mem_append, List.mem_singleton, not_or, List.length_append, List.length_singleton] at plain full
    have run := fgets_run init (last :: carriageReturn :: newline :: rest) [] 511 plain.1 (by omega)
    have second := fgets_run [carriageReturn] (newline :: rest) [] 511 (by decide) (by decide)
    rw [fgets_end _ _ _ _ (.inl rfl)] at second
    rw [fgets_end _ _ _ _ (.inr (by omega))] at run
    simp only [List.nil_append, List.singleton_append] at second run
    simpa [second] using run

theorem filter_plain (text : Bytes) (plain : space ∉ text) : text.filter (· ≠ space) = text := by
  apply List.filter_eq_self.mpr
  intro byte member
  exact decide_eq_true fun same => plain (same ▸ member)

theorem take_line (text rest : Bytes) (plain : newline ∉ text) :
    (text ++ newline :: rest).takeWhile (· ≠ newline) = text ∧ text.takeWhile (· ≠ newline) = text := by
  have inside : ∀ byte ∈ text, decide (byte ≠ newline) = true := fun byte member =>
    decide_eq_true fun same => plain (same ▸ member)
  constructor
  · rw [List.takeWhile_append_of_pos inside]
    simp
  · exact List.takeWhile_eq_self_iff.mpr inside

theorem trim_ended (text : Bytes) (noNewline : newline ∉ text) (noSpace : space ∉ text) :
    trim (text ++ [carriageReturn, newline]) = text ∧ trim (text ++ [carriageReturn]) = text := by
  have both : newline ∉ text ++ [carriageReturn] := by
    rw [List.mem_append, not_or]
    exact ⟨noNewline, by decide⟩
  have joined : text ++ [carriageReturn, newline] = text ++ [carriageReturn] ++ newline :: [] := by simp
  have last : (text ++ [carriageReturn]).getLast? = some carriageReturn := by simp
  constructor
  · rw [trim, joined, (take_line _ [] both).1, if_pos last, List.dropLast_concat, filter_plain text noSpace]
  · rw [trim, (take_line _ [] both).2, if_pos last, List.dropLast_concat, filter_plain text noSpace]

theorem trim_same (text : Bytes) (noNewline : newline ∉ text) (noSpace : space ∉ text)
    (open_ : text.getLast? ≠ some carriageReturn) : trim text = text := by
  rw [trim, (take_line text [] noNewline).2, if_neg open_, filter_plain text noSpace]

theorem load_alike (line : Line) (stable : Stable line) (chunk : Bytes) (fits : chunk.length ≤ 511) (noNul : 0 ∉ chunk)
    (trimmed : trim chunk = line.text.str.bytes) : Alike line (loadLine chunk) := by
  have str : (loadLine chunk).text.str = line.text.str := by
    rw [load_line_text]
    apply CStr.ext_bytes
    exact (congrArg trim (line_str_bytes chunk fits noNul)).trans trimmed
  have again := load_line_stable chunk
  have typed : (loadLine chunk).type = line.type := by rw [again.typed, stable.typed, str]
  refine ⟨typed, str, ?_, ?_⟩
  · intro isSection
    have some := section_type_some line.text.str (stable.typed.symm.trans isSection)
    rw [str_at_inside _ 1 (by rw [str]; exact some), str_at_inside _ 1 some, str]
  · intro isKey
    have inside := value_start_inside line.text.str (key_type_split _ (stable.typed.symm.trans isKey))
    have start := again.start (typed.trans isKey)
    rw [str] at start
    rw [value, value, start, stable.start isKey, str_at_inside _ _ (by rw [str]; exact inside),
      str_at_inside _ _ inside, str]

theorem line_end_comments : (loadLine [newline]).type = .lineTypeComment ∧
    (loadLine [carriageReturn, newline]).type = .lineTypeComment := ⟨by decide, by decide⟩

theorem reloads_content (lines : List Line) (stable : ∀ line ∈ lines, Stable line) :
    Reloads lines (loadLines (fileContent lines)) := by
  induction lines with
  | nil => exact .nil
  | cons line lines ih =>
      rw [List.forall_mem_cons] at stable
      have later := ih stable.2
      obtain ⟨noNewline, noSpace⟩ := stable.1.plain
      have fits := Nat.le_of_lt_succ (str_length line.text)
      have noNul := line.text.str.noNul
      obtain ⟨chunk, lineEnds, cut, shape⟩ := fgets_line line.text.str.bytes (fileContent lines) noNewline fits
      have loaded : loadLines (fileContent (line :: lines)) =
          loadLine chunk :: (lineEnds.map loadLine ++ loadLines (fileContent lines)) := by
        rw [loadLines, fileContent, List.flatMap_cons]
        exact (congrArg (List.map loadLine) cut).trans (by rw [List.map_cons, List.map_append]; rfl)
      obtain ⟨endedBoth, ended⟩ := trim_ended line.text.str.bytes noNewline noSpace
      rw [loaded]
      rcases shape with ⟨rfl, short, rfl⟩ | ⟨rfl, length, rfl⟩ | ⟨rfl, length, rfl⟩
      · exact .line (load_alike line stable.1 _ (by simp; omega) (by simp [noNul, newline, carriageReturn]) endedBoth) later
      · exact .line (load_alike line stable.1 _ (by simp; omega) (by simp [noNul, carriageReturn]) ended)
          (.lineEnd line_end_comments.1 later)
      · have open_ : line.text.str.bytes.getLast? ≠ some carriageReturn := fun last => stable.1.ends ⟨length, last⟩
        exact .line (load_alike line stable.1 _ fits noNul (trim_same _ noNewline noSpace open_))
          (.lineEnd line_end_comments.2 later)

theorem load_from_file_lines (before config : CConfigFile) (fileName : CStr) (content : Bytes) (ret : Int)
    (loaded : loadFromFile (some fileName) (some content) before = some (ret, config)) :
    config.mpFirstLine = loadLines content := by
  simp only [loadFromFile] at loaded
  cases copied : strcpy 256 fileName with
  | none => simp [copied] at loaded
  | some mpFileName =>
      simp only [copied, Option.some.injEq, Prod.mk.injEq] at loaded
      rw [← loaded.2]

theorem opened_content (opens : Bool) (file path : CStr) (content saved : Bytes) (ret : Int)
    (done : (if opens then (0, some (file, content)) else (-1, none)) = (ret, some (path, saved))) : saved = content := by
  cases opens with
  | false => cases done
  | true =>
      cases done
      rfl

theorem save_to_file_content (target : Option CStr) (opens : Bool) (config : CConfigFile) (path : CStr)
    (ret : Int) (saved : Bytes) (done : saveToFile target opens config = (ret, some (path, saved))) :
    saved = fileContent config.mpFirstLine := by
  cases target with
  | none =>
      simp only [saveToFile] at done
      by_cases unnamed : config.mpFileName.str.bytes.length = 0
      · rw [if_pos unnamed] at done
        cases done
      · rw [if_neg unnamed] at done
        exact opened_content opens _ path _ saved ret done
  | some filepath => exact opened_content opens filepath path _ saved ret done

theorem run_stable (start config : CConfigFile) (calls : List SetCall)
    (guarded : Guarded step (fun config call => call.Plain ∧ PersistOk config call) start calls)
    (reached : run step start calls = some config) (stable : AllStable start) : AllStable config :=
  run_invariant step _ AllStable
    (fun config call next stable ok done => step_stable config next call stable ok.1 ok.2 done)
    start config calls stable guarded reached

theorem config_persists (before start config reloaded : CConfigFile) (fileName path : CStr) (content saved : Bytes)
    (target : Option CStr) (calls : List SetCall)
    (loaded : loadFromFile (some fileName) (some content) before = some (0, start))
    (guarded : Guarded step (fun config call => call.Plain ∧ PersistOk config call) start calls)
    (reached : run step start calls = some config) (done : saveToFile target true config = (0, some (path, saved)))
    (again : loadFromFile (some path) (some saved) config = some (0, reloaded)) (sectionName key def_value : CStr) :
    getString reloaded sectionName key def_value = getString config sectionName key def_value := by
  have initial : AllStable start := by
    intro line member
    rw [load_from_file_lines before start fileName content 0 loaded] at member
    obtain ⟨chunk, _, rfl⟩ := List.mem_map.mp member
    exact load_line_stable chunk
  have stable := run_stable start config calls guarded reached initial
  rw [get_string_eq, get_string_eq, load_from_file_lines config reloaded path saved 0 again,
    save_to_file_content target true config path 0 saved done,
    find_reloads sectionName key _ _ (reloads_content config.mpFirstLine stable)]

def sampleName : CStr := ⟨ascii ['c'], by decide⟩

def sampleStart : CConfigFile := ⟨⟨sampleName, by decide⟩, loadLines sampleContent⟩

def afterCall (call : SetCall) : CConfigFile := (step sampleStart call).getD sampleStart

def savedAfter (call : SetCall) : Bytes := fileContent (afterCall call).mpFirstLine

def reloadedAfter (call : SetCall) : CConfigFile := { sampleStart with mpFirstLine := loadLines (savedAfter call) }

def storeTwo : SetCall := ⟨pq, keyAB, two, true⟩

def storeHash : SetCall := ⟨pq, keyAB, ⟨[hash], by decide⟩, true⟩

theorem config_persists_small :
    getString (reloadedAfter storeTwo) pq keyAB CStr.empty = getString (afterCall storeTwo) pq keyAB CStr.empty :=
  config_persists sampleStart sampleStart (afterCall storeTwo) (reloadedAfter storeTwo) sampleName sampleName sampleContent
    (savedAfter storeTwo) none [storeTwo] (by decide +kernel) (by decide +kernel) (by decide +kernel) (by decide +kernel)
    (by decide +kernel) pq keyAB CStr.empty

-- "ab=#" is a key in memory and a comment when it is read back.
theorem config_persists_fails :
    ¬ ∀ (before start config reloaded : CConfigFile) (fileName path : CStr) (content saved : Bytes) (calls : List SetCall),
      loadFromFile (some fileName) (some content) before = some (0, start) → (∀ call ∈ calls, call.Plain) →
      run step start calls = some config → saveToFile none true config = (0, some (path, saved)) →
      loadFromFile (some path) (some saved) config = some (0, reloaded) →
      ∀ sectionName key def_value, getString reloaded sectionName key def_value = getString config sectionName key def_value := by
  intro claim
  have same := claim sampleStart sampleStart (afterCall storeHash) (reloadedAfter storeHash) sampleName sampleName sampleContent
    (savedAfter storeHash) [storeHash] (by decide +kernel) (by decide +kernel) (by decide +kernel) (by decide +kernel)
    (by decide +kernel) pq keyAB CStr.empty
  exact absurd same (by decide +kernel)

end Droidlogic.Config
