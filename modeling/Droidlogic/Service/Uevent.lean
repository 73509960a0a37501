import Droidlogic.Lib.Run
import Droidlogic.Lib.Text
import Droidlogic.Lib.CString

set_option autoImplicit false

namespace Droidlogic.Service.Uevent

open Lib

def stateHdmi : Bytes := ascii ['S', 'T', 'A', 'T', 'E', '=', 'H', 'D', 'M', 'I', '=']
def devtype : Bytes := ascii ['D', 'E', 'V', 'T', 'Y', 'P', 'E', '=']
def frameRateHint : Bytes :=
  ascii ['F', 'R', 'A', 'M', 'E', '_', 'R', 'A', 'T', 'E', '_', 'H', 'I', 'N', 'T', '=']
def frameRateEndHint : Bytes :=
  ascii ['F', 'R', 'A', 'M', 'E', '_', 'R', 'A', 'T', 'E', '_', 'E', 'N', 'D', '_', 'H', 'I', 'N', 'T']
def endHint : CStr := ⟨ascii ['e', 'n', 'd', '_', 'h', 'i', 'n', 't'], by decide⟩

def bufSize : Nat := 1024
def matchSize : Nat := 256
def switchSize : Nat := 64

structure UeventData where
  len : Nat
  buf : Bytes
  sized : buf.length = bufSize
  matchName : CharArray matchSize
  switchName : CharArray switchSize
  switchState : CharArray switchSize
deriving DecidableEq

def UeventData.zero : UeventData where
  len := 0
  buf := List.replicate bufSize 0
  sized := List.length_replicate
  matchName := ⟨.empty, by decide⟩
  switchName := ⟨.empty, by decide⟩
  switchState := ⟨.empty, by decide⟩

-- What recv leaves in the buffer.
structure Received where
  bytes : Bytes
  some_byte : 1 ≤ bytes.length
  fits : bytes.length ≤ bufSize - 1
deriving DecidableEq

inductive Fault
  | pastEnd
  | endless
  | overrun
deriving DecidableEq

inductive Entry
  | state
  | name
deriving DecidableEq

-- What a field that is not the pattern sets, and the text that is copied.
def valueOf (field : CStr) : Option (Entry × CStr) :=
  if contains field.bytes stateHdmi then some (.state, field.drop stateHdmi.length)
  else if contains field.bytes devtype then some (.name, field.drop devtype.length)
  else if contains field.bytes frameRateHint then some (.name, field.drop frameRateHint.length)
  else if contains field.bytes frameRateEndHint then some (.name, endHint)
  else none

structure Scan where
  visited : List CStr
  matched : Bool
  data : UeventData

def Scan.after (scan : Scan) (field : CStr) (matched : Bool) (data : UeventData) : Scan :=
  ⟨scan.visited ++ [field], matched, data⟩

def takeField (matchStr field : CStr) (scan : Scan) : Except Fault Scan :=
  if field = matchStr then
    match strcpy matchSize matchStr with
    | some copy => .ok (scan.after field true { scan.data with matchName := copy })
    | none => .error .overrun
  else
    match valueOf field with
    | none => .ok (scan.after field scan.matched scan.data)
    | some (entry, value) =>
        match strcpy switchSize value, entry with
        | some copy, .state => .ok (scan.after field scan.matched { scan.data with switchState := copy })
        | some copy, .name => .ok (scan.after field scan.matched { scan.data with switchName := copy })
        | none, _ => .error .overrun

-- The loop over the fields: rest is the memory from field up to end.
def scanFields (matchStr : CStr) : Nat → Bytes → Scan → Except Fault Scan
  | 0, _, _ => .error .endless
  | fuel + 1, rest, scan =>
      match cut 0 rest with
      | none => .error .pastEnd
      | some (field, after) =>
          match takeField matchStr (CStr.read field) scan with
          | .error fault => .error fault
          | .ok next => if after = [] then .ok next else scanFields matchStr fuel after next

def scanBuffer (buffer : Received) (data : UeventData) (matchStr : CStr) : Except Fault Scan :=
  scanFields matchStr (buffer.bytes.length + 1) (buffer.bytes ++ [0]) ⟨[], false, data⟩

def store (buffer : Received) (data : UeventData) : UeventData :=
  { data with
    len := buffer.bytes.length
    buf := buffer.bytes ++ data.buf.drop buffer.bytes.length
    sized := by
      have fits := buffer.fits
      rw [List.length_append, List.length_drop, data.sized]
      simp only [bufSize] at fits ⊢
      omega }

def isMatch (buffer : Received) (data : UeventData) : List CStr → Except Fault (Bool × UeventData)
  | [] => .ok (false, data)
  | matchStr :: rest =>
      match scanBuffer buffer data matchStr with
      | .error fault => .error fault
      | .ok scan => if scan.matched then .ok (true, store buffer scan.data) else isMatch buffer scan.data rest

-- One buffer in waitForNextEvent: the record, and whether the call returns. none is a run that has gone wrong.
def step (gMatches : List CStr) (record : Option UeventData) (buffer : Received) : Option (Option UeventData) :=
  match record with
  | none => some none
  | some data =>
      match isMatch buffer data gMatches with
      | .ok (_, next) => some (some next)
      | .error _ => some none

def fields (buffer : Received) : List CStr := (buffer.bytes.splitOn 0).map CStr.read

def foldFields (matchStr : CStr) : List CStr → Scan → Except Fault Scan
  | [], scan => .ok scan
  | field :: rest, scan =>
      match takeField matchStr field scan with
      | .error fault => .error fault
      | .ok next => foldFields matchStr rest next

theorem split_without (rest : Bytes) (plain : 0 ∉ rest) : rest.splitOn 0 = [rest] := by
  rw [List.splitOn_eq_splitOnP]
  refine List.splitOnP_eq_singleton fun byte member => ?_
  exact beq_eq_false_iff_ne.mpr fun zero => plain (zero ▸ member)

theorem split_at (field after : Bytes) (plain : 0 ∉ field) :
    (field ++ 0 :: after).splitOn 0 = field :: after.splitOn 0 := by
  rw [List.splitOn_eq_splitOnP, List.splitOn_eq_splitOnP]
  refine List.splitOnP_append_cons_of_forall_mem (fun byte member => ?_) 0 rfl after
  exact beq_eq_false_iff_ne.mpr fun zero => plain (zero ▸ member)

-- The loop ends at the terminator, after every field.
theorem scan_fields_eq (matchStr : CStr) (fuel : Nat) (rest : Bytes) (scan : Scan) (enough : rest.length < fuel) :
    scanFields matchStr fuel (rest ++ [0]) scan = foldFields matchStr ((rest.splitOn 0).map CStr.read) scan := by
  induction fuel generalizing rest scan with
  | zero => omega
  | succ fuel ih =>
      rw [scanFields]
      by_cases zero : 0 ∈ rest
      · obtain ⟨field, after, rfl, plain⟩ := List.eq_append_cons_of_mem zero
        have split : cut 0 (field ++ 0 :: after ++ [0]) = some (field, after ++ [0]) := by
          rw [List.append_assoc, List.cons_append]
          exact cut_at 0 field (after ++ [0]) plain
        have more : after ++ [0] ≠ [] := by simp
        have shorter : after.length < fuel := by
          rw [List.length_append, List.length_cons] at enough
          omega
        rw [split, split_at field after plain, List.map_cons, foldFields]
        simp only [if_neg more]
        cases takeField matchStr (CStr.read field) scan with
        | error fault => rfl
        | ok next => exact ih after next shorter
      · rw [cut_at 0 rest [] zero, split_without rest zero, List.map_singleton, foldFields]
        simp only [if_true]
        cases takeField matchStr (CStr.read rest) scan with
        | error fault => rfl
        | ok next => rfl

theorem scan_buffer_eq (buffer : Received) (data : UeventData) (matchStr : CStr) :
    scanBuffer buffer data matchStr = foldFields matchStr (fields buffer) ⟨[], false, data⟩ :=
  scan_fields_eq matchStr _ buffer.bytes _ (Nat.lt_succ_self _)

def CopyFits (matchStr field : CStr) : Prop :=
  if field = matchStr then matchStr.bytes.length < matchSize
  else ∀ value, valueOf field = some value → value.2.bytes.length < switchSize

-- What a field sets of an entry, unless it is the pattern.
def written (entry : Entry) (matchStr field : CStr) : Option CStr :=
  if field = matchStr then none
  else (valueOf field).bind fun value => if value.1 = entry then some value.2 else none

def entryOf (data : UeventData) : Entry → CStr
  | .state => data.switchState.str
  | .name => data.switchName.str

theorem take_field_cases (matchStr field : CStr) (scan : Scan) :
    (¬CopyFits matchStr field ∧ takeField matchStr field scan = .error .overrun) ∨
      ∃ next, CopyFits matchStr field ∧ takeField matchStr field scan = .ok next ∧
        next.visited = scan.visited ++ [field] ∧
        (field = matchStr → next.matched = true ∧ next.data.matchName.str = matchStr) ∧
        (field ≠ matchStr → next.matched = scan.matched ∧ next.data.matchName = scan.data.matchName) ∧
        ∀ entry, entryOf next.data entry = (written entry matchStr field).getD (entryOf scan.data entry) := by
  rw [takeField, CopyFits]
  by_cases same : field = matchStr
  · rw [if_pos same, if_pos same]
    have nothing (entry : Entry) : written entry matchStr field = none := if_pos same
    by_cases fits : matchStr.bytes.length < matchSize
    · rw [strcpy_some _ _ fits]
      refine .inr ⟨_, fits, rfl, rfl, fun _ => ⟨rfl, rfl⟩, fun other => absurd same other, fun entry => ?_⟩
      rw [nothing, Option.getD_none]
      cases entry <;> rfl
    · have tooLong : strcpy matchSize matchStr = none := dif_neg fits
      rw [tooLong]
      exact .inl ⟨fits, rfl⟩
  · rw [if_neg same, if_neg same]
    cases found : valueOf field with
    | none =>
        refine .inr ⟨_, nofun, rfl, rfl, fun other => absurd other same, fun _ => ⟨rfl, rfl⟩, fun entry => ?_⟩
        rw [written, if_neg same, found]
        rfl
    | some value =>
        obtain ⟨kind, text⟩ := value
        by_cases fits : text.bytes.length < switchSize
        · simp only [strcpy_some _ _ fits]
          cases kind with
          | state =>
              refine .inr ⟨_, fun other its => Option.some.inj its ▸ fits, rfl, rfl, fun other => absurd other same,
                fun _ => ⟨rfl, rfl⟩, fun entry => ?_⟩
              rw [written, if_neg same, found]
              cases entry <;> rfl
          | name =>
              refine .inr ⟨_, fun other its => Option.some.inj its ▸ fits, rfl, rfl, fun other => absurd other same,
                fun _ => ⟨rfl, rfl⟩, fun entry => ?_⟩
              rw [written, if_neg same, found]
              cases entry <;> rfl
        · have tooLong : strcpy switchSize text = none := dif_neg fits
          simp only [tooLong]
          exact .inl ⟨fun all => fits (all _ rfl), trivial⟩

-- The entry that some fields leave, from the one before.
def Leaves (entry : Entry) (pairs : List (CStr × CStr)) (before after : CStr) : Prop :=
  (∃ pair ∈ pairs, written entry pair.1 pair.2 = some after) ∨
    ((∀ pair ∈ pairs, written entry pair.1 pair.2 = none) ∧ after = before)

theorem leaves_append (entry : Entry) (first second : List (CStr × CStr)) (before middle after : CStr)
    (one : Leaves entry first before middle) (two : Leaves entry second middle after) :
    Leaves entry (first ++ second) before after := by
  rcases two with ⟨pair, member, set⟩ | ⟨nothing, same⟩
  · exact .inl ⟨pair, List.mem_append_right _ member, set⟩
  · rcases one with ⟨pair, member, set⟩ | ⟨silent, unchanged⟩
    · exact .inl ⟨pair, List.mem_append_left _ member, same ▸ set⟩
    · exact .inr ⟨fun pair member => (List.mem_append.mp member).elim (silent pair) (nothing pair), same.trans unchanged⟩

theorem leaves_field (entry : Entry) (matchStr field before after : CStr)
    (set : after = (written entry matchStr field).getD before) : Leaves entry [(matchStr, field)] before after := by
  cases found : written entry matchStr field with
  | none =>
      rw [found, Option.getD_none] at set
      exact .inr ⟨fun pair member => List.mem_singleton.mp member ▸ found, set⟩
  | some value =>
      rw [found, Option.getD_some] at set
      exact .inl ⟨_, .head _, set ▸ found⟩

def withPattern (matchStr : CStr) (all : List CStr) : List (CStr × CStr) := all.map fun field => (matchStr, field)

theorem fold_fields_cases (matchStr : CStr) (all : List CStr) (scan : Scan) :
    ((¬∀ field ∈ all, CopyFits matchStr field) ∧ foldFields matchStr all scan = .error .overrun) ∨
      ∃ next, (∀ field ∈ all, CopyFits matchStr field) ∧ foldFields matchStr all scan = .ok next ∧
        next.visited = scan.visited ++ all ∧ (next.matched = true ↔ scan.matched = true ∨ matchStr ∈ all) ∧
        (matchStr ∈ all → next.data.matchName.str = matchStr) ∧
        (matchStr ∉ all → next.data.matchName = scan.data.matchName) ∧
        ∀ entry, Leaves entry (withPattern matchStr all) (entryOf scan.data entry) (entryOf next.data entry) := by
  induction all generalizing scan with
  | nil =>
      refine .inr ⟨scan, nofun, rfl, (List.append_nil _).symm, ?_, nofun, fun _ => rfl,
        fun entry => .inr ⟨nofun, rfl⟩⟩
      simp
  | cons field rest ih =>
      rw [foldFields]
      rcases take_field_cases matchStr field scan with ⟨tooLong, failed⟩ | ⟨next, fits, taken, visited, hit, miss, sets⟩
      · rw [failed]
        exact .inl ⟨fun all => tooLong (all field (.head _)), rfl⟩
      · rw [taken]
        rcases ih next with ⟨tooLong, failed⟩ | ⟨last, restFits, done, restVisited, matched, named, kept, leaves⟩
        · exact .inl ⟨fun all => tooLong fun other member => all other (.tail _ member), failed⟩
        · refine .inr ⟨last, List.forall_mem_cons.mpr ⟨fits, restFits⟩, done, ?_, ?_, ?_, ?_, fun entry => ?_⟩
          · rw [restVisited, visited, List.append_assoc, List.singleton_append]
          · rw [matched, List.mem_cons]
            by_cases same : field = matchStr
            · simp [(hit same).1, same]
            · rw [(miss same).1]
              simp [Ne.symm same]
          · intro member
            by_cases later : matchStr ∈ rest
            · exact named later
            · have same : field = matchStr := ((List.mem_cons.mp member).resolve_right later).symm
              rw [kept later]
              exact (hit same).2
          · intro absent
            rw [List.mem_cons, not_or] at absent
            rw [kept absent.2]
            exact (miss (Ne.symm absent.1)).2
          · exact leaves_append entry [(matchStr, field)] _ _ _ _ (leaves_field entry _ _ _ _ (sets entry)) (leaves entry)

-- The patterns that a buffer is tried with.
def tried (buffer : Received) : List CStr → List CStr
  | [] => []
  | matchStr :: rest => if matchStr ∈ fields buffer then [matchStr] else matchStr :: tried buffer rest

def pairs (buffer : Received) (gMatches : List CStr) : List (CStr × CStr) :=
  (tried buffer gMatches).flatMap fun matchStr => withPattern matchStr (fields buffer)

def Fits (buffer : Received) (gMatches : List CStr) : Prop := ∀ pair ∈ pairs buffer gMatches, CopyFits pair.1 pair.2

def Matches (buffer : Received) (gMatches : List CStr) : Prop := ∃ matchStr ∈ gMatches, matchStr ∈ fields buffer

theorem store_entry (buffer : Received) (data : UeventData) (entry : Entry) :
    entryOf (store buffer data) entry = entryOf data entry := by
  cases entry <;> rfl

theorem is_match_cases (buffer : Received) (gMatches : List CStr) (data : UeventData) :
    (¬Fits buffer gMatches ∧ isMatch buffer data gMatches = .error .overrun) ∨
      ∃ matched next, Fits buffer gMatches ∧ isMatch buffer data gMatches = .ok (matched, next) ∧
        (matched = true ↔ Matches buffer gMatches) ∧
        (matched = true → ∃ matchStr ∈ gMatches, matchStr ∈ fields buffer ∧ next.matchName.str = matchStr) ∧
        ∀ entry, Leaves entry (pairs buffer gMatches) (entryOf data entry) (entryOf next entry) := by
  induction gMatches generalizing data with
  | nil =>
      refine .inr ⟨false, data, nofun, rfl, ?_, nofun, fun entry => .inr ⟨nofun, rfl⟩⟩
      simp [Matches]
  | cons matchStr rest ih =>
      have head (all : List CStr) : (∀ pair ∈ withPattern matchStr (fields buffer), CopyFits pair.1 pair.2) ↔
          ∀ field ∈ fields buffer, CopyFits matchStr field := by
        simp [withPattern]
      rw [isMatch, scan_buffer_eq]
      rcases fold_fields_cases matchStr (fields buffer) ⟨[], false, data⟩ with
        ⟨tooLong, failed⟩ | ⟨scan, fits, done, _, matched, named, _, leaves⟩
      · rw [failed]
        refine .inl ⟨fun all => tooLong fun field member => all (matchStr, field) ?_, rfl⟩
        refine List.mem_flatMap.mpr ⟨matchStr, ?_, List.mem_map.mpr ⟨field, member, rfl⟩⟩
        rw [tried]
        split
        · exact .head _
        · exact .head _
      · rw [done]
        by_cases here : matchStr ∈ fields buffer
        · have hit : scan.matched = true := matched.mpr (.inr here)
          have only : pairs buffer (matchStr :: rest) = withPattern matchStr (fields buffer) := by
            rw [pairs, tried, if_pos here, List.flatMap_singleton]
          simp only [hit, if_true]
          refine .inr ⟨true, _, ?_, rfl, ?_, fun _ => ⟨matchStr, .head _, here, named here⟩, fun entry => ?_⟩
          · rw [Fits, only]
            exact (head []).mpr fits
          · exact iff_of_true rfl ⟨matchStr, .head _, here⟩
          · rw [only, store_entry]
            exact leaves entry
        · have miss : scan.matched = false := Bool.eq_false_iff.mpr fun hit => (matched.mp hit).elim nofun here
          have both : pairs buffer (matchStr :: rest) = withPattern matchStr (fields buffer) ++ pairs buffer rest := by
            rw [pairs, tried, if_neg here, List.flatMap_cons, pairs]
          have matches_rest : Matches buffer (matchStr :: rest) ↔ Matches buffer rest := by
            simp [Matches, here]
          simp only [miss, Bool.false_eq_true, if_false]
          rcases ih scan.data with ⟨tooLong, failed⟩ | ⟨found, next, restFits, ended, foundIff, foundNamed, restLeaves⟩
          · refine .inl ⟨fun all => tooLong fun pair member => all pair ?_, failed⟩
            rw [both]
            exact List.mem_append_right _ member
          · refine .inr ⟨found, next, fun pair member => ?_, ended, foundIff.trans matches_rest.symm, fun hit => ?_,
              fun entry => ?_⟩
            · rw [both] at member
              exact (List.mem_append.mp member).elim ((head []).mpr fits pair) (restFits pair)
            · obtain ⟨other, member, inside, its⟩ := foundNamed hit
              exact ⟨other, .tail _ member, inside, its⟩
            · rw [both]
              exact leaves_append entry _ _ _ _ _ (leaves entry) (restLeaves entry)

-- Text of a field of the buffer, empty where it has no such field.
def FromFields (buffer : Received) (entry : Entry) (text : CStr) : Prop :=
  (∃ field ∈ fields buffer, valueOf field = some (entry, text)) ∨
    ((∀ field ∈ fields buffer, ∀ value, valueOf field ≠ some (entry, value)) ∧ text = .empty)

structure Own (gMatches : List CStr) (buffer : Received) (next : UeventData) : Prop where
  matchName : ∃ matchStr ∈ gMatches, matchStr ∈ fields buffer ∧ next.matchName.str = matchStr
  entries : ∀ entry, FromFields buffer entry (entryOf next entry)

def Delivered (gMatches : List CStr) (record : Option UeventData) (buffer : Received) (_ : Option UeventData) : Prop :=
  ∃ data, record = some data ∧ ∃ matched next, isMatch buffer data gMatches = .ok (matched, next) ∧
    (matched = true → Own gMatches buffer next)

-- Some field that is not the pattern sets the entry, or what the record has from before is right.
def Fresh (gMatches : List CStr) (buffer : Received) (data : UeventData) (entry : Entry) : Prop :=
  (∃ pair ∈ pairs buffer gMatches, written entry pair.1 pair.2 ≠ none) ∨ FromFields buffer entry (entryOf data entry)

def Settled (gMatches : List CStr) (record : Option UeventData) (buffer : Received) (_ : Option UeventData) : Prop :=
  ∀ data, record = some data →
    Fits buffer gMatches ∧ (Matches buffer gMatches → ∀ entry, Fresh gMatches buffer data entry)

theorem written_field (entry : Entry) (matchStr field text : CStr) (set : written entry matchStr field = some text) :
    valueOf field = some (entry, text) := by
  rw [written] at set
  split at set
  · cases set
  · obtain ⟨value, found, picked⟩ := Option.bind_eq_some_iff.mp set
    split at picked
    · rename_i same
      rw [found, ← same, ← Option.some.inj picked]
    · cases picked

theorem pair_field (buffer : Received) (gMatches : List CStr) (pair : CStr × CStr)
    (member : pair ∈ pairs buffer gMatches) : pair.2 ∈ fields buffer := by
  obtain ⟨matchStr, _, inside⟩ := List.mem_flatMap.mp member
  obtain ⟨field, there, rfl⟩ := List.mem_map.mp inside
  exact there

theorem entry_own_iff (gMatches : List CStr) (buffer : Received) (data next : UeventData) (entry : Entry)
    (leaves : Leaves entry (pairs buffer gMatches) (entryOf data entry) (entryOf next entry)) :
    FromFields buffer entry (entryOf next entry) ↔ Fresh gMatches buffer data entry := by
  rcases leaves with ⟨pair, member, set⟩ | ⟨nothing, same⟩
  · refine iff_of_true (.inl ⟨pair.2, pair_field buffer gMatches pair member, written_field _ _ _ _ set⟩) ?_
    refine .inl ⟨pair, member, fun none => ?_⟩
    rw [set] at none
    cases none
  · rw [same]
    exact ⟨.inr, fun fresh => fresh.resolve_left fun ⟨pair, member, some_text⟩ => some_text (nothing pair member)⟩

theorem delivered_iff (gMatches : List CStr) (data : UeventData) (buffer : Received) (next : Option UeventData) :
    Delivered gMatches (some data) buffer next ↔ Settled gMatches (some data) buffer next := by
  rcases is_match_cases buffer gMatches data with ⟨tooLong, failed⟩ | ⟨matched, last, fits, done, hit, named, leaves⟩
  · constructor
    · rintro ⟨other, same, matched, last, done, _⟩
      cases same
      rw [failed] at done
      cases done
    · exact fun settled => absurd (settled data rfl).1 tooLong
  · constructor
    · rintro ⟨other, same, found, after, its, own⟩ mine record
      cases same
      cases record
      rw [done, Except.ok.injEq, Prod.mk.injEq] at its
      obtain ⟨rfl, rfl⟩ := its
      refine ⟨fits, fun matches_buffer entry => ?_⟩
      exact (entry_own_iff gMatches buffer data last entry (leaves entry)).mp ((own (hit.mpr matches_buffer)).entries entry)
    · intro settled
      refine ⟨data, rfl, matched, last, done, fun found => ⟨named found, fun entry => ?_⟩⟩
      exact (entry_own_iff gMatches buffer data last entry (leaves entry)).mpr ((settled data rfl).2 (hit.mp found) entry)

theorem settled_next (gMatches : List CStr) (data : UeventData) (buffer : Received) (next : Option UeventData)
    (taken : step gMatches (some data) buffer = some next) (settled : Settled gMatches (some data) buffer next) :
    next ≠ none := by
  rcases is_match_cases buffer gMatches data with ⟨tooLong, _⟩ | ⟨matched, last, _, done, _⟩
  · exact absurd (settled data rfl).1 tooLong
  · simp only [step, done] at taken
    cases taken
    nofun

-- Every field is looked at and nothing past the terminator.
theorem scan_buffer_whole (buffer : Received) (data : UeventData) (matchStr : CStr) :
    scanBuffer buffer data matchStr = .error .overrun ∨
      ∃ scan, scanBuffer buffer data matchStr = .ok scan ∧ scan.visited = fields buffer := by
  rw [scan_buffer_eq]
  rcases fold_fields_cases matchStr (fields buffer) ⟨[], false, data⟩ with ⟨_, failed⟩ | ⟨scan, _, done, visited, _⟩
  · exact .inl failed
  · exact .inr ⟨scan, done, visited⟩

theorem uevent_own_iff (gMatches : List CStr) (buffers : List Received) :
    (∀ buffer data matchStr, scanBuffer buffer data matchStr = .error .overrun ∨
        ∃ scan, scanBuffer buffer data matchStr = .ok scan ∧ scan.visited = fields buffer) ∧
      (Along (step gMatches) (Delivered gMatches) (some .zero) buffers ↔
        Along (step gMatches) (Settled gMatches) (some .zero) buffers) := by
  refine ⟨scan_buffer_whole, ?_⟩
  refine along_iff (step gMatches) (fun record => record ≠ none) _ _ ?_ ?_ (some .zero) buffers nofun
  · intro record buffer next alive taken settled
    obtain ⟨data, rfl⟩ := Option.ne_none_iff_exists'.mp alive
    exact settled_next gMatches data buffer next taken settled
  · intro record buffer next alive _
    obtain ⟨data, rfl⟩ := Option.ne_none_iff_exists'.mp alive
    exact delivered_iff gMatches data buffer next

def samplePattern : CStr := ⟨ascii ['P'], by decide⟩
def namedBuffer : Received := ⟨ascii ['P', '\x00', 'D', 'E', 'V', 'T', 'Y', 'P', 'E', '=', 'x'], by decide, by decide⟩
def plainBuffer : Received := ⟨ascii ['P'], by decide, by decide⟩

-- The second buffer has no DEVTYPE field: the record keeps the first one's name.
theorem earlier_name_kept :
    ¬Along (step [samplePattern]) (Delivered [samplePattern]) (some .zero) [namedBuffer, plainBuffer] := by
  intro along
  obtain ⟨data, record, matched, next, scanned, own⟩ := ((along _ rfl).2 _ rfl).1
  cases record
  cases scanned
  have name := (own rfl).entries .name
  have single : fields plainBuffer = [samplePattern] := by decide
  rw [FromFields, single] at name
  rcases name with ⟨field, member, set⟩ | ⟨_, empty⟩
  · cases List.mem_singleton.mp member
    cases set
  · cases empty

end Droidlogic.Service.Uevent
