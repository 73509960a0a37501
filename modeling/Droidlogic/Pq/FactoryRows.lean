import Droidlogic.Pq.FactoryFields

set_option autoImplicit false

namespace Droidlogic.Pq.Factory

open Lib

def regAddr : Setting → Nat
  | .cti type => matchCtiRegAddr type
  | .decodeLuma type => lumaAddr type
  | .sharpness timing type => matchSharpnessRegAddr type timing
  | .blackExt => vppBlackextCtrl

def regMask : Setting → Option Nat
  | .cti type => some (matchCtiRegMask type)
  | .decodeLuma type => some (lumaMask type)
  | .sharpness _ _ => none
  | .blackExt => none

def Touches (setting : Setting) (key : RegKey) : Prop :=
  key.regAddr = regAddr setting ∧ ∀ mask, regMask setting = some mask → key.regMask = mask

-- The word that a getter starts from, and the one that a setter leaves.
def raw (db : PqDb) (param : SourceInputParam) (setting : Setting) : Option Word :=
  match setting with
  | .cti type => some (pqGetSharpnessCtiParams db param (matchCtiRegAddr type) type.code (matchCtiRegMask type))
  | .decodeLuma type => some (lumaRow db param type)
  | .sharpness timing type => pqGetSharpnessAdvancedParams db param (matchSharpnessRegAddr type timing) timing
  | .blackExt => pqGetBeParams db param vppBlackextCtrl

def store (db : PqDb) (param : SourceInputParam) (setting : Setting) (word : Word) : Option PqDb :=
  match setting with
  | .cti type => some (pqSetSharpnessCtiParams db param (matchCtiRegAddr type) word type.code (matchCtiRegMask type))
  | .decodeLuma type => some (pqSetCvd2Param db param (lumaAddr type) word type.code (lumaMask type))
  | .sharpness timing type => pqSetSharpnessAdvancedParams db param (matchSharpnessRegAddr type timing) word timing
  | .blackExt => some (pqSetBeParams db param vppBlackextCtrl word).2

def cvd2Row (db : PqDb) (param : SourceInputParam) (addr paramType mask : Nat) : Option Word :=
  let name := db.generalCvd2 (cvd2Signal param paramType)
  if name = [] then none else (db.find [name] fun _ => atRow addr mask).map fun entry => entry.2.regValue

def gainWord (db : PqDb) (param : SourceInputParam) (addr paramType mask : Nat) : Option Word :=
  (db.find (sharpnessTables db param) (gainTable paramType addr)).bind fun first =>
    (db.find [first.1] (gainRow paramType addr mask)).map fun entry => entry.2.regValue

def sharpnessStored (db : PqDb) (param : SourceInputParam) (addr : Nat) (timing : Timing) : Option Word :=
  (getSharpnessTableName param timing).bind fun table =>
    (db.findIndex (commonTables db param) (sharpnessRow table addr)).bind fun index =>
      if index < regsMaxNumber then
        (db.find (commonTables db param) (sharpnessRow table addr)).map fun entry => entry.2.regValue
      else none

-- The word in the row of a setting, where it has one.
def stored (db : PqDb) (param : SourceInputParam) (setting : Setting) : Option Word :=
  match setting with
  | .cti type =>
      if type.code = cvdYcDelay ∨ type.code = decodeCti then
        cvd2Row db param (matchCtiRegAddr type) type.code (matchCtiRegMask type)
      else gainWord db param (matchCtiRegAddr type) type.code (matchCtiRegMask type)
  | .decodeLuma type => cvd2Row db param (lumaAddr type) type.code (lumaMask type)
  | .sharpness timing type => sharpnessStored db param (matchSharpnessRegAddr type timing) timing
  | .blackExt => pqGetBeParams db param vppBlackextCtrl

theorem cvd2_get (db : PqDb) (param : SourceInputParam) (addr paramType mask : Nat) :
    pqGetCvd2Param db param addr paramType mask = (cvd2Row db param addr paramType mask).getD (-1) := by
  simp only [pqGetCvd2Param, cvd2Row]
  split <;> rfl

theorem cvd2_set (db : PqDb) (param : SourceInputParam) (addr paramType mask : Nat) (old value : Word)
    (present : cvd2Row db param addr paramType mask = some old) :
    cvd2Row (pqSetCvd2Param db param addr value paramType mask) param addr paramType mask = some value := by
  simp only [cvd2Row] at present
  by_cases unnamed : db.generalCvd2 (cvd2Signal param paramType) = []
  · rw [if_pos unnamed] at present
    cases present
  · rw [if_neg unnamed, Option.map_eq_some_iff] at present
    obtain ⟨⟨name, row⟩, found, _⟩ := present
    have table := find_table db _ _ _ found
    simp only at table
    subst table
    have mine := find_wanted db _ _ _ found
    simp only [cvd2Row, pqSetCvd2Param, if_neg unnamed]
    rw [PqDb.update, if_neg unnamed]
    exact congrArg (Option.map fun entry => entry.2.regValue) (find_own db _ value _ _ _ row found mine)

theorem gain_get (db : PqDb) (param : SourceInputParam) (addr paramType mask : Nat) (old : Word)
    (present : gainWord db param addr paramType mask = some old) :
    (db.find (sharpnessTables db param) (gainRow paramType addr mask)).map (fun entry => entry.2.regValue) = some old := by
  simp only [gainWord, Option.bind_eq_some_iff, Option.map_eq_some_iff] at present
  obtain ⟨first, found, entry, inTable, value⟩ := present
  have narrower : ∀ name key,
      gainRow paramType addr mask name key = true → gainTable paramType addr name key = true := by
    intro name key
    simp only [gainRow, gainTable, atRow, Bool.and_eq_true]
    exact fun all => ⟨all.1, all.2.1⟩
  rw [find_narrower db _ _ _ narrower first entry found inTable, Option.map_some, value]

theorem gain_set (db : PqDb) (param : SourceInputParam) (addr paramType mask : Nat) (old value : Word)
    (gain : ¬(paramType = cvdYcDelay ∨ paramType = decodeCti))
    (present : gainWord db param addr paramType mask = some old) :
    gainWord (pqSetSharpnessCtiParams db param addr value paramType mask) param addr paramType mask = some value := by
  simp only [gainWord, Option.bind_eq_some_iff, Option.map_eq_some_iff] at present
  obtain ⟨⟨name, head⟩, found, ⟨other, row⟩, inTable, _⟩ := present
  have table := find_table db _ _ _ inTable
  simp only at table
  subst table
  have mine := find_wanted db _ _ _ inTable
  simp only [gainRow, Bool.and_eq_true] at mine
  have hit : (decide (row.key.nodeNumber = 1) && atRow addr mask row.key) = true := by
    simp only [Bool.and_eq_true]
    exact ⟨mine.1.2, mine.2⟩
  simp only [pqSetSharpnessCtiParams, if_neg gain, found]
  have tables (name : TableName) (changed : RegKey → Bool) :
      sharpnessTables (db.update name changed value) param = sharpnessTables db param := rfl
  rw [gainWord, tables, find_update, found, Option.map_some, Option.bind_some]
  have own := find_own db (fun key => key.nodeNumber = 1 && atRow addr mask key) value [other] _ other row inTable hit
  exact congrArg (Option.map fun entry => entry.2.regValue) own

theorem sharpness_get (db : PqDb) (param : SourceInputParam) (addr : Nat) (timing : Timing) (old : Word)
    (present : sharpnessStored db param addr timing = some old) :
    pqGetSharpnessAdvancedParams db param addr timing = some old := by
  simp only [sharpnessStored, Option.bind_eq_some_iff] at present
  obtain ⟨table, named, index, located, inside⟩ := present
  simp only [pqGetSharpnessAdvancedParams, named, located]
  exact inside

theorem sharpness_set (db : PqDb) (param : SourceInputParam) (addr : Nat) (timing : Timing) (old value : Word)
    (present : sharpnessStored db param addr timing = some old) :
    ∃ next, pqSetSharpnessAdvancedParams db param addr value timing = some next ∧
      sharpnessStored next param addr timing = some value := by
  simp only [sharpnessStored, Option.bind_eq_some_iff] at present
  obtain ⟨table, named, index, located, inside⟩ := present
  by_cases short : index < regsMaxNumber
  · rw [if_pos short, Option.map_eq_some_iff] at inside
    obtain ⟨⟨name, row⟩, found, _⟩ := inside
    have mine := find_wanted db _ _ _ found
    simp only [sharpnessRow, Bool.and_eq_true, decide_eq_true_eq] at mine
    refine ⟨db.update name (fun key => key.regAddr = addr) value, ?_, ?_⟩
    · simp only [pqSetSharpnessAdvancedParams, named, found]
    · have tables (name : TableName) (changed : RegKey → Bool) :
          commonTables (db.update name changed value) param = commonTables db param := rfl
      have own := find_own db (fun key => key.regAddr = addr) value _ _ name row found (decide_eq_true mine.2)
      rw [sharpnessStored, named, Option.bind_some, tables, index_update, located, Option.bind_some, if_pos short, own]
      rfl
  · rw [if_neg short] at inside
    cases inside

theorem be_count (db : PqDb) (name other : TableName) (changed : RegKey → Bool) (value : Word) (addr : Nat) :
    (((db.update name changed value).rows other).filter fun row => row.key.regAddr = addr).length =
      ((db.rows other).filter fun row => row.key.regAddr = addr).length := by
  by_cases same : other = name
  · simp only [PqDb.update, if_pos same, List.filter_map, List.length_map]
    congr 2
    funext row
    simp only [Function.comp, set_key]
  · simp only [PqDb.update, if_neg same]

theorem be_set (db : PqDb) (param : SourceInputParam) (addr : Nat) (old value : Word)
    (present : pqGetBeParams db param addr = some old) :
    pqGetBeParams (pqSetBeParams db param addr value).2 param addr = some value := by
  simp only [pqGetBeParams] at present
  split at present
  · cases present
  · rename_i named
    have unnamed : ¬db.generalBlackBlue param = [] := fun empty => named (.inl empty)
    rw [Option.map_eq_some_iff] at present
    obtain ⟨⟨name, row⟩, found, _⟩ := present
    have table := find_table db _ _ _ found
    simp only at table
    subst table
    have mine := find_wanted db _ _ _ found
    have own := find_own db (fun key => key.regAddr = addr) value _ _ _ row found mine
    simp only [pqSetBeParams, if_neg unnamed, pqGetBeParams, be_count]
    rw [PqDb.update] at own ⊢
    rw [if_neg named, own]
    rfl

theorem stored_raw (db : PqDb) (param : SourceInputParam) (setting : Setting) (old : Word)
    (present : stored db param setting = some old) : raw db param setting = some old := by
  cases setting with
  | cti type =>
      simp only [stored] at present
      simp only [raw, pqGetSharpnessCtiParams]
      split at present
      · rename_i decoder
        rw [if_pos decoder, cvd2_get, present, Option.getD_some]
      · rename_i gain
        rw [if_neg gain, gain_get db param _ _ _ old present, Option.getD_some]
  | decodeLuma type =>
      have present : cvd2Row db param (lumaAddr type) type.code (lumaMask type) = some old := present
      rw [raw, lumaRow, cvd2_get, present, Option.getD_some]
  | sharpness timing type => exact sharpness_get db param _ timing old present
  | blackExt => exact present

theorem store_stored (db : PqDb) (param : SourceInputParam) (setting : Setting) (old word : Word)
    (present : stored db param setting = some old) :
    ∃ next, store db param setting word = some next ∧ stored next param setting = some word := by
  cases setting with
  | cti type =>
      refine ⟨_, rfl, ?_⟩
      simp only [stored] at present ⊢
      split at present
      · rename_i decoder
        rw [if_pos decoder, pqSetSharpnessCtiParams, if_pos decoder]
        exact cvd2_set db param _ _ _ old word present
      · rename_i gain
        rw [if_neg gain]
        exact gain_set db param _ _ _ old word gain present
  | decodeLuma type => exact ⟨_, rfl, cvd2_set db param _ _ _ old word present⟩
  | sharpness timing type => exact sharpness_set db param _ timing old word present
  | blackExt => exact ⟨_, rfl, be_set db param _ old word present⟩

-- What a store may do to the database.
theorem store_update (db next : PqDb) (param : SourceInputParam) (setting : Setting) (word : Word)
    (done : store db param setting word = some next) :
    next = db ∨ ∃ name changed, next = db.update name changed word ∧
      ∀ key, changed key = true → Touches setting key := by
  have decoder (addr paramType mask : Nat) (db' : PqDb) (set : pqSetCvd2Param db param addr word paramType mask = db') :
      db' = db ∨ ∃ name, db' = db.update name (atRow addr mask) word := by
    simp only [pqSetCvd2Param] at set
    split at set
    · exact .inl set.symm
    · exact .inr ⟨_, set.symm⟩
  have row (addr mask : Nat) (key : RegKey) (here : atRow addr mask key = true) :
      key.regAddr = addr ∧ key.regMask = mask := by
    simpa [atRow] using here
  cases setting with
  | cti type =>
      have done := Option.some.inj done
      simp only [pqSetSharpnessCtiParams] at done
      split at done
      · obtain same | ⟨name, updated⟩ := decoder _ _ _ next done
        · exact .inl same
        · refine .inr ⟨name, _, updated, fun key here => ⟨(row _ _ key here).1, ?_⟩⟩
          intro mask mine
          exact (row _ _ key here).2.trans (Option.some.inj mine)
      · split at done
        · refine .inr ⟨_, _, done.symm, fun key here => ?_⟩
          simp only [Bool.and_eq_true] at here
          refine ⟨(row _ _ key here.2).1, fun mask mine => ?_⟩
          exact (row _ _ key here.2).2.trans (Option.some.inj mine)
        · exact .inl done.symm
  | decodeLuma type =>
      obtain same | ⟨name, updated⟩ := decoder _ _ _ next (Option.some.inj done)
      · exact .inl same
      · refine .inr ⟨name, _, updated, fun key here => ⟨(row _ _ key here).1, ?_⟩⟩
        intro mask mine
        exact (row _ _ key here).2.trans (Option.some.inj mine)
  | sharpness timing type =>
      simp only [store, pqSetSharpnessAdvancedParams] at done
      split at done
      · split at done
        · exact .inl (Option.some.inj done).symm
        · cases done
      · split at done
        · exact .inl (Option.some.inj done).symm
        · refine .inr ⟨_, _, (Option.some.inj done).symm, fun key here => ⟨of_decide_eq_true here, ?_⟩⟩
          intro mask mine
          cases mine
  | blackExt =>
      simp only [store, pqSetBeParams, Option.some.injEq] at done
      split at done
      · exact .inl done.symm
      · refine .inr ⟨_, _, done.symm, fun key here => ⟨of_decide_eq_true here, ?_⟩⟩
        intro mask mine
        cases mine

-- A getter sees its own rows only.
theorem raw_update (db : PqDb) (param : SourceInputParam) (setting : Setting) (name : TableName)
    (changed : RegKey → Bool) (word : Word) (away : ∀ key, Touches setting key → changed key = false) :
    raw (db.update name changed word) param setting = raw db param setting := by
  have decoder (addr paramType mask : Nat) (rows : ∀ key, atRow addr mask key = true → changed key = false) :
      pqGetCvd2Param (db.update name changed word) param addr paramType mask =
        pqGetCvd2Param db param addr paramType mask := by
    have same := find_other db name changed word [db.generalCvd2 (cvd2Signal param paramType)]
      (fun _ => atRow addr mask) rows
    simp only [pqGetCvd2Param]
    rw [PqDb.update] at same ⊢
    rw [same]
  cases setting with
  | cti type =>
      have rows : ∀ key, atRow (matchCtiRegAddr type) (matchCtiRegMask type) key = true → changed key = false := by
        intro key here
        simp only [atRow, Bool.and_eq_true, decide_eq_true_eq] at here
        exact away key ⟨here.1, fun mask mine => here.2.trans (Option.some.inj mine)⟩
      have gains := find_other db name changed word (sharpnessTables db param)
        (gainRow type.code (matchCtiRegAddr type) (matchCtiRegMask type)) fun key mine => by
          simp only [gainRow, Bool.and_eq_true] at mine
          exact rows key mine.2
      have tables : sharpnessTables (db.update name changed word) param = sharpnessTables db param := rfl
      simp only [raw, pqGetSharpnessCtiParams, decoder _ _ _ rows, tables, gains]
  | decodeLuma type =>
      have rows : ∀ key, atRow (lumaAddr type) (lumaMask type) key = true → changed key = false := by
        intro key here
        simp only [atRow, Bool.and_eq_true, decide_eq_true_eq] at here
        exact away key ⟨here.1, fun mask mine => here.2.trans (Option.some.inj mine)⟩
      simp only [raw, lumaRow, decoder _ _ _ rows]
  | sharpness timing type =>
      have tables : commonTables (db.update name changed word) param = commonTables db param := rfl
      have emptied : ((db.update name changed word).listed (commonTables db param) = []) =
          (db.listed (commonTables db param) = []) := by
        rw [listed_update, List.map_eq_nil_iff]
      have row (table : TableName) := find_other db name changed word (commonTables db param)
        (sharpnessRow table (matchSharpnessRegAddr type timing)) fun key mine => by
          simp only [sharpnessRow, Bool.and_eq_true, decide_eq_true_eq] at mine
          exact away key ⟨mine.2, fun mask none => by cases none⟩
      simp only [raw, pqGetSharpnessAdvancedParams, tables, index_update, row, emptied]
  | blackExt =>
      have row := find_other db name changed word [db.generalBlackBlue param]
        (fun _ key => key.regAddr = vppBlackextCtrl) fun key mine =>
          away key ⟨of_decide_eq_true mine, fun mask none => by cases none⟩
      simp only [raw, pqGetBeParams, be_count]
      rw [PqDb.update] at row ⊢
      rw [row]

-- Only the sharpness of one timing has several fields in one row.
def SameRow : Setting → Setting → Prop
  | .sharpness timing type, .sharpness other another => timing = other ∧ type.group = another.group
  | _, _ => False

def family : Setting → Nat
  | .cti _ => 0
  | .decodeLuma _ => 1
  | .sharpness _ _ => 2
  | .blackExt => 3

def addressFamily (addr : Nat) : Nat :=
  if addr ∈ [vppCtiYcDelay, vppDecodeCti, vppCtiSr0Gain, vppCtiSr1Gain] then 0
  else if addr ∈ [0x157, decodeSatAddr] then 1
  else if addr = vppBlackextCtrl then 3
  else 2

-- The four setters share no address.
theorem address_family (setting : Setting) : addressFamily (regAddr setting) = family setting := by
  cases setting with
  | cti type => cases type <;> rfl
  | decodeLuma type => cases type <;> rfl
  | sharpness timing type => cases timing <;> cases type <;> rfl
  | blackExt => rfl

theorem cti_row (type other : CtiParamType) (addr : matchCtiRegAddr type = matchCtiRegAddr other)
    (mask : matchCtiRegMask type = matchCtiRegMask other) : other = type := by
  cases type <;> cases other <;> first | rfl | (cases mask <;> cases addr)

theorem luma_row (type other : DecodeLuma) (mask : lumaMask type = lumaMask other) : other = type := by
  cases type <;> cases other <;> first | rfl | cases mask

theorem sharpness_row (timing otherTiming : Timing) (type other : SharpnessParamType)
    (addr : matchSharpnessRegAddr type timing = matchSharpnessRegAddr other otherTiming) :
    timing = otherTiming ∧ type.group = other.group := by
  simp only [matchSharpnessRegAddr] at addr
  generalize type.group = group at addr ⊢
  generalize other.group = otherGroup at addr ⊢
  cases timing <;> cases otherTiming <;> cases group <;> cases otherGroup <;>
    first | exact ⟨rfl, rfl⟩ | cases addr

theorem rows_apart (setting other : Setting) (different : other ≠ setting) (apart : ¬SameRow setting other)
    (key : RegKey) (mine : Touches setting key) (its : Touches other key) : False := by
  obtain ⟨addr, mask⟩ := mine
  obtain ⟨otherAddr, otherMask⟩ := its
  have same : regAddr setting = regAddr other := addr.symm.trans otherAddr
  have families : family setting = family other := by
    rw [← address_family, ← address_family, same]
  cases setting with
  | cti type =>
      cases other with
      | cti another =>
          exact different (congrArg Setting.cti (cti_row type another same ((mask _ rfl).symm.trans (otherMask _ rfl))))
      | decodeLuma another => cases families
      | sharpness timing another => cases families
      | blackExt => cases families
  | decodeLuma type =>
      cases other with
      | cti another => cases families
      | decodeLuma another =>
          exact different (congrArg Setting.decodeLuma (luma_row type another ((mask _ rfl).symm.trans (otherMask _ rfl))))
      | sharpness timing another => cases families
      | blackExt => cases families
  | sharpness timing type =>
      cases other with
      | cti another => cases families
      | decodeLuma another => cases families
      | sharpness otherTiming another => exact apart (sharpness_row timing otherTiming type another same)
      | blackExt => cases families
  | blackExt =>
      cases other with
      | cti another => cases families
      | decodeLuma another => cases families
      | sharpness timing another => cases families
      | blackExt => exact different rfl

theorem store_frame (db next : PqDb) (param : SourceInputParam) (setting other : Setting) (word : Word)
    (done : store db param setting word = some next) (different : other ≠ setting) (apart : ¬SameRow setting other) :
    raw next param other = raw db param other := by
  obtain same | ⟨name, changed, updated, touched⟩ := store_update db next param setting word done
  · rw [same]
  · rw [updated]
    apply raw_update
    intro key its
    by_cases hit : changed key = true
    · exact (rows_apart setting other different apart key (touched key hit) its).elim
    · exact Bool.eq_false_iff.mpr hit

end Droidlogic.Pq.Factory
