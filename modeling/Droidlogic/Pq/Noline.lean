import Droidlogic.Pq.Source

set_option autoImplicit false

namespace Droidlogic.Pq.Noline

-- The Item_ID values that the curves use.
inductive Item
  | brightness
  | contrast
  | saturation
  | hue
  | sharpness
  | volume
deriving DecidableEq

inductive NolineType
  | brightness
  | contrast
  | saturation
  | hue
  | sharpness
  | volume
  | backlight
deriving DecidableEq

structure Row where
  source : Source
  item : Item
  level : Nat
  value : Int32
deriving DecidableEq

def ofCurve (source : Source) (item : Item) (row : Row) : Bool := row.source = source && row.item = item

-- The table NonlinearMapping: one row for each source, item and level, and a select
-- has the levels of a curve in order.
structure Table where
  rows : List Row
  ordered : ∀ source item, (rows.filter (ofCurve source item)).map Row.level = List.range 101

structure Params where
  osd0 : Int32
  osd25 : Int32
  osd50 : Int32
  osd75 : Int32
  osd100 : Int32
deriving DecidableEq

def Params.zero : Params := ⟨0, 0, 0, 0, 0⟩

-- What sqlite3_get_table returns: the column name, then the rows of one column.
inductive Cell
  | columnName
  | value (value : Int32)
deriving DecidableEq

structure Cursor where
  mData : List Cell
  mCurRowIndex : Nat
  mRowNums : Nat
  mColNums : Nat
deriving DecidableEq

def Cursor.moveToFirst (c : Cursor) : Bool × Cursor :=
  if c.mRowNums = 0 then (false, c) else (true, { c with mCurRowIndex := 0 })

def atoi : Cell → Int32
  | .columnName => 0
  | .value value => value

-- The column is not checked, so it may reach into later rows; none is past the end.
def Cursor.getInt (c : Cursor) (columnIndex : Nat) : Option Int32 :=
  c.mData[c.mColNums * (c.mCurRowIndex + 1) + columnIndex]?.map atoi

def select (table : Table) (source : Source) (item : Item) (levels : Nat → Bool) : Cursor :=
  let found := table.rows.filter fun row => ofCurve source item row && levels row.level
  ⟨.columnName :: found.map fun row => .value row.value, 0, found.length, 1⟩

def osdLevel (level : Nat) : Bool := level = 0 || level = 25 || level = 50 || level = 75 || level = 100

def getNonlinearMappingByOSDFac (table : Table) (source : Source) (item : Item) : Option Params :=
  let (found, c) := (select table source item osdLevel).moveToFirst
  if found then do
    let osd0 ← c.getInt 0
    let osd25 ← c.getInt 1
    let osd50 ← c.getInt 2
    let osd75 ← c.getInt 3
    let osd100 ← c.getInt 4
    some ⟨osd0, osd25, osd50, osd75, osd100⟩
  else some .zero

-- (right - left) / 25.0
def slope (left right : Int32) : Float := Float.ofInt (right - left).toInt / 25

-- left + (int) (i * step)
def along (left right : Int32) (i : Nat) : Int32 := left + (Float.ofNat i * slope left right).toModel.toInt32

def osdvalue (points : Params) (i : Nat) : Int32 :=
  if i = 0 then points.osd0
  else if i ≤ 25 then along points.osd0 points.osd25 i
  else if i ≤ 50 then along points.osd25 points.osd50 (i - 25)
  else if i ≤ 75 then along points.osd50 points.osd75 (i - 50)
  else along points.osd75 points.osd100 (i - 75)

-- exeSql of one update, which may fail.
def update (source : Source) (item : Item) (level : Nat) (value : Int32) (ok : Bool) (row : Row) : Row :=
  if ok && ofCurve source item row && row.level = level then { row with value := value } else row

-- Only the result of the last update is returned.
def writeLevels (source : Source) (item : Item) (points : Params) (ok : Nat → Bool) :
    List Nat → Int → List Row → Int × List Row
  | [], rval, rows => (rval, rows)
  | i :: rest, _, rows =>
      writeLevels source item points ok rest (if ok i then 0 else -1)
        (rows.map (update source item i (osdvalue points i) (ok i)))

def fitsInt (left right : Int32) : Prop := -2147483648 ≤ right.toInt - left.toInt ∧ right.toInt - left.toInt ≤ 2147483647

instance (left right : Int32) : Decidable (fitsInt left right) := inferInstanceAs (Decidable (_ ∧ _))

-- The differences that SetNonlinearMapping takes; one out of range is undefined.
def Params.Defined (points : Params) : Prop :=
  fitsInt points.osd0 points.osd25 ∧ fitsInt points.osd25 points.osd50 ∧ fitsInt points.osd50 points.osd75 ∧
    fitsInt points.osd75 points.osd100

instance (points : Params) : Decidable points.Defined := inferInstanceAs (Decidable (_ ∧ _ ∧ _ ∧ _))

-- What the updates of some levels do to a row.
def written (source : Source) (item : Item) (points : Params) (ok : Nat → Bool) (levels : List Nat) (row : Row) : Row :=
  if ofCurve source item row = true ∧ row.level ∈ levels ∧ ok row.level = true then
    { row with value := osdvalue points row.level }
  else row

theorem written_cons (source : Source) (item : Item) (points : Params) (ok : Nat → Bool) (i : Nat) (rest : List Nat)
    (row : Row) :
    written source item points ok rest (update source item i (osdvalue points i) (ok i) row) =
      written source item points ok (i :: rest) row := by
  by_cases here : ok i = true ∧ ofCurve source item row = true ∧ row.level = i
  · obtain ⟨fine, curve, level⟩ := here
    subst level
    have updated : update source item row.level (osdvalue points row.level) (ok row.level) row =
        { row with value := osdvalue points row.level } := by simp [update, fine, curve]
    have same : ofCurve source item { row with value := osdvalue points row.level } = true := curve
    rw [updated]
    simp [written, same, curve, fine]
  · have kept : update source item i (osdvalue points i) (ok i) row = row := by
      simp only [update, Bool.and_eq_true, decide_eq_true_eq, and_assoc]
      exact if_neg here
    rw [kept]
    by_cases curve : ofCurve source item row = true
    · by_cases level : row.level = i
      · have failed : ok i ≠ true := fun fine => here ⟨fine, curve, level⟩
        simp [written, level, failed]
      · simp [written, level]
    · simp [written, curve]

theorem write_levels (source : Source) (item : Item) (points : Params) (ok : Nat → Bool) (levels : List Nat)
    (rval : Int) (rows : List Row) :
    (writeLevels source item points ok levels rval rows).2 = rows.map (written source item points ok levels) := by
  induction levels generalizing rval rows with
  | nil =>
      have same : written source item points ok [] = id := by
        funext row
        simp [written]
      rw [writeLevels, same, List.map_id]
  | cons i rest ih =>
      rw [writeLevels, ih, List.map_map]
      congr 1
      funext row
      exact written_cons source item points ok i rest row

theorem written_curve (source : Source) (item : Item) (points : Params) (ok : Nat → Bool) (levels : List Nat)
    (otherSource : Source) (otherItem : Item) (row : Row) :
    ofCurve otherSource otherItem (written source item points ok levels row) = ofCurve otherSource otherItem row := by
  simp only [written]
  split <;> rfl

theorem written_level (source : Source) (item : Item) (points : Params) (ok : Nat → Bool) (levels : List Nat) (row : Row) :
    (written source item points ok levels row).level = row.level := by
  simp only [written]
  split <;> rfl

theorem curve_rows (source : Source) (item : Item) (points : Params) (ok : Nat → Bool) (levels : List Nat)
    (otherSource : Source) (otherItem : Item) (rows : List Row) :
    (rows.map (written source item points ok levels)).filter (ofCurve otherSource otherItem) =
      (rows.filter (ofCurve otherSource otherItem)).map (written source item points ok levels) := by
  rw [List.filter_map]
  congr 1
  apply List.filter_congr
  intro row _
  exact written_curve source item points ok levels otherSource otherItem row

theorem write_ordered (table : Table) (source : Source) (item : Item) (points : Params) (ok : Nat → Bool)
    (otherSource : Source) (otherItem : Item) :
    (((writeLevels source item points ok (List.range 101) 0 table.rows).2).filter
      (ofCurve otherSource otherItem)).map Row.level = List.range 101 := by
  rw [write_levels, curve_rows, List.map_map]
  have level : Row.level ∘ written source item points ok (List.range 101) = Row.level := by
    funext row
    exact written_level source item points ok (List.range 101) row
  rw [level]
  exact table.ordered otherSource otherItem

def Table.write (table : Table) (source : Source) (item : Item) (points : Params) (ok : Nat → Bool) : Table :=
  ⟨(writeLevels source item points ok (List.range 101) 0 table.rows).2, write_ordered table source item points ok⟩

def setNonlinearMapping (table : Table) (item : Item) (source : Source) (points : Params) (ok : Nat → Bool) :
    Option (Int × Table) :=
  if points.Defined then
    some ((writeLevels source item points ok (List.range 101) 0 table.rows).1, table.write source item points ok)
  else none

-- The case of the saturation has no break.
def factorySetNolineParams (table : Table) (source : Source) (type : NolineType) (points : Params)
    (ok : Item → Nat → Bool) : Option (Int × Table) :=
  match type with
  | .brightness => setNonlinearMapping table .brightness source points (ok .brightness)
  | .contrast => setNonlinearMapping table .contrast source points (ok .contrast)
  | .saturation => do
      let (_, table) ← setNonlinearMapping table .saturation source points (ok .saturation)
      setNonlinearMapping table .hue source points (ok .hue)
  | .hue => setNonlinearMapping table .hue source points (ok .hue)
  | .sharpness => setNonlinearMapping table .sharpness source points (ok .sharpness)
  | .volume => setNonlinearMapping table .volume source points (ok .volume)
  | .backlight => some (-1, table)

def itemOf : NolineType → Option Item
  | .brightness => some .brightness
  | .contrast => some .contrast
  | .saturation => some .saturation
  | .hue => some .hue
  | .sharpness => some .sharpness
  | .volume => some .volume
  | .backlight => none

def factoryGetNolineParams (table : Table) (source : Source) (type : NolineType) : Option Params :=
  match type with
  | .brightness => getNonlinearMappingByOSDFac table source .brightness
  | .contrast => getNonlinearMappingByOSDFac table source .contrast
  | .saturation => getNonlinearMappingByOSDFac table source .saturation
  | .hue => getNonlinearMappingByOSDFac table source .hue
  | .sharpness => getNonlinearMappingByOSDFac table source .sharpness
  | .volume => getNonlinearMappingByOSDFac table source .volume
  | .backlight => some .zero

def rowAt (table : Table) (source : Source) (item : Item) (level : Nat) : Row :=
  ((table.rows.filter (ofCurve source item))[level]?).getD ⟨source, item, level, 0⟩

def valueAt (table : Table) (source : Source) (item : Item) (level : Nat) : Int32 := (rowAt table source item level).value

theorem curve_length (table : Table) (source : Source) (item : Item) :
    (table.rows.filter (ofCurve source item)).length = 101 := by
  have lengths := congrArg List.length (table.ordered source item)
  rwa [List.length_map, List.length_range] at lengths

theorem curve_by_level (table : Table) (source : Source) (item : Item) :
    table.rows.filter (ofCurve source item) = (List.range 101).map (rowAt table source item) := by
  have length := curve_length table source item
  apply List.ext_getElem
  · rw [length, List.length_map, List.length_range]
  · intro level here _
    simp only [List.getElem_map, List.getElem_range, rowAt, List.getElem?_eq_getElem here, Option.getD_some]

theorem row_level (table : Table) (source : Source) (item : Item) (level : Nat) (listed : level < 101) :
    (rowAt table source item level).level = level := by
  have levels := table.ordered source item
  rw [curve_by_level, List.map_map] at levels
  have here := congrArg (fun list => list[level]?) levels
  simpa [listed] using here

theorem row_curve (table : Table) (source : Source) (item : Item) (level : Nat) (listed : level < 101) :
    ofCurve source item (rowAt table source item level) = true := by
  have member : rowAt table source item level ∈ table.rows.filter (ofCurve source item) := by
    rw [curve_by_level]
    exact List.mem_map_of_mem (List.mem_range.mpr listed)
  exact (List.mem_filter.mp member).2

-- The five points of a curve, as stepping through the columns finds them.
theorem get_points (table : Table) (source : Source) (item : Item) :
    getNonlinearMappingByOSDFac table source item =
      some ⟨valueAt table source item 0, valueAt table source item 25, valueAt table source item 50,
        valueAt table source item 75, valueAt table source item 100⟩ := by
  have found : table.rows.filter (fun row => ofCurve source item row && osdLevel row.level) =
      [0, 25, 50, 75, 100].map (rowAt table source item) := by
    have split : table.rows.filter (fun row => ofCurve source item row && osdLevel row.level) =
        (table.rows.filter (ofCurve source item)).filter fun row => osdLevel row.level := by
      rw [List.filter_filter]
      exact List.filter_congr fun row _ => Bool.and_comm _ _
    have levels : (List.range 101).filter (fun level => osdLevel (rowAt table source item level).level) =
        (List.range 101).filter osdLevel :=
      List.filter_congr fun level member => by rw [row_level table source item level (List.mem_range.mp member)]
    have nodes : (List.range 101).filter osdLevel = [0, 25, 50, 75, 100] := by decide
    rw [split, curve_by_level, List.filter_map]
    exact congrArg (List.map _) (levels.trans nodes)
  rw [getNonlinearMappingByOSDFac, select, found]
  rfl

theorem write_rows (table : Table) (source : Source) (item : Item) (points : Params) (ok : Nat → Bool) :
    (table.write source item points ok).rows = table.rows.map (written source item points ok (List.range 101)) := by
  simp only [Table.write, write_levels]

theorem write_value (table : Table) (source : Source) (item : Item) (points : Params) (ok : Nat → Bool)
    (otherSource : Source) (otherItem : Item) (level : Nat) (listed : level < 101) :
    valueAt (table.write source item points ok) otherSource otherItem level =
      if (otherSource = source ∧ otherItem = item) ∧ ok level = true then osdvalue points level
      else valueAt table otherSource otherItem level := by
  have row : rowAt (table.write source item points ok) otherSource otherItem level =
      written source item points ok (List.range 101) (rowAt table otherSource otherItem level) := by
    have curve := curve_by_level (table.write source item points ok) otherSource otherItem
    rw [write_rows, curve_rows, curve_by_level table, List.map_map] at curve
    have here := congrArg (fun list => list[level]?) curve
    simpa [listed] using here.symm
  have curve := row_curve table otherSource otherItem level listed
  have at_level := row_level table otherSource otherItem level listed
  simp only [ofCurve, Bool.and_eq_true, decide_eq_true_eq] at curve
  have same : ofCurve source item (rowAt table otherSource otherItem level) = true ↔
      otherSource = source ∧ otherItem = item := by
    simp only [ofCurve, Bool.and_eq_true, decide_eq_true_eq, curve.1, curve.2]
  rw [valueAt, row]
  by_cases target : (otherSource = source ∧ otherItem = item) ∧ ok level = true
  · have all : ofCurve source item (rowAt table otherSource otherItem level) = true ∧
        (rowAt table otherSource otherItem level).level ∈ List.range 101 ∧
        ok (rowAt table otherSource otherItem level).level = true := by
      rw [at_level]
      exact ⟨same.mpr target.1, List.mem_range.mpr listed, target.2⟩
    rw [written, if_pos all, if_pos target, at_level]
  · have none : ¬(ofCurve source item (rowAt table otherSource otherItem level) = true ∧
        (rowAt table otherSource otherItem level).level ∈ List.range 101 ∧
        ok (rowAt table otherSource otherItem level).level = true) := by
      rw [at_level]
      exact fun all => target ⟨same.mp all.1, all.2.2⟩
    rw [written, if_neg none, if_neg target]
    rfl

theorem set_value (table next : Table) (source : Source) (item : Item) (points : Params) (ok : Nat → Bool) (rval : Int)
    (done : setNonlinearMapping table item source points ok = some (rval, next)) (otherSource : Source)
    (otherItem : Item) (level : Nat) (listed : level < 101) :
    valueAt next otherSource otherItem level =
      if (otherSource = source ∧ otherItem = item) ∧ ok level = true then osdvalue points level
      else valueAt table otherSource otherItem level := by
  rw [setNonlinearMapping] at done
  by_cases defined : points.Defined
  · simp only [if_pos defined, Option.some.injEq, Prod.mk.injEq] at done
    rw [← done.2]
    exact write_value table source item points ok otherSource otherItem level listed
  · rw [if_neg defined] at done
    cases done

-- The curves that a call writes: the saturation also writes the hue.
def Writes (type : NolineType) (item : Item) : Prop := itemOf type = some item ∨ (type = .saturation ∧ item = .hue)

instance (type : NolineType) (item : Item) : Decidable (Writes type item) := inferInstanceAs (Decidable (_ ∨ _))

theorem factory_set_value (table next : Table) (source : Source) (type : NolineType) (points : Params)
    (ok : Item → Nat → Bool) (rval : Int) (done : factorySetNolineParams table source type points ok = some (rval, next))
    (otherSource : Source) (item : Item) (level : Nat) (listed : level < 101) :
    valueAt next otherSource item level =
      if (otherSource = source ∧ Writes type item) ∧ ok item level = true then osdvalue points level
      else valueAt table otherSource item level := by
  have one (only : Item) (writes : ∀ other, Writes type other ↔ other = only)
      (set : setNonlinearMapping table only source points (ok only) = some (rval, next)) :
      valueAt next otherSource item level =
        if (otherSource = source ∧ Writes type item) ∧ ok item level = true then osdvalue points level
        else valueAt table otherSource item level := by
    rw [set_value table next source only points (ok only) rval set otherSource item level listed]
    by_cases mine : item = only
    · subst mine
      simp only [writes]
    · simp only [writes, mine, and_false, false_and, if_false]
  cases type with
  | brightness => exact one .brightness (by simp [Writes, itemOf, eq_comm]) done
  | contrast => exact one .contrast (by simp [Writes, itemOf, eq_comm]) done
  | saturation =>
      simp only [factorySetNolineParams, Option.bind_eq_bind, Option.bind_eq_some_iff] at done
      obtain ⟨⟨first, middle⟩, saturation, hue⟩ := done
      rw [set_value middle next source .hue points (ok .hue) rval hue otherSource item level listed,
        set_value table middle source .saturation points (ok .saturation) first saturation otherSource item level listed]
      cases item <;> simp [Writes, itemOf]
  | hue => exact one .hue (by simp [Writes, itemOf, eq_comm]) done
  | sharpness => exact one .sharpness (by simp [Writes, itemOf, eq_comm]) done
  | volume => exact one .volume (by simp [Writes, itemOf, eq_comm]) done
  | backlight =>
      have unchanged : table = next := congrArg Prod.snd (Option.some.inj done)
      simp [unchanged, Writes, itemOf]

-- left + (int) (25 * step), what the loop writes at the right end of a segment.
def rounded (left right : Int32) : Int32 := left + (25 * slope left right).toModel.toInt32

structure Segment where
  level : Nat
  left : Int32
  right : Int32

-- The five points, each with the one its value is reached from.
def segments (points : Params) : List Segment :=
  [⟨0, points.osd0, points.osd0⟩, ⟨25, points.osd0, points.osd25⟩, ⟨50, points.osd25, points.osd50⟩,
    ⟨75, points.osd50, points.osd75⟩, ⟨100, points.osd75, points.osd100⟩]

theorem segment_levels (points : Params) : (segments points).map Segment.level = [0, 25, 50, 75, 100] := rfl

theorem segment_listed (points : Params) (segment : Segment) (member : segment ∈ segments points) :
    segment.level < 101 := by
  have levels : segment.level ∈ (segments points).map Segment.level := List.mem_map_of_mem member
  rw [segment_levels] at levels
  simp at levels
  omega

theorem point_value (points : Params) (segment : Segment) (member : segment ∈ segments points) :
    osdvalue points segment.level = rounded segment.left segment.right := by
  simp only [segments, List.mem_cons, List.not_mem_nil, or_false] at member
  have flat (point : Int32) : rounded point point = point := by
    have zero : (25 * (Float.ofInt 0 / 25)).toModel.toInt32 = 0 := by decide +kernel
    rw [rounded, slope, Int32.sub_self]
    exact (congrArg (point + ·) zero).trans (Int32.add_zero point)
  rcases member with rfl | rfl | rfl | rfl | rfl
  · exact (flat points.osd0).symm
  all_goals rfl

theorem factory_get (table : Table) (source : Source) (type : NolineType) :
    factoryGetNolineParams table source type =
      (itemOf type).elim (some .zero) (getNonlinearMappingByOSDFac table source) := by
  cases type <;> rfl

theorem get_iff (table : Table) (source : Source) (type : NolineType) (item : Item) (points : Params)
    (mine : itemOf type = some item) :
    factoryGetNolineParams table source type = some points ↔
      ∀ segment ∈ segments points, valueAt table source item segment.level = segment.right := by
  rw [factory_get, mine, Option.elim_some, get_points, Option.some.injEq]
  cases points
  simp [segments]

theorem get_same_iff (table next : Table) (source : Source) (type : NolineType) (item : Item) (points : Params)
    (mine : itemOf type = some item) :
    factoryGetNolineParams next source type = factoryGetNolineParams table source type ↔
      ∀ segment ∈ segments points,
        valueAt next source item segment.level = valueAt table source item segment.level := by
  rw [factory_get, factory_get, mine, Option.elim_some, Option.elim_some, get_points, get_points, Option.some.injEq]
  simp [segments]

-- The point is written as it was given, or the update failed and the row had it already.
def Reaches (table : Table) (source : Source) (item : Item) (ok : Nat → Bool) (segment : Segment) : Prop :=
  if ok segment.level = true then rounded segment.left segment.right = segment.right
  else valueAt table source item segment.level = segment.right

-- The update writes what the row already had.
def Spares (table : Table) (source : Source) (item : Item) (ok : Nat → Bool) (segment : Segment) : Prop :=
  ok segment.level = true → rounded segment.left segment.right = valueAt table source item segment.level

def Exact (table : Table) (source : Source) (type : NolineType) (points : Params) (ok : Item → Nat → Bool) : Prop :=
  ∀ segment ∈ segments points,
    (∀ item, itemOf type = some item → Reaches table source item (ok item) segment) ∧
      (type = .saturation → Spares table source .hue (ok .hue) segment)

theorem own_value (table next : Table) (source : Source) (type : NolineType) (item : Item) (points : Params)
    (ok : Item → Nat → Bool) (rval : Int) (done : factorySetNolineParams table source type points ok = some (rval, next))
    (own : itemOf type = some item) (segment : Segment) (member : segment ∈ segments points) :
    valueAt next source item segment.level = segment.right ↔ Reaches table source item (ok item) segment := by
  rw [factory_set_value table next source type points ok rval done source item segment.level
    (segment_listed points segment member), Reaches, point_value points segment member]
  have mine : source = source ∧ Writes type item := ⟨rfl, .inl own⟩
  by_cases fine : ok item segment.level = true
  · rw [if_pos ⟨mine, fine⟩, if_pos fine]
  · rw [if_neg fun all => fine all.2, if_neg fine]

theorem hue_value (table next : Table) (source : Source) (points : Params) (ok : Item → Nat → Bool) (rval : Int)
    (done : factorySetNolineParams table source .saturation points ok = some (rval, next)) (segment : Segment)
    (member : segment ∈ segments points) :
    valueAt next source .hue segment.level = valueAt table source .hue segment.level ↔
      Spares table source .hue (ok .hue) segment := by
  rw [factory_set_value table next source .saturation points ok rval done source .hue segment.level
    (segment_listed points segment member), Spares, point_value points segment member]
  have mine : source = source ∧ Writes .saturation .hue := ⟨rfl, .inr ⟨rfl, rfl⟩⟩
  by_cases fine : ok .hue segment.level = true
  · rw [if_pos ⟨mine, fine⟩]
    exact ⟨fun same _ => same, fun spares => spares fine⟩
  · rw [if_neg fun all => fine all.2]
    exact ⟨fun _ on => absurd on fine, fun _ => rfl⟩

theorem other_value (table next : Table) (source : Source) (type : NolineType) (points : Params)
    (ok : Item → Nat → Bool) (rval : Int) (done : factorySetNolineParams table source type points ok = some (rval, next))
    (otherSource : Source) (item : Item) (other : ¬(otherSource = source ∧ Writes type item)) (segment : Segment)
    (member : segment ∈ segments points) :
    valueAt next otherSource item segment.level = valueAt table otherSource item segment.level := by
  rw [factory_set_value table next source type points ok rval done otherSource item segment.level
    (segment_listed points segment member), if_neg fun all => other all.1]

theorem noline_params_iff (table next : Table) (source : Source) (type : NolineType) (points : Params)
    (ok : Item → Nat → Bool) (done : factorySetNolineParams table source type points ok = some (0, next)) :
    (factoryGetNolineParams next source type = some points ∧
      ∀ otherSource otherType, ¬(otherSource = source ∧ otherType = type) →
        factoryGetNolineParams next otherSource otherType = factoryGetNolineParams table otherSource otherType) ↔
      Exact table source type points ok := by
  constructor
  · intro ⟨own, others⟩ segment member
    constructor
    · intro item mine
      exact (own_value table next source type item points ok 0 done mine segment member).mp
        ((get_iff next source type item points mine).mp own segment member)
    · intro saturation
      subst saturation
      have hue := others source .hue (by simp)
      exact (hue_value table next source points ok 0 done segment member).mp
        ((get_same_iff table next source .hue .hue points rfl).mp hue segment member)
  · intro exactly
    constructor
    · cases mine : itemOf type with
      | none =>
          cases type <;> cases mine
          cases done
      | some item =>
          exact (get_iff next source type item points mine).mpr fun segment member =>
            (own_value table next source type item points ok 0 done mine segment member).mpr
              ((exactly segment member).1 item mine)
    · intro otherSource otherType other
      cases its : itemOf otherType with
      | none => rw [factory_get, factory_get, its, Option.elim_none, Option.elim_none]
      | some item =>
          refine (get_same_iff table next otherSource otherType item points its).mpr fun segment member => ?_
          by_cases written : otherSource = source ∧ Writes type item
          · obtain ⟨same, mine | ⟨saturation, hue⟩⟩ := written
            · have types : otherType = type := by
                cases otherType <;> cases type <;> first | rfl | (rw [← its] at mine; cases mine)
              exact absurd ⟨same, types⟩ other
            · subst same saturation hue
              exact (hue_value table next otherSource points ok 0 done segment member).mpr
                ((exactly segment member).2 rfl)
          · exact other_value table next source type points ok 0 done otherSource item written segment member

theorem all_written (source : Source) (item : Item) (points : Params) (levels : List Nat) (rows : List Row) :
    (writeLevels source item points (fun _ => true) levels 0 rows).1 = 0 := by
  induction levels generalizing rows with
  | nil => rfl
  | cons i rest ih =>
      rw [writeLevels]
      exact ih _

theorem set_succeeds (table : Table) (item : Item) (source : Source) (points : Params) (defined : points.Defined) :
    setNonlinearMapping table item source points (fun _ => true) =
      some (0, table.write source item points fun _ => true) := by
  rw [setNonlinearMapping, if_pos defined, all_written]

def sources : List Source :=
  [.invalid, .tv, .av1, .av2, .ypbpr1, .ypbpr2, .hdmi1, .hdmi2, .hdmi3, .hdmi4, .vga, .mpeg, .dtv, .svideo, .iptv,
    .dummy, .spdif, .adtv, .max]

def items : List Item := [.brightness, .contrast, .saturation, .hue, .sharpness, .volume]

def levels (source : Source) (item : Item) (value : Nat → Int32) : List Row :=
  (List.range 101).map fun level => ⟨source, item, level, value level⟩

-- Every curve has the same values.
def filled (value : Nat → Int32) : List Row := sources.flatMap fun source => items.flatMap fun item => levels source item value

theorem levels_filter (source otherSource : Source) (item otherItem : Item) (value : Nat → Int32) :
    (levels source item value).filter (ofCurve otherSource otherItem) =
      if source = otherSource ∧ item = otherItem then levels source item value else [] := by
  have all : ∀ row ∈ levels source item value,
      ofCurve otherSource otherItem row = decide (source = otherSource ∧ item = otherItem) := by
    intro row member
    obtain ⟨level, _, rfl⟩ := List.mem_map.mp member
    simp [ofCurve]
  rw [List.filter_congr all]
  by_cases same : source = otherSource ∧ item = otherItem
  · simp [same]
  · simp [same]

theorem flat_map_only {α β : Type} (entries : List α) (chosen : α) (f : α → List β) (distinct : entries.Nodup)
    (member : chosen ∈ entries) (others : ∀ entry ∈ entries, entry ≠ chosen → f entry = []) :
    entries.flatMap f = f chosen := by
  induction entries with
  | nil => cases member
  | cons entry rest ih =>
      obtain ⟨absent, distinct⟩ := List.nodup_cons.mp distinct
      rw [List.flatMap_cons]
      by_cases same : entry = chosen
      · subst same
        have empty : rest.flatMap f = [] := List.flatMap_eq_nil_iff.mpr fun other later =>
          others other (.tail _ later) fun equal => absent (equal ▸ later)
        rw [empty, List.append_nil]
      · rw [others entry (.head _) same, List.nil_append]
        exact ih distinct ((List.mem_cons.mp member).resolve_left fun equal => same equal.symm) fun other later =>
          others other (.tail _ later)

theorem filled_curve (value : Nat → Int32) (source : Source) (item : Item) :
    (filled value).filter (ofCurve source item) = levels source item value := by
  have listed : source ∈ sources ∧ item ∈ items := ⟨by cases source <;> decide, by cases item <;> decide⟩
  simp only [filled, List.filter_flatMap, levels_filter]
  rw [flat_map_only sources source _ (by decide) listed.1, flat_map_only items item _ (by decide) listed.2]
  · exact if_pos ⟨rfl, rfl⟩
  · exact fun other _ different => if_neg fun same => different same.2
  · exact fun other _ different => List.flatMap_eq_nil_iff.mpr fun _ _ => if_neg fun same => different same.1

theorem filled_ordered (value : Nat → Int32) (source : Source) (item : Item) :
    ((filled value).filter (ofCurve source item)).map Row.level = List.range 101 := by
  rw [filled_curve, levels, List.map_map]
  exact List.map_id _

def zeros : Table := ⟨filled fun _ => 0, filled_ordered fun _ => 0⟩

theorem zeros_value (source : Source) (item : Item) (level : Nat) : valueAt zeros source item level = 0 := by
  rw [valueAt, rowAt, zeros, filled_curve, levels, List.getElem?_map]
  cases (List.range 101)[level]? with
  | none => rfl
  | some _ => rfl

def ramp : Params := ⟨0, 25, 50, 75, 100⟩

theorem brightness_returned :
    ∃ next, factorySetNolineParams zeros .hdmi1 .brightness ramp (fun _ _ => true) = some (0, next) ∧
      factoryGetNolineParams next .hdmi1 .brightness = some ramp ∧
      ∀ otherSource otherType, ¬(otherSource = .hdmi1 ∧ otherType = .brightness) →
        factoryGetNolineParams next otherSource otherType = factoryGetNolineParams zeros otherSource otherType := by
  have done := set_succeeds zeros .brightness .hdmi1 ramp (by decide)
  have lands : ∀ segment ∈ segments ramp, rounded segment.left segment.right = segment.right := by
    intro segment member
    simp only [segments, List.mem_cons, List.not_mem_nil, or_false] at member
    rcases member with rfl | rfl | rfl | rfl | rfl <;> decide +kernel
  have exactly : Exact zeros .hdmi1 .brightness ramp fun _ _ => true := by
    intro segment member
    constructor
    · intro item _
      rw [Reaches, if_pos rfl]
      exact lands segment member
    · intro saturation
      cases saturation
  exact ⟨_, done, (noline_params_iff zeros _ .hdmi1 .brightness ramp (fun _ _ => true) done).mpr exactly⟩

-- A difference of 29 falls one short, and the saturation is written to the hue too.
theorem point_missed_and_hue_overwritten :
    (∃ next, factorySetNolineParams zeros .hdmi1 .brightness ⟨0, 29, 29, 29, 29⟩ (fun _ _ => true) = some (0, next) ∧
      factoryGetNolineParams next .hdmi1 .brightness ≠ some ⟨0, 29, 29, 29, 29⟩) ∧
    ∃ next, factorySetNolineParams zeros .hdmi1 .saturation ramp (fun _ _ => true) = some (0, next) ∧
      factoryGetNolineParams next .hdmi1 .hue ≠ factoryGetNolineParams zeros .hdmi1 .hue := by
  constructor
  · have done := set_succeeds zeros .brightness .hdmi1 ⟨0, 29, 29, 29, 29⟩ (by decide)
    refine ⟨_, done, fun returned => ?_⟩
    have second : (⟨25, 0, 29⟩ : Segment) ∈ segments ⟨0, 29, 29, 29, 29⟩ := .tail _ (.head _)
    have read := (get_iff _ .hdmi1 .brightness .brightness ⟨0, 29, 29, 29, 29⟩ rfl).mp returned ⟨25, 0, 29⟩ second
    have reached := (own_value zeros _ .hdmi1 .brightness .brightness ⟨0, 29, 29, 29, 29⟩ (fun _ _ => true) 0 done rfl
      ⟨25, 0, 29⟩ second).mp read
    rw [Reaches, if_pos rfl] at reached
    have short : rounded 0 29 ≠ 29 := by decide +kernel
    exact short reached
  · have saturation := set_succeeds zeros .saturation .hdmi1 ramp (by decide)
    have hue := set_succeeds (zeros.write .hdmi1 .saturation ramp fun _ => true) .hue .hdmi1 ramp (by decide)
    have done : factorySetNolineParams zeros .hdmi1 .saturation ramp (fun _ _ => true) =
        some (0, (zeros.write .hdmi1 .saturation ramp fun _ => true).write .hdmi1 .hue ramp fun _ => true) := by
      simp only [factorySetNolineParams, saturation, Option.bind_eq_bind, Option.bind_some, hue]
    refine ⟨_, done, fun same => ?_⟩
    have second : (⟨25, 0, 25⟩ : Segment) ∈ segments ramp := .tail _ (.head _)
    have kept := (get_same_iff zeros _ .hdmi1 .hue .hue ramp rfl).mp same ⟨25, 0, 25⟩ second
    have spared := (hue_value zeros _ .hdmi1 ramp (fun _ _ => true) 0 done ⟨25, 0, 25⟩ second).mp kept rfl
    have moved : rounded 0 25 ≠ valueAt zeros .hdmi1 .hue 25 := by
      rw [zeros_value]
      decide +kernel
    exact moved spared

end Droidlogic.Pq.Noline
