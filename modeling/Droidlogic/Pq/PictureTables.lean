import Droidlogic.Lib.Fill
import Droidlogic.Pq.Database

set_option autoImplicit false

namespace Droidlogic.Pq.PictureTables

open Lib

inductive TvpqDataType
  | brightness
  | contrast
  | saturation
  | hue
  | sharpness
  | volume
  | max
deriving DecidableEq

def generalTable : TvpqDataType → Option GeneralTable
  | .brightness => some .brightness
  | .contrast => some .contrast
  | .saturation => some .saturation
  | .hue => some .hue
  | .sharpness => none
  | .volume => none
  | .max => none

inductive GammaTable
  | all
  | curve (gammaCurve : Nat)
deriving DecidableEq

def vppGammaCurveDefault : Nat := 0

section
variable {Step : Type}

structure TvpqData (Step : Type) where
  totalNode : Int
  nodeValue : Int
  indexValue : Int
  regValue : Int
  step : Step

structure TvpqSharpnessReg (Step : Type) where
  totalNode : Int
  value : AmReg
  nodeValue : Int
  indexValue : Int
  step : Step

-- The two selects by node answer their rows in the order of NodeNumber.
structure PictureDb (Step : Type) extends CPQdb where
  basic : Bytes → Selected (TvpqData Step)
  sharpness : Bytes → Selected (TvpqSharpnessReg Step)
  gamma : GammaTable → Bytes → Selected Int
  phase : Selected Int

-- pq_bri_data and the three others, with their numbers of nodes.
structure Curves (Step : Type) where
  data : TvpqDataType → Nat → TvpqData Step
  nodes : TvpqDataType → Nat

def basicName (db : CPQdb) (table : GeneralTable) (param : SourceInputParam) : Bytes :=
  getTableName db table (if checkHdrStatus db table then { param with sigFmt := tvinSigFmtHdmiHdr } else param)

def below (size i : Nat) : Bool := i < size

-- none is a write behind one of the arrays, or a division by zero, in each of the loaders.
def loadVppBasicParam (db : PictureDb Step) (dataType : TvpqDataType) (param : SourceInputParam) (pq : Curves Step) :
    Option (Int × Curves Step) :=
  match generalTable dataType with
  | none => some (-1, pq)
  | some table =>
      let name := basicName db.toCPQdb table param
      if name.length ≠ 0 then
        let selected := db.basic name
        if selected.rows = [] then some (selected.ret, pq)
        else
          (fill (below 15) id selected.rows 0 (pq.data dataType)).map fun data =>
            (selected.ret, ⟨Function.update pq.data dataType data, Function.update pq.nodes dataType selected.rows.length⟩)
      else some (-1, pq)

def pqGetGammaSpecialTable (db : PictureDb Step) (gammaCurve : Nat) (fName : Bytes) (gammaValue : Nat → UInt16) :
    Option (Int × (Nat → UInt16)) :=
  let selected := db.gamma (if gammaCurve = vppGammaCurveDefault then .all else .curve gammaCurve) fName
  if selected.rows = [] then some (-1, gammaValue)
  else (fill (below 256) id (selected.rows.map UInt16.ofInt) 0 gammaValue).map fun data => (selected.ret, data)

structure AmPhase where
  length : Nat
  phase : Nat → UInt32

def pqGetPhaseArray (db : PictureDb Step) (amPhase : AmPhase) : Option (Int × AmPhase) :=
  let rows := db.phase.rows
  (fill (below 20) id (rows.map UInt32.ofInt) 0 amPhase.phase).map fun phase => (rows.length, ⟨rows.length, phase⟩)

-- The nodes of one sharpness table and their number.
structure SharpnessData (Step : Type) where
  nodes : Int
  length : Nat → Int
  regData : Int × Int → TvpqSharpnessReg Step

def inRegData (entry : Int × Int) : Bool := 0 ≤ entry.1 ∧ entry.1 < 10 ∧ 0 ≤ entry.2 ∧ entry.2 < 50

def place (length : Int) (index : Nat) : Int × Int := ((index : Int).tdiv length, (index : Int).tmod length)

def nodeLength (first : TvpqSharpnessReg Step) (rest : List (TvpqSharpnessReg Step)) : Int :=
  ((first :: rest).length : Int).tdiv first.totalNode

def loadNodes (data : SharpnessData Step) : List (TvpqSharpnessReg Step) → Option (SharpnessData Step)
  | [] => some data
  | first :: rest =>
      if first.totalNode = 0 then none
      else
        let length := nodeLength first rest
        (fill (below 10) id (List.replicate first.totalNode.toNat length) 0 data.length).bind fun lengths =>
          if length = 0 then none
          else
            (fill inRegData (place length) (first :: rest) 0 data.regData).map fun regData =>
              ⟨first.totalNode, lengths, regData⟩

structure SharpnessTables (Step : Type) where
  sharpness0 : SharpnessData Step
  sharpness1 : SharpnessData Step

def loadSharpnessData (db : PictureDb Step) (tableName : Bytes) (sharpnessNumber : Int) (pq : SharpnessTables Step) :
    Option (Int × SharpnessTables Step) :=
  let selected := db.sharpness tableName
  let rval := if selected.rows = [] then -1 else selected.ret
  if sharpnessNumber = 1 then
    (loadNodes pq.sharpness1 selected.rows).map fun data => (rval, { pq with sharpness1 := data })
  else if sharpnessNumber = 0 then
    (loadNodes pq.sharpness0 selected.rows).map fun data => (rval, { pq with sharpness0 := data })
  else some (-1, pq)

def Placed (data : SharpnessData Step) : List (TvpqSharpnessReg Step) → Prop
  | [] => True
  | first :: rest => ∀ k (small : k < (first :: rest).length),
      data.regData (place (nodeLength first rest) k) = (first :: rest)[k]

-- A call of a loader, with what it finds in the arrays.
inductive Load (Step : Type)
  | vppBasic (dataType : TvpqDataType) (param : SourceInputParam) (pq : Curves Step)
  | gammaSpecial (gammaCurve : Nat) (fName : Bytes) (gammaValue : Nat → UInt16)
  | phaseArray (amPhase : AmPhase)
  | sharpness (tableName : Bytes) (sharpnessNumber : Int) (pq : SharpnessTables Step)

def Stays (db : PictureDb Step) : Load Step → Prop
  | .vppBasic dataType param pq => ∃ result, loadVppBasicParam db dataType param pq = some result
  | .gammaSpecial gammaCurve fName gammaValue => ∃ result, pqGetGammaSpecialTable db gammaCurve fName gammaValue = some result
  | .phaseArray amPhase => ∃ result, pqGetPhaseArray db amPhase = some result
  | .sharpness tableName sharpnessNumber pq =>
      ∃ result, loadSharpnessData db tableName sharpnessNumber pq = some result ∧
        (sharpnessNumber = 1 → Placed result.2.sharpness1 (db.sharpness tableName).rows) ∧
        (sharpnessNumber = 0 → Placed result.2.sharpness0 (db.sharpness tableName).rows)

def basicRows (db : PictureDb Step) (dataType : TvpqDataType) (param : SourceInputParam) : List (TvpqData Step) :=
  match generalTable dataType with
  | none => []
  | some table =>
      let name := basicName db.toCPQdb table param
      if name.length ≠ 0 then (db.basic name).rows else []

-- TotalNode of the first row is what the source divides by.
def SharpnessFits : List (TvpqSharpnessReg Step) → Prop
  | [] => True
  | first :: rest =>
      (1 ≤ first.totalNode ∧ first.totalNode ≤ 10 ∧ 1 ≤ nodeLength first rest ∧ nodeLength first rest ≤ 50 ∧
          ((first :: rest).length : Int) ≤ 10 * nodeLength first rest) ∨
        (first.totalNode = -1 ∧ (first :: rest).length ≤ 50)

def Fits (db : PictureDb Step) : Load Step → Prop
  | .vppBasic dataType param _ => (basicRows db dataType param).length ≤ 15
  | .gammaSpecial gammaCurve fName _ =>
      (db.gamma (if gammaCurve = vppGammaCurveDefault then .all else .curve gammaCurve) fName).rows.length ≤ 256
  | .phaseArray _ => db.phase.rows.length ≤ 20
  | .sharpness tableName sharpnessNumber _ =>
      sharpnessNumber = 0 ∨ sharpnessNumber = 1 → SharpnessFits (db.sharpness tableName).rows

theorem fill_below {Row : Type} (size : Nat) (rows : List Row) (array : Nat → Row) :
    (∃ filled, fill (below size) id rows 0 array = some filled) ↔ rows.length ≤ size := by
  rw [fill_some_iff]
  simp only [id, Nat.zero_add, below, decide_eq_true_eq]
  constructor
  · intro all
    by_contra excess
    exact absurd (all size (by omega)) (Nat.lt_irrefl size)
  · intro fits i small
    omega

theorem vpp_basic_stays (db : PictureDb Step) (dataType : TvpqDataType) (param : SourceInputParam) (pq : Curves Step) :
    (∃ result, loadVppBasicParam db dataType param pq = some result) ↔ (basicRows db dataType param).length ≤ 15 := by
  rw [loadVppBasicParam, basicRows]
  cases generalTable dataType with
  | none => simp
  | some table =>
      simp only
      by_cases named : (basicName db.toCPQdb table param).length ≠ 0
      · rw [if_pos named, if_pos named, ← fill_below 15 _ (pq.data dataType)]
        by_cases empty : (db.basic (basicName db.toCPQdb table param)).rows = []
        · simp [empty, fill]
        · simp [empty, Option.map_eq_some_iff]
      · simp [named]

theorem gamma_special_stays (db : PictureDb Step) (gammaCurve : Nat) (fName : Bytes) (gammaValue : Nat → UInt16) :
    (∃ result, pqGetGammaSpecialTable db gammaCurve fName gammaValue = some result) ↔
      (db.gamma (if gammaCurve = vppGammaCurveDefault then .all else .curve gammaCurve) fName).rows.length ≤ 256 := by
  rw [pqGetGammaSpecialTable]
  generalize db.gamma _ fName = selected
  rw [← List.length_map (f := UInt16.ofInt), ← fill_below 256 _ gammaValue]
  by_cases empty : selected.rows = []
  · simp [empty, fill]
  · simp [empty, Option.map_eq_some_iff]

theorem phase_array_stays (db : PictureDb Step) (amPhase : AmPhase) :
    (∃ result, pqGetPhaseArray db amPhase = some result) ↔ db.phase.rows.length ≤ 20 := by
  rw [pqGetPhaseArray, ← List.length_map (f := UInt32.ofInt), ← fill_below 20 _ amPhase.phase]
  simp [Option.map_eq_some_iff]

theorem place_apart (length : Int) (i j : Nat) (same : place length i = place length j) : i = j := by
  have node : (i : Int).tdiv length = (j : Int).tdiv length := congrArg Prod.fst same
  have slot : (i : Int).tmod length = (j : Int).tmod length := congrArg Prod.snd same
  have whole := Int.mul_tdiv_add_tmod (i : Int) length
  rw [node, slot, Int.mul_tdiv_add_tmod] at whole
  exact Int.ofNat.inj whole.symm

theorem in_reg_data (length k : Nat) :
    inRegData (place length k) = true ↔ k / length < 10 ∧ k % length < 50 := by
  rw [place, ← Int.ofNat_tdiv, ← Int.ofNat_tmod]
  generalize k / length = node, k % length = slot
  simp only [inRegData, decide_eq_true_eq]
  omega

theorem in_reg_data_neg (length k : Nat) :
    inRegData (place (-(length : Int)) k) = true ↔ k / length = 0 ∧ k % length < 50 := by
  rw [place, Int.tdiv_neg, Int.tmod_neg, ← Int.ofNat_tdiv, ← Int.ofNat_tmod]
  generalize k / length = node, k % length = slot
  simp only [inRegData, decide_eq_true_eq]
  omega

theorem inside_positive (count nodes : Nat) :
    ((count : Int).tdiv nodes ≠ 0 ∧ ∀ k < count, inRegData (place ((count : Int).tdiv nodes) k) = true) ↔
      1 ≤ (count : Int).tdiv nodes ∧ (count : Int).tdiv nodes ≤ 50 ∧ (count : Int) ≤ 10 * (count : Int).tdiv nodes := by
  have whole : count / nodes ≤ count := Nat.div_le_self count nodes
  rw [← Int.ofNat_tdiv]
  simp only [in_reg_data]
  generalize count / nodes = length at *
  by_cases zero : length = 0
  · subst zero
    simp
  · rw [blocks_inside count length 10 50 (Nat.pos_of_ne_zero zero) whole]
    omega

-- Of the negative numbers of nodes only -1 keeps the rows in node 0.
theorem inside_negative (count nodes : Nat) (some_row : 0 < count) :
    ((count : Int).tdiv (-nodes) ≠ 0 ∧ ∀ k < count, inRegData (place ((count : Int).tdiv (-nodes)) k) = true) ↔
      nodes = 1 ∧ count ≤ 50 := by
  rw [Int.tdiv_neg, ← Int.ofNat_tdiv]
  simp only [in_reg_data_neg]
  constructor
  · intro ⟨some_length, all⟩
    have pos : 0 < count / nodes := Nat.pos_of_ne_zero fun zero => some_length (by rw [zero]; rfl)
    obtain ⟨node, slot⟩ := all (count - 1) (Nat.sub_lt some_row Nat.one_pos)
    have below_length : count - 1 < count / nodes := ((Nat.div_eq_zero_iff).mp node).resolve_left (Nat.ne_of_gt pos)
    rw [Nat.mod_eq_of_lt below_length] at slot
    have one : nodes = 1 := by
      by_contra more
      have divisor : nodes ≠ 0 := fun zero => Nat.lt_irrefl 0 (by rwa [zero, Nat.div_zero] at pos)
      have less := Nat.div_lt_self some_row (show 1 < nodes by omega)
      omega
    exact ⟨one, by omega⟩
  · rintro ⟨rfl, narrow⟩
    rw [Nat.div_one]
    refine ⟨by omega, fun k small => ?_⟩
    rw [Nat.div_eq_of_lt small, Nat.mod_eq_of_lt small]
    exact ⟨rfl, by omega⟩

theorem load_nodes_some (data : SharpnessData Step) (first : TvpqSharpnessReg Step) (rest : List (TvpqSharpnessReg Step)) :
    (∃ next, loadNodes data (first :: rest) = some next) ↔
      first.totalNode ≠ 0 ∧ first.totalNode.toNat ≤ 10 ∧ nodeLength first rest ≠ 0 ∧
        ∀ k < (first :: rest).length, inRegData (place (nodeLength first rest) k) = true := by
  rw [loadNodes]
  by_cases zero : first.totalNode = 0
  · simp [zero]
  · rw [if_neg zero]
    have lengths := fill_below 10 (List.replicate first.totalNode.toNat (nodeLength first rest)) data.length
    have rows := fill_some_iff inRegData (place (nodeLength first rest)) (first :: rest) 0 data.regData
    rw [List.length_replicate] at lengths
    simp only [Nat.zero_add] at rows
    rw [← lengths, ← rows]
    constructor
    · rintro ⟨next, loaded⟩
      obtain ⟨filled, stored, later⟩ := Option.bind_eq_some_iff.mp loaded
      split at later
      · cases later
      · rename_i some_length
        obtain ⟨regData, placed, _⟩ := Option.map_eq_some_iff.mp later
        exact ⟨zero, ⟨filled, stored⟩, some_length, ⟨regData, placed⟩⟩
    · rintro ⟨_, ⟨filled, stored⟩, some_length, ⟨regData, placed⟩⟩
      refine ⟨⟨first.totalNode, filled, regData⟩, ?_⟩
      simp only [stored, Option.bind_some, if_neg some_length, placed, Option.map_some]

theorem load_nodes_placed (data next : SharpnessData Step) (rows : List (TvpqSharpnessReg Step))
    (loaded : loadNodes data rows = some next) : Placed next rows := by
  cases rows with
  | nil => trivial
  | cons first rest =>
      intro k small
      rw [loadNodes] at loaded
      split at loaded
      · cases loaded
      · obtain ⟨lengths, _, later⟩ := Option.bind_eq_some_iff.mp loaded
        split at later
        · cases later
        · obtain ⟨regData, placed, rfl⟩ := Option.map_eq_some_iff.mp later
          have found := fill_at inRegData (place (nodeLength first rest)) (first :: rest) 0 data.regData regData placed
            (fun i _ j _ same => Nat.add_left_cancel (place_apart _ _ _ same)) k small
          rwa [Nat.zero_add] at found

theorem load_nodes_fits (data : SharpnessData Step) (rows : List (TvpqSharpnessReg Step)) :
    (∃ next, loadNodes data rows = some next ∧ Placed next rows) ↔ SharpnessFits rows := by
  have placed : (∃ next, loadNodes data rows = some next ∧ Placed next rows) ↔ ∃ next, loadNodes data rows = some next :=
    ⟨fun ⟨next, loaded, _⟩ => ⟨next, loaded⟩, fun ⟨next, loaded⟩ => ⟨next, loaded, load_nodes_placed data next rows loaded⟩⟩
  rw [placed]
  cases rows with
  | nil => exact iff_of_true ⟨data, rfl⟩ trivial
  | cons first rest =>
      rw [load_nodes_some, SharpnessFits, nodeLength]
      rcases Int.lt_trichotomy first.totalNode 0 with negative | zero | positive
      · obtain ⟨nodes, same⟩ := Int.eq_ofNat_of_zero_le (show 0 ≤ -first.totalNode by omega)
        have total : first.totalNode = -(nodes : Int) := by omega
        have inside := inside_negative (first :: rest).length nodes (Nat.succ_pos _)
        rw [total, inside]
        omega
      · omega
      · obtain ⟨nodes, total⟩ := Int.eq_ofNat_of_zero_le (Int.le_of_lt positive)
        have inside := inside_positive (first :: rest).length nodes
        rw [total, inside, Int.toNat_natCast]
        omega

theorem sharpness_stays (db : PictureDb Step) (tableName : Bytes) (sharpnessNumber : Int) (pq : SharpnessTables Step) :
    Stays db (.sharpness tableName sharpnessNumber pq) ↔ Fits db (.sharpness tableName sharpnessNumber pq) := by
  rw [Stays, Fits]
  simp only [loadSharpnessData]
  generalize db.sharpness tableName = selected
  by_cases one : sharpnessNumber = 1
  · subst one
    rw [← load_nodes_fits pq.sharpness1]
    simp [Option.map_eq_some_iff]
  · by_cases zero : sharpnessNumber = 0
    · subst zero
      rw [← load_nodes_fits pq.sharpness0]
      simp [Option.map_eq_some_iff]
    · simp [one, zero]

theorem picture_table_loaders_stay (db : PictureDb Step) (load : Load Step) : Stays db load ↔ Fits db load := by
  cases load with
  | vppBasic dataType param pq => exact vpp_basic_stays db dataType param pq
  | gammaSpecial gammaCurve fName gammaValue => exact gamma_special_stays db gammaCurve fName gammaValue
  | phaseArray amPhase => exact phase_array_stays db amPhase
  | sharpness tableName sharpnessNumber pq => exact sharpness_stays db tableName sharpnessNumber pq

end

def zeroNodes : TvpqSharpnessReg Unit := ⟨0, ⟨0, 0x3200, 0xff, 0x10⟩, 0, 0, ()⟩

def zeroNodesDb : PictureDb Unit := ⟨.uniform [], fun _ => none, fun _ => some [zeroNodes], fun _ _ => none, none⟩

def unloaded : SharpnessData Unit := ⟨0, fun _ => 0, fun _ => zeroNodes⟩

theorem zero_nodes_divide :
    ¬Stays zeroNodesDb (.sharpness (ascii ['S', 'h', 'a', 'r', 'p', 'n', 'e', 's', 's']) 1 ⟨unloaded, unloaded⟩) := by
  rintro ⟨result, loaded, _⟩
  cases loaded

end Droidlogic.Pq.PictureTables
