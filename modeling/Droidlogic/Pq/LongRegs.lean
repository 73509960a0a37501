import Droidlogic.Lib.Fill
import Droidlogic.Pq.Database

set_option autoImplicit false

namespace Droidlogic.Pq

open Lib

structure AmRegs where
  length : Nat
  amReg : Nat → AmReg

def AmRegs.zero : AmRegs := ⟨0, fun _ => ⟨0, 0, 0, 0⟩⟩

def AmRegs.list (regs : AmRegs) : List AmReg := entries regs.amReg regs.length

end Droidlogic.Pq

namespace Droidlogic.Pq.LongRegs

open Lib

-- regs and regs_1.
abbrev Halves := AmRegs × AmRegs

def longKey (name fName f2Name : Bytes) (val val2 : Int) : RegKey :=
  if f2Name.length = 0 ∧ val2 = 0 then ⟨name, [(fName, val)]⟩ else ⟨name, [(fName, val), (f2Name, val2)]⟩

def storeRow (indexAmReg : Nat) (row : AmReg) (out : Halves) : Halves :=
  if indexAmReg < 512 then ({ out.1 with amReg := Function.update out.1.amReg indexAmReg row }, out.2)
  else if 512 ≤ indexAmReg ∧ indexAmReg < 1024 then
    (out.1, { out.2 with amReg := Function.update out.2.amReg (indexAmReg - 512) row })
  else out

def storeRows : List AmReg → Nat → Halves → Halves
  | [], _, out => out
  | row :: rest, indexAmReg, out => storeRows rest (indexAmReg + 1) (storeRow indexAmReg row out)

def setLengths (indexAmReg : Nat) (out : Halves) : Halves :=
  if indexAmReg < 512 then ({ out.1 with length := indexAmReg }, out.2)
  else if 512 ≤ indexAmReg ∧ indexAmReg < 1024 then
    ({ out.1 with length := 512 }, { out.2 with length := indexAmReg - 512 })
  else out

def noLengths (out : Halves) : Halves := ({ out.1 with length := 0 }, { out.2 with length := 0 })

def getRegValuesByValueLong (db : CPQdb) (name fName f2Name : Bytes) (val val2 : Int) (out : Halves) : Int × Halves :=
  let selected := db.registers (longKey name fName f2Name val val2)
  let count := selected.rows.length
  if 1024 < count then (-1, noLengths out)
  else if selected.rows = [] then (-1, noLengths out)
  else (selected.ret, setLengths count (storeRows selected.rows 0 out))

structure Complete (rows : List AmReg) (result : Int × Halves) : Prop where
  success : result.1 = 0 ↔ 1 ≤ rows.length ∧ rows.length ≤ 1024
  whole : 1 ≤ rows.length ∧ rows.length ≤ 1024 → result.2.1.list ++ result.2.2.list = rows
  otherwise : ¬(1 ≤ rows.length ∧ rows.length ≤ 1024) → result.2.1.length = 0 ∧ result.2.2.length = 0

-- The two arrays as one of 1024 entries.
def joined (out : Halves) (i : Nat) : AmReg := if i < 512 then out.1.amReg i else out.2.amReg (i - 512)

theorem store_row_joined (k : Nat) (row : AmReg) (out : Halves) (small : k < 1024) :
    joined (storeRow k row out) = Function.update (joined out) k row := by
  funext i
  by_cases low : k < 512
  · rw [storeRow, if_pos low]
    by_cases same : i = k
    · subst same
      simp [joined, low]
    · simp [joined, same]
  · rw [storeRow, if_neg low, if_pos ⟨Nat.le_of_not_lt low, small⟩]
    by_cases same : i = k
    · subst same
      simp [joined, low]
    · by_cases other : i < 512
      · simp [joined, same, other]
      · have apart : i - 512 ≠ k - 512 := by omega
        simp [joined, same, other, apart]

theorem store_rows_joined (rows : List AmReg) (k : Nat) (out : Halves) (fits : k + rows.length ≤ 1024) :
    fill (fun _ => true) id rows k (joined out) = some (joined (storeRows rows k out)) := by
  induction rows generalizing k out with
  | nil => rfl
  | cons row rest ih =>
      rw [List.length_cons] at fits
      rw [fill, if_pos rfl, storeRows, ← ih (k + 1) (storeRow k row out) (by omega), store_row_joined k row out (by omega)]
      rfl

theorem store_rows_lengths (rows : List AmReg) (k : Nat) (out : Halves) :
    (storeRows rows k out).1.length = out.1.length ∧ (storeRows rows k out).2.length = out.2.length := by
  induction rows generalizing k out with
  | nil => exact ⟨rfl, rfl⟩
  | cons row rest ih =>
      have kept : (storeRow k row out).1.length = out.1.length ∧ (storeRow k row out).2.length = out.2.length := by
        rw [storeRow]
        split
        · exact ⟨rfl, rfl⟩
        · split <;> exact ⟨rfl, rfl⟩
      obtain ⟨first, second⟩ := ih (k + 1) (storeRow k row out)
      exact ⟨first.trans kept.1, second.trans kept.2⟩

theorem entries_joined (out : Halves) (count : Nat) :
    entries (joined out) count = entries out.1.amReg (min count 512) ++ entries out.2.amReg (count - 512) := by
  apply List.ext_getElem
  · simp only [entries_length, List.length_append]
    omega
  · intro i small _
    rw [entries_length] at small
    simp only [entries, List.getElem_map, List.getElem_range, List.getElem_append, List.length_map, List.length_range, joined]
    by_cases low : i < 512
    · rw [if_pos low, dif_pos (by omega)]
    · have first : min count 512 = 512 := by omega
      rw [if_neg low, dif_neg (by omega), first]

theorem set_lengths_list (rows : List AmReg) (out : Halves) (fits : rows.length < 1024) (empty : out.2.length = 0) :
    (setLengths rows.length (storeRows rows 0 out)).1.list ++ (setLengths rows.length (storeRows rows 0 out)).2.list = rows := by
  have stored := fill_entries _ rows 0 _ _ (store_rows_joined rows 0 out (by omega))
  rw [Nat.zero_add, entries_joined] at stored
  rw [setLengths]
  by_cases low : rows.length < 512
  · rw [if_pos low]
    rw [Nat.min_eq_left (Nat.le_of_lt low), Nat.sub_eq_zero_of_le (Nat.le_of_lt low)] at stored
    simpa [AmRegs.list, (store_rows_lengths rows 0 out).2, empty] using stored
  · rw [if_neg low, if_pos ⟨Nat.le_of_not_lt low, fits⟩]
    rw [Nat.min_eq_right (Nat.le_of_not_lt low)] at stored
    exact stored

section
variable (db : CPQdb) (name fName f2Name : Bytes) (val val2 : Int)

theorem long_load_none (out : Halves) (none : (db.registers (longKey name fName f2Name val val2)).rows.length = 0 ∨
    1024 < (db.registers (longKey name fName f2Name val val2)).rows.length) :
    getRegValuesByValueLong db name fName f2Name val val2 out = (-1, noLengths out) := by
  simp only [getRegValuesByValueLong]
  rcases none with none | excess
  · rw [if_neg (by omega), if_pos (List.eq_nil_of_length_eq_zero none)]
  · rw [if_pos excess]

theorem long_load_some (out : Halves) (rows : List AmReg)
    (found : (db.registers (longKey name fName f2Name val val2)).rows = rows) (there : rows ≠ []) (fits : rows.length ≤ 1024) :
    getRegValuesByValueLong db name fName f2Name val val2 out = (0, setLengths rows.length (storeRows rows 0 out)) := by
  have there' : (db.registers (longKey name fName f2Name val val2)).rows ≠ [] := by rwa [found]
  simp only [getRegValuesByValueLong]
  rw [found, if_neg (Nat.not_lt.mpr fits), if_neg there, selected_ret_rows _ there']

-- 1024 rows are stored, and their number is in no branch.
theorem long_load_full (rows : List AmReg) (found : (db.registers (longKey name fName f2Name val val2)).rows = rows)
    (full : rows.length = 1024) : ¬Complete rows (getRegValuesByValueLong db name fName f2Name val val2 (.zero, .zero)) := by
  intro complete
  have there : rows ≠ [] := List.ne_nil_of_length_eq_add_one full
  have whole := complete.whole ⟨by omega, by omega⟩
  rw [long_load_some db name fName f2Name val val2 _ rows found there (by omega), full] at whole
  have lengths := store_rows_lengths rows 0 (.zero, .zero)
  have lost : (storeRows rows 0 (.zero, .zero)).1.list ++ (storeRows rows 0 (.zero, .zero)).2.list = [] := by
    rw [AmRegs.list, AmRegs.list, lengths.1, lengths.2]
    rfl
  exact there (whole.symm.trans lost)

theorem get_reg_values_by_value_long_complete :
    Complete (db.registers (longKey name fName f2Name val val2)).rows
        (getRegValuesByValueLong db name fName f2Name val val2 (.zero, .zero)) ↔
      (db.registers (longKey name fName f2Name val val2)).rows.length ≠ 1024 := by
  generalize found : (db.registers (longKey name fName f2Name val val2)).rows = rows
  constructor
  · intro complete full
    exact long_load_full db name fName f2Name val val2 rows found full complete
  · intro other
    by_cases none : rows.length = 0 ∨ 1024 < rows.length
    · rw [long_load_none db name fName f2Name val val2 _ (by rwa [found])]
      have outside : ¬(1 ≤ rows.length ∧ rows.length ≤ 1024) := by omega
      exact ⟨iff_of_false (by decide) outside, fun counted => absurd counted outside, fun _ => ⟨rfl, rfl⟩⟩
    · have there : rows ≠ [] := fun empty => none (.inl (congrArg List.length empty))
      have fits : rows.length < 1024 := by omega
      rw [long_load_some db name fName f2Name val val2 _ rows found there (Nat.le_of_lt fits)]
      have counted : 1 ≤ rows.length ∧ rows.length ≤ 1024 := by omega
      exact ⟨iff_of_true rfl counted, fun _ => set_lengths_list rows _ fits rfl, fun outside => absurd counted outside⟩

end

def fullTable : List AmReg := List.replicate 1024 ⟨0, 0x1d00, 0xff, 0x40⟩

theorem full_table_lost :
    ¬Complete ((CPQdb.uniform fullTable).registers (longKey (ascii ['X', 'v', 'y', 'c', 'c']) (ascii ['L', 'e', 'v', 'e', 'l']) [] 1 0)).rows
      (getRegValuesByValueLong (.uniform fullTable) (ascii ['X', 'v', 'y', 'c', 'c']) (ascii ['L', 'e', 'v', 'e', 'l']) [] 1 0
        (.zero, .zero)) :=
  long_load_full _ _ _ _ _ _ fullTable rfl List.length_replicate

end Droidlogic.Pq.LongRegs
