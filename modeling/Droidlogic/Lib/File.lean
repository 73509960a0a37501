import Mathlib.Data.List.Basic
import Mathlib.Data.List.GetD
import Droidlogic.Lib.Bytes

set_option autoImplicit false

namespace Droidlogic.Lib

-- Bytes behind the end of a file read as the zeros a later write would leave there.
def byteAt (bytes : Bytes) (index : Nat) : UInt8 := bytes.getD index 0

def fetch (bytes : Bytes) (offset count : Nat) : Bytes := (List.range count).map fun i => byteAt bytes (offset + i)

def splice (bytes : Bytes) (offset : Nat) (source : Bytes) : Bytes :=
  bytes.take offset ++ List.replicate (offset - bytes.length) 0 ++ source ++ bytes.drop (offset + source.length)

@[simp] theorem fetch_length (bytes : Bytes) (offset count : Nat) : (fetch bytes offset count).length = count := by
  simp [fetch]

theorem byte_at_splice (bytes source : Bytes) (offset index : Nat) :
    byteAt (splice bytes offset source) index =
      if offset ≤ index ∧ index < offset + source.length then source.getD (index - offset) 0
      else byteAt bytes index := by
  have front : (bytes.take offset ++ List.replicate (offset - bytes.length) 0).length = offset := by
    simp only [List.length_append, List.length_take, List.length_replicate]
    omega
  simp only [byteAt, splice, List.getD_eq_getElem?_getD]
  rcases Nat.lt_or_ge index offset with before | behind
  · rw [if_neg (by omega), List.append_assoc, List.getElem?_append_left (by rw [front]; exact before)]
    rcases Nat.lt_or_ge index bytes.length with inside | past
    · rw [List.getElem?_append_left (by rw [List.length_take]; omega), List.getElem?_take_of_lt before]
    · rw [List.getElem?_append_right (by rw [List.length_take]; omega), List.getElem?_eq_none past]
      cases padding : (List.replicate (offset - bytes.length) (0 : UInt8))[index - (bytes.take offset).length]? with
      | none => rfl
      | some byte => exact (List.eq_of_mem_replicate (List.mem_of_getElem? padding))
  · rw [List.append_assoc, List.getElem?_append_right (by rw [front]; exact behind), front]
    rcases Nat.lt_or_ge (index - offset) source.length with inside | past
    · rw [List.getElem?_append_left inside, if_pos (by omega)]
    · rw [List.getElem?_append_right past, if_neg (by omega), List.getElem?_drop]
      congr 2
      omega

theorem splice_covers (bytes source : Bytes) (offset : Nat) :
    offset + source.length ≤ (splice bytes offset source).length := by
  simp only [splice, List.length_append, List.length_take, List.length_replicate]
  omega

theorem fetch_congr (first second : Bytes) (offset count : Nat)
    (same : ∀ i, i < count → byteAt first (offset + i) = byteAt second (offset + i)) :
    fetch first offset count = fetch second offset count :=
  List.map_congr_left fun i member => same i (List.mem_range.mp member)

theorem fetch_append (bytes : Bytes) (offset first second : Nat) :
    fetch bytes offset (first + second) = fetch bytes offset first ++ fetch bytes (offset + first) second := by
  simp only [fetch, List.range_add, List.map_append, List.map_map]
  congr 1
  exact List.map_congr_left fun i _ => congrArg (byteAt bytes) (Nat.add_assoc offset first i).symm

theorem fetch_at (bytes : Bytes) (offset before after : Nat) :
    fetch bytes offset (before + 1 + after) =
      fetch bytes offset before ++ byteAt bytes (offset + before) :: fetch bytes (offset + before + 1) after := by
  rw [fetch_append, fetch_append, List.append_assoc]
  rfl

theorem fetch_splice (bytes source : Bytes) (offset : Nat) :
    fetch (splice bytes offset source) offset source.length = source := by
  apply List.ext_getElem (fetch_length _ _ _)
  intro i _ inside
  simp only [fetch, List.getElem_map, List.getElem_range, byte_at_splice]
  rw [if_pos ⟨Nat.le_add_right _ _, Nat.add_lt_add_left inside _⟩, Nat.add_sub_cancel_left,
    List.getD_eq_getElem source 0 inside]

theorem fetch_covered (bytes : Bytes) (offset count : Nat) (covered : offset + count ≤ bytes.length) :
    (bytes.drop offset).take count = fetch bytes offset count := by
  apply List.ext_getElem
  · simp only [List.length_take, List.length_drop, fetch_length]
    omega
  · intro i inside _
    simp only [List.length_take, List.length_drop] at inside
    simp only [fetch, byteAt, List.getElem_take, List.getElem_drop, List.getElem_map, List.getElem_range]
    rw [List.getD_eq_getElem _ _ (by omega)]

-- What a read of count bytes leaves in a zeroed buffer, whatever the file holds.
theorem fetch_padded (bytes : Bytes) (offset count room : Nat) (fits : count ≤ room) :
    (bytes.drop offset).take count ++ (List.replicate room 0).drop ((bytes.drop offset).take count).length =
      fetch bytes offset count ++ List.replicate (room - count) 0 := by
  have got : ((bytes.drop offset).take count).length = min count (bytes.length - offset) := by simp
  apply List.ext_getElem
  · simp only [List.length_append, List.length_drop, List.length_replicate, fetch_length, got]
    omega
  · intro i _ inside
    simp only [List.length_append, List.length_replicate, fetch_length] at inside
    rcases Nat.lt_or_ge i count with wanted | padding
    · rcases Nat.lt_or_ge (offset + i) bytes.length with present | absent
      · have here : i < min count (bytes.length - offset) := by omega
        simp [here, wanted, fetch, byteAt, present]
      · have past : ¬ i < min count (bytes.length - offset) := by omega
        simp [List.getElem_append, past, wanted, fetch, byteAt, absent]
    · have past : ¬ i < min count (bytes.length - offset) := by omega
      simp [List.getElem_append, past, Nat.not_lt.mpr padding]

-- An open file: its bytes, the offset of the descriptor, and how many bytes the
-- writes to come take. A write beyond the end of that list takes all it is given.
structure File where
  bytes : Bytes
  pos : Nat
  shorts : List Nat
deriving DecidableEq

namespace File

-- SEEK_SET. A negative offset is refused and the descriptor stays where it is.
def lseek (file : File) (offset : Int) : File := if offset < 0 then file else { file with pos := offset.toNat }

def write (file : File) (source : Bytes) : File :=
  let kept := source.take (file.shorts.headD source.length)
  { bytes := if kept = [] then file.bytes else splice file.bytes file.pos kept
    pos := file.pos + kept.length
    shorts := file.shorts.tail }

def read (file : File) (count : Nat) : Bytes × File :=
  let got := (file.bytes.drop file.pos).take count
  (got, { file with pos := file.pos + got.length })

def ftruncate (file : File) (length : Nat) : File :=
  { file with bytes := file.bytes.take length ++ List.replicate (length - file.bytes.length) 0 }

@[simp] theorem lseek_bytes (file : File) (offset : Int) : (file.lseek offset).bytes = file.bytes := by
  unfold lseek
  split <;> rfl

theorem write_full (file : File) (source : Bytes) (full : file.shorts = []) (some : source ≠ []) :
    (file.write source).bytes = splice file.bytes file.pos source := by
  simp [write, full, some]

theorem write_shorts (file : File) (source : Bytes) (full : file.shorts = []) : (file.write source).shorts = [] := by
  simp [write, full]

-- The frame of a write, complete or not.
theorem write_frame (file : File) (source : Bytes) (index : Nat)
    (outside : ¬ (file.pos ≤ index ∧ index < file.pos + source.length)) :
    byteAt (file.write source).bytes index = byteAt file.bytes index := by
  simp only [write]
  by_cases none : source.take (file.shorts.headD source.length) = []
  · rw [if_pos none]
  · rw [if_neg none, byte_at_splice, if_neg]
    intro inside
    rw [List.length_take] at inside
    omega

theorem write_length (file : File) (source : Bytes) : file.bytes.length ≤ (file.write source).bytes.length := by
  simp only [write]
  split
  · exact Nat.le_refl _
  · simp only [splice, List.length_append, List.length_take, List.length_replicate, List.length_drop]
    omega

@[simp] theorem read_bytes (file : File) (count : Nat) : (file.read count).2.bytes = file.bytes := rfl

end File

end Droidlogic.Lib
