import Mathlib.Data.List.TakeWhile
import Droidlogic.Lib.Bytes

set_option autoImplicit false

namespace Droidlogic.Lib

-- A C string: its bytes up to the terminating NUL, which they cannot contain.
structure CStr where
  bytes : Bytes
  noNul : 0 ∉ bytes
deriving DecidableEq

theorem CStr.ext_bytes (a b : CStr) (same : a.bytes = b.bytes) : a = b := by
  cases a
  cases b
  simpa using same

def CStr.empty : CStr := ⟨[], by simp⟩

def CStr.read (memory : Bytes) : CStr :=
  ⟨memory.takeWhile (· ≠ 0), fun member => by simpa using List.mem_takeWhile_imp member⟩

theorem CStr.read_bytes (text : Bytes) (noNul : 0 ∉ text) : (CStr.read text).bytes = text := by
  apply List.takeWhile_eq_self_iff.mpr
  intro byte member
  exact decide_eq_true fun zero => noNul (zero ▸ member)

def CStr.drop (text : CStr) (count : Nat) : CStr :=
  ⟨text.bytes.drop count, fun member => text.noNul (List.mem_of_mem_drop member)⟩

def CStr.append (front back : CStr) : CStr :=
  ⟨front.bytes ++ back.bytes, by simp [front.noNul, back.noNul]⟩

@[simp] theorem CStr.drop_bytes (text : CStr) (count : Nat) : (text.drop count).bytes = text.bytes.drop count := rfl

-- char name[capacity] holding a string with its terminator.
structure CharArray (capacity : Nat) where
  str : CStr
  fits : str.bytes.length < capacity
deriving DecidableEq

theorem CharArray.ext_bytes {capacity : Nat} (a b : CharArray capacity)
    (same : a.str.bytes = b.str.bytes) : a = b := by
  cases a
  cases b
  simpa using CStr.ext_bytes _ _ same

-- none is the copy that runs past the array.
def strcpy (capacity : Nat) (source : CStr) : Option (CharArray capacity) :=
  if fits : source.bytes.length < capacity then some ⟨source, fits⟩ else none

theorem strcpy_some (capacity : Nat) (source : CStr) (fits : source.bytes.length < capacity) :
    strcpy capacity source = some ⟨source, fits⟩ := by
  simp [strcpy, fits]

theorem strcpy_eq_some (capacity : Nat) (source : CStr) (copy : CharArray capacity)
    (copied : strcpy capacity source = some copy) : copy.str = source := by
  by_cases fits : source.bytes.length < capacity
  · rw [strcpy_some capacity source fits] at copied
    rw [← Option.some.inj copied]
  · simp [strcpy, fits] at copied

end Droidlogic.Lib
