import Mathlib.Algebra.Ring.Nat
import Droidlogic.Lib.Bytes

set_option autoImplicit false

namespace Droidlogic.Lib

-- A 16-bit checksum that adds the bytes up.
def addBytes : UInt16 → Bytes → UInt16
  | sum, [] => sum
  | sum, byte :: rest => addBytes (sum + byte.toUInt16) rest

def byteSum : Bytes → Nat
  | [] => 0
  | byte :: rest => byte.toNat + byteSum rest

theorem add_bytes_sum (bytes : Bytes) (sum : UInt16) :
    (addBytes sum bytes).toNat = (sum.toNat + byteSum bytes) % 65536 := by
  induction bytes generalizing sum with
  | nil => exact (Nat.mod_eq_of_lt sum.toNat_lt).symm
  | cons byte rest ih =>
      rw [addBytes, ih, UInt16.toNat_add, UInt8.toNat_toUInt16, byteSum]
      omega

theorem byte_sum_append (first second : Bytes) : byteSum (first ++ second) = byteSum first + byteSum second := by
  induction first with
  | nil => simp [byteSum]
  | cons byte rest ih =>
      simp only [List.cons_append, byteSum, ih]
      omega

theorem one_byte_changes_sum (before after : Bytes) (old new : UInt8) (differ : old ≠ new) :
    addBytes 0 (before ++ old :: after) ≠ addBytes 0 (before ++ new :: after) := by
  intro same
  have sums := congrArg UInt16.toNat same
  simp only [add_bytes_sum, byte_sum_append, byteSum] at sums
  have oldByte := old.toNat_lt
  have newByte := new.toNat_lt
  exact differ (UInt8.toNat_inj.mp (by omega))

end Droidlogic.Lib
