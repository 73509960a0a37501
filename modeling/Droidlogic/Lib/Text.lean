import Mathlib.Data.List.Infix
import Mathlib.Data.List.TakeWhile
import Droidlogic.Lib.Bytes

set_option autoImplicit false

namespace Droidlogic.Lib

section
variable {α : Type} [DecidableEq α]

-- Where needle begins in text for the first time.
def strstr (text needle : List α) : Option Nat :=
  match text with
  | [] => if needle = [] then some 0 else none
  | head :: rest => if needle.isPrefixOf (head :: rest) then some 0 else (strstr rest needle).map (· + 1)

def contains (text needle : List α) : Bool := (strstr text needle).isSome

theorem contains_iff (text needle : List α) : contains text needle = true ↔ needle <:+: text := by
  induction text with
  | nil =>
      by_cases empty : needle = []
      · simp [contains, strstr, empty]
      · simp [contains, strstr, empty]
  | cons head rest ih =>
      rw [List.infix_cons_iff, ← ih]
      by_cases here : needle.isPrefixOf (head :: rest) = true
      · have begins := List.isPrefixOf_iff_prefix.mp here
        simp [contains, strstr, here, begins]
      · have away : ¬needle <+: head :: rest := fun begins => here (List.isPrefixOf_iff_prefix.mpr begins)
        simp [contains, strstr, here, away]

-- A text that ends in what needle does not end in can be cut off.
theorem contains_append (text tail needle : List α) (last : α) (apart : last ∉ tail)
    (inside : contains (text ++ tail) (needle ++ [last]) = true) : contains text (needle ++ [last]) = true := by
  obtain ⟨before, after, whole⟩ := (contains_iff _ _).mp inside
  have split : (before ++ needle) ++ last :: after = text ++ tail := by
    rw [← whole]
    simp
  rcases List.append_eq_append_iff.mp split with ⟨middle, front, back⟩ | ⟨middle, front, back⟩
  · cases middle with
    | nil =>
        rw [List.nil_append] at back
        exact absurd (back ▸ .head _) apart
    | cons head rest =>
        rw [List.cons_append, List.cons.injEq] at back
        refine (contains_iff _ _).mpr ⟨before, rest, ?_⟩
        rw [front, ← back.1]
        simp
  · refine absurd ?_ apart
    rw [back]
    exact List.mem_append_right _ (.head _)

theorem contains_prefix (text needle : List α) (n : Nat) (inside : contains (text.take n) needle = true) :
    contains text needle = true :=
  (contains_iff _ _).mpr (((contains_iff _ _).mp inside).trans (List.take_prefix n text).isInfix)

theorem strstr_length (text needle : List α) (p : Nat) (found : strstr text needle = some p) :
    p + needle.length ≤ text.length := by
  induction text generalizing p with
  | nil =>
      rw [strstr] at found
      split at found
      · rename_i empty
        cases found
        rw [empty]
        exact Nat.le_refl _
      · cases found
  | cons head rest ih =>
      rw [strstr] at found
      split at found
      · rename_i begins
        cases found
        rw [Nat.zero_add]
        exact (List.isPrefixOf_iff_prefix.mp begins).length_le
      · obtain ⟨q, later, rfl⟩ := Option.map_eq_some_iff.mp found
        have bound := ih q later
        rw [List.length_cons]
        omega

-- A text that grows keeps its first occurrence.
theorem strstr_append (text tail needle : List α) (p : Nat) (found : strstr text needle = some p) :
    strstr (text ++ tail) needle = some p := by
  induction text generalizing p with
  | nil =>
      rw [strstr] at found
      split at found
      · rename_i empty
        rw [← found, empty]
        cases tail with
        | nil => rfl
        | cons head rest => rw [List.nil_append, strstr, if_pos (List.isPrefixOf_iff_prefix.mpr (List.nil_prefix))]
      · cases found
  | cons head rest ih =>
      rw [strstr] at found
      rw [List.cons_append, strstr]
      split at found
      · rename_i begins
        have longer : needle <+: head :: (rest ++ tail) :=
          (List.isPrefixOf_iff_prefix.mp begins).trans (List.prefix_append (head :: rest) tail)
        rw [if_pos (List.isPrefixOf_iff_prefix.mpr longer), found]
      · rename_i away
        obtain ⟨q, later, rfl⟩ := Option.map_eq_some_iff.mp found
        have bound := strstr_length rest needle q later
        have still : ¬needle.isPrefixOf (head :: (rest ++ tail)) = true := by
          intro begins
          refine away (List.isPrefixOf_iff_prefix.mpr ?_)
          refine List.prefix_of_prefix_length_le (List.isPrefixOf_iff_prefix.mp begins)
            (List.prefix_append (head :: rest) tail) ?_
          rw [List.length_cons]
          omega
        rw [if_neg still, ih q later]
        rfl

theorem strstr_first (text before after needle : List α) (p : Nat) (found : strstr text needle = some p)
    (whole : text = before ++ (needle ++ after)) : p ≤ before.length := by
  induction before generalizing text p with
  | nil =>
      subst whole
      rw [List.nil_append] at found
      cases needle with
      | nil =>
          cases after with
          | nil => exact Nat.le_of_eq (Option.some.inj found).symm
          | cons head rest =>
              rw [List.nil_append, strstr, if_pos (List.isPrefixOf_iff_prefix.mpr List.nil_prefix)] at found
              exact Nat.le_of_eq (Option.some.inj found).symm
      | cons head rest =>
          have begins : head :: rest <+: head :: (rest ++ after) := List.prefix_append (head :: rest) after
          rw [List.cons_append, strstr, if_pos (List.isPrefixOf_iff_prefix.mpr begins)] at found
          exact Nat.le_of_eq (Option.some.inj found).symm
  | cons head before ih =>
      subst whole
      rw [List.cons_append, strstr] at found
      split at found
      · rw [← Option.some.inj found]
        exact Nat.zero_le _
      · obtain ⟨q, later, rfl⟩ := Option.map_eq_some_iff.mp found
        exact Nat.succ_le_succ (ih _ q later rfl)

-- A text without a mark at its end.
def unmarked (mark : α) (text : List α) : List α := if text.getLast? = some mark then text.dropLast else text

theorem unmarked_begins (mark : α) (text : List α) : unmarked mark text <+: text := by
  rw [unmarked]
  split
  · exact List.dropLast_prefix text
  · exact List.prefix_refl text

end

section
variable {α : Type}

-- Pieces one after another, with a separator behind each.
def joined (separator : α) (pieces : List (List α)) : List α := pieces.flatMap (· ++ [separator])

theorem joined_drop_last (separator : α) (pieces : List (List α)) :
    (joined separator pieces).dropLast = [separator].intercalate pieces := by
  induction pieces with
  | nil => rfl
  | cons piece rest ih =>
      cases rest with
      | nil => simp [joined]
      | cons next rest =>
          have more : joined separator (next :: rest) ≠ [] := by simp [joined]
          have front : joined separator (piece :: next :: rest) = (piece ++ [separator]) ++ joined separator (next :: rest) := rfl
          rw [front, List.dropLast_append_of_ne_nil more, ih, List.intercalate_cons_cons]

theorem infix_split (separator : α) (needle before after : List α) (absent : separator ∉ needle) :
    needle <:+: before ++ separator :: after ↔ needle <:+: before ∨ needle <:+: after := by
  constructor
  · rintro ⟨front, back, whole⟩
    rcases List.append_eq_append_iff.mp whole with ⟨rest, inBefore, _⟩ | ⟨rest, head, tail⟩
    · exact Or.inl ⟨front, rest, inBefore.symm⟩
    · cases rest with
      | nil =>
          rw [List.append_nil] at head
          exact Or.inl ⟨front, [], by rw [List.append_nil]; exact head⟩
      | cons first rest =>
          rw [List.cons_append, List.cons.injEq] at tail
          obtain ⟨same, rest_eq⟩ := tail
          subst same
          rcases List.append_eq_append_iff.mp head with ⟨gap, _, inside⟩ | ⟨gap, _, inside⟩
          · rw [inside] at absent
            exact absurd (List.mem_append_right gap List.mem_cons_self) absent
          · cases gap with
            | nil =>
                rw [List.nil_append] at inside
                exact absurd (inside ▸ List.mem_cons_self) absent
            | cons other gap =>
                rw [List.cons_append, List.cons.injEq] at inside
                refine Or.inr ⟨gap, back, ?_⟩
                rw [rest_eq, inside.2]
  · rintro (inside | inside)
    · exact inside.trans (List.prefix_append before _).isInfix
    · exact inside.trans ⟨before ++ [separator], [], by simp⟩

theorem infix_joined (separator : α) (needle : List α) (pieces : List (List α)) (absent : separator ∉ needle)
    (nonempty : needle ≠ []) : needle <:+: joined separator pieces ↔ ∃ piece ∈ pieces, needle <:+: piece := by
  induction pieces with
  | nil => simp [joined, nonempty]
  | cons piece rest ih =>
      have front : joined separator (piece :: rest) = piece ++ separator :: joined separator rest := by simp [joined]
      rw [front, infix_split separator needle piece _ absent, ih, List.exists_mem_cons_iff]

end

def isSpace (byte : UInt8) : Bool := byte = 32 || (9 ≤ byte && byte ≤ 13)

def isDigit (byte : UInt8) : Bool := 48 ≤ byte && byte ≤ 57

def digitsValue (digits : Bytes) : Nat := digits.foldl (fun value digit => 10 * value + (digit.toNat - 48)) 0

-- The number at the front of a text, none where there is no digit.
def scanNumber (text : Bytes) : Option Int :=
  let text := text.dropWhile isSpace
  let negative := text.head? = some 45
  let text := if negative ∨ text.head? = some 43 then text.tail else text
  let digits := text.takeWhile isDigit
  if digits = [] then none else some (if negative then -digitsValue digits else digitsValue digits)

-- strtol stops at the bounds of a long, and an int keeps the low 32 bits.
def toInt (value : Int) : Int := Int.bmod (max (-9223372036854775808) (min 9223372036854775807 value)) 4294967296

def atoi (text : Bytes) : Int := toInt ((scanNumber text).getD 0)

-- What "%d" prints.
def decimal (value : Int) : Bytes :=
  if value < 0 then 45 :: ascii (Nat.toDigits 10 value.natAbs) else ascii (Nat.toDigits 10 value.natAbs)

theorem to_int_fits (value : Int) (low : -2147483648 ≤ value) (high : value ≤ 2147483647) : toInt value = value := by
  have clamped : max (-9223372036854775808) (min 9223372036854775807 value) = value := by omega
  rw [toInt, clamped, Int.bmod_def]
  omega

theorem to_int_bounds (value : Int) : -2147483648 ≤ toInt value ∧ toInt value ≤ 2147483647 := by
  rw [toInt, Int.bmod_def]
  omega

theorem digits_value_append (digits : Bytes) (digit : UInt8) :
    digitsValue (digits ++ [digit]) = 10 * digitsValue digits + (digit.toNat - 48) := by
  simp [digitsValue]

theorem digit_char (n : Nat) (small : n < 10) :
    isDigit (Nat.digitChar n).toNat.toUInt8 = true ∧ ((Nat.digitChar n).toNat.toUInt8).toNat - 48 = n := by
  have all : ∀ n < 10, isDigit (Nat.digitChar n).toNat.toUInt8 = true ∧
      ((Nat.digitChar n).toNat.toUInt8).toNat - 48 = n := by decide
  exact all n small

theorem decimal_digits (n : Nat) :
    (∀ digit ∈ ascii (Nat.toDigits 10 n), isDigit digit = true) ∧ digitsValue (ascii (Nat.toDigits 10 n)) = n ∧
      ascii (Nat.toDigits 10 n) ≠ [] := by
  induction n using Nat.strongRecOn with
  | ind n ih =>
      rw [Nat.toDigits_eq_if (by decide)]
      by_cases small : n < 10
      · obtain ⟨digit, value⟩ := digit_char n small
        rw [if_pos small]
        refine ⟨by simpa [ascii] using digit, ?_, by simp [ascii]⟩
        simpa [ascii, digitsValue] using value
      · obtain ⟨digits, value, _⟩ := ih (n / 10) (by omega)
        obtain ⟨digit, last⟩ := digit_char (n % 10) (Nat.mod_lt n (by decide))
        rw [if_neg small]
        have split : ascii (Nat.toDigits 10 (n / 10) ++ [Nat.digitChar (n % 10)]) =
            ascii (Nat.toDigits 10 (n / 10)) ++ [(Nat.digitChar (n % 10)).toNat.toUInt8] := by
          simp [ascii]
        rw [split, digits_value_append, value, last]
        refine ⟨?_, by omega, by simp⟩
        intro byte member
        rcases List.mem_append.mp member with front | back
        · exact digits byte front
        · rw [List.mem_singleton.mp back]
          exact digit

theorem decimal_bytes (value : Int) (byte : UInt8) (inside : byte ∈ decimal value) : isDigit byte = true ∨ byte = 45 := by
  have digits := (decimal_digits value.natAbs).1
  rw [decimal] at inside
  split at inside
  · exact (List.mem_cons.mp inside).symm.imp_left (digits byte)
  · exact .inl (digits byte inside)

theorem digit_not_space (byte : UInt8) (digit : isDigit byte = true) :
    isSpace byte = false ∧ byte ≠ 45 ∧ byte ≠ 43 := by
  simp only [isDigit, Bool.and_eq_true, decide_eq_true_eq] at digit
  obtain ⟨low, high⟩ := digit
  have low : 48 ≤ byte.toNat := low
  refine ⟨?_, ?_, ?_⟩
  · have far : ¬byte ≤ 13 := fun small => absurd (show byte.toNat ≤ 13 from small) (by omega)
    have other : byte ≠ 32 := fun same => absurd (congrArg UInt8.toNat same) (by simp; omega)
    simp [isSpace, far, other]
  · exact fun same => absurd (congrArg UInt8.toNat same) (by simp; omega)
  · exact fun same => absurd (congrArg UInt8.toNat same) (by simp; omega)

theorem scan_digits (digits : Bytes) (all : ∀ digit ∈ digits, isDigit digit = true) (nonempty : digits ≠ []) :
    scanNumber digits = some (digitsValue digits) := by
  cases digits with
  | nil => exact absurd rfl nonempty
  | cons head rest =>
      obtain ⟨space, minus, plus⟩ := digit_not_space head (all head (.head _))
      have whole : (head :: rest).takeWhile isDigit = head :: rest := List.takeWhile_eq_self_iff.mpr all
      simp [scanNumber, space, minus, plus, whole]

theorem scan_decimal (value : Int) : scanNumber (decimal value) = some value := by
  obtain ⟨digits, number, nonempty⟩ := decimal_digits value.natAbs
  by_cases negative : value < 0
  · have whole : (ascii (Nat.toDigits 10 value.natAbs)).takeWhile isDigit = ascii (Nat.toDigits 10 value.natAbs) :=
      List.takeWhile_eq_self_iff.mpr digits
    have minus : isSpace 45 = false := by decide
    have magnitude : -(value.natAbs : Int) = value := by omega
    simp only [decimal, if_pos negative, scanNumber, List.dropWhile_cons, minus]
    simpa [whole, nonempty, number] using magnitude
  · simp only [decimal, if_neg negative]
    rw [scan_digits _ digits nonempty, number]
    refine congrArg some ?_
    omega

theorem atoi_decimal (value : Int) (low : -2147483648 ≤ value) (high : value ≤ 2147483647) :
    atoi (decimal value) = value := by
  rw [atoi, scan_decimal, Option.getD_some, to_int_fits value low high]

end Droidlogic.Lib
