import Droidlogic.Lib.Bytes
import Droidlogic.Lib.Run
import Mathlib.Data.List.Lex
import Mathlib.Data.Multiset.Dedup
import Mathlib.Data.Nat.Digits.Defs
import Mathlib.Data.Prod.Lex
import Mathlib.Logic.Function.Basic

set_option autoImplicit false

namespace Droidlogic.Keymaster

open Droidlogic.Lib

inductive TagType where
  | invalid | enum | enumRep | uint | uintRep | ulong | date | bool | bignum | bytes | ulongRep
deriving DecidableEq

-- The keymaster's types.hal is not in the repository: its enumerators' values and the values of all_tags_t's tags.
structure Hal where
  tagType : UInt32 → Option TagType
  invalid : UInt32
  all_tags_t : List UInt32

-- The union of a parameter's number, as the eight bytes it is in memory.
structure IntegerParams where
  memory : Bytes
  sized : memory.length = 8
deriving DecidableEq

def IntegerParams.member (f : IntegerParams) (width : Nat) : Nat := Nat.ofDigits 256 ((f.memory.take width).map UInt8.toNat)

def IntegerParams.integer (f : IntegerParams) : Nat := f.member 4

def IntegerParams.longInteger (f : IntegerParams) : Nat := f.member 8

def IntegerParams.dateTime (f : IntegerParams) : Nat := f.member 8

structure KeyParameter where
  tag : UInt32
  f : IntegerParams
  blob : Bytes
deriving DecidableEq

abbrev AuthorizationSet := List KeyParameter

def memcmp : Bytes → Bytes → Nat → Int
  | a :: as, b :: bs, size + 1 => if a = b then memcmp as bs size else (a.toNat : Int) - b.toNat
  | _, _, _ => 0

def blobLess (a b : Bytes) : Bool :=
  if a.length = 0 then b.length ≠ 0
  else if b.length = 0 then false
  else
    let retval := memcmp a b (min a.length b.length)
    if retval = 0 then a.length < b.length else retval < 0

def blobEqual (a b : Bytes) : Bool :=
  if a.length ≠ b.length then false else a.length = 0 || memcmp a b a.length = 0

section
variable (hal : Hal)

def typeFromTag (tag : UInt32) : Option TagType := hal.tagType (tag &&& 0xf0000000)

def keyParamLess (a b : KeyParameter) : Bool :=
  if a.tag ≠ b.tag then a.tag < b.tag
  else
    match typeFromTag hal a.tag with
    | some .invalid | some .bool => false
    | some .enum | some .enumRep | some .uint | some .uintRep => a.f.integer < b.f.integer
    | some .ulong | some .ulongRep => a.f.longInteger < b.f.longInteger
    | some .date => a.f.dateTime < b.f.dateTime
    | some .bignum | some .bytes => blobLess a.blob b.blob
    | none => false

def keyParamEqual (a b : KeyParameter) : Bool :=
  if a.tag ≠ b.tag then false
  else
    match typeFromTag hal a.tag with
    | some .invalid | some .bool => true
    | some .enum | some .enumRep | some .uint | some .uintRep => a.f.integer = b.f.integer
    | some .ulong | some .ulongRep => a.f.longInteger = b.f.longInteger
    | some .date => a.f.dateTime = b.f.dateTime
    | some .bignum | some .bytes => blobEqual a.blob b.blob
    | none => false

-- The loop of Deduplicate with prev before the entries that curr still walks over.
def deduplicateLoop (prev : KeyParameter) : List KeyParameter → AuthorizationSet
  | [] => [prev]
  | curr :: rest =>
      if prev.tag = hal.invalid then deduplicateLoop curr rest
      else if !keyParamEqual hal prev curr then prev :: deduplicateLoop curr rest
      else deduplicateLoop curr rest

-- find's index, none for its -1; start is 1 + begin.
def find (data : AuthorizationSet) (tag : UInt32) (start : Nat) : Option Nat :=
  ((data.drop start).findIdx? fun param => param.tag = tag).map (start + ·)

-- The inner loop of Subtract; every turn starts further on, so as many turns as there are entries are enough.
def eraseEqual (data : AuthorizationSet) (i : KeyParameter) : Nat → Nat → AuthorizationSet
  | 0, _ => data
  | turns + 1, start =>
      match find data i.tag start with
      | none => data
      | some pos =>
          if data[pos]?.any (keyParamEqual hal i) then data.eraseIdx pos else eraseEqual data i turns (pos + 1)

section
variable (sort : AuthorizationSet → AuthorizationSet)

def Deduplicate (data : AuthorizationSet) : AuthorizationSet :=
  match sort data with
  | [] => []
  | prev :: rest => deduplicateLoop hal prev rest

def Union (data other : AuthorizationSet) : AuthorizationSet := Deduplicate hal sort (data ++ other)

def Subtract (data other : AuthorizationSet) : AuthorizationSet :=
  other.foldl (fun left i => eraseEqual hal left i (left.length + 1) 0) (Deduplicate hal sort data)

end

-- The loop of GetTagCount, with as many turns as there are entries.
def countLoop (data : AuthorizationSet) (tag : UInt32) : Nat → Nat → Nat
  | 0, _ => 0
  | turns + 1, start =>
      match find data tag start with
      | none => 0
      | some pos => countLoop data tag turns (pos + 1) + 1

def GetTagCount (data : AuthorizationSet) (tag : UInt32) : Nat := countLoop data tag (data.length + 1) 0

def Contains (data : AuthorizationSet) (tag : UInt32) : Bool := (find data tag 0).isSome

def assignHidl (data other : AuthorizationSet) : AuthorizationSet := if 0 < other.length then other else data

end

end Droidlogic.Keymaster
