import Droidlogic.Lib.Bytes
import Droidlogic.Lib.BlockHash
import Mathlib.Algebra.Ring.Nat

set_option autoImplicit false

namespace Droidlogic.Lib.Sha1

def rotl (word bits : UInt32) : UInt32 := (word <<< bits) ||| (word >>> (32 - bits))

structure Hash where
  a : UInt32
  b : UInt32
  c : UInt32
  d : UInt32
  e : UInt32
deriving DecidableEq

def initial : Hash := ⟨0x67452301, 0xEFCDAB89, 0x98BADCFE, 0x10325476, 0xC3D2E1F0⟩

def choose (x y z : UInt32) : UInt32 := (x &&& y) ^^^ (~~~x &&& z)

def parity (x y z : UInt32) : UInt32 := x ^^^ y ^^^ z

def majority (x y z : UInt32) : UInt32 := (x &&& y) ^^^ (x &&& z) ^^^ (y &&& z)

def mixer (t : Nat) : UInt32 → UInt32 → UInt32 → UInt32 :=
  if t < 20 then choose else if t < 40 then parity else if t < 60 then majority else parity

def constant (t : Nat) : UInt32 :=
  if t < 20 then 0x5A827999 else if t < 40 then 0x6ED9EBA1 else if t < 60 then 0x8F1BBCDC else 0xCA62C1D6

-- The word of round t: one of the block, or made of those 3, 8, 14 and 16 rounds before.
def schedule (block : Nat → UInt32) (t : Nat) : UInt32 :=
  if t < 16 then block t
  else
    rotl (schedule block (t - 3) ^^^ schedule block (t - 8) ^^^ schedule block (t - 14) ^^^ schedule block (t - 16)) 1
termination_by t

def oneRound (word : Nat → UInt32) (t : Nat) (h : Hash) : Hash :=
  ⟨rotl h.a 5 + mixer t h.b h.c h.d + h.e + constant t + word t, h.a, rotl h.b 30, h.c, h.d⟩

def rounds (word : Nat → UInt32) : Nat → Hash → Hash
  | 0, h => h
  | count + 1, h => oneRound word count (rounds word count h)

def Hash.add (first second : Hash) : Hash :=
  ⟨first.a + second.a, first.b + second.b, first.c + second.c, first.d + second.d, first.e + second.e⟩

def wordBe (memory : Bytes) : UInt32 :=
  (memory.getD 0 0).toUInt32 <<< 24 ||| (memory.getD 1 0).toUInt32 <<< 16 ||| (memory.getD 2 0).toUInt32 <<< 8 |||
    (memory.getD 3 0).toUInt32

def compress (h : Hash) (block : Bytes) : Hash :=
  h.add (rounds (schedule fun t => wordBe (block.drop (4 * t))) 80 h)

def be64 (value : Nat) : Bytes := be32 (.ofNat (value / 2 ^ 32)) ++ be32 (.ofNat value)

-- A one bit, zeros up to eight bytes before the end of a block, and the length in bits.
def padding (length : Nat) : Bytes := 0x80 :: List.replicate ((119 - length % 64) % 64) 0 ++ be64 (8 * length)

def encode (h : Hash) : Bytes := be32 h.a ++ be32 h.b ++ be32 h.c ++ be32 h.d ++ be32 h.e

def hash (message : Bytes) : Bytes := encode (hashBlocks 64 compress initial (message ++ padding message.length))

theorem encode_length (h : Hash) : (encode h).length = 20 := rfl

end Droidlogic.Lib.Sha1
