import Droidlogic.Lib.Counted
import Droidlogic.Lib.Text

set_option autoImplicit false

namespace Droidlogic.Service.Earc

open Lib

def audioCodecLpcm : UInt8 := 1

-- AUDIO_CODEC_DD, AUDIO_CODEC_DTS, AUDIO_CODEC_DDP and AUDIO_CODEC_DTSHD
def supportCodecs : List UInt8 := [2, 7, 10, 11]

structure Descriptor where
  first : UInt8
  second : UInt8
  third : UInt8
deriving DecidableEq

def Descriptor.codec (descriptor : Descriptor) : UInt8 := (descriptor.first &&& 0x78) >>> 3

-- format, support, channel, sample rate, bit rate
structure FormatBuffer where
  format : UInt8
  support : UInt8
  channel : UInt8
  sampleRate : UInt8
  bitRate : UInt8
deriving DecidableEq

def supported (descriptor : Descriptor) (codec : UInt8) : FormatBuffer :=
  ⟨codec, 1, descriptor.first &&& 0x7, descriptor.second &&& 0x7f, descriptor.third &&& 0xff⟩

def unsupported (codec : UInt8) : FormatBuffer := ⟨codec, 0, 0, 0, 0⟩

-- The length as the byte it is cast to.
def edidLength (mDescriptor : Bytes) : Int := (mDescriptor.length : Int).bmod 256

-- for (int i = 0; i + 2 < edidLength; i += SINGAL_SAD_LEN), with the bytes from i on. The
-- length as a byte is never more than the length.
def findDescriptor (codec : UInt8) (length : Int) (i : Nat) : Bytes → Option Descriptor
  | first :: second :: third :: rest =>
      if (i : Int) + 2 < length then
        if codec = Descriptor.codec ⟨first, second, third⟩ then some ⟨first, second, third⟩
        else findDescriptor codec length (i + 3) rest
      else none
  | _ => none

def formatOf (mDescriptor : Bytes) (codec : UInt8) : FormatBuffer :=
  let initial : FormatBuffer :=
    if codec = audioCodecLpcm ∧ edidLength mDescriptor = 0 then ⟨codec, 1, 1, 6, 1⟩ else unsupported codec
  match findDescriptor codec (edidLength mDescriptor) 0 mDescriptor with
  | some descriptor => supported descriptor codec
  | none => initial

-- The records that are sent. A null descriptor counts as an empty one.
def setAudioFormat (mDescriptor : Option Bytes) : List FormatBuffer := supportCodecs.map (formatOf (mDescriptor.getD []))

section
variable {Letter : Type} (blank : Letter)

-- none is an index outside of the string.
def substring (str : List Letter) (start finish : Nat) : Option (List Letter) :=
  if start ≤ finish ∧ finish ≤ str.length then some ((str.take finish).drop start) else none

def addBlankInMiddle (str : List Letter) : Option (List Letter) :=
  let strLenth := str.length
  let blankCount := if strLenth ≤ 2 then 0 else if strLenth % 2 > 0 then strLenth / 2 else strLenth / 2 - 1
  counted (fun i str => do
    let front ← substring str 0 ((i + 1) * 2 + i)
    let back ← substring str ((i + 1) * 2 + i) (strLenth + i)
    some (front ++ [blank] ++ back)) blankCount str

def pair (str : List Letter) (k : Nat) : List Letter := (str.drop (2 * k)).take 2

def pairs (str : List Letter) : List (List Letter) := (List.range (str.length / 2)).map (pair str)

end

def descriptors : Bytes → List Descriptor
  | first :: second :: third :: rest => ⟨first, second, third⟩ :: descriptors rest
  | _ => []

def described (bytes : Bytes) (codec : UInt8) : FormatBuffer :=
  match (descriptors bytes).find? (·.codec = codec) with
  | some descriptor => supported descriptor codec
  | none => unsupported codec

-- The descriptors that a length of one byte lets through.
def inspected (bytes : Bytes) : List Descriptor := (descriptors bytes).take (edidLength bytes / 3).toNat

def Seen (bytes : Bytes) : Prop :=
  ∀ codec ∈ supportCodecs, (∃ descriptor ∈ descriptors bytes, descriptor.codec = codec) →
    ∃ descriptor ∈ inspected bytes, descriptor.codec = codec

theorem find_descriptor_eq (codec : UInt8) (length : Int) (i : Nat) (bytes : Bytes) :
    findDescriptor codec length i bytes =
      ((descriptors bytes).take ((length - i) / 3).toNat).find? (·.codec = codec) := by
  induction bytes using descriptors.induct generalizing i with
  | case1 first second third rest ih =>
      rw [findDescriptor, descriptors]
      by_cases inside : (i : Int) + 2 < length
      · obtain ⟨m, more⟩ : ∃ m, ((length - i) / 3).toNat = m + 1 := ⟨((length - i) / 3).toNat - 1, by omega⟩
        have later : ((length - (i + 3 : Nat)) / 3).toNat = m := by omega
        rw [if_pos inside, more, List.take_succ_cons, List.find?_cons, ih, later]
        by_cases same : codec = Descriptor.codec ⟨first, second, third⟩
        · rw [if_pos same, decide_eq_true same.symm]
        · rw [if_neg same, decide_eq_false (Ne.symm same)]
      · have none : ((length - i) / 3).toNat = 0 := by omega
        rw [if_neg inside, none]
        rfl
  | case2 bytes short =>
      rw [findDescriptor, descriptors, List.take_nil]
      · rfl
      · exact short
      · exact short

theorem find_take_iff {Item : Type} (items : List Item) (test : Item → Bool) (n : Nat) :
    (items.take n).find? test = items.find? test ↔
      ((∃ item ∈ items, test item = true) → ∃ item ∈ items.take n, test item = true) := by
  have whole : items.find? test = ((items.take n).find? test).or ((items.drop n).find? test) := by
    rw [← List.find?_append, List.take_append_drop]
  cases front : (items.take n).find? test with
  | some item =>
      rw [whole, front]
      refine iff_of_true rfl fun _ => ⟨item, List.mem_of_find?_eq_some front, List.find?_some front⟩
  | none =>
      constructor
      · rintro same ⟨item, member, holds⟩
        exact absurd holds (List.find?_eq_none.mp same.symm item member)
      · intro early
        refine (List.find?_eq_none.mpr fun item member holds => ?_).symm
        obtain ⟨other, inside, also⟩ := early ⟨item, member, holds⟩
        exact List.find?_eq_none.mp front other inside also

theorem format_of_eq (bytes : Bytes) (codec : UInt8) (member : codec ∈ supportCodecs) :
    formatOf bytes codec =
      match (inspected bytes).find? (·.codec = codec) with
      | some descriptor => supported descriptor codec
      | none => unsupported codec := by
  have other : ¬(codec = audioCodecLpcm ∧ edidLength bytes = 0) := by
    rintro ⟨rfl, _⟩
    exact absurd member (by decide)
  rw [formatOf, find_descriptor_eq, Int.natCast_zero, Int.sub_zero, ← inspected]
  simp only [if_neg other]

theorem format_iff (bytes : Bytes) (codec : UInt8) (member : codec ∈ supportCodecs) :
    formatOf bytes codec = described bytes codec ↔
      ((∃ descriptor ∈ descriptors bytes, descriptor.codec = codec) →
        ∃ descriptor ∈ inspected bytes, descriptor.codec = codec) := by
  have found := find_take_iff (descriptors bytes) (·.codec = codec) (edidLength bytes / 3).toNat
  simp only [decide_eq_true_eq] at found
  rw [format_of_eq bytes codec member, described, inspected, ← found]
  constructor
  · intro same
    have whole : (descriptors bytes).find? (·.codec = codec) =
        (((descriptors bytes).take (edidLength bytes / 3).toNat).find? (·.codec = codec)).or
          (((descriptors bytes).drop (edidLength bytes / 3).toNat).find? (·.codec = codec)) := by
      rw [← List.find?_append, List.take_append_drop]
    cases front : ((descriptors bytes).take (edidLength bytes / 3).toNat).find? (·.codec = codec) with
    | some descriptor =>
        rw [whole, front]
        rfl
    | none =>
        rw [front] at same
        cases all : (descriptors bytes).find? (·.codec = codec) with
        | none => rfl
        | some descriptor =>
            rw [all] at same
            have support := congrArg FormatBuffer.support same
            exact absurd support (by decide : (0 : UInt8) ≠ 1)
  · intro same
    rw [same]

section
variable {Letter : Type} (blank : Letter) (str : List Letter)

theorem pair_length (k : Nat) (inside : 2 * k + 2 ≤ str.length) : (pair str k).length = 2 := by
  rw [pair, List.length_take, List.length_drop]
  omega

-- The text after n blanks.
def spaced (n : Nat) : List Letter := joined blank ((List.range n).map (pair str)) ++ str.drop (2 * n)

theorem joined_pairs_succ (n : Nat) :
    joined blank ((List.range (n + 1)).map (pair str)) =
      joined blank ((List.range n).map (pair str)) ++ (pair str n ++ [blank]) := by
  rw [List.range_succ, List.map_append, joined, List.flatMap_append]
  simp [joined]

theorem joined_pairs_length (n : Nat) (inside : 2 * n ≤ str.length) :
    (joined blank ((List.range n).map (pair str))).length = 3 * n := by
  induction n with
  | zero => rfl
  | succ n ih =>
      rw [joined_pairs_succ, List.length_append, List.length_append, ih (by omega), pair_length str n (by omega)]
      rfl

theorem space_step (n : Nat) (inside : 2 * n + 2 ≤ str.length) :
    (do
      let front ← substring (spaced blank str n) 0 ((n + 1) * 2 + n)
      let back ← substring (spaced blank str n) ((n + 1) * 2 + n) (str.length + n)
      some (front ++ [blank] ++ back)) = some (spaced blank str (n + 1)) := by
  have front := joined_pairs_length blank str n (by omega)
  have length : (spaced blank str n).length = str.length + n := by
    rw [spaced, List.length_append, front, List.length_drop]
    omega
  have place : (n + 1) * 2 + n = (joined blank ((List.range n).map (pair str))).length + 2 := by omega
  have behind : 2 * n + 2 = 2 * (n + 1) := by omega
  rw [substring, if_pos ⟨Nat.zero_le _, by omega⟩, substring, if_pos ⟨by omega, by omega⟩, ← length, List.take_length, place]
  simp only [Option.bind_eq_bind, Option.bind_some, List.drop_zero]
  rw [spaced, List.take_length_add_append, List.drop_length_add_append, List.drop_drop, behind, spaced, joined_pairs_succ, pair]
  simp only [List.append_assoc]

theorem spaced_steps (n : Nat) (inside : 2 * n ≤ str.length) :
    counted (fun i text => do
      let front ← substring text 0 ((i + 1) * 2 + i)
      let back ← substring text ((i + 1) * 2 + i) (str.length + i)
      some (front ++ [blank] ++ back)) n str = some (spaced blank str n) := by
  induction n with
  | zero => rfl
  | succ n ih =>
      rw [counted, ih (by omega), Option.bind_some]
      exact space_step blank str n (by omega)

theorem add_blank_eq (even : str.length % 2 = 0) :
    addBlankInMiddle blank str = some ([blank].intercalate (pairs str)) := by
  rw [addBlankInMiddle, pairs, ← joined_drop_last]
  by_cases empty : str.length = 0
  · rw [List.length_eq_zero_iff.mp empty]
    simp [counted, joined]
  · obtain ⟨n, half⟩ : ∃ n, str.length / 2 = n + 1 := ⟨str.length / 2 - 1, by omega⟩
    have count : (if str.length ≤ 2 then 0 else if str.length % 2 > 0 then str.length / 2 else str.length / 2 - 1) = n := by
      split
      · omega
      · rw [if_neg (by omega)]
        omega
    have last : str.drop (2 * n) = pair str n := by
      rw [pair, List.take_of_length_le]
      rw [List.length_drop]
      omega
    simp only [count]
    rw [spaced_steps blank str n (by omega), spaced, half, joined_pairs_succ, last, ← List.append_assoc, List.dropLast_concat]

end

-- The records are those of the first whole descriptors, and blanks stand between pairs.
def Sends (bytes : Bytes) : Prop :=
  setAudioFormat (some bytes) = supportCodecs.map (described bytes) ∧
    ∀ str : Bytes, str.length % 2 = 0 → addBlankInMiddle 32 str = some ([32].intercalate (pairs str))

theorem sends_iff (bytes : Bytes) : Sends bytes ↔ Seen bytes := by
  have blanks (str : Bytes) (even : str.length % 2 = 0) := add_blank_eq 32 str even
  constructor
  · rintro ⟨sent, _⟩ codec member
    exact (format_iff bytes codec member).mp (List.map_inj_left.mp sent codec member)
  · intro seen
    refine ⟨List.map_inj_left.mpr fun codec member => ?_, blanks⟩
    exact (format_iff bytes codec member).mpr (seen codec member)

-- A Dolby Digital descriptor behind 126 bytes of others: the length is -127 as a byte.
theorem long_structure_ignored : ¬Sends (List.replicate 126 0 ++ [0x10, 0x07, 0x50]) := by
  rintro ⟨sent, _⟩
  exact absurd sent (by decide +kernel)

end Droidlogic.Service.Earc
