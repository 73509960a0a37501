import Droidlogic.Lib.Bytes

set_option autoImplicit false

namespace Droidlogic.Lib

-- A std::istream over a buffer of bytes.
structure InStream where
  data : Bytes
  pos : Nat
  eof : Bool
  fail : Bool
  bad : Bool
deriving DecidableEq

namespace InStream

def good (stream : InStream) : Bool := !stream.eof && !stream.fail && !stream.bad

def opened (data : Bytes) : InStream := ⟨data, 0, false, false, false⟩

def read (stream : InStream) (count : Nat) : Bytes × InStream :=
  if stream.good then
    let got := (stream.data.drop stream.pos).take count
    let moved := { stream with pos := stream.pos + got.length }
    if got.length < count then (got, { moved with eof := true, fail := true }) else (got, moved)
  else ([], { stream with fail := true })

def seekg (stream : InStream) (offset : Nat) : InStream :=
  let stream := { stream with eof := false }
  if stream.fail || stream.bad then { stream with fail := true }
  else if offset ≤ stream.data.length then { stream with pos := offset }
  else { stream with fail := true }

-- The stream stands before what is left of its data, and no flag is set.
structure At (stream : InStream) (before left : Bytes) : Prop where
  data : stream.data = before ++ left
  pos : stream.pos = before.length
  eof : stream.eof = false
  fail : stream.fail = false
  bad : stream.bad = false

theorem opened_at (data : Bytes) : (opened data).At [] data := ⟨rfl, rfl, rfl, rfl, rfl⟩

theorem At.good {stream : InStream} {before left : Bytes} (here : stream.At before left) : stream.good = true := by
  simp [InStream.good, here.eof, here.fail, here.bad]

theorem At.read {stream : InStream} {before wanted left : Bytes} (here : stream.At before (wanted ++ left)) (count : Nat)
    (sized : wanted.length = count) :
    (stream.read count).1 = wanted ∧ (stream.read count).2.At (before ++ wanted) left := by
  have got : (stream.data.drop stream.pos).take count = wanted := by
    rw [here.data, here.pos, List.drop_left, ← sized, List.take_left]
  unfold InStream.read
  simp only [here.good, if_true, got, sized, Nat.lt_irrefl, if_false]
  refine ⟨trivial, ?_, ?_, here.eof, here.fail, here.bad⟩
  · rw [here.data, List.append_assoc]
  · rw [here.pos, List.length_append, sized]

theorem At.seekg {stream : InStream} {before left : Bytes} (here : stream.At before left) (first second : Bytes)
    (same : before ++ left = first ++ second) : (stream.seekg first.length).At first second := by
  have inside : first.length ≤ stream.data.length := by
    rw [here.data, same, List.length_append]
    exact Nat.le_add_right _ _
  unfold InStream.seekg
  simp only [here.fail, here.bad, Bool.or_self, Bool.false_eq_true, if_false, if_pos inside]
  exact ⟨here.data.trans same, rfl, rfl, rfl, rfl⟩

-- Nothing comes out of a stream any more: it is at its end, or a flag is set.
def Dry (stream : InStream) : Prop := stream.good = false ∨ stream.data.length ≤ stream.pos

theorem At.dry {stream : InStream} {before : Bytes} (here : stream.At before []) : stream.Dry :=
  Or.inr (Nat.le_of_eq (by rw [here.data, here.pos, List.append_nil]))

theorem Dry.read {stream : InStream} (dry : stream.Dry) (count : Nat) (some : 0 < count) :
    (stream.read count).1 = [] ∧ (stream.read count).2.Dry := by
  unfold InStream.read
  rcases dry with failed | ended
  · rw [failed]
    exact ⟨rfl, Or.inl (by simp [InStream.good])⟩
  · by_cases fine : stream.good = true
    · simp only [fine, if_true, List.drop_of_length_le ended, List.take_nil, List.length_nil, if_pos some]
      exact ⟨trivial, Or.inl (by simp [InStream.good])⟩
    · rw [if_neg fine]
      exact ⟨rfl, Or.inl (by simp [InStream.good])⟩

end InStream

-- A read leaves what it did not reach.
def into (got old : Bytes) : Bytes := got ++ old.drop got.length

theorem into_full (got old : Bytes) (sized : got.length = old.length) : into got old = got := by
  rw [into, List.drop_of_length_le (Nat.le_of_eq sized.symm), List.append_nil]

end Droidlogic.Lib
