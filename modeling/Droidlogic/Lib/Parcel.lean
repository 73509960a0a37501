import Droidlogic.Lib.Bytes

set_option autoImplicit false

namespace Droidlogic.Lib

abbrev String16 := List UInt16

-- What one write puts into a parcel.
inductive Item
  | token
  | int32 (value : Int32)
  | int64 (value : Int64)
  | string16 (text : String16)
  | bytes (data : Bytes)
  | binder (handle : Nat)
  | strings (texts : List String16)
deriving DecidableEq

structure ParcelOps (Parcel : Type) where
  empty : Parcel
  write : Parcel → Item → Parcel
  enforceInterface : Parcel → Bool × Parcel
  readInt32 : Parcel → Int32 × Parcel
  readInt64 : Parcel → Int64 × Parcel
  readString16 : Parcel → String16 × Parcel
  read : Parcel → Nat → Bytes × Parcel
  readStrongBinder : Parcel → Nat × Parcel
  readString16Vector : Parcel → List String16 × Parcel

-- What is still to be read comes in the order it was written in. An int behind the end is 0, and a text is no token:
-- one that is made to spell the token is left out.
structure Fifo {Parcel : Type} (ops : ParcelOps Parcel) (Holds : Parcel → List Item → Prop) : Prop where
  empty : Holds ops.empty []
  write : ∀ parcel items item, Holds parcel items → Holds (ops.write parcel item) (items ++ [item])
  token : ∀ parcel rest, Holds parcel (.token :: rest) →
    (ops.enforceInterface parcel).1 = true ∧ Holds (ops.enforceInterface parcel).2 rest
  refused : ∀ parcel text rest, Holds parcel (.string16 text :: rest) → (ops.enforceInterface parcel).1 = false
  int32 : ∀ parcel value rest, Holds parcel (.int32 value :: rest) →
    (ops.readInt32 parcel).1 = value ∧ Holds (ops.readInt32 parcel).2 rest
  ended : ∀ parcel, Holds parcel [] → (ops.readInt32 parcel).1 = 0
  int64 : ∀ parcel value rest, Holds parcel (.int64 value :: rest) →
    (ops.readInt64 parcel).1 = value ∧ Holds (ops.readInt64 parcel).2 rest
  string16 : ∀ parcel text rest, Holds parcel (.string16 text :: rest) →
    (ops.readString16 parcel).1 = text ∧ Holds (ops.readString16 parcel).2 rest
  bytes : ∀ parcel data rest, Holds parcel (.bytes data :: rest) →
    (ops.read parcel data.length).1 = data ∧ Holds (ops.read parcel data.length).2 rest
  binder : ∀ parcel handle rest, Holds parcel (.binder handle :: rest) →
    (ops.readStrongBinder parcel).1 = handle ∧ Holds (ops.readStrongBinder parcel).2 rest
  strings : ∀ parcel texts rest, Holds parcel (.strings texts :: rest) →
    (ops.readString16Vector parcel).1 = texts ∧ Holds (ops.readString16Vector parcel).2 rest

-- A list of items is a parcel of this kind.
def itemParcel : ParcelOps (List Item) where
  empty := []
  write := fun parcel item => parcel ++ [item]
  enforceInterface := fun parcel => (parcel.head? = some .token, parcel.tail)
  readInt32 := fun parcel => (match parcel.head? with | some (.int32 value) => value | _ => 0, parcel.tail)
  readInt64 := fun parcel => (match parcel.head? with | some (.int64 value) => value | _ => 0, parcel.tail)
  readString16 := fun parcel => (match parcel.head? with | some (.string16 text) => text | _ => [], parcel.tail)
  read := fun parcel _ => (match parcel.head? with | some (.bytes data) => data | _ => [], parcel.tail)
  readStrongBinder := fun parcel => (match parcel.head? with | some (.binder handle) => handle | _ => 0, parcel.tail)
  readString16Vector := fun parcel => (match parcel.head? with | some (.strings texts) => texts | _ => [], parcel.tail)

theorem item_parcel_fifo : Fifo itemParcel Eq where
  empty := rfl
  write := fun _ _ _ held => held ▸ rfl
  token := fun _ _ held => held ▸ ⟨rfl, rfl⟩
  refused := fun _ _ _ held => held ▸ rfl
  int32 := fun _ _ _ held => held ▸ ⟨rfl, rfl⟩
  ended := fun _ held => held ▸ rfl
  int64 := fun _ _ _ held => held ▸ ⟨rfl, rfl⟩
  string16 := fun _ _ _ held => held ▸ ⟨rfl, rfl⟩
  bytes := fun _ _ _ held => held ▸ ⟨rfl, rfl⟩
  binder := fun _ _ _ held => held ▸ ⟨rfl, rfl⟩
  strings := fun _ _ _ held => held ▸ ⟨rfl, rfl⟩

inductive Kind
  | int32
  | bool
  | int64
  | text
  | buffer
  | binder
  | texts
deriving DecidableEq

-- A buffer goes with its length; one of a negative length has no bytes.
inductive Value
  | int32 (value : Int32)
  | bool (flag : Bool)
  | int64 (value : Int64)
  | text (text : String16)
  | buffer (length : Int32) (data : Bytes) (whole : data.length = length.toInt.toNat)
  | binder (handle : Nat)
  | texts (texts : List String16)
deriving DecidableEq

def Value.kind : Value → Kind
  | .int32 _ => .int32
  | .bool _ => .bool
  | .int64 _ => .int64
  | .text _ => .text
  | .buffer .. => .buffer
  | .binder _ => .binder
  | .texts _ => .texts

def Value.items : Value → List Item
  | .int32 value => [.int32 value]
  | .bool flag => [.int32 (if flag then 1 else 0)]
  | .int64 value => [.int64 value]
  | .text chars => [.string16 chars]
  | .buffer length data _ => if 0 ≤ length.toInt then [.int32 length, .bytes data] else [.int32 length]
  | .binder handle => [.binder handle]
  | .texts list => [.strings list]

-- A read that brings other than the length it was told leaves the rest of the buffer as it was.
def sized (data : Bytes) (length : Nat) : Bytes := (data ++ List.replicate length 0).take length

theorem sized_length (data : Bytes) (length : Nat) : (sized data length).length = length := by
  rw [sized, List.length_take, List.length_append, List.length_replicate]
  omega

theorem sized_whole (data : Bytes) : sized data data.length = data := by
  rw [sized, List.take_left]

section
variable {Parcel : Type} (ops : ParcelOps Parcel)

def readBuffer (parcel : Parcel) : Value × Parcel :=
  let (length, parcel) := ops.readInt32 parcel
  if 0 ≤ length.toInt then
    let (data, parcel) := ops.read parcel length.toInt.toNat
    (.buffer length (sized data length.toInt.toNat) (sized_length _ _), parcel)
  else (.buffer length (sized [] length.toInt.toNat) (sized_length _ _), parcel)

def readValue (parcel : Parcel) : Kind → Value × Parcel
  | .int32 => let (value, parcel) := ops.readInt32 parcel; (.int32 value, parcel)
  | .bool => let (value, parcel) := ops.readInt32 parcel; (.bool (value ≠ 0), parcel)
  | .int64 => let (value, parcel) := ops.readInt64 parcel; (.int64 value, parcel)
  | .text => let (text, parcel) := ops.readString16 parcel; (.text text, parcel)
  | .buffer => readBuffer ops parcel
  | .binder => let (handle, parcel) := ops.readStrongBinder parcel; (.binder handle, parcel)
  | .texts => let (texts, parcel) := ops.readString16Vector parcel; (.texts texts, parcel)

def readValues (parcel : Parcel) : List Kind → List Value × Parcel
  | [] => ([], parcel)
  | kind :: kinds =>
      let (value, parcel) := readValue ops parcel kind
      let (values, parcel) := readValues parcel kinds
      (value :: values, parcel)

def writeItems (parcel : Parcel) (items : List Item) : Parcel := items.foldl ops.write parcel

variable {ops} {Holds : Parcel → List Item → Prop} (fifo : Fifo ops Holds)
include fifo

theorem Fifo.write_items (parcel : Parcel) (before items : List Item) (held : Holds parcel before) :
    Holds (writeItems ops parcel items) (before ++ items) := by
  induction items generalizing parcel before with
  | nil => exact (List.append_nil before).symm ▸ held
  | cons item rest ih =>
      have whole : before ++ item :: rest = (before ++ [item]) ++ rest := by rw [List.append_assoc, List.singleton_append]
      rw [whole]
      exact ih _ _ (fifo.write parcel before item held)

theorem Fifo.read_buffer (parcel : Parcel) (length : Int32) (data : Bytes) (whole : data.length = length.toInt.toNat)
    (rest : List Item) (held : Holds parcel ((Value.buffer length data whole).items ++ rest)) :
    (readBuffer ops parcel).1 = .buffer length data whole ∧ Holds (readBuffer ops parcel).2 rest := by
  rw [Value.items] at held
  by_cases sign : 0 ≤ length.toInt
  · rw [if_pos sign] at held
    obtain ⟨first, later⟩ := fifo.int32 parcel length _ held
    obtain ⟨second, last⟩ := fifo.bytes _ data rest later
    rw [whole] at second last
    have same : sized data length.toInt.toNat = data := whole ▸ sized_whole data
    simp only [readBuffer, first, if_pos sign, second, same, true_and]
    exact last
  · rw [if_neg sign] at held
    obtain ⟨first, later⟩ := fifo.int32 parcel length _ held
    have none : data = [] := List.eq_nil_of_length_eq_zero (whole.trans (by omega))
    have same : sized [] length.toInt.toNat = data := by
      rw [none, sized, show length.toInt.toNat = 0 by omega]
      rfl
    simp only [readBuffer, first, if_neg sign, same, true_and]
    exact later

theorem Fifo.read_value (parcel : Parcel) (value : Value) (rest : List Item) (held : Holds parcel (value.items ++ rest)) :
    (readValue ops parcel value.kind).1 = value ∧ Holds (readValue ops parcel value.kind).2 rest := by
  cases value with
  | int32 value =>
      obtain ⟨first, later⟩ := fifo.int32 parcel value rest held
      exact ⟨congrArg Value.int32 first, later⟩
  | bool flag =>
      obtain ⟨first, later⟩ := fifo.int32 parcel _ rest held
      refine ⟨congrArg Value.bool ?_, later⟩
      rw [first]
      cases flag <;> rfl
  | int64 value =>
      obtain ⟨first, later⟩ := fifo.int64 parcel value rest held
      exact ⟨congrArg Value.int64 first, later⟩
  | text text =>
      obtain ⟨first, later⟩ := fifo.string16 parcel text rest held
      exact ⟨congrArg Value.text first, later⟩
  | buffer length data whole => exact fifo.read_buffer parcel length data whole rest held
  | binder handle =>
      obtain ⟨first, later⟩ := fifo.binder parcel handle rest held
      exact ⟨congrArg Value.binder first, later⟩
  | texts texts =>
      obtain ⟨first, later⟩ := fifo.strings parcel texts rest held
      exact ⟨congrArg Value.texts first, later⟩

-- Values that are read by their kinds are those that were written.
theorem Fifo.read_values (parcel : Parcel) (values : List Value) (rest : List Item)
    (held : Holds parcel (values.flatMap Value.items ++ rest)) :
    (readValues ops parcel (values.map Value.kind)).1 = values ∧ Holds (readValues ops parcel (values.map Value.kind)).2 rest := by
  induction values generalizing parcel with
  | nil => exact ⟨rfl, held⟩
  | cons value values ih =>
      rw [List.flatMap_cons, List.append_assoc] at held
      obtain ⟨first, later⟩ := fifo.read_value parcel value _ held
      obtain ⟨others, last⟩ := ih _ later
      exact ⟨List.cons_eq_cons.mpr ⟨first, others⟩, last⟩

end

end Droidlogic.Lib
