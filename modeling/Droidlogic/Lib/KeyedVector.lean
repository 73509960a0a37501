import Mathlib.Data.List.Basic
import Mathlib.Data.List.Nodup
import Mathlib.Order.Lattice

set_option autoImplicit false

namespace Droidlogic.Lib

section
variable {κ α : Type} [LinearOrder κ]

def insertKey (key : κ) (value : α) : List (κ × α) → List (κ × α)
  | [] => [(key, value)]
  | entry :: rest =>
      if key < entry.1 then (key, value) :: entry :: rest
      else if key = entry.1 then (key, value) :: rest
      else entry :: insertKey key value rest

def KeySorted (items : List (κ × α)) : Prop := items.Pairwise fun first second => first.1 < second.1

theorem mem_insert_key (key : κ) (value : α) (items : List (κ × α)) (sorted : KeySorted items) (entry : κ × α) :
    entry ∈ insertKey key value items ↔ entry = (key, value) ∨ (entry ∈ items ∧ entry.1 ≠ key) := by
  induction items with
  | nil => simp [insertKey]
  | cons head rest ih =>
      obtain ⟨above, restSorted⟩ := List.pairwise_cons.mp sorted
      have rule := ih restSorted
      rw [insertKey]
      by_cases less : key < head.1
      · rw [if_pos less]
        have apart : ∀ other ∈ head :: rest, other.1 ≠ key := by
          intro other member
          rcases List.mem_cons.mp member with same | later
          · exact same ▸ ne_of_gt less
          · exact ne_of_gt (lt_trans less (above other later))
        rw [List.mem_cons]
        exact or_congr_right ⟨fun member => ⟨member, apart entry member⟩, And.left⟩
      · rw [if_neg less]
        by_cases same : key = head.1
        · rw [if_pos same]
          have apart : ∀ other ∈ rest, other.1 ≠ key := fun other member => same ▸ ne_of_gt (above other member)
          constructor
          · intro member
            rcases List.mem_cons.mp member with fresh | later
            · exact .inl fresh
            · exact .inr ⟨List.mem_cons_of_mem _ later, apart entry later⟩
          · rintro (fresh | ⟨member, different⟩)
            · exact List.mem_cons.mpr (.inl fresh)
            · rcases List.mem_cons.mp member with atHead | later
              · exact absurd (atHead ▸ same.symm) different
              · exact List.mem_cons_of_mem _ later
        · rw [if_neg same, List.mem_cons, rule, List.mem_cons]
          constructor
          · rintro (atHead | fresh | ⟨later, different⟩)
            · exact .inr ⟨.inl atHead, atHead ▸ Ne.symm same⟩
            · exact .inl fresh
            · exact .inr ⟨.inr later, different⟩
          · rintro (fresh | ⟨atHead | later, different⟩)
            · exact .inr (.inl fresh)
            · exact .inl atHead
            · exact .inr (.inr ⟨later, different⟩)

theorem insert_key_sorted (key : κ) (value : α) (items : List (κ × α)) (sorted : KeySorted items) :
    KeySorted (insertKey key value items) := by
  induction items with
  | nil => exact List.pairwise_singleton _ _
  | cons head rest ih =>
      obtain ⟨above, restSorted⟩ := List.pairwise_cons.mp sorted
      rw [insertKey]
      by_cases less : key < head.1
      · rw [if_pos less]
        refine List.pairwise_cons.mpr ⟨fun other member => ?_, sorted⟩
        rcases List.mem_cons.mp member with same | later
        · exact same ▸ less
        · exact lt_trans less (above other later)
      · rw [if_neg less]
        by_cases same : key = head.1
        · rw [if_pos same]
          exact List.pairwise_cons.mpr ⟨fun other member => same ▸ above other member, restSorted⟩
        · rw [if_neg same]
          refine List.pairwise_cons.mpr ⟨fun other member => ?_, ih restSorted⟩
          rcases (mem_insert_key key value rest restSorted other).mp member with fresh | ⟨later, _⟩
          · exact fresh ▸ lt_of_le_of_ne (not_lt.mp less) (Ne.symm same)
          · exact above other later

theorem insert_key_length (key : κ) (value : α) (items : List (κ × α)) (absent : key ∉ items.map Prod.fst) :
    (insertKey key value items).length = items.length + 1 := by
  induction items with
  | nil => rfl
  | cons head rest ih =>
      rw [List.map_cons, List.mem_cons, not_or] at absent
      rw [insertKey]
      by_cases less : key < head.1
      · rw [if_pos less]
        rfl
      · rw [if_neg less, if_neg absent.1, List.length_cons, ih absent.2, List.length_cons]

-- A vector of values ordered by distinct keys: adding under a present key replaces its value.
structure KeyedVector (κ α : Type) [LinearOrder κ] where
  items : List (κ × α)
  sorted : KeySorted items

namespace KeyedVector

def empty : KeyedVector κ α := ⟨[], List.Pairwise.nil⟩

def size (vector : KeyedVector κ α) : Nat := vector.items.length

def keys (vector : KeyedVector κ α) : List κ := vector.items.map Prod.fst

def values (vector : KeyedVector κ α) : List α := vector.items.map Prod.snd

def valueFor (vector : KeyedVector κ α) (key : κ) : Option α :=
  (vector.items.find? fun entry => entry.1 = key).map Prod.snd

def add (vector : KeyedVector κ α) (key : κ) (value : α) : KeyedVector κ α :=
  ⟨insertKey key value vector.items, insert_key_sorted key value vector.items vector.sorted⟩

def removeItem (vector : KeyedVector κ α) (key : κ) : KeyedVector κ α :=
  ⟨vector.items.filter fun entry => entry.1 ≠ key, vector.sorted.filter _⟩

def filter (vector : KeyedVector κ α) (keep : κ × α → Bool) : KeyedVector κ α :=
  ⟨vector.items.filter keep, vector.sorted.filter _⟩

theorem keys_length (vector : KeyedVector κ α) : vector.keys.length = vector.size := List.length_map ..

theorem values_length (vector : KeyedVector κ α) : vector.values.length = vector.size := List.length_map ..

theorem keys_sorted (vector : KeyedVector κ α) : vector.keys.Pairwise (· < ·) :=
  List.pairwise_map.mpr vector.sorted

theorem keys_nodup (vector : KeyedVector κ α) : vector.keys.Nodup := vector.keys_sorted.imp ne_of_lt

theorem same_key (vector : KeyedVector κ α) (key : κ) (first second : α)
    (one : (key, first) ∈ vector.items) (two : (key, second) ∈ vector.items) : first = second :=
  congrArg Prod.snd (List.inj_on_of_nodup_map vector.keys_nodup one two rfl)

theorem value_for_iff (vector : KeyedVector κ α) (key : κ) (value : α) :
    vector.valueFor key = some value ↔ (key, value) ∈ vector.items := by
  constructor
  · intro found
    obtain ⟨entry, hit, rfl⟩ := Option.map_eq_some_iff.mp found
    have named : entry.1 = key := by simpa using List.find?_some hit
    exact named ▸ List.mem_of_find?_eq_some hit
  · intro member
    cases hit : vector.items.find? fun entry => decide (entry.1 = key) with
    | none => exact absurd (decide_eq_true rfl) (List.find?_eq_none.mp hit (key, value) member)
    | some entry =>
        have named : entry.1 = key := by simpa using List.find?_some hit
        have there : (key, entry.2) ∈ vector.items := named ▸ List.mem_of_find?_eq_some hit
        rw [valueFor, hit, Option.map_some, vector.same_key key entry.2 value there member]

theorem mem_keys_iff (vector : KeyedVector κ α) (key : κ) :
    key ∈ vector.keys ↔ ∃ value, vector.valueFor key = some value := by
  constructor
  · intro member
    obtain ⟨entry, there, rfl⟩ := List.mem_map.mp member
    exact ⟨entry.2, (vector.value_for_iff entry.1 entry.2).mpr there⟩
  · rintro ⟨value, found⟩
    exact List.mem_map.mpr ⟨(key, value), (vector.value_for_iff key value).mp found, rfl⟩

theorem mem_items_add (vector : KeyedVector κ α) (key : κ) (value : α) (entry : κ × α) :
    entry ∈ (vector.add key value).items ↔ entry = (key, value) ∨ (entry ∈ vector.items ∧ entry.1 ≠ key) :=
  mem_insert_key key value vector.items vector.sorted entry

theorem mem_items_remove (vector : KeyedVector κ α) (key : κ) (entry : κ × α) :
    entry ∈ (vector.removeItem key).items ↔ entry ∈ vector.items ∧ entry.1 ≠ key := by
  simp [removeItem]

theorem value_for_add_other (vector : KeyedVector κ α) (key other : κ) (value : α) (different : other ≠ key) :
    (vector.add key value).valueFor other = vector.valueFor other := by
  ext found
  rw [value_for_iff, value_for_iff, mem_items_add]
  exact ⟨fun either => (either.resolve_left fun same => different (congrArg Prod.fst same)).1,
    fun member => .inr ⟨member, different⟩⟩

theorem value_for_remove_other (vector : KeyedVector κ α) (key other : κ) (different : other ≠ key) :
    (vector.removeItem key).valueFor other = vector.valueFor other := by
  ext found
  rw [value_for_iff, value_for_iff, mem_items_remove]
  exact and_iff_left different

theorem size_add_fresh (vector : KeyedVector κ α) (key : κ) (value : α) (fresh : key ∉ vector.keys) :
    (vector.add key value).size = vector.size + 1 := insert_key_length key value vector.items fresh

theorem keys_remove (vector : KeyedVector κ α) (key : κ) :
    (vector.removeItem key).keys = vector.keys.filter (· ≠ key) := by
  rw [keys, keys, removeItem, List.filter_map]
  rfl

theorem size_remove (vector : KeyedVector κ α) (key : κ) (present : key ∈ vector.keys) :
    (vector.removeItem key).size + 1 = vector.size := by
  have erased : (vector.removeItem key).keys = vector.keys.erase key := by
    rw [keys_remove, vector.keys_nodup.erase_eq_filter]
    congr 1
    funext other
    by_cases same : other = key <;> simp [same]
  have counted := List.length_erase_of_mem present
  have some_key : 0 < vector.keys.length := List.length_pos_of_mem present
  rw [← erased, keys_length, keys_length] at counted
  rw [keys_length] at some_key
  omega

end KeyedVector

end

end Droidlogic.Lib
