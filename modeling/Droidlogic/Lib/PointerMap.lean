import Mathlib.Data.List.Perm.Subperm
import Mathlib.Data.List.Nodup
import Mathlib.Data.List.Count
import Droidlogic.Lib.KeyedVector

set_option autoImplicit false

namespace Droidlogic.Lib

-- A map from numbers to pointers, some of which are null.
abbrev PointerMap (α : Type) := KeyedVector Nat (Option α)

namespace PointerMap

section
variable {α : Type}

def get (map : PointerMap α) (key : Nat) : Option α := (map.valueFor key).join

-- Reading under a missing key puts a null pointer there.
def touch (map : PointerMap α) (key : Nat) : PointerMap α := if key ∈ map.keys then map else map.add key none

def put (map : PointerMap α) (key : Nat) (value : Option α) : PointerMap α := map.add key value

theorem get_iff (map : PointerMap α) (key : Nat) (value : α) :
    map.get key = some value ↔ (key, some value) ∈ map.items := by
  rw [get, Option.join_eq_some_iff, KeyedVector.value_for_iff]

theorem get_put (map : PointerMap α) (key other : Nat) (value : Option α) :
    (map.put key value).get other = if other = key then value else map.get other := by
  by_cases same : other = key
  · subst same
    have added : (map.put other value).valueFor other = some value :=
      (KeyedVector.value_for_iff _ _ _).mpr ((KeyedVector.mem_items_add _ _ _ _).mpr (.inl rfl))
    rw [if_pos rfl, get, added]
    rfl
  · rw [if_neg same, get, put, KeyedVector.value_for_add_other _ _ _ _ same, get]

theorem get_missing (map : PointerMap α) (key : Nat) (missing : key ∉ map.keys) : map.get key = none := by
  cases found : map.get key with
  | none => rfl
  | some value => exact absurd (List.mem_map.mpr ⟨_, (map.get_iff key value).mp found, rfl⟩) missing

@[simp] theorem get_touch (map : PointerMap α) (key other : Nat) : (map.touch key).get other = map.get other := by
  rw [touch]
  split
  · rfl
  · rename_i missing
    refine (map.get_put key other none).trans ?_
    split
    · rename_i same
      rw [same, get_missing map key missing]
    · rfl

theorem values_collected (map : PointerMap α) : map.items.filterMap Prod.snd = map.keys.filterMap map.get := by
  rw [KeyedVector.keys, List.filterMap_map]
  refine List.filterMap_congr fun entry member => ?_
  rw [Function.comp, get, (map.value_for_iff entry.1 entry.2).mpr member]
  rfl

-- A map of n entries that has every key below n has no other.
theorem keys_below (map : PointerMap α) (full : ∀ key < map.size, key ∈ map.keys) (key : Nat) (there : key ∈ map.keys) :
    key < map.size := by
  have inside : List.range map.size ⊆ map.keys := fun small member => full small (List.mem_range.mp member)
  have nodup : (List.range map.size).Nodup := List.nodup_range
  have size : map.keys.length ≤ (List.range map.size).length := by rw [List.length_range, map.keys_length]
  have perm := (nodup.subperm inside).perm_of_length_le size
  exact List.mem_range.mp (perm.symm.subset there)

end

section
variable {α : Type} [DecidableEq α]

theorem count_p_one {β : Type} (items : List β) (nodup : items.Nodup) (wanted : β → Bool) :
    items.countP wanted = 1 ↔ ∃ item, (item ∈ items ∧ wanted item = true) ∧
      ∀ other, other ∈ items → wanted other = true → other = item := by
  rw [List.countP_eq_length_filter, List.length_eq_one_iff]
  constructor
  · rintro ⟨item, alone⟩
    have mine : item ∈ items.filter wanted := alone ▸ .head _
    refine ⟨item, List.mem_filter.mp mine, fun other there hit => ?_⟩
    have also : other ∈ items.filter wanted := List.mem_filter.mpr ⟨there, hit⟩
    rw [alone] at also
    exact List.mem_singleton.mp also
  · rintro ⟨item, mine, unique⟩
    refine ⟨item, ?_⟩
    have single : ∀ other ∈ items.filter wanted, other = item := fun other member =>
      unique other (List.mem_filter.mp member).1 (List.mem_filter.mp member).2
    have there : item ∈ items.filter wanted := List.mem_filter.mpr mine
    refine List.perm_singleton.mp ?_
    refine (List.perm_ext_iff_of_nodup (nodup.filter _) (List.nodup_singleton item)).mpr fun other => ?_
    exact ⟨fun member => List.mem_singleton.mpr (single other member),
      fun member => List.mem_singleton.mp member ▸ there⟩

-- What is collected under the given keys holds a value once where one of them leads to it.
theorem collected_once (map : PointerMap α) (keys : List Nat) (nodup : keys.Nodup) (value : α) :
    (keys.filterMap map.get).count value = 1 ↔ ∃ key, (key ∈ keys ∧ map.get key = some value) ∧
      ∀ other, other ∈ keys → map.get other = some value → other = key := by
  rw [List.count_filterMap, count_p_one keys nodup]
  simp only [beq_iff_eq]

end

end PointerMap

end Droidlogic.Lib
