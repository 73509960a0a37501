import Droidlogic.Lib.Lines
import Droidlogic.Lib.Text

set_option autoImplicit false

namespace Droidlogic.Service.Mounts

open Lib

def newline : UInt8 := 10
def blank : UInt8 := 32
def comma : UInt8 := 44

def optionRo : Bytes := ascii ['r', 'o']
def optionRw : Bytes := ascii ['r', 'w']

def mountsSize : Nat := 4096

-- One read, with a NUL behind it.
def fRead (buffsize : Nat) (contents : Bytes) : Bytes := (contents.take (buffsize - 1)).takeWhile (· ≠ 0)

-- while ((end = strchr(start, '\n')))
def scanMounts (device : Bytes) : List Bytes → Int
  | [] => -1
  | line :: rest =>
      if contains line device then
        if contains line (optionRo ++ [comma]) then 1
        else if contains line (optionRw ++ [comma]) then 0
        else -1
      else scanMounts device rest

def isVolumeRo (contents device : Bytes) : Int := scanMounts device (terminated newline (fRead mountsSize contents))

-- The device, the mount point, the type and the options of an entry stand between blanks.
def mountPoint (entry : Bytes) : Option Bytes := (entry.splitOn blank)[1]?

def options (entry : Bytes) : List Bytes := ((entry.splitOn blank)[3]?.getD []).splitOn comma

section
variable (contents device : Bytes)

def Listed : Prop := ∃ entry ∈ lines newline contents, mountPoint entry = some device

def Mounted (option : Bytes) : Prop :=
  ∃ entry ∈ lines newline contents, mountPoint entry = some device ∧ option ∈ options entry

structure Detected : Prop where
  readOnly : isVolumeRo contents device = 1 ↔ Mounted contents device optionRo
  readWrite : isVolumeRo contents device = 0 ↔ Mounted contents device optionRw
  unmounted : isVolumeRo contents device = -1 ↔ ¬Listed contents device

-- The first whole line of what was read that has the path anywhere in it.
def FirstWith (line : Bytes) : Prop :=
  ∃ before after, terminated newline (fRead mountsSize contents) = before ++ line :: after ∧
    (∀ other ∈ before, ¬device <:+: other) ∧ device <:+: line

def Plain : Prop :=
  (¬Listed contents device ∧ ∀ line, FirstWith contents device line →
    ¬(optionRo ++ [comma]) <:+: line ∧ ¬(optionRw ++ [comma]) <:+: line) ∨
  (Mounted contents device optionRo ∧ ¬Mounted contents device optionRw ∧ ∃ line, FirstWith contents device line ∧
    (optionRo ++ [comma]) <:+: line) ∨
  Mounted contents device optionRw ∧ ¬Mounted contents device optionRo ∧ ∃ line, FirstWith contents device line ∧
    ¬(optionRo ++ [comma]) <:+: line ∧ (optionRw ++ [comma]) <:+: line

theorem mounted_listed (option : Bytes) (mounted : Mounted contents device option) : Listed contents device := by
  obtain ⟨entry, member, point, _⟩ := mounted
  exact ⟨entry, member, point⟩

theorem scan_unmatched (before lines : List Bytes) (absent : ∀ line ∈ before, ¬device <:+: line) :
    scanMounts device (before ++ lines) = scanMounts device lines := by
  induction before with
  | nil => rfl
  | cons line before ih =>
      have here : ¬contains line device = true := fun found =>
        absent line List.mem_cons_self ((contains_iff line device).mp found)
      rw [List.cons_append, scanMounts, if_neg here]
      exact ih fun other member => absent other (List.mem_cons_of_mem _ member)

theorem volume_first (line : Bytes) (first : FirstWith contents device line) :
    isVolumeRo contents device =
      if contains line (optionRo ++ [comma]) then 1 else if contains line (optionRw ++ [comma]) then 0 else -1 := by
  obtain ⟨before, after, whole, absent, here⟩ := first
  rw [isVolumeRo, whole, scan_unmatched device before _ absent, scanMounts, if_pos ((contains_iff line device).mpr here)]

theorem first_or_none : (∃ line, FirstWith contents device line) ∨
    (∀ line, ¬FirstWith contents device line) ∧ isVolumeRo contents device = -1 := by
  cases found : (terminated newline (fRead mountsSize contents)).find? fun line => contains line device with
  | some line =>
      obtain ⟨here, before, after, whole, absent⟩ := List.find?_eq_some_iff_append.mp found
      refine Or.inl ⟨line, before, after, whole, fun other member inside => ?_, (contains_iff line device).mp here⟩
      have away := absent other member
      rw [(contains_iff other device).mpr inside] at away
      cases away
  | none =>
      have absent : ∀ line ∈ terminated newline (fRead mountsSize contents), ¬device <:+: line := fun line member inside =>
        List.find?_eq_none.mp found line member ((contains_iff line device).mpr inside)
      refine Or.inr ⟨?_, ?_⟩
      · rintro line ⟨before, after, whole, _, here⟩
        exact absent line (whole ▸ List.mem_append_right _ List.mem_cons_self) here
      · have scan := scan_unmatched device _ [] absent
        rw [List.append_nil] at scan
        exact scan

theorem volume_ro_iff : isVolumeRo contents device = 1 ↔
    ∃ line, FirstWith contents device line ∧ (optionRo ++ [comma]) <:+: line := by
  constructor
  · intro one
    rcases first_or_none contents device with ⟨line, first⟩ | ⟨_, unmounted⟩
    · refine ⟨line, first, ?_⟩
      rw [volume_first contents device line first] at one
      split at one
      · rename_i inside
        exact (contains_iff line _).mp inside
      · split at one <;> cases one
    · cases unmounted.symm.trans one
  · rintro ⟨line, first, inside⟩
    rw [volume_first contents device line first, if_pos ((contains_iff line _).mpr inside)]

theorem volume_rw_iff : isVolumeRo contents device = 0 ↔
    ∃ line, FirstWith contents device line ∧ ¬(optionRo ++ [comma]) <:+: line ∧ (optionRw ++ [comma]) <:+: line := by
  constructor
  · intro zero
    rcases first_or_none contents device with ⟨line, first⟩ | ⟨_, unmounted⟩
    · refine ⟨line, first, ?_⟩
      rw [volume_first contents device line first] at zero
      split at zero
      · cases zero
      · rename_i outside
        split at zero
        · rename_i inside
          exact ⟨fun found => outside ((contains_iff line _).mpr found), (contains_iff line _).mp inside⟩
        · cases zero
    · cases unmounted.symm.trans zero
  · rintro ⟨line, first, outside, inside⟩
    have away : ¬contains line (optionRo ++ [comma]) = true := fun found => outside ((contains_iff line _).mp found)
    rw [volume_first contents device line first, if_neg away, if_pos ((contains_iff line _).mpr inside)]

theorem volume_unmounted_iff : isVolumeRo contents device = -1 ↔
    ∀ line, FirstWith contents device line → ¬(optionRo ++ [comma]) <:+: line ∧ ¬(optionRw ++ [comma]) <:+: line := by
  constructor
  · intro unmounted line first
    refine ⟨fun inside => ?_, fun inside => ?_⟩
    · cases ((volume_ro_iff contents device).mpr ⟨line, first, inside⟩).symm.trans unmounted
    · by_cases outside : (optionRo ++ [comma]) <:+: line
      · cases ((volume_ro_iff contents device).mpr ⟨line, first, outside⟩).symm.trans unmounted
      · cases ((volume_rw_iff contents device).mpr ⟨line, first, outside, inside⟩).symm.trans unmounted
  · intro neither
    rcases first_or_none contents device with ⟨line, first⟩ | ⟨_, unmounted⟩
    · obtain ⟨noRo, noRw⟩ := neither line first
      rw [volume_first contents device line first, if_neg fun found => noRo ((contains_iff line _).mp found),
        if_neg fun found => noRw ((contains_iff line _).mp found)]
    · exact unmounted

theorem volume_values : isVolumeRo contents device = 1 ∨ isVolumeRo contents device = 0 ∨ isVolumeRo contents device = -1 := by
  rcases first_or_none contents device with ⟨line, first⟩ | ⟨_, unmounted⟩
  · rw [volume_first contents device line first]
    split
    · exact Or.inl rfl
    · split
      · exact Or.inr (Or.inl rfl)
      · exact Or.inr (Or.inr rfl)
  · exact Or.inr (Or.inr unmounted)

-- The answer is right where the first line with the path in it says what the path's entries say.
theorem volume_iff : Detected contents device ↔ Plain contents device := by
  rw [Plain, ← volume_ro_iff, ← volume_rw_iff, ← volume_unmounted_iff]
  constructor
  · intro detected
    rcases volume_values contents device with one | zero | unmounted
    · refine Or.inr (Or.inl ⟨detected.readOnly.mp one, fun other => ?_, one⟩)
      cases one.symm.trans (detected.readWrite.mpr other)
    · refine Or.inr (Or.inr ⟨detected.readWrite.mp zero, fun other => ?_, zero⟩)
      cases zero.symm.trans (detected.readOnly.mpr other)
    · exact Or.inl ⟨detected.unmounted.mp unmounted, unmounted⟩
  · have answer : ∀ value other : Int, isVolumeRo contents device = value → value ≠ other → isVolumeRo contents device ≠ other :=
      fun value other same different equal => different (same.symm.trans equal)
    rintro (⟨absent, unmounted⟩ | ⟨readOnly, notRw, one⟩ | ⟨readWrite, notRo, zero⟩)
    · refine ⟨iff_of_false (answer _ _ unmounted (by decide)) ?_, iff_of_false (answer _ _ unmounted (by decide)) ?_,
        iff_of_true unmounted absent⟩
      · exact fun mounted => absent (mounted_listed contents device _ mounted)
      · exact fun mounted => absent (mounted_listed contents device _ mounted)
    · refine ⟨iff_of_true one readOnly, iff_of_false (answer _ _ one (by decide)) notRw,
        iff_of_false (answer _ _ one (by decide)) ?_⟩
      exact fun absent => absent (mounted_listed contents device _ readOnly)
    · refine ⟨iff_of_false (answer _ _ zero (by decide)) notRo, iff_of_true zero readWrite,
        iff_of_false (answer _ _ zero (by decide)) ?_⟩
      exact fun absent => absent (mounted_listed contents device _ readWrite)

end

-- ext4 lists what it does on errors behind rw.
def remountLine : Bytes := ascii ['e', 'x', 't', '4', '_', 'd', 'e', 'v', ' ', '/', 'c', 'a', 'c', 'h', 'e', ' ', 'e', 'x', 't', '4',
  ' ', 'r', 'w', ',', 'e', 'r', 'r', 'o', 'r', 's', '=', 'r', 'e', 'm', 'o', 'u', 'n', 't', '-', 'r', 'o', ',',
  'd', 'a', 't', 'a', '=', 'o', 'r', 'd', 'e', 'r', 'e', 'd', ' ', '0', ' ', '0'] ++ [newline]

def cachePath : Bytes := ascii ['/', 'c', 'a', 'c', 'h', 'e']

theorem remount_option_taken : ¬Detected remountLine cachePath := by
  intro detected
  have one : isVolumeRo remountLine cachePath = 1 := by decide +kernel
  have absent : ∀ entry ∈ lines newline remountLine, optionRo ∉ options entry := by decide +kernel
  obtain ⟨entry, member, _, option⟩ := detected.readOnly.mp one
  exact absent entry member option

end Droidlogic.Service.Mounts
