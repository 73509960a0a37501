import Droidlogic.Display.SinkMode

set_option autoImplicit false

namespace Droidlogic.Display.SavedMode

open Lib SinkMode

-- testMode is what ubootenv.var.testmode holds, and mode what the caller's buffer held.
structure Settings where
  platform : Platform
  television : Bool
  testMode : Option Bytes
  mode : Bytes

-- none is a value that does not fit the mode.
def getBootEnv (settings : Settings) : Option Bytes :=
  match settings.testMode with
  | some value => if value.length < SinkMode.modeLen then some value else none
  | none => some settings.mode

def fallback (settings : Settings) (edid : Bytes) : Option Bytes :=
  if settings.television then
    (getBootEnv settings).bind fun mode =>
      if mode.length ≠ 0 then some mode else getHighestHdmiMode settings.platform edid
  else getHighestHdmiMode settings.platform edid

-- before is the byte in front of pCmp: none is in front of the list, where *(pos - 1) may not be read.
def filterLines (saved : Bytes) : Option UInt8 → List Bytes → Option Bool
  | _, [] => some false
  | before, line :: rest =>
      (line.getLast?.or before).bind fun last =>
        let name := if last = star then line.dropLast else line
        if name <+: saved then some true else filterLines saved (some newline) rest

def filterScan (edid saved : Bytes) : Option Bool := filterLines saved none (terminated newline edid)

def filterHdmiMode (settings : Settings) (edid saved : Bytes) : Option Bytes :=
  (filterScan edid saved).bind fun kept => if kept then some saved else fallback settings edid

def names (edid : Bytes) : List Bytes := (terminated newline edid).map (unmarked star)

structure Filtered (settings : Settings) (edid saved : Bytes) : Prop where
  inside : ∃ kept, filterScan edid saved = some kept
  kept : saved ∈ names edid → filterHdmiMode settings edid saved = some saved
  replaced : saved ∉ names edid → filterHdmiMode settings edid saved = fallback settings edid

structure Apart (edid saved : Bytes) : Prop where
  first : (terminated newline edid).head? ≠ some []
  whole : ∀ name ∈ names edid, name <+: saved → saved ∈ names edid

theorem filter_line (saved line : Bytes) (rest : List Bytes) (before : Option UInt8)
    (inside : line ≠ [] ∨ before = some newline) :
    filterLines saved before (line :: rest) =
      if unmarked star line <+: saved then some true else filterLines saved (some newline) rest := by
  rw [filterLines, unmarked]
  cases found : line.getLast? with
  | some last =>
      rw [Option.some_or, Option.bind_some]
      simp only [Option.some.injEq]
  | none =>
      have empty : line = [] := List.getLast?_eq_none_iff.mp found
      rw [inside.resolve_left fun nonempty => nonempty empty, Option.none_or, Option.bind_some, empty]
      rfl

theorem filter_lines (saved : Bytes) (lines : List Bytes) (before : Option UInt8)
    (inside : lines.head? ≠ some [] ∨ before = some newline) :
    filterLines saved before lines = some (decide (∃ name ∈ lines.map (unmarked star), name <+: saved)) := by
  induction lines generalizing before with
  | nil => simp [filterLines]
  | cons line rest ih =>
      have here : line ≠ [] ∨ before = some newline := inside.imp_left fun first same => first (congrArg some same)
      rw [filter_line saved line rest before here, ih (some newline) (Or.inr rfl)]
      by_cases here' : unmarked star line <+: saved
      · simp [here']
      · simp [here']

theorem filter_first (saved : Bytes) (lines : List Bytes) (first : lines.head? = some []) :
    filterLines saved none lines = none := by
  cases lines with
  | nil => cases first
  | cons line rest =>
      cases Option.some.inj first
      rfl

theorem filter_scan (edid saved : Bytes) (first : (terminated newline edid).head? ≠ some []) :
    filterScan edid saved = some (decide (∃ name ∈ names edid, name <+: saved)) :=
  filter_lines saved _ none (Or.inl first)

theorem apart_filtered (settings : Settings) (edid saved : Bytes) (apart : Apart edid saved) :
    Filtered settings edid saved := by
  have scan := filter_scan edid saved apart.first
  refine ⟨⟨_, scan⟩, fun member => ?_, fun absent => ?_⟩
  · have some : ∃ name ∈ names edid, name <+: saved := ⟨saved, member, List.prefix_refl saved⟩
    rw [filterHdmiMode, scan, decide_eq_true some]
    rfl
  · have none : ¬∃ name ∈ names edid, name <+: saved := by
      rintro ⟨name, member, before⟩
      exact absent (apart.whole name member before)
    rw [filterHdmiMode, scan, decide_eq_false none]
    rfl

-- A television with this test mode, which is its fallback for every list.
def tested (mode : Bytes) : Settings := ⟨⟨true, true, false⟩, true, some mode, []⟩

theorem tested_fallback (edid mode : Bytes) (short : mode.length < SinkMode.modeLen) (nonempty : mode ≠ []) :
    fallback (tested mode) edid = some mode := by
  have held : mode.length ≠ 0 := fun zero => nonempty (List.eq_nil_of_length_eq_zero zero)
  simp only [fallback, tested, getBootEnv, if_pos short, Option.bind_some, if_pos held, if_true]

theorem other_fallback (edid saved : Bytes) : ∃ settings, fallback settings edid ≠ some saved := by
  by_cases same : saved = mode480p
  · refine ⟨tested mode720p, ?_⟩
    rw [tested_fallback edid mode720p (by decide) (by decide), same]
    decide
  · refine ⟨tested mode480p, ?_⟩
    rw [tested_fallback edid mode480p (by decide) (by decide)]
    exact fun found => same (Option.some.inj found).symm

-- Whatever the fallback is: the first line has a byte, and a line that the saved mode begins with is there only with the mode itself.
theorem filter_iff (edid saved : Bytes) : (∀ settings, Filtered settings edid saved) ↔ Apart edid saved := by
  constructor
  · intro filtered
    have first : (terminated newline edid).head? ≠ some [] := by
      intro empty
      obtain ⟨kept, scan⟩ := (filtered (tested mode480p)).inside
      rw [filterScan, filter_first saved _ empty] at scan
      cases scan
    refine ⟨first, fun name member before => ?_⟩
    by_contra absent
    obtain ⟨settings, other⟩ := other_fallback edid saved
    have kept : filterHdmiMode settings edid saved = some saved := by
      rw [filterHdmiMode, filter_scan edid saved first, decide_eq_true ⟨name, member, before⟩]
      rfl
    exact other (((filtered settings).replaced absent).symm.trans kept)
  · intro apart settings
    exact apart_filtered settings edid saved apart

def mode4k2k60hz420 : Bytes := SinkMode.mode4k2k60hz ++ ascii ['4', '2', '0']

theorem prefix_kept : ¬∀ settings, Filtered settings (SinkMode.mode4k2k60hz ++ [newline]) mode4k2k60hz420 := by
  intro filtered
  have absent : mode4k2k60hz420 ∉ names (SinkMode.mode4k2k60hz ++ [newline]) := by decide +kernel
  have replaced := (filtered ⟨⟨true, true, false⟩, false, none, []⟩).replaced absent
  revert replaced
  decide +kernel

end Droidlogic.Display.SavedMode
