import Droidlogic.Display.FrameworkMode

set_option autoImplicit false

namespace Droidlogic.Display.Zoom

open Lib FrameworkMode

structure Position where
  left : Int
  top : Int
  width : Int
  height : Int
deriving DecidableEq

-- The corners of a rectangle, and what is added to each.
structure Coordinate where
  left : Int
  top : Int
  right : Int
  bottom : Int
deriving DecidableEq

structure DisplayPositionManager where
  mCurrentMode : Bytes
  mMaxRight : Int
  mMaxBottom : Int

-- An int of the program.
def int (n : Int) : Int := n.bmod (4294967296)

def initStep (mode : Bytes) (manager : DisplayPositionManager) : DisplayPositionManager :=
  if contains mode hdmi480 then { manager with mMaxRight := 719, mMaxBottom := 479 }
  else if contains mode hdmi576 then { manager with mMaxRight := 719, mMaxBottom := 575 }
  else if contains mode hdmi720 then { manager with mMaxRight := 1279, mMaxBottom := 719 }
  else if contains mode hdmi1080 then { manager with mMaxRight := 1919, mMaxBottom := 1079 }
  else if contains mode hdmi4k2k then { manager with mMaxRight := 3839, mMaxBottom := 2159 }
  else if contains mode hdmiSmpte then { manager with mMaxRight := 4095, mMaxBottom := 2159 }
  else { manager with mMaxRight := 1919, mMaxBottom := 1079 }

-- initPostion, and the other places that ask for the current output mode
def selectMode (mode : Bytes) (manager : DisplayPositionManager) : DisplayPositionManager :=
  initStep mode { manager with mCurrentMode := mode }

-- windowAxis is what was written last to the driver's file, osdMouse what setOsdMouse was given.
structure System (Store : Type) where
  store : Store
  windowAxis : Coordinate
  osdMouse : Position

section
variable {Store : Type} (getPosition : Store → Bytes → Position) (savePosition : Store → Position → Store)

def zoomByPosition (x y w h : Int) (system : System Store) : System Store :=
  let right := int (int (x + w) - 1)
  let bottom := int (int (y + h) - 1)
  ⟨savePosition system.store ⟨x, y, w, h⟩, ⟨x, y, right, bottom⟩, ⟨x, y, w, h⟩⟩

def getCoordinate (manager : DisplayPositionManager) (system : System Store) : Coordinate :=
  let position := getPosition system.store manager.mCurrentMode
  ⟨position.left, position.top, int (int (position.left + position.width) - 1),
    int (int (position.top + position.height) - 1)⟩

def zoomByOffset (manager : DisplayPositionManager) (offset : Coordinate) (system : System Store) : System Store :=
  let position := getPosition system.store manager.mCurrentMode
  let x1 := int (position.left + offset.left)
  let y1 := int (position.top + offset.top)
  let x2 := int (int (int (position.left + position.width) + offset.right) - 1)
  let y2 := int (int (int (position.top + position.height) + offset.bottom) - 1)
  let x1 := if x1 < 0 then 0 else if x1 > (20 * manager.mMaxBottom).tdiv 100 then (20 * manager.mMaxBottom).tdiv 100 else x1
  let y1 := if y1 < 0 then 0 else if y1 > (20 * manager.mMaxBottom).tdiv 100 then (20 * manager.mMaxBottom).tdiv 100 else y1
  let x2 := if x2 < (80 * manager.mMaxRight).tdiv 100 then (80 * manager.mMaxRight).tdiv 100
    else if x2 > manager.mMaxRight then manager.mMaxRight else x2
  let y2 := if y2 < (80 * manager.mMaxBottom).tdiv 100 then (80 * manager.mMaxBottom).tdiv 100
    else if y2 > manager.mMaxBottom then manager.mMaxBottom else y2
  zoomByPosition savePosition x1 y1 (int (int (x2 - x1) + 1)) (int (int (y2 - y1) + 1)) system

def clampTo (low high n : Int) : Int := max low (min high n)

-- The screen of the mode, its edges counted from 0.
structure OnScreen (manager : DisplayPositionManager) (edges : Coordinate) : Prop where
  left : 0 ≤ edges.left
  top : 0 ≤ edges.top
  wide : edges.left ≤ edges.right
  high : edges.top ≤ edges.bottom
  right : edges.right ≤ manager.mMaxRight
  bottom : edges.bottom ≤ manager.mMaxBottom

-- Each edge is moved by its offset, and kept in the fifth of the screen that is its own.
def moved (manager : DisplayPositionManager) (edges offset : Coordinate) : Coordinate :=
  ⟨clampTo 0 (20 * manager.mMaxRight / 100) (edges.left + offset.left),
    clampTo 0 (20 * manager.mMaxBottom / 100) (edges.top + offset.top),
    clampTo (80 * manager.mMaxRight / 100) manager.mMaxRight (edges.right + offset.right),
    clampTo (80 * manager.mMaxBottom / 100) manager.mMaxBottom (edges.bottom + offset.bottom)⟩

def edgesOf (position : Position) : Coordinate :=
  ⟨position.left, position.top, position.left + position.width - 1, position.top + position.height - 1⟩

structure Zoomed (manager : DisplayPositionManager) (edges offset : Coordinate) (next : System Store) : Prop where
  inside : OnScreen manager next.windowAxis
  shown : next.windowAxis = moved manager edges offset
  mouse : edgesOf next.osdMouse = next.windowAxis
  stored : getCoordinate getPosition manager next = next.windowAxis

def Fits (n : Int) : Prop := -2147483648 ≤ n ∧ n < 2147483648

structure SumsFit (edges offset : Coordinate) : Prop where
  left : Fits (edges.left + offset.left)
  top : Fits (edges.top + offset.top)
  right : Fits (edges.right + offset.right)
  bottom : Fits (edges.bottom + offset.bottom)

theorem int_eq (n : Int) (fits : Fits n) : int n = n := by
  obtain ⟨low, high⟩ := fits
  exact Int.bmod_eq_of_le (by omega) (by omega)

theorem int_add (a b : Int) : int (int a + b) = int (a + b) := Int.bmod_add_bmod

theorem int_sub (a b : Int) : int (int a - b) = int (a - b) := Int.bmod_sub_bmod

theorem maxima_cases (mode : Bytes) (manager : DisplayPositionManager) :
    ((selectMode mode manager).mMaxRight, (selectMode mode manager).mMaxBottom) ∈
      [((719 : Int), (479 : Int)), (719, 575), (1279, 719), (1919, 1079), (3839, 2159), (4095, 2159)] := by
  rw [selectMode, initStep]
  repeat' split
  all_goals simp

-- What every mode's screen has in common.
structure Screen (manager : DisplayPositionManager) : Prop where
  low : 479 ≤ manager.mMaxBottom
  wider : manager.mMaxBottom + 144 ≤ manager.mMaxRight
  high : manager.mMaxRight ≤ 4095

theorem select_screen (mode : Bytes) (manager : DisplayPositionManager) : Screen (selectMode mode manager) := by
  have known := maxima_cases mode manager
  simp only [List.mem_cons, Prod.mk.injEq, List.not_mem_nil, or_false] at known
  constructor <;> omega

theorem clamp_if (low high n : Int) (order : low ≤ high) :
    (if n < low then low else if n > high then high else n) = clampTo low high n := by
  rw [clampTo]
  split
  · omega
  · split <;> omega

theorem clamp_inside (low high n : Int) (order : low ≤ high) : low ≤ clampTo low high n ∧ clampTo low high n ≤ high := by
  rw [clampTo]
  omega

-- The size that is made of two edges leads back to them.
theorem zoom_by_position_edges (x1 y1 x2 y2 : Int) (system : System Store) (right : Fits x2)
    (bottom : Fits y2) (width : Fits (x2 - x1 + 1)) (height : Fits (y2 - y1 + 1)) :
    zoomByPosition savePosition x1 y1 (int (int (x2 - x1) + 1)) (int (int (y2 - y1) + 1)) system =
      ⟨savePosition system.store ⟨x1, y1, x2 - x1 + 1, y2 - y1 + 1⟩, ⟨x1, y1, x2, y2⟩,
        ⟨x1, y1, x2 - x1 + 1, y2 - y1 + 1⟩⟩ := by
  have across : x1 + (x2 - x1 + 1) - 1 = x2 := by omega
  have down : y1 + (y2 - y1 + 1) - 1 = y2 := by omega
  rw [int_add, int_add, int_eq _ width, int_eq _ height, zoomByPosition, int_sub, int_sub, across, down, int_eq _ right,
    int_eq _ bottom]

-- What the program makes of the edges: the left one is kept below a fifth of the height.
def shownEdges (manager : DisplayPositionManager) (edges offset : Coordinate) : Coordinate :=
  { moved manager edges offset with left := clampTo 0 (20 * manager.mMaxBottom / 100) (edges.left + offset.left) }

theorem shown_on_screen (manager : DisplayPositionManager) (edges offset : Coordinate) (screen : Screen manager) :
    OnScreen manager (shownEdges manager edges offset) ∧ (shownEdges manager edges offset).left ≤ 1000 ∧
      (shownEdges manager edges offset).top ≤ 1000 := by
  obtain ⟨low, wider, high⟩ := screen
  have left := clamp_inside 0 (20 * manager.mMaxBottom / 100) (edges.left + offset.left) (by omega)
  have top := clamp_inside 0 (20 * manager.mMaxBottom / 100) (edges.top + offset.top) (by omega)
  have right := clamp_inside (80 * manager.mMaxRight / 100) manager.mMaxRight (edges.right + offset.right) (by omega)
  have bottom := clamp_inside (80 * manager.mMaxBottom / 100) manager.mMaxBottom (edges.bottom + offset.bottom) (by omega)
  have wide : 20 * manager.mMaxBottom / 100 ≤ 80 * manager.mMaxRight / 100 := by omega
  have tall : 20 * manager.mMaxBottom / 100 ≤ 80 * manager.mMaxBottom / 100 := by omega
  have small : 20 * manager.mMaxBottom / 100 ≤ 1000 := by omega
  refine ⟨⟨left.1, top.1, ?_, ?_, right.2, bottom.2⟩, Int.le_trans left.2 small, Int.le_trans top.2 small⟩
  · exact Int.le_trans left.2 (Int.le_trans wide right.1)
  · exact Int.le_trans top.2 (Int.le_trans tall bottom.1)

theorem zoom_by_offset_eq (manager : DisplayPositionManager) (offset : Coordinate) (system : System Store)
    (screen : Screen manager) (sums : SumsFit (edgesOf (getPosition system.store manager.mCurrentMode)) offset) :
    let edges := shownEdges manager (edgesOf (getPosition system.store manager.mCurrentMode)) offset
    let position : Position := ⟨edges.left, edges.top, edges.right - edges.left + 1, edges.bottom - edges.top + 1⟩
    zoomByOffset getPosition savePosition manager offset system = ⟨savePosition system.store position, edges, position⟩ := by
  have shown := shown_on_screen manager (edgesOf (getPosition system.store manager.mCurrentMode)) offset screen
  obtain ⟨low, wider, high⟩ := screen
  rw [zoomByOffset]
  generalize getPosition system.store manager.mCurrentMode = position at sums shown ⊢
  obtain ⟨left, top, right, bottom⟩ := sums
  simp only [edgesOf] at left top right bottom
  have rightSum : int (int (int (position.left + position.width) + offset.right) - 1) =
      position.left + position.width - 1 + offset.right := by
    have order : position.left + position.width + offset.right - 1 = position.left + position.width - 1 + offset.right := by
      omega
    rw [int_add, int_sub, order, int_eq _ right]
  have bottomSum : int (int (int (position.top + position.height) + offset.bottom) - 1) =
      position.top + position.height - 1 + offset.bottom := by
    have order : position.top + position.height + offset.bottom - 1 = position.top + position.height - 1 + offset.bottom := by
      omega
    rw [int_add, int_sub, order, int_eq _ bottom]
  have fifth : (20 * manager.mMaxBottom).tdiv 100 = 20 * manager.mMaxBottom / 100 := Int.tdiv_eq_ediv_of_nonneg (by omega)
  have across : (80 * manager.mMaxRight).tdiv 100 = 80 * manager.mMaxRight / 100 := Int.tdiv_eq_ediv_of_nonneg (by omega)
  have down : (80 * manager.mMaxBottom).tdiv 100 = 80 * manager.mMaxBottom / 100 := Int.tdiv_eq_ediv_of_nonneg (by omega)
  simp only [int_eq _ left, int_eq _ top, rightSum, bottomSum, fifth, across, down, clamp_if 0 (20 * manager.mMaxBottom / 100) _ (by omega),
    clamp_if (80 * manager.mMaxRight / 100) manager.mMaxRight _ (by omega),
    clamp_if (80 * manager.mMaxBottom / 100) manager.mMaxBottom _ (by omega)]
  obtain ⟨⟨left0, top0, wide, tall, right1, bottom1⟩, left1, top1⟩ := shown
  simp only [shownEdges, moved, edgesOf] at left0 top0 wide tall right1 bottom1 left1 top1 ⊢
  apply zoom_by_position_edges <;> constructor <;> omega

theorem select_mode (mode : Bytes) (base : DisplayPositionManager) : (selectMode mode base).mCurrentMode = mode := by
  rw [selectMode, initStep]
  repeat' split
  all_goals rfl

theorem left_moved_iff (manager : DisplayPositionManager) (edges offset : Coordinate) (screen : Screen manager) :
    shownEdges manager edges offset = moved manager edges offset ↔
      edges.left + offset.left ≤ 20 * manager.mMaxBottom / 100 := by
  obtain ⟨low, wider, high⟩ := screen
  simp only [shownEdges, moved, Coordinate.mk.injEq, and_true, clampTo]
  omega

theorem zoom_iff (mode : Bytes) (base : DisplayPositionManager) (offset : Coordinate) (system : System Store)
    (kept : ∀ store position, getPosition (savePosition store position) mode = position)
    (sums : SumsFit (edgesOf (getPosition system.store mode)) offset) :
    Zoomed getPosition (selectMode mode base) (edgesOf (getPosition system.store mode)) offset
        (zoomByOffset getPosition savePosition (selectMode mode base) offset system) ↔
      (getPosition system.store mode).left + offset.left ≤ 20 * (selectMode mode base).mMaxBottom / 100 := by
  have current := select_mode mode base
  have screen := select_screen mode base
  generalize selectMode mode base = manager at current screen
  subst current
  have zoomed := zoom_by_offset_eq getPosition savePosition manager offset system screen sums
  have iff := left_moved_iff manager (edgesOf (getPosition system.store manager.mCurrentMode)) offset screen
  obtain ⟨onScreen, left, top⟩ :=
    shown_on_screen manager (edgesOf (getPosition system.store manager.mCurrentMode)) offset screen
  simp only at zoomed
  rw [zoomed]
  refine Iff.trans ⟨fun all => all.shown, fun same => ?_⟩ iff
  generalize shownEdges manager _ offset = edges at onScreen left top same ⊢
  have across : edges.left + (edges.right - edges.left + 1) = edges.right + 1 := by omega
  have down : edges.top + (edges.bottom - edges.top + 1) = edges.bottom + 1 := by omega
  refine ⟨onScreen, same, ?_, ?_⟩
  · simp only [edgesOf, across, down, Int.add_sub_cancel]
  · obtain ⟨left0, top0, wide, tall, right1, bottom1⟩ := onScreen
    have right : Fits edges.right := ⟨by omega, by have := screen.high; omega⟩
    have bottom : Fits edges.bottom := ⟨by omega, by have := screen.high; have := screen.wider; omega⟩
    rw [getCoordinate, kept]
    simp only [across, down, int_sub, Int.add_sub_cancel, int_eq _ right, int_eq _ bottom]

end

-- A store of one position.
theorem offset_zoomed :
    Zoomed (fun (stored : Position) _ => stored)
      (selectMode hdmi1080 ⟨[], 0, 0⟩) (edgesOf ⟨0, 0, 1920, 1080⟩) ⟨5, 6, -2, 0⟩
      (zoomByOffset (fun stored _ => stored) (fun _ position => position) (selectMode hdmi1080 ⟨[], 0, 0⟩) ⟨5, 6, -2, 0⟩
        ⟨⟨0, 0, 1920, 1080⟩, ⟨0, 0, 0, 0⟩, ⟨0, 0, 0, 0⟩⟩) :=
  (zoom_iff (fun stored _ => stored) (fun _ position => position) hdmi1080 ⟨[], 0, 0⟩ ⟨5, 6, -2, 0⟩
    ⟨⟨0, 0, 1920, 1080⟩, ⟨0, 0, 0, 0⟩, ⟨0, 0, 0, 0⟩⟩ (fun _ _ => rfl)
    ⟨⟨by decide, by decide⟩, ⟨by decide, by decide⟩, ⟨by decide, by decide⟩, ⟨by decide, by decide⟩⟩).mpr (by decide)

-- On a screen of 1920 lines of 1080 the left edge stops at 215 instead of 383.
theorem left_edge_stops :
    (zoomByOffset (fun (stored : Position) _ => stored) (fun _ position => position) (selectMode hdmi1080 ⟨[], 0, 0⟩)
        ⟨300, 0, 0, 0⟩ ⟨⟨0, 0, 1920, 1080⟩, ⟨0, 0, 0, 0⟩, ⟨0, 0, 0, 0⟩⟩).windowAxis = ⟨215, 0, 1919, 1079⟩ ∧
      moved (selectMode hdmi1080 ⟨[], 0, 0⟩) (edgesOf ⟨0, 0, 1920, 1080⟩) ⟨300, 0, 0, 0⟩ = ⟨300, 0, 1919, 1079⟩ := by
  decide

end Droidlogic.Display.Zoom
