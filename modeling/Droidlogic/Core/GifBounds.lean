import Droidlogic.Lib.Counted
import Droidlogic.Core.GifComposition

set_option autoImplicit false

namespace Droidlogic.Core.GifBounds

open Lib

-- The extent that is left of a frame in the canvas, as GifWord: it is negative for a frame that
-- starts behind the canvas.
def copyExtent (start count size : Nat) : Int := if start + count > size then (size : Int) - start else count

section
-- memset32 says how many pixels sk_memset32 writes for a count.
variable (memset32 : Int → Nat) (skia : Skia) (gif : GifFileType)

-- The drawing with every access looked at: none is a pixel outside of the canvas, or a byte or a
-- colour that is not there.
def setPixel (bm : List UInt32) (x y : Nat) (color : UInt32) : Option (List UInt32) :=
  if x < gif.sWidth ∧ y < gif.sHeight then some (bm.set (y * gif.sWidth + x) color) else none

def copyPixel (frame : SavedImage) (cmap : ColorMapObject) (transparent : Int) (y x : Nat) (bm : List UInt32) :
    Option (List UInt32) := do
  let byte ← frame.rasterBits[y * frame.width + x]?
  if (byte.toNat : Int) ≠ transparent then
    let col ← cmap.colors[byte.toNat]?
    setPixel gif bm (frame.left + x) (frame.top + y) (skia.packARGB32 0xff col.red col.green col.blue)
  else some bm

def copyLine (frame : SavedImage) (cmap : ColorMapObject) (transparent : Int) (y : Nat) (bm : List UInt32) :
    Option (List UInt32) :=
  counted (copyPixel skia gif frame cmap transparent y) (copyExtent frame.left frame.width gif.sWidth).toNat bm

def blitNormal (bm : List UInt32) (frame : SavedImage) (cmap : ColorMapObject) (transparent : Int) : Option (List UInt32) :=
  counted (copyLine skia gif frame cmap transparent) (copyExtent frame.top frame.height gif.sHeight).toNat bm

def fillLine (frame : SavedImage) (col : UInt32) (y : Nat) (bm : List UInt32) : Option (List UInt32) :=
  counted (fun x bm => setPixel gif bm (frame.left + x) (frame.top + y) col)
    (memset32 (copyExtent frame.left frame.width gif.sWidth)) bm

def fillRect (bm : List UInt32) (frame : SavedImage) (col : UInt32) : Option (List UInt32) :=
  counted (fillLine memset32 gif frame col) (copyExtent frame.top frame.height gif.sHeight).toNat bm

def drawFrame (bm : List UInt32) (frame : SavedImage) : Option (List UInt32) :=
  match frame.colorMap.or gif.sColorMap with
  | none => some bm
  | some cmap =>
      if cmap.colors.length ≠ 1 <<< cmap.bitsPerPixel then some bm
      else blitNormal skia gif bm frame cmap (transparentIndex frame)

-- The bitmap is cleared, swapped, or left alone between two frames.
def disposeFrameIfNeeded (cur next : SavedImage) (s : Canvas) : Option Canvas :=
  let curDisposal := (getTransparencyAndDisposalMethod cur).2
  let nextTrans := (getTransparencyAndDisposalMethod next).1
  (if (curDisposal = 2 ∨ curDisposal = 3) ∧ (nextTrans = true ∨ checkIfCover next cur = false) then
    if curDisposal = 2 then (fillRect memset32 gif s.bm cur s.paintingColor).map fun bm => { s with bm := bm }
    else some { s with bm := s.backup, backup := s.bm }
  else some s).map (saveIfRestored next)

def drawIfKept (lastIndex i : Nat) (cur : SavedImage) (s : Canvas) : Option Canvas :=
  if i = lastIndex ∨ checkIfWillBeCleared cur = false then
    (drawFrame skia gif s.bm cur).map fun bm => { s with bm := bm }
  else some s

def drawStep (lastIndex i : Nat) (s : Canvas) : Option Canvas :=
  match gif.savedImages[i]?, gif.savedImages[i - 1]? with
  | some cur, some prev =>
      (if i = 0 then some (erase skia gif cur s) else disposeFrameIfNeeded memset32 gif prev cur s).bind
        (drawIfKept skia gif lastIndex i cur)
  | _, _ => none

def drawLoop (lastIndex : Nat) : Nat → Nat → Canvas → Option Canvas
  | 0, _, s => some s
  | left + 1, i, s => (drawStep memset32 skia gif lastIndex i s).bind (drawLoop lastIndex left (i + 1))

def backgroundFits : Bool :=
  match gif.sColorMap with
  | none => true
  | some map => gif.sBackGroundColor < map.colors.length

-- onGetBitmap for a bitmap without pixels: no frame is kept from an earlier call.
def onGetBitmap (d : Decoder) : Option (Bool × Option (List UInt32) × Decoder) :=
  if gif.savedImages.length < 1 ∨ gif.sWidth = 0 ∨ gif.sHeight = 0 then some (false, none, d)
  else if 0 ≤ d.fLastDrawIndex ∧ d.fLastDrawIndex = d.fCurrIndex then some (true, none, d)
  else if backgroundFits gif then
    let size := gif.sWidth * gif.sHeight
    let lastIndex := lastIndexOf gif d.fCurrIndex
    let s : Canvas := ⟨List.replicate size skia.fresh, List.replicate size skia.fresh, d.paintingColor⟩
    (drawLoop memset32 skia gif lastIndex (lastIndex + 1) 0 s).map fun s =>
      (true, some s.bm, { d with fBackup := s.backup, paintingColor := s.paintingColor, fLastDrawIndex := lastIndex })
  else none

def createFrameBitmap (d : Decoder) : Option (Option (List UInt16) × Decoder) :=
  (onGetBitmap memset32 skia gif d).map fun result =>
    (if result.1 then result.2.1.map skia.rgb565 else none, result.2.2)

def nativeGetFrameBitmap (d : Decoder) (frameIndex : Int) : Option Decoder :=
  if frameIndex < 0 ∧ frameIndex ≥ gif.savedImages.length then some { d with shown := (frameIndex, none) :: d.shown }
  else (createFrameBitmap memset32 skia gif { d with fCurrIndex := frameIndex }).map fun result =>
    { result.2 with shown := (frameIndex, result.1) :: result.2.shown }

theorem write_line_succ (value : Nat → Option UInt32) (width src dst : Nat) (pixels : List UInt32) :
    writeLine value (width + 1) src dst pixels =
      (value (src + width)).elim (writeLine value width src dst pixels)
        ((writeLine value width src dst pixels).set (dst + width)) := by
  induction width generalizing src dst pixels with
  | zero => rfl
  | succ width ih =>
      rw [writeLine, ih, writeLine, Nat.add_assoc src, Nat.add_assoc dst, Nat.add_comm 1 width]

theorem write_lines_succ (value : Nat → Option UInt32) (copyWidth stride width lines src dst : Nat) (pixels : List UInt32) :
    writeLines value copyWidth stride width (lines + 1) src dst pixels =
      writeLine value copyWidth (src + lines * stride) (dst + lines * width)
        (writeLines value copyWidth stride width lines src dst pixels) := by
  induction lines generalizing src dst pixels with
  | zero =>
      rw [Nat.zero_mul, Nat.zero_mul]
      rfl
  | succ lines ih =>
      rw [writeLines, ih, writeLines, Nat.succ_mul, Nat.succ_mul, Nat.add_assoc src, Nat.add_assoc dst,
        Nat.add_comm stride, Nat.add_comm width (lines * width)]

theorem clip_eq (start count size : Nat) : clip start count size = (copyExtent start count size).toNat := by
  rw [clip, copyExtent]
  split <;> omega

theorem extent_inside (start count size i : Nat) (small : i < (copyExtent start count size).toNat) :
    start + i < size ∧ i < count := by
  rw [copyExtent] at small
  split at small <;> omega

-- A pixel that is written takes a colour of the map.
def PixelFits (frame : SavedImage) (cmap : ColorMapObject) (transparent : Int) (y x : Nat) : Prop :=
  ∀ byte, frame.rasterBits[y * frame.width + x]? = some byte →
    (byte.toNat : Int) = transparent ∨ byte.toNat < cmap.colors.length

def FrameFits (frame : SavedImage) : Prop :=
  ∀ cmap, frame.colorMap.or gif.sColorMap = some cmap → cmap.colors.length = 1 <<< cmap.bitsPerPixel →
    ∀ y < (copyExtent frame.top frame.height gif.sHeight).toNat, ∀ x < (copyExtent frame.left frame.width gif.sWidth).toNat,
      PixelFits frame cmap (transparentIndex frame) y x

theorem frame_fits_of_bytes (frame : SavedImage) (cmap : ColorMapObject) (used : frame.colorMap.or gif.sColorMap = some cmap)
    (small : ∀ byte ∈ frame.rasterBits, byte.toNat < cmap.colors.length) : FrameFits gif frame := by
  intro other same _ y _ x _ byte read
  cases Option.some.inj (used.symm.trans same)
  exact .inr (small byte (List.mem_of_getElem? read))

-- A fill with a negative count is not reached, or nothing is written for it.
def FillFits (frame : SavedImage) : Prop :=
  copyExtent frame.top frame.height gif.sHeight ≤ 0 ∨ 0 ≤ copyExtent frame.left frame.width gif.sWidth ∨
    memset32 (copyExtent frame.left frame.width gif.sWidth) = 0

def Disposes (cur next : SavedImage) : Prop :=
  (getTransparencyAndDisposalMethod cur).2 = 2 ∧
    ((getTransparencyAndDisposalMethod next).1 = true ∨ checkIfCover next cur = false)

structure StepFits (lastIndex i : Nat) : Prop where
  fill : ∀ cur prev, gif.savedImages[i]? = some cur → gif.savedImages[i - 1]? = some prev →
    i ≠ 0 → Disposes prev cur → FillFits memset32 gif prev
  draw : ∀ cur, gif.savedImages[i]? = some cur → i = lastIndex ∨ checkIfWillBeCleared cur = false → FrameFits gif cur

def RasterHeld (frame : SavedImage) : Prop := frame.rasterBits.length = frame.width * frame.height

theorem raster_inside (frame : SavedImage) (raster : RasterHeld frame) (y x : Nat) (row : y < frame.height)
    (column : x < frame.width) : y * frame.width + x < frame.rasterBits.length := by
  have last := Nat.mul_le_mul_right frame.width row
  rw [Nat.succ_mul, Nat.mul_comm frame.height] at last
  rw [raster]
  omega

theorem set_pixel_exact (bm : List UInt32) (x y : Nat) (color : UInt32) :
    Exact (setPixel gif bm x y color) (x < gif.sWidth ∧ y < gif.sHeight) (bm.set (y * gif.sWidth + x) color) := by
  rw [setPixel]
  split
  case isTrue inside => exact ⟨fun _ => rfl, fun _ _ => inside⟩
  case isFalse outside => exact ⟨fun inside => absurd inside outside, fun _ done => absurd done.symm (Option.some_ne_none _)⟩

theorem copy_pixel_exact (frame : SavedImage) (cmap : ColorMapObject) (transparent : Int) (y x : Nat) (bm : List UInt32)
    (raster : RasterHeld frame) (row : y < (copyExtent frame.top frame.height gif.sHeight).toNat)
    (column : x < (copyExtent frame.left frame.width gif.sWidth).toNat) :
    Exact (copyPixel skia gif frame cmap transparent y x bm) (PixelFits frame cmap transparent y x)
      ((linePixel skia frame cmap transparent (y * frame.width + x)).elim bm
        (bm.set ((frame.top + y) * gif.sWidth + (frame.left + x)))) := by
  obtain ⟨low, high⟩ := extent_inside _ _ _ _ row
  obtain ⟨right, wide⟩ := extent_inside _ _ _ _ column
  have there := raster_inside frame raster y x high wide
  have found : frame.rasterBits[y * frame.width + x]? = some (frame.rasterBits.getD (y * frame.width + x) 0) := by
    rw [List.getD_eq_getElem?_getD, List.getElem?_eq_getElem there, Option.getD_some]
  have fits : PixelFits frame cmap transparent y x ↔
      ((frame.rasterBits.getD (y * frame.width + x) 0).toNat : Int) = transparent ∨
        (frame.rasterBits.getD (y * frame.width + x) 0).toNat < cmap.colors.length := by
    constructor
    · exact fun all => all _ found
    · intro holds byte same
      cases Option.some.inj (found.symm.trans same)
      exact holds
  rw [copyPixel, found, linePixel]
  refine exact_congr _ _ _ _ _ ?_ fits.symm fun _ => rfl
  generalize frame.rasterBits.getD (y * frame.width + x) 0 = byte
  simp only [Option.bind_eq_bind, Option.bind_some, colorAt]
  by_cases visible : (byte.toNat : Int) ≠ transparent
  · rw [if_pos visible, if_pos visible]
    by_cases inside : byte.toNat < cmap.colors.length
    · have color : cmap.colors[byte.toNat]? = some (cmap.colors.getD byte.toNat ⟨0, 0, 0⟩) := by
        rw [List.getD_eq_getElem?_getD, List.getElem?_eq_getElem inside, Option.getD_some]
      rw [color, Option.bind_some]
      refine exact_congr _ _ _ _ _ (set_pixel_exact gif bm _ _ _) ?_ fun _ => rfl
      exact iff_of_true ⟨right, low⟩ (Or.inr inside)
    · rw [List.getElem?_eq_none (Nat.le_of_not_lt inside)]
      exact ⟨fun either => absurd (either.resolve_right inside) visible, fun _ done => absurd done.symm (Option.some_ne_none _)⟩
  · rw [if_neg visible, if_neg visible]
    exact exact_congr _ _ _ _ _ (exact_some bm) (iff_of_true trivial (Or.inl (not_not.mp visible))) fun _ => rfl

theorem blit_normal_exact (bm : List UInt32) (frame : SavedImage) (cmap : ColorMapObject) (transparent : Int)
    (raster : RasterHeld frame) :
    Exact (blitNormal skia gif bm frame cmap transparent)
      (∀ y < (copyExtent frame.top frame.height gif.sHeight).toNat,
        ∀ x < (copyExtent frame.left frame.width gif.sWidth).toNat, PixelFits frame cmap transparent y x)
      (Core.blitNormal skia gif bm frame cmap transparent) := by
  rw [blitNormal, Core.blitNormal, clip_eq, clip_eq]
  refine counted_exact _ _ (fun lines => writeLines _ _ _ _ lines 0 _ bm) _ fun y row => ?_
  simp only [write_lines_succ]
  refine counted_exact _ _ (fun width => writeLine _ width _ _ _) _ fun x column => ?_
  have place : frame.top * gif.sWidth + frame.left + y * gif.sWidth + x =
      (frame.top + y) * gif.sWidth + (frame.left + x) := by
    rw [Nat.add_mul]
    omega
  simp only [write_line_succ, Nat.zero_add, place]
  exact copy_pixel_exact skia gif frame cmap transparent y x _ raster row column

theorem memset_extent (counts : ∀ n : Nat, memset32 n = n) (start count size : Nat)
    (positive : 0 ≤ copyExtent start count size) :
    memset32 (copyExtent start count size) = (copyExtent start count size).toNat := by
  have same := counts (copyExtent start count size).toNat
  rw [Int.toNat_of_nonneg positive] at same
  exact same

theorem fill_fits_iff (counts : ∀ n : Nat, memset32 n = n) (frame : SavedImage) :
    (∀ y < (copyExtent frame.top frame.height gif.sHeight).toNat,
        ∀ x < memset32 (copyExtent frame.left frame.width gif.sWidth),
          frame.left + x < gif.sWidth ∧ frame.top + y < gif.sHeight) ↔ FillFits memset32 gif frame := by
  constructor
  · intro all
    by_contra fails
    obtain ⟨rows, rest⟩ := not_or.mp fails
    obtain ⟨negative, some⟩ := not_or.mp rest
    have first := (all 0 (by omega) 0 (Nat.pos_of_ne_zero some)).1
    rw [copyExtent] at negative
    split at negative <;> omega
  · intro fits y row x small
    rcases fits with no_rows | positive | nothing
    · omega
    · rw [memset_extent memset32 counts _ _ _ positive] at small
      exact ⟨(extent_inside _ _ _ _ small).1, (extent_inside _ _ _ _ row).1⟩
    · omega

theorem fill_rect_exact (counts : ∀ n : Nat, memset32 n = n) (bm : List UInt32) (frame : SavedImage) (col : UInt32) :
    Exact (fillRect memset32 gif bm frame col) (FillFits memset32 gif frame)
      (Core.fillRect gif bm frame.left frame.top frame.width frame.height col) := by
  have filled : Exact (fillRect memset32 gif bm frame col)
      (∀ y < (copyExtent frame.top frame.height gif.sHeight).toNat,
        ∀ x < memset32 (copyExtent frame.left frame.width gif.sWidth),
          frame.left + x < gif.sWidth ∧ frame.top + y < gif.sHeight)
      (writeLines (fun _ => some col) (memset32 (copyExtent frame.left frame.width gif.sWidth)) 0 gif.sWidth
        (copyExtent frame.top frame.height gif.sHeight).toNat 0 (frame.top * gif.sWidth + frame.left) bm) := by
    refine counted_exact _ _ (fun lines => writeLines _ _ _ _ lines 0 _ bm) _ fun y _ => ?_
    simp only [write_lines_succ]
    refine counted_exact _ _ (fun width => writeLine _ width _ _ _) _ fun x _ => ?_
    have place : frame.top * gif.sWidth + frame.left + y * gif.sWidth + x =
        (frame.top + y) * gif.sWidth + (frame.left + x) := by
      rw [Nat.add_mul]
      omega
    simp only [write_line_succ, Option.elim, place]
    exact set_pixel_exact gif _ _ _ _
  refine exact_congr _ _ _ _ _ filled (fill_fits_iff memset32 gif counts frame) fun good => ?_
  rw [Core.fillRect, clip_eq, clip_eq]
  rcases (fill_fits_iff memset32 gif counts frame).mp good with no_rows | positive | nothing
  · rw [Int.toNat_of_nonpos no_rows]
    rfl
  · rw [memset_extent memset32 counts _ _ _ positive]
  · have none : (copyExtent frame.left frame.width gif.sWidth).toNat = 0 := by
      by_contra some
      rw [memset_extent memset32 counts _ _ _ (by omega)] at nothing
      exact some nothing
    rw [nothing, none]

theorem draw_frame_exact (bm : List UInt32) (frame : SavedImage) (raster : RasterHeld frame) :
    Exact (drawFrame skia gif bm frame) (FrameFits gif frame) (Core.drawFrame skia gif bm frame) := by
  rw [drawFrame, Core.drawFrame]
  cases map : frame.colorMap.or gif.sColorMap with
  | none =>
      refine exact_congr _ _ _ _ _ (exact_some bm) (iff_of_true trivial ?_) fun _ => rfl
      intro cmap found
      exact absurd (map.symm.trans found).symm (Option.some_ne_none _)
  | some cmap =>
      by_cases valid : cmap.colors.length = 1 <<< cmap.bitsPerPixel
      · simp only [if_neg (not_not.mpr valid)]
        refine exact_congr _ _ _ _ _ (blit_normal_exact skia gif bm frame cmap _ raster) ?_ fun _ => rfl
        constructor
        · intro all other found _
          cases Option.some.inj (map.symm.trans found)
          exact all
        · exact fun fits => fits cmap map valid
      · simp only [if_pos valid]
        refine exact_congr _ _ _ _ _ (exact_some bm) (iff_of_true trivial ?_) fun _ => rfl
        intro other found size
        cases Option.some.inj (map.symm.trans found)
        exact absurd size valid

theorem dispose_exact (counts : ∀ n : Nat, memset32 n = n) (cur next : SavedImage) (s : Canvas) :
    Exact (disposeFrameIfNeeded memset32 gif cur next s) (Disposes cur next → FillFits memset32 gif cur)
      (Core.disposeFrameIfNeeded gif cur next s) := by
  apply exact_map
  by_cases disposed : ((getTransparencyAndDisposalMethod cur).2 = 2 ∨ (getTransparencyAndDisposalMethod cur).2 = 3) ∧
      ((getTransparencyAndDisposalMethod next).1 = true ∨ checkIfCover next cur = false)
  · simp only [if_pos disposed]
    by_cases cleared : (getTransparencyAndDisposalMethod cur).2 = 2
    · simp only [if_pos cleared]
      refine exact_map _ _ _ _ (exact_congr _ _ _ _ _ (fill_rect_exact memset32 gif counts s.bm cur s.paintingColor) ?_ fun _ => rfl)
      exact ⟨fun fits _ => fits, fun fits => fits ⟨cleared, disposed.2⟩⟩
    · simp only [if_neg cleared]
      exact exact_congr _ _ _ _ _ (exact_some _) (iff_of_true trivial fun both => absurd both.1 cleared) fun _ => rfl
  · simp only [if_neg disposed]
    refine exact_congr _ _ _ _ _ (exact_some _) (iff_of_true trivial fun both => ?_) fun _ => rfl
    exact absurd ⟨Or.inl both.1, both.2⟩ disposed

theorem draw_if_kept_exact (lastIndex i : Nat) (cur : SavedImage) (s : Canvas) (raster : RasterHeld cur) :
    Exact (drawIfKept skia gif lastIndex i cur s)
      (i = lastIndex ∨ checkIfWillBeCleared cur = false → FrameFits gif cur) (Core.drawIfKept skia gif lastIndex i cur s) := by
  rw [drawIfKept, Core.drawIfKept]
  by_cases drawn : i = lastIndex ∨ checkIfWillBeCleared cur = false
  · rw [if_pos drawn, if_pos drawn]
    refine exact_map _ _ _ _ (exact_congr _ _ _ _ _ (draw_frame_exact skia gif s.bm cur raster) ?_ fun _ => rfl)
    exact ⟨fun fits _ => fits, fun fits => fits drawn⟩
  · rw [if_neg drawn, if_neg drawn]
    exact exact_congr _ _ _ _ _ (exact_some s) (iff_of_true trivial fun holds => absurd holds drawn) fun _ => rfl

-- Calls that draw nothing.
def Idle (d : Decoder) (frameIndex : Int) : Prop :=
  (gif.savedImages.length < 1 ∨ gif.sWidth = 0 ∨ gif.sHeight = 0) ∨ 0 ≤ d.fLastDrawIndex ∧ d.fLastDrawIndex = frameIndex

structure Drawable (lastIndex : Nat) : Prop where
  background : backgroundFits gif = true
  steps : ∀ i ≤ lastIndex, StepFits memset32 gif lastIndex i

section
variable (counts : ∀ n : Nat, memset32 n = n) (raster : ∀ frame ∈ gif.savedImages, RasterHeld frame)
include counts raster

theorem draw_step_exact (lastIndex i : Nat) (s : Canvas) (inside : i < gif.savedImages.length) :
    Exact (drawStep memset32 skia gif lastIndex i s) (StepFits memset32 gif lastIndex i)
      (Core.drawStep skia gif lastIndex i s) := by
  have here : gif.savedImages[i]? = some gif.savedImages[i] := List.getElem?_eq_getElem inside
  have before : gif.savedImages[i - 1]? = some gif.savedImages[i - 1] := List.getElem?_eq_getElem (by omega)
  generalize gif.savedImages[i] = cur at here
  generalize gif.savedImages[i - 1] = prev at before
  rw [drawStep, Core.drawStep]
  simp only [here, before]
  have kept (s : Canvas) := draw_if_kept_exact skia gif lastIndex i cur s (raster cur (List.mem_of_getElem? here))
  have disposed : Exact
      (if i = 0 then some (erase skia gif cur s) else disposeFrameIfNeeded memset32 gif prev cur s)
      (i ≠ 0 → Disposes prev cur → FillFits memset32 gif prev)
      (if i = 0 then erase skia gif cur s else Core.disposeFrameIfNeeded gif prev cur s) := by
    by_cases first : i = 0
    · simp only [if_pos first]
      exact exact_congr _ _ _ _ _ (exact_some _) (iff_of_true trivial fun other => absurd first other) fun _ => rfl
    · simp only [if_neg first]
      refine exact_congr _ _ _ _ _ (dispose_exact memset32 gif counts prev cur s) ?_ fun _ => rfl
      exact ⟨fun fits _ => fits, fun fits => fits first⟩
  refine exact_congr _ _ _ _ _ (exact_bind _ _ _ _ _ _ disposed (kept _)) ?_ fun _ => rfl
  constructor
  · rintro ⟨fill, draw⟩
    constructor
    · intro a b foundA foundB
      cases Option.some.inj (here.symm.trans foundA)
      cases Option.some.inj (before.symm.trans foundB)
      exact fill
    · intro a found
      cases Option.some.inj (here.symm.trans found)
      exact draw
  · exact fun fits => ⟨fits.fill cur prev here before, fits.draw cur here⟩

theorem draw_loop_exact (lastIndex left i : Nat) (s : Canvas) (inside : i + left ≤ gif.savedImages.length) :
    Exact (drawLoop memset32 skia gif lastIndex left i s) (∀ k < left, StepFits memset32 gif lastIndex (i + k))
      (Core.drawLoop skia gif lastIndex left i s) := by
  induction left generalizing i s with
  | zero =>
      exact exact_congr _ _ _ _ _ (exact_some s) (iff_of_true trivial fun k none => absurd none (Nat.not_lt_zero k)) fun _ => rfl
  | succ left ih =>
      have step := draw_step_exact memset32 skia gif counts raster lastIndex i s (by omega)
      have rest := ih (i + 1) (Core.drawStep skia gif lastIndex i s) (by omega)
      refine exact_congr _ _ _ _ _ (exact_bind _ _ _ _ _ _ step rest) ?_ fun _ => rfl
      constructor
      · rintro ⟨first, later⟩ k small
        cases k with
        | zero => exact first
        | succ k =>
            have next := later k (Nat.lt_of_succ_lt_succ small)
            rw [Nat.add_assoc, Nat.add_comm 1 k] at next
            exact next
      · intro all
        refine ⟨all 0 (Nat.succ_pos left), fun k small => ?_⟩
        have next := all (k + 1) (Nat.succ_lt_succ small)
        rw [Nat.add_comm k 1, ← Nat.add_assoc] at next
        exact next

theorem get_bitmap_exact (d : Decoder) :
    Exact (onGetBitmap memset32 skia gif d)
      (Idle gif d d.fCurrIndex ∨ Drawable memset32 gif (lastIndexOf gif d.fCurrIndex)) (Core.onGetBitmap skia gif d none) := by
  rw [onGetBitmap, Core.onGetBitmap]
  by_cases empty : gif.savedImages.length < 1 ∨ gif.sWidth = 0 ∨ gif.sHeight = 0
  · simp only [if_pos empty]
    exact exact_congr _ _ _ _ _ (exact_some _) (iff_of_true trivial (Or.inl (Or.inl empty))) fun _ => rfl
  · simp only [if_neg empty]
    by_cases same : 0 ≤ d.fLastDrawIndex ∧ d.fLastDrawIndex = d.fCurrIndex
    · simp only [if_pos same]
      exact exact_congr _ _ _ _ _ (exact_some _) (iff_of_true trivial (Or.inl (Or.inr same))) fun _ => rfl
    · simp only [if_neg same]
      have draws : Idle gif d d.fCurrIndex ∨ Drawable memset32 gif (lastIndexOf gif d.fCurrIndex) ↔
          Drawable memset32 gif (lastIndexOf gif d.fCurrIndex) :=
        or_iff_right fun idle => idle.elim empty same
      have last : 0 + (lastIndexOf gif d.fCurrIndex + 1) ≤ gif.savedImages.length := by
        rw [lastIndexOf]
        split
        · omega
        · split <;> omega
      have drawn := draw_loop_exact memset32 skia gif counts raster (lastIndexOf gif d.fCurrIndex) _ 0
        ⟨List.replicate (gif.sWidth * gif.sHeight) skia.fresh, List.replicate (gif.sWidth * gif.sHeight) skia.fresh,
          d.paintingColor⟩ last
      by_cases background : backgroundFits gif = true
      · simp only [if_pos background]
        refine exact_congr _ _ _ _ _ (exact_map _ _ _ _ drawn) (Iff.trans ?_ draws.symm) fun _ => rfl
        constructor
        · exact fun all => ⟨background, fun i small => Nat.zero_add i ▸ all i (Nat.lt_succ_of_le small)⟩
        · exact fun fits i small => (Nat.zero_add i).symm ▸ fits.steps i (Nat.le_of_lt_succ small)
      · simp only [if_neg background]
        exact ⟨fun fits => absurd (draws.mp fits).background background, fun _ done => absurd done.symm (Option.some_ne_none _)⟩

-- Where every access is inside, the decoder is that of the plain drawing.
theorem get_frame_bitmap_exact (d : Decoder) (frameIndex : Int) :
    Exact (nativeGetFrameBitmap memset32 skia gif d frameIndex)
      (Idle gif d frameIndex ∨ Drawable memset32 gif (lastIndexOf gif frameIndex))
      (Core.nativeGetFrameBitmap skia gif d frameIndex) := by
  have never : ¬(frameIndex < 0 ∧ frameIndex ≥ gif.savedImages.length) := by omega
  have drawn := get_bitmap_exact memset32 skia gif counts raster { d with fCurrIndex := frameIndex }
  rw [nativeGetFrameBitmap, Core.nativeGetFrameBitmap, if_neg never, if_neg never]
  exact exact_map _ _ _ _ (exact_map _ _ _ _ drawn)

end

-- No access leaves the canvas, a raster or a colour map, and an index outside of the frames
-- gets no bitmap.
def Bounded (d : Decoder) (frameIndex : Int) : Prop :=
  ∃ next, nativeGetFrameBitmap memset32 skia gif d frameIndex = some next ∧
    (¬(0 ≤ frameIndex ∧ frameIndex < gif.savedImages.length) → next.shown = (frameIndex, none) :: d.shown)

theorem idle_shows (d : Decoder) (frameIndex : Int) (idle : Idle gif d frameIndex) :
    (Core.nativeGetFrameBitmap skia gif d frameIndex).shown = (frameIndex, none) :: d.shown := by
  have never : ¬(frameIndex < 0 ∧ frameIndex ≥ gif.savedImages.length) := by omega
  rw [Core.nativeGetFrameBitmap, if_neg never, Core.createFrameBitmap, Core.onGetBitmap]
  rcases idle with empty | same
  · simp only [if_pos empty]
    rfl
  · by_cases empty : gif.savedImages.length < 1 ∨ gif.sWidth = 0 ∨ gif.sHeight = 0
    · simp only [if_pos empty]
      rfl
    · simp only [if_neg empty, if_pos same]
      rfl

theorem drawn_shows (d : Decoder) (frameIndex : Int) (drawn : ¬Idle gif d frameIndex) :
    (Core.nativeGetFrameBitmap skia gif d frameIndex).shown ≠ (frameIndex, none) :: d.shown := by
  have never : ¬(frameIndex < 0 ∧ frameIndex ≥ gif.savedImages.length) := by omega
  obtain ⟨some_frames, other⟩ := not_or.mp drawn
  rw [Core.nativeGetFrameBitmap, if_neg never, Core.createFrameBitmap, Core.onGetBitmap, if_neg some_frames]
  simp only [if_neg other]
  intro same
  cases same

theorem bounded_iff (counts : ∀ n : Nat, memset32 n = n) (raster : ∀ frame ∈ gif.savedImages, RasterHeld frame)
    (d : Decoder) (frameIndex : Int) :
    Bounded memset32 skia gif d frameIndex ↔
      Idle gif d frameIndex ∨
        0 ≤ frameIndex ∧ frameIndex < gif.savedImages.length ∧ Drawable memset32 gif frameIndex.toNat := by
  have exact := get_frame_bitmap_exact memset32 skia gif counts raster d frameIndex
  have last (inside : 0 ≤ frameIndex ∧ frameIndex < gif.savedImages.length) :
      lastIndexOf gif frameIndex = frameIndex.toNat := by
    rw [lastIndexOf, if_neg (by omega), if_neg (by omega)]
  constructor
  · rintro ⟨next, done, refused⟩
    have fits := exact.only next done
    cases Option.some.inj (done.symm.trans (exact.there fits))
    by_cases idle : Idle gif d frameIndex
    · exact Or.inl idle
    · have inside : 0 ≤ frameIndex ∧ frameIndex < gif.savedImages.length := by
        by_contra outside
        exact drawn_shows skia gif d frameIndex idle (refused outside)
      have drawable := fits.resolve_left idle
      rw [last inside] at drawable
      exact Or.inr ⟨inside.1, inside.2, drawable⟩
  · rintro (idle | ⟨low, high, drawable⟩)
    · exact ⟨_, exact.there (Or.inl idle), fun _ => idle_shows skia gif d frameIndex idle⟩
    · refine ⟨_, exact.there (Or.inr ?_), fun outside => absurd ⟨low, high⟩ outside⟩
      rw [last ⟨low, high⟩]
      exact drawable

end

-- A canvas of one pixel with a black and a white, and a frame of one byte.
def dot (byte : UInt8) : GifFileType :=
  ⟨1, 1, some ⟨1, [⟨0, 0, 0⟩, ⟨255, 255, 255⟩]⟩, 0, [⟨0, 0, 1, 1, none, [byte], []⟩]⟩

-- Two dots side by side, of which the first is filled over before the second is drawn.
def dots : GifFileType :=
  { dot 1 with
    sWidth := 2
    savedImages := [⟨0, 0, 1, 1, none, [1], [⟨graphicsExtFuncCode, [8, 0, 0, 0]⟩]⟩, ⟨1, 0, 1, 1, none, [1], []⟩] }

theorem dots_held : ∀ frame ∈ dots.savedImages, RasterHeld frame := by
  unfold RasterHeld
  decide

theorem dots_coloured : ∀ frame ∈ dots.savedImages, FrameFits dots frame := by
  intro frame member
  rcases List.mem_pair.mp member with rfl | rfl
  · exact frame_fits_of_bytes dots _ _ rfl (List.forall_mem_singleton.mpr (by decide))
  · exact frame_fits_of_bytes dots _ _ rfl (List.forall_mem_singleton.mpr (by decide))

theorem dots_drawable : Drawable Int.toNat dots 1 := by
  refine ⟨rfl, fun i small => ⟨fun cur prev found before later _ => ?_, fun cur found _ => ?_⟩⟩
  · obtain rfl : i = 1 := by omega
    cases before
    exact .inr (.inl (by decide))
  · exact dots_coloured cur (List.mem_of_getElem? found)

theorem dots_bounded : Bounded Int.toNat device dots constructed 1 :=
  (bounded_iff Int.toNat device dots (fun _ => rfl) dots_held constructed 1).mpr (.inr ⟨by decide, by decide, dots_drawable⟩)

-- An index behind the last frame gets the last frame, and a byte behind the map is looked up.
theorem wrong_inputs_taken :
    ¬Bounded Int.toNat device (dot 1) constructed 1 ∧ ¬Bounded Int.toNat device (dot 2) constructed 0 := by
  constructor
  · rintro ⟨next, done, refused⟩
    have shown := refused (by decide)
    have drawn : (nativeGetFrameBitmap Int.toNat device (dot 1) constructed 1).map Decoder.shown =
        some [(1, some [0xffff])] := by decide
    rw [done, Option.map_some, shown] at drawn
    exact absurd drawn (by decide)
  · rintro ⟨next, done, _⟩
    have lost : (nativeGetFrameBitmap Int.toNat device (dot 2) constructed 0).map Decoder.shown = none := by decide
    rw [done] at lost
    exact absurd lost (Option.some_ne_none _)

end Droidlogic.Core.GifBounds
