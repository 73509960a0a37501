import Droidlogic.Lib.Layers
import Droidlogic.Lib.Run
import Droidlogic.Core.GifDecode

set_option autoImplicit false

namespace Droidlogic.Core

open Droidlogic.Lib Droidlogic.Lib.Layers

def validMap (map : ColorMapObject) : Prop := map.colors.length = 1 <<< map.bitsPerPixel

-- A frame inside the canvas with at most one control block. The GIF library makes no
-- colour map whose size is not a power of two.
structure Frame (sWidth sHeight : Nat) where
  image : SavedImage
  right : image.left + image.width ≤ sWidth
  bottom : image.top + image.height ≤ sHeight
  oneControl : (image.extensionBlocks.filter isControl).length ≤ 1
  mapped : ∀ map, image.colorMap = some map → validMap map

structure Gif where
  sWidth : Nat
  sHeight : Nat
  wide : sWidth ≠ 0
  high : sHeight ≠ 0
  globalMap : ColorMapObject
  sBackGroundColor : Nat
  background : sBackGroundColor < globalMap.colors.length
  mapped : validMap globalMap
  frames : List (Frame sWidth sHeight)

def Gif.file (gif : Gif) : GifFileType where
  sWidth := gif.sWidth
  sHeight := gif.sHeight
  sColorMap := some gif.globalMap
  sBackGroundColor := gif.sBackGroundColor
  savedImages := gif.frames.map Frame.image

section
variable {sWidth sHeight : Nat}

def inFrame (image : SavedImage) (x y : Nat) : Bool :=
  image.left ≤ x && x < image.left + image.width && image.top ≤ y && y < image.top + image.height

def disposalOf (image : SavedImage) : Disposal :=
  match (getTransparencyAndDisposalMethod image).2 with
  | 2 => .clear
  | 3 => .restore
  | _ => .keep

-- The next frame has no transparent pixels and lies above the whole of the other one.
def hides (next below : SavedImage) : Bool :=
  !(getTransparencyAndDisposalMethod next).1 && checkIfCover next below

theorem control_cases (frame : Frame sWidth sHeight) :
    frame.image.extensionBlocks.filter isControl = [] ∨
      ∃ block, frame.image.extensionBlocks.filter isControl = [block] := by
  rcases shape : frame.image.extensionBlocks.filter isControl with _ | ⟨block, _ | ⟨second, rest⟩⟩
  · exact .inl rfl
  · exact .inr ⟨block, rfl⟩
  · have one := frame.oneControl
    rw [shape] at one
    simp at one

theorem transparency_filter (image : SavedImage) :
    getTransparencyAndDisposalMethod image =
      (image.extensionBlocks.filter isControl).foldl
        (fun _ block => (hasTransparency block, disposalMethod block)) (false, 0) := by
  rw [getTransparencyAndDisposalMethod, List.foldl_filter]

theorem transparent_filter (image : SavedImage) :
    transparentIndex image =
      (image.extensionBlocks.filter isControl).foldl
        (fun transparent block => if hasTransparency block then ((block.bytes.getD 3 0).toNat : Int) else transparent)
        (-1) := by
  rw [transparentIndex, List.foldl_filter]
  congr 1
  funext transparent block
  cases isControl block <;> simp

theorem opaque_index (frame : Frame sWidth sHeight)
    (solid : (getTransparencyAndDisposalMethod frame.image).1 = false) : transparentIndex frame.image = -1 := by
  rw [transparency_filter] at solid
  rw [transparent_filter]
  rcases control_cases frame with none | ⟨block, one⟩
  · rw [none]
    rfl
  · rw [one] at solid ⊢
    simp only [List.foldl_cons, List.foldl_nil] at solid ⊢
    rw [solid]
    rfl

theorem cleared_iff (frame : Frame sWidth sHeight) :
    checkIfWillBeCleared frame.image = true ↔ disposalOf frame.image ≠ .keep := by
  have filtered : checkIfWillBeCleared frame.image =
      (frame.image.extensionBlocks.filter isControl).any
        fun block => disposalMethod block = 2 || disposalMethod block = 3 := by
    rw [checkIfWillBeCleared, List.any_filter]
  rw [filtered, disposalOf, transparency_filter]
  rcases control_cases frame with none | ⟨block, one⟩
  · rw [none]
    simp
  · rw [one]
    simp only [List.any_cons, List.any_nil, List.foldl_cons, List.foldl_nil, Bool.or_false]
    split <;> simp_all

end

section
variable (skia : Skia) (gif : Gif)

abbrev Cell (gif : Gif) := Fin gif.sWidth × Fin gif.sHeight

abbrev GifFrame (gif : Gif) := Frame gif.sWidth gif.sHeight

def mapOf (frame : GifFrame gif) : ColorMapObject := frame.image.colorMap.getD gif.globalMap

def framePaint (frame : GifFrame gif) (cell : Cell gif) : Option UInt32 :=
  if inFrame frame.image cell.1 cell.2 then
    linePixel skia frame.image (mapOf gif frame) (transparentIndex frame.image)
      ((cell.2 - frame.image.top) * frame.image.width + (cell.1 - frame.image.left))
  else none

theorem hides_paints (next below : GifFrame gif) (cell : Cell gif) (covers : hides next.image below.image = true)
    (inside : inFrame below.image cell.1 cell.2 = true) : framePaint skia gif next cell ≠ none := by
  simp only [hides, checkIfCover, Bool.and_eq_true, Bool.not_eq_true', decide_eq_true_eq] at covers
  obtain ⟨solid, ⟨⟨left, right⟩, top⟩, bottom⟩ := covers
  simp only [inFrame, Bool.and_eq_true, decide_eq_true_eq] at inside
  have insideNext : inFrame next.image cell.1 cell.2 = true := by
    simp only [inFrame, Bool.and_eq_true, decide_eq_true_eq]
    omega
  rw [framePaint, if_pos insideNext, linePixel, opaque_index next solid, if_pos (by omega)]
  exact Option.some_ne_none _

def kit : Kit (GifFrame gif) (Cell gif) UInt32 where
  area frame cell := inFrame frame.image cell.1 cell.2
  paint := framePaint skia gif
  disposal frame := disposalOf frame.image
  hides next below := hides next.image below.image
  painted frame cell paints := by
    by_contra outside
    rw [framePaint, if_neg outside] at paints
    exact paints rfl
  hidden := hides_paints skia gif

theorem kit_disposal (frame : GifFrame gif) : (kit skia gif).disposal frame = disposalOf frame.image := rfl

theorem kit_hides (next below : GifFrame gif) : (kit skia gif).hides next below = hides next.image below.image := rfl

theorem draw_at (frame : GifFrame gif) (canvas : Cell gif → UInt32) (cell : Cell gif) :
    draw (kit skia gif) frame canvas cell = (framePaint skia gif frame cell).getD (canvas cell) := rfl

theorem fill_at (frame : GifFrame gif) (color : UInt32) (canvas : Cell gif → UInt32) (cell : Cell gif) :
    fill (kit skia gif) color frame canvas cell =
      if inFrame frame.image cell.1 cell.2 = true then color else canvas cell := rfl

-- The pixels of a bitmap, line after line, are those of a canvas.
def Shows (pixels : List UInt32) (canvas : Cell gif → UInt32) : Prop :=
  pixels.length = gif.sWidth * gif.sHeight ∧
    ∀ cell : Cell gif, pixels[cell.2.val * gif.sWidth + cell.1.val]? = some (canvas cell)

theorem write_line_length (value : Nat → Option UInt32) (width src dst : Nat) (pixels : List UInt32) :
    (writeLine value width src dst pixels).length = pixels.length := by
  induction width generalizing src dst pixels with
  | zero => rfl
  | succ width ih =>
      rw [writeLine, ih]
      cases value src <;> simp

theorem write_line_get (value : Nat → Option UInt32) (width src dst a : Nat) (pixels : List UInt32)
    (inside : a < pixels.length) :
    (writeLine value width src dst pixels)[a]? =
      (if dst ≤ a ∧ a < dst + width then value (src + (a - dst)) else none).or pixels[a]? := by
  induction width generalizing src dst pixels with
  | zero =>
      rw [if_neg (by omega)]
      rfl
  | succ width ih =>
      have length : ((value src).elim pixels (pixels.set dst)).length = pixels.length := by
        cases value src <;> simp
      rw [writeLine, ih _ _ _ (length ▸ inside)]
      by_cases here : a = dst
      · subst here
        rw [if_neg (by omega), if_pos (by omega), Nat.sub_self, Nat.add_zero]
        cases value src with
        | none => rfl
        | some color => simp [inside]
      · have kept : ((value src).elim pixels (pixels.set dst))[a]? = pixels[a]? := by
          cases value src with
          | none => rfl
          | some color => exact List.getElem?_set_ne (Ne.symm here)
        rw [kept]
        by_cases later : dst + 1 ≤ a ∧ a < dst + 1 + width
        · have same : src + 1 + (a - (dst + 1)) = src + (a - dst) := by omega
          rw [if_pos later, if_pos (by omega), same]
        · rw [if_neg later, if_neg (by omega)]

theorem write_lines_length (value : Nat → Option UInt32) (copyWidth stride width lines src dst : Nat)
    (pixels : List UInt32) :
    (writeLines value copyWidth stride width lines src dst pixels).length = pixels.length := by
  induction lines generalizing src dst pixels with
  | zero => rfl
  | succ lines ih => rw [writeLines, ih, write_line_length]

-- Whether an address of line y lies in a piece of line t.
theorem line_piece (w t left count y x : Nat) (column : x < w) (fits : left + count ≤ w) :
    (t * w + left ≤ y * w + x ∧ y * w + x < t * w + left + count) ↔ (y = t ∧ left ≤ x ∧ x < left + count) := by
  rcases Nat.lt_trichotomy y t with before | rfl | after
  · have lines : (y + 1) * w ≤ t * w := Nat.mul_le_mul_right w before
    rw [Nat.succ_mul] at lines
    omega
  · omega
  · have lines : (t + 1) * w ≤ y * w := Nat.mul_le_mul_right w after
    rw [Nat.succ_mul] at lines
    omega

theorem write_lines_get (value : Nat → Option UInt32) (copyWidth stride w lines src t left y x : Nat)
    (pixels : List UInt32) (column : x < w) (fits : left + copyWidth ≤ w) (inside : y * w + x < pixels.length) :
    (writeLines value copyWidth stride w lines src (t * w + left) pixels)[y * w + x]? =
      (if (t ≤ y ∧ y < t + lines) ∧ left ≤ x ∧ x < left + copyWidth then
        value (src + (y - t) * stride + (x - left))
      else none).or pixels[y * w + x]? := by
  induction lines generalizing src t pixels with
  | zero =>
      rw [if_neg (by omega)]
      rfl
  | succ lines ih =>
      have next : t * w + left + w = (t + 1) * w + left := by
        rw [Nat.succ_mul]
        omega
      have piece := line_piece w t left copyWidth y x column fits
      rw [writeLines, next, ih _ _ _ (by rw [write_line_length]; exact inside), write_line_get _ _ _ _ _ _ inside]
      by_cases here : y = t
      · subst here
        rw [if_neg (by omega), Option.none_or, Nat.sub_self, Nat.zero_mul, Nat.add_zero src]
        by_cases across : left ≤ x ∧ x < left + copyWidth
        · have offset : y * w + x - (y * w + left) = x - left := by omega
          rw [if_pos (piece.mpr ⟨rfl, across⟩), if_pos (by omega), offset]
        · rw [if_neg fun both => across (piece.mp both).2, if_neg fun both => across both.2]
      · have notHere : ¬(t * w + left ≤ y * w + x ∧ y * w + x < t * w + left + copyWidth) := fun both =>
          here (piece.mp both).1
        rw [if_neg notHere, Option.none_or]
        by_cases later : t < y
        · have lines_left : y - t = y - (t + 1) + 1 := by omega
          have same : src + stride + (y - (t + 1)) * stride = src + (y - t) * stride := by
            rw [lines_left, Nat.succ_mul]
            omega
          have range : ((t + 1 ≤ y ∧ y < t + 1 + lines) ∧ left ≤ x ∧ x < left + copyWidth) ↔
              ((t ≤ y ∧ y < t + (lines + 1)) ∧ left ≤ x ∧ x < left + copyWidth) := by omega
          rw [same]
          simp only [range]
        · rw [if_neg (by omega), if_neg (by omega)]

theorem cell_inside (pixels : List UInt32) (length : pixels.length = gif.sWidth * gif.sHeight) (cell : Cell gif) :
    cell.2.val * gif.sWidth + cell.1.val < pixels.length := by
  rw [length]
  have lines : (cell.2.val + 1) * gif.sWidth ≤ gif.sHeight * gif.sWidth :=
    Nat.mul_le_mul_right _ (Nat.succ_le_of_lt cell.2.isLt)
  rw [Nat.succ_mul, Nat.mul_comm gif.sHeight] at lines
  have column := cell.1.isLt
  omega

theorem frame_clip (frame : GifFrame gif) :
    clip frame.image.left frame.image.width gif.file.sWidth = frame.image.width ∧
      clip frame.image.top frame.image.height gif.file.sHeight = frame.image.height :=
  ⟨if_neg (Nat.not_lt.mpr frame.right), if_neg (Nat.not_lt.mpr frame.bottom)⟩

theorem in_frame_iff (frame : GifFrame gif) (cell : Cell gif) :
    ((frame.image.top ≤ cell.2.val ∧ cell.2.val < frame.image.top + frame.image.height) ∧
      frame.image.left ≤ cell.1.val ∧ cell.1.val < frame.image.left + frame.image.width) ↔
      inFrame frame.image cell.1 cell.2 = true := by
  simp only [inFrame, Bool.and_eq_true, decide_eq_true_eq]
  omega

theorem draw_frame_shows (frame : GifFrame gif) (pixels : List UInt32) (canvas : Cell gif → UInt32)
    (shows : Shows gif pixels canvas) :
    Shows gif (drawFrame skia gif.file pixels frame.image) (draw (kit skia gif) frame canvas) := by
  have map : frame.image.colorMap.or gif.file.sColorMap = some (mapOf gif frame) := by
    rw [mapOf, Gif.file]
    cases frame.image.colorMap <;> rfl
  have valid : validMap (mapOf gif frame) := by
    rw [mapOf]
    cases local_map : frame.image.colorMap with
    | none => exact gif.mapped
    | some cmap => exact frame.mapped cmap local_map
  obtain ⟨clipWidth, clipHeight⟩ := frame_clip gif frame
  rw [drawFrame, map]
  have whole : (mapOf gif frame).colors.length = 1 <<< (mapOf gif frame).bitsPerPixel := valid
  simp only [ne_eq, whole, not_true_eq_false, if_false, blitNormal, clipWidth, clipHeight]
  refine ⟨by rw [write_lines_length]; exact shows.1, fun cell => ?_⟩
  have inside := cell_inside gif pixels shows.1 cell
  rw [Gif.file, write_lines_get _ _ _ _ _ _ _ _ _ _ _ cell.1.isLt frame.right inside, shows.2 cell, Nat.zero_add]
  rw [draw_at, framePaint]
  simp only [in_frame_iff gif frame cell]
  split
  · cases linePixel skia frame.image (mapOf gif frame) (transparentIndex frame.image)
      ((cell.2.val - frame.image.top) * frame.image.width + (cell.1.val - frame.image.left)) <;> rfl
  · rfl

theorem fill_rect_shows (frame : GifFrame gif) (color : UInt32) (pixels : List UInt32) (canvas : Cell gif → UInt32)
    (shows : Shows gif pixels canvas) :
    Shows gif (fillRect gif.file pixels frame.image.left frame.image.top frame.image.width frame.image.height color)
      (fill (kit skia gif) color frame canvas) := by
  obtain ⟨clipWidth, clipHeight⟩ := frame_clip gif frame
  rw [fillRect, clipWidth, clipHeight]
  refine ⟨by rw [write_lines_length]; exact shows.1, fun cell => ?_⟩
  have inside := cell_inside gif pixels shows.1 cell
  rw [Gif.file, write_lines_get _ _ _ _ _ _ _ _ _ _ _ cell.1.isLt frame.right inside, shows.2 cell]
  rw [fill_at]
  simp only [in_frame_iff gif frame cell]
  split <;> rfl

-- The bitmaps of a rendering and the painting colour it goes on with.
def Renders (color : UInt32) (s : Canvas) (lz : Lazy (Cell gif) UInt32) : Prop :=
  Shows gif s.bm lz.canvas ∧ Shows gif s.backup lz.backup ∧ s.paintingColor = color

theorem disposal_clear (image : SavedImage) :
    (getTransparencyAndDisposalMethod image).2 = 2 ↔ disposalOf image = .clear := by
  rw [disposalOf]
  split <;> simp_all

theorem disposal_restore (image : SavedImage) :
    (getTransparencyAndDisposalMethod image).2 = 3 ↔ disposalOf image = .restore := by
  rw [disposalOf]
  split <;> simp_all

theorem hides_iff (next below : SavedImage) :
    ¬hides next below = true ↔ (getTransparencyAndDisposalMethod next).1 = true ∨ checkIfCover next below = false := by
  rw [hides]
  cases (getTransparencyAndDisposalMethod next).1 <;> cases checkIfCover next below <;> simp

theorem save_renders (color : UInt32) (next : GifFrame gif) (s : Canvas) (lz : Lazy (Cell gif) UInt32)
    (renders : Renders gif color s lz) :
    Renders gif color (saveIfRestored next.image s) (lazySave (kit skia gif) next lz) := by
  rw [saveIfRestored, lazySave, kit_disposal]
  by_cases restores : disposalOf next.image = .restore
  · rw [if_pos ((disposal_restore _).mpr restores), if_pos restores]
    exact ⟨renders.1, renders.1, renders.2.2⟩
  · rw [if_neg (mt (disposal_restore _).mp restores), if_neg restores]
    exact renders

theorem dispose_renders (color : UInt32) (cur next : GifFrame gif) (s : Canvas) (lz : Lazy (Cell gif) UInt32)
    (renders : Renders gif color s lz) :
    Renders gif color (disposeFrameIfNeeded gif.file cur.image next.image s)
      (lazyDispose (kit skia gif) color cur next lz) := by
  rw [disposeFrameIfNeeded, lazyDispose, kit_hides, kit_disposal]
  refine save_renders skia gif color next _ _ ?_
  have clears := disposal_clear cur.image
  have restores := disposal_restore cur.image
  by_cases skips : hides next.image cur.image = true
  · have skipped : ¬((getTransparencyAndDisposalMethod next.image).1 = true ∨ checkIfCover next.image cur.image = false) :=
      fun shown => (hides_iff _ _).mpr shown skips
    rw [if_neg fun both => skipped both.2, if_pos skips]
    exact renders
  · have shown := (hides_iff _ _).mp skips
    rw [if_neg skips]
    cases disposal : disposalOf cur.image with
    | keep =>
        have nothing : ¬((getTransparencyAndDisposalMethod cur.image).2 = 2 ∨
            (getTransparencyAndDisposalMethod cur.image).2 = 3) := by
          rw [clears, restores, disposal]
          decide
        rw [if_neg fun both => nothing both.1]
        exact renders
    | clear =>
        have two := clears.mpr disposal
        rw [if_pos ⟨.inl two, shown⟩, if_pos two]
        refine ⟨?_, renders.2.1, renders.2.2⟩
        rw [renders.2.2]
        exact fill_rect_shows skia gif cur color _ _ renders.1
    | restore =>
        have three := restores.mpr disposal
        have notTwo : ¬(getTransparencyAndDisposalMethod cur.image).2 = 2 := by rw [three]; decide
        rw [if_pos ⟨.inr three, shown⟩, if_neg notTwo]
        exact ⟨renders.2.1, renders.1, renders.2.2⟩

theorem draw_renders (color : UInt32) (lastIndex i : Nat) (cur : GifFrame gif) (s : Canvas)
    (lz : Lazy (Cell gif) UInt32) (renders : Renders gif color s lz) :
    Renders gif color (drawIfKept skia gif.file lastIndex i cur.image s)
      (if i = lastIndex ∨ disposalOf cur.image = .keep then ⟨draw (kit skia gif) cur lz.canvas, lz.backup⟩ else lz) := by
  have cleared := cleared_iff cur
  have same : (i = lastIndex ∨ checkIfWillBeCleared cur.image = false) ↔
      (i = lastIndex ∨ disposalOf cur.image = .keep) := by
    rw [← Bool.not_eq_true, cleared, not_not]
  rw [drawIfKept]
  by_cases draws : i = lastIndex ∨ disposalOf cur.image = .keep
  · rw [if_pos (same.mpr draws), if_pos draws]
    exact ⟨draw_frame_shows skia gif cur _ _ renders.1, renders.2⟩
  · rw [if_neg (mt same.mp draws), if_neg draws]
    exact renders

theorem file_image (i : Nat) (frame : GifFrame gif) (here : gif.frames[i]? = some frame) :
    gif.file.savedImages[i]? = some frame.image := by
  rw [Gif.file]
  simp only [List.getElem?_map, here, Option.map_some]

-- The frames after the one at i are drawn as the lazy composition draws them.
theorem loop_shows (color : UInt32) (lastIndex i : Nat) (cur : GifFrame gif) (rest : List (GifFrame gif)) (s : Canvas)
    (lz : Lazy (Cell gif) UInt32) (here : gif.frames[i]? = some cur)
    (later : ∀ j < rest.length, gif.frames[i + 1 + j]? = rest[j]?) (last : lastIndex = i + rest.length)
    (renders : Renders gif color s lz) :
    Shows gif (drawLoop skia gif.file lastIndex rest.length (i + 1) (drawIfKept skia gif.file lastIndex i cur.image s)).bm
      (lazyPlain (kit skia gif) color cur rest lz) := by
  induction rest generalizing i cur s lz with
  | nil =>
      have drawn := draw_renders skia gif color lastIndex i cur s lz renders
      rw [if_pos (.inl last.symm)] at drawn
      exact drawn.1
  | cons next rest ih =>
      have notLast : i ≠ lastIndex := by
        rw [last, List.length_cons]
        omega
      have drawn := draw_renders skia gif color lastIndex i cur s lz renders
      simp only [notLast, false_or] at drawn
      have nextHere : gif.frames[i + 1]? = some next := later 0 (Nat.succ_pos _)
      have disposed := dispose_renders skia gif color cur next _ _ drawn
      have steps : drawStep skia gif.file lastIndex (i + 1) (drawIfKept skia gif.file lastIndex i cur.image s) =
          drawIfKept skia gif.file lastIndex (i + 1) next.image
            (disposeFrameIfNeeded gif.file cur.image next.image (drawIfKept skia gif.file lastIndex i cur.image s)) := by
        simp only [drawStep, file_image gif (i + 1) next nextHere, Nat.add_sub_cancel, file_image gif i cur here,
          if_neg (Nat.succ_ne_zero i)]
      rw [List.length_cons, drawLoop, steps, lazyPlain]
      refine ih (i + 1) next _ _ nextHere (fun j less => ?_) ?_ disposed
      · have found := later (j + 1) (Nat.succ_lt_succ less)
        rw [List.getElem?_cons_succ] at found
        rw [← found]
        congr 1
        omega
      · rw [last, List.length_cons]
        omega

def painting (first : GifFrame gif) : UInt32 := skia.erasePixel (firstPaintingColor skia gif.file first.image)

-- The plain composition of frames 0 to k.
def composition (k : Nat) : Cell gif → UInt32 :=
  match gif.frames with
  | [] => fun _ => skia.fresh
  | first :: later =>
      plain (kit skia gif) (painting skia gif first) first (later.take k) fun _ => painting skia gif first

-- fillRect writes the colour itself where eraseColor writes its pixel.
def settlesUpTo (k : Nat) : Bool :=
  match gif.frames with
  | [] => true
  | first :: later =>
      settles (kit skia gif) (firstPaintingColor skia gif.file first.image = painting skia gif first) none first
        (later.take k)

theorem replicate_shows (color : UInt32) (pixels : List UInt32) (length : pixels.length = gif.sWidth * gif.sHeight) :
    Shows gif (List.replicate pixels.length color) fun _ => color := by
  refine ⟨by rw [List.length_replicate, length], fun cell => ?_⟩
  rw [List.getElem?_replicate, if_pos (cell_inside gif pixels length cell)]

-- A rendering from the first frame on shows the plain composition.
theorem first_shows (first : GifFrame gif) (later : List (GifFrame gif)) (k : Nat) (s : Canvas)
    (frames : gif.frames = first :: later) (inside : k < gif.frames.length) (settled : settlesUpTo skia gif k = true)
    (bm : s.bm.length = gif.sWidth * gif.sHeight) (backup : s.backup.length = gif.sWidth * gif.sHeight) :
    Shows gif (drawLoop skia gif.file k (k + 1) 0 s).bm (composition skia gif k) := by
  have count : (later.take k).length = k := by
    rw [frames, List.length_cons] at inside
    rw [List.length_take]
    omega
  have here : gif.frames[0]? = some first := by
    rw [frames]
    rfl
  have started : drawStep skia gif.file k 0 s =
      drawIfKept skia gif.file k 0 first.image (erase skia gif.file first.image s) := by
    simp only [drawStep, Nat.zero_sub, file_image gif 0 first here, if_true]
  have erased : Renders gif (firstPaintingColor skia gif.file first.image) (erase skia gif.file first.image s)
      ⟨fun _ => painting skia gif first, fun _ => painting skia gif first⟩ :=
    ⟨replicate_shows gif _ s.bm bm, replicate_shows gif _ s.backup backup, rfl⟩
  have shown := loop_shows skia gif _ k 0 first (later.take k) _ _ here (fun j less => by
    rw [frames, Nat.zero_add, Nat.add_comm, List.getElem?_cons_succ]
    exact (List.getElem?_take_of_lt (count ▸ less)).symm) (by rw [count, Nat.zero_add]) erased
  simp only [settlesUpTo, frames] at settled
  rw [count] at shown
  rw [drawLoop, started, composition, frames]
  have same := lazy_plain (kit skia gif) (painting skia gif first) (firstPaintingColor skia gif.file first.image) none first
    (later.take k) ⟨fun _ => painting skia gif first, fun _ => painting skia gif first⟩ (fun _ => painting skia gif first)
    _ of_decide_eq_true settled rfl rfl fun _ => rfl
  rw [same] at shown
  exact shown

inductive Call (gif : Gif)
  | setCurrFrame (frameIndex : Fin gif.frames.length)
  | getFrameBitmap (frameIndex : Fin gif.frames.length)

def step (d : Decoder) : Call gif → Option Decoder
  | .setCurrFrame frameIndex => some (nativeSetCurrFrame gif.file d frameIndex.val)
  | .getFrameBitmap frameIndex => some (nativeGetFrameBitmap skia gif.file d frameIndex.val)

-- Each bitmap that was returned has the pixels of the composition.
def Composed (d : Decoder) : Prop :=
  ∀ entry ∈ d.shown, ∃ pixels, entry.2 = some (skia.rgb565 pixels) ∧
    Shows gif pixels (composition skia gif entry.1.toNat)

-- The frame is not the one that was drawn last, and no disposal that was left to the next
-- frame, nor a fill in another byte order, gets to be seen.
def Fresh (d : Decoder) : Call gif → Prop
  | .setCurrFrame _ => True
  | .getFrameBitmap frameIndex => d.fLastDrawIndex ≠ frameIndex.val ∧ settlesUpTo skia gif frameIndex.val = true

instance (d : Decoder) (call : Call gif) : Decidable (Fresh skia gif d call) := by
  unfold Fresh
  split <;> infer_instance

theorem last_index (k : Nat) (inside : k < gif.frames.length) : lastIndexOf gif.file (k : Int) = k := by
  have length : gif.file.savedImages.length = gif.frames.length := List.length_map _
  rw [lastIndexOf, if_neg (by omega), length, if_neg (by omega), Int.toNat_natCast]

-- Every call renders from the first frame on, since its bitmap is new.
theorem get_bitmap (d : Decoder) (k : Nat) (inside : k < gif.frames.length) (current : d.fCurrIndex = k)
    (other : d.fLastDrawIndex ≠ k) :
    ∃ s : Canvas, s.bm.length = gif.sWidth * gif.sHeight ∧ s.backup.length = gif.sWidth * gif.sHeight ∧
      onGetBitmap skia gif.file d none =
        (true, some (drawLoop skia gif.file k (k + 1) 0 s).bm,
          { d with
            fBackup := (drawLoop skia gif.file k (k + 1) 0 s).backup
            paintingColor := (drawLoop skia gif.file k (k + 1) 0 s).paintingColor
            fLastDrawIndex := k }) := by
  have length : gif.file.savedImages.length = gif.frames.length := List.length_map _
  have proper : ¬(gif.file.savedImages.length < 1 ∨ gif.file.sWidth = 0 ∨ gif.file.sHeight = 0) := by
    rintro (few | narrow | low)
    · omega
    · exact gif.wide narrow
    · exact gif.high low
  have redraws : ¬(0 ≤ d.fLastDrawIndex ∧ d.fLastDrawIndex = d.fCurrIndex) := fun both => other (both.2.trans current)
  refine ⟨⟨List.replicate (gif.sWidth * gif.sHeight) skia.fresh, List.replicate (gif.sWidth * gif.sHeight) skia.fresh,
    d.paintingColor⟩, List.length_replicate, List.length_replicate, ?_⟩
  rw [onGetBitmap, if_neg proper, if_neg redraws, current, last_index gif k inside]
  rfl

theorem get_frame_bitmap (d : Decoder) (k : Nat) (inside : k < gif.frames.length) (other : d.fLastDrawIndex ≠ k)
    (settled : settlesUpTo skia gif k = true) :
    ∃ pixels, (nativeGetFrameBitmap skia gif.file d k).shown = ((k : Int), some (skia.rgb565 pixels)) :: d.shown ∧
      Shows gif pixels (composition skia gif k) := by
  obtain ⟨s, bm, backup, drawn⟩ := get_bitmap skia gif { d with fCurrIndex := k } k inside rfl other
  cases frames : gif.frames with
  | nil =>
      rw [frames] at inside
      exact absurd inside (Nat.not_lt_zero k)
  | cons first later =>
      refine ⟨_, ?_, first_shows skia gif first later k s frames inside settled bm backup⟩
      have positive : ¬((k : Int) < 0 ∧ (k : Int) ≥ gif.file.savedImages.length) := by omega
      rw [nativeGetFrameBitmap, if_neg positive, createFrameBitmap, drawn]
      rfl

theorem step_composed (d : Decoder) (call : Call gif) (next : Decoder) (composed : Composed skia gif d)
    (fresh : Fresh skia gif d call) (taken : step skia gif d call = some next) : Composed skia gif next := by
  cases call with
  | setCurrFrame frameIndex =>
      cases taken
      exact composed
  | getFrameBitmap frameIndex =>
      cases taken
      obtain ⟨pixels, shown, same⟩ := get_frame_bitmap skia gif d frameIndex frameIndex.isLt fresh.1 fresh.2
      intro entry member
      rw [shown] at member
      rcases List.mem_cons.mp member with rfl | earlier
      · exact ⟨pixels, rfl, same⟩
      · exact composed entry earlier

theorem random_access (d final : Decoder) (calls : List (Call gif)) (created : d.shown = [])
    (fresh : Guarded (step skia gif) (Fresh skia gif) d calls)
    (reached : run (step skia gif) d calls = some final) : Composed skia gif final := by
  refine run_invariant (step skia gif) (Fresh skia gif) (Composed skia gif) (step_composed skia gif) d final calls ?_ fresh
    reached
  intro entry member
  rw [created] at member
  cases member

end

def constructed : Decoder := ⟨-1, -1, [], 0, []⟩

-- Red is the lowest byte of a pixel, and a new bitmap is cleared.
def device : Skia where
  packARGB32 a r g b := a.toUInt32 <<< 24 ||| b.toUInt32 <<< 16 ||| g.toUInt32 <<< 8 ||| r.toUInt32
  erasePixel color :=
    let a : UInt8 := (color >>> 24).toUInt8
    let r : UInt8 := (color >>> 16).toUInt8
    let g : UInt8 := (color >>> 8).toUInt8
    if a = 0 then 0 else a.toUInt32 <<< 24 ||| color.toUInt8.toUInt32 <<< 16 ||| g.toUInt32 <<< 8 ||| r.toUInt32
  rgb565 pixels := pixels.map fun (pixel : UInt32) =>
    let r : UInt16 := (pixel.toUInt8 >>> 3).toUInt16
    let g : UInt16 := ((pixel >>> 8).toUInt8 >>> 2).toUInt16
    let b : UInt16 := ((pixel >>> 16).toUInt8 >>> 3).toUInt16
    r <<< 11 ||| g <<< 5 ||| b
  fresh := 0

def dot (left : Nat) (inside : left + 1 ≤ 2) (color : UInt8) (packed : UInt8) : Frame 2 1 where
  image := ⟨left, 0, 1, 1, none, [color], [⟨graphicsExtFuncCode, [packed, 0, 0, 0]⟩]⟩
  right := inside
  bottom := Nat.le_refl 1
  oneControl := List.length_filter_le _ _
  mapped := by
    intro map localMap
    cases localMap

-- A black background, a white dot that is cleared and then a white dot beside it.
def blink : Gif where
  sWidth := 2
  sHeight := 1
  wide := Nat.succ_ne_zero 1
  high := Nat.succ_ne_zero 0
  globalMap := ⟨1, [⟨0, 0, 0⟩, ⟨255, 255, 255⟩]⟩
  sBackGroundColor := 0
  background := Nat.succ_pos 1
  mapped := rfl
  frames := [dot 0 (Nat.le_succ 1) 0 4, dot 0 (Nat.le_succ 1) 1 8, dot 1 (Nat.le_refl 2) 1 4]

def asked (frames : List (Fin 3)) : List (Call blink) := frames.map fun frameIndex => .getFrameBitmap frameIndex

theorem blink_composed :
    Composed device blink ⟨0, 0, [0xff000000, 0xff000000], 0xff000000,
      [(0, some [0, 0]), (1, some [0xffff, 0]), (2, some [0, 0xffff])]⟩ :=
  random_access device blink constructed _ (asked [2, 1, 0]) rfl (by decide) rfl

-- The frame drawn last is taken for drawn into the new bitmap as well.
theorem repeat_is_lost : ¬ ∀ (calls : List (Call blink)) (final : Decoder),
    run (step device blink) constructed calls = some final → Composed device blink final := by
  intro all
  have composed := all (asked [1, 1]) _ rfl
  obtain ⟨pixels, returned, -⟩ := composed (1, none) (by decide)
  cases returned

end Droidlogic.Core
