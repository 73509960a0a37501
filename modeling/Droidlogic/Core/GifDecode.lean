import Mathlib.Data.List.Basic
import Mathlib.Data.Int.Basic

set_option autoImplicit false

namespace Droidlogic.Core

structure GifColorType where
  red : UInt8
  green : UInt8
  blue : UInt8
deriving DecidableEq

structure ColorMapObject where
  bitsPerPixel : Nat
  colors : List GifColorType
deriving DecidableEq

structure ExtensionBlock where
  function : Nat
  bytes : List UInt8
deriving DecidableEq

structure SavedImage where
  left : Nat
  top : Nat
  width : Nat
  height : Nat
  colorMap : Option ColorMapObject
  rasterBits : List UInt8
  extensionBlocks : List ExtensionBlock
deriving DecidableEq

structure GifFileType where
  sWidth : Nat
  sHeight : Nat
  sColorMap : Option ColorMapObject
  sBackGroundColor : Nat
  savedImages : List SavedImage

-- What is used of the graphics library: how a pixel is packed, what eraseColor writes
-- for a colour, how a bitmap is converted, and what a new bitmap holds.
structure Skia where
  packARGB32 : UInt8 → UInt8 → UInt8 → UInt8 → UInt32
  erasePixel : UInt32 → UInt32
  rgb565 : List UInt32 → List UInt16
  fresh : UInt32

def colorSetARGB (a r g b : UInt8) : UInt32 :=
  a.toUInt32 <<< 24 ||| r.toUInt32 <<< 16 ||| g.toUInt32 <<< 8 ||| b.toUInt32

def graphicsExtFuncCode : Nat := 0xf9

def isControl (block : ExtensionBlock) : Bool := block.function = graphicsExtFuncCode && block.bytes.length = 4

def hasTransparency (block : ExtensionBlock) : Bool := block.bytes.getD 0 0 &&& 1 = 1

def disposalMethod (block : ExtensionBlock) : Nat := ((block.bytes.getD 0 0 >>> 2) &&& 7).toNat

-- A byte behind the map's colours reads black here.
def colorAt (map : ColorMapObject) (byte : UInt8) : GifColorType := map.colors.getD byte.toNat ⟨0, 0, 0⟩

-- A line of pixels from dst on: value gives what is written for each source index, if
-- anything is.
def writeLine (value : Nat → Option UInt32) : Nat → Nat → Nat → List UInt32 → List UInt32
  | 0, _, _, pixels => pixels
  | width + 1, src, dst, pixels => writeLine value width (src + 1) (dst + 1) ((value src).elim pixels (pixels.set dst))

def writeLines (value : Nat → Option UInt32) (copyWidth stride width : Nat) : Nat → Nat → Nat → List UInt32 → List UInt32
  | 0, _, _, pixels => pixels
  | lines + 1, src, dst, pixels =>
      writeLines value copyWidth stride width lines (src + stride) (dst + width)
        (writeLine value copyWidth src dst pixels)

def clip (start count size : Nat) : Nat := if start + count > size then size - start else count

section
variable (skia : Skia) (gif : GifFileType)

-- copyLine, at one source byte
def linePixel (frame : SavedImage) (cmap : ColorMapObject) (transparent : Int) (src : Nat) : Option UInt32 :=
  let byte := frame.rasterBits.getD src 0
  let col := colorAt cmap byte
  if (byte.toNat : Int) ≠ transparent then some (skia.packARGB32 0xff col.red col.green col.blue) else none

def blitNormal (bm : List UInt32) (frame : SavedImage) (cmap : ColorMapObject) (transparent : Int) : List UInt32 :=
  writeLines (linePixel skia frame cmap transparent) (clip frame.left frame.width gif.sWidth) frame.width gif.sWidth
    (clip frame.top frame.height gif.sHeight) 0 (frame.top * gif.sWidth + frame.left) bm

def fillRect (bm : List UInt32) (left top width height : Nat) (col : UInt32) : List UInt32 :=
  writeLines (fun _ => some col) (clip left width gif.sWidth) 0 gif.sWidth (clip top height gif.sHeight) 0
    (top * gif.sWidth + left) bm

def transparentIndex (frame : SavedImage) : Int :=
  frame.extensionBlocks.foldl (fun transparent block =>
    if isControl block && hasTransparency block then (block.bytes.getD 3 0).toNat else transparent) (-1)

def drawFrame (bm : List UInt32) (frame : SavedImage) : List UInt32 :=
  match frame.colorMap.or gif.sColorMap with
  | none => bm
  | some cmap =>
      if cmap.colors.length ≠ 1 <<< cmap.bitsPerPixel then bm
      else blitNormal skia gif bm frame cmap (transparentIndex frame)

def checkIfWillBeCleared (frame : SavedImage) : Bool :=
  frame.extensionBlocks.any fun block => isControl block && (disposalMethod block = 2 || disposalMethod block = 3)

def getTransparencyAndDisposalMethod (frame : SavedImage) : Bool × Nat :=
  frame.extensionBlocks.foldl
    (fun found block => if isControl block then (hasTransparency block, disposalMethod block) else found) (false, 0)

def checkIfCover (target covered : SavedImage) : Bool :=
  target.left ≤ covered.left && covered.left + covered.width ≤ target.left + target.width &&
    target.top ≤ covered.top && covered.top + covered.height ≤ target.top + target.height

-- paintingColor is a static variable and lives on like the others.
structure Canvas where
  bm : List UInt32
  backup : List UInt32
  paintingColor : UInt32

def saveIfRestored (next : SavedImage) (s : Canvas) : Canvas :=
  if (getTransparencyAndDisposalMethod next).2 = 3 then { s with backup := s.bm } else s

def disposeFrameIfNeeded (cur next : SavedImage) (s : Canvas) : Canvas :=
  let curDisposal := (getTransparencyAndDisposalMethod cur).2
  let nextTrans := (getTransparencyAndDisposalMethod next).1
  saveIfRestored next
    (if (curDisposal = 2 ∨ curDisposal = 3) ∧ (nextTrans = true ∨ checkIfCover next cur = false) then
      if curDisposal = 2 then
        { s with bm := fillRect gif s.bm cur.left cur.top cur.width cur.height s.paintingColor }
      else { s with bm := s.backup, backup := s.bm }
    else s)

def bgColor : UInt32 :=
  match gif.sColorMap with
  | none => skia.packARGB32 0 0 0 0
  | some map =>
      let col := map.colors.getD gif.sBackGroundColor ⟨0, 0, 0⟩
      colorSetARGB 0xff col.red col.green col.blue

def firstPaintingColor (first : SavedImage) : UInt32 :=
  if (getTransparencyAndDisposalMethod first).1 = false ∧ gif.sColorMap.isSome then bgColor skia gif
  else colorSetARGB 0 0 0 0

def erase (first : SavedImage) (s : Canvas) : Canvas :=
  let color := firstPaintingColor skia gif first
  ⟨List.replicate s.bm.length (skia.erasePixel color), List.replicate s.backup.length (skia.erasePixel color), color⟩

-- A frame that is disposed of before the next one is only drawn where it is the last one.
def drawIfKept (lastIndex i : Nat) (cur : SavedImage) (s : Canvas) : Canvas :=
  if i = lastIndex ∨ checkIfWillBeCleared cur = false then { s with bm := drawFrame skia gif s.bm cur } else s

def drawStep (lastIndex i : Nat) (s : Canvas) : Canvas :=
  match gif.savedImages[i]?, gif.savedImages[i - 1]? with
  | some cur, some prev =>
      drawIfKept skia gif lastIndex i cur (if i = 0 then erase skia gif cur s else disposeFrameIfNeeded gif prev cur s)
  | _, _ => s

-- for (int i = startIndex; i <= lastIndex; i++), with the frames left to draw.
def drawLoop (lastIndex : Nat) : Nat → Nat → Canvas → Canvas
  | 0, _, s => s
  | left + 1, i, s => drawLoop lastIndex left (i + 1) (drawStep skia gif lastIndex i s)

end

-- shown holds what nativeGetFrameBitmap returned for which frame, last first.
structure Decoder where
  fCurrIndex : Int
  fLastDrawIndex : Int
  fBackup : List UInt32
  paintingColor : UInt32
  shown : List (Int × Option (List UInt16))

section
variable (skia : Skia) (gif : GifFileType)

def lastIndexOf (fCurrIndex : Int) : Nat :=
  if fCurrIndex < 0 then 0
  else if fCurrIndex > gif.savedImages.length - 1 then gif.savedImages.length - 1
  else fCurrIndex.toNat

-- The bitmap is none while it has no pixels; every allocation succeeds.
def onGetBitmap (d : Decoder) (bm : Option (List UInt32)) : Bool × Option (List UInt32) × Decoder :=
  if gif.savedImages.length < 1 ∨ gif.sWidth = 0 ∨ gif.sHeight = 0 then (false, bm, d)
  else if 0 ≤ d.fLastDrawIndex ∧ d.fLastDrawIndex = d.fCurrIndex then (true, bm, d)
  else
    let size := gif.sWidth * gif.sHeight
    let lastIndex := lastIndexOf gif d.fCurrIndex
    let (startIndex, s) : Nat × Canvas :=
      match bm with
      | some pixels =>
          if d.fLastDrawIndex < 0 then
            (0, ⟨List.replicate size skia.fresh, List.replicate size skia.fresh, d.paintingColor⟩)
          else
            (if d.fLastDrawIndex + 1 > d.fCurrIndex then 0 else (d.fLastDrawIndex + 1).toNat,
              ⟨pixels, d.fBackup, d.paintingColor⟩)
      | none => (0, ⟨List.replicate size skia.fresh, List.replicate size skia.fresh, d.paintingColor⟩)
    let s := drawLoop skia gif lastIndex (lastIndex + 1 - startIndex) startIndex s
    (true, some s.bm, { d with fBackup := s.backup, paintingColor := s.paintingColor, fLastDrawIndex := lastIndex })

-- A bitmap without pixels cannot be converted.
def createFrameBitmap (d : Decoder) : Option (List UInt16) × Decoder :=
  let (ok, fBitmap, d) := onGetBitmap skia gif d none
  (if ok then fBitmap.map skia.rgb565 else none, d)

def nativeSetCurrFrame (d : Decoder) (frameIndex : Int) : Decoder :=
  { d with fCurrIndex := if 0 ≤ frameIndex ∧ frameIndex < gif.savedImages.length then frameIndex else 0 }

-- Its test for a wrong index is never true.
def nativeGetFrameBitmap (d : Decoder) (frameIndex : Int) : Decoder :=
  if frameIndex < 0 ∧ frameIndex ≥ gif.savedImages.length then { d with shown := (frameIndex, none) :: d.shown }
  else
    let (bitmap, d) := createFrameBitmap skia gif { d with fCurrIndex := frameIndex }
    { d with shown := (frameIndex, bitmap) :: d.shown }

end

end Droidlogic.Core
