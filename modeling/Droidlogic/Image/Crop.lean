import Mathlib.Tactic.Ring
import Droidlogic.Lib.Bytes
import Droidlogic.Lib.Counted

set_option autoImplicit false

namespace Droidlogic.Image

open Lib

def retOk : Int := 0
def retErrParameter : Int := -5
def retErrBadValue : Int := -6
def videoLayerFormatRgb : Int32 := 0

-- Four bytes a pixel. The pixels end with the last pixel of the last row.
structure Layout where
  width : Int32
  height : Int32
  rowBytes : Nat
  wide : 0 < width
  high : 0 < height
  stride : 4 * width.toNatClampNeg ≤ rowBytes

def Layout.size (layout : Layout) : Nat :=
  layout.rowBytes * (layout.height.toNatClampNeg - 1) + 4 * layout.width.toNatClampNeg

structure SkBitmap (layout : Layout) where
  pixels : Bytes
  sized : pixels.length = layout.size

structure Crop where
  cropX : Int32
  cropY : Int32
  cropWidth : Int32
  cropHeight : Int32

structure FrameInfo where
  pBuff : Bytes
  frame_width : Int32
  frame_height : Int32
  format : Int32

-- bytes is the argument of malloc; no frame is rendered where malloc fails.
structure Shown where
  bytes : Nat
  frame : Option FrameInfo

-- none is an access outside of one of the two buffers.
def copyByte (pSrc : Bytes) (pDst : Int) (offset : UInt32) (buffer : Bytes) : Option Bytes :=
  match pSrc[offset.toNat]? with
  | none => none
  | some byte => if 0 ≤ pDst ∧ pDst < buffer.length then some (buffer.set pDst.toNat byte) else none

section
variable (layout : Layout) (crop : Crop)

-- size_t has 64 bits, and the sum is cut to 32.
def srcOffset (y : Nat) : UInt32 :=
  UInt32.ofNat layout.rowBytes * (crop.cropY + Int32.ofNat y).toUInt32 + (4 * crop.cropX).toUInt32

def len : Int32 := crop.cropWidth * crop.cropHeight * 3

def u32DstStride : UInt32 := (crop.cropWidth * 3).toUInt32

def copyPixel (pSrc : Bytes) (y x : Nat) (buffer : Bytes) : Option Bytes := do
  let pDst : Int := y * (u32DstStride crop).toNat
  let u32X := (4 * Int32.ofNat x).toUInt32
  let blue ← copyByte pSrc (pDst + (3 * Int32.ofNat x + 0).toInt) (u32X + srcOffset layout crop y + 0) buffer
  let green ← copyByte pSrc (pDst + (3 * Int32.ofNat x + 1).toInt) (u32X + srcOffset layout crop y + 1) blue
  copyByte pSrc (pDst + (3 * Int32.ofNat x + 2).toInt) (u32X + srcOffset layout crop y + 2) green

def copyRow (pSrc : Bytes) (y : Nat) (buffer : Bytes) : Option Bytes :=
  counted (copyPixel layout crop pSrc y) crop.cropWidth.toNatClampNeg buffer

def copyRect (pSrc buffer : Bytes) : Option Bytes :=
  counted (copyRow layout crop pSrc) crop.cropHeight.toNatClampNeg buffer

def mallocBytes : Nat := ((len crop).toInt % 2 ^ 64).toNat

-- malloc tells whether there are so many bytes.
def showBitmapRect (malloc : Nat → Bool) (bitmap : SkBitmap layout) : Option Shown :=
  if malloc (mallocBytes crop) then
    (copyRect layout crop bitmap.pixels (List.replicate (mallocBytes crop) 0)).map fun bitmapAddr =>
      ⟨mallocBytes crop, some ⟨bitmapAddr, crop.cropWidth, crop.cropHeight, videoLayerFormatRgb⟩⟩
  else some ⟨mallocBytes crop, none⟩

def accepts : Bool :=
  -1 < crop.cropX && crop.cropX < layout.width && -1 < crop.cropY && crop.cropY < layout.height &&
    0 < crop.cropWidth && 0 < crop.cropHeight &&
    crop.cropX + crop.cropWidth ≤ layout.width && crop.cropY + crop.cropHeight ≤ layout.height

def setCropRect (malloc : Nat → Bool) (mBitmap : Option (SkBitmap layout)) : Option (Int × Option Shown) :=
  match mBitmap with
  | none => some (retErrBadValue, none)
  | some bitmap =>
      if accepts layout crop then (showBitmapRect layout crop malloc bitmap).map fun shown => (retOk, some shown)
      else some (retErrParameter, none)

-- The byte of the bitmap that a byte of the picture stands for.
def sourceByte (x y c : Nat) : Nat :=
  layout.rowBytes * (crop.cropY.toNatClampNeg + y) + 4 * (crop.cropX.toNatClampNeg + x) + c

structure Inside : Prop where
  left : 0 ≤ crop.cropX.toInt
  top : 0 ≤ crop.cropY.toInt
  wide : 0 < crop.cropWidth.toInt
  high : 0 < crop.cropHeight.toInt
  right : crop.cropX.toInt + crop.cropWidth.toInt ≤ layout.width.toInt
  bottom : crop.cropY.toInt + crop.cropHeight.toInt ≤ layout.height.toInt

-- The picture has the pixels of the rectangle, row after row, without their last bytes.
structure Cut (pixels : Bytes) (frame : FrameInfo) : Prop where
  width : frame.frame_width = crop.cropWidth
  height : frame.frame_height = crop.cropHeight
  size : (frame.pBuff.length : Int) = crop.cropWidth.toInt * crop.cropHeight.toInt * 3
  bytes : ∀ x y c : Nat, x < crop.cropWidth.toNatClampNeg → y < crop.cropHeight.toNatClampNeg → c < 3 →
    frame.pBuff[3 * (crop.cropWidth.toNatClampNeg * y + x) + c]? = pixels[sourceByte layout crop x y c]?

-- What an accepted rectangle is promised.
structure Kept (malloc : Nat → Bool) (bitmap : SkBitmap layout) : Prop where
  inside : Inside layout crop
  shown : ∃ shown, setCropRect layout crop malloc (some bitmap) = some (retOk, some shown) ∧
    (shown.bytes : Int) = crop.cropWidth.toInt * crop.cropHeight.toInt * 3 ∧
      ∀ frame, shown.frame = some frame → Cut layout crop bitmap.pixels frame

structure Fits : Prop where
  right : crop.cropX.toInt + crop.cropWidth.toInt < 2 ^ 31
  bottom : crop.cropY.toInt + crop.cropHeight.toInt < 2 ^ 31
  length : crop.cropWidth.toInt * crop.cropHeight.toInt * 3 < 2 ^ 31
  offset : sourceByte layout crop (crop.cropWidth.toNatClampNeg - 1) (crop.cropHeight.toNatClampNeg - 1) 2 < 2 ^ 32

theorem clamp_int (value : Int32) (low : 0 ≤ value.toInt) : (value.toNatClampNeg : Int) = value.toInt :=
  Int32.cast_toNatClampNeg value (Int32.le_iff_toInt_le.mpr low)

theorem int_range (value : Int32) : -2147483648 ≤ value.toInt ∧ value.toInt < 2147483648 :=
  ⟨value.le_toInt, value.toInt_lt⟩

theorem accepts_iff :
    accepts layout crop = true ↔
      (0 ≤ crop.cropX.toInt ∧ 0 ≤ crop.cropY.toInt ∧ 0 < crop.cropWidth.toInt ∧ 0 < crop.cropHeight.toInt) ∧
        (crop.cropX.toInt < layout.width.toInt ∧ crop.cropY.toInt < layout.height.toInt) ∧
          (crop.cropX + crop.cropWidth).toInt ≤ layout.width.toInt ∧
            (crop.cropY + crop.cropHeight).toInt ≤ layout.height.toInt := by
  simp only [accepts, Bool.and_eq_true, decide_eq_true_eq, Int32.lt_iff_toInt_lt, Int32.le_iff_toInt_le]
  have minus : (-1 : Int32).toInt = -1 := rfl
  have zero : (0 : Int32).toInt = 0 := rfl
  rw [minus, zero]
  omega

theorem sum_int (a b : Int32) (low : 0 ≤ a.toInt) (positive : 0 < b.toInt) :
    (a + b).toInt = if a.toInt + b.toInt < 2147483648 then a.toInt + b.toInt else a.toInt + b.toInt - 4294967296 := by
  have first := int_range a
  have second := int_range b
  rw [Int32.toInt_add, Int.bmod_def]
  split <;> omega

-- An accepted rectangle lies in the bitmap where neither sum wraps, and only there.
theorem inside_iff (accepted : accepts layout crop = true) :
    Inside layout crop ↔
      crop.cropX.toInt + crop.cropWidth.toInt < 2 ^ 31 ∧ crop.cropY.toInt + crop.cropHeight.toInt < 2 ^ 31 := by
  obtain ⟨⟨left, top, wide, high⟩, _, right, bottom⟩ := (accepts_iff layout crop).mp accepted
  rw [sum_int crop.cropX crop.cropWidth left wide] at right
  rw [sum_int crop.cropY crop.cropHeight top high] at bottom
  have width := int_range layout.width
  have height := int_range layout.height
  constructor
  · intro inside
    have first := inside.right
    have second := inside.bottom
    omega
  · rintro ⟨narrow, low⟩
    rw [if_pos (by omega)] at right bottom
    exact ⟨left, top, wide, high, right, bottom⟩

theorem len_int : (len crop).toInt = (crop.cropWidth.toInt * crop.cropHeight.toInt * 3).bmod (2 ^ 32) := by
  have three : (3 : Int32).toInt = 3 := rfl
  rw [len, Int32.toInt_mul, Int32.toInt_mul, three, Int.bmod_mul_bmod]

theorem size_t_int (value : Int) (low : -2147483648 ≤ value) (high : value < 2147483648) :
    ((value % 2 ^ 64).toNat : Int) = if 0 ≤ value then value else value + 2 ^ 64 := by
  split
  · rw [Int.emod_eq_of_lt (by omega) (by omega)]
    omega
  · rw [← Int.add_emod_right, Int.emod_eq_of_lt (by omega) (by omega)]
    omega

theorem malloc_bytes_iff (wide : 0 < crop.cropWidth.toInt) (high : 0 < crop.cropHeight.toInt) :
    (mallocBytes crop : Int) = crop.cropWidth.toInt * crop.cropHeight.toInt * 3 ↔
      crop.cropWidth.toInt * crop.cropHeight.toInt * 3 < 2 ^ 31 := by
  have positive : 0 < crop.cropWidth.toInt * crop.cropHeight.toInt := Int.mul_pos wide high
  have bounded : crop.cropWidth.toInt * crop.cropHeight.toInt ≤ 2147483648 * 2147483648 :=
    Int.mul_le_mul (Int.le_of_lt (int_range _).2) (Int.le_of_lt (int_range _).2) (Int.le_of_lt high) (by decide)
  have modulus : ((2 ^ 32 : Nat) : Int) = 4294967296 := rfl
  rw [mallocBytes, size_t_int _ (int_range _).1 (int_range _).2, len_int, Int.bmod_def, modulus]
  generalize crop.cropWidth.toInt * crop.cropHeight.toInt = area at positive bounded ⊢
  by_cases small : area * 3 < 2147483648
  · rw [Int.emod_eq_of_lt (by omega) (by omega), if_pos (by omega), if_pos (by omega)]
    exact iff_of_true rfl small
  · refine iff_of_false (fun same => ?_) small
    by_cases low : area * 3 % 4294967296 < (4294967296 + 1) / 2
    · rw [if_pos low, if_pos (by omega)] at same
      omega
    · rw [if_neg low, if_neg (by omega)] at same
      omega

theorem u32_of_clamp (value : Int32) (low : 0 ≤ value.toInt) : value.toUInt32 = UInt32.ofNat value.toNatClampNeg := by
  rw [← Int32.toNat_toUInt32_of_le (Int32.le_iff_toInt_le.mpr low), UInt32.ofNat_toNat]

theorem offset_at (left : 0 ≤ crop.cropX.toInt) (top : 0 ≤ crop.cropY.toInt) (x y c : Nat) :
    ((4 * Int32.ofNat x).toUInt32 + srcOffset layout crop y + UInt32.ofNat c).toNat =
      sourceByte layout crop x y c % 2 ^ 32 := by
  rw [← UInt32.toNat_ofNat', sourceByte, srcOffset, Int32.toUInt32_mul, Int32.toUInt32_mul, Int32.toUInt32_add,
    Int32.toUInt32_ofNat', Int32.toUInt32_ofNat', u32_of_clamp _ left, u32_of_clamp _ top]
  refine congrArg UInt32.toNat ?_
  have four : (4 : Int32).toUInt32 = UInt32.ofNat 4 := rfl
  simp only [UInt32.ofNat_add, UInt32.ofNat_mul, four, UInt32.mul_add]
  ac_rfl

-- The places in the source of the bytes of the picture, row after row.
def sourceOf (n : Nat) : Nat :=
  sourceByte layout crop (n / 3 % crop.cropWidth.toNatClampNeg) (n / 3 / crop.cropWidth.toNatClampNeg) (n % 3) % 2 ^ 32

theorem source_of_pixel (x y c : Nat) (column : x < crop.cropWidth.toNatClampNeg) (channel : c < 3) :
    sourceOf layout crop (3 * (crop.cropWidth.toNatClampNeg * y + x) + c) = sourceByte layout crop x y c % 2 ^ 32 := by
  have pixel : (3 * (crop.cropWidth.toNatClampNeg * y + x) + c) / 3 = crop.cropWidth.toNatClampNeg * y + x := by omega
  have rest : (3 * (crop.cropWidth.toNatClampNeg * y + x) + c) % 3 = c := by omega
  rw [sourceOf, pixel, rest, Nat.mul_add_mod, Nat.mod_eq_of_lt column, Nat.mul_add_div (Nat.zero_lt_of_lt column),
    Nat.div_eq_of_lt column, Nat.add_zero]

theorem copy_byte_yields (pSrc buffer : Bytes) (pDst : Int) (offset : UInt32) (size k : Nat)
    (filled : Filled pSrc (sourceOf layout crop) size k buffer) (here : pDst = k) (small : k < size)
    (from_ : offset.toNat = sourceOf layout crop k) :
    Yields (copyByte pSrc pDst offset buffer) (sourceOf layout crop k < pSrc.length)
      (Filled pSrc (sourceOf layout crop) size (k + 1)) := by
  rw [copyByte, from_]
  cases found : pSrc[sourceOf layout crop k]? with
  | none => exact ⟨fun inside => absurd (List.getElem?_eq_none_iff.mp found) (Nat.not_le_of_lt inside), nofun⟩
  | some byte =>
      have room : 0 ≤ pDst ∧ pDst < buffer.length := by
        rw [here, filled.length]
        exact ⟨Int.natCast_nonneg k, Int.ofNat_lt.mpr small⟩
      dsimp only
      rw [if_pos room, here]
      refine ⟨fun _ => ⟨_, rfl⟩, ?_⟩
      rintro _ ⟨⟩
      exact filled_set pSrc (sourceOf layout crop) size k buffer byte filled small found

section
variable (left : 0 ≤ crop.cropX.toInt) (top : 0 ≤ crop.cropY.toInt) (wide : 0 < crop.cropWidth.toInt)
  (high : 0 < crop.cropHeight.toInt) (short : crop.cropWidth.toInt * crop.cropHeight.toInt * 3 < 2 ^ 31)

include wide high short in
theorem malloc_bytes_area : mallocBytes crop = 3 * (crop.cropWidth.toNatClampNeg * crop.cropHeight.toNatClampNeg) := by
  have whole := (malloc_bytes_iff crop wide high).mpr short
  rw [← clamp_int _ (Int.le_of_lt wide), ← clamp_int _ (Int.le_of_lt high)] at whole
  have area : (mallocBytes crop : Int) =
      ((crop.cropWidth.toNatClampNeg * crop.cropHeight.toNatClampNeg * 3 : Nat) : Int) := by
    rw [whole, Int.natCast_mul, Int.natCast_mul]
    rfl
  rw [Int.ofNat_inj.mp area, Nat.mul_comm]

include wide high short in
theorem area_short : 3 * (crop.cropWidth.toNatClampNeg * crop.cropHeight.toNatClampNeg) < 2147483648 := by
  have whole := (malloc_bytes_iff crop wide high).mpr short
  rw [malloc_bytes_area crop wide high short] at whole
  omega

include wide high short in
theorem stride_nat : (u32DstStride crop).toNat = 3 * crop.cropWidth.toNatClampNeg := by
  have area := area_short crop wide high short
  have rows : 1 ≤ crop.cropHeight.toNatClampNeg := by
    have same := clamp_int _ (Int.le_of_lt high)
    omega
  have one := Nat.mul_le_mul_left crop.cropWidth.toNatClampNeg rows
  have three : (3 : Int32).toUInt32 = UInt32.ofNat 3 := rfl
  rw [u32DstStride, Int32.toUInt32_mul, three, u32_of_clamp _ (Int.le_of_lt wide), ← UInt32.ofNat_mul, UInt32.toNat_ofNat']
  omega

theorem channel_int (x c : Nat) (small : 3 * x + c < 2147483648) :
    (3 * Int32.ofNat x + Int32.ofNat c).toInt = 3 * x + c := by
  have three : (3 : Int32) = Int32.ofNat 3 := rfl
  rw [three, ← Int32.ofNat_mul, ← Int32.ofNat_add, Int32.toInt_ofNat_of_lt small]
  omega

include left top wide high short in
theorem copy_channel_yields (pSrc buffer : Bytes) (x y c : Nat) (column : x < crop.cropWidth.toNatClampNeg)
    (row : y < crop.cropHeight.toNatClampNeg) (channel : c < 3)
    (filled : Filled pSrc (sourceOf layout crop) (mallocBytes crop) (3 * (crop.cropWidth.toNatClampNeg * y + x) + c)
      buffer) :
    Yields
      (copyByte pSrc (y * (u32DstStride crop).toNat + (3 * Int32.ofNat x + Int32.ofNat c).toInt)
        ((4 * Int32.ofNat x).toUInt32 + srcOffset layout crop y + UInt32.ofNat c) buffer)
      (sourceByte layout crop x y c % 2 ^ 32 < pSrc.length)
      (Filled pSrc (sourceOf layout crop) (mallocBytes crop) (3 * (crop.cropWidth.toNatClampNeg * y + x) + c + 1)) := by
  have area := area_short crop wide high short
  have rows : crop.cropWidth.toNatClampNeg * (y + 1) ≤ crop.cropWidth.toNatClampNeg * crop.cropHeight.toNatClampNeg :=
    Nat.mul_le_mul_left _ row
  rw [Nat.mul_succ] at rows
  have place : ((y * (u32DstStride crop).toNat : Int) + (3 * Int32.ofNat x + Int32.ofNat c).toInt) =
      ((3 * (crop.cropWidth.toNatClampNeg * y + x) + c : Nat) : Int) := by
    rw [stride_nat crop wide high short, channel_int x c (by omega)]
    push_cast
    ring
  have source := source_of_pixel layout crop x y c column channel
  rw [← source]
  refine copy_byte_yields layout crop pSrc buffer _ _ (mallocBytes crop) _ filled place ?_ ?_
  · rw [malloc_bytes_area crop wide high short]
    omega
  · rw [offset_at layout crop left top, source]

include left top wide high short

theorem copy_pixel_yields (pSrc buffer : Bytes) (x y : Nat) (column : x < crop.cropWidth.toNatClampNeg)
    (row : y < crop.cropHeight.toNatClampNeg)
    (filled : Filled pSrc (sourceOf layout crop) (mallocBytes crop) (3 * (crop.cropWidth.toNatClampNeg * y + x)) buffer) :
    Yields (copyPixel layout crop pSrc y x buffer) (∀ c < 3, sourceByte layout crop x y c % 2 ^ 32 < pSrc.length)
      (Filled pSrc (sourceOf layout crop) (mallocBytes crop) (3 * (crop.cropWidth.toNatClampNeg * y + (x + 1)))) := by
  have channel (c : Nat) (small : c < 3) (before : Bytes) :=
    copy_channel_yields layout crop left top wide high short pSrc before x y c column row small
  have green := fun blue filledBlue => yields_bind _ _ _ _ _ _ (channel 1 (by decide) blue filledBlue) (channel 2 (by decide))
  have all := yields_bind _ _ _ _ _ _ (channel 0 (by decide) buffer filled) green
  refine yields_imp _ _ _ _ all fun inside => ⟨inside 0 (by decide), inside 1 (by decide), inside 2 (by decide)⟩

theorem copy_rect_yields (pSrc : Bytes) :
    Yields (copyRect layout crop pSrc (List.replicate (mallocBytes crop) 0))
      (∀ y < crop.cropHeight.toNatClampNeg, ∀ x < crop.cropWidth.toNatClampNeg, ∀ c < 3,
        sourceByte layout crop x y c % 2 ^ 32 < pSrc.length)
      (Filled pSrc (sourceOf layout crop) (mallocBytes crop)
        (3 * (crop.cropWidth.toNatClampNeg * crop.cropHeight.toNatClampNeg))) := by
  have empty : Filled pSrc (sourceOf layout crop) (mallocBytes crop) (3 * (crop.cropWidth.toNatClampNeg * 0))
      (List.replicate (mallocBytes crop) 0) := ⟨List.length_replicate, fun n none => absurd none (Nat.not_lt_zero n)⟩
  refine counted_yields _
    (fun y => Filled pSrc (sourceOf layout crop) (mallocBytes crop) (3 * (crop.cropWidth.toNatClampNeg * y)))
    _ _ _ empty ?_
  intro y row before filled
  refine counted_yields _
    (fun x => Filled pSrc (sourceOf layout crop) (mallocBytes crop) (3 * (crop.cropWidth.toNatClampNeg * y + x)))
    _ _ _ filled ?_
  intro x column state reached
  exact copy_pixel_yields layout crop left top wide high short pSrc state x y column row reached

end

theorem filled_cut (pixels buffer : Bytes)
    (filled : Filled pixels (sourceOf layout crop) (mallocBytes crop)
      (3 * (crop.cropWidth.toNatClampNeg * crop.cropHeight.toNatClampNeg)) buffer)
    (x y c : Nat) (column : x < crop.cropWidth.toNatClampNeg) (row : y < crop.cropHeight.toNatClampNeg) (channel : c < 3) :
    buffer[3 * (crop.cropWidth.toNatClampNeg * y + x) + c]? = pixels[sourceByte layout crop x y c % 2 ^ 32]? := by
  have rows : crop.cropWidth.toNatClampNeg * (y + 1) ≤ crop.cropWidth.toNatClampNeg * crop.cropHeight.toNatClampNeg :=
    Nat.mul_le_mul_left _ row
  rw [Nat.mul_succ] at rows
  rw [filled.items _ (by omega), source_of_pixel layout crop x y c column channel]

theorem source_byte_last (x y c : Nat) (column : x < crop.cropWidth.toNatClampNeg) (row : y < crop.cropHeight.toNatClampNeg)
    (channel : c < 3) :
    sourceByte layout crop x y c ≤
      sourceByte layout crop (crop.cropWidth.toNatClampNeg - 1) (crop.cropHeight.toNatClampNeg - 1) 2 := by
  have rows : layout.rowBytes * (crop.cropY.toNatClampNeg + y) ≤
      layout.rowBytes * (crop.cropY.toNatClampNeg + (crop.cropHeight.toNatClampNeg - 1)) :=
    Nat.mul_le_mul_left _ (by omega)
  rw [sourceByte, sourceByte]
  omega

theorem source_byte_inside (inside : Inside layout crop) (x y c : Nat) (column : x < crop.cropWidth.toNatClampNeg)
    (row : y < crop.cropHeight.toNatClampNeg) (channel : c < 3) : sourceByte layout crop x y c < layout.size := by
  have x0 := clamp_int _ inside.left
  have y0 := clamp_int _ inside.top
  have w := clamp_int _ (Int.le_of_lt inside.wide)
  have h := clamp_int _ (Int.le_of_lt inside.high)
  have width := clamp_int layout.width (Int.le_of_lt (Int32.lt_iff_toInt_lt.mp layout.wide))
  have height := clamp_int layout.height (Int.le_of_lt (Int32.lt_iff_toInt_lt.mp layout.high))
  have right := inside.right
  have bottom := inside.bottom
  have rows : layout.rowBytes * (crop.cropY.toNatClampNeg + y) ≤
      layout.rowBytes * (layout.height.toNatClampNeg - 1) :=
    Nat.mul_le_mul_left _ (by omega)
  rw [sourceByte, Layout.size]
  omega

theorem set_crop_rect_accepted (accepted : accepts layout crop = true) (malloc : Nat → Bool) (bitmap : SkBitmap layout)
    (shown : Shown) :
    setCropRect layout crop malloc (some bitmap) = some (retOk, some shown) ↔
      showBitmapRect layout crop malloc bitmap = some shown := by
  rw [setCropRect, if_pos accepted, Option.map_eq_some_iff]
  constructor
  · rintro ⟨_, done, same⟩
    cases same
    exact done
  · exact fun done => ⟨shown, done, rfl⟩

theorem show_bytes (malloc : Nat → Bool) (bitmap : SkBitmap layout) (shown : Shown)
    (done : showBitmapRect layout crop malloc bitmap = some shown) : shown.bytes = mallocBytes crop := by
  rw [showBitmapRect] at done
  split at done
  · obtain ⟨_, _, same⟩ := Option.map_eq_some_iff.mp done
    cases same
    rfl
  · cases done
    rfl

theorem kept_of_fits (accepted : accepts layout crop = true) (fits : Fits layout crop) (malloc : Nat → Bool)
    (bitmap : SkBitmap layout) : Kept layout crop malloc bitmap := by
  have inside := (inside_iff layout crop accepted).mpr ⟨fits.right, fits.bottom⟩
  have area := malloc_bytes_area crop inside.wide inside.high fits.length
  have bytes := (malloc_bytes_iff crop inside.wide inside.high).mpr fits.length
  have near (x y c : Nat) (column : x < crop.cropWidth.toNatClampNeg) (row : y < crop.cropHeight.toNatClampNeg)
      (channel : c < 3) : sourceByte layout crop x y c % 2 ^ 32 = sourceByte layout crop x y c :=
    Nat.mod_eq_of_lt (Nat.lt_of_le_of_lt (source_byte_last layout crop x y c column row channel) fits.offset)
  have copies := copy_rect_yields layout crop inside.left inside.top inside.wide inside.high fits.length bitmap.pixels
  refine ⟨inside, ?_⟩
  simp only [set_crop_rect_accepted layout crop accepted, showBitmapRect]
  split
  · obtain ⟨buffer, copied⟩ := copies.there fun y row x column c channel => by
      rw [near x y c column row channel, bitmap.sized]
      exact source_byte_inside layout crop inside x y c column row channel
    have filled := copies.meets buffer copied
    rw [copied]
    refine ⟨_, rfl, bytes, ?_⟩
    rintro _ ⟨⟩
    refine ⟨rfl, rfl, ?_, ?_⟩
    · rw [← bytes, filled.length]
    · intro x y c column row channel
      rw [filled_cut layout crop bitmap.pixels buffer filled x y c column row channel, near x y c column row channel]
  · exact ⟨_, rfl, bytes, nofun⟩

-- A bitmap in which one byte differs from all the others.
def marked (k : Nat) : SkBitmap layout :=
  ⟨(List.replicate layout.size 0).set k 1, by rw [List.length_set, List.length_replicate]⟩

theorem marked_self (k : Nat) (inside : k < layout.size) : (marked layout k).pixels[k]? = some 1 :=
  List.getElem?_set_self (by rw [List.length_replicate]; exact inside)

theorem marked_other (k other : Nat) (different : other ≠ k) : (marked layout k).pixels[other]? ≠ some 1 := by
  rw [marked, List.getElem?_set_ne (Ne.symm different), List.getElem?_replicate]
  split
  · exact fun same => absurd (Option.some.inj same) (by decide)
  · nofun

theorem fits_of_kept (accepted : accepts layout crop = true)
    (kept : ∀ malloc (bitmap : SkBitmap layout), Kept layout crop malloc bitmap) : Fits layout crop := by
  let last := sourceByte layout crop (crop.cropWidth.toNatClampNeg - 1) (crop.cropHeight.toNatClampNeg - 1) 2
  obtain ⟨inside, shown, done, bytes, cut⟩ := kept (fun _ => true) (marked layout last)
  obtain ⟨right, bottom⟩ := (inside_iff layout crop accepted).mp inside
  have done := (set_crop_rect_accepted layout crop accepted _ _ shown).mp done
  rw [show_bytes layout crop _ _ shown done] at bytes
  have length := (malloc_bytes_iff crop inside.wide inside.high).mp bytes
  refine ⟨right, bottom, length, ?_⟩
  rw [showBitmapRect, if_pos rfl] at done
  obtain ⟨buffer, copied, same⟩ := Option.map_eq_some_iff.mp done
  cases same
  have copies := copy_rect_yields layout crop inside.left inside.top inside.wide inside.high length
    (marked layout last).pixels
  have columns := clamp_int _ (Int.le_of_lt inside.wide)
  have rows := clamp_int _ (Int.le_of_lt inside.high)
  have wide := inside.wide
  have high := inside.high
  have column : crop.cropWidth.toNatClampNeg - 1 < crop.cropWidth.toNatClampNeg := by omega
  have row : crop.cropHeight.toNatClampNeg - 1 < crop.cropHeight.toNatClampNeg := by omega
  have read := (cut _ rfl).bytes _ _ 2 column row (by decide)
  have its := filled_cut layout crop _ buffer (copies.meets buffer copied) _ _ 2 column row (by decide)
  have mark := marked_self layout last (source_byte_inside layout crop inside _ _ 2 column row (by decide))
  by_contra far
  refine marked_other layout last (last % 2 ^ 32) (fun same => ?_) (its.symm.trans (read.trans mark))
  have small := Nat.mod_lt last (Nat.two_pow_pos 32)
  rw [same] at small
  exact far small

theorem crop_kept_iff :
    (accepts layout crop = true → ∀ malloc (bitmap : SkBitmap layout), Kept layout crop malloc bitmap) ↔
      (accepts layout crop = true → Fits layout crop) := by
  constructor
  · exact fun kept accepted => fits_of_kept layout crop accepted (kept accepted)
  · exact fun fits accepted malloc bitmap => kept_of_fits layout crop accepted (fits accepted) malloc bitmap

end

def square : Layout := ⟨4, 4, 16, by decide, by decide, by decide⟩

def wideCrop : Crop := ⟨1, 0, 2147483647, 1⟩

-- The sum of the left edge and the width wraps below zero.
theorem wide_crop_accepted :
    accepts square wideCrop = true ∧ ¬Inside square wideCrop ∧
      ∀ malloc (bitmap : SkBitmap square), ¬Kept square wideCrop malloc bitmap := by
  have outside : ¬Inside square wideCrop := fun inside => absurd inside.right (by decide)
  exact ⟨by decide, outside, fun malloc bitmap kept => outside kept.inside⟩

end Droidlogic.Image
