import Mathlib.Tactic.Ring
import Droidlogic.Lib.Bytes
import Droidlogic.Lib.Chunks
import Droidlogic.Lib.Counted

set_option autoImplicit false

namespace Droidlogic.Screen.Nv21

open Lib

inductive ColorFormat
  | rgb888
  | argb8888
deriving DecidableEq

def clamp (value : Int) : UInt8 := if 255 < value then 255 else if value < 0 then 0 else UInt8.ofNat value.toNat

def yuvToRgb24 (y u v : UInt8) : Bytes :=
  let y : Int := y.toNat
  let u : Int := u.toNat
  let v : Int := v.toNat
  let r := (1192 * (y - 16) + 1634 * (v - 128)) >>> (10 : Nat)
  let g := (1192 * (y - 16) - 833 * (v - 128) - 400 * (u - 128)) >>> (10 : Nat)
  let b := (1192 * (y - 16) + 2066 * (u - 128)) >>> (10 : Nat)
  [clamp r, clamp g, clamp b]

def yuvToRgb32 (y u v : UInt8) : Bytes := yuvToRgb24 y u v ++ [0xff]

def ColorFormat.pixel : ColorFormat → UInt8 → UInt8 → UInt8 → Bytes
  | .rgb888 => yuvToRgb24
  | .argb8888 => yuvToRgb32

def ColorFormat.size : ColorFormat → Nat
  | .rgb888 => 3
  | .argb8888 => 4

-- What the media buffer holds, and the places that have been written, in order.
structure Output where
  rgb : Bytes
  stores : List Nat
deriving DecidableEq

-- none is a write outside of the media buffer.
def store (out : Output) (place : Nat) (byte : UInt8) : Option Output :=
  if place < out.rgb.length then some ⟨out.rgb.set place byte, out.stores ++ [place]⟩ else none

def storeAll (out : Output) (place : Nat) : Bytes → Option Output
  | [] => some out
  | byte :: rest => (store out place byte).bind fun next => storeAll next (place + 1) rest

section
variable (format : ColorFormat) (buf : Bytes) (width height : Nat)

-- Where V stands for the bytes y and y + 1 of the two rows from h on; U is behind it.
def chroma (h y : Nat) : Nat := width * height * 2 / 2 + h * width / 2 + y % width

-- The state is the output and z. No int of the loops leaves its range before a place leaves its
-- buffer.
def convertPair (h y : Nat) (state : Output × Nat) : Option (Output × Nat) := do
  let (out, z) := state
  let y1 ← buf[h * width + y]?
  let v ← buf[chroma width height h y]?
  let y2 ← buf[h * width + y + 1]?
  let u ← buf[chroma width height h y + 1]?
  let out ← storeAll out z (format.pixel y1 u v)
  let out ← storeAll out (z + format.size) (format.pixel y2 u v)
  some (out, z + 2 * format.size)

-- for (y = 0; y < width*2; y+=2)
def convertRows (h : Nat) (state : Output × Nat) : Option (Output × Nat) :=
  counted (fun j => convertPair format buf width height h (2 * j)) width state

-- nv21_to_rgb24 and nv21_to_rgb32: for (h = 0; h < height; h+=2)
def nv21ToRgb (rgb : Bytes) : Option Output :=
  (counted (fun k => convertRows format buf width height (2 * k)) ((height + 1) / 2) (⟨rgb, []⟩, 0)).map Prod.fst

end

theorem pixel_length (format : ColorFormat) (y u v : UInt8) : (format.pixel y u v).length = format.size := by
  cases format <;> rfl

-- Bytes that are stored behind what has been stored so far.
theorem store_all (bytes before rest : Bytes) :
    storeAll ⟨before ++ rest, List.range before.length⟩ before.length bytes =
      if bytes.length ≤ rest.length then
        some ⟨before ++ bytes ++ rest.drop bytes.length, List.range (before.length + bytes.length)⟩
      else none := by
  induction bytes generalizing before rest with
  | nil =>
      simp [storeAll]
  | cons byte later ih =>
      cases rest with
      | nil =>
          rw [storeAll, store, List.append_nil, if_neg (Nat.lt_irrefl _)]
          rfl
      | cons old rest =>
          have inside : before.length < (before ++ old :: rest).length := by
            rw [List.length_append, List.length_cons]
            omega
          have set : (before ++ old :: rest).set before.length byte = before ++ [byte] ++ rest := by
            rw [List.set_append_right _ _ (Nat.le_refl _), Nat.sub_self, List.set_cons_zero, List.append_assoc]
            rfl
          have next := ih (before ++ [byte]) rest
          rw [List.length_append, List.length_singleton] at next
          rw [storeAll, store, if_pos inside, Option.bind_some, set, ← List.range_succ]
          rw [next, List.length_cons, List.length_cons, List.drop_succ_cons, List.append_assoc before,
            List.singleton_append, Nat.add_assoc, Nat.add_comm 1]
          simp only [Nat.add_le_add_iff_right]

section
variable (format : ColorFormat) (buf : Bytes) (width height : Nat)

-- Where V of pixel i is read, in the order of the stores.
def vPlace (i : Nat) : Nat := chroma width height (2 * (i / 2 / width)) (2 * (i / 2 % width))

def colors (i : Nat) : Bytes :=
  format.pixel (buf.getD i 0) (buf.getD (vPlace width height i + 1) 0) (buf.getD (vPlace width height i) 0)

-- The first n pixels of the output.
structure Stored (rgb : Bytes) (n : Nat) (state : Output × Nat) : Prop where
  z : state.2 = format.size * n
  stores : state.1.stores = List.range (format.size * n)
  bytes : state.1.rgb = (List.range n).flatMap (colors format buf width height) ++ rgb.drop (format.size * n)
  room : format.size * n ≤ rgb.length
  reads : ∀ i < n, i < buf.length ∧ vPlace width height i + 1 < buf.length

theorem colors_length (i : Nat) : (colors format buf width height i).length = format.size := pixel_length format _ _ _

theorem colors_total (n : Nat) :
    ((List.range n).flatMap (colors format buf width height)).length = format.size * n := by
  induction n with
  | zero => rfl
  | succ n ih =>
      rw [List.range_succ, List.flatMap_append, List.length_append, ih, List.flatMap_singleton, colors_length, Nat.mul_succ]

theorem v_place_pair (k j : Nat) (column : j < width) :
    vPlace width height (2 * (width * k + j)) = chroma width height (2 * k) (2 * j) ∧
      vPlace width height (2 * (width * k + j) + 1) = chroma width height (2 * k) (2 * j) := by
  have first : 2 * (width * k + j) / 2 = width * k + j := by omega
  have second : (2 * (width * k + j) + 1) / 2 = width * k + j := by omega
  have row : (width * k + j) / width = k := by
    rw [Nat.mul_add_div (Nat.zero_lt_of_lt column), Nat.div_eq_of_lt column, Nat.add_zero]
  have place : (width * k + j) % width = j := by rw [Nat.mul_add_mod, Nat.mod_eq_of_lt column]
  rw [vPlace, vPlace, first, second, row, place]
  exact ⟨rfl, rfl⟩

-- A pixel behind the first n.
theorem store_pixel (rgb : Bytes) (n : Nat) (room : format.size * n ≤ rgb.length) :
    storeAll
        ⟨(List.range n).flatMap (colors format buf width height) ++ rgb.drop (format.size * n),
          List.range (format.size * n)⟩
        (format.size * n) (colors format buf width height n) =
      if format.size * (n + 1) ≤ rgb.length then
        some ⟨(List.range (n + 1)).flatMap (colors format buf width height) ++ rgb.drop (format.size * (n + 1)),
          List.range (format.size * (n + 1))⟩
      else none := by
  have total := colors_total format buf width height n
  have stored := store_all (colors format buf width height n) ((List.range n).flatMap (colors format buf width height))
    (rgb.drop (format.size * n))
  have grown : (List.range (n + 1)).flatMap (colors format buf width height) =
      (List.range n).flatMap (colors format buf width height) ++ colors format buf width height n := by
    rw [List.range_succ, List.flatMap_append, List.flatMap_singleton]
  have fits : format.size ≤ rgb.length - format.size * n ↔ format.size * n + format.size ≤ rgb.length := by omega
  rw [total, colors_length, List.length_drop, List.drop_drop] at stored
  rw [stored, grown, Nat.mul_succ]
  simp only [fits]

-- What the bytes y and y + 1 of the two rows read and store.
structure PairFits (rgb : Bytes) (k j : Nat) : Prop where
  luma : 2 * (width * k + j) + 1 < buf.length
  chroma : chroma width height (2 * k) (2 * j) + 1 < buf.length
  room : format.size * (2 * (width * k + j) + 2) ≤ rgb.length

instance (rgb : Bytes) (k j : Nat) : Decidable (PairFits format buf width height rgb k j) :=
  decidable_of_iff (_ ∧ _ ∧ _) ⟨fun all => ⟨all.1, all.2.1, all.2.2⟩, fun fits => ⟨fits.luma, fits.chroma, fits.room⟩⟩

theorem pair_reads (k j : Nat) (column : j < width) (i : Nat)
    (small : i < 2 * (width * k + j) + 2) (later : ¬i < 2 * (width * k + j))
    (luma : 2 * (width * k + j) + 1 < buf.length) (inside : chroma width height (2 * k) (2 * j) + 1 < buf.length) :
    i < buf.length ∧ vPlace width height i + 1 < buf.length := by
  obtain ⟨first, second⟩ := v_place_pair width height k j column
  rcases Nat.lt_or_ge (2 * (width * k + j)) i with above | below
  · have same : i = 2 * (width * k + j) + 1 := by omega
    rw [same, second]
    exact ⟨luma, inside⟩
  · have same : i = 2 * (width * k + j) := by omega
    rw [same, first]
    exact ⟨by omega, inside⟩

theorem convert_pair_eq (rgb : Bytes) (k j : Nat) (column : j < width)
    (room : format.size * (2 * (width * k + j)) ≤ rgb.length) :
    convertPair format buf width height (2 * k) (2 * j)
        (⟨(List.range (2 * (width * k + j))).flatMap (colors format buf width height) ++
            rgb.drop (format.size * (2 * (width * k + j))),
          List.range (format.size * (2 * (width * k + j)))⟩, format.size * (2 * (width * k + j))) =
      if PairFits format buf width height rgb k j then
        some (⟨(List.range (2 * (width * k + j) + 2)).flatMap (colors format buf width height) ++
            rgb.drop (format.size * (2 * (width * k + j) + 2)),
          List.range (format.size * (2 * (width * k + j) + 2))⟩, format.size * (2 * (width * k + j) + 2))
      else none := by
  obtain ⟨first, second⟩ := v_place_pair width height k j column
  have place : 2 * k * width + 2 * j = 2 * (width * k + j) := by ring
  have found (i : Nat) (inside : i < buf.length) : buf[i]? = some (buf.getD i 0) := by
    rw [List.getD_eq_getElem?_getD, List.getElem?_eq_getElem inside, Option.getD_some]
  rw [convertPair, place]
  by_cases reads : 2 * (width * k + j) + 1 < buf.length ∧ chroma width height (2 * k) (2 * j) + 1 < buf.length
  · have here : colors format buf width height (2 * (width * k + j)) = format.pixel (buf.getD (2 * (width * k + j)) 0)
        (buf.getD (chroma width height (2 * k) (2 * j) + 1) 0) (buf.getD (chroma width height (2 * k) (2 * j)) 0) := by
      rw [colors, first]
    have behind : colors format buf width height (2 * (width * k + j) + 1) =
        format.pixel (buf.getD (2 * (width * k + j) + 1) 0)
          (buf.getD (chroma width height (2 * k) (2 * j) + 1) 0) (buf.getD (chroma width height (2 * k) (2 * j)) 0) := by
      rw [colors, second]
    have pair : format.size * (2 * (width * k + j)) + format.size = format.size * (2 * (width * k + j) + 1) := by ring
    have both : format.size * (2 * (width * k + j)) + 2 * format.size = format.size * (2 * (width * k + j) + 2) := by ring
    simp only [found _ (Nat.lt_of_succ_lt reads.1), found _ reads.1, found _ (Nat.lt_of_succ_lt reads.2), found _ reads.2,
      Option.bind_eq_bind, Option.bind_some, ← here, ← behind, pair, both]
    rw [store_pixel format buf width height rgb _ room]
    by_cases one : format.size * (2 * (width * k + j) + 1) ≤ rgb.length
    · rw [if_pos one, Option.bind_some, store_pixel format buf width height rgb _ one]
      by_cases two : format.size * (2 * (width * k + j) + 2) ≤ rgb.length
      · rw [if_pos two, if_pos ⟨reads.1, reads.2, two⟩]
        rfl
      · rw [if_neg two, if_neg fun fits => two fits.room]
        rfl
    · have two : ¬format.size * (2 * (width * k + j) + 2) ≤ rgb.length := fun two =>
        one (Nat.le_trans (Nat.mul_le_mul_left _ (Nat.le_succ _)) two)
      rw [if_neg one, if_neg fun fits => two fits.room]
      rfl
  · rw [if_neg fun fits => reads ⟨fits.luma, fits.chroma⟩]
    rcases not_and_or.mp reads with outside | outside
    · rw [List.getElem?_eq_none (Nat.le_of_not_lt outside)]
      cases buf[2 * (width * k + j)]? with
      | none => rfl
      | some y1 => cases buf[chroma width height (2 * k) (2 * j)]? <;> rfl
    · rw [List.getElem?_eq_none (Nat.le_of_not_lt outside)]
      cases buf[2 * (width * k + j)]? with
      | none => rfl
      | some y1 =>
          cases buf[chroma width height (2 * k) (2 * j)]? with
          | none => rfl
          | some v => cases buf[2 * (width * k + j) + 1]? <;> rfl

theorem convert_pair_yields (rgb : Bytes) (k j : Nat) (column : j < width) (state : Output × Nat)
    (stored : Stored format buf width height rgb (2 * (width * k + j)) state) :
    Yields (convertPair format buf width height (2 * k) (2 * j) state) (PairFits format buf width height rgb k j)
      (Stored format buf width height rgb (2 * (width * k + (j + 1)))) := by
  obtain ⟨⟨bytes, places⟩, z⟩ := state
  obtain ⟨rfl, rfl, rfl, room, reads⟩ := stored
  have next : 2 * (width * k + (j + 1)) = 2 * (width * k + j) + 2 := by ring
  rw [convert_pair_eq format buf width height rgb k j column room, next]
  by_cases fits : PairFits format buf width height rgb k j
  · rw [if_pos fits]
    refine ⟨fun _ => ⟨_, rfl⟩, ?_⟩
    rintro _ ⟨⟩
    refine ⟨rfl, rfl, rfl, fits.room, fun i small => ?_⟩
    by_cases earlier : i < 2 * (width * k + j)
    · exact reads i earlier
    · exact pair_reads buf width height k j column i small earlier fits.luma fits.chroma
  · rw [if_neg fits]
    exact ⟨fun good => absurd good fits, fun _ none => absurd none.symm (Option.some_ne_none _)⟩

theorem convert_yields (rgb : Bytes) :
    Yields
      (counted (fun k => convertRows format buf width height (2 * k)) ((height + 1) / 2) (⟨rgb, []⟩, 0))
      (∀ k < (height + 1) / 2, ∀ j < width, PairFits format buf width height rgb k j)
      (Stored format buf width height rgb (2 * (width * ((height + 1) / 2)))) := by
  have start : Stored format buf width height rgb (2 * (width * 0)) (⟨rgb, []⟩, 0) :=
    ⟨rfl, rfl, rfl, Nat.zero_le _, fun i none => absurd none (Nat.not_lt_zero i)⟩
  refine counted_yields _ (fun k => Stored format buf width height rgb (2 * (width * k))) _ _ _ start ?_
  intro k _ before stored
  refine counted_yields _ (fun j => Stored format buf width height rgb (2 * (width * k + j))) _ _ _ stored ?_
  exact fun j column state reached => convert_pair_yields format buf width height rgb k j column state reached

-- What threadFunc allocates: the frame it reads to and the buffer it converts to.
def frameSize : Nat := width * height * 3 / 2

def bufferSize : Nat := width * height * format.size

-- Every byte of the buffer is stored once, and each pixel has the colour of its own luma byte
-- and of the V and U bytes that it shares with its neighbours.
structure Converted (out : Output) : Prop where
  once : out.stores = List.range (bufferSize format width height)
  pixel : ∀ x < width, ∀ row < height, ∃ y u v,
    buf[row * width + x]? = some y ∧ buf[width * height + row / 2 * width + 2 * (x / 2)]? = some v ∧
      buf[width * height + row / 2 * width + 2 * (x / 2) + 1]? = some u ∧
        (out.rgb.drop (format.size * (row * width + x))).take format.size = format.pixel y u v

def Even : Prop := width % 2 = 0 ∧ height % 2 = 0

theorem size_positive : 0 < format.size := by
  cases format <;> decide

theorem odd_height_overruns (rgb : Bytes) (state : Output × Nat) (wide : 0 < width) (odd : height % 2 = 1)
    (buffer : rgb.length = bufferSize format width height)
    (stored : Stored format buf width height rgb (2 * (width * ((height + 1) / 2))) state) : False := by
  obtain ⟨half, rfl⟩ : ∃ half, height = 2 * half + 1 := ⟨height / 2, by omega⟩
  have rows : (2 * half + 1 + 1) / 2 = half + 1 := by omega
  have room := stored.room
  rw [buffer, bufferSize, rows, Nat.mul_comm _ format.size] at room
  have pixels := Nat.le_of_mul_le_mul_left room (size_positive format)
  have first : width * (half + 1) = width * half + width := Nat.mul_succ _ _
  have second : width * (2 * half + 1) = 2 * (width * half) + width := by ring
  omega

theorem odd_width_overreads (rgb : Bytes) (state : Output × Nat) (high : 0 < height) (odd : width % 2 = 1)
    (even : height % 2 = 0) (frame : buf.length = frameSize width height)
    (stored : Stored format buf width height rgb (2 * (width * ((height + 1) / 2))) state) : False := by
  obtain ⟨column, rfl⟩ : ∃ column, width = 2 * column + 1 := ⟨width / 2, by omega⟩
  obtain ⟨half, rfl⟩ : ∃ half, height = 2 * (half + 1) := ⟨height / 2 - 1, by omega⟩
  have rows : (2 * (half + 1) + 1) / 2 = half + 1 := by omega
  -- The pair that lies on both sides of the end of the last even row.
  have last := (v_place_pair (2 * column + 1) (2 * (half + 1)) half column (by omega)).1
  have total : (2 * column + 1) * (half + 1) = (2 * column + 1) * half + (2 * column + 1) := Nat.mul_succ _ _
  have reads := (stored.reads (2 * ((2 * column + 1) * half + column)) (by rw [rows]; omega)).2
  have area : (2 * column + 1) * (2 * (half + 1)) = 2 * ((2 * column + 1) * half) + 2 * (2 * column + 1) := by ring
  have behind : 2 * half * (2 * column + 1) = 2 * ((2 * column + 1) * half) := by ring
  have inside : 2 * column % (2 * column + 1) = 2 * column := Nat.mod_eq_of_lt (Nat.lt_succ_self _)
  rw [last, chroma, frame, frameSize, area, behind, inside] at reads
  omega

theorem even_fits (rgb : Bytes) (even : Even width height) (frame : buf.length = frameSize width height)
    (buffer : rgb.length = bufferSize format width height) (k j : Nat) (row : k < (height + 1) / 2) (column : j < width) :
    PairFits format buf width height rgb k j := by
  obtain ⟨m, rfl⟩ : ∃ m, width = 2 * m := ⟨width / 2, by have := even.1; omega⟩
  obtain ⟨n, rfl⟩ : ∃ n, height = 2 * n := ⟨height / 2, by have := even.2; omega⟩
  have below : k + 1 ≤ n := by omega
  have rows := Nat.mul_le_mul_left (2 * m) below
  rw [Nat.mul_succ] at rows
  have area : 2 * m * (2 * n) = 2 * (2 * m * n) := by ring
  have behind : 2 * k * (2 * m) = 2 * (2 * m * k) := by ring
  have small : 2 * j % (2 * m) + 1 < 2 * m := by
    have less : j % m < m := Nat.mod_lt _ (by omega)
    rw [Nat.mul_mod_mul_left]
    omega
  rw [frameSize, area] at frame
  rw [bufferSize, area, Nat.mul_comm] at buffer
  refine ⟨by omega, ?_, ?_⟩
  · rw [chroma, area, behind]
    omega
  · rw [buffer]
    exact Nat.mul_le_mul_left _ (by omega)

theorem v_place_even (x row : Nat) (even : width % 2 = 0) (column : x < width) :
    vPlace width height (row * width + x) = width * height + row / 2 * width + 2 * (x / 2) := by
  obtain ⟨m, rfl⟩ : ∃ m, width = 2 * m := ⟨width / 2, by omega⟩
  have area : 2 * m * height * 2 / 2 = 2 * m * height := Nat.mul_div_cancel _ (by decide)
  obtain ⟨pair, side, split, _⟩ : ∃ pair side, row = 2 * pair + side ∧ side < 2 := ⟨row / 2, row % 2, by omega, by omega⟩
  have half : row / 2 = pair := by omega
  have inside : m * side + x / 2 < 2 * m := by
    rcases (by omega : side = 0 ∨ side = 1) with rfl | rfl <;> omega
  have place : (row * (2 * m) + x) / 2 = 2 * m * pair + (m * side + x / 2) := by
    have spread : row * (2 * m) + x = 2 * (2 * m * pair + m * side) + x := by
      rw [split]
      ring
    rw [spread]
    omega
  have above : 2 * pair * (2 * m) = 2 * (pair * (2 * m)) := Nat.mul_assoc _ _ _
  have there : 2 * (m * side + x / 2) % (2 * m) = 2 * (x / 2) := by
    have spread : 2 * (m * side + x / 2) = 2 * m * side + 2 * (x / 2) := by ring
    rw [spread, Nat.mul_add_mod, Nat.mod_eq_of_lt (by omega)]
  rw [vPlace, place, Nat.mul_add_div (by omega), Nat.div_eq_of_lt inside, Nat.mul_add_mod, Nat.mod_eq_of_lt inside, chroma,
    area, half, there, Nat.add_zero, above, Nat.mul_div_cancel_left _ (by decide)]

theorem stored_converted (rgb : Bytes) (state : Output × Nat) (even : Even width height)
    (buffer : rgb.length = bufferSize format width height)
    (stored : Stored format buf width height rgb (2 * (width * ((height + 1) / 2))) state) :
    Converted format buf width height state.1 := by
  have all : 2 * (width * ((height + 1) / 2)) = width * height := by
    obtain ⟨n, rfl⟩ : ∃ n, height = 2 * n := ⟨height / 2, by have := even.2; omega⟩
    have rows : (2 * n + 1) / 2 = n := by omega
    rw [rows]
    ring
  rw [all] at stored
  have whole : rgb.drop (format.size * (width * height)) = [] := by
    rw [Nat.mul_comm, ← bufferSize, ← buffer]
    exact List.drop_length
  constructor
  · rw [stored.stores, bufferSize, Nat.mul_comm]
  · intro x column row line
    have last := Nat.mul_le_mul_right width line
    rw [Nat.succ_mul, Nat.mul_comm height] at last
    have inside : row * width + x < width * height := by omega
    obtain ⟨luma, behind⟩ := stored.reads _ inside
    have here := v_place_even width height x row even.1 column
    have found (i : Nat) (small : i < buf.length) : buf[i]? = some (buf.getD i 0) := by
      rw [List.getD_eq_getElem?_getD, List.getElem?_eq_getElem small, Option.getD_some]
    rw [here] at behind
    refine ⟨_, _, _, found _ luma, found _ (Nat.lt_of_succ_lt behind), found _ behind, ?_⟩
    rw [stored.bytes, whole, List.append_nil, List.flatMap_def,
      flatten_piece format.size _ ?_ _ (by rw [List.length_map, List.length_range]; exact inside)]
    · rw [List.getElem_map, List.getElem_range, colors, here]
    · intro piece member
      obtain ⟨i, _, rfl⟩ := List.mem_map.mp member
      exact colors_length format buf width height i

theorem converted_iff (rgb : Bytes) (wide : 0 < width) (high : 0 < height) (frame : buf.length = frameSize width height)
    (buffer : rgb.length = bufferSize format width height) :
    (∃ out, nv21ToRgb format buf width height rgb = some out ∧ Converted format buf width height out) ↔
      Even width height := by
  have yields := convert_yields format buf width height rgb
  constructor
  · rintro ⟨out, done, _⟩
    obtain ⟨state, ran, _⟩ := Option.map_eq_some_iff.mp done
    have stored := yields.meets state ran
    rcases Nat.mod_two_eq_zero_or_one height with even | odd
    · rcases Nat.mod_two_eq_zero_or_one width with both | odd
      · exact ⟨both, even⟩
      · exact (odd_width_overreads format buf width height rgb state high odd even frame stored).elim
    · exact (odd_height_overruns format buf width height rgb state wide odd buffer stored).elim
  · intro even
    obtain ⟨state, ran⟩ := yields.there fun k row j column =>
      even_fits format buf width height rgb even frame buffer k j row column
    refine ⟨state.1, congrArg (Option.map Prod.fst) ran, ?_⟩
    exact stored_converted format buf width height rgb state even buffer (yields.meets state ran)

end

def grey : Bytes := List.replicate 6 128

theorem grey_converted :
    ∃ out, nv21ToRgb .argb8888 grey 2 2 (List.replicate 16 0) = some out ∧ Converted .argb8888 grey 2 2 out :=
  (converted_iff .argb8888 grey 2 2 (List.replicate 16 0) (by decide) (by decide) rfl rfl).mpr ⟨rfl, rfl⟩

-- The pair of an odd row is read behind the frame, and the second of two rows behind the buffer.
theorem odd_sizes_fail :
    nv21ToRgb .argb8888 (List.replicate 9 128) 3 2 (List.replicate 24 0) = none ∧
      nv21ToRgb .argb8888 (List.replicate 9 128) 2 3 (List.replicate 24 0) = none := by
  decide

end Droidlogic.Screen.Nv21
