import Mathlib.Data.List.Basic

set_option autoImplicit false

namespace Droidlogic.Lib.Layers

-- What becomes of the canvas before the layer after this one is drawn.
inductive Disposal
  | keep
  | clear
  | restore
deriving DecidableEq

-- Layers as a picture draws them. hides is a test that the second layer is painted
-- over wherever it reaches once the first one is drawn.
structure Kit (Layer Cell Color : Type) where
  area : Layer → Cell → Bool
  paint : Layer → Cell → Option Color
  disposal : Layer → Disposal
  hides : Layer → Layer → Bool
  painted : ∀ layer cell, paint layer cell ≠ none → area layer cell = true
  hidden : ∀ next below cell, hides next below = true → area below cell = true → paint next cell ≠ none

section
variable {Layer Cell Color : Type} (kit : Kit Layer Cell Color) (color : Color)

def draw (layer : Layer) (canvas : Cell → Color) : Cell → Color := fun cell => (kit.paint layer cell).getD (canvas cell)

def fill (layer : Layer) (canvas : Cell → Color) : Cell → Color :=
  fun cell => if kit.area layer cell then color else canvas cell

def dispose (layer : Layer) (under : Cell → Color) : Cell → Color :=
  match kit.disposal layer with
  | .keep => draw kit layer under
  | .clear => fill kit color layer (draw kit layer under)
  | .restore => under

-- The plain composition: each layer is drawn and disposed of, the last one stays.
def plain : Layer → List Layer → (Cell → Color) → Cell → Color
  | layer, [], under => draw kit layer under
  | layer, next :: rest, under => plain next rest (dispose kit color layer under)

structure Lazy (Cell Color : Type) where
  canvas : Cell → Color
  backup : Cell → Color

def lazySave (next : Layer) (s : Lazy Cell Color) : Lazy Cell Color :=
  if kit.disposal next = .restore then ⟨s.canvas, s.canvas⟩ else s

def lazyDispose (layer next : Layer) (s : Lazy Cell Color) : Lazy Cell Color :=
  lazySave kit next
    (if kit.hides next layer then s
    else
      match kit.disposal layer with
      | .keep => s
      | .clear => ⟨fill kit color layer s.canvas, s.backup⟩
      | .restore => ⟨s.backup, s.canvas⟩)

-- A layer that will be disposed of is not drawn, and what the next one hides is not
-- disposed of.
def lazyPlain : Layer → List Layer → Lazy Cell Color → Cell → Color
  | layer, [], s => draw kit layer s.canvas
  | layer, next :: rest, s =>
      lazyPlain next rest (lazyDispose kit color layer next
        (if kit.disposal layer = .keep then ⟨draw kit layer s.canvas, s.backup⟩ else s))

-- pending is a layer whose disposal was left to the layer that hides it. That must not
-- be restored away unless the layer after it hides the pending one as well.
def settles (fills : Bool) : Option Layer → Layer → List Layer → Bool
  | _, _, [] => true
  | pending, layer, next :: rest =>
      match kit.disposal layer with
      | .keep => settles fills none next rest
      | .clear =>
          if kit.hides next layer then settles fills (some layer) next rest
          else fills && settles fills none next rest
      | .restore => pending.all (kit.hides next) && settles fills pending next rest

def AgreeOff (layer : Layer) (a b : Cell → Color) : Prop := ∀ cell, kit.area layer cell = false → a cell = b cell

def Agree (pending : Option Layer) (a b : Cell → Color) : Prop :=
  match pending with
  | none => a = b
  | some layer => AgreeOff kit layer a b

theorem draw_off (below layer : Layer) (a b : Cell → Color) (agree : AgreeOff kit below a b)
    (hides : kit.hides layer below = true) : draw kit layer a = draw kit layer b := by
  funext cell
  cases inside : kit.area below cell with
  | true =>
      obtain ⟨value, painted⟩ := Option.ne_none_iff_exists'.mp (kit.hidden layer below cell hides inside)
      rw [draw, draw, painted]
      rfl
  | false => rw [draw, draw, agree cell inside]

theorem fill_off (layer : Layer) (a b : Cell → Color) (agree : AgreeOff kit layer a b) :
    fill kit color layer a = fill kit color layer b := by
  funext cell
  cases inside : kit.area layer cell with
  | true => simp only [fill, inside, if_true]
  | false => simp only [fill, inside, Bool.false_eq_true, if_false, agree cell inside]

theorem fill_draw (layer : Layer) (canvas : Cell → Color) :
    fill kit color layer (draw kit layer canvas) = fill kit color layer canvas := by
  refine fill_off kit color layer _ _ fun cell outside => ?_
  have nothing : kit.paint layer cell = none := by
    by_contra painted
    exact absurd (kit.painted layer cell painted) (by simp [outside])
  rw [draw, nothing]
  rfl

theorem fill_agrees (layer : Layer) (canvas : Cell → Color) : AgreeOff kit layer canvas (fill kit color layer canvas) := by
  intro cell outside
  simp only [fill, outside, Bool.false_eq_true, if_false]

-- What is hidden by a layer lies inside of it.
theorem agree_inside (below layer : Layer) (a b : Cell → Color) (agree : AgreeOff kit below a b)
    (hides : kit.hides layer below = true) : AgreeOff kit layer a b := by
  intro cell outside
  refine agree cell ?_
  by_contra inside
  have painted := kit.hidden layer below cell hides (by simpa using inside)
  exact absurd (kit.painted layer cell painted) (by simp [outside])

theorem save_canvas (next : Layer) (s : Lazy Cell Color) : (lazySave kit next s).canvas = s.canvas := by
  rw [lazySave]
  split <;> rfl

theorem save_backup (next : Layer) (s : Lazy Cell Color) (restores : kit.disposal next = .restore) :
    (lazySave kit next s).backup = (lazySave kit next s).canvas := by
  rw [lazySave, if_pos restores]

theorem draw_agree (pending : Option Layer) (layer : Layer) (a b : Cell → Color) (agree : Agree kit pending a b)
    (hides : pending.all (kit.hides layer) = true) : draw kit layer a = draw kit layer b := by
  cases pending with
  | none => exact congrArg (draw kit layer) agree
  | some below => exact draw_off kit below layer a b agree hides

theorem fill_agree (pending : Option Layer) (layer : Layer) (a b : Cell → Color) (agree : Agree kit pending a b)
    (hides : pending.all (kit.hides layer) = true) : AgreeOff kit layer a b := by
  cases pending with
  | none => exact fun cell _ => congrFun agree cell
  | some below => exact agree_inside kit below layer a b agree hides

-- By induction on the layers still to come: the canvas is right except where a layer's
-- disposal is pending, which the layer to be drawn hides.
theorem lazy_plain (fillColor : Color) (pending : Option Layer) (layer : Layer) (rest : List Layer) (s : Lazy Cell Color)
    (under : Cell → Color) (fills : Bool) (same : fills = true → fillColor = color)
    (settled : settles kit fills pending layer rest = true) (hides : pending.all (kit.hides layer) = true)
    (agree : Agree kit pending s.canvas under) (saved : kit.disposal layer = .restore → s.backup = s.canvas) :
    lazyPlain kit fillColor layer rest s = plain kit color layer rest under := by
  induction rest generalizing pending layer s under with
  | nil => exact draw_agree kit pending layer _ _ agree hides
  | cons next rest ih =>
      rw [lazyPlain, plain]
      cases disposal : kit.disposal layer with
      | keep =>
          have drawn := draw_agree kit pending layer _ _ agree hides
          simp only [settles, disposal] at settled
          refine ih none next _ _ settled rfl ?_ (save_backup kit next _)
          rw [Agree, lazyDispose, save_canvas, if_pos rfl, disposal, dispose, disposal]
          split <;> exact drawn
      | clear =>
          have off := fill_agree kit pending layer _ _ agree hides
          have notKept : ¬Disposal.clear = .keep := by decide
          have filled : dispose kit color layer under = fill kit color layer s.canvas := by
            rw [dispose, disposal]
            exact (fill_draw kit color layer under).trans (fill_off kit color layer _ _ off).symm
          simp only [settles, disposal] at settled
          rw [if_neg notKept, filled]
          by_cases skips : kit.hides next layer = true
          · rw [if_pos skips] at settled
            refine ih (some layer) next _ _ settled skips ?_ (save_backup kit next _)
            rw [Agree, lazyDispose, save_canvas, if_pos skips]
            exact fill_agrees kit color layer s.canvas
          · rw [if_neg skips, Bool.and_eq_true] at settled
            refine ih none next _ _ settled.2 rfl ?_ (save_backup kit next _)
            rw [Agree, lazyDispose, save_canvas, if_neg skips, disposal, same settled.1]
      | restore =>
          have notKept : ¬Disposal.restore = .keep := by decide
          simp only [settles, disposal, Bool.and_eq_true] at settled
          rw [if_neg notKept]
          have unchanged : (lazyDispose kit fillColor layer next s).canvas = s.canvas := by
            rw [lazyDispose, save_canvas, disposal]
            split
            · rfl
            · exact saved disposal
          refine ih pending next _ _ settled.2 settled.1 ?_ (save_backup kit next _)
          rw [unchanged, dispose, disposal]
          exact agree

end

end Droidlogic.Lib.Layers
