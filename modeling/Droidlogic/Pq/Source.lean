import Mathlib.Algebra.Ring.Int.Defs
import Mathlib.Algebra.Ring.Nat
import Mathlib.Data.List.Basic

set_option autoImplicit false

namespace Droidlogic.Pq

inductive Source
  | invalid
  | tv
  | av1
  | av2
  | ypbpr1
  | ypbpr2
  | hdmi1
  | hdmi2
  | hdmi3
  | hdmi4
  | vga
  | mpeg
  | dtv
  | svideo
  | iptv
  | dummy
  | spdif
  | adtv
  | max
deriving DecidableEq

def Source.code : Source → Int
  | .invalid => -1
  | .tv => 0
  | .av1 => 1
  | .av2 => 2
  | .ypbpr1 => 3
  | .ypbpr2 => 4
  | .hdmi1 => 5
  | .hdmi2 => 6
  | .hdmi3 => 7
  | .hdmi4 => 8
  | .vga => 9
  | .mpeg => 10
  | .dtv => 11
  | .svideo => 12
  | .iptv => 13
  | .dummy => 14
  | .spdif => 15
  | .adtv => 16
  | .max => 17

def Source.IsHdmi (source : Source) : Prop := Source.hdmi1.code ≤ source.code ∧ source.code ≤ Source.hdmi4.code

instance (source : Source) : Decidable source.IsHdmi := inferInstanceAs (Decidable (_ ∧ _))

abbrev SigFmt := Nat

def tvinSigFmtNull : SigFmt := 0
def tvinSigFmtHdmi1920x1080p60hz : SigFmt := 0x40a
def tvinSigFmtCvbsNtscM : SigFmt := 0x601
def tvinSigFmtCvbsNtsc443 : SigFmt := 0x602

structure SourceInputParam where
  sourceInput : Source
  sigFmt : SigFmt
  transFmt : Nat
deriving DecidableEq

end Droidlogic.Pq
