import Droidlogic.Pq.FactoryReg

set_option autoImplicit false

namespace Droidlogic.Pq.Factory

open Lib

inductive Setting
  | cti (type : CtiParamType)
  | decodeLuma (type : DecodeLuma)
  | sharpness (timing : Timing) (type : SharpnessParamType)
  | blackExt
deriving DecidableEq

def factorySet (device : Device) (state : State) (param : SourceInputParam) (setting : Setting) (val : Word) :
    Option (Int × State) :=
  match setting with
  | .cti type => some (factorySetCtiParams state param type val)
  | .decodeLuma type => some (factorySetDecodeLumaParams state param type val)
  | .sharpness timing type => factorySetSharpnessParams device state param timing type val
  | .blackExt => factorySetBlackExtRegParams state param val

def factoryGet (device : Device) (state : State) (param : SourceInputParam) (setting : Setting) : Option Word :=
  match setting with
  | .cti type => some (factoryGetCtiParams state.db param type)
  | .decodeLuma type => some (factoryGetDecodeLumaParams state.db param type)
  | .sharpness timing type => (factoryGetSharpnessParams device state param timing type).map Prod.fst
  | .blackExt => factoryGetBlackExtRegParams state.db param

def nibble (shift : Nat) (fits : shift + 4 ≤ 32) : Field 32 := ⟨shift, 4, fits⟩

def octet (shift : Nat) (fits : shift + 8 ≤ 32) : Field 32 := ⟨shift, 8, fits⟩

def ctiField : CtiParamType → Field 32
  | .cvdYcDelay => nibble 0 (by decide)
  | .decodeCti => ⟨6, 2, by decide⟩
  | .sr0CtiGain0 | .sr1CtiGain0 => octet 24 (by decide)
  | .sr0CtiGain1 | .sr1CtiGain1 => octet 16 (by decide)
  | .sr0CtiGain2 | .sr1CtiGain2 => octet 8 (by decide)
  | .sr0CtiGain3 | .sr1CtiGain3 => octet 0 (by decide)

def lumaField : DecodeLuma → Field 32
  | .brightness => ⟨0, 9, by decide⟩
  | .contrast => ⟨16, 10, by decide⟩
  | .saturation => octet 0 (by decide)

def sharpnessField : SharpnessParamType → Field 32
  | .hGainHigh | .pkgainVslumalut7 => nibble 28 (by decide)
  | .vGainHigh | .pkgainVslumalut6 => nibble 24 (by decide)
  | .dGainHigh | .pkgainVslumalut5 => nibble 20 (by decide)
  | .pkgainVslumalut4 => nibble 16 (by decide)
  | .hGainLow | .pkgainVslumalut3 => nibble 12 (by decide)
  | .vGainLow | .pkgainVslumalut2 => nibble 8 (by decide)
  | .dGainLow | .pkgainVslumalut1 => nibble 4 (by decide)
  | .pkgainVslumalut0 => nibble 0 (by decide)
  | .hpDiagCore | .bpDiagCore => ⟨0, 6, by decide⟩

def slopeField : Field 32 := octet 16 (by decide)

def startField : Field 32 := octet 24 (by decide)

def field : Setting → Field 32
  | .cti type => ctiField type
  | .decodeLuma type => lumaField type
  | .sharpness _ type => sharpnessField type
  | .blackExt => slopeField

def maximum : Setting → Int
  | .cti type => ctiMax type
  | .decodeLuma type => lumaMax type
  | .sharpness _ type => sharpnessMax type
  | .blackExt => 255

-- The range that the setters check; that of the black extension checks nothing.
def Accepted (setting : Setting) (val : Word) : Prop := ¬outOfRange val (maximum setting)

instance (setting : Setting) (val : Word) : Decidable (Accepted setting val) := inferInstanceAs (Decidable (¬_))

theorem maximum_field (setting : Setting) : maximum setting = 2 ^ (field setting).width - 1 := by
  cases setting with
  | cti type => cases type <;> rfl
  | decodeLuma type => cases type <;> rfl
  | sharpness timing type => cases type <;> rfl
  | blackExt => rfl

theorem accepted_holds (setting : Setting) (val : Word) (accepted : Accepted setting val) : (field setting).Holds val := by
  have inside : 0 ≤ val.toInt ∧ val.toInt ≤ maximum setting := by
    simp only [Accepted, outOfRange, not_or] at accepted
    omega
  rw [maximum_field] at inside
  have natural : val.toInt = val.toNat := by
    rw [BitVec.toInt_eq_toNat_cond]
    split
    · rfl
    · have bound := val.isLt
      rw [BitVec.toInt_eq_toNat_cond] at inside
      split at inside <;> omega
  have casted : ((2 ^ (field setting).width : Nat) : Int) = 2 ^ (field setting).width := by simp
  rw [Field.Holds]
  omega

theorem cti_value (type : CtiParamType) (word : Word) : ctiValue type word = (ctiField type).get word := by
  cases type <;> simp [ctiValue, ctiField, Field.get, Field.ones, nibble, octet]

theorem luma_value (type : DecodeLuma) (word : Word) : lumaValue type word = (lumaField type).get word := by
  cases type <;> simp [lumaValue, lumaField, Field.get, Field.ones, octet]

theorem sharpness_value (type : SharpnessParamType) (word : Word) :
    sharpnessValue type word = (sharpnessField type).get word := by
  cases type <;> simp [sharpnessValue, sharpnessField, Field.get, Field.ones, nibble]

theorem black_ext_slope (word : Word) : gather word 16 blackextSlope = slopeField.get word := by
  apply gather_get slopeField word blackextSlope
  intro i
  simp only [blackextSlope, slopeField, octet, Field.Has, List.mem_cons, List.not_mem_nil, or_false]
  omega

theorem black_ext_start (word : Word) : gather word 24 blackextStart = startField.get word := by
  apply gather_get startField word blackextStart
  intro i
  simp only [blackextStart, startField, octet, Field.Has, List.mem_cons, List.not_mem_nil, or_false]
  omega

theorem black_ext_word (word val : Word) : clear word blackextSlope.reverse ||| val <<< 16 = slopeField.put word val := by
  apply clear_put slopeField word val blackextSlope.reverse
  intro i
  simp only [List.mem_reverse, blackextSlope, slopeField, octet, Field.Has, List.mem_cons, List.not_mem_nil, or_false]
  omega

theorem sharpness_word (type : SharpnessParamType) (word val : Word) :
    sharpnessWord type word val = (sharpnessField type).put word val := by
  cases type <;> rfl

end Droidlogic.Pq.Factory
