import Mathlib.Algebra.Ring.Int.Defs
import Mathlib.Algebra.Ring.Nat
import Droidlogic.Lib.Bytes
import Droidlogic.Lib.Slots

set_option autoImplicit false

namespace Droidlogic.Ssm

open Droidlogic.Lib

def sourceInvalid : Int := -1

def sourceMax : Nat := 17

def vppDataPosColorDemoModeStart : Nat := 151
def vppDataPosColorBaseModeStart : Nat := 152
def vppDataPosDdrSscStart : Nat := 154
def vppDataPosLvdsSscStart : Nat := 155
def vppDataPosBrightnessStart : Nat := 158
def vppDataPosContrastStart : Nat := 159
def vppDataPosSaturationStart : Nat := 160
def vppDataPosHueStart : Nat := 161
def vppDataPosSharpnessStart : Nat := 162
def vppDataPosColorTemperatureStart : Nat := 163
def vppDataPosNoiseReductionStart : Nat := 164
def vppDataPosPictureModeStart : Nat := 166
def vppDataPosDisplayModeStart : Nat := 167
def vppDataPosBacklightStart : Nat := 168
def vppDataPosRgbGainRStart : Nat := 169
def vppDataPosRgbGainGStart : Nat := 170
def vppDataPosRgbGainBStart : Nat := 171
def vppDataPosRgbPostOffsetRStart : Nat := 172
def vppDataPosRgbPostOffsetGStart : Nat := 173
def vppDataPosRgbPostOffsetBStart : Nat := 174
def vppDataRgbStart : Nat := 183
def vppDataColorSpaceStart : Nat := 184
def vppDataGammaValueStart : Nat := 186
def vppDataEyeProtectionModeStart : Nat := 201
def customerDataPosDynamicBacklight : Nat := 288
def customerDataPosEdgeEnhancer : Nat := 289
def customerDataPosMpegNoiseReduction : Nat := 290
def customerDataPosDynamicContrast : Nat := 291
def customerDataPosAutoAspect : Nat := 292
def customerDataPos43Stretch : Nat := 293
def vppDataDnlpModeStart : Nat := 294
def vppDataDnlpGainStart : Nat := 295
def vppDataPosLocalContrastModeStart : Nat := 296

-- rest is rsv[6] and the two bytes of padding behind it.
structure SSMHeaderSection2 where
  addr : UInt32
  size : UInt32
  valid : UInt32
  rest : Bytes
deriving DecidableEq

structure SSMHeaderSection1 where
  magic : UInt32
  version : UInt32
  count : UInt32
  rsv : List UInt32
deriving DecidableEq

def gSSMHeaderSection1 : SSMHeaderSection1 := ⟨0x8f8f8f8f, 2198362101, 297, [0, 0, 0, 0, 0, 0]⟩

-- The .size column of the table, as how often which size comes.
def sizeColumn : List (Nat × Nat) :=
  [(3, 2), (1, 4), (6, 0), (1, 10), (1, 1536), (3, 1), (6, 0), (9, 1), (2, 4), (1, 1), (1, 16), (6, 1), (1, 4), (3, 1),
    (3, 2), (2, 1), (1, 2), (6, 1), (95, 0), (4, 1), (1, 2), (2, 1), (7, sourceMax), (1, 1), (3, sourceMax), (6, 4),
    (3, 1), (1, sourceMax), (4, 1), (1, 18), (18, 1), (49, 0), (7, 1), (23, 0), (5, 1), (1, 0), (1, 1), (9, sourceMax)]

def sizes : List Nat := sizeColumn.flatMap fun (count, size) => List.replicate count size

def gSSMHeaderSection2 : List SSMHeaderSection2 :=
  sizes.map fun size => ⟨0, .ofNat size, 0, .replicate 8 0⟩

def assignAddrs : UInt32 → List SSMHeaderSection2 → List SSMHeaderSection2
  | _, [] => []
  | sum, entry :: entries => { entry with addr := sum } :: assignAddrs (sum + entry.size) entries

-- The constructor's loop starts at the second entry.
def ssmHandler : List SSMHeaderSection2 → List SSMHeaderSection2
  | [] => []
  | first :: entries => first :: assignAddrs first.size entries

def layout : List SSMHeaderSection2 := ssmHandler gSSMHeaderSection2

def noEntry : SSMHeaderSection2 := ⟨0, 0, 0, []⟩

def ssmGetActualAddr (id : Nat) : UInt32 := (layout.getD id noEntry).addr

def ssmGetActualSize (id : Nat) : UInt32 := (layout.getD id noEntry).size

def sizesOf (entries : List SSMHeaderSection2) : List Nat := entries.map fun entry => entry.size.toNat

theorem assign_addrs_size (entries : List SSMHeaderSection2) (sum : UInt32) :
    sizesOf (assignAddrs sum entries) = sizesOf entries := by
  induction entries generalizing sum with
  | nil => rfl
  | cons entry entries ih =>
      simp only [assignAddrs, sizesOf, List.map_cons] at ih ⊢
      rw [ih]

theorem assign_addrs_addr (entries : List SSMHeaderSection2) (sum : UInt32) (id : Nat) (listed : id < entries.length)
    (small : sum.toNat + slotStart (sizesOf entries) entries.length < 2 ^ 32) :
    ((assignAddrs sum entries).getD id noEntry).addr.toNat = sum.toNat + slotStart (sizesOf entries) id := by
  induction entries generalizing sum id with
  | nil => exact absurd listed (Nat.not_lt_zero id)
  | cons entry entries ih =>
      cases id with
      | zero => rfl
      | succ id =>
          simp only [sizesOf, List.map_cons, List.length_cons, slotStart] at small
          have next : (sum + entry.size).toNat = sum.toNat + entry.size.toNat := by
            rw [UInt32.toNat_add]
            exact Nat.mod_eq_of_lt (by omega)
          rw [assignAddrs, List.getD_cons_succ, ih (sum + entry.size) id (Nat.lt_of_succ_lt_succ listed)
            (by simp only [next, sizesOf]; omega), next]
          simp only [sizesOf, List.map_cons, slotStart]
          omega

theorem ssm_handler_addr (entries : List SSMHeaderSection2) (id : Nat) (listed : id < entries.length)
    (zeroed : (entries.getD 0 noEntry).addr = 0) (small : slotStart (sizesOf entries) entries.length < 2 ^ 32) :
    ((ssmHandler entries).getD id noEntry).addr.toNat = slotStart (sizesOf entries) id := by
  have whole : ssmHandler entries = assignAddrs 0 entries := by
    cases entries with
    | nil => rfl
    | cons first entries =>
        have zero : first.addr = 0 := zeroed
        simp only [ssmHandler, assignAddrs, UInt32.zero_add]
        rw [← zero]
  rw [whole, assign_addrs_addr entries 0 id listed (by simpa using small)]
  simp

theorem ssm_handler_sizes (entries : List SSMHeaderSection2) : sizesOf (ssmHandler entries) = sizesOf entries := by
  cases entries with
  | nil => rfl
  | cons first entries =>
      have rest := assign_addrs_size entries first.size
      simp only [ssmHandler, sizesOf, List.map_cons] at rest ⊢
      rw [rest]

theorem sizes_of_table : sizesOf gSSMHeaderSection2 = sizes := by decide +kernel

theorem table_length : gSSMHeaderSection2.length = 297 := by decide +kernel

theorem actual_addr (id : Nat) (listed : id < 297) : (ssmGetActualAddr id).toNat = slotStart sizes id := by
  rw [ssmGetActualAddr, layout, ssm_handler_addr gSSMHeaderSection2 id (by rw [table_length]; exact listed) rfl
    (by decide +kernel), sizes_of_table]

end Droidlogic.Ssm
