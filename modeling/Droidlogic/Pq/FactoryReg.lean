import Droidlogic.Lib.Field
import Droidlogic.Pq.RegTable

set_option autoImplicit false

namespace Droidlogic.Pq.Factory

open Lib

inductive CtiParamType
  | cvdYcDelay
  | decodeCti
  | sr0CtiGain0
  | sr0CtiGain1
  | sr0CtiGain2
  | sr0CtiGain3
  | sr1CtiGain0
  | sr1CtiGain1
  | sr1CtiGain2
  | sr1CtiGain3
deriving DecidableEq

def CtiParamType.code : CtiParamType → Nat
  | .cvdYcDelay => 0
  | .decodeCti => 1
  | .sr0CtiGain0 => 2
  | .sr0CtiGain1 => 3
  | .sr0CtiGain2 => 4
  | .sr0CtiGain3 => 5
  | .sr1CtiGain0 => 6
  | .sr1CtiGain1 => 7
  | .sr1CtiGain2 => 8
  | .sr1CtiGain3 => 9

inductive DecodeLuma
  | brightness
  | contrast
  | saturation
deriving DecidableEq

def DecodeLuma.code : DecodeLuma → Nat
  | .brightness => 0
  | .contrast => 1
  | .saturation => 2

inductive SharpnessParamType
  | hGainHigh
  | hGainLow
  | vGainHigh
  | vGainLow
  | dGainHigh
  | dGainLow
  | hpDiagCore
  | bpDiagCore
  | pkgainVslumalut7
  | pkgainVslumalut6
  | pkgainVslumalut5
  | pkgainVslumalut4
  | pkgainVslumalut3
  | pkgainVslumalut2
  | pkgainVslumalut1
  | pkgainVslumalut0
deriving DecidableEq

-- What is written to the register nodes of the two drivers, and to pq_user_set.
inductive Command
  | wv (value : Word) (addr : Nat)
  | bw (addr : Nat) (value : Word) (start length : Nat)
  | w (addr : Nat) (value : Word)
  | r (addr : Nat)
  | blkExtEn
  | blkStart (value : Word)
  | blkSlope (value : Word)
deriving DecidableEq

structure State where
  db : PqDb
  sent : List Command

def State.send (state : State) (command : Command) : State := { state with sent := state.sent ++ [command] }

-- val < 0 || val > max
def outOfRange (val : Word) (max : Int) : Prop := val.toInt < 0 ∨ max < val.toInt

instance (val : Word) (max : Int) : Decidable (outOfRange val max) := inferInstanceAs (Decidable (_ ∨ _))

def ctiMax : CtiParamType → Int
  | .cvdYcDelay => 15
  | .decodeCti => 3
  | .sr0CtiGain0 | .sr0CtiGain1 | .sr0CtiGain2 | .sr0CtiGain3 => 255
  | .sr1CtiGain0 | .sr1CtiGain1 | .sr1CtiGain2 | .sr1CtiGain3 => 255

def matchCtiRegMask : CtiParamType → Nat
  | .cvdYcDelay => 0xf
  | .decodeCti => 0xffff
  | .sr0CtiGain0 => 0xff000000
  | .sr0CtiGain1 => 0x00ff0000
  | .sr0CtiGain2 => 0x0000ff00
  | .sr0CtiGain3 => 0x000000ff
  | .sr1CtiGain0 => 0xff000000
  | .sr1CtiGain1 => 0x00ff0000
  | .sr1CtiGain2 => 0x0000ff00
  | .sr1CtiGain3 => 0x000000ff

def vppCtiYcDelay : Nat := 0x7
def vppDecodeCti : Nat := 0xb5
def vppCtiSr0Gain : Nat := 0x322f
def vppCtiSr1Gain : Nat := 0x32af

def matchCtiRegAddr : CtiParamType → Nat
  | .cvdYcDelay => vppCtiYcDelay
  | .decodeCti => vppDecodeCti
  | .sr0CtiGain0 | .sr0CtiGain1 | .sr0CtiGain2 | .sr0CtiGain3 => vppCtiSr0Gain
  | .sr1CtiGain0 | .sr1CtiGain1 | .sr1CtiGain2 | .sr1CtiGain3 => vppCtiSr1Gain

-- The word to store, and what the hardware is sent.
def ctiWord (type : CtiParamType) (word val : Word) : Word × Command :=
  match type with
  | .cvdYcDelay =>
      let word := word &&& ~~~(0xf : Word) ||| val
      (word, .wv word vppCtiYcDelay)
  | .decodeCti =>
      let word := word &&& ~~~((0x3 : Word) <<< 6) ||| val <<< 6
      (word, .wv word vppDecodeCti)
  | .sr0CtiGain0 => (val <<< 24, .bw vppCtiSr0Gain val 24 8)
  | .sr0CtiGain1 => (val <<< 16, .bw vppCtiSr0Gain val 16 8)
  | .sr0CtiGain2 => (val <<< 8, .bw vppCtiSr0Gain val 8 8)
  | .sr0CtiGain3 => (val, .bw vppCtiSr0Gain val 0 8)
  | .sr1CtiGain0 => (val <<< 24, .bw vppCtiSr1Gain val 24 8)
  | .sr1CtiGain1 => (val <<< 16, .bw vppCtiSr1Gain val 16 8)
  | .sr1CtiGain2 => (val <<< 8, .bw vppCtiSr1Gain val 8 8)
  | .sr1CtiGain3 => (val, .bw vppCtiSr1Gain val 0 8)

def factorySetCtiParams (state : State) (param : SourceInputParam) (type : CtiParamType) (val : Word) : Int × State :=
  if outOfRange val (ctiMax type) then (-1, state)
  else
    let addr := matchCtiRegAddr type
    let mask := matchCtiRegMask type
    let (word, command) := ctiWord type (pqGetSharpnessCtiParams state.db param addr type.code mask) val
    let state := state.send command
    (0, { state with db := pqSetSharpnessCtiParams state.db param addr word type.code mask })

def ctiValue (type : CtiParamType) (word : Word) : Word :=
  match type with
  | .cvdYcDelay => word &&& 0xf
  | .decodeCti => word >>> 6 &&& 0x3
  | .sr0CtiGain0 => word >>> 24 &&& 0xff
  | .sr0CtiGain1 => word >>> 16 &&& 0xff
  | .sr0CtiGain2 => word >>> 8 &&& 0xff
  | .sr0CtiGain3 => word &&& 0xff
  | .sr1CtiGain0 => word >>> 24 &&& 0xff
  | .sr1CtiGain1 => word >>> 16 &&& 0xff
  | .sr1CtiGain2 => word >>> 8 &&& 0xff
  | .sr1CtiGain3 => word &&& 0xff

def factoryGetCtiParams (db : PqDb) (param : SourceInputParam) (type : CtiParamType) : Word :=
  ctiValue type (pqGetSharpnessCtiParams db param (matchCtiRegAddr type) type.code (matchCtiRegMask type))

def decodeSatAddr : Nat := 0xa

def lumaMax : DecodeLuma → Int
  | .brightness => 511
  | .contrast => 1023
  | .saturation => 255

def lumaAddr : DecodeLuma → Nat
  | .brightness => 0x157
  | .contrast => 0x157
  | .saturation => decodeSatAddr

def lumaMask : DecodeLuma → Nat
  | .brightness => 0x1ff
  | .contrast => 0x3ff0000
  | .saturation => 0xff

def lumaRow (db : PqDb) (param : SourceInputParam) (type : DecodeLuma) : Word :=
  pqGetCvd2Param db param (lumaAddr type) type.code (lumaMask type)

-- A brightness or contrast takes the value of the other from its own row.
def lumaWord (db : PqDb) (param : SourceInputParam) (type : DecodeLuma) (val : Word) : Word × Command :=
  let word := lumaRow db param type
  match type with
  | .brightness =>
      let word := word &&& ~~~(0x1ff : Word) ||| val ||| (0x8 : Word) <<< 12 ||| (0x8 : Word) <<< 28
      let word := word ||| (lumaRow db param .contrast >>> 16 &&& 0x3ff) <<< 16
      (word, .wv word 0x157)
  | .contrast =>
      let word := word &&& ~~~(0x3ff0000 : Word) ||| val <<< 16 ||| (0x8 : Word) <<< 12 ||| (0x8 : Word) <<< 28
      let word := word ||| (lumaRow db param .brightness &&& 0x1ff)
      (word, .wv word 0x157)
  | .saturation =>
      let word := word &&& ~~~(0xff : Word) ||| val
      (word, .wv word decodeSatAddr)

def factorySetDecodeLumaParams (state : State) (param : SourceInputParam) (type : DecodeLuma) (val : Word) : Int × State :=
  if outOfRange val (lumaMax type) then (-1, state)
  else
    let (word, command) := lumaWord state.db param type val
    let state := state.send command
    (0, { state with db := pqSetCvd2Param state.db param (lumaAddr type) word type.code (lumaMask type) })

def lumaValue (type : DecodeLuma) (word : Word) : Word :=
  match type with
  | .brightness => word &&& 0x1ff
  | .contrast => word >>> 16 &&& 0x3ff
  | .saturation => word &&& 0xff

def factoryGetDecodeLumaParams (db : PqDb) (param : SourceInputParam) (type : DecodeLuma) : Word :=
  lumaValue type (lumaRow db param type)

def sharpnessMax : SharpnessParamType → Int
  | .hpDiagCore | .bpDiagCore => 63
  | _ => 15

inductive SharpnessGroup
  | gain
  | hpDiagCore
  | bpDiagCore
  | pkgainVsluma
deriving DecidableEq

def SharpnessParamType.group : SharpnessParamType → SharpnessGroup
  | .hGainHigh | .hGainLow | .vGainHigh | .vGainLow | .dGainHigh | .dGainLow => .gain
  | .hpDiagCore => .hpDiagCore
  | .bpDiagCore => .bpDiagCore
  | .pkgainVslumalut7 | .pkgainVslumalut6 | .pkgainVslumalut5 | .pkgainVslumalut4 => .pkgainVsluma
  | .pkgainVslumalut3 | .pkgainVslumalut2 | .pkgainVslumalut1 | .pkgainVslumalut0 => .pkgainVsluma

def sharpnessSd : SharpnessGroup → Nat
  | .gain => 0x3213
  | .hpDiagCore => 0x320f
  | .bpDiagCore => 0x3210
  | .pkgainVsluma => 0x327e

def sharpnessHd : SharpnessGroup → Nat
  | .gain => 0x3293
  | .hpDiagCore => 0x328f
  | .bpDiagCore => 0x3290
  | .pkgainVsluma => 0x32fe

def matchSharpnessRegAddr (type : SharpnessParamType) (timing : Timing) : Nat :=
  match timing with
  | .sd => sharpnessSd type.group
  | .hd => sharpnessHd type.group

def putBits (word ones val : Word) (shift : Nat) : Word := word &&& ~~~(ones <<< shift) ||| val <<< shift

-- Each case sends its word to the register of the SD timing.
def sharpnessWord (type : SharpnessParamType) (word val : Word) : Word :=
  match type with
  | .hGainHigh => putBits word 0xf val 28
  | .hGainLow => putBits word 0xf val 12
  | .vGainHigh => putBits word 0xf val 24
  | .vGainLow => putBits word 0xf val 8
  | .dGainHigh => putBits word 0xf val 20
  | .dGainLow => putBits word 0xf val 4
  | .hpDiagCore => putBits word 0x3f val 0
  | .bpDiagCore => putBits word 0x3f val 0
  | .pkgainVslumalut7 => putBits word 0xf val 28
  | .pkgainVslumalut6 => putBits word 0xf val 24
  | .pkgainVslumalut5 => putBits word 0xf val 20
  | .pkgainVslumalut4 => putBits word 0xf val 16
  | .pkgainVslumalut3 => putBits word 0xf val 12
  | .pkgainVslumalut2 => putBits word 0xf val 8
  | .pkgainVslumalut1 => putBits word 0xf val 4
  | .pkgainVslumalut0 => putBits word 0xf val 0

def sharpnessValue (type : SharpnessParamType) (word : Word) : Word :=
  match type with
  | .hGainHigh => word >>> 28 &&& 0xf
  | .hGainLow => word >>> 12 &&& 0xf
  | .vGainHigh => word >>> 24 &&& 0xf
  | .vGainLow => word >>> 8 &&& 0xf
  | .dGainHigh => word >>> 20 &&& 0xf
  | .dGainLow => word >>> 4 &&& 0xf
  | .hpDiagCore => word &&& 0x3f
  | .bpDiagCore => word &&& 0x3f
  | .pkgainVslumalut7 => word >>> 28 &&& 0xf
  | .pkgainVslumalut6 => word >>> 24 &&& 0xf
  | .pkgainVslumalut5 => word >>> 20 &&& 0xf
  | .pkgainVslumalut4 => word >>> 16 &&& 0xf
  | .pkgainVslumalut3 => word >>> 12 &&& 0xf
  | .pkgainVslumalut2 => word >>> 8 &&& 0xf
  | .pkgainVslumalut1 => word >>> 4 &&& 0xf
  | .pkgainVslumalut0 => word &&& 0xf

-- The value of a register once some commands were sent, as pq_reg_rw reads it back.
abbrev Device := List Command → Nat → Word

def getSharpnessRegVal (device : Device) (state : State) (addr : Nat) : Word × State :=
  let state := state.send (.r addr)
  (device state.sent addr, state)

-- A stored word of 0 is taken for none, and the register is read instead.
def sharpnessRegister (device : Device) (state : State) (param : SourceInputParam) (timing : Timing)
    (type : SharpnessParamType) : Option (Word × State) := do
  let addr := matchSharpnessRegAddr type timing
  let word ← pqGetSharpnessAdvancedParams state.db param addr timing
  some (if word = 0 then getSharpnessRegVal device state addr else (word, state))

def factorySetSharpnessParams (device : Device) (state : State) (param : SourceInputParam) (timing : Timing)
    (type : SharpnessParamType) (val : Word) : Option (Int × State) :=
  if outOfRange val (sharpnessMax type) then some (-1, state)
  else do
    let (word, state) ← sharpnessRegister device state param timing type
    let word := sharpnessWord type word val
    let state := state.send (.w (sharpnessSd type.group) word)
    let db ← pqSetSharpnessAdvancedParams state.db param (matchSharpnessRegAddr type timing) word timing
    some (0, { state with db := db })

def factoryGetSharpnessParams (device : Device) (state : State) (param : SourceInputParam) (timing : Timing)
    (type : SharpnessParamType) : Option (Word × State) := do
  let (word, state) ← sharpnessRegister device state param timing type
  some (sharpnessValue type word, state)

def vppBlackextCtrl : Nat := 0x1d80

def blackextStart : List Nat := [31, 30, 29, 28, 27, 26, 25, 24]

def blackextSlope : List Nat := [23, 22, 21, 20, 19, 18, 17, 16]

-- The value is not checked, so one over 255 or below 0 reaches the other bits.
def factorySetBlackExtRegParams (state : State) (param : SourceInputParam) (val : Word) : Option (Int × State) := do
  let regVal ← pqGetBeParams state.db param vppBlackextCtrl
  let startVal := gather regVal 24 blackextStart
  let regVal := clear regVal blackextSlope.reverse ||| val <<< 16
  let (rt, db) := pqSetBeParams state.db param vppBlackextCtrl regVal
  let state := { state with db := db }
  some (rt, ((state.send .blkExtEn).send (.blkStart startVal)).send (.blkSlope val))

def factoryGetBlackExtRegParams (db : PqDb) (param : SourceInputParam) : Option Word := do
  let regVal ← pqGetBeParams db param vppBlackextCtrl
  some (gather regVal 16 blackextSlope)

end Droidlogic.Pq.Factory
