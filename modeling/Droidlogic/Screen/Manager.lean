import Droidlogic.Lib.KeyedVector
import Mathlib.Algebra.Order.Ring.Int
import Mathlib.Algebra.Ring.Nat

set_option autoImplicit false

namespace Droidlogic.Screen

open Droidlogic.Lib

def ok : Int := 0

def notOk : Int := 1

def badValue : Int := -22

def enodev : Int := 19

def maxClient : Nat := 4

def amlCaptureVideo : Int := 0

def amlCaptureOsdVideo : Int := 1

-- SCREENCONTROLDATATYPE
inductive DataType
  | canvas
  | handle
  | rawdata
deriving DecidableEq

structure ScreenClient where
  width : Int
  height : Int
  framerate : Int
  isPrimateClient : Bool
  dataType : DataType
  mClientId : Int
deriving DecidableEq

structure FrameBufferInfo where
  bufPtr : Nat
  canvas : Nat
  timestampUs : Int
deriving DecidableEq

-- aml_screen_buffer_info_t: an address, the canvas index, and what lies at the address.
structure ScreenBuffer where
  bufferMem : Nat
  bufferCanvas : Nat
  pixels : List UInt8
deriving DecidableEq

inductive PixelFormat
  | nv12
  | nv21
deriving DecidableEq

-- What the manager asks of the capture device and of the native window.
inductive Command
  | openDevice (sourceType : List UInt8) (opened : Bool)
  | setPortType (portType : Nat)
  | setFrameRate (frameRate : Int)
  | setFormat (width height : Int) (format : PixelFormat)
  | setDataCallBack
  | setAmlvideo2Crop (x y width height : Int)
  | startDevice
  | stopDevice
  | closeDevice
  | releaseBuffer (bufPtr : Nat)
  | dequeueBuffer
  | queueBuffer (pixels : List UInt8)
deriving DecidableEq

structure ANativeWindow where
  strong : Int
deriving DecidableEq

structure ScreenManager where
  mWidth : Int
  mHeight : Int
  mSourceType : Int
  mFrameRate : Int
  mBufferSize : Int
  mIsSoftwareEncoder : Bool
  mIsScreenRecord : Bool
  mStarted : Bool
  mError : Bool
  mCanvasMode : Bool
  mCorpX : Int
  mCorpY : Int
  mCorpWidth : Int
  mCorpHeight : Int
  mClientList : KeyedVector Int ScreenClient
  mCanvasClientExist : Bool
  mCanvasFramesReceived : List FrameBufferInfo
  mRawBufferQueue : List (List UInt8)
  mANativeWindow : Option ANativeWindow
  -- Whether the pointers are other than NULL; a closed device keeps its pointer.
  mScreenModule : Bool
  mScreenDev : Bool

-- The members the constructor leaves as they are, and those it learns from outside.
structure Boot where
  mWidth : Int
  mHeight : Int
  mSourceType : Int
  mBufferSize : Int
  mCanvasMode : Bool
  mIsSoftwareEncoder : Bool
  mIsScreenRecord : Bool

def construct (boot : Boot) : ScreenManager where
  mWidth := boot.mWidth
  mHeight := boot.mHeight
  mSourceType := boot.mSourceType
  mFrameRate := 30
  mBufferSize := boot.mBufferSize
  mIsSoftwareEncoder := boot.mIsSoftwareEncoder
  mIsScreenRecord := boot.mIsScreenRecord
  mStarted := false
  mError := false
  mCanvasMode := boot.mCanvasMode
  mCorpX := 0
  mCorpY := 0
  mCorpWidth := 0
  mCorpHeight := 0
  mClientList := .empty
  mCanvasClientExist := false
  mCanvasFramesReceived := []
  mRawBufferQueue := []
  mANativeWindow := none
  mScreenModule := false
  mScreenDev := false

inductive Payload
  | nothing
  | clientId (id : Int)
  | canvas (frame : FrameBufferInfo)
  | raw (pixels : List UInt8)
deriving DecidableEq

structure Outcome where
  status : Int
  payload : Payload
  commands : List Command
  manager : ScreenManager

def frameSize (width height : Int) : Int := (width * height * 3).tdiv 2

-- memcpy and memmove: reading past what is there has no result.
def copyBytes (bytes : Int) (pixels : List UInt8) : Option (List UInt8) :=
  if 0 ≤ bytes ∧ bytes.toNat ≤ pixels.length then some (pixels.take bytes.toNat) else none

-- The scan keeps the last position whose client has another id.
def scanIds (clientNum : Int) : Nat → List ScreenClient → Int
  | _, [] => clientNum
  | i, client :: rest => scanIds (if client.mClientId ≠ (i : Int) + 1 then (i : Int) + 1 else clientNum) (i + 1) rest

def nextClientId (clients : KeyedVector Int ScreenClient) : Int :=
  if clients.size = 0 then 1
  else
    let clientNum := scanIds (-1) 0 clients.values
    if clientNum = -1 then (clients.size : Int) + 1 else clientNum

def hasCanvas (clients : KeyedVector Int ScreenClient) : Bool :=
  clients.values.any fun client => client.dataType = .canvas

-- What the native_window calls return for a fresh surface.
structure SurfaceResult where
  usage : Int
  bufferCount : Int
  geometry : Int

-- An abandoned surface is dropped and the next native_window call dereferences NULL.
def connectWindow (surface : SurfaceResult) : Option ANativeWindow :=
  if surface.usage = enodev ∨ surface.bufferCount = enodev ∨ surface.geometry = enodev then none
  else some ⟨0⟩

def configure (m : ScreenManager) (width height sourceType framerate : Int) (dataType : DataType)
    (gbp : Option SurfaceResult) : Option ScreenManager :=
  match dataType with
  | .canvas =>
      some { m with
        mWidth := width, mHeight := height, mSourceType := sourceType, mFrameRate := framerate,
        mBufferSize := frameSize width height }
  | .rawdata =>
      some (if m.mClientList.size = 0 then
        { m with mWidth := width, mHeight := height, mSourceType := sourceType, mFrameRate := framerate }
      else m)
  | .handle =>
      let connected : Option ScreenManager :=
        match gbp with
        | none => some m
        | some surface => (connectWindow surface).map fun window => { m with mANativeWindow := some window }
      connected.map fun m =>
        if m.mClientList.size = 0 then
          { m with mWidth := 1280, mHeight := 720, mBufferSize := frameSize 1280 720 }
        else m

def init (m : ScreenManager) (width height sourceType framerate : Int) (dataType : DataType)
    (gbp : Option SurfaceResult) : Option Outcome :=
  if maxClient ≤ m.mClientList.size then some ⟨notOk, .nothing, [], m⟩
  else
    let clientNum := nextClientId m.mClientList
    let client : ScreenClient :=
      { width := width, height := height, framerate := framerate, isPrimateClient := false,
        dataType := dataType, mClientId := clientNum }
    if dataType = .canvas ∧ hasCanvas m.mClientList = true then some ⟨notOk, .clientId clientNum, [], m⟩
    else
      (configure m width height sourceType framerate dataType gbp).map fun m =>
        ⟨ok, .clientId clientNum, [], { m with mClientList := m.mClientList.add clientNum client }⟩

-- valueFor aborts on an id that is not in the list.
def uninit (m : ScreenManager) (clientId : Int) : Option Outcome :=
  (m.mClientList.valueFor clientId).map fun _ =>
    ⟨ok, .nothing, [], { m with mClientList := m.mClientList.removeItem clientId }⟩

def setVideoCrop (m : ScreenManager) (x y width height : Int) : Outcome :=
  ⟨ok, .nothing, [], { m with mCorpX := x, mCorpY := y, mCorpWidth := width, mCorpHeight := height }⟩

-- What the hardware layer and the property store answer during one start.
structure Hal where
  moduleFound : Bool
  opened : Bool
  productValue : List UInt8

-- The one character "1".
def marconi : List UInt8 := [0x31]

def portType (sourceType : Int) (productValue : List UInt8) : Option Nat :=
  if sourceType = amlCaptureVideo then some (if productValue = marconi then 0x1100a002 else 0x1100a001)
  else if sourceType = amlCaptureOsdVideo then some (if productValue = marconi then 0x1100a006 else 0x1100a000)
  else none

structure Opening where
  done : Bool
  commands : List Command
  manager : ScreenManager

-- The part of start that gets the module, opens its device and sets it going.
-- A module that is not found leaves NULL, and a refused source type leaves the module.
def openScreenDev (m : ScreenManager) (hal : Hal) : Opening :=
  if hal.moduleFound = false then ⟨false, [], { m with mScreenModule := false }⟩
  else
    match portType m.mSourceType hal.productValue with
    | none => ⟨false, [], { m with mScreenModule := true }⟩
    | some port =>
        if hal.opened = false then ⟨false, [.openDevice [0x31] false], { m with mScreenModule := false }⟩
        else
          ⟨true,
            [.openDevice [0x31] true, .setPortType port, .setFrameRate m.mFrameRate,
              .setFormat m.mWidth m.mHeight (if m.mIsSoftwareEncoder && m.mIsScreenRecord then .nv12 else .nv21),
              .setDataCallBack, .setAmlvideo2Crop m.mCorpX m.mCorpY m.mCorpWidth m.mCorpHeight, .startDevice],
            { m with mScreenModule := true, mScreenDev := true }⟩

def incStrong (window : ANativeWindow) : ANativeWindow := { window with strong := window.strong + 1 }

def decStrong (window : ANativeWindow) : ANativeWindow := { window with strong := window.strong - 1 }

def startClient (m : ScreenManager) (client : ScreenClient) : ScreenManager :=
  { m with
    mANativeWindow := if client.dataType = .handle then m.mANativeWindow.map incStrong else m.mANativeWindow
    mCanvasClientExist := if client.dataType = .canvas then true else m.mCanvasClientExist
    mStarted := true }

def Opens (m : ScreenManager) : Prop := m.mScreenModule = false ∨ m.mClientList.size = 1

instance (m : ScreenManager) : Decidable (Opens m) := inferInstanceAs (Decidable (_ ∨ _))

def start (m : ScreenManager) (clientId : Int) (hal : Hal) : Option Outcome :=
  let opening : Opening := if Opens m then openScreenDev m hal else ⟨true, [], m⟩
  if opening.done = false then some ⟨notOk, .nothing, opening.commands, opening.manager⟩
  else
    (opening.manager.mClientList.valueFor clientId).map fun client =>
      ⟨ok, .nothing, opening.commands, startClient opening.manager client⟩

def reset (m : ScreenManager) : List Command × ScreenManager :=
  if m.mStarted = false then ([], m)
  else
    (if m.mScreenDev then [.stopDevice, .closeDevice] else [],
      { m with mStarted := false, mCanvasFramesReceived := [], mScreenModule := false })

def stopClient (m : ScreenManager) (client : ScreenClient) : ScreenManager :=
  { m with
    mCanvasClientExist := if client.dataType = .canvas then false else m.mCanvasClientExist
    mANativeWindow := if client.dataType = .handle then m.mANativeWindow.map decStrong else m.mANativeWindow
    mRawBufferQueue := if client.dataType = .rawdata then [] else m.mRawBufferQueue }

def stop (m : ScreenManager) (clientId : Int) : Option Outcome :=
  let cleared : List Command × ScreenManager := if m.mClientList.size = 1 then reset m else ([], m)
  (cleared.2.mClientList.valueFor clientId).map fun client =>
    ⟨ok, .nothing, cleared.1, stopClient cleared.2 client⟩

-- The memory behind an IMemory holds the words of a canvas frame; NULL is none.
structure BuffInfo where
  bufPtr : Nat
  canvas : Nat

def readBuffer (m : ScreenManager) (clientId : Int) (buffer : Bool) : Option Outcome :=
  (m.mClientList.valueFor clientId).bind fun client =>
    if m.mStarted = false then some ⟨notOk, .nothing, [], m⟩
    else
      match client.dataType, m.mCanvasFramesReceived, m.mRawBufferQueue with
      | .canvas, frame :: frames, _ =>
          if buffer then some ⟨ok, .canvas frame, [], { m with mCanvasFramesReceived := frames }⟩ else none
      | .rawdata, _, rawBuffer :: queue =>
          if buffer then
            (copyBytes (frameSize m.mWidth m.mHeight) rawBuffer).map fun pixels =>
              ⟨ok, .raw pixels, [], { m with mRawBufferQueue := queue }⟩
          else some ⟨notOk, .nothing, [], { m with mRawBufferQueue := queue }⟩
      | _, _, _ => some ⟨notOk, .nothing, [], m⟩

def freeBuffer (m : ScreenManager) (clientId : Int) (buffer : Option BuffInfo) : Option Outcome :=
  if m.mStarted = false then some ⟨ok, .nothing, [], m⟩
  else
    (m.mClientList.valueFor clientId).bind fun client =>
      if client.dataType = .canvas then
        buffer.map fun info => ⟨ok, .nothing, if m.mScreenDev then [.releaseBuffer info.bufPtr] else [], m⟩
      else some ⟨ok, .nothing, [], m⟩

-- The callback calls the device without a look at the pointer.
def releaseBuffer (m : ScreenManager) (buffer : ScreenBuffer) : Option (List Command) :=
  if m.mScreenDev then some [.releaseBuffer buffer.bufferMem] else none

-- What the native window answers for one handle client.
structure Dequeue where
  ret : Int
  dest : Bool

structure Served where
  status : Int
  commands : List Command
  rawQueue : List (List UInt8)

def serveClient (m : ScreenManager) (buffer : ScreenBuffer) (window : Dequeue) (rawQueue : List (List UInt8))
    (client : ScreenClient) : Option Served :=
  match client.dataType with
  | .handle =>
      if m.mANativeWindow.isNone then some ⟨badValue, [], rawQueue⟩
      else if window.ret ≠ 0 ∨ window.dest = false then some ⟨badValue, [.dequeueBuffer], rawQueue⟩
      else
        (copyBytes m.mBufferSize buffer.pixels).bind fun pixels =>
          (if m.mClientList.size = 1 then releaseBuffer m buffer else some []).map fun released =>
            ⟨ok, [.dequeueBuffer, .queueBuffer pixels] ++ released, rawQueue⟩
  | .rawdata =>
      (if rawQueue.length < 60 then
        (copyBytes (frameSize client.width client.height) buffer.pixels).map fun pixels => rawQueue ++ [pixels]
      else some rawQueue).bind fun queue =>
        (if m.mCanvasClientExist = false then releaseBuffer m buffer else some []).map fun released =>
          ⟨ok, released, queue⟩
  | .canvas =>
      (if m.mCanvasClientExist = false then releaseBuffer m buffer else some []).map fun released =>
        ⟨ok, released, rawQueue⟩

-- The loop over the clients returns from the callback at the first one that fails.
def serveClients (m : ScreenManager) (buffer : ScreenBuffer) (window : Nat → Dequeue) :
    Nat → List (List UInt8) → List ScreenClient → Option Served
  | _, rawQueue, [] => some ⟨ok, [], rawQueue⟩
  | i, rawQueue, client :: rest =>
      (serveClient m buffer (window i) rawQueue client).bind fun served =>
        if served.status ≠ ok then some served
        else
          (serveClients m buffer window (i + 1) served.rawQueue rest).map fun later =>
            { later with commands := served.commands ++ later.commands }

def frameOf (buffer : ScreenBuffer) : FrameBufferInfo := ⟨buffer.bufferMem, buffer.bufferCanvas, 0⟩

def canvasClients (m : ScreenManager) : List ScreenClient :=
  m.mClientList.values.filter fun client => client.dataType = .canvas

def queueFrames (m : ScreenManager) (buffer : ScreenBuffer) : List FrameBufferInfo :=
  if m.mCanvasClientExist then m.mCanvasFramesReceived ++ (canvasClients m).map fun _ => frameOf buffer
  else m.mCanvasFramesReceived

def dataCallBack (m : ScreenManager) (buffer : Option ScreenBuffer) (window : Nat → Dequeue) : Option Outcome :=
  if m.mStarted = true ∧ m.mError = false then
    match buffer with
    | none => some ⟨badValue, .nothing, [], m⟩
    | some buffer =>
        if buffer.bufferMem = 0 then some ⟨badValue, .nothing, [], m⟩
        else if m.mCanvasMode = true ∧ buffer.bufferCanvas = 0 then
          some ⟨badValue, .nothing, [], { m with mError := true }⟩
        else
          (serveClients m buffer window 0 m.mRawBufferQueue m.mClientList.values).map fun served =>
            ⟨served.status, .nothing, served.commands,
              { m with
                mRawBufferQueue := served.rawQueue
                mCanvasFramesReceived :=
                  if served.status = ok then queueFrames m buffer else m.mCanvasFramesReceived }⟩
  else some ⟨ok, .nothing, [], m⟩

end Droidlogic.Screen
