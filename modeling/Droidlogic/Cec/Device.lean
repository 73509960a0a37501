import Droidlogic.Cec.Message
import Droidlogic.Cec.MsgQueue

set_option autoImplicit false

namespace Droidlogic.Cec

open Lib

def devTypeTv : Nat := 0
def devTypePlayback : Nat := 4
def devTypeAudioSystem : Nat := 5

def addrBroadcast : Nat := 15
def delayTimeoutMs : Nat := 5000

def msgFilterOtpTimeout : Nat := 0
def getMenuLanguage : Nat := 1
def giveOsdName : Nat := 3
def msgWaitEdidupdateFinishedTimeout : Nat := 5
def msgGivePhysicalAddress : Nat := 6
def msgSetStreamPath : Nat := 7
def msgUserControlPressed : Nat := 8
def msgTurnOnDevice : Nat := 9
def msgGiveDeviceVendorId : Nat := 11

structure HdmiPortInfo where
  portId : Int
  arcSupported : Bool
  physicalAddress : Nat
deriving DecidableEq

structure CecDevice where
  mDeviceTypes : List Nat
  mAddedPhyAddrs : Vector Nat addrBroadcast
  isTvDeviceType : Bool
  isPlaybackDeviceType : Bool
  mAddrBitmap : Nat
  mLogicalAddress : Nat
  mFd : Int
  isCecEnabled : Bool
  isCecControlled : Bool
  mpPortData : List HdmiPortInfo
  mExtendControl : Nat
  mFilterOtpEnabled : Bool
  mWaitEdidUpdatedFinished : Bool
  mSelectedDeviceId : Int
  mTvOsdName : Nat
  mTvDeviceVendorId : Nat
  mActiveLogicalAddr : Nat
  mActiveRoutingPath : Nat
deriving DecidableEq

-- What init leaves; the fields that it does not set are 0 here.
def initDevice (types : List Nat) : CecDevice where
  mDeviceTypes := types
  mAddedPhyAddrs := .replicate addrBroadcast 0
  isTvDeviceType := types.contains devTypeTv
  isPlaybackDeviceType := types.contains devTypePlayback
  mAddrBitmap := 0
  mLogicalAddress := 0
  mFd := 0
  isCecEnabled := false
  isCecControlled := false
  mpPortData := []
  mExtendControl := 1
  mFilterOtpEnabled := false
  mWaitEdidUpdatedFinished := false
  mSelectedDeviceId := 0
  mTvOsdName := 0
  mTvDeviceVendorId := 0
  mActiveLogicalAddr := 0
  mActiveRoutingPath := 0

def openCecDevice (device : CecDevice) (fd : Int) : CecDevice :=
  { device with
    mpPortData := []
    mAddrBitmap := 1 <<< cecAddrBroadcast
    mLogicalAddress := cecAddrBroadcast
    isCecEnabled := true
    isCecControlled := false
    mFilterOtpEnabled := false
    mWaitEdidUpdatedFinished := true
    mSelectedDeviceId := -1
    mFd := fd
    mAddedPhyAddrs := .replicate addrBroadcast 0 }

-- What the calls made to other services answer.
structure Services where
  earcSupport : Bool
  setMenuLanguage : Bool
  deviceAutoPowerOff : Bool

def plainServices : Services := ⟨false, true, true⟩

-- The calls of the message queue, in order.
inductive QueueCall
  | removeMsg (mType : Nat)
  | sendMsg (msg : MsgQueue.CMessage)

-- The parameter bytes that are set; the others are not read.
def delayed (mType mDelayMs : Nat) (mpPara : Bytes) : MsgQueue.CMessage :=
  ⟨mDelayMs, 0, mType, fun i => mpPara.getD i 0⟩

end Droidlogic.Cec
