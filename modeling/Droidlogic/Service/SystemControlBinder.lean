import Droidlogic.Lib.Remote

set_option autoImplicit false

namespace Droidlogic.Service.Binder

open Droidlogic.Lib

-- The methods of ISystemControlService that are sent. writeSysfsBin is the writeSysfs of a buffer.
inductive Method
  | getProperty | getPropertyString | getPropertyInt | getPropertyLong | getPropertyBoolean | setProperty
  | readSysfs | writeSysfs | writeSysfsBin | writeUnifyKey | readUnifyKey | writePlayreadyKey | readPlayreadyKey
  | readAttestationKey | writeAttestationKey | readHdcpRX22Key | writeHdcpRX22Key | getModeSupportDeepColorAttr
  | readHdcpRX14Key | writeHdcpRX14Key | writeHdcpRXImg | getBootEnv | setBootEnv | loopMountUnmount
  | setMboxOutputMode | set3DMode | init3DSetting | getVideo3DFormat | getDisplay3DTo2DFormat | setDisplay3DTo2DFormat
  | setDisplay3DFormat | getDisplay3DFormat | setOsd3DFormat | switch3DTo2D | switch2DTo3D | autoDetect3DForMbox
  | setDigitalMode | setOsdMouseMode | setOsdMousePara | setPosition | getPosition | saveDeepColorAttr | getDeepColorAttr
  | initDolbyVision | setDolbyVisionEnable | getDolbyVisionType | isTvSupportDolbyVision | setGraphicsPriority
  | getGraphicsPriority | resolveResolutionValue | setHdrMode | setSdrMode | reInit | instabootResetDisplay
  | setVideoPlayingAxis | setListener | getSupportDispModeList | getActiveDispMode | setActiveDispMode
  | isHDCPTxAuthSuccess | getBootanimStatus | setSinkOutputMode
deriving DecidableEq

inductive Code
  | getProperty | getPropertyString | getPropertyInt | getPropertyLong | getPropertyBool | setProperty
  | readSysfs | writeSysfs | writeSysfsBin | writeUnifyKey | readUnifyKey | writePlayreadyKey | readPlayreadyKey
  | readAttestationKey | writeAttestationKey | readHdcprx22Key | writeHdcprx22Key | getModeSupportDeepcolor
  | readHdcprx14Key | writeHdcprx14Key | writeHdcprxImg | getBootEnv | setBootEnv | loopMountUnmount
  | mboxOutputMode | set3dMode | init3dSetting | getVideo3dFormat | getVideo3dto2dFormat | setVideo3dto2dFormat
  | setDisplay3dFormat | getDisplay3dFormat | setOsd3dFormat | switch3dto2d | switch2dto3d | autoDetect3d
  | setDigitalMode | osdMouseMode | osdMousePara | setPosition | getPosition | saveDeepColorAttr | getDeepColorAttr
  | initDolbyVision | setDolbyVision | getDolbyVisionType | tvSupportDolbyVision | setDolbyVisionPriority
  | getDolbyVisionPriority | resolveResolutionValue | setHdrMode | setSdrMode | reinit | instabootResetDisplay
  | setVideoPlaying | setListener | getSupportedDisplaymodeList | getActiveDisplaymode | setActiveDisplaymode
  | isAuthsuccess | getBootanimstatus | sinkOutputMode
deriving DecidableEq

-- The list of getSupportDispModeList is what it appends.
def signature : Method → Signature
  | .getProperty | .getBootEnv => ⟨[.text], some .bool, [.text]⟩
  | .getPropertyString => ⟨[.text, .text], some .bool, [.text]⟩
  | .getPropertyInt => ⟨[.text, .int32], some .int32, []⟩
  | .getPropertyLong => ⟨[.text, .int64], some .int64, []⟩
  | .getPropertyBoolean => ⟨[.text, .bool], some .bool, []⟩
  | .setProperty | .setBootEnv | .saveDeepColorAttr => ⟨[.text, .text], none, []⟩
  | .readSysfs | .readUnifyKey => ⟨[.text], some .bool, [.text]⟩
  | .writeSysfs | .writeUnifyKey | .getModeSupportDeepColorAttr => ⟨[.text, .text], some .bool, []⟩
  | .writeSysfsBin | .writePlayreadyKey => ⟨[.text, .buffer], some .bool, []⟩
  | .readPlayreadyKey => ⟨[.text, .int32], some .buffer, []⟩
  | .readAttestationKey => ⟨[.text, .text, .int32], some .buffer, []⟩
  | .writeAttestationKey => ⟨[.text, .text, .buffer], some .bool, []⟩
  | .readHdcpRX22Key | .readHdcpRX14Key => ⟨[.int32], some .buffer, []⟩
  | .writeHdcpRX22Key | .writeHdcpRX14Key => ⟨[.buffer], some .bool, []⟩
  | .writeHdcpRXImg | .setActiveDispMode => ⟨[.text], some .bool, []⟩
  | .loopMountUnmount => ⟨[.int32, .text], none, []⟩
  | .setMboxOutputMode | .setDigitalMode | .setOsdMouseMode | .setGraphicsPriority | .setHdrMode | .setSdrMode
  | .setSinkOutputMode => ⟨[.text], none, []⟩
  | .set3DMode => ⟨[.text], some .int32, []⟩
  | .init3DSetting | .autoDetect3DForMbox | .reInit | .instabootResetDisplay | .setVideoPlayingAxis => ⟨[], none, []⟩
  | .getVideo3DFormat | .getDisplay3DTo2DFormat | .getDisplay3DFormat | .getDolbyVisionType => ⟨[], some .int32, []⟩
  | .setDisplay3DTo2DFormat | .setDisplay3DFormat | .setOsd3DFormat | .switch3DTo2D | .switch2DTo3D =>
      ⟨[.int32], some .bool, []⟩
  | .setOsdMousePara | .setPosition => ⟨[.int32, .int32, .int32, .int32], none, []⟩
  | .getPosition => ⟨[.text], none, [.int32, .int32, .int32, .int32]⟩
  | .getDeepColorAttr => ⟨[.text], none, [.text]⟩
  | .initDolbyVision | .setDolbyVisionEnable => ⟨[.int32], none, []⟩
  | .isTvSupportDolbyVision | .getActiveDispMode => ⟨[], some .bool, [.text]⟩
  | .getGraphicsPriority => ⟨[], none, [.text]⟩
  | .resolveResolutionValue => ⟨[.text], some .int64, []⟩
  | .setListener => ⟨[.binder], none, []⟩
  | .getSupportDispModeList => ⟨[], some .bool, [.texts]⟩
  | .isHDCPTxAuthSuccess | .getBootanimStatus => ⟨[], none, [.int32]⟩

-- Nothing is read from the reply.
def send (code : Code) : Proxy Code := ⟨code, true, .plain none [], none⟩

def sendTextFirst (code : Code) : Proxy Code := { send code with tokenFirst := false }

def askBool (code : Code) : Proxy Code := ⟨code, true, .plain (some .bool) [], some (.bool false)⟩

def askGuarded (code : Code) (outs : List Kind) : Proxy Code := ⟨code, true, .guarded outs, some (.bool false)⟩

def askInt (code : Code) (fallback : Int32) : Proxy Code := ⟨code, true, .plain (some .int32) [], some (.int32 fallback)⟩

def askLogged (code : Code) : Proxy Code := ⟨code, true, .logged, some (.int32 (-1))⟩

def askOuts (code : Code) (outs : List Kind) : Proxy Code := ⟨code, true, .plain none outs, none⟩

-- What is returned without contact is false, so a length of 0.
def askBuffer (code : Code) : Proxy Code := ⟨code, true, .plain (some .buffer) [], some (.buffer 0 [] rfl)⟩

-- BpSystemControlService.
def bp : Method → Proxy Code
  | .getProperty => askGuarded .getProperty [.text]
  | .getPropertyString => askGuarded .getPropertyString [.text]
  | .getPropertyInt => askInt .getPropertyInt (-1)
  | .getPropertyLong => ⟨.getPropertyLong, true, .plain (some .int64) [], some (.int64 (-1))⟩
  | .getPropertyBoolean => askBool .getPropertyBool
  | .setProperty => send .setProperty
  | .readSysfs => ⟨.readSysfs, true, .assumed [.text], some (.bool false)⟩
  | .writeSysfs => askBool .writeSysfs
  | .writeSysfsBin => askBool .writeSysfsBin
  | .writeUnifyKey => askBool .writeUnifyKey
  | .readUnifyKey => ⟨.readUnifyKey, true, .retLast [.text] .bool, some (.bool false)⟩
  | .writePlayreadyKey => askBool .writePlayreadyKey
  | .readPlayreadyKey => askBuffer .readPlayreadyKey
  | .readAttestationKey => askBuffer .readAttestationKey
  | .writeAttestationKey => askBool .writeAttestationKey
  | .readHdcpRX22Key => askBuffer .readHdcprx22Key
  | .writeHdcpRX22Key => askBool .writeHdcprx22Key
  | .getModeSupportDeepColorAttr => askBool .getModeSupportDeepcolor
  | .readHdcpRX14Key => askBuffer .readHdcprx14Key
  | .writeHdcpRX14Key => askBool .writeHdcprx14Key
  | .writeHdcpRXImg => askBool .writeHdcprxImg
  | .getBootEnv => askGuarded .getBootEnv [.text]
  | .setBootEnv => send .setBootEnv
  | .loopMountUnmount => send .loopMountUnmount
  | .setMboxOutputMode => send .mboxOutputMode
  | .set3DMode => askInt .set3dMode (-1)
  | .init3DSetting => send .init3dSetting
  | .getVideo3DFormat => askLogged .getVideo3dFormat
  | .getDisplay3DTo2DFormat => askLogged .getVideo3dto2dFormat
  | .setDisplay3DTo2DFormat => askGuarded .setVideo3dto2dFormat []
  | .setDisplay3DFormat => askGuarded .setDisplay3dFormat []
  | .getDisplay3DFormat => askLogged .getDisplay3dFormat
  | .setOsd3DFormat => askGuarded .setOsd3dFormat []
  | .switch3DTo2D => askGuarded .switch3dto2d []
  | .switch2DTo3D => askGuarded .switch2dto3d []
  | .autoDetect3DForMbox => send .autoDetect3d
  | .setDigitalMode => send .setDigitalMode
  | .setOsdMouseMode => send .osdMouseMode
  | .setOsdMousePara => send .osdMousePara
  | .setPosition => send .setPosition
  | .getPosition => askOuts .getPosition [.int32, .int32, .int32, .int32]
  | .saveDeepColorAttr => send .saveDeepColorAttr
  | .getDeepColorAttr => askOuts .getDeepColorAttr [.text]
  | .initDolbyVision => send .initDolbyVision
  | .setDolbyVisionEnable => send .setDolbyVision
  | .getDolbyVisionType => askInt .getDolbyVisionType 0
  | .isTvSupportDolbyVision => ⟨.tvSupportDolbyVision, true, .retLast [.text] .bool, some (.bool false)⟩
  | .setGraphicsPriority => sendTextFirst .setDolbyVisionPriority
  | .getGraphicsPriority => askOuts .getDolbyVisionPriority [.text]
  | .resolveResolutionValue => ⟨.resolveResolutionValue, false, .plain (some .int64) [], some (.int64 (-1))⟩
  | .setHdrMode => sendTextFirst .setHdrMode
  | .setSdrMode => sendTextFirst .setSdrMode
  | .reInit => send .reinit
  | .instabootResetDisplay => send .instabootResetDisplay
  | .setVideoPlayingAxis => send .setVideoPlaying
  | .setListener => send .setListener
  | .getSupportDispModeList => askGuarded .getSupportedDisplaymodeList [.texts]
  | .getActiveDispMode => askGuarded .getActiveDisplaymode [.text]
  | .setActiveDispMode => askGuarded .setActiveDisplaymode []
  | .isHDCPTxAuthSuccess => askOuts .isAuthsuccess [.int32]
  | .getBootanimStatus => askOuts .getBootanimstatus [.int32]
  | .setSinkOutputMode => send .sinkOutputMode

def serve (params : List Kind) (calls : Method) : Stub Method := ⟨true, params, calls, .retFirst⟩

-- BnISystemControlService::onTransact.
def bn : Code → Stub Method
  | .getProperty => serve [.text] .getProperty
  | .getPropertyString => serve [.text, .text] .getPropertyString
  | .getPropertyInt => serve [.text, .int32] .getPropertyInt
  | .getPropertyLong => serve [.text, .int64] .getPropertyLong
  | .getPropertyBool => serve [.text, .bool] .getPropertyBoolean
  | .setProperty => serve [.text, .text] .setProperty
  | .readSysfs => ⟨true, [.text], .readSysfs, .outsOnly⟩
  | .writeSysfs => serve [.text, .text] .writeSysfs
  | .writeSysfsBin => serve [.text, .buffer] .writeSysfsBin
  | .writeUnifyKey => serve [.text, .text] .writeUnifyKey
  | .readUnifyKey => ⟨true, [.text], .readUnifyKey, .retLast⟩
  | .writePlayreadyKey => serve [.text, .buffer] .writePlayreadyKey
  | .readPlayreadyKey => serve [.text, .int32] .readPlayreadyKey
  | .writeAttestationKey => serve [.text, .text, .buffer] .writeAttestationKey
  | .readAttestationKey => serve [.text, .text, .int32] .readAttestationKey
  | .readHdcprx22Key => serve [.int32] .readHdcpRX22Key
  | .writeHdcprx22Key => serve [.buffer] .writeHdcpRX22Key
  | .readHdcprx14Key => serve [.int32] .readHdcpRX14Key
  | .writeHdcprx14Key => serve [.buffer] .writeHdcpRX14Key
  | .writeHdcprxImg => serve [.text] .writeHdcpRXImg
  | .getBootEnv => serve [.text] .getBootEnv
  | .setBootEnv => serve [.text, .text] .setBootEnv
  | .loopMountUnmount => serve [.int32, .text] .loopMountUnmount
  | .mboxOutputMode => serve [.text] .setMboxOutputMode
  | .set3dMode => serve [.text] .set3DMode
  | .setDigitalMode => serve [.text] .setDigitalMode
  | .osdMouseMode => serve [.text] .setOsdMouseMode
  | .osdMousePara => serve [.int32, .int32, .int32, .int32] .setOsdMousePara
  | .setPosition => serve [.int32, .int32, .int32, .int32] .setPosition
  | .getPosition => serve [.text] .getPosition
  | .initDolbyVision => serve [.int32] .initDolbyVision
  | .setDolbyVision => serve [.int32] .setDolbyVisionEnable
  | .getDolbyVisionType => serve [] .getDolbyVisionType
  | .tvSupportDolbyVision => ⟨true, [], .isTvSupportDolbyVision, .retLast⟩
  | .reinit => serve [] .reInit
  | .instabootResetDisplay => serve [] .instabootResetDisplay
  | .setVideoPlaying => serve [] .setVideoPlayingAxis
  | .setListener => serve [.binder] .setListener
  | .init3dSetting => serve [] .init3DSetting
  | .getVideo3dFormat => serve [] .getVideo3DFormat
  | .getVideo3dto2dFormat => serve [] .getDisplay3DTo2DFormat
  | .setVideo3dto2dFormat => serve [.int32] .setDisplay3DTo2DFormat
  | .setDisplay3dFormat => serve [.int32] .setDisplay3DFormat
  | .getDisplay3dFormat => serve [] .getDisplay3DFormat
  | .setOsd3dFormat => serve [.int32] .setOsd3DFormat
  | .switch3dto2d => serve [.int32] .switch3DTo2D
  | .switch2dto3d => serve [.int32] .switch2DTo3D
  | .autoDetect3d => serve [] .autoDetect3DForMbox
  | .getSupportedDisplaymodeList => serve [] .getSupportDispModeList
  | .getActiveDisplaymode => serve [] .getActiveDispMode
  | .setActiveDisplaymode => serve [.text] .setActiveDispMode
  | .isAuthsuccess => serve [] .isHDCPTxAuthSuccess
  | .getBootanimstatus => serve [] .getBootanimStatus
  | .saveDeepColorAttr => serve [.text, .text] .saveDeepColorAttr
  | .getDeepColorAttr => serve [.text] .getDeepColorAttr
  | .getModeSupportDeepcolor => serve [.text, .text] .getModeSupportDeepColorAttr
  | .resolveResolutionValue => serve [.text] .resolveResolutionValue
  | .setHdrMode => serve [.text] .setHdrMode
  | .setSdrMode => serve [.text] .setSdrMode
  | .sinkOutputMode => serve [.text] .setSinkOutputMode
  | .setDolbyVisionPriority => serve [.text] .setGraphicsPriority
  | .getDolbyVisionPriority => ⟨false, [], .getGraphicsPriority, .retFirst⟩

def systemControl : Interface Method Code := ⟨signature, bp, bn⟩

-- The text of these stands before the token.
def Misordered (name : Method) : Prop :=
  name ∈ [Method.setGraphicsPriority, .resolveResolutionValue, .setHdrMode, .setSdrMode]

instance (name : Method) : Decidable (Misordered name) := inferInstanceAs (Decidable (_ ∈ _))

theorem ordered_agreed (name : Method) (ordered : ¬ Misordered name) : Agreed systemControl name := by
  cases name <;>
    first
      | exact absurd (by decide) ordered
      | exact ⟨rfl, rfl, rfl, .inl rfl, by decide⟩
      | exact ⟨rfl, rfl, rfl, .inr rfl, by decide⟩

structure Call where
  name : Method
  args : List Value
  kinds : args.map Value.kind = (signature name).params
  prior : List Value

theorem misordered_text (call : Call) (misordered : Misordered call.name) :
    (bp call.name).tokenFirst = false ∧ (bn (bp call.name).code).checks = true ∧ ∃ text, call.args = [.text text] := by
  obtain ⟨name, args, kinds, prior⟩ := call
  have one : (signature name).params = [.text] ∧ (bp name).tokenFirst = false ∧ (bn (bp name).code).checks = true := by
    have listed : name ∈ [Method.setGraphicsPriority, .resolveResolutionValue, .setHdrMode, .setSdrMode] := misordered
    simp only [List.mem_cons, List.not_mem_nil, or_false] at listed
    rcases listed with rfl | rfl | rfl | rfl <;> exact ⟨rfl, rfl, rfl⟩
  refine ⟨one.2.1, one.2.2, ?_⟩
  obtain ⟨value, rfl, kind⟩ := List.map_eq_singleton_iff.mp (kinds.trans one.1)
  cases value with
  | text chars => exact ⟨chars, rfl⟩
  | _ => cases kind

section
variable {Parcel State : Type} (ops : ParcelOps Parcel) (service : Service Method State) (verbose : Bool)

-- A client's calls through the proxy.
def remoteCalls : List Call → State → List Answer × State
  | [], state => ([], state)
  | call :: rest, state =>
      let (answer, state) := transact ops systemControl service verbose call.name call.args call.prior state
      let (answers, state) := remoteCalls rest state
      (answer :: answers, state)

-- The same calls made directly; the misordered ones do not reach the service.
def directCalls : List Call → State → List Answer × State
  | [], state => ([], state)
  | call :: rest, state =>
      if Misordered call.name then
        let (answers, state) := directCalls rest state
        (⟨(bp call.name).fallback, call.prior⟩ :: answers, state)
      else
        let (answer, state) := service call.name call.args state
        let (answers, state) := directCalls rest state
        ((bp call.name).decoding.seen verbose call.prior answer :: answers, state)

theorem remote_calls_direct (Holds : Parcel → List Item → Prop) (fifo : Fifo ops Holds)
    (typed : ∀ call : Call, ∀ state, Typed (signature call.name) (service call.name call.args state).1)
    (calls : List Call) (state : State) :
    remoteCalls ops service verbose calls state = directCalls service verbose calls state := by
  induction calls generalizing state with
  | nil => rfl
  | cons call rest ih =>
      rw [remoteCalls, directCalls]
      by_cases misordered : Misordered call.name
      · obtain ⟨last, checks, text, args⟩ := misordered_text call misordered
        have refused := fifo.transact_refused systemControl service verbose call.name last checks text [] call.prior state
        rw [← args] at refused
        rw [refused, if_pos misordered]
        dsimp only
        rw [ih]
        rfl
      · have agreed := ordered_agreed call.name misordered
        have direct := fifo.transact_agreed systemControl service verbose call.name agreed call.args call.kinds call.prior state
          (typed call state)
        rw [direct, if_neg misordered]
        dsimp only
        rw [ih]
        rfl

end

-- A service that counts its calls and says no to everything.
def blank : Kind → Value
  | .int32 => .int32 7
  | .bool => .bool false
  | .int64 => .int64 0
  | .text => .text [65]
  | .buffer => .buffer (-1) [] rfl
  | .binder => .binder 0
  | .texts => .texts []

def refusing : Service Method Nat := fun name _ calls =>
  (⟨(signature name).ret.map blank, (signature name).outs.map blank⟩, calls + 1)

-- A refused property leaves the variable, a refused file does not, and the HDR mode does not arrive.
theorem remote_calls_refused :
    remoteCalls itemParcel refusing false
        [⟨.getProperty, [.text [1]], rfl, [.text [2]]⟩, ⟨.readSysfs, [.text [1]], rfl, [.text [2]]⟩,
          ⟨.setHdrMode, [.text [1]], rfl, []⟩, ⟨.readHdcpRX22Key, [.int32 16], rfl, []⟩] 0 =
      ([⟨some (.bool false), [.text [2]]⟩, ⟨some (.bool true), [.text [65]]⟩, ⟨none, []⟩, ⟨some (.buffer (-1) [] rfl), []⟩], 3) := by
  have typed : ∀ call : Call, ∀ state, Typed (signature call.name) (refusing call.name call.args state).1 := by
    have kind : ∀ kind : Kind, (blank kind).kind = kind := fun kind => by cases kind <;> rfl
    intro call state
    refine ⟨?_, ?_⟩
    · show ((signature call.name).ret.map blank).map Value.kind = _
      rw [Option.map_map, show Value.kind ∘ blank = id from funext kind, Option.map_id]
      rfl
    · show ((signature call.name).outs.map blank).map Value.kind = _
      rw [List.map_map, show Value.kind ∘ blank = id from funext kind, List.map_id]
  rw [remote_calls_direct itemParcel refusing false Eq item_parcel_fifo typed]
  rfl

end Droidlogic.Service.Binder
