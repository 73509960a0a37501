import Droidlogic.Lib.Run
import Droidlogic.Screen.Manager

set_option autoImplicit false

namespace Droidlogic.Screen

open Droidlogic.Lib

-- One call on the manager with what its surroundings answer during it.
inductive Call
  | init (width height sourceType framerate : Int) (dataType : DataType) (gbp : Option SurfaceResult)
  | uninit (clientId : Int)
  | setVideoCrop (x y width height : Int)
  | start (clientId : Int) (hal : Hal)
  | stop (clientId : Int)
  | readBuffer (clientId : Int) (buffer : Bool)
  | freeBuffer (clientId : Int) (buffer : Option BuffInfo)
  | dataCallBack (buffer : Option ScreenBuffer) (window : Nat → Dequeue)

def perform (m : ScreenManager) : Call → Option Outcome
  | .init width height sourceType framerate dataType gbp => init m width height sourceType framerate dataType gbp
  | .uninit clientId => uninit m clientId
  | .setVideoCrop x y width height => some (setVideoCrop m x y width height)
  | .start clientId hal => start m clientId hal
  | .stop clientId => stop m clientId
  | .readBuffer clientId buffer => readBuffer m clientId buffer
  | .freeBuffer clientId buffer => freeBuffer m clientId buffer
  | .dataCallBack buffer window => dataCallBack m buffer window

structure Event where
  call : Call
  before : ScreenManager
  status : Int
  payload : Payload
  commands : List Command

-- The manager and what has happened to it, the latest first.
structure System where
  manager : ScreenManager
  log : List Event

def eventOf (before : ScreenManager) (call : Call) (outcome : Outcome) : Event :=
  ⟨call, before, outcome.status, outcome.payload, outcome.commands⟩

def step (s : System) (call : Call) : Option System :=
  (perform s.manager call).map fun outcome => ⟨outcome.manager, eventOf s.manager call outcome :: s.log⟩

def powered (boot : Boot) : System := ⟨construct boot, []⟩

def sampleBoot : Boot where
  mWidth := 0
  mHeight := 0
  mSourceType := 0
  mBufferSize := 0
  mCanvasMode := false
  mIsSoftwareEncoder := false
  mIsScreenRecord := false

def sampleHal : Hal where
  moduleFound := true
  opened := true
  productValue := [0x30]

theorem step_cases (s next : System) (call : Call) (taken : step s call = some next) :
    ∃ outcome, perform s.manager call = some outcome ∧
      next = ⟨outcome.manager, eventOf s.manager call outcome :: s.log⟩ := by
  obtain ⟨outcome, performed, made⟩ := Option.map_eq_some_iff.mp taken
  exact ⟨outcome, performed, made.symm⟩

-- The part of the manager that the clients' calls and the device's callbacks share.
structure Session where
  mStarted : Bool
  mCanvasClientExist : Bool
  mCanvasFramesReceived : List FrameBufferInfo
  mScreenModule : Bool
  mScreenDev : Bool

def session (m : ScreenManager) : Session :=
  ⟨m.mStarted, m.mCanvasClientExist, m.mCanvasFramesReceived, m.mScreenModule, m.mScreenDev⟩

def Rejected (m : ScreenManager) (dataType : DataType) : Prop :=
  maxClient ≤ m.mClientList.size ∨ (dataType = .canvas ∧ hasCanvas m.mClientList = true)

instance (m : ScreenManager) (dataType : DataType) : Decidable (Rejected m dataType) :=
  inferInstanceAs (Decidable (_ ∨ _))

def newClient (m : ScreenManager) (width height framerate : Int) (dataType : DataType) : ScreenClient where
  width := width
  height := height
  framerate := framerate
  isPrimateClient := false
  dataType := dataType
  mClientId := nextClientId m.mClientList

theorem configure_same (m configured : ScreenManager) (width height sourceType framerate : Int) (dataType : DataType)
    (gbp : Option SurfaceResult)
    (done : configure m width height sourceType framerate dataType gbp = some configured) :
    session configured = session m ∧ configured.mClientList = m.mClientList := by
  cases dataType with
  | canvas => cases done; exact ⟨rfl, rfl⟩
  | rawdata =>
      cases done
      by_cases empty : m.mClientList.size = 0
      · rw [if_pos empty]; exact ⟨rfl, rfl⟩
      · rw [if_neg empty]; exact ⟨rfl, rfl⟩
  | handle =>
      obtain ⟨connected, reached, rfl⟩ := Option.map_eq_some_iff.mp done
      have same : session connected = session m ∧ connected.mClientList = m.mClientList := by
        cases gbp with
        | none => cases reached; exact ⟨rfl, rfl⟩
        | some surface =>
            obtain ⟨window, _, rfl⟩ := Option.map_eq_some_iff.mp reached
            exact ⟨rfl, rfl⟩
      by_cases empty : connected.mClientList.size = 0
      · rw [if_pos empty]; exact same
      · rw [if_neg empty]; exact same

theorem init_cases (m : ScreenManager) (width height sourceType framerate : Int) (dataType : DataType)
    (gbp : Option SurfaceResult) (outcome : Outcome)
    (done : init m width height sourceType framerate dataType gbp = some outcome) :
    (Rejected m dataType ∧ outcome.status = notOk ∧ outcome.commands = [] ∧ outcome.manager = m) ∨
      (¬ Rejected m dataType ∧ outcome.status = ok ∧ outcome.payload = .clientId (nextClientId m.mClientList) ∧
        outcome.commands = [] ∧ session outcome.manager = session m ∧
        outcome.manager.mClientList =
          m.mClientList.add (nextClientId m.mClientList) (newClient m width height framerate dataType)) := by
  rw [init] at done
  by_cases full : maxClient ≤ m.mClientList.size
  · rw [if_pos full] at done
    cases done
    exact .inl ⟨.inl full, rfl, rfl, rfl⟩
  · rw [if_neg full] at done
    by_cases second : dataType = .canvas ∧ hasCanvas m.mClientList = true
    · rw [if_pos second] at done
      cases done
      exact .inl ⟨.inr second, rfl, rfl, rfl⟩
    · rw [if_neg second] at done
      obtain ⟨configured, reached, rfl⟩ := Option.map_eq_some_iff.mp done
      obtain ⟨sameSession, sameClients⟩ := configure_same m configured _ _ _ _ _ _ reached
      exact .inr ⟨fun rejected => rejected.elim full second, rfl, rfl, rfl, sameSession,
        congrArg (fun clients : KeyedVector Int ScreenClient =>
          clients.add (nextClientId m.mClientList) (newClient m width height framerate dataType)) sameClients⟩

theorem uninit_cases (m : ScreenManager) (clientId : Int) (outcome : Outcome)
    (done : uninit m clientId = some outcome) :
    clientId ∈ m.mClientList.keys ∧
      outcome = ⟨ok, .nothing, [], { m with mClientList := m.mClientList.removeItem clientId }⟩ := by
  obtain ⟨client, found, made⟩ := Option.map_eq_some_iff.mp done
  exact ⟨(m.mClientList.mem_keys_iff clientId).mpr ⟨client, found⟩, made.symm⟩

theorem set_video_crop_same (m : ScreenManager) (x y width height : Int) :
    session (setVideoCrop m x y width height).manager = session m ∧
      (setVideoCrop m x y width height).manager.mClientList = m.mClientList := ⟨rfl, rfl⟩

def opening (m : ScreenManager) (hal : Hal) : Opening := if Opens m then openScreenDev m hal else ⟨true, [], m⟩

theorem opening_cases (m : ScreenManager) (hal : Hal) :
    (¬Opens m ∧ opening m hal = ⟨true, [], m⟩) ∨
    (hal.moduleFound = false ∧ opening m hal = ⟨false, [], { m with mScreenModule := false }⟩) ∨
    (portType m.mSourceType hal.productValue = none ∧ opening m hal = ⟨false, [], { m with mScreenModule := true }⟩) ∨
    (hal.opened = false ∧ opening m hal = ⟨false, [.openDevice [0x31] false], { m with mScreenModule := false }⟩) ∨
    ∃ port, Opens m ∧ hal.moduleFound = true ∧ portType m.mSourceType hal.productValue = some port ∧ hal.opened = true ∧
      opening m hal =
        ⟨true,
          [.openDevice [0x31] true, .setPortType port, .setFrameRate m.mFrameRate,
            .setFormat m.mWidth m.mHeight (if m.mIsSoftwareEncoder && m.mIsScreenRecord then .nv12 else .nv21),
            .setDataCallBack, .setAmlvideo2Crop m.mCorpX m.mCorpY m.mCorpWidth m.mCorpHeight, .startDevice],
          { m with mScreenModule := true, mScreenDev := true }⟩ := by
  rw [opening]
  by_cases opens : Opens m
  · rw [if_pos opens, openScreenDev]
    by_cases missing : hal.moduleFound = false
    · exact .inr (.inl ⟨missing, if_pos missing⟩)
    · rw [if_neg missing]
      cases type : portType m.mSourceType hal.productValue with
      | none => exact .inr (.inr (.inl ⟨rfl, rfl⟩))
      | some port =>
          by_cases closed : hal.opened = false
          · exact .inr (.inr (.inr (.inl ⟨closed, if_pos closed⟩)))
          · exact .inr (.inr (.inr (.inr ⟨port, opens, Bool.eq_true_of_not_eq_false missing, rfl,
              Bool.eq_true_of_not_eq_false closed, if_neg closed⟩)))
  · exact .inl ⟨opens, if_neg opens⟩

theorem opening_same (m : ScreenManager) (hal : Hal) :
    (opening m hal).manager.mClientList = m.mClientList ∧
      (opening m hal).manager.mStarted = m.mStarted ∧
      (opening m hal).manager.mCanvasClientExist = m.mCanvasClientExist ∧
      (opening m hal).manager.mCanvasFramesReceived = m.mCanvasFramesReceived := by
  rcases opening_cases m hal with ⟨_, same⟩ | ⟨_, same⟩ | ⟨_, same⟩ | ⟨_, same⟩ | ⟨_, _, _, _, _, same⟩
  all_goals
    rw [same]
    exact ⟨rfl, rfl, rfl, rfl⟩

theorem start_cases (m : ScreenManager) (clientId : Int) (hal : Hal) (outcome : Outcome)
    (done : start m clientId hal = some outcome) :
    ((opening m hal).done = false ∧
      outcome = ⟨notOk, .nothing, (opening m hal).commands, (opening m hal).manager⟩) ∨
    ((opening m hal).done = true ∧ ∃ client, m.mClientList.valueFor clientId = some client ∧
      outcome = ⟨ok, .nothing, (opening m hal).commands, startClient (opening m hal).manager client⟩) := by
  have unfolded : start m clientId hal =
      if (opening m hal).done = false then
        some ⟨notOk, .nothing, (opening m hal).commands, (opening m hal).manager⟩
      else
        ((opening m hal).manager.mClientList.valueFor clientId).map fun client =>
          ⟨ok, .nothing, (opening m hal).commands, startClient (opening m hal).manager client⟩ := rfl
  rw [unfolded] at done
  by_cases failed : (opening m hal).done = false
  · rw [if_pos failed] at done
    exact .inl ⟨failed, (Option.some.inj done).symm⟩
  · rw [if_neg failed, (opening_same m hal).1] at done
    obtain ⟨client, found, made⟩ := Option.map_eq_some_iff.mp done
    exact .inr ⟨Bool.eq_true_of_not_eq_false failed, client, found, made.symm⟩

def clearing (m : ScreenManager) : List Command × ScreenManager :=
  if m.mClientList.size = 1 then reset m else ([], m)

-- The last client's stop clears a manager that runs, and no other stop does.
theorem clearing_cases (m : ScreenManager) :
    (m.mClientList.size = 1 ∧ m.mStarted = true ∧
      clearing m = (if m.mScreenDev then [.stopDevice, .closeDevice] else [],
        { m with mStarted := false, mCanvasFramesReceived := [], mScreenModule := false })) ∨
    (¬ (m.mClientList.size = 1 ∧ m.mStarted = true) ∧ clearing m = ([], m)) := by
  rw [clearing, reset]
  by_cases sole : m.mClientList.size = 1
  · rw [if_pos sole]
    cases started : m.mStarted with
    | false => exact .inr ⟨fun both => Bool.noConfusion both.2, if_pos rfl⟩
    | true => exact .inl ⟨sole, rfl, if_neg (fun idle => Bool.noConfusion idle)⟩
  · rw [if_neg sole]
    exact .inr ⟨fun both => sole both.1, rfl⟩

theorem clearing_clients (m : ScreenManager) : (clearing m).2.mClientList = m.mClientList := by
  rcases clearing_cases m with ⟨_, _, cleared⟩ | ⟨_, same⟩
  · rw [cleared]
  · rw [same]

theorem stop_cases (m : ScreenManager) (clientId : Int) (outcome : Outcome) (done : stop m clientId = some outcome) :
    ∃ client, m.mClientList.valueFor clientId = some client ∧
      outcome = ⟨ok, .nothing, (clearing m).1, stopClient (clearing m).2 client⟩ := by
  have unfolded : stop m clientId =
      ((clearing m).2.mClientList.valueFor clientId).map fun client =>
        ⟨ok, .nothing, (clearing m).1, stopClient (clearing m).2 client⟩ := rfl
  rw [unfolded, clearing_clients] at done
  obtain ⟨client, found, made⟩ := Option.map_eq_some_iff.mp done
  exact ⟨client, found, made.symm⟩

theorem read_buffer_cases (m : ScreenManager) (clientId : Int) (buffer : Bool) (outcome : Outcome)
    (done : readBuffer m clientId buffer = some outcome) :
    outcome.commands = [] ∧ outcome.manager.mClientList = m.mClientList ∧
      session outcome.manager =
        { session m with mCanvasFramesReceived := outcome.manager.mCanvasFramesReceived } ∧
      ((m.mStarted = true ∧ ∃ frame, outcome.payload = .canvas frame ∧
          m.mCanvasFramesReceived = frame :: outcome.manager.mCanvasFramesReceived) ∨
        ((∀ frame, outcome.payload ≠ .canvas frame) ∧
          outcome.manager.mCanvasFramesReceived = m.mCanvasFramesReceived)) := by
  obtain ⟨client, _, done⟩ := Option.bind_eq_some_iff.mp done
  by_cases idle : m.mStarted = false
  · rw [if_pos idle] at done
    cases done
    exact ⟨rfl, rfl, rfl, .inr ⟨fun _ => nofun, rfl⟩⟩
  · rw [if_neg idle] at done
    split at done
    · next _ frame frames _ queued =>
        cases buffer with
        | false => cases done
        | true =>
            cases done
            exact ⟨rfl, rfl, rfl, .inl ⟨Bool.eq_true_of_not_eq_false idle, frame, rfl, queued⟩⟩
    · cases buffer with
      | false =>
          cases done
          exact ⟨rfl, rfl, rfl, .inr ⟨fun _ => nofun, rfl⟩⟩
      | true =>
          obtain ⟨pixels, _, rfl⟩ := Option.map_eq_some_iff.mp done
          exact ⟨rfl, rfl, rfl, .inr ⟨fun _ => nofun, rfl⟩⟩
    · cases done
      exact ⟨rfl, rfl, rfl, .inr ⟨fun _ => nofun, rfl⟩⟩

-- The only command of freeBuffer, and when it is given.
def Frees (m : ScreenManager) (clientId : Int) : Prop :=
  m.mStarted = true ∧ m.mScreenDev = true ∧
    ∃ client, m.mClientList.valueFor clientId = some client ∧ client.dataType = .canvas

theorem free_buffer_cases (m : ScreenManager) (clientId : Int) (buffer : Option BuffInfo) (outcome : Outcome)
    (done : freeBuffer m clientId buffer = some outcome) :
    outcome.status = ok ∧ outcome.manager = m ∧
      ((Frees m clientId ∧ ∃ info, buffer = some info ∧ outcome.commands = [.releaseBuffer info.bufPtr]) ∨
        (¬ Frees m clientId ∧ outcome.commands = [])) := by
  rw [freeBuffer] at done
  by_cases idle : m.mStarted = false
  · rw [if_pos idle] at done
    cases done
    exact ⟨rfl, rfl, .inr ⟨fun frees => Bool.noConfusion (idle.symm.trans frees.1), rfl⟩⟩
  · rw [if_neg idle] at done
    obtain ⟨client, found, done⟩ := Option.bind_eq_some_iff.mp done
    by_cases canvas : client.dataType = .canvas
    · rw [if_pos canvas] at done
      obtain ⟨info, rfl, rfl⟩ := Option.map_eq_some_iff.mp done
      refine ⟨rfl, rfl, ?_⟩
      cases device : m.mScreenDev with
      | false => exact .inr ⟨fun frees => Bool.noConfusion (device.symm.trans frees.2.1), rfl⟩
      | true => exact .inl ⟨⟨Bool.eq_true_of_not_eq_false idle, device, client, found, canvas⟩, info, rfl, rfl⟩
    · rw [if_neg canvas] at done
      cases done
      refine ⟨rfl, rfl, .inr ⟨fun frees => ?_, rfl⟩⟩
      obtain ⟨_, _, other, foundToo, canvasToo⟩ := frees
      exact canvas (Option.some.inj (found.symm.trans foundToo) ▸ canvasToo)

-- The commands that open or close the device.
def Command.lifetime : Command → Bool
  | .openDevice _ _ => true
  | .closeDevice => true
  | _ => false

def Quiet (commands : List Command) : Prop := ∀ command ∈ commands, command.lifetime = false

theorem quiet_append (first second : List Command) (one : Quiet first) (two : Quiet second) :
    Quiet (first ++ second) := by
  intro command member
  exact (List.mem_append.mp member).elim (one command) (two command)

theorem released_commands (m : ScreenManager) (buffer : ScreenBuffer) (given : Prop) [Decidable given]
    (released : List Command) (done : (if given then releaseBuffer m buffer else some []) = some released) :
    released = if given then [.releaseBuffer buffer.bufferMem] else [] := by
  by_cases holds : given
  · rw [if_pos holds, releaseBuffer] at done
    rw [if_pos holds]
    cases device : m.mScreenDev with
    | false =>
        rw [device] at done
        cases done
    | true =>
        rw [device] at done
        exact (Option.some.inj done).symm
  · rw [if_neg holds] at done
    rw [if_neg holds]
    exact (Option.some.inj done).symm

-- The commands for one client: those to its window, and the release of the buffer.
theorem serve_client_parts (m : ScreenManager) (buffer : ScreenBuffer) (window : Dequeue) (rawQueue : List (List UInt8))
    (client : ScreenClient) (served : Served) (done : serveClient m buffer window rawQueue client = some served) :
    ((client.dataType = .handle ∧ (m.mANativeWindow.isNone = true ∨ window.ret ≠ 0 ∨ window.dest = false)) ∧
        served.status = badValue ∧ (served.commands = [] ∨ served.commands = [.dequeueBuffer])) ∨
      (¬(client.dataType = .handle ∧ (m.mANativeWindow.isNone = true ∨ window.ret ≠ 0 ∨ window.dest = false)) ∧
        served.status = ok ∧ ∃ front, (front = [] ∨ ∃ pixels, front = [.dequeueBuffer, .queueBuffer pixels]) ∧
          served.commands = front ++
            match client.dataType with
            | .handle => if m.mClientList.size = 1 then [.releaseBuffer buffer.bufferMem] else []
            | _ => if m.mCanvasClientExist = false then [.releaseBuffer buffer.bufferMem] else []) := by
  rw [serveClient] at done
  cases kind : client.dataType with
  | handle =>
      simp only [kind] at done
      by_cases noWindow : m.mANativeWindow.isNone = true
      · rw [if_pos noWindow] at done
        cases done
        exact .inl ⟨⟨rfl, .inl noWindow⟩, rfl, .inl rfl⟩
      · rw [if_neg noWindow] at done
        by_cases failed : window.ret ≠ 0 ∨ window.dest = false
        · rw [if_pos failed] at done
          cases done
          exact .inl ⟨⟨rfl, .inr failed⟩, rfl, .inr rfl⟩
        · rw [if_neg failed] at done
          obtain ⟨pixels, _, done⟩ := Option.bind_eq_some_iff.mp done
          obtain ⟨released, given, rfl⟩ := Option.map_eq_some_iff.mp done
          rw [released_commands m buffer _ released given]
          exact .inr ⟨fun fails => fails.2.elim noWindow failed, rfl, _, .inr ⟨pixels, rfl⟩, rfl⟩
  | rawdata =>
      simp only [kind] at done
      obtain ⟨queue, _, done⟩ := Option.bind_eq_some_iff.mp done
      obtain ⟨released, given, rfl⟩ := Option.map_eq_some_iff.mp done
      rw [released_commands m buffer _ released given]
      exact .inr ⟨fun fails => DataType.noConfusion fails.1, rfl, [], .inl rfl, rfl⟩
  | canvas =>
      simp only [kind] at done
      obtain ⟨released, given, rfl⟩ := Option.map_eq_some_iff.mp done
      rw [released_commands m buffer _ released given]
      exact .inr ⟨fun fails => DataType.noConfusion fails.1, rfl, [], .inl rfl, rfl⟩

theorem serve_client_quiet (m : ScreenManager) (buffer : ScreenBuffer) (window : Dequeue) (rawQueue : List (List UInt8))
    (client : ScreenClient) (served : Served) (done : serveClient m buffer window rawQueue client = some served) :
    Quiet served.commands := by
  rcases serve_client_parts m buffer window rawQueue client served done with
    ⟨_, _, none | one⟩ | ⟨_, _, front, shape, commands⟩
  · rw [none]
    nofun
  · rw [one]
    intro command member
    cases List.mem_singleton.mp member
    rfl
  · have windows : Quiet front := by
      rcases shape with rfl | ⟨pixels, rfl⟩
      · nofun
      · intro command member
        rcases List.mem_pair.mp member with rfl | rfl <;> rfl
    have release (given : Prop) [Decidable given] : Quiet (if given then [.releaseBuffer buffer.bufferMem] else []) := by
      intro command member
      split at member
      · cases List.mem_singleton.mp member
        rfl
      · exact absurd member List.not_mem_nil
    rw [commands]
    refine quiet_append _ _ windows ?_
    cases client.dataType with
    | handle => exact release _
    | rawdata => exact release _
    | canvas => exact release _

theorem serve_clients_quiet (m : ScreenManager) (buffer : ScreenBuffer) (window : Nat → Dequeue)
    (clients : List ScreenClient) (i : Nat) (rawQueue : List (List UInt8)) (served : Served)
    (done : serveClients m buffer window i rawQueue clients = some served) : Quiet served.commands := by
  induction clients generalizing i rawQueue served with
  | nil =>
      cases done
      nofun
  | cons client rest ih =>
      obtain ⟨first, one, done⟩ := Option.bind_eq_some_iff.mp done
      have quiet := serve_client_quiet m buffer (window i) rawQueue client first one
      by_cases failed : first.status ≠ ok
      · rw [if_pos failed] at done
        cases done
        exact quiet
      · rw [if_neg failed] at done
        obtain ⟨later, others, rfl⟩ := Option.map_eq_some_iff.mp done
        exact quiet_append _ _ quiet (ih (i + 1) first.rawQueue later others)

def Running (m : ScreenManager) : Prop := m.mStarted = true ∧ m.mError = false

theorem data_call_back_cases (m : ScreenManager) (buffer : Option ScreenBuffer) (window : Nat → Dequeue)
    (outcome : Outcome) (done : dataCallBack m buffer window = some outcome) :
    Quiet outcome.commands ∧ outcome.manager.mClientList = m.mClientList ∧
      session outcome.manager =
        { session m with mCanvasFramesReceived := outcome.manager.mCanvasFramesReceived } ∧
      ((outcome.status ≠ ok ∧ outcome.manager.mCanvasFramesReceived = m.mCanvasFramesReceived) ∨
        (¬ Running m ∧ outcome.status = ok ∧ outcome.commands = [] ∧
          outcome.manager.mCanvasFramesReceived = m.mCanvasFramesReceived) ∨
        (Running m ∧ ∃ delivered served, buffer = some delivered ∧
          serveClients m delivered window 0 m.mRawBufferQueue m.mClientList.values = some served ∧
          served.status = ok ∧ outcome.status = ok ∧ outcome.commands = served.commands ∧
          outcome.manager.mCanvasFramesReceived = queueFrames m delivered)) := by
  unfold dataCallBack at done
  by_cases running : m.mStarted = true ∧ m.mError = false
  · rw [if_pos running] at done
    cases buffer with
    | none =>
        cases done
        exact ⟨nofun, rfl, rfl, .inl ⟨nofun, rfl⟩⟩
    | some delivered =>
        simp only at done
        by_cases missing : delivered.bufferMem = 0
        · rw [if_pos missing] at done
          cases done
          exact ⟨nofun, rfl, rfl, .inl ⟨nofun, rfl⟩⟩
        · rw [if_neg missing] at done
          by_cases noCanvas : m.mCanvasMode = true ∧ delivered.bufferCanvas = 0
          · rw [if_pos noCanvas] at done
            cases done
            exact ⟨nofun, rfl, rfl, .inl ⟨nofun, rfl⟩⟩
          · rw [if_neg noCanvas] at done
            obtain ⟨served, serving, rfl⟩ := Option.map_eq_some_iff.mp done
            refine ⟨serve_clients_quiet _ _ _ _ _ _ _ serving, rfl, rfl, ?_⟩
            by_cases fine : served.status = ok
            · exact .inr (.inr ⟨running, delivered, served, rfl, serving, fine, fine, rfl, if_pos fine⟩)
            · exact .inl ⟨fine, if_neg fine⟩
  · rw [if_neg running] at done
    cases done
    exact ⟨nofun, rfl, rfl, .inr (.inl ⟨running, rfl, rfl, rfl⟩)⟩

end Droidlogic.Screen
