import Droidlogic.Cec.Receive

set_option autoImplicit false

namespace Droidlogic.Cec.ActiveSource

open Lib

def isHdmi (deviceId : Int) : Prop := 5 ≤ deviceId ∧ deviceId ≤ 8

instance (deviceId : Int) : Decidable (isHdmi deviceId) := inferInstanceAs (Decidable (_ ∧ _))

structure State where
  queue : MsgQueue.State
  device : CecDevice
  -- The notification that holds mLock, between its two calls of the queue.
  notifying : Option Int
  -- The events as handleOTPMsg has left them.
  events : List HdmiCecEvent
  -- The latest source switch with its time, and whether a timeout has been handled since.
  latest : Option (Int × Nat)
  expired : Bool

-- A television, as openCecDevice leaves it, with its ports.
def start (device : CecDevice) (fd : Int) (ports : List HdmiPortInfo) : State :=
  ⟨MsgQueue.start, { openCecDevice device fd with isTvDeviceType := true, mpPortData := ports }, none, [], none, false⟩

inductive Input
  | notify (deviceId : Int)
  | notified
  | queue (input : MsgQueue.Input)
  | frame (event : HdmiCecEvent)

def filterMsg : MsgQueue.CMessage := delayed msgFilterOtpTimeout delayTimeoutMs []

def notify (s : State) (deviceId : Int) : State :=
  { s with queue := MsgQueue.removeMsg s.queue msgFilterOtpTimeout, notifying := some deviceId }

def notified (s : State) (deviceId : Int) : State :=
  { s with
    queue := if isHdmi deviceId then MsgQueue.sendMsg s.queue filterMsg else s.queue
    device := { s.device with mSelectedDeviceId := deviceId, mFilterOtpEnabled := isHdmi deviceId }
    notifying := none
    latest := some (deviceId, s.queue.now)
    expired := false }

-- Whether the thread's next step hands a timeout to handleMessage.
def timeout (queue : MsgQueue.State) : MsgQueue.Input → Bool
  | .thread => (MsgQueue.flight queue.pc).any (MsgQueue.hasType msgFilterOtpTimeout)
  | _ => false

-- The calls of the rest of the service, which use other message types.
def ofOthers : MsgQueue.Input → Bool
  | .sendMsg msg => msg.mType ≠ msgFilterOtpTimeout
  | .removeMsg mType => mType ≠ msgFilterOtpTimeout
  | .clearMsg => false
  | _ => true

def handleTimeout (s : State) (queue : MsgQueue.State) : State :=
  { s with queue := queue, device := { s.device with mFilterOtpEnabled := false }, expired := true }

-- A step that needs mLock has no result while a notification holds it.
def step (s : State) : Input → Option State
  | .notify deviceId => if s.notifying = none then some (notify s deviceId) else none
  | .notified => s.notifying.map (notified s)
  | .queue input =>
      if ofOthers input ∧ (timeout s.queue input → s.notifying = none) then
        (MsgQueue.step s.queue input).map fun queue =>
          if timeout s.queue input then handleTimeout s queue else { s with queue := queue }
      else none
  | .frame event =>
      if s.notifying = none then
        some
          { s with
            device := (handleOTPMsg s.device event).1
            events := (handleOTPMsg s.device event).2 :: s.events }
      else none

def Belongs (s : State) (deviceId : Int) (event : HdmiCecEvent) : Prop :=
  deviceId = portOf s.device.mpPortData (devPhyAddr event) + otpOffset

-- A switch to an HDMI input that is less than the timeout ago.
def Window (s : State) (deviceId : Int) : Prop :=
  ∃ time, s.latest = some (deviceId, time) ∧ isHdmi deviceId ∧ s.queue.now < time + delayTimeoutMs

def Withheld (s : State) (event : HdmiCecEvent) (next : State) : Prop :=
  next.device = s.device ∧
    next.events = event.drop :: s.events

def PassedOn (s : State) (event : HdmiCecEvent) (next : State) : Prop :=
  next.device.mActiveLogicalAddr = event.cec.initiator ∧ next.device.mActiveRoutingPath = devPhyAddr event ∧
    next.events = event :: s.events

def Delivered (s : State) (input : Input) (next : State) : Prop :=
  ∀ event, input = .frame event → event.cec.body.at 0 = cecMessageActiveSource →
    event.eventType &&& hdmiEventCecMessage ≠ 0 →
    ((∃ deviceId, Window s deviceId ∧ ¬Belongs s deviceId event) → Withheld s event next) ∧
      (¬(∃ deviceId, Window s deviceId ∧ ¬Belongs s deviceId event) → PassedOn s event next)

-- The timeout of the latest switch has been handled exactly when its time has passed.
def Settled (s : State) (input : Input) (_ : State) : Prop :=
  ∀ event, input = .frame event → event.cec.body.at 0 = cecMessageActiveSource →
    event.eventType &&& hdmiEventCecMessage ≠ 0 →
    ∀ deviceId time, s.latest = some (deviceId, time) → isHdmi deviceId → ¬Belongs s deviceId event →
      (s.expired = true ↔ time + delayTimeoutMs ≤ s.queue.now)

def Filtered (s : State) (event : HdmiCecEvent) : Prop :=
  s.device.mFilterOtpEnabled = true ∧ ¬Belongs s s.device.mSelectedDeviceId event

structure Inv (s : State) : Prop where
  tv : s.device.isTvDeviceType = true
  selected : ∀ deviceId time, s.latest = some (deviceId, time) → s.device.mSelectedDeviceId = deviceId
  flag : s.device.mFilterOtpEnabled = true ↔
    s.expired = false ∧ ∃ deviceId time, s.latest = some (deviceId, time) ∧ isHdmi deviceId

theorem handle_otp_cases (s : State) (event : HdmiCecEvent) (tv : s.device.isTvDeviceType = true) :
    (event.cec.body.at 0 ≠ cecMessageActiveSource ∧ handleOTPMsg s.device event = (s.device, event)) ∨
      event.cec.body.at 0 = cecMessageActiveSource ∧
        ((Filtered s event ∧
            handleOTPMsg s.device event =
              (s.device, event.drop)) ∨
          ¬Filtered s event ∧
            handleOTPMsg s.device event =
              ({ s.device with mActiveLogicalAddr := event.cec.initiator, mActiveRoutingPath := devPhyAddr event },
                event)) := by
  rw [handleOTPMsg]
  by_cases opcode : event.cec.body.at 0 = cecMessageActiveSource
  · rw [if_pos ⟨tv, opcode⟩]
    by_cases filtered : Filtered s event
    · exact .inr ⟨opcode, .inl ⟨filtered, if_pos filtered⟩⟩
    · exact .inr ⟨opcode, .inr ⟨filtered, if_neg filtered⟩⟩
  · rw [if_neg fun both => opcode both.2]
    exact .inl ⟨opcode, rfl⟩

theorem frame_inv (s : State) (event : HdmiCecEvent) (inv : Inv s) :
    Inv { s with device := (handleOTPMsg s.device event).1, events := (handleOTPMsg s.device event).2 :: s.events } := by
  rcases handle_otp_cases s event inv.tv with ⟨_, same⟩ | ⟨_, ⟨_, same⟩ | ⟨_, same⟩⟩
  · rw [same]
    exact ⟨inv.tv, inv.selected, inv.flag⟩
  · rw [same]
    exact ⟨inv.tv, inv.selected, inv.flag⟩
  · rw [same]
    exact ⟨inv.tv, inv.selected, inv.flag⟩

theorem step_inv (s : State) (input : Input) (next : State) (inv : Inv s) (taken : step s input = some next) :
    Inv next := by
  cases input with
  | notify deviceId =>
      obtain ⟨_, same⟩ := Option.ite_none_right_eq_some.mp taken
      cases same
      exact ⟨inv.tv, inv.selected, inv.flag⟩
  | notified =>
      obtain ⟨deviceId, _, rfl⟩ := Option.map_eq_some_iff.mp taken
      refine ⟨inv.tv, fun other time same => ?_, ?_⟩
      · cases same
        rfl
      · rw [notified, decide_eq_true_iff]
        constructor
        · exact fun hdmi => ⟨rfl, deviceId, s.queue.now, rfl, hdmi⟩
        · rintro ⟨_, other, time, same, hdmi⟩
          cases same
          exact hdmi
  | queue input =>
      obtain ⟨_, same⟩ := Option.ite_none_right_eq_some.mp taken
      obtain ⟨queue, _, rfl⟩ := Option.map_eq_some_iff.mp same
      split
      · exact ⟨inv.tv, inv.selected, by simp [handleTimeout]⟩
      · exact ⟨inv.tv, inv.selected, inv.flag⟩
  | frame event =>
      obtain ⟨_, same⟩ := Option.ite_none_right_eq_some.mp taken
      cases same
      exact frame_inv s event inv

-- The code's test is the window's, save that it asks whether the timeout has been handled.
theorem filtered_iff (s : State) (event : HdmiCecEvent) (inv : Inv s) :
    Filtered s event ↔ s.expired = false ∧
      ∃ deviceId time, s.latest = some (deviceId, time) ∧ isHdmi deviceId ∧ ¬Belongs s deviceId event := by
  constructor
  · rintro ⟨flag, other⟩
    obtain ⟨running, deviceId, time, latest, hdmi⟩ := inv.flag.mp flag
    exact ⟨running, deviceId, time, latest, hdmi, inv.selected deviceId time latest ▸ other⟩
  · rintro ⟨running, deviceId, time, latest, hdmi, other⟩
    exact ⟨inv.flag.mpr ⟨running, deviceId, time, latest, hdmi⟩, (inv.selected deviceId time latest).symm ▸ other⟩

theorem masked_ne (eventType : BitVec 32) (shown : eventType &&& hdmiEventCecMessage ≠ 0) :
    eventType &&& ~~~hdmiEventCecMessage ≠ eventType := by
  intro same
  apply shown
  rw [← same, BitVec.and_assoc, BitVec.and_comm (~~~hdmiEventCecMessage), BitVec.and_not_self]
  exact BitVec.and_zero

theorem frame_outcome (s : State) (event : HdmiCecEvent) (inv : Inv s)
    (opcode : event.cec.body.at 0 = cecMessageActiveSource) (shown : event.eventType &&& hdmiEventCecMessage ≠ 0)
    (next : State) (taken : step s (.frame event) = some next) :
    (Withheld s event next ↔ Filtered s event) ∧ (PassedOn s event next ↔ ¬Filtered s event) := by
  obtain ⟨_, same⟩ := Option.ite_none_right_eq_some.mp taken
  cases same
  rcases handle_otp_cases s event inv.tv with ⟨other, _⟩ | ⟨_, ⟨filtered, same⟩ | ⟨passed, same⟩⟩
  · exact absurd opcode other
  · refine ⟨iff_of_true ⟨?_, ?_⟩ filtered, iff_of_false (fun ⟨_, _, shows⟩ => ?_) (not_not_intro filtered)⟩
    · rw [same]
    · rw [same]
    · rw [same] at shows
      exact masked_ne event.eventType shown (congrArg HdmiCecEvent.eventType (List.cons.inj shows).1)
  · refine ⟨iff_of_false (fun ⟨_, shows⟩ => ?_) passed, iff_of_true ⟨?_, ?_, ?_⟩ passed⟩
    · rw [same] at shows
      exact masked_ne event.eventType shown (congrArg HdmiCecEvent.eventType (List.cons.inj shows).1).symm
    · rw [same]
    · rw [same]
    · rw [same]

theorem delivered_iff (s : State) (input : Input) (next : State) (inv : Inv s) (taken : step s input = some next) :
    Delivered s input next ↔ Settled s input next := by
  refine forall_congr' fun event => ?_
  constructor
  · intro delivered same opcode shown deviceId time latest hdmi other
    subst same
    obtain ⟨inside, outside⟩ := delivered rfl opcode shown
    obtain ⟨withheld, passed⟩ := frame_outcome s event inv opcode shown next taken
    have filtered : Filtered s event ↔ s.expired = false :=
      (filtered_iff s event inv).trans ⟨And.left, fun running => ⟨running, deviceId, time, latest, hdmi, other⟩⟩
    by_cases recent : s.queue.now < time + delayTimeoutMs
    · have running := filtered.mp (withheld.mp (inside ⟨deviceId, ⟨time, latest, hdmi, recent⟩, other⟩))
      exact iff_of_false (by rw [running]; nofun) (Nat.not_le.mpr recent)
    · refine iff_of_true ?_ (Nat.not_lt.mp recent)
      refine (Bool.not_eq_false _).mp fun running => passed.mp (outside ?_) (filtered.mpr running)
      rintro ⟨_, ⟨_, its, _, inTime⟩, _⟩
      cases latest.symm.trans its
      exact recent inTime
  · intro settled same opcode shown
    subst same
    obtain ⟨withheld, passed⟩ := frame_outcome s event inv opcode shown next taken
    have rule := settled rfl opcode shown
    refine ⟨?_, fun outside => ?_⟩
    · rintro ⟨deviceId, ⟨time, latest, hdmi, recent⟩, other⟩
      have running : s.expired = false := by
        refine Bool.eq_false_iff.mpr fun expired => ?_
        exact Nat.not_le.mpr recent ((rule deviceId time latest hdmi other).mp expired)
      exact withheld.mpr ((filtered_iff s event inv).mpr ⟨running, deviceId, time, latest, hdmi, other⟩)
    · refine passed.mpr fun filtered => ?_
      obtain ⟨running, deviceId, time, latest, hdmi, other⟩ := (filtered_iff s event inv).mp filtered
      refine outside ⟨deviceId, ⟨time, latest, hdmi, Nat.not_le.mp fun past => ?_⟩, other⟩
      have expired := (rule deviceId time latest hdmi other).mpr past
      rw [running] at expired
      cases expired

theorem active_source_iff (device : CecDevice) (fd : Int) (ports : List HdmiPortInfo) (inputs : List Input) :
    Along step Delivered (start device fd ports) inputs ↔
      Along step Settled (start device fd ports) inputs := by
  refine along_iff step Inv Delivered Settled ?_ delivered_iff (start device fd ports) inputs ?_
  · exact fun s input next inv taken _ => step_inv s input next inv taken
  · exact ⟨rfl, nofun, iff_of_false nofun nofun⟩

-- The queue's own condition, and no timeout that is just being handed over when a switch comes.
def Guard (s : State) : Input → Prop
  | .notify _ => MsgQueue.Guard s.queue (.removeMsg msgFilterOtpTimeout) ∧ timeout s.queue .thread = false
  | .notified => MsgQueue.Guard s.queue (.sendMsg filterMsg)
  | .queue input => MsgQueue.Guard s.queue input
  | .frame _ => True

def waiting (queue : MsgQueue.State) : List MsgQueue.Entry := queue.queue ++ MsgQueue.flight queue.pc

def Expected (s : State) (entry : MsgQueue.Entry) : Prop :=
  s.notifying = none ∧ ∀ deviceId time, s.latest = some (deviceId, time) → time + delayTimeoutMs ≤ entry.due

structure Prompt (s : State) : Prop where
  queue : MsgQueue.Inv s.queue
  expected : ∀ entry ∈ waiting s.queue, MsgQueue.hasType msgFilterOtpTimeout entry = true → Expected s entry
  full : s.expired = true → ∀ deviceId time, s.latest = some (deviceId, time) → time + delayTimeoutMs ≤ s.queue.now

theorem notify_prompt (s : State) (deviceId : Int) (prompt : Prompt s) (guard : Guard s (.notify deviceId)) :
    Prompt (notify s deviceId) := by
  have filtered := DueQueue.remove_each_filter _ _ guard.1.1
  refine ⟨MsgQueue.remove_inv s.queue _ prompt.queue guard.1.1 guard.1.2, fun entry inside hit => ?_, prompt.full⟩
  rcases List.mem_append.mp inside with queued | flying
  · have stays : entry ∈ DueQueue.removeEach (MsgQueue.hasType msgFilterOtpTimeout) s.queue.queue := queued
    rw [filtered] at stays
    have miss := (List.mem_filter.mp stays).2
    rw [hit] at miss
    cases miss
  · exact absurd hit (List.any_eq_false.mp guard.2 entry flying)

theorem notified_prompt (s : State) (deviceId : Int) (prompt : Prompt s) (notifying : s.notifying = some deviceId)
    (guard : Guard s .notified) : Prompt (notified s deviceId) := by
  have none_left (entry : MsgQueue.Entry) (inside : entry ∈ waiting s.queue)
      (hit : MsgQueue.hasType msgFilterOtpTimeout entry = true) : False := by
    have free := (prompt.expected entry inside hit).1
    rw [notifying] at free
    cases free
  by_cases hdmi : isHdmi deviceId
  · refine ⟨?_, fun entry inside hit => ⟨rfl, fun other time latest => ?_⟩, nofun⟩
    · rw [notified, if_pos hdmi]
      exact MsgQueue.send_inv s.queue filterMsg prompt.queue guard
    · cases latest
      have queue : (notified s deviceId).queue = MsgQueue.sendMsg s.queue filterMsg := if_pos hdmi
      rw [queue] at inside
      rcases List.mem_append.mp inside with queued | flying
      · rcases (DueQueue.mem_insert _ _ _ _).mp queued with rfl | before
        · exact Nat.le_refl _
        · exact (none_left entry (List.mem_append_left _ before) hit).elim
      · exact (none_left entry (List.mem_append_right _ flying) hit).elim
  · have queue : (notified s deviceId).queue = s.queue := if_neg hdmi
    exact ⟨queue ▸ prompt.queue, fun entry inside hit => (none_left entry (queue ▸ inside) hit).elim, nofun⟩

-- What other parties and the thread do to the queue brings no timeout message to it.
theorem waiting_timeout (queue next : MsgQueue.State) (input : MsgQueue.Input) (others : ofOthers input = true)
    (taken : MsgQueue.step queue input = some next) (entry : MsgQueue.Entry) (inside : entry ∈ waiting next)
    (hit : MsgQueue.hasType msgFilterOtpTimeout entry = true) : entry ∈ waiting queue := by
  cases input with
  | tick ms =>
      cases taken
      exact inside
  | sendMsg msg =>
      cases taken
      rcases List.mem_append.mp inside with queued | flying
      · rcases (DueQueue.mem_insert _ _ _ _).mp queued with rfl | before
        · exact absurd (of_decide_eq_true hit) (of_decide_eq_true others)
        · exact List.mem_append_left _ before
      · exact List.mem_append_right _ flying
  | removeMsg mType =>
      cases taken
      have fewer := DueQueue.remove_each_sublist (MsgQueue.hasType mType) queue.queue
      exact (fewer.append_right _).subset inside
  | clearMsg => cases others
  | thread => exact MsgQueue.thread_waiting queue next taken inside

theorem now_later (queue next : MsgQueue.State) (input : MsgQueue.Input)
    (taken : MsgQueue.step queue input = some next) : queue.now ≤ next.now := by
  cases input with
  | tick ms =>
      cases taken
      exact Nat.le_add_right _ _
  | sendMsg msg =>
      cases taken
      exact Nat.le_refl _
  | removeMsg mType =>
      cases taken
      exact Nat.le_refl _
  | clearMsg =>
      cases taken
      exact Nat.le_refl _
  | thread =>
      rw [MsgQueue.step, MsgQueue.threadStep] at taken
      split at taken
      all_goals cases taken
      all_goals exact Nat.le_refl _

theorem queue_prompt (s next : State) (input : MsgQueue.Input) (prompt : Prompt s) (guard : Guard s (.queue input))
    (taken : step s (.queue input) = some next) : Prompt next := by
  obtain ⟨⟨others, _⟩, same⟩ := Option.ite_none_right_eq_some.mp taken
  obtain ⟨queue, moved, rfl⟩ := Option.map_eq_some_iff.mp same
  have inv := MsgQueue.step_inv s.queue input queue prompt.queue guard moved
  have expected (entry : MsgQueue.Entry) (inside : entry ∈ waiting queue)
      (hit : MsgQueue.hasType msgFilterOtpTimeout entry = true) : Expected s entry :=
    prompt.expected entry (waiting_timeout s.queue queue input others moved entry inside hit) hit
  have later := now_later s.queue queue input moved
  split
  · rename_i handed
    refine ⟨inv, expected, fun _ deviceId time latest => ?_⟩
    cases input with
    | thread =>
        obtain ⟨entry, flying, hit⟩ := List.any_eq_true.mp handed
        have due := (prompt.expected entry (List.mem_append_right _ flying) hit).2 deviceId time latest
        exact (due.trans (prompt.queue.flying entry flying)).trans later
    | tick ms => cases handed
    | sendMsg msg => cases handed
    | removeMsg mType => cases handed
    | clearMsg => cases handed
  · exact ⟨inv, expected, fun expired deviceId time latest => (prompt.full expired deviceId time latest).trans later⟩

theorem step_prompt (s : State) (input : Input) (next : State) (prompt : Prompt s) (guard : Guard s input)
    (taken : step s input = some next) : Prompt next := by
  cases input with
  | notify deviceId =>
      obtain ⟨_, same⟩ := Option.ite_none_right_eq_some.mp taken
      cases same
      exact notify_prompt s deviceId prompt guard
  | notified =>
      obtain ⟨deviceId, notifying, rfl⟩ := Option.map_eq_some_iff.mp taken
      exact notified_prompt s deviceId prompt notifying guard
  | queue input => exact queue_prompt s next input prompt guard taken
  | frame event =>
      obtain ⟨_, same⟩ := Option.ite_none_right_eq_some.mp taken
      cases same
      exact ⟨prompt.queue, prompt.expected, prompt.full⟩

-- No timeout cuts the latest switch's time short.
theorem window_full (device : CecDevice) (fd : Int) (ports : List HdmiPortInfo) (inputs : List Input) (final : State)
    (guarded : Guarded step Guard (start device fd ports) inputs)
    (reached : run step (start device fd ports) inputs = some final) (expired : final.expired = true)
    (deviceId : Int) (time : Nat) (latest : final.latest = some (deviceId, time)) :
    time + delayTimeoutMs ≤ final.queue.now := by
  have first : Prompt (start device fd ports) := ⟨MsgQueue.start_inv, nofun, nofun⟩
  exact (run_invariant step Guard Prompt step_prompt _ final inputs first guarded reached).full expired deviceId time latest

def samplePorts : List HdmiPortInfo := [⟨1, true, 0x1000⟩, ⟨2, true, 0x2000⟩]

def fromPortOne : HdmiCecEvent :=
  ⟨hdmiEventCecMessage, ⟨4, 15, 3, ⟨[0x82, 0x10, 0x00] ++ List.replicate 13 0, by decide⟩, by decide⟩, ⟨0, 0⟩, 0⟩

def secondSwitch : List Input :=
  [.notify 5, .notified, .queue (.tick 5000)] ++ List.replicate 6 (.queue .thread) ++
    [.notify 6, .notified, .queue .thread]

-- The first switch's timeout is handed over after the second switch, whose window it ends at once.
theorem stale_timeout_opens :
    ¬Along step Delivered (start (initDevice [devTypeTv]) 3 samplePorts) (secondSwitch ++ [.frame fromPortOne]) := by
  intro along
  obtain ⟨inside, _⟩ := (along_after step Delivered _ _ secondSwitch _ along rfl _ rfl).1 fromPortOne rfl rfl (by decide)
  have elsewhere : (6 : Int) ≠ portOf samplePorts (devPhyAddr fromPortOne) + otpOffset := by decide
  have withheld := inside ⟨6, ⟨5000, rfl, by decide, by decide⟩, elsewhere⟩
  have active : (4 : Nat) = 0 := congrArg CecDevice.mActiveLogicalAddr withheld.1
  cases active

end Droidlogic.Cec.ActiveSource
