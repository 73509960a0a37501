import Droidlogic.Lib.Run
import Droidlogic.Cec.Send

set_option autoImplicit false

namespace Droidlogic.Cec.Topology

open Lib

abbrev Table : Type := Vector Nat addrBroadcast

structure State where
  device : CecDevice
  event : HdmiCecEvent
  -- An element outside mAddedPhyAddrs has been used.
  lost : Bool
  -- What the frames and the polls so far say.
  known : Table

-- A television that has just been opened; the event is what the stack of threadLoop holds.
def start (device : CecDevice) (fd : Int) (event : HdmiCecEvent) : State :=
  ⟨{ openCecDevice device fd with isTvDeviceType := true }, event, false, .replicate addrBroadcast 0⟩

-- Everything else leaves the table and the device type alone.
inductive Input
  | frame (services : Services) (frame : Frame)
  | sendMessage (services : Services) (stack : Body) (message : CecMessage) (isExtend : Bool) (result : Int)
  | other (device : CecDevice)

-- The address in a <Report Physical Address>, with the one that reports it.
def reported (frame : Frame) : Option (Nat × Nat) :=
  match frame.bytes with
  | header :: opcode :: high :: low :: _ =>
      if opcode = cecMessageReportPhysicalAddress ∧ high ≠ 0 then
        some ((header >>> 4 &&& 0xf).toNat, word16 high low)
      else none
  | _ => none

def learn (known : Table) : Option (Nat × Nat) → Table
  | some (address, physical) => known.setIfInBounds address physical
  | none => known

def failedPoll (message : CecMessage) (result : Int) : Prop := message.length = 0 ∧ result ≠ 0

instance (message : CecMessage) (result : Int) : Decidable (failedPoll message result) :=
  inferInstanceAs (Decidable (_ ∧ _))

def forget (known : Table) (message : CecMessage) (result : Int) : Table :=
  if failedPoll message result then known.setIfInBounds message.destination 0 else known

def step (s : State) (input : Input) : Option State :=
  if s.lost then none
  else
    match input with
    | .frame services frame =>
        let known := learn s.known (reported frame)
        match receive services s.device s.event frame with
        | some pass => some ⟨pass.device, pass.event, false, known⟩
        | none => some { s with lost := true, known := known }
    | .sendMessage services stack message isExtend result =>
        let route := Cec.sendMessage services s.device stack message isExtend
        match route.sent with
        | .error _ => some s
        | .ok sent =>
            let known := forget s.known sent result
            match if route.posted then postHandleOfSend s.device sent result else some s.device with
            | some device => some { s with device := device, known := known }
            | none => some { s with lost := true, known := known }
    | .other device =>
        some { s with device := { device with isTvDeviceType := true, mAddedPhyAddrs := s.device.mAddedPhyAddrs } }

structure Kept (next : State) : Prop where
  inside : next.lost = false
  table : next.device.mAddedPhyAddrs = next.known

def Delivered (_ : State) (_ : Input) (next : State) : Prop := Kept next

def writes (built : HdmiCecEvent) : Prop :=
  built.cec.body.at 0 = cecMessageReportPhysicalAddress ∧ built.cec.body.at 1 ≠ 0

instance (built : HdmiCecEvent) : Decidable (writes built) := inferInstanceAs (Decidable (_ ∧ _))

def Holds (table : Table) (address physical : Nat) : Prop := table[address]? = some physical

-- A report with an address comes from an address other than 15 and has both its operands, or what an
-- earlier frame has left in their place told what the table has. A failed poll that postHandleOfSend
-- sees is of an address other than 15, and one that it does not see is of an address without entry.
def Settled (s : State) (input : Input) (_ : State) : Prop :=
  match input with
  | .frame _ frame =>
      let built := build s.device s.event frame
      1 < frame.bytes.length → writes built →
        built.cec.initiator < addrBroadcast ∧
          (4 ≤ frame.bytes.length ∨ Holds s.device.mAddedPhyAddrs built.cec.initiator (devPhyAddr built))
  | .sendMessage services stack message isExtend result =>
      let route := Cec.sendMessage services s.device stack message isExtend
      ∀ sent, route.sent = .ok sent → failedPoll sent result →
        if route.posted then sent.destination < addrBroadcast
        else sent.destination < addrBroadcast → Holds s.device.mAddedPhyAddrs sent.destination 0
  | .other _ => True

theorem set_inside (table : Table) (i value : Nat) (inside : i < addrBroadcast) :
    table.set i value = table.setIfInBounds i value := by
  refine Vector.ext fun j below => ?_
  rw [Vector.getElem_set, Vector.getElem_setIfInBounds]

theorem set_same_iff (table : Table) (i value : Nat) (inside : i < addrBroadcast) :
    table.setIfInBounds i value = table ↔ Holds table i value := by
  rw [Holds]
  constructor
  · intro same
    rw [← same, Vector.getElem?_setIfInBounds_self, if_pos inside]
  · intro holds
    refine Vector.ext fun j below => ?_
    rw [Vector.getElem_setIfInBounds]
    split
    · rename_i here
      subst here
      exact (Vector.getElem_eq_iff.mpr holds).symm
    · rfl

theorem otp_table (device : CecDevice) (event : HdmiCecEvent) :
    (handleOTPMsg device event).1.mAddedPhyAddrs = device.mAddedPhyAddrs ∧
      (handleOTPMsg device event).1.isTvDeviceType = device.isTvDeviceType := by
  rw [handleOTPMsg]
  split
  · split
    · exact ⟨rfl, rfl⟩
    · exact ⟨rfl, rfl⟩
  · exact ⟨rfl, rfl⟩

theorem validate_cases (services : Services) (device : CecDevice) (event : HdmiCecEvent)
    (tv : device.isTvDeviceType = true) :
    (writes event ∧ ¬event.cec.initiator < addrBroadcast ∧ messageValidateAndHandle services device event = none) ∨
      ∃ handled, messageValidateAndHandle services device event = some handled ∧
        handled.device.isTvDeviceType = true ∧ (writes event → event.cec.initiator < addrBroadcast) ∧
          handled.device.mAddedPhyAddrs =
            if writes event then device.mAddedPhyAddrs.setIfInBounds event.cec.initiator (devPhyAddr event)
            else device.mAddedPhyAddrs := by
  simp only [messageValidateAndHandle, if_pos tv]
  by_cases report : event.cec.body.at 0 = cecMessageReportPhysicalAddress
  · by_cases zero : event.cec.body.at 1 = 0
    · have silent : ¬writes event := fun both => both.2 zero
      simp only [if_pos report, if_pos zero, if_neg silent]
      exact .inr ⟨_, rfl, tv, fun writes => absurd writes silent, rfl⟩
    · have loud : writes event := ⟨report, zero⟩
      simp only [if_pos report, if_neg zero, if_pos loud]
      by_cases inside : event.cec.initiator < addrBroadcast
      · rw [dif_pos inside]
        exact .inr ⟨_, rfl, tv, fun _ => inside, set_inside _ _ _ inside⟩
      · exact .inl ⟨loud, inside, dif_neg inside⟩
  · have silent : ¬writes event := fun both => report both.1
    refine .inr ?_
    simp only [if_neg report, if_neg silent]
    have plain (handled : Handled) (same : handled.device = device) :
        ∃ other, some handled = some other ∧ other.device.isTvDeviceType = true ∧
          (writes event → event.cec.initiator < addrBroadcast) ∧
            other.device.mAddedPhyAddrs = device.mAddedPhyAddrs :=
      ⟨handled, rfl, same ▸ tv, fun writes => absurd writes silent, same ▸ rfl⟩
    split
    · split
      · exact plain _ rfl
      · exact plain _ rfl
    · split
      · split
        · exact plain _ rfl
        · exact plain _ rfl
      · exact plain _ rfl

theorem receive_cases (services : Services) (device : CecDevice) (event : HdmiCecEvent) (frame : Frame)
    (tv : device.isTvDeviceType = true) (long : 1 < frame.bytes.length) :
    (writes (build device event frame) ∧ ¬(build device event frame).cec.initiator < addrBroadcast ∧
        receive services device event frame = none) ∨
      ∃ pass, receive services device event frame = some pass ∧ pass.device.isTvDeviceType = true ∧
        (writes (build device event frame) → (build device event frame).cec.initiator < addrBroadcast) ∧
          pass.device.mAddedPhyAddrs =
            if writes (build device event frame) then
              device.mAddedPhyAddrs.setIfInBounds (build device event frame).cec.initiator
                (devPhyAddr (build device event frame))
            else device.mAddedPhyAddrs := by
  rw [receive, if_neg (Nat.not_le.mpr long)]
  rcases validate_cases services device (build device event frame) tv with
    ⟨loud, outside, failed⟩ | ⟨handled, done, still, inside, table⟩
  · exact .inl ⟨loud, outside, by rw [failed, Option.map_none]⟩
  · obtain ⟨same, kind⟩ := otp_table handled.device handled.event
    refine .inr ⟨_, by rw [done, Option.map_some], ?_, inside, ?_⟩
    · exact kind.trans still
    · exact same.trans table

theorem reported_cases (device : CecDevice) (event : HdmiCecEvent) (frame : Frame) (long : 1 < frame.bytes.length) :
    (4 ≤ frame.bytes.length ∧
        reported frame =
          if writes (build device event frame) then
            some ((build device event frame).cec.initiator, devPhyAddr (build device event frame))
          else none) ∨
      ¬4 ≤ frame.bytes.length ∧ reported frame = none := by
  obtain ⟨initiator, _, _⟩ := build_header device event frame
  match bytes : frame.bytes with
  | [] => exact absurd (bytes ▸ long) (by decide)
  | [_] =>
      rw [bytes] at long
      exact absurd long (Nat.lt_irrefl 1)
  | [_, _] => exact .inr ⟨by simp, by rw [reported, bytes]⟩
  | [_, _, _] => exact .inr ⟨by simp, by rw [reported, bytes]⟩
  | header :: opcode :: high :: low :: rest =>
      have header_at : frame.msgBuf.at 0 = header := buffer_at frame 0 header (bytes ▸ rfl)
      have opcode_at : frame.msgBuf.at 1 = opcode := buffer_at frame 1 opcode (bytes ▸ rfl)
      have high_at : frame.msgBuf.at 2 = high := buffer_at frame 2 high (bytes ▸ rfl)
      have low_at : frame.msgBuf.at 3 = low := buffer_at frame 3 low (bytes ▸ rfl)
      have four : 4 ≤ frame.bytes.length := by
        rw [bytes]
        exact Nat.le_add_left 4 rest.length
      refine .inl ⟨bytes ▸ four, ?_⟩
      by_cases routing : opcode = cecMessageRoutingChange
      · have silent : ¬writes (build device event frame) := fun both => by
          have member := build_routing device event frame long (opcode_at.trans routing)
          rw [both.1] at member
          exact absurd member (by decide)
        have other : ¬(opcode = cecMessageReportPhysicalAddress ∧ high ≠ 0) := fun both =>
          absurd (routing.symm.trans both.1) (by decide)
        rw [reported, bytes, if_neg silent]
        exact if_neg other
      · have plain : frame.msgBuf.at 1 ≠ cecMessageRoutingChange := opcode_at ▸ routing
        have first := (build_at device event frame 0 (by omega) plain).trans opcode_at
        have second := (build_at device event frame 1 (by omega) plain).trans high_at
        have third := (build_at device event frame 2 (by omega) plain).trans low_at
        have same : writes (build device event frame) ↔ opcode = cecMessageReportPhysicalAddress ∧ high ≠ 0 := by
          rw [writes, first, second]
        rw [reported, bytes, devPhyAddr, initiator, header_at, second, third]
        exact if_congr same.symm rfl rfl

structure Inv (s : State) : Prop where
  tv : s.device.isTvDeviceType = true
  kept : Kept s

theorem frame_iff (s next : State) (services : Services) (frame : Frame) (inv : Inv s)
    (taken : step s (.frame services frame) = some next) :
    (Kept next ↔ Settled s (.frame services frame) next) ∧ next.device.isTvDeviceType = true := by
  have table := inv.kept.table
  simp only [step, inv.kept.inside, Bool.false_eq_true, if_false] at taken
  by_cases long : 1 < frame.bytes.length
  · have settled : Settled s (.frame services frame) next ↔
        (writes (build s.device s.event frame) →
          (build s.device s.event frame).cec.initiator < addrBroadcast ∧
            (4 ≤ frame.bytes.length ∨ Holds s.device.mAddedPhyAddrs (build s.device s.event frame).cec.initiator
              (devPhyAddr (build s.device s.event frame)))) := ⟨fun all => all long, fun all _ => all⟩
    rw [settled]
    rcases receive_cases services s.device s.event frame inv.tv long with
      ⟨loud, outside, failed⟩ | ⟨pass, done, still, inside, written⟩
    · rw [failed] at taken
      cases taken
      exact ⟨iff_of_false (fun kept => nomatch kept.inside) fun all => outside (all loud).1, inv.tv⟩
    · rw [done] at taken
      cases taken
      refine ⟨?_, still⟩
      by_cases loud : writes (build s.device s.event frame)
      · rw [if_pos loud] at written
        rcases reported_cases s.device s.event frame long with ⟨four, told⟩ | ⟨few, told⟩
        · rw [told, if_pos loud, learn, ← table]
          exact iff_of_true ⟨rfl, written⟩ fun _ => ⟨inside loud, .inl four⟩
        · rw [told, learn, ← table]
          have same := set_same_iff s.device.mAddedPhyAddrs _ (devPhyAddr (build s.device s.event frame)) (inside loud)
          constructor
          · rintro ⟨_, equal⟩ _
            exact ⟨inside loud, .inr (same.mp (written.symm.trans equal))⟩
          · intro all
            exact ⟨rfl, written.trans (same.mpr ((all loud).2.resolve_left few))⟩
      · rw [if_neg loud] at written
        have told : reported frame = none := by
          rcases reported_cases s.device s.event frame long with ⟨_, told⟩ | ⟨_, told⟩
          · rw [told, if_neg loud]
          · exact told
        rw [told, learn, ← table]
        exact iff_of_true ⟨rfl, written⟩ fun writes => absurd writes loud
  · have ignored : receive services s.device s.event frame = some ⟨s.device, s.event, [], none⟩ :=
      if_pos (Nat.not_lt.mp long)
    have told : reported frame = none := by
      match bytes : frame.bytes with
      | [] => rw [reported, bytes]
      | [_] => rw [reported, bytes]
      | _ :: _ :: rest =>
          rw [bytes] at long
          exact absurd (Nat.le_add_left 2 rest.length) long
    rw [ignored, told, learn] at taken
    cases taken
    exact ⟨iff_of_true ⟨rfl, table⟩ fun more => absurd more long, inv.tv⟩

theorem post_cases (device : CecDevice) (message : CecMessage) (result : Int) :
    (failedPoll message result ∧ ¬message.destination < addrBroadcast ∧
        postHandleOfSend device message result = none) ∨
      ∃ next, postHandleOfSend device message result = some next ∧ next.isTvDeviceType = device.isTvDeviceType ∧
        (failedPoll message result → message.destination < addrBroadcast) ∧
          next.mAddedPhyAddrs = forget device.mAddedPhyAddrs message result := by
  by_cases failed : failedPoll message result
  · have path : postHandleOfSend device message result =
        if inside : message.destination < addrBroadcast then
          if device.mAddedPhyAddrs[message.destination] ≠ 0 then
            some { device with mAddedPhyAddrs := device.mAddedPhyAddrs.set message.destination 0 }
          else some device
        else none := if_pos failed
    rw [forget, if_pos failed, path]
    by_cases inside : message.destination < addrBroadcast
    · rw [dif_pos inside]
      split
      · exact .inr ⟨_, rfl, rfl, fun _ => inside, set_inside _ _ _ inside⟩
      · rename_i empty
        refine .inr ⟨_, rfl, rfl, fun _ => inside, ((set_same_iff _ _ _ inside).mpr ?_).symm⟩
        rw [Holds, Vector.getElem?_eq_getElem inside, not_ne_iff.mp empty]
    · exact .inl ⟨failed, inside, dif_neg inside⟩
  · have path : postHandleOfSend device message result = some device := if_neg failed
    rw [forget, if_neg failed, path]
    exact .inr ⟨device, rfl, rfl, fun other => absurd other failed, rfl⟩

theorem forget_same_iff (table : Table) (message : CecMessage) (result : Int) :
    forget table message result = table ↔
      (failedPoll message result → message.destination < addrBroadcast → Holds table message.destination 0) := by
  rw [forget]
  by_cases failed : failedPoll message result
  · rw [if_pos failed]
    by_cases inside : message.destination < addrBroadcast
    · exact (set_same_iff table _ 0 inside).trans ⟨fun holds _ _ => holds, fun all => all failed inside⟩
    · exact iff_of_true (Vector.setIfInBounds_eq_of_size_le (Nat.not_lt.mp inside)) fun _ more => absurd more inside
  · rw [if_neg failed]
    exact iff_of_true rfl fun other => absurd other failed

theorem send_iff (s next : State) (services : Services) (stack : Body) (message : CecMessage) (isExtend : Bool)
    (result : Int) (inv : Inv s) (taken : step s (.sendMessage services stack message isExtend result) = some next) :
    (Kept next ↔ Settled s (.sendMessage services stack message isExtend result) next) ∧
      next.device.isTvDeviceType = true := by
  have table := inv.kept.table
  simp only [step, inv.kept.inside, Bool.false_eq_true, if_false] at taken
  simp only [Settled]
  cases sent : (Cec.sendMessage services s.device stack message isExtend).sent with
  | error ret =>
      rw [sent] at taken
      cases taken
      exact ⟨iff_of_true inv.kept nofun, inv.tv⟩
  | ok last =>
      rw [sent] at taken
      by_cases posted : (Cec.sendMessage services s.device stack message isExtend).posted = true
      · simp only [if_pos posted] at taken ⊢
        rcases post_cases s.device last result with ⟨failed, outside, gone⟩ | ⟨device, done, kind, inside, written⟩
        · rw [gone] at taken
          cases taken
          exact ⟨iff_of_false (fun kept => nomatch kept.inside) fun all => outside (all last rfl failed), inv.tv⟩
        · rw [done] at taken
          cases taken
          refine ⟨iff_of_true ⟨rfl, ?_⟩ fun other same failed => ?_, kind.trans inv.tv⟩
          · rw [written, table]
          · cases same
            exact inside failed
      · simp only [if_neg posted] at taken ⊢
        cases taken
        refine ⟨?_, inv.tv⟩
        have same := forget_same_iff s.device.mAddedPhyAddrs last result
        constructor
        · rintro ⟨_, equal⟩ other its failed below
          cases its
          refine same.mp ?_ failed below
          rw [table]
          exact equal.symm.trans table
        · intro all
          refine ⟨rfl, ?_⟩
          rw [← table]
          exact (same.mpr fun failed below => all last rfl failed below).symm

theorem delivered_iff (s : State) (input : Input) (next : State) (inv : Inv s) (taken : step s input = some next) :
    (Delivered s input next ↔ Settled s input next) ∧ next.device.isTvDeviceType = true := by
  cases input with
  | frame services frame => exact frame_iff s next services frame inv taken
  | sendMessage services stack message isExtend result =>
      exact send_iff s next services stack message isExtend result inv taken
  | other device =>
      have table := inv.kept.table
      simp only [step, inv.kept.inside, Bool.false_eq_true, if_false] at taken
      cases taken
      exact ⟨iff_of_true ⟨rfl, table⟩ trivial, rfl⟩

theorem topology_iff (device : CecDevice) (fd : Int) (event : HdmiCecEvent) (inputs : List Input) :
    Along step Delivered (start device fd event) inputs ↔ Along step Settled (start device fd event) inputs := by
  refine along_iff step Inv Delivered Settled ?_ ?_ (start device fd event) inputs ⟨rfl, rfl, rfl⟩
  · intro s input next inv taken settled
    have both := delivered_iff s input next inv taken
    exact ⟨both.2, both.1.mpr settled⟩
  · exact fun s input next inv taken => (delivered_iff s input next inv taken).1

-- A report from address 15 is written behind the table.
theorem unregistered_report_outside : ¬Along step Delivered (start (initDevice [devTypeTv]) 3 .blank)
    [.frame plainServices ⟨[0xFF, 0x84, 0x10, 0x00, 0x04], by decide⟩] := by
  intro along
  cases (along _ rfl).1.inside

end Droidlogic.Cec.Topology
