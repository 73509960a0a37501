import Mathlib.Data.List.Nodup
import Droidlogic.Lib.Run
import Droidlogic.Cec.Device

set_option autoImplicit false

namespace Droidlogic.Cec.Hotplug

open Lib

-- What CEC_IOC_GET_CONNECT_STATUS answers to the call made for a port; none is a call that fails. Its argument is the
-- id of the port, but 0 for the only port of a playback device in checkConnectStatus.
abbrev Readings := Int → Option Int32

def connected (connect : Int32) : Bool := connect ≠ 0

-- (connect ? 1 : 0) << port
def statusBit (value : Bool) (port : Nat) : BitVec 32 := (if value then 1#32 else 0#32) <<< port

def bootPort (readings : Readings) (status : BitVec 32) (port : HdmiPortInfo) : BitVec 32 :=
  match readings port.portId with
  | none => status
  | some connect => status ||| statusBit (connected connect) port.portId.toNat

-- none is a query for the number of ports that fails.
def getBootConnectStatus (ports : List HdmiPortInfo) (readings : Option Readings) : BitVec 32 :=
  match readings with
  | none => 0
  | some readings => ports.foldl (bootPort readings) 0

def renewed (mType mDelayMs : Nat) : List QueueCall := [.removeMsg mType, .sendMsg (delayed mType mDelayMs [])]

def getDeviceExtraInfo (flag : Nat) : List QueueCall :=
  renewed giveOsdName (delayTimeoutMs * flag) ++ renewed msgGiveDeviceVendorId (delayTimeoutMs * flag) ++
    renewed getMenuLanguage (delayTimeoutMs * flag * 2)

def handleHotplug (device : CecDevice) (value : Bool) : CecDevice × List QueueCall :=
  if device.isPlaybackDeviceType ∧ value then (device, getDeviceExtraInfo 1)
  else if device.isTvDeviceType ∧ value then
    ({ device with mWaitEdidUpdatedFinished := false }, renewed msgWaitEdidupdateFinishedTimeout (delayTimeoutMs * 2 / 7))
  else (device, [])

structure Checked where
  device : CecDevice
  prevStatus : BitVec 32
  events : List HotplugEvent
  calls : List QueueCall

-- The bit of a port: for the only port of a playback device it is always bit 0.
def bitOf (device : CecDevice) (port : HdmiPortInfo) : Nat :=
  if device.mpPortData.length = 1 ∧ device.mDeviceTypes.head? = some devTypePlayback then 0 else port.portId.toNat

def checkPort (readings : Readings) (s : Checked) (port : HdmiPortInfo) : Checked :=
  match readings port.portId with
  | none => s
  | some connect =>
      let place := bitOf s.device port
      let bit := s.prevStatus &&& 1#32 <<< place
      if bit ^^^ statusBit (connected connect) place ≠ 0 then
        let prevStatus := (s.prevStatus &&& ~~~bit) ||| statusBit (connected connect) place
        if s.device.isCecEnabled ∧ s.device.isCecControlled then
          let (device, calls) := handleHotplug s.device (connected connect)
          ⟨device, prevStatus, s.events ++ [⟨connect, .ofInt port.portId⟩], s.calls ++ calls⟩
        else { s with prevStatus := prevStatus }
      else s

def checkConnectStatus (readings : Readings) (device : CecDevice) (mConnectStatus : BitVec 32) : Checked :=
  device.mpPortData.foldl (checkPort readings) ⟨device, mConnectStatus, [], []⟩

structure State where
  device : CecDevice
  mConnectStatus : BitVec 32
  -- The events of the last pass.
  events : List HotplugEvent
  -- The latest successful reading of each port.
  latest : Int → Option Bool

def latest (before : Int → Option Bool) (readings : Readings) (portId : Int) : Option Bool :=
  ((readings portId).map connected).or (before portId)

-- After openCecDevice, with the ports that the driver reports.
def start (device : CecDevice) (readings : Option Readings) : State :=
  ⟨device, getBootConnectStatus device.mpPortData readings, [],
    latest (fun _ => none) (readings.getD fun _ => none)⟩

-- One pass of threadLoop.
def step (s : State) (readings : Readings) : Option State :=
  let checked := checkConnectStatus readings s.device s.mConnectStatus
  some ⟨checked.device, checked.prevStatus, checked.events, latest s.latest readings⟩

-- The event of a port whose reading differs from the one before.
def changed (before : Int → Option Bool) (readings : Readings) (port : HdmiPortInfo) : Option HotplugEvent :=
  match readings port.portId, before port.portId with
  | some connect, some old => if connected connect = old then none else some ⟨connect, .ofInt port.portId⟩
  | _, _ => none

structure Reported (s : State) (readings : Readings) (next : State) : Prop where
  events : next.events = s.device.mpPortData.filterMap (changed s.latest readings)
  status : ∀ port ∈ s.device.mpPortData, ∀ value, next.latest port.portId = some value →
    next.mConnectStatus.getLsbD port.portId.toNat = value

-- A port that has not been read yet is not connected when it is.
def FirstUnplugged (s : State) (readings : Readings) : Prop :=
  ∀ port ∈ s.device.mpPortData, s.latest port.portId = none → ∀ connect, readings port.portId = some connect →
    connected connect = false

-- The ports of the driver: their ids have bits of their own.
structure Table (ports : List HdmiPortInfo) : Prop where
  distinct : (ports.map HdmiPortInfo.portId).Nodup
  small : ∀ port ∈ ports, 0 ≤ port.portId ∧ port.portId < 32

-- The only port of a playback device has the id 0.
def Straight (device : CecDevice) : Prop :=
  device.mDeviceTypes.head? = some devTypePlayback → ∀ port, device.mpPortData = [port] → port.portId = 0

theorem status_bit_at (value : Bool) (port i : Nat) (small : port < 32) :
    (statusBit value port).getLsbD i = (decide (i = port) && value) := by
  rw [statusBit]
  cases value with
  | false => simp
  | true =>
      simp only [if_true, Bool.and_true, BitVec.getLsbD_shiftLeft, BitVec.getLsbD_one]
      by_cases here : i = port
      · subst here
        simp [small]
      · have apart : ¬(¬i < port ∧ i - port = 0) := by omega
        simp [here]
        omega

theorem masked_at (status : BitVec 32) (place i : Nat) (small : place < 32) :
    (status &&& 1#32 <<< place).getLsbD i = (decide (i = place) && status.getLsbD place) := by
  have one := status_bit_at true place i small
  rw [statusBit, if_pos rfl, Bool.and_true] at one
  rw [BitVec.getLsbD_and, one]
  by_cases here : i = place
  · rw [here, decide_eq_true rfl, Bool.and_true, Bool.true_and]
  · rw [decide_eq_false here, Bool.and_false, Bool.false_and]

theorem differs_iff (status : BitVec 32) (place : Nat) (value : Bool) (small : place < 32) :
    (status &&& 1#32 <<< place) ^^^ statusBit value place ≠ 0 ↔ status.getLsbD place ≠ value := by
  rw [not_iff_not]
  refine BitVec.xor_eq_zero_iff.trans ?_
  constructor
  · intro same
    have bits := congrArg (BitVec.getLsbD · place) same
    simpa [masked_at status place place small, status_bit_at value place place small] using bits
  · intro same
    refine BitVec.eq_of_getLsbD_eq fun i _ => ?_
    rw [masked_at status place i small, status_bit_at value place i small, same]

theorem updated_at (status : BitVec 32) (place i : Nat) (value : Bool) (small : place < 32) (inside : i < 32) :
    ((status &&& ~~~(status &&& 1#32 <<< place)) ||| statusBit value place).getLsbD i =
      if i = place then value else status.getLsbD i := by
  rw [BitVec.getLsbD_or, BitVec.getLsbD_and, BitVec.getLsbD_not, masked_at status place i small,
    status_bit_at value place i small]
  by_cases here : i = place
  · subst here
    simp [inside]
  · simp [here, inside]

-- The event of a port whose reading differs from its bit.
def seen (status : BitVec 32) (readings : Readings) (port : HdmiPortInfo) : Option HotplugEvent :=
  match readings port.portId with
  | some connect =>
      if connected connect = status.getLsbD port.portId.toNat then none else some ⟨connect, .ofInt port.portId⟩
  | none => none

-- handleHotplug changes one flag.
def Like (device other : CecDevice) : Prop :=
  other = { device with mWaitEdidUpdatedFinished := other.mWaitEdidUpdatedFinished }

theorem handle_hotplug_like (device other : CecDevice) (value : Bool) (like : Like device other) :
    Like device (handleHotplug other value).1 := by
  rw [handleHotplug]
  split
  · exact like
  · split
    · rw [Like] at like ⊢
      rw [like]
    · exact like

section
variable (readings : Readings) (device : CecDevice) (s : Checked)

theorem check_port_eq (port : HdmiPortInfo) (like : Like device s.device) (enabled : device.isCecEnabled = true)
    (controlled : device.isCecControlled = true) (place : bitOf device port = port.portId.toNat)
    (small : port.portId.toNat < 32) :
    Like device (checkPort readings s port).device ∧
      (checkPort readings s port).events = s.events ++ (seen s.prevStatus readings port).toList ∧
        ∀ i < 32, (checkPort readings s port).prevStatus.getLsbD i =
          if i = port.portId.toNat then ((readings port.portId).map connected).getD (s.prevStatus.getLsbD i)
          else s.prevStatus.getLsbD i := by
  rw [Like] at like
  have bit : bitOf s.device port = port.portId.toNat := by
    rw [like]
    exact place
  have told : s.device.isCecEnabled = true ∧ s.device.isCecControlled = true := by
    rw [like]
    exact ⟨enabled, controlled⟩
  rw [checkPort, seen]
  cases readings port.portId with
  | none => exact ⟨like, (List.append_nil _).symm, fun i _ => (ite_self _).symm⟩
  | some connect =>
      simp only [bit, if_pos told, Option.map_some, Option.getD_some]
      by_cases differs : s.prevStatus.getLsbD port.portId.toNat ≠ connected connect
      · rw [if_pos ((differs_iff _ _ _ small).mpr differs), if_neg (Ne.symm differs)]
        exact ⟨handle_hotplug_like device s.device _ like, rfl, fun i inside => updated_at _ _ i _ small inside⟩
      · have same := Decidable.of_not_not differs
        rw [if_neg fun change => differs ((differs_iff _ _ _ small).mp change), if_pos same.symm]
        refine ⟨like, (List.append_nil _).symm, fun i _ => ?_⟩
        split
        · rename_i here
          rw [here, same]
        · rfl

end

-- Ports with bits of their own do not see each other's readings.
theorem check_ports_eq (readings : Readings) (device : CecDevice) (enabled : device.isCecEnabled = true)
    (controlled : device.isCecControlled = true) (ports : List HdmiPortInfo) (s : Checked) (like : Like device s.device)
    (place : ∀ port ∈ ports, bitOf device port = port.portId.toNat) (table : Table ports) :
    Like device (ports.foldl (checkPort readings) s).device ∧
      (ports.foldl (checkPort readings) s).events = s.events ++ ports.filterMap (seen s.prevStatus readings) ∧
        (∀ i < 32, (∀ port ∈ ports, i ≠ port.portId.toNat) →
          (ports.foldl (checkPort readings) s).prevStatus.getLsbD i = s.prevStatus.getLsbD i) ∧
          ∀ port ∈ ports, (ports.foldl (checkPort readings) s).prevStatus.getLsbD port.portId.toNat =
            ((readings port.portId).map connected).getD (s.prevStatus.getLsbD port.portId.toNat) := by
  induction ports generalizing s with
  | nil => exact ⟨like, (List.append_nil _).symm, fun _ _ _ => rfl, nofun⟩
  | cons port rest ih =>
      have range := table.small port (.head _)
      have inside : port.portId.toNat < 32 := by omega
      obtain ⟨absent, distinct⟩ := List.nodup_cons.mp table.distinct
      have apart (other : HdmiPortInfo) (member : other ∈ rest) : other.portId.toNat ≠ port.portId.toNat := by
        intro same
        have other_range := table.small other (.tail _ member)
        refine absent (List.mem_map.mpr ⟨other, member, ?_⟩)
        omega
      obtain ⟨next_like, events, bits⟩ := check_port_eq readings device s port like enabled controlled
        (place port (.head _)) inside
      obtain ⟨last_like, later, elsewhere, found⟩ := ih (checkPort readings s port) next_like
        (fun other member => place other (.tail _ member)) ⟨distinct, fun other member => table.small other (.tail _ member)⟩
      have kept (other : HdmiPortInfo) (member : other ∈ rest) :
          (checkPort readings s port).prevStatus.getLsbD other.portId.toNat = s.prevStatus.getLsbD other.portId.toNat := by
        have other_range := table.small other (.tail _ member)
        rw [bits _ (by omega), if_neg (apart other member)]
      have same_seen : rest.filterMap (seen (checkPort readings s port).prevStatus readings) =
          rest.filterMap (seen s.prevStatus readings) := by
        refine List.filterMap_congr fun other member => ?_
        rw [seen, seen, kept other member]
      refine ⟨last_like, ?_, fun i small away => ?_, fun other member => ?_⟩
      · rw [List.foldl_cons, later, events, same_seen, List.append_assoc, List.filterMap_cons]
        cases seen s.prevStatus readings port with
        | none => rfl
        | some event => rfl
      · rw [List.foldl_cons, elsewhere i small fun other member => away other (.tail _ member), bits i small,
          if_neg (away port (.head _))]
      · rw [List.foldl_cons]
        rcases List.mem_cons.mp member with rfl | later_port
        · rw [elsewhere _ inside fun next inner => Ne.symm (apart next inner), bits _ inside, if_pos rfl]
        · rw [found other later_port, kept other later_port]

theorem boot_fold_at (readings : Readings) (ports : List HdmiPortInfo) (status : BitVec 32)
    (small : ∀ port ∈ ports, 0 ≤ port.portId ∧ port.portId < 32) (i : Nat) :
    (ports.foldl (bootPort readings) status).getLsbD i = (status.getLsbD i || ports.any fun port =>
      decide (i = port.portId.toNat) && ((readings port.portId).map connected).getD false) := by
  induction ports generalizing status with
  | nil => rw [List.foldl_nil, List.any_nil, Bool.or_false]
  | cons port rest ih =>
      have range := small port (.head _)
      rw [List.foldl_cons, List.any_cons, ih _ fun other member => small other (.tail _ member), ← Bool.or_assoc, bootPort]
      cases readings port.portId with
      | none => simp
      | some connect =>
          simp only [BitVec.getLsbD_or, status_bit_at _ port.portId.toNat i (by omega), Option.map_some, Option.getD_some]

theorem boot_at (ports : List HdmiPortInfo) (readings : Option Readings) (table : Table ports) (port : HdmiPortInfo)
    (member : port ∈ ports) :
    (getBootConnectStatus ports readings).getLsbD port.portId.toNat =
      (latest (fun _ => none) (readings.getD fun _ => none) port.portId).getD false := by
  cases readings with
  | none => exact BitVec.getLsbD_zero
  | some readings =>
      have zero : (0 : BitVec 32).getLsbD port.portId.toNat = false := BitVec.getLsbD_zero
      rw [getBootConnectStatus, boot_fold_at readings ports 0 table.small, zero, Bool.false_or, latest, Option.getD_some,
        Option.or_none, Bool.eq_iff_iff, List.any_eq_true]
      constructor
      · rintro ⟨other, inside, found⟩
        obtain ⟨here, value⟩ := Bool.and_eq_true_iff.mp found
        have same := of_decide_eq_true here
        have range := table.small port member
        have other_range := table.small other inside
        have one : port.portId = other.portId := by omega
        rw [one]
        exact value
      · intro value
        exact ⟨port, member, Bool.and_eq_true_iff.mpr ⟨decide_eq_true rfl, value⟩⟩

structure Inv (device : CecDevice) (s : State) : Prop where
  like : Like device s.device
  bits : ∀ port ∈ device.mpPortData, s.mConnectStatus.getLsbD port.portId.toNat = (s.latest port.portId).getD false

section
variable (device : CecDevice)

theorem bit_of_port (straight : Straight device) (port : HdmiPortInfo)
    (member : port ∈ device.mpPortData) : bitOf device port = port.portId.toNat := by
  rw [bitOf]
  split
  · rename_i single
    obtain ⟨only, ports⟩ := List.length_eq_one_iff.mp single.1
    rw [ports] at member
    rw [List.mem_singleton.mp member, straight single.2 only ports]
    rfl
  · rfl

theorem start_inv (table : Table device.mpPortData) (readings : Option Readings) : Inv device (start device readings) :=
  ⟨rfl, fun port member => boot_at device.mpPortData readings table port member⟩

theorem step_reported (table : Table device.mpPortData) (straight : Straight device) (enabled : device.isCecEnabled = true)
    (controlled : device.isCecControlled = true) (s : State) (readings : Readings) (next : State) (inv : Inv device s)
    (unplugged : FirstUnplugged s readings) (taken : step s readings = some next) :
    Inv device next ∧ Reported s readings next := by
  have like := inv.like
  have ports : s.device.mpPortData = device.mpPortData := by rw [like]
  obtain ⟨last_like, events, _, found⟩ := check_ports_eq readings device enabled controlled device.mpPortData
    ⟨s.device, s.mConnectStatus, [], []⟩ like (bit_of_port device straight) table
  have after (port : HdmiPortInfo) (member : port ∈ device.mpPortData) :
      (device.mpPortData.foldl (checkPort readings) ⟨s.device, s.mConnectStatus, [], []⟩).prevStatus.getLsbD
        port.portId.toNat = (latest s.latest readings port.portId).getD false := by
    rw [found port member, inv.bits port member, latest]
    cases readings port.portId <;> rfl
  rw [step, checkConnectStatus, ports] at taken
  rw [← Option.some.inj taken]
  refine ⟨⟨last_like, after⟩, ?_, fun port member value latest_value => ?_⟩
  · refine events.trans ?_
    rw [List.nil_append, ports]
    refine List.filterMap_congr fun port member => ?_
    rw [seen, changed, inv.bits port member]
    cases read : readings port.portId with
    | none => rfl
    | some connect =>
        cases known : s.latest port.portId with
        | none =>
            exact if_pos (unplugged port (ports ▸ member) known connect read)
        | some old => rfl
  · have read : latest s.latest readings port.portId = some value := latest_value
    have bit := after port (ports ▸ member)
    rw [read] at bit
    exact bit

end

theorem hotplug_reported (device : CecDevice) (readings : Option Readings) (table : Table device.mpPortData)
    (straight : Straight device) (enabled : device.isCecEnabled = true) (controlled : device.isCecControlled = true)
    (passes : List Readings) (unplugged : Guarded step FirstUnplugged (start device readings) passes) :
    Along step Reported (start device readings) passes :=
  guarded_along step FirstUnplugged (Inv device) Reported
    (step_reported device table straight enabled controlled) _ passes (start_inv device table readings) unplugged

def connectedAt (portId : Int) : Readings := fun port => some (if port = portId then 1 else 0)

def television : CecDevice :=
  { openCecDevice (initDevice [devTypeTv]) 3 with
    isCecControlled := true, mpPortData := [⟨1, true, 0x1000⟩, ⟨2, false, 0x2000⟩] }

-- The cable is moved from port 1 to port 2.
theorem cable_moved_reported : Along step Reported (start television (some (connectedAt 1))) [connectedAt 2] :=
  hotplug_reported television (some (connectedAt 1)) ⟨by decide, by decide⟩ (fun other => absurd other (by decide)) rfl rfl
    [connectedAt 2] ⟨fun _ _ missing => (nomatch missing), fun _ _ => trivial⟩

-- A playback device whose only port has the id 1 is told that it is connected once more.
def dongle : CecDevice :=
  { openCecDevice (initDevice [devTypePlayback]) 3 with isCecControlled := true, mpPortData := [⟨1, false, 0x1000⟩] }

theorem dongle_told_twice : ¬Along step Reported (start dongle (some (connectedAt 1))) [connectedAt 1] := by
  intro along
  have reported := (along _ rfl).1.events
  exact absurd reported (by decide)

end Droidlogic.Cec.Hotplug
