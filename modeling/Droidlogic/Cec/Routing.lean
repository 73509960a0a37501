import Mathlib.Data.List.FinRange
import Mathlib.Data.List.Perm.Basic
import Droidlogic.Cec.Send

set_option autoImplicit false

namespace Droidlogic.Cec.Routing

open Lib

section
variable {α : Type}

-- The first hit is all the hits of a narrower test.
theorem find_filter_iff (items : List α) (wide narrow : α → Bool) (distinct : items.Nodup)
    (inside : ∀ item, narrow item = true → wide item = true) :
    (items.find? wide).toList = items.filter narrow ↔ ∀ item, items.find? wide = some item →
      narrow item = true ∧ ∀ other ∈ items, narrow other = true → other = item := by
  cases found : items.find? wide with
  | none =>
      have none_wide := List.find?_eq_none.mp found
      have empty : items.filter narrow = [] :=
        List.filter_eq_nil_iff.mpr fun item member hit => none_wide item member (inside item hit)
      rw [empty]
      exact iff_of_true rfl nofun
  | some item =>
      have member := List.mem_of_find?_eq_some found
      rw [Option.toList_some]
      constructor
      · intro same other first
        cases first
        refine ⟨(List.mem_filter.mp (same ▸ List.mem_singleton_self item)).2, fun other listed hit => ?_⟩
        exact List.mem_singleton.mp (same ▸ List.mem_filter.mpr ⟨listed, hit⟩)
      · intro alone
        obtain ⟨hit, only⟩ := alone item rfl
        refine (List.perm_singleton.mp ((List.perm_ext_iff_of_nodup (distinct.filter _) (List.nodup_singleton _)).mpr
          fun other => ?_)).symm
        rw [List.mem_filter, List.mem_singleton]
        exact ⟨fun both => only other both.1 both.2, fun same => same ▸ ⟨member, hit⟩⟩

end

-- The target of a <Routing Change> is its new address.
def target (message : CecMessage) : Nat :=
  if message.body.at 0 = cecMessageRoutingChange then word16 (message.body.at 3) (message.body.at 4)
  else word16 (message.body.at 1) (message.body.at 2)

-- The digits of an address that its subtree shares.
def levelMask (address : Nat) : Nat :=
  if address &&& 0x0fff = 0 then 0xf000
  else if address &&& 0x00ff = 0 then 0xff00
  else if address &&& 0x000f = 0 then 0xfff0
  else 0xffff

def atOrBelow (target address : Nat) : Bool := address ≠ 0 && address &&& levelMask target = target

def turnOn (index : Fin addrBroadcast) : QueueCall :=
  .sendMsg (delayed msgTurnOnDevice (delayTimeoutMs * 2 / 7) [.ofNat index])

-- The audio system is a device of its own at an ARC port.
def Lone (device : CecDevice) : Prop :=
  avrAddr device ≠ 0 ∧ arcPort device = true ∧
    ∀ index : Fin addrBroadcast, index.val ≠ devTypeAudioSystem → avrAddr device < device.mAddedPhyAddrs.get index →
      sameTop (device.mAddedPhyAddrs.get index) (avrAddr device) = false

structure Follows (services : Services) (device : CecDevice) (stack : Body) (message : CecMessage) (isExtend : Bool) :
    Prop where
  withheld : (∃ code, (sendMessage services device stack message isExtend).sent = .error code) ↔
    target message = avrAddr device ∧ Lone device
  passed : ∀ sent, (sendMessage services device stack message isExtend).sent = .ok sent →
    sent.destination = message.destination ∧ sent.payload = message.payload
  powered : message.body.at 0 = cecMessageRoutingChange → target message ≠ 0 →
    (sendMessage services device stack message isExtend).calls =
      ((List.finRange addrBroadcast).filter fun index => atOrBelow (target message) (device.mAddedPhyAddrs.get index)).map turnOn

-- A device under the same port whose address is no smaller than the target.
def candidate (device : CecDevice) (target : Nat) (index : Fin addrBroadcast) : Bool :=
  sameTop (device.mAddedPhyAddrs.get index) target && target ≤ device.mAddedPhyAddrs.get index

-- The first candidate of the table is the one device at or below the target.
def OneBelow (device : CecDevice) (target : Nat) : Prop :=
  ∀ index, candidate device target index = true → (∀ earlier < index, candidate device target earlier = false) →
    atOrBelow target (device.mAddedPhyAddrs.get index) = true ∧
      ∀ other : Fin addrBroadcast, atOrBelow target (device.mAddedPhyAddrs.get other) = true → other = index

-- With no address of an audio system a port at 0.0.0.0 is not taken for it. What an extension
-- sends passes by all this.
def Routable (device : CecDevice) (message : CecMessage) (isExtend : Bool) : Prop :=
  if isExtend then
    ¬(target message = avrAddr device ∧ Lone device) ∧
      (message.body.at 0 = cecMessageRoutingChange → target message ≠ 0 →
        ∀ index : Fin addrBroadcast, atOrBelow (target message) (device.mAddedPhyAddrs.get index) = false)
  else
    ¬(target message = 0 ∧ avrAddr device = 0 ∧ arcPort device = true ∧ avrHasSubDevice device = false) ∧
      (message.body.at 0 = cecMessageRoutingChange → target message ≠ 0 → OneBelow device (target message))

theorem avr_has_sub_device_false (device : CecDevice) : avrHasSubDevice device = false ↔
    ∀ index : Fin addrBroadcast, index.val ≠ devTypeAudioSystem → avrAddr device < device.mAddedPhyAddrs.get index →
      sameTop (device.mAddedPhyAddrs.get index) (avrAddr device) = false := by
  rw [avrHasSubDevice, List.any_eq_false]
  constructor
  · intro all index other above
    exact Bool.eq_false_iff.mpr fun top => all index (List.mem_finRange index)
      (Bool.and_eq_true_iff.mpr ⟨Bool.and_eq_true_iff.mpr ⟨decide_eq_true other, decide_eq_true above⟩, top⟩)
  · intro all index _ hit
    obtain ⟨both, top⟩ := Bool.and_eq_true_iff.mp hit
    obtain ⟨other, above⟩ := Bool.and_eq_true_iff.mp both
    have apart := all index (of_decide_eq_true other) (of_decide_eq_true above)
    exact Bool.false_ne_true (apart.symm.trans top)

theorem avr_ret_iff (device : CecDevice) (para : Nat) : avrRet device para < 0 ↔
    avrAddr device = para ∧ arcPort device = true ∧ avrHasSubDevice device = false := by
  rw [avrRet]
  by_cases withheld : avrAddr device = para ∧ arcPort device = true ∧ ¬avrHasSubDevice device = true
  · rw [if_pos withheld]
    exact iff_of_true (by decide) ⟨withheld.1, withheld.2.1, Bool.eq_false_iff.mpr withheld.2.2⟩
  · rw [if_neg withheld]
    exact iff_of_false (by decide) fun all => withheld ⟨all.1, all.2.1, Bool.eq_false_iff.mp all.2.2⟩

-- A masked address is no larger, and it keeps the top digit where the mask does.
theorem and_mask (address mask top : Nat) (covers : mask &&& top = top) :
    address &&& mask ≤ address ∧ (address &&& mask) &&& top = address &&& top :=
  ⟨Nat.and_le_left, by rw [Nat.and_assoc, covers]⟩

theorem level_mask_covers (address : Nat) : levelMask address &&& 0xf000 = 0xf000 := by
  rw [levelMask]
  split_ifs <;> decide

theorem at_or_below_candidate (device : CecDevice) (target : Nat) (index : Fin addrBroadcast)
    (below : atOrBelow target (device.mAddedPhyAddrs.get index) = true) : candidate device target index = true := by
  obtain ⟨_, masked⟩ := Bool.and_eq_true_iff.mp below
  have inside := of_decide_eq_true masked
  obtain ⟨small, top⟩ := and_mask (device.mAddedPhyAddrs.get index) _ 0xf000 (level_mask_covers target)
  rw [inside] at small top
  exact Bool.and_eq_true_iff.mpr ⟨decide_eq_true top.symm, decide_eq_true small⟩

theorem find_candidate_iff (device : CecDevice) (target : Nat) (index : Fin addrBroadcast) :
    (List.finRange addrBroadcast).find? (candidate device target) = some index ↔
      candidate device target index = true ∧ ∀ earlier < index, candidate device target earlier = false := by
  rw [List.find?_eq_some_iff_getElem]
  refine and_congr_right fun _ => ⟨fun ⟨i, inside, here, before⟩ earlier less => ?_, fun before => ?_⟩
  · rw [List.getElem_finRange] at here
    subst here
    have missed := before earlier less
    rw [List.getElem_finRange] at missed
    simpa using missed
  · refine ⟨index, by simp, by simp, fun j less => ?_⟩
    rw [List.getElem_finRange]
    have missed := before ⟨j, Nat.lt_trans less index.isLt⟩ less
    simpa using missed

theorem turn_on_injective : Function.Injective turnOn := by
  intro first second same
  have bytes := congrArg (fun msg : MsgQueue.CMessage => msg.mpPara 0) (QueueCall.sendMsg.inj same)
  have number : (UInt8.ofNat first.val).toNat = (UInt8.ofNat second.val).toNat := congrArg UInt8.toNat bytes
  rw [UInt8.toNat_ofNat', UInt8.toNat_ofNat'] at number
  have first_small : first.val < 15 := first.isLt
  have second_small : second.val < 15 := second.isLt
  exact Fin.ext (by omega)

theorem turn_on_calls_iff (device : CecDevice) (target : Nat) (some_target : target ≠ 0) :
    turnOnCalls device target =
        ((List.finRange addrBroadcast).filter fun index => atOrBelow target (device.mAddedPhyAddrs.get index)).map turnOn ↔
      OneBelow device target := by
  have calls : turnOnCalls device target = ((List.finRange addrBroadcast).find? (candidate device target)).toList.map turnOn := by
    simp only [turnOnCalls, ne_eq, some_target, not_false_eq_true, decide_true, Bool.true_and]
    have same : (fun index : Fin addrBroadcast => sameTop device.mAddedPhyAddrs[index] target &&
        decide (target ≤ device.mAddedPhyAddrs[index])) = candidate device target := rfl
    rw [same]
    cases (List.finRange addrBroadcast).find? (candidate device target) with
    | none => rfl
    | some index => rfl
  rw [calls, (List.map_injective_iff.mpr turn_on_injective).eq_iff,
    find_filter_iff _ _ _ (List.nodup_finRange addrBroadcast) fun index below => at_or_below_candidate device target index below]
  refine forall_congr' fun index => ?_
  rw [find_candidate_iff, and_imp]
  refine forall₂_congr fun _ _ => and_congr_right fun _ => ?_
  exact forall_congr' fun other => ⟨fun only => only (List.mem_finRange other), fun only _ => only⟩

theorem send_routing (services : Services) (device : CecDevice) (stack : Body) (message : CecMessage)
    (opened : 0 ≤ device.mFd) (enabled : device.isCecEnabled = true)
    (routing : message.body.at 0 = cecMessageRoutingChange ∨ message.body.at 0 = cecMessageSetStreamPath) :
    sendMessage services device stack message false =
      let calls := if message.body.at 0 = cecMessageRoutingChange then turnOnCalls device (target message) else []
      if avrRet device (target message) < 0 then ⟨.error hdmiResultSuccess, calls, false⟩ else ⟨.ok message, calls, true⟩ := by
  have plain : ¬(device.mExtendControl = 0x03 ∧ hasHandledByExtend message = true) := by
    rintro ⟨_, handled⟩
    rw [hasHandledByExtend] at handled
    rcases routing with change | path
    · rw [change] at handled
      exact absurd handled (by decide)
    · rw [path] at handled
      exact absurd handled (by decide)
  rw [sendMessage, if_neg (Int.not_lt.mpr opened), if_neg (not_not_intro enabled), if_neg Bool.false_ne_true, if_neg plain,
    preHandleOfSend, target]
  rcases routing with change | path
  · simp only [change, if_true]
  · have other : cecMessageSetStreamPath ≠ cecMessageRoutingChange := by decide
    simp only [path, if_neg other, if_true]

theorem routed_follows_iff (services : Services) (device : CecDevice) (stack : Body) (message : CecMessage)
    (opened : 0 ≤ device.mFd) (enabled : device.isCecEnabled = true)
    (routing : message.body.at 0 = cecMessageRoutingChange ∨ message.body.at 0 = cecMessageSetStreamPath) :
    Follows services device stack message false ↔ Routable device message false := by
  have sends := send_routing services device stack message opened enabled routing
  have lone : Lone device ↔ avrAddr device ≠ 0 ∧ arcPort device = true ∧ avrHasSubDevice device = false := by
    rw [avr_has_sub_device_false]
    rfl
  have calls : (sendMessage services device stack message false).calls =
      if message.body.at 0 = cecMessageRoutingChange then turnOnCalls device (target message) else [] := by
    rw [sends]
    simp only
    split <;> rfl
  have sent : (sendMessage services device stack message false).sent =
      if avrRet device (target message) < 0 then .error hdmiResultSuccess else .ok message := by
    rw [sends]
    simp only
    split <;> rfl
  have withheld : (∃ code, (sendMessage services device stack message false).sent = .error code) ↔
      avrAddr device = target message ∧ arcPort device = true ∧ avrHasSubDevice device = false := by
    rw [← avr_ret_iff, sent]
    split
    · rename_i negative
      exact iff_of_true ⟨_, rfl⟩ negative
    · rename_i positive
      exact iff_of_false (fun ⟨_, other⟩ => nomatch other) positive
  rw [Routable, if_neg nofun]
  constructor
  · intro follows
    refine ⟨fun all => ?_, fun change some_target => ?_⟩
    · obtain ⟨unaddressed, unknown, arc, alone⟩ := all
      exact (follows.withheld.mp (withheld.mpr ⟨unknown.trans unaddressed.symm, arc, alone⟩)).2.1 unknown
    · have powered := follows.powered change some_target
      rw [calls, if_pos change] at powered
      exact (turn_on_calls_iff device (target message) some_target).mp powered
  · rintro ⟨known, below⟩
    refine ⟨?_, fun other passed => ?_, fun change some_target => ?_⟩
    · rw [withheld, lone]
      constructor
      · rintro ⟨same, arc, alone⟩
        refine ⟨same.symm, fun unknown => known ⟨same.symm.trans unknown, unknown, arc, alone⟩, arc, alone⟩
      · rintro ⟨same, _, arc, alone⟩
        exact ⟨same.symm, arc, alone⟩
    · rw [sent] at passed
      split at passed
      · cases passed
      · cases passed
        exact ⟨rfl, rfl⟩
    · rw [calls, if_pos change]
      exact (turn_on_calls_iff device (target message) some_target).mpr (below change some_target)

theorem extended_follows_iff (services : Services) (device : CecDevice) (stack : Body) (message : CecMessage)
    (tv : device.isTvDeviceType = true) (opened : 0 ≤ device.mFd) (enabled : device.isCecEnabled = true) :
    Follows services device stack message true ↔ Routable device message true := by
  have own : ownAddress device = cecAddrTv := if_pos tv
  have registered : ¬ownAddress device = cecAddrUnregistered := by
    rw [own]
    decide
  have sends : sendMessage services device stack message true =
      ⟨.ok { message with
        initiator := ownAddress device, body := stack.fill message.payload (payload_fits message) }, [], false⟩ := by
    rw [sendMessage, if_neg (Int.not_lt.mpr opened), if_neg (not_not_intro enabled), if_pos rfl, sendExtMessage,
      if_neg registered]
  rw [Routable, if_pos rfl]
  constructor
  · rintro ⟨withheld, _, powered⟩
    refine ⟨fun all => ?_, fun change some_target index => ?_⟩
    · obtain ⟨_, refused⟩ := withheld.mpr all
      rw [sends] at refused
      cases refused
    · have none_below := powered change some_target
      rw [sends] at none_below
      have empty := List.map_eq_nil_iff.mp none_below.symm
      exact Bool.eq_false_iff.mpr (List.filter_eq_nil_iff.mp empty index (List.mem_finRange index))
  · rintro ⟨known, below⟩
    refine ⟨iff_of_false (fun ⟨_, refused⟩ => ?_) known, fun sent passed => ?_, fun change some_target => ?_⟩
    · rw [sends] at refused
      cases refused
    · rw [sends] at passed
      cases passed
      exact ⟨rfl, payload_fill _ _ _ stack _ _ _ (payload_length message).symm⟩
    · have empty : ((List.finRange addrBroadcast).filter fun index =>
          atOrBelow (target message) (device.mAddedPhyAddrs.get index)) = [] :=
        List.filter_eq_nil_iff.mpr fun index _ => Bool.eq_false_iff.mp (below change some_target index)
      rw [sends, empty]
      rfl

theorem routing_follows_iff (services : Services) (device : CecDevice) (stack : Body) (message : CecMessage)
    (isExtend : Bool) (tv : device.isTvDeviceType = true) (opened : 0 ≤ device.mFd) (enabled : device.isCecEnabled = true)
    (routing : message.body.at 0 = cecMessageRoutingChange ∨ message.body.at 0 = cecMessageSetStreamPath) :
    Follows services device stack message isExtend ↔ Routable device message isExtend := by
  cases isExtend with
  | false => exact routed_follows_iff services device stack message opened enabled routing
  | true => exact extended_follows_iff services device stack message tv opened enabled

-- A television with an audio system at its ARC port, and players at the other one.
def television : CecDevice :=
  { openCecDevice (initDevice [devTypeTv]) 3 with
    mpPortData := [⟨1, true, 0x1000⟩, ⟨2, false, 0x2000⟩]
    mAddedPhyAddrs := ⟨#[0, 0, 0, 0, 0x2100, 0x1000, 0, 0, 0x2200, 0, 0, 0, 0, 0, 0], rfl⟩ }

def routed (operands : Bytes) (fits : operands.length ≤ cecMessageBodyMaxLength) : CecMessage :=
  ⟨cecAddrTv, cecAddrBroadcast, operands.length, Body.zero.fill operands fits, fits⟩

theorem stream_path_withheld : Follows plainServices television .zero (routed [0x86, 0x10, 0x00] (by decide)) false :=
  (routing_follows_iff plainServices television .zero _ false rfl (by decide) rfl (.inr (by decide))).mpr
    ⟨by decide, fun change => absurd change (by decide)⟩

-- Two players below port 2, one message.
theorem second_player_left_off :
    ¬Follows plainServices television .zero (routed [0x80, 0x10, 0x00, 0x20, 0x00] (by decide)) false := by
  intro follows
  have lengths := congrArg List.length (follows.powered (by decide) (by decide))
  exact absurd lengths (by decide)

end Droidlogic.Cec.Routing
