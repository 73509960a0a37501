import Droidlogic.Lib.Run
import Droidlogic.Lib.PointerMap
import Droidlogic.Lib.DeathLinks
import Droidlogic.Cec.Message

set_option autoImplicit false

namespace Droidlogic.Cec.Clients

open Lib

structure HidlHotplug where
  connected : Bool
  portId : Int32
deriving DecidableEq

structure HidlMessage where
  initiator : Nat
  destination : Nat
  body : Bytes
deriving DecidableEq

structure CecEvent where
  eventType : BitVec 32
  hotplug : HidlHotplug
  cec : HidlMessage
  logicalAddress : Int32
deriving DecidableEq

def CecEvent.ofType (eventType : BitVec 32) : CecEvent := ⟨eventType, ⟨false, 0⟩, ⟨0, 0, []⟩, 0⟩

def toHidl (event : HdmiCecEvent) : CecEvent :=
  let hidlEvent := CecEvent.ofType event.eventType
  if event.eventType = hdmiEventAddLogicalAddress then { hidlEvent with logicalAddress := event.logicalAddress }
  else if event.eventType = hdmiEventHotPlug then
    { hidlEvent with hotplug := ⟨event.hotplug.connected ≠ 0, event.hotplug.portId⟩ }
  else if event.eventType ≠ 0 then
    { hidlEvent with cec := ⟨event.cec.initiator, event.cec.destination, event.cec.payload⟩ }
  else hidlEvent

-- The fields that an event of its type has.
structure Same (event : HdmiCecEvent) (hidlEvent : CecEvent) : Prop where
  eventType : hidlEvent.eventType = event.eventType
  logicalAddress : event.eventType = hdmiEventAddLogicalAddress → hidlEvent.logicalAddress = event.logicalAddress
  hotplug : event.eventType = hdmiEventHotPlug →
    (hidlEvent.hotplug.connected = true ↔ event.hotplug.connected ≠ 0) ∧ hidlEvent.hotplug.portId = event.hotplug.portId
  cec : event.eventType ≠ hdmiEventAddLogicalAddress → event.eventType ≠ hdmiEventHotPlug → event.eventType ≠ 0 →
    hidlEvent.cec.initiator = event.cec.initiator ∧ hidlEvent.cec.destination = event.cec.destination ∧
      hidlEvent.cec.body.length = event.cec.length ∧ hidlEvent.cec.body = event.cec.payload

theorem to_hidl_same (event : HdmiCecEvent) : Same event (toHidl event) := by
  have apart : hdmiEventHotPlug ≠ hdmiEventAddLogicalAddress := by decide
  refine ⟨?_, fun added => ?_, fun plugged => ?_, fun notAdded notPlugged some_type => ?_⟩
  · rw [toHidl]
    split
    · rfl
    · split
      · rfl
      · split <;> rfl
  · rw [toHidl, if_pos added]
  · rw [toHidl, if_neg (plugged ▸ apart), if_pos plugged]
    exact ⟨decide_eq_true_iff, rfl⟩
  · rw [toHidl, if_neg notAdded, if_neg notPlugged, if_pos some_type]
    exact ⟨rfl, rfl, payload_length event.cec, rfl⟩

section
variable {Client : Type}

-- What ConnectType::TYPE_TOTAL is, the interface says.
structure DroidHdmiCec (Client : Type) where
  mClients : PointerMap Client
  links : DeathLinks Client

-- The types are those below the number of entries when the loop begins.
def deliver : Nat → Nat → PointerMap Client → CecEvent → List (Client × CecEvent) × PointerMap Client
  | 0, _, clients, _ => ([], clients)
  | left + 1, i, clients, hidlEvent =>
      let clients := clients.touch i
      let (rest, last) := deliver left (i + 1) clients hidlEvent
      ((clients.get i).toList.map (fun client => (client, hidlEvent)) ++ rest, last)

def onEventUpdate (cec : DroidHdmiCec Client) (event : HdmiCecEvent) :
    List (Client × CecEvent) × DroidHdmiCec Client :=
  let (delivered, clients) := deliver cec.mClients.size 0 cec.mClients (toHidl event)
  (delivered, { cec with mClients := clients })

-- The key of a type, and the number that a cookie comes back as.
def keyOf (type : Int32) : Nat := type.toUInt32.toNat

theorem deliver_spec (left i : Nat) (clients : PointerMap Client) (hidlEvent : CecEvent) :
    (deliver left i clients hidlEvent).1 =
        ((List.range' i left).filterMap clients.get).map (fun client => (client, hidlEvent)) ∧
      ∀ key, (deliver left i clients hidlEvent).2.get key = clients.get key := by
  induction left generalizing i clients with
  | zero => exact ⟨rfl, fun _ => rfl⟩
  | succ left ih =>
      obtain ⟨delivered, same⟩ := ih (i + 1) (clients.touch i)
      simp only [PointerMap.get_touch] at same
      have gets : (clients.touch i).get = clients.get := funext fun key => PointerMap.get_touch clients i key
      refine ⟨?_, same⟩
      simp only [deliver, delivered, gets]
      rw [List.range'_succ, List.filterMap_cons]
      cases clients.get i <;> rfl

def register (registered : Nat → Option Client) (fresh : Option (Nat × Client)) (key : Nat) : Option Client :=
  match fresh with
  | some (type, client) => if key = type then some client else registered key
  | none => registered key

theorem register_agrees (registered held : Nat → Option Client) (fresh : Option (Nat × Client)) (key : Nat)
    (client : Client) (agrees : registered key = some client → held key = some client)
    (found : register registered fresh key = some client) : register held fresh key = some client := by
  cases fresh with
  | none => exact agrees found
  | some entry =>
      simp only [register] at found ⊢
      split at found
      · rename_i here
        rw [if_pos here, found]
      · rename_i elsewhere
        rw [if_neg elsewhere, agrees found]

end

section
variable {Client : Type} [DecidableEq Client] (typeTotal : Int32)

def setCallback (cec : DroidHdmiCec Client) (callback : Option Client) (type : Int32) : DroidHdmiCec Client :=
  if type > typeTotal - 1 then cec
  else
    match callback with
    | none => cec
    | some client =>
        let clients := cec.mClients.touch (keyOf type)
        let links :=
          match clients.get (keyOf type) with
          | none => cec.links
          | some old => cec.links.unlinkToDeath old
        ⟨clients.put (keyOf type) (some client), links.linkToDeath client (keyOf type)⟩

def handleServiceDeath (cec : DroidHdmiCec Client) (type : Nat) : DroidHdmiCec Client :=
  { cec with mClients := cec.mClients.put type none }

inductive Input (Client : Type)
  | setCallback (callback : Option Client) (type : Int32)
  | die (client : Client)
  | serviceDied (client : Client) (cookie : Nat)
  | event (event : HdmiCecEvent)

-- The daemon, and the client that registered last for each type.
structure System (Client : Type) where
  cec : DroidHdmiCec Client
  registered : Nat → Option Client

def registers (callback : Option Client) (type : Int32) : Option (Nat × Client) :=
  if type > typeTotal - 1 then none else callback.map fun client => (keyOf type, client)

def step (s : System Client) : Input Client → Option (System Client)
  | .setCallback callback type =>
      some ⟨setCallback typeTotal s.cec callback type, register s.registered (registers typeTotal callback type)⟩
  | .die client => some { s with cec := { s.cec with links := s.cec.links.die client } }
  | .serviceDied client cookie =>
      (s.cec.links.report client cookie).map fun links =>
        { s with cec := handleServiceDeath { s.cec with links := links } cookie }
  | .event event => some { s with cec := (onEventUpdate s.cec event).2 }

def start : System Client := ⟨⟨.empty, .empty⟩, fun _ => none⟩

-- A client registered for a type and alive.
def Live (s : System Client) (type : Nat) (client : Client) : Prop :=
  s.registered type = some client ∧ client ∉ s.cec.links.dead

instance (s : System Client) (type : Nat) (client : Client) : Decidable (Live s type client) :=
  inferInstanceAs (Decidable (_ ∧ _))

def Kept (s : System Client) : Prop := ∀ type client, Live s type client → s.cec.mClients.get type = some client

def Delivered (s : System Client) (input : Input Client) (next : System Client) : Prop :=
  Kept next ∧ ∀ event, input = .event event → ∀ type client, Live s type client →
    ∃ hidlEvent, Same event hidlEvent ∧
      (onEventUpdate s.cec event).1.filter (fun told => told.1 = client) = [(client, hidlEvent)]

-- An event reaches the entries below the number of entries; a notice of death finds no client alive for its type.
def Settled (s : System Client) (input : Input Client) (_ : System Client) : Prop :=
  match input with
  | .event _ => ∀ type client, Live s type client →
      ∃ own, (own < s.cec.mClients.size ∧ Live s own client) ∧
        ∀ other, other < s.cec.mClients.size → Live s other client → other = own
  | .serviceDied _ type => ∀ client, ¬Live s type client
  | _ => True

structure Inv (s : System Client) : Prop where
  kept : Kept s
  known : ∀ type client, s.cec.mClients.get type = some client → s.registered type = some client

theorem get_set_callback (cec : DroidHdmiCec Client) (callback : Option Client) (type : Int32) (key : Nat) :
    (setCallback typeTotal cec callback type).mClients.get key =
      register cec.mClients.get (registers typeTotal callback type) key := by
  simp only [setCallback, registers]
  by_cases refused : type > typeTotal - 1
  · rw [if_pos refused, if_pos refused, register]
  · rw [if_neg refused, if_neg refused]
    cases callback with
    | none => rfl
    | some client =>
        simp only [PointerMap.get_put, PointerMap.get_touch]
        rfl

theorem dead_set_callback (cec : DroidHdmiCec Client) (callback : Option Client) (type : Int32) :
    (setCallback typeTotal cec callback type).links.dead = cec.links.dead := by
  simp only [setCallback]
  split
  · rfl
  · split
    · rfl
    · simp only [DeathLinks.link_dead]
      split <;> rfl

theorem step_inv (s next : System Client) (input : Input Client) (inv : Inv s) (taken : step typeTotal s input = some next)
    (settled : Settled s input next) : Inv next := by
  cases input with
  | setCallback callback type =>
      cases Option.some.inj taken
      refine ⟨fun key client live => ?_, fun key client found => ?_⟩
      · rw [Live, dead_set_callback] at live
        rw [get_set_callback]
        cases fresh : registers typeTotal callback type with
        | none =>
            rw [fresh] at live
            exact inv.kept key client live
        | some entry =>
            rw [fresh] at live
            simp only [register] at live ⊢
            split at live
            · rename_i here
              rw [if_pos here]
              exact live.1
            · rename_i elsewhere
              rw [if_neg elsewhere]
              exact inv.kept key client live
      · rw [get_set_callback] at found
        exact register_agrees _ _ _ key client (inv.known key client) found
  | die client =>
      cases Option.some.inj taken
      refine ⟨fun type other live => inv.kept type other ⟨live.1, fun dead => live.2 (.tail _ dead)⟩, inv.known⟩
  | serviceDied client cookie =>
      obtain ⟨links, reported, rfl⟩ := Option.map_eq_some_iff.mp taken
      obtain ⟨_, dead⟩ := DeathLinks.report_same _ _ _ _ reported
      refine ⟨fun type other live => ?_, fun type other found => ?_⟩
      · have before : Live s type other := ⟨live.1, dead ▸ live.2⟩
        have elsewhere : type ≠ cookie := by
          rintro rfl
          exact settled other before
        refine (PointerMap.get_put _ _ _ _).trans ?_
        rw [if_neg elsewhere]
        exact inv.kept type other before
      · have found := (PointerMap.get_put _ _ _ _).symm.trans found
        split at found
        · cases found
        · exact inv.known type other found
  | event event =>
      cases Option.some.inj taken
      have same := (deliver_spec s.cec.mClients.size 0 s.cec.mClients (toHidl event)).2
      exact ⟨fun type client live => (same type).trans (inv.kept type client live),
        fun type client found => inv.known type client ((same type).symm.trans found)⟩

-- A client is told once where one entry in reach has it.
theorem told_once (cec : DroidHdmiCec Client) (event : HdmiCecEvent) (client : Client) :
    (∃ hidlEvent, Same event hidlEvent ∧
        (onEventUpdate cec event).1.filter (fun told => told.1 = client) = [(client, hidlEvent)]) ↔
      ∃ own, (own < cec.mClients.size ∧ cec.mClients.get own = some client) ∧
        ∀ other, other < cec.mClients.size → cec.mClients.get other = some client → other = own := by
  have told : (onEventUpdate cec event).1.filter (fun told => told.1 = client) =
      (List.replicate (((List.range cec.mClients.size).filterMap cec.mClients.get).count client) client).map
        fun client => (client, toHidl event) := by
    have delivered : (onEventUpdate cec event).1 = _ := (deliver_spec cec.mClients.size 0 cec.mClients (toHidl event)).1
    rw [delivered, List.filter_map, ← List.range_eq_range', ← List.filter_eq]
    rfl
  have single := PointerMap.collected_once cec.mClients (List.range cec.mClients.size) List.nodup_range client
  simp only [List.mem_range] at single
  rw [← single, told]
  constructor
  · rintro ⟨hidlEvent, _, one⟩
    simpa using congrArg List.length one
  · intro one
    rw [one]
    exact ⟨toHidl event, to_hidl_same event, rfl⟩

theorem delivered_iff (s next : System Client) (input : Input Client) (inv : Inv s)
    (taken : step typeTotal s input = some next) : Delivered s input next ↔ Settled s input next := by
  constructor
  · intro ⟨kept, told⟩
    cases input with
    | setCallback callback type => trivial
    | die client => trivial
    | serviceDied client cookie =>
        obtain ⟨links, reported, rfl⟩ := Option.map_eq_some_iff.mp taken
        obtain ⟨_, dead⟩ := DeathLinks.report_same _ _ _ _ reported
        intro other live
        have lost := kept cookie other ⟨live.1, fun member => live.2 (dead ▸ member)⟩
        have cleared := (PointerMap.get_put _ _ _ _).symm.trans lost
        rw [if_pos rfl] at cleared
        cases cleared
    | event event =>
        intro type client live
        obtain ⟨own, ⟨low, mine⟩, unique⟩ := (told_once s.cec event client).mp (told event rfl type client live)
        refine ⟨own, ⟨low, inv.known own client mine, live.2⟩, fun other small also => ?_⟩
        exact unique other small (inv.kept other client also)
  · intro settled
    refine ⟨(step_inv typeTotal s next input inv taken settled).kept, fun event same type client live => ?_⟩
    subst same
    obtain ⟨own, ⟨low, mine⟩, unique⟩ := settled type client live
    refine (told_once s.cec event client).mpr ⟨own, ⟨low, inv.kept own client mine⟩, fun other small found => ?_⟩
    exact unique other small ⟨inv.known other client found, live.2⟩

theorem events_delivered_iff (inputs : List (Input Client)) :
    Along (step typeTotal) Delivered (start : System Client) inputs ↔
      Along (step typeTotal) Settled (start : System Client) inputs := by
  refine along_iff (step typeTotal) Inv Delivered Settled ?_ ?_ start inputs ?_
  · exact fun s input next inv taken settled => step_inv typeTotal s next input inv taken settled
  · exact fun s input next inv taken => delivered_iff typeTotal s next input inv taken
  · exact ⟨fun _ _ live => (by cases live.1), fun _ _ found => (by cases found)⟩

end

def sampleEvent : HdmiCecEvent := ⟨hdmiEventCecMessage, ⟨4, 15, 1, .zero, by decide⟩, ⟨0, 0⟩, 0⟩

-- The extend client is the first to register: one entry, and its type is 1.
theorem first_event_missed :
    ¬Along (step 2) Delivered (start : System Nat) [.setCallback (some 0) 1, .event sampleEvent] := by
  intro along
  obtain ⟨_, told⟩ := ((along _ rfl).2 _ rfl).1
  obtain ⟨_, _, once⟩ := told sampleEvent rfl 1 0 ⟨rfl, by decide⟩
  cases once

end Droidlogic.Cec.Clients
