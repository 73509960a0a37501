import Droidlogic.Lib.Run
import Droidlogic.Lib.PointerMap
import Droidlogic.Lib.DeathLinks

set_option autoImplicit false

namespace Droidlogic.Service

open Lib

inductive Event
  | onEvent (event : Int32)
  | onFBCUpgradeEvent (state param : Int32)
  | onSetDisplayMode (mode : Int32)
deriving DecidableEq

section
variable {Client : Type}

structure SystemControlHal (Client : Type) where
  mClients : PointerMap Client
  links : DeathLinks Client

-- The first of the numbers from i on that has no client; looking at it gives it an entry.
def freeCookie : Nat → Nat → PointerMap Client → Option Nat × PointerMap Client
  | 0, _, clients => (none, clients)
  | left + 1, i, clients =>
      if ((clients.touch i).get i).isNone then (some i, clients.touch i) else freeCookie left (i + 1) (clients.touch i)

def cookieOf (clients : PointerMap Client) : Nat := (freeCookie clients.size 0 clients).1.getD clients.size

theorem free_cookie_spec (left i : Nat) (clients : PointerMap Client) :
    (∀ key, (freeCookie left i clients).2.get key = clients.get key) ∧
      (∀ cookie, (freeCookie left i clients).1 = some cookie → clients.get cookie = none) ∧
      ((freeCookie left i clients).1 = none → ∀ key, i ≤ key → key < i + left → clients.get key ≠ none) := by
  induction left generalizing i clients with
  | zero => exact ⟨fun _ => rfl, nofun, fun _ key low high => by omega⟩
  | succ left ih =>
      rw [freeCookie]
      by_cases free : ((clients.touch i).get i).isNone = true
      · rw [if_pos free]
        refine ⟨fun key => PointerMap.get_touch clients i key, fun cookie same => ?_, nofun⟩
        cases same
        rw [PointerMap.get_touch] at free
        exact Option.isNone_iff_eq_none.mp free
      · rw [if_neg free]
        obtain ⟨same, found, full⟩ := ih (i + 1) (clients.touch i)
        simp only [PointerMap.get_touch] at same found full free
        refine ⟨same, found, fun missing key low high => ?_⟩
        by_cases first : key = i
        · rw [first]
          exact fun none => free (Option.isNone_iff_eq_none.mpr none)
        · exact full missing key (by omega) (by omega)

-- A new client never takes the entry of another.
theorem cookie_free (clients : PointerMap Client) : clients.get (cookieOf clients) = none := by
  obtain ⟨_, found, full⟩ := free_cookie_spec clients.size 0 clients
  rw [cookieOf]
  cases searched : (freeCookie clients.size 0 clients).1 with
  | some cookie => exact found cookie searched
  | none =>
      refine PointerMap.get_missing clients _ fun there => ?_
      refine absurd (PointerMap.keys_below clients (fun key small => ?_) _ there) (Nat.lt_irrefl _)
      by_contra missing
      exact full searched key (Nat.zero_le _) (by omega) (PointerMap.get_missing clients key missing)

end

section
variable {Client : Type} [DecidableEq Client]

def setCallback (hal : SystemControlHal Client) (callback : Option Client) : SystemControlHal Client :=
  match callback with
  | none => hal
  | some client =>
      let cookie := cookieOf hal.mClients
      ⟨(freeCookie hal.mClients.size 0 hal.mClients).2.put cookie (some client), hal.links.linkToDeath client cookie⟩

-- A client that answers, or fails otherwise than by being dead, keeps its entry.
def answers (dead : List Client) (entry : Nat × Option Client) : Bool :=
  match entry.2 with
  | none => false
  | some client => client ∉ dead

-- The three events differ in what the clients are told.
def notify (hal : SystemControlHal Client) (event : Event) : List (Client × Event) × SystemControlHal Client :=
  ((hal.mClients.items.filterMap Prod.snd).map fun client => (client, event),
    { hal with mClients := hal.mClients.filter (answers hal.links.dead) })

def handleServiceDeath (hal : SystemControlHal Client) (cookie : Nat) : SystemControlHal Client :=
  match (hal.mClients.touch cookie).get cookie with
  | none => { hal with mClients := hal.mClients.touch cookie }
  | some client => ⟨(hal.mClients.touch cookie).put cookie none, hal.links.unlinkToDeath client⟩

inductive Input (Client : Type)
  | setCallback (callback : Option Client)
  | die (client : Client)
  | serviceDied (client : Client) (cookie : Nat)
  | event (event : Event)

-- The daemon, and the clients that have registered with it.
structure System (Client : Type) where
  hal : SystemControlHal Client
  registered : List Client

def step (s : System Client) : Input Client → Option (System Client)
  | .setCallback callback => some ⟨setCallback s.hal callback, callback.toList ++ s.registered⟩
  | .die client => some { s with hal := { s.hal with links := s.hal.links.die client } }
  | .serviceDied client cookie =>
      (s.hal.links.report client cookie).map fun links =>
        { s with hal := handleServiceDeath { s.hal with links := links } cookie }
  | .event event => some { s with hal := (notify s.hal event).2 }

def start : System Client := ⟨⟨.empty, .empty⟩, []⟩

theorem get_set_callback (hal : SystemControlHal Client) (client : Client) (key : Nat) :
    (setCallback hal (some client)).mClients.get key =
      if key = cookieOf hal.mClients then some client else hal.mClients.get key := by
  refine (PointerMap.get_put _ _ _ _).trans ?_
  rw [(free_cookie_spec _ _ _).1]

theorem get_notify (hal : SystemControlHal Client) (event : Event) (key : Nat) (client : Client) :
    (notify hal event).2.mClients.get key = some client ↔ hal.mClients.get key = some client ∧ client ∉ hal.links.dead := by
  simp [PointerMap.get_iff, notify, KeyedVector.filter, answers]

theorem get_service_death (hal : SystemControlHal Client) (cookie key : Nat) :
    (handleServiceDeath hal cookie).mClients.get key = if key = cookie then none else hal.mClients.get key := by
  rw [handleServiceDeath, PointerMap.get_touch]
  cases found : hal.mClients.get cookie with
  | none =>
      simp only [PointerMap.get_touch]
      split
      · rename_i same
        rw [same, found]
      · rfl
  | some client =>
      simp only [PointerMap.get_put, PointerMap.get_touch]

-- A client that has registered and is alive has one entry, under the cookie of its link.
structure Sound (s : System Client) : Prop where
  stored : ∀ client ∈ s.registered, client ∉ s.hal.links.dead →
    ∃ cookie, (∀ key, s.hal.mClients.get key = some client ↔ key = cookie) ∧
      ∀ key, (client, key) ∈ s.hal.links.linked ↔ key = cookie

def Delivered (s : System Client) (input : Input Client) (next : System Client) : Prop :=
  Sound next ∧ ∀ event, input = .event event → ∀ client ∈ s.registered, client ∉ s.hal.links.dead →
    (notify s.hal event).1.count (client, event) = 1

-- A client registers once, and a notice of death finds no client alive under its cookie.
def Settled (s : System Client) (input : Input Client) (_ : System Client) : Prop :=
  match input with
  | .setCallback callback => ∀ client, callback = some client → client ∈ s.registered → client ∈ s.hal.links.dead
  | .serviceDied _ cookie => ∀ client, s.hal.mClients.get cookie = some client → client ∈ s.hal.links.dead
  | _ => True

structure Inv (s : System Client) : Prop where
  sound : Sound s
  known : ∀ key client, s.hal.mClients.get key = some client → client ∈ s.registered
  links : ∀ link ∈ s.hal.links.linked, link.1 ∈ s.registered

theorem set_callback_inv (s : System Client) (client : Client) (inv : Inv s)
    (once : client ∈ s.registered → client ∈ s.hal.links.dead) :
    Inv ⟨setCallback s.hal (some client), client :: s.registered⟩ := by
  have links : (setCallback s.hal (some client)).links = s.hal.links.linkToDeath client (cookieOf s.hal.mClients) := rfl
  refine ⟨⟨fun other member alive => ?_⟩, fun key other found => ?_, fun link member => ?_⟩
  · simp only [links, DeathLinks.link_dead] at alive
    by_cases same : other = client
    · subst same
      have fresh : other ∉ s.registered := fun there => alive (once there)
      refine ⟨cookieOf s.hal.mClients, fun key => ?_, fun key => ?_⟩
      · rw [get_set_callback]
        split
        · rename_i here
          exact ⟨fun _ => here, fun _ => rfl⟩
        · rename_i elsewhere
          exact ⟨fun found => absurd (inv.known key other found) fresh, fun here => absurd here elsewhere⟩
      · rw [links, DeathLinks.mem_link _ _ _ _ alive, Prod.mk.injEq]
        exact ⟨fun either => either.elim And.right fun old => absurd (inv.links _ old) fresh, fun here => .inl ⟨rfl, here⟩⟩
    · obtain ⟨cookie, held, linked⟩ := inv.sound.stored other ((List.mem_cons.mp member).resolve_left same) alive
      refine ⟨cookie, fun key => ?_, fun key => ?_⟩
      · rw [get_set_callback]
        split
        · rename_i here
          have free := cookie_free s.hal.mClients
          refine ⟨fun found => absurd (Option.some.inj found).symm same, fun mine => ?_⟩
          rw [← here, mine, (held cookie).mpr rfl] at free
          cases free
        · exact held key
      · rw [links, DeathLinks.mem_link_other _ _ _ _ same]
        exact linked key
  · rw [get_set_callback] at found
    split at found
    · exact Option.some.inj found ▸ .head _
    · exact .tail _ (inv.known key other found)
  · by_cases same : link.1 = client
    · exact same ▸ .head _
    · rw [links, DeathLinks.mem_link_other _ _ _ _ same] at member
      exact .tail _ (inv.links link member)

theorem die_inv (s : System Client) (client : Client) (inv : Inv s) :
    Inv { s with hal := { s.hal with links := s.hal.links.die client } } := by
  refine ⟨⟨fun other member alive => ?_⟩, inv.known, fun link member => inv.links link (List.mem_filter.mp member).1⟩
  have apart : other ≠ client ∧ other ∉ s.hal.links.dead := by simpa [DeathLinks.die] using alive
  obtain ⟨cookie, held, linked⟩ := inv.sound.stored other member apart.2
  exact ⟨cookie, held, fun key => (DeathLinks.mem_die _ _ _ apart.1).trans (linked key)⟩

theorem service_death_inv (s : System Client) (cookie : Nat) (inv : Inv s)
    (vacant : ∀ client, s.hal.mClients.get cookie = some client → client ∈ s.hal.links.dead) :
    Inv { s with hal := handleServiceDeath s.hal cookie } := by
  have dead : (handleServiceDeath s.hal cookie).links.dead = s.hal.links.dead := by
    rw [handleServiceDeath]
    split <;> rfl
  have links (link : Client × Nat) (alive : link.1 ∉ s.hal.links.dead) :
      link ∈ (handleServiceDeath s.hal cookie).links.linked ↔ link ∈ s.hal.links.linked := by
    rw [handleServiceDeath]
    split
    · exact Iff.rfl
    · rename_i client found
      rw [PointerMap.get_touch] at found
      exact DeathLinks.mem_unlink _ _ _ fun same => alive (same ▸ vacant client found)
  have fewer (link : Client × Nat) (member : link ∈ (handleServiceDeath s.hal cookie).links.linked) :
      link ∈ s.hal.links.linked := by
    rw [handleServiceDeath] at member
    split at member
    · exact member
    · exact DeathLinks.linked_of_unlink _ _ _ member
  refine ⟨⟨fun other member alive => ?_⟩, fun key other found => ?_, fun link member => inv.links link (fewer link member)⟩
  · simp only [dead] at alive
    obtain ⟨mine, held, linked⟩ := inv.sound.stored other member alive
    refine ⟨mine, fun key => ?_, fun key => (links (other, key) alive).trans (linked key)⟩
    rw [get_service_death]
    split
    · rename_i here
      refine ⟨nofun, fun same => absurd (vacant other ?_) alive⟩
      rw [← here]
      exact (held key).mpr same
    · exact held key
  · rw [get_service_death] at found
    split at found
    · cases found
    · exact inv.known key other found

theorem notify_inv (s : System Client) (event : Event) (inv : Inv s) : Inv { s with hal := (notify s.hal event).2 } := by
  refine ⟨⟨fun other member alive => ?_⟩, fun key other found => ?_, inv.links⟩
  · obtain ⟨cookie, held, linked⟩ := inv.sound.stored other member alive
    exact ⟨cookie, fun key => (get_notify s.hal event key other).trans ((and_iff_left alive).trans (held key)), linked⟩
  · exact inv.known key other ((get_notify s.hal event key other).mp found).1

theorem step_inv (s next : System Client) (input : Input Client) (inv : Inv s) (taken : step s input = some next)
    (settled : Settled s input next) : Inv next := by
  cases input with
  | setCallback callback =>
      cases Option.some.inj taken
      cases callback with
      | none => exact inv
      | some client => exact set_callback_inv s client inv (settled client rfl)
  | die client =>
      cases Option.some.inj taken
      exact die_inv s client inv
  | serviceDied client cookie =>
      obtain ⟨links, reported, rfl⟩ := Option.map_eq_some_iff.mp taken
      obtain ⟨linked, dead⟩ := DeathLinks.report_same _ _ _ _ reported
      have told : Inv { s with hal := { s.hal with links := links } } := by
        refine ⟨⟨fun other member alive => ?_⟩, inv.known, fun link member => inv.links link (linked ▸ member)⟩
        simp only [dead] at alive
        simp only [linked]
        exact inv.sound.stored other member alive
      refine service_death_inv _ cookie told fun other found => ?_
      simp only [dead]
      exact settled other found
  | event event =>
      cases Option.some.inj taken
      exact notify_inv s event inv

-- What an event tells a client, once for each entry that it has.
theorem notified_once (s : System Client) (event : Event) (sound : Sound s) (client : Client)
    (member : client ∈ s.registered) (alive : client ∉ s.hal.links.dead) :
    (notify s.hal event).1.count (client, event) = 1 := by
  obtain ⟨cookie, held, _⟩ := sound.stored client member alive
  have paired : Function.Injective fun other : Client => (other, event) := fun _ _ same => congrArg Prod.fst same
  rw [notify, List.count_map_of_injective _ _ paired, PointerMap.values_collected,
    PointerMap.collected_once _ _ s.hal.mClients.keys_nodup]
  have there := (held cookie).mpr rfl
  refine ⟨cookie, ⟨?_, there⟩, fun other _ found => (held other).mp found⟩
  by_contra missing
  rw [PointerMap.get_missing _ _ missing] at there
  cases there

theorem delivered_iff (s next : System Client) (input : Input Client) (inv : Inv s) (taken : step s input = some next) :
    Delivered s input next ↔ Settled s input next := by
  constructor
  · intro ⟨sound, _⟩
    cases input with
    | setCallback callback =>
        cases Option.some.inj taken
        intro client same member
        subst same
        by_contra alive
        obtain ⟨cookie, held, _⟩ := inv.sound.stored client member alive
        have links : (setCallback s.hal (some client)).links.dead = s.hal.links.dead := DeathLinks.link_dead _ _ _
        obtain ⟨other, both, _⟩ := sound.stored client (.head _) (by simpa only [links] using alive)
        have fresh : cookieOf s.hal.mClients = other := (both _).mp (by rw [get_set_callback, if_pos rfl])
        have free := cookie_free s.hal.mClients
        have old : cookie = other := by
          refine (both cookie).mp ?_
          rw [get_set_callback]
          split
          · rfl
          · exact (held cookie).mpr rfl
        rw [fresh, ← old, (held cookie).mpr rfl] at free
        cases free
    | die client => trivial
    | serviceDied client cookie =>
        obtain ⟨links, reported, rfl⟩ := Option.map_eq_some_iff.mp taken
        obtain ⟨_, dead⟩ := DeathLinks.report_same _ _ _ _ reported
        intro other found
        by_contra alive
        have member := inv.known cookie other found
        obtain ⟨mine, held, _⟩ := inv.sound.stored other member alive
        have sameDead : (handleServiceDeath { s.hal with links := links } cookie).links.dead = s.hal.links.dead := by
          rw [handleServiceDeath]
          split
          · exact dead
          · exact dead
        obtain ⟨later, kept, _⟩ := sound.stored other member (by simpa only [sameDead] using alive)
        have there := (kept later).mpr rfl
        rw [get_service_death] at there
        split at there
        · cases there
        · rename_i elsewhere
          exact elsewhere (((held later).mp there).trans ((held cookie).mp found).symm)
    | event event => trivial
  · intro settled
    refine ⟨(step_inv s next input inv taken settled).sound, fun event _ client member alive => ?_⟩
    exact notified_once s event inv.sound client member alive

theorem registry_kept_iff (inputs : List (Input Client)) :
    Along step Delivered (start : System Client) inputs ↔ Along step Settled (start : System Client) inputs := by
  refine along_iff step Inv Delivered Settled ?_ ?_ start inputs ?_
  · exact fun s input next inv taken settled => step_inv s next input inv taken settled
  · exact fun s input next inv taken => delivered_iff s next input inv taken
  · exact ⟨⟨nofun⟩, fun _ _ found => (by cases found), nofun⟩

end

-- A notice that comes after an event has taken the dead client's entry away and another client has got its cookie.
theorem late_notice_unregisters :
    ¬Along step Delivered (start : System Nat)
        [.setCallback (some 0), .die 0, .event (.onEvent 2), .setCallback (some 1), .serviceDied 0 0] := by
  intro along
  obtain ⟨⟨stored⟩, _⟩ := (((((along _ rfl).2 _ rfl).2 _ rfl).2 _ rfl).2 _ rfl).1
  obtain ⟨cookie, held, _⟩ := stored 1 (by decide) (by decide)
  have there : (cookie, some 1) ∈ [((0 : Nat), (none : Option Nat))] :=
    (PointerMap.get_iff _ cookie 1).mp ((held cookie).mpr rfl)
  cases List.mem_singleton.mp there

end Droidlogic.Service
