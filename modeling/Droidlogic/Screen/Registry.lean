import Droidlogic.Screen.System

set_option autoImplicit false

namespace Droidlogic.Screen

open Droidlogic.Lib

theorem clients_kept (m : ScreenManager) (call : Call) (outcome : Outcome) (done : perform m call = some outcome) :
    match call with
    | .init .. => True
    | .uninit _ => True
    | _ => outcome.manager.mClientList = m.mClientList := by
  cases call with
  | init => trivial
  | uninit => trivial
  | setVideoCrop x y width height =>
      cases done
      exact (set_video_crop_same m x y width height).2
  | start clientId hal =>
      rcases start_cases m clientId hal outcome done with ⟨_, rfl⟩ | ⟨_, client, _, rfl⟩
      · exact (opening_same m hal).1
      · exact (opening_same m hal).1
  | stop clientId =>
      obtain ⟨client, _, rfl⟩ := stop_cases m clientId outcome done
      exact clearing_clients m
  | readBuffer clientId buffer => exact (read_buffer_cases m clientId buffer outcome done).2.1
  | freeBuffer clientId buffer => exact congrArg (·.mClientList) (free_buffer_cases m clientId buffer outcome done).2.1
  | dataCallBack buffer window => exact (data_call_back_cases m buffer window outcome done).2.1

def idsOf (clients : List ScreenClient) : List Int := clients.map fun client => client.mClientId

theorem mem_ids_cons (client : ScreenClient) (rest : List ScreenClient) (id : Int) :
    id ∈ idsOf (client :: rest) ↔ id = client.mClientId ∨ id ∈ idsOf rest := List.mem_cons

theorem sorted_ids_cons (client : ScreenClient) (rest : List ScreenClient)
    (sorted : (idsOf (client :: rest)).Pairwise (· < ·)) :
    (∀ id ∈ idsOf rest, client.mClientId < id) ∧ (idsOf rest).Pairwise (· < ·) := List.pairwise_cons.mp sorted

theorem ids_reach_past (i : Nat) (clients : List ScreenClient) (sorted : (idsOf clients).Pairwise (· < ·))
    (above : ∀ id ∈ idsOf clients, (i : Int) + 1 < id) (some_client : clients ≠ []) :
    ∃ id ∈ idsOf clients, (i : Int) + clients.length < id := by
  induction clients generalizing i with
  | nil => exact absurd rfl some_client
  | cons client rest ih =>
      have first := above client.mClientId List.mem_cons_self
      by_cases last : rest = []
      · subst last
        exact ⟨client.mClientId, List.mem_cons_self, first⟩
      · obtain ⟨past, restSorted⟩ := sorted_ids_cons client rest sorted
        have restAbove : ∀ id ∈ idsOf rest, ((i + 1 : Nat) : Int) + 1 < id := by
          intro id member
          have beyond := past id member
          push_cast
          omega
        obtain ⟨id, member, large⟩ := ih (i + 1) restSorted restAbove last
        refine ⟨id, List.mem_cons_of_mem _ member, ?_⟩
        rw [List.length_cons]
        push_cast at large ⊢
        omega

-- The last position whose client has another id is the end of the list, as soon as
-- one id is larger than the number of clients.
theorem scan_ids_last (clientNum : Int) (i : Nat) (clients : List ScreenClient)
    (sorted : (idsOf clients).Pairwise (· < ·)) (above : ∀ id ∈ idsOf clients, (i : Int) < id)
    (some_client : clients ≠ []) :
    scanIds clientNum i clients =
      if ∀ id ∈ idsOf clients, id ≤ (i : Int) + clients.length then clientNum else (i : Int) + clients.length := by
  induction clients generalizing clientNum i with
  | nil => exact absurd rfl some_client
  | cons client rest ih =>
      have first := above client.mClientId List.mem_cons_self
      obtain ⟨past, restSorted⟩ := sorted_ids_cons client rest sorted
      by_cases last : rest = []
      · subst last
        rw [scanIds, scanIds]
        by_cases same : client.mClientId = (i : Int) + 1
        · simp [idsOf, same]
        · have larger : ¬ client.mClientId ≤ (i : Int) + 1 := by omega
          simp [idsOf, same, larger]
      · have restAbove : ∀ id ∈ idsOf rest, ((i + 1 : Nat) : Int) < id := by
          intro id member
          have beyond := past id member
          push_cast
          omega
        have ends : ((i + 1 : Nat) : Int) + rest.length = (i : Int) + (client :: rest).length := by
          rw [List.length_cons]
          push_cast
          omega
        rw [scanIds, ih _ (i + 1) restSorted restAbove last, ends]
        by_cases within : ∀ id ∈ idsOf (client :: rest), id ≤ (i : Int) + (client :: rest).length
        · have restWithin : ∀ id ∈ idsOf rest, id ≤ (i : Int) + (client :: rest).length :=
            fun id member => within id (List.mem_cons_of_mem _ member)
          have inPlace : client.mClientId = (i : Int) + 1 := by
            by_contra other
            have allAbove : ∀ id ∈ idsOf (client :: rest), (i : Int) + 1 < id := by
              intro id member
              rcases (mem_ids_cons client rest id).mp member with same | later
              · omega
              · have beyond := past id later
                omega
            obtain ⟨id, member, large⟩ := ids_reach_past i (client :: rest) sorted allAbove some_client
            have small := within id member
            omega
          rw [if_pos restWithin, if_pos within, if_neg (not_not_intro inPlace)]
        · have restBeyond : ¬ ∀ id ∈ idsOf rest, id ≤ (i : Int) + (client :: rest).length := by
            intro restWithin
            apply within
            intro id member
            rcases (mem_ids_cons client rest id).mp member with same | later
            · obtain ⟨other, present⟩ := List.exists_mem_of_ne_nil rest last
              have beyond := past other.mClientId (List.mem_map_of_mem present)
              have small := restWithin other.mClientId (List.mem_map_of_mem present)
              omega
            · exact restWithin id later
          rw [if_neg restBeyond, if_neg within]

-- Every record carries the id it is filed under, and ids count from one.
def Numbered (clients : KeyedVector Int ScreenClient) : Prop :=
  ∀ entry ∈ clients.items, entry.2.mClientId = entry.1 ∧ 1 ≤ entry.1

theorem numbered_ids (clients : KeyedVector Int ScreenClient) (numbered : Numbered clients) :
    idsOf clients.values = clients.keys := by
  rw [idsOf, KeyedVector.values, KeyedVector.keys, List.map_map]
  exact List.map_congr_left fun entry member => (numbered entry member).1

def NoHole (clients : KeyedVector Int ScreenClient) : Prop := ∀ id ∈ clients.keys, id ≤ (clients.size : Int)

instance (clients : KeyedVector Int ScreenClient) : Decidable (NoHole clients) :=
  inferInstanceAs (Decidable (∀ id ∈ clients.keys, id ≤ (clients.size : Int)))

theorem next_client_id (clients : KeyedVector Int ScreenClient) (numbered : Numbered clients) :
    nextClientId clients = if NoHole clients then (clients.size : Int) + 1 else (clients.size : Int) := by
  rw [nextClientId]
  by_cases none : clients.size = 0
  · have noKeys : clients.keys = [] := List.length_eq_zero_iff.mp (clients.keys_length.trans none)
    have noHole : NoHole clients := by
      rw [NoHole, noKeys]
      nofun
    rw [if_pos none, if_pos noHole, none]
    rfl
  · have ids := numbered_ids clients numbered
    have some_client : clients.values ≠ [] := by
      intro empty
      exact none (clients.values_length.symm.trans (congrArg List.length empty))
    have above : ∀ id ∈ idsOf clients.values, ((0 : Nat) : Int) < id := by
      rw [ids]
      intro id member
      obtain ⟨entry, present, rfl⟩ := List.mem_map.mp member
      have positive := (numbered entry present).2
      omega
    have scanned := scan_ids_last (-1) 0 clients.values (ids ▸ clients.keys_sorted) above some_client
    rw [ids, clients.values_length, Nat.cast_zero, Int.zero_add] at scanned
    rw [if_neg none, scanned]
    by_cases noHole : NoHole clients
    · rw [if_pos noHole]
      exact if_pos (if_pos noHole)
    · rw [if_neg noHole]
      have size_scanned : (if ∀ id ∈ clients.keys, id ≤ (clients.size : Int) then (-1 : Int) else clients.size) =
          clients.size := if_neg noHole
      rw [size_scanned]
      exact if_neg (by omega)

theorem next_client_id_positive (clients : KeyedVector Int ScreenClient) (numbered : Numbered clients) :
    1 ≤ nextClientId clients := by
  rw [next_client_id clients numbered]
  by_cases noHole : NoHole clients
  · rw [if_pos noHole]
    omega
  · rw [if_neg noHole]
    have some_client : clients.size ≠ 0 := by
      intro none
      apply noHole
      rw [NoHole, List.length_eq_zero_iff.mp (clients.keys_length.trans none)]
      nofun
    omega

-- The number of clients is not the id of a live one, or no id is larger than it.
def ScanFinds (clients : KeyedVector Int ScreenClient) : Prop :=
  (clients.size : Int) ∉ clients.keys ∨ NoHole clients

instance (clients : KeyedVector Int ScreenClient) : Decidable (ScanFinds clients) :=
  inferInstanceAs (Decidable (_ ∨ _))

theorem next_client_id_fresh (clients : KeyedVector Int ScreenClient) (numbered : Numbered clients) :
    nextClientId clients ∉ clients.keys ↔ ScanFinds clients := by
  rw [next_client_id clients numbered, ScanFinds]
  by_cases noHole : NoHole clients
  · rw [if_pos noHole]
    refine iff_of_true (fun member => ?_) (.inr noHole)
    have bound := noHole _ member
    omega
  · rw [if_neg noHole]
    exact (or_iff_left noHole).symm

-- The id a successful init hands out.
def assigned (event : Event) : Option Int :=
  match event.call, event.payload with
  | .init .., .clientId id => if event.status = ok then some id else none
  | _, _ => none

-- An uninit ends only for a live id: valueFor aborts on any other.
def removed (event : Event) : Option Int :=
  match event.call with
  | .uninit clientId => some clientId
  | _ => none

def successfulInits : List Event → Nat
  | [] => 0
  | event :: log => successfulInits log + if (assigned event).isSome then 1 else 0

def liveUninits : List Event → Nat
  | [] => 0
  | event :: log => liveUninits log + if (removed event).isSome then 1 else 0

structure RegistrySound (s : System) (_ : Call) (next : System) : Prop where
  fresh : ∀ event ∈ next.log.head?, ∀ id, assigned event = some id → id ∉ s.manager.mClientList.keys
  kept : ∀ event ∈ next.log.head?, ∀ id client, s.manager.mClientList.valueFor id = some client →
    removed event ≠ some id → next.manager.mClientList.valueFor id = some client
  counted : next.manager.mClientList.size + liveUninits next.log = successfulInits next.log

def InitFindsId (s : System) : Call → Prop
  | .init _ _ _ _ dataType _ => Rejected s.manager dataType ∨ ScanFinds s.manager.mClientList
  | _ => True

instance (s : System) : (call : Call) → Decidable (InitFindsId s call)
  | .init _ _ _ _ dataType _ => inferInstanceAs (Decidable (Rejected s.manager dataType ∨ ScanFinds s.manager.mClientList))
  | .uninit _ | .setVideoCrop _ _ _ _ | .start _ _ | .stop _ | .readBuffer _ _ | .freeBuffer _ _ | .dataCallBack _ _ =>
      instDecidableTrue

structure Registered (s : System) : Prop where
  numbered : Numbered s.manager.mClientList
  counted : s.manager.mClientList.size + liveUninits s.log = successfulInits s.log

theorem powered_registered (boot : Boot) : Registered (powered boot) := ⟨nofun, rfl⟩

theorem unchanged_sound (s next : System) (call : Call) (event : Event) (registered : Registered s)
    (logged : next.log = event :: s.log) (same : next.manager.mClientList = s.manager.mClientList)
    (noId : assigned event = none) (noRemoval : removed event = none) :
    RegistrySound s call next ∧ Registered next := by
  have counted : next.manager.mClientList.size + liveUninits next.log = successfulInits next.log := by
    rw [logged, liveUninits, successfulInits, noRemoval, noId, same]
    exact registered.counted
  refine ⟨⟨?_, ?_, counted⟩, ⟨same ▸ registered.numbered, counted⟩⟩
  · rw [logged]
    intro event head id given
    cases head
    rw [noId] at given
    cases given
  · intro _ _ id client found _
    rw [same]
    exact found

theorem uninit_sound (s next : System) (clientId : Int) (registered : Registered s)
    (taken : step s (.uninit clientId) = some next) :
    RegistrySound s (.uninit clientId) next ∧ Registered next := by
  obtain ⟨outcome, done, rfl⟩ := step_cases s next _ taken
  obtain ⟨present, rfl⟩ := uninit_cases s.manager clientId outcome done
  have shrunk := s.manager.mClientList.size_remove clientId present
  have counted :
      (s.manager.mClientList.removeItem clientId).size + (liveUninits s.log + 1) = successfulInits s.log := by
    have before := registered.counted
    omega
  refine ⟨⟨?_, ?_, counted⟩, ⟨?_, counted⟩⟩
  · intro event head id given
    cases head
    cases given
  · intro event head id client found other
    cases head
    have different : id ≠ clientId := fun same => other (congrArg some same.symm)
    exact (s.manager.mClientList.value_for_remove_other clientId id different).trans found
  · intro entry member
    exact registered.numbered entry ((s.manager.mClientList.mem_items_remove clientId entry).mp member).1

theorem admitted_sound (s next : System) (call : Call) (event : Event) (client : ScreenClient)
    (registered : Registered s) (logged : next.log = event :: s.log)
    (given : assigned event = some (nextClientId s.manager.mClientList)) (noRemoval : removed event = none)
    (named : client.mClientId = nextClientId s.manager.mClientList)
    (added : next.manager.mClientList = s.manager.mClientList.add (nextClientId s.manager.mClientList) client)
    (found : ScanFinds s.manager.mClientList) : RegistrySound s call next ∧ Registered next := by
  have fresh := (next_client_id_fresh s.manager.mClientList registered.numbered).mpr found
  have counted : next.manager.mClientList.size + liveUninits next.log = successfulInits next.log := by
    have before := registered.counted
    rw [added, KeyedVector.size_add_fresh _ _ _ fresh, logged, liveUninits, successfulInits, given, noRemoval]
    simp only [Option.isSome_some, Option.isSome_none, if_true, Bool.false_eq_true, if_false]
    omega
  refine ⟨⟨?_, ?_, counted⟩, ⟨?_, counted⟩⟩
  · rw [logged]
    intro event head id chosen
    cases head
    cases Option.some.inj (given.symm.trans chosen)
    exact fresh
  · intro _ _ id client live _
    have different : id ≠ nextClientId s.manager.mClientList := by
      intro same
      exact fresh (same ▸ (s.manager.mClientList.mem_keys_iff id).mpr ⟨client, live⟩)
    rw [added, KeyedVector.value_for_add_other _ _ _ _ different]
    exact live
  · intro entry member
    rw [added] at member
    rcases (KeyedVector.mem_items_add _ _ _ entry).mp member with rfl | ⟨old, _⟩
    · exact ⟨named, next_client_id_positive _ registered.numbered⟩
    · exact registered.numbered entry old

theorem init_sound (s next : System) (width height sourceType framerate : Int) (dataType : DataType)
    (gbp : Option SurfaceResult) (call : Call) (isInit : call = .init width height sourceType framerate dataType gbp)
    (registered : Registered s) (taken : step s call = some next) :
    (RegistrySound s call next ↔ InitFindsId s call) ∧ (InitFindsId s call → Registered next) := by
  obtain ⟨outcome, done, rfl⟩ := step_cases s next call taken
  subst isInit
  rcases init_cases _ _ _ _ _ _ _ outcome done with ⟨rejected, failed, _, same⟩ | ⟨admitted, fine, given, _, _, added⟩
  · have noId : assigned (eventOf s.manager (.init width height sourceType framerate dataType gbp) outcome) = none := by
      have refused : outcome.status ≠ ok := by
        rw [failed]
        decide
      unfold assigned
      split
      · exact if_neg refused
      · rfl
    have sound := unchanged_sound s ⟨outcome.manager, _⟩ (.init width height sourceType framerate dataType gbp) _
      registered rfl (congrArg (fun m : ScreenManager => m.mClientList) same) noId rfl
    exact ⟨iff_of_true sound.1 (.inl rejected), fun _ => sound.2⟩
  · have chosen : assigned (eventOf s.manager (.init width height sourceType framerate dataType gbp) outcome) =
        some (nextClientId s.manager.mClientList) := by
      have ended :
          outcome = ⟨ok, .clientId (nextClientId s.manager.mClientList), outcome.commands, outcome.manager⟩ := by
        rw [← fine, ← given]
      rw [ended]
      rfl
    have sound := admitted_sound s ⟨outcome.manager, _⟩ (.init width height sourceType framerate dataType gbp) _
      (newClient s.manager width height framerate dataType) registered rfl chosen rfl rfl added
    refine ⟨⟨fun holds => .inr ?_, fun finds => (sound (finds.resolve_left admitted)).1⟩,
      fun finds => (sound (finds.resolve_left admitted)).2⟩
    exact (next_client_id_fresh s.manager.mClientList registered.numbered).mp (holds.fresh _ rfl _ chosen)

theorem registry_step (s next : System) (call : Call) (registered : Registered s) (taken : step s call = some next) :
    (RegistrySound s call next ↔ InitFindsId s call) ∧ (InitFindsId s call → Registered next) := by
  have other (same : next.manager.mClientList = s.manager.mClientList) (event : Event)
      (logged : next.log = event :: s.log) (noId : assigned event = none) (noRemoval : removed event = none)
      (always : InitFindsId s call) :
      (RegistrySound s call next ↔ InitFindsId s call) ∧ (InitFindsId s call → Registered next) := by
    have sound := unchanged_sound s next call event registered logged same noId noRemoval
    exact ⟨iff_of_true sound.1 always, fun _ => sound.2⟩
  cases call with
  | init width height sourceType framerate dataType gbp =>
      exact init_sound s next width height sourceType framerate dataType gbp _ rfl registered taken
  | uninit clientId =>
      have sound := uninit_sound s next clientId registered taken
      exact ⟨iff_of_true sound.1 trivial, fun _ => sound.2⟩
  | setVideoCrop | start | stop | readBuffer | freeBuffer | dataCallBack =>
      obtain ⟨outcome, done, rfl⟩ := step_cases s next _ taken
      exact other (clients_kept s.manager _ outcome done) _ rfl rfl rfl trivial

theorem registry_runs (s : System) (calls : List Call) (registered : Registered s) :
    Along step RegistrySound s calls ↔ Along step (fun s call _ => InitFindsId s call) s calls := by
  refine along_iff step Registered RegistrySound (fun s call _ => InitFindsId s call) ?_ ?_ s calls registered
  · intro s call next registered taken finds
    exact (registry_step s next call registered taken).2 finds
  · intro s call next registered taken
    exact (registry_step s next call registered taken).1

theorem registry_sound_iff (boot : Boot) (calls : List Call) :
    Along step RegistrySound (powered boot) calls ↔
      Along step (fun s call _ => InitFindsId s call) (powered boot) calls :=
  registry_runs (powered boot) calls (powered_registered boot)

def rawInit : Call := .init 1920 1080 0 30 .rawdata none

-- With clients 2 and 3 left, the last mismatch of the scan is position 2.
def displacing : List Call := [rawInit, rawInit, rawInit, .uninit 1, rawInit]

theorem live_client_displaced : ¬ Along step RegistrySound (powered sampleBoot) displacing := by
  intro sound
  have found := (registry_runs (powered sampleBoot) displacing (powered_registered sampleBoot)).mp sound
  revert found
  decide +kernel

end Droidlogic.Screen
