import Droidlogic.Screen.System

set_option autoImplicit false

namespace Droidlogic.Screen

open Droidlogic.Lib

def startedAfter (event : Event) (started : List Int) : List Int :=
  match event.call with
  | .start clientId _ => if event.status = ok then clientId :: started else started
  | .stop clientId => started.filter (· ≠ clientId)
  | .uninit clientId => started.filter (· ≠ clientId)
  | _ => started

-- The registered clients whose last start has not been followed by a stop.
def startedClients : List Event → List Int
  | [] => []
  | event :: log => startedAfter event (startedClients log)

def openAfter (isOpen : Bool) : List Command → Bool
  | [] => isOpen
  | .openDevice _ opened :: rest => openAfter (isOpen || opened) rest
  | .closeDevice :: rest => openAfter false rest
  | _ :: rest => openAfter isOpen rest

def deviceOpen : List Event → Bool
  | [] => false
  | event :: log => openAfter (deviceOpen log) event.commands

def OpensDevice (commands : List Command) : Prop := ∃ sourceType, Command.openDevice sourceType true ∈ commands

structure LifetimeSound (s : System) (_ : Call) (next : System) : Prop where
  stopped : startedClients next.log = [] → next.manager.mStarted = false
  opensOnce : ∀ event ∈ next.log.head?, OpensDevice event.commands →
    ¬ (deviceOpen s.log = true ∧ s.manager.mStarted = true)

def HalOpens (m : ScreenManager) (hal : Hal) : Prop :=
  hal.moduleFound = true ∧ (portType m.mSourceType hal.productValue).isSome = true ∧ hal.opened = true

def StartedWithout (s : System) (clientId : Int) : List Int := (startedClients s.log).filter (· ≠ clientId)

-- No start that would open finds the device open and started, and the last started
-- client stops as the only registered one and before its uninit.
def KeepsLifetime (s : System) : Call → Prop
  | .start _ hal =>
      ¬ (deviceOpen s.log = true ∧ s.manager.mStarted = true ∧ Opens s.manager ∧ HalOpens s.manager hal)
  | .stop clientId =>
      s.manager.mClientList.size = 1 ∨ s.manager.mStarted = false ∨ StartedWithout s clientId ≠ []
  | .uninit clientId => s.manager.mStarted = false ∨ StartedWithout s clientId ≠ []
  | _ => True

instance (s : System) (call : Call) : Decidable (KeepsLifetime s call) := by
  cases call with
  | start clientId hal =>
      exact inferInstanceAs (Decidable (¬ (_ ∧ _ ∧ _ ∧ (hal.moduleFound = true ∧ _ ∧ _))))
  | stop clientId => exact inferInstanceAs (Decidable (_ ∨ _ ∨ _))
  | uninit clientId => exact inferInstanceAs (Decidable (_ ∨ _))
  | _ => exact instDecidableTrue

theorem quiet_opens_nothing (commands : List Command) (quiet : Quiet commands) : ¬ OpensDevice commands := by
  rintro ⟨sourceType, member⟩
  exact Bool.noConfusion (quiet _ member)

theorem opening_opens_iff (m : ScreenManager) (hal : Hal) :
    OpensDevice (opening m hal).commands ↔ Opens m ∧ HalOpens m hal := by
  rw [HalOpens]
  rcases opening_cases m hal with
    ⟨closed, same⟩ | ⟨missing, same⟩ | ⟨refused, same⟩ | ⟨failed, same⟩ | ⟨port, opens, found, typed, opened, same⟩
  · simp [same, closed, OpensDevice]
  · simp [same, missing, OpensDevice]
  · simp [same, refused, OpensDevice]
  · simp [same, failed, OpensDevice]
  · simp [same, opens, found, typed, opened, OpensDevice]

theorem clearing_started (m : ScreenManager) :
    (clearing m).2.mStarted = if m.mClientList.size = 1 then false else m.mStarted := by
  rcases clearing_cases m with ⟨sole, _, cleared⟩ | ⟨other, same⟩
  · exact (congrArg (·.2.mStarted) cleared).trans (if_pos sole).symm
  · rw [same]
    by_cases sole : m.mClientList.size = 1
    · rw [if_pos sole]
      exact Bool.eq_false_of_not_eq_true fun started => other ⟨sole, started⟩
    · rw [if_neg sole]

theorem clearing_opens_nothing (m : ScreenManager) : ¬ OpensDevice (clearing m).1 := by
  rcases clearing_cases m with ⟨_, _, cleared⟩ | ⟨_, same⟩
  · rw [cleared]
    cases m.mScreenDev <;> simp [OpensDevice]
  · rw [same]
    simp [OpensDevice]

def Settled (s : System) : Prop := startedClients s.log = [] → s.manager.mStarted = false

theorem lifetime_kept (s next : System) (call : Call) (event : Event) (settled : Settled s)
    (logged : next.log = event :: s.log) (same : next.manager.mStarted = s.manager.mStarted)
    (sameClients : startedAfter event (startedClients s.log) = startedClients s.log)
    (opensNothing : ¬ OpensDevice event.commands) : LifetimeSound s call next := by
  constructor
  · rw [logged, startedClients, sameClients, same]
    exact settled
  · rw [logged]
    intro other head opens
    cases head
    exact absurd opens opensNothing

theorem start_lifetime (s next : System) (clientId : Int) (hal : Hal) (settled : Settled s)
    (taken : step s (.start clientId hal) = some next) :
    LifetimeSound s (.start clientId hal) next ↔ KeepsLifetime s (.start clientId hal) := by
  obtain ⟨outcome, done, rfl⟩ := step_cases s next _ taken
  have commands : outcome.commands = (opening s.manager hal).commands := by
    rcases start_cases s.manager clientId hal outcome done with ⟨_, rfl⟩ | ⟨_, client, _, rfl⟩ <;> rfl
  have opens_iff : OpensDevice outcome.commands ↔ Opens s.manager ∧ HalOpens s.manager hal := by
    rw [commands]
    exact opening_opens_iff s.manager hal
  have stopped : startedClients (eventOf s.manager (.start clientId hal) outcome :: s.log) = [] →
      outcome.manager.mStarted = false := by
    rcases start_cases s.manager clientId hal outcome done with ⟨_, rfl⟩ | ⟨_, client, _, rfl⟩
    · intro noneStarted
      exact (opening_same s.manager hal).2.1.trans (settled noneStarted)
    · intro noneStarted
      cases noneStarted
  constructor
  · intro sound ⟨isOpen, started, opens, halOpens⟩
    exact sound.opensOnce _ rfl (opens_iff.mpr ⟨opens, halOpens⟩) ⟨isOpen, started⟩
  · intro keeps
    refine ⟨stopped, fun event head opens running => ?_⟩
    cases head
    exact keeps ⟨running.1, running.2, opens_iff.mp opens⟩

theorem stop_lifetime (s next : System) (clientId : Int) (taken : step s (.stop clientId) = some next) :
    LifetimeSound s (.stop clientId) next ↔ KeepsLifetime s (.stop clientId) := by
  obtain ⟨outcome, done, rfl⟩ := step_cases s next _ taken
  obtain ⟨client, _, rfl⟩ := stop_cases s.manager clientId outcome done
  have started := clearing_started s.manager
  constructor
  · intro sound
    by_contra breaks
    rw [KeepsLifetime, not_or, not_or, not_not] at breaks
    obtain ⟨others, running, noneLeft⟩ := breaks
    rw [if_neg others] at started
    exact running (started.symm.trans (sound.stopped noneLeft))
  · intro keeps
    refine ⟨fun noneLeft => started.trans ?_, fun event head opens => ?_⟩
    · rcases keeps with sole | idle | others
      · exact if_pos sole
      · rw [idle]
        exact ite_self false
      · exact absurd noneLeft others
    · cases head
      exact absurd opens (clearing_opens_nothing s.manager)

theorem uninit_lifetime (s next : System) (clientId : Int) (taken : step s (.uninit clientId) = some next) :
    LifetimeSound s (.uninit clientId) next ↔ KeepsLifetime s (.uninit clientId) := by
  obtain ⟨outcome, done, rfl⟩ := step_cases s next _ taken
  obtain ⟨_, rfl⟩ := uninit_cases s.manager clientId outcome done
  constructor
  · intro sound
    by_cases noneLeft : StartedWithout s clientId = []
    · exact .inl (sound.stopped noneLeft)
    · exact .inr noneLeft
  · intro keeps
    refine ⟨fun noneLeft => keeps.resolve_right (not_not_intro noneLeft), fun event head opens => ?_⟩
    cases head
    exact absurd opens (quiet_opens_nothing [] nofun)

theorem lifetime_step (s next : System) (call : Call) (settled : Settled s) (taken : step s call = some next) :
    LifetimeSound s call next ↔ KeepsLifetime s call := by
  cases call with
  | init width height sourceType framerate dataType gbp =>
      obtain ⟨outcome, done, rfl⟩ := step_cases s next _ taken
      have untouched : outcome.commands = [] ∧ outcome.manager.mStarted = s.manager.mStarted := by
        rcases init_cases _ _ _ _ _ _ _ outcome done with ⟨_, _, quiet, same⟩ | ⟨_, _, _, quiet, same, _⟩
        · exact ⟨quiet, congrArg (·.mStarted) same⟩
        · exact ⟨quiet, congrArg (·.mStarted) same⟩
      refine iff_of_true (lifetime_kept s _ _ _ settled rfl untouched.2 rfl (quiet_opens_nothing _ ?_)) trivial
      rw [eventOf, untouched.1]
      nofun
  | uninit clientId => exact uninit_lifetime s next clientId taken
  | setVideoCrop x y width height =>
      obtain ⟨outcome, done, rfl⟩ := step_cases s next _ taken
      cases done
      exact iff_of_true (lifetime_kept s _ _ _ settled rfl rfl rfl (quiet_opens_nothing _ nofun)) trivial
  | start clientId hal => exact start_lifetime s next clientId hal settled taken
  | stop clientId => exact stop_lifetime s next clientId taken
  | readBuffer clientId buffer =>
      obtain ⟨outcome, done, rfl⟩ := step_cases s next _ taken
      obtain ⟨quiet, _, same, _⟩ := read_buffer_cases s.manager clientId buffer outcome done
      refine iff_of_true (lifetime_kept s _ _ _ settled rfl (congrArg (·.mStarted) same) rfl
        (quiet_opens_nothing _ ?_)) trivial
      rw [eventOf, quiet]
      nofun
  | freeBuffer clientId buffer =>
      obtain ⟨outcome, done, rfl⟩ := step_cases s next _ taken
      obtain ⟨_, same, action⟩ := free_buffer_cases s.manager clientId buffer outcome done
      refine iff_of_true (lifetime_kept s _ _ _ settled rfl (congrArg (·.mStarted) same) rfl
        (quiet_opens_nothing _ ?_)) trivial
      rcases action with ⟨_, info, _, release⟩ | ⟨_, none_given⟩
      · rw [eventOf, release]
        intro command member
        cases List.mem_singleton.mp member
        rfl
      · rw [eventOf, none_given]
        nofun
  | dataCallBack buffer window =>
      obtain ⟨outcome, done, rfl⟩ := step_cases s next _ taken
      obtain ⟨quiet, _, same, _⟩ := data_call_back_cases s.manager buffer window outcome done
      exact iff_of_true (lifetime_kept s _ _ _ settled rfl (congrArg (·.mStarted) same) rfl
        (quiet_opens_nothing _ quiet)) trivial

theorem lifetime_runs (s : System) (calls : List Call) (settled : Settled s) :
    Along step LifetimeSound s calls ↔ Along step (fun s call _ => KeepsLifetime s call) s calls := by
  refine along_iff step Settled LifetimeSound (fun s call _ => KeepsLifetime s call) ?_ ?_ s calls settled
  · intro s call next settled taken keeps
    exact ((lifetime_step s next call settled taken).mpr keeps).stopped
  · intro s call next settled taken
    exact lifetime_step s next call settled taken

theorem device_lifetime_iff (boot : Boot) (calls : List Call) :
    Along step LifetimeSound (powered boot) calls ↔
      Along step (fun s call _ => KeepsLifetime s call) (powered boot) calls :=
  lifetime_runs (powered boot) calls fun _ => rfl

-- The only started client stops while a second one is registered.
def leftRunning : List Call :=
  [.init 2 2 0 30 .rawdata none, .init 2 2 0 30 .rawdata none, .start 1 sampleHal, .stop 1]

theorem device_left_running : ¬ Along step LifetimeSound (powered sampleBoot) leftRunning := by
  intro sound
  have keeps := (lifetime_runs (powered sampleBoot) leftRunning fun _ => rfl).mp sound
  revert keeps
  decide +kernel

end Droidlogic.Screen
