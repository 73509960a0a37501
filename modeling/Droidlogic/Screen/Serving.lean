import Droidlogic.Screen.System

set_option autoImplicit false

namespace Droidlogic.Screen

open Droidlogic.Lib

def Command.released : Command → Option Nat
  | .releaseBuffer bufPtr => some bufPtr
  | _ => none

def releasePtrs (commands : List Command) : List Nat := commands.filterMap Command.released

theorem release_ptrs_append (first second : List Command) :
    releasePtrs (first ++ second) = releasePtrs first ++ releasePtrs second := List.filterMap_append

-- How often the loop of the callback releases the buffer for one client.
def clientReleases (m : ScreenManager) (client : ScreenClient) : Nat :=
  match client.dataType with
  | .handle => if m.mClientList.size = 1 then 1 else 0
  | _ => if m.mCanvasClientExist = false then 1 else 0

def WindowFails (m : ScreenManager) (window : Dequeue) (client : ScreenClient) : Prop :=
  client.dataType = .handle ∧ (m.mANativeWindow.isNone = true ∨ window.ret ≠ 0 ∨ window.dest = false)

def AnyWindowFails (m : ScreenManager) (window : Nat → Dequeue) : Nat → List ScreenClient → Prop
  | _, [] => False
  | i, client :: rest => WindowFails m (window i) client ∨ AnyWindowFails m window (i + 1) rest

instance (m : ScreenManager) (window : Dequeue) (client : ScreenClient) : Decidable (WindowFails m window client) :=
  inferInstanceAs (Decidable (_ ∧ _))

instance decidableAnyWindowFails (m : ScreenManager) (window : Nat → Dequeue) :
    ∀ (i : Nat) (clients : List ScreenClient), Decidable (AnyWindowFails m window i clients)
  | _, [] => instDecidableFalse
  | i, client :: rest =>
      have : Decidable (AnyWindowFails m window (i + 1) rest) := decidableAnyWindowFails m window (i + 1) rest
      inferInstanceAs (Decidable (WindowFails m (window i) client ∨ AnyWindowFails m window (i + 1) rest))

theorem serve_client_cases (m : ScreenManager) (buffer : ScreenBuffer) (window : Dequeue) (rawQueue : List (List UInt8))
    (client : ScreenClient) (served : Served) (done : serveClient m buffer window rawQueue client = some served) :
    (WindowFails m window client ∧ served.status = badValue) ∨
      (¬ WindowFails m window client ∧ served.status = ok ∧
        releasePtrs served.commands = List.replicate (clientReleases m client) buffer.bufferMem) := by
  rcases serve_client_parts m buffer window rawQueue client served done with
    ⟨fails, status, _⟩ | ⟨goes, status, front, shape, commands⟩
  · exact .inl ⟨fails, status⟩
  · have windows : releasePtrs front = [] := by
      rcases shape with rfl | ⟨pixels, rfl⟩ <;> rfl
    have release (given : Prop) [Decidable given] :
        releasePtrs (if given then [.releaseBuffer buffer.bufferMem] else []) =
          List.replicate (if given then 1 else 0) buffer.bufferMem := by
      split <;> rfl
    refine .inr ⟨goes, status, ?_⟩
    rw [commands, release_ptrs_append, windows, List.nil_append, clientReleases]
    cases client.dataType with
    | handle => exact release _
    | rawdata => exact release _
    | canvas => exact release _

theorem serve_clients_cases (m : ScreenManager) (buffer : ScreenBuffer) (window : Nat → Dequeue)
    (clients : List ScreenClient) (i : Nat) (rawQueue : List (List UInt8)) (served : Served)
    (done : serveClients m buffer window i rawQueue clients = some served) :
    (AnyWindowFails m window i clients ∧ served.status = badValue) ∨
      (¬ AnyWindowFails m window i clients ∧ served.status = ok ∧
        releasePtrs served.commands =
          List.replicate (clients.map (clientReleases m)).sum buffer.bufferMem) := by
  induction clients generalizing i rawQueue served with
  | nil =>
      cases done
      exact .inr ⟨id, rfl, rfl⟩
  | cons client rest ih =>
      obtain ⟨first, one, done⟩ := Option.bind_eq_some_iff.mp done
      rcases serve_client_cases m buffer (window i) rawQueue client first one with
        ⟨fails, bad⟩ | ⟨works, fine, some_ptrs⟩
      · have refused : first.status ≠ ok := by
          rw [bad]
          decide
        rw [if_pos refused] at done
        cases done
        exact .inl ⟨.inl fails, bad⟩
      · rw [if_neg (not_not_intro fine)] at done
        obtain ⟨later, others, rfl⟩ := Option.map_eq_some_iff.mp done
        rcases ih (i + 1) first.rawQueue later others with ⟨fails, bad⟩ | ⟨allWork, laterFine, more_ptrs⟩
        · exact .inl ⟨.inr fails, bad⟩
        · refine .inr ⟨fun fails => fails.elim works allWork, laterFine, ?_⟩
          rw [release_ptrs_append, some_ptrs, more_ptrs, List.map_cons, List.sum_cons, List.replicate_append_replicate]

def handleClients (m : ScreenManager) : Nat := m.mClientList.values.countP fun client => client.dataType = .handle

def otherClients (m : ScreenManager) : Nat := m.mClientList.values.countP fun client => ¬ client.dataType = .handle

theorem sum_client_releases (m : ScreenManager) (clients : List ScreenClient) :
    (clients.map (clientReleases m)).sum =
      (if m.mClientList.size = 1 then clients.countP fun client => client.dataType = .handle else 0) +
        (if m.mCanvasClientExist = false then clients.countP fun client => ¬ client.dataType = .handle else 0) := by
  induction clients with
  | nil => simp
  | cons client rest ih =>
      rw [List.map_cons, List.sum_cons, ih, List.countP_cons, List.countP_cons, clientReleases]
      cases client.dataType with
      | handle =>
          by_cases sole : m.mClientList.size = 1
          · simp [sole]
            omega
          · simp [sole]
      | rawdata | canvas =>
          by_cases noCanvas : m.mCanvasClientExist = false
          · simp [noCanvas]
            omega
          · simp [noCanvas]

theorem clients_counted (m : ScreenManager) :
    handleClients m + otherClients m = m.mClientList.size ∧ (canvasClients m).length ≤ otherClients m := by
  constructor
  · rw [handleClients, otherClients, ← m.mClientList.values_length, List.length_eq_countP_add_countP
      (fun client : ScreenClient => decide (client.dataType = .handle))]
    simp
  · rw [canvasClients, ← List.countP_eq_length_filter, otherClients]
    refine List.countP_mono_left fun client _ canvas => ?_
    have kind := of_decide_eq_true canvas
    simp [kind]

-- The conditions under which a callback gives its buffer to the device or the queue once.
def GivesBackOnce (m : ScreenManager) : Prop :=
  Running m ∧
    ((m.mClientList.size = 1 ∧ handleClients m = 1) ∨
      (m.mCanvasClientExist = false ∧ otherClients m = 1) ∨
      (m.mCanvasClientExist = true ∧ (canvasClients m).length = 1))

instance (m : ScreenManager) : Decidable (Running m) := inferInstanceAs (Decidable (_ ∧ _))

instance (m : ScreenManager) : Decidable (GivesBackOnce m) := inferInstanceAs (Decidable (_ ∧ _))

def releaseCount (m : ScreenManager) : Nat := (m.mClientList.values.map (clientReleases m)).sum

def queueCount (m : ScreenManager) : Nat := if m.mCanvasClientExist then (canvasClients m).length else 0

theorem gives_back_once_iff (m : ScreenManager) (running : Running m) :
    GivesBackOnce m ↔ (releaseCount m = 1 ∧ queueCount m = 0) ∨ (releaseCount m = 0 ∧ queueCount m = 1) := by
  obtain ⟨all, canvas⟩ := clients_counted m
  have released : releaseCount m =
      (if m.mClientList.size = 1 then handleClients m else 0) +
        (if m.mCanvasClientExist = false then otherClients m else 0) := sum_client_releases m _
  rw [GivesBackOnce, released, queueCount]
  cases flag : m.mCanvasClientExist with
  | false =>
      by_cases sole : m.mClientList.size = 1
      · simp [running, sole]
        omega
      · simp [running, sole]
  | true =>
      by_cases sole : m.mClientList.size = 1
      · simp [running, sole, -List.length_eq_zero_iff]
        omega
      · simp [running, sole]

theorem queue_frames_count (m : ScreenManager) (buffer : ScreenBuffer) :
    queueFrames m buffer = m.mCanvasFramesReceived ++ List.replicate (queueCount m) (frameOf buffer) := by
  rw [queueFrames, queueCount]
  cases m.mCanvasClientExist with
  | false => simp
  | true => simp [List.map_const']

end Droidlogic.Screen
