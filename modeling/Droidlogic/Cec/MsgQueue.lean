import Mathlib.Data.List.Nodup
import Droidlogic.Lib.Run
import Droidlogic.Lib.DueQueue

set_option autoImplicit false

namespace Droidlogic.Cec.MsgQueue

open Lib

-- Times are milliseconds.
structure CMessage where
  mDelayMs : Nat
  mWhenMs : Nat
  mType : Nat
  mpPara : Fin 5120 → UInt8

-- A call of sendMsg and the message as it was queued.
structure Entry where
  id : Nat
  msg : CMessage

def Entry.due (entry : Entry) : Nat := entry.msg.mWhenMs

-- Where threadLoop stands, between its lock regions.
inductive Pc
  | idle
  | size
  | peek
  | delay (msg : CMessage)
  | sleep
  | last
  | take
  | handle (entry : Entry)
  | wild

structure State where
  now : Nat
  queue : List Entry
  pc : Pc
  sent : List Entry
  -- Each message taken, with what stayed in the queue.
  taken : List (Entry × List Entry)
  -- Each message given to handleMessage, with the time.
  handed : List (Entry × Nat)
  -- The messages that were queued when a call removed their type or everything.
  removed : List Nat

def start : State := ⟨0, [], .idle, [], [], [], []⟩

inductive Input
  | tick (ms : Nat)
  | sendMsg (msg : CMessage)
  | removeMsg (mType : Nat)
  | clearMsg
  | thread

def hasType (mType : Nat) (entry : Entry) : Bool := entry.msg.mType = mType

def sendMsg (s : State) (msg : CMessage) : State :=
  let entry : Entry := ⟨s.sent.length, { msg with mWhenMs := s.now + msg.mDelayMs }⟩
  { s with queue := DueQueue.insert Entry.due entry s.queue, sent := s.sent ++ [entry] }

def removeMsg (s : State) (mType : Nat) : State :=
  { s with
    queue := DueQueue.removeEach (hasType mType) s.queue
    removed := (s.queue.filter (hasType mType)).map Entry.id ++ s.removed }

def clearMsg (s : State) : State := { s with queue := [], removed := s.queue.map Entry.id ++ s.removed }

-- wild is where element 0 of an empty queue has been used. The waits can end at any time.
def threadStep (s : State) : Option State :=
  match s.pc, s.queue with
  | .idle, [] => some s
  | .idle, _ :: _ => some { s with pc := .size }
  | .size, [] => some { s with pc := .last }
  | .size, _ :: _ => some { s with pc := .peek }
  | .peek, [] => some { s with pc := .wild }
  | .peek, head :: _ => some { s with pc := .delay head.msg }
  | .delay msg, _ => some { s with pc := if s.now < msg.mWhenMs then .sleep else .last }
  | .sleep, _ => some { s with pc := .size }
  | .last, [] => some { s with pc := .idle }
  | .last, _ :: _ => some { s with pc := .take }
  | .take, [] => some { s with pc := .wild }
  | .take, head :: rest => some { s with queue := rest, pc := .handle head, taken := (head, rest) :: s.taken }
  | .handle entry, _ => some { s with pc := .idle, handed := (entry, s.now) :: s.handed }
  | .wild, _ => none

def step (s : State) : Input → Option State
  | .tick ms => some { s with now := s.now + ms }
  | .sendMsg msg => some (sendMsg s msg)
  | .removeMsg mType => some (removeMsg s mType)
  | .clearMsg => some (clearMsg s)
  | .thread => threadStep s

def First (entry other : Entry) : Prop := DueQueue.Before Entry.due Entry.id entry other

structure Sound (s : State) : Prop where
  fromSent : ∀ pair ∈ s.handed, pair.1 ∈ s.sent
  once : (s.handed.map fun pair => pair.1.id).Nodup
  reached : ∀ pair ∈ s.handed, pair.1.due ≤ pair.2
  gone : ∀ pair ∈ s.handed, pair.1.id ∉ s.removed
  first : ∀ pair ∈ s.taken, ∀ other ∈ pair.2, First pair.1 other
  present : s.pc ≠ .wild

-- What a test of the thread has found and the thread goes on from without the lock.
def Found (now : Nat) (queue : List Entry) : Pc → Prop
  | .peek => queue ≠ []
  | .delay msg => ∀ head ∈ queue.head?, head.due ≤ msg.mWhenMs
  | .last => ∀ head ∈ queue.head?, head.due ≤ now
  | .take => queue ≠ [] ∧ ∀ head ∈ queue.head?, head.due ≤ now
  | _ => True

-- The calls leave what the thread has found as it was, and a removal meets no two
-- messages of its type side by side.
def Guard (s : State) : Input → Prop
  | .sendMsg msg => Found s.now (sendMsg s msg).queue s.pc
  | .removeMsg mType =>
      DueQueue.NoNeighbours (hasType mType) s.queue ∧ Found s.now (removeMsg s mType).queue s.pc
  | .clearMsg => Found s.now [] s.pc
  | _ => True

def flight : Pc → List Entry
  | .handle entry => [entry]
  | _ => []

-- Every message that is not removed, in one place each.
def places (s : State) : List Entry := s.queue ++ (flight s.pc ++ s.handed.map Prod.fst)

structure Inv (s : State) : Prop where
  found : Found s.now s.queue s.pc
  ordered : s.queue.Pairwise First
  flying : ∀ entry ∈ flight s.pc, entry.due ≤ s.now
  fromSent : ∀ entry ∈ places s, entry ∈ s.sent
  once : ((places s).map Entry.id).Nodup
  young : ∀ entry ∈ s.sent, entry.id < s.sent.length
  gone : ∀ entry ∈ places s, entry.id ∉ s.removed
  removed : ∀ id ∈ s.removed, id < s.sent.length
  reached : ∀ pair ∈ s.handed, pair.1.due ≤ pair.2
  first : ∀ pair ∈ s.taken, ∀ other ∈ pair.2, First pair.1 other
  present : s.pc ≠ .wild

theorem found_later (now ms : Nat) (queue : List Entry) (pc : Pc) (found : Found now queue pc) :
    Found (now + ms) queue pc := by
  cases pc with
  | last => exact fun head front => Nat.le_add_right_of_le (found head front)
  | take => exact ⟨found.1, fun head front => Nat.le_add_right_of_le (found.2 head front)⟩
  | peek => exact found
  | delay msg => exact found
  | idle => trivial
  | size => trivial
  | sleep => trivial
  | handle entry => trivial
  | wild => trivial

theorem tick_inv (s : State) (ms : Nat) (inv : Inv s) : Inv { s with now := s.now + ms } :=
  { inv with
    found := found_later s.now ms s.queue s.pc inv.found
    flying := fun entry inside => Nat.le_add_right_of_le (inv.flying entry inside) }

theorem send_inv (s : State) (msg : CMessage) (inv : Inv s) (found : Found s.now (sendMsg s msg).queue s.pc) :
    Inv (sendMsg s msg) := by
  let entry : Entry := ⟨s.sent.length, { msg with mWhenMs := s.now + msg.mDelayMs }⟩
  have all : (places (sendMsg s msg)).Perm (entry :: places s) :=
    (DueQueue.insert_perm Entry.due entry s.queue).append_right _
  have old (other : Entry) (inside : other ∈ places s) : other.id < s.sent.length :=
    inv.young other (inv.fromSent other inside)
  have longer : (sendMsg s msg).sent.length = s.sent.length + 1 := List.length_append
  constructor
  · exact found
  · exact DueQueue.insert_ordered Entry.due Entry.id entry s.queue inv.ordered fun other inside =>
      old other (List.mem_append_left _ inside)
  · exact inv.flying
  · intro other inside
    rcases List.mem_cons.mp (all.mem_iff.mp inside) with rfl | before
    · exact List.mem_append_right _ (.head _)
    · exact List.mem_append_left _ (inv.fromSent other before)
  · refine (all.map Entry.id).nodup_iff.mpr (List.nodup_cons.mpr ⟨fun member => ?_, inv.once⟩)
    obtain ⟨other, inside, same⟩ := List.mem_map.mp member
    exact absurd same (Nat.ne_of_lt (old other inside))
  · intro other inside
    rw [longer]
    rcases List.mem_append.mp inside with before | only
    · exact Nat.lt_succ_of_lt (inv.young other before)
    · cases List.mem_singleton.mp only
      exact Nat.lt_succ_self _
  · intro other inside
    rcases List.mem_cons.mp (all.mem_iff.mp inside) with rfl | before
    · exact fun member => Nat.lt_irrefl _ (inv.removed _ member)
    · exact inv.gone other before
  · exact fun id member => longer ▸ Nat.lt_succ_of_lt (inv.removed id member)
  · exact inv.reached
  · exact inv.first
  · exact inv.present

-- A removal that takes away all the messages that it marks.
theorem drop_inv (s : State) (marked : Entry → Bool) (inv : Inv s)
    (found : Found s.now (s.queue.filter fun entry => !marked entry) s.pc) :
    Inv { s with
      queue := s.queue.filter fun entry => !marked entry
      removed := (s.queue.filter marked).map Entry.id ++ s.removed } := by
  have kept : (s.queue.filter fun entry => !marked entry).Sublist s.queue := List.filter_sublist
  have fewer := kept.append_right (flight s.pc ++ s.handed.map Prod.fst)
  have apart := List.nodup_append.mp (List.map_append ▸ inv.once)
  constructor
  · exact found
  · exact inv.ordered.sublist kept
  · exact inv.flying
  · exact fun other inside => inv.fromSent other (fewer.subset inside)
  · exact inv.once.sublist (fewer.map Entry.id)
  · exact inv.young
  · intro other inside member
    rcases List.mem_append.mp member with now | before
    · obtain ⟨gone, hit, same⟩ := List.mem_map.mp now
      obtain ⟨queued, marks⟩ := List.mem_filter.mp hit
      rcases List.mem_append.mp inside with stays | elsewhere
      · obtain ⟨also, unmarked⟩ := List.mem_filter.mp stays
        cases List.inj_on_of_nodup_map apart.1 queued also same
        rw [marks] at unmarked
        cases unmarked
      · exact apart.2.2 gone.id (List.mem_map_of_mem queued) other.id (List.mem_map_of_mem elsewhere) same
    · exact inv.gone other (fewer.subset inside) before
  · intro id member
    rcases List.mem_append.mp member with now | before
    · obtain ⟨gone, hit, rfl⟩ := List.mem_map.mp now
      exact inv.young gone (inv.fromSent gone (List.mem_append_left _ (List.mem_filter.mp hit).1))
    · exact inv.removed id before
  · exact inv.reached
  · exact inv.first
  · exact inv.present

theorem remove_inv (s : State) (mType : Nat) (inv : Inv s) (apart : DueQueue.NoNeighbours (hasType mType) s.queue)
    (found : Found s.now (removeMsg s mType).queue s.pc) : Inv (removeMsg s mType) := by
  have filtered := DueQueue.remove_each_filter (hasType mType) s.queue apart
  rw [removeMsg, filtered] at found ⊢
  exact drop_inv s (hasType mType) inv found

theorem clear_inv (s : State) (inv : Inv s) (found : Found s.now [] s.pc) : Inv (clearMsg s) := by
  have none : (s.queue.filter fun entry => !(fun _ => true) entry) = [] := List.filter_eq_nil_iff.mpr fun _ _ => nofun
  have all : s.queue.filter (fun _ => true) = s.queue := List.filter_eq_self.mpr fun _ _ => rfl
  have dropped := drop_inv s (fun _ => true) inv (none ▸ found)
  rw [none, all] at dropped
  exact dropped

theorem pc_inv (s : State) (pc : Pc) (inv : Inv s) (before : flight s.pc = []) (after : flight pc = [])
    (found : Found s.now s.queue pc) (present : pc ≠ .wild) : Inv { s with pc := pc } := by
  have same : places { s with pc := pc } = places s := by
    rw [places, places, before, after]
  exact
    { inv with
      found := found
      flying := fun entry inside => absurd inside (after ▸ List.not_mem_nil)
      fromSent := same ▸ inv.fromSent
      once := same ▸ inv.once
      gone := same ▸ inv.gone
      present := present }

theorem take_inv (s : State) (head : Entry) (rest : List Entry) (inv : Inv s) (pc : s.pc = .take)
    (front : s.queue = head :: rest) :
    Inv { s with queue := rest, pc := .handle head, taken := (head, rest) :: s.taken } := by
  have found : Found s.now s.queue .take := pc ▸ inv.found
  have before : places s = head :: rest ++ s.handed.map Prod.fst := by
    rw [places, pc, front]
    rfl
  have moved : (rest ++ ([head] ++ s.handed.map Prod.fst)).Perm (places s) := by
    rw [before]
    exact List.perm_middle
  obtain ⟨least, ordered⟩ := List.pairwise_cons.mp (front ▸ inv.ordered)
  exact
    { inv with
      found := trivial
      ordered := ordered
      flying := fun entry inside => List.mem_singleton.mp inside ▸ found.2 head (front ▸ rfl)
      fromSent := fun entry inside => inv.fromSent entry (moved.mem_iff.mp inside)
      once := (moved.map Entry.id).nodup_iff.mpr inv.once
      gone := fun entry inside => inv.gone entry (moved.mem_iff.mp inside)
      first := List.forall_mem_cons.mpr ⟨least, inv.first⟩
      present := nofun }

theorem handle_inv (s : State) (entry : Entry) (inv : Inv s) (pc : s.pc = .handle entry) :
    Inv { s with pc := .idle, handed := (entry, s.now) :: s.handed } := by
  have same : places { s with pc := .idle, handed := (entry, s.now) :: s.handed } = places s := by
    rw [places, places, pc]
    rfl
  have due := inv.flying entry (pc ▸ .head _)
  exact
    { inv with
      found := trivial
      flying := nofun
      fromSent := same ▸ inv.fromSent
      once := same ▸ inv.once
      gone := same ▸ inv.gone
      reached := List.forall_mem_cons.mpr ⟨due, inv.reached⟩
      present := nofun }

theorem thread_inv (s next : State) (inv : Inv s) (taken : threadStep s = some next) : Inv next := by
  rw [threadStep] at taken
  split at taken
  all_goals cases taken
  · exact inv
  · rename_i pc _
    exact pc_inv s .size inv (pc ▸ rfl) rfl trivial nofun
  · rename_i pc empty
    exact pc_inv s .last inv (pc ▸ rfl) rfl (empty ▸ nofun) nofun
  · rename_i pc front
    exact pc_inv s .peek inv (pc ▸ rfl) rfl (front ▸ nofun) nofun
  · rename_i pc empty
    have found : Found s.now s.queue .peek := pc ▸ inv.found
    exact absurd empty found
  · rename_i head rest pc front
    refine pc_inv s (.delay head.msg) inv (pc ▸ rfl) rfl (fun other first => ?_) nofun
    rw [front] at first
    cases first
    exact Nat.le_refl _
  · rename_i msg pc
    have found : Found s.now s.queue (.delay msg) := pc ▸ inv.found
    by_cases wait : s.now < msg.mWhenMs
    · rw [if_pos wait]
      exact pc_inv s .sleep inv (pc ▸ rfl) rfl trivial nofun
    · rw [if_neg wait]
      exact pc_inv s .last inv (pc ▸ rfl) rfl (fun head front => (found head front).trans (Nat.le_of_not_lt wait)) nofun
  · rename_i pc
    exact pc_inv s .size inv (pc ▸ rfl) rfl trivial nofun
  · rename_i pc _
    exact pc_inv s .idle inv (pc ▸ rfl) rfl trivial nofun
  · rename_i pc front
    have found : Found s.now s.queue .last := pc ▸ inv.found
    exact pc_inv s .take inv (pc ▸ rfl) rfl ⟨front ▸ nofun, found⟩ nofun
  · rename_i pc empty
    have found : Found s.now s.queue .take := pc ▸ inv.found
    exact absurd empty found.1
  · rename_i head rest pc front
    exact take_inv s head rest inv pc front
  · rename_i entry pc
    exact handle_inv s entry inv pc

theorem step_inv (s : State) (input : Input) (next : State) (inv : Inv s) (guard : Guard s input)
    (taken : step s input = some next) : Inv next := by
  cases input with
  | tick ms =>
      cases taken
      exact tick_inv s ms inv
  | sendMsg msg =>
      cases taken
      exact send_inv s msg inv guard
  | removeMsg mType =>
      cases taken
      exact remove_inv s mType inv guard.1 guard.2
  | clearMsg =>
      cases taken
      exact clear_inv s inv guard
  | thread => exact thread_inv s next inv taken

-- The thread's steps bring no message to the queue or to the hand-over.
theorem thread_waiting (s next : State) (taken : threadStep s = some next) :
    next.queue ++ flight next.pc ⊆ s.queue ++ flight s.pc := by
  have stays (pc : Pc) (none : flight pc = []) : s.queue ++ flight pc ⊆ s.queue ++ flight s.pc := by
    rw [none, List.append_nil]
    exact List.subset_append_left _ _
  rw [threadStep] at taken
  split at taken
  all_goals cases taken
  case h_1 => exact List.Subset.refl _
  case h_7 msg pc =>
    refine stays _ ?_
    split
    · rfl
    · rfl
  case h_12 head rest pc front =>
    rw [front]
    intro entry inside
    rcases List.mem_append.mp inside with later | flying
    · exact .tail _ (List.mem_append_left _ later)
    · exact List.mem_singleton.mp flying ▸ .head _
  all_goals exact stays _ rfl

theorem start_inv : Inv start where
  found := trivial
  ordered := .nil
  flying := nofun
  fromSent := nofun
  once := List.nodup_nil
  young := nofun
  gone := nofun
  removed := nofun
  reached := nofun
  first := nofun
  present := nofun

theorem inv_sound (s : State) (inv : Inv s) : Sound s := by
  have place (pair : Entry × Nat) (member : pair ∈ s.handed) : pair.1 ∈ places s :=
    List.mem_append_right _ (List.mem_append_right _ (List.mem_map_of_mem member))
  have handed : (s.handed.map Prod.fst).Sublist (places s) :=
    (List.sublist_append_right _ _).trans (List.sublist_append_right _ _)
  have once := inv.once.sublist (handed.map Entry.id)
  rw [List.map_map] at once
  exact ⟨fun pair member => inv.fromSent _ (place pair member), once, inv.reached,
    fun pair member => inv.gone _ (place pair member), inv.first, inv.present⟩

theorem queue_sound (inputs : List Input) (final : State) (guarded : Guarded step Guard start inputs)
    (reached : run step start inputs = some final) : Sound final :=
  inv_sound final (run_invariant step Guard Inv step_inv start final inputs start_inv guarded reached)

theorem guarded_threads (count : Nat) (s : State) : Guarded step Guard s (List.replicate count .thread) := by
  induction count generalizing s with
  | zero => trivial
  | succ count ih => exact ⟨trivial, fun next _ => ih next⟩

def sample (mType mDelayMs : Nat) : CMessage := ⟨mDelayMs, 0, mType, fun _ => 0⟩

def threadSteps (count : Nat) : List Input := List.replicate count .thread

def handedOnce : List Input := [.sendMsg (sample 1 100), .removeMsg 2, .tick 100] ++ threadSteps 7

theorem queue_sound_once : Guarded step Guard start handedOnce ∧
    ∃ final, run step start handedOnce = some final ∧ Sound final ∧ final.handed.length = 1 := by
  have guarded : Guarded step Guard start handedOnce := by
    refine ⟨trivial, ?_⟩
    rintro _ ⟨⟩
    refine ⟨⟨List.isChain_singleton _, trivial⟩, ?_⟩
    rintro _ ⟨⟩
    refine ⟨trivial, ?_⟩
    rintro _ ⟨⟩
    exact guarded_threads 7 _
  exact ⟨guarded, _, rfl, queue_sound handedOnce _ guarded rfl, rfl⟩

def skippedNeighbour : List Input := [.sendMsg (sample 1 0), .sendMsg (sample 1 0), .removeMsg 1] ++ threadSteps 7

-- The removal puts a later message in front of the thread's take.
def movedUp : List Input :=
  [.sendMsg (sample 1 0), .sendMsg (sample 2 5000)] ++ threadSteps 4 ++ [.removeMsg 1] ++ threadSteps 3

def emptiedBefore : List Input := [.sendMsg (sample 1 0)] ++ threadSteps 5 ++ [.clearMsg, .thread]

theorem queue_unsound :
    (∃ final, run step start skippedNeighbour = some final ∧ ¬Sound final) ∧
      (∃ final, run step start movedUp = some final ∧ ¬Sound final) ∧
      ∃ final, run step start emptiedBefore = some final ∧ ¬Sound final := by
  refine ⟨⟨_, rfl, fun sound => ?_⟩, ⟨_, rfl, fun sound => ?_⟩, ⟨_, rfl, fun sound => ?_⟩⟩
  · exact sound.gone _ (.head _) (.tail _ (.head _))
  · exact absurd (sound.reached _ (.head _)) (by decide)
  · exact sound.present rfl

end Droidlogic.Cec.MsgQueue
