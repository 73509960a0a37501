import Mathlib.Data.List.Basic

set_option autoImplicit false

namespace Droidlogic.Lib

-- Links to the death of clients, each with a cookie. A death turns the links of a client into
-- notices, which arrive in any order and which unlinking does not call back.
structure DeathLinks (Client : Type) where
  linked : List (Client × Nat)
  notices : List (Client × Nat)
  dead : List Client
deriving DecidableEq

namespace DeathLinks

section
variable {Client : Type} [DecidableEq Client]

def empty : DeathLinks Client := ⟨[], [], []⟩

def linkToDeath (links : DeathLinks Client) (client : Client) (cookie : Nat) : DeathLinks Client :=
  if client ∈ links.dead then links else { links with linked := links.linked ++ [(client, cookie)] }

-- Of several links of a client the oldest is taken away.
def unlinkToDeath (links : DeathLinks Client) (client : Client) : DeathLinks Client :=
  { links with linked := links.linked.eraseP fun link => link.1 = client }

def die (links : DeathLinks Client) (client : Client) : DeathLinks Client where
  linked := links.linked.filter fun link => link.1 ≠ client
  notices := links.notices ++ links.linked.filter fun link => link.1 = client
  dead := client :: links.dead

def report (links : DeathLinks Client) (client : Client) (cookie : Nat) : Option (DeathLinks Client) :=
  if (client, cookie) ∈ links.notices then some { links with notices := links.notices.erase (client, cookie) } else none

@[simp] theorem link_dead (links : DeathLinks Client) (client : Client) (cookie : Nat) :
    (links.linkToDeath client cookie).dead = links.dead := by
  rw [linkToDeath]
  split <;> rfl

theorem report_same (links next : DeathLinks Client) (client : Client) (cookie : Nat)
    (reported : links.report client cookie = some next) : next.linked = links.linked ∧ next.dead = links.dead := by
  rw [report] at reported
  split at reported
  · cases reported
    exact ⟨rfl, rfl⟩
  · cases reported

theorem mem_link (links : DeathLinks Client) (client : Client) (cookie : Nat) (link : Client × Nat)
    (alive : client ∉ links.dead) :
    link ∈ (links.linkToDeath client cookie).linked ↔ link = (client, cookie) ∨ link ∈ links.linked := by
  rw [linkToDeath, if_neg alive, List.mem_append, List.mem_singleton, or_comm]

theorem mem_link_other (links : DeathLinks Client) (client : Client) (cookie : Nat) (link : Client × Nat)
    (other : link.1 ≠ client) : link ∈ (links.linkToDeath client cookie).linked ↔ link ∈ links.linked := by
  rw [linkToDeath]
  split
  · exact Iff.rfl
  · rw [List.mem_append, List.mem_singleton]
    exact or_iff_left fun same => other (congrArg Prod.fst same)

theorem mem_unlink (links : DeathLinks Client) (client : Client) (link : Client × Nat) (other : link.1 ≠ client) :
    link ∈ (links.unlinkToDeath client).linked ↔ link ∈ links.linked :=
  List.mem_eraseP_of_neg (by simpa using other)

theorem linked_of_unlink (links : DeathLinks Client) (client : Client) (link : Client × Nat)
    (member : link ∈ (links.unlinkToDeath client).linked) : link ∈ links.linked :=
  List.mem_of_mem_eraseP member

theorem mem_die (links : DeathLinks Client) (client : Client) (link : Client × Nat) (other : link.1 ≠ client) :
    link ∈ (links.die client).linked ↔ link ∈ links.linked := by
  simp [die, other]

end

end DeathLinks

end Droidlogic.Lib
