import Mathlib.Logic.Function.Basic

set_option autoImplicit false

namespace Droidlogic.Lib

section
variable {Caller Pc : Type} (Window : Pc → Prop) (held : Pc → Prop) (calm : Prop)

def Alone (pc : Caller → Pc) (c : Caller) : Prop := ∀ other, Window (pc other) → other = c

-- One caller is in the window, at a place where what it relies on holds, or none is.
def Turn (pc : Caller → Pc) : Prop :=
  (∃ c, held (pc c) ∧ Alone Window pc c) ∨ ((∀ c, ¬Window (pc c)) ∧ calm)

theorem turn_held (pc : Caller → Pc) (c : Caller) (turn : Turn Window held calm pc) (inside : Window (pc c)) :
    held (pc c) ∧ Alone Window pc c := by
  rcases turn with ⟨holder, held, alone⟩ | ⟨nobody, -⟩
  · cases alone c inside
    exact ⟨held, alone⟩
  · exact absurd inside (nobody c)

theorem turn_calm (pc : Caller → Pc) (needs : ∀ place, held place → Window place) (turn : Turn Window held calm pc)
    (nobody : ∀ c, ¬Window (pc c)) : calm := by
  rcases turn with ⟨holder, held, -⟩ | ⟨-, calm⟩
  · exact absurd (needs _ held) (nobody holder)
  · exact calm

theorem turn_mono (pc : Caller → Pc) {heldToo : Pc → Prop} {calmToo : Prop} (turn : Turn Window held calm pc)
    (held_mono : ∀ place, held place → heldToo place) (calm_mono : calm → calmToo) : Turn Window heldToo calmToo pc :=
  turn.imp (fun ⟨c, holds, alone⟩ => ⟨c, held_mono _ holds, alone⟩) (And.imp_right calm_mono)

variable [DecidableEq Caller]

-- The caller whose turn it is moves on, or one enters where nobody is.
theorem turn_update (pc : Caller → Pc) (c : Caller) (next : Pc) (alone : Alone Window pc c) (holds : held next) :
    Turn Window held calm (Function.update pc c next) := by
  refine .inl ⟨c, ?_, fun other inside => ?_⟩
  · rw [Function.update_self]
    exact holds
  · by_contra different
    rw [Function.update_of_ne different] at inside
    exact different (alone other inside)

theorem turn_leaves (pc : Caller → Pc) (c : Caller) (next : Pc) (alone : Alone Window pc c) (after : ¬Window next)
    (now : calm) : Turn Window held calm (Function.update pc c next) := by
  refine .inr ⟨fun other inside => ?_, now⟩
  by_cases mine : other = c
  · cases mine
    rw [Function.update_self] at inside
    exact after inside
  · rw [Function.update_of_ne mine] at inside
    exact mine (alone other inside)

theorem turn_outside (pc : Caller → Pc) (c : Caller) (next : Pc) (needs : ∀ place, held place → Window place)
    (turn : Turn Window held calm pc) (before : ¬Window (pc c)) (after : ¬Window next) :
    Turn Window held calm (Function.update pc c next) := by
  have same (other : Caller) (inside : Window (Function.update pc c next other)) : Window (pc other) := by
    by_cases mine : other = c
    · cases mine
      rw [Function.update_self] at inside
      exact absurd inside after
    · rwa [Function.update_of_ne mine] at inside
  rcases turn with ⟨holder, holds, alone⟩ | ⟨nobody, calm⟩
  · have different : holder ≠ c := by
      rintro rfl
      exact before (needs _ holds)
    refine .inl ⟨holder, ?_, fun other inside => alone other (same other inside)⟩
    rw [Function.update_of_ne different]
    exact holds
  · exact .inr ⟨fun other inside => nobody other (same other inside), calm⟩

end

end Droidlogic.Lib
