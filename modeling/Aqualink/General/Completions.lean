import Mathlib.Data.Option.Basic

/-!
# Values that are written when parties finish

Several parties write one register.  A party is given a value, and writes it when it finishes; a
party that is given another value before that writes the other one.  In which order the parties
finish is open.

So the register ends up with the value of the party that finishes last.  A value that is given
to a party while no other party has one `Lands`: it is what the register has in the end.
-/

namespace AqualinkAutomate.General

variable {ι α : Type*}

structure Writers (ι α : Type*) where
  register : α
  pending : ι → Option α := fun _ => none

namespace Writers

variable {writers : Writers ι α} {i : ι} {a : α}

/-- No party is to write. -/
def Idle (writers : Writers ι α) : Prop := ∀ i, writers.pending i = none

/-- No other party is to write. -/
def Alone (writers : Writers ι α) (i : ι) : Prop := ∀ j ≠ i, writers.pending j = none

/-- The value is the only one that is to be written, or it was the last one. -/
def Lands (writers : Writers ι α) (a : α) : Prop :=
  (∃ i, writers.pending i = some a ∧ writers.Alone i) ∨ writers.Idle ∧ writers.register = a

theorem Lands.register_of_idle (h : writers.Lands a) (hidle : writers.Idle) :
    writers.register = a := by
  obtain ⟨i, hi, -⟩ | ⟨-, hregister⟩ := h
  · cases (hidle i).symm.trans hi
  · exact hregister

variable [DecidableEq ι]

def assign (writers : Writers ι α) (i : ι) (a : α) : Writers ι α :=
  { writers with pending := Function.update writers.pending i (some a) }

def finish (writers : Writers ι α) (i : ι) : Writers ι α :=
  match writers.pending i with
  | some a => { register := a, pending := Function.update writers.pending i none }
  | none => writers

theorem lands_assign (h : writers.Alone i) : (writers.assign i a).Lands a := by
  have hself : (writers.assign i a).pending i = some a := by simp [assign]
  refine .inl ⟨i, hself, fun j hj => ?_⟩
  exact (Function.update_of_ne hj (some a) writers.pending).trans (h j hj)

theorem finish_of_none (h : writers.pending i = none) : writers.finish i = writers := by
  unfold finish
  rw [h]

theorem finish_of_some (h : writers.pending i = some a) :
    writers.finish i = { register := a, pending := Function.update writers.pending i none } := by
  unfold finish
  rw [h]

theorem Lands.finish (h : writers.Lands a) (j : ι) : (writers.finish j).Lands a := by
  obtain ⟨i, hi, halone⟩ | ⟨hidle, hregister⟩ := h
  · by_cases hj : j = i
    · subst hj
      rw [finish_of_some hi]
      refine .inr ⟨fun k => ?_, rfl⟩
      by_cases hk : k = j
      · simp [hk]
      · exact (Function.update_of_ne hk none writers.pending).trans (halone k hk)
    · rw [finish_of_none (halone j hj)]
      exact .inl ⟨i, hi, halone⟩
  · rw [finish_of_none (hidle j)]
    exact .inr ⟨hidle, hregister⟩

end Writers

end AqualinkAutomate.General
