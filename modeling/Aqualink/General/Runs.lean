import Mathlib.Data.List.Basic

/-!
# Runs of an event-driven program

A program that reacts to one event at a time is a function `step : σ → ε → σ`, and
the state it is in after the events `es` is `es.foldl step s`.

* `EachStep step P s es`: every step of the run satisfies `P`, a property of the
  state it is taken from and of the event.
* `EachState step Q s es`: every state of the run satisfies `Q`, the first and the
  last included.

An invariant is established once for a step; what it gives for a step then holds of
each step of a run (`EachStep.of_invariant`).  `eachStep_iff` and `eachState_iff` say
the same as the two predicates by cutting the run in two.
-/

namespace AqualinkAutomate.General

open List

variable {σ ε : Type*} {step : σ → ε → σ} {P P' : σ → ε → Prop} {Q Q' : σ → Prop}
variable {s : σ} {e : ε} {es before after : List ε}

/-- Every step of the run satisfies `P`. -/
def EachStep (step : σ → ε → σ) (P : σ → ε → Prop) : σ → List ε → Prop
  | _, [] => True
  | s, e :: es => P s e ∧ EachStep step P (step s e) es

/-- Every state of the run satisfies `Q`. -/
def EachState (step : σ → ε → σ) (Q : σ → Prop) : σ → List ε → Prop
  | s, [] => Q s
  | s, e :: es => Q s ∧ EachState step Q (step s e) es

@[simp] theorem eachStep_nil : EachStep step P s [] := trivial

@[simp] theorem eachStep_cons :
    EachStep step P s (e :: es) ↔ P s e ∧ EachStep step P (step s e) es := Iff.rfl

@[simp] theorem eachState_nil : EachState step Q s [] ↔ Q s := Iff.rfl

@[simp] theorem eachState_cons :
    EachState step Q s (e :: es) ↔ Q s ∧ EachState step Q (step s e) es := Iff.rfl

instance EachStep.decidable [∀ s e, Decidable (P s e)] :
    ∀ (s : σ) (es : List ε), Decidable (EachStep step P s es)
  | _, [] => .isTrue trivial
  | s, e :: es => by
    have := EachStep.decidable (step s e) es
    exact inferInstanceAs (Decidable (P s e ∧ EachStep step P (step s e) es))

theorem eachStep_append :
    EachStep step P s (before ++ after) ↔
      EachStep step P s before ∧ EachStep step P (before.foldl step s) after := by
  induction before generalizing s with
  | nil => simp
  | cons e before ih => simp [ih, and_assoc]

theorem eachState_append :
    EachState step Q s (before ++ after) ↔
      EachState step Q s before ∧ EachState step Q (before.foldl step s) after := by
  induction before generalizing s with
  | nil =>
    -- the state where the run is cut counts as a state of both parts
    cases after with
    | nil => simp
    | cons e after => simp
  | cons e before ih => simp [ih, and_assoc]

theorem EachState.first (h : EachState step Q s es) : Q s := by
  cases es with
  | nil => exact h
  | cons e es => exact h.1

theorem EachState.last (h : EachState step Q s es) : Q (es.foldl step s) := by
  have hcut : EachState step Q s (es ++ []) := by simpa using h
  exact (eachState_append.mp hcut).2

theorem EachState.mono (himp : ∀ s, Q s → Q' s) (h : EachState step Q s es) :
    EachState step Q' s es := by
  induction es generalizing s with
  | nil => exact himp s h
  | cons e es ih => exact ⟨himp s h.1, ih h.2⟩

theorem EachStep.and (h : EachStep step P s es) (h' : EachStep step P' s es) :
    EachStep step (fun s e => P s e ∧ P' s e) s es := by
  induction es generalizing s with
  | nil => trivial
  | cons e es ih => exact ⟨⟨h.1, h'.1⟩, ih h.2 h'.2⟩

theorem eachStep_true : EachStep step (fun _ _ => True) s es := by
  induction es generalizing s with
  | nil => trivial
  | cons e es ih => exact ⟨trivial, ih⟩

section

variable (hstep : ∀ s e, Q s → P s e → Q (step s e)) (hs : Q s) (h : EachStep step P s es)

include hstep hs h

theorem EachStep.foldl_of_step : Q (es.foldl step s) := by
  induction es generalizing s with
  | nil => exact hs
  | cons e es ih => exact ih (hstep s e hs h.1) h.2

theorem EachStep.eachState_of_step : EachState step Q s es := by
  induction es generalizing s with
  | nil => exact hs
  | cons e es ih => exact ⟨hs, ih (hstep s e hs h.1) h.2⟩

end

theorem foldl_of_step (hstep : ∀ s e, Q s → Q (step s e)) (hs : Q s) : Q (es.foldl step s) :=
  eachStep_true.foldl_of_step (fun s e hs _ => hstep s e hs) hs

theorem EachStep.of_invariant (hstep : ∀ s e, Q s → P s e → Q (step s e))
    (huse : ∀ s e, Q s → P s e → P' s e) (hs : Q s) (h : EachStep step P s es) :
    EachStep step P' s es := by
  induction es generalizing s with
  | nil => trivial
  | cons e es ih => exact ⟨huse s e hs h.1, ih (hstep s e hs h.1) h.2⟩

/-- If each step that satisfies `P'` keeps `Q` exactly when it satisfies `P`, so does a run of
such steps. -/
theorem EachStep.eachState_iff (h : EachStep step P' s es)
    (hstep : ∀ s e, Q s → P' s e → (Q (step s e) ↔ P s e)) (hs : Q s) :
    EachState step Q s es ↔ EachStep step P s es := by
  induction es generalizing s with
  | nil => simpa using hs
  | cons e es ih =>
    rw [eachState_cons, eachStep_cons]
    constructor
    · intro hstates
      have hnext := hstates.2.first
      exact ⟨(hstep s e hs h.1).mp hnext, (ih h.2 hnext).mp hstates.2⟩
    · intro hsteps
      have hnext := (hstep s e hs h.1).mpr hsteps.1
      exact ⟨hs, (ih h.2 hnext).mpr hsteps.2⟩

/-- If each step keeps `Q` exactly when it satisfies `P`, so does a run. -/
theorem eachState_iff_eachStep (hstep : ∀ s e, Q s → (Q (step s e) ↔ P s e)) (hs : Q s) :
    EachState step Q s es ↔ EachStep step P s es :=
  eachStep_true.eachState_iff (fun s e hQ _ => hstep s e hQ) hs

theorem eachStep_congr (hinv : ∀ s e, Q s → Q (step s e)) (hstep : ∀ s e, Q s → (P s e ↔ P' s e))
    (hs : Q s) : EachStep step P s es ↔ EachStep step P' s es := by
  induction es generalizing s with
  | nil => exact Iff.rfl
  | cons e es ih => exact and_congr (hstep s e hs) (ih (hinv s e hs))

theorem eachStep_congr_of_step (hinv : ∀ s e, Q s → P s e → Q (step s e))
    (hstep : ∀ s e, Q s → (P s e ↔ P' s e)) (hs : Q s) :
    EachStep step P s es ↔ EachStep step P' s es := by
  constructor
  · exact EachStep.of_invariant hinv (fun s e h => (hstep s e h).mp) hs
  · exact EachStep.of_invariant (fun s e h hP' => hinv s e h ((hstep s e h).mpr hP'))
      (fun s e h => (hstep s e h).mpr) hs

theorem concat_eq_append_cons_iff {last cut : ε} :
    es ++ [last] = before ++ cut :: after ↔
      (es = before ∧ last = cut ∧ after = []) ∨
        ∃ rest, after = rest ++ [last] ∧ es = before ++ cut :: rest := by
  constructor
  · intro h
    rcases eq_nil_or_concat after with rfl | ⟨rest, final, rfl⟩
    · obtain ⟨hes, hlast⟩ := append_inj' h rfl
      exact .inl ⟨hes, head_eq_of_cons_eq hlast, rfl⟩
    · rw [concat_eq_append] at h ⊢
      rw [← cons_append, ← append_assoc] at h
      obtain ⟨hes, hlast⟩ := append_inj' h rfl
      rw [head_eq_of_cons_eq hlast]
      exact .inr ⟨rest, rfl, hes⟩
  · rintro (⟨rfl, rfl, rfl⟩ | ⟨rest, rfl, rfl⟩)
    · rfl
    · simp

theorem eachStep_iff :
    EachStep step P s es ↔
      ∀ before e after, es = before ++ e :: after → P (before.foldl step s) e := by
  constructor
  · rintro h before e after rfl
    exact (eachStep_append.mp h).2.1
  · intro h
    induction es generalizing s with
    | nil => trivial
    | cons e es ih =>
      refine ⟨h [] e es rfl, ih ?_⟩
      intro before e' after hes
      exact h (e :: before) e' after (by rw [hes]; rfl)

/-- The states of a run, each with the events before it and after it. -/
theorem eachState_iff :
    EachState step Q s es ↔ ∀ before after, es = before ++ after → Q (before.foldl step s) := by
  constructor
  · rintro h before after rfl
    exact (eachState_append.mp h).1.last
  · intro h
    induction es generalizing s with
    | nil => exact h [] [] rfl
    | cons e es ih =>
      refine ⟨h [] (e :: es) rfl, ih ?_⟩
      intro before after hes
      exact h (e :: before) after (by rw [hes]; rfl)

/-! ## Steps that may not return

A program whose step may fail to return is a function `step : σ → ε → Option σ`.  Its run
ends with the first step that does not return, and what is said about a run is said about
the steps taken and the states reached by then. -/

section

variable {attempt : σ → ε → Option σ} {I : σ → Prop}

/-- Every step that returns satisfies `P`. -/
def EachStepTaken (attempt : σ → ε → Option σ) (P : σ → ε → Prop) : σ → List ε → Prop
  | _, [] => True
  | s, e :: es => ∀ s', attempt s e = some s' → P s e ∧ EachStepTaken attempt P s' es

theorem eachStepTaken_true : EachStepTaken attempt (fun _ _ => True) s es := by
  induction es generalizing s with
  | nil => trivial
  | cons e es ih => exact fun s' _ => ⟨trivial, ih⟩

/-- Every step satisfies `P`, the one that does not return included. -/
def EachStepTried (attempt : σ → ε → Option σ) (P : σ → ε → Prop) : σ → List ε → Prop
  | _, [] => True
  | s, e :: es => P s e ∧ ∀ s', attempt s e = some s' → EachStepTried attempt P s' es

/-- Every state that is reached satisfies `Q`. -/
def EachStateReached (attempt : σ → ε → Option σ) (Q : σ → Prop) : σ → List ε → Prop
  | s, [] => Q s
  | s, e :: es => Q s ∧ ∀ s', attempt s e = some s' → EachStateReached attempt Q s' es

instance EachStepTaken.decidable [∀ s e, Decidable (P s e)] :
    ∀ (s : σ) (es : List ε), Decidable (EachStepTaken attempt P s es)
  | _, [] => .isTrue trivial
  | s, e :: es =>
    match h : attempt s e with
    | none => .isTrue fun s' hs' => by rw [h] at hs'; cases hs'
    | some next =>
      have := EachStepTaken.decidable next es
      decidable_of_iff (P s e ∧ EachStepTaken attempt P next es) (by simp [EachStepTaken, h])

theorem EachStateReached.first (h : EachStateReached attempt Q s es) : Q s := by
  cases es with
  | nil => exact h
  | cons e es => exact h.1

theorem EachStateReached.last (h : EachStateReached attempt Q s es) {s' : σ}
    (hrun : es.foldlM attempt s = some s') : Q s' := by
  induction es generalizing s with
  | nil =>
    obtain rfl : s = s' := Option.some_inj.mp hrun
    exact h
  | cons e es ih =>
    rw [foldlM_cons] at hrun
    obtain ⟨next, hnext, hrest⟩ := Option.bind_eq_some_iff.mp hrun
    exact ih (h.2 next hnext) hrest

theorem EachStepTaken.last (h : EachStepTaken attempt P s (before ++ [e])) {s' s'' : σ}
    (hrun : before.foldlM attempt s = some s') (hlast : attempt s' e = some s'') : P s' e := by
  induction before generalizing s with
  | nil =>
    obtain rfl : s = s' := Option.some_inj.mp hrun
    exact (h s'' hlast).1
  | cons first before ih =>
    rw [foldlM_cons] at hrun
    obtain ⟨next, hnext, hrest⟩ := Option.bind_eq_some_iff.mp hrun
    exact ih (h next hnext).2 hrest

section

variable (hstep : ∀ s e s', attempt s e = some s' → I s → P s e → I s')

include hstep

/-- An invariant that the steps keep as long as they satisfy `P`. -/
theorem EachStepTaken.eachStateReached (huse : ∀ s, I s → Q s) (hs : I s)
    (h : EachStepTaken attempt P s es) : EachStateReached attempt Q s es := by
  induction es generalizing s with
  | nil => exact huse s hs
  | cons e es ih =>
    refine ⟨huse s hs, fun s' hnext => ?_⟩
    obtain ⟨hP, hrest⟩ := h s' hnext
    exact ih (hstep s e s' hnext hs hP) hrest

theorem EachStepTaken.of_invariant (huse : ∀ s e, I s → P s e → P' s e) (hI : I s)
    (h : EachStepTaken attempt P s es) : EachStepTaken attempt P' s es := by
  induction es generalizing s with
  | nil => trivial
  | cons e es ih =>
    intro s' hnext
    obtain ⟨hP, hrest⟩ := h s' hnext
    exact ⟨huse s e hI hP, ih (hstep s e s' hnext hI hP) hrest⟩

end

theorem eachStepTried_of_invariant (hstep : ∀ s e s', attempt s e = some s' → I s → I s')
    (huse : ∀ s e, I s → P s e) (hI : I s) : EachStepTried attempt P s es := by
  induction es generalizing s with
  | nil => trivial
  | cons e es ih => exact ⟨huse s e hI, fun s' hnext => ih (hstep s e s' hnext hI)⟩

theorem EachStepTried.last (h : EachStepTried attempt P s (before ++ [e])) {s' : σ}
    (hrun : before.foldlM attempt s = some s') : P s' e := by
  induction before generalizing s with
  | nil =>
    obtain rfl : s = s' := Option.some_inj.mp hrun
    exact h.1
  | cons first before ih =>
    rw [foldlM_cons] at hrun
    obtain ⟨next, hnext, hrest⟩ := Option.bind_eq_some_iff.mp hrun
    exact ih (h.2 next hnext) hrest

theorem eachStepTaken_congr (hinv : ∀ s e s', attempt s e = some s' → I s → I s')
    (hstep : ∀ s e s', attempt s e = some s' → I s → (P s e ↔ P' s e)) (hI : I s) :
    EachStepTaken attempt P s es ↔ EachStepTaken attempt P' s es := by
  induction es generalizing s with
  | nil => exact Iff.rfl
  | cons e es ih =>
    refine forall₂_congr fun s' hnext => ?_
    exact and_congr (hstep s e s' hnext hI) (ih (hinv s e s' hnext hI))

/-- Under an invariant of all steps: if each step keeps `Q` exactly when it satisfies `P`, so
does a run. -/
theorem eachStateReached_iff (hinv : ∀ s e s', attempt s e = some s' → I s → I s')
    (hstep : ∀ s e s', attempt s e = some s' → I s → Q s → (Q s' ↔ P s e)) (hI : I s) (hQ : Q s) :
    EachStateReached attempt Q s es ↔ EachStepTaken attempt P s es := by
  induction es generalizing s with
  | nil => exact iff_of_true hQ trivial
  | cons e es ih =>
    constructor
    · intro hstates s' hnext
      have hrest := hstates.2 s' hnext
      have hQ' : Q s' := hrest.first
      exact ⟨(hstep s e s' hnext hI hQ).mp hQ', (ih (hinv s e s' hnext hI) hQ').mp hrest⟩
    · intro hsteps
      refine ⟨hQ, fun s' hnext => ?_⟩
      obtain ⟨hP, hrest⟩ := hsteps s' hnext
      exact (ih (hinv s e s' hnext hI) ((hstep s e s' hnext hI hQ).mpr hP)).mpr hrest

end

end AqualinkAutomate.General
