import Mathlib.Data.Nat.Basic
import Aqualink.General.Runs

/-!
# Throttles

A throttle counts failed attempts and locks when there were too many.  An attempt is
started, when it is refused if the throttle is locked, and finishes some time later; in
between it is in flight.

A program implements a `LockoutPolicy` when each of its steps is a `LockoutPolicy.Step` of
the throttle that it projects onto.  Every such program does nothing to a locked throttle
without attempts in flight (`locked_run`), completes no other attempts than those in flight
while it starts none (`completions_run`), and lets no more failures pass than the limit up to
the one that locks (`failures_run`), provided that no attempt succeeds.
-/

namespace AqualinkAutomate.General

open List

/-- What the operations on a throttle do to it.  A throttle may keep its count after it
locked, when it is `spent`: then it locks at each further failure, until a check after
the end of the lockout drops the count. -/
structure LockoutPolicy (β τ : Type*) where
  limit : ℕ
  locked : β → τ → Bool
  check : β → τ → β
  fail : β → τ → β
  clear : β
  failures : β → ℕ
  spent : β → Bool
  valid : β → Prop
  valid_check : ∀ b now, valid b → valid (check b now)
  valid_fail : ∀ b now, valid b → valid (fail b now)
  valid_clear : valid clear
  check_of_locked : ∀ b now, locked b now = true → check b now = b
  check_cases : ∀ b now, check b now = b ∨
    spent b = true ∧ spent (check b now) = false ∧ failures (check b now) = 0
  fail_counts : ∀ b now, valid b → failures b + 1 < limit →
    spent b = false ∧ spent (fail b now) = false ∧ failures (fail b now) = failures b + 1

@[ext]
structure ThrottleState (β : Type*) where
  throttle : β
  inFlight : ℕ

/-- What a step of a program was for a throttle. -/
inductive Outcome where
  | unrelated
  | refused
  | started
  | failed
  | succeeded
  deriving DecidableEq

def Outcome.isFailure : Outcome → Bool
  | .failed => true
  | _ => false

/-- An attempt came to its end. -/
def Outcome.isCompletion : Outcome → Bool
  | .failed | .succeeded => true
  | _ => false

namespace LockoutPolicy

variable {β τ σ ε : Type*} {policy : LockoutPolicy β τ}

/-- One step of the throttle.  The clock is read when an attempt is started and when it
fails. -/
inductive Step (policy : LockoutPolicy β τ) (clock : Option τ) (s : ThrottleState β) :
    Outcome → ThrottleState β → Prop
  | unrelated {s' : ThrottleState β} (hsame : s' = s) : Step policy clock s .unrelated s'
  | refused {s' : ThrottleState β} {now : τ} (hclock : clock = some now)
      (hlocked : policy.locked s.throttle now = true)
      (hcheck : s'.throttle = policy.check s.throttle now) (hinFlight : s'.inFlight = s.inFlight) :
      Step policy clock s .refused s'
  | started {s' : ThrottleState β} {now : τ} (hclock : clock = some now)
      (hopen : policy.locked s.throttle now = false)
      (hcheck : s'.throttle = policy.check s.throttle now)
      (hinFlight : s'.inFlight = s.inFlight + 1) : Step policy clock s .started s'
  | failed {s' : ThrottleState β} (now : τ) (hfail : s'.throttle = policy.fail s.throttle now)
      (hinFlight : s.inFlight = s'.inFlight + 1) : Step policy clock s .failed s'
  | succeeded {s' : ThrottleState β} (hclear : s'.throttle = policy.clear)
      (hinFlight : s.inFlight = s'.inFlight + 1) : Step policy clock s .succeeded s'

/-- The next failure locks. -/
def AtLimit (policy : LockoutPolicy β τ) (b : β) : Prop := policy.limit ≤ policy.failures b + 1

theorem Step.valid {clock : Option τ} {s s' : ThrottleState β} {outcome : Outcome}
    (hstep : policy.Step clock s outcome s') (h : policy.valid s.throttle) :
    policy.valid s'.throttle := by
  cases hstep with
  | unrelated hsame => rwa [hsame]
  | refused _ _ hcheck =>
    rw [hcheck]
    exact policy.valid_check _ _ h
  | started _ _ hcheck =>
    rw [hcheck]
    exact policy.valid_check _ _ h
  | failed now hfail =>
    rw [hfail]
    exact policy.valid_fail _ _ h
  | succeeded hclear =>
    rw [hclear]
    exact policy.valid_clear

/-- The failures that can follow without locking, if no attempt succeeds. -/
def room (policy : LockoutPolicy β τ) (b : β) : ℕ :=
  if policy.spent b then policy.limit - 1 else policy.limit - 1 - policy.failures b

theorem room_le (policy : LockoutPolicy β τ) (b : β) : policy.room b ≤ policy.limit - 1 := by
  rw [room]
  split
  · exact le_rfl
  · exact Nat.sub_le _ _

theorem room_check_le (policy : LockoutPolicy β τ) (b : β) (now : τ) :
    policy.room (policy.check b now) ≤ policy.room b := by
  rcases policy.check_cases b now with hsame | ⟨hspent, -, -⟩
  · rw [hsame]
  · calc policy.room (policy.check b now) ≤ policy.limit - 1 := policy.room_le _
      _ = policy.room b := by rw [room, if_pos hspent]

theorem room_fail_lt {b : β} (hvalid : policy.valid b) (hlimit : ¬ policy.AtLimit b) (now : τ) :
    policy.room (policy.fail b now) + 1 ≤ policy.room b := by
  rw [AtLimit, not_le] at hlimit
  obtain ⟨hspent, hspent', hfailures⟩ := policy.fail_counts b now hvalid hlimit
  simp only [room, hspent, hspent', hfailures, Bool.false_eq_true, if_false]
  omega

/-! ## Programs with a throttle -/

section

variable {step : σ → ε → σ} {project : σ → ThrottleState β} {outcome : σ → ε → Outcome}
variable {clock : ε → Option τ} {s : σ} {es : List ε}

/-- How many steps of a run had such an outcome. -/
def countOf (step : σ → ε → σ) (outcome : σ → ε → Outcome) (p : Outcome → Bool) : σ → List ε → ℕ
  | _, [] => 0
  | s, e :: es => (p (outcome s e)).toNat + countOf step outcome p (step s e) es

theorem countOf_concat (p : Outcome → Bool) (s : σ) (es : List ε) (e : ε) :
    countOf step outcome p s (es ++ [e]) =
      countOf step outcome p s es + (p (outcome (es.foldl step s) e)).toNat := by
  induction es generalizing s with
  | nil => simp [countOf]
  | cons first es ih => simp [countOf, ih, Nat.add_assoc]

variable (hstep : ∀ s e, policy.Step (clock e) (project s) (outcome s e) (project (step s e)))

include hstep

theorem valid_run (h : policy.valid (project s).throttle) :
    policy.valid (project (es.foldl step s)).throttle :=
  foldl_of_step (Q := fun s => policy.valid (project s).throttle)
    (fun s e hs => (hstep s e).valid hs) h

theorem locked_run
    (hlocked : ∀ e ∈ es, ∀ now, clock e = some now → policy.locked (project s).throttle now)
    (hinFlight : (project s).inFlight = 0) :
    EachState step (fun s' => project s' = project s) s es ∧
      EachStep step (fun s e => outcome s e = .unrelated ∨ outcome s e = .refused) s es := by
  induction es generalizing s with
  | nil => exact ⟨rfl, trivial⟩
  | cons e es ih =>
    obtain ⟨hsame, hquiet⟩ : project (step s e) = project s ∧
        (outcome s e = .unrelated ∨ outcome s e = .refused) := by
      have hone := hstep s e
      have hlock := hlocked e (mem_cons_self ..)
      generalize project s = before at *
      generalize project (step s e) = after at *
      generalize outcome s e = what at *
      cases hone with
      | unrelated hsame => exact ⟨hsame, .inl rfl⟩
      | refused _ hlocked hcheck hin =>
        rw [policy.check_of_locked _ _ hlocked] at hcheck
        exact ⟨ThrottleState.ext hcheck hin, .inr rfl⟩
      | started hclock hopen =>
        rw [hlock _ hclock] at hopen
        exact absurd hopen (by simp)
      | failed _ _ hin => exact absurd (hin.symm.trans hinFlight) (Nat.succ_ne_zero _)
      | succeeded _ hin => exact absurd (hin.symm.trans hinFlight) (Nat.succ_ne_zero _)
    obtain ⟨hstates, hsteps⟩ := ih (s := step s e)
      (fun e' he' now hclock => by
        rw [hsame]
        exact hlocked e' (mem_cons_of_mem _ he') now hclock)
      (by rw [hsame, hinFlight])
    rw [hsame] at hstates
    exact ⟨⟨rfl, hstates⟩, hquiet, hsteps⟩

theorem completions_run (hrefused : EachStep step (fun s e => outcome s e ≠ .started) s es) :
    countOf step outcome Outcome.isCompletion s es + (project (es.foldl step s)).inFlight =
      (project s).inFlight := by
  induction es generalizing s with
  | nil => simp [countOf]
  | cons e es ih =>
    obtain ⟨hfirst, hrest⟩ := hrefused
    have hone := hstep s e
    have hlater := ih hrest
    rw [foldl_cons, countOf]
    generalize (project (es.foldl step (step s e))).inFlight = final at *
    generalize project s = before at *
    generalize project (step s e) = after at *
    generalize outcome s e = what at *
    cases hone with
    | unrelated hsame => simpa [Outcome.isCompletion, hsame] using hlater
    | refused _ _ _ hin => simpa [Outcome.isCompletion, hin] using hlater
    | started => exact absurd rfl hfirst
    | failed _ _ hin =>
      simp only [Outcome.isCompletion, Bool.toNat_true]
      omega
    | succeeded _ hin =>
      simp only [Outcome.isCompletion, Bool.toNat_true]
      omega

theorem countOf_isFailure_le_room (hvalid : policy.valid (project s).throttle)
    (hrun : EachStep step (fun s e => outcome s e ≠ .succeeded ∧
      ¬ (outcome s e = .failed ∧ policy.AtLimit (project s).throttle)) s es) :
    countOf step outcome Outcome.isFailure s es ≤ policy.room (project s).throttle := by
  induction es generalizing s with
  | nil => exact Nat.zero_le _
  | cons e es ih =>
    obtain ⟨⟨hsuccess, hlimit⟩, hrest⟩ := hrun
    have hone := hstep s e
    have hbound := ih (hone.valid hvalid) hrest
    rw [countOf]
    generalize project s = before at *
    generalize project (step s e) = after at *
    generalize outcome s e = what at *
    cases hone with
    | unrelated hsame => simpa [Outcome.isFailure, hsame] using hbound
    | refused _ _ hcheck =>
      rw [hcheck] at hbound
      simpa [Outcome.isFailure] using Nat.le_trans hbound (policy.room_check_le _ _)
    | started _ _ hcheck =>
      rw [hcheck] at hbound
      simpa [Outcome.isFailure] using Nat.le_trans hbound (policy.room_check_le _ _)
    | failed now hfail =>
      have hroom := room_fail_lt hvalid (fun hat => hlimit ⟨rfl, hat⟩) now
      rw [hfail] at hbound
      rw [Outcome.isFailure, Bool.toNat_true, Nat.add_comm]
      exact Nat.le_trans (Nat.add_le_add_right hbound 1) hroom
    | succeeded => exact absurd rfl hsuccess

theorem failures_run (hvalid : policy.valid (project s).throttle)
    (hsuccess : EachStep step (fun s e => outcome s e ≠ .succeeded) s es)
    (hlock : EachStep step (fun s e =>
      ¬ (outcome s e = .failed ∧ policy.AtLimit (project s).throttle)) s es.dropLast) :
    countOf step outcome Outcome.isFailure s es ≤ max 1 policy.limit := by
  rcases eq_nil_or_concat es with rfl | ⟨front, last, rfl⟩
  · exact Nat.zero_le _
  · rw [concat_eq_append] at hsuccess hlock ⊢
    rw [dropLast_concat] at hlock
    have hfront := countOf_isFailure_le_room hstep hvalid
      ((eachStep_append.mp hsuccess).1.and hlock)
    have hroom := policy.room_le (project s).throttle
    have hlast := Bool.toNat_le (outcome (front.foldl step s) last).isFailure
    rw [countOf_concat]
    omega

end

end LockoutPolicy

end AqualinkAutomate.General
