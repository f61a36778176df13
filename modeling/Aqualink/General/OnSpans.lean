import Mathlib.Algebra.Order.Ring.Int

/-!
# Spans and switching commands

Something is switched by commands, at most one at each time, and is in the state of the last one.
A span holds it on from its start for a fixed length.  `covered_iff_onAt` says when the two come
to the same: the starts switch it on, the ends switch it off, nothing is sent in between and
nothing else switches it on.

Time is discrete, and has no beginning.
-/

namespace AqualinkAutomate.General

/-- The last command until a time, that time included, was to switch on. -/
def OnAt (command : ℤ → Option Bool) (time : ℤ) : Prop :=
  ∃ since ≤ time, command since = some true ∧
    ∀ later, since < later → later ≤ time → command later ≠ some false

def CoveredAt (Starts : ℤ → Prop) (length time : ℤ) : Prop :=
  ∃ start ≤ time, Starts start ∧ time < start + length

def Apart (Starts : ℤ → Prop) (length : ℤ) : Prop :=
  ∀ start next, Starts start → Starts next → start < next → start + length ≤ next

structure EdgesSwitch (command : ℤ → Option Bool) (Starts : ℤ → Prop) (length : ℤ) : Prop where
  start : ∀ start, Starts start → command start = some true
  /-- When the next span starts at once, it need not be switched off. -/
  finish : ∀ start, Starts start → ¬ Starts (start + length) →
    command (start + length) = some false
  outside : ∀ time, (∀ start, Starts start → time < start ∨ start + length < time) →
    command time ≠ some true

section

variable {command : ℤ → Option Bool} {Starts : ℤ → Prop} {length : ℤ} {time : ℤ}

theorem onAt_of_command (h : command time = some true) : OnAt command time :=
  ⟨time, le_rfl, h, fun _ hlater hle => absurd hlater (not_lt.mpr hle)⟩

theorem command_eq_of_onAt (h : OnAt command time) (hsome : command time ≠ none) :
    command time = some true := by
  obtain ⟨since, hsince, hon, hkept⟩ := h
  rcases hsince.eq_or_lt with rfl | hlt
  · exact hon
  · have hfalse := hkept time hlt le_rfl
    cases hcommand : command time with
    | none => exact absurd hcommand hsome
    | some switched =>
      cases switched with
      | true => rfl
      | false => exact absurd hcommand hfalse

theorem command_eq_of_not_onAt (h : ¬ OnAt command time) (hsome : command time ≠ none) :
    command time = some false := by
  cases hcommand : command time with
  | none => exact absurd hcommand hsome
  | some switched =>
    cases switched with
    | true => exact absurd (onAt_of_command hcommand) h
    | false => rfl

theorem onAt_of_coveredAt (hedges : EdgesSwitch command Starts length)
    (hquiet : ∀ start time, Starts start → start < time → time < start + length →
      command time = none)
    (h : CoveredAt Starts length time) : OnAt command time := by
  obtain ⟨start, hle, hstart, hlt⟩ := h
  refine ⟨start, hle, hedges.start start hstart, fun later hlater hlast => ?_⟩
  rw [hquiet start later hstart hlater (by omega)]
  exact (Option.some_ne_none false).symm

theorem coveredAt_of_onAt (hpos : 0 < length) (hedges : EdgesSwitch command Starts length)
    (h : OnAt command time) : CoveredAt Starts length time := by
  obtain ⟨since, hsince, hon, hkept⟩ := h
  -- at the end of a span the next one starts, or there is an off command
  have hend : ∀ start, Starts start → command (start + length) ≠ some false →
      CoveredAt Starts length (start + length) := by
    intro start hstart hne
    by_cases hnext : Starts (start + length)
    · exact ⟨start + length, le_rfl, hnext, by omega⟩
    · exact absurd (hedges.finish start hstart hnext) hne
  have hcovered : ∀ n : ℕ, since + n ≤ time → CoveredAt Starts length (since + n) := by
    intro n
    induction n with
    | zero =>
      intro _
      by_contra hnot
      refine hedges.outside since (fun start hstart => ?_) hon
      by_contra hclosed
      rw [not_or, not_lt, not_lt] at hclosed
      rcases hclosed.2.eq_or_lt with heq | hlt
      · exact hnot (by simpa [heq] using hend start hstart (by rw [← heq, hon]; decide))
      · exact hnot ⟨start, by simpa using hclosed.1, hstart, by simpa using hlt⟩
    | succ n ih =>
      intro hle
      obtain ⟨start, hstartle, hstart, hlt⟩ := ih (by omega)
      rcases (show since + n + 1 ≤ start + length by omega).eq_or_lt with heq | hnext
      · have hne := hkept (start + length) (by omega) (by omega)
        have hat := hend start hstart hne
        rwa [show since + ((n + 1 : ℕ) : ℤ) = start + length by omega]
      · exact ⟨start, by omega, hstart, by omega⟩
  have hall := hcovered (time - since).toNat (by omega)
  rwa [show since + ((time - since).toNat : ℤ) = time by omega] at hall

theorem not_coveredAt_finish (hapart : Apart Starts length) {start : ℤ} (hstart : Starts start)
    (hnext : ¬ Starts (start + length)) : ¬ CoveredAt Starts length (start + length) := by
  rintro ⟨other, hle, hother, hlt⟩
  rcases lt_trichotomy start other with hbefore | rfl | hafter
  · have hover := hapart start other hstart hother hbefore
    exact hnext ((show other = start + length by omega) ▸ hother)
  · omega
  · have hover := hapart other start hother hstart hafter
    omega

theorem covered_iff_onAt (hpos : 0 < length) (hapart : Apart Starts length)
    (hstarts : ∀ start, Starts start → command start ≠ none)
    (hends : ∀ start, Starts start → command (start + length) ≠ none)
    (hquiet : ∀ start time, Starts start → start < time → time < start + length →
      command time = none) :
    (∀ time, CoveredAt Starts length time ↔ OnAt command time) ↔
      EdgesSwitch command Starts length := by
  constructor
  · intro hsame
    constructor
    · intro start hstart
      have hcovered : CoveredAt Starts length start := ⟨start, le_rfl, hstart, by omega⟩
      exact command_eq_of_onAt ((hsame start).mp hcovered) (hstarts start hstart)
    · intro start hstart hnext
      have hnot := not_coveredAt_finish hapart hstart hnext
      exact command_eq_of_not_onAt (fun hon => hnot ((hsame _).mpr hon)) (hends start hstart)
    · intro time houtside hcommand
      obtain ⟨start, hle, hstart, hlt⟩ := (hsame time).mpr (onAt_of_command hcommand)
      rcases houtside start hstart with hbefore | hbehind
      · omega
      · omega
  · exact fun hedges time =>
      ⟨onAt_of_coveredAt hedges hquiet, coveredAt_of_onAt hpos hedges⟩

end

end AqualinkAutomate.General
