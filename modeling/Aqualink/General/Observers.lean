import Mathlib.Data.List.Basic

/-!
# Notices handed to observers in turn

A notice is handed to the observers `0`, `1`, …, `count - 1` in turn, in a round of calls.  While
an observer is called, another round may begin, which runs inside the call.  A round is given up
when a call fails.

Notices have keys.  If no round is given up while an observer still waits for its notice, and no
notice is made while one of its key is still waited for, then of each key every observer has seen
the notices that were made, or all but the newest of them (`Rounds.Fair`).
-/

namespace AqualinkAutomate.General

open List Function

/-- The notices made, what each observer has seen of them, and the rounds, the innermost first,
each with the observer that is called. -/
structure Rounds (τ : Type*) where
  made : List τ := []
  seen : ℕ → List τ := fun _ => []
  rounds : List (τ × ℕ) := []

namespace Rounds

variable {τ κ : Type*} [DecidableEq κ] {key : τ → κ} {count observer : ℕ} {r : Rounds τ} {t : τ}
variable {k : κ}

def call (r : Rounds τ) (t : τ) (observer : ℕ) (outer : List (τ × ℕ)) : Rounds τ :=
  { r with
    seen := Function.update r.seen observer (r.seen observer ++ [t])
    rounds := (t, observer) :: outer }

def make (count : ℕ) (r : Rounds τ) (t : τ) : Rounds τ :=
  let r := { r with made := r.made ++ [t] }
  if 0 < count then r.call t 0 r.rounds else r

/-- The call of the innermost round returns. -/
def next (count : ℕ) (r : Rounds τ) : Rounds τ :=
  match r.rounds with
  | [] => r
  | (t, observer) :: outer =>
    if observer + 1 < count then r.call t (observer + 1) outer else { r with rounds := outer }

/-- The innermost round is given up. -/
def giveUp (r : Rounds τ) : Rounds τ := { r with rounds := r.rounds.tail }

def seenOf (key : τ → κ) (r : Rounds τ) (k : κ) (observer : ℕ) : List τ :=
  (r.seen observer).filter fun t => key t = k

def madeOf (key : τ → κ) (r : Rounds τ) (k : κ) : List τ := r.made.filter fun t => key t = k

def Waited (key : τ → κ) (count : ℕ) (r : Rounds τ) (k : κ) : Prop :=
  ∃ round ∈ r.rounds, key round.1 = k ∧ round.2 + 1 < count

instance : Decidable (Waited key count r k) :=
  inferInstanceAs (Decidable (∃ round ∈ r.rounds, key round.1 = k ∧ round.2 + 1 < count))

def owed (key : τ → κ) (r : Rounds τ) (k : κ) (observer : ℕ) : List τ :=
  (r.rounds.filter fun round => key round.1 = k ∧ round.2 < observer).map Prod.fst

/-- No two notices of one key are waited for, and of each key every observer has seen what was made
but for what it waits for. -/
structure Fair (key : τ → κ) (count : ℕ) (r : Rounds τ) : Prop where
  single : r.rounds.Pairwise fun round outer =>
    round.2 + 1 < count → outer.2 + 1 < count → key round.1 ≠ key outer.1
  fair : ∀ k observer, observer < count →
    r.madeOf key k = r.seenOf key k observer ++ r.owed key k observer

theorem fair_empty : Fair key count ({} : Rounds τ) :=
  ⟨List.Pairwise.nil, fun _ _ _ => rfl⟩

theorem owed_eq_nil (h : ¬ r.Waited key count k) (hobserver : observer < count) :
    r.owed key k observer = [] := by
  rw [owed, map_eq_nil_iff, filter_eq_nil_iff]
  intro round hround
  rw [decide_eq_true_eq]
  rintro ⟨hkey, hcalled⟩
  exact h ⟨round, hround, hkey, by omega⟩

variable {outer : List (τ × ℕ)} {called : ℕ} {seen : ℕ → List τ}

theorem owed_cons {made : List τ} :
    owed key ⟨made, seen, (t, called) :: outer⟩ k observer =
      (if key t = k ∧ called < observer then [t] else []) ++
        owed key ⟨made, seen, outer⟩ k observer := by
  unfold owed
  rw [filter_cons]
  split_ifs with h h' h'
  · rfl
  · exact absurd (of_decide_eq_true h) h'
  · exact absurd (decide_eq_true h') h
  · rfl

theorem seenOf_call_self (hkey : key t = k) :
    (r.call t observer outer).seenOf key k observer = r.seenOf key k observer ++ [t] := by
  have hseen : (r.call t observer outer).seen observer = r.seen observer ++ [t] :=
    update_self ..
  rw [seenOf, hseen, filter_append, filter_cons_of_pos (by simpa using hkey)]
  rfl

theorem seenOf_call_of_ne (hne : key t = k → observer ≠ called) :
    (r.call t called outer).seenOf key k observer = r.seenOf key k observer := by
  by_cases hobserver : observer = called
  · subst hobserver
    have hkey : key t ≠ k := fun hkey => hne hkey rfl
    have hseen : (r.call t observer outer).seen observer = r.seen observer ++ [t] :=
      update_self ..
    rw [seenOf, hseen, filter_append,
      filter_cons_of_neg (by simpa using hkey), filter_nil, append_nil]
    rfl
  · have hseen : (r.call t called outer).seen observer = r.seen observer :=
      update_of_ne hobserver ..
    rw [seenOf, hseen]
    rfl

theorem madeOf_append {rounds : List (τ × ℕ)} :
    madeOf key ⟨r.made ++ [t], seen, rounds⟩ k =
      r.madeOf key k ++ if key t = k then [t] else [] := by
  unfold madeOf
  rw [filter_append]
  congr 1
  by_cases hkey : key t = k
  · rw [if_pos hkey, filter_cons_of_pos (by simpa using hkey)]
    rfl
  · rw [if_neg hkey, filter_cons_of_neg (by simpa using hkey)]
    rfl

theorem Fair.make (h : r.Fair key count) (hfree : ¬ r.Waited key count (key t)) :
    (r.make count t).Fair key count := by
  unfold Rounds.make
  split_ifs with hcount
  · refine ⟨List.pairwise_cons.mpr ⟨?_, h.single⟩, fun k observer hobserver => ?_⟩
    · intro outer houter _ hwaits hkey
      exact hfree ⟨outer, houter, hkey.symm, hwaits⟩
    · have hfair := h.fair k observer hobserver
      have hmade : madeOf key (call ⟨r.made ++ [t], r.seen, r.rounds⟩ t 0 r.rounds) k =
          r.madeOf key k ++ if key t = k then [t] else [] :=
        madeOf_append
      have howed : owed key (call ⟨r.made ++ [t], r.seen, r.rounds⟩ t 0 r.rounds) k observer =
          (if key t = k ∧ 0 < observer then [t] else []) ++ r.owed key k observer :=
        owed_cons
      rw [hmade, howed]
      by_cases hkey : key t = k
      · -- nothing else of the key is owed
        have hnone : r.owed key k observer = [] := owed_eq_nil (hkey ▸ hfree) hobserver
        rw [hnone, append_nil] at hfair
        rw [if_pos hkey, hnone, append_nil, hfair]
        rcases Nat.eq_zero_or_pos observer with rfl | hpos
        · rw [seenOf_call_self hkey, if_neg (by omega), append_nil]
          rfl
        · rw [seenOf_call_of_ne (fun _ => Nat.ne_of_gt hpos), if_pos ⟨hkey, hpos⟩]
          rfl
      · rw [seenOf_call_of_ne (fun h => absurd h hkey), if_neg hkey, if_neg (fun h => hkey h.1),
          append_nil, nil_append, hfair]
        rfl
  · exact ⟨h.single, fun _ observer hobserver => absurd hobserver (by omega)⟩

theorem Fair.leave (h : r.Fair key count) (hrounds : r.rounds = (t, called) :: outer)
    (hlast : ¬ called + 1 < count) : Fair key count { r with rounds := outer } := by
  refine ⟨(List.pairwise_cons.mp (hrounds ▸ h.single)).2, fun k observer hobserver => ?_⟩
  have hfair := h.fair k observer hobserver
  have howed : r.owed key k observer = owed key { r with rounds := outer } k observer := by
    calc r.owed key k observer
        = owed key ⟨r.made, r.seen, (t, called) :: outer⟩ k observer := by rw [← hrounds]
      _ = owed key { r with rounds := outer } k observer := by
          rw [owed_cons, if_neg (by omega), nil_append]
  rwa [howed] at hfair

section

variable (h : r.Fair key count)

include h

theorem Fair.next : (r.next count).Fair key count := by
  unfold Rounds.next
  split
  case h_1 => exact h
  case h_2 t called outer hrounds =>
    split_ifs with hmore
    · have hpairwise := List.pairwise_cons.mp (hrounds ▸ h.single)
      refine ⟨List.pairwise_cons.mpr ⟨?_, hpairwise.2⟩, fun k observer hobserver => ?_⟩
      · exact fun round hround _ => hpairwise.1 round hround hmore
      · have hfair := h.fair k observer hobserver
        have hbefore : r.owed key k observer =
            (if key t = k ∧ called < observer then [t] else []) ++
              owed key { r with rounds := outer } k observer := by
          rw [← owed_cons, ← hrounds]
        have hafter : owed key (r.call t (called + 1) outer) k observer =
            (if key t = k ∧ called + 1 < observer then [t] else []) ++
              owed key { r with rounds := outer } k observer :=
          owed_cons.trans rfl
        rw [hbefore] at hfair
        rw [hafter]
        show r.madeOf key k = _
        by_cases hnext : key t = k ∧ observer = called + 1
        · -- it is the observer that is called now
          obtain ⟨hkey, rfl⟩ := hnext
          have hnone : owed key { r with rounds := outer } k (called + 1) = [] := by
            refine owed_eq_nil (fun ⟨round, hround, hround', hwaits⟩ => ?_) hobserver
            exact hpairwise.1 round hround hmore hwaits (hkey.trans hround'.symm)
          rw [hnone, if_pos ⟨hkey, Nat.lt_succ_self _⟩] at hfair
          rw [hnone, if_neg (by omega), seenOf_call_self hkey, hfair]
          simp only [append_nil]
        · rw [seenOf_call_of_ne (fun hkey hobserver => hnext ⟨hkey, hobserver⟩), hfair]
          have hsame : (key t = k ∧ called < observer) ↔ (key t = k ∧ called + 1 < observer) := by
            refine and_congr_right fun hkey => ?_
            have : observer ≠ called + 1 := fun hobserver => hnext ⟨hkey, hobserver⟩
            omega
          rw [if_congr hsame rfl rfl]
    · exact h.leave hrounds hmore

theorem Fair.giveUp (hlast : ∀ round ∈ r.rounds.head?, ¬ round.2 + 1 < count) :
    r.giveUp.Fair key count := by
  cases hrounds : r.rounds with
  | nil =>
    have hsame : r.giveUp = r := by rw [Rounds.giveUp, hrounds, tail_nil, ← hrounds]
    rwa [hsame]
  | cons round outer =>
    have htail : r.giveUp = { r with rounds := outer } := by
      rw [Rounds.giveUp, hrounds, tail_cons]
    rw [htail]
    refine h.leave hrounds (hlast round ?_)
    rw [hrounds]
    rfl

theorem Fair.seenOf_prefix (k : κ) (hobserver : observer < count) :
    r.seenOf key k observer <+: r.madeOf key k :=
  ⟨_, (h.fair k observer hobserver).symm⟩

/-- The first observer is called at once, and so waits for nothing. -/
theorem Fair.seenOf_zero (k : κ) (hpos : 0 < count) : r.seenOf key k 0 = r.madeOf key k := by
  have hnone : r.owed key k 0 = [] := by
    rw [owed, map_eq_nil_iff, filter_eq_nil_iff]
    intro round _
    rw [decide_eq_true_eq]
    omega
  rw [h.fair k 0 hpos, hnone, append_nil]

theorem Fair.seenOf_eq (k : κ) (hobserver : observer < count) (hidle : r.rounds = []) :
    r.seenOf key k observer = r.madeOf key k := by
  have hnone : r.owed key k observer = [] := by
    rw [owed, hidle]
    rfl
  rw [h.fair k observer hobserver, hnone, append_nil]

end

end Rounds

end AqualinkAutomate.General
