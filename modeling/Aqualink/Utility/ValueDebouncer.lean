import Mathlib.Data.List.Infix

/-!
# Debounced values

A debouncer takes over a value only when it has been observed long enough.  The first observation
of a value makes it the candidate, each further one is counted, and when the count reaches the
threshold the candidate becomes the current value.  An observation of the current value is ignored.

`Tracks` ties the candidate and its count to the observations since the current value was last
changed (`sinceChange`).  On a commit the current value is moved out of the candidate, and
`leftBehind` is what the move leaves there: for a number the number itself, for a text in general
something else.
-/

namespace AqualinkAutomate.Utility

open List

variable {α : Type*}

structure ValueDebouncer (α : Type*) where
  threshold : UInt32 := 10
  updateCount : UInt32 := 0
  currentValue : α
  futureValue : α

namespace ValueDebouncer

/-- A new debouncer has the default value for its two values. -/
def construct [Inhabited α] (threshold : UInt32) : ValueDebouncer α :=
  { threshold, currentValue := default, futureValue := default }

def update (valueComparator : α → α → Bool) (leftBehind : α → α) (d : ValueDebouncer α)
    (futureValue : α) : ValueDebouncer α :=
  if valueComparator futureValue d.currentValue then d
  else if valueComparator futureValue d.futureValue then
    let updateCount := d.updateCount + 1
    if d.threshold > updateCount then { d with updateCount }
    else
      { d with
        currentValue := d.futureValue, futureValue := leftBehind d.futureValue, updateCount := 0 }
  else { d with futureValue, updateCount := 0 }

/-! ## Histories -/

section

variable [DecidableEq α] [Inhabited α] (threshold : UInt32) (leftBehind : α → α)

/-- The debouncer after a sequence of observations, with `std::equal_to` as its comparator. -/
def after (history : List α) : ValueDebouncer α :=
  history.foldl (update (fun a b => decide (a = b)) leftBehind) (construct threshold)

/-- The current value after a sequence of observations. -/
def current (history : List α) : α := (after threshold leftBehind history).currentValue

/-- At the observation that follows, the current value becomes `v`. -/
def BecomesAt (history : List α) (x v : α) : Prop :=
  current threshold leftBehind history ≠ v ∧ current threshold leftBehind (history ++ [x]) = v

/-- An observation joins the ones before it unless the current value is changed by it. -/
def observe (run : ValueDebouncer α × List α) (x : α) : ValueDebouncer α × List α :=
  let next := run.1.update (fun a b => decide (a = b)) leftBehind x
  (next, if next.currentValue = run.1.currentValue then run.2 ++ [x] else [])

/-- The observations since the current value was last changed. -/
def sinceChange (history : List α) : List α :=
  (history.foldl (observe leftBehind) (construct threshold, [])).2

/-- Those of some observations that are not of the current value. -/
def others (history observations : List α) : List α :=
  observations.filter fun y => decide (y ≠ current threshold leftBehind history)

/-- What a move leaves behind of an observed value is not mistaken for another one.  A move that
copies leaves the value itself. -/
def MovesApart (leftBehind : α → α) (observations : List α) : Prop :=
  ∀ v ∈ observations, ∀ x ∈ observations, leftBehind v = x → x = v

instance (leftBehind : α → α) (observations : List α) :
    Decidable (MovesApart leftBehind observations) := by
  unfold MovesApart
  infer_instance

variable {threshold : UInt32} {leftBehind : α → α} {history : List α} {x : α}

theorem after_append (history : List α) (x : α) :
    after threshold leftBehind (history ++ [x]) =
      (after threshold leftBehind history).update (fun a b => decide (a = b)) leftBehind x := by
  rw [after, foldl_append]
  rfl

theorem foldl_observe (history : List α) :
    (history.foldl (observe leftBehind) (construct threshold, [])).1 =
      after threshold leftBehind history := by
  induction history using reverseRecOn with
  | nil => rfl
  | append_singleton history x ih =>
    rw [after_append, ← ih, foldl_append]
    rfl

theorem sinceChange_append (history : List α) (x : α) :
    sinceChange threshold leftBehind (history ++ [x]) =
      if current threshold leftBehind (history ++ [x]) = current threshold leftBehind history
      then sinceChange threshold leftBehind history ++ [x]
      else [] := by
  rw [sinceChange, foldl_append, foldl_cons, foldl_nil, current, after_append,
    current, ← foldl_observe]
  rfl

theorem sinceChange_spec (history : List α) :
    ∃ earlier, history = earlier ++ sinceChange threshold leftBehind history ∧
      (∀ seen, seen <+: sinceChange threshold leftBehind history →
        current threshold leftBehind (earlier ++ seen) = current threshold leftBehind history) ∧
      (earlier = [] ∨ current threshold leftBehind earlier.dropLast ≠
        current threshold leftBehind earlier) := by
  induction history using reverseRecOn with
  | nil =>
    refine ⟨[], rfl, ?_, .inl rfl⟩
    intro seen hseen
    rw [List.prefix_nil.mp hseen, append_nil]
  | append_singleton history x ih =>
    obtain ⟨earlier, hhistory, hkept, hchanged⟩ := ih
    rw [sinceChange_append]
    split
    next hsame =>
      refine ⟨earlier, by rw [← append_assoc, ← hhistory], ?_, hchanged⟩
      intro seen hseen
      obtain rfl | hshort := List.prefix_concat_iff.mp hseen
      · rw [← append_assoc, ← hhistory]
      · rw [hkept seen hshort, hsame]
    next hother =>
      refine ⟨history ++ [x], (append_nil _).symm, ?_, .inr ?_⟩
      · intro seen hseen
        rw [List.prefix_nil.mp hseen, append_nil]
      · rw [dropLast_concat]
        exact Ne.symm hother

end

/-! ## The candidate and its count -/

/-- The observations that are counted before a commit. -/
def required (threshold : UInt32) : ℕ := max threshold.toNat 1

theorem replicate_suffix_iff {front : List α} {x v : α} {m k : ℕ}
    (hfront : front.getLast? ≠ some x) (hm : 0 < m) (hk : 0 < k) :
    replicate k v <:+ front ++ replicate m x ↔ v = x ∧ k ≤ m := by
  obtain ⟨m, rfl⟩ := Nat.exists_eq_add_of_lt hm
  obtain ⟨k, rfl⟩ := Nat.exists_eq_add_of_lt hk
  simp only [Nat.zero_add]
  constructor
  · rintro ⟨before, hbefore⟩
    have hlast : v = x := by
      rw [replicate_succ', replicate_succ', ← append_assoc, ← append_assoc] at hbefore
      exact List.singleton_inj.mp (append_inj_right' hbefore rfl)
    subst hlast
    refine ⟨rfl, ?_⟩
    by_contra hlong
    obtain ⟨j, hj⟩ := Nat.exists_eq_add_of_le (Nat.le_of_not_le hlong)
    -- the run is longer, so the front ends with the value too
    have hsplit : replicate (k + 1) v =
        (replicate (k - m - 1) v ++ [v]) ++ replicate (m + 1) v := by
      rw [← replicate_succ', replicate_append_replicate]
      congr 1
      omega
    rw [hsplit, ← append_assoc] at hbefore
    have hend := append_cancel_right hbefore
    rw [← hend, ← append_assoc, getLast?_concat] at hfront
    exact hfront rfl
  · rintro ⟨rfl, hle⟩
    obtain ⟨j, hj⟩ := Nat.exists_eq_add_of_le hle
    refine ⟨front ++ replicate j v, ?_⟩
    rw [append_assoc, replicate_append_replicate, hj, Nat.add_comm j]

/-- What the candidate and the count say about the observations that count. -/
inductive Tracks (leftBehind : α → α) (history : List α) (d : ValueDebouncer α) : List α → Prop
  | idle (hcount : d.updateCount = 0)
      (hcandidate : d.futureValue = d.currentValue ∨
        d.currentValue ∈ history ∧ d.futureValue = leftBehind d.currentValue) :
      Tracks leftBehind history d []
  | counting (front : List α) (hfront : front.getLast? ≠ some d.futureValue)
      (hcount : d.updateCount.toNat < required d.threshold) :
      Tracks leftBehind history d
        (front ++ replicate (d.updateCount.toNat + 1) d.futureValue)

section

variable {leftBehind : α → α} {history seen : List α} {d : ValueDebouncer α} {x v : α}

theorem Tracks.not_suffix (h : Tracks leftBehind history d seen) :
    ¬ replicate (required d.threshold + 1) v <:+ seen := by
  cases h with
  | idle =>
    intro hsuffix
    have hlength := hsuffix.length_le
    rw [length_replicate, length_nil] at hlength
    omega
  | counting front hfront hcount =>
    rw [replicate_suffix_iff hfront (Nat.succ_pos _) (Nat.succ_pos _)]
    omega

theorem toNat_succ_updateCount (hcount : d.updateCount.toNat < required d.threshold) :
    (d.updateCount + 1).toNat = d.updateCount.toNat + 1 := by
  have hthreshold := d.threshold.toNat_lt
  rw [required] at hcount
  rw [UInt32.toNat_add]
  have hone : (1 : UInt32).toNat = 1 := rfl
  omega

theorem MovesApart.initial (h : MovesApart leftBehind (history ++ [x])) :
    MovesApart leftBehind history :=
  fun v hv y hy => h v (mem_append_left _ hv) y (mem_append_left _ hy)

theorem Tracks.mono (h : Tracks leftBehind history d seen) :
    Tracks leftBehind (history ++ [x]) d seen := by
  cases h with
  | idle hcount hcandidate =>
    exact .idle hcount (hcandidate.imp_right fun h => ⟨mem_append_left _ h.1, h.2⟩)
  | counting front hfront hcount => exact .counting front hfront hcount

theorem Tracks.reset (front : List α) (hfront : front.getLast? ≠ some x) :
    Tracks leftBehind history { d with futureValue := x, updateCount := 0 } (front ++ [x]) :=
  .counting front hfront (by
    show 0 < required d.threshold
    rw [required]
    omega)

theorem Tracks.step [DecidableEq α] (h : Tracks leftBehind history d seen)
    (hapart : MovesApart leftBehind (history ++ [x])) (hx : x ≠ d.currentValue) :
    let next := d.update (fun a b => decide (a = b)) leftBehind x
    (next.currentValue = d.currentValue ∧ Tracks leftBehind (history ++ [x]) next (seen ++ [x])) ∨
      (next.currentValue = x ∧ Tracks leftBehind (history ++ [x]) next [] ∧
        replicate (required d.threshold + 1) x <:+ seen ++ [x]) := by
  have hmem : x ∈ history ++ [x] := mem_append_right _ mem_cons_self
  dsimp only [update]
  rw [if_neg (by rw [decide_eq_true_iff]; exact hx)]
  cases h with
  | idle hcount hcandidate =>
    have hother : x ≠ d.futureValue := by
      intro heq
      obtain hsame | ⟨hobserved, hleft⟩ := hcandidate
      · exact hx (heq.trans hsame)
      · exact hx (hapart _ (mem_append_left _ hobserved) x hmem (hleft.symm.trans heq.symm))
    rw [if_neg (by rw [decide_eq_true_iff]; exact hother)]
    exact .inl ⟨rfl, Tracks.reset [] (by simp)⟩
  | counting front hfront hcount =>
    have hsucc := toNat_succ_updateCount hcount
    by_cases hsame : x = d.futureValue
    · rw [if_pos (by rw [decide_eq_true_iff]; exact hsame)]
      have hrun : front ++ replicate (d.updateCount.toNat + 1) d.futureValue ++ [x] =
          front ++ replicate (d.updateCount.toNat + 1 + 1) d.futureValue := by
        rw [hsame, append_assoc, ← replicate_succ']
      split
      next hbelow =>
        have hlt : (d.updateCount + 1).toNat < d.threshold.toNat :=
          UInt32.lt_iff_toNat_lt.mp hbelow
        refine .inl ⟨rfl, ?_⟩
        rw [hrun, ← hsucc]
        refine Tracks.counting front hfront ?_
        show (d.updateCount + 1).toNat < required d.threshold
        rw [required]
        omega
      next hreached =>
        have hle : d.threshold.toNat ≤ (d.updateCount + 1).toNat :=
          Nat.le_of_not_lt fun hlt => hreached (UInt32.lt_iff_toNat_lt.mpr hlt)
        refine .inr ⟨hsame.symm, .idle rfl (.inr ⟨?_, rfl⟩), ?_⟩
        · show d.futureValue ∈ history ++ [x]
          rwa [← hsame]
        · rw [hrun, replicate_suffix_iff hfront (Nat.succ_pos _) (Nat.succ_pos _)]
          refine ⟨hsame, ?_⟩
          rw [required] at hcount ⊢
          omega
    · rw [if_neg (by rw [decide_eq_true_iff]; exact hsame)]
      refine .inl ⟨rfl, Tracks.reset _ ?_⟩
      rw [replicate_succ', ← append_assoc, getLast?_concat]
      exact fun heq => hsame (Option.some.inj heq).symm

end

/-! ## Runs -/

section

variable [DecidableEq α] [Inhabited α] {threshold : UInt32} {leftBehind : α → α}
  {history : List α} {x v : α}

theorem threshold_after (history : List α) :
    (after threshold leftBehind history).threshold = threshold := by
  induction history using reverseRecOn with
  | nil => rfl
  | append_singleton history x ih =>
    rw [after_append, update]
    split
    · exact ih
    · split
      · dsimp only
        split
        · exact ih
        · exact ih
      · exact ih

theorem after_append_current (hx : x = current threshold leftBehind history) :
    after threshold leftBehind (history ++ [x]) = after threshold leftBehind history := by
  rw [after_append, update]
  exact if_pos (decide_eq_true hx)

variable {observations : List α}

theorem others_concat_of_ne (hx : x ≠ current threshold leftBehind history) :
    others threshold leftBehind history (observations ++ [x]) =
      others threshold leftBehind history observations ++ [x] := by
  simp [others, hx]

theorem others_concat_of_eq (hx : x = current threshold leftBehind history) :
    others threshold leftBehind history (observations ++ [x]) =
      others threshold leftBehind history observations := by
  simp [others, hx]

theorem current_append_of_eq (hx : x = current threshold leftBehind history) :
    current threshold leftBehind (history ++ [x]) = current threshold leftBehind history := by
  rw [current, after_append_current hx, current]

theorem tracks_after (hapart : MovesApart leftBehind history) :
    Tracks leftBehind history (after threshold leftBehind history)
      (others threshold leftBehind history (sinceChange threshold leftBehind history)) := by
  induction history using reverseRecOn with
  | nil => exact .idle rfl (.inl rfl)
  | append_singleton history x ih =>
    have htracks := ih hapart.initial
    by_cases hx : x = current threshold leftBehind history
    · have hothers : others threshold leftBehind (history ++ [x])
          (sinceChange threshold leftBehind history ++ [x]) =
            others threshold leftBehind history (sinceChange threshold leftBehind history) := by
        rw [← others_concat_of_eq hx, others, current_append_of_eq hx, others]
      rw [sinceChange_append, if_pos (current_append_of_eq hx), hothers, after_append_current hx]
      exact htracks.mono
    · obtain ⟨hcurrent, hnext⟩ | ⟨hcurrent, hnext, -⟩ := htracks.step hapart hx
      · rw [← after_append] at hcurrent hnext
        have hsame : current threshold leftBehind (history ++ [x]) =
            current threshold leftBehind history := hcurrent
        rw [sinceChange_append, if_pos hsame, others, hsame]
        rwa [← others_concat_of_ne hx] at hnext
      · rw [← after_append] at hcurrent hnext
        have hchanged : ¬ current threshold leftBehind (history ++ [x]) =
            current threshold leftBehind history := fun heq => hx (hcurrent.symm.trans heq)
        rwa [sinceChange_append, if_neg hchanged]

/-- The current value becomes a value exactly when this is another value, and the last `t + 1`
observations since the last change are of it, those of the current value aside. -/
theorem becomesAt_iff (hapart : MovesApart leftBehind (history ++ [x])) :
    BecomesAt threshold leftBehind history x v ↔
      v ≠ current threshold leftBehind history ∧
        replicate (max threshold.toNat 1 + 1) v <:+
          others threshold leftBehind history
            (sinceChange threshold leftBehind history ++ [x]) := by
  have htracks : Tracks leftBehind history (after threshold leftBehind history)
      (others threshold leftBehind history (sinceChange threshold leftBehind history)) :=
    tracks_after hapart.initial
  have hthreshold := @threshold_after _ _ _ threshold leftBehind history
  rw [BecomesAt, ne_comm]
  refine and_congr_right fun hv => ?_
  by_cases hx : x = current threshold leftBehind history
  · -- an observation of the current value
    have hshort := @Tracks.not_suffix _ _ _ _ _ v htracks
    rw [hthreshold] at hshort
    rw [current_append_of_eq hx, others_concat_of_eq hx]
    exact ⟨fun heq => absurd heq.symm hv, fun hlong => absurd hlong hshort⟩
  · rw [others_concat_of_ne hx]
    obtain ⟨hcurrent, hnext⟩ | ⟨hcurrent, -, hlong⟩ := htracks.step hapart hx
    · rw [← after_append] at hcurrent hnext
      have hsame : current threshold leftBehind (history ++ [x]) =
          current threshold leftBehind history := hcurrent
      have hshort := @Tracks.not_suffix _ _ _ _ _ v hnext
      rw [threshold_after] at hshort
      rw [hsame]
      exact ⟨fun heq => absurd heq.symm hv, fun hlong => absurd hlong hshort⟩
    · rw [← after_append] at hcurrent
      rw [hthreshold] at hlong
      have hchanged : current threshold leftBehind (history ++ [x]) = x := hcurrent
      rw [hchanged]
      constructor
      · rintro rfl
        exact hlong
      · intro hlong'
        have hsuffix := suffix_of_suffix_length_le hlong hlong' (by simp [required])
        have heq := hsuffix.eq_of_length (by simp [required])
        have hmem : x ∈ replicate (max threshold.toNat 1 + 1) v := by
          rw [← heq]
          simp [required]
        exact eq_of_mem_replicate hmem

/-- With a threshold of one, a text that is observed twice. -/
theorem becomesAt_heater : BecomesAt 1 (fun _ => "") ["Heater"] "Heater" "Heater" :=
  (becomesAt_iff (by decide)).mpr ⟨by decide, by decide⟩

/-- An observation of the current value between two of another one does not start it over. -/
theorem not_restarted_by_current :
    ¬ (BecomesAt 1 id [5, 0] 5 5 ↔
      5 ≠ current 1 (id : ℕ → ℕ) [5, 0] ∧
        replicate (max (1 : UInt32).toNat 1 + 1) 5 <:+ [5, 0] ++ [5]) := by
  intro hclaim
  have hbecomes : BecomesAt 1 id [5, 0] 5 5 := ⟨by decide, by decide⟩
  exact absurd (hclaim.mp hbecomes).2 (by decide)

end

end ValueDebouncer

end AqualinkAutomate.Utility
