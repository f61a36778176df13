import Mathlib.Data.List.Cycle

/-!
# First occurrence of a pattern in a list

A framed byte protocol is decoded by searching a buffer for marker sequences.
`searchIndex pat xs` is the position of the first occurrence of `pat` in `xs`, and
`xs.length` when there is none.

When the stream arrives in pieces, an occurrence that was found stays the first one when
bytes are appended (`searchIndex_append_of_isInfix`), and a prefix that takes no part in any
occurrence only shifts the result (`searchIndex_append_of_forall`).  Markers of two symbols
get a predicate of their own, `Avoids a b xs`: no `a` is directly followed by a `b`.
-/

namespace AqualinkAutomate.General

open List

variable {α : Type*} [DecidableEq α]

/-- The index of the first occurrence of `pat` in `xs`, or `xs.length`. -/
def searchIndex (pat : List α) : List α → ℕ
  | [] => 0
  | x :: xs => if pat.isPrefixOf (x :: xs) then 0 else searchIndex pat xs + 1

@[simp] theorem searchIndex_nil (pat : List α) : searchIndex pat [] = 0 := rfl

variable {pat xs ys before : List α}

theorem searchIndex_cons_of_isPrefix {x : α} (h : pat <+: x :: xs) :
    searchIndex pat (x :: xs) = 0 := by
  simp [searchIndex, List.isPrefixOf_iff_prefix.mpr h]

theorem searchIndex_cons_of_not_isPrefix {x : α} (h : ¬ pat <+: x :: xs) :
    searchIndex pat (x :: xs) = searchIndex pat xs + 1 := by
  have hfalse : pat.isPrefixOf (x :: xs) = false := by
    rw [Bool.eq_false_iff]
    exact fun htrue => h (List.isPrefixOf_iff_prefix.mp htrue)
  simp [searchIndex, hfalse]

theorem searchIndex_le_length (pat xs : List α) : searchIndex pat xs ≤ xs.length := by
  induction xs with
  | nil => simp
  | cons x xs ih =>
    by_cases h : pat <+: x :: xs
    · simp [searchIndex_cons_of_isPrefix h]
    · simpa [searchIndex_cons_of_not_isPrefix h] using ih

section

theorem prefix_drop_searchIndex (h : searchIndex pat xs < xs.length) :
    pat <+: xs.drop (searchIndex pat xs) := by
  induction xs with
  | nil => simp at h
  | cons x xs ih =>
    by_cases hpre : pat <+: x :: xs
    · simpa [searchIndex_cons_of_isPrefix hpre] using hpre
    · rw [searchIndex_cons_of_not_isPrefix hpre] at h ⊢
      exact ih (by simpa using h)

/-- Nothing before the result is an occurrence. -/
theorem not_prefix_drop_of_lt_searchIndex {i : ℕ} (h : i < searchIndex pat xs) :
    ¬ pat <+: xs.drop i := by
  induction xs generalizing i with
  | nil => simp at h
  | cons x xs ih =>
    by_cases hpre : pat <+: x :: xs
    · simp [searchIndex_cons_of_isPrefix hpre] at h
    · rw [searchIndex_cons_of_not_isPrefix hpre] at h
      cases i with
      | zero => exact hpre
      | succ i => exact ih (by omega)

theorem searchIndex_eq_of_first {i : ℕ} (hi : i < xs.length) (hpre : pat <+: xs.drop i)
    (hfirst : ∀ j < i, ¬ pat <+: xs.drop j) : searchIndex pat xs = i := by
  rcases Nat.lt_trichotomy (searchIndex pat xs) i with hlt | heq | hgt
  · exact absurd (prefix_drop_searchIndex (hlt.trans hi)) (hfirst _ hlt)
  · exact heq
  · exact absurd hpre (not_prefix_drop_of_lt_searchIndex hgt)

theorem searchIndex_lt_iff (hpat : pat ≠ []) : searchIndex pat xs < xs.length ↔ pat <:+: xs := by
  constructor
  · intro h
    exact (prefix_drop_searchIndex h).isInfix.trans (drop_suffix _ _).isInfix
  · rintro ⟨before, after, rfl⟩
    by_contra hge
    have hlen : (before ++ pat ++ after).length = searchIndex pat (before ++ pat ++ after) :=
      Nat.le_antisymm (not_lt.mp hge) (searchIndex_le_length _ _)
    have hpos : 0 < pat.length := length_pos_of_ne_nil hpat
    have hlt : before.length < searchIndex pat (before ++ pat ++ after) := by
      rw [← hlen]
      simp only [length_append]
      omega
    exact not_prefix_drop_of_lt_searchIndex hlt (by simp)

theorem searchIndex_eq_length_iff (hpat : pat ≠ []) :
    searchIndex pat xs = xs.length ↔ ¬ pat <:+: xs := by
  rw [← searchIndex_lt_iff hpat]
  have := searchIndex_le_length pat xs
  omega

theorem searchIndex_add_length_le (h : searchIndex pat xs < xs.length) :
    searchIndex pat xs + pat.length ≤ xs.length := by
  have hle := (prefix_drop_searchIndex h).length_le
  simp only [length_drop] at hle
  omega

theorem exists_split_searchIndex (hpat : pat ≠ []) (h : pat <:+: xs) :
    ∃ before after, xs = before ++ pat ++ after ∧ searchIndex pat xs = before.length := by
  have hlt := (searchIndex_lt_iff hpat).mpr h
  obtain ⟨after, hafter⟩ := prefix_drop_searchIndex hlt
  refine ⟨xs.take (searchIndex pat xs), after, ?_, ?_⟩
  · rw [append_assoc, hafter, take_append_drop]
  · rw [length_take_of_le hlt.le]

/-! ## Searching a concatenation -/

theorem searchIndex_append_of_isInfix (hpat : pat ≠ []) (h : pat <:+: xs) (ys : List α) :
    searchIndex pat (xs ++ ys) = searchIndex pat xs := by
  have hlt := (searchIndex_lt_iff hpat).mpr h
  have hfits := searchIndex_add_length_le hlt
  refine searchIndex_eq_of_first (by simp only [length_append]; omega) ?_ ?_
  · rw [drop_append_of_le_length hlt.le]
    exact (prefix_drop_searchIndex hlt).trans (prefix_append _ _)
  · intro j hj hpre
    refine not_prefix_drop_of_lt_searchIndex hj ?_
    rw [drop_append_of_le_length (by omega)] at hpre
    refine prefix_of_prefix_length_le hpre (prefix_append _ _) ?_
    simp only [length_drop]
    omega

end

theorem searchIndex_append_of_forall (h : ∀ i < xs.length, ¬ pat <+: xs.drop i ++ ys) :
    searchIndex pat (xs ++ ys) = xs.length + searchIndex pat ys := by
  induction xs with
  | nil => simp
  | cons x xs ih =>
    have hhead : ¬ pat <+: x :: (xs ++ ys) := by
      have := h 0 (by simp)
      simpa using this
    rw [cons_append, searchIndex_cons_of_not_isPrefix hhead, ih fun i hi => ?_]
    · simp only [length_cons]; omega
    · have := h (i + 1) (by simpa using hi)
      simpa using this

/-- If the front part ends in a symbol foreign to the pattern, no occurrence
can straddle the boundary. -/
theorem searchIndex_append_of_getLast {z : α} (hlast : xs.getLast? = some z) (hz : z ∉ pat)
    (h : ¬ pat <:+: xs) : searchIndex pat (xs ++ ys) = xs.length + searchIndex pat ys := by
  refine searchIndex_append_of_forall fun i hi hpre => ?_
  by_cases hlen : pat.length ≤ (xs.drop i).length
  · have : pat <+: xs.drop i := prefix_of_prefix_length_le hpre (prefix_append _ _) hlen
    exact h (this.isInfix.trans (drop_suffix _ _).isInfix)
  · have hsub : xs.drop i <+: pat :=
      prefix_of_prefix_length_le (prefix_append _ _) hpre (by omega)
    have hmem : z ∈ xs.drop i := by
      have : (xs.drop i).getLast? = some z := by
        rw [getLast?_drop, if_neg (by omega), hlast]
      exact mem_of_getLast? this
    exact hz (hsub.subset hmem)

theorem searchIndex_self_append (hpat : pat ≠ []) (ys : List α) :
    searchIndex pat (pat ++ ys) = 0 := by
  obtain ⟨x, xs, rfl⟩ := exists_cons_of_ne_nil hpat
  exact searchIndex_cons_of_isPrefix (prefix_append _ _)

/-- A pattern that does not overlap itself is found right behind a front part without it. -/
theorem searchIndex_append_self_append (hpat : pat ≠ [])
    (hoverlap : ∀ k, 0 < k → k < pat.length → ¬ pat.drop k <+: pat) (h : ¬ pat <:+: before)
    (after : List α) : searchIndex pat (before ++ pat ++ after) = before.length := by
  rw [append_assoc, searchIndex_append_of_forall, searchIndex_self_append hpat, Nat.add_zero]
  intro i hi hpre
  have hk : (before.drop i).length = before.length - i := length_drop
  by_cases hlen : pat.length ≤ (before.drop i).length
  · have hinside : pat <+: before.drop i :=
      prefix_of_prefix_length_le hpre (prefix_append _ _) hlen
    exact h (hinside.isInfix.trans (drop_suffix _ _).isInfix)
  · -- the occurrence ends inside the pattern that follows, of which its rest is then a prefix
    refine hoverlap (before.drop i).length (by omega) (not_le.mp hlen) ?_
    have hrest : pat.drop (before.drop i).length <+: pat ++ after := by
      obtain ⟨rest, hrest⟩ := hpre
      refine ⟨rest, ?_⟩
      have hdrop := congrArg (List.drop (before.drop i).length) hrest
      rwa [drop_append_of_le_length (not_le.mp hlen).le, drop_left] at hdrop
    refine prefix_of_prefix_length_le hrest (prefix_append _ _) ?_
    rw [length_drop]
    exact Nat.sub_le _ _

/-! ## Searching inside a range -/

/-- First occurrence of `pat` that lies inside `[first, last)`, or `last`. -/
def search (pat xs : List α) (first last : ℕ) : ℕ :=
  first + searchIndex pat ((xs.take last).drop first)

theorem search_full (pat xs : List α) (first : ℕ) :
    search pat xs first xs.length = first + searchIndex pat (xs.drop first) := by
  simp [search]

theorem search_eq_last_iff (hpat : pat ≠ []) {first last : ℕ} (hfirst : first ≤ last)
    (hlast : last ≤ xs.length) :
    search pat xs first last = last ↔ ¬ pat <:+: (xs.take last).drop first := by
  rw [← searchIndex_eq_length_iff hpat, search]
  simp only [length_drop, length_take]
  omega

/-! ## Two-symbol markers -/

/-- No `a` of the list is directly followed by a `b`. -/
def Avoids (a b : α) (xs : List α) : Prop :=
  xs.IsChain fun x y => ¬ (x = a ∧ y = b)

omit [DecidableEq α] in
@[simp] theorem avoids_nil (a b : α) : Avoids a b [] := isChain_nil

omit [DecidableEq α] in
@[simp] theorem avoids_singleton (a b x : α) : Avoids a b [x] := isChain_singleton x

omit [DecidableEq α] in
theorem avoids_cons_cons {a b x y : α} {xs : List α} :
    Avoids a b (x :: y :: xs) ↔ ¬ (x = a ∧ y = b) ∧ Avoids a b (y :: xs) :=
  isChain_cons_cons

omit [DecidableEq α] in
theorem avoids_append {a b : α} {xs ys : List α} :
    Avoids a b (xs ++ ys) ↔ Avoids a b xs ∧ Avoids a b ys ∧
      ∀ x ∈ xs.getLast?, ∀ y ∈ ys.head?, ¬ (x = a ∧ y = b) :=
  isChain_append

omit [DecidableEq α] in
theorem avoids_iff {a b : α} {xs : List α} : Avoids a b xs ↔ ¬ [a, b] <:+: xs := by
  induction xs with
  | nil => simp
  | cons x xs ih =>
    cases xs with
    | nil => simp [infix_cons_iff]
    | cons y ys =>
      have hsplit : [a, b] <:+: x :: y :: ys ↔ [a, b] <+: x :: y :: ys ∨ [a, b] <:+: y :: ys :=
        infix_cons_iff
      rw [avoids_cons_cons, ih, hsplit]
      simp only [cons_prefix_cons, nil_prefix, and_true, not_or]
      tauto

omit [DecidableEq α] in
theorem Avoids.of_isInfix {a b : α} {xs ys : List α} (h : Avoids a b ys) (hsub : xs <:+: ys) :
    Avoids a b xs :=
  avoids_iff.mpr fun hin => avoids_iff.mp h (hin.trans hsub)

theorem exists_split_first {a b : α} (h : [a, b] <:+: xs) :
    ∃ before after, xs = before ++ [a, b] ++ after ∧ Avoids a b before := by
  obtain ⟨before, after, rfl, hindex⟩ := exists_split_searchIndex (by simp) h
  refine ⟨before, after, rfl, avoids_iff.mpr fun hin => ?_⟩
  rw [append_assoc, searchIndex_append_of_isInfix (by simp) hin] at hindex
  exact absurd ((searchIndex_lt_iff (by simp)).mpr hin) hindex.not_lt

/-- A marker of two different symbols is found right behind a front part that
holds no marker. -/
theorem searchIndex_pair {a b : α} (hne : a ≠ b) (h : Avoids a b before) (after : List α) :
    searchIndex [a, b] (before ++ [a, b] ++ after) = before.length := by
  refine searchIndex_append_self_append (by simp) (fun k hpos hlt hpre => ?_) (avoids_iff.mp h)
    after
  obtain rfl : k = 1 := by
    simp only [length_cons, length_nil] at hlt
    omega
  have hsame : b = a := by simpa using hpre
  exact hne hsame.symm

end AqualinkAutomate.General
