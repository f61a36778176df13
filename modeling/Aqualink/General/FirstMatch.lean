import Mathlib.Data.List.Basic

/-!
# Changing and inserting list elements

`modifyFirst p f l` applies `f` to the first element of `l` that satisfies `p`, as a
table does that looks a record up and writes it back in place.

`insertAbsent clash l a` appends `a` to `l` unless an element of `l` clashes with it, as a
registry does that refuses what it already has.  Elements that do not clash with each other are
all appended, and what was inserted once is refused the next time.

`firstOfEach key l` has of the elements with one key the first one only.
-/

namespace AqualinkAutomate.General

open List

section

variable {α β : Type*} {p q : α → Bool} {f : α → α} {l : List α} {a b : α}

/-- Apply `f` to the first element that satisfies `p`. -/
def modifyFirst (p : α → Bool) (f : α → α) : List α → List α
  | [] => []
  | a :: l => if p a then f a :: l else a :: modifyFirst p f l

@[simp] theorem modifyFirst_nil : modifyFirst p f [] = [] := rfl

theorem modifyFirst_cons_of_pos (h : p a) : modifyFirst p f (a :: l) = f a :: l := by
  simp [modifyFirst, h]

theorem modifyFirst_cons_of_neg (h : p a = false) :
    modifyFirst p f (a :: l) = a :: modifyFirst p f l := by
  simp [modifyFirst, h]

/-- An attribute that `f` keeps is kept at every place. -/
theorem map_modifyFirst {g : α → β} (h : ∀ a, p a → g (f a) = g a) :
    (modifyFirst p f l).map g = l.map g := by
  induction l with
  | nil => rfl
  | cons a l ih =>
    cases ha : p a with
    | true => simp [modifyFirst_cons_of_pos ha, h a ha]
    | false => simp [modifyFirst_cons_of_neg ha, ih]

/-- The changed element is found where the old one was. -/
theorem find?_modifyFirst (h : ∀ a, p a → p (f a)) :
    (modifyFirst p f l).find? p = (l.find? p).map f := by
  induction l with
  | nil => rfl
  | cons a l ih =>
    cases ha : p a with
    | true => simp [modifyFirst_cons_of_pos ha, ha, h a ha]
    | false => simp [modifyFirst_cons_of_neg ha, ha, ih]

/-- A lookup for something else is not affected. -/
theorem find?_modifyFirst_of_disjoint (h : ∀ a, p a → q a = false ∧ q (f a) = false) :
    (modifyFirst p f l).find? q = l.find? q := by
  induction l with
  | nil => rfl
  | cons a l ih =>
    cases ha : p a with
    | true => simp [modifyFirst_cons_of_pos ha, (h a ha).1, (h a ha).2]
    | false => simp only [modifyFirst_cons_of_neg ha, find?_cons, ih]

theorem mem_of_mem_modifyFirst (h : b ∈ modifyFirst p f l) :
    b ∈ l ∨ ∃ a, l.find? p = some a ∧ b = f a := by
  induction l with
  | nil => exact absurd h (by simp)
  | cons a l ih =>
    cases ha : p a with
    | true =>
      rw [modifyFirst_cons_of_pos ha, mem_cons] at h
      rcases h with rfl | h
      · exact .inr ⟨a, by simp [ha], rfl⟩
      · exact .inl (mem_cons_of_mem a h)
    | false =>
      rw [modifyFirst_cons_of_neg ha, mem_cons] at h
      rcases h with rfl | h
      · exact .inl (by simp)
      · rw [find?_cons_of_neg (by simp [ha])]
        exact (ih h).imp (mem_cons_of_mem a) id

theorem exists_append_of_find? (h : l.find? p = some a) :
    ∃ l₁ l₂, l = l₁ ++ a :: l₂ ∧ (∀ f, modifyFirst p f l = l₁ ++ f a :: l₂) ∧
      l.eraseP p = l₁ ++ l₂ := by
  induction l with
  | nil => exact absurd h (by simp)
  | cons b l ih =>
    cases hb : p b with
    | true =>
      obtain rfl : b = a := by simpa [find?_cons, hb] using h
      exact ⟨[], l, rfl, fun f => modifyFirst_cons_of_pos hb, by simp [hb]⟩
    | false =>
      rw [find?_cons_of_neg (by simp [hb])] at h
      obtain ⟨l₁, l₂, rfl, hmodify, herase⟩ := ih h
      refine ⟨b :: l₁, l₂, rfl, fun f => ?_, ?_⟩
      · rw [modifyFirst_cons_of_neg hb, hmodify, cons_append]
      · rw [eraseP_cons_of_neg (by simp [hb]), herase, cons_append]

/-- What does not match stays. -/
theorem mem_modifyFirst_of_mem (hmem : a ∈ l) (ha : p a = false) : a ∈ modifyFirst p f l := by
  induction l with
  | nil => exact absurd hmem (by simp)
  | cons b l ih =>
    rcases List.mem_cons.mp hmem with rfl | hmem
    · simp [modifyFirst_cons_of_neg ha]
    · cases hb : p b with
      | true => simp [modifyFirst_cons_of_pos hb, hmem]
      | false => simp [modifyFirst_cons_of_neg hb, ih hmem]

theorem mem_modifyFirst_of_find? (h : l.find? p = some a) : f a ∈ modifyFirst p f l := by
  obtain ⟨l₁, l₂, _, hmodify, _⟩ := exists_append_of_find? h
  rw [hmodify]
  exact mem_append_right _ mem_cons_self

theorem modifyFirst_eq_self_iff : modifyFirst p f l = l ↔ ∀ a, l.find? p = some a → f a = a := by
  induction l with
  | nil => simp
  | cons b l ih =>
    cases hb : p b with
    | true => simp [modifyFirst_cons_of_pos hb, hb]
    | false => simp [modifyFirst_cons_of_neg hb, hb, ih]

end

/-! ## The first of each key -/

section

variable {α β : Type*} [DecidableEq β] {key : α → β} {p : α → Bool} {l : List α}

def firstOfEach (key : α → β) : List α → List α
  | [] => []
  | a :: l => a :: (firstOfEach key l).filter fun b => key b ≠ key a

theorem firstOfEach_sublist : (firstOfEach key l).Sublist l := by
  induction l with
  | nil => exact .slnil
  | cons a l ih => exact (List.filter_sublist.trans ih).cons_cons a

/-- Whole keys can be left out before or after. -/
theorem firstOfEach_filter (hp : ∀ a b, key a = key b → p a = p b) :
    firstOfEach key (l.filter p) = (firstOfEach key l).filter p := by
  induction l with
  | nil => rfl
  | cons a l ih =>
    cases ha : p a with
    | true => simp only [filter_cons, ha, if_true, firstOfEach, ih, filter_comm]
    | false =>
      -- the elements that stand back behind `a` are left out with it
      have hkeys : ∀ b, (p b && decide (key b ≠ key a)) = p b := by
        intro b
        by_cases hb : key b = key a
        · simp [hp b a hb, ha]
        · simp [hb]
      simp only [filter_cons, ha, Bool.false_eq_true, if_false, firstOfEach, ih,
        filter_filter, hkeys]

theorem firstOfEach_of_nodup (h : (l.map key).Nodup) : firstOfEach key l = l := by
  induction l with
  | nil => rfl
  | cons a l ih =>
    rw [map_cons, nodup_cons] at h
    rw [firstOfEach, ih h.2, List.filter_eq_self.mpr fun b hb => ?_]
    exact decide_eq_true fun heq => h.1 (heq ▸ mem_map_of_mem hb)

end

/-! ## Inserting what is not there yet -/

variable {α : Type*} {clash : α → α → Bool} {f : α → α} {l inserted : List α} {a b : α}

def insertAbsent (clash : α → α → Bool) (l : List α) (a : α) : List α :=
  if l.any fun existing => clash existing a then l else l ++ [a]

theorem insertAbsent_of_clash (h : (l.any fun existing => clash existing a)) :
    insertAbsent clash l a = l :=
  if_pos h

theorem insertAbsent_of_forall (h : ∀ b ∈ l, clash b a = false) :
    insertAbsent clash l a = l ++ [a] := by
  refine if_neg fun hany => ?_
  obtain ⟨b, hb, hclash⟩ := List.any_eq_true.mp hany
  rw [h b hb] at hclash
  cases hclash

/-- Of two reasons to refuse an element one can be looked for first. -/
theorem insertAbsent_or {same other : α → α → Bool} :
    insertAbsent (fun existing a => same existing a || other existing a) l a =
      if l.any fun existing => same existing a then l else insertAbsent other l a := by
  have hany : (l.any fun existing => same existing a || other existing a) =
      (l.any (fun existing => same existing a) || l.any fun existing => other existing a) := by
    rw [Bool.eq_iff_iff]
    simp only [any_eq_true, Bool.or_eq_true]
    constructor
    · rintro ⟨b, hb, hsame | hother⟩
      exacts [.inl ⟨b, hb, hsame⟩, .inr ⟨b, hb, hother⟩]
    · rintro (⟨b, hb, hsame⟩ | ⟨b, hb, hother⟩)
      exacts [⟨b, hb, .inl hsame⟩, ⟨b, hb, .inr hother⟩]
  unfold insertAbsent
  rw [hany]
  cases l.any fun existing => same existing a <;> rfl

theorem foldl_insertAbsent_of_pairwise
    (h : (l ++ inserted).Pairwise fun first second => clash first second = false) :
    inserted.foldl (insertAbsent clash) l = l ++ inserted := by
  induction inserted generalizing l with
  | nil => exact (append_nil l).symm
  | cons a inserted ih =>
    have hcross := (List.pairwise_append.mp h).2.2
    have hnext : insertAbsent clash l a = l ++ [a] :=
      insertAbsent_of_forall fun b hb => hcross b hb a mem_cons_self
    calc (a :: inserted).foldl (insertAbsent clash) l
        = inserted.foldl (insertAbsent clash) (l ++ [a]) := by rw [foldl_cons, hnext]
      _ = (l ++ [a]) ++ inserted := ih (by rwa [append_assoc])
      _ = l ++ a :: inserted := append_assoc l [a] inserted

theorem any_insertAbsent (h : (l.any fun existing => clash existing b)) :
    ((insertAbsent clash l a).any fun existing => clash existing b) := by
  unfold insertAbsent
  split
  · exact h
  · rw [any_append, h, Bool.true_or]

theorem any_foldl_insertAbsent (h : (l.any fun existing => clash existing b)) :
    ((inserted.foldl (insertAbsent clash) l).any fun existing => clash existing b) := by
  induction inserted generalizing l with
  | nil => exact h
  | cons a inserted ih => exact ih (any_insertAbsent h)

theorem any_foldl_insertAbsent_of_mem (hrefl : ∀ a, clash a a) (h : b ∈ inserted) :
    ((inserted.foldl (insertAbsent clash) l).any fun existing => clash existing b) := by
  induction inserted generalizing l with
  | nil => cases h
  | cons a inserted ih =>
    rw [foldl_cons]
    obtain rfl | h := List.mem_cons.mp h
    · refine any_foldl_insertAbsent ?_
      unfold insertAbsent
      split
      next hany => exact hany
      next =>
        rw [any_append, any_cons, hrefl, Bool.true_or, Bool.or_true]
    · exact ih h

theorem foldl_insertAbsent_of_clash
    (h : ∀ b ∈ inserted, (l.any fun existing => clash existing b)) :
    inserted.foldl (insertAbsent clash) l = l := by
  induction inserted with
  | nil => rfl
  | cons a inserted ih =>
    rw [foldl_cons, insertAbsent_of_clash (h a mem_cons_self)]
    exact ih fun b hb => h b (mem_cons_of_mem a hb)

theorem foldl_insertAbsent_again (hrefl : ∀ a, clash a a)
    (hf : ∀ a b, clash (f a) b = clash a b) :
    inserted.foldl (insertAbsent clash) ((inserted.foldl (insertAbsent clash) l).map f) =
      (inserted.foldl (insertAbsent clash) l).map f := by
  refine foldl_insertAbsent_of_clash fun b hb => ?_
  rw [any_map]
  have hany := any_foldl_insertAbsent_of_mem (l := l) hrefl hb
  simpa only [Function.comp_def, hf] using hany

section

variable {κ : Type*} [BEq κ] [LawfulBEq κ] (key : α → κ) (k : κ)

theorem find?_foldl_insertAbsent :
    (inserted.foldl (insertAbsent fun existing a => key existing == key a) l).find?
        (fun a => key a == k) =
      (l.find? fun a => key a == k).or (inserted.find? fun a => key a == k) := by
  induction inserted generalizing l with
  | nil => simp
  | cons a inserted ih =>
    rw [foldl_cons, ih, find?_cons]
    by_cases hany : (l.any fun existing => key existing == key a)
    · rw [insertAbsent_of_clash hany]
      by_cases hk : (key a == k)
      · -- the clash is with an element of the same key
        have hkey : key a = k := eq_of_beq hk
        rw [hkey] at hany
        obtain ⟨found, hfound⟩ := Option.isSome_iff_exists.mp
          (List.find?_isSome.mpr (List.any_eq_true.mp hany))
        rw [hfound, Option.some_or, Option.some_or]
      · rw [Bool.not_eq_true] at hk
        simp only [hk]
    · have hnew : insertAbsent (fun existing a => key existing == key a) l a = l ++ [a] :=
        if_neg hany
      rw [hnew, find?_append, find?_singleton]
      by_cases hk : (key a == k)
      · simp [hk]
      · simp [hk]

theorem mem_map_foldl_insertAbsent :
    k ∈ (inserted.foldl (insertAbsent fun existing a => key existing == key a) l).map key ↔
      k ∈ l.map key ∨ k ∈ inserted.map key := by
  have hmem (l : List α) : k ∈ l.map key ↔ (l.find? fun a => key a == k).isSome := by
    simp [find?_isSome]
  rw [hmem, hmem, hmem, find?_foldl_insertAbsent, Option.isSome_or, Bool.or_eq_true]

end

end AqualinkAutomate.General
