import Mathlib.Data.List.Cycle

/-!
# Tables with one entry for each key

A table is a list of keys with their values, looked up with `List.lookup`.  A key is erased, and
entries are dropped, by filtering.  To write a value, its key is erased and the entry put in front.

Erasing keeps the other keys as they are whatever the list.  Dropping does so where no key has two
entries: an entry that is dropped then uncovers no other (`lookup_filter_of_nodup`).
-/

namespace AqualinkAutomate.General

open List

section

variable {K V : Type*} [BEq K] [LawfulBEq K] {table : List (K × V)} {k k' : K}

theorem lookup_filter_ne (h : k' ≠ k) :
    (table.filter fun entry => entry.1 != k).lookup k' = table.lookup k' := by
  induction table with
  | nil => rfl
  | cons entry table ih =>
    obtain ⟨key, value⟩ := entry
    by_cases hkey : key = k
    · subst hkey
      rw [filter_cons_of_neg (by simp), lookup_cons, beq_false_of_ne h, ih]
    · rw [filter_cons_of_pos (by simpa using hkey), lookup_cons, lookup_cons, ih]

theorem lookup_filter_self : (table.filter fun entry => entry.1 != k).lookup k = none := by
  rw [lookup_eq_none_iff]
  intro entry hentry
  have hne : entry.1 ≠ k := by simpa using (List.mem_filter.mp hentry).2
  simpa using hne.symm

/-- The entry of a key is kept or dropped, and nothing else takes its place. -/
theorem lookup_filter_of_nodup (p : K × V → Bool) (h : (table.map Prod.fst).Nodup) (k : K) :
    (table.filter p).lookup k = (table.lookup k).filter fun value => p (k, value) := by
  induction table with
  | nil => rfl
  | cons entry table ih =>
    obtain ⟨key, value⟩ := entry
    rw [map_cons, nodup_cons] at h
    by_cases hkey : k = key
    · subst hkey
      have habsent : (table.filter p).lookup k = none := by
        rw [lookup_eq_none_iff]
        intro entry hentry
        have hmem : entry.1 ∈ table.map Prod.fst :=
          mem_map_of_mem (List.mem_filter.mp hentry).1
        have hne : k ≠ entry.1 := fun heq => h.1 (heq ▸ hmem)
        simpa using hne
      cases hp : p (k, value) with
      | true => simp [filter_cons_of_pos hp, Option.filter, hp]
      | false =>
        simp [filter_cons_of_neg (by simp [hp] : ¬ p (k, value)), Option.filter, hp, habsent]
    · cases hp : p (key, value) with
      | true => simp [filter_cons_of_pos hp, lookup_cons, beq_false_of_ne hkey, ih h.2]
      | false =>
        simp [filter_cons_of_neg (by simp [hp] : ¬ p (key, value)),
          lookup_cons, beq_false_of_ne hkey, ih h.2]

omit [BEq K] [LawfulBEq K] in
theorem nodup_keys_filter (p : K × V → Bool) (h : (table.map Prod.fst).Nodup) :
    ((table.filter p).map Prod.fst).Nodup :=
  h.sublist (List.filter_sublist.map Prod.fst)

theorem nodup_keys_write (value : V) (h : (table.map Prod.fst).Nodup) :
    (((k, value) :: table.filter fun entry => entry.1 != k).map Prod.fst).Nodup := by
  rw [map_cons, nodup_cons]
  refine ⟨fun hmem => ?_, nodup_keys_filter _ h⟩
  obtain ⟨entry, hentry, hkey⟩ := List.mem_map.mp hmem
  simpa [hkey] using (List.mem_filter.mp hentry).2

end

/-!
## A guard that remembers the last key

A program that must act once per key often remembers only the key it acted on last and
skips a key that is equal to it.  `passes last keys` is the list of keys that such a
guard lets through.

One remembered key is enough as long as no key comes back after another one, which is
what keys that never decrease give: then every key that occurs is let through exactly
once, however often it occurs (`count_passes`).
-/

variable {κ : Type*} [DecidableEq κ] {last : Option κ} {key : κ} {keys : List κ}

/-- The keys that differ from the one let through before them. -/
def passes : Option κ → List κ → List κ
  | _, [] => []
  | last, key :: keys =>
    if last = some key then passes last keys else key :: passes (some key) keys

@[simp] theorem passes_nil : passes last [] = [] := rfl

theorem passes_cons_of_eq (h : last = some key) : passes last (key :: keys) = passes last keys := by
  simp [passes, h]

theorem passes_cons_of_ne (h : last ≠ some key) :
    passes last (key :: keys) = key :: passes (some key) keys := by
  simp [passes, h]

theorem count_passes_of_le [PartialOrder κ] (hsorted : keys.Pairwise (· ≤ ·))
    (hlast : ∀ l, last = some l → ∀ k ∈ keys, l ≤ k) (key : κ) :
    (passes last keys).count key = if key ∈ keys ∧ last ≠ some key then 1 else 0 := by
  induction keys generalizing last with
  | nil => simp
  | cons first keys ih =>
    rw [pairwise_cons] at hsorted
    by_cases heq : last = some first
    · rw [passes_cons_of_eq heq, ih hsorted.2 fun l hl k hk => hlast l hl k (mem_cons_of_mem _ hk)]
      -- an occurrence of `first` is one of the remembered key, which counts on neither side
      have hiff : key ∈ keys ∧ last ≠ some key ↔ key ∈ first :: keys ∧ last ≠ some key := by
        rw [heq, mem_cons]
        constructor
        · rintro ⟨hmem, hne⟩
          exact ⟨.inr hmem, hne⟩
        · rintro ⟨hmem | hmem, hne⟩
          · exact absurd (by rw [hmem]) hne
          · exact ⟨hmem, hne⟩
      simp only [hiff]
    · rw [passes_cons_of_ne heq, count_cons, ih hsorted.2 (fun l hl k hk => by
          cases hl
          exact hsorted.1 k hk)]
      by_cases hkey : key = first
      · subst hkey
        simp [heq]
      · have hback : key ∈ keys → last ≠ some key := by
          intro hmem hl
          have hle := hlast key hl first (by simp)
          exact hkey (le_antisymm hle (hsorted.1 key hmem))
        by_cases hmem : key ∈ keys
        · simp [hmem, hback hmem, hkey, Ne.symm hkey]
        · simp [hmem, hkey, Ne.symm hkey]

theorem count_passes [PartialOrder κ] (hsorted : keys.Pairwise (· ≤ ·)) (key : κ) :
    (passes none keys).count key = if key ∈ keys then 1 else 0 := by
  rw [count_passes_of_le hsorted (by simp)]
  simp

end AqualinkAutomate.General
