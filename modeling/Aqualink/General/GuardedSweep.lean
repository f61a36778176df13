import Mathlib.Data.List.Pairwise

/-!
# Passes that an error ends

A pass makes entries of one item after the other.  One guard is around the whole pass: an item of
which no entries can be made ends it, with the entries made by then (`attemptAll`).

So every other item has its entries exactly if nothing that has any comes behind one that fails
(`attemptAll_eq_iff`).

A publisher keeps a record of the keys of its last pass, and removes what is on the record and not
in the pass.  `Ledger` has the record, and beside it what is really there.
-/

namespace AqualinkAutomate.General

open List

/-! ## Attempts -/

section

variable {α β : Type*} (attempt : α → Option (List β))

def attemptAll : List α → List β × Bool
  | [] => ([], true)
  | item :: items =>
    match attempt item with
    | none => ([], false)
    | some entries =>
      let rest := attemptAll items
      (entries ++ rest.1, rest.2)

/-- The entries of an item, of which there are none if it fails. -/
def made (item : α) : List β := (attempt item).getD []

/-- No item that has entries comes behind one that fails. -/
def FailuresLast (items : List α) : Prop :=
  items.Pairwise fun first later => attempt first = none → made attempt later = []

variable {attempt} {items : List α} {item : α} {entries : List β}

theorem made_of_eq_some (h : attempt item = some entries) : made attempt item = entries := by
  rw [made, h, Option.getD_some]

theorem made_of_eq_none (h : attempt item = none) : made attempt item = [] := by
  rw [made, h, Option.getD_none]

theorem attemptAll_complete_iff :
    (attemptAll attempt items).2 ↔ ∀ item ∈ items, attempt item ≠ none := by
  induction items with
  | nil => simp [attemptAll]
  | cons item items ih =>
    rw [attemptAll, forall_mem_cons]
    cases hitem : attempt item with
    | none => simp
    | some entries => simpa using ih

theorem attemptAll_eq_iff :
    (attemptAll attempt items).1 = items.flatMap (made attempt) ↔ FailuresLast attempt items := by
  unfold FailuresLast
  induction items with
  | nil => simp [attemptAll]
  | cons item items ih =>
    rw [attemptAll, flatMap_cons, pairwise_cons]
    cases hitem : attempt item with
    | none =>
      rw [made_of_eq_none hitem, nil_append]
      constructor
      · intro hnone
        have hempty := List.flatMap_eq_nil_iff.mp hnone.symm
        refine ⟨fun later hlater _ => hempty later hlater, ?_⟩
        exact pairwise_of_forall_mem_list fun _ _ later hlater _ => hempty later hlater
      · rintro ⟨hempty, -⟩
        exact (List.flatMap_eq_nil_iff.mpr fun later hlater => hempty later hlater rfl).symm
    | some entries =>
      rw [made_of_eq_some hitem, append_cancel_left_eq, ih]
      simp

theorem attemptAll_sublist :
    (attemptAll attempt items).1.Sublist (items.flatMap (made attempt)) := by
  induction items with
  | nil => exact .slnil
  | cons item items ih =>
    rw [attemptAll, flatMap_cons]
    cases hitem : attempt item with
    | none => exact nil_sublist _
    | some entries =>
      rw [made_of_eq_some hitem]
      exact (List.Sublist.refl entries).append ih

theorem attemptAll_of_complete (h : (attemptAll attempt items).2) :
    (attemptAll attempt items).1 = items.flatMap (made attempt) := by
  have hall := attemptAll_complete_iff.mp h
  refine attemptAll_eq_iff.mpr (pairwise_of_forall_mem_list ?_)
  exact fun first hfirst _ _ hfails => absurd hfails (hall first hfirst)

end

/-! ## Ledgers -/

/-- What a publisher has on record, and what it has published and not removed since. -/
structure Ledger (κ : Type*) where
  recorded : List κ := []
  live : List κ := []

namespace Ledger

variable {κ : Type*} (ledger : Ledger κ) (keys : List κ)

def Consistent : Prop := ∀ key, key ∈ ledger.recorded ↔ key ∈ ledger.live

/-- A pass that has ended before its end. -/
def extend : Ledger κ := { ledger with live := ledger.live ++ keys }

section

variable [DecidableEq κ]

def stale : List κ := ledger.recorded.filter (· ∉ keys)

def replace : Ledger κ where
  recorded := keys
  live := (ledger.live ++ keys).filter (· ∉ ledger.stale keys)

end

variable {ledger keys}

theorem Consistent.replace [DecidableEq κ] (h : ledger.Consistent) :
    (ledger.replace keys).Consistent := by
  intro key
  simp only [Ledger.replace, stale, mem_filter, mem_append, decide_eq_true_eq, not_and, not_not]
  constructor
  · intro hkey
    exact ⟨.inr hkey, fun _ => hkey⟩
  · rintro ⟨hlive | hkey, hkept⟩
    · exact hkept ((h key).mpr hlive)
    · exact hkey

theorem Consistent.extend_iff (h : ledger.Consistent) :
    (ledger.extend keys).Consistent ↔ ∀ key ∈ keys, key ∈ ledger.recorded := by
  simp only [Consistent, extend, mem_append]
  constructor
  · intro hsame key hkey
    exact (hsame key).mpr (.inr hkey)
  · intro hrecorded key
    refine (h key).trans ⟨.inl, ?_⟩
    rintro (hlive | hkey)
    · exact hlive
    · exact (h key).mp (hrecorded key hkey)

end Ledger

end AqualinkAutomate.General
