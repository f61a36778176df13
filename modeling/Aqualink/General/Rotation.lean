import Mathlib.Data.List.Basic

/-!
# Rotations

A cursor goes round a list of entries, and at each turn it skips the entries that are not
wanted, hands out the one it stops at and moves on by one place.

* `next size i`: the place after `i`, and the first one after the last.
* `seek wanted entries guard i`: skip at most `guard` entries that are not wanted.
* `turn wanted entries i`: where the cursor is after the turn that starts at `i`.
* `rank wanted entries i`: how many wanted entries stand before the place `i`.
* `cycled entries k n`: the `n` entries that come in turn from the place `k` on.

Skipping keeps the rank, and the turn adds one to it, both modulo the number of wanted entries.
What is handed out is the wanted entry that has the rank of the cursor as its place among the
wanted ones (`entry_seek`).  So the turns hand out the wanted entries in order, time and again.
-/

namespace AqualinkAutomate.General.Rotation

open List

variable {α : Type*} {wanted : α → Bool} {entries : List α} {entry : α} {i j k n : ℕ}

/-- The place after `i`, and the first one after the last. -/
def next (size i : ℕ) : ℕ := if i + 1 = size then 0 else i + 1

/-- Skip at most `guard` entries that are not wanted. -/
def seek (wanted : α → Bool) (entries : List α) : ℕ → ℕ → ℕ
  | 0, i => i
  | guard + 1, i =>
    match entries[i]? with
    | some entry => if wanted entry then i else seek wanted entries guard (next entries.length i)
    | none => i

def turn (wanted : α → Bool) (entries : List α) (i : ℕ) : ℕ :=
  next entries.length (seek wanted entries entries.length i)

/-- How many wanted entries stand before the place `i`; all of them are as good as none. -/
def rank (wanted : α → Bool) (entries : List α) (i : ℕ) : ℕ :=
  (entries.take i).countP wanted % entries.countP wanted

/-- The `n` entries that come in turn from the place `k` on. -/
def cycled (entries : List α) (k n : ℕ) : List α :=
  (range n).filterMap fun i => entries[(k + i) % entries.length]?

/-! ## Places -/

theorem next_eq_mod (h : i < n) : next n i = (i + 1) % n := by
  unfold next
  split_ifs with hlast
  · rw [hlast, Nat.mod_self]
  · rw [Nat.mod_eq_of_lt (by omega)]

theorem next_lt (h : i < n) : next n i < n := by
  rw [next_eq_mod h]
  exact Nat.mod_lt _ (by omega)

/-- A turn of a cursor that designates an entry ends where it designates one. -/
theorem seek_lt (h : i < entries.length) (guard : ℕ) :
    seek wanted entries guard i < entries.length := by
  induction guard generalizing i with
  | zero => exact h
  | succ guard ih =>
    rw [seek, getElem?_eq_getElem h]
    dsimp only
    split_ifs
    · exact h
    · exact ih (next_lt h)

theorem turn_lt (h : i < entries.length) : turn wanted entries i < entries.length :=
  next_lt (seek_lt h _)

/-! ## Ranks -/

theorem countP_take_succ (wanted : α → Bool) (h : entries[i]? = some entry) :
    (entries.take (i + 1)).countP wanted =
      (entries.take i).countP wanted + if wanted entry then 1 else 0 := by
  rw [take_add_one, h, countP_append]
  simp [countP_singleton]

theorem rank_next (h : entries[i]? = some entry) :
    rank wanted entries (next entries.length i) =
      (rank wanted entries i + if wanted entry then 1 else 0) % entries.countP wanted := by
  have hcount := countP_take_succ wanted h
  unfold rank next
  rw [Nat.mod_add_mod, ← hcount]
  by_cases hlast : i + 1 = entries.length
  -- past the last entry all of the wanted ones have been counted
  · rw [if_pos hlast, hlast, take_length, Nat.mod_self, take_zero, countP_nil, Nat.zero_mod]
  · rw [if_neg hlast]

theorem getElem?_filter_countP_take (h : entries[i]? = some entry) (hwanted : wanted entry) :
    (entries.filter wanted)[(entries.take i).countP wanted]? = some entry := by
  induction entries generalizing i with
  | nil => simp at h
  | cons first rest ih =>
    cases i with
    | zero =>
      obtain rfl : first = entry := by simpa using h
      simp [hwanted]
    | succ i =>
      have hrest := ih (i := i) (by simpa using h)
      by_cases hfirst : wanted first
      · simpa [hfirst] using hrest
      · simpa [hfirst] using hrest

theorem entry_of_rank (h : entries[i]? = some entry) (hwanted : wanted entry) :
    (entries.filter wanted)[rank wanted entries i]? = some entry := by
  have hplace := getElem?_filter_countP_take h hwanted
  have hlt : (entries.take i).countP wanted < entries.countP wanted := by
    rw [countP_eq_length_filter (l := entries)]
    exact (List.getElem?_eq_some_iff.mp hplace).1
  rwa [rank, Nat.mod_eq_of_lt hlt]

/-! ## Turns -/

theorem seek_spec (guard : ℕ) {d : ℕ} (h : i < entries.length) (hd : d < guard)
    (hentry : entries[(i + d) % entries.length]? = some entry) (hwanted : wanted entry) :
    ∃ found, entries[seek wanted entries guard i]? = some found ∧ wanted found ∧
      rank wanted entries (seek wanted entries guard i) = rank wanted entries i := by
  induction guard generalizing i d with
  | zero => omega
  | succ guard ih =>
    have hi : entries[i]? = some entries[i] := getElem?_eq_getElem h
    rw [seek, hi]
    dsimp only
    by_cases hfound : wanted entries[i]
    · rw [if_pos hfound]
      exact ⟨entries[i], hi, hfound, rfl⟩
    rw [if_neg hfound]
    have hd0 : d ≠ 0 := by
      rintro rfl
      rw [Nat.add_zero, Nat.mod_eq_of_lt h, hi] at hentry
      cases hentry
      exact hfound hwanted
    have hahead : (next entries.length i + (d - 1)) % entries.length =
        (i + d) % entries.length := by
      rw [next_eq_mod h, Nat.mod_add_mod]
      congr 1
      omega
    obtain ⟨found, hplace, hgood, hrank⟩ := ih (next_lt h) (d := d - 1) (by omega)
      (by rw [hahead]; exact hentry)
    refine ⟨found, hplace, hgood, hrank.trans ?_⟩
    rw [rank_next hi, if_neg hfound, Nat.add_zero]
    unfold rank
    rw [Nat.mod_mod]

theorem entry_seek (h : i < entries.length) (hsome : ∃ entry ∈ entries, wanted entry) :
    entries[seek wanted entries entries.length i]? =
      (entries.filter wanted)[rank wanted entries i]? ∧
    rank wanted entries (turn wanted entries i) =
      (rank wanted entries i + 1) % (entries.filter wanted).length := by
  obtain ⟨entry, hmem, hwanted⟩ := hsome
  obtain ⟨j, hj, rfl⟩ := List.mem_iff_getElem.mp hmem
  have hahead : (i + (j + entries.length - i) % entries.length) % entries.length = j := by
    rw [Nat.add_mod_mod]
    have hsum : i + (j + entries.length - i) = j + entries.length := by omega
    rw [hsum, Nat.add_mod_right, Nat.mod_eq_of_lt hj]
  obtain ⟨found, hplace, hgood, hrank⟩ := seek_spec entries.length h
    (Nat.mod_lt _ (by omega)) (by rw [hahead]; exact getElem?_eq_getElem hj) hwanted
  constructor
  · rw [hplace, ← hrank]
    exact (entry_of_rank hplace hgood).symm
  · rw [turn, rank_next hplace, if_pos hgood, hrank, countP_eq_length_filter]

theorem rank_lt (hsome : ∃ entry ∈ entries, wanted entry) :
    rank wanted entries i < (entries.filter wanted).length := by
  obtain ⟨entry, hmem, hwanted⟩ := hsome
  rw [← countP_eq_length_filter]
  exact Nat.mod_lt _ (List.countP_pos_iff.mpr ⟨entry, hmem, hwanted⟩)

/-! ## Laps -/

@[simp] theorem cycled_zero : cycled entries k 0 = [] := rfl

theorem cycled_succ (h : entries[k]? = some entry) :
    cycled entries k (n + 1) = entry :: cycled entries ((k + 1) % entries.length) n := by
  have hlt : k < entries.length := (List.getElem?_eq_some_iff.mp h).1
  unfold cycled
  rw [range_succ_eq_map, filterMap_cons, Nat.add_zero, Nat.mod_eq_of_lt hlt, h]
  dsimp only
  rw [filterMap_map]
  congr 2
  funext i
  have hplace : ((k + 1) % entries.length + i) % entries.length =
      (k + (i + 1)) % entries.length := by
    rw [Nat.mod_add_mod]
    congr 1
    omega
  rw [Function.comp_apply, hplace]

end AqualinkAutomate.General.Rotation
