import Mathlib.Data.List.Sort

/-!
# Wheels

A wheel has a number of positions and is turned one position at a time, up or down.

* `ahead n x target`: how many turns up lead from `x` to the target.
* `turn n x target`: one turn, in the direction in which it is not farther.
* `distance n x target`: how many of these turns it takes.

Each turn takes one off the distance (`distance_turn`), which is at most half the wheel.
-/

namespace AqualinkAutomate.General.Wheel

variable {n x target : ℕ}

def up (n x : ℕ) : ℕ := (x + 1) % n

def down (n x : ℕ) : ℕ := (x + (n - 1)) % n

/-- The number of turns up to the target. -/
def ahead (n x target : ℕ) : ℕ := (target + (n - x)) % n

/-- One turn in the shorter direction, up if both are as long. -/
def turn (n x target : ℕ) : ℕ := if ahead n x target ≤ n / 2 then up n x else down n x

def distance (n x target : ℕ) : ℕ := min (ahead n x target) (n - ahead n x target)

section

variable (h : x < n)

include h

theorem up_lt : up n x < n := Nat.mod_lt _ (by omega)

theorem down_lt : down n x < n := Nat.mod_lt _ (by omega)

theorem ahead_lt (target : ℕ) : ahead n x target < n := Nat.mod_lt _ (by omega)

theorem up_eq : up n x = if x + 1 = n then 0 else x + 1 := by
  unfold up
  split_ifs with hlast
  · rw [hlast, Nat.mod_self]
  · exact Nat.mod_eq_of_lt (by omega)

theorem down_eq : down n x = if x = 0 then n - 1 else x - 1 := by
  unfold down
  split_ifs with hzero
  · rw [hzero, Nat.zero_add, Nat.mod_eq_of_lt (by omega)]
  · have hround : x + (n - 1) = n + (x - 1) := by omega
    rw [hround, Nat.add_mod_left, Nat.mod_eq_of_lt (by omega)]

section

variable (htarget : target < n)

include htarget

theorem ahead_eq : ahead n x target = if x ≤ target then target - x else target + (n - x) := by
  unfold ahead
  split_ifs with hle
  · have hround : target + (n - x) = n + (target - x) := by omega
    rw [hround, Nat.add_mod_left, Nat.mod_eq_of_lt (by omega)]
  · exact Nat.mod_eq_of_lt (by omega)

theorem ahead_eq_zero_iff : ahead n x target = 0 ↔ x = target := by
  rw [ahead_eq h htarget]
  split_ifs with hle <;> omega

/-- A turn up comes nearer from behind. -/
theorem ahead_up (hne : x ≠ target) : ahead n (up n x) target + 1 = ahead n x target := by
  rw [ahead_eq (up_lt h) htarget, ahead_eq h htarget, up_eq h]
  split_ifs <;> omega

/-- A turn down comes nearer from the other side. -/
theorem ahead_down :
    ahead n (down n x) target = if ahead n x target + 1 = n then 0 else ahead n x target + 1 := by
  rw [ahead_eq (down_lt h) htarget, ahead_eq h htarget, down_eq h]
  split_ifs <;> omega

theorem distance_eq_zero_iff : distance n x target = 0 ↔ x = target := by
  have hahead := ahead_lt h target
  rw [← ahead_eq_zero_iff h htarget, distance]
  omega

/-- **Turning.**  A turn takes one off the distance. -/
theorem distance_turn (hne : x ≠ target) :
    distance n (turn n x target) target + 1 = distance n x target := by
  have hpos : ahead n x target ≠ 0 := fun hzero => hne ((ahead_eq_zero_iff h htarget).mp hzero)
  have hlt := ahead_lt h target
  unfold turn
  split
  next hnear =>
    have hup := ahead_up h htarget hne
    unfold distance
    omega
  next hfar =>
    have hdown := ahead_down h htarget
    unfold distance
    rw [hdown]
    split <;> omega

end

end

theorem distance_le (n x target : ℕ) : distance n x target ≤ n / 2 := by
  unfold distance
  omega

/-! ## Going round -/

theorem up_add_mod (n x k : ℕ) : up n ((x + k) % n) = (x + (k + 1)) % n := by
  rw [up, Nat.mod_add_mod, Nat.add_assoc]

/-- Every position comes by in a round. -/
theorem exists_add_mod_eq (h : x < n) (htarget : target < n) : ∃ k < n, (x + k) % n = target := by
  refine ⟨ahead n x target, ahead_lt h target, ?_⟩
  rw [ahead_eq h htarget]
  split_ifs with hle
  · rw [Nat.add_sub_cancel' hle, Nat.mod_eq_of_lt htarget]
  · have hround : x + (target + (n - x)) = n + target := by omega
    rw [hround, Nat.add_mod_left, Nat.mod_eq_of_lt htarget]

/-- The start comes back with a full round, and not before. -/
theorem add_mod_eq_self_iff (h : x < n) {k : ℕ} (hpos : 0 < k) (hk : k ≤ n) :
    (x + k) % n = x ↔ k = n := by
  constructor
  · intro hback
    by_contra hne
    by_cases hwrap : x + k < n
    · rw [Nat.mod_eq_of_lt hwrap] at hback
      omega
    · have hround : x + k = n + (x + k - n) := by omega
      rw [hround, Nat.add_mod_left, Nat.mod_eq_of_lt (by omega)] at hback
      omega
  · rintro rfl
    rw [Nat.add_mod_right, Nat.mod_eq_of_lt h]

end AqualinkAutomate.General.Wheel
