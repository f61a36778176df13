import Mathlib.Data.List.Basic

/-!
# Dot segments

A path goes down into something, up to what it came from, or stays where it is.  Read from the back,
what is left of it is a number of ways up that nothing in it takes back, and then the ways down that
are not taken back (`net`).
-/

namespace AqualinkAutomate.General

inductive PathStep where
  | stay
  | up
  | down
  deriving DecidableEq

section

variable {Segment : Type*} (step : Segment → PathStep)

/-- What is left of a path: ways up, and then ways down. -/
def net : List Segment → ℕ × List Segment
  | [] => (0, [])
  | segment :: rest =>
    match step segment, net rest with
    | .stay, left => left
    | .up, (ups, downs) => (ups + 1, downs)
    | .down, (0, downs) => (0, segment :: downs)
    | .down, (ups + 1, downs) => (ups, downs)

variable {step} {segment : Segment} {rest : List Segment}

theorem net_stay (h : step segment = .stay) : net step (segment :: rest) = net step rest := by
  rw [net, h]

theorem net_up (h : step segment = .up) :
    net step (segment :: rest) = ((net step rest).1 + 1, (net step rest).2) := by
  rw [net, h]

theorem net_down_of_zero (h : step segment = .down) (hrest : (net step rest).1 = 0) :
    net step (segment :: rest) = (0, segment :: (net step rest).2) := by
  rw [net, h]
  cases hnet : net step rest with
  | mk ups downs =>
    rw [hnet] at hrest
    cases hrest
    rfl

theorem net_down_of_pos (h : step segment = .down) (hrest : 0 < (net step rest).1) :
    net step (segment :: rest) = ((net step rest).1 - 1, (net step rest).2) := by
  rw [net, h]
  cases hnet : net step rest with
  | mk ups downs =>
    rw [hnet] at hrest
    cases ups with
    | zero => cases hrest
    | succ ups => rfl

/-- A way down takes back one way up. -/
theorem net_down_fst (h : step segment = .down) :
    (net step (segment :: rest)).1 = (net step rest).1 - 1 := by
  rcases Nat.eq_zero_or_pos (net step rest).1 with hzero | hpos
  · rw [net_down_of_zero h hzero, hzero]
  · rw [net_down_of_pos h hpos]

end

end AqualinkAutomate.General
