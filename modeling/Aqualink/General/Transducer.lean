import Mathlib.Data.List.Basic

/-!
# Machines that read a stream symbol by symbol

A filter with a persistent state is a function `step : σ → ι → σ × List ο`: it
reads one symbol, moves on and emits some outputs.  `feed` runs it over a list.

The state survives from one read to the next, so how a stream is cut into reads
is invisible: `feedChunks_eq` says that feeding the reads one after the other is
feeding their concatenation.

`totalCost_feed_le` is an accounting rule.  If every step pays for the cost of what
it emits, and for the growth of a potential of the state, with the one symbol it
reads, then a run cannot emit outputs of a larger total cost than the potential
it started with and the number of symbols it read.
-/

namespace AqualinkAutomate.General

open List

variable {σ ι ο : Type*}

/-- Run a machine over a list of symbols: the final state and all outputs. -/
def feed (step : σ → ι → σ × List ο) : σ → List ι → σ × List ο
  | s, [] => (s, [])
  | s, x :: xs =>
    let first := step s x
    let rest := feed step first.1 xs
    (rest.1, first.2 ++ rest.2)

/-- Run a machine over a sequence of reads. -/
def feedChunks (step : σ → ι → σ × List ο) : σ → List (List ι) → σ × List ο
  | s, [] => (s, [])
  | s, chunk :: chunks =>
    let first := feed step s chunk
    let rest := feedChunks step first.1 chunks
    (rest.1, first.2 ++ rest.2)

variable (step : σ → ι → σ × List ο)

@[simp] theorem feed_nil (s : σ) : feed step s [] = (s, []) := rfl

theorem feed_cons (s : σ) (x : ι) (xs : List ι) :
    feed step s (x :: xs) =
      ((feed step (step s x).1 xs).1, (step s x).2 ++ (feed step (step s x).1 xs).2) := rfl

theorem feed_append (s : σ) (xs ys : List ι) :
    feed step s (xs ++ ys) =
      ((feed step (feed step s xs).1 ys).1,
        (feed step s xs).2 ++ (feed step (feed step s xs).1 ys).2) := by
  induction xs generalizing s with
  | nil => simp
  | cons x xs ih => simp only [cons_append, feed_cons, ih, append_assoc]

/-- Where a stream is cut into reads makes no difference. -/
theorem feedChunks_eq (s : σ) (chunks : List (List ι)) :
    feedChunks step s chunks = feed step s chunks.flatten := by
  induction chunks generalizing s with
  | nil => rfl
  | cons chunk chunks ih => simp only [feedChunks, flatten_cons, feed_append, ih]

def totalCost (cost : ο → ℕ) : List ο → ℕ
  | [] => 0
  | o :: os => cost o + totalCost cost os

@[simp] theorem totalCost_nil (cost : ο → ℕ) : totalCost cost [] = 0 := rfl

@[simp] theorem totalCost_cons (cost : ο → ℕ) (o : ο) (os : List ο) :
    totalCost cost (o :: os) = cost o + totalCost cost os := rfl

@[simp] theorem totalCost_append (cost : ο → ℕ) (os ps : List ο) :
    totalCost cost (os ++ ps) = totalCost cost os + totalCost cost ps := by
  induction os with
  | nil => simp
  | cons o os ih => simp [ih, Nat.add_assoc]

/-- What a run emits was paid for by the symbols it read. -/
theorem totalCost_feed_le {step : σ → ι → σ × List ο} (cost : ο → ℕ) (potential : σ → ℕ)
    (hstep : ∀ s x, potential (step s x).1 + totalCost cost (step s x).2 ≤ potential s + 1)
    (s : σ) (xs : List ι) :
    potential (feed step s xs).1 + totalCost cost (feed step s xs).2 ≤
      potential s + xs.length := by
  induction xs generalizing s with
  | nil => simp
  | cons x xs ih =>
    have hfirst := hstep s x
    have hrest := ih (step s x).1
    rw [feed_cons, totalCost_append, length_cons]
    calc
      _ = potential (feed step (step s x).1 xs).1 + totalCost cost (feed step (step s x).1 xs).2 +
            totalCost cost (step s x).2 := by dsimp only; omega
      _ ≤ potential (step s x).1 + xs.length + totalCost cost (step s x).2 := by omega
      _ ≤ potential s + (xs.length + 1) := by omega

end AqualinkAutomate.General
