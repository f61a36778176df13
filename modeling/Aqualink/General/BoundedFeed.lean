import Mathlib.Data.List.DropRight
import Mathlib.Data.List.Infix

/-!
# Bounded queues and sliding windows

A queue of a bounded capacity, to which elements are pushed and from which they are taken.  A push
to the full queue drops the element at its front.

What was taken together with what waits is a sublist of what was pushed, and what waits is the end
of it (`Feed.Serves`).  An element can be dropped by one push only, the one that comes `capacity`
pushes after its own, and only if that finds the queue full (`Feed.Holds.push`).  If it is not
dropped, it has been taken when the queue is empty, and only later ones were taken after it.

Items come one after the other, each with a time, and the window is what is not older than a given
age.  A container that keeps the items in their order can drop the expired ones from its front
(`prune`), and because the times are ordered nothing that has expired stays behind
(`prune_eq_within`).

Done with every insertion, this keeps the items that are within the window at the last of them
(`kept`), and with a bounded capacity the newest ones of these.  At a later time this is still the
window exactly if none of them has expired since.
-/

namespace AqualinkAutomate.General

open List

section

variable {α : Type*} {capacity : ℕ} {pushed later queue : List α} {x y : α}

def pushBounded (capacity : ℕ) (queue : List α) (x : α) : List α :=
  (if capacity ≤ queue.length then queue.tail else queue) ++ [x]

theorem pushBounded_sublist : (pushBounded capacity queue x).Sublist (queue ++ [x]) := by
  unfold pushBounded
  split_ifs
  · exact (tail_sublist queue).append_right [x]
  · exact List.Sublist.refl _

theorem length_pushBounded_le (hpos : 0 < capacity) (h : queue.length ≤ capacity) :
    (pushBounded capacity queue x).length ≤ capacity := by
  unfold pushBounded
  split_ifs with hfull
  · rw [length_append, length_tail, length_singleton]
    omega
  · rw [length_append, length_singleton]
    omega

theorem pushBounded_suffix (h : queue <:+ pushed) :
    pushBounded capacity queue x <:+ pushed ++ [x] := by
  obtain ⟨older, rfl⟩ := h
  unfold pushBounded
  split_ifs
  · obtain ⟨front, hfront⟩ := tail_suffix queue
    refine ⟨older ++ front, ?_⟩
    calc older ++ front ++ (queue.tail ++ [x])
        = older ++ (front ++ queue.tail) ++ [x] := by simp only [append_assoc]
      _ = older ++ queue ++ [x] := by rw [hfront]
  · exact ⟨older, (append_assoc older queue [x]).symm⟩

structure Feed (α : Type*) where
  waiting : List α := []
  taken : List α := []

namespace Feed

variable {feed : Feed α}

def push (capacity : ℕ) (feed : Feed α) (x : α) : Feed α :=
  { feed with waiting := pushBounded capacity feed.waiting x }

def take (feed : Feed α) : Feed α :=
  match feed.waiting with
  | [] => feed
  | x :: rest => ⟨rest, feed.taken ++ [x]⟩

/-- What was not dropped. -/
def kept (feed : Feed α) : List α := feed.taken ++ feed.waiting

@[simp] theorem kept_take : feed.take.kept = feed.kept := by
  unfold take kept
  split
  · rfl
  case h_2 x rest hwaiting =>
    rw [hwaiting, append_assoc]
    rfl

theorem waiting_take : feed.take.waiting = feed.waiting.tail := by
  unfold take
  split
  case h_1 hwaiting => rw [hwaiting, tail_nil]
  case h_2 hwaiting => rw [hwaiting, tail_cons]

/-! ## A feed of what was pushed -/

structure Serves (capacity : ℕ) (pushed : List α) (feed : Feed α) : Prop where
  bounded : feed.waiting.length ≤ capacity
  newest : feed.waiting <:+ pushed
  ordered : feed.kept.Sublist pushed

theorem serves_empty : Serves capacity ([] : List α) {} :=
  ⟨Nat.zero_le _, nil_suffix, List.Sublist.refl _⟩

theorem Serves.push (hpos : 0 < capacity) (h : Serves capacity pushed feed) :
    Serves capacity (pushed ++ [x]) (feed.push capacity x) where
  bounded := length_pushBounded_le hpos h.bounded
  newest := pushBounded_suffix h.newest
  ordered := by
    have hkept : (feed.push capacity x).kept.Sublist (feed.kept ++ [x]) := by
      rw [kept, kept, append_assoc]
      exact List.Sublist.append_left pushBounded_sublist feed.taken
    exact hkept.trans (h.ordered.append_right [x])

theorem Serves.take (h : Serves capacity pushed feed) : Serves capacity pushed feed.take where
  bounded := by
    rw [waiting_take, length_tail]
    exact (Nat.sub_le _ _).trans h.bounded
  newest := by
    rw [waiting_take]
    exact (tail_suffix _).trans h.newest
  ordered := by
    rw [kept_take]
    exact h.ordered

/-! ## An element that is not dropped -/

/-- The element waits, with all the later ones behind it, or it was taken, and after it only later
ones. -/
inductive Holds (x : α) (later : List α) (feed : Feed α) : Prop
  | waits (front : List α) (hwaiting : feed.waiting = front ++ x :: later)
  | taken (before after : List α) (htaken : feed.taken = before ++ x :: after)
      (hafter : (after ++ feed.waiting).Sublist later)

theorem holds_push : Holds x [] (feed.push capacity x) := .waits _ rfl

theorem Holds.take (h : Holds x later feed) : Holds x later feed.take := by
  cases hwaiting : feed.waiting with
  | nil =>
    rwa [show feed.take = feed by simp only [Feed.take, hwaiting]]
  | cons first rest =>
    have htake : feed.take = ⟨rest, feed.taken ++ [first]⟩ := by simp only [Feed.take, hwaiting]
    rw [htake]
    cases h with
    | waits front hfront =>
      cases front with
      | nil =>
        -- it is the element itself that is taken
        rw [hwaiting] at hfront
        cases hfront
        exact .taken feed.taken [] rfl (List.Sublist.refl _)
      | cons second front =>
        rw [hwaiting] at hfront
        exact .waits front (List.cons.inj hfront).2
    | taken before after htaken hafter =>
      refine .taken before (after ++ [first]) ?_ ?_
      · show feed.taken ++ [first] = before ++ x :: (after ++ [first])
        rw [htaken, append_assoc, cons_append]
      · rw [hwaiting] at hafter
        rwa [append_assoc, singleton_append]

/-- A push keeps the element, unless it comes `capacity` pushes after it and finds the queue
full. -/
theorem Holds.push (h : Holds x later feed) (hbounded : feed.waiting.length ≤ capacity)
    (hroom : later.length + 1 = capacity → feed.waiting.length < capacity) :
    Holds x (later ++ [y]) (feed.push capacity y) := by
  cases h with
  | waits front hfront =>
    by_cases hfull : capacity ≤ feed.waiting.length
    · have hpush : (feed.push capacity y).waiting = feed.waiting.tail ++ [y] := by
        rw [Feed.push, pushBounded, if_pos hfull]
      cases front with
      | nil =>
        have hlength := congrArg List.length hfront
        rw [nil_append, length_cons] at hlength
        have := hroom (by omega)
        omega
      | cons second front =>
        refine .waits front ?_
        rw [hpush, hfront, cons_append, tail_cons, append_assoc, cons_append]
    · refine .waits front ?_
      rw [Feed.push, pushBounded, if_neg hfull, hfront, append_assoc, cons_append]
  | taken before after htaken hafter =>
    refine .taken before after htaken ?_
    calc (after ++ pushBounded capacity feed.waiting y).Sublist
          (after ++ (feed.waiting ++ [y])) := List.Sublist.append_left pushBounded_sublist after
      _ = after ++ feed.waiting ++ [y] := (append_assoc ..).symm
      List.Sublist _ (later ++ [y]) := hafter.append_right [y]

theorem Holds.of_drained (h : Holds x later feed) (hdrained : feed.waiting = []) :
    ∃ before after, feed.taken = before ++ x :: after ∧ after.Sublist later := by
  cases h with
  | waits front hfront =>
    rw [hdrained] at hfront
    exact absurd hfront.symm (append_ne_nil_of_right_ne_nil front (cons_ne_nil _ _))
  | taken before after htaken hafter =>
    rw [hdrained, append_nil] at hafter
    exact ⟨before, after, htaken, hafter⟩

theorem Holds.getLast?_filter {sort : α → Bool} (h : Holds x later feed)
    (hdrained : feed.waiting = []) (hx : sort x) (hlater : ∀ y ∈ later, sort y = false) :
    (feed.taken.filter sort).getLast? = some x := by
  obtain ⟨before, after, htaken, hafter⟩ := h.of_drained hdrained
  have hnone : after.filter sort = [] := by
    rw [filter_eq_nil_iff]
    intro y hy
    rw [hlater y (hafter.subset hy)]
    exact Bool.false_ne_true
  rw [htaken, filter_append, filter_cons_of_pos hx, hnone, getLast?_concat]

end Feed

end

/-! ## Sliding windows -/

namespace SlidingWindow

variable {Item : Type*} (time : Item → ℤ) (window : ℤ)

def Ordered (items : List Item) : Prop :=
  items.Pairwise fun first second => time first ≤ time second

def within (now : ℤ) (items : List Item) : List Item :=
  items.filter fun item => decide (now - time item ≤ window)

/-- Without the items at the front that are. -/
def prune (now : ℤ) (items : List Item) : List Item :=
  items.dropWhile fun item => decide (now - time item > window)

def latest (items : List Item) : ℤ := (items.getLast?.map time).getD 0

/-- The items within the window at the last of them. -/
def kept (items : List Item) : List Item := within time window (latest time items) items

/-- Items in the order of their times, and a query that comes after them. -/
structure Timeline where
  items : List Item
  query : ℤ
  ordered : Ordered time items
  before : ∀ item ∈ items, time item ≤ query

variable {time window} {items : List Item} {x : Item} {now earlier : ℤ} {capacity : ℕ}

theorem within_eq_self_iff :
    within time window now items = items ↔ ∀ item ∈ items, now - time item ≤ window := by
  rw [within, filter_eq_self]
  simp only [decide_eq_true_eq]

theorem within_cons_of_expired (h : now - time x > window) :
    within time window now (x :: items) = within time window now items :=
  filter_cons_of_neg (by rw [decide_eq_true_iff]; omega)

theorem Ordered.fresh (h : Ordered time (x :: items)) (hx : ¬ now - time x > window) :
    ∀ item ∈ x :: items, now - time item ≤ window := by
  intro item hitem
  rw [Ordered, pairwise_cons] at h
  obtain rfl | hitem := List.mem_cons.mp hitem
  · omega
  · have := h.1 item hitem
    omega

theorem prune_eq_within (h : Ordered time items) :
    prune time window now items = within time window now items := by
  induction items with
  | nil => rfl
  | cons item items ih =>
    by_cases hexpired : now - time item > window
    · have hdropped : prune time window now (item :: items) = prune time window now items :=
        dropWhile_cons_of_pos (by simpa using hexpired)
      rw [hdropped, within_cons_of_expired hexpired, ih (List.Pairwise.of_cons h)]
    · have hall : prune time window now (item :: items) = item :: items :=
        dropWhile_cons_of_neg (by simpa using hexpired)
      rw [hall, within_eq_self_iff.mpr (h.fresh hexpired)]

theorem within_within (h : earlier ≤ now) :
    within time window now (within time window earlier items) = within time window now items := by
  rw [within, within, within, filter_filter]
  refine filter_congr fun item _ => ?_
  rw [← Bool.decide_and, decide_eq_decide]
  omega

theorem Ordered.within (h : Ordered time items) :
    Ordered time (SlidingWindow.within time window now items) :=
  h.sublist filter_sublist

theorem latest_concat : latest time (items ++ [x]) = time x := by
  rw [latest, getLast?_concat]
  rfl

section

variable (h : Ordered time (items ++ [x]))

include h

theorem Ordered.latest_le (hne : items ≠ []) : latest time items ≤ time x := by
  obtain ⟨init, last, rfl⟩ := eq_nil_or_concat _ |>.resolve_left hne
  rw [concat_eq_append] at h ⊢
  rw [latest_concat]
  exact (List.pairwise_append.mp h).2.2 last (by simp) x (by simp)

theorem within_kept :
    within time window (time x) (kept time window items) = within time window (time x) items := by
  cases items with
  | nil => rfl
  | cons item items => exact within_within (h.latest_le (cons_ne_nil _ _))

theorem prune_kept_concat :
    prune time window (time x) (kept time window items ++ [x]) =
      kept time window (items ++ [x]) := by
  have hordered : Ordered time (kept time window items ++ [x]) :=
    h.sublist (List.filter_sublist.append_right [x])
  calc prune time window (time x) (kept time window items ++ [x])
      = within time window (time x) (kept time window items ++ [x]) := prune_eq_within hordered
    _ = within time window (time x) (kept time window items) ++ within time window (time x) [x] :=
        filter_append ..
    _ = within time window (time x) items ++ within time window (time x) [x] := by
        rw [within_kept h]
    _ = within time window (time x) (items ++ [x]) := (filter_append ..).symm
    _ = kept time window (items ++ [x]) := by rw [kept, latest_concat]

end

/-! ## The newest items -/

theorem rtake_concat (hpos : 0 < capacity) :
    (items ++ [x]).rtake capacity = items.rtake (capacity - 1) ++ [x] := by
  obtain ⟨n, rfl⟩ := Nat.exists_eq_add_of_lt hpos
  rw [Nat.zero_add, rtake_concat_succ, Nat.add_sub_cancel]

theorem rtake_of_length_le (h : items.length ≤ capacity) : items.rtake capacity = items := by
  rw [rtake, Nat.sub_eq_zero_of_le h, drop_zero]

theorem rtake_cons (h : capacity ≤ items.length) :
    (x :: items).rtake capacity = items.rtake capacity := by
  have hlength : (x :: items).length - capacity = (items.length - capacity) + 1 := by
    rw [length_cons]
    omega
  rw [rtake, hlength, drop_succ_cons, rtake]

theorem pushBounded_rtake (hpos : 0 < capacity) :
    pushBounded capacity (items.rtake capacity) x = (items ++ [x]).rtake capacity := by
  rw [rtake_concat hpos, pushBounded]
  congr 1
  have hlength : (items.rtake capacity).length = items.length - (items.length - capacity) := by
    rw [rtake, length_drop]
  split
  next hfull =>
    rw [rtake, rtake, tail_drop]
    congr 1
    omega
  next hroom =>
    rw [rtake_of_length_le (by omega), rtake_of_length_le (by omega)]

theorem rtake_within (h : Ordered time items) :
    (within time window now items).rtake capacity =
      within time window now (items.rtake capacity) := by
  induction items with
  | nil => simp [within]
  | cons item items ih =>
    by_cases hexpired : now - time item > window
    · rw [within_cons_of_expired hexpired]
      by_cases hlength : capacity ≤ items.length
      · rw [rtake_cons hlength, ih (List.Pairwise.of_cons h)]
      · have hshort : (within time window now items).length ≤ capacity :=
          (length_filter_le _ _).trans (by omega)
        rw [rtake_of_length_le hshort, rtake_of_length_le (by rw [length_cons]; omega),
          within_cons_of_expired hexpired]
    · have hall := h.fresh hexpired
      have hnewest : ∀ later ∈ (item :: items).rtake capacity, now - time later ≤ window :=
        fun later hlater => hall later (mem_of_mem_drop hlater)
      rw [within_eq_self_iff.mpr hall, within_eq_self_iff.mpr hnewest]

theorem prune_pushBounded (hpos : 0 < capacity) (h : Ordered time (items ++ [x])) :
    prune time window (time x) (pushBounded capacity ((kept time window items).rtake capacity) x) =
      (kept time window (items ++ [x])).rtake capacity := by
  have hordered : Ordered time (kept time window items ++ [x]) :=
    h.sublist (List.filter_sublist.append_right [x])
  have hnewest : Ordered time ((kept time window items ++ [x]).rtake capacity) :=
    hordered.sublist (drop_sublist _ _)
  rw [pushBounded_rtake hpos, prune_eq_within hnewest, ← rtake_within hordered,
    ← prune_eq_within hordered, prune_kept_concat h]

/-! ## Queries -/

variable {timeline : Timeline time}

theorem rtake_kept_eq_iff :
    (kept time window timeline.items).rtake capacity =
        (within time window timeline.query timeline.items).rtake capacity ↔
      ∀ item ∈ (kept time window timeline.items).rtake capacity,
        timeline.query - time item ≤ window := by
  have hwithin : within time window timeline.query timeline.items =
      within time window timeline.query (kept time window timeline.items) := by
    cases hitems : timeline.items using reverseRecOn with
    | nil => rfl
    | append_singleton items last =>
      rw [kept, latest_concat]
      refine (within_within (timeline.before last ?_)).symm
      rw [hitems]
      simp
  have hordered : Ordered time (kept time window timeline.items) := timeline.ordered.within
  rw [hwithin, rtake_within hordered, eq_comm, within_eq_self_iff]

theorem kept_eq_within_iff :
    kept time window timeline.items = within time window timeline.query timeline.items ↔
      ∀ item ∈ kept time window timeline.items, timeline.query - time item ≤ window := by
  have hkept : (kept time window timeline.items).length ≤ timeline.items.length :=
    length_filter_le _ _
  have hwithin : (within time window timeline.query timeline.items).length ≤
      timeline.items.length := length_filter_le _ _
  have hnewest := @rtake_kept_eq_iff _ time window timeline.items.length timeline
  rwa [rtake_of_length_le hkept, rtake_of_length_le hwithin] at hnewest

end SlidingWindow

end AqualinkAutomate.General
