import Mathlib.Data.Rat.Floor
import Aqualink.General.Iteration

/-!
# Breadth-first search with a predecessor map

A queue of vertices and, for every vertex seen so far, the edge that first reached it.  One pass
takes a vertex off the queue and puts those of its successors on it that have not been seen.  The
path is then read off the predecessor map backwards.

Over finitely many vertices both loops end with the fuel that `findPath` uses
(`findPath_adequate`).  Once the queue is empty, what has been seen is closed under the edges, so
there is a path exactly to what can be reached (`findPath_ne_nil_iff`).  The queue is sorted by
`depth` and spans at most two values of it, so the path is a shortest one (`findPath_isLeast`).
-/

namespace AqualinkAutomate.General.BreadthFirst

open List

variable {V E : Type*} [DecidableEq V]

/-- The vertices still to be looked at, and the edge that first reached each vertex
seen so far, newest first; the start has none. -/
structure Search (V E : Type*) where
  queue : List V
  predecessor : List (V × Option E)

def Search.seen (s : Search V E) (v : V) : Bool := (s.predecessor.lookup v).isSome

def expand (target : E → V) (goal : V) : List E → Search V E →
    Pass (Search V E) (Option (E × List (V × Option E)))
  | [], s => .again s
  | e :: edges, s =>
    if s.seen (target e) then expand target goal edges s
    else if target e = goal then .done (some (e, (target e, some e) :: s.predecessor))
    else
      expand target goal edges
        { queue := s.queue ++ [target e], predecessor := (target e, some e) :: s.predecessor }

def searchPass (target : E → V) (edgesFrom : V → List E) (goal : V) (s : Search V E) :
    Pass (Search V E) (Option (E × List (V × Option E))) :=
  match s.queue with
  | [] => .done none
  | v :: queue => expand target goal (edgesFrom v) { s with queue := queue }

def start (v : V) : Search V E where
  queue := [v]
  predecessor := [(v, none)]

/-- One step backwards along the predecessors; a vertex without an entry is an error. -/
def reconstructPass (source : E → V) (predecessor : List (V × Option E)) (s : E × List E) :
    Pass (E × List E) (Option (List E)) :=
  match predecessor.lookup (source s.1) with
  | none => .done none
  | some none => .done (some (s.1 :: s.2))
  | some (some e) => .again (e, s.1 :: s.2)

def findPath (source target : E → V) (edgesFrom : V → List E) (vertices : List V) (v goal : V) :
    List E :=
  if v = goal then []
  else
    match iterate (searchPass target edgesFrom goal) (vertices.length + 2) (start v) with
    | some (some (e, predecessor)) =>
      ((iterate (reconstructPass source predecessor) predecessor.length (e, [])).bind id).getD []
    | _ => []

/-! ## The search ends -/

section

variable {target : E → V} {goal : V} {edgesFrom : V → List E} {vertices : List V} {s : Search V E}

theorem expand_of_searchPass_again {next : Search V E}
    (h : searchPass target edgesFrom goal s = .again next) :
    ∃ v queue, s.queue = v :: queue ∧
      expand target goal (edgesFrom v) { s with queue := queue } = .again next := by
  unfold searchPass at h
  split at h
  · cases h
  · next v queue hqueue => exact ⟨v, queue, hqueue, h⟩

theorem expand_of_searchPass_done {found : E × List (V × Option E)}
    (h : searchPass target edgesFrom goal s = .done (some found)) :
    ∃ v queue, s.queue = v :: queue ∧
      expand target goal (edgesFrom v) { s with queue := queue } = .done (some found) := by
  unfold searchPass at h
  split at h
  · cases h
  · next v queue hqueue => exact ⟨v, queue, hqueue, h⟩

/-- The vertices that can still enter the queue. -/
def unseen (vertices : List V) (s : Search V E) : List V := vertices.filter fun v => !s.seen v

theorem lookup_cons_self (v : V) (entry : Option E) (older : List (V × Option E)) :
    ((v, entry) :: older).lookup v = some entry := by
  rw [lookup_cons, beq_self_eq_true]

theorem lookup_cons_of_ne {v w : V} (hne : w ≠ v) (entry : Option E) (older : List (V × Option E)) :
    ((v, entry) :: older).lookup w = older.lookup w := by
  rw [lookup_cons, beq_false_of_ne hne]

theorem seen_cons (s : Search V E) (queue : List V) (e : E) (v : V) :
    ({ queue := queue, predecessor := (target e, some e) :: s.predecessor } : Search V E).seen v =
      (v == target e || s.seen v) := by
  unfold Search.seen
  by_cases hv : v = target e
  · rw [hv, lookup_cons_self, beq_self_eq_true, Bool.true_or]
    rfl
  · rw [lookup_cons_of_ne hv, beq_false_of_ne hv, Bool.false_or]

theorem length_unseen_cons (s : Search V E) (queue : List V) {e : E} (he : target e ∈ vertices)
    (hseen : s.seen (target e) = false) :
    (unseen vertices
        { queue := queue, predecessor := (target e, some e) :: s.predecessor }).length <
      (unseen vertices s).length := by
  unfold unseen
  have hsub : vertices.filter (fun v => !({ queue, predecessor := (target e, some e) ::
      s.predecessor } : Search V E).seen v) =
      (vertices.filter fun v => !s.seen v).filter fun v => !(v == target e) := by
    rw [filter_filter]
    refine filter_congr fun v _ => ?_
    rw [seen_cons, Bool.not_or]
  rw [hsub]
  apply List.length_filter_lt_length_iff_exists.mpr
  exact ⟨target e, List.mem_filter.mpr ⟨he, by simp [hseen]⟩, by simp⟩

theorem expand_measure {edges : List E} (hedges : ∀ e ∈ edges, target e ∈ vertices)
    {s' : Search V E} (h : expand target goal edges s = .again s') :
    s'.queue.length + (unseen vertices s').length ≤
      s.queue.length + (unseen vertices s).length := by
  induction edges generalizing s with
  | nil =>
    cases h
    exact Nat.le_refl _
  | cons e edges ih =>
    obtain ⟨he, hedges⟩ := List.forall_mem_cons.mp hedges
    unfold expand at h
    by_cases hseen : s.seen (target e)
    · rw [if_pos hseen] at h
      exact ih hedges h
    rw [if_neg hseen] at h
    by_cases hgoal : target e = goal
    · rw [if_pos hgoal] at h
      cases h
    rw [if_neg hgoal] at h
    have hrest := ih hedges h
    have hless := length_unseen_cons s (s.queue ++ [target e]) he (by simpa using hseen)
    rw [length_append, length_singleton] at hrest
    omega

theorem isSome_iterate_searchPass (hvertices : ∀ v, ∀ e ∈ edgesFrom v, target e ∈ vertices)
    (s : Search V E) :
    (iterate (searchPass target edgesFrom goal)
      (s.queue.length + (unseen vertices s).length + 1) s).isSome := by
  refine isSome_iterate_of_measure (fun _ => True)
    (fun s => s.queue.length + (unseen vertices s).length) ?_ trivial
  intro s next _ h
  refine ⟨trivial, ?_⟩
  obtain ⟨v, queue, hqueue, hexpand⟩ := expand_of_searchPass_again h
  have hle := expand_measure (hvertices v) hexpand
  have hunseen : unseen vertices { s with queue := queue } = unseen vertices s := rfl
  rw [hunseen] at hle
  rw [hqueue, length_cons]
  dsimp only at hle
  omega

end

/-! ## The predecessors lead back to the start -/

/-- A predecessor map as the search builds it: every edge entered a vertex that had not
been seen, from one that had. -/
inductive Grounded (source target : E → V) : List (V × Option E) → Prop where
  | start (v : V) : Grounded source target [(v, none)]
  | step {e : E} {predecessor : List (V × Option E)} (h : Grounded source target predecessor)
      (hsource : (predecessor.lookup (source e)).isSome)
      (htarget : predecessor.lookup (target e) = none) :
      Grounded source target ((target e, some e) :: predecessor)

section

variable {source target : E → V} {goal : V} {edgesFrom : V → List E}
variable {predecessor : List (V × Option E)}

theorem reconstruct_of_grounded {older : List (V × Option E)} (h : Grounded source target older)
    (hextends : ∀ v, (older.lookup v).isSome → predecessor.lookup v = older.lookup v) {e : E}
    (he : (older.lookup (source e)).isSome) (acc : List E) :
    ∃ path, iterate (reconstructPass source predecessor) older.length (e, acc) =
      some (some path) := by
  -- the entries behind the newest one carry the way back
  induction h generalizing e acc with
  | start v =>
    have hv : source e = v := by
      by_contra hne
      rw [lookup_cons_of_ne hne] at he
      cases he
    have hlookup : predecessor.lookup (source e) = some none := by
      rw [hextends _ he, hv, lookup_cons_self]
    exact ⟨e :: acc, by rw [length_singleton, iterate, reconstructPass, hlookup]⟩
  | @step e₀ older hgrounded hsource htarget ih =>
    have hextends' : ∀ v, (older.lookup v).isSome → predecessor.lookup v = older.lookup v := by
      intro v hv
      have hne : v ≠ target e₀ := by
        rintro rfl
        rw [htarget] at hv
        cases hv
      have hnewer := hextends v (by rw [lookup_cons_of_ne hne]; exact hv)
      rw [hnewer, lookup_cons_of_ne hne]
    by_cases heq : source e = target e₀
    · have hlookup : predecessor.lookup (source e) = some (some e₀) := by
        rw [hextends _ he, heq, lookup_cons_self]
      obtain ⟨path, hpath⟩ := ih hextends' hsource (e :: acc)
      refine ⟨path, ?_⟩
      rwa [length_cons, iterate, reconstructPass, hlookup]
    · -- the newest entry is not on the way
      have he' : (older.lookup (source e)).isSome := by
        rwa [lookup_cons_of_ne heq] at he
      obtain ⟨path, hpath⟩ := ih hextends' he' acc
      exact ⟨path, iterate_mono (Nat.le_succ _) hpath⟩

structure Sound (source target : E → V) (s : Search V E) : Prop where
  grounded : Grounded source target s.predecessor
  queued : ∀ v ∈ s.queue, s.seen v

theorem sound_start (v : V) : Sound source target (start v : Search V E) :=
  ⟨.start v, by simp [start, Search.seen]⟩

variable {s : Search V E}

theorem Sound.pop {v : V} {queue : List V} (h : Sound source target s)
    (hqueue : s.queue = v :: queue) :
    s.seen v ∧ Sound source target { s with queue := queue } := by
  have hmem : ∀ w ∈ v :: queue, s.seen w := by
    rw [← hqueue]
    exact h.queued
  exact ⟨hmem v mem_cons_self, h.grounded, fun w hw => hmem w (mem_cons_of_mem _ hw)⟩

theorem expand_sound {v : V} {edges : List E} (hedges : ∀ e ∈ edges, source e = v)
    (hs : Sound source target s) (hv : s.seen v) :
    (∀ s', expand target goal edges s = .again s' → Sound source target s') ∧
      ∀ e predecessor, expand target goal edges s = .done (some (e, predecessor)) →
        Grounded source target predecessor ∧ (predecessor.lookup (source e)).isSome := by
  induction edges generalizing s with
  | nil =>
    refine ⟨fun s' h => ?_, fun e predecessor h => by cases h⟩
    cases h
    exact hs
  | cons e edges ih =>
    obtain ⟨he, hedges⟩ := List.forall_mem_cons.mp hedges
    unfold expand
    by_cases hseen : s.seen (target e)
    · rw [if_pos hseen]
      exact ih hedges hs hv
    rw [if_neg hseen]
    have htarget : s.predecessor.lookup (target e) = none :=
      Option.not_isSome_iff_eq_none.mp hseen
    have hgrounded : Grounded source target ((target e, some e) :: s.predecessor) :=
      .step hs.grounded (by rw [he]; exact hv) htarget
    by_cases hgoal : target e = goal
    · rw [if_pos hgoal]
      refine ⟨fun s' h => (by cases h), fun e' predecessor h => ?_⟩
      cases h
      refine ⟨hgrounded, ?_⟩
      have := @seen_cons V E _ target s [] e (source e)
      rw [he, hv, Bool.or_true] at this
      rw [he]
      exact this
    · rw [if_neg hgoal]
      refine ih hedges ⟨hgrounded, ?_⟩ (by rw [seen_cons, hv, Bool.or_true])
      intro w hw
      rw [seen_cons]
      rcases List.mem_append.mp hw with hw | hw
      · rw [hs.queued w hw, Bool.or_true]
      · rw [List.mem_singleton.mp hw, beq_self_eq_true, Bool.true_or]

theorem grounded_of_returns (hsource : ∀ v, ∀ e ∈ edgesFrom v, source e = v)
    (hs : Sound source target s) {e : E}
    (h : Returns (searchPass target edgesFrom goal) s (some (e, predecessor))) :
    Grounded source target predecessor ∧ (predecessor.lookup (source e)).isSome := by
  refine Returns.of_invariant (Sound source target)
    (fun r => ∀ e predecessor, r = some (e, predecessor) →
      Grounded source target predecessor ∧ (predecessor.lookup (source e)).isSome)
    ?_ ?_ hs h e predecessor rfl
  · intro s next hs hpass
    obtain ⟨v, queue, hqueue, hexpand⟩ := expand_of_searchPass_again hpass
    obtain ⟨hv, hs'⟩ := hs.pop hqueue
    exact (expand_sound (hsource v) hs' hv).1 next hexpand
  · intro s r hs hpass e predecessor hr
    subst hr
    obtain ⟨v, queue, hqueue, hexpand⟩ := expand_of_searchPass_done hpass
    obtain ⟨hv, hs'⟩ := hs.pop hqueue
    exact (expand_sound (hsource v) hs' hv).2 e predecessor hexpand

end

/-- **Adequacy.**  Over finitely many vertices, and if the edges out of a vertex start there,
both loops end, with the path that `findPath` returns. -/
theorem findPath_adequate {source target : E → V} {edgesFrom : V → List E} {vertices : List V}
    (hvertices : ∀ v, ∀ e ∈ edgesFrom v, target e ∈ vertices)
    (hsource : ∀ v, ∀ e ∈ edgesFrom v, source e = v) {v goal : V} (hne : v ≠ goal) :
    ∃ found, Returns (searchPass target edgesFrom goal) (start v) found ∧
      (found = none → findPath source target edgesFrom vertices v goal = []) ∧
      ∀ e predecessor, found = some (e, predecessor) →
        Returns (reconstructPass source predecessor) (e, [])
          (some (findPath source target edgesFrom vertices v goal)) := by
  have hfuel : (start v : Search V E).queue.length +
      (unseen vertices (start v : Search V E)).length + 1 ≤ vertices.length + 2 := by
    have : (unseen vertices (start v : Search V E)).length ≤ vertices.length :=
      length_filter_le _ _
    have hone : (start v : Search V E).queue.length = 1 := rfl
    omega
  -- every pass takes a vertex off the queue, and each one is queued at most once
  obtain ⟨found, hfound⟩ := Option.isSome_iff_exists.mp
    (@isSome_iterate_searchPass V E _ target goal _ _ hvertices (start v))
  have hsearch := iterate_mono hfuel hfound
  refine ⟨found, ⟨_, hsearch⟩, ?_, ?_⟩
  · intro hnone
    rw [findPath, if_neg hne, hsearch, hnone]
  · intro e predecessor hsome
    rw [hsome] at hsearch
    obtain ⟨hgrounded, he⟩ := grounded_of_returns hsource (sound_start v) ⟨_, hsearch⟩
    obtain ⟨path, hpath⟩ := reconstruct_of_grounded hgrounded (fun _ _ => rfl) he []
    have hfindPath : findPath source target edgesFrom vertices v goal = path := by
      rw [findPath, if_neg hne, hsearch]
      dsimp only
      rw [hpath]
      rfl
    rw [hfindPath]
    exact ⟨predecessor.length, hpath⟩

/-! ## What the search keeps -/

section

variable {source target : E → V} {goal : V} {edgesFrom : V → List E}

/-- Some edges lead from `v` to `w`. -/
def Reaches (target : E → V) (edgesFrom : V → List E) : V → V → Prop :=
  Relation.ReflTransGen fun v w => ∃ e ∈ edgesFrom v, target e = w

variable {v w x : V}

theorem seen_start : (start v : Search V E).seen w ↔ w = v := by
  unfold start Search.seen
  by_cases hw : w = v
  · rw [hw, lookup_cons_self]
    simp
  · rw [lookup_cons_of_ne hw]
    simpa using hw

variable {predecessor : List (V × Option E)}

theorem lookup_of_reconstructPass_again {s next : E × List E}
    (h : reconstructPass source predecessor s = .again next) :
    ∃ e, predecessor.lookup (source s.1) = some (some e) ∧ next = (e, s.1 :: s.2) := by
  unfold reconstructPass at h
  split at h
  · cases h
  · cases h
  · next e hlookup =>
      cases h
      exact ⟨e, hlookup, rfl⟩

variable {path edges : List E}

theorem lookup_of_reconstructPass_done {s : E × List E}
    (h : reconstructPass source predecessor s = .done (some path)) :
    predecessor.lookup (source s.1) = some none ∧ path = s.1 :: s.2 := by
  unfold reconstructPass at h
  split at h
  · cases h
  · next hlookup =>
      cases h
      exact ⟨hlookup, rfl⟩
  · cases h

/-- The edges chain from `v` to `w`. -/
inductive Chains (target : E → V) (edgesFrom : V → List E) : V → List E → V → Prop where
  | nil {v : V} : Chains target edgesFrom v [] v
  | cons {v w : V} {e : E} {path : List E} (he : e ∈ edgesFrom v)
      (h : Chains target edgesFrom (target e) path w) : Chains target edgesFrom v (e :: path) w

omit [DecidableEq V] in
theorem exists_chains_iff {v w : V} :
    (∃ path, Chains target edgesFrom v path w) ↔ Reaches target edgesFrom v w := by
  constructor
  · rintro ⟨path, h⟩
    induction h with
    | nil => exact .refl
    | cons he _ ih => exact .head ⟨_, he, rfl⟩ ih
  · intro h
    induction h using Relation.ReflTransGen.head_induction_on with
    | refl => exact ⟨[], .nil⟩
    | head hstep _ ih =>
      obtain ⟨e, he, rfl⟩ := hstep
      obtain ⟨path, hpath⟩ := ih
      exact ⟨e :: path, .cons he hpath⟩

/-- How many predecessors lie between a vertex and the start. -/
def depth (source : E → V) : List (V × Option E) → V → ℕ
  | [], _ => 0
  | (w, entry) :: older, v =>
    if v = w then entry.elim 0 fun e => depth source older (source e) + 1
    else depth source older v

theorem depth_cons_of_ne (hne : v ≠ w) (entry : Option E) (older : List (V × Option E)) :
    depth source ((w, entry) :: older) v = depth source older v := if_neg hne

theorem depth_cons_self (w : V) (e : E) (older : List (V × Option E)) :
    depth source ((w, some e) :: older) w = depth source older (source e) + 1 := if_pos rfl

variable {s : Search V E}

theorem depth_cons_of_seen (entry : Option E) (hw : s.seen w = false) (hv : s.seen v) :
    depth source ((w, entry) :: s.predecessor) v = depth source s.predecessor v := by
  refine depth_cons_of_ne ?_ entry _
  rintro rfl
  rw [hw] at hv
  cases hv

/-- What the entries say: the start is the only vertex without an edge, and an edge leads
one vertex deeper. -/
structure Traced (source target : E → V) (edgesFrom : V → List E) (v : V)
    (predecessor : List (V × Option E)) : Prop where
  start : ∀ w, predecessor.lookup w = some none → w = v ∧ depth source predecessor w = 0
  edge : ∀ w e, predecessor.lookup w = some (some e) → target e = w ∧ e ∈ edgesFrom (source e) ∧
    depth source predecessor w = depth source predecessor (source e) + 1
  source_seen : ∀ w e, predecessor.lookup w = some (some e) →
    (predecessor.lookup (source e)).isSome

theorem lookup_start_ne (v w : V) (e : E) :
    (start v : Search V E).predecessor.lookup w ≠ some (some e) := by
  intro hw
  have hwv : w = v := seen_start.mp (Option.isSome_iff_exists.mpr ⟨_, hw⟩)
  unfold start at hw
  rw [hwv, lookup_cons_self] at hw
  cases hw

theorem traced_start (v : V) :
    Traced source target edgesFrom v (start v : Search V E).predecessor where
  start w hw := by
    have hwv : w = v := seen_start.mp (Option.isSome_iff_exists.mpr ⟨_, hw⟩)
    subst hwv
    exact ⟨rfl, if_pos rfl⟩
  edge w e hw := absurd hw (lookup_start_ne v w e)
  source_seen w e hw := absurd hw (lookup_start_ne v w e)

theorem Traced.cons {e : E} (h : Traced source target edgesFrom v s.predecessor)
    (he : e ∈ edgesFrom (source e)) (hsource : s.seen (source e))
    (htarget : s.seen (target e) = false) :
    Traced source target edgesFrom v ((target e, some e) :: s.predecessor) where
  start w hw := by
    by_cases hwe : w = target e
    · rw [hwe, lookup_cons_self] at hw
      cases hw
    · rw [lookup_cons_of_ne hwe] at hw
      rw [depth_cons_of_ne hwe]
      exact h.start w hw
  edge w e' hw := by
    by_cases hwe : w = target e
    · rw [hwe, lookup_cons_self] at hw
      cases hw
      refine ⟨hwe.symm, he, ?_⟩
      rw [hwe, depth_cons_self, depth_cons_of_seen _ htarget hsource]
    · rw [lookup_cons_of_ne hwe] at hw
      obtain ⟨htarget', hmem, hdepth⟩ := h.edge w e' hw
      refine ⟨htarget', hmem, ?_⟩
      rwa [depth_cons_of_ne hwe, depth_cons_of_seen _ htarget (h.source_seen w e' hw)]
  source_seen w e' hw := by
    have hkept : ∀ y, s.seen y → (((target e, some e) :: s.predecessor).lookup y).isSome := by
      intro y hy
      have hcons := @seen_cons V E _ target s [] e y
      rwa [hy, Bool.or_true] at hcons
    by_cases hwe : w = target e
    · rw [hwe, lookup_cons_self] at hw
      cases hw
      exact hkept _ hsource
    · rw [lookup_cons_of_ne hwe] at hw
      exact hkept _ (h.source_seen w e' hw)

theorem Traced.chains_of_returns (h : Traced source target edgesFrom v predecessor) {e : E}
    (he : e ∈ edgesFrom (source e))
    (hpath : Returns (reconstructPass source predecessor) (e, []) (some path)) :
    Chains target edgesFrom v path (target e) ∧
      path.length = depth source predecessor (source e) + 1 := by
  -- the edges gathered so far chain from the source of the current one to the goal
  refine Returns.of_invariant
    (fun s : E × List E => Chains target edgesFrom (source s.1) (s.1 :: s.2) (target e) ∧
      depth source predecessor (source s.1) + s.2.length = depth source predecessor (source e))
    (fun r => ∀ path, r = some path → Chains target edgesFrom v path (target e) ∧
      path.length = depth source predecessor (source e) + 1)
    ?_ ?_ ⟨.cons he .nil, rfl⟩ hpath path rfl
  · rintro ⟨e', acc⟩ next ⟨hchains, hlength⟩ hpass
    obtain ⟨e'', hlookup, rfl⟩ := lookup_of_reconstructPass_again hpass
    obtain ⟨htarget, hmem, hdepth⟩ := h.edge _ _ hlookup
    refine ⟨.cons hmem (htarget ▸ hchains), ?_⟩
    rw [length_cons]
    dsimp only at hlength hdepth ⊢
    omega
  · rintro ⟨e', acc⟩ r ⟨hchains, hlength⟩ hpass path hr
    subst hr
    obtain ⟨hlookup, rfl⟩ := lookup_of_reconstructPass_done hpass
    obtain ⟨hstart, hdepth⟩ := h.start _ hlookup
    dsimp only at hstart hdepth hchains hlength ⊢
    rw [hstart] at hchains
    refine ⟨hchains, ?_⟩
    rw [length_cons]
    omega

/-- Halfway through the edges out of `x`: the queue is sorted by depth and starts no higher
than `x`, and nothing seen is more than one deeper. -/
structure Levelling (source target : E → V) (edgesFrom : V → List E) (v x : V) (edges : List E)
    (s : Search V E) : Prop where
  traced : Traced source target edgesFrom v s.predecessor
  sorted : s.queue.Pairwise fun y z => depth source s.predecessor y ≤ depth source s.predecessor z
  queued : ∀ y ∈ s.queue, s.seen y
  above : ∀ y ∈ s.queue, depth source s.predecessor x ≤ depth source s.predecessor y
  below : ∀ y, s.seen y →
    depth source s.predecessor y ≤ depth source s.predecessor x + 1
  closed : ∀ y, s.seen y → y ∈ s.queue ∨ ∀ e ∈ edgesFrom y,
    (s.seen (target e) ∧
      depth source s.predecessor (target e) ≤ depth source s.predecessor y + 1) ∨
    y = x ∧ e ∈ edges
  expands : s.seen x ∧ ∀ e ∈ edges, e ∈ edgesFrom x

/-- In between two vertices the same holds of the head of the queue. -/
structure Levelled (source target : E → V) (edgesFrom : V → List E) (v : V) (s : Search V E) :
    Prop where
  traced : Traced source target edgesFrom v s.predecessor
  sorted : s.queue.Pairwise fun y z => depth source s.predecessor y ≤ depth source s.predecessor z
  queued : ∀ y ∈ s.queue, s.seen y = true
  below : ∀ x ∈ s.queue, ∀ y, s.seen y = true →
    depth source s.predecessor y ≤ depth source s.predecessor x + 1
  closed : ∀ y, s.seen y = true → y ∈ s.queue ∨ ∀ e ∈ edgesFrom y,
    s.seen (target e) = true ∧
      depth source s.predecessor (target e) ≤ depth source s.predecessor y + 1

theorem levelled_start (v : V) : Levelled source target edgesFrom v (start v : Search V E) where
  traced := traced_start v
  sorted := pairwise_singleton _ _
  queued y hy := seen_start.mpr (List.mem_singleton.mp hy)
  below x _ y hy := by
    have hdepth : depth source (start v : Search V E).predecessor y = 0 := by
      rw [seen_start.mp hy]
      exact if_pos rfl
    rw [hdepth]
    exact Nat.zero_le _
  closed y hy := .inl (List.mem_singleton.mpr (seen_start.mp hy))

theorem Levelled.levelling {queue : List V} (h : Levelled source target edgesFrom v s)
    (hqueue : s.queue = x :: queue) :
    Levelling source target edgesFrom v x (edgesFrom x) { s with queue := queue } := by
  have hsorted := h.sorted
  rw [hqueue] at hsorted
  obtain ⟨habove, hsorted⟩ := List.pairwise_cons.mp hsorted
  have hx : x ∈ s.queue := hqueue ▸ mem_cons_self
  refine ⟨h.traced, hsorted, ?_, habove, h.below x hx, fun y hy => ?_, h.queued x hx,
    fun _ he => he⟩
  · intro y hy
    exact h.queued y (hqueue ▸ mem_cons_of_mem _ hy)
  rcases h.closed y hy with hmem | hedges
  · rw [hqueue] at hmem
    rcases List.mem_cons.mp hmem with rfl | hmem
    · exact .inr fun e he => .inr ⟨rfl, he⟩
    · exact .inl hmem
  · exact .inr fun e he => .inl (hedges e he)

/-- After the last edge the next vertex can be taken. -/
theorem Levelling.levelled (h : Levelling source target edgesFrom v x [] s) :
    Levelled source target edgesFrom v s where
  traced := h.traced
  sorted := h.sorted
  queued := h.queued
  below y hy z hz := Nat.le_trans (h.below z hz) (Nat.succ_le_succ (h.above y hy))
  closed y hy := (h.closed y hy).imp_right fun hedges e he =>
    (hedges e he).resolve_right fun hnil => absurd hnil.2 not_mem_nil

section

variable {e : E} (h : Levelling source target edgesFrom v x (e :: edges) s)

include h

theorem Levelling.skip (hseen : s.seen (target e)) :
    Levelling source target edgesFrom v x edges s where
  traced := h.traced
  sorted := h.sorted
  queued := h.queued
  above := h.above
  below := h.below
  closed y hy := by
    rcases h.closed y hy with hqueue | hedges
    · exact .inl hqueue
    refine .inr fun e' he' => ?_
    rcases hedges e' he' with hleads | ⟨hx, hmem⟩
    · exact .inl hleads
    rcases List.mem_cons.mp hmem with rfl | hmem
    · -- everything seen is at most one deeper than `x`
      exact .inl ⟨hseen, hx ▸ h.below _ hseen⟩
    · exact .inr ⟨hx, hmem⟩
  expands := ⟨h.expands.1, fun e' he' => h.expands.2 e' (mem_cons_of_mem _ he')⟩

theorem Levelling.traced_cons (hsource : source e = x) (hseen : s.seen (target e) = false) :
    Traced source target edgesFrom v ((target e, some e) :: s.predecessor) := by
  have he := h.expands.2 e mem_cons_self
  rw [← hsource] at he
  exact h.traced.cons he (hsource ▸ h.expands.1) hseen

theorem Levelling.enter (hsource : source e = x) (hseen : s.seen (target e) = false) :
    Levelling source target edgesFrom v x edges
      { queue := s.queue ++ [target e], predecessor := (target e, some e) :: s.predecessor } := by
  have hkept : ∀ y, s.seen y →
      depth source ((target e, some e) :: s.predecessor) y = depth source s.predecessor y :=
    fun y hy => depth_cons_of_seen _ hseen hy
  -- the new vertex is as deep as anything seen so far may be
  have hnew : depth source ((target e, some e) :: s.predecessor) (target e) =
      depth source s.predecessor x + 1 := by rw [depth_cons_self, hsource]
  have hx := hkept x h.expands.1
  refine ⟨h.traced_cons hsource hseen, ?_, ?_, ?_, ?_, ?_, ?_⟩
  · refine List.pairwise_append.mpr ⟨?_, pairwise_singleton _ _, ?_⟩
    · refine h.sorted.imp_of_mem fun hy hz hle => ?_
      rwa [hkept _ (h.queued _ hy), hkept _ (h.queued _ hz)]
    · intro y hy z hz
      rw [List.mem_singleton.mp hz, hnew, hkept y (h.queued y hy)]
      exact h.below y (h.queued y hy)
  · intro y hy
    rw [seen_cons]
    rcases List.mem_append.mp hy with hy | hy
    · rw [h.queued y hy, Bool.or_true]
    · rw [List.mem_singleton.mp hy, beq_self_eq_true, Bool.true_or]
  · intro y hy
    rw [hx]
    rcases List.mem_append.mp hy with hy | hy
    · rw [hkept y (h.queued y hy)]
      exact h.above y hy
    · rw [List.mem_singleton.mp hy, hnew]
      exact Nat.le_succ _
  · intro y hy
    rw [seen_cons, Bool.or_eq_true] at hy
    rw [hx]
    rcases hy with hy | hy
    · exact Nat.le_of_eq (beq_iff_eq.mp hy ▸ hnew)
    · rw [hkept y hy]
      exact h.below y hy
  · intro y hy
    rw [seen_cons, Bool.or_eq_true] at hy
    rcases hy with hy | hy
    · rw [beq_iff_eq.mp hy]
      exact .inl (mem_append_right _ (List.mem_singleton.mpr rfl))
    rcases h.closed y hy with hqueue | hedges
    · exact .inl (mem_append_left _ hqueue)
    refine .inr fun e' he' => ?_
    rw [seen_cons, hkept y hy]
    rcases hedges e' he' with ⟨hseen', hle⟩ | ⟨hyx, hmem⟩
    · rw [hkept _ hseen', hseen', Bool.or_true]
      exact .inl ⟨rfl, hle⟩
    rcases List.mem_cons.mp hmem with rfl | hmem
    · rw [hnew, hyx, beq_self_eq_true, Bool.true_or]
      exact .inl ⟨rfl, Nat.le_refl _⟩
    · exact .inr ⟨hyx, hmem⟩
  · exact ⟨by rw [seen_cons, h.expands.1, Bool.or_true],
      fun e' he' => h.expands.2 e' (mem_cons_of_mem _ he')⟩

end

/-- A way to a vertex that has not been seen passes the depth of `x` first. -/
theorem Levelling.le_length {y : V} (h : Levelling source target edgesFrom v x edges s)
    (hw : s.seen w = false) (hpath : Chains target edgesFrom y path w) (hy : s.seen y) :
    depth source s.predecessor x + 1 ≤ depth source s.predecessor y + path.length := by
  induction hpath with
  | nil =>
    rw [hw] at hy
    cases hy
  | @cons y w e path he _ ih =>
    rw [length_cons]
    by_cases hxy : depth source s.predecessor x ≤ depth source s.predecessor y
    · omega
    -- `y` is done: it is above `x`, and so neither queued nor `x` itself
    have hnotQueued : y ∉ s.queue := fun hmem => hxy (h.above y hmem)
    have hne : y ≠ x := fun heq => hxy (heq ▸ Nat.le_refl _)
    obtain ⟨hseen, hle⟩ := (((h.closed y hy).resolve_left hnotQueued) e he).resolve_right
      fun hx => hne hx.1
    have := ih hw hseen
    omega

structure Shortest (source target : E → V) (edgesFrom : V → List E) (v goal : V) (e : E)
    (predecessor : List (V × Option E)) : Prop where
  traced : Traced source target edgesFrom v predecessor
  mem : e ∈ edgesFrom (source e)
  target_eq : target e = goal
  le_length : ∀ path, Chains target edgesFrom v path goal →
    depth source predecessor (source e) + 1 ≤ path.length

theorem expand_levelling (hsource : ∀ e ∈ edges, source e = x)
    (h : Levelling source target edgesFrom v x edges s)
    (hv : s.seen v ∧ depth source s.predecessor v = 0) :
    (∀ s', expand target goal edges s = .again s' →
      Levelled source target edgesFrom v s' ∧ s'.seen v ∧
        depth source s'.predecessor v = 0) ∧
      ∀ e predecessor, expand target goal edges s = .done (some (e, predecessor)) →
        Shortest source target edgesFrom v goal e predecessor := by
  induction edges generalizing s with
  | nil =>
    refine ⟨fun s' hs' => ?_, fun e predecessor hr => by cases hr⟩
    cases hs'
    exact ⟨h.levelled, hv⟩
  | cons e edges ih =>
    obtain ⟨he, hsource⟩ := List.forall_mem_cons.mp hsource
    unfold expand
    by_cases hseen : s.seen (target e)
    · rw [if_pos hseen]
      exact ih hsource (h.skip hseen) hv
    rw [if_neg hseen]
    have hunseen : s.seen (target e) = false := Bool.eq_false_iff.mpr hseen
    by_cases hgoal : target e = goal
    · rw [if_pos hgoal]
      refine ⟨fun s' hs' => (by cases hs'), fun e' predecessor hr => ?_⟩
      cases hr
      have hmem := h.expands.2 e mem_cons_self
      rw [← he] at hmem
      refine ⟨h.traced_cons he hunseen, hmem, hgoal, fun path hpath => ?_⟩
      have hle := h.le_length (hgoal ▸ hunseen) hpath hv.1
      rw [depth_cons_of_seen _ hunseen (he ▸ h.expands.1), he]
      rwa [hv.2, Nat.zero_add] at hle
    · rw [if_neg hgoal]
      refine ih hsource (h.enter he hunseen) ⟨?_, ?_⟩
      · rw [seen_cons, hv.1, Bool.or_true]
      · rw [depth_cons_of_seen _ hunseen hv.1, hv.2]

theorem shortest_of_returns (hsource : ∀ v, ∀ e ∈ edgesFrom v, source e = v) {e : E}
    (h : Returns (searchPass target edgesFrom goal) (start v) (some (e, predecessor))) :
    Shortest source target edgesFrom v goal e predecessor := by
  refine Returns.of_invariant
    (fun s => Levelled source target edgesFrom v s ∧ s.seen v ∧
      depth source s.predecessor v = 0)
    (fun r => ∀ e predecessor, r = some (e, predecessor) →
      Shortest source target edgesFrom v goal e predecessor) ?_ ?_
    ⟨levelled_start v, seen_start.mpr rfl, if_pos rfl⟩ h e predecessor rfl
  · rintro s next ⟨hs, hv⟩ hpass
    obtain ⟨x, queue, hqueue, hexpand⟩ := expand_of_searchPass_again hpass
    exact (expand_levelling (hsource x) (hs.levelling hqueue) hv).1 next hexpand
  · rintro s r ⟨hs, hv⟩ hpass e predecessor hr
    subst hr
    obtain ⟨x, queue, hqueue, hexpand⟩ := expand_of_searchPass_done hpass
    exact (expand_levelling (hsource x) (hs.levelling hqueue) hv).2 e predecessor hexpand

theorem Levelled.seen_of_reaches (h : Levelled source target edgesFrom v s) (hv : s.seen v)
    (hqueue : s.queue = []) (hreaches : Reaches target edgesFrom v w) : s.seen w := by
  induction hreaches with
  | refl => exact hv
  | tail _ hstep ih =>
    obtain ⟨e, he, rfl⟩ := hstep
    rcases h.closed _ ih with hmem | hedges
    · rw [hqueue] at hmem
      cases hmem
    · exact (hedges e he).1

theorem expand_ne_done_none (edges : List E) (s : Search V E) :
    expand target goal edges s ≠ .done none := by
  induction edges generalizing s with
  | nil => exact nofun
  | cons e edges ih =>
    unfold expand
    split
    · exact ih s
    · split
      · exact nofun
      · exact ih _

theorem expand_goal_unseen {s' : Search V E} (hs : s.seen goal = false)
    (h : expand target goal edges s = .again s') : s'.seen goal = false := by
  induction edges generalizing s with
  | nil =>
    cases h
    exact hs
  | cons e edges ih =>
    unfold expand at h
    by_cases hseen : s.seen (target e)
    · rw [if_pos hseen] at h
      exact ih hs h
    rw [if_neg hseen] at h
    by_cases hgoal : target e = goal
    · rw [if_pos hgoal] at h
      cases h
    · rw [if_neg hgoal] at h
      exact ih (by rw [seen_cons, hs, beq_false_of_ne (Ne.symm hgoal), Bool.or_false]) h

theorem not_reaches_of_returns_none (hsource : ∀ v, ∀ e ∈ edgesFrom v, source e = v)
    (hne : v ≠ goal) (h : Returns (searchPass target edgesFrom goal) (start v) none) :
    ¬ Reaches target edgesFrom v goal := by
  refine Returns.of_invariant
    (fun s => Levelled source target edgesFrom v s ∧
      (s.seen v ∧ depth source s.predecessor v = 0) ∧ s.seen goal = false)
    (fun r => r = none → ¬ Reaches target edgesFrom v goal) ?_ ?_
    ⟨levelled_start v, ⟨seen_start.mpr rfl, if_pos rfl⟩,
      Bool.eq_false_iff.mpr fun hgoal => hne (seen_start.mp hgoal).symm⟩ h rfl
  · rintro s next ⟨hs, hv, hgoal⟩ hpass
    obtain ⟨x, queue, hqueue, hexpand⟩ := expand_of_searchPass_again hpass
    obtain ⟨hnext, hv'⟩ :=
      (expand_levelling (hsource x) (hs.levelling hqueue) hv).1 next hexpand
    have hgoal' : ({ s with queue := queue } : Search V E).seen goal = false := hgoal
    exact ⟨hnext, hv', expand_goal_unseen hgoal' hexpand⟩
  · rintro s r ⟨hs, hv, hgoal⟩ hpass rfl hreaches
    unfold searchPass at hpass
    cases hqueue : s.queue with
    | nil =>
      rw [hs.seen_of_reaches hv.1 hqueue hreaches] at hgoal
      cases hgoal
    | cons x queue =>
      rw [hqueue] at hpass
      exact expand_ne_done_none _ _ hpass

end

/-! ## The path -/

section

variable {source target : E → V} {goal : V} {edgesFrom : V → List E} {vertices : List V}

section

variable (hvertices : ∀ v, ∀ e ∈ edgesFrom v, target e ∈ vertices)
  (hsource : ∀ v, ∀ e ∈ edgesFrom v, source e = v) {v : V}

include hvertices hsource

theorem findPath_spec (hne : v ≠ goal) :
    (findPath source target edgesFrom vertices v goal = [] ∧ ¬ Reaches target edgesFrom v goal) ∨
      (findPath source target edgesFrom vertices v goal ≠ [] ∧
        Chains target edgesFrom v (findPath source target edgesFrom vertices v goal) goal ∧
          ∀ path, Chains target edgesFrom v path goal →
            (findPath source target edgesFrom vertices v goal).length ≤ path.length) := by
  obtain ⟨found, hreturns, hnone, hsome⟩ := findPath_adequate hvertices hsource hne
  cases found with
  | none => exact .inl ⟨hnone rfl, not_reaches_of_returns_none hsource hne hreturns⟩
  | some r =>
    obtain ⟨e, predecessor⟩ := r
    have hshortest := shortest_of_returns hsource hreturns
    obtain ⟨hchains, hlength⟩ :=
      hshortest.traced.chains_of_returns hshortest.mem (hsome e predecessor rfl)
    rw [hshortest.target_eq] at hchains
    refine .inr ⟨ne_nil_of_length_eq_add_one hlength, hchains, fun path hpath => ?_⟩
    rw [hlength]
    exact hshortest.le_length path hpath

/-- **Completeness.**  There is a path to exactly the other vertices that can be reached. -/
theorem findPath_ne_nil_iff :
    findPath source target edgesFrom vertices v goal ≠ [] ↔
      v ≠ goal ∧ Reaches target edgesFrom v goal := by
  by_cases hne : v = goal
  · rw [findPath, if_pos hne]
    exact iff_of_false (fun h => h rfl) fun h => h.1 hne
  rcases findPath_spec hvertices hsource hne with ⟨hnil, hnot⟩ | ⟨hpath, hchains, -⟩
  · exact iff_of_false (fun h => h hnil) fun h => hnot h.2
  · exact iff_of_true hpath ⟨hne, exists_chains_iff.mp ⟨_, hchains⟩⟩

/-- **Minimality.**  To a vertex that can be reached, the edges returned chain, and no other
edges that do are fewer. -/
theorem findPath_isLeast (hreaches : Reaches target edgesFrom v goal) :
    Chains target edgesFrom v (findPath source target edgesFrom vertices v goal) goal ∧
      IsLeast {n | ∃ path, Chains target edgesFrom v path goal ∧ path.length = n}
        (findPath source target edgesFrom vertices v goal).length := by
  by_cases hne : v = goal
  · rw [findPath, if_pos hne, hne]
    exact ⟨.nil, ⟨[], .nil, rfl⟩, fun n _ => Nat.zero_le n⟩
  obtain ⟨-, hnot⟩ | ⟨-, hchains, hleast⟩ := findPath_spec hvertices hsource hne
  · exact absurd hreaches hnot
  · refine ⟨hchains, ⟨_, hchains, rfl⟩, ?_⟩
    rintro n ⟨path, hpath, rfl⟩
    exact hleast path hpath

end

end

end AqualinkAutomate.General.BreadthFirst
