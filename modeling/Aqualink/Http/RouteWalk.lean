import Aqualink.Http.RoutedRequests

/-!
# The way to a route

`findWay` is what the search finds, with the captures of the way there.  Where nothing spoils the
search, and what it abandons leaves nothing, these are the ones in the array (`findImpl_eq`).

The steps that lead a search to where it ends are an induction of their own (`Walk`).  From it the
rest is read off: the segments on the way are segments of the path, each of them matches its
template, and the last segment of the path is the last one on the way unless it is a dot segment.
-/

namespace AqualinkAutomate.Http

open List

variable {ρ : Type*}

/-- What `find_impl` finds, with the captures of the way there. -/
def findWay (capacity : Option ℤ) (tree : RouteTree ρ) (segments : List String) :
    Option (ρ × List View) :=
  (tryMatchFrom capacity (requestViews segments) { tree := tree } {}).1.bind fun position =>
    position.tree.resource.map (·, position.captures)

section

variable {capacity : Option ℤ} {segments : List String} {routes : List (RouteTemplate × ρ)}
variable {handler : ρ} {captured : List View}

theorem findImpl_fst (tree : RouteTree ρ) :
    (findImpl capacity tree segments).1 = (findWay capacity tree segments).map Prod.fst := by
  rw [findWay, Option.map_bind]
  refine congrArg (Option.bind _) (funext fun position => ?_)
  rw [Function.comp_apply, Option.map_map]
  exact (Option.map_id' ..).symm

/-- The captures in the array are those of the way. -/
theorem findImpl_eq (h : unspoilt capacity (requestViews segments) (root routes) 0)
    (hleaves : leavesNothing (requestViews segments) (root routes))
    (hfound : findWay capacity (.ofRoutes routes) segments = some (handler, captured)) :
    findImpl capacity (.ofRoutes routes) segments = (some handler, captured.map some) := by
  have hhold : Captures.Hold {} (root routes) := ⟨rfl, nofun⟩
  have hjudged := judged (valid_root routes) h hhold (nodup_requestViews segments)
  obtain ⟨final, hfinal, hresource⟩ := Option.bind_eq_some_iff.mp hfound
  obtain ⟨found, hhandler, hpair⟩ := Option.map_eq_some_iff.mp hresource
  cases hpair
  have hheld := (hjudged final _ (Prod.ext hfinal rfl)).1 hleaves
  rw [← hheld.taken, ← hhandler]
  exact Prod.ext (congrArg (Option.bind · fun position : Position ρ => position.tree.resource)
    hfinal) rfl

end

/-! ## The steps of a search -/

/-- The steps that lead a search to where it ends. -/
inductive Walk : List View → Position ρ → Position ρ → Prop where
  | done (position) : Walk [] position position
  | go {view rest position next final change} : Position.Goes position view next change →
      Walk rest next final → Walk (view :: rest) position final
  | aside {view rest position final} : viewStep view = .down → 0 ≤ position.level →
      Walk rest position.outside final → Walk (view :: rest) position final
  | descend {view rest position final} (child : Child ρ) : viewStep view = .down →
      0 ≤ position.level → child ∈ position.matching view →
      Walk rest (position.descend child view) final → Walk (view :: rest) position final

section

variable {capacity : Option ℤ} {position final : Position ρ} {view : View} {path : List View}
variable {captures : Captures}

theorem exists_of_tryChildren {children : List (Child ρ)}
    {search : Position ρ → Captures → Option (Position ρ) × Captures}
    (h : (tryChildren capacity search position view children captures).1 = some final) :
    ∃ child ∈ children, ∃ captures, (search (position.descend child view) captures).1 =
      some final := by
  induction children generalizing captures with
  | nil => cases h
  | cons child children ih =>
    rw [tryChildren] at h
    split at h
    next hfound => exact ⟨child, mem_cons_self, _, (congrArg Prod.fst hfound).trans h⟩
    next =>
      obtain ⟨other, hmem, hother⟩ := ih h
      exact ⟨other, mem_cons_of_mem _ hmem, hother⟩

theorem walk_of_tryMatchFrom (h : (tryMatchFrom capacity path position captures).1 = some final) :
    Walk path position final ∧ final.level = 0 := by
  induction path generalizing position captures with
  | nil =>
    rw [tryMatchFrom] at h
    obtain ⟨hfound, hfinal⟩ := Option.ite_none_right_eq_some.mp h
    cases hfinal
    exact ⟨.done _, hfound.1⟩
  | cons view rest ih =>
    rw [tryMatchFrom] at h
    split at h
    next hmove => exact (ih h).imp_left (.go (Position.goes_of_move hmove))
    next child hmove =>
      obtain ⟨hdown, hlevel, hchildren⟩ := Position.children_of_move (.inr ⟨child, hmove, rfl⟩)
      have hmem : child ∈ position.matching view := hchildren ▸ mem_singleton_self _
      exact (ih h).imp_left (.descend child hdown hlevel hmem)
    next children hmove =>
      obtain ⟨hdown, hlevel, rfl⟩ := Position.children_of_move (.inl hmove)
      split at h
      next hfound =>
        obtain ⟨child, hmem, _, hchild⟩ :=
          exists_of_tryChildren ((congrArg Prod.fst hfound).trans h)
        exact (ih hchild).imp_left (.descend child hdown hlevel hmem)
      next => exact (ih h).imp_left (.aside hdown hlevel)

theorem Walk.length_trail (h : Walk path position final) :
    final.trail.length ≤ position.trail.length + path.length := by
  induction h with
  | done => simp
  | go hgo _ ih =>
    refine ih.trans ?_
    cases hgo with
    | stay | inside | outside => simp [Position.inside, Position.outside]
    | back _ htrail => simp [htrail]; omega
  | aside _ _ _ ih => exact ih.trans (by simp [Position.outside])
  | descend child _ _ _ _ ih =>
    refine ih.trans ?_
    simp only [Position.descend, length_cons]
    omega

theorem Walk.last (h : Walk (path ++ [view]) position final) (hvalid : position.Valid)
    (hlevel : final.level = 0) (hnode : final.trail ≠ []) (hdown : viewStep view = .down) :
    ∃ step, final.trail.head? = some step ∧ step.view = view := by
  induction path generalizing position with
  | nil =>
    cases h with
    | go hgo hdone =>
      cases hdone
      -- what is outside the tree has a level, or is outside the root
      cases hgo with
      | stay hstep | inside hstep | back hstep => rw [hdown] at hstep; cases hstep
      | outside =>
        refine absurd (hvalid.above ?_) hnode
        simp only [Position.outside] at hlevel
        omega
    | aside _ hinside hdone =>
      cases hdone
      simp only [Position.outside] at hlevel
      omega
    | descend child _ _ _ hdone =>
      cases hdone
      exact ⟨_, rfl, rfl⟩
  | cons first rest ih =>
    cases h with
    | go hgo hrest => exact ih hrest (hgo.valid hvalid)
    | aside _ _ hrest => exact ih hrest hvalid.outside
    | descend child _ hinside hmem hrest => exact ih hrest (hvalid.descend hinside hmem)

/-- Without a dot segment, each segment is one on the way or outside the tree for good. -/
theorem Walk.plain (h : Walk path position final) (hpath : ∀ view ∈ path, viewStep view = .down)
    (hlevel : 0 ≤ position.level) : position.level ≤ final.level ∧
      (final.level = position.level →
        final.trail.map Step.view = path.reverse ++ position.trail.map Step.view) := by
  induction h with
  | done => exact ⟨le_rfl, fun _ => rfl⟩
  | @go view _ _ _ _ _ hgo _ ih =>
    rw [forall_mem_cons] at hpath
    cases hgo with
    | stay hstep | inside hstep | back hstep => rw [hpath.1] at hstep; cases hstep
    | outside =>
      have hrest := (ih hpath.2 (by simp only [Position.outside]; omega)).1
      simp only [Position.outside] at hrest
      exact ⟨by omega, fun hsame => by omega⟩
  | aside _ _ _ ih =>
    have hrest := (ih (List.forall_mem_cons.mp hpath).2 (by simp only [Position.outside]; omega)).1
    simp only [Position.outside] at hrest
    exact ⟨by omega, fun hsame => by omega⟩
  | descend child _ _ _ _ ih =>
    refine (ih (List.forall_mem_cons.mp hpath).2 hlevel).imp_right fun hrest hsame => ?_
    rw [hrest hsame]
    simp [Position.descend]

/-- How a node is reached from the root: each step is one to a child that matches its segment. -/
def Leads (root : RouteTree ρ) (path : List View) : List (Step ρ) → RouteTree ρ → Prop
  | [], tree => tree = root
  | step :: trail, tree => Leads root path trail step.parent ∧
    (step.template, tree) ∈ step.parent.children ∧ step.view ∈ path ∧
    viewStep step.view = .down ∧ step.template.match step.view.1

variable {tree : RouteTree ρ} {trail : List (Step ρ)} {walked : List View}

theorem Walk.leads (h : Walk walked position final) (hpath : walked ⊆ path)
    (hposition : Leads tree path position.trail position.tree) :
    Leads tree path final.trail final.tree := by
  induction h with
  | done => exact hposition
  | go hgo _ ih =>
    refine ih (subset_of_cons_subset hpath) ?_
    cases hgo with
    | stay | inside | outside => exact hposition
    | back _ htrail =>
      rw [htrail] at hposition
      exact hposition.1
  | aside _ _ _ ih => exact ih (subset_of_cons_subset hpath) hposition
  | descend child hdown _ hmem _ ih =>
    exact ih (subset_of_cons_subset hpath) ⟨hposition,
      Position.mem_children_of_mem_matching hmem, hpath mem_cons_self, hdown,
      Position.match_of_mem_matching hmem⟩

theorem Leads.matched (h : Leads tree path trail final.tree) {step : Step ρ}
    (hstep : step ∈ trail) :
    step.view ∈ path ∧ viewStep step.view = .down ∧ step.template.match step.view.1 := by
  induction trail generalizing final with
  | nil => cases hstep
  | cons last trail ih =>
    obtain rfl | hbefore := List.mem_cons.mp hstep
    · exact h.2.2
    · exact @ih { tree := last.parent } h.1 hbefore

theorem Leads.resourceAt (h : Leads tree path trail final.tree) (hroot : tree.WellFormed)
    (rest : List SegmentTemplate) : final.tree.WellFormed ∧
      RouteTree.resourceAt ((trail.map Step.template).reverse ++ rest) tree =
        RouteTree.resourceAt rest final.tree := by
  induction trail generalizing final rest with
  | nil =>
    obtain rfl := h
    exact ⟨hroot, rfl⟩
  | cons last trail ih =>
    obtain ⟨hwell, hparent⟩ := @ih { tree := last.parent } h.1 (last.template :: rest)
    refine ⟨hwell.of_mem h.2.1, ?_⟩
    rw [map_cons, reverse_cons, append_assoc]
    exact hparent.trans (resourceAt_child hwell h.2.1)

end

end AqualinkAutomate.Http
