import Aqualink.Http.RouteCaptures

/-!
# Requests and the routes that they match

A request leads to the handler of a template that its path, with the dot segments resolved, matches
segment by segment.  Among several it is the one with a literal segment where the others first have
a parameter.  Its captures are the segments of the parameters, in order.

A search that is not spoilt finds the handler, whatever order the routes were inserted in, and its
captures are right if and only if the children that it abandoned left nothing (`routed_iff`).
-/

namespace AqualinkAutomate.Http

open List Option

/-! ## Templates and paths -/

def Matches (template : List SegmentTemplate) (path : List View) : Prop :=
  List.Forall₂ (fun segment view => segment.match view.1 = true) template path

def Prefers : List SegmentTemplate → List SegmentTemplate → Prop
  | first :: rest, other :: others =>
    first.isLiteral = true ∧ other.isLiteral = false ∨ first = other ∧ Prefers rest others
  | _, _ => False

def parameterSegments (template : List SegmentTemplate) (path : List View) : List View :=
  (template.zip path).filterMap fun segment =>
    if segment.1.isLiteral then none else some segment.2

/-- The dot segments resolved.  Above the root there are only levels, which the next segments take
back, and a path that ends there is none. -/
def resolvePath (path : List View) : Option (List View) :=
  let left := General.net viewStep path
  if left.1 ≤ left.2.length then some (left.2.drop left.1) else none

/-- What a request is answered with: the handler of the preferred template, with the segments of
its parameters, or nothing where no template matches. -/
def Routed {ρ : Type*} (routes : List (RouteTemplate × ρ)) (path : Option (List View)) :
    Option ρ × List (Option View) → Prop
  | (none, _) => ∀ downs ∈ path, ∀ route ∈ routes, ¬ Matches route.1.segments downs
  | (some handler, captured) => ∃ downs ∈ path, ∃ template,
      lastHandler routes template = some handler ∧ Matches template downs ∧
        (∀ route ∈ routes, Matches route.1.segments downs →
          route.1.segments = template ∨ Prefers template route.1.segments) ∧
        captured = (parameterSegments template downs).map some

section

variable {segment : SegmentTemplate} {template other : List SegmentTemplate} {view : View}
variable {path : List View}

theorem matches_cons_iff : Matches template (view :: path) ↔ ∃ segment rest,
    segment.match view.1 ∧ Matches rest path ∧ template = segment :: rest :=
  List.forall₂_cons_right_iff

theorem parameterSegments_cons : parameterSegments (segment :: template) (view :: path) =
    (if segment.isLiteral then [] else [view]) ++ parameterSegments template path := by
  unfold parameterSegments
  rw [zip_cons_cons, filterMap_cons]
  split <;> simp_all

theorem Prefers.asymm : ∀ {template other : List SegmentTemplate}, Prefers template other →
    ¬ Prefers other template
  | first :: rest, second :: others, .inl ⟨hfirst, hsecond⟩, h => by
    obtain ⟨hliteral, -⟩ | ⟨rfl, -⟩ := h
    · rw [hsecond] at hliteral
      cases hliteral
    · rw [hfirst] at hsecond
      cases hsecond
  | first :: rest, second :: others, .inr ⟨hsame, hrest⟩, h => by
    subst hsame
    obtain ⟨hliteral, hparameter⟩ | ⟨-, hothers⟩ := h
    · rw [hliteral] at hparameter
      cases hparameter
    · exact hrest.asymm hothers

end

/-! ## The way down -/

section

variable {ρ : Type*} {position final : Position ρ} {downs : List View} {child : Child ρ}

theorem find?_child {children : List (Child ρ)} (hnodup : (children.map Prod.fst).Nodup)
    (h : child ∈ children) : children.find? (fun other => other.1 = child.1) = some child := by
  induction children with
  | nil => cases h
  | cons first children ih =>
    rw [map_cons, nodup_cons] at hnodup
    obtain rfl | hlater := List.mem_cons.mp h
    · simp
    · have hne : first.1 ≠ child.1 := fun hsame =>
        hnodup.1 (hsame ▸ mem_map_of_mem hlater)
      rw [find?_cons_of_neg (by simpa using hne)]
      exact ih hnodup.2 hlater

variable {rest : List SegmentTemplate}

theorem resourceAt_child (h : position.tree.WellFormed) (hchild : child ∈ position.tree.children) :
    RouteTree.resourceAt (child.1 :: rest) position.tree = RouteTree.resourceAt rest child.2 := by
  obtain ⟨trail, tree, level⟩ := position
  cases h with
  | node hnodup _ _ =>
    rw [RouteTree.resourceAt_cons, find?_child hnodup hchild]
    rfl

theorem exists_child {segment : SegmentTemplate}
    (h : (RouteTree.resourceAt (segment :: rest) position.tree).isSome) :
    ∃ child ∈ position.tree.children, child.1 = segment ∧
      (RouteTree.resourceAt rest child.2).isSome := by
  rw [RouteTree.resourceAt] at h
  cases hfind : position.tree.children.find? fun child => child.1 = segment with
  | none =>
    rw [hfind] at h
    cases h
  | some child =>
    rw [hfind] at h
    exact ⟨child, mem_of_find?_eq_some hfind, by simpa using find?_some hfind, h⟩

theorem resourceAt_of_lookup_none {template : List SegmentTemplate}
    (hlookup : lookup downs position = none) (hmatch : Matches template downs)
    (hwell : position.tree.WellFormed) : RouteTree.resourceAt template position.tree = none := by
  induction downs generalizing position template with
  | nil =>
    obtain rfl := List.forall₂_nil_right_iff.mp hmatch
    rw [lookup] at hlookup
    rw [RouteTree.resourceAt]
    simpa using hlookup
  | cons view downs ih =>
    obtain ⟨segment, rest, hsegment, hrest, rfl⟩ := matches_cons_iff.mp hmatch
    rw [lookup, findSome?_eq_none_iff] at hlookup
    by_contra hsome
    obtain ⟨child, hchild, rfl, hbelow⟩ := exists_child (Option.isSome_iff_ne_none.mpr hsome)
    have hnone := hlookup child (List.mem_filter.mpr ⟨hchild, hsegment⟩)
    have hnothing := ih hnone hrest (hwell.of_mem hchild)
    rw [Position.descend] at hnothing
    rw [hnothing] at hbelow
    cases hbelow

theorem lookup_eq_some (hlookup : lookup downs position = some final)
    (hwell : position.tree.WellFormed) :
    ∃ template, Matches template downs ∧
      RouteTree.resourceAt template position.tree = final.tree.resource ∧
      final.tree.resource.isSome ∧
      final.captures = position.captures ++ parameterSegments template downs ∧
      ∀ other, Matches other downs → (RouteTree.resourceAt other position.tree).isSome →
        other = template ∨ Prefers template other := by
  induction downs generalizing position with
  | nil =>
    rw [lookup] at hlookup
    split at hlookup
    · next hsome =>
        cases hlookup
        refine ⟨[], .nil, rfl, hsome, by simp [parameterSegments], fun other hmatch _ => ?_⟩
        exact .inl (List.forall₂_nil_right_iff.mp hmatch)
    · cases hlookup
  | cons view downs ih =>
    rw [lookup] at hlookup
    obtain ⟨before, child, after, hsplit, hchild, hbefore⟩ :=
      List.findSome?_eq_some_iff.mp hlookup
    have hmem : child ∈ position.matching view :=
      hsplit ▸ mem_append_right _ mem_cons_self
    have hchildren := Position.mem_children_of_mem_matching hmem
    have hmatching := Position.match_of_mem_matching hmem
    obtain ⟨template, hmatch, hresource, hsome, hcaptures, hpreferred⟩ :=
      ih hchild (hwell.of_mem hchildren)
    refine ⟨child.1 :: template, .cons hmatching hmatch, ?_, hsome, ?_, ?_⟩
    · rwa [resourceAt_child hwell hchildren]
    · rw [hcaptures, Position.captures_descend, parameterSegments_cons, append_assoc]
    · intro other hother hresourceOther
      obtain ⟨segment, rest, hsegment, hrest, rfl⟩ := matches_cons_iff.mp hother
      obtain ⟨found, hfound, rfl, hbelow⟩ := exists_child hresourceOther
      have hmem : found ∈ before ++ child :: after :=
        hsplit ▸ List.mem_filter.mpr ⟨hfound, hsegment⟩
      obtain hearlier | hlater := List.mem_append.mp hmem
      · have hnone := resourceAt_of_lookup_none (hbefore found hearlier) hrest (hwell.of_mem hfound)
        rw [Position.descend] at hnone
        rw [hnone] at hbelow
        cases hbelow
      · obtain rfl | hlater := List.mem_cons.mp hlater
        · obtain rfl | hprefers := hpreferred rest hrest hbelow
          · exact .inl rfl
          · exact .inr (.inr ⟨rfl, hprefers⟩)
        · have hpairwise := hsplit ▸ Position.pairwise_matching hwell view
          obtain ⟨hne, hsorted⟩ :=
            (List.pairwise_cons.mp (List.pairwise_append.mp hpairwise).2.1).1 found hlater
          obtain ⟨hliteral, hparameter⟩ := Position.eq_of_sorted hmatching hsegment hne hsorted
          rw [hliteral, hparameter]
          exact .inr (.inl ⟨rfl, rfl⟩)

end

/-! ## Requests -/

section

variable {ρ : Type*} {routes : List (RouteTemplate × ρ)} {template : List SegmentTemplate}
variable {path : List View} {captures : Captures} {final : Position ρ}

/-- Where a search begins: at the root of the tree of the routes. -/
def root (routes : List (RouteTemplate × ρ)) : Position ρ := { tree := .ofRoutes routes }

theorem valid_root (routes : List (RouteTemplate × ρ)) : (root routes).Valid :=
  Position.valid_root (RouteTree.wellFormed_ofRoutes routes)

theorem lastHandler_isSome_iff :
    (lastHandler routes template).isSome ↔ ∃ route ∈ routes, route.1.segments = template := by
  simp [lastHandler, find?_isSome]

theorem nodup_requestViews (segments : List String) : (requestViews segments).Nodup := by
  refine List.Nodup.of_map Prod.snd ?_
  rw [requestViews, zipIdx_map_snd]
  exact nodup_range'

theorem destination_root {tree : RouteTree ρ} (path : List View) :
    destination path { tree := tree } =
      (resolvePath path).bind fun downs => lookup downs { tree := tree } := by
  simp only [destination, resolvePath, Int.natCast_nonneg, if_true, sub_zero, Int.toNat_natCast]
  unfold climb
  split <;> rfl

theorem not_matches_of_destination_none (h : destination path (root routes) = none) :
    ∀ downs ∈ resolvePath path, ∀ route ∈ routes, ¬ Matches route.1.segments downs := by
  intro downs hdowns route hroute hmatch
  rw [root, destination_root, Option.mem_def.mp hdowns] at h
  have hnone := resourceAt_of_lookup_none h hmatch (valid_root routes).tree
  rw [RouteTree.resourceAt_ofRoutes] at hnone
  have hsome := lastHandler_isSome_iff.mpr ⟨route, hroute, rfl⟩
  rw [hnone] at hsome
  cases hsome

theorem preferred_of_destination (h : destination path (root routes) = some final) :
    ∃ downs ∈ resolvePath path, ∃ template, Matches template downs ∧
      lastHandler routes template = final.tree.resource ∧ final.tree.resource.isSome ∧
      (∀ route ∈ routes, Matches route.1.segments downs →
        route.1.segments = template ∨ Prefers template route.1.segments) ∧
      final.captures = parameterSegments template downs := by
  rw [root, destination_root, bind_eq_some_iff] at h
  obtain ⟨downs, hdowns, hlookup⟩ := h
  obtain ⟨template, hmatch, hresource, hsome, hcaptures, hpreferred⟩ :=
    lookup_eq_some hlookup (valid_root routes).tree
  rw [RouteTree.resourceAt_ofRoutes] at hresource
  refine ⟨downs, hdowns, template, hmatch, hresource, hsome, ?_, hcaptures⟩
  intro route hroute hother
  refine hpreferred _ hother ?_
  rw [RouteTree.resourceAt_ofRoutes]
  exact lastHandler_isSome_iff.mpr ⟨route, hroute, rfl⟩

theorem preferred_unique {downs : List View} {other : List SegmentTemplate}
    (hmatch : Matches template downs) (hother : Matches other downs)
    (hregistered : (lastHandler routes template).isSome)
    (hregisteredOther : (lastHandler routes other).isSome)
    (hpreferred : ∀ route ∈ routes, Matches route.1.segments downs →
      route.1.segments = template ∨ Prefers template route.1.segments)
    (hpreferredOther : ∀ route ∈ routes, Matches route.1.segments downs →
      route.1.segments = other ∨ Prefers other route.1.segments) : template = other := by
  obtain ⟨route, hroute, rfl⟩ := lastHandler_isSome_iff.mp hregistered
  obtain ⟨routeOther, hrouteOther, rfl⟩ := lastHandler_isSome_iff.mp hregisteredOther
  obtain hsame | hprefers := hpreferredOther route hroute hmatch
  · exact hsame
  · obtain hsame | hprefersOther := hpreferred routeOther hrouteOther hother
    · exact hsame.symm
    · exact absurd hprefersOther hprefers.asymm

theorem Captures.Misses.taken_ne (h : captures.Misses final) :
    captures.taken ≠ final.captures.map some := by
  intro htaken
  obtain ⟨index, hindex, hslot⟩ := h
  have hlength := congrArg List.length htaken
  simp only [Captures.taken, length_map, length_range] at hlength
  have hget := congrArg (fun captured => captured[index]?) htaken
  simp only [Captures.taken, getElem?_map, getElem?_range (hlength ▸ hindex),
    getElem?_eq_getElem hindex, map_some, some_inj] at hget
  exact hslot (hget.trans (getElem?_eq_getElem hindex).symm)

/-- A search that nothing spoils answers a request as it should if and only if what it abandons on
the way leaves nothing. -/
theorem routed_iff (routes : List (RouteTemplate × ρ)) (capacity : Option ℤ)
    (segments : List String)
    (h : unspoilt capacity (requestViews segments) (root routes) 0) :
    Routed routes (resolvePath (requestViews segments))
        (findImpl capacity (.ofRoutes routes) segments) ↔
      ((destination (requestViews segments) (root routes)).isSome →
        leavesNothing (requestViews segments) (root routes)) := by
  have hhold : Captures.Hold {} (root routes) := ⟨rfl, nofun⟩
  have hfound := (@settled _ _ _ _ {} (valid_root routes) h).1
  have hjudged := judged (valid_root routes) h hhold (nodup_requestViews segments)
  cases hsearch : tryMatchFrom capacity (requestViews segments) (root routes) {} with
  | mk found after =>
    rw [hsearch] at hfound
    have hresult : findImpl capacity (.ofRoutes routes) segments =
        (found.bind fun position => position.tree.resource, after.taken) := by
      rw [findImpl]
      rw [root] at hsearch
      rw [hsearch]
    rw [hresult, ← hfound]
    cases found with
    | none =>
      refine ⟨nofun, fun _ => ?_⟩
      exact not_matches_of_destination_none hfound.symm
    | some final =>
      obtain ⟨hkept, hlost⟩ := hjudged final after hsearch
      obtain ⟨downs, hdowns, template, hmatch, hlast, hsome, hpreferred, hcaptures⟩ :=
        preferred_of_destination hfound.symm
      obtain ⟨handler, hhandler⟩ := Option.isSome_iff_exists.mp hsome
      rw [bind_some, hhandler]
      constructor
      · rintro ⟨downsOther, hdownsOther, other, hlastOther, hother, hpreferredOther, htaken⟩ -
        obtain rfl := mem_unique hdowns hdownsOther
        obtain rfl : template = other := preferred_unique hmatch hother (hlast ▸ hsome)
          (by rw [hlastOther]; rfl) hpreferred hpreferredOther
        by_contra hleft
        refine (hlost (Bool.eq_false_iff.mpr hleft)).taken_ne ?_
        rw [htaken, hcaptures]
      · intro hleaves
        refine ⟨downs, hdowns, template, hlast.trans hhandler, hmatch, hpreferred, ?_⟩
        rw [(hkept (hleaves rfl)).taken, hcaptures]

end

/-- Two templates of a path that begins with `a`: in the first one a parameter stands below the
literal segment, and in the second one a parameter stands for it. -/
def crossedRoutes : List (RouteTemplate × ℕ) :=
  [({ segments := [.literal "a", .parameter, .literal "b"]
      plain := by simp }, 0),
    ({ segments := [.parameter, .literal "c", .literal "d"]
       plain := by simp }, 1)]

/-- A way of which nothing is left: the literal child leads on. -/
theorem routed_crossed :
    Routed crossedRoutes (resolvePath (requestViews ["a", "c", "b"]))
        (findImpl (some 20) (.ofRoutes crossedRoutes) ["a", "c", "b"]) ↔
      ((destination (requestViews ["a", "c", "b"]) (root crossedRoutes)).isSome →
        leavesNothing (requestViews ["a", "c", "b"]) (root crossedRoutes)) :=
  routed_iff crossedRoutes (some 20) ["a", "c", "b"] (by decide)

/-- Below `a` the parameter captures the second segment, and the capture stays when the search goes
on with the other template. -/
theorem not_routed_crossed :
    ¬ Routed crossedRoutes (resolvePath (requestViews ["a", "c", "d"]))
      (findImpl (some 20) (.ofRoutes crossedRoutes) ["a", "c", "d"]) := by
  have hfound : findImpl (some 20) (.ofRoutes crossedRoutes) ["a", "c", "d"] =
      (some 1, [some ("c", 1), some ("a", 0)]) := by decide
  have hpath : resolvePath (requestViews ["a", "c", "d"]) =
      some [("a", 0), ("c", 1), ("d", 2)] := by decide
  rw [hfound, hpath]
  rintro ⟨downs, hdowns, template, hlast, -, -, htaken⟩
  cases hdowns
  obtain ⟨route, hroute, rfl⟩ := lastHandler_isSome_iff.mp (by rw [hlast]; rfl)
  have hlength : ∀ route ∈ crossedRoutes, (parameterSegments route.1.segments
      [("a", 0), ("c", 1), ("d", 2)]).length = 1 := by decide
  have hboth := congrArg List.length htaken
  rw [length_map, hlength route hroute] at hboth
  cases hboth

end AqualinkAutomate.Http
