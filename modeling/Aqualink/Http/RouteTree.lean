import Mathlib.Data.List.DropRight
import Mathlib.Data.List.Nodup
import Aqualink.General.DotSegments
import Aqualink.Http.SegmentTemplate

/-!
# The tree of the routes

The templates of the routes are kept in a tree, with a node for each way that some template begins
with and a handler where one ends.  The children of a node are sorted, the literal ones first.

A tree that routes are inserted into keeps at the end of each template the handler that was inserted
there last, whatever the order of the others (`resourceAt_ofRoutes`), and its nodes stay sorted and
without two children of one template (`wellFormed_ofRoutes`).

`find_impl` goes through the segments of a request and moves about in the tree of the routes.  A
parameter captures the segment that it matches, in the next slot of the caller's array.  Where
several children match, each is tried with all that is left.

A captured segment is a `string_view` into the request, and so is told apart from one of the same
text.  The array of the ids goes with the one of the captures, slot by slot, and is left out.
-/

namespace AqualinkAutomate.Http

open List

/-- A template of literal segments and parameters.  A dot segment is none of them: `insert_impl`
goes back, or stays, where there is one. -/
structure RouteTemplate where
  segments : List SegmentTemplate
  plain : ∀ text, .literal text ∈ segments → text ≠ "." ∧ text ≠ ".."

inductive RouteTree (ρ : Type*) where
  | node (resource : Option ρ) (children : List (SegmentTemplate × RouteTree ρ))

namespace RouteTree

variable {ρ : Type*}

def resource : RouteTree ρ → Option ρ
  | node resource _ => resource

def children : RouteTree ρ → List (SegmentTemplate × RouteTree ρ)
  | node _ children => children

/-- A new node. -/
def empty : RouteTree ρ := node none []

/-- `operator<` of segment templates without modifiers. -/
def precedes (a b : SegmentTemplate) : Bool :=
  if b.isLiteral then false else a.isLiteral

def placeChild (child : SegmentTemplate × RouteTree ρ)
    (children : List (SegmentTemplate × RouteTree ρ)) : List (SegmentTemplate × RouteTree ρ) :=
  children.rdropWhile (fun other => precedes child.1 other.1) ++
    child :: children.rtakeWhile fun other => precedes child.1 other.1

def updateChild (segment : SegmentTemplate) (update : RouteTree ρ → RouteTree ρ) :
    List (SegmentTemplate × RouteTree ρ) → List (SegmentTemplate × RouteTree ρ)
  | [] => []
  | child :: children =>
    if child.1 = segment then (child.1, update child.2) :: children
    else child :: updateChild segment update children

/-- `insert_impl`, from a node on. -/
def insertImpl (handler : ρ) : List SegmentTemplate → RouteTree ρ → RouteTree ρ
  | [], node _ children => node (some handler) children
  | segment :: rest, node resource children =>
    if children.any fun child => child.1 = segment then
      node resource (updateChild segment (insertImpl handler rest) children)
    else
      node resource (placeChild (segment, insertImpl handler rest empty) children)

def ofRoutes (routes : List (RouteTemplate × ρ)) : RouteTree ρ :=
  routes.foldl (fun tree route => tree.insertImpl route.2 route.1.segments) empty

/-- The handler at the end of a template. -/
def resourceAt : List SegmentTemplate → RouteTree ρ → Option ρ
  | [], tree => tree.resource
  | segment :: rest, tree =>
    (tree.children.find? fun child => child.1 = segment).bind fun child =>
      resourceAt rest child.2

/-- The children of a node are sorted, and no two of them have one template. -/
inductive WellFormed : RouteTree ρ → Prop where
  | node {resource children} :
      (children.map Prod.fst).Nodup →
      children.Pairwise (fun a b => precedes b.1 a.1 = false) →
      (∀ child ∈ children, WellFormed child.2) → WellFormed (.node resource children)

end RouteTree

def lastHandler {ρ : Type*} (routes : List (RouteTemplate × ρ)) (template : List SegmentTemplate) :
    Option ρ :=
  (routes.reverse.find? fun route => route.1.segments = template).map Prod.snd

/-! ## Insertion -/

namespace RouteTree

section

variable {ρ : Type*} {segment other : SegmentTemplate}
variable {children : List (SegmentTemplate × RouteTree ρ)} {update : RouteTree ρ → RouteTree ρ}

theorem map_fst_updateChild : (updateChild segment update children).map Prod.fst =
    children.map Prod.fst := by
  induction children with
  | nil => rfl
  | cons child children ih =>
    rw [updateChild]
    split
    · rfl
    · rw [map_cons, map_cons, ih]

theorem find?_updateChild_self (h : ∃ child ∈ children, child.1 = segment) :
    (updateChild segment update children).find? (fun child => child.1 = segment) =
      (children.find? fun child => child.1 = segment).map fun child =>
        (child.1, update child.2) := by
  induction children with
  | nil =>
    obtain ⟨child, hmem, -⟩ := h
    cases hmem
  | cons child children ih =>
    rw [updateChild]
    by_cases hchild : child.1 = segment
    · simp [hchild]
    · rw [if_neg hchild, find?_cons_of_neg (by simpa using hchild),
        find?_cons_of_neg (by simpa using hchild)]
      refine ih ?_
      obtain ⟨found, hmem, hfound⟩ := h
      obtain rfl | hlater := List.mem_cons.mp hmem
      · exact absurd hfound hchild
      · exact ⟨found, hlater, hfound⟩

theorem find?_updateChild_of_ne (h : other ≠ segment) :
    (updateChild segment update children).find? (fun child => child.1 = other) =
      children.find? fun child => child.1 = other := by
  induction children with
  | nil => rfl
  | cons child children ih =>
    rw [updateChild]
    split
    · next hchild =>
        have hne : child.1 ≠ other := hchild ▸ h.symm
        rw [find?_cons_of_neg (by simpa using hne), find?_cons_of_neg (by simpa using hne)]
    · by_cases hother : child.1 = other
      · simp [hother]
      · rw [find?_cons_of_neg (by simpa using hother),
          find?_cons_of_neg (by simpa using hother), ih]

variable {child : SegmentTemplate × RouteTree ρ}

theorem mem_updateChild (h : child ∈ updateChild segment update children) :
    child ∈ children ∨ ∃ before ∈ children, child.2 = update before.2 := by
  induction children with
  | nil => cases h
  | cons first children ih =>
    rw [updateChild] at h
    split at h
    · obtain rfl | hlater := List.mem_cons.mp h
      · exact .inr ⟨first, mem_cons_self, rfl⟩
      · exact .inl (mem_cons_of_mem _ hlater)
    · obtain rfl | hlater := List.mem_cons.mp h
      · exact .inl mem_cons_self
      · obtain hmem | ⟨before, hmem, hupdate⟩ := ih hlater
        · exact .inl (mem_cons_of_mem _ hmem)
        · exact .inr ⟨before, mem_cons_of_mem _ hmem, hupdate⟩

theorem ne_of_not_any (h : ¬ (children.any fun child => child.1 = segment)) :
    ∀ child ∈ children, child.1 ≠ segment :=
  fun child hmem hchild => h (List.any_eq_true.mpr ⟨child, hmem, by simpa using hchild⟩)

theorem precedes_iff {a b : SegmentTemplate} :
    precedes a b ↔ a.isLiteral ∧ b.isLiteral = false := by
  unfold precedes
  cases b.isLiteral <;> simp

theorem exists_placeChild (child : SegmentTemplate × RouteTree ρ)
    (children : List (SegmentTemplate × RouteTree ρ)) :
    ∃ before after, children = before ++ after ∧
      placeChild child children = before ++ child :: after :=
  ⟨_, _, List.rdropWhile_append_rtakeWhile.symm, rfl⟩

theorem find?_placeChild (hnew : ∀ old ∈ children, old.1 ≠ child.1) (other : SegmentTemplate) :
    (placeChild child children).find? (fun found => found.1 = other) =
      if child.1 = other then some child
      else children.find? fun found => found.1 = other := by
  obtain ⟨before, after, hchildren, hplace⟩ := exists_placeChild child children
  rw [hplace, find?_append]
  split
  next hchild =>
    have hnone : before.find? (fun found => found.1 = other) = none := by
      rw [find?_eq_none]
      intro old hold
      have hne := hnew old (hchildren ▸ mem_append_left _ hold)
      simpa [hchild] using hne
    rw [hnone, find?_cons_of_pos (by simpa using hchild)]
    rfl
  next hchild =>
    rw [find?_cons_of_neg (by simpa using hchild), hchildren, find?_append]

theorem precedes_of_getLast {first : SegmentTemplate × RouteTree ρ} (new : SegmentTemplate)
    (h : children.Pairwise fun a b => precedes b.1 a.1 = false) (hfirst : first ∈ children)
    (hlast : precedes new (children.getLast (ne_nil_of_mem hfirst)).1 = false) :
    precedes new first.1 = false := by
  rw [← Bool.not_eq_true, precedes_iff, not_and, Bool.not_eq_false] at hlast ⊢
  intro hnew
  have hliteral := hlast hnew
  obtain heq | hsorted : first = children.getLast (ne_nil_of_mem hfirst) ∨
      precedes (children.getLast (ne_nil_of_mem hfirst)).1 first.1 = false := by
    rw [← dropLast_append_getLast (ne_nil_of_mem hfirst), pairwise_append] at h
    rw [← dropLast_append_getLast (ne_nil_of_mem hfirst), mem_append, mem_singleton] at hfirst
    obtain hbefore | heq := hfirst
    · exact .inr (h.2.2 _ hbefore _ (mem_singleton_self _))
    · exact .inl heq
  · rwa [heq]
  · rw [← Bool.not_eq_true, precedes_iff, not_and, Bool.not_eq_false] at hsorted
    exact hsorted hliteral

theorem sorted_placeChild (h : children.Pairwise fun a b => precedes b.1 a.1 = false) :
    (placeChild child children).Pairwise fun a b => precedes b.1 a.1 = false := by
  let new : SegmentTemplate × RouteTree ρ → Bool := fun old => precedes child.1 old.1
  have hsplit : children.rdropWhile new ++ children.rtakeWhile new = children :=
    rdropWhile_append_rtakeWhile
  have hparts := h
  rw [← hsplit, pairwise_append] at hparts
  obtain ⟨hbefore, hafter, hcross⟩ := hparts
  refine List.pairwise_append.mpr ⟨hbefore, List.pairwise_cons.mpr ⟨?_, hafter⟩, ?_⟩
  · intro old hold
    have hnew : new old := mem_rtakeWhile_imp hold
    rw [← Bool.not_eq_true, precedes_iff, (precedes_iff.mp hnew).1]
    simp
  · intro first hfirst later hlater
    obtain rfl | hlater := List.mem_cons.mp hlater
    · refine precedes_of_getLast _ hbefore hfirst ?_
      exact Bool.eq_false_iff.mpr (rdropWhile_last_not new children _)
    · exact hcross first hfirst later hlater

theorem nodup_placeChild (hnew : ∀ old ∈ children, old.1 ≠ child.1)
    (h : (children.map Prod.fst).Nodup) : ((placeChild child children).map Prod.fst).Nodup := by
  obtain ⟨before, after, hchildren, hplace⟩ := exists_placeChild child children
  rw [hplace, map_append, map_cons, nodup_middle, nodup_cons, ← map_append, ← hchildren]
  refine ⟨fun hmem => ?_, h⟩
  obtain ⟨old, hold, heq⟩ := List.mem_map.mp hmem
  exact hnew old hold heq

end

section

variable {ρ : Type*} {handler : ρ} {template : List SegmentTemplate} {tree : RouteTree ρ}

theorem resourceAt_empty (template : List SegmentTemplate) :
    resourceAt template (empty : RouteTree ρ) = none := by
  cases template <;> rfl

theorem resourceAt_cons {resource : Option ρ} {segment : SegmentTemplate}
    {rest : List SegmentTemplate} {children : List (SegmentTemplate × RouteTree ρ)} :
    resourceAt (segment :: rest) (node resource children) =
      (children.find? fun child => child.1 = segment).bind fun child =>
        resourceAt rest child.2 := by
  rw [resourceAt, RouteTree.children]

theorem resourceAt_insertImpl (handler : ρ) (template other : List SegmentTemplate)
    (tree : RouteTree ρ) :
    resourceAt other (insertImpl handler template tree) =
      if template = other then some handler else resourceAt other tree := by
  induction template generalizing other tree with
  | nil =>
    cases tree with
    | node resource children =>
      cases other with
      | nil => rfl
      | cons segment rest => rfl
  | cons segment rest ih =>
    cases tree with
    | node resource children =>
      rw [insertImpl]
      cases other with
      | nil => split <;> rfl
      | cons first later =>
        split
        next hold =>
          have hold : ∃ child ∈ children, child.1 = segment := by simpa using hold
          rw [resourceAt_cons, resourceAt_cons]
          by_cases hfirst : segment = first
          · subst hfirst
            rw [find?_updateChild_self hold]
            cases hfind : children.find? fun child => child.1 = segment with
            | none =>
              obtain ⟨child, hmem, hchild⟩ := hold
              exact absurd hchild (by simpa using List.find?_eq_none.mp hfind child hmem)
            | some child => simp [ih]
          · rw [find?_updateChild_of_ne (Ne.symm hfirst), if_neg fun heq =>
              hfirst (List.cons.inj heq).1]
        next hnew =>
          have hnew := ne_of_not_any hnew
          rw [resourceAt_cons, resourceAt_cons, find?_placeChild hnew]
          by_cases hfirst : segment = first
          · subst hfirst
            have hnone : children.find? (fun child => child.1 = segment) = none := by
              rw [find?_eq_none]
              intro old hold
              simpa using hnew old hold
            rw [if_pos rfl, hnone]
            simp [ih, resourceAt_empty]
          · rw [if_neg hfirst, if_neg fun heq => hfirst (List.cons.inj heq).1]

theorem resourceAt_ofRoutes (routes : List (RouteTemplate × ρ)) (template : List SegmentTemplate) :
    resourceAt template (ofRoutes routes) = lastHandler routes template := by
  induction routes using reverseRecOn with
  | nil => exact resourceAt_empty template
  | append_singleton routes route ih =>
    rw [ofRoutes, foldl_append, foldl_cons, foldl_nil, ← ofRoutes,
      resourceAt_insertImpl, ih, lastHandler, lastHandler, reverse_append]
    by_cases htemplate : route.1.segments = template
    · simp [htemplate]
    · simp [htemplate]

theorem WellFormed.of_mem {child : SegmentTemplate × RouteTree ρ} (h : WellFormed tree)
    (hchild : child ∈ tree.children) : WellFormed child.2 := by
  cases h with
  | node _ _ hbelow => exact hbelow child hchild

theorem wellFormed_empty : WellFormed (empty : RouteTree ρ) :=
  .node nodup_nil List.Pairwise.nil nofun

theorem WellFormed.insertImpl (handler : ρ) (template : List SegmentTemplate)
    (h : WellFormed tree) : WellFormed (insertImpl handler template tree) := by
  induction template generalizing tree with
  | nil =>
    cases h with
    | node hnodup hsorted hbelow => exact .node hnodup hsorted hbelow
  | cons segment rest ih =>
    cases h with
    | @node resource children hnodup hsorted hbelow =>
      rw [RouteTree.insertImpl]
      split
      · refine .node (map_fst_updateChild.symm ▸ hnodup) ?_ ?_
        · rwa [← pairwise_map (f := Prod.fst) (R := fun a b => precedes b a = false),
            map_fst_updateChild, pairwise_map]
        · intro child hchild
          obtain hold | ⟨before, hbefore, hupdate⟩ := mem_updateChild hchild
          · exact hbelow child hold
          · exact hupdate ▸ ih (hbelow before hbefore)
      · next hnew =>
          have hnew := ne_of_not_any hnew
          refine .node (nodup_placeChild hnew hnodup) (sorted_placeChild hsorted) ?_
          intro child hchild
          obtain ⟨before, after, hchildren, hplace⟩ :=
            exists_placeChild (segment, RouteTree.insertImpl handler rest empty) children
          rw [hplace, mem_append, mem_cons] at hchild
          obtain hmem | rfl | hmem := hchild
          · exact hbelow child (hchildren ▸ mem_append_left _ hmem)
          · exact ih wellFormed_empty
          · exact hbelow child (hchildren ▸ mem_append_right _ hmem)

theorem wellFormed_ofRoutes (routes : List (RouteTemplate × ρ)) : WellFormed (ofRoutes routes) := by
  induction routes using reverseRecOn with
  | nil => exact wellFormed_empty
  | append_singleton routes route ih =>
    rw [ofRoutes, foldl_append]
    exact ih.insertImpl _ _

end

end RouteTree

/-! ## The search -/

/-- A segment of the request: its text, and its place among the segments. -/
abbrev View : Type := String × ℕ

/-- What a segment does: a dot stays, and a double dot goes up. -/
def viewStep (view : View) : General.PathStep :=
  if decodeSegment view.1 = "." then .stay
  else if decodeSegment view.1 = ".." then .up
  else .down

/-! ## The captures -/

/-- The slots of the caller's array, and the next one to write. -/
structure Captures where
  slots : ℤ → Option View := fun _ => none
  cursor : ℤ := 0

inductive CaptureChange where
  | keep
  | drop
  | add
  deriving DecidableEq

namespace Captures

/-- `WriteCapture`.  Without a capacity no bound is checked. -/
def write (capacity : Option ℤ) (view : View) (captures : Captures) : Captures :=
  if capacity = some captures.cursor then captures
  else
    { slots := Function.update captures.slots captures.cursor (some view)
      cursor := captures.cursor + 1 }

def change (capacity : Option ℤ) (view : View) (captures : Captures) : CaptureChange → Captures
  | .keep => captures
  | .drop => { captures with cursor := captures.cursor - 1 }
  | .add => captures.write capacity view

/-- The captures that the caller is told of. -/
def taken (captures : Captures) : List (Option View) :=
  (range captures.cursor.toNat).map fun (index : ℕ) => captures.slots index

end Captures

/-! ## The moves -/

/-- A node of the way: the template of the child, what it matched, and the node that it is of. -/
structure Step (ρ : Type*) where
  template : SegmentTemplate
  view : View
  parent : RouteTree ρ

/-- Where the search is: the way from the root, the last step first, the node, and the level
outside the tree. -/
structure Position (ρ : Type*) where
  trail : List (Step ρ) := []
  tree : RouteTree ρ
  level : ℤ := 0

abbrev Child (ρ : Type*) : Type _ := SegmentTemplate × RouteTree ρ

inductive Move (ρ : Type*) where
  | go (position : Position ρ) (change : CaptureChange)
  | enter (child : Child ρ)
  | branch (children : List (Child ρ))

namespace Position

variable {ρ : Type*}

def descend (position : Position ρ) (child : Child ρ) (view : View) : Position ρ :=
  { position with
    trail := ⟨child.1, view, position.tree⟩ :: position.trail
    tree := child.2 }

def outside (position : Position ρ) : Position ρ := { position with level := position.level + 1 }

def inside (position : Position ρ) : Position ρ := { position with level := position.level - 1 }

def matching (position : Position ρ) (view : View) : List (Child ρ) :=
  position.tree.children.filter fun child => child.1.match view.1

def entering (template : SegmentTemplate) : CaptureChange :=
  if template.isLiteral then .keep else .add

def leaving (template : SegmentTemplate) : CaptureChange :=
  if template.isLiteral then .keep else .drop

def goUp (position : Position ρ) : Move ρ :=
  match position.trail with
  | step :: trail =>
    if position.level ≤ 0 then
      .go { trail := trail, tree := step.parent, level := position.level } (leaving step.template)
    else .go position.inside .keep
  | [] => .go position.inside .keep

def move (position : Position ρ) (view : View) : Move ρ :=
  match viewStep view with
  | .stay => .go position .keep
  | .up => position.goUp
  | .down =>
    -- above the root a segment is a level
    if position.level < 0 then .go position.outside .keep
    else
      match position.matching view with
      | [] => .go position.outside .keep
      | [child] => .enter child
      | children => .branch children

end Position

/-! ## The search -/

section

variable {ρ : Type*} (capacity : Option ℤ)

def tryChildren (search : Position ρ → Captures → Option (Position ρ) × Captures)
    (position : Position ρ) (view : View) :
    List (Child ρ) → Captures → Option (Position ρ) × Captures
  | [], captures => (none, captures)
  | child :: children, captures =>
    match search (position.descend child view)
        (captures.change capacity view (Position.entering child.1)) with
    | (some found, after) => (some found, after)
    | (none, after) =>
      tryChildren search position view children
        -- only a parameter rewinds
        (if child.1.isLiteral then after else { after with cursor := captures.cursor })

/-- `try_match`. -/
def tryMatchFrom : List View → Position ρ → Captures → Option (Position ρ) × Captures
  | [], position, captures =>
    (if position.level = 0 ∧ position.tree.resource.isSome then some position else none, captures)
  | view :: rest, position, captures =>
    match position.move view with
    | .go next change => tryMatchFrom rest next (captures.change capacity view change)
    | .enter child =>
      tryMatchFrom rest (position.descend child view)
        (captures.change capacity view (Position.entering child.1))
    | .branch children =>
      match tryChildren capacity (fun next captures => tryMatchFrom rest next captures)
          position view children captures with
      | (some found, after) => (some found, after)
      | (none, after) => tryMatchFrom rest position.outside after

def requestViews (segments : List String) : List View := (searchPath segments).zipIdx

/-- `find_impl`: the handler and the captures, for a tree of routes. -/
def findImpl (tree : RouteTree ρ) (segments : List String) : Option ρ × List (Option View) :=
  let (found, captures) := tryMatchFrom capacity (requestViews segments) { tree := tree } {}
  (found.bind fun position => position.tree.resource, captures.taken)

end

end AqualinkAutomate.Http
