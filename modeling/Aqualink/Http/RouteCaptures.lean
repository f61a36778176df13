import Aqualink.Http.RouteDestination

/-!
# What the search does to the captures

A child that the search abandons has moved the cursor of the captures.  After a parameter it is
put back, and after a literal child it is not.  `wander` is how a search that finds nothing moves
the cursor, and the lowest slot that it writes.

A search is `unspoilt` where no child that it enters goes astray and each capture finds room in the
array.  It then ends where the path leads (`tryMatchFrom_eq`), and the captures are those of the way
there if and only if the children that it abandoned left nothing (`leavesNothing`).
-/

namespace AqualinkAutomate.Http

open List Function Bool

/-! ## What an abandoned search leaves -/

@[ext] structure Footprint where
  cursor : ℤ
  lowest : ℤ
  deriving DecidableEq

namespace Footprint

def change (footprint : Footprint) : CaptureChange → Footprint
  | .keep => footprint
  | .drop => { footprint with cursor := footprint.cursor - 1 }
  | .add =>
    { cursor := footprint.cursor + 1, lowest := min footprint.lowest footprint.cursor }

/-- A cursor, with nothing written below it. -/
def start (cursor : ℤ) : Footprint := ⟨cursor, cursor⟩

end Footprint

section

variable {ρ : Type*}

def abandon (search : Position ρ → Footprint → Footprint) (position : Position ρ) (view : View)
    (footprint : Footprint) (child : Child ρ) : Footprint :=
  let after := search (position.descend child view)
    (footprint.change (Position.entering child.1))
  if child.1.isLiteral then after else { after with cursor := footprint.cursor }

/-- The footprint of a search that finds nothing. -/
def wander : List View → Position ρ → Footprint → Footprint
  | [], _, footprint => footprint
  | view :: rest, position, footprint =>
    match position.move view with
    | .go next change => wander rest next (footprint.change change)
    | .enter child =>
      wander rest (position.descend child view)
        (footprint.change (Position.entering child.1))
    | .branch children =>
      wander rest position.outside
        (children.foldl
          (abandon (fun next footprint => wander rest next footprint) position view) footprint)

/-- A slot is written only inside the array. -/
def fits (capacity : Option ℤ) (cursor : ℤ) (change : CaptureChange) : Bool :=
  change ≠ .add || 0 ≤ cursor && capacity ≠ some cursor

/-- A child can be tried: its capture finds room, and it does not go astray. -/
def enterable (capacity : Option ℤ) (rest : List View) (position : Position ρ) (view : View)
    (cursor : ℤ) (child : Child ρ) : Bool :=
  fits capacity cursor (Position.entering child.1) && !astray rest position view child

/-- The children that are tried, until one leads to where the path leads. -/
def unspoiltChildren (capacity : Option ℤ) (unspoilt : Position ρ → ℤ → Bool)
    (rest : List View) (position : Position ρ) (view : View) : List (Child ρ) → ℤ → Bool
  | [], cursor => unspoilt position.outside cursor
  | child :: children, cursor =>
    enterable capacity rest position view cursor child &&
      unspoilt (position.descend child view)
        ((Footprint.start cursor).change (Position.entering child.1)).cursor &&
      ((destination rest (position.descend child view)).isSome ||
        unspoiltChildren capacity unspoilt rest position view children
          (abandon (wander rest) position view (.start cursor) child).cursor)

/-- Wherever the search gets, a child does not go astray, and a capture finds room. -/
def unspoilt (capacity : Option ℤ) : List View → Position ρ → ℤ → Bool
  | [], _, _ => true
  | view :: rest, position, cursor =>
    match position.move view with
    | .go next change =>
      unspoilt capacity rest next ((Footprint.start cursor).change change).cursor
    | .enter child =>
      enterable capacity rest position view cursor child &&
        unspoilt capacity rest (position.descend child view)
          ((Footprint.start cursor).change (Position.entering child.1)).cursor
    | .branch children =>
      unspoiltChildren capacity (fun next cursor => unspoilt capacity rest next cursor)
        rest position view children cursor

/-- The segments that the parameters of the way matched. -/
def Position.captures (position : Position ρ) : List View :=
  (position.trail.filterMap fun step =>
    if step.template.isLiteral then none else some step.view).reverse

def childrenLeaveNothing (leavesNothing : Position ρ → Bool) (rest : List View)
    (position : Position ρ) (view : View) : List (Child ρ) → Bool
  | [] => true
  | child :: children =>
    if (destination rest (position.descend child view)).isSome then
      leavesNothing (position.descend child view)
    else
      abandon (wander rest) position view (.start position.captures.length) child =
          .start position.captures.length &&
        childrenLeaveNothing leavesNothing rest position view children

/-- No child that is abandoned on the way to where the path leads leaves a capture, or writes over
one. -/
def leavesNothing : List View → Position ρ → Bool
  | [], _ => true
  | view :: rest, position =>
    match position.move view with
    | .go next _ => leavesNothing rest next
    | .enter child => leavesNothing rest (position.descend child view)
    | .branch children =>
      childrenLeaveNothing (fun next => leavesNothing rest next) rest position view children

end

/-! ## The footprint of a search -/

/-- The captures went from `origin` as a footprint says, with views of `later` written. -/
structure Captures.Tracks (origin : Captures) (base : ℤ) (later : List View) (captures : Captures)
    (footprint : Footprint) : Prop where
  cursor : captures.cursor = footprint.cursor
  lowest_le : footprint.lowest ≤ base
  nonneg : 0 ≤ base → 0 ≤ footprint.lowest
  below : ∀ slot < footprint.lowest, captures.slots slot = origin.slots slot
  written : footprint.lowest < base →
    ∃ view ∈ later, captures.slots footprint.lowest = some view

section

variable {origin captures : Captures} {base : ℤ} {later : List View} {footprint : Footprint}
variable {capacity : Option ℤ} {view : View} {done : CaptureChange}

theorem Captures.tracks_start (captures : Captures) (later : List View) :
    captures.Tracks captures.cursor later captures (.start captures.cursor) :=
  ⟨rfl, le_rfl, fun h => h, fun _ _ => rfl, fun h => absurd h (lt_irrefl _)⟩

theorem fits_add {cursor : ℤ} :
    fits capacity cursor .add ↔ 0 ≤ cursor ∧ capacity ≠ some cursor := by
  simp [fits]

theorem Captures.write_of_fits (h : fits capacity captures.cursor .add) :
    captures.write capacity view =
      { slots := Function.update captures.slots captures.cursor (some view)
        cursor := captures.cursor + 1 } := by
  rw [Captures.write, if_neg (fits_add.mp h).2]

theorem Captures.Tracks.change (h : origin.Tracks base later captures footprint)
    (hfits : fits capacity captures.cursor done) (hview : view ∈ later) :
    origin.Tracks base later (captures.change capacity view done) (footprint.change done) := by
  cases done with
  | keep => exact h
  | drop => exact ⟨congrArg (· - 1) h.cursor, h.lowest_le, h.nonneg, h.below, h.written⟩
  | add =>
    have hroom := (fits_add.mp hfits).1
    rw [Captures.change, Captures.write_of_fits hfits, Footprint.change, ← h.cursor]
    refine ⟨rfl, min_le_of_left_le h.lowest_le, fun hbase => le_min (h.nonneg hbase) hroom, ?_, ?_⟩
    · intro slot hslot
      obtain ⟨hlowest, hcursor⟩ := lt_min_iff.mp hslot
      exact (update_of_ne hcursor.ne _ _).trans (h.below slot hlowest)
    · intro hlower
      rcases le_or_gt captures.cursor footprint.lowest with hle | hlt
      · rw [min_eq_right hle]
        exact ⟨view, hview, update_self _ _ _⟩
      · simp only [min_eq_left hlt.le] at hlower ⊢
        obtain ⟨other, hother, hslot⟩ := h.written hlower
        exact ⟨other, hother, (update_of_ne hlt.ne _ _).trans hslot⟩

theorem Captures.Tracks.rewind (h : origin.Tracks base later captures footprint) (cursor : ℤ) :
    origin.Tracks base later { captures with cursor := cursor }
      { footprint with cursor := cursor } :=
  ⟨rfl, h.lowest_le, h.nonneg, h.below, h.written⟩

def Captures.Leaves (views : List View) (before after : Captures) (trace : Footprint → Footprint) :
    Prop :=
  ∀ (origin : Captures) (base : ℤ) (later : List View) (footprint : Footprint), views ⊆ later →
    origin.Tracks base later before footprint → origin.Tracks base later after (trace footprint)

variable {trace : Footprint → Footprint} {before after : Captures}

theorem Captures.Leaves.cursor {views : List View} (h : before.Leaves views after trace) :
    after.cursor = (trace (.start before.cursor)).cursor :=
  (h _ _ views _ (fun _ hview => hview) (before.tracks_start views)).cursor

theorem Captures.leaves_change (hfits : fits capacity captures.cursor done) :
    captures.Leaves [view] (captures.change capacity view done) (·.change done) :=
  fun _ _ _ _ hviews htracks => htracks.change hfits (hviews mem_cons_self)

variable {first second : List View}

theorem Captures.Leaves.trans {middle : Captures} {next : Footprint → Footprint}
    (h : before.Leaves first middle trace) (hnext : middle.Leaves second after next) :
    before.Leaves (first ++ second) after (next ∘ trace) :=
  fun _ _ _ _ hviews htracks =>
    hnext _ _ _ _ (List.append_subset.mp hviews).2
      (h _ _ _ _ (List.append_subset.mp hviews).1 htracks)

theorem Captures.Leaves.mono (h : before.Leaves first after trace) (hviews : first ⊆ second) :
    before.Leaves second after trace :=
  fun _ _ _ _ hsecond htracks => h _ _ _ _ (List.Subset.trans hviews hsecond) htracks

end

/-! ## The search finds where the path leads -/

section

variable {ρ : Type*} {capacity : Option ℤ} {rest : List View} {position next : Position ρ}
variable {view : View} {captures : Captures} {child : Child ρ} {children : List (Child ρ)}

/-- The search ends where the path leads, and if that is nowhere then it leaves its footprint. -/
def Settled (capacity : Option ℤ) (rest : List View) (position : Position ρ)
    (captures : Captures) : Prop :=
  (tryMatchFrom capacity rest position captures).1 = destination rest position ∧
    (destination rest position = none →
      captures.Leaves rest (tryMatchFrom capacity rest position captures).2
        (wander rest position))

theorem not_astray_of_unspoiltChildren {unspoilt : Position ρ → ℤ → Bool} {cursor : ℤ}
    (h : unspoiltChildren capacity unspoilt rest position view children cursor) :
    ∀ before child after, children = before ++ child :: after →
      (∀ other ∈ before, destination rest (position.descend other view) = none) →
        astray rest position view child = false := by
  induction children generalizing cursor with
  | nil =>
    intro before child after hsplit
    simp at hsplit
  | cons first children ih =>
    intro before child after hsplit hbefore
    simp only [unspoiltChildren, enterable, and_eq_true, or_eq_true, not_eq_true'] at h
    obtain ⟨⟨⟨-, hfirst⟩, -⟩, hlater⟩ := h
    cases before with
    | nil =>
      cases hsplit
      exact hfirst
    | cons other before =>
      cases hsplit
      obtain hsome | hlater := hlater
      · rw [hbefore first mem_cons_self] at hsome
        cases hsome
      · exact ih hlater before child after rfl fun other hother =>
          hbefore other (mem_cons_of_mem _ hother)

theorem leaves_abandon {after : Captures}
    (hfits : fits capacity captures.cursor (Position.entering child.1))
    (h : (captures.change capacity view (Position.entering child.1)).Leaves rest after
      (wander rest (position.descend child view))) :
    captures.Leaves (view :: rest)
      (if child.1.isLiteral then after else { after with cursor := captures.cursor })
      fun footprint => abandon (wander rest) position view footprint child := by
  intro origin base later footprint hviews htracks
  have hafter := ((Captures.leaves_change hfits).trans h) origin base later footprint
    (by simpa using hviews) htracks
  unfold abandon
  split
  · exact hafter
  · rw [htracks.cursor]
    exact hafter.rewind _

theorem tryChildren_eq
    (hsettled : ∀ (position : Position ρ) (captures : Captures), position.Valid →
      unspoilt capacity rest position captures.cursor →
        Settled capacity rest position captures) (hvalid : position.Valid)
    (hlevel : 0 ≤ position.level) (hchildren : ∀ child ∈ children, child ∈ position.matching view)
    (h : unspoiltChildren capacity (unspoilt capacity rest) rest position view children
      captures.cursor) :
    (tryChildren capacity (tryMatchFrom capacity rest) position view children captures).1 =
        (children.findSome? fun child => destination rest (position.descend child view)) ∧
      ((children.findSome? fun child => destination rest (position.descend child view)) = none →
        unspoilt capacity rest position.outside (tryChildren capacity (tryMatchFrom capacity rest)
            position view children captures).2.cursor ∧
          captures.Leaves (view :: rest) (tryChildren capacity (tryMatchFrom capacity rest)
              position view children captures).2
            fun footprint => children.foldl (abandon (wander rest) position view) footprint) := by
  induction children generalizing captures with
  | nil => exact ⟨rfl, fun _ => ⟨h, fun _ _ _ _ _ htracks => htracks⟩⟩
  | cons child children ih =>
    simp only [unspoiltChildren, enterable, and_eq_true, or_eq_true] at h
    obtain ⟨⟨⟨hfits, -⟩, hchild⟩, hlater⟩ := h
    obtain ⟨hfound, hleft⟩ := hsettled (position.descend child view)
      (captures.change capacity view (Position.entering child.1))
      (hvalid.descend hlevel (hchildren child mem_cons_self))
      (by rw [(Captures.leaves_change hfits).cursor]; exact hchild)
    have hafter : ∀ found, (tryMatchFrom capacity rest (position.descend child view)
        (captures.change capacity view (Position.entering child.1))).1 = found →
        tryMatchFrom capacity rest (position.descend child view)
          (captures.change capacity view (Position.entering child.1)) =
            (found, (tryMatchFrom capacity rest (position.descend child view)
              (captures.change capacity view (Position.entering child.1))).2) := by
      rintro found rfl
      rfl
    rw [tryChildren, findSome?_cons]
    cases hdestination : destination rest (position.descend child view) with
    | some found =>
      rw [hafter (some found) (hfound.trans hdestination)]
      exact ⟨rfl, nofun⟩
    | none =>
      rw [hafter none (hfound.trans hdestination)]
      have habandon := (leaves_abandon hfits (hleft hdestination))
      rw [hdestination] at hlater
      have hnext := ih (fun other hother => hchildren other (mem_cons_of_mem _ hother))
        (by rw [habandon.cursor]; simpa using hlater)
      refine ⟨hnext.1, fun hnone => ⟨(hnext.2 hnone).1, ?_⟩⟩
      exact (habandon.trans (hnext.2 hnone).2).mono (by simp)

theorem fits_of_goes {cursor : ℤ} {done : CaptureChange}
    (h : Position.Goes position view next done) : fits capacity cursor done := by
  cases h with
  | back => unfold Position.leaving; split <;> rfl
  | stay | inside | outside => rfl

theorem wander_cons (view : View) (rest : List View) (position : Position ρ) :
    wander (view :: rest) position = fun footprint =>
      match position.move view with
      | .go next done => wander rest next (footprint.change done)
      | .enter child =>
        wander rest (position.descend child view)
          (footprint.change (Position.entering child.1))
      | .branch children =>
        wander rest position.outside
          (children.foldl (abandon (wander rest) position view) footprint) := rfl

/-- Where nothing spoils the search, it ends where the path leads. -/
theorem settled (hvalid : position.Valid)
    (h : unspoilt capacity rest position captures.cursor) :
    Settled capacity rest position captures := by
  induction rest generalizing position captures with
  | nil => exact ⟨(destination_nil hvalid).symm, fun _ _ _ _ _ _ htracks => htracks⟩
  | cons view rest ih =>
    rw [unspoilt] at h
    rw [Settled, tryMatchFrom, wander_cons]
    cases hmove : position.move view with
    | go next done =>
      simp only [hmove] at h ⊢
      have hgo := Position.goes_of_move hmove
      have hchange : captures.Leaves [view] (captures.change capacity view done)
          (·.change done) := Captures.leaves_change (fits_of_goes hgo)
      rw [← hchange.cursor] at h
      obtain ⟨hfound, hleft⟩ := ih (hgo.valid hvalid) h
      rw [destination_go hvalid hgo]
      exact ⟨hfound, fun hnone => (hchange.trans (hleft hnone)).mono (by simp)⟩
    | enter child =>
      simp only [hmove, enterable, and_eq_true, not_eq_true'] at h ⊢
      obtain ⟨⟨hfits, hastray⟩, hchild⟩ := h
      obtain ⟨-, hlevel, hchildren⟩ := Position.children_of_move (.inr ⟨child, hmove, rfl⟩)
      have hchange := @Captures.leaves_change captures capacity view _ hfits
      rw [← hchange.cursor] at hchild
      obtain ⟨hfound, hleft⟩ :=
        ih (hvalid.descend hlevel (hchildren ▸ mem_singleton_self _)) hchild
      rw [destination_enter hmove hastray]
      exact ⟨hfound, fun hnone => (hchange.trans (hleft hnone)).mono (by simp)⟩
    | branch children =>
      simp only [hmove] at h ⊢
      obtain ⟨hdown, hlevel, hchildren⟩ := Position.children_of_move (.inl hmove)
      obtain ⟨hfound, hleft⟩ := tryChildren_eq
        (fun position captures hvalid hunspoilt => ih hvalid hunspoilt) hvalid hlevel
        (fun child hmem => hchildren ▸ hmem) h
      rw [destination_children hdown hlevel hchildren (not_astray_of_unspoiltChildren h)]
      cases htried : tryChildren capacity (tryMatchFrom capacity rest) position view children
          captures with
      | mk found after =>
        rw [htried] at hfound hleft
        rw [← hfound] at hleft ⊢
        cases found with
        | some found => exact ⟨rfl, nofun⟩
        | none =>
          obtain ⟨hunspoilt, hafter⟩ := hleft rfl
          obtain ⟨hout, hlater⟩ := ih hvalid.outside hunspoilt
          refine ⟨hout, fun hnone => ?_⟩
          exact (hafter.trans (hlater hnone)).mono (by simp)

end

/-! ## What a search writes -/

structure Captures.Overwrites (views : List View) (before after : Captures) : Prop where
  slots : ∀ slot, after.slots slot = before.slots slot ∨
    ∃ view ∈ views, after.slots slot = some view
  passed : ∀ slot, before.cursor ≤ slot → slot < after.cursor →
    ∃ view ∈ views, after.slots slot = some view

section

variable {capacity : Option ℤ} {views : List View} {view : View}
variable {before middle after captures : Captures}

theorem Captures.Overwrites.refl (views : List View) (captures : Captures) :
    captures.Overwrites views captures :=
  ⟨fun _ => .inl rfl, fun _ hle hlt => absurd hle (not_le.mpr hlt)⟩

theorem Captures.Overwrites.trans (h : before.Overwrites views middle)
    (hnext : middle.Overwrites views after) : before.Overwrites views after := by
  refine ⟨fun slot => ?_, fun slot hle hlt => ?_⟩
  · obtain hsame | hview := hnext.slots slot
    · rw [hsame]
      exact h.slots slot
    · exact .inr hview
  · rcases lt_or_ge slot middle.cursor with hmiddle | hmiddle
    · obtain hsame | hview := hnext.slots slot
      · rw [hsame]
        exact h.passed slot hle hmiddle
      · exact hview
    · exact hnext.passed slot hmiddle hlt

theorem Captures.Overwrites.mono {later : List View} (h : before.Overwrites views after)
    (hviews : views ⊆ later) : before.Overwrites later after := by
  refine ⟨fun slot => (h.slots slot).imp_right ?_, fun slot hle hlt => ?_⟩
  · rintro ⟨view, hview, hslot⟩
    exact ⟨view, hviews hview, hslot⟩
  · obtain ⟨view, hview, hslot⟩ := h.passed slot hle hlt
    exact ⟨view, hviews hview, hslot⟩

theorem Captures.Overwrites.rewind (h : before.Overwrites views after) :
    before.Overwrites views { after with cursor := before.cursor } :=
  ⟨h.slots, fun _ hle hlt => absurd hle (not_le.mpr hlt)⟩

theorem Captures.overwrites_change (capacity : Option ℤ) (view : View) (captures : Captures)
    (done : CaptureChange) (hview : view ∈ views) :
    captures.Overwrites views (captures.change capacity view done) := by
  cases done with
  | keep => exact .refl views captures
  | drop =>
    refine ⟨fun _ => .inl rfl, fun slot hle hlt => absurd hle (not_le.mpr ?_)⟩
    exact hlt.trans (Int.sub_one_lt_of_le le_rfl)
  | add =>
    rw [Captures.change, Captures.write]
    split
    · exact .refl views captures
    · refine ⟨fun slot => ?_, fun slot hle hlt => ?_⟩
      · by_cases hslot : slot = captures.cursor
        · exact .inr ⟨view, hview, by rw [hslot]; exact update_self _ _ _⟩
        · exact .inl (update_of_ne hslot _ _)
      · obtain rfl : captures.cursor = slot := le_antisymm hle (Int.lt_add_one_iff.mp hlt)
        exact ⟨view, hview, update_self _ _ _⟩

variable {ρ : Type*} {position : Position ρ} {children : List (Child ρ)}

theorem overwrites_tryChildren {search : Position ρ → Captures → Option (Position ρ) × Captures}
    (hsearch : ∀ position captures, Captures.Overwrites views captures (search position captures).2)
    (hview : view ∈ views) :
    captures.Overwrites views
      (tryChildren capacity search position view children captures).2 := by
  induction children generalizing captures with
  | nil => exact .refl views captures
  | cons child children ih =>
    rw [tryChildren]
    have hchild := (captures.overwrites_change capacity view
      (Position.entering child.1) hview).trans (hsearch (position.descend child view) _)
    split
    next found after hfound =>
      rwa [hfound] at hchild
    next after hnone =>
      rw [hnone] at hchild
      split
      · exact hchild.trans ih
      · exact hchild.rewind.trans ih

/-- A search writes segments that it goes through. -/
theorem overwrites_tryMatchFrom (capacity : Option ℤ) (path : List View) (position : Position ρ)
    (captures : Captures) :
    captures.Overwrites path (tryMatchFrom capacity path position captures).2 := by
  induction path generalizing position captures with
  | nil => exact .refl [] captures
  | cons view rest ih =>
    have hrest : ∀ position captures, Captures.Overwrites (view :: rest) captures
        (tryMatchFrom capacity rest position captures).2 := fun position captures =>
      (ih position captures).mono (subset_cons_self view rest)
    have hchange := fun done =>
      captures.overwrites_change capacity view done (mem_cons_self (l := rest))
    rw [tryMatchFrom]
    cases position.move view with
    | go next done => exact (hchange done).trans (hrest next _)
    | enter child => exact (hchange _).trans (hrest _ _)
    | branch children =>
      have htried := @overwrites_tryChildren capacity (view :: rest) view captures ρ position
        children _ hrest mem_cons_self
      simp only
      split
      next found after hfound =>
        rwa [hfound] at htried
      next after hnone =>
        rw [hnone] at htried
        exact htried.trans (hrest _ _)

end

/-! ## The captures of the way -/

section

variable {ρ : Type*} {position next final : Position ρ} {view : View} {child : Child ρ}
variable {done : CaptureChange} {captures : Captures} {capacity : Option ℤ} {rest : List View}

theorem Position.captures_descend (position : Position ρ) (child : Child ρ) (view : View) :
    (position.descend child view).captures =
      position.captures ++ if child.1.isLiteral then [] else [view] := by
  unfold Position.captures Position.descend
  rw [filterMap_cons]
  split <;> simp_all

theorem Position.Goes.captures_eq (h : Goes position view next done) :
    done = .keep ∧ next.captures = position.captures ∨
      done = .drop ∧ ∃ last, position.captures = next.captures ++ [last] := by
  cases h with
  | stay | inside | outside => exact .inl ⟨rfl, rfl⟩
  | @back step trail _ htrail _ =>
    unfold leaving Position.captures
    rw [htrail, filterMap_cons]
    cases step.template.isLiteral with
    | true => exact .inl ⟨rfl, rfl⟩
    | false => exact .inr ⟨rfl, step.view, by simp⟩

structure Captures.Hold (captures : Captures) (position : Position ρ) : Prop where
  cursor : captures.cursor = position.captures.length
  slots : ∀ index < position.captures.length, captures.slots index = position.captures[index]?

theorem Captures.Hold.go (h : captures.Hold position)
    (hgo : Position.Goes position view next done) :
    (captures.change capacity view done).Hold next := by
  obtain ⟨rfl, hsame⟩ | ⟨rfl, last, hlast⟩ := hgo.captures_eq
  · exact ⟨by rw [hsame]; exact h.cursor, by rw [hsame]; exact h.slots⟩
  · have hcursor := h.cursor
    have hslots := h.slots
    rw [hlast, length_append, length_singleton] at hcursor hslots
    refine ⟨?_, fun index hindex => ?_⟩
    · rw [Captures.change, hcursor]
      push_cast
      omega
    · rw [Captures.change, hslots index (by omega), getElem?_append_left hindex]

theorem Captures.Hold.descend (h : captures.Hold position)
    (hfits : fits capacity captures.cursor (Position.entering child.1)) :
    (captures.change capacity view (Position.entering child.1)).Hold
      (position.descend child view) := by
  unfold Position.entering at hfits ⊢
  have hcaptures := position.captures_descend child view
  cases hchild : child.1.isLiteral with
  | true =>
    simp only [hchild, if_true, append_nil] at hcaptures ⊢
    exact ⟨by rw [hcaptures]; exact h.cursor, by rw [hcaptures]; exact h.slots⟩
  | false =>
    simp only [hchild, false_eq_true, if_false] at hcaptures hfits ⊢
    rw [Captures.change, Captures.write_of_fits hfits]
    refine ⟨?_, fun index hindex => ?_⟩
    · simp [hcaptures, h.cursor]
    · rw [hcaptures] at hindex ⊢
      simp only [length_append, length_singleton] at hindex
      rcases Nat.lt_succ_iff_lt_or_eq.mp hindex with hlt | rfl
      · have hne : (index : ℤ) ≠ captures.cursor := by
          rw [h.cursor]
          omega
        rw [getElem?_append_left hlt]
        exact (update_of_ne hne _ _).trans (h.slots index hlt)
      · simp only [← h.cursor, update_self]
        simp

theorem Captures.Hold.taken (h : captures.Hold position) :
    captures.taken = position.captures.map some := by
  rw [Captures.taken, h.cursor, Int.toNat_natCast]
  refine ext_getElem (by simp) fun index hleft hright => ?_
  have hindex : index < position.captures.length := by simpa using hright
  rw [getElem_map, getElem_range, getElem_map, h.slots index hindex, getElem?_eq_getElem hindex]

theorem captures_lookup : ∀ {downs : List View} {position : Position ρ},
    lookup downs position = some final → position.captures <+: final.captures
  | [], position, h => by
    rw [lookup] at h
    split at h
    · cases h
      exact prefix_rfl
    · cases h
  | view :: downs, position, h => by
    rw [lookup] at h
    obtain ⟨child, -, hchild⟩ := exists_of_findSome?_eq_some h
    have hbelow := captures_lookup hchild
    rw [Position.captures_descend] at hbelow
    exact (prefix_append _ _).trans hbelow

def Captures.Misses (captures : Captures) (position : Position ρ) : Prop :=
  ∃ index < position.captures.length, captures.slots index ≠ position.captures[index]?

theorem Captures.slots_add_self (h : fits capacity captures.cursor .add) :
    (captures.change capacity view .add).slots captures.cursor = some view := by
  rw [Captures.change, Captures.write_of_fits h]
  exact update_self _ _ _

theorem Captures.slots_add_of_ne (h : fits capacity captures.cursor .add) {slot : ℤ}
    (hslot : slot ≠ captures.cursor) :
    (captures.change capacity view .add).slots slot = captures.slots slot := by
  rw [Captures.change, Captures.write_of_fits h]
  exact update_of_ne hslot _ _

variable {after middle : Captures}

theorem Captures.Overwrites.misses (h : captures.Overwrites rest after) {index : ℕ}
    {capture : View} (hfinal : final.captures[index]? = some capture) (hrest : capture ∉ rest)
    (hslot : captures.slots index ≠ some capture) : after.Misses final := by
  obtain ⟨hindex, -⟩ := List.getElem?_eq_some_iff.mp hfinal
  refine ⟨index, hindex, ?_⟩
  rw [hfinal]
  obtain hsame | ⟨other, hother, hwritten⟩ := h.slots index
  · rwa [hsame]
  · rw [hwritten]
    rintro heq
    cases heq
    exact hrest hother

variable {footprint : Footprint}

/-- What an abandoned literal child left is still there when the search ends below the parameter:
the parameter's own segment is not where it belongs, or one of a parameter before it is not. -/
theorem misses_of_abandoned {before : Captures} (hhold : before.Hold position)
    (hfresh : (position.captures ++ view :: rest).Nodup)
    (htracks : before.Tracks before.cursor rest middle footprint)
    (hpassed : before.Overwrites rest middle) (hleft : footprint ≠ .start before.cursor)
    (hfits : fits capacity middle.cursor .add)
    (hafter : (middle.change capacity view .add).Overwrites rest after)
    (hfinal : position.captures ++ [view] <+: final.captures) : after.Misses final := by
  obtain ⟨more, hmore⟩ := hfinal
  obtain ⟨-, hview, hdisjoint⟩ := List.nodup_append.mp hfresh
  have hviewrest : view ∉ rest := (List.nodup_cons.mp hview).1
  have hcursor := (fits_add.mp hfits).1
  have hk := hhold.cursor
  -- a capture of the way before is none of the segments from the fork on
  have hold : ∀ index (hindex : index < position.captures.length),
      final.captures[index]? = some position.captures[index] ∧
        position.captures[index] ∉ view :: rest := by
    intro index hindex
    refine ⟨?_, fun hmem => hdisjoint _ (getElem_mem hindex) _ hmem rfl⟩
    rw [← hmore, append_assoc, getElem?_append_left hindex, getElem?_eq_getElem hindex]
  rcases lt_trichotomy middle.cursor before.cursor with hlt | heq | hgt
  · obtain ⟨index, hindex⟩ := Int.eq_ofNat_of_zero_le hcursor
    obtain ⟨hcapture, hnew⟩ := hold index (by omega)
    refine hafter.misses hcapture (fun hmem => hnew (mem_cons_of_mem _ hmem)) ?_
    rw [← hindex, Captures.slots_add_self hfits]
    rintro hsame
    exact hnew (Option.some.inj hsame ▸ mem_cons_self)
  · have hlower : footprint.lowest < before.cursor := by
      refine lt_of_le_of_ne htracks.lowest_le fun hlowest => hleft ?_
      have hsame : footprint.cursor = before.cursor := htracks.cursor.symm.trans heq
      rw [Footprint.start]
      exact Footprint.ext hsame hlowest
    obtain ⟨index, hindex⟩ := Int.eq_ofNat_of_zero_le (htracks.nonneg (by omega))
    obtain ⟨hcapture, hnew⟩ := hold index (by omega)
    obtain ⟨other, hother, hslot⟩ := htracks.written hlower
    refine hafter.misses hcapture (fun hmem => hnew (mem_cons_of_mem _ hmem)) ?_
    rw [← hindex, Captures.slots_add_of_ne hfits (by omega), hslot]
    rintro hsame
    exact hnew (mem_cons_of_mem _ (Option.some.inj hsame ▸ hother))
  · have hcapture : final.captures[position.captures.length]? = some view := by
      rw [← hmore]
      simp
    refine hafter.misses hcapture hviewrest ?_
    obtain ⟨other, hother, hslot⟩ := hpassed.passed position.captures.length (by omega) (by omega)
    rw [Captures.slots_add_of_ne hfits (by omega), hslot]
    rintro hsame
    exact hviewrest (Option.some.inj hsame ▸ hother)

/-- What nothing was left of is as it was. -/
theorem Captures.Hold.of_tracks {later : List View} (h : captures.Hold position)
    (htracks : captures.Tracks captures.cursor later after (.start captures.cursor)) :
    after.Hold position := by
  refine ⟨htracks.cursor.trans h.cursor, fun index hindex => ?_⟩
  rw [htracks.below index, h.slots index hindex]
  simp only [Footprint.start, h.cursor]
  omega

theorem fresh_go (hgo : Position.Goes position view next done)
    (h : (position.captures ++ view :: rest).Nodup) : (next.captures ++ rest).Nodup := by
  refine h.sublist (List.Sublist.append ?_ (sublist_cons_self view rest))
  obtain ⟨-, hsame⟩ | ⟨-, last, hlast⟩ := hgo.captures_eq
  · rw [hsame]
  · rw [hlast]
    exact sublist_append_left _ _

theorem fresh_descend (child : Child ρ) (h : (position.captures ++ view :: rest).Nodup) :
    ((position.descend child view).captures ++ rest).Nodup := by
  rw [Position.captures_descend, append_assoc]
  refine h.sublist (List.Sublist.append_left ?_ _)
  split
  · exact sublist_cons_self view rest
  · exact List.Sublist.refl _

theorem captures_of_destination {other : Child ρ} (hlevel : 0 ≤ position.level)
    (hother : destination rest (position.descend other view) = none)
    (hchild : destination rest (position.descend child view) = some final)
    (hastray : astray rest position view child = false) :
    (position.descend child view).captures <+: final.captures := by
  obtain ⟨hzero, hups⟩ := level_of_destination_ne hlevel hother (by simp [hchild]) hastray
  rw [destination_level (by rw [hups]; exact hzero.symm)] at hchild
  have hway := captures_lookup hchild
  exact hway

section

variable {text : String} {literal parameter : RouteTree ρ}

theorem tryMatchFrom_fork
    (hmove : position.move view = .branch [(.literal text, literal), (.parameter, parameter)]) :
    tryMatchFrom capacity (view :: rest) position captures =
      match tryMatchFrom capacity rest (position.descend (.literal text, literal) view)
          captures with
      | (some found, after) => (some found, after)
      | (none, middle) =>
        match tryMatchFrom capacity rest (position.descend (.parameter, parameter) view)
            (middle.change capacity view .add) with
        | (some found, after) => (some found, after)
        | (none, after) =>
          tryMatchFrom capacity rest position.outside
            { after with cursor := middle.cursor } := by
  rw [tryMatchFrom, hmove]
  simp only [tryChildren, Position.entering, SegmentTemplate.isLiteral, if_true, Captures.change,
    false_eq_true, if_false]
  cases hliteral : tryMatchFrom capacity rest (position.descend (.literal text, literal) view)
      captures with
  | mk found middle =>
    cases found with
    | some found => rfl
    | none =>
      simp only
      cases hparameter : tryMatchFrom capacity rest
          (position.descend (.parameter, parameter) view) (middle.write capacity view) with
      | mk found after => cases found <;> rfl

theorem unspoilt_fork {cursor : ℤ}
    (hmove : position.move view = .branch [(.literal text, literal), (.parameter, parameter)])
    (h : unspoilt capacity (view :: rest) position cursor) :
    unspoilt capacity rest (position.descend (.literal text, literal) view) cursor ∧
      (destination rest (position.descend (.literal text, literal) view) = none →
        ∀ middle, middle = (wander rest (position.descend (.literal text, literal) view)
            (.start cursor)).cursor →
          fits capacity middle .add ∧
            astray rest position view (.parameter, parameter) = false ∧
            unspoilt capacity rest (position.descend (.parameter, parameter) view)
              (middle + 1)) := by
  rw [unspoilt, hmove] at h
  simp only [unspoiltChildren, enterable, and_eq_true, or_eq_true, abandon,
    Position.entering, SegmentTemplate.isLiteral, if_true, Footprint.change, Footprint.start,
    false_eq_true, if_false, not_eq_true'] at h
  obtain ⟨⟨-, hliteral⟩, hlater⟩ := h
  refine ⟨hliteral, fun hnone middle hmiddle => ?_⟩
  rw [hnone] at hlater
  obtain hfalse | ⟨⟨⟨hfits, hastray⟩, hparameter⟩, -⟩ := hlater
  · cases hfalse
  · rw [hmiddle]
    exact ⟨hfits, hastray, hparameter⟩

theorem leavesNothing_fork
    (hmove : position.move view = .branch [(.literal text, literal), (.parameter, parameter)]) :
    leavesNothing (view :: rest) position =
      if (destination rest (position.descend (.literal text, literal) view)).isSome then
        leavesNothing rest (position.descend (.literal text, literal) view)
      else
        wander rest (position.descend (.literal text, literal) view)
            (.start position.captures.length) = .start position.captures.length &&
          if (destination rest (position.descend (.parameter, parameter) view)).isSome then
            leavesNothing rest (position.descend (.parameter, parameter) view)
          else
            abandon (wander rest) position view (.start position.captures.length)
                (.parameter, parameter) = .start position.captures.length := by
  rw [leavesNothing, hmove]
  simp [childrenLeaveNothing, abandon, Position.entering, SegmentTemplate.isLiteral,
    Footprint.change]

end

/-- Where a search ends, the captures are those of the way if and only if the children that were
abandoned left nothing. -/
def Judged (capacity : Option ℤ) (path : List View) (position : Position ρ) (captures : Captures) :
    Prop :=
  ∀ final after, tryMatchFrom capacity path position captures = (some final, after) →
    (leavesNothing path position = true → after.Hold final) ∧
      (leavesNothing path position = false → after.Misses final)

theorem judged_parameter {parameter : Child ρ} (hparameter : parameter.1 = .parameter)
    (hhold : captures.Hold position) (hfresh : (position.captures ++ view :: rest).Nodup)
    (htracks : captures.Tracks captures.cursor rest middle footprint)
    (hwrites : captures.Overwrites rest middle) (hfits : fits capacity middle.cursor .add)
    (hway : (position.descend parameter view).captures <+: final.captures)
    (hfound :
      tryMatchFrom capacity rest (position.descend parameter view)
      (middle.change capacity view .add) = (some final, after))
    (hjudged : (middle.change capacity view .add).Hold (position.descend parameter view) →
      Judged capacity rest (position.descend parameter view) (middle.change capacity view .add)) :
    ((footprint = .start captures.cursor &&
        leavesNothing rest (position.descend parameter view)) → after.Hold final) ∧
      ((footprint = .start captures.cursor &&
        leavesNothing rest (position.descend parameter view)) = false → after.Misses final) := by
  by_cases hclean : footprint = .start captures.cursor
  · subst hclean
    have hmiddle : middle.Hold position := hhold.of_tracks htracks
    have hentering : Position.entering parameter.1 = .add := by rw [hparameter]; rfl
    have hnext := @Captures.Hold.descend _ _ view _ _ _ hmiddle (hentering ▸ hfits)
    rw [hentering] at hnext
    simpa using hjudged hnext final after hfound
  · refine ⟨fun h => absurd h (by simp [hclean]), fun _ => ?_⟩
    have hlast := overwrites_tryMatchFrom capacity rest (position.descend parameter view)
      (middle.change capacity view .add)
    rw [hfound] at hlast
    rw [Position.captures_descend, hparameter] at hway
    exact misses_of_abandoned hhold hfresh htracks hwrites hclean hfits hlast hway

theorem destination_fork {literal parameter : Child ρ}
    (hmove : position.move view = .branch [literal, parameter])
    (hunspoilt : unspoilt capacity (view :: rest) position captures.cursor)
    (hliteral : destination rest (position.descend literal view) = none)
    (hparameter : destination rest (position.descend parameter view) = none) :
    destination (view :: rest) position = none := by
  obtain ⟨hdown, hlevel, hchildren⟩ := Position.children_of_move (.inl hmove)
  rw [unspoilt, hmove] at hunspoilt
  rw [destination_children hdown hlevel hchildren (not_astray_of_unspoiltChildren hunspoilt)]
  simp [hliteral, hparameter, destination_outside_eq_none hparameter]

theorem judged_fork {children : List (Child ρ)}
    (ih : ∀ (next : Position ρ) (captures : Captures), next.Valid →
      unspoilt capacity rest next captures.cursor → captures.Hold next →
        (next.captures ++ rest).Nodup → Judged capacity rest next captures)
    (hvalid : position.Valid) (hmove : position.move view = .branch children)
    (hunspoilt : unspoilt capacity (view :: rest) position captures.cursor)
    (hhold : captures.Hold position) (hfresh : (position.captures ++ view :: rest).Nodup) :
    Judged capacity (view :: rest) position captures := by
  obtain ⟨-, hlevel, hchildren⟩ := Position.children_of_move (.inl hmove)
  obtain ⟨literal, parameter, rfl⟩ := hvalid.branch hmove
  have hbelow : ∀ child ∈ position.matching view, (position.descend child view).Valid :=
    fun child hchild => hvalid.descend hlevel hchild
  rw [← hchildren, forall_mem_cons, forall_mem_singleton] at hbelow
  obtain ⟨hvalidLiteral, hvalidParameter⟩ := hbelow
  obtain ⟨hliteral, hparameter⟩ := unspoilt_fork hmove hunspoilt
  obtain ⟨hfirst, hleaves⟩ := settled hvalidLiteral hliteral
  have hwrites := overwrites_tryMatchFrom capacity rest
    (position.descend (.literal (decodeSegment view.1), literal) view) captures
  intro final after hfound
  have hdestination := (settled hvalid hunspoilt).1
  rw [hfound] at hdestination
  rw [tryMatchFrom_fork hmove] at hfound
  rw [leavesNothing_fork hmove]
  cases htried : tryMatchFrom capacity rest
      (position.descend (.literal (decodeSegment view.1), literal) view) captures with
  | mk found middle =>
    rw [htried] at hfound hfirst hleaves hwrites
    cases found with
    | some found =>
      cases hfound
      rw [← hfirst]
      have hnext := @Captures.Hold.descend _ _ view (.literal (decodeSegment view.1), literal)
        captures capacity hhold rfl
      exact ih _ _ hvalidLiteral hliteral hnext (fresh_descend _ hfresh) _ _ htried
    | none =>
      have htracks := hleaves hfirst.symm captures captures.cursor rest _
        (fun _ hmem => hmem) (captures.tracks_start rest)
      obtain ⟨hfits, hastray, hroom⟩ := hparameter hfirst.symm _ htracks.cursor
      have hcursor : (middle.change capacity view .add).cursor = middle.cursor + 1 := by
        rw [Captures.change, Captures.write_of_fits hfits]
      rw [← hcursor] at hroom
      have hsecond := (settled hvalidParameter hroom).1
      cases hlast : tryMatchFrom capacity rest (position.descend (.parameter, parameter) view)
          (middle.change capacity view .add) with
      | mk found last =>
        rw [hlast] at hsecond
        simp only [hlast] at hfound
        cases found with
        | some found =>
          cases hfound
          have hjudged := judged_parameter rfl hhold hfresh htracks hwrites hfits
            (captures_of_destination hlevel hfirst.symm hsecond.symm hastray) hlast
            fun hnext => ih _ _ hvalidParameter hroom hnext (fresh_descend _ hfresh)
          rwa [← hfirst, ← hsecond, ← hhold.cursor]
        | none =>
          rw [destination_fork hmove hunspoilt hfirst.symm hsecond.symm] at hdestination
          cases hdestination

/-- The captures are those of the way if and only if the children that were abandoned left
nothing. -/
theorem judged {path : List View} (hvalid : position.Valid)
    (hunspoilt : unspoilt capacity path position captures.cursor)
    (hhold : captures.Hold position) (hfresh : (position.captures ++ path).Nodup) :
    Judged capacity path position captures := by
  induction path generalizing position captures with
  | nil =>
    intro final after hfound
    rw [tryMatchFrom] at hfound
    split at hfound
    · cases hfound
      exact ⟨fun _ => hhold, nofun⟩
    · cases hfound
  | cons view rest ih =>
    intro final after hfound
    cases hmove : position.move view with
    | go next done =>
      simp only [unspoilt, hmove, tryMatchFrom, leavesNothing] at hunspoilt hfound ⊢
      have hgo := Position.goes_of_move hmove
      refine ih (hgo.valid hvalid) ?_ (hhold.go hgo) (fresh_go hgo hfresh) _ _ hfound
      rwa [(captures.leaves_change (fits_of_goes hgo)).cursor]
    | enter child =>
      simp only [unspoilt, hmove, tryMatchFrom, leavesNothing, enterable,
        and_eq_true] at hunspoilt hfound ⊢
      obtain ⟨⟨hfits, -⟩, hchild⟩ := hunspoilt
      obtain ⟨-, hlevel, hchildren⟩ := Position.children_of_move (.inr ⟨child, hmove, rfl⟩)
      refine ih (hvalid.descend hlevel (hchildren ▸ mem_singleton_self _)) ?_
        (hhold.descend hfits) (fresh_descend child hfresh) _ _ hfound
      rwa [(captures.leaves_change hfits).cursor]
    | branch children =>
      exact judged_fork (fun next captures => ih) hvalid hmove hunspoilt hhold hfresh
        final after hfound

end

end AqualinkAutomate.Http
