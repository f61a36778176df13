import Mathlib.Algebra.Order.Ring.Int
import Aqualink.Http.RouteTree

/-!
# Where a path leads

The way that a path goes in the tree of the routes, after its dot segments are resolved: from where
the ups end, the downs are matched by one child after the other, the first child that leads to a
route (`lookup`, `destination`).  Above the root the tree goes on with nothing in it but levels.

Each step of the search keeps where the path leads (`destination_go`, `destination_children`),
except where a child matches a segment that is outside the tree.
-/

namespace AqualinkAutomate.Http

open List Option

section

variable {ρ : Type*}

/-- The first way down that matches every segment and ends at a route. -/
def lookup : List View → Position ρ → Option (Position ρ)
  | [], position => if position.tree.resource.isSome then some position else none
  | view :: rest, position =>
    (position.matching view).findSome? fun child => lookup rest (position.descend child view)

/-- Up, and then down.  What is above the root is taken back by the first segments down. -/
def climb : ℕ → List (Step ρ) → RouteTree ρ → List View → Option (Position ρ)
  | ups, [], tree, downs =>
    if ups ≤ downs.length then lookup (downs.drop ups) { tree := tree } else none
  | 0, step :: trail, tree, downs => lookup downs { trail := step :: trail, tree := tree }
  | ups + 1, step :: trail, _, downs => climb ups trail step.parent downs

/-- Where a path leads.  Outside the tree, the ups first take back the levels. -/
def destination (path : List View) (position : Position ρ) : Option (Position ρ) :=
  let left := General.net viewStep path
  if position.level ≤ left.1 then
    climb (left.1 - position.level).toNat position.trail position.tree left.2
  else none

end

/-! ## Positions -/

namespace Position

variable {ρ : Type*} {position : Position ρ} {view : View} {child : Child ρ}

structure Valid (position : Position ρ) : Prop where
  above : position.level < 0 → position.trail = []
  tree : position.tree.WellFormed
  trail : ∀ step ∈ position.trail, step.parent.WellFormed

theorem valid_root {tree : RouteTree ρ} (h : tree.WellFormed) :
    ({ tree := tree } : Position ρ).Valid :=
  ⟨fun _ => rfl, h, nofun⟩

theorem mem_children_of_mem_matching (h : child ∈ position.matching view) :
    child ∈ position.tree.children := (List.mem_filter.mp h).1

theorem match_of_mem_matching (h : child ∈ position.matching view) :
    child.1.match view.1 := (List.mem_filter.mp h).2

theorem Valid.descend (h : position.Valid) (hlevel : 0 ≤ position.level)
    (hchild : child ∈ position.matching view) : (position.descend child view).Valid := by
  refine ⟨fun hbelow => absurd hlevel (not_le.mpr hbelow), ?_, ?_⟩
  · exact h.tree.of_mem (mem_children_of_mem_matching hchild)
  · intro step hstep
    obtain rfl | hstep := List.mem_cons.mp hstep
    · exact h.tree
    · exact h.trail step hstep

theorem Valid.outside (h : position.Valid) : position.outside.Valid :=
  ⟨fun hbelow => h.above (lt_trans (Int.lt_succ _) hbelow), h.tree, h.trail⟩

/-- The moves that enter no child. -/
inductive Goes (position : Position ρ) (view : View) : Position ρ → CaptureChange → Prop where
  | stay : viewStep view = .stay → Goes position view position .keep
  | back {step trail} : viewStep view = .up → position.trail = step :: trail →
      position.level ≤ 0 →
      Goes position view { trail := trail, tree := step.parent, level := position.level }
        (leaving step.template)
  | inside : viewStep view = .up → position.trail = [] ∨ 0 < position.level →
      Goes position view position.inside .keep
  | outside : viewStep view = .down →
      position.level < 0 ∨ 0 ≤ position.level ∧ position.matching view = [] →
      Goes position view position.outside .keep

variable {next : Position ρ} {change : CaptureChange} {children : List (Child ρ)}

theorem goes_of_goUp (hup : viewStep view = .up) (h : position.goUp = .go next change) :
    Goes position view next change := by
  unfold goUp at h
  split at h
  next htrail =>
    split at h
    next hlevel =>
      cases h
      exact .back hup htrail hlevel
    next hlevel =>
      cases h
      exact .inside hup (.inr (not_le.mp hlevel))
  next htrail =>
    cases h
    exact .inside hup (.inl htrail)

theorem goUp_eq_go (position : Position ρ) : ∃ next change, position.goUp = .go next change := by
  unfold goUp
  split
  · split
    · exact ⟨_, _, rfl⟩
    · exact ⟨_, _, rfl⟩
  · exact ⟨_, _, rfl⟩

theorem goes_of_move (h : position.move view = .go next change) :
    Goes position view next change := by
  unfold move at h
  split at h
  next hstay =>
    cases h
    exact .stay hstay
  next hup => exact goes_of_goUp hup h
  next hdown =>
    split at h
    next hlevel =>
      cases h
      exact .outside hdown (.inl hlevel)
    next hlevel =>
      split at h
      · next hnone =>
          cases h
          exact .outside hdown (.inr ⟨not_lt.mp hlevel, hnone⟩)
      · cases h
      · cases h

theorem children_of_move (h : position.move view = .branch children ∨
      ∃ child, position.move view = .enter child ∧ children = [child]) :
    viewStep view = .down ∧ 0 ≤ position.level ∧ children = position.matching view := by
  unfold move at h
  split at h
  · simp at h
  · obtain ⟨next, change, hgo⟩ := position.goUp_eq_go
    simp [hgo] at h
  · next hdown =>
      split at h
      · simp at h
      · next hlevel =>
          refine ⟨hdown, not_lt.mp hlevel, ?_⟩
          split at h
          · simp at h
          · next child honly =>
              obtain h | ⟨child, h, rfl⟩ := h
              · cases h
              · cases h
                exact honly.symm
          · obtain h | ⟨child, h, rfl⟩ := h
            · cases h
              rfl
            · cases h

theorem two_le_of_move (h : position.move view = .branch children) : 2 ≤ children.length := by
  unfold move at h
  split at h
  · cases h
  · obtain ⟨next, change, hgo⟩ := position.goUp_eq_go
    rw [hgo] at h
    cases h
  · split at h
    · cases h
    · split at h
      · cases h
      · cases h
      · next hnone hone =>
          cases h
          match hmatching : position.matching view with
          | [] => exact absurd hmatching hnone
          | [child] => exact absurd hmatching (hone child)
          | _ :: _ :: _ => simp

theorem eq_of_match {template : SegmentTemplate} (h : template.match view.1) :
    template = .literal (decodeSegment view.1) ∨ template = .parameter := by
  cases template with
  | literal text =>
    have htext : decodeSegment view.1 = text := by simpa [SegmentTemplate.match] using h
    exact .inl (by rw [htext])
  | parameter => exact .inr rfl

theorem pairwise_matching (h : position.tree.WellFormed) (view : View) :
    (position.matching view).Pairwise fun first later =>
      first.1 ≠ later.1 ∧ RouteTree.precedes later.1 first.1 = false := by
  obtain ⟨trail, tree, level⟩ := position
  cases h with
  | node hnodup hsorted _ =>
    exact ((List.pairwise_map.mp hnodup).and hsorted).sublist filter_sublist

theorem eq_of_sorted {first later : SegmentTemplate} (hfirst : first.match view.1)
    (hlater : later.match view.1) (hne : first ≠ later)
    (hsorted : RouteTree.precedes later first = false) :
    first = .literal (decodeSegment view.1) ∧ later = .parameter := by
  obtain rfl | rfl := eq_of_match hfirst
  · obtain rfl | rfl := eq_of_match hlater
    · exact absurd rfl hne
    · exact ⟨rfl, rfl⟩
  · obtain rfl | rfl := eq_of_match hlater
    · cases hsorted
    · exact absurd rfl hne

theorem Valid.branch (hvalid : position.Valid) (h : position.move view = .branch children) :
    ∃ literal parameter : RouteTree ρ, children =
      [(.literal (decodeSegment view.1), literal), (.parameter, parameter)] := by
  have htwo := two_le_of_move h
  obtain ⟨-, -, hchildren⟩ := children_of_move (.inl h)
  have hmatch : ∀ child ∈ children, child.1.match view.1 := fun child hmem =>
    match_of_mem_matching (hchildren ▸ hmem)
  have hpairwise := pairwise_matching hvalid.tree view
  rw [← hchildren] at hpairwise
  match children, htwo with
  | [(first, literal), (second, parameter)], _ =>
    rw [pairwise_pair] at hpairwise
    rw [forall_mem_cons, forall_mem_singleton] at hmatch
    obtain ⟨rfl, rfl⟩ := eq_of_sorted hmatch.1 hmatch.2 hpairwise.1 hpairwise.2
    exact ⟨literal, parameter, rfl⟩
  | first :: second :: third :: rest, _ =>
    exfalso
    simp only [forall_mem_cons] at hmatch
    obtain ⟨hfirst, hsecond, hthird, -⟩ := hmatch
    obtain ⟨hpairs, hlater⟩ := List.pairwise_cons.mp hpairwise
    obtain ⟨hsecondThird, -⟩ := List.pairwise_cons.mp hlater
    -- the second one would be a parameter, and a literal one
    have hparameter := hpairs second mem_cons_self
    have hliteral := hsecondThird third mem_cons_self
    have hsame := (eq_of_sorted hfirst hsecond hparameter.1 hparameter.2).2.symm.trans
      (eq_of_sorted hsecond hthird hliteral.1 hliteral.2).1
    cases hsame

theorem Goes.valid (h : Goes position view next change) (hvalid : position.Valid) : next.Valid := by
  cases h with
  | stay => exact hvalid
  | @back step trail hup htrail hlevel =>
    have hstep : step ∈ position.trail := htrail ▸ mem_cons_self
    refine ⟨fun hbelow => ?_, hvalid.trail step hstep, fun other hother => ?_⟩
    · rw [hvalid.above hbelow] at htrail
      cases htrail
    · exact hvalid.trail other (htrail ▸ mem_cons_of_mem _ hother)
  | inside hup hroot =>
    refine ⟨fun hbelow => ?_, hvalid.tree, hvalid.trail⟩
    obtain hroot | hlevel := hroot
    · exact hroot
    · exact absurd (Int.le_sub_one_of_lt hlevel) (not_le.mpr hbelow)
  | outside => exact hvalid.outside

end Position

/-! ## What a step keeps -/

section

variable {ρ : Type*} {position next : Position ρ} {view : View} {rest : List View}
variable {change : CaptureChange} {child : Child ρ}

theorem destination_of_lt (h : ((General.net viewStep rest).1 : ℤ) < position.level) :
    destination rest position = none := by
  rw [destination, if_neg (not_le.mpr h)]

theorem destination_of_eq (ups : ℕ) (h : (General.net viewStep rest).1 = position.level + ups) :
    destination rest position =
      climb ups position.trail position.tree (General.net viewStep rest).2 := by
  rw [destination, if_pos (by omega), show ((General.net viewStep rest).1 - position.level).toNat =
    ups by omega]

variable {trail : List (Step ρ)}

theorem climb_cons {step : Step ρ} {tree : RouteTree ρ} (ups : ℕ) (downs : List View) :
    climb (ups + 1) (step :: trail) tree downs = climb ups trail step.parent downs := rfl

theorem climb_root {tree : RouteTree ρ} (ups : ℕ) (downs : List View) :
    climb (ups + 1) [] tree (view :: downs) = climb ups [] tree downs := by
  simp [climb]

theorem destination_back {step : Step ρ} (hup : viewStep view = .up)
    (htrail : position.trail = step :: trail) (hlevel : position.level ≤ 0) :
    destination (view :: rest) position =
      destination rest { trail := trail, tree := step.parent, level := position.level } := by
  obtain ⟨ups, hups⟩ : ∃ ups : ℕ, (General.net viewStep rest).1 = position.level + ups :=
    ⟨((General.net viewStep rest).1 - position.level).toNat, by omega⟩
  have hnet := @General.net_up _ _ _ rest hup
  rw [destination_of_eq (ups + 1) (by rw [hnet]; push_cast; omega),
    destination_of_eq ups (by exact hups), htrail, climb_cons, hnet]

theorem destination_inside (hup : viewStep view = .up) :
    destination (view :: rest) position = destination rest position.inside := by
  have hnet := @General.net_up _ _ _ rest hup
  rcases lt_or_ge ((General.net viewStep rest).1 + 1 : ℤ) position.level with hlt | hge
  · rw [destination_of_lt (by rw [hnet]; push_cast; exact hlt),
      destination_of_lt (by simp only [Position.inside]; omega)]
  · obtain ⟨ups, hups⟩ := Int.eq_ofNat_of_zero_le (sub_nonneg.mpr hge)
    rw [destination_of_eq ups (by rw [hnet]; push_cast; omega),
      destination_of_eq ups (by simp only [Position.inside]; omega), hnet]
    rfl

theorem destination_outside (hdown : viewStep view = .down) (hlevel : 0 ≤ position.level)
    (h : 0 < (General.net viewStep rest).1 ∨ 0 < position.level) :
    destination (view :: rest) position = destination rest position.outside := by
  have hfirst := @General.net_down_fst _ _ _ rest hdown
  rcases lt_or_ge ((General.net viewStep rest).1 : ℤ) (position.level + 1) with hlt | hge
  · rw [destination_of_lt (by rw [hfirst]; omega), destination_of_lt hlt]
  · obtain ⟨ups, hups⟩ := Int.eq_ofNat_of_zero_le (sub_nonneg.mpr hge)
    have hnet := @General.net_down_of_pos _ _ _ rest hdown (by omega)
    rw [destination_of_eq ups (by rw [hnet]; omega),
      destination_of_eq ups (by simp only [Position.outside]; omega), hnet]
    rfl

theorem destination_above (hvalid : position.Valid) (hdown : viewStep view = .down)
    (hlevel : position.level < 0) :
    destination (view :: rest) position = destination rest position.outside := by
  obtain ⟨trail, tree, level⟩ := position
  obtain rfl : trail = [] := hvalid.above hlevel
  simp only [Position.outside] at hlevel ⊢
  obtain ⟨ups, hups⟩ : ∃ ups : ℕ, (General.net viewStep rest).1 = level + 1 + ups :=
    ⟨((General.net viewStep rest).1 - (level + 1)).toNat, by omega⟩
  rcases Nat.eq_zero_or_pos (General.net viewStep rest).1 with hzero | hpos
  · have hnet := General.net_down_of_zero hdown hzero
    rw [destination_of_eq (ups + 1) (by rw [hnet]; push_cast; omega),
      destination_of_eq ups (by exact hups), hnet, climb_root]
  · have hnet := General.net_down_of_pos hdown hpos
    rw [destination_of_eq ups (by rw [hnet]; simp only; omega), destination_of_eq ups hups, hnet]

/-- Where the path goes up just as far as the search is outside the tree, it is matched from the
node on. -/
theorem destination_level (h : (General.net viewStep rest).1 = position.level) :
    destination rest position =
      lookup (General.net viewStep rest).2 { position with level := 0 } := by
  rw [destination_of_eq 0 (by rw [h]; exact (add_zero _).symm)]
  obtain ⟨trail, tree, level⟩ := position
  cases trail with
  | nil => simp [climb]
  | cons step trail => simp [climb]

theorem destination_down (hdown : viewStep view = .down) (hlevel : position.level = 0)
    (h : (General.net viewStep rest).1 = 0) :
    destination (view :: rest) position =
      (position.matching view).findSome? fun child =>
        destination rest (position.descend child view) := by
  have hnet := General.net_down_of_zero hdown h
  obtain ⟨trail, tree, level⟩ := position
  obtain rfl : level = 0 := hlevel
  have hchild : ∀ child : Child ρ,
      destination rest (Position.descend ⟨trail, tree, 0⟩ child view) =
        lookup (General.net viewStep rest).2 (Position.descend ⟨trail, tree, 0⟩ child view) :=
    fun child => destination_level (by rw [h]; rfl)
  rw [destination_level (by rw [hnet]; rfl), hnet]
  simp only [hchild, lookup]

theorem destination_outside_of_le (h : ((General.net viewStep rest).1 : ℤ) ≤ position.level) :
    destination rest position.outside = none :=
  destination_of_lt (by simp only [Position.outside]; omega)

theorem destination_nil (hvalid : position.Valid) :
    destination [] position =
      if position.level = 0 ∧ position.tree.resource.isSome then some position else none := by
  obtain ⟨trail, tree, level⟩ := position
  rcases lt_trichotomy level 0 with hneg | rfl | hpos
  · obtain rfl : trail = [] := hvalid.above hneg
    simp [destination, General.net, hneg.le, hneg.ne, climb, hneg]
  · cases trail with
    | nil => simp [destination, General.net, climb, lookup]
    | cons step trail => simp [destination, General.net, climb, lookup]
  · rw [destination_of_lt (by exact hpos), if_neg fun h => hpos.ne' h.1]

/-- A move that enters no child keeps where the path leads. -/
theorem destination_go (hvalid : position.Valid) (h : Position.Goes position view next change) :
    destination (view :: rest) position = destination rest next := by
  cases h with
  | stay hstay => rw [destination, General.net_stay hstay, ← destination]
  | back hup htrail hlevel => exact destination_back hup htrail hlevel
  | inside hup _ => exact destination_inside hup
  | outside hdown hnone =>
    obtain hlevel | ⟨hlevel, hnone⟩ := hnone
    · exact destination_above hvalid hdown hlevel
    · by_cases hzero : (General.net viewStep rest).1 = 0 ∧ position.level = 0
      · rw [destination_down hdown hzero.2 hzero.1, hnone,
          destination_outside_of_le (by rw [hzero.1, hzero.2]; rfl)]
        rfl
      · exact destination_outside hdown hlevel (by omega)

/-- Unless the path goes up just as far as the search is outside the tree, it does not matter
whether a child is entered. -/
theorem destination_descend (h : ((General.net viewStep rest).1 : ℤ) ≠ position.level) :
    destination rest (position.descend child view) = destination rest position.outside := by
  rcases lt_or_gt_of_ne h with hlt | hgt
  · rw [destination_of_lt (by exact hlt), destination_outside_of_le hlt.le]
  · obtain ⟨ups, hups⟩ := Int.eq_ofNat_of_zero_le (sub_nonneg.mpr (Int.add_one_le_of_lt hgt))
    rw [destination_of_eq (ups + 1) (by simp only [Position.descend]; push_cast; omega),
      destination_of_eq ups (by simp only [Position.outside]; omega)]
    rfl

/-- A segment that is outside the tree is matched by a child, and from there the rest of the path
leads to a route. -/
def astray (rest : List View) (position : Position ρ) (view : View) (child : Child ρ) : Bool :=
  0 < position.level && (General.net viewStep rest).1 = position.level &&
    (destination rest (position.descend child view)).isSome

theorem astray_eq_true : astray rest position view child ↔
    0 < position.level ∧ (General.net viewStep rest).1 = position.level ∧
      (destination rest (position.descend child view)).isSome := by
  simp [astray, and_assoc]

variable {children : List (Child ρ)}

/-- The children are tried one after the other, and then the path goes on outside.  That is where
the path leads, unless one that is tried goes astray. -/
theorem destination_children (hdown : viewStep view = .down) (hlevel : 0 ≤ position.level)
    (hchildren : children = position.matching view)
    (hastray : ∀ before child after, children = before ++ child :: after →
      (∀ other ∈ before, destination rest (position.descend other view) = none) →
        astray rest position view child = false) :
    destination (view :: rest) position =
      (children.findSome? fun child => destination rest (position.descend child view)).or
        (destination rest position.outside) := by
  by_cases hups : ((General.net viewStep rest).1 : ℤ) = position.level
  · rw [destination_outside_of_le (le_of_eq hups), or_none]
    rcases hlevel.lt_or_eq with hpos | hzero
    · rw [destination_outside hdown hlevel (.inr hpos), destination_outside_of_le (le_of_eq hups)]
      cases hfound : children.findSome? fun child =>
          destination rest (position.descend child view) with
      | none => rfl
      | some found =>
        obtain ⟨before, child, after, hsplit, hchild, hbefore⟩ :=
          List.findSome?_eq_some_iff.mp hfound
        have hstray := hastray before child after hsplit hbefore
        rw [Bool.eq_false_iff, ne_eq, astray_eq_true] at hstray
        exact absurd ⟨hpos, hups, by rw [hchild]; rfl⟩ hstray
    · rw [destination_down hdown hzero.symm (by omega), hchildren]
  · have hsame : ∀ child : Child ρ, destination rest (position.descend child view) =
        destination rest position.outside := fun child => destination_descend hups
    rw [destination_outside hdown hlevel (by omega)]
    simp only [hsame]
    cases children with
    | nil => rfl
    | cons child children =>
      cases hout : destination rest position.outside with
      | none =>
        rw [or_none, eq_comm, findSome?_eq_none_iff]
        exact fun _ _ => rfl
      | some found => simp

theorem destination_outside_eq_none (h : destination rest (position.descend child view) = none) :
    destination rest position.outside = none := by
  by_cases hups : ((General.net viewStep rest).1 : ℤ) = position.level
  · exact destination_outside_of_le (le_of_eq hups)
  · rwa [← destination_descend hups]

theorem destination_enter (hmove : position.move view = .enter child)
    (hastray : astray rest position view child = false) :
    destination (view :: rest) position = destination rest (position.descend child view) := by
  obtain ⟨hdown, hlevel, hchildren⟩ := Position.children_of_move (.inr ⟨child, hmove, rfl⟩)
  rw [destination_children hdown hlevel hchildren]
  · rw [findSome?_singleton]
    cases hchild : destination rest (position.descend child view) with
    | none => rw [destination_outside_eq_none hchild, or_none]
    | some found => rfl
  · intro before other after hsplit _
    obtain rfl : child = other := by
      have hmem : other ∈ [child] := hsplit ▸ mem_append_right _ mem_cons_self
      exact (List.mem_singleton.mp hmem).symm
    exact hastray

theorem level_of_destination_ne {other : Child ρ} (hlevel : 0 ≤ position.level)
    (hother : destination rest (position.descend other view) = none)
    (hchild : destination rest (position.descend child view) ≠ none)
    (hastray : astray rest position view child = false) :
    position.level = 0 ∧ (General.net viewStep rest).1 = 0 := by
  have hups : ((General.net viewStep rest).1 : ℤ) = position.level := by
    by_contra hne
    rw [destination_descend hne] at hother hchild
    exact hchild hother
  rcases hlevel.lt_or_eq with hpos | hzero
  · rw [Bool.eq_false_iff, ne_eq, astray_eq_true] at hastray
    exact absurd ⟨hpos, hups, Option.isSome_iff_ne_none.mpr hchild⟩ hastray
  · exact ⟨hzero.symm, by omega⟩

end

end AqualinkAutomate.Http
