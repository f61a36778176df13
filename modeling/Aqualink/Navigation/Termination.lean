import Aqualink.Navigation.Navigator

/-!
# When a screen update returns

Looking for a path can fail in two ways: the navigator does not know its page, or the
model has no path to the target.  Either starts a recovery, which leads back to the
home page and looks for a path again.  A recovery beyond the allowed ones only marks
the navigator as failed, and the search for a path goes on regardless.

Away from the home page this comes to an end, since a recovery there waits for the
answer to a key (`terminates_of_recovery`, `terminates_executeNextStep_away`).  On the
home page with no path to the target (`Stranded`) there is nothing to wait for:
looking for a path and recovering call each other for ever (`spinning_again`).  So an
update returns unless it gets there (`returns_iff_not_spins`), and a run is answered
throughout unless an update of it does (`answered_iff`).
-/

namespace AqualinkAutomate.Navigation

open General

namespace Navigator

variable {model : MenuModel} {nav nav' : Navigator}

def Stranded (model : MenuModel) (nav : Navigator) : Prop :=
  nav.currentPage = .system ∧ nav.targetPage ≠ .system ∧
    model.findPath .system nav.targetPage = [] ∧ nav.pendingStatusMessages = 0

def OffPath (nav : Navigator) : Prop := nav.path[nav.pathIndex]? = none

def Pathless (model : MenuModel) (nav : Navigator) : Prop :=
  nav.currentPage = .unknown ∨ model.findPath nav.currentPage nav.targetPage = []

/-- What a search for a path and a recovery leave alone. -/
structure SamePlace (nav nav' : Navigator) : Prop where
  currentPage : nav'.currentPage = nav.currentPage
  targetPage : nav'.targetPage = nav.targetPage
  pendingStatusMessages : nav'.pendingStatusMessages = nav.pendingStatusMessages
  cursorStuckCount : nav'.cursorStuckCount = nav.cursorStuckCount

theorem SamePlace.stranded_iff (h : SamePlace nav nav') :
    nav'.Stranded model ↔ nav.Stranded model := by
  unfold Stranded
  rw [h.currentPage, h.targetPage, h.pendingStatusMessages]

theorem SamePlace.pathless_iff (h : SamePlace nav nav') :
    nav'.Pathless model ↔ nav.Pathless model := by
  unfold Pathless
  rw [h.currentPage, h.targetPage]

theorem SamePlace.refl (nav : Navigator) : SamePlace nav nav := ⟨rfl, rfl, rfl, rfl⟩

theorem SamePlace.trans {nav'' : Navigator} (h : SamePlace nav nav') (h' : SamePlace nav' nav'') :
    SamePlace nav nav'' where
  currentPage := h'.currentPage.trans h.currentPage
  targetPage := h'.targetPage.trans h.targetPage
  pendingStatusMessages := h'.pendingStatusMessages.trans h.pendingStatusMessages
  cursorStuckCount := h'.cursorStuckCount.trans h.cursorStuckCount

theorem Stranded.ne_target (h : nav.Stranded model) : nav.currentPage ≠ nav.targetPage := by
  rw [h.1]
  exact h.2.1.symm

theorem Stranded.pathless (h : nav.Stranded model) : nav.Pathless model := by
  right
  rw [h.1]
  exact h.2.2.1

/-! ## Single passes -/

theorem initiateRecovery_cases (nav : Navigator) :
    (maxRecoveryAttempts < nav.recoveryAttempts + 1 ∧
      nav.initiateRecovery =
        { nav with recoveryAttempts := nav.recoveryAttempts + 1, state := .failed }) ∨
    (¬ maxRecoveryAttempts < nav.recoveryAttempts + 1 ∧
      nav.initiateRecovery =
        { nav with
          recoveryAttempts := nav.recoveryAttempts + 1
          state := .reorienting
          recoveryBackPresses := 0
          path := []
          pathIndex := 0 }) := by
  unfold initiateRecovery
  by_cases h : maxRecoveryAttempts < nav.recoveryAttempts + 1
  · exact .inl ⟨h, if_pos h⟩
  · exact .inr ⟨h, if_neg h⟩

theorem samePlace_initiateRecovery (nav : Navigator) : SamePlace nav nav.initiateRecovery := by
  rcases nav.initiateRecovery_cases with ⟨-, h⟩ | ⟨-, h⟩ <;> rw [h] <;> exact ⟨rfl, rfl, rfl, rfl⟩

theorem recoveryNext_home (hhome : nav.currentPage = .system)
    (hpending : nav.pendingStatusMessages = 0) :
    nav.recoveryNext model = .again (.executeNextStep, { nav with
      state := .navigating, recoveryBackPresses := 0, path := [], pathIndex := 0 }) := by
  unfold recoveryNext
  rw [hpending, if_neg (by decide), hhome, if_neg (by decide)]
  exact if_pos rfl

theorem followPath_of_offPath (hne : nav.currentPage ≠ nav.targetPage) (hoff : nav.OffPath) :
    nav.followPath model = .again (.executeNextStep, { nav with path := [] }) := by
  unfold OffPath at hoff
  rw [followPath, if_neg hne, hoff]
  rfl

theorem executeNextStep_of_pathless (hne : nav.currentPage ≠ nav.targetPage)
    (hpath : nav.path = []) (hpathless : nav.Pathless model) :
    ∃ nav', SamePlace nav nav' ∧
      (nav.executeNextStep model = .again (.recoveryNext, nav') ∨
        nav.executeNextStep model = .again (.executeNextStep, nav') ∧ nav'.path = [] ∧
          nav'.recoveryAttempts = nav.recoveryAttempts + 1 ∧
          maxRecoveryAttempts < nav'.recoveryAttempts) := by
  obtain ⟨start, hstart, hstart_path, hstart_attempts, hcompute⟩ :
      ∃ start, SamePlace nav start ∧ start.path = [] ∧
        start.recoveryAttempts = nav.recoveryAttempts ∧
        nav.computePath model = start.initiateRecovery := by
    unfold computePath
    by_cases hunknown : nav.currentPage = .unknown
    · exact ⟨nav, ⟨rfl, rfl, rfl, rfl⟩, hpath, rfl, if_pos hunknown⟩
    · have hnone := hpathless.resolve_left hunknown
      refine ⟨{ nav with path := [], pathIndex := 0 }, ⟨rfl, rfl, rfl, rfl⟩, rfl, rfl, ?_⟩
      rw [if_neg hunknown]
      simp only [hnone]
      exact if_pos ⟨trivial, hne⟩
  unfold executeNextStep
  rw [if_pos ⟨hpath, hne⟩, hcompute]
  rcases start.initiateRecovery_cases with ⟨hlimit, hrecovery⟩ | ⟨-, hrecovery⟩
  · refine ⟨{ start with
      recoveryAttempts := start.recoveryAttempts + 1, state := .failed, path := [] },
      ⟨hstart.1, hstart.2, hstart.3, hstart.4⟩, .inr ⟨?_, rfl, ?_, ?_⟩⟩
    · rw [hrecovery]
      dsimp only
      rw [if_neg (by decide), followPath_of_offPath]
      · show start.currentPage ≠ start.targetPage
        rwa [hstart.currentPage, hstart.targetPage]
      · show start.path[start.pathIndex]? = none
        rw [hstart_path]
        rfl
    · show start.recoveryAttempts + 1 = nav.recoveryAttempts + 1
      rw [hstart_attempts]
    · exact hlimit
  · refine ⟨start.initiateRecovery, ?_, .inl ?_⟩
    · rw [hrecovery]
      exact ⟨hstart.1, hstart.2, hstart.3, hstart.4⟩
    · rw [hrecovery]
      exact if_pos rfl

def AtBoundary (nav : Navigator) : Prop :=
  nav.cursorLine = nav.previousCursorLine ∧ 0 < nav.cursorStuckCount ∧
    maxCursorStuckCount ≤ nav.cursorStuckCount + 1 ∧ nav.navigatingToItem = false

theorem keepMoving_cases (nav : Navigator) :
    (nav.AtBoundary ∧ nav.keepMoving = { nav with cursorStuckCount := 0 }.acceptCursorLine) ∨
      (¬ nav.AtBoundary ∧ ∃ answer, nav.keepMoving = .done answer) := by
  unfold keepMoving AtBoundary
  by_cases hstuck : nav.cursorLine = nav.previousCursorLine ∧ 0 < nav.cursorStuckCount
  · rw [if_pos hstuck]
    by_cases hcount : maxCursorStuckCount ≤ nav.cursorStuckCount + 1
    · rw [if_pos hcount]
      cases hitem : nav.navigatingToItem with
      | true => exact .inr ⟨by simp, _, rfl⟩
      | false => exact .inl ⟨⟨hstuck.1, hstuck.2, hcount, rfl⟩, rfl⟩
    · rw [if_neg hcount]
      exact .inr ⟨fun h => hcount h.2.2.1, _, rfl⟩
  · rw [if_neg hstuck]
    exact .inr ⟨fun h => hstuck ⟨h.1, h.2.1⟩, _, rfl⟩

theorem not_atBoundary_of_fresh (h : nav.cursorStuckCount = 0) : ¬ nav.AtBoundary := by
  intro hboundary
  have hpos := hboundary.2.1
  rw [h] at hpos
  exact absurd hpos (by decide)

/-! ## The navigator never returns when it is stranded -/

inductive Spinning (model : MenuModel) : Call × Navigator → Prop where
  | executeNextStep {nav : Navigator} (h : nav.Stranded model) (hoff : nav.OffPath) :
      Spinning model (.executeNextStep, nav)
  | recoveryNext {nav : Navigator} (h : nav.Stranded model) : Spinning model (.recoveryNext, nav)

variable {s : Call × Navigator}

theorem spinning_again (h : Spinning model s) :
    ∃ next, step model s = .again next ∧ Spinning model next := by
  cases h with
  | @recoveryNext nav h =>
    refine ⟨_, recoveryNext_home h.1 h.2.2.2, ?_⟩
    apply Spinning.executeNextStep
    · exact h
    · rfl
  | @executeNextStep nav h hoff =>
    by_cases hpath : nav.path = []
    · obtain ⟨nav', hplace, hnext | ⟨hnext, hpath', -⟩⟩ :=
        executeNextStep_of_pathless h.ne_target hpath h.pathless
      · exact ⟨_, hnext, .recoveryNext (hplace.stranded_iff.mpr h)⟩
      · refine ⟨_, hnext, .executeNextStep (hplace.stranded_iff.mpr h) ?_⟩
        unfold OffPath
        rw [hpath']
        rfl
    · -- A path that has been followed to its end is dropped first.
      refine ⟨(.executeNextStep, { nav with path := [] }), ?_, .executeNextStep h rfl⟩
      show nav.executeNextStep model = _
      unfold executeNextStep
      rw [if_neg fun hempty => hpath hempty.1]
      exact followPath_of_offPath h.ne_target hoff

theorem not_terminates_of_spinning (h : Spinning model s) : ¬ Terminates (step model) s :=
  not_terminates_of_invariant (Spinning model) (fun _ hs => spinning_again hs) h

/-! ## The other calls end -/

@[simp] theorem ends_stop (nav : Navigator) : nav.stop.Ends (step model) := trivial

@[simp] theorem ends_press (nav : Navigator) (key : NavKeyCommand) :
    (nav.press key).Ends (step model) := trivial

theorem terminates_of_first_move (hcursor : nav.cursorLine ≠ nav.targetCursorLine)
    (hcount : nav.cursorMoveCount = 0)
    (haccept : nav.AtBoundary →
      ({ nav with cursorMoveCount := 1, cursorStuckCount := 0 }.acceptCursorLine).Ends
        (step model)) : Terminates (step model) (.moveCursorToTarget, nav) := by
  apply (terminates_iff_ends _ _).mpr
  show nav.moveCursorToTarget.Ends (step model)
  unfold moveCursorToTarget
  rw [if_neg hcursor]
  by_cases hpending : 0 < nav.pendingStatusMessages
  · rw [if_pos hpending]
    exact ends_stop nav
  rw [if_neg hpending, hcount, if_neg (by decide)]
  rcases keepMoving_cases { nav with cursorMoveCount := 0 + 1 } with
    ⟨hboundary, hnext⟩ | ⟨-, answer, hdone⟩
  · rw [hnext]
    exact haccept hboundary
  · rw [hdone]
    trivial

section

variable {edge : MenuEdge} (hne : nav.currentPage ≠ nav.targetPage)
  (hedge : nav.path[nav.pathIndex]? = some edge)

include hne hedge

theorem followPath_on_path : nav.followPath model = nav.executeEdge edge := by
  unfold followPath
  rw [if_neg hne, hedge]

theorem executeNextStep_on_path : nav.executeNextStep model = nav.executeEdge edge := by
  have hpath : nav.path ≠ [] := by
    intro hnil
    rw [hnil] at hedge
    cases hedge
  unfold executeNextStep
  rw [if_neg fun h => hpath h.1, followPath_on_path hne hedge]

theorem terminates_on_path_of_skip (hskip : nav.skipCursorCheck) :
    Terminates (step model) (.executeNextStep, nav) := by
  apply (terminates_iff_ends _ _).mpr
  show (nav.executeNextStep model).Ends (step model)
  rw [executeNextStep_on_path hne hedge]
  unfold executeEdge
  rw [if_neg fun hcheck => Bool.noConfusion (hskip.symm.trans hcheck.2.1)]
  exact ends_press _ _

theorem terminates_on_path : Terminates (step model) (.executeNextStep, nav) := by
  apply (terminates_iff_ends _ _).mpr
  show (nav.executeNextStep model).Ends (step model)
  rw [executeNextStep_on_path hne hedge]
  unfold executeEdge
  split
  · next hmove =>
    apply terminates_of_first_move hmove.2.2 rfl
    intro _
    -- The accepted line lets the same edge pass without the check.
    apply terminates_on_path_of_skip
    · exact hne
    · exact hedge
    · rfl
  · exact ends_press _ _

end

theorem ends_reachItem (line : UInt8)
    (hmove : ∀ nav' : Navigator, nav'.currentPage = nav.currentPage →
      nav'.targetPage = nav.targetPage → nav'.navigatingToItem = nav.navigatingToItem →
      nav'.cursorStuckCount = nav.cursorStuckCount → nav'.cursorMoveCount = nav.cursorMoveCount →
      nav'.cursorLine ≠ nav'.targetCursorLine →
      Terminates (step model) (.moveCursorToTarget, nav')) :
    (nav.reachItem line).Ends (step model) := by
  unfold reachItem
  dsimp only
  split
  · next hcursor =>
    apply hmove
    · rfl
    · rfl
    · rfl
    · rfl
    · rfl
    · exact hcursor
  · split
    · exact ends_press _ _
    · exact ends_stop _

theorem ends_scrollToItem (nav : Navigator) : (nav.scrollToItem model).Ends (step model) := by
  unfold scrollToItem
  split
  · exact ends_press _ _
  · exact ends_stop _

theorem ends_reachTarget (hitem : nav.navigatingToItem → ∀ line,
    (nav.reachItem line).Ends (step model)) : (nav.reachTarget model).Ends (step model) := by
  unfold reachTarget
  split
  · next h =>
    split
    · exact hitem h _
    · split
      · exact hitem h _
      · exact ends_scrollToItem nav
  · trivial

section

variable (h : nav.currentPage = nav.targetPage)

include h

theorem executeNextStep_at_target : nav.executeNextStep model = nav.reachTarget model := by
  unfold executeNextStep followPath
  rw [if_neg fun hpath => hpath.2 h, if_pos h]

theorem terminates_at_target_of_fresh (hfresh : nav.cursorStuckCount = 0)
    (hcount : nav.cursorMoveCount = 0) : Terminates (step model) (.executeNextStep, nav) := by
  apply (terminates_iff_ends _ _).mpr
  show (nav.executeNextStep model).Ends (step model)
  rw [executeNextStep_at_target h]
  apply ends_reachTarget
  intro _ line
  apply ends_reachItem
  intro nav' _ _ _ hfresh' hcount' hcursor
  apply terminates_of_first_move hcursor (hcount'.trans hcount)
  intro hboundary
  exact absurd hboundary (not_atBoundary_of_fresh (hfresh'.trans hfresh))

theorem terminates_moveCursorToTarget_of_item (hitem : nav.navigatingToItem) :
    Terminates (step model) (.moveCursorToTarget, nav) := by
  have hkeep : ∀ nav' : Navigator, nav'.navigatingToItem → nav'.keepMoving.Ends (step model) := by
    intro nav' hitem'
    rcases nav'.keepMoving_cases with ⟨hboundary, -⟩ | ⟨-, answer, hdone⟩
    · exact Bool.noConfusion (hitem'.symm.trans hboundary.2.2.2)
    · rw [hdone]
      trivial
  apply (terminates_iff_ends _ _).mpr
  show nav.moveCursorToTarget.Ends (step model)
  unfold moveCursorToTarget
  split
  · exact terminates_at_target_of_fresh h rfl rfl
  split
  · exact ends_stop nav
  split
  · split
    · unfold giveUpCursorMove
      rw [if_pos hitem]
      exact ends_stop _
    · split
      · exact terminates_at_target_of_fresh h rfl rfl
      · exact hkeep _ hitem
  · exact hkeep _ hitem

theorem terminates_at_target : Terminates (step model) (.executeNextStep, nav) := by
  apply (terminates_iff_ends _ _).mpr
  show (nav.executeNextStep model).Ends (step model)
  rw [executeNextStep_at_target h]
  apply ends_reachTarget
  intro hitem line
  apply ends_reachItem
  intro nav' hpage htarget hitem' _ _ _
  apply terminates_moveCursorToTarget_of_item
  · rw [hpage, htarget, h]
  · rw [hitem', hitem]

end

theorem terminates_of_path (hne : nav.currentPage ≠ nav.targetPage) (hpath : nav.path = [])
    (hpathless : ¬ nav.Pathless model)
    (hrecovery : nav.state = .reorienting → ∀ nav', SamePlace nav nav' →
      Terminates (step model) (.recoveryNext, nav')) :
    Terminates (step model) (.executeNextStep, nav) := by
  obtain ⟨hknown, hfound⟩ := not_or.mp hpathless
  obtain ⟨onPath, honPath⟩ : ∃ onPath : Navigator, onPath = { nav with
    path := model.findPath nav.currentPage nav.targetPage, pathIndex := 0 } := ⟨_, rfl⟩
  have hcompute : nav.computePath model = onPath := by
    unfold computePath
    rw [if_neg hknown, honPath]
    exact if_neg fun h => hfound h.1
  apply (terminates_iff_ends _ _).mpr
  show (nav.executeNextStep model).Ends (step model)
  unfold executeNextStep
  rw [if_pos ⟨hpath, hne⟩, hcompute]
  dsimp only
  split
  · next hstate =>
    rw [honPath] at hstate ⊢
    exact hrecovery hstate _ ⟨rfl, rfl, rfl, rfl⟩
  · have hne' : onPath.currentPage ≠ onPath.targetPage := by
      rwa [honPath]
    obtain ⟨edge, rest, hcons⟩ := List.exists_cons_of_ne_nil hfound
    have hedge : onPath.path[onPath.pathIndex]? = some edge := by
      rw [honPath]
      dsimp only
      rw [hcons]
      rfl
    have hends := (terminates_iff_ends _ _).mp (@terminates_on_path model _ _ hne' hedge)
    change (onPath.executeNextStep model).Ends (step model) at hends
    rwa [executeNextStep_on_path hne' hedge, ← followPath_on_path hne' hedge] at hends

/-- Without a path, too many recoveries only repeat the attempt until their counter wraps
around. -/
theorem terminates_of_pathless (hne : nav.currentPage ≠ nav.targetPage) (hpath : nav.path = [])
    (hpathless : nav.Pathless model)
    (hrecovery : ∀ nav', SamePlace nav nav' → Terminates (step model) (.recoveryNext, nav')) :
    Terminates (step model) (.executeNextStep, nav) := by
  obtain ⟨n, hn⟩ : ∃ n, n = UInt32.size - nav.recoveryAttempts.toNat := ⟨_, rfl⟩
  induction n using Nat.strong_induction_on generalizing nav with
  | _ n ih =>
    apply (terminates_iff_ends _ _).mpr
    show (nav.executeNextStep model).Ends (step model)
    obtain ⟨next, hsame, hnext | ⟨hnext, hpath', hattempts, hlimit⟩⟩ :=
      executeNextStep_of_pathless hne hpath hpathless
    · rw [hnext]
      exact hrecovery next hsame
    · rw [hnext]
      refine ih _ ?_ ?_ hpath' (hsame.pathless_iff.mpr hpathless) ?_ rfl
      · have hlt := UInt32.lt_iff_toNat_lt.mp hlimit
        have hthree : maxRecoveryAttempts.toNat = 3 := rfl
        have hone : (1 : UInt32).toNat = 1 := rfl
        have hbound := nav.recoveryAttempts.toNat_lt
        rw [hattempts, UInt32.toNat_add] at hlt
        rw [hn, hattempts, UInt32.toNat_add]
        unfold UInt32.size
        omega
      · rwa [hsame.currentPage, hsame.targetPage]
      · intro nav' hplace
        exact hrecovery nav' (hsame.trans hplace)

theorem terminates_of_recovery (nav : Navigator)
    (hrecovery : ∀ nav', SamePlace nav nav' → Terminates (step model) (.recoveryNext, nav')) :
    Terminates (step model) (.executeNextStep, nav) := by
  by_cases htarget : nav.currentPage = nav.targetPage
  · exact terminates_at_target htarget
  have hempty : ∀ nav', SamePlace nav nav' → nav'.path = [] →
      Terminates (step model) (.executeNextStep, nav') := by
    intro nav' hplace hpath
    have hne : nav'.currentPage ≠ nav'.targetPage := by
      rwa [hplace.currentPage, hplace.targetPage]
    have hrecovery' : ∀ next, SamePlace nav' next → Terminates (step model) (.recoveryNext, next) :=
      fun next hnext => hrecovery next (hplace.trans hnext)
    by_cases hpathless : nav'.Pathless model
    · exact terminates_of_pathless hne hpath hpathless hrecovery'
    · exact terminates_of_path hne hpath hpathless fun _ => hrecovery'
  by_cases hoff : nav.OffPath
  · by_cases hpath : nav.path = []
    · exact hempty nav (.refl nav) hpath
    · apply (terminates_iff_ends _ _).mpr
      show (nav.executeNextStep model).Ends (step model)
      unfold executeNextStep
      rw [if_neg fun h => hpath h.1, followPath_of_offPath htarget hoff]
      exact hempty _ ⟨rfl, rfl, rfl, rfl⟩ rfl
  · obtain ⟨edge, hedge⟩ := Option.ne_none_iff_exists'.mp hoff
    exact terminates_on_path htarget hedge

/-! ## Recovery -/

theorem ends_pressBack (nav : Navigator) : nav.pressBack.Ends (step model) := ends_press _ _

theorem ends_selectSystemLink (page : MenuPage)
    (haccept : 0 < nav.cursorStuckCount → ∀ nav' : Navigator, nav'.currentPage = nav.currentPage →
      nav'.cursorStuckCount = 0 → Terminates (step model) (.executeNextStep, nav')) :
    (nav.selectSystemLink page).Ends (step model) := by
  unfold selectSystemLink
  split
  · exact ends_stop _
  · dsimp only
    split
    · next hcursor =>
      apply terminates_of_first_move
      · exact hcursor
      · rfl
      · intro hboundary
        apply haccept hboundary.2.1
        · rfl
        · rfl
    · exact ends_press _ _

theorem terminates_recoveryNext_away (haway : nav.currentPage ≠ .system)
    (haccept : 0 < nav.cursorStuckCount → ∀ nav' : Navigator, nav'.currentPage = nav.currentPage →
      nav'.cursorStuckCount = 0 → Terminates (step model) (.executeNextStep, nav')) :
    Terminates (step model) (.recoveryNext, nav) := by
  apply (terminates_iff_ends _ _).mpr
  show (nav.recoveryNext model).Ends (step model)
  unfold recoveryNext
  split
  · exact ends_stop _
  split
  · exact ends_stop _
  split
  · exact ends_selectSystemLink _ haccept
  · split
    · dsimp only
      split
      · exact ends_stop _
      · exact ends_pressBack _
    · exact ends_pressBack _

/-- The stuck count is 0 after a line was accepted, so that this happens once. -/
theorem terminates_executeNextStep_away (haway : nav.currentPage ≠ .system) :
    Terminates (step model) (.executeNextStep, nav) := by
  have hfresh : ∀ nav' : Navigator, nav'.currentPage = nav.currentPage →
      nav'.cursorStuckCount = 0 → Terminates (step model) (.executeNextStep, nav') := by
    intro nav' hpage hzero
    apply terminates_of_recovery
    intro next hplace
    apply terminates_recoveryNext_away
    · rwa [hplace.currentPage, hpage]
    · intro hpos
      rw [hplace.cursorStuckCount, hzero] at hpos
      exact absurd hpos (by decide)
  apply terminates_of_recovery
  intro next hplace
  apply terminates_recoveryNext_away
  · rwa [hplace.currentPage]
  · intro _ nav' hpage hzero
    exact hfresh nav' (hpage.trans hplace.currentPage) hzero

theorem terminates_recoveryNext_home (hhome : nav.currentPage = .system)
    (h : ¬ nav.Stranded model) : Terminates (step model) (.recoveryNext, nav) := by
  apply (terminates_iff_ends _ _).mpr
  show (nav.recoveryNext model).Ends (step model)
  by_cases hpending : nav.pendingStatusMessages = 0
  · rw [recoveryNext_home hhome hpending]
    by_cases htarget : nav.targetPage = .system
    · apply terminates_at_target
      exact hhome.trans htarget.symm
    · apply terminates_of_path
      · show nav.currentPage ≠ nav.targetPage
        rw [hhome]
        exact Ne.symm htarget
      · rfl
      · intro hpathless
        apply h
        refine ⟨hhome, htarget, ?_, hpending⟩
        rcases hpathless with hunknown | hnone
        · exact absurd (hhome.symm.trans hunknown) (by decide)
        · rw [← hnone, ← hhome]
      · intro hstate
        exact NavigatorState.noConfusion hstate
  · unfold recoveryNext
    rw [if_pos (UInt32.pos_iff_ne_zero.mpr hpending)]
    exact ends_stop nav

/-! ## When a call returns -/

theorem terminates_recoveryNext_iff :
    Terminates (step model) (.recoveryNext, nav) ↔ ¬ nav.Stranded model := by
  constructor
  · intro hterminates h
    exact not_terminates_of_spinning (.recoveryNext h) hterminates
  · intro h
    by_cases hhome : nav.currentPage = .system
    · exact terminates_recoveryNext_home hhome h
    · apply terminates_recoveryNext_away hhome
      intro _ nav' hpage _
      apply terminates_executeNextStep_away
      rwa [hpage]

theorem terminates_executeNextStep_iff :
    Terminates (step model) (.executeNextStep, nav) ↔ ¬ (nav.Stranded model ∧ nav.OffPath) := by
  constructor
  · intro hterminates h
    exact not_terminates_of_spinning (.executeNextStep h.1 h.2) hterminates
  · intro h
    by_cases hstranded : nav.Stranded model
    · obtain ⟨edge, hedge⟩ := Option.ne_none_iff_exists'.mp fun hoff => h ⟨hstranded, hoff⟩
      exact terminates_on_path hstranded.ne_target hedge
    · apply terminates_of_recovery
      intro nav' hplace
      exact terminates_recoveryNext_iff.mpr fun h' => hstranded (hplace.stranded_iff.mp h')

/-- A cursor move that ends neither with a key nor with a failure: on the line that it was
going to, or on another one that is taken for it. -/
def Proceeds (nav : Navigator) : Prop :=
  nav.cursorLine = nav.targetCursorLine ∨
    if maxCursorMoves < nav.cursorMoveCount + 1 then
      match nav.wrapRecoveryLine with
      | none => nav.navigatingToItem = false
      | some line => nav.cursorLine = line ∨ nav.AtBoundary
    else nav.AtBoundary

/-- What a cursor move leaves alone. -/
structure SameWay (nav nav' : Navigator) : Prop where
  currentPage : nav'.currentPage = nav.currentPage
  targetPage : nav'.targetPage = nav.targetPage
  pendingStatusMessages : nav'.pendingStatusMessages = nav.pendingStatusMessages
  path : nav'.path = nav.path
  pathIndex : nav'.pathIndex = nav.pathIndex

theorem SameWay.terminates_iff (h : SameWay nav nav') :
    Terminates (step model) (.executeNextStep, nav') ↔
      ¬ (nav.Stranded model ∧ nav.OffPath) := by
  rw [terminates_executeNextStep_iff]
  unfold Stranded OffPath
  rw [h.currentPage, h.targetPage, h.pendingStatusMessages, h.path, h.pathIndex]

/-- The next call of a cursor move, if there is one, continues along the path. -/
def GoesOn (nav : Navigator) (pass : Step) (proceeds : Prop) : Prop :=
  (proceeds ∧ ∃ nav', pass = .again (.executeNextStep, nav') ∧ SameWay nav nav') ∨
    (¬ proceeds ∧ ∃ answer, pass = .done answer)

theorem GoesOn.congr {pass : Step} {proceeds proceeds' : Prop} (h : GoesOn nav pass proceeds)
    (hiff : proceeds ↔ proceeds') : GoesOn nav pass proceeds' :=
  h.imp (And.imp_left hiff.mp) (And.imp_left (mt hiff.mpr))

theorem goesOn_keepMoving (h : SameWay nav nav') : GoesOn nav nav'.keepMoving nav'.AtBoundary := by
  rcases nav'.keepMoving_cases with ⟨hboundary, hnext⟩ | ⟨hboundary, hdone⟩
  · exact .inl ⟨hboundary, _, hnext, ⟨h.1, h.2, h.3, h.4, h.5⟩⟩
  · exact .inr ⟨hboundary, hdone⟩

theorem goesOn_moveCursorToTarget (hpending : nav.pendingStatusMessages = 0) :
    GoesOn nav nav.moveCursorToTarget nav.Proceeds := by
  unfold moveCursorToTarget Proceeds
  by_cases hcursor : nav.cursorLine = nav.targetCursorLine
  · rw [if_pos hcursor]
    exact .inl ⟨.inl hcursor, _, rfl, ⟨rfl, rfl, rfl, rfl, rfl⟩⟩
  rw [if_neg hcursor, if_neg (by rw [hpending]; decide), or_iff_right hcursor]
  by_cases hmoves : maxCursorMoves < nav.cursorMoveCount + 1
  · rw [if_pos hmoves, if_pos hmoves]
    cases hwrap : nav.wrapRecoveryLine with
    | none =>
      dsimp only
      unfold giveUpCursorMove
      cases hitem : nav.navigatingToItem with
      | true => exact .inr ⟨Bool.noConfusion, _, rfl⟩
      | false => exact .inl ⟨rfl, _, rfl, ⟨rfl, rfl, rfl, rfl, rfl⟩⟩
    | some line =>
      dsimp only
      by_cases hline : nav.cursorLine = line
      · rw [if_pos hline]
        exact .inl ⟨.inl hline, _, rfl, ⟨rfl, rfl, rfl, rfl, rfl⟩⟩
      · rw [if_neg hline]
        apply (goesOn_keepMoving _).congr
        · exact (or_iff_right hline).symm
        · exact ⟨rfl, rfl, rfl, rfl, rfl⟩
  · rw [if_neg hmoves, if_neg hmoves]
    apply goesOn_keepMoving
    exact ⟨rfl, rfl, rfl, rfl, rfl⟩

theorem terminates_moveCursorToTarget_iff :
    Terminates (step model) (.moveCursorToTarget, nav) ↔
      ¬ (nav.Stranded model ∧ nav.OffPath ∧ nav.Proceeds) := by
  rw [terminates_iff_ends]
  show nav.moveCursorToTarget.Ends (step model) ↔ _
  by_cases hpending : nav.pendingStatusMessages = 0
  · rcases goesOn_moveCursorToTarget hpending with
      ⟨hproceeds, nav', hnext, hway⟩ | ⟨hstops, _, hdone⟩
    · rw [hnext]
      calc Terminates (step model) (.executeNextStep, nav')
          ↔ ¬ (nav.Stranded model ∧ nav.OffPath) := hway.terminates_iff
        _ ↔ ¬ (nav.Stranded model ∧ nav.OffPath ∧ nav.Proceeds) := by
            rw [and_iff_left hproceeds]
    · rw [hdone]
      exact iff_of_true trivial fun h => hstops h.2.2
  · -- Nobody is stranded while there is something to wait for.
    apply iff_of_true
    · unfold moveCursorToTarget
      split
      · apply terminates_executeNextStep_iff.mpr
        intro h
        exact hpending h.1.2.2.2
      · rw [if_pos (UInt32.pos_iff_ne_zero.mpr hpending)]
        exact ends_stop nav
    · intro h
      exact hpending h.1.2.2.2

/-! ## An unexpected page -/

/-- The target has not been reached from too many unexpected pages. -/
def GivesUpTarget (nav : Navigator) : Prop :=
  (nav.targetPage = nav.lastRecomputeTarget ∧ maxStuckRecomputes ≤ nav.stuckRecomputeCount + 1) ∨
    maxRecomputeCount ≤ nav.recomputeCount + 1

def WaitsForSplash (model : MenuModel) (nav : Navigator) : Prop :=
  nav.currentPage ≠ .unknown ∧ (model.getPage nav.currentPage).any MenuPage.isTransient = true ∧
    nav.transientWaitCount + 1 ≤ maxTransientWaits

/-- There have been too many recoveries to start another. -/
def GivesUpRecovery (model : MenuModel) (nav : Navigator) : Prop :=
  nav.Pathless model ∧ maxRecoveryAttempts < nav.recoveryAttempts + 1

/-- How an unexpected page is left: not in this update if `stays`, and otherwise to recover
or on a new path. -/
inductive LeftBy (model : MenuModel) (nav nav' : Navigator) (stays : Prop) : Prop where
  | stop (hnavigating : nav'.state ≠ .navigating) (hreorienting : nav'.state ≠ .reorienting)
      (hstays : stays)
  | recovery (hstate : nav'.state = .reorienting) (hplace : SamePlace nav nav')
      (hpathless : nav.Pathless model) (hleaves : ¬ stays)
  | path (hstate : nav'.state = .navigating) (hplace : SamePlace nav nav')
      (hpathless : ¬ nav.Pathless model)
      (hpath : nav'.path = model.findPath nav.currentPage nav.targetPage)
      (hindex : nav'.pathIndex = 0)

theorem LeftBy.of_samePlace {base : Navigator} {stays stays' : Prop}
    (h : LeftBy model base nav' stays') (hplace : SamePlace nav base) (hstays : stays' ↔ stays) :
    LeftBy model nav nav' stays := by
  cases h with
  | stop hnavigating hreorienting h => exact .stop hnavigating hreorienting (hstays.mp h)
  | recovery hstate hsame hpathless h =>
    exact .recovery hstate (hplace.trans hsame) (hplace.pathless_iff.mp hpathless) (mt hstays.mpr h)
  | path hstate hsame hpathless hpath hindex =>
    apply LeftBy.path hstate (hplace.trans hsame)
    · exact mt hplace.pathless_iff.mpr hpathless
    · rw [hpath, hplace.currentPage, hplace.targetPage]
    · exact hindex

theorem leftBy_initiateRecovery (hpathless : nav.Pathless model) :
    LeftBy model nav nav.initiateRecovery (nav.GivesUpRecovery model) := by
  rcases nav.initiateRecovery_cases with ⟨hlimit, hrecovery⟩ | ⟨hlimit, hrecovery⟩
  · rw [hrecovery]
    exact .stop NavigatorState.noConfusion NavigatorState.noConfusion ⟨hpathless, hlimit⟩
  · rw [hrecovery]
    exact .recovery rfl ⟨rfl, rfl, rfl, rfl⟩ hpathless fun h => hlimit h.2

theorem leftBy_recomputePath (nav : Navigator) :
    LeftBy model nav (nav.recomputePath model nav.currentPage) (nav.GivesUpRecovery model) := by
  unfold recomputePath
  by_cases hunknown : nav.currentPage = .unknown
  · rw [if_pos hunknown]
    exact leftBy_initiateRecovery (.inl hunknown)
  rw [if_neg hunknown]
  by_cases hnone : model.findPath nav.currentPage nav.targetPage = []
  · rw [if_pos hnone]
    apply LeftBy.of_samePlace
    · apply leftBy_initiateRecovery
      exact .inr hnone
    · exact ⟨rfl, rfl, rfl, rfl⟩
    · exact Iff.rfl
  · rw [if_neg hnone]
    exact .path rfl ⟨rfl, rfl, rfl, rfl⟩ (not_or.mpr ⟨hunknown, hnone⟩) rfl rfl

theorem leftBy_recomputeCount {counted : Navigator} (hplace : SamePlace nav counted)
    (hcounted : counted.recomputeCount = nav.recomputeCount + 1)
    (hgives : counted.GivesUpRecovery model ↔ nav.GivesUpRecovery model)
    (hstuck : ¬ (nav.targetPage = nav.lastRecomputeTarget ∧
      maxStuckRecomputes ≤ nav.stuckRecomputeCount + 1)) :
    LeftBy model nav
      (if maxRecomputeCount ≤ counted.recomputeCount then { counted with state := .failed }
        else counted.recomputePath model nav.currentPage)
      (nav.GivesUpTarget ∨ nav.GivesUpRecovery model) := by
  rw [hcounted]
  by_cases hcount : maxRecomputeCount ≤ nav.recomputeCount + 1
  · rw [if_pos hcount]
    exact .stop NavigatorState.noConfusion NavigatorState.noConfusion (.inl (.inr hcount))
  · rw [if_neg hcount, ← hplace.currentPage]
    apply (leftBy_recomputePath counted).of_samePlace hplace
    exact hgives.trans (or_iff_right (not_or.mpr ⟨hstuck, hcount⟩)).symm

theorem leftBy_recompute (nav : Navigator) :
    LeftBy model nav (nav.recompute model nav.currentPage)
      (nav.GivesUpTarget ∨ nav.GivesUpRecovery model) := by
  unfold recompute detectStuckRecompute GivesUpTarget
  by_cases htarget : nav.targetPage = nav.lastRecomputeTarget
  · rw [if_pos htarget]
    by_cases hstuck : maxStuckRecomputes ≤ nav.stuckRecomputeCount + 1
    · rw [if_pos hstuck]
      exact .stop NavigatorState.noConfusion NavigatorState.noConfusion
        (.inl (.inl ⟨htarget, hstuck⟩))
    rw [if_neg hstuck]
    exact leftBy_recomputeCount ⟨rfl, rfl, rfl, rfl⟩ rfl Iff.rfl fun h => hstuck h.2
  · rw [if_neg htarget]
    exact leftBy_recomputeCount ⟨rfl, rfl, rfl, rfl⟩ rfl Iff.rfl fun h => htarget h.1

def StaysAtUnexpectedPage (model : MenuModel) (nav : Navigator) : Prop :=
  nav.WaitsForSplash model ∨ nav.GivesUpTarget ∨ nav.GivesUpRecovery model

theorem leftBy_handleUnexpectedPage (model : MenuModel) (nav : Navigator) :
    LeftBy model nav (nav.handleUnexpectedPage model nav.currentPage)
      (nav.StaysAtUnexpectedPage model) := by
  unfold handleUnexpectedPage handleTransientPage StaysAtUnexpectedPage
  by_cases hsplash : nav.currentPage = .unknown ∨
      (model.getPage nav.currentPage).any MenuPage.isTransient = false
  · rw [if_pos hsplash]
    apply (leftBy_recompute nav).of_samePlace (.refl nav)
    have hgoesOn : ¬ nav.WaitsForSplash model := by
      rintro ⟨hknown, htransient, -⟩
      rcases hsplash with hunknown | hlasting
      · exact hknown hunknown
      · exact Bool.noConfusion (htransient.symm.trans hlasting)
    exact (or_iff_right hgoesOn).symm
  rw [if_neg hsplash]
  by_cases hwaits : nav.transientWaitCount + 1 ≤ maxTransientWaits
  · rw [if_pos hwaits]
    have hknown := fun h => hsplash (.inl h)
    have htransient := Bool.of_not_eq_false fun h => hsplash (.inr h)
    exact .stop NavigatorState.noConfusion NavigatorState.noConfusion
      (.inl ⟨hknown, htransient, hwaits⟩)
  · rw [if_neg hwaits]
    apply (leftBy_recompute _).of_samePlace
    · exact ⟨rfl, rfl, rfl, rfl⟩
    · exact (or_iff_right fun h => hwaits h.2.2).symm

theorem terminates_handleWaitingForPage_iff :
    Terminates (step model) (.handleWaitingForPage, nav) ↔
      ¬ (nav.Stranded model ∧
        if nav.AtUnexpectedPage then ¬ nav.StaysAtUnexpectedPage model else nav.OffPath) := by
  rw [terminates_iff_ends]
  show (nav.handleWaitingForPage model).Ends (step model) ↔ _
  unfold handleWaitingForPage
  by_cases hpending : 0 < nav.pendingStatusMessages
  · rw [if_pos hpending]
    apply iff_of_true (ends_stop nav)
    intro h
    rw [h.1.2.2.2] at hpending
    exact absurd hpending (by decide)
  rw [if_neg hpending]
  by_cases hunexpected : nav.AtUnexpectedPage
  · rw [if_pos hunexpected, if_pos hunexpected]
    dsimp only
    cases leftBy_handleUnexpectedPage model nav with
    | stop hnavigating hreorienting hstays =>
      apply iff_of_true
      · split
        · exact absurd ‹_› hnavigating
        · exact absurd ‹_› hreorienting
        · exact ends_stop _
      · intro h
        exact h.2 hstays
    | recovery hstate hplace _ hleaves =>
      rw [hstate]
      calc Terminates (step model) (.recoveryNext, nav.handleUnexpectedPage model nav.currentPage)
          ↔ ¬ (nav.handleUnexpectedPage model nav.currentPage).Stranded model :=
            terminates_recoveryNext_iff
        _ ↔ ¬ nav.Stranded model := not_congr hplace.stranded_iff
        _ ↔ ¬ (nav.Stranded model ∧ ¬ nav.StaysAtUnexpectedPage model) := by
            rw [and_iff_left hleaves]
    | path hstate hplace hpathless hpath hindex =>
      rw [hstate]
      have hstranded : ¬ nav.Stranded model := fun h => hpathless h.pathless
      apply iff_of_true
      · apply terminates_executeNextStep_iff.mpr
        intro h
        exact hstranded (hplace.stranded_iff.mp h.1)
      · intro h
        exact hstranded h.1
  · rw [if_neg hunexpected, if_neg hunexpected]
    exact terminates_executeNextStep_iff

/-! ## When an update returns -/

/-- The answer to a screen looks for a path, or starts from home after a recovery. -/
def LooksForPath (model : MenuModel) (nav : Navigator) : Prop :=
  match nav.state with
  | .navigating => nav.OffPath
  | .movingCursor => nav.OffPath ∧ nav.Proceeds
  | .waitingForPage =>
    if nav.AtUnexpectedPage then ¬ nav.StaysAtUnexpectedPage model else nav.OffPath
  | .reorienting => True
  | .idle | .syncing | .enteringPassword | .atDestination | .failed => False

/-- With the screen and its page taken over, the navigator is stranded, and it looks for a
path. -/
def Spins (model : MenuModel) (nav : Navigator) (content : ScreenDataPage) (line : UInt8) : Prop :=
  let arrived := (nav.receiveScreen content line).receivePage (model.detectPage content)
  arrived.Stranded model ∧ arrived.LooksForPath model

theorem ends_dispatch_iff :
    nav.dispatch.Ends (step model) ↔ ¬ (nav.Stranded model ∧ nav.LooksForPath model) := by
  unfold dispatch LooksForPath
  cases nav.state with
  | navigating => exact terminates_executeNextStep_iff
  | movingCursor => exact terminates_moveCursorToTarget_iff
  | waitingForPage => exact terminates_handleWaitingForPage_iff
  | reorienting =>
    rw [and_true]
    exact terminates_recoveryNext_iff
  | idle | syncing | enteringPassword | atDestination | failed =>
    exact iff_of_true trivial fun h => h.2

theorem ends_awaitAnswer_iff :
    nav.awaitAnswer.Ends (step model) ↔ ¬ (nav.Stranded model ∧ nav.LooksForPath model) := by
  unfold awaitAnswer
  by_cases hwaiting : nav.state = .waitingForPage ∧ 0 < nav.pendingStatusMessages
  · have hstranded : ¬ nav.Stranded model := by
      intro h
      have hpending := hwaiting.2
      rw [h.2.2.2] at hpending
      exact absurd hpending (by decide)
    rw [if_pos hwaiting]
    by_cases htimeout : maxWaitCycles ≤ nav.waitCycleCount + 1
    · -- The recovery waits for the same status messages.
      rw [if_pos htimeout]
      apply iff_of_true
      · apply terminates_recoveryNext_iff.mpr
        rwa [(samePlace_initiateRecovery _).stranded_iff]
      · intro h
        exact hstranded h.1
    · rw [if_neg htimeout]
      apply iff_of_true
      · apply ends_dispatch_iff.mpr
        intro h
        exact hstranded h.1
      · intro h
        exact hstranded h.1
  · rw [if_neg hwaiting]
    exact ends_dispatch_iff

theorem terminates_onPageUpdate_iff (content : ScreenDataPage) (line : UInt8) :
    Terminates (step model) (.onPageUpdate content line, nav) ↔ ¬ nav.Spins model content line := by
  rw [terminates_iff_ends]
  show (nav.onPageUpdate model content line).Ends (step model) ↔ _
  unfold onPageUpdate Spins
  by_cases hsyncing : (nav.receiveScreen content line).state = .syncing
  · rw [if_pos hsyncing]
    apply iff_of_true (ends_stop _)
    intro h
    have hlooks : LooksForPath model ((nav.receiveScreen content line).receivePage _) := h.2
    unfold LooksForPath at hlooks
    have hstate : ((nav.receiveScreen content line).receivePage (model.detectPage content)).state =
        .syncing := hsyncing
    rwa [hstate] at hlooks
  rw [if_neg hsyncing]
  generalize (nav.receiveScreen content line).receivePage (model.detectPage content) = arrived
  by_cases hblocking : isBlockingPage arrived.currentPage
  · rw [if_pos hblocking]
    apply iff_of_true (ends_stop _)
    intro h
    rw [h.1.1] at hblocking
    exact absurd hblocking (by decide)
  rw [if_neg hblocking]
  by_cases hpassword : arrived.currentPage = .enterPassword ∧ arrived.state ≠ .enteringPassword
  · rw [if_pos hpassword]
    apply iff_of_true (ends_press _ _)
    intro h
    exact absurd (h.1.1.symm.trans hpassword.1) (by decide)
  · rw [if_neg hpassword]
    exact ends_awaitAnswer_iff

end Navigator

/-! ## Runs -/

def AllAnswered (model : MenuModel) : Navigator → List NavigatorEvent → Prop
  | _, [] => True
  | nav, event :: events =>
    ∃ answer, Answers model nav event answer ∧ AllAnswered model answer.1 events

def NavigatorEvent.Clear (model : MenuModel) (nav : Navigator) : NavigatorEvent → Prop
  | .pageUpdate content line => ¬ nav.Spins model content line
  | _ => True

/-- No screen update of a run spins. -/
def AllClear (model : MenuModel) : Navigator → List NavigatorEvent → Prop
  | _, [] => True
  | nav, event :: events =>
    event.Clear model nav ∧
      ∀ answer, Answers model nav event answer → AllClear model answer.1 events

theorem answers_iff_clear (model : MenuModel) (nav : Navigator) (event : NavigatorEvent) :
    (∃ answer, Answers model nav event answer) ↔ event.Clear model nav := by
  cases event with
  | pageUpdate content line => exact Navigator.terminates_onPageUpdate_iff content line
  | startSync | navigateTo | navigateToItem | reset | statusMessage =>
    exact iff_of_true ⟨_, rfl⟩ trivial

/-- **Termination.**  A run is answered throughout if and only if no screen update of it
finds the navigator stranded and has it look for a path. -/
theorem allAnswered_iff (model : MenuModel) (nav : Navigator) (events : List NavigatorEvent) :
    AllAnswered model nav events ↔ AllClear model nav events := by
  induction events generalizing nav with
  | nil => exact Iff.rfl
  | cons event events ih =>
    constructor
    · rintro ⟨answer, hanswers, hrest⟩
      refine ⟨(answers_iff_clear model nav event).mp ⟨answer, hanswers⟩, ?_⟩
      intro answer' hanswers'
      rw [hanswers'.unique hanswers]
      exact (ih answer.1).mp hrest
    · rintro ⟨hclear, hrest⟩
      obtain ⟨answer, hanswers⟩ := (answers_iff_clear model nav event).mpr hclear
      exact ⟨answer, hanswers, (ih answer.1).mpr (hrest answer hanswers)⟩

/-- A model of the home page alone. -/
def homeModel : MenuModel where
  pages := [{ id := .system, detectors := [{ line := 0, pattern := ['H', 'O', 'M', 'E'] }] }]

def homeScreen : ScreenDataPage where
  rows := [{ text := ['H', 'O', 'M', 'E'] }]

/-- A new navigator with a target that the model does not have never answers the home
page. -/
theorem homeScreen_not_answered :
    Reachable homeModel (Navigator.navigateTo {} .boost) ∧
      ¬ ∃ answer, Answers homeModel (Navigator.navigateTo {} .boost) (.pageUpdate homeScreen 0)
        answer := by
  constructor
  · exact @Reachable.next homeModel {} (.navigateTo .boost) _ .start rfl
  · rw [answers_iff_clear]
    have hspins : Navigator.Spins homeModel (Navigator.navigateTo {} .boost) homeScreen 0 :=
      ⟨⟨by decide, by decide, by decide, rfl⟩, rfl⟩
    exact fun hclear => hclear hspins

end AqualinkAutomate.Navigation
