import Aqualink.Navigation.ItemArrival
import Aqualink.OneTouch.KeyDelivery

/-!
# The row that is edited and the row that is read

To edit a value the goal has the navigator stop on its row, and from there on it works on that
row: the keys go to where the cursor is.  What the row shows it reads off a line of its own, which
it was given together with the label.

The navigator looks the label up on the screen and goes where it finds it.  So the two rows are
one only if the label is in the line that the goal was given.  `OnOwnRow` asks for that of the
screens on which the navigator stops, and then they are the same in every state that is reached
(`edited_row_is_read`).
-/

namespace AqualinkAutomate.OneTouch

open General Navigation

namespace ValueEditGoal

variable {model : MenuModel} {fuel : ℕ} {goal : ValueEditGoal} {ctx : KeypadContext}
variable {result : GoalStep ValueEditGoal}

/-- The navigator that the goal shows the screen to: the first step sends it to the row. -/
def bound (goal : ValueEditGoal) (nav : Navigator) : Navigator :=
  if goal.started then nav else nav.navigateToItem goal.page goal.line goal.label .unknown

structure SameTask (goal goal' : ValueEditGoal) : Prop where
  page : goal'.page = goal.page
  line : goal'.line = goal.line
  label : goal'.label = goal.label

inductive Navigates (model : MenuModel) (goal : ValueEditGoal) (ctx : KeypadContext)
    (result : GoalStep ValueEditGoal) : Prop where
  | fails (h : result.status ≠ .running)
  | seeks (answer : Answer)
      (hanswers : Answers model (goal.bound ctx.navigator)
        (.pageUpdate ctx.page ctx.highlightedLine) answer)
      (haway : answer.1.state ≠ .atDestination) (hsame : goal.SameTask result.goal)
      (hstarted : result.goal.started = true) (hphase : result.goal.phase = .navigating)
      (hnav : result.context.navigator = answer.1)
  | stops (answer : Answer)
      (hanswers : Answers model (goal.bound ctx.navigator)
        (.pageUpdate ctx.page ctx.highlightedLine) answer)
      (harrived : answer.1.state = .atDestination) (hsame : goal.SameTask result.goal)
      (hstarted : result.goal.started = true) (hphase : result.goal.phase ≠ .navigating)
      (hnav : result.context.navigator = answer.1)

theorem start_eq (goal : ValueEditGoal) (ctx : KeypadContext) :
    (goal.start ctx).2 = { ctx with navigator := goal.bound ctx.navigator } ∧
      goal.SameTask (goal.start ctx).1 ∧ (goal.start ctx).1.started ∧
      (goal.start ctx).1.phase = goal.phase := by
  unfold start bound
  split
  next hstarted => exact ⟨rfl, ⟨rfl, rfl, rfl⟩, hstarted, rfl⟩
  next => exact ⟨rfl, ⟨rfl, rfl, rfl⟩, rfl, rfl⟩

theorem countStep_eq (goal : ValueEditGoal) :
    goal.SameTask goal.countStep ∧ goal.countStep.started = goal.started ∧
      goal.countStep.phase = goal.phase := by
  unfold countStep
  split <;> exact ⟨⟨rfl, rfl, rfl⟩, rfl, rfl⟩

theorem SameTask.trans {goal' goal'' : ValueEditGoal} (h : goal.SameTask goal')
    (h' : goal'.SameTask goal'') : goal.SameTask goal'' :=
  ⟨h'.page.trans h.page, h'.line.trans h.line, h'.label.trans h.label⟩

theorem navigates_stepNavigating (h : goal.stepNavigating model fuel ctx = some result)
    (hphase : goal.phase = .navigating) : goal.Navigates model ctx result := by
  obtain ⟨hctx, hsame, hstarted, hphase'⟩ := goal.start_eq ctx
  unfold stepNavigating at h
  dsimp only at h
  rw [hctx] at h
  obtain ⟨followed, hfollowed, rfl⟩ := Option.map_eq_some_iff.mp h
  obtain ⟨answer, hrespond, rfl⟩ := Option.map_eq_some_iff.mp hfollowed
  have hanswers : Answers model (goal.bound ctx.navigator)
      (.pageUpdate ctx.page ctx.highlightedLine) answer :=
    .of_respond hrespond
  unfold arrive
  by_cases harrived : answer.1.state = .atDestination
  · have hcomplete : answer.1.isComplete := by simp [Navigator.isComplete, harrived]
    have hsuccess : answer.1.isSuccess := by simp [Navigator.isSuccess, harrived]
    rw [if_pos hcomplete, if_pos hsuccess]
    exact .stops answer hanswers harrived ⟨hsame.page, hsame.line, hsame.label⟩ hstarted
      (show EditPhase.beginEdit ≠ .navigating by decide) rfl
  · have hsuccess : ¬answer.1.isSuccess := by simp [Navigator.isSuccess, harrived]
    split_ifs with hcomplete
    · exact .fails (show GoalStatus.failed ≠ .running by decide)
    · exact .seeks answer hanswers harrived hsame hstarted (hphase'.trans hphase) rfl

theorem navigates_step (hphase : goal.phase = .navigating)
    (h : goal.step model fuel ctx = some result) : goal.Navigates model ctx result := by
  obtain ⟨hsame, hstarted, hphase'⟩ := goal.countStep_eq
  unfold step at h
  dsimp only at h
  split_ifs at h
  · cases h
    exact .fails (show GoalStatus.failed ≠ .running by decide)
  · unfold stepPhase at h
    rw [hphase', hphase] at h
    have hbound (nav : Navigator) : goal.countStep.bound nav = goal.bound nav := by
      unfold bound
      rw [hstarted, hsame.page, hsame.line, hsame.label]
    cases navigates_stepNavigating h (hphase'.trans hphase) with
    | fails hfails => exact .fails hfails
    | seeks answer hanswers haway hsame' hstarted' hphase'' hnav =>
      rw [hbound] at hanswers
      exact .seeks answer hanswers haway (hsame.trans hsame') hstarted' hphase'' hnav
    | stops answer hanswers harrived hsame' hstarted' hphase'' hnav =>
      rw [hbound] at hanswers
      exact .stops answer hanswers harrived (hsame.trans hsame') hstarted' hphase'' hnav

theorem step_editing (hstarted : goal.started) (hphase : goal.phase ≠ .navigating)
    (h : goal.step model fuel ctx = some result) :
    goal.SameTask result.goal ∧ result.goal.started ∧
      result.goal.phase ≠ .navigating ∧ result.context.navigator = ctx.navigator := by
  obtain ⟨hsame, hstarted', hphase'⟩ := goal.countStep_eq
  rw [hstarted] at hstarted'
  unfold step at h
  dsimp only at h
  split_ifs at h
  · cases h
    exact ⟨hsame, hstarted', by rwa [hphase'], rfl⟩
  · unfold stepPhase at h
    cases hcase : goal.countStep.phase with
    | navigating => exact absurd (hphase'.symm.trans hcase) hphase
    | beginEdit =>
      rw [hcase] at h
      cases h
      unfold stepBeginEdit
      split_ifs
      · exact ⟨hsame, hstarted', by rw [hcase]; decide, rfl⟩
      · exact ⟨⟨hsame.page, hsame.line, hsame.label⟩, hstarted',
          show EditPhase.stepping ≠ .navigating by decide, rfl⟩
    | stepping =>
      rw [hcase] at h
      cases h
      unfold stepStepping
      split
      next => exact ⟨hsame, hstarted', by rw [hcase]; decide, rfl⟩
      next =>
        split_ifs
        · exact ⟨⟨hsame.page, hsame.line, hsame.label⟩, hstarted',
            show EditPhase.commit ≠ .navigating by decide, rfl⟩
        · exact ⟨hsame, hstarted', by rw [hcase]; decide, rfl⟩
        · exact ⟨hsame, hstarted', by rw [hcase]; decide, rfl⟩
    | commit =>
      rw [hcase] at h
      cases h
      exact ⟨hsame, hstarted', by rw [hcase]; decide, rfl⟩

end ValueEditGoal

/-! ## The run -/

namespace GoalRun

variable {model : MenuModel} {fuel : ℕ} {run run' : GoalRun ValueEditGoal} {screen : ShownScreen}

/-- While the goal edits, the line that it reads is the one that the navigator stopped on. -/
def RowAgrees (run : GoalRun ValueEditGoal) : Prop :=
  ∀ goal ∈ run.goal, goal.phase ≠ .navigating → goal.line = run.navigator.cursorLine

def cursorOn (run : GoalRun ValueEditGoal) (screen : ShownScreen) : UInt8 :=
  if screen.highlightedLine = cursorLineNone then run.navigator.cursorLine
  else screen.highlightedLine

/-- Where the goal's page is shown with the cursor on the row that has the label, that is in the
goal's line. -/
def OnOwnRow (model : MenuModel) (run : GoalRun ValueEditGoal) (screen : ShownScreen) : Prop :=
  ∀ goal ∈ run.goal, goal.phase = .navigating → goal.label ≠ [] →
    run.navigator.pageOn model screen.page = goal.page →
      screen.page.findLineByLabel goal.label = some (run.cursorOn screen) →
        run.cursorOn screen = goal.line

instance (model : MenuModel) (run : GoalRun ValueEditGoal) (screen : ShownScreen) :
    Decidable (run.OnOwnRow model screen) := by
  unfold OnOwnRow
  infer_instance

inductive Attends (goal : ValueEditGoal) (nav : Navigator) : Prop where
  | fresh (hstarted : goal.started = false) (hphase : goal.phase = .navigating)
  | seeks (hstarted : goal.started = true) (hphase : goal.phase = .navigating)
      (hseeks : nav.SeeksRow) (hpursues : nav.PursuesItem goal.page goal.line goal.label)
  | edits (hstarted : goal.started = true) (hphase : goal.phase ≠ .navigating)
      (hline : goal.line = nav.cursorLine)

def Sound (run : GoalRun ValueEditGoal) : Prop :=
  ∀ goal ∈ run.goal, Attends goal run.navigator

theorem Sound.rowAgrees (h : run.Sound) : run.RowAgrees := by
  intro goal hgoal hphase
  cases h goal hgoal with
  | fresh _ hnavigates => exact absurd hnavigates hphase
  | seeks _ hnavigates => exact absurd hnavigates hphase
  | edits _ _ hline => exact hline

theorem context_navigator (run : GoalRun ValueEditGoal) (screen : ShownScreen) :
    (run.context screen).navigator.way = run.navigator.way ∧
      (run.context screen).navigator.state = run.navigator.state ∧
      (run.context screen).navigator.targetItemLine = run.navigator.targetItemLine := by
  unfold context
  cases screen.atStatus with
  | false => exact ⟨rfl, rfl, rfl⟩
  | true =>
    unfold Navigator.onStatusMessageReceived
    split_ifs <;> exact ⟨rfl, rfl, rfl⟩

theorem Attends.bound {goal : ValueEditGoal} (h : Attends goal run.navigator)
    (hphase : goal.phase = .navigating) (screen : ShownScreen) :
    (goal.bound (run.context screen).navigator).SeeksRow ∧
      (goal.bound (run.context screen).navigator).PursuesItem goal.page goal.line goal.label ∧
      (goal.bound (run.context screen).navigator).currentPage = run.navigator.currentPage ∧
      (goal.bound (run.context screen).navigator).cursorLine = run.navigator.cursorLine := by
  obtain ⟨hway, hstate, hline⟩ := run.context_navigator screen
  have hpage := congrArg Way.page hway
  have hcursor := congrArg Way.cursor hway
  unfold ValueEditGoal.bound
  cases h with
  | fresh hstarted _ =>
    rw [hstarted, if_neg (by decide)]
    exact ⟨⟨rfl, rfl, show NavigatorState.navigating ≠ .atDestination by decide⟩,
      ⟨rfl, rfl, rfl, fun _ => rfl⟩, hpage, hcursor⟩
  | seeks hstarted _ hseeks hpursues =>
    rw [if_pos hstarted]
    refine ⟨hseeks.of_same hway hstate, ⟨?_, ?_, ?_, fun hlabel => ?_⟩, hpage, hcursor⟩
    · exact (congrArg Way.toItem hway).trans hpursues.toItem
    · exact (congrArg Way.target hway).trans hpursues.page_eq
    · exact (congrArg Way.label hway).trans hpursues.label_eq
    · exact hline.trans (hpursues.line_eq hlabel)
  | edits _ hedits _ => exact absurd hphase hedits

/-- **A step.**  If the goal's line has its row where the navigator stops, the navigator stops on
the line that the goal reads. -/
theorem Sound.attempt (h : run.Sound) (hown : run.OnOwnRow model screen)
    (hattempt : run.attempt model fuel screen = some run') : run'.Sound := by
  unfold GoalRun.attempt at hattempt
  cases hgoal : run.goal with
  | none =>
    rw [hgoal] at hattempt
    cases hattempt
    rintro goal ⟨⟩
  | some goal =>
    rw [hgoal] at hattempt
    obtain ⟨result, hstep, rfl⟩ := Option.map_eq_some_iff.mp hattempt
    have hattends := h goal hgoal
    intro goal' hgoal'
    -- the goal is still there, so it goes on
    have hrunning : result.status = .running := by
      by_contra hended
      rw [settle, if_neg hended] at hgoal'
      cases hgoal'
    rw [settle, if_pos hrunning] at hgoal'
    cases hgoal'
    have hnavigator : (run.settle screen result).navigator = result.context.navigator :=
      if_pos hrunning
    rw [hnavigator]
    by_cases hphase : goal.phase = .navigating
    · obtain ⟨hseeks, hpursues, hpage, hcursor⟩ := hattends.bound hphase screen
      cases ValueEditGoal.navigates_step hphase hstep with
      | fails hfails => exact absurd hrunning hfails
      | seeks answer hanswers haway hsame hstarted' hphase' hnav =>
        rw [hnav]
        have hseeks' := (Navigator.seeks_or_stops_of_pageUpdate hseeks hanswers).resolve_right
          fun hstops => haway hstops.arrived
        refine .seeks hstarted' hphase' hseeks' ?_
        rw [hsame.page, hsame.line, hsame.label]
        refine (hpursues.of_pageUpdate hanswers).resolve_right fun hselected => ?_
        rw [hseeks'.toItem] at hselected
        cases hselected
      | stops answer hanswers harrived hsame hstarted' hphase' hnav =>
        rw [hnav]
        have hstops := Navigator.stopsAt_of_pageUpdate hseeks hpursues hanswers harrived
        have hthere : answer.1.cursorLine = run.cursorOn screen := by
          rw [Navigator.cursorLine_of_answers hanswers]
          show (if _ then _ else _) = _
          rw [hcursor]
          rfl
        refine .edits hstarted' hphase' ?_
        rw [hsame.line]
        by_cases hlabel : goal.label = []
        · exact (hstops.onLine hlabel).symm
        · have hrow := hstops.onRow hlabel
          rw [hthere] at hrow ⊢
          refine (hown goal hgoal hphase hlabel ?_ hrow).symm
          refine Eq.trans ?_ hstops.page_eq
          unfold Navigator.pageOn Navigator.receivePage
          rw [hpage]
          rfl
    · have hstarted : goal.started := by
        cases hattends with
        | fresh _ hnavigates => exact absurd hnavigates hphase
        | seeks hstarted => exact hstarted
        | edits hstarted => exact hstarted
      obtain ⟨hsame, hstarted', hphase', hnav⟩ :=
        ValueEditGoal.step_editing hstarted hphase hstep
      refine .edits hstarted' hphase' ?_
      rw [hsame.line, hnav]
      refine (h.rowAgrees goal hgoal hphase).trans ?_
      exact (congrArg Way.cursor (run.context_navigator screen).1).symm

end GoalRun

/-- **The row that is edited is the one that is read.**  Whatever the screens show: as long as the
navigator stops only where the goal's line has the label, the goal reads the line that the
navigator stopped on, from the time it stops until the goal ends. -/
theorem edited_row_is_read (model : MenuModel) (fuel : ℕ) {goal : ValueEditGoal}
    (hstarted : goal.started = false) (hphase : goal.phase = .navigating) (navigator : Navigator)
    (screens : List ShownScreen)
    (hown : EachStepTaken (GoalRun.attempt model fuel) (GoalRun.OnOwnRow model)
      { goal := some goal, navigator := navigator } screens) :
    EachStateReached (GoalRun.attempt model fuel) GoalRun.RowAgrees
      { goal := some goal, navigator := navigator } screens := by
  refine hown.eachStateReached (I := GoalRun.Sound) (fun _ _ _ hattempt hsound hown =>
    hsound.attempt hown hattempt) (fun _ hsound => hsound.rowAgrees) ?_
  rintro _ ⟨⟩
  exact .fresh hstarted hphase

/-! ### The pool heat in two places -/

def poolHeatRun : GoalRun ValueEditGoal where
  goal := some poolHeatEdit

def poolHeatScreens : List ShownScreen :=
  List.replicate 3 ⟨poolHeatPage "80", 2, true, true⟩

theorem edited_row_is_read_pool :
    EachStateReached (GoalRun.attempt setTemperatureModel 9) GoalRun.RowAgrees poolHeatRun
      poolHeatScreens :=
  edited_row_is_read setTemperatureModel 9 rfl rfl {} poolHeatScreens (by decide +kernel)

def spaFirstPage : ScreenDataPage where
  rows := [{ text := "Set Temp".toList }, {}, { text := "Spa Heat  90".toList },
    { text := "Pool Heat 80".toList, highlightState := .highlighted }]

def spaFirstScreens : List ShownScreen := List.replicate 4 ⟨spaFirstPage, 3, true, true⟩

/-- The navigator stops on the pool heat in line 3 and the goal reads the spa heat in line 2.  To
get from 90 to 81 it presses LineDown, with the pool heat at 80. -/
theorem spa_heat_read :
    (spaFirstScreens.foldlM (GoalRun.attempt setTemperatureModel 9) poolHeatRun).map
        (fun run => (run.goal.map fun goal => (goal.phase, goal.line), run.navigator.cursorLine)) =
      some (some (.stepping, 2), 3) ∧
    (displayedValue spaFirstPage 2, displayedValue spaFirstPage 3) = (some 90, some 80) ∧
    ¬ EachStateReached (GoalRun.attempt setTemperatureModel 9) GoalRun.RowAgrees poolHeatRun
      spaFirstScreens := by
  have hends : (spaFirstScreens.foldlM (GoalRun.attempt setTemperatureModel 9) poolHeatRun).map
      (fun run => (run.goal.map fun goal => (goal.phase, goal.line), run.navigator.cursorLine)) =
        some (some (.stepping, 2), 3) := by decide +kernel
  refine ⟨hends, by decide, fun hagrees => ?_⟩
  obtain ⟨run, hrun, heq⟩ := Option.map_eq_some_iff.mp hends
  simp only [Prod.mk.injEq] at heq
  obtain ⟨goal, hgoal, hphase⟩ := Option.map_eq_some_iff.mp heq.1
  simp only [Prod.mk.injEq] at hphase
  have hline := hagrees.last hrun goal hgoal (by rw [hphase.1]; decide)
  rw [hphase.2, heq.2] at hline
  exact absurd hline (by decide)

end AqualinkAutomate.OneTouch
