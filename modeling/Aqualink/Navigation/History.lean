import Aqualink.Navigation.Navigator

/-!
# What an earlier goal leaves behind

A new goal resets most of the navigator, but not all of it.  This file compares a
navigator that is given a goal with a `fresh` one, which was reset before and knows the
same page, screen and cursor.

Seven fields may differ between the two for good, the `Residue`.  As long as the
navigator `Shelters` it, a differing field is written before it is read again:

* the wait cycles only count while it waits for a page;
* the previous cursor line only matters while the stuck count is not 0;
* the cursor moves and the edge that they lead to only matter during a cursor move or on
  the way to an item.

Every pass keeps this (`related_step`), so the two answer alike for ever after
(`shows_iff`).  The stuck count and the skip flag are not among the seven.  Both are
leftovers that show, and a new goal resets neither (`leftover_skips_check`).
-/

namespace AqualinkAutomate.Navigation

open General

/-! ## The residue -/

/-- The fields in which two navigators with the same goal may differ. -/
structure Residue where
  waitCycleCount : UInt32
  passwordDigitIndex : UInt8
  syncDetectedPage : PageId
  syncConsistentCount : UInt32
  previousCursorLine : UInt8
  currentEdge : Option MenuEdge
  cursorMoveCount : UInt32

namespace Navigator

variable {model : MenuModel} {nav nav' : Navigator} {residue : Residue}

def withResidue (nav : Navigator) (residue : Residue) : Navigator :=
  { nav with
    waitCycleCount := residue.waitCycleCount
    passwordDigitIndex := residue.passwordDigitIndex
    syncDetectedPage := residue.syncDetectedPage
    syncConsistentCount := residue.syncConsistentCount
    previousCursorLine := residue.previousCursorLine
    currentEdge := residue.currentEdge
    cursorMoveCount := residue.cursorMoveCount }

/-- All that a cursor move reads of the edge that it leads to. -/
def edgeLabel (edge : Option MenuEdge) : Text := (edge.map MenuEdge.label).getD []

def SameMove (nav : Navigator) (residue : Residue) : Prop :=
  residue.cursorMoveCount = nav.cursorMoveCount ∧
    edgeLabel residue.currentEdge = edgeLabel nav.currentEdge

structure Shelters (nav : Navigator) (residue : Residue) : Prop where
  notSyncing : nav.state ≠ .syncing
  waiting : nav.state = .waitingForPage → residue.waitCycleCount = nav.waitCycleCount
  stuck : nav.cursorStuckCount ≠ 0 → residue.previousCursorLine = nav.previousCursorLine
  moving : nav.state = .movingCursor → nav.SameMove residue
  toItem : nav.navigatingToItem → nav.SameMove residue

/-- The same while an update is being answered, when the wait cycles agree in any state. -/
structure SheltersCall (nav : Navigator) (residue : Residue) : Prop extends
    nav.Shelters residue where
  waits : residue.waitCycleCount = nav.waitCycleCount

/-- A state in which no field of the residue counts, once the wait cycles agree. -/
def isQuiet : NavigatorState → Bool
  | .syncing | .movingCursor => false
  | .idle | .navigating | .waitingForPage | .enteringPassword | .reorienting | .atDestination
  | .failed => true

/-- The fields that decide, together with the state, whether a residue shows. -/
def exposed (nav : Navigator) : UInt32 × UInt32 × UInt8 × Bool × UInt32 × Option MenuEdge :=
  (nav.waitCycleCount, nav.cursorStuckCount, nav.previousCursorLine, nav.navigatingToItem,
    nav.cursorMoveCount, nav.currentEdge)

theorem sheltersCall_of_isQuiet (hquiet : isQuiet nav.state)
    (hwaits : residue.waitCycleCount = nav.waitCycleCount)
    (hstuck : nav.cursorStuckCount ≠ 0 → residue.previousCursorLine = nav.previousCursorLine)
    (hitem : nav.navigatingToItem → nav.SameMove residue) : nav.SheltersCall residue where
  notSyncing hstate := by
    rw [hstate] at hquiet
    cases hquiet
  waiting _ := hwaits
  stuck := hstuck
  moving hstate := by
    rw [hstate] at hquiet
    cases hquiet
  toItem := hitem
  waits := hwaits

theorem shelters_of_settled (hstate : nav.state = .navigating ∨ nav.state = .failed)
    (hstuck : nav.cursorStuckCount ≠ 0 → residue.previousCursorLine = nav.previousCursorLine)
    (hitem : nav.navigatingToItem → nav.SameMove residue) : nav.Shelters residue := by
  have hsettled : ∀ state, state ≠ .navigating → state ≠ .failed → nav.state ≠ state := by
    intro state hnavigating hfailed h
    rcases hstate with hstate | hstate
    · exact hnavigating (h.symm.trans hstate)
    · exact hfailed (h.symm.trans hstate)
  exact {
    notSyncing := hsettled .syncing (by decide) (by decide)
    waiting := fun h => absurd h (hsettled .waitingForPage (by decide) (by decide))
    stuck := hstuck
    moving := fun h => absurd h (hsettled .movingCursor (by decide) (by decide))
    toItem := hitem }

theorem SheltersCall.move (hstate : nav.state = .movingCursor)
    (hwaits : residue.waitCycleCount = nav.waitCycleCount)
    (hstuck : nav.cursorStuckCount ≠ 0 → residue.previousCursorLine = nav.previousCursorLine)
    (hmove : nav.SameMove residue) : nav.SheltersCall residue where
  notSyncing hsyncing := NavigatorState.noConfusion (hstate.symm.trans hsyncing)
  waiting _ := hwaits
  stuck := hstuck
  moving _ := hmove
  toItem _ := hmove
  waits := hwaits

theorem SheltersCall.keep (h : nav.SheltersCall residue) (hstate : nav'.state = nav.state)
    (hsame : nav'.exposed = nav.exposed) : nav'.SheltersCall residue := by
  unfold exposed at hsame
  obtain ⟨hwaits, hcount, hprevious, hitem, hmoves, hedge⟩ := by
    simpa only [Prod.mk.injEq] using hsame
  have hmove : nav'.SameMove residue ↔ nav.SameMove residue := by
    unfold SameMove
    rw [hmoves, hedge]
  exact {
    notSyncing := by
      rw [hstate]
      exact h.notSyncing
    waiting := fun _ => h.waits.trans hwaits.symm
    stuck := by
      rw [hcount, hprevious]
      exact h.stuck
    moving := by
      rw [hstate, hmove]
      exact h.moving
    toItem := by
      rw [hitem, hmove]
      exact h.toItem
    waits := h.waits.trans hwaits.symm }

theorem SheltersCall.update (h : nav.SheltersCall residue) (hquiet : isQuiet nav'.state)
    (hsame : nav'.exposed = nav.exposed) : nav'.SheltersCall residue := by
  have hkeep : { nav' with state := nav.state }.SheltersCall residue := h.keep rfl hsame
  exact sheltersCall_of_isQuiet hquiet hkeep.waits hkeep.stuck hkeep.toItem

/-! ## Related passes -/

inductive CallsAlike : Call × Navigator → Call × Navigator → Prop where
  | onPageUpdate {nav : Navigator} {residue : Residue} (content : ScreenDataPage) (line : UInt8)
      (h : nav.Shelters residue) :
      CallsAlike (.onPageUpdate content line, nav)
        (.onPageUpdate content line, nav.withResidue residue)
  | handleWaitingForPage {nav : Navigator} {residue : Residue} (h : nav.SheltersCall residue) :
      CallsAlike (.handleWaitingForPage, nav) (.handleWaitingForPage, nav.withResidue residue)
  | executeNextStep {nav : Navigator} {residue : Residue} (h : nav.SheltersCall residue) :
      CallsAlike (.executeNextStep, nav) (.executeNextStep, nav.withResidue residue)
  | recoveryNext {nav : Navigator} {residue : Residue} (h : nav.SheltersCall residue) :
      CallsAlike (.recoveryNext, nav) (.recoveryNext, nav.withResidue residue)
  | moveCursorToTarget {nav : Navigator} {residue : Residue} (h : nav.SheltersCall residue)
      (hmove : nav.SameMove residue) :
      CallsAlike (.moveCursorToTarget, nav) (.moveCursorToTarget, nav.withResidue residue)

inductive AnswersAlike : Answer → Answer → Prop where
  | mk {nav : Navigator} {residue : Residue} (key : Option NavKeyCommand)
      (h : nav.Shelters residue) : AnswersAlike (nav, key) (nav.withResidue residue, key)

abbrev Related : Step → Step → Prop := Pass.Related CallsAlike AnswersAlike

section

variable (residue : Residue)

theorem related_done {key : Option NavKeyCommand} (h : nav.Shelters residue) :
    Related (.done (nav, key)) (.done (nav.withResidue residue, key)) :=
  Pass.Related.done (.mk key h)

theorem related_stop (h : nav.SheltersCall residue) :
    Related nav.stop (nav.withResidue residue).stop := related_done residue h.toShelters

theorem related_press {key : NavKeyCommand} (h : nav.SheltersCall residue) :
    Related (nav.press key) ((nav.withResidue residue).press key) :=
  related_done residue h.toShelters

theorem related_executeNextStep (h : nav.SheltersCall residue) :
    Related (nav.tailCall .executeNextStep) ((nav.withResidue residue).tailCall .executeNextStep) :=
  Pass.Related.again (.executeNextStep h)

theorem related_recoveryNext (h : nav.SheltersCall residue) :
    Related (nav.tailCall .recoveryNext) ((nav.withResidue residue).tailCall .recoveryNext) :=
  Pass.Related.again (.recoveryNext h)

theorem related_moveCursorToTarget (h : nav.SheltersCall residue) (hmove : nav.SameMove residue) :
    Related (nav.tailCall .moveCursorToTarget)
      ((nav.withResidue residue).tailCall .moveCursorToTarget) :=
  Pass.Related.again (.moveCursorToTarget h hmove)

end

variable {yes no yes' no' : Step} {c : Prop}

/-- A branch of the code that both take. -/
theorem related_ite_of_iff {c' : Prop} [Decidable c] [Decidable c'] (hiff : c' ↔ c)
    (hyes : c → Related yes yes') (hno : ¬ c → Related no no') :
    Related (if c then yes else no) (if c' then yes' else no') := by
  by_cases h : c
  · rw [if_pos h, if_pos (hiff.mpr h)]
    exact hyes h
  · rw [if_neg h, if_neg (mt hiff.mp h)]
    exact hno h

theorem related_ite [Decidable c] (hyes : c → Related yes yes') (hno : ¬ c → Related no no') :
    Related (if c then yes else no) (if c then yes' else no') :=
  related_ite_of_iff Iff.rfl hyes hno

theorem ite_withResidue [Decidable c] {yes no yes' no' : Navigator}
    (hyes : c → yes' = yes.withResidue residue) (hno : ¬ c → no' = no.withResidue residue) :
    (if c then yes' else no') = (if c then yes else no).withResidue residue := by
  by_cases h : c
  · rw [if_pos h, if_pos h]
    exact hyes h
  · rw [if_neg h, if_neg h]
    exact hno h

/-! ## Recovery -/

theorem withResidue_initiateRecovery (nav : Navigator) (residue : Residue) :
    (nav.withResidue residue).initiateRecovery = nav.initiateRecovery.withResidue residue :=
  ite_withResidue (fun _ => rfl) fun _ => rfl

section

variable (h : nav.SheltersCall residue)

include h

theorem SheltersCall.initiateRecovery : nav.initiateRecovery.SheltersCall residue := by
  unfold Navigator.initiateRecovery
  dsimp only
  split
  · exact h.update rfl rfl
  · exact h.update rfl rfl

theorem related_pressBack : Related nav.pressBack (nav.withResidue residue).pressBack := by
  apply related_press residue
  exact h.keep rfl rfl

theorem related_startMove (line : UInt8) (edge : MenuEdge) :
    Related
      ({ nav with
        targetCursorLine := line
        currentEdge := some edge
        cursorMoveCount := 0
        state := .movingCursor }.tailCall .moveCursorToTarget)
      ({ nav.withResidue residue with
        targetCursorLine := line
        currentEdge := some edge
        cursorMoveCount := 0
        state := .movingCursor }.tailCall .moveCursorToTarget) := by
  apply related_moveCursorToTarget { residue with currentEdge := some edge, cursorMoveCount := 0 }
  · apply SheltersCall.move
    · rfl
    · exact h.waits
    · exact h.stuck
    · exact ⟨rfl, rfl⟩
  · exact ⟨rfl, rfl⟩

theorem related_selectSystemLink (page : MenuPage) :
    Related (nav.selectSystemLink page) ((nav.withResidue residue).selectSystemLink page) := by
  unfold selectSystemLink
  cases page.edges.find? fun edge => edge.trigger = .select ∧ edge.target = .system with
  | none =>
    apply related_stop residue
    exact h.update rfl rfl
  | some edge =>
    apply related_ite
    · intro _
      exact related_startMove h (nav.edgeLine edge) edge
    · intro _
      apply related_press residue
      exact h.keep rfl rfl

theorem related_step_recoveryNext :
    Related (nav.recoveryNext model) ((nav.withResidue residue).recoveryNext model) := by
  unfold recoveryNext
  apply related_ite
  · intro _
    exact related_stop residue h
  intro _
  apply related_ite
  · intro _
    apply related_stop residue
    exact h.update rfl rfl
  intro _
  apply related_ite
  · intro _
    apply related_executeNextStep residue
    exact h.update rfl rfl
  intro _
  dsimp only [withResidue]
  cases (model.getPage nav.currentPage).filter fun page => !page.supportsKey .back with
  | some page => exact related_selectSystemLink h page
  | none =>
    apply related_ite
    · intro _
      apply related_ite
      · intro _
        apply related_stop residue
        exact h.update rfl rfl
      · intro _
        apply related_press residue
        exact h.keep rfl rfl
    · intro _
      exact related_pressBack h

end

/-! ## Steps along the path -/

theorem withResidue_computePath (nav : Navigator) (residue : Residue) :
    (nav.withResidue residue).computePath model = (nav.computePath model).withResidue residue :=
  ite_withResidue (fun _ => withResidue_initiateRecovery nav residue) fun _ =>
    ite_withResidue
      (fun _ => withResidue_initiateRecovery
        { nav with path := model.findPath nav.currentPage nav.targetPage, pathIndex := 0 } residue)
      fun _ => rfl

section

variable (h : nav.SheltersCall residue)

include h

theorem SheltersCall.computePath : (nav.computePath model).SheltersCall residue := by
  unfold Navigator.computePath
  dsimp only
  split
  · exact h.initiateRecovery
  · split
    · apply SheltersCall.initiateRecovery
      exact h.keep rfl rfl
    · exact h.keep rfl rfl

theorem related_selectItem : Related nav.selectItem (nav.withResidue residue).selectItem := by
  apply related_press residue
  apply sheltersCall_of_isQuiet
  · rfl
  · exact h.waits
  · exact h.stuck
  · exact Bool.noConfusion

theorem related_reachItem (hmove : nav.SameMove residue) (line : UInt8) :
    Related (nav.reachItem line) ((nav.withResidue residue).reachItem line) := by
  unfold reachItem
  apply related_ite
  · intro _
    apply related_moveCursorToTarget residue
    · exact .move rfl h.waits h.stuck hmove
    · exact hmove
  intro _
  apply related_ite
  · intro _
    apply related_selectItem
    exact h.keep rfl rfl
  · intro _
    apply related_stop residue
    exact h.update rfl rfl

theorem related_scrollToItem :
    Related (nav.scrollToItem model) ((nav.withResidue residue).scrollToItem model) := by
  unfold scrollToItem
  apply related_ite
  · intro _
    apply related_press residue
    exact h.update rfl rfl
  · intro _
    apply related_stop residue
    exact h.update rfl rfl

theorem related_reachTarget :
    Related (nav.reachTarget model) ((nav.withResidue residue).reachTarget model) := by
  unfold reachTarget
  apply related_ite
  · intro hitem
    have hmove := h.toItem hitem
    apply related_ite
    · intro _
      exact related_reachItem h hmove nav.targetItemLine
    · intro _
      have hline : (nav.withResidue residue).findLineByLabel (nav.withResidue residue).itemLabel =
          nav.findLineByLabel nav.itemLabel := rfl
      rw [hline]
      cases nav.findLineByLabel nav.itemLabel with
      | some line => exact related_reachItem h hmove line
      | none => exact related_scrollToItem h
  · intro _
    apply related_stop residue
    exact h.update rfl rfl

theorem related_executeEdge (edge : MenuEdge) :
    Related (nav.executeEdge edge) ((nav.withResidue residue).executeEdge edge) := by
  unfold executeEdge
  apply related_ite
  · intro _
    exact related_startMove h (nav.edgeLine edge) edge
  · intro _
    apply related_press residue
    exact h.update rfl rfl

theorem related_followPath :
    Related (nav.followPath model) ((nav.withResidue residue).followPath model) := by
  unfold followPath
  apply related_ite
  · intro _
    exact related_reachTarget h
  · intro _
    have hedge : (nav.withResidue residue).path[(nav.withResidue residue).pathIndex]? =
        nav.path[nav.pathIndex]? := rfl
    rw [hedge]
    cases nav.path[nav.pathIndex]? with
    | none =>
      apply related_executeNextStep residue
      exact h.keep rfl rfl
    | some edge => exact related_executeEdge h edge

theorem related_step_executeNextStep :
    Related (nav.executeNextStep model) ((nav.withResidue residue).executeNextStep model) := by
  unfold executeNextStep
  apply related_ite
  · intro _
    rw [withResidue_computePath]
    apply related_ite
    · intro _
      exact related_recoveryNext residue h.computePath
    · intro _
      exact related_followPath h.computePath
  · intro _
    exact related_followPath h

/-! ## Moving the cursor -/

theorem related_pressCursorKey (count : UInt32) :
    Related { nav with cursorStuckCount := count }.pressCursorKey
      { nav.withResidue residue with cursorStuckCount := count }.pressCursorKey := by
  apply related_press { residue with previousCursorLine := nav.cursorLine }
  exact {
    notSyncing := h.notSyncing
    waiting := h.waiting
    stuck := fun _ => rfl
    moving := h.moving
    toItem := h.toItem
    waits := h.waits }

theorem related_keepMoving : Related nav.keepMoving (nav.withResidue residue).keepMoving := by
  have hstuck : nav.cursorLine = residue.previousCursorLine ∧ 0 < nav.cursorStuckCount ↔
      nav.cursorLine = nav.previousCursorLine ∧ 0 < nav.cursorStuckCount := by
    apply and_congr_left
    intro hpos
    rw [h.stuck (UInt32.pos_iff_ne_zero.mp hpos)]
  unfold keepMoving
  apply related_ite_of_iff hstuck
  · intro _
    apply related_ite
    · intro _
      apply related_ite
      · intro _
        apply related_stop residue
        exact sheltersCall_of_isQuiet rfl h.waits (absurd rfl) h.toItem
      · intro _
        apply related_executeNextStep residue
        exact sheltersCall_of_isQuiet rfl h.waits (absurd rfl) h.toItem
    · intro _
      exact related_pressCursorKey h (nav.cursorStuckCount + 1)
  · intro _
    exact related_pressCursorKey h 1

end

theorem wrapRecoveryLine_eq (nav : Navigator) :
    nav.wrapRecoveryLine = (nav.findLineByLabel (edgeLabel nav.currentEdge)).filter
      fun line => line ≠ nav.targetCursorLine := by
  unfold wrapRecoveryLine
  cases nav.currentEdge with
  | some edge => rfl
  | none =>
    -- No row is looked for under an empty label.
    have hnone : nav.findLineByLabel (edgeLabel none) = none := by
      unfold findLineByLabel
      cases nav.currentContent with
      | none => rfl
      | some content =>
        show content.findLineByLabel [] = none
        exact if_pos rfl
    rw [hnone]
    rfl

section

variable (h : nav.SheltersCall residue)

include h

theorem related_giveUpCursorMove :
    Related nav.giveUpCursorMove (nav.withResidue residue).giveUpCursorMove := by
  unfold giveUpCursorMove
  apply related_ite
  · intro hitem
    apply related_stop { residue with cursorMoveCount := 0 }
    exact sheltersCall_of_isQuiet rfl h.waits h.stuck fun _ => ⟨rfl, (h.toItem hitem).2⟩
  · intro hpage
    apply related_executeNextStep { residue with cursorMoveCount := 0 }
    exact sheltersCall_of_isQuiet rfl h.waits h.stuck fun hitem => absurd hitem hpage

theorem SheltersCall.countMoves (hmove : nav.SameMove residue) (line : UInt8) (count : UInt32) :
    { nav with targetCursorLine := line, cursorMoveCount := count }.SheltersCall
      { residue with cursorMoveCount := count } where
  notSyncing := h.notSyncing
  waiting := h.waiting
  stuck := h.stuck
  moving _ := ⟨rfl, hmove.2⟩
  toItem _ := ⟨rfl, hmove.2⟩
  waits := h.waits

theorem SheltersCall.arrive (hmove : nav.SameMove residue) (line : UInt8) :
    { nav with
      targetCursorLine := line
      cursorMoveCount := 0
      cursorStuckCount := 0
      state := .navigating }.SheltersCall { residue with cursorMoveCount := 0 } :=
  sheltersCall_of_isQuiet rfl h.waits (absurd rfl) fun _ => ⟨rfl, hmove.2⟩

theorem related_step_moveCursorToTarget (hmove : nav.SameMove residue) :
    Related nav.moveCursorToTarget (nav.withResidue residue).moveCursorToTarget := by
  unfold moveCursorToTarget
  apply related_ite
  · intro _
    apply related_executeNextStep { residue with cursorMoveCount := 0 }
    exact h.arrive hmove nav.targetCursorLine
  intro _
  apply related_ite
  · intro _
    exact related_stop residue h
  intro _
  have hcount : (nav.withResidue residue).cursorMoveCount = nav.cursorMoveCount := hmove.1
  have hline : (nav.withResidue residue).wrapRecoveryLine = nav.wrapRecoveryLine := by
    rw [wrapRecoveryLine_eq, wrapRecoveryLine_eq]
    show (nav.findLineByLabel (edgeLabel residue.currentEdge)).filter _ = _
    rw [hmove.2]
    rfl
  rw [hcount, hline]
  apply related_ite
  · intro _
    cases nav.wrapRecoveryLine with
    | none => exact related_giveUpCursorMove h
    | some line =>
      apply related_ite
      · intro _
        apply related_executeNextStep { residue with cursorMoveCount := 0 }
        exact h.arrive hmove line
      · intro _
        exact related_keepMoving (h.countMoves hmove line 0)
  · intro _
    exact related_keepMoving (h.countMoves hmove nav.targetCursorLine (nav.cursorMoveCount + 1))

end

/-! ## Waiting for a page -/

theorem withResidue_recomputePath (nav : Navigator) (residue : Residue) (actual : PageId) :
    (nav.withResidue residue).recomputePath model actual =
      (nav.recomputePath model actual).withResidue residue :=
  ite_withResidue (fun _ => withResidue_initiateRecovery nav residue) fun _ =>
    ite_withResidue
      (fun _ => withResidue_initiateRecovery
        { nav with
          currentPage := actual
          pathIndex := 0
          path := model.findPath actual nav.targetPage } residue)
      fun _ => rfl

theorem SheltersCall.recomputePath (h : nav.SheltersCall residue) (actual : PageId) :
    (nav.recomputePath model actual).SheltersCall residue := by
  unfold Navigator.recomputePath
  dsimp only
  split
  · exact h.initiateRecovery
  · split
    · apply SheltersCall.initiateRecovery
      exact h.keep rfl rfl
    · exact h.update rfl rfl

theorem withResidue_detectStuckRecompute (nav : Navigator) (residue : Residue) (actual : PageId) :
    (nav.withResidue residue).detectStuckRecompute actual =
      ((nav.detectStuckRecompute actual).1.withResidue residue,
        (nav.detectStuckRecompute actual).2) := by
  have htarget : (nav.withResidue residue).targetPage = nav.targetPage := rfl
  have hlast : (nav.withResidue residue).lastRecomputeTarget = nav.lastRecomputeTarget := rfl
  have hcount : (nav.withResidue residue).stuckRecomputeCount = nav.stuckRecomputeCount := rfl
  unfold detectStuckRecompute
  rw [htarget, hlast, hcount]
  split
  · split
    · rfl
    · rfl
  · rfl

theorem SheltersCall.detectStuckRecompute (h : nav.SheltersCall residue) (actual : PageId) :
    (nav.detectStuckRecompute actual).1.SheltersCall residue := by
  unfold Navigator.detectStuckRecompute
  split
  · split
    · exact h.update rfl rfl
    · exact h.keep rfl rfl
  · exact h.keep rfl rfl

theorem withResidue_recompute (nav : Navigator) (residue : Residue) (actual : PageId) :
    (nav.withResidue residue).recompute model actual =
      (nav.recompute model actual).withResidue residue := by
  unfold recompute
  have hdetect := withResidue_detectStuckRecompute
    { nav with recomputeCount := nav.recomputeCount + 1 } residue actual
  change detectStuckRecompute { nav.withResidue residue with
    recomputeCount := (nav.withResidue residue).recomputeCount + 1 } actual = _ at hdetect
  rw [hdetect]
  rcases detectStuckRecompute { nav with recomputeCount := nav.recomputeCount + 1 } actual with
    ⟨detected, _ | _⟩
  · exact ite_withResidue (fun _ => rfl) fun _ => withResidue_recomputePath detected residue actual
  · rfl

theorem SheltersCall.recompute (h : nav.SheltersCall residue) (actual : PageId) :
    (nav.recompute model actual).SheltersCall residue := by
  unfold Navigator.recompute
  have hcounted : { nav with recomputeCount := nav.recomputeCount + 1 }.SheltersCall residue :=
    h.keep rfl rfl
  have hdetected := hcounted.detectStuckRecompute actual
  revert hdetected
  rcases Navigator.detectStuckRecompute { nav with recomputeCount := nav.recomputeCount + 1 }
    actual with ⟨detected, _ | _⟩
  · intro hdetected
    dsimp only
    split
    · exact SheltersCall.update hdetected rfl rfl
    · exact SheltersCall.recomputePath hdetected actual
  · intro hdetected
    exact hdetected

theorem withResidue_handleTransientPage (nav : Navigator) (residue : Residue) (actual : PageId) :
    (nav.withResidue residue).handleTransientPage model actual =
      ((nav.handleTransientPage model actual).1.withResidue residue,
        (nav.handleTransientPage model actual).2) := by
  have hcount : (nav.withResidue residue).transientWaitCount = nav.transientWaitCount := rfl
  unfold handleTransientPage
  dsimp only
  rw [hcount]
  split
  · rfl
  · split
    · rfl
    · rfl

theorem SheltersCall.handleTransientPage (h : nav.SheltersCall residue) (actual : PageId) :
    (nav.handleTransientPage model actual).1.SheltersCall residue := by
  unfold Navigator.handleTransientPage
  dsimp only
  split
  · exact h
  · split
    · exact h.update rfl rfl
    · exact h.keep rfl rfl

theorem withResidue_handleUnexpectedPage (nav : Navigator) (residue : Residue) (actual : PageId) :
    (nav.withResidue residue).handleUnexpectedPage model actual =
      (nav.handleUnexpectedPage model actual).withResidue residue := by
  unfold handleUnexpectedPage
  rw [withResidue_handleTransientPage]
  rcases nav.handleTransientPage model actual with ⟨arrived, _ | _⟩
  · exact withResidue_recompute arrived residue actual
  · rfl

theorem SheltersCall.handleUnexpectedPage (h : nav.SheltersCall residue) (actual : PageId) :
    (nav.handleUnexpectedPage model actual).SheltersCall residue := by
  unfold Navigator.handleUnexpectedPage
  have harrived : (nav.handleTransientPage model actual).1.SheltersCall residue :=
    h.handleTransientPage actual
  revert harrived
  rcases nav.handleTransientPage model actual with ⟨arrived, _ | _⟩
  · intro harrived
    exact SheltersCall.recompute harrived actual
  · intro harrived
    exact harrived

theorem related_step_handleWaitingForPage (h : nav.SheltersCall residue) :
    Related (nav.handleWaitingForPage model)
      ((nav.withResidue residue).handleWaitingForPage model) := by
  unfold handleWaitingForPage
  apply related_ite
  · intro _
    exact related_stop residue h
  intro _
  apply related_ite
  · intro _
    have hpage : (nav.withResidue residue).currentPage = nav.currentPage := rfl
    rw [hpage, withResidue_handleUnexpectedPage]
    have hleft : (nav.handleUnexpectedPage model nav.currentPage).SheltersCall residue :=
      h.handleUnexpectedPage nav.currentPage
    generalize nav.handleUnexpectedPage model nav.currentPage = left at hleft
    have hstate : (left.withResidue residue).state = left.state := rfl
    dsimp only
    rw [hstate]
    cases left.state with
    | navigating => exact related_executeNextStep residue hleft
    | reorienting => exact related_recoveryNext residue hleft
    | idle | syncing | waitingForPage | movingCursor | enteringPassword | atDestination | failed =>
      exact related_stop residue hleft
  · intro _
    apply related_executeNextStep residue
    exact h.update rfl rfl

/-! ## A screen update -/

theorem related_dispatch (h : nav.SheltersCall residue) :
    Related nav.dispatch (nav.withResidue residue).dispatch := by
  have hstate : (nav.withResidue residue).state = nav.state := rfl
  unfold dispatch
  rw [hstate]
  cases hcase : nav.state with
  | waitingForPage => exact Pass.Related.again (.handleWaitingForPage h)
  | movingCursor => exact related_moveCursorToTarget residue h (h.moving hcase)
  | navigating => exact related_executeNextStep residue h
  | reorienting => exact related_recoveryNext residue h
  | enteringPassword =>
    apply related_press { residue with passwordDigitIndex := 0 }
    exact sheltersCall_of_isQuiet rfl h.waits h.stuck h.toItem
  | idle | atDestination | failed | syncing => exact related_stop residue h

/-- From here on the wait cycles agree: they are counted on, or begin anew. -/
theorem related_awaitAnswer (h : nav.Shelters residue) :
    Related nav.awaitAnswer (nav.withResidue residue).awaitAnswer := by
  have hcount : ∀ count : UInt32, { nav with waitCycleCount := count }.SheltersCall
      { residue with waitCycleCount := count } := fun count => {
    notSyncing := h.notSyncing
    waiting := fun _ => rfl
    stuck := h.stuck
    moving := h.moving
    toItem := h.toItem
    waits := rfl }
  unfold awaitAnswer
  apply related_ite
  · intro hwaiting
    have hwaits : (nav.withResidue residue).waitCycleCount = nav.waitCycleCount :=
      h.waiting hwaiting.1
    rw [hwaits]
    apply related_ite
    · intro _
      have hrecovery := related_recoveryNext _ (hcount 0).initiateRecovery
      rwa [← withResidue_initiateRecovery] at hrecovery
    · intro _
      exact related_dispatch (hcount (nav.waitCycleCount + 1))
  · intro _
    exact related_dispatch (hcount 0)

theorem related_step_onPageUpdate (h : nav.Shelters residue) (content : ScreenDataPage)
    (line : UInt8) :
    Related (nav.onPageUpdate model content line)
      ((nav.withResidue residue).onPageUpdate model content line) := by
  unfold onPageUpdate
  apply related_ite
  · intro hsyncing
    exact absurd hsyncing h.notSyncing
  intro _
  have harrived : ((nav.receiveScreen content line).receivePage (model.detectPage content)).Shelters
      residue := ⟨h.notSyncing, h.waiting, h.stuck, h.moving, h.toItem⟩
  apply related_ite
  · intro _
    unfold handleSpecialPage
    rw [apply_ite stop, apply_ite stop]
    apply related_ite
    · intro _
      apply related_done residue
      exact shelters_of_settled (.inr rfl) h.stuck h.toItem
    · intro _
      apply related_done residue
      exact ⟨h.notSyncing, h.waiting, h.stuck, h.moving, h.toItem⟩
  intro _
  apply related_ite
  · intro _
    apply related_done residue
    exact ⟨h.notSyncing, h.waiting, h.stuck, h.moving, h.toItem⟩
  · intro _
    exact related_awaitAnswer harrived

theorem withResidue_onStatusMessageReceived (nav : Navigator) (residue : Residue) :
    (nav.withResidue residue).onStatusMessageReceived =
      nav.onStatusMessageReceived.withResidue residue :=
  ite_withResidue (fun _ => rfl) fun _ => rfl

theorem Shelters.onStatusMessageReceived (h : nav.Shelters residue) :
    nav.onStatusMessageReceived.Shelters residue := by
  unfold Navigator.onStatusMessageReceived
  split
  · exact ⟨h.notSyncing, h.waiting, h.stuck, h.moving, h.toItem⟩
  · exact h

theorem related_step {s s' : Call × Navigator} (h : CallsAlike s s') :
    Related (step model s) (step model s') := by
  cases h with
  | onPageUpdate content line h => exact related_step_onPageUpdate h content line
  | handleWaitingForPage h => exact related_step_handleWaitingForPage h
  | executeNextStep h => exact related_step_executeNextStep h
  | recoveryNext h => exact related_step_recoveryNext h
  | moveCursorToTarget h hmove => exact related_step_moveCursorToTarget h hmove

end Navigator

/-! ## Goals -/

/-- What the program asks of a navigator. -/
inductive Goal where
  | page (target : PageId)
  | item (itemPage : PageId) (menuItemLine : UInt8) (itemLabel : Text) (selectTarget : PageId)
  deriving DecidableEq

/-- `NavigateTo` or `NavigateToItem`. -/
def Goal.set (nav : Navigator) : Goal → Navigator
  | .page target => nav.navigateTo target
  | .item itemPage line label selectTarget =>
    nav.navigateToItem itemPage line label selectTarget

def Goal.toItem : Goal → Bool
  | .page _ => false
  | .item _ _ _ _ => true

/-- A navigator that was reset and then told the same page and screen.  A reset leaves the
cursor alone. -/
def Navigator.fresh (nav : Navigator) : Navigator :=
  { nav.reset with
    currentPage := nav.currentPage
    currentContent := nav.currentContent }

/-- Nothing that a new goal does not reset is left over from an earlier one. -/
structure NothingLeft (nav : Navigator) (goal : Goal) : Prop where
  notStuck : nav.cursorStuckCount = 0
  checksCursor : nav.skipCursorCheck = false
  noMoves : goal.toItem → nav.cursorMoveCount = 0
  noLabel : goal.toItem → Navigator.edgeLabel nav.currentEdge = []

def resetResidue : Residue where
  waitCycleCount := 0
  passwordDigitIndex := 0
  syncDetectedPage := .unknown
  syncConsistentCount := 0
  previousCursorLine := 0
  currentEdge := none
  cursorMoveCount := 0

theorem set_fresh {nav : Navigator} {goal : Goal} (h : NothingLeft nav goal) :
    goal.set nav.fresh = (goal.set nav).withResidue resetResidue := by
  have hfresh : nav.fresh = { nav.reset with
      currentPage := nav.currentPage
      currentContent := nav.currentContent
      cursorStuckCount := nav.cursorStuckCount
      skipCursorCheck := nav.skipCursorCheck } := by
    rw [h.notStuck, h.checksCursor]
    rfl
  rw [hfresh]
  cases goal with
  | page target => rfl
  | item itemPage line label selectTarget => rfl

theorem shelters_set {nav : Navigator} {goal : Goal} (h : NothingLeft nav goal) :
    (goal.set nav).Shelters resetResidue := by
  cases goal with
  | page target =>
    exact Navigator.shelters_of_settled (.inl rfl) (absurd h.notStuck) Bool.noConfusion
  | item itemPage line label selectTarget =>
    refine Navigator.shelters_of_settled (.inl rfl) (absurd h.notStuck) fun _ => ?_
    exact ⟨(h.noMoves rfl).symm, (h.noLabel rfl).symm⟩

/-! ## Runs after a goal -/

/-- What the controller sends, as opposed to what the program asks for. -/
def NavigatorEvent.FromController : NavigatorEvent → Prop
  | .statusMessage | .pageUpdate _ _ => True
  | .startSync | .navigateTo _ | .navigateToItem _ _ _ _ | .reset => False

/-- What can be seen of an answer. -/
structure Observation where
  key : Option NavKeyCommand
  state : NavigatorState
  currentPage : PageId
  targetPage : PageId
  cursorLine : UInt8
  deriving DecidableEq

def observe (answer : Answer) : Observation where
  key := answer.2
  state := answer.1.state
  currentPage := answer.1.currentPage
  targetPage := answer.1.targetPage
  cursorLine := answer.1.cursorLine

/-- The events are all answered, and this is what can be seen of it. -/
inductive Shows (model : MenuModel) :
    Navigator → List NavigatorEvent → List Observation → Prop where
  | nil (nav : Navigator) : Shows model nav [] []
  | cons {nav : Navigator} {event : NavigatorEvent} {events : List NavigatorEvent}
      {answer : Answer} {observations : List Observation}
      (hanswers : Answers model nav event answer)
      (hrest : Shows model answer.1 events observations) :
      Shows model nav (event :: events) (observe answer :: observations)

variable {model : MenuModel} {nav : Navigator} {residue : Residue} {event : NavigatorEvent}

theorem answers_alike (hevent : event.FromController) (h : nav.Shelters residue) :
    (∀ answer, Answers model nav event answer →
      ∃ answer', Answers model (nav.withResidue residue) event answer' ∧
        Navigator.AnswersAlike answer answer') ∧
    ∀ answer', Answers model (nav.withResidue residue) event answer' →
      ∃ answer, Answers model nav event answer ∧ Navigator.AnswersAlike answer answer' := by
  cases event with
  | pageUpdate content line =>
    exact returns_related (fun _ _ hcalls => Navigator.related_step hcalls)
      (.onPageUpdate content line h)
  | statusMessage =>
    have halike : Navigator.AnswersAlike (nav.onStatusMessageReceived, none)
        ((nav.withResidue residue).onStatusMessageReceived, none) := by
      rw [Navigator.withResidue_onStatusMessageReceived]
      exact .mk none h.onStatusMessageReceived
    constructor
    · rintro answer rfl
      exact ⟨_, rfl, halike⟩
    · rintro answer' rfl
      exact ⟨_, rfl, halike⟩
  | startSync | navigateTo | navigateToItem | reset => exact hevent.elim

variable {events : List NavigatorEvent}

theorem Shows.observe_eq {observation : Observation} {observations : List Observation}
    {answer : Answer} (hshows : Shows model nav (event :: events) (observation :: observations))
    (hanswers : Answers model nav event answer) : observe answer = observation := by
  cases hshows with
  | cons hanswers' hrest => rw [hanswers.unique hanswers']

theorem observe_alike {answer answer' : Answer} (h : Navigator.AnswersAlike answer answer') :
    observe answer' = observe answer := by
  cases h with
  | mk key h => rfl

theorem shows_iff (h : nav.Shelters residue) (hevents : ∀ event ∈ events, event.FromController)
    (observations : List Observation) :
    Shows model nav events observations ↔
      Shows model (nav.withResidue residue) events observations := by
  induction events generalizing nav residue observations with
  | nil =>
    constructor
    · intro hshows
      cases hshows
      exact .nil _
    · intro hshows
      cases hshows
      exact .nil _
  | cons event events ih =>
    obtain ⟨hevent, hevents⟩ := List.forall_mem_cons.mp hevents
    obtain ⟨hleft, hright⟩ := @answers_alike model _ _ _ hevent h
    constructor
    · intro hshows
      cases hshows with
      | cons hanswers hrest =>
        obtain ⟨answer', hanswers', halike⟩ := hleft _ hanswers
        rw [← observe_alike halike]
        apply Shows.cons hanswers'
        cases halike with
        | mk key hnext => exact (ih hnext hevents _).mp hrest
    · intro hshows
      cases hshows with
      | cons hanswers' hrest =>
        obtain ⟨answer, hanswers, halike⟩ := hright _ hanswers'
        rw [observe_alike halike]
        apply Shows.cons hanswers
        cases halike with
        | mk key hnext => exact (ih hnext hevents _).mpr hrest

/-- **History independence.**  If nothing is left over, a navigator with a new goal shows
what a fresh one shows, whatever the controller sends. -/
theorem shows_set_iff {goal : Goal} (h : NothingLeft nav goal) {events : List NavigatorEvent}
    (hevents : ∀ event ∈ events, event.FromController) (observations : List Observation) :
    Shows model (goal.set nav) events observations ↔
      Shows model (goal.set nav.fresh) events observations := by
  rw [set_fresh h]
  exact shows_iff (shelters_set h) hevents observations

/-! ## A leftover that shows -/

def boostEdge : MenuEdge where
  trigger := .select
  source := .system
  target := .boost
  triggerLine := 3

/-- A home page with one entry, on line 3. -/
def boostModel : MenuModel where
  pages := [{
    id := .system
    detectors := [{ line := 0, pattern := ['H', 'O', 'M', 'E'] }]
    edges := [boostEdge] }]

def boostScreen : ScreenDataPage where
  rows := [{ text := ['H', 'O', 'M', 'E'] }]

/-- After a goal was reached, with the key presses of its last cursor move. -/
def arrivedNavigator : Navigator where
  state := .atDestination
  currentPage := .system
  targetPage := .system
  previousCursorLine := 2
  currentEdge := some boostEdge
  waitCycleCount := 7

theorem shows_set_iff_arrived :
    Shows boostModel ((Goal.page .boost).set arrivedNavigator)
        [.pageUpdate boostScreen 0, .statusMessage]
        [⟨some .lineDown, .movingCursor, .system, .boost, 0⟩,
          ⟨none, .movingCursor, .system, .boost, 0⟩] ↔
      Shows boostModel ((Goal.page .boost).set arrivedNavigator.fresh)
        [.pageUpdate boostScreen 0, .statusMessage]
        [⟨some .lineDown, .movingCursor, .system, .boost, 0⟩,
          ⟨none, .movingCursor, .system, .boost, 0⟩] := by
  have hleft : NothingLeft arrivedNavigator (.page .boost) :=
    ⟨rfl, rfl, Bool.noConfusion, Bool.noConfusion⟩
  apply shows_set_iff hleft
  intro event hevent
  rcases List.mem_pair.mp hevent with rfl | rfl
  · trivial
  · trivial

/-- A cursor move that four keys have not got anywhere. -/
def stuckNavigator : Navigator where
  state := .movingCursor
  currentPage := .system
  targetPage := .boost
  targetCursorLine := 3
  path := [boostEdge]
  cursorStuckCount := 4
  currentContent := some boostScreen
  currentEdge := some boostEdge
  cursorMoveCount := 4

/-- The stuck count of an abandoned cursor move makes the next goal press Select on the line
that the cursor is on.  A fresh navigator moves the cursor first. -/
theorem stuckCount_shows :
    Reachable boostModel stuckNavigator ∧
      Shows boostModel ((Goal.page .boost).set stuckNavigator) [.pageUpdate boostScreen 0]
        [⟨some .select, .waitingForPage, .system, .boost, 0⟩] ∧
      ¬ Shows boostModel ((Goal.page .boost).set stuckNavigator.fresh) [.pageUpdate boostScreen 0]
        [⟨some .select, .waitingForPage, .system, .boost, 0⟩] := by
  refine ⟨?_, ?_, ?_⟩
  · have hrun : run boostModel 8 {} [.navigateTo .boost,
        .pageUpdate boostScreen 0, .statusMessage, .pageUpdate boostScreen 0, .statusMessage,
        .pageUpdate boostScreen 0, .statusMessage, .pageUpdate boostScreen 0, .statusMessage] =
        some stuckNavigator := by decide
    exact Reachable.start.run hrun
  · obtain ⟨answer, hanswer, hobserve⟩ : ∃ answer,
        respond boostModel 8 ((Goal.page .boost).set stuckNavigator) (.pageUpdate boostScreen 0) =
          some answer ∧ observe answer = ⟨some .select, .waitingForPage, .system, .boost, 0⟩ :=
      ⟨_, rfl, rfl⟩
    rw [← hobserve]
    exact .cons (.of_respond hanswer) (.nil _)
  · intro hshows
    obtain ⟨answer, hanswer, hkey⟩ : ∃ answer,
        respond boostModel 8 ((Goal.page .boost).set stuckNavigator.fresh)
          (.pageUpdate boostScreen 0) = some answer ∧ answer.2 = some .lineDown := ⟨_, rfl, rfl⟩
    have hobserve := hshows.observe_eq (.of_respond hanswer)
    have hselect : answer.2 = some .select := congrArg Observation.key hobserve
    exact absurd (hkey.symm.trans hselect) (by decide)

end AqualinkAutomate.Navigation
