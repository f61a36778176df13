import Aqualink.Navigation.ItemSelection

/-!
# Where the navigator stops

A navigation to an item that has no page to enter ends on the row of the item: the cursor is
brought there, and the navigator has arrived.  The row is looked up on the screen that is there
then.  So it is the first row with the label, wherever that is by now, and the fixed line only
where there is no label (`seeks_or_stops_of_pageUpdate`).
-/

namespace AqualinkAutomate.Navigation.Navigator

open General

variable {model : MenuModel} {nav nav' : Navigator} {content : ScreenDataPage}

structure SeeksRow (nav : Navigator) : Prop where
  toItem : nav.navigatingToItem
  noPage : nav.selectTarget = .unknown
  away : nav.state ≠ .atDestination

structure StopsOnRow (nav : Navigator) : Prop where
  arrived : nav.state = .atDestination
  toItem : nav.navigatingToItem
  onRow : nav.OnItem
  onLine : nav.itemLabel = [] → nav.cursorLine = nav.targetItemLine

def TowardsRow : Step → Prop :=
  Pass.Holds (fun s => s.2.SeeksRow) fun answer =>
    answer.1.SeeksRow ∨ answer.1.StopsOnRow

section

variable (h : nav.SeeksRow)

include h

theorem SeeksRow.of_kept (hkept : nav.Kept nav') : nav'.SeeksRow :=
  ⟨hkept.toItem.trans h.toItem, hkept.selectTarget.trans h.noPage, hkept.away h.away⟩

theorem SeeksRow.of_pursuit (hway : nav'.way = nav.way) (hstate : nav'.state.InPursuit) :
    nav'.SeeksRow :=
  h.of_kept (.of_pursuit hway hstate)

theorem SeeksRow.of_same (hway : nav'.way = nav.way) (hstate : nav'.state = nav.state) :
    nav'.SeeksRow :=
  h.of_kept ⟨hway, .inl hstate⟩

/-! ## The passes -/

/-- The one place where the navigator stops. -/
theorem SeeksRow.towards_reachItem {line : UInt8}
    (hrow : nav.itemLabel ≠ [] → nav.findLineByLabel nav.itemLabel = some line)
    (hline : nav.itemLabel = [] → line = nav.targetItemLine) : TowardsRow (nav.reachItem line) := by
  unfold reachItem
  dsimp only
  split_ifs with hcursor hpage
  · exact h.of_pursuit rfl trivial
  · exact absurd h.noPage hpage
  · have hat : nav.cursorLine = line := not_not.mp hcursor
    refine .inr ⟨rfl, h.toItem, fun hlabel => ?_, fun hlabel => hat.trans (hline hlabel)⟩
    exact (hrow hlabel).trans (congrArg some hat.symm)

section

variable (model : MenuModel)

theorem SeeksRow.towards_reachTarget : TowardsRow (nav.reachTarget model) := by
  unfold reachTarget
  rw [if_pos h.toItem]
  split_ifs with hlabel
  · exact h.towards_reachItem (fun hne => absurd hlabel hne) fun _ => rfl
  · split
    next line hline =>
      exact h.towards_reachItem (fun _ => hline) fun heq => absurd heq hlabel
    next =>
      unfold scrollToItem
      split_ifs
      · exact .inl (h.of_pursuit rfl trivial)
      · exact .inl (h.of_pursuit rfl trivial)

theorem SeeksRow.towards_followPath : TowardsRow (nav.followPath model) := by
  unfold followPath
  split_ifs
  · exact h.towards_reachTarget model
  · split
    next => exact h.of_same rfl rfl
    next =>
      unfold executeEdge
      split_ifs
      · exact h.of_pursuit rfl trivial
      · exact .inl (h.of_pursuit rfl trivial)

theorem SeeksRow.towards_executeNextStep : TowardsRow (nav.executeNextStep model) := by
  have hcomputed := h.of_kept (nav.kept_computePath model)
  unfold executeNextStep
  split_ifs
  · dsimp only
    split_ifs
    · exact hcomputed
    · exact hcomputed.towards_followPath model
  · exact h.towards_followPath model

theorem SeeksRow.towards_recoveryNext : TowardsRow (nav.recoveryNext model) := by
  unfold recoveryNext
  by_cases hpending : 0 < nav.pendingStatusMessages
  · rw [if_pos hpending]
    exact .inl h
  rw [if_neg hpending]
  by_cases hblocking : isBlockingPage nav.currentPage
  · rw [if_pos hblocking]
    exact .inl (h.of_pursuit rfl trivial)
  rw [if_neg hblocking]
  by_cases hhome : nav.currentPage = .system
  · rw [if_pos hhome]
    exact h.of_pursuit rfl trivial
  rw [if_neg hhome]
  split
  next page _ =>
    unfold selectSystemLink
    split
    next => exact .inl (h.of_pursuit rfl trivial)
    next =>
      dsimp only
      split_ifs
      · exact h.of_pursuit rfl trivial
      · exact .inl (h.of_same rfl rfl)
  next =>
    dsimp only
    split_ifs
    · exact .inl (h.of_pursuit rfl trivial)
    · exact .inl (h.of_same rfl rfl)
    · exact .inl (h.of_same rfl rfl)

end

theorem SeeksRow.towards_keepMoving : TowardsRow nav.keepMoving := by
  unfold keepMoving
  rw [if_pos h.toItem]
  split_ifs
  · exact .inl (h.of_pursuit rfl trivial)
  · exact .inl (h.of_same rfl rfl)
  · exact .inl (h.of_same rfl rfl)

theorem SeeksRow.towards_moveCursorToTarget : TowardsRow nav.moveCursorToTarget := by
  unfold moveCursorToTarget
  split_ifs
  · exact h.of_pursuit rfl trivial
  · exact .inl h
  · split
    next =>
      unfold giveUpCursorMove
      rw [if_pos h.toItem]
      exact .inl (h.of_pursuit rfl trivial)
    next =>
      split_ifs
      · exact h.of_pursuit rfl trivial
      · exact SeeksRow.towards_keepMoving ⟨h.toItem, h.noPage, h.away⟩
  · exact SeeksRow.towards_keepMoving ⟨h.toItem, h.noPage, h.away⟩

theorem SeeksRow.towards_handleWaitingForPage (model : MenuModel) :
    TowardsRow (nav.handleWaitingForPage model) := by
  have hunexpected := h.of_kept (nav.kept_handleUnexpectedPage model)
  unfold handleWaitingForPage
  split_ifs
  · exact .inl h
  · dsimp only
    split
    next => exact hunexpected
    next => exact hunexpected
    next => exact .inl hunexpected
  · exact h.of_pursuit rfl trivial

theorem SeeksRow.towards_dispatch : TowardsRow nav.dispatch := by
  unfold dispatch
  split
  next => exact h
  next => exact h
  next => exact h
  next => exact h
  next => exact .inl (h.of_pursuit rfl trivial)
  all_goals exact .inl h

theorem SeeksRow.towards_onPageUpdate (model : MenuModel) (content : ScreenDataPage)
    (highlighted : UInt8) : TowardsRow (nav.onPageUpdate model content highlighted) := by
  unfold onPageUpdate
  dsimp only
  split_ifs
  · refine .inl ?_
    unfold handleSyncing
    dsimp only
    split_ifs
    · exact ⟨h.toItem, h.noPage, h.away⟩
    all_goals exact ⟨h.toItem, h.noPage, by first | exact h.away | simp⟩
  · unfold handleSpecialPage
    split_ifs
    · exact .inl ⟨h.toItem, h.noPage, by simp⟩
    · exact .inl ⟨h.toItem, h.noPage, h.away⟩
  · exact .inl ⟨h.toItem, h.noPage, h.away⟩
  · unfold awaitAnswer
    split_ifs
    · have hwaited : SeeksRow { (nav.receiveScreen content highlighted).receivePage
          (model.detectPage content) with waitCycleCount := 0 } :=
        ⟨h.toItem, h.noPage, h.away⟩
      exact hwaited.of_kept (Kept.initiateRecovery ⟨rfl, .inl rfl⟩)
    · exact SeeksRow.towards_dispatch ⟨h.toItem, h.noPage, h.away⟩
    · exact SeeksRow.towards_dispatch ⟨h.toItem, h.noPage, h.away⟩

end

theorem SeeksRow.towards_step {s : Call × Navigator} (h : s.2.SeeksRow) (model : MenuModel) :
    TowardsRow (step model s) := by
  obtain ⟨call, nav⟩ := s
  cases call with
  | onPageUpdate content highlighted => exact h.towards_onPageUpdate model content highlighted
  | handleWaitingForPage => exact h.towards_handleWaitingForPage model
  | executeNextStep => exact h.towards_executeNextStep model
  | moveCursorToTarget => exact h.towards_moveCursorToTarget
  | recoveryNext => exact h.towards_recoveryNext model

/-! ## An update -/

theorem seeks_or_stops_of_pageUpdate (h : nav.SeeksRow) {highlighted : UInt8} {answer : Answer}
    (hanswers : Answers model nav (.pageUpdate content highlighted) answer) :
    answer.1.SeeksRow ∨ answer.1.StopsOnRow := by
  refine Returns.of_holds (fun s : Call × Navigator => s.2.SeeksRow)
    (fun answer : Answer => answer.1.SeeksRow ∨ answer.1.StopsOnRow) ?_ ?_ hanswers
  · exact fun _ hs => hs.towards_step model
  · exact h.towards_onPageUpdate model content highlighted

/-- Where the navigation to an item stops: on the page of the item, with the cursor on the row
that has the label there, or on the fixed line if there is no label. -/
structure StopsAt (model : MenuModel) (nav : Navigator) (page : PageId) (line : UInt8)
    (label : Text) (content : ScreenDataPage) (cursor : UInt8) : Prop where
  page_eq : nav.pageOn model content = page
  onRow : label ≠ [] → content.findLineByLabel label = some cursor
  onLine : label = [] → cursor = line

theorem stopsAt_of_pageUpdate {page : PageId} {line : UInt8} {label : Text}
    (hseeks : nav.SeeksRow) (hpursues : nav.PursuesItem page line label) {highlighted : UInt8}
    {answer : Answer} (hanswers : Answers model nav (.pageUpdate content highlighted) answer)
    (harrived : answer.1.state = .atDestination) :
    nav.StopsAt model page line label content answer.1.cursorLine := by
  have hstops : answer.1.StopsOnRow :=
    (seeks_or_stops_of_pageUpdate hseeks hanswers).resolve_left fun h => h.away harrived
  have hpursued : answer.1.PursuesItem page line label := by
    refine (hpursues.of_pageUpdate hanswers).resolve_right fun hselected => ?_
    rw [hstops.toItem] at hselected
    cases hselected
  have hsyncing : nav.state ≠ .syncing := by
    intro hsyncing
    rw [answers_of_syncing hsyncing hanswers] at harrived
    revert harrived
    unfold handleSyncing
    dsimp only
    split_ifs <;> simp [receiveScreen, hsyncing]
  cases outcome_of_pageUpdate hsyncing hanswers with
  | answers hkept => exact absurd harrived (hkept.away hseeks.away)
  | selects _ _ _ _ hselect =>
    cases hselect
    cases harrived
  | arrives hkept hthere =>
    refine ⟨hthere.trans hpursues.page_eq, fun hlabel => ?_, fun hlabel => ?_⟩
    · have hrow := hstops.onRow (by rw [hpursued.label_eq]; exact hlabel)
      rw [hpursued.label_eq] at hrow
      unfold findLineByLabel at hrow
      rwa [show Navigator.currentContent _ = some content from hkept.content] at hrow
    · rw [hstops.onLine (hpursued.label_eq.trans hlabel)]
      exact hpursued.line_eq hlabel

end AqualinkAutomate.Navigation.Navigator
