import Aqualink.Navigation.Passes
import Aqualink.Navigation.Rest

/-!
# How an item is selected

A navigation to an item of a page looks for the row with its label, brings the cursor there and
selects it.  So as long as it has not selected anything it is still on its way to the item, and
the key with which it ceases to be is a Select, pressed with the cursor on that row.

The same holds for a whole run from `NavigateToItem` to the Select (`item_selected_on_row`).
Two things are not as one might expect.  Without a label there is no row to look for, and the
cursor goes to the fixed line.  And the cursor is where the last highlighted line was: an update
that highlights none leaves it there, and before the first one it is the top line.
-/

namespace AqualinkAutomate.Navigation

open General

namespace Navigator

variable {model : MenuModel} {nav nav' : Navigator} {content : ScreenDataPage} {label : Text}

structure SeeksItem (content : ScreenDataPage) (label : Text) (nav : Navigator) : Prop where
  toItem : nav.navigatingToItem
  shown : nav.currentContent = some content
  labelled : nav.itemLabel = label

def SelectsOnRow (content : ScreenDataPage) (label : Text) (answer : Answer) : Prop :=
  answer.2 = some .select ∧
    (label ≠ [] → content.findLineByLabel label = some answer.1.cursorLine)

theorem SeeksItem.of_kept (h : nav.SeeksItem content label) (hkept : nav.Kept nav') :
    nav'.SeeksItem content label :=
  ⟨hkept.toItem.trans h.toItem, hkept.content.trans h.shown, hkept.label.trans h.labelled⟩

theorem SeeksItem.handleSyncing (h : nav.SeeksItem content label) (detected : PageId) :
    (nav.handleSyncing detected).SeeksItem content label := by
  unfold Navigator.handleSyncing
  dsimp only
  split_ifs <;> exact ⟨h.toItem, h.shown, h.labelled⟩

section

variable (hitem : nav.navigatingToItem = true) {line : UInt8} {answer : Answer}
  (hanswers : Answers model nav (.pageUpdate content line) answer)

include hitem hanswers

theorem seeks_or_selects_of_pageUpdate :
    answer.1.SeeksItem content nav.itemLabel ∨ SelectsOnRow content nav.itemLabel answer := by
  by_cases hsyncing : nav.state = .syncing
  · have h : (nav.receiveScreen content line).SeeksItem content nav.itemLabel := ⟨hitem, rfl, rfl⟩
    rw [answers_of_syncing hsyncing hanswers]
    exact .inl (h.handleSyncing _)
  · have h : (nav.shown model content line).SeeksItem content nav.itemLabel := ⟨hitem, rfl, rfl⟩
    cases outcome_of_pageUpdate hsyncing hanswers with
    | answers hkept => exact .inl (h.of_kept hkept)
    | selects hkept hthere hitem hrow hselect =>
      cases hselect
      exact .inr ⟨rfl, fun hlabel => (hrow hlabel).trans (congrArg some hkept.cursor.symm)⟩
    | arrives hkept =>
      have hkept := h.of_kept hkept
      exact .inl ⟨hkept.toItem, hkept.shown, hkept.labelled⟩

theorem selectsOnRow_of_pageUpdate (hselected : answer.1.navigatingToItem = false) :
    SelectsOnRow content nav.itemLabel answer := by
  rcases seeks_or_selects_of_pageUpdate hitem hanswers with hseeks | hselects
  · rw [hseeks.toItem] at hselected
    cases hselected
  · exact hselects

end

/-! ## An item without a label -/

structure SeeksLine (line : UInt8) (nav : Navigator) : Prop where
  toItem : nav.navigatingToItem
  unlabelled : nav.itemLabel = []
  line_eq : nav.targetItemLine = line

/-- What a pass does on the way to a line: the navigator stays on it, or the item is selected
with the cursor there. -/
def TowardsLine (line : UInt8) : Step → Prop :=
  Pass.Holds (fun s => s.2.SeeksLine line) fun answer =>
    answer.1.SeeksLine line ∨ answer.1.navigatingToItem = false ∧ answer.1.cursorLine = line

variable {line : UInt8}

section

variable (h : nav.SeeksLine line)

include h

theorem SeeksLine.initiateRecovery : nav.initiateRecovery.SeeksLine line := by
  unfold Navigator.initiateRecovery
  dsimp only
  split_ifs <;> exact ⟨h.toItem, h.unlabelled, h.line_eq⟩

theorem SeeksLine.towards_selectSystemLink (page : MenuPage) :
    TowardsLine line (nav.selectSystemLink page) := by
  unfold selectSystemLink
  split
  · exact .inl ⟨h.toItem, h.unlabelled, h.line_eq⟩
  · dsimp only
    split_ifs
    · exact ⟨h.toItem, h.unlabelled, h.line_eq⟩
    · exact .inl ⟨h.toItem, h.unlabelled, h.line_eq⟩

section

variable (model : MenuModel)

theorem SeeksLine.towards_recoveryNext : TowardsLine line (nav.recoveryNext model) := by
  unfold recoveryNext
  by_cases hpending : 0 < nav.pendingStatusMessages
  · rw [if_pos hpending]
    exact .inl h
  rw [if_neg hpending]
  by_cases hblocking : isBlockingPage nav.currentPage
  · rw [if_pos hblocking]
    exact .inl ⟨h.toItem, h.unlabelled, h.line_eq⟩
  rw [if_neg hblocking]
  by_cases hhome : nav.currentPage = .system
  · rw [if_pos hhome]
    exact ⟨h.toItem, h.unlabelled, h.line_eq⟩
  rw [if_neg hhome]
  split
  · exact h.towards_selectSystemLink _
  · dsimp only
    split_ifs <;> exact .inl ⟨h.toItem, h.unlabelled, h.line_eq⟩

theorem SeeksLine.computePath : (nav.computePath model).SeeksLine line := by
  unfold Navigator.computePath
  split_ifs
  · exact h.initiateRecovery
  · dsimp only
    split_ifs
    · exact SeeksLine.initiateRecovery ⟨h.toItem, h.unlabelled, h.line_eq⟩
    · exact ⟨h.toItem, h.unlabelled, h.line_eq⟩

theorem SeeksLine.towards_reachTarget : TowardsLine line (nav.reachTarget model) := by
  unfold reachTarget
  rw [if_pos h.toItem, if_pos h.unlabelled, h.line_eq]
  unfold reachItem
  dsimp only
  split_ifs with hcursor
  · exact ⟨h.toItem, h.unlabelled, h.line_eq⟩
  · exact .inr ⟨rfl, not_not.mp hcursor⟩
  · exact .inl ⟨h.toItem, h.unlabelled, h.line_eq⟩

theorem SeeksLine.towards_followPath : TowardsLine line (nav.followPath model) := by
  unfold followPath
  split_ifs
  · exact h.towards_reachTarget model
  · split
    · exact ⟨h.toItem, h.unlabelled, h.line_eq⟩
    · unfold executeEdge
      split_ifs
      · exact ⟨h.toItem, h.unlabelled, h.line_eq⟩
      · exact .inl ⟨h.toItem, h.unlabelled, h.line_eq⟩

theorem SeeksLine.towards_executeNextStep : TowardsLine line (nav.executeNextStep model) := by
  unfold executeNextStep
  split_ifs
  · dsimp only
    split_ifs
    · exact h.computePath model
    · exact (h.computePath model).towards_followPath model
  · exact h.towards_followPath model

end

/-- To an item, a cursor that is stuck fails: it is not taken for the target. -/
theorem SeeksLine.towards_keepMoving : TowardsLine line nav.keepMoving := by
  unfold keepMoving
  rw [if_pos h.toItem]
  split_ifs <;> exact .inl ⟨h.toItem, h.unlabelled, h.line_eq⟩

theorem SeeksLine.towards_moveCursorToTarget : TowardsLine line nav.moveCursorToTarget := by
  unfold moveCursorToTarget
  split_ifs
  · exact ⟨h.toItem, h.unlabelled, h.line_eq⟩
  · exact .inl h
  · split
    · unfold giveUpCursorMove
      rw [if_pos h.toItem]
      exact .inl ⟨h.toItem, h.unlabelled, h.line_eq⟩
    · split_ifs
      · exact ⟨h.toItem, h.unlabelled, h.line_eq⟩
      · exact SeeksLine.towards_keepMoving ⟨h.toItem, h.unlabelled, h.line_eq⟩
  · exact SeeksLine.towards_keepMoving ⟨h.toItem, h.unlabelled, h.line_eq⟩

theorem SeeksLine.handleTransientPage (model : MenuModel) (actual : PageId) :
    (nav.handleTransientPage model actual).1.SeeksLine line := by
  unfold Navigator.handleTransientPage
  split_ifs
  · exact h
  · dsimp only
    split_ifs <;> exact ⟨h.toItem, h.unlabelled, h.line_eq⟩

theorem SeeksLine.detectStuckRecompute (actual : PageId) :
    (nav.detectStuckRecompute actual).1.SeeksLine line := by
  unfold Navigator.detectStuckRecompute
  split_ifs <;> exact ⟨h.toItem, h.unlabelled, h.line_eq⟩

section

variable (model : MenuModel) (actual : PageId)

theorem SeeksLine.recomputePath : (nav.recomputePath model actual).SeeksLine line := by
  unfold Navigator.recomputePath
  split_ifs
  · exact h.initiateRecovery
  · dsimp only
    split_ifs
    · exact SeeksLine.initiateRecovery ⟨h.toItem, h.unlabelled, h.line_eq⟩
    · exact ⟨h.toItem, h.unlabelled, h.line_eq⟩

theorem SeeksLine.recompute : (nav.recompute model actual).SeeksLine line := by
  have hcounted : SeeksLine line { nav with recomputeCount := nav.recomputeCount + 1 } :=
    ⟨h.toItem, h.unlabelled, h.line_eq⟩
  have hstuck := hcounted.detectStuckRecompute actual
  unfold Navigator.recompute
  split
  next hresult =>
    rwa [hresult] at hstuck
  next hresult =>
    rw [hresult] at hstuck
    split_ifs
    · exact ⟨hstuck.toItem, hstuck.unlabelled, hstuck.line_eq⟩
    · exact hstuck.recomputePath model actual

theorem SeeksLine.handleUnexpectedPage :
    (nav.handleUnexpectedPage model actual).SeeksLine line := by
  have htransient := h.handleTransientPage model actual
  unfold Navigator.handleUnexpectedPage
  split
  next hresult =>
    rwa [hresult] at htransient
  next hresult =>
    rw [hresult] at htransient
    exact htransient.recompute model actual

end

theorem SeeksLine.towards_handleWaitingForPage (model : MenuModel) :
    TowardsLine line (nav.handleWaitingForPage model) := by
  unfold handleWaitingForPage
  split_ifs
  · exact .inl h
  · have hunexpected := h.handleUnexpectedPage model nav.currentPage
    dsimp only
    split
    · exact hunexpected
    · exact hunexpected
    · exact .inl hunexpected
  · exact ⟨h.toItem, h.unlabelled, h.line_eq⟩

theorem SeeksLine.towards_dispatch : TowardsLine line nav.dispatch := by
  unfold dispatch
  split
  · exact h
  · exact h
  · exact h
  · exact h
  · exact .inl ⟨h.toItem, h.unlabelled, h.line_eq⟩
  · exact .inl h
  · exact .inl h
  · exact .inl h
  · exact .inl h

theorem SeeksLine.towards_onPageUpdate (model : MenuModel) (content : ScreenDataPage)
    (highlighted : UInt8) : TowardsLine line (nav.onPageUpdate model content highlighted) := by
  unfold onPageUpdate
  dsimp only
  split_ifs
  · refine .inl ?_
    unfold handleSyncing
    dsimp only
    split_ifs <;> exact ⟨h.toItem, h.unlabelled, h.line_eq⟩
  · unfold handleSpecialPage
    split_ifs <;> exact .inl ⟨h.toItem, h.unlabelled, h.line_eq⟩
  · exact .inl ⟨h.toItem, h.unlabelled, h.line_eq⟩
  · unfold awaitAnswer
    split_ifs
    · exact SeeksLine.initiateRecovery ⟨h.toItem, h.unlabelled, h.line_eq⟩
    · exact SeeksLine.towards_dispatch ⟨h.toItem, h.unlabelled, h.line_eq⟩
    · exact SeeksLine.towards_dispatch ⟨h.toItem, h.unlabelled, h.line_eq⟩

end

theorem SeeksLine.towards_step {s : Call × Navigator} (h : s.2.SeeksLine line)
    (model : MenuModel) : TowardsLine line (step model s) := by
  obtain ⟨call, nav⟩ := s
  cases call with
  | onPageUpdate content highlighted => exact h.towards_onPageUpdate model content highlighted
  | handleWaitingForPage => exact h.towards_handleWaitingForPage model
  | executeNextStep => exact h.towards_executeNextStep model
  | moveCursorToTarget => exact h.towards_moveCursorToTarget
  | recoveryNext => exact h.towards_recoveryNext model

theorem SeeksLine.of_pageUpdate (h : nav.SeeksLine line) {highlighted : UInt8}
    {answer : Answer} (hanswers : Answers model nav (.pageUpdate content highlighted) answer) :
    answer.1.SeeksLine line ∨
      answer.1.navigatingToItem = false ∧ answer.1.cursorLine = line := by
  refine Returns.of_holds (fun s : Call × Navigator => s.2.SeeksLine line)
    (fun answer : Answer => answer.1.SeeksLine line ∨
      answer.1.navigatingToItem = false ∧ answer.1.cursorLine = line) ?_ ?_ hanswers
  · exact fun _ hs => hs.towards_step model
  · exact h.towards_onPageUpdate model content highlighted

/-! ## A whole run -/

def highlightAfter (line : UInt8) : NavigatorEvent → UInt8
  | .pageUpdate _ highlighted => if highlighted = cursorLineNone then line else highlighted
  | .startSync | .navigateTo _ | .navigateToItem _ _ _ _ | .reset | .statusMessage => line

theorem cursorLine_of_answers {event : NavigatorEvent} {answer : Answer}
    (hanswers : Answers model nav event answer) :
    answer.1.cursorLine = highlightAfter nav.cursorLine event := by
  cases event with
  | startSync | navigateTo | navigateToItem | reset =>
    obtain rfl := hanswers
    rfl
  | statusMessage =>
    obtain rfl := hanswers
    dsimp only
    unfold onStatusMessageReceived
    split_ifs <;> rfl
  | pageUpdate content highlighted =>
    by_cases hsyncing : nav.state = .syncing
    · rw [answers_of_syncing hsyncing hanswers]
      unfold handleSyncing
      dsimp only
      split_ifs <;> rfl
    · cases outcome_of_pageUpdate hsyncing hanswers with
      | answers hkept => exact hkept.cursor
      | selects hkept _ _ _ hselect =>
        cases hselect
        exact hkept.cursor
      | arrives hkept => exact hkept.cursor

structure PursuesItem (page : PageId) (line : UInt8) (label : Text) (nav : Navigator) : Prop where
  toItem : nav.navigatingToItem
  page_eq : nav.targetPage = page
  label_eq : nav.itemLabel = label
  line_eq : label = [] → nav.targetItemLine = line

def PursuesOrNot (page : PageId) (line : UInt8) (label : Text) (nav : Navigator) : Prop :=
  nav.PursuesItem page line label ∨ nav.navigatingToItem = false

section

variable {page : PageId} {label : Text}

section

variable (h : nav.PursuesItem page line label)

include h

theorem PursuesItem.seeksLine (hlabel : label = []) : nav.SeeksLine line :=
  ⟨h.toItem, h.label_eq.trans hlabel, h.line_eq hlabel⟩

theorem PursuesItem.of_kept (hkept : nav.Kept nav')
    (hline : label = [] → nav'.targetItemLine = line) : nav'.PursuesItem page line label :=
  ⟨hkept.toItem.trans h.toItem, hkept.target.trans h.page_eq, hkept.label.trans h.label_eq, hline⟩

theorem PursuesItem.handleSyncing (detected : PageId) :
    (nav.handleSyncing detected).PursuesItem page line label := by
  unfold Navigator.handleSyncing
  dsimp only
  split_ifs <;> exact ⟨h.toItem, h.page_eq, h.label_eq, h.line_eq⟩

theorem PursuesItem.of_pageUpdate {highlighted : UInt8} {answer : Answer}
    (hanswers : Answers model nav (.pageUpdate content highlighted) answer) :
    answer.1.PursuesOrNot page line label := by
  refine or_iff_not_imp_right.mpr fun hunselected => ?_
  have hline : label = [] → answer.1.targetItemLine = line := fun hlabel =>
    (((h.seeksLine hlabel).of_pageUpdate hanswers).resolve_right
      fun hselected => hunselected hselected.1).line_eq
  by_cases hsyncing : nav.state = .syncing
  · have hreceived : (nav.receiveScreen content highlighted).PursuesItem page line label :=
      ⟨h.toItem, h.page_eq, h.label_eq, h.line_eq⟩
    rw [answers_of_syncing hsyncing hanswers]
    exact hreceived.handleSyncing _
  have hshown : (nav.shown model content highlighted).PursuesItem page line label :=
    ⟨h.toItem, h.page_eq, h.label_eq, h.line_eq⟩
  cases outcome_of_pageUpdate hsyncing hanswers with
  | answers hkept => exact hshown.of_kept hkept hline
  | selects _ _ _ _ hselect =>
    cases hselect
    exact absurd rfl hunselected
  | arrives hkept =>
    exact ⟨hkept.toItem.trans h.toItem, hkept.target.trans h.page_eq,
      hkept.label.trans h.label_eq, hline⟩

end

theorem unselected_of_pageUpdate (h : nav.navigatingToItem = false) {highlighted : UInt8}
    {answer : Answer} (hanswers : Answers model nav (.pageUpdate content highlighted) answer) :
    answer.1.navigatingToItem = false := by
  by_cases hsyncing : nav.state = .syncing
  · rw [answers_of_syncing hsyncing hanswers]
    unfold Navigator.handleSyncing
    dsimp only
    split_ifs <;> exact h
  cases outcome_of_pageUpdate hsyncing hanswers with
  | answers hkept => exact hkept.toItem.trans h
  | selects _ _ hitem =>
    rw [show (nav.shown model content highlighted).navigatingToItem = false from h] at hitem
    cases hitem
  | arrives hkept => exact hkept.toItem.trans h

theorem PursuesOrNot.answer (h : nav.PursuesOrNot page line label) {event : NavigatorEvent}
    (hevent : ¬ event.SetsGoal) {answer : Answer} (hanswers : Answers model nav event answer) :
    answer.1.PursuesOrNot page line label := by
  cases event with
  | navigateTo target => exact absurd trivial hevent
  | navigateToItem page line label selectTarget => exact absurd trivial hevent
  | startSync =>
    obtain rfl := hanswers
    exact h.imp (fun h => ⟨h.toItem, h.page_eq, h.label_eq, h.line_eq⟩) id
  | reset =>
    obtain rfl := hanswers
    exact .inr rfl
  | statusMessage =>
    obtain rfl := hanswers
    unfold onStatusMessageReceived
    split_ifs
    · exact h.imp (fun h => ⟨h.toItem, h.page_eq, h.label_eq, h.line_eq⟩) id
    · exact h
  | pageUpdate content highlighted =>
    rcases h with hpursues | hunselected
    · exact hpursues.of_pageUpdate hanswers
    · exact .inr (unselected_of_pageUpdate hunselected hanswers)

variable {events : List NavigatorEvent}

theorem PursuesOrNot.course (h : nav.PursuesOrNot page line label)
    (hcourse : Course model nav events nav') (hevents : ∀ event ∈ events, ¬ event.SetsGoal) :
    nav'.PursuesOrNot page line label := by
  induction hcourse with
  | nil nav => exact h
  | cons hanswers _ ih =>
    obtain ⟨hevent, hevents⟩ := List.forall_mem_cons.mp hevents
    exact ih (h.answer hevent hanswers) hevents

theorem cursorLine_of_course (hcourse : Course model nav events nav') :
    nav'.cursorLine = events.foldl highlightAfter nav.cursorLine := by
  induction hcourse with
  | nil nav => rfl
  | cons hanswers _ ih => rw [ih, cursorLine_of_answers hanswers, List.foldl_cons]

/-- The row that the item is selected on: the first one with its label, or else the fixed line.
Rows are numbered by a byte. -/
def IsItemRow (content : ScreenDataPage) (line : UInt8) (label : Text) (cursor : UInt8) : Prop :=
  if label = [] then cursor = line
  else ∃ number row, content.rows[number]? = some row ∧ row.matchesLabel label = true ∧
    cursor = UInt8.ofNat number

theorem isItemRow_of_findLineByLabel {cursor : UInt8} (hlabel : label ≠ [])
    (h : content.findLineByLabel label = some cursor) : IsItemRow content line label cursor := by
  unfold IsItemRow
  rw [if_neg hlabel]
  unfold ScreenDataPage.findLineByLabel at h
  rw [if_neg (by simpa using hlabel)] at h
  obtain ⟨number, hfind, rfl⟩ := Option.map_eq_some_iff.mp h
  obtain ⟨hbound, hmatches, _⟩ := List.findIdx?_eq_some_iff_getElem.mp hfind
  exact ⟨number, _, List.getElem?_eq_getElem hbound, hmatches, rfl⟩

structure SelectsItem (model : MenuModel) (nav : Navigator) (page : PageId) (line : UInt8)
    (label : Text) (content : ScreenDataPage) (cursor : UInt8) (answer : Answer) : Prop where
  key : answer.2 = some .select
  selected : answer.1.navigatingToItem = false
  page_eq : nav.pageOn model content = page
  row : IsItemRow content line label cursor

/-- The item is not selected yet.  A Select follows the path from another page, or leaves a
page without a Back key for the home page. -/
structure StaysUnselected (model : MenuModel) (nav : Navigator) (page : PageId)
    (content : ScreenDataPage) (answer : Answer) : Prop where
  unselected : answer.1.navigatingToItem
  elsewhere : answer.2 = some .select → nav.pageOn model content ≠ page ∨
    ∃ menuPage, model.getPage (nav.pageOn model content) = some menuPage ∧
      menuPage.supportsKey .back = false

/-- **Item selection.**  In a run of `NavigateToItem`, as long as the item has not been
selected: a screen is answered with the Select that enters the page of the item only on its
page and with the cursor, the last highlighted line, on its row.  Every other answer is a wait,
another key, or a Select elsewhere. -/
theorem item_selected_on_row {selectTarget : PageId} {events : List NavigatorEvent}
    (hcourse : Course model (nav.navigateToItem page line label selectTarget) events nav')
    (hevents : ∀ event ∈ events, ¬ event.SetsGoal) (hunselected : nav'.navigatingToItem)
    {highlighted : UInt8} {answer : Answer}
    (hanswers : Answers model nav' (.pageUpdate content highlighted) answer) :
    SelectsItem model nav' page line label content
        (highlightAfter (events.foldl highlightAfter nav.cursorLine)
          (.pageUpdate content highlighted)) answer ∨
      StaysUnselected model nav' page content answer := by
  have hstart : (nav.navigateToItem page line label selectTarget).PursuesOrNot page line label :=
    .inl ⟨rfl, rfl, rfl, fun _ => rfl⟩
  have hpursues : nav'.PursuesItem page line label := by
    refine (hstart.course hcourse hevents).resolve_right fun hselected => ?_
    rw [hselected] at hunselected
    cases hunselected
  -- the cursor is where the run has left it
  have hcursor : answer.1.cursorLine = highlightAfter
      (events.foldl highlightAfter nav.cursorLine) (.pageUpdate content highlighted) := by
    rw [cursorLine_of_answers hanswers, cursorLine_of_course hcourse]
    rfl
  rw [← hcursor]
  by_cases hsyncing : nav'.state = .syncing
  · have hreceived : (nav'.receiveScreen content highlighted).PursuesItem page line label :=
      ⟨hpursues.toItem, hpursues.page_eq, hpursues.label_eq, hpursues.line_eq⟩
    have hpass : step model (.onPageUpdate content highlighted, nav') =
        ((nav'.receiveScreen content highlighted).handleSyncing
          (model.detectPage content)).stop := if_pos hsyncing
    rw [Returns.unique hanswers (returns_of_done hpass)]
    exact .inr ⟨(hreceived.handleSyncing _).toItem, nofun⟩
  have hpage : (nav'.shown model content highlighted).targetPage = page := hpursues.page_eq
  have hlabelled : (nav'.shown model content highlighted).itemLabel = label := hpursues.label_eq
  cases outcome_of_pageUpdate hsyncing hanswers with
  | answers hkept hselect =>
    refine .inr ⟨hkept.toItem.trans hunselected, fun hkey => ?_⟩
    rw [← hpage]
    exact hselect hkey
  | selects hkept hthere _ hrow hselect =>
    cases hselect
    refine .inl ⟨rfl, rfl, hthere.trans hpage, ?_⟩
    by_cases hlabel : label = []
    · unfold IsItemRow
      rw [if_pos hlabel]
      have hline := ((hpursues.seeksLine hlabel).of_pageUpdate hanswers).resolve_left
        fun hseeks => absurd hseeks.toItem (by simp)
      exact hline.2
    · refine isItemRow_of_findLineByLabel hlabel ?_
      unfold OnItem at hrow
      rw [hlabelled] at hrow
      rw [show Navigator.cursorLine _ = _ from hkept.cursor]
      exact hrow hlabel
  | arrives hkept =>
    exact .inr ⟨hkept.toItem.trans hunselected, nofun⟩

end

end Navigator

/-! ## Without a label, and without a highlight -/

/-- A menu with a list of equipment, and a page that leads to it. -/
def equipmentModel : MenuModel where
  pages :=
    [{ id := .equipmentOnOff
       detectors := [{ line := 0, pattern := ['E', 'q', 'u', 'i', 'p'] }]
       edges := [{ trigger := .back, source := .equipmentOnOff, target := .oneTouch }] },
     { id := .oneTouch
       detectors := [{ line := 0, pattern := ['O', 'n', 'e'] }]
       edges := [{ trigger := .select, source := .oneTouch, target := .equipmentOnOff }] }]

def equipmentScreen : ScreenDataPage where
  rows := [{ text := ['E', 'q', 'u', 'i', 'p'] }, { text := ['S', 'p', 'a'] }]

def oneTouchScreen : ScreenDataPage where
  rows := [{ text := ['O', 'n', 'e'] }]

def towardsEquipment (line : UInt8) (label : Text) : Navigator :=
  ({} : Navigator).navigateToItem .equipmentOnOff line label .menuHelp

/-- The item is found on the list. -/
theorem item_selected_on_row_spa : ∃ answer,
    Answers equipmentModel (towardsEquipment 0 ['S', 'p', 'a']) (.pageUpdate equipmentScreen 1)
      answer ∧
    (Navigator.SelectsItem equipmentModel (towardsEquipment 0 ['S', 'p', 'a']) .equipmentOnOff 0
        ['S', 'p', 'a'] equipmentScreen
        (Navigator.highlightAfter 0 (.pageUpdate equipmentScreen 1)) answer ∨
      Navigator.StaysUnselected equipmentModel (towardsEquipment 0 ['S', 'p', 'a'])
        .equipmentOnOff equipmentScreen answer) := by
  obtain ⟨answer, hrespond⟩ : ∃ answer,
      respond equipmentModel 6 (towardsEquipment 0 ['S', 'p', 'a'])
        (.pageUpdate equipmentScreen 1) = some answer :=
    Option.isSome_iff_exists.mp (by decide)
  have hanswers := Answers.of_respond hrespond
  exact ⟨answer, hanswers, @Navigator.item_selected_on_row equipmentModel {}
    (towardsEquipment 0 ['S', 'p', 'a']) equipmentScreen 0 .equipmentOnOff ['S', 'p', 'a']
    .menuHelp [] (.nil _) (nofun) rfl 1 answer hanswers⟩

/-- The item with that label is selected only while its row is highlighted; otherwise the answer
is a wait, a cursor key, a paging key or a way back. -/
def SelectsHighlightedRow (model : MenuModel) (label : Text) : Prop :=
  ∀ (nav nav' : Navigator) (page selectTarget : PageId) (line highlighted : UInt8)
    (events : List NavigatorEvent) (content : ScreenDataPage) (answer : Answer),
    Reachable model nav →
    Course model (nav.navigateToItem page line label selectTarget) events nav' →
    (∀ event ∈ events, ¬ event.SetsGoal) → nav'.navigatingToItem = true →
    Answers model nav' (.pageUpdate content highlighted) answer → answer.2 = some .select →
    ∃ number row, content.rows[number]? = some row ∧ row.matchesLabel label = true ∧
      highlighted = UInt8.ofNat number

theorem not_selectsHighlightedRow {model : MenuModel} {label : Text} {page selectTarget : PageId}
    {line highlighted : UInt8} {content : ScreenDataPage} {fuel : ℕ}
    (hselects : (respond model fuel (({} : Navigator).navigateToItem page line label selectTarget)
      (.pageUpdate content highlighted)).map Prod.snd = some (some .select))
    (hrows : ∀ number row, content.rows[number]? = some row → row.matchesLabel label →
      highlighted ≠ UInt8.ofNat number) : ¬ SelectsHighlightedRow model label := by
  intro h
  obtain ⟨answer, hrespond, hkey⟩ := Option.map_eq_some_iff.mp hselects
  obtain ⟨number, row, hrow, hmatches, heq⟩ := h {} _ page selectTarget line highlighted [] content
    answer .start (.nil _) (nofun) rfl
    (.of_respond hrespond) hkey
  exact hrows number row hrow hmatches heq

theorem equipmentScreen_rows {number : ℕ} {row : ScreenRow}
    (hrow : equipmentScreen.rows[number]? = some row) :
    number = 0 ∧ row = { text := ['E', 'q', 'u', 'i', 'p'] } ∨
      number = 1 ∧ row = { text := ['S', 'p', 'a'] } := by
  match number with
  | 0 => exact .inl ⟨rfl, (Option.some_inj.mp hrow).symm⟩
  | 1 => exact .inr ⟨rfl, (Option.some_inj.mp hrow).symm⟩
  | number + 2 => cases hrow

/-- Without a label an item is selected on its fixed line.  With one it is selected where the
cursor was left, though no line is highlighted; and on another page a Select follows the path. -/
theorem not_selects_only_highlighted :
    ¬ SelectsHighlightedRow equipmentModel [] ∧
      ¬ SelectsHighlightedRow equipmentModel ['E', 'q', 'u', 'i', 'p'] ∧
      ¬ SelectsHighlightedRow equipmentModel ['S', 'p', 'a'] := by
  refine ⟨?_, ?_, ?_⟩
  · refine @not_selectsHighlightedRow equipmentModel [] .equipmentOnOff .menuHelp 1 1
      equipmentScreen 6 (by decide) fun number row hrow hmatches => ?_
    rcases equipmentScreen_rows hrow with ⟨-, rfl⟩ | ⟨-, rfl⟩ <;> exact absurd hmatches (by decide)
  · refine @not_selectsHighlightedRow equipmentModel _ .equipmentOnOff .menuHelp 0 cursorLineNone
      equipmentScreen 6 (by decide) fun number row hrow _ => ?_
    rcases equipmentScreen_rows hrow with ⟨rfl, -⟩ | ⟨rfl, -⟩ <;> decide
  · refine @not_selectsHighlightedRow equipmentModel _ .equipmentOnOff .menuHelp 1 0
      oneTouchScreen 6 (by decide) fun number row hrow hmatches => ?_
    match number with
    | 0 =>
      cases hrow
      exact absurd hmatches (by decide)
    | number + 1 => cases hrow

end AqualinkAutomate.Navigation
