import Aqualink.Navigation.Navigator

/-!
# What a pass can do

While the navigator answers a screen, its functions call each other, and what most of them
change is how it gets on: its state, its path, its counters.  Its way stays the same: the page
that it is on, the page and the item it is bound for, and the screen.

So a pass has one of four outcomes.  The navigator goes on or it answers, both on the same way;
it selects the item; or it has arrived.  `outcome_step` says which of them a call has, and when.
The invariants of an answer are read off it.
-/

namespace AqualinkAutomate.Navigation

open General

structure Way where
  page : PageId
  target : PageId
  toItem : Bool
  selectTarget : PageId
  label : Text
  content : Option ScreenDataPage
  cursor : UInt8

namespace NavigatorState

def InPursuit : NavigatorState → Prop
  | .navigating | .waitingForPage | .movingCursor | .enteringPassword | .reorienting
  | .failed => True
  | .idle | .syncing | .atDestination => False

variable {state : NavigatorState}

theorem InPursuit.away (h : state.InPursuit) : state ≠ .atDestination := by
  rintro rfl
  exact h

theorem InPursuit.synced (h : state.InPursuit) : state ≠ .syncing := by
  rintro rfl
  exact h

end NavigatorState

namespace Navigator

variable {model : MenuModel} {nav nav' nav'' : Navigator} {state : NavigatorState}

def way (nav : Navigator) : Way where
  page := nav.currentPage
  target := nav.targetPage
  toItem := nav.navigatingToItem
  selectTarget := nav.selectTarget
  label := nav.itemLabel
  content := nav.currentContent
  cursor := nav.cursorLine

/-- The navigator stays on its way, and does not arrive. -/
structure Kept (nav nav' : Navigator) : Prop where
  way : nav'.way = nav.way
  state : nav'.state = nav.state ∨ nav'.state.InPursuit

namespace Kept

theorem of_pursuit (hway : nav'.way = nav.way) (hstate : nav'.state.InPursuit) : nav.Kept nav' :=
  ⟨hway, .inr hstate⟩

section

variable (h : nav.Kept nav')

include h

theorem trans (h' : nav'.Kept nav'') : nav.Kept nav'' := by
  refine ⟨h'.way.trans h.way, ?_⟩
  rcases h'.state with hsame | hpursuit
  · rw [hsame]
    exact h.state
  · exact .inr hpursuit

theorem away (haway : nav.state ≠ .atDestination) : nav'.state ≠ .atDestination := by
  rcases h.state with hsame | hpursuit
  · rwa [hsame]
  · exact hpursuit.away

theorem synced (hsynced : nav.state ≠ .syncing) : nav'.state ≠ .syncing := by
  rcases h.state with hsame | hpursuit
  · rwa [hsame]
  · exact hpursuit.synced

theorem page : nav'.currentPage = nav.currentPage := congrArg Way.page h.way

theorem target : nav'.targetPage = nav.targetPage :=
  congrArg Way.target h.way

theorem toItem : nav'.navigatingToItem = nav.navigatingToItem :=
  congrArg Way.toItem h.way

theorem selectTarget : nav'.selectTarget = nav.selectTarget :=
  congrArg Way.selectTarget h.way

theorem label : nav'.itemLabel = nav.itemLabel := congrArg Way.label h.way

theorem content : nav'.currentContent = nav.currentContent :=
  congrArg Way.content h.way

theorem cursor : nav'.cursorLine = nav.cursorLine :=
  congrArg Way.cursor h.way

end

end Kept

/-- A Select that does not select an item: it follows an edge on the way to the target, or
leaves a page that has no Back key. -/
def SelectsElsewhere (model : MenuModel) (nav : Navigator) : Prop :=
  nav.currentPage ≠ nav.targetPage ∨
    ∃ page, model.getPage nav.currentPage = some page ∧ page.supportsKey .back = false

def OnItem (nav : Navigator) : Prop :=
  nav.itemLabel ≠ [] → nav.findLineByLabel nav.itemLabel = some nav.cursorLine

/-- The navigator goes on, on its way.  The screen itself is only taken over once. -/
def StaysOn (nav : Navigator) : Call × Navigator → Prop
  | (.onPageUpdate _ _, _) => False
  | (.handleWaitingForPage, nav') | (.executeNextStep, nav') | (.moveCursorToTarget, nav')
  | (.recoveryNext, nav') => nav.Kept nav'

variable {s : Call × Navigator}

theorem StaysOn.of_kept (h : nav.Kept nav') (hgoes : nav'.StaysOn s) : nav.StaysOn s := by
  obtain ⟨call, nav''⟩ := s
  cases call with
  | onPageUpdate content line => exact hgoes
  | handleWaitingForPage | executeNextStep | moveCursorToTarget | recoveryNext =>
    exact h.trans hgoes

/-- What a pass can do. -/
inductive Outcome (model : MenuModel) (nav : Navigator) : Step → Prop where
  | goesOn {s : Call × Navigator} (h : nav.StaysOn s) : Outcome model nav (.again s)
  | answers {key : Option NavKeyCommand} {nav' : Navigator} (h : nav.Kept nav')
      (hselect : key = some .select → nav.SelectsElsewhere model) :
      Outcome model nav (.done (nav', key))
  | selects {nav' : Navigator} {answer : Answer} (h : nav.Kept nav')
      (hthere : nav.currentPage = nav.targetPage) (hitem : nav.navigatingToItem = true)
      (hrow : nav.OnItem) (hselect : nav'.selectItem = .done answer) :
      Outcome model nav (.done answer)
  | arrives {nav' : Navigator} (h : nav.Kept nav') (hthere : nav.currentPage = nav.targetPage)
      (hnone : nav.navigatingToItem = true → nav.selectTarget = .unknown) :
      Outcome model nav (.done ({ nav' with state := .atDestination }, none))

namespace Outcome

theorem of_kept (h : nav.Kept nav') {pass : Step} (houtcome : Outcome model nav' pass) :
    Outcome model nav pass := by
  have hthere : nav'.currentPage = nav'.targetPage → nav.currentPage = nav.targetPage := by
    rw [h.page, h.target]
    exact id
  cases houtcome with
  | goesOn hgoes => exact .goesOn (hgoes.of_kept h)
  | answers hkept hselect =>
    refine .answers (h.trans hkept) fun hkey => ?_
    have helsewhere := hselect hkey
    unfold SelectsElsewhere at helsewhere
    rwa [h.page, h.target] at helsewhere
  | selects hkept hat hitem hrow hselect =>
    refine .selects (h.trans hkept) (hthere hat) (h.toItem ▸ hitem) ?_ hselect
    unfold OnItem findLineByLabel at hrow
    rwa [h.label, h.content, h.cursor] at hrow
  | arrives hkept hat hnone =>
    refine .arrives (h.trans hkept) (hthere hat) ?_
    rwa [h.toItem, h.selectTarget] at hnone

theorem quiet {key : Option NavKeyCommand} (h : nav.Kept nav') (hkey : key ≠ some .select) :
    Outcome model nav (.done (nav', key)) :=
  .answers h fun hselect => absurd hselect hkey

theorem stops (h : nav.Kept nav') : Outcome model nav nav'.stop :=
  .quiet h (Option.some_ne_none _).symm

end Outcome

/-! ## Recovery -/

theorem Kept.initiateRecovery (h : nav.Kept nav') : nav.Kept nav'.initiateRecovery := by
  unfold Navigator.initiateRecovery
  dsimp only
  split_ifs
  · exact .of_pursuit h.way trivial
  · exact .of_pursuit h.way trivial

theorem outcome_selectSystemLink {page : MenuPage}
    (hpage : model.getPage nav.currentPage = some page) (hback : page.supportsKey .back = false) :
    Outcome model nav (nav.selectSystemLink page) := by
  unfold selectSystemLink
  split
  · exact .stops (.of_pursuit rfl trivial)
  · dsimp only
    split_ifs
    · exact .goesOn (Kept.of_pursuit rfl trivial)
    · exact .answers ⟨rfl, .inl rfl⟩ fun _ => .inr ⟨page, hpage, hback⟩

theorem outcome_recoveryNext (model : MenuModel) (nav : Navigator) :
    Outcome model nav (nav.recoveryNext model) := by
  unfold recoveryNext
  by_cases hpending : 0 < nav.pendingStatusMessages
  · rw [if_pos hpending]
    exact .stops ⟨rfl, .inl rfl⟩
  rw [if_neg hpending]
  by_cases hblocking : isBlockingPage nav.currentPage
  · rw [if_pos hblocking]
    exact .stops (.of_pursuit rfl trivial)
  rw [if_neg hblocking]
  by_cases hhome : nav.currentPage = .system
  · rw [if_pos hhome]
    exact .goesOn (Kept.of_pursuit rfl trivial)
  rw [if_neg hhome]
  split
  · next page hpage =>
      obtain ⟨hpage, hback⟩ := Option.filter_eq_some_iff.mp hpage
      exact outcome_selectSystemLink hpage ((Bool.not_eq_true' _).mp hback)
  · dsimp only
    split_ifs
    · exact .stops (.of_pursuit rfl trivial)
    · exact .quiet ⟨rfl, .inl rfl⟩ (by decide)
    · exact .quiet ⟨rfl, .inl rfl⟩ (by decide)

/-! ## Steps along the path -/

theorem kept_computePath (model : MenuModel) (nav : Navigator) :
    nav.Kept (nav.computePath model) := by
  unfold computePath
  split_ifs
  · exact Kept.initiateRecovery ⟨rfl, .inl rfl⟩
  · dsimp only
    split_ifs
    · exact Kept.initiateRecovery ⟨rfl, .inl rfl⟩
    · exact ⟨rfl, .inl rfl⟩

variable {line : UInt8}

theorem outcome_reachItem (hthere : nav.currentPage = nav.targetPage)
    (hitem : nav.navigatingToItem)
    (hline : nav.itemLabel ≠ [] → nav.findLineByLabel nav.itemLabel = some line) :
    Outcome model nav (nav.reachItem line) := by
  unfold reachItem
  dsimp only
  split_ifs with hcursor hselects
  · exact .goesOn (Kept.of_pursuit rfl trivial)
  · have hat : nav.cursorLine = line := not_not.mp hcursor
    have hkept : nav.Kept { nav with targetCursorLine := line } := ⟨rfl, .inl rfl⟩
    refine .selects hkept hthere hitem (fun hlabel => ?_) rfl
    rw [hline hlabel, hat]
  · have hkept : nav.Kept { nav with targetCursorLine := line } := ⟨rfl, .inl rfl⟩
    exact .arrives hkept hthere fun _ => not_not.mp hselects

/-- The one place where the navigator arrives, if it has no item to select. -/
theorem outcome_reachTarget (hthere : nav.currentPage = nav.targetPage) :
    Outcome model nav (nav.reachTarget model) := by
  unfold reachTarget
  split_ifs with hitem hlabel
  · exact outcome_reachItem hthere hitem fun hne => absurd hlabel hne
  · split
    · next line hline => exact outcome_reachItem hthere hitem fun _ => hline
    · unfold scrollToItem
      split_ifs
      · exact .quiet (.of_pursuit rfl trivial) (by decide)
      · exact .stops (.of_pursuit rfl trivial)
  · exact .arrives ⟨rfl, .inl rfl⟩ hthere fun h => absurd h hitem

theorem outcome_followPath (model : MenuModel) (nav : Navigator) :
    Outcome model nav (nav.followPath model) := by
  unfold followPath
  split_ifs with hthere
  · exact outcome_reachTarget hthere
  · split
    · exact .goesOn (Kept.mk rfl (.inl rfl))
    · unfold executeEdge
      split_ifs
      · exact .goesOn (Kept.of_pursuit rfl trivial)
      · exact .answers (.of_pursuit rfl trivial) fun _ => .inl hthere

theorem outcome_executeNextStep (model : MenuModel) (nav : Navigator) :
    Outcome model nav (nav.executeNextStep model) := by
  unfold executeNextStep
  split_ifs
  · dsimp only
    split_ifs
    · exact .goesOn (nav.kept_computePath model)
    · exact .of_kept (nav.kept_computePath model) (outcome_followPath model _)
  · exact outcome_followPath model nav

/-! ## Moving the cursor -/

theorem Kept.outcome_pressCursorKey (h : nav.Kept nav') :
    Outcome model nav nav'.pressCursorKey := by
  refine .quiet ⟨h.way, h.state⟩ ?_
  split <;> decide

theorem Kept.outcome_acceptCursorLine (h : nav.Kept nav') :
    Outcome model nav nav'.acceptCursorLine :=
  .goesOn (Kept.of_pursuit h.way trivial)

theorem Kept.outcome_keepMoving (h : nav.Kept nav') : Outcome model nav nav'.keepMoving := by
  unfold keepMoving
  split_ifs
  · exact .stops (.of_pursuit h.way trivial)
  · exact Kept.outcome_acceptCursorLine ⟨h.way, h.state⟩
  · exact Kept.outcome_pressCursorKey ⟨h.way, h.state⟩
  · exact Kept.outcome_pressCursorKey ⟨h.way, h.state⟩

theorem outcome_moveCursorToTarget (nav : Navigator) :
    Outcome model nav nav.moveCursorToTarget := by
  unfold moveCursorToTarget
  split_ifs
  · exact .goesOn (Kept.of_pursuit rfl trivial)
  · exact .stops ⟨rfl, .inl rfl⟩
  · split
    · unfold giveUpCursorMove
      split_ifs
      · exact .stops (.of_pursuit rfl trivial)
      · exact Kept.outcome_acceptCursorLine ⟨rfl, .inl rfl⟩
    · split_ifs
      · exact .goesOn (Kept.of_pursuit rfl trivial)
      · exact Kept.outcome_keepMoving ⟨rfl, .inl rfl⟩
  · exact Kept.outcome_keepMoving ⟨rfl, .inl rfl⟩

/-! ## Waiting for a page -/

theorem kept_handleTransientPage (model : MenuModel) (nav : Navigator) :
    nav.Kept (nav.handleTransientPage model nav.currentPage).1 := by
  unfold handleTransientPage
  split_ifs
  · exact ⟨rfl, .inl rfl⟩
  · dsimp only
    split_ifs
    · exact .of_pursuit rfl trivial
    · exact ⟨rfl, .inl rfl⟩

theorem Kept.detectStuckRecompute (h : nav.Kept nav') (actual : PageId) :
    nav.Kept (nav'.detectStuckRecompute actual).1 := by
  unfold Navigator.detectStuckRecompute
  split_ifs
  · exact .of_pursuit h.way trivial
  · exact ⟨h.way, h.state⟩
  · exact ⟨h.way, h.state⟩

section

variable (model : MenuModel) (nav : Navigator)

theorem kept_recomputePath : nav.Kept (nav.recomputePath model nav.currentPage) := by
  unfold recomputePath
  split_ifs
  · exact Kept.initiateRecovery ⟨rfl, .inl rfl⟩
  · dsimp only
    split_ifs
    · exact Kept.initiateRecovery ⟨rfl, .inl rfl⟩
    · exact .of_pursuit rfl trivial

theorem kept_recompute : nav.Kept (nav.recompute model nav.currentPage) := by
  have hcounted : nav.Kept { nav with recomputeCount := nav.recomputeCount + 1 } := ⟨rfl, .inl rfl⟩
  have hstuck := hcounted.detectStuckRecompute nav.currentPage
  unfold recompute
  split
  next hresult =>
    rwa [hresult] at hstuck
  next next hresult =>
    rw [hresult] at hstuck
    split_ifs
    · exact hstuck.trans (.of_pursuit rfl trivial)
    · rw [← hstuck.page]
      exact hstuck.trans (next.kept_recomputePath model)

theorem kept_handleUnexpectedPage : nav.Kept (nav.handleUnexpectedPage model nav.currentPage) := by
  have htransient := nav.kept_handleTransientPage model
  unfold handleUnexpectedPage
  split
  next hresult =>
    rwa [hresult] at htransient
  next next hresult =>
    rw [hresult] at htransient
    rw [← htransient.page]
    exact htransient.trans (next.kept_recompute model)

theorem outcome_handleWaitingForPage : Outcome model nav (nav.handleWaitingForPage model) := by
  unfold handleWaitingForPage
  split_ifs
  · exact .stops ⟨rfl, .inl rfl⟩
  · have hunexpected := nav.kept_handleUnexpectedPage model
    dsimp only
    split
    · exact .goesOn hunexpected
    · exact .goesOn hunexpected
    · exact .stops hunexpected
  · exact .goesOn (Kept.of_pursuit rfl trivial)

end

/-! ## A screen update -/

theorem Kept.outcome_dispatch (h : nav.Kept nav') : Outcome model nav nav'.dispatch := by
  unfold dispatch
  split
  · exact .goesOn h
  · exact .goesOn h
  · exact .goesOn h
  · exact .goesOn h
  · exact .quiet (.of_pursuit h.way trivial) (by decide)
  · exact .stops h
  · exact .stops h
  · exact .stops h
  · exact .stops h

theorem outcome_awaitAnswer (nav : Navigator) : Outcome model nav nav.awaitAnswer := by
  unfold awaitAnswer
  split_ifs
  · exact .goesOn (Kept.initiateRecovery ⟨rfl, .inl rfl⟩)
  · exact Kept.outcome_dispatch ⟨rfl, .inl rfl⟩
  · exact Kept.outcome_dispatch ⟨rfl, .inl rfl⟩

def shown (model : MenuModel) (nav : Navigator) (content : ScreenDataPage) (line : UInt8) :
    Navigator :=
  (nav.receiveScreen content line).receivePage (model.detectPage content)

theorem outcome_onPageUpdate (hsyncing : nav.state ≠ .syncing) (content : ScreenDataPage)
    (line : UInt8) :
    Outcome model (nav.shown model content line) (nav.onPageUpdate model content line) := by
  unfold onPageUpdate shown
  dsimp only
  rw [if_neg (show ¬ (nav.receiveScreen content line).state = .syncing from hsyncing)]
  split_ifs
  · unfold handleSpecialPage
    split_ifs
    · exact .stops (.of_pursuit rfl trivial)
    · exact .stops ⟨rfl, .inl rfl⟩
  · exact .quiet ⟨rfl, .inl rfl⟩ (by decide)
  · exact outcome_awaitAnswer _

theorem outcome_of_staysOn (h : nav.StaysOn s) : Outcome model nav (step model s) := by
  obtain ⟨call, nav'⟩ := s
  cases call with
  | onPageUpdate content line => exact absurd h id
  | handleWaitingForPage => exact .of_kept h (outcome_handleWaitingForPage model nav')
  | executeNextStep => exact .of_kept h (outcome_executeNextStep model nav')
  | moveCursorToTarget => exact .of_kept h (outcome_moveCursorToTarget nav')
  | recoveryNext => exact .of_kept h (outcome_recoveryNext model nav')

theorem Outcome.holds {pass : Step} (h : Outcome model nav pass) :
    pass.Holds nav.StaysOn fun answer => Outcome model nav (.done answer) := by
  cases h with
  | goesOn hgoes => exact hgoes
  | answers hkept hselect => exact .answers hkept hselect
  | selects hkept hthere hitem hrow hselect => exact .selects hkept hthere hitem hrow hselect
  | arrives hkept hthere hnone => exact .arrives hkept hthere hnone

variable {content : ScreenDataPage}

theorem outcome_of_pageUpdate (hsyncing : nav.state ≠ .syncing) {answer : Answer}
    (hanswers : Answers model nav (.pageUpdate content line) answer) :
    Outcome model (nav.shown model content line) (.done answer) :=
  Returns.of_holds (nav.shown model content line).StaysOn
    (fun answer => Outcome model (nav.shown model content line) (.done answer))
    (fun _ h => (outcome_of_staysOn h).holds) (outcome_onPageUpdate hsyncing content line).holds
    hanswers

theorem answers_of_syncing (hsyncing : nav.state = .syncing) {answer : Answer}
    (hanswers : Answers model nav (.pageUpdate content line) answer) :
    answer.1 = (nav.receiveScreen content line).handleSyncing (model.detectPage content) := by
  have hpass : step model (.onPageUpdate content line, nav) =
      ((nav.receiveScreen content line).handleSyncing (model.detectPage content)).stop :=
    if_pos hsyncing
  rw [Returns.unique hanswers (returns_of_done hpass)]

end Navigator

end AqualinkAutomate.Navigation
