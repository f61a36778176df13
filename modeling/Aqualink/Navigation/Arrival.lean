import Aqualink.Navigation.Passes
import Aqualink.Navigation.Rest

/-!
# Where a navigator arrives

A navigation to a page, or through an item of one page to the page behind it, ends at its
destination only on that page: the navigator compares the target with the page that it
takes the screen for, and that does not change while it answers.  While the item is still to
be selected, it does not arrive at all.
-/

namespace AqualinkAutomate.Navigation

open General

namespace Navigator

variable {model : MenuModel} {nav nav' : Navigator} {target page : PageId} {item : Bool}

def Heading (target : PageId) (nav : Navigator) : Prop :=
  nav.navigatingToItem = false ∧ nav.targetPage = target ∨
    nav.navigatingToItem = true ∧ nav.selectTarget = target

structure Answered (target page : PageId) (item : Bool) (nav : Navigator) : Prop where
  current : nav.currentPage = page
  heading : nav.Heading target
  arrived : nav.state = .atDestination → item = false ∧ page = target

theorem Heading.of_kept (h : nav.Heading target) (hkept : nav.Kept nav') : nav'.Heading target := by
  unfold Heading at h ⊢
  rwa [hkept.toItem, hkept.target, hkept.selectTarget]

variable {content : ScreenDataPage}

theorem answered_of_pageUpdate (htarget : target ≠ .unknown) (hheading : nav.Heading target)
    (haway : nav.state ≠ .atDestination) (hsyncing : nav.state ≠ .syncing) {line : UInt8}
    {answer : Answer} (hanswers : Answers model nav (.pageUpdate content line) answer) :
    answer.1.Answered target (nav.pageOn model content) nav.navigatingToItem := by
  have hshown : (nav.shown model content line).Heading target := hheading
  cases outcome_of_pageUpdate hsyncing hanswers with
  | answers hkept =>
    exact ⟨hkept.page, hshown.of_kept hkept, fun harrived => absurd harrived (hkept.away haway)⟩
  | selects hkept hthere hitem hrow hselect =>
    -- the page behind the item is the target from now on
    cases hselect
    refine ⟨hkept.page, .inl ⟨rfl, ?_⟩, fun harrived => NavigatorState.noConfusion harrived⟩
    rcases hshown.of_kept hkept with ⟨hnone, -⟩ | ⟨-, hselect⟩
    · rw [hkept.toItem, hitem] at hnone
      cases hnone
    · exact hselect
  | arrives hkept hthere hnone =>
    have hreached := hshown.of_kept hkept
    refine ⟨hkept.page, hreached, fun _ => ?_⟩
    rcases hshown with ⟨hitem, hpage⟩ | ⟨hitem, hselect⟩
    · exact ⟨hitem, hthere.trans hpage⟩
    · exact absurd (hselect.symm.trans (hnone hitem)) htarget

def IsComplete (nav : Navigator) : Prop := nav.state = .atDestination ∨ nav.state = .failed

theorem handleSyncing_cases (nav : Navigator) (detected : PageId) :
    (nav.handleSyncing detected).currentPage = nav.currentPage ∧
        (nav.handleSyncing detected).state = nav.state ∨
      (nav.handleSyncing detected).currentPage = detected ∧
        (nav.handleSyncing detected).state = .idle ∧ detected ≠ .unknown := by
  unfold handleSyncing
  dsimp only
  split_ifs with hunknown hsame henough henough
  · exact .inl ⟨rfl, rfl⟩
  · exact .inr ⟨hsame.symm, rfl, fun h => hunknown (.inl h)⟩
  · exact .inl ⟨rfl, rfl⟩
  · exact .inr ⟨rfl, rfl, fun h => hunknown (.inl h)⟩
  · exact .inl ⟨rfl, rfl⟩

theorem heading_handleSyncing (h : nav.Heading target) (detected : PageId) :
    (nav.handleSyncing detected).Heading target := by
  unfold handleSyncing
  dsimp only
  split_ifs <;> exact h

/-- **Arrival.**  A navigator that is on its way stays on its way to the same target.  It
arrives only if it takes the screen for the target, and not before an item was selected;
and where it ends, it is on the page that it takes the screen for. -/
theorem arrival_of_pageUpdate (htarget : target ≠ .unknown) (hheading : nav.Heading target)
    (haway : nav.state ≠ .atDestination) {line : UInt8} {answer : Answer}
    (hanswers : Answers model nav (.pageUpdate content line) answer) :
    answer.1.Heading target ∧
      (answer.1.state = .atDestination →
        nav.navigatingToItem = false ∧ nav.pageOn model content = target) ∧
      (answer.1.IsComplete → answer.1.currentPage = nav.pageOn model content) := by
  by_cases hsyncing : nav.state = .syncing
  · rw [answers_of_syncing hsyncing hanswers]
    have hreceived : (nav.receiveScreen content line).Heading target := hheading
    refine ⟨heading_handleSyncing hreceived _, ?_, ?_⟩
    all_goals
      rcases handleSyncing_cases (nav.receiveScreen content line) (model.detectPage content) with
        ⟨-, hstate⟩ | ⟨-, hstate, -⟩
    · intro harrived
      rw [hstate] at harrived
      exact absurd harrived haway
    · intro harrived
      rw [hstate] at harrived
      cases harrived
    · intro hcomplete
      rw [IsComplete, hstate, show (nav.receiveScreen content line).state = .syncing from
        hsyncing] at hcomplete
      rcases hcomplete with hcomplete | hcomplete <;> cases hcomplete
    · intro hcomplete
      rw [IsComplete, hstate] at hcomplete
      rcases hcomplete with hcomplete | hcomplete <;> cases hcomplete
  · have hanswered := answered_of_pageUpdate htarget hheading haway hsyncing hanswers
    exact ⟨hanswered.heading, hanswered.arrived, fun _ => hanswered.current⟩

/-! ## Waiting for the controller -/

def AwaitsStatus (nav : Navigator) : Prop :=
  0 < nav.pendingStatusMessages ∧ (nav.state = .waitingForPage ∨ nav.state = .reorienting)

instance (nav : Navigator) : Decidable nav.AwaitsStatus := inferInstanceAs (Decidable (_ ∧ _))

theorem AwaitsStatus.away (h : nav.AwaitsStatus) : nav.state ≠ .atDestination := by
  intro harrived
  rcases h.2 with hstate | hstate <;> rw [harrived] at hstate <;> cases hstate

/-- The navigator waits for as many messages as before, or for a page of its own accord, unless
it has given up. -/
def StillAwaits (pending : UInt32) (nav : Navigator) : Prop :=
  nav.state = .failed ∨
    nav.AwaitsStatus ∧ (nav.pendingStatusMessages = pending ∨ nav.pendingStatusMessages = 2)

theorem StillAwaits.away {pending : UInt32} (h : nav.StillAwaits pending) :
    nav.state ≠ .atDestination := by
  rcases h with hfailed | ⟨hawaits, -⟩
  · rw [hfailed]
    exact NavigatorState.noConfusion
  · exact hawaits.away

/-- The calls that stop as long as messages are pending. -/
def Stalls (pending : UInt32) : Call × Navigator → Prop
  | (.handleWaitingForPage, nav) | (.recoveryNext, nav) =>
    0 < nav.pendingStatusMessages ∧ nav.StillAwaits pending
  | (.onPageUpdate _ _, _) | (.executeNextStep, _) | (.moveCursorToTarget, _) => False

def AnswersWaiting (pending : UInt32) (page : PageId) (answer : Answer) : Prop :=
  answer.1.StillAwaits pending ∧ (page ≠ .enterPassword → answer.2 = none)

abbrev Stays (pending : UInt32) (page : PageId) : Step → Prop :=
  Pass.Holds (Stalls pending) (AnswersWaiting pending page)

variable {pending : UInt32}

theorem stays_step {s : Call × Navigator} (h : Stalls pending s) :
    Stays pending page (step model s) := by
  obtain ⟨call, nav⟩ := s
  cases call with
  | handleWaitingForPage =>
    show Stays pending page (nav.handleWaitingForPage model)
    rw [handleWaitingForPage, if_pos h.1]
    exact ⟨h.2, fun _ => rfl⟩
  | recoveryNext =>
    show Stays pending page (nav.recoveryNext model)
    rw [recoveryNext, if_pos h.1]
    exact ⟨h.2, fun _ => rfl⟩
  | onPageUpdate | executeNextStep | moveCursorToTarget => exact absurd h id

theorem stalls_initiateRecovery (hpending : 0 < nav.pendingStatusMessages) :
    Stalls nav.pendingStatusMessages (.recoveryNext, nav.initiateRecovery) := by
  unfold initiateRecovery
  dsimp only
  split_ifs
  · exact ⟨hpending, .inl rfl⟩
  · exact ⟨hpending, .inr ⟨⟨hpending, .inr rfl⟩, .inl rfl⟩⟩

section

variable (h : nav.AwaitsStatus)

include h

theorem AwaitsStatus.stays_dispatch : Stays nav.pendingStatusMessages page nav.dispatch := by
  have hstalls : 0 < nav.pendingStatusMessages ∧ nav.StillAwaits nav.pendingStatusMessages :=
    ⟨h.1, .inr ⟨h, .inl rfl⟩⟩
  rcases h.2 with hstate | hstate
  · rwa [dispatch, hstate]
  · rwa [dispatch, hstate]

theorem AwaitsStatus.stays_awaitAnswer : Stays nav.pendingStatusMessages page nav.awaitAnswer := by
  have hcounted : ∀ count, ({ nav with waitCycleCount := count } : Navigator).AwaitsStatus :=
    fun _ => h
  unfold awaitAnswer
  split_ifs
  · exact stalls_initiateRecovery h.1
  · exact (hcounted _).stays_dispatch
  · exact (hcounted _).stays_dispatch

section

variable {line : UInt8} {answer : Answer}
  (hanswers : Answers model nav (.pageUpdate content line) answer)

include hanswers

theorem AwaitsStatus.answersWaiting :
    AnswersWaiting nav.pendingStatusMessages (nav.pageOn model content) answer := by
  have hsyncing : ¬ (nav.receiveScreen content line).state = .syncing := by
    intro hsync
    have hsync' : nav.state = .syncing := hsync
    rcases h.2 with hstate | hstate <;> rw [hsync'] at hstate <;> cases hstate
  have htwo : (0 : UInt32) < 2 := by decide
  have hfirst : Stays nav.pendingStatusMessages (nav.pageOn model content)
      (step model (.onPageUpdate content line, nav)) := by
    show Stays _ _ (nav.onPageUpdate model content line)
    unfold onPageUpdate
    dsimp only
    rw [if_neg hsyncing]
    split_ifs with hblocking hpassword
    · unfold handleSpecialPage
      split_ifs
      · exact ⟨.inl rfl, fun _ => rfl⟩
      · exact ⟨.inr ⟨⟨htwo, h.2⟩, .inr rfl⟩, fun _ => rfl⟩
    · exact ⟨.inr ⟨⟨htwo, h.2⟩, .inr rfl⟩, fun hother => absurd hpassword.1 hother⟩
    · exact AwaitsStatus.stays_awaitAnswer h
  exact Returns.of_holds _ _ (fun _ hs => stays_step hs) hfirst hanswers

theorem AwaitsStatus.not_arrived : answer.1.state ≠ .atDestination :=
  (h.answersWaiting hanswers).1.away

end

end

end Navigator

end AqualinkAutomate.Navigation
