import Aqualink.Navigation.Navigator

/-!
# A navigator at rest

A navigator that is idle, has arrived or has failed has nothing left to do.  It is still
told about every screen, and the branches of `OnPageUpdate` that come before the dispatch
on the state look at the page alone:

* the service and timeout pages change the state, or the messages to wait for, and press
  nothing;
* a password prompt is backed out of, whatever the state.

So until it gets another goal the navigator presses nothing, except for `Back` at a
password prompt (`keys_at_rest`).  A synchronisation in between presses nothing at all and
ends at rest again.
-/

namespace AqualinkAutomate.Navigation

open General

variable {model : MenuModel} {nav nav' : Navigator}

def NavigatorEvent.SetsGoal : NavigatorEvent → Prop
  | .navigateTo _ | .navigateToItem _ _ _ _ => True
  | .startSync | .reset | .statusMessage | .pageUpdate _ _ => False

/-- A run: the events are handled one after the other. -/
inductive Course (model : MenuModel) : Navigator → List NavigatorEvent → Navigator → Prop where
  | nil (nav : Navigator) : Course model nav [] nav
  | cons {nav nav' : Navigator} {event : NavigatorEvent} {events : List NavigatorEvent}
      {answer : Answer} (hanswers : Answers model nav event answer)
      (hrest : Course model answer.1 events nav') : Course model nav (event :: events) nav'

namespace Navigator

/-- Idle, arrived or failed. -/
def AtRest (nav : Navigator) : Prop :=
  nav.state = .idle ∨ nav.state = .atDestination ∨ nav.state = .failed

instance (nav : Navigator) : Decidable nav.AtRest := inferInstanceAs (Decidable (_ ∨ _))

/-- At rest, or on the way there through a synchronisation. -/
def WithoutGoal (nav : Navigator) : Prop := nav.AtRest ∨ nav.state = .syncing

/-- The page that the navigator takes a screen for: the one it recognises, or else the one
it was on. -/
def pageOn (model : MenuModel) (nav : Navigator) (content : ScreenDataPage) : PageId :=
  (nav.receivePage (model.detectPage content)).currentPage

def keyAtRest (model : MenuModel) (nav : Navigator) (content : ScreenDataPage) :
    Option NavKeyCommand :=
  if nav.state ≠ .syncing ∧ nav.pageOn model content = .enterPassword then some .back else none

/-! ## One event -/

theorem withoutGoal_handleSyncing (hsyncing : nav.state = .syncing) (detected : PageId) :
    (nav.handleSyncing detected).WithoutGoal := by
  -- the state only changes once the page was detected often enough
  have hstate : (nav.handleSyncing detected).state = .syncing ∨
      (nav.handleSyncing detected).state = .idle := by
    unfold handleSyncing
    dsimp only
    split_ifs <;> first | exact .inl hsyncing | exact .inr rfl
  rcases hstate with hstate | hstate
  · exact .inr hstate
  · exact .inl (.inl hstate)

theorem dispatch_at_rest (h : nav.AtRest) : nav.dispatch = nav.stop := by
  rcases h with h | h | h <;> rw [dispatch, h]

theorem awaitAnswer_at_rest (h : nav.AtRest) :
    nav.awaitAnswer = { nav with waitCycleCount := 0 }.stop := by
  have hwaiting : ¬ (nav.state = .waitingForPage ∧ 0 < nav.pendingStatusMessages) := by
    rintro ⟨hstate, -⟩
    rcases h with h | h | h <;> rw [h] at hstate <;> cases hstate
  rw [awaitAnswer, if_neg hwaiting]
  exact dispatch_at_rest (show AtRest { nav with waitCycleCount := 0 } from h)

section

variable (model : MenuModel) (h : nav.WithoutGoal) (content : ScreenDataPage) (line : UInt8)

include h

/-- Without a goal, a screen is answered in a single pass with `keyAtRest`, and leaves the
navigator without a goal. -/
theorem onPageUpdate_withoutGoal :
    ∃ nav', nav.onPageUpdate model content line = .done (nav', nav.keyAtRest model content) ∧
      nav'.WithoutGoal := by
  unfold onPageUpdate keyAtRest
  dsimp only
  by_cases hsyncing : nav.state = .syncing
  · rw [if_pos (show (nav.receiveScreen content line).state = .syncing from hsyncing),
      if_neg fun hprompt => hprompt.1 hsyncing]
    have hreceived : (nav.receiveScreen content line).state = .syncing := hsyncing
    exact ⟨_, rfl, withoutGoal_handleSyncing hreceived _⟩
  have hrest : nav.AtRest := h.resolve_right hsyncing
  rw [if_neg (show ¬ (nav.receiveScreen content line).state = .syncing from hsyncing)]
  have hpage :
      ((nav.receiveScreen content line).receivePage (model.detectPage content)).currentPage =
      nav.pageOn model content := rfl
  rw [hpage]
  by_cases hblocking : isBlockingPage (nav.pageOn model content)
  · rw [if_pos hblocking]
    have hprompt : nav.pageOn model content ≠ .enterPassword := by
      intro hpage
      rw [hpage] at hblocking
      cases hblocking
    rw [if_neg fun hboth => hprompt hboth.2]
    refine ⟨_, rfl, .inl ?_⟩
    unfold handleSpecialPage
    split_ifs
    · exact .inr (.inr rfl)
    · exact hrest
  rw [if_neg hblocking]
  by_cases hprompt : nav.pageOn model content = .enterPassword
  · have hentering : nav.state ≠ .enteringPassword := by
      intro hstate
      rcases hrest with h | h | h <;> rw [h] at hstate <;> cases hstate
    rw [if_pos ⟨hprompt, hentering⟩, if_pos ⟨hsyncing, hprompt⟩]
    exact ⟨_, rfl, .inl hrest⟩
  · rw [if_neg fun hboth => hprompt hboth.1, if_neg fun hboth => hprompt hboth.2]
    have hreceived : ((nav.receiveScreen content line).receivePage
        (model.detectPage content)).AtRest := hrest
    exact ⟨_, awaitAnswer_at_rest hreceived, .inl hrest⟩

theorem answers_pageUpdate_withoutGoal :
    ∃ nav', Answers model nav (.pageUpdate content line) (nav', nav.keyAtRest model content) ∧
      nav'.WithoutGoal := by
  obtain ⟨nav', hpass, hnav'⟩ := onPageUpdate_withoutGoal model h content line
  exact ⟨nav', returns_of_done hpass, hnav'⟩

end

theorem WithoutGoal.answer (h : nav.WithoutGoal) {event : NavigatorEvent}
    (hevent : ¬ event.SetsGoal) {answer : Answer} (hanswers : Answers model nav event answer) :
    answer.1.WithoutGoal := by
  cases event with
  | navigateTo target => exact absurd trivial hevent
  | navigateToItem page line label selectTarget => exact absurd trivial hevent
  | startSync =>
    obtain rfl := hanswers
    exact .inr rfl
  | reset =>
    obtain rfl := hanswers
    exact .inl (.inl rfl)
  | statusMessage =>
    obtain rfl := hanswers
    unfold onStatusMessageReceived
    split_ifs <;> exact h
  | pageUpdate content line =>
    obtain ⟨nav', hanswers', hnav'⟩ := answers_pageUpdate_withoutGoal model h content line
    rw [hanswers.unique hanswers']
    exact hnav'

/-! ## Runs -/

theorem WithoutGoal.course (h : nav.WithoutGoal) {events : List NavigatorEvent}
    (hcourse : Course model nav events nav') (hevents : ∀ event ∈ events, ¬ event.SetsGoal) :
    nav'.WithoutGoal := by
  induction hcourse with
  | nil nav => exact h
  | cons hanswers hrest ih =>
    obtain ⟨hevent, hevents⟩ := List.forall_mem_cons.mp hevents
    exact ih (h.answer hevent hanswers) hevents

/-- **The keys of a navigator at rest.**  Once it is idle, has arrived or has failed, and
until it gets another goal, every screen has an answer, and a key only at a password
prompt: `Back`, unless the navigator is synchronising. -/
theorem keys_at_rest {events : List NavigatorEvent} (hrest : nav.AtRest)
    (hcourse : Course model nav events nav') (hevents : ∀ event ∈ events, ¬ event.SetsGoal)
    (content : ScreenDataPage) (line : UInt8) :
    (∃ answer, Answers model nav' (.pageUpdate content line) answer) ∧
      ∀ answer, Answers model nav' (.pageUpdate content line) answer →
        answer.2 = nav'.keyAtRest model content := by
  have hnav' : nav'.WithoutGoal := WithoutGoal.course (.inl hrest) hcourse hevents
  obtain ⟨after, hanswers, -⟩ := answers_pageUpdate_withoutGoal model hnav' content line
  refine ⟨⟨_, hanswers⟩, fun answer hanswer => ?_⟩
  rw [hanswer.unique hanswers]

end Navigator

/-! ## A password prompt -/

def promptModel : MenuModel where
  pages :=
    [{ id := .enterPassword
       detectors := [{ line := 0, pattern := ['E', 'n', 't', 'e', 'r'] }]
       edges := [{ trigger := .back, source := .enterPassword, target := .menuHelp }] },
     { id := .menuHelp
       detectors := [{ line := 0, pattern := ['H', 'e', 'l', 'p'] }]
       edges := [] }]

def promptScreen : ScreenDataPage where
  rows := [{ text := ['E', 'n', 't', 'e', 'r', ' ', 'P', 'a', 's', 's', 'w', 'o', 'r', 'd'] }]

def helpScreen : ScreenDataPage where
  rows := [{ text := ['H', 'e', 'l', 'p'] }]

/-- A navigator that was sent to the help page, and has seen it. -/
def arrivedAtHelp : Navigator :=
  ((respond promptModel 2 (({} : Navigator).navigateTo .menuHelp).onStatusMessageReceived
    (.pageUpdate helpScreen 0)).map Prod.fst).getD {}

/-- It goes back when the prompt comes up. -/
theorem keys_at_rest_arrived :
    arrivedAtHelp.state = .atDestination ∧ ∀ answer,
      Answers promptModel arrivedAtHelp.onStatusMessageReceived (.pageUpdate promptScreen 0)
        answer → answer.2 = some .back := by
  have harrived : arrivedAtHelp.state = .atDestination := by decide
  refine ⟨harrived, fun answer hanswer => ?_⟩
  have h := @Navigator.keys_at_rest promptModel arrivedAtHelp _ [.statusMessage]
    (.inr (.inl harrived)) (.cons rfl (.nil _)) (by simp [NavigatorEvent.SetsGoal]) promptScreen 0
  exact (h.2 answer hanswer).trans (by decide)

/-- An idle navigator that is shown a password prompt presses a key. -/
theorem prompt_key_at_rest :
    ¬ ∀ (nav : Navigator) (answer : Answer), Reachable promptModel nav → nav.AtRest →
      Answers promptModel nav (.pageUpdate promptScreen 0) answer → answer.2 = none := by
  intro h
  have hanswer : (respond promptModel 1 {} (.pageUpdate promptScreen 0)).map Prod.snd =
      some (some .back) := by decide
  obtain ⟨answer, hrespond, hkey⟩ := Option.map_eq_some_iff.mp hanswer
  have hnone := h {} answer .start (.inl rfl) (.of_respond hrespond)
  rw [hkey] at hnone
  cases hnone

end AqualinkAutomate.Navigation
