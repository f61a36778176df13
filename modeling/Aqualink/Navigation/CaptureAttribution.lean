import Aqualink.Navigation.Arrival
import Aqualink.Navigation.CrawlAccount

/-!
# To which page a captured screen belongs

A screen is handed to the policy under the name of the target, and two things can come
between the two.  A target that the navigator is already on is captured from the next
screen, whatever that shows.  And a navigator that does not recognise a screen keeps the
page it was on, so it may arrive at a page that is no longer there.

`Watched` says of a step that neither happens.  In a run of such steps every capture is
one of the page that the screen shows (`captures_attributed`).
-/

namespace AqualinkAutomate.Navigation

open General List

/-- On a screen that it does not recognise, the navigator may take itself to be at its
destination. -/
def Navigator.ArrivesUnseen (nav : Navigator) : Prop :=
  nav.currentPage = nav.targetPage ∧ nav.navigatingToItem = false ∧ ¬ nav.AwaitsStatus

instance (nav : Navigator) : Decidable nav.ArrivesUnseen := inferInstanceAs (Decidable (_ ∧ _))

namespace SpiderEngine

variable {model : MenuModel} {engine engine' choosing : SpiderEngine} {content : ScreenDataPage}

/-- A page to be captured is still on the screen, and an arrival is seen.  The crawl is
alone with its navigator, which gets nothing else but the status messages. -/
def Watched (model : MenuModel) (engine : SpiderEngine) : Event → Prop
  | .startCrawl _ => True
  | .navigator event => event = .statusMessage
  | .processStep content _ =>
    (engine.state = .capturingPage →
        model.detectPage content = engine.navigator.currentPage) ∧
      (engine.state = .navigatingToNext → engine.navigator.ArrivesUnseen →
        model.detectPage content ≠ .unknown)

instance (event : Event) : Decidable (engine.Watched model event) :=
  match event with
  | .startCrawl _ => inferInstanceAs (Decidable True)
  | .navigator _ => inferInstanceAs (Decidable (_ = _))
  | .processStep _ _ => inferInstanceAs (Decidable (_ ∧ _))

inductive WatchedRun (model : MenuModel) : List Event → SpiderEngine → Prop where
  | nil : WatchedRun model [] {}
  | snoc {engine engine' : SpiderEngine} {events : List Event} {event : Event}
      (hrun : WatchedRun model events engine) (hwatched : engine.Watched model event)
      (hhandles : engine.Handles model event engine') :
      WatchedRun model (events ++ [event]) engine'

/-- Every screen that was handed to the policy shows the page under whose name it was. -/
def Attributed (model : MenuModel) (engine : SpiderEngine) : Prop :=
  ∀ page content, .pageReached page content ∈ engine.reports → model.detectPage content = page

/-- Between two events of a watched run. -/
structure Faithful (model : MenuModel) (engine : SpiderEngine) : Prop where
  attributed : engine.Attributed model
  syncing : engine.state = .syncing →
    engine.navigator.state = .syncing ∧ engine.navigator.currentPage = .unknown
  navigating : engine.state = .navigatingToNext → engine.currentTarget ≠ .unknown ∧
    engine.navigator.Heading engine.currentTarget ∧ engine.navigator.state ≠ .atDestination
  capturing : engine.state = .capturingPage →
    engine.navigator.currentPage = engine.currentTarget

/-- While a target is chosen: the navigator is on the page of the screen, if that shows
one. -/
structure Aware (model : MenuModel) (content : ScreenDataPage) (engine : SpiderEngine) : Prop where
  attributed : engine.Attributed model
  seen : engine.navigator.pageOn model content = engine.navigator.currentPage

theorem Attributed.of_entry {entry : CrawlReport} (h : engine.Attributed model)
    (hentry : ∀ page content, .pageReached page content ≠ entry)
    (hreports : engine'.reports = entry :: engine.reports) : engine'.Attributed model := by
  intro page content hreached
  rw [hreports] at hreached
  exact h page content ((List.mem_cons.mp hreached).resolve_left (hentry page content))

/-! ## A choice -/

/-- What the choice of a target leaves behind: nothing is claimed that the navigator, shown
the same screen, could arrive at. -/
theorem faithful_navigateToNextTarget (hattributed : engine.Attributed model) :
    Faithful model (engine.navigateToNextTarget model) ∧
      ((engine.navigateToNextTarget model).state = .navigatingToNext →
        (engine.navigateToNextTarget model).navigator.currentPage = engine.navigator.currentPage ∧
        ((engine.navigateToNextTarget model).navigator.navigatingToItem ∨
          engine.navigator.currentPage ≠ (engine.navigateToNextTarget model).currentTarget)) := by
  unfold navigateToNextTarget
  cases hchoice : engine.chooseNextTarget model with
  | none =>
    refine ⟨⟨?_, nofun, nofun, nofun⟩, nofun⟩
    unfold tellPolicy
    split_ifs
    · exact hattributed.of_entry (by simp) rfl
    · exact hattributed
  | some target =>
    obtain ⟨page, -, rfl, hcandidate⟩ := chooseNextTarget_spec hchoice
    have hknown : page.id ≠ .unknown := by
      unfold isCandidate at hcandidate
      rw [Bool.and_eq_true, Bool.and_eq_true] at hcandidate
      simpa using hcandidate.1.1
    dsimp only
    cases hentry : engine.entryEdge model page.id with
    | some edge =>
      rw [pursue_of_edge hentry]
      exact ⟨⟨hattributed.of_entry (by simp) rfl, nofun,
        fun _ => ⟨hknown, .inr ⟨rfl, rfl⟩, NavigatorState.noConfusion⟩,
        nofun⟩, fun _ => ⟨rfl, .inl rfl⟩⟩
    | none =>
      by_cases hcurrent : engine.navigator.currentPage = page.id
      · rw [pursue_here hentry hcurrent]
        exact ⟨⟨hattributed.of_entry (by simp) rfl, nofun, nofun, fun _ => hcurrent⟩, nofun⟩
      · rw [pursue_away hentry hcurrent]
        exact ⟨⟨hattributed.of_entry (by simp) rfl, nofun,
          fun _ => ⟨hknown, .inl ⟨rfl, rfl⟩, NavigatorState.noConfusion⟩,
          nofun⟩, fun _ => ⟨rfl, .inr hcurrent⟩⟩

/-! ## A reaction -/

theorem finishMultiEdge_frame (model : MenuModel) (engine : SpiderEngine) (edge : MenuEdge) :
    (engine.finishMultiEdge model edge).navigator = engine.navigator ∧
      (engine.finishMultiEdge model edge).reports = engine.reports := by
  obtain ⟨visited, heq, -⟩ := finishMultiEdge_eq model engine edge
  rw [heq]
  exact ⟨rfl, rfl⟩

theorem capturePage_frame (model : MenuModel) (engine : SpiderEngine) (content : ScreenDataPage) :
    (engine.capturePage model content).navigator = engine.navigator ∧
      ∀ entry ∈ (engine.capturePage model content).reports,
        entry = .pageReached engine.currentTarget content ∨ entry ∈ engine.reports := by
  have htell : (engine.tellPolicy (.pageReached engine.currentTarget content)).navigator =
      engine.navigator ∧
      ∀ entry ∈ (engine.tellPolicy (.pageReached engine.currentTarget content)).reports,
        entry = .pageReached engine.currentTarget content ∨ entry ∈ engine.reports := by
    unfold tellPolicy
    split_ifs
    · exact ⟨rfl, fun entry hentry => List.mem_cons.mp hentry⟩
    · exact ⟨rfl, fun entry hentry => .inr hentry⟩
  unfold capturePage
  dsimp only
  split
  · obtain ⟨hnavigator, hreports⟩ := finishMultiEdge_frame model
      (engine.tellPolicy (.pageReached engine.currentTarget content)) ‹_›
    rwa [hnavigator, hreports]
  · exact htell

variable {nav : Navigator}

theorem pageOn_of_detectPage
    (h : model.detectPage content ≠ .unknown → model.detectPage content = nav.currentPage) :
    nav.pageOn model content = nav.currentPage := by
  unfold Navigator.pageOn Navigator.receivePage
  split_ifs with hunknown
  · rfl
  · exact h hunknown

theorem pageOn_of_known (h : model.detectPage content ≠ .unknown) :
    nav.pageOn model content = model.detectPage content := if_neg h

theorem Attributed.capture (h : engine.Attributed model)
    (hshown : model.detectPage content = engine.currentTarget) :
    (engine.capturePage model content).Attributed model := by
  intro page content' hreached
  rcases (capturePage_frame model engine content).2 _ hreached with heq | hold
  · obtain ⟨rfl, rfl⟩ := CrawlReport.pageReached.inj heq
    exact hshown
  · exact h page content' hold

theorem Faithful.aware_capture (h : Faithful model engine) (hstate : engine.state = .capturingPage)
    (hshown : model.detectPage content = engine.navigator.currentPage) :
    Aware model content (engine.capturePage model content) := by
  refine ⟨Attributed.capture h.attributed (hshown.trans (h.capturing hstate)), ?_⟩
  rw [(capturePage_frame model engine content).1]
  exact pageOn_of_detectPage fun _ => hshown

theorem seen_of_complete {nav' : Navigator} (h : nav'.currentPage = nav.pageOn model content) :
    nav'.pageOn model content = nav'.currentPage := by
  refine pageOn_of_detectPage fun hknown => ?_
  rw [h, pageOn_of_known hknown]

def Reaction.Watched (model : MenuModel) (content : ScreenDataPage) : Reaction → Prop
  | .settle engine _ => Faithful model engine
  | .choose engine _ => Aware model content engine

variable {line : UInt8} {key : Option NavKeyCommand}

theorem Faithful.followSync (h : Faithful model engine) (hstate : engine.state = .syncing)
    (hanswers : Answers model engine.navigator (.pageUpdate content line) (nav, key)) :
    ({ engine with navigator := nav }.followSync key).Watched model content := by
  obtain ⟨hsyncing, hunknown⟩ := h.syncing hstate
  have hnav := Navigator.answers_of_syncing hsyncing hanswers
  have hcases := Navigator.handleSyncing_cases (engine.navigator.receiveScreen content line)
    (model.detectPage content)
  rw [← hnav] at hcases
  unfold SpiderEngine.followSync
  split_ifs with hknown
  · refine ⟨h.attributed, pageOn_of_detectPage fun _ => ?_⟩
    rcases hcases with ⟨hpage, -⟩ | ⟨hpage, -, -⟩
    · exact absurd (hpage.trans hunknown) hknown
    · exact hpage.symm
  · have hpage : nav.currentPage = .unknown := not_not.mp hknown
    rcases hcases with ⟨-, hsame⟩ | ⟨hdetected, -, hne⟩
    · exact ⟨h.attributed, fun _ => ⟨hsame.trans hsyncing, hpage⟩,
        fun hnavigating => absurd (hstate.symm.trans hnavigating) (by decide),
        fun hcapturing => absurd (hstate.symm.trans hcapturing) (by decide)⟩
    · exact absurd (hdetected.symm.trans hpage) hne

theorem Attributed.abandonTarget (h : engine.Attributed model)
    (hseen : engine.navigator.pageOn model content = engine.navigator.currentPage) :
    (engine.abandonTarget model).Watched model content := by
  unfold SpiderEngine.abandonTarget
  split
  · next edge hedge =>
      obtain ⟨hnavigator, hreports⟩ := finishMultiEdge_frame model
        (engine.report (.navigationFailed engine.currentTarget (some edge))) edge
      refine ⟨h.of_entry (by simp) hreports, ?_⟩
      rwa [hnavigator]
  · unfold abandonPage
    dsimp only
    split_ifs
    · exact ⟨h.of_entry (by simp) rfl, nofun, nofun, nofun⟩
    · exact ⟨h.of_entry (by simp) rfl, hseen⟩

section

variable (h : Faithful model engine) (hstate : engine.state = .navigatingToNext)
  (hwatched : engine.navigator.ArrivesUnseen → model.detectPage content ≠ .unknown)
  (hanswers : Answers model engine.navigator (.pageUpdate content line) (nav, key))

include h hstate hwatched hanswers

theorem Faithful.shown_of_arrival (harrival : nav.state = .atDestination) :
    model.detectPage content = engine.currentTarget := by
  obtain ⟨htarget, hheading, haway⟩ := h.navigating hstate
  obtain ⟨-, harrived, -⟩ := Navigator.arrival_of_pageUpdate htarget hheading haway hanswers
  obtain ⟨hitem, hpage⟩ := harrived harrival
  have hknown : model.detectPage content ≠ .unknown := by
    intro hunknown
    have hcurrent : engine.navigator.pageOn model content = engine.navigator.currentPage :=
      pageOn_of_detectPage fun hknown => absurd hunknown hknown
    refine hwatched ⟨?_, hitem, fun hawaits => hawaits.not_arrived hanswers harrival⟩ hunknown
    rcases hheading with ⟨-, htargetPage⟩ | ⟨hitem', -⟩
    · exact hcurrent.symm.trans (hpage.trans htargetPage.symm)
    · rw [hitem] at hitem'
      cases hitem'
  exact (pageOn_of_known hknown).symm.trans hpage

theorem Faithful.followNavigation :
    ({ engine with navigator := nav }.followNavigation model content key).Watched model
      content := by
  obtain ⟨htarget, hheading, haway⟩ := h.navigating hstate
  obtain ⟨hheading', -, hcomplete⟩ :=
    Navigator.arrival_of_pageUpdate htarget hheading haway hanswers
  unfold SpiderEngine.followNavigation
  split
  next harrival =>
    have hshown := h.shown_of_arrival hstate hwatched hanswers harrival
    have hattributed : Attributed model
        { engine with navigator := nav, state := .capturingPage, navigationFailures := 0 } :=
      h.attributed
    refine ⟨hattributed.capture hshown, ?_⟩
    rw [(capturePage_frame model _ content).1]
    exact seen_of_complete (hcomplete (.inl harrival))
  next hfailed =>
    have hattributed : Attributed model { engine with navigator := nav } := h.attributed
    exact hattributed.abandonTarget (seen_of_complete (hcomplete (.inr hfailed)))
  next harrived _ =>
    exact ⟨h.attributed, fun hs => absurd (hstate.symm.trans hs) (by decide),
      fun _ => ⟨htarget, hheading', harrived⟩,
      fun hs => absurd (hstate.symm.trans hs) (by decide)⟩

end

/-! ## Runs -/

theorem Faithful.react (h : Faithful model engine) {fuel : ℕ} {reaction : Reaction}
    (hwatched : engine.Watched model (.processStep content line))
    (hreact : engine.react model fuel content line = some reaction) :
    reaction.Watched model content := by
  rcases react_cases hreact with
    rfl | ⟨hstate, rfl⟩ | ⟨nav, key, hanswers, ⟨hstate, rfl⟩ | ⟨hstate, rfl⟩⟩
  · exact h
  · exact h.aware_capture hstate (hwatched.1 hstate)
  · exact h.followSync hstate hanswers
  · exact h.followNavigation hstate (hwatched.2 hstate) hanswers

theorem Aware.faithful_drive (h : Aware model content choosing)
    (hstate : (choosing.navigateToNextTarget model).state = .navigatingToNext)
    (hanswers : Answers model (choosing.navigateToNextTarget model).navigator
      (.pageUpdate content line) (nav, key)) :
    Faithful model { choosing.navigateToNextTarget model with navigator := nav } := by
  obtain ⟨hfaithful, hnext⟩ := faithful_navigateToNextTarget h.attributed
  obtain ⟨hcurrent, haway⟩ := hnext hstate
  obtain ⟨htarget, hheading, hstart⟩ := hfaithful.navigating hstate
  obtain ⟨hheading', harrived, -⟩ :=
    Navigator.arrival_of_pageUpdate htarget hheading hstart hanswers
  refine ⟨hfaithful.attributed, fun hs => ?_, fun _ => ⟨htarget, hheading', fun harrival => ?_⟩,
    fun hs => ?_⟩
  · exact absurd (hstate.symm.trans hs) (by decide)
  · obtain ⟨hitem, hpage⟩ := harrived harrival
    have hseen : (choosing.navigateToNextTarget model).navigator.pageOn model content =
        choosing.navigator.currentPage := by
      rw [← h.seen]
      unfold Navigator.pageOn Navigator.receivePage
      rw [hcurrent]
    rcases haway with hitem' | hne
    · rw [hitem] at hitem'
      cases hitem'
    · exact hne (hseen.symm.trans hpage)
  · exact absurd (hstate.symm.trans hs) (by decide)

theorem Faithful.handles (h : Faithful model engine) {event : Event}
    (hwatched : engine.Watched model event) (hhandles : engine.Handles model event engine') :
    Faithful model engine' := by
  obtain ⟨fuel, key, hhandles⟩ := hhandles
  cases event with
  | startCrawl policy =>
    cases Option.some_inj.mp hhandles
    have hnone : Attributed model { engine.beginCrawl policy with state := .navigatingToNext } :=
      nofun
    unfold startCrawl
    dsimp only
    split_ifs
    · exact ⟨hnone, fun _ => ⟨rfl, rfl⟩, nofun, nofun⟩
    · exact (faithful_navigateToNextTarget hnone).1
  | navigator event =>
    obtain rfl : event = .statusMessage := hwatched
    cases Option.some_inj.mp hhandles
    dsimp only
    unfold Navigator.onStatusMessageReceived
    split_ifs
    · exact ⟨h.attributed, h.syncing, h.navigating, h.capturing⟩
    · exact h
  | processStep content line =>
    rcases processStep_cases hhandles with hreact | ⟨choosing, key', hreact, hnext⟩
    · exact h.react hwatched hreact
    have haware : Aware model content choosing := h.react hwatched hreact
    rcases hnext with ⟨-, rfl⟩ | ⟨hstate, nav, rfl, hanswers⟩
    · exact (faithful_navigateToNextTarget haware.attributed).1
    · exact haware.faithful_drive hstate hanswers

theorem WatchedRun.faithful {events : List Event} (hrun : WatchedRun model events engine) :
    Faithful model engine := by
  induction hrun with
  | nil =>
    exact ⟨nofun, nofun, nofun, nofun⟩
  | snoc hrun hwatched hhandles ih => exact ih.handles hwatched hhandles

/-- **Attribution.**  In a watched run, every screen that is handed to the policy shows the
page under whose name it is. -/
theorem captures_attributed {events : List Event} (hrun : WatchedRun model events engine)
    {page : PageId} (hreached : .pageReached page content ∈ engine.reports) :
    model.detectPage content = page :=
  hrun.faithful.attributed page content hreached

/-! ## A home page that goes away -/

/-- A watched run, if every step of it is watched and no answer of the navigator takes more
passes than that. -/
def watchAll (model : MenuModel) (fuel : ℕ) (engine : SpiderEngine) :
    List Event → Option SpiderEngine
  | [] => some engine
  | event :: events =>
    if engine.Watched model event then
      (engine.handle model fuel event).bind fun handled => watchAll model fuel handled.1 events
    else none

theorem WatchedRun.watchAll {fuel : ℕ} {before events : List Event}
    (h : WatchedRun model before engine) (hall : engine.watchAll model fuel events = some engine') :
    WatchedRun model (before ++ events) engine' := by
  induction events generalizing engine before with
  | nil =>
    obtain rfl : engine = engine' := Option.some_inj.mp hall
    rwa [append_nil]
  | cons event events ih =>
    unfold SpiderEngine.watchAll at hall
    split_ifs at hall with hwatched
    obtain ⟨⟨handled, key⟩, hhandle, hrest⟩ := Option.bind_eq_some_iff.mp hall
    have hrun := ih (h.snoc hwatched ⟨fuel, key, hhandle⟩) hrest
    rwa [append_assoc] at hrun

/-- A crawl for the home page, which the navigator is on after three screens; the next one
is captured. -/
def homeCrawl (screen : ScreenDataPage) : List Event :=
  .startCrawl (some (targetedVisitPolicy {.system})) ::
    (replicate 3 (.processStep homePageScreen 0) ++ [.processStep screen 0])

/-- The home page is captured from its own screen. -/
theorem captures_attributed_home :
    ∃ engine : SpiderEngine, .pageReached .system homePageScreen ∈ engine.reports ∧
      serviceModel.detectPage homePageScreen = .system := by
  have hcheck : (({} : SpiderEngine).watchAll serviceModel 5 (homeCrawl homePageScreen)).any
      (fun engine => decide (.pageReached .system homePageScreen ∈ engine.reports)) := by
    decide
  obtain ⟨engine, hwatch, hengine⟩ := Option.any_eq_true _ _ |>.mp hcheck
  have hreached := of_decide_eq_true hengine
  exact ⟨engine, hreached, captures_attributed (WatchedRun.nil.watchAll hwatch) hreached⟩

/-- The service page is captured as the home page, when it appears before the capture. -/
theorem service_captured_as_home :
    ¬ ∀ events engine, Run serviceModel {} events engine → Attributed serviceModel engine := by
  intro h
  have hcheck : (({} : SpiderEngine).runAll serviceModel 5 (homeCrawl servicePageScreen)).any
      (fun engine => decide (.pageReached .system servicePageScreen ∈ engine.reports ∧
        serviceModel.detectPage servicePageScreen = .service)) := by decide
  obtain ⟨engine, hrun, hengine⟩ := exists_of_runAll hcheck
  obtain ⟨hreached, hservice⟩ := of_decide_eq_true hengine
  have hhome := h _ engine hrun .system servicePageScreen hreached
  rw [hservice] at hhome
  cases hhome

end SpiderEngine

end AqualinkAutomate.Navigation
