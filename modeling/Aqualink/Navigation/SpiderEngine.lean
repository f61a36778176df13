import Aqualink.Navigation.Navigator

/-!
# The spider engine

A crawl visits the pages that its policy wants, one target after the other, and drives
the navigator there.  Whenever a target is done, one way or the other, it chooses the
next: the candidate that is nearest to the page the navigator is on.

A page of which the controller has many instances is not one target but one for each
edge that leads to it.  Such an edge is known by its key, the page it starts from and the
line that selects it.

A step of the crawl is a reaction to the screen, after which the crawl waits for another
one or chooses a target.  `Reaction` keeps the two apart, because everything that is said
about a choice is said about the engine that makes it.
-/

namespace AqualinkAutomate.Navigation

open General

inductive SpiderState where
  | idle | syncing | navigatingToNext | capturingPage | complete | failed
  deriving DecidableEq

abbrev maxNavigationFailures : UInt32 := 3

abbrev MultiEdgeKey : Type := PageId × UInt8

def MenuEdge.key (edge : MenuEdge) : MultiEdgeKey := (edge.source, edge.triggerLine)

structure VisitPolicy where
  shouldVisit : PageId → MenuPage → Bool

def isLabelPage : PageId → Bool
  | .labelAuxList | .labelAux | .generalLabels | .lightLabels | .waterfallLabels
  | .customLabel => true
  | _ => false

/-- Every page but the special ones of the system. -/
def fullDiscoveryVisitPolicy (skipLabelPages : Bool) : VisitPolicy where
  shouldVisit page _ :=
    match page with
    | .unknown | .startUp | .service | .timeOut | .enterPassword => false
    | _ => !(skipLabelPages && isLabelPage page)

def targetedVisitPolicy (targetPages : Finset PageId) : VisitPolicy where
  shouldVisit page _ := page ∈ targetPages

/-- What a crawl does to its policy (`pageReached`, `crawlComplete`) or writes to the log. -/
inductive CrawlReport where
  | targetChosen (page : PageId) (edge : Option MenuEdge)
  | navigationFailed (page : PageId) (edge : Option MenuEdge)
  | pageReached (page : PageId) (content : ScreenDataPage)
  | crawlComplete
  deriving DecidableEq

/-- The engine, with the navigator that it drives and what its crawl has reported, the
latest first. -/
structure SpiderEngine where
  navigator : Navigator := {}
  policy : Option VisitPolicy := none
  state : SpiderState := .idle
  visited : Finset PageId := ∅
  failed : Finset PageId := ∅
  currentTarget : PageId := .unknown
  navigationFailures : UInt32 := 0
  visitedMultiEdges : PageId → Finset MultiEdgeKey := fun _ => ∅
  currentMultiEdge : Option MenuEdge := none
  reports : List CrawlReport := []

namespace SpiderEngine

def report (engine : SpiderEngine) (entry : CrawlReport) : SpiderEngine :=
  { engine with reports := entry :: engine.reports }

def tellPolicy (engine : SpiderEngine) (entry : CrawlReport) : SpiderEngine :=
  if engine.policy.isSome then engine.report entry else engine

/-! ## Choosing a target -/

section

variable (model : MenuModel) (engine : SpiderEngine)

def hasUnvisitedMultiEdges (page : PageId) : Bool :=
  (model.getIncomingSelectEdges page).any fun edge => edge.key ∉ engine.visitedMultiEdges page

def getNextUnvisitedMultiEdge (page : PageId) : Option MenuEdge :=
  (model.getIncomingSelectEdges page).find? fun edge => edge.key ∉ engine.visitedMultiEdges page

def wants (page : MenuPage) : Bool :=
  engine.policy.any fun policy => policy.shouldVisit page.id page

def isCandidate (page : MenuPage) : Bool :=
  page.id ≠ .unknown && engine.wants page &&
    if page.multiInstance then engine.hasUnvisitedMultiEdges model page.id
    else page.id ∉ engine.visited

/-- The steps from a page to a candidate; one of many instances is selected from the page
that its next edge starts from. -/
def distance (current : PageId) (page : MenuPage) : Option ℕ :=
  if page.multiInstance then
    (engine.getNextUnvisitedMultiEdge model page.id).bind fun edge =>
      match model.findPath current edge.source with
      | [] => if current = edge.source then some 1 else none
      | path => some (path.length + 1)
  else
    match model.findPath current page.id with
    | [] => none
    | path => some path.length

/-- Go through the candidates and keep the nearest so far; the page that the navigator is
on is taken at once. -/
def nearestTarget (current : PageId) : List MenuPage → Option (PageId × ℕ) → Option PageId
  | [], nearest => nearest.map Prod.fst
  | page :: pages, nearest =>
    if page.multiInstance = false ∧ current = page.id then some page.id
    else
      match engine.distance model current page with
      | none => nearestTarget current pages nearest
      | some steps =>
        if nearest.all fun best => steps < best.2 then
          nearestTarget current pages (some (page.id, steps))
        else nearestTarget current pages nearest

def chooseNextTarget : Option PageId :=
  if engine.navigator.currentPage = .unknown then none
  else
    engine.nearestTarget model engine.navigator.currentPage
      (model.pages.filter fun page => engine.isCandidate model page) none

def entryEdge (target : PageId) : Option MenuEdge :=
  if (model.getPage target).any MenuPage.multiInstance then
    engine.getNextUnvisitedMultiEdge model target
  else none

def pursue (target : PageId) : SpiderEngine :=
  match engine.entryEdge model target with
  | some edge =>
    { engine with
      currentTarget := target
      currentMultiEdge := some edge
      navigator :=
        engine.navigator.navigateToItem edge.source edge.triggerLine edge.label target
      state := .navigatingToNext }.report (.targetChosen target (some edge))
  | none =>
    let engine := { engine with currentTarget := target }.report (.targetChosen target none)
    if engine.navigator.currentPage = target then { engine with state := .capturingPage }
    else
      { engine with
        navigator := engine.navigator.navigateTo target
        state := .navigatingToNext }

def navigateToNextTarget : SpiderEngine :=
  match engine.chooseNextTarget model with
  | none => { engine.tellPolicy .crawlComplete with state := .complete }
  | some target => engine.pursue model target

end

section

variable {model : MenuModel} {engine : SpiderEngine} {target : PageId}

theorem pursue_of_edge {edge : MenuEdge} (hentry : engine.entryEdge model target = some edge) :
    engine.pursue model target =
      { engine with
        currentTarget := target
        currentMultiEdge := some edge
        navigator :=
          engine.navigator.navigateToItem edge.source edge.triggerLine edge.label target
        state := .navigatingToNext }.report (.targetChosen target (some edge)) := by
  rw [pursue, hentry]

theorem pursue_here (hentry : engine.entryEdge model target = none)
    (hcurrent : engine.navigator.currentPage = target) :
    engine.pursue model target =
      { engine with
        currentTarget := target
        state := .capturingPage }.report (.targetChosen target none) := by
  rw [pursue, hentry]
  exact if_pos hcurrent

theorem pursue_away (hentry : engine.entryEdge model target = none)
    (hcurrent : engine.navigator.currentPage ≠ target) :
    engine.pursue model target =
      { engine with
        currentTarget := target
        navigator := engine.navigator.navigateTo target
        state := .navigatingToNext }.report (.targetChosen target none) := by
  rw [pursue, hentry]
  exact if_neg hcurrent

end

/-! ## A crawl -/

def beginCrawl (engine : SpiderEngine) (policy : Option VisitPolicy) : SpiderEngine :=
  { engine with
    policy := policy
    visited := ∅
    failed := ∅
    visitedMultiEdges := fun _ => ∅
    currentMultiEdge := none
    currentTarget := .unknown
    navigationFailures := 0
    reports := [] }

def startCrawl (model : MenuModel) (engine : SpiderEngine) (policy : Option VisitPolicy) :
    SpiderEngine :=
  let engine := engine.beginCrawl policy
  if engine.navigator.currentPage = .unknown then
    { engine with navigator := engine.navigator.startSync, state := .syncing }
  else { engine with state := .navigatingToNext }.navigateToNextTarget model

/-- How the reaction to a screen ends: with a key, or with the choice of another target,
and with the key if that choice does not lead to a navigation. -/
inductive Reaction where
  | settle (engine : SpiderEngine) (key : Option NavKeyCommand)
  | choose (engine : SpiderEngine) (key : Option NavKeyCommand)

def finishMultiEdge (model : MenuModel) (engine : SpiderEngine) (edge : MenuEdge) : SpiderEngine :=
  let target := engine.currentTarget
  let engine := { engine with
    visitedMultiEdges := Function.update engine.visitedMultiEdges target
      (insert edge.key (engine.visitedMultiEdges target))
    currentMultiEdge := none }
  if engine.hasUnvisitedMultiEdges model target then engine
  else { engine with visited := insert target engine.visited }

def capturePage (model : MenuModel) (engine : SpiderEngine) (content : ScreenDataPage) :
    SpiderEngine :=
  let engine := engine.tellPolicy (.pageReached engine.currentTarget content)
  match engine.currentMultiEdge.filter fun _ =>
      (model.getPage engine.currentTarget).any MenuPage.multiInstance with
  | some edge => engine.finishMultiEdge model edge
  | none => { engine with visited := insert engine.currentTarget engine.visited }

/-- A target that is no instance could not be reached.  Too many of them in a row end the
crawl, which leaves the last one unrecorded. -/
def abandonPage (engine : SpiderEngine) : Reaction :=
  let engine := { engine.report (.navigationFailed engine.currentTarget none) with
    navigationFailures := engine.navigationFailures + 1 }
  if maxNavigationFailures ≤ engine.navigationFailures then
    .settle { engine with state := .failed } none
  else
    .choose { engine with
      visited := insert engine.currentTarget engine.visited
      failed := insert engine.currentTarget engine.failed } none

def abandonTarget (model : MenuModel) (engine : SpiderEngine) : Reaction :=
  match engine.currentMultiEdge with
  | some edge =>
    .choose ((engine.report (.navigationFailed engine.currentTarget (some edge))).finishMultiEdge
      model edge) none
  | none => engine.abandonPage

def followNavigation (model : MenuModel) (engine : SpiderEngine) (content : ScreenDataPage)
    (key : Option NavKeyCommand) : Reaction :=
  match engine.navigator.state with
  | .atDestination =>
    .choose ({ engine with state := .capturingPage, navigationFailures := 0 }.capturePage model
      content) none
  | .failed => engine.abandonTarget model
  | _ => .settle engine key

/-- The navigator begins to work once it is synchronised. -/
def followSync (engine : SpiderEngine) (key : Option NavKeyCommand) : Reaction :=
  if engine.navigator.currentPage ≠ .unknown then
    .choose { engine with state := .navigatingToNext } key
  else .settle engine key

def drive (model : MenuModel) (fuel : ℕ) (engine : SpiderEngine) (content : ScreenDataPage)
    (highlightedLine : UInt8) : Option (SpiderEngine × Option NavKeyCommand) :=
  (respond model fuel engine.navigator (.pageUpdate content highlightedLine)).map fun answer =>
    ({ engine with navigator := answer.1 }, answer.2)

def react (model : MenuModel) (fuel : ℕ) (engine : SpiderEngine) (content : ScreenDataPage)
    (highlightedLine : UInt8) : Option Reaction :=
  match engine.state with
  | .idle | .complete | .failed => some (.settle engine none)
  | .syncing =>
    (engine.drive model fuel content highlightedLine).map fun (engine, key) =>
      engine.followSync key
  | .navigatingToNext =>
    (engine.drive model fuel content highlightedLine).map fun (engine, key) =>
      engine.followNavigation model content key
  | .capturingPage => some (.choose (engine.capturePage model content) none)

/-- `ProcessStep`, if no answer of the navigator takes more passes than that.  A new
navigation is shown the same screen. -/
def processStep (model : MenuModel) (fuel : ℕ) (engine : SpiderEngine) (content : ScreenDataPage)
    (highlightedLine : UInt8) : Option (SpiderEngine × Option NavKeyCommand) :=
  (engine.react model fuel content highlightedLine).bind fun reaction =>
    match reaction with
    | .settle engine key => some (engine, key)
    | .choose engine key =>
      let engine := engine.navigateToNextTarget model
      if engine.state = .navigatingToNext then
        engine.drive model fuel content highlightedLine
      else some (engine, key)

/-! ## Runs -/

/-- What the engine, or the navigator that it drives, is told. -/
inductive Event where
  | startCrawl (policy : Option VisitPolicy)
  | processStep (content : ScreenDataPage) (highlightedLine : UInt8)
  | navigator (event : NavigatorEvent)

def handle (model : MenuModel) (fuel : ℕ) (engine : SpiderEngine) :
    Event → Option (SpiderEngine × Option NavKeyCommand)
  | .startCrawl policy => some (engine.startCrawl model policy, none)
  | .processStep content highlightedLine => engine.processStep model fuel content highlightedLine
  | .navigator event =>
    (respond model fuel engine.navigator event).map fun answer =>
      ({ engine with navigator := answer.1 }, answer.2)

def Handles (model : MenuModel) (engine : SpiderEngine) (event : Event) (engine' : SpiderEngine) :
    Prop :=
  ∃ fuel key, engine.handle model fuel event = some (engine', key)

inductive Run (model : MenuModel) (first : SpiderEngine) : List Event → SpiderEngine → Prop where
  | nil : Run model first [] first
  | snoc {engine engine' : SpiderEngine} {events : List Event} {event : Event}
      (hrun : Run model first events engine) (hhandles : engine.Handles model event engine') :
      Run model first (events ++ [event]) engine'

/-- A run, if no answer of the navigator takes more passes than that. -/
def runAll (model : MenuModel) (fuel : ℕ) (engine : SpiderEngine) :
    List Event → Option SpiderEngine
  | [] => some engine
  | event :: events =>
    (engine.handle model fuel event).bind fun handled => runAll model fuel handled.1 events

theorem Run.runAll {model : MenuModel} {fuel : ℕ} {first engine engine' : SpiderEngine}
    {before events : List Event} (h : Run model first before engine)
    (hall : engine.runAll model fuel events = some engine') :
    Run model first (before ++ events) engine' := by
  induction events generalizing engine before with
  | nil =>
    obtain rfl : engine = engine' := Option.some_inj.mp hall
    rwa [List.append_nil]
  | cons event events ih =>
    obtain ⟨⟨handled, key⟩, hhandle, hrest⟩ := Option.bind_eq_some_iff.mp hall
    have hrun := ih (h.snoc ⟨fuel, key, hhandle⟩) hrest
    rwa [List.append_assoc] at hrun

/-- The engine that chooses a target while it handles an event. -/
inductive Chooses (model : MenuModel) (engine : SpiderEngine) : Event → SpiderEngine → Prop where
  | startCrawl {policy : Option VisitPolicy} (hsynced : engine.navigator.currentPage ≠ .unknown) :
      Chooses model engine (.startCrawl policy)
        { engine.beginCrawl policy with state := .navigatingToNext }
  | processStep {content : ScreenDataPage} {highlightedLine : UInt8} {fuel : ℕ}
      {choosing : SpiderEngine} {key : Option NavKeyCommand}
      (hreact : engine.react model fuel content highlightedLine = some (.choose choosing key)) :
      Chooses model engine (.processStep content highlightedLine) choosing

/-! ## What an event can do -/

section

variable {model : MenuModel} {engine engine' : SpiderEngine}

section

variable {fuel : ℕ} {content : ScreenDataPage} {line : UInt8} {key : Option NavKeyCommand}

theorem answers_of_drive (h : engine.drive model fuel content line = some (engine', key)) :
    ∃ navigator, engine' = { engine with navigator := navigator } ∧
      Answers model engine.navigator (.pageUpdate content line) (navigator, key) := by
  obtain ⟨⟨navigator, key'⟩, hrespond, heq⟩ := Option.map_eq_some_iff.mp h
  cases heq
  exact ⟨navigator, rfl, .of_respond hrespond⟩

theorem react_cases {reaction : Reaction}
    (h : engine.react model fuel content line = some reaction) :
    reaction = .settle engine none ∨
      engine.state = .capturingPage ∧ reaction = .choose (engine.capturePage model content) none ∨
      ∃ navigator key, Answers model engine.navigator (.pageUpdate content line) (navigator, key) ∧
        (engine.state = .syncing ∧
            reaction = { engine with navigator := navigator }.followSync key ∨
          engine.state = .navigatingToNext ∧
            reaction =
              { engine with navigator := navigator }.followNavigation model content key) := by
  unfold react at h
  obtain ⟨state, hstate⟩ : ∃ state, engine.state = state := ⟨_, rfl⟩
  rw [hstate] at h
  cases state with
  | idle | complete | failed => exact .inl (Option.some_inj.mp h).symm
  | capturingPage => exact .inr (.inl ⟨hstate, (Option.some_inj.mp h).symm⟩)
  | syncing =>
    obtain ⟨⟨driven, key⟩, hdrive, rfl⟩ := Option.map_eq_some_iff.mp h
    obtain ⟨navigator, rfl, hanswers⟩ := answers_of_drive hdrive
    exact .inr (.inr ⟨navigator, key, hanswers, .inl ⟨hstate, rfl⟩⟩)
  | navigatingToNext =>
    obtain ⟨⟨driven, key⟩, hdrive, rfl⟩ := Option.map_eq_some_iff.mp h
    obtain ⟨navigator, rfl, hanswers⟩ := answers_of_drive hdrive
    exact .inr (.inr ⟨navigator, key, hanswers, .inr ⟨hstate, rfl⟩⟩)

theorem processStep_cases (h : engine.processStep model fuel content line = some (engine', key)) :
    engine.react model fuel content line = some (.settle engine' key) ∨
      ∃ choosing key', engine.react model fuel content line = some (.choose choosing key') ∧
        ((choosing.navigateToNextTarget model).state ≠ .navigatingToNext ∧
            engine' = choosing.navigateToNextTarget model ∨
          (choosing.navigateToNextTarget model).state = .navigatingToNext ∧
            ∃ navigator,
              engine' = { choosing.navigateToNextTarget model with navigator := navigator } ∧
              Answers model (choosing.navigateToNextTarget model).navigator
                (.pageUpdate content line) (navigator, key)) := by
  obtain ⟨reaction, hreact, h⟩ := Option.bind_eq_some_iff.mp h
  cases reaction with
  | settle settled key' =>
    cases Option.some_inj.mp h
    exact .inl hreact
  | choose choosing key' =>
    refine .inr ⟨choosing, key', hreact, ?_⟩
    dsimp only at h
    by_cases hstate : (choosing.navigateToNextTarget model).state = .navigatingToNext
    · rw [if_pos hstate] at h
      exact .inr ⟨hstate, answers_of_drive h⟩
    · rw [if_neg hstate] at h
      exact .inl ⟨hstate, (Prod.mk.inj (Option.some_inj.mp h)).1.symm⟩

end

end

/-! ## Invariants of a crawl

Between two events an invariant speaks about the target that is pursued, while a target is
chosen about none.  So there are two predicates, and an invariant is carried through a run
if every way to get from one to the other keeps them. -/

/-- A reaction ends in a state of the one kind or makes the choice in one of the other. -/
def Reaction.Holds (resting choosing : SpiderEngine → Prop) : Reaction → Prop
  | .settle engine _ => resting engine
  | .choose engine _ => choosing engine

structure Invariant (model : MenuModel) (resting choosing : SpiderEngine → Prop) : Prop where
  navigator : ∀ (engine : SpiderEngine) (nav : Navigator), resting engine →
    resting { engine with navigator := nav }
  sync : ∀ (engine : SpiderEngine) (policy : Option VisitPolicy) (nav : Navigator),
    resting { engine.beginCrawl policy with navigator := nav, state := .syncing }
  begin : ∀ (engine : SpiderEngine) (policy : Option VisitPolicy),
    choosing { engine.beginCrawl policy with state := .navigatingToNext }
  synced : ∀ engine : SpiderEngine, resting engine → engine.state = .syncing →
    choosing { engine with state := .navigatingToNext }
  arrive : ∀ (engine : SpiderEngine) (content : ScreenDataPage), resting engine →
    engine.state = .navigatingToNext → choosing
      ({ engine with state := .capturingPage, navigationFailures := 0 }.capturePage model content)
  capture : ∀ (engine : SpiderEngine) (content : ScreenDataPage), resting engine →
    engine.state = .capturingPage → choosing (engine.capturePage model content)
  abandon : ∀ engine : SpiderEngine, resting engine → engine.state = .navigatingToNext →
    (engine.abandonTarget model).Holds resting choosing
  choose : ∀ engine : SpiderEngine, choosing engine → resting (engine.navigateToNextTarget model)

namespace Invariant

variable {model : MenuModel} {resting choosing : SpiderEngine → Prop}
  {engine engine' : SpiderEngine}

section

variable (hinv : Invariant model resting choosing)

include hinv

theorem react (h : resting engine) {fuel : ℕ} {content : ScreenDataPage} {line : UInt8}
    {reaction : Reaction} (hreact : engine.react model fuel content line = some reaction) :
    reaction.Holds resting choosing := by
  rcases react_cases hreact with rfl | ⟨hstate, rfl⟩ | ⟨nav, key, -, ⟨hstate, rfl⟩ | ⟨hstate, rfl⟩⟩
  · exact h
  · exact hinv.capture engine content h hstate
  · unfold followSync
    split_ifs
    · exact hinv.synced _ (hinv.navigator engine nav h) hstate
    · exact hinv.navigator engine nav h
  · have hdriven := hinv.navigator engine nav h
    unfold followNavigation
    split
    · exact hinv.arrive _ content hdriven hstate
    · exact hinv.abandon _ hdriven hstate
    · exact hdriven

theorem choosing_of_chooses (h : resting engine) {event : Event} {chosen : SpiderEngine}
    (hchooses : Chooses model engine event chosen) : choosing chosen := by
  cases hchooses with
  | startCrawl hsynced => exact hinv.begin engine _
  | processStep hreact => exact hinv.react h hreact

theorem handles (h : resting engine) {event : Event}
    (hhandles : engine.Handles model event engine') : resting engine' := by
  obtain ⟨fuel, key, hhandles⟩ := hhandles
  cases event with
  | startCrawl policy =>
    cases Option.some_inj.mp hhandles
    unfold startCrawl
    dsimp only
    split_ifs
    · exact hinv.sync engine policy _
    · exact hinv.choose _ (hinv.begin engine policy)
  | navigator event =>
    obtain ⟨⟨nav, key'⟩, -, heq⟩ := Option.map_eq_some_iff.mp hhandles
    cases heq
    exact hinv.navigator engine nav h
  | processStep content line =>
    rcases processStep_cases hhandles with hreact | ⟨chosen, key', hreact, hnext⟩
    · exact hinv.react h hreact
    have hresting := hinv.choose chosen (hinv.react h hreact)
    rcases hnext with ⟨-, rfl⟩ | ⟨-, nav, rfl, -⟩
    · exact hresting
    · exact hinv.navigator _ nav hresting

theorem run {first : SpiderEngine} {events : List Event} (h : resting first)
    (hrun : Run model first events engine) : resting engine := by
  induction hrun with
  | nil => exact h
  | snoc hrun hhandles ih => exact hinv.handles ih hhandles

end

end Invariant

end SpiderEngine

end AqualinkAutomate.Navigation
