import Aqualink.General.Runs
import Aqualink.Jandy.Message

/-!
# Scraping along a graph of pages

A device that knows the menu of its controller as a graph walks along it: a vertex is a page, an
edge the key that leads to the next.  Before a key the page on display is to be the one the key is
for, and after it the one that the key leads to; the controller acknowledges each key by one or two
status messages, which are awaited.  If a page is not the expected one, the device presses Back
until it is home again.  So many times in a row, and by so many presses each time, and then it
gives up: it is at fault until it is reset.

The walk goes ahead before the page is checked, what is awaited outlives a reset, and the attempts
at a recovery are counted in two places and outlive `resetRecoveryState`.  `Bounded` is what holds
through all of this, as long as the count of the attempts does not wrap around.
-/

namespace AqualinkAutomate.Jandy

open General List

/-! ## Graphs of pages -/

inductive ScreenDataPageTypes where
  | system | service | timeOut | oneTouch | equipmentOnOff | equipmentStatus | selectSpeed
  | menuHelp | helpSubmenu | setPoolHeat | setSpaHeat | setTemperature | setTime | systemSetup
  | freezeProtect | boost | setAquapure | version | diagnosticsSensors | diagnosticsRemotes
  | diagnosticsErrors | diagnosticsIAQStatus | diagnosticsIAQRSSI | labelAuxList | labelAux
  | moreOneTouch | program | displayLight | lockouts | passwordSettings | programGroup
  | generalLabels | lightLabels | waterfallLabels | customLabel | enterPassword | helpKeys
  | startUp | systemStatus | cloudLink | spaSwitch | unknown
  deriving DecidableEq

inductive GraphKeyCommand where
  | noKeyCommand | pageDownOrSelect1 | backOrSelect2 | pageUpOrSelect3 | select | lineDown | lineUp
  | unknown
  deriving DecidableEq

structure Vertex where
  id : UInt32 := 0
  page : ScreenDataPageTypes := .unknown
  deriving DecidableEq

structure Edge where
  id : UInt32 := 0
  keyCommand : GraphKeyCommand := .noKeyCommand
  deriving DecidableEq

/-- The vertices by their descriptors, which are positions, and the descriptor of an id; the edges
in the order in which they were added. -/
structure ScreenDataPageGraph where
  vertexMap : UInt32 → Option ℕ := fun _ => none
  vertices : List Vertex := []
  edges : List (ℕ × ℕ × Edge) := []

namespace ScreenDataPageGraph

def addVertex (graph : ScreenDataPageGraph) (vertex : Vertex) : ScreenDataPageGraph :=
  { graph with
    vertexMap := Function.update graph.vertexMap vertex.id (some graph.vertices.length)
    vertices := graph.vertices ++ [vertex] }

def descriptor (graph : ScreenDataPageGraph) (id : UInt32) : ScreenDataPageGraph × ℕ :=
  match graph.vertexMap id with
  | some descriptor => (graph, descriptor)
  | none => ({ graph with vertexMap := Function.update graph.vertexMap id (some 0) }, 0)

def addEdge (graph : ScreenDataPageGraph) (sourceId destinationId : UInt32) (edge : Edge) :
    ScreenDataPageGraph :=
  let (graph, source) := graph.descriptor sourceId
  let (graph, destination) := graph.descriptor destinationId
  { graph with
    vertices := graph.vertices ++
      replicate (max source destination + 1 - graph.vertices.length) {}
    edges := graph.edges ++ [(source, destination, edge)] }

def ofLists (vertices : List Vertex) (edges : List (UInt32 × UInt32 × Edge)) :
    ScreenDataPageGraph :=
  edges.foldl (fun graph (source, destination, edge) => graph.addEdge source destination edge)
    (vertices.foldl addVertex {})

def vertexAt (graph : ScreenDataPageGraph) (descriptor : ℕ) : Vertex :=
  graph.vertices.getD descriptor {}

end ScreenDataPageGraph

/-- The largest id stands for the end of a walk. -/
abbrev endId : UInt32 := 0xFFFFFFFF

/-- A walk: the vertex it is at, the edge that led there, and the ids of the vertices that it has
seen. -/
structure ForwardIterator where
  vertex : Vertex
  edge : Edge := {}
  visited : List UInt32 := []
  deriving DecidableEq

namespace ForwardIterator

def start (graph : ScreenDataPageGraph) (startId : UInt32) : ForwardIterator :=
  match graph.vertexMap startId with
  | some descriptor => { vertex := graph.vertexAt descriptor, visited := [startId] }
  | none => { vertex := { id := startId } }

def isEnd (it : ForwardIterator) : Bool := it.vertex.id = endId

/-- The first edge to a vertex that the walk has not seen; without one the walk is at its end.  An
id that the graph does not have throws, and leaves the walk where it is. -/
def increment (graph : ScreenDataPageGraph) (it : ForwardIterator) :
    Except ForwardIterator ForwardIterator :=
  match graph.vertexMap it.vertex.id with
  | none => .error it
  | some source =>
    match graph.edges.find? fun (origin, target, _) =>
        origin = source ∧ (graph.vertexAt target).id ∉ it.visited with
    | none => .ok { vertex := { id := endId } }
    | some (_, target, edge) =>
      let targetId := (graph.vertexAt target).id
      let visited := targetId :: it.visited
      match graph.vertexMap targetId with
      | none => .error { it with visited := visited }
      | some descriptor =>
        .ok { vertex := graph.vertexAt descriptor, edge := edge, visited := visited }

end ForwardIterator

/-! ## The scraper -/

inductive ScrapeState where
  | idle | awaitingPostValidation | recoveryInProgress | faulted
  deriving DecidableEq

inductive ScrapeableErrorCodes where
  | waitingForPage | waitingForMessage | noStepPossible | noGraphBeingScraped
  | unknownScrapeError | preCommandValidationFailed | postCommandValidationFailed
  | recoveryInProgress | recoveryComplete | maxRecoveryAttemptsExceeded
  deriving DecidableEq

inductive ScrapeOutcome where
  | key (key : GraphKeyCommand)
  | error (code : ScrapeableErrorCodes)
  | threw
  deriving DecidableEq

structure Scrapeable where
  graphs : UInt32 → Option ScreenDataPageGraph
  activeScrape : Option (UInt32 × ForwardIterator) := none
  /-- Nobody puts a page there. -/
  waitingForPage : List ScreenDataPageTypes := []
  /-- The messages that are awaited, the top of the stack first. -/
  waitingForMessage : List JandyMessageIds := []
  scrapeState : ScrapeState := .idle
  recoveryAttempts : UInt32 := 0
  recoveryBackPresses : UInt32 := 0
  expectedDestination : ScreenDataPageTypes := .unknown
  expectedSource : ScreenDataPageTypes := .unknown
  recoveryKeyCommand : GraphKeyCommand := .noKeyCommand

namespace Scrapeable

abbrev maxRecoveryAttempts : UInt32 := 3
abbrev maxBackPresses : UInt32 := 10

def setRecoveryKeyCommand (scraper : Scrapeable) (key : GraphKeyCommand) : Scrapeable :=
  { scraper with recoveryKeyCommand := key }

def scrapingStart (scraper : Scrapeable) (id startingIndex : UInt32) : Scrapeable :=
  match scraper.graphs id with
  | none => scraper
  | some graph =>
    { scraper with activeScrape := some (id, ForwardIterator.start graph startingIndex) }

def onStatusMessageReceived (scraper : Scrapeable) : Scrapeable :=
  if scraper.activeScrape = none ∧ scraper.scrapeState ≠ .recoveryInProgress then scraper
  else
    match scraper.waitingForMessage with
    | [] => scraper
    | top :: rest =>
      if top ≠ .status then scraper else { scraper with waitingForMessage := rest }

/-- The walk without a look at the page. -/
def scrapingNext (scraper : Scrapeable) : Scrapeable × ScrapeOutcome :=
  if scraper.waitingForPage ≠ [] then (scraper, .error .waitingForPage)
  else if scraper.waitingForMessage ≠ [] then (scraper, .error .waitingForMessage)
  else
    match scraper.activeScrape with
    | none => (scraper, .error .noGraphBeingScraped)
    | some (id, it) =>
      match scraper.graphs id with
      | none => (scraper, .threw)
      | some graph =>
        match if it.isEnd then .ok it else it.increment graph with
        | .error it => ({ scraper with activeScrape := some (id, it) }, .threw)
        | .ok it =>
          if it.isEnd then ({ scraper with activeScrape := none }, .error .noStepPossible)
          else
            let scraper := { scraper with activeScrape := some (id, it) }
            if it.edge.keyCommand = .noKeyCommand then (scraper, .error .unknownScrapeError)
            else
              ({ scraper with waitingForMessage := .status :: scraper.waitingForMessage },
                .key it.edge.keyCommand)

/-! ### Recovery -/

def initiateRecovery (scraper : Scrapeable) : Scrapeable :=
  let scraper := { scraper with recoveryAttempts := scraper.recoveryAttempts + 1 }
  if maxRecoveryAttempts < scraper.recoveryAttempts then { scraper with scrapeState := .faulted }
  else { scraper with scrapeState := .recoveryInProgress, recoveryBackPresses := 0 }

def pressBack (scraper : Scrapeable) : Scrapeable × ScrapeOutcome :=
  ({ scraper with
      recoveryBackPresses := scraper.recoveryBackPresses + 1
      waitingForMessage := .status :: scraper.waitingForMessage },
    .key scraper.recoveryKeyCommand)

def recoveryNext (scraper : Scrapeable) (currentPage : ScreenDataPageTypes) :
    Scrapeable × ScrapeOutcome :=
  if scraper.waitingForMessage ≠ [] then (scraper, .error .waitingForMessage)
  else if currentPage = .system then
    ({ scraper with scrapeState := .idle, recoveryBackPresses := 0 }, .error .recoveryComplete)
  else if maxBackPresses ≤ scraper.recoveryBackPresses then
    let scraper := { scraper with
      recoveryAttempts := scraper.recoveryAttempts + 1
      recoveryBackPresses := 0 }
    if maxRecoveryAttempts ≤ scraper.recoveryAttempts then
      ({ scraper with scrapeState := .faulted }, .error .maxRecoveryAttemptsExceeded)
    else scraper.pressBack
  else scraper.pressBack

/-- The attempts that were made are not forgotten. -/
def resetRecoveryState (scraper : Scrapeable) : Scrapeable :=
  { scraper with
    scrapeState := .idle
    recoveryBackPresses := 0
    expectedDestination := .unknown
    expectedSource := .unknown }

def resetAllScrapingState (scraper : Scrapeable) : Scrapeable :=
  { scraper with
    scrapeState := .idle
    recoveryAttempts := 0
    recoveryBackPresses := 0
    expectedDestination := .unknown
    expectedSource := .unknown }

/-! ### The walk with a look at each page -/

def validatePreCommand (scraper : Scrapeable) (currentPage : ScreenDataPageTypes) : Bool :=
  scraper.expectedSource = .unknown || currentPage = scraper.expectedSource

def validatePostCommand (scraper : Scrapeable) (currentPage : ScreenDataPageTypes) : Bool :=
  scraper.expectedDestination = .unknown || currentPage = scraper.expectedDestination

/-- The key is acknowledged by one status message if it moves the cursor, and by two if it leads to
another page. -/
def acknowledgements (source destination : ScreenDataPageTypes) : ℕ :=
  if source = destination ∨ source = .unknown ∧ destination = .unknown then 1 else 2

def sendCommand (scraper : Scrapeable) (it : ForwardIterator) : Scrapeable × ScrapeOutcome :=
  ({ scraper with
      expectedDestination := it.vertex.page
      scrapeState := .awaitingPostValidation
      waitingForMessage :=
        replicate (acknowledgements scraper.expectedSource it.vertex.page) .status ++
          scraper.waitingForMessage },
    .key it.edge.keyCommand)

/-- The step of the walk that a scraper takes which waits for nothing.  The walk is ahead by the
time the page is validated. -/
def nextStep (scraper : Scrapeable) (currentPage : ScreenDataPageTypes) :
    Scrapeable × ScrapeOutcome :=
  match scraper.activeScrape with
  | none => (scraper, .error .noGraphBeingScraped)
  | some (id, it) =>
    match scraper.graphs id with
    | none => (scraper, .threw)
    | some graph =>
      if it.isEnd then ({ scraper with activeScrape := none }, .error .noStepPossible)
      else
        let scraper := { scraper with expectedSource := it.vertex.page }
        match it.increment graph with
        | .error it => ({ scraper with activeScrape := some (id, it) }, .threw)
        | .ok it =>
          if it.isEnd then ({ scraper with activeScrape := none }, .error .noStepPossible)
          else
            let scraper := { scraper with activeScrape := some (id, it) }
            if it.edge.keyCommand = .noKeyCommand then (scraper, .error .unknownScrapeError)
            else if scraper.validatePreCommand currentPage = false then
              (scraper.initiateRecovery, .error .preCommandValidationFailed)
            else scraper.sendCommand it

def scrapingNextWithValidation (scraper : Scrapeable) (currentPage : ScreenDataPageTypes) :
    Scrapeable × ScrapeOutcome :=
  if scraper.scrapeState = .faulted then (scraper, .error .maxRecoveryAttemptsExceeded)
  else if scraper.scrapeState = .recoveryInProgress then scraper.recoveryNext currentPage
  else if scraper.waitingForMessage ≠ [] then (scraper, .error .waitingForMessage)
  else if scraper.scrapeState = .awaitingPostValidation then
    if scraper.validatePostCommand currentPage = false then
      (scraper.initiateRecovery, .error .postCommandValidationFailed)
    else { scraper with scrapeState := .idle }.nextStep currentPage
  else scraper.nextStep currentPage

/-! ## Steps of the walk -/

def upcomingStep (scraper : Scrapeable) : Option (Vertex × ForwardIterator) :=
  match scraper.activeScrape with
  | none => none
  | some (id, it) =>
    match scraper.graphs id with
    | none => none
    | some graph =>
      if it.isEnd then none
      else
        match it.increment graph with
        | .error _ => none
        | .ok next =>
          if next.isEnd ∨ next.edge.keyCommand = .noKeyCommand then none
          else some (it.vertex, next)

def missesSource (scraper : Scrapeable) (currentPage : ScreenDataPageTypes) : Bool :=
  scraper.upcomingStep.any fun (vertex, _) =>
    decide (vertex.page ≠ .unknown) && decide (currentPage ≠ vertex.page)

/-- The page on display is the one that the step is taken from, and the key is that of an edge from
there. -/
def FollowsEdge (scraper : Scrapeable) (currentPage : ScreenDataPageTypes) (key : GraphKeyCommand) :
    Prop :=
  ∃ id graph it source target edge, scraper.activeScrape = some (id, it) ∧
    scraper.graphs id = some graph ∧ (currentPage = it.vertex.page ∨ it.vertex.page = .unknown) ∧
    graph.vertexMap it.vertex.id = some source ∧ (source, target, edge) ∈ graph.edges ∧
    edge.keyCommand = key

def counts (scraper : Scrapeable) : ScrapeState × UInt32 × UInt32 × List JandyMessageIds :=
  (scraper.scrapeState, scraper.recoveryAttempts, scraper.recoveryBackPresses,
    scraper.waitingForMessage)

end Scrapeable

namespace ScrapeOutcome

def isKey : ScrapeOutcome → Bool
  | .key _ => true
  | .error _ | .threw => false

end ScrapeOutcome

theorem ForwardIterator.mem_edges_of_increment {graph : ScreenDataPageGraph}
    {it next : ForwardIterator} (h : it.increment graph = .ok next) (hend : next.isEnd = false) :
    ∃ source target, graph.vertexMap it.vertex.id = some source ∧
      (source, target, next.edge) ∈ graph.edges := by
  unfold increment at h
  split at h
  · cases h
  · next source hsource =>
      split at h
      · cases h
        cases hend
      · next origin target edge hfound =>
          dsimp only at h
          split at h
          · cases h
          · cases h
            have horigin := find?_some hfound
            rw [decide_eq_true_eq] at horigin
            exact ⟨source, target, hsource, horigin.1 ▸ mem_of_find?_eq_some hfound⟩

namespace Scrapeable

variable {scraper next : Scrapeable} {page : ScreenDataPageTypes} {outcome : ScrapeOutcome}

theorem nextStep_cases (h : scraper.nextStep page = (next, outcome)) :
    outcome.isKey = false ∧ next.counts = scraper.counts ∨
      outcome.isKey = false ∧ scraper.missesSource page ∧
        (∃ before : Scrapeable, before.counts = scraper.counts ∧ next = before.initiateRecovery) ∨
      ∃ key, outcome = .key key ∧ scraper.FollowsEdge page key ∧
        next.scrapeState = .awaitingPostValidation ∧
        next.recoveryAttempts = scraper.recoveryAttempts ∧
        next.recoveryBackPresses = scraper.recoveryBackPresses ∧
        next.waitingForMessage =
          replicate (acknowledgements next.expectedSource next.expectedDestination) .status ++
            scraper.waitingForMessage := by
  unfold nextStep at h
  split at h
  · cases h
    exact .inl ⟨rfl, rfl⟩
  next id it hactive =>
  split at h
  · cases h
    exact .inl ⟨rfl, rfl⟩
  next graph hgraph =>
  split at h
  · cases h
    exact .inl ⟨rfl, rfl⟩
  next hgoes =>
  dsimp only at h
  split at h
  · cases h
    exact .inl ⟨rfl, rfl⟩
  next moved hmoved =>
  split_ifs at h with hend hkey hvalid
  · cases h
    exact .inl ⟨rfl, rfl⟩
  · cases h
    exact .inl ⟨rfl, rfl⟩
  · cases h
    refine .inr (.inl ⟨rfl, ?_, _, ?_, rfl⟩)
    · have hstep : scraper.upcomingStep = some (it.vertex, moved) := by
        simp [upcomingStep, hactive, hgraph, hgoes, hmoved, hend, hkey]
      rw [missesSource, hstep]
      simpa [validatePreCommand] using hvalid
    · rfl
  · cases h
    refine .inr (.inr ⟨_, rfl, ?_, rfl, rfl, rfl, rfl⟩)
    obtain ⟨source, target, hsource, hedge⟩ :=
      ForwardIterator.mem_edges_of_increment hmoved (eq_false_of_ne_true hend)
    refine ⟨id, graph, it, source, target, moved.edge, hactive, hgraph, ?_, hsource, hedge, rfl⟩
    by_cases hunknown : it.vertex.page = .unknown
    · exact .inr hunknown
    · exact .inl (by simpa [validatePreCommand, hunknown] using hvalid)

end Scrapeable

/-! ## Runs of a driver -/

/-- What a driver of the scraper does. -/
inductive ScrapeCall where
  | setRecoveryKeyCommand (key : GraphKeyCommand)
  | scrapingStart (id startingIndex : UInt32)
  | statusMessage
  | scrapingNext
  | scrapingNextWithValidation (currentPage : ScreenDataPageTypes)
  | resetRecoveryState
  | resetAllScrapingState
  deriving DecidableEq

def ScrapeCall.isReset : ScrapeCall → Bool
  | .resetRecoveryState | .resetAllScrapingState => true
  | _ => false

/-- A scraper, and what its driver has seen of it: the keys for the recovery since the state was
reset as a whole, and how many status messages the keys that were sent are still to be acknowledged
by. -/
structure ScrapeWatch where
  scraper : Scrapeable
  recoveryKeys : ℕ := 0
  awaited : ℕ := 0

namespace ScrapeWatch

open Scrapeable

def noteKey (watch : ScrapeWatch) (next : Scrapeable) : ScrapeWatch :=
  if watch.scraper.scrapeState = .recoveryInProgress then
    { scraper := next, recoveryKeys := watch.recoveryKeys + 1, awaited := watch.awaited + 1 }
  else
    { watch with
      scraper := next
      awaited := watch.awaited + acknowledgements next.expectedSource next.expectedDestination }

def perform (watch : ScrapeWatch) : ScrapeCall → ScrapeWatch
  | .setRecoveryKeyCommand key =>
    { watch with scraper := watch.scraper.setRecoveryKeyCommand key }
  | .scrapingStart id startingIndex =>
    { watch with scraper := watch.scraper.scrapingStart id startingIndex }
  | .statusMessage =>
    { watch with
      scraper := watch.scraper.onStatusMessageReceived
      awaited := watch.awaited - 1 }
  | .scrapingNext =>
    let (next, outcome) := watch.scraper.scrapingNext
    { watch with scraper := next, awaited := watch.awaited + if outcome.isKey then 1 else 0 }
  | .scrapingNextWithValidation currentPage =>
    let (next, outcome) := watch.scraper.scrapingNextWithValidation currentPage
    if outcome.isKey then watch.noteKey next else { watch with scraper := next }
  | .resetRecoveryState => { watch with scraper := watch.scraper.resetRecoveryState }
  | .resetAllScrapingState =>
    { watch with scraper := watch.scraper.resetAllScrapingState, recoveryKeys := 0 }

/-- What is said of a call.  There are not too many keys for the recovery; a scraper at fault stays
so until it is reset; and a walk with a look at each page sends no key at fault, and a key of the
graph only if no status message is awaited and the page on display is the one it is for. -/
structure Scrapes (watch : ScrapeWatch) (call : ScrapeCall) : Prop where
  bounded : (watch.perform call).recoveryKeys ≤
    maxRecoveryAttempts.toNat * maxBackPresses.toNat
  faulted : watch.scraper.scrapeState = .faulted → call.isReset = false →
    (watch.perform call).scraper.scrapeState = .faulted
  sends : ∀ currentPage key, call = .scrapingNextWithValidation currentPage →
    (watch.scraper.scrapingNextWithValidation currentPage).2 = .key key →
      watch.scraper.scrapeState ≠ .faulted ∧
        (watch.scraper.scrapeState ≠ .recoveryInProgress →
          watch.awaited = 0 ∧ watch.scraper.FollowsEdge currentPage key)

/-- The page on display is not the expected one, after the latest key or before the next. -/
def MissesPage (scraper : Scrapeable) (currentPage : ScreenDataPageTypes) : Prop :=
  scraper.waitingForMessage = [] ∧
    (scraper.scrapeState = .awaitingPostValidation ∧
        scraper.validatePostCommand currentPage = false ∨
      (scraper.scrapeState = .idle ∨ scraper.scrapeState = .awaitingPostValidation) ∧
        scraper.missesSource currentPage = true)

instance (scraper : Scrapeable) (currentPage : ScreenDataPageTypes) :
    Decidable (MissesPage scraper currentPage) :=
  inferInstanceAs (Decidable (_ ∧ _))

def CountsAttempts (watch : ScrapeWatch) : ScrapeCall → Prop
  | .scrapingNextWithValidation currentPage =>
    watch.scraper.recoveryAttempts = 0xFFFFFFFF → ¬ MissesPage watch.scraper currentPage
  | _ => True

instance (watch : ScrapeWatch) (call : ScrapeCall) : Decidable (watch.CountsAttempts call) := by
  cases call <;> (unfold CountsAttempts; infer_instance)

/-- The keys for the recovery are at most ten for each attempt, and those of a recovery in progress
are counted by its presses of Back. -/
structure Bounded (watch : ScrapeWatch) : Prop where
  presses : watch.scraper.recoveryBackPresses.toNat ≤ 10
  recovering : watch.scraper.scrapeState = .recoveryInProgress →
    1 ≤ watch.scraper.recoveryAttempts.toNat ∧ watch.scraper.recoveryAttempts.toNat ≤ 3 ∧
      watch.recoveryKeys ≤ 10 * (watch.scraper.recoveryAttempts.toNat - 1) +
        watch.scraper.recoveryBackPresses.toNat
  resting : watch.scraper.scrapeState ≠ .recoveryInProgress →
    watch.recoveryKeys ≤ 10 * min watch.scraper.recoveryAttempts.toNat 3
  awaited : watch.awaited ≤ watch.scraper.waitingForMessage.length

variable {watch : ScrapeWatch} {call : ScrapeCall}

theorem Bounded.recoveryKeys_le (h : watch.Bounded) : watch.recoveryKeys ≤ 30 := by
  by_cases hstate : watch.scraper.scrapeState = .recoveryInProgress
  · obtain ⟨hfirst, hlast, hkeys⟩ := h.recovering hstate
    have hpresses := h.presses
    omega
  · have hkeys := h.resting hstate
    omega

/-- A count that has not come to its end goes up by one. -/
theorem toNat_add_one {attempts : UInt32} (h : attempts ≠ 0xFFFFFFFF) :
    (attempts + 1).toNat = attempts.toNat + 1 := by
  have hlt := attempts.toNat_lt
  have hne : attempts.toNat ≠ 4294967295 := fun heq => h (UInt32.toNat_inj.mp heq)
  rw [UInt32.toNat_add]
  exact Nat.mod_eq_of_lt (by simp; omega)

section

variable (h : watch.Bounded)

include h

theorem Bounded.congr {next : Scrapeable} (hcounts : next.counts = watch.scraper.counts) :
    Bounded { watch with scraper := next } := by
  simp only [counts, Prod.mk.injEq] at hcounts
  obtain ⟨hstate, hattempts, hpresses, hwaiting⟩ := hcounts
  constructor
  case presses => exact hpresses ▸ h.presses
  case recovering =>
    intro hrecovers
    dsimp only at hrecovers ⊢
    rw [hattempts, hpresses]
    exact h.recovering (hstate.symm.trans hrecovers)
  case resting =>
    intro hrests
    dsimp only at hrests ⊢
    rw [hattempts]
    exact h.resting fun hrecovers => hrests (hstate.trans hrecovers)
  case awaited => exact hwaiting ▸ h.awaited

theorem Bounded.initiateRecovery (hstate : watch.scraper.scrapeState ≠ .recoveryInProgress)
    (hcount : watch.scraper.recoveryAttempts ≠ 0xFFFFFFFF) {before : Scrapeable}
    (hcounts : before.counts = watch.scraper.counts) :
    Bounded { watch with scraper := before.initiateRecovery } := by
  simp only [counts, Prod.mk.injEq] at hcounts
  obtain ⟨-, hattempts, hpresses, hwaiting⟩ := hcounts
  have hkeys := h.resting hstate
  have hnext : (before.recoveryAttempts + 1).toNat = watch.scraper.recoveryAttempts.toNat + 1 := by
    rw [hattempts, toNat_add_one hcount]
  unfold Scrapeable.initiateRecovery
  dsimp only
  split
  next hexceeded =>
    refine ⟨hpresses ▸ h.presses, (fun hrecovers => nomatch hrecovers), fun _ => ?_,
      hwaiting ▸ h.awaited⟩
    dsimp only
    omega
  next hwithin =>
    rw [UInt32.lt_iff_toNat_lt, hnext] at hwithin
    have hthree : maxRecoveryAttempts.toNat = 3 := rfl
    refine ⟨Nat.zero_le _, fun _ => ?_, fun hrests => absurd rfl hrests, hwaiting ▸ h.awaited⟩
    dsimp only
    have hzero : (0 : UInt32).toNat = 0 := rfl
    omega

section

variable (hstate : watch.scraper.scrapeState = .recoveryInProgress)

include hstate

theorem Bounded.pressBack (hpresses : watch.scraper.recoveryBackPresses.toNat < 10) :
    Bounded {
      scraper := watch.scraper.pressBack.1
      recoveryKeys := watch.recoveryKeys + 1
      awaited := watch.awaited + 1 } := by
  obtain ⟨hfirst, hlast, hkeys⟩ := h.recovering hstate
  have hnext : (watch.scraper.recoveryBackPresses + 1).toNat =
      watch.scraper.recoveryBackPresses.toNat + 1 := by
    refine toNat_add_one fun heq => ?_
    rw [heq] at hpresses
    exact absurd hpresses (by decide)
  have hwaiting := h.awaited
  constructor
  case presses =>
    dsimp only [Scrapeable.pressBack]
    omega
  case recovering =>
    intro _
    dsimp only [Scrapeable.pressBack]
    omega
  case resting => exact fun hrests => absurd hstate hrests
  case awaited =>
    dsimp only [Scrapeable.pressBack]
    rw [length_cons]
    omega

theorem Bounded.nextAttempt (hpresses : 10 ≤ watch.scraper.recoveryBackPresses.toNat)
    {state : ScrapeState}
    (hnext : state = .recoveryInProgress → watch.scraper.recoveryAttempts.toNat < 3) :
    Bounded { watch with scraper := { watch.scraper with
      scrapeState := state
      recoveryAttempts := watch.scraper.recoveryAttempts + 1
      recoveryBackPresses := 0 } } := by
  obtain ⟨hfirst, hlast, hkeys⟩ := h.recovering hstate
  have hmost := h.presses
  have hattempts : (watch.scraper.recoveryAttempts + 1).toNat =
      watch.scraper.recoveryAttempts.toNat + 1 := by
    refine toNat_add_one fun heq => ?_
    rw [heq] at hlast
    exact absurd hlast (by decide)
  have hzero : (0 : UInt32).toNat = 0 := rfl
  refine ⟨Nat.zero_le _, fun hrecovers => ?_, fun _ => ?_, h.awaited⟩
  · have hbelow := hnext hrecovers
    dsimp only
    omega
  · dsimp only
    omega

theorem Bounded.recoveryNext (page : ScreenDataPageTypes) :
    Bounded (if (watch.scraper.recoveryNext page).2.isKey then
      watch.noteKey (watch.scraper.recoveryNext page).1
    else { watch with scraper := (watch.scraper.recoveryNext page).1 }) := by
  obtain ⟨hfirst, hlast, hkeys⟩ := h.recovering hstate
  have hmost := h.presses
  have hten : maxBackPresses.toNat = 10 := rfl
  have hthree : maxRecoveryAttempts.toNat = 3 := rfl
  unfold Scrapeable.recoveryNext noteKey
  rw [if_pos hstate]
  by_cases hwaits : watch.scraper.waitingForMessage ≠ []
  · rwa [if_pos hwaits]
  rw [if_neg hwaits]
  by_cases hhome : page = .system
  · rw [if_pos hhome]
    refine ⟨Nat.zero_le _, (fun hrecovers => nomatch hrecovers), fun _ => ?_, h.awaited⟩
    change watch.recoveryKeys ≤ 10 * min watch.scraper.recoveryAttempts.toNat 3
    omega
  rw [if_neg hhome]
  by_cases hpresses : maxBackPresses ≤ watch.scraper.recoveryBackPresses
  · rw [if_pos hpresses]
    rw [UInt32.le_iff_toNat_le, hten] at hpresses
    have hattempts : (watch.scraper.recoveryAttempts + 1).toNat =
        watch.scraper.recoveryAttempts.toNat + 1 := by
      refine toNat_add_one fun heq => ?_
      rw [heq] at hlast
      exact absurd hlast (by decide)
    by_cases hexceeded : maxRecoveryAttempts ≤ watch.scraper.recoveryAttempts + 1
    · rw [if_pos hexceeded]
      exact h.nextAttempt hstate hpresses fun hrecovers => nomatch hrecovers
    · rw [if_neg hexceeded]
      rw [UInt32.le_iff_toNat_le, hattempts, hthree] at hexceeded
      have hagain := @Bounded.nextAttempt _ h hstate hpresses .recoveryInProgress fun _ => by omega
      rw [← hstate] at hagain
      exact hagain.pressBack hstate (show (0 : UInt32).toNat < 10 by decide)
  · rw [if_neg hpresses]
    rw [UInt32.le_iff_toNat_le, hten] at hpresses
    exact h.pressBack hstate (by omega)

end

end

/-! ### A walk with a look at the page -/

variable {scraper next : Scrapeable} {outcome : ScrapeOutcome}

theorem validated_cases (hfault : scraper.scrapeState ≠ .faulted)
    (hstate : scraper.scrapeState ≠ .recoveryInProgress) {page : ScreenDataPageTypes}
    (h : scraper.scrapingNextWithValidation page = (next, outcome)) :
    outcome.isKey = false ∧
        (next.counts = scraper.counts ∨
          next.counts = { scraper with scrapeState := .idle }.counts) ∨
      outcome.isKey = false ∧ MissesPage scraper page ∧
        (∃ before : Scrapeable, next = before.initiateRecovery ∧
          (before.counts = scraper.counts ∨
            before.counts = { scraper with scrapeState := .idle }.counts)) ∨
      ∃ key, outcome = .key key ∧ scraper.waitingForMessage = [] ∧
        scraper.FollowsEdge page key ∧ next.scrapeState = .awaitingPostValidation ∧
        next.recoveryAttempts = scraper.recoveryAttempts ∧
        next.recoveryBackPresses = scraper.recoveryBackPresses ∧
        next.waitingForMessage =
          replicate (acknowledgements next.expectedSource next.expectedDestination)
            .status := by
  rw [scrapingNextWithValidation, if_neg hfault, if_neg hstate] at h
  split_ifs at h with hwaits hawaits hmisses
  · cases h
    exact .inl ⟨rfl, .inl rfl⟩
  · cases h
    exact .inr (.inl ⟨rfl, ⟨not_not.mp hwaits, .inl ⟨hawaits, hmisses⟩⟩, _, rfl, .inl rfl⟩)
  · have hnothing := not_not.mp hwaits
    rcases nextStep_cases h with ⟨hnone, hkeeps⟩ | ⟨hnone, hsource, before, hcounts, hnext⟩ |
      ⟨key, hkey, hfollows, hnext, hattempts, hpresses, hwaiting⟩
    · exact .inl ⟨hnone, .inr hkeeps⟩
    · exact .inr (.inl ⟨hnone, ⟨hnothing, .inr ⟨.inr hawaits, hsource⟩⟩, before, hnext,
        .inr hcounts⟩)
    · refine .inr (.inr ⟨key, hkey, hnothing, hfollows, hnext, hattempts, hpresses, ?_⟩)
      rw [hwaiting]
      rw [hnothing, append_nil]
  · have hnothing := not_not.mp hwaits
    have hidle : scraper.scrapeState = .idle := by
      cases hother : scraper.scrapeState with
      | idle => rfl
      | awaitingPostValidation => exact absurd hother hawaits
      | recoveryInProgress => exact absurd hother hstate
      | faulted => exact absurd hother hfault
    rcases nextStep_cases h with ⟨hnone, hkeeps⟩ | ⟨hnone, hsource, before, hcounts, hnext⟩ |
      ⟨key, hkey, hfollows, hnext, hattempts, hpresses, hwaiting⟩
    · exact .inl ⟨hnone, .inl hkeeps⟩
    · exact .inr (.inl ⟨hnone, ⟨hnothing, .inr ⟨.inl hidle, hsource⟩⟩, before, hnext, .inl hcounts⟩)
    · refine .inr (.inr ⟨key, hkey, hnothing, hfollows, hnext, hattempts, hpresses, ?_⟩)
      rw [hwaiting, hnothing, append_nil]

theorem Bounded.idle (h : watch.Bounded)
    (hstate : watch.scraper.scrapeState ≠ .recoveryInProgress) :
    Bounded { watch with scraper := { watch.scraper with scrapeState := .idle } } :=
  ⟨h.presses, (fun hrecovers => nomatch hrecovers), fun _ => h.resting hstate, h.awaited⟩

theorem Bounded.validated (h : watch.Bounded) (page : ScreenDataPageTypes)
    (hcount : watch.CountsAttempts (.scrapingNextWithValidation page)) :
    (watch.perform (.scrapingNextWithValidation page)).Bounded := by
  unfold perform
  dsimp only
  by_cases hfault : watch.scraper.scrapeState = .faulted
  · rwa [scrapingNextWithValidation, if_pos hfault]
  by_cases hstate : watch.scraper.scrapeState = .recoveryInProgress
  · rw [scrapingNextWithValidation, if_neg hfault, if_pos hstate]
    exact h.recoveryNext hstate page
  have hidle := h.idle hstate
  rcases hcall : watch.scraper.scrapingNextWithValidation page with ⟨next, outcome⟩
  rcases validated_cases hfault hstate hcall with ⟨hnone, hkeeps⟩ |
    ⟨hnone, hmisses, before, rfl, hcounts⟩ |
    ⟨key, rfl, hnothing, -, hnext, hattempts, hpresses, hwaiting⟩
  · rw [if_neg (by simp [hnone])]
    rcases hkeeps with hkeeps | hkeeps
    · exact h.congr hkeeps
    · exact hidle.congr hkeeps
  · rw [if_neg (by simp [hnone])]
    have hmax : watch.scraper.recoveryAttempts ≠ 0xFFFFFFFF := fun heq => hcount heq hmisses
    rcases hcounts with hcounts | hcounts
    · exact h.initiateRecovery hstate hmax hcounts
    · exact hidle.initiateRecovery (fun hrecovers => nomatch hrecovers) hmax hcounts
  · change (watch.noteKey next).Bounded
    rw [noteKey, if_neg hstate]
    have hawaited := h.awaited
    rw [hnothing, length_nil] at hawaited
    constructor
    case presses => exact hpresses ▸ h.presses
    case recovering =>
      intro hrecovers
      rw [hnext] at hrecovers
      cases hrecovers
    case resting => exact fun _ => hattempts ▸ h.resting hstate
    case awaited =>
      rw [hwaiting, length_replicate]
      dsimp only
      omega

/-! ### Every run -/

/-- The walk without a look at the page keeps what the recovery is decided by, and awaits a status
message for its key. -/
theorem scrapingNext_cases (h : scraper.scrapingNext = (next, outcome)) :
    next.scrapeState = scraper.scrapeState ∧ next.recoveryAttempts = scraper.recoveryAttempts ∧
      next.recoveryBackPresses = scraper.recoveryBackPresses ∧
      next.waitingForMessage.length =
        scraper.waitingForMessage.length + if outcome.isKey then 1 else 0 := by
  unfold Scrapeable.scrapingNext at h
  repeat' split at h
  all_goals
    cases h
    exact ⟨rfl, rfl, rfl, rfl⟩

theorem counts_onStatusMessageReceived (scraper : Scrapeable) :
    ∃ waiting, scraper.waitingForMessage.length ≤ waiting.length + 1 ∧
      scraper.onStatusMessageReceived = { scraper with waitingForMessage := waiting } := by
  have hsame : ∃ waiting, scraper.waitingForMessage.length ≤ waiting.length + 1 ∧
      scraper = { scraper with waitingForMessage := waiting } :=
    ⟨scraper.waitingForMessage, Nat.le_succ _, rfl⟩
  unfold Scrapeable.onStatusMessageReceived
  split
  · exact hsame
  · split
    · exact hsame
    · next top rest hwaiting =>
        split
        · exact hsame
        · exact ⟨rest, by rw [hwaiting, length_cons], rfl⟩

theorem Bounded.perform (h : watch.Bounded) (hcount : watch.CountsAttempts call) :
    (watch.perform call).Bounded := by
  cases call with
  | setRecoveryKeyCommand key => exact ⟨h.presses, h.recovering, h.resting, h.awaited⟩
  | scrapingStart id startingIndex =>
    have hcounts : (watch.scraper.scrapingStart id startingIndex).counts =
        watch.scraper.counts := by
      unfold Scrapeable.scrapingStart
      split <;> rfl
    exact h.congr hcounts
  | statusMessage =>
    obtain ⟨waiting, hlength, heq⟩ := counts_onStatusMessageReceived watch.scraper
    have hawaited := h.awaited
    rw [ScrapeWatch.perform, heq]
    exact ⟨h.presses, h.recovering, h.resting, by dsimp only; omega⟩
  | scrapingNext =>
    rcases hnext : watch.scraper.scrapingNext with ⟨next, outcome⟩
    obtain ⟨hstate, hattempts, hpresses, hwaiting⟩ := scrapingNext_cases hnext
    have hawaited := h.awaited
    rw [ScrapeWatch.perform, hnext]
    constructor
    case presses => exact hpresses ▸ h.presses
    case recovering =>
      intro hrecovers
      dsimp only at hrecovers ⊢
      rw [hattempts, hpresses]
      exact h.recovering (hstate.symm.trans hrecovers)
    case resting =>
      intro hrests
      dsimp only at hrests ⊢
      rw [hattempts]
      exact h.resting fun hrecovers => hrests (hstate.trans hrecovers)
    case awaited =>
      dsimp only
      omega
  | scrapingNextWithValidation page => exact h.validated page hcount
  | resetRecoveryState =>
    refine ⟨Nat.zero_le _, (fun hrecovers => nomatch hrecovers), fun _ => ?_, h.awaited⟩
    change watch.recoveryKeys ≤ 10 * min watch.scraper.recoveryAttempts.toNat 3
    by_cases hstate : watch.scraper.scrapeState = .recoveryInProgress
    · obtain ⟨hfirst, hlast, hkeys⟩ := h.recovering hstate
      have hpresses := h.presses
      omega
    · exact h.resting hstate
  | resetAllScrapingState =>
    exact ⟨Nat.zero_le _, (fun hrecovers => nomatch hrecovers), fun _ => Nat.zero_le _, h.awaited⟩

theorem faulted_perform (hfault : watch.scraper.scrapeState = .faulted)
    (hreset : call.isReset = false) : (watch.perform call).scraper.scrapeState = .faulted := by
  cases call with
  | setRecoveryKeyCommand key => exact hfault
  | scrapingStart id startingIndex =>
    rw [perform, Scrapeable.scrapingStart]
    split <;> exact hfault
  | statusMessage =>
    obtain ⟨waiting, -, heq⟩ := counts_onStatusMessageReceived watch.scraper
    rwa [perform, heq]
  | scrapingNext => exact (scrapingNext_cases rfl).1.trans hfault
  | scrapingNextWithValidation page =>
    rwa [perform, scrapingNextWithValidation, if_pos hfault]
  | resetRecoveryState | resetAllScrapingState => cases hreset

theorem Bounded.scrapes (h : watch.Bounded) (hcount : watch.CountsAttempts call) :
    watch.Scrapes call := by
  refine ⟨(h.perform hcount).recoveryKeys_le, faulted_perform, ?_⟩
  rintro page key - hkey
  have hfault : watch.scraper.scrapeState ≠ .faulted := by
    intro hfault
    rw [scrapingNextWithValidation, if_pos hfault] at hkey
    cases hkey
  refine ⟨hfault, fun hstate => ?_⟩
  rcases hcall : watch.scraper.scrapingNextWithValidation page with ⟨next, outcome⟩
  rw [hcall] at hkey
  obtain rfl : outcome = .key key := hkey
  rcases validated_cases hfault hstate hcall with ⟨hnone, -⟩ | ⟨hnone, -⟩ |
    ⟨sent, heq, hnothing, hfollows, -⟩
  · cases hnone
  · cases hnone
  · cases heq
    have hawaited := h.awaited
    rw [hnothing] at hawaited
    exact ⟨Nat.le_zero.mp hawaited, hfollows⟩

theorem bounded_start (graphs : UInt32 → Option ScreenDataPageGraph) :
    Bounded { scraper := { graphs } } :=
  ⟨Nat.zero_le _, (fun hrecovers => nomatch hrecovers), fun _ => Nat.zero_le _, Nat.zero_le _⟩

def statusPages : ScreenDataPageGraph :=
  .ofLists [{ id := 1, page := .equipmentStatus }, { id := 2, page := .setTime }]
    [(1, 2, { keyCommand := .select })]

def statusGraphs (id : UInt32) : Option ScreenDataPageGraph :=
  if id = 1 then some statusPages else none

/-- Whatever the graphs are and whatever is displayed and received: as long as no page is missed
when the count of the attempts is at its largest, a key of the graph is sent only when no status
message is awaited and for the page on display, there are at most thirty keys for the recovery
before the state is reset as a whole, and there is none at fault. -/
theorem scrapes_of_counts (graphs : UInt32 → Option ScreenDataPageGraph) (calls : List ScrapeCall)
    (h : EachStep perform CountsAttempts { scraper := { graphs } } calls) :
    EachStep perform Scrapes { scraper := { graphs } } calls :=
  h.of_invariant (fun _ _ hbounded hcount => Bounded.perform hbounded hcount)
    (fun _ _ hbounded hcount => Bounded.scrapes hbounded hcount) (bounded_start graphs)

/-- One key of the graph, and the end of the walk. -/
theorem scrapes_statusPages : EachStep perform Scrapes { scraper := { graphs := statusGraphs } }
    [.scrapingStart 1 1, .scrapingNextWithValidation .equipmentStatus, .statusMessage,
      .statusMessage, .scrapingNextWithValidation .setTime] :=
  scrapes_of_counts statusGraphs _ (by decide)

/-! ### A count that wraps around -/

/-- The page is missed, and Back pressed twenty times before the recovery is broken off. -/
def longRecovery : List ScrapeCall :=
  [.scrapingStart 1 1, .scrapingNextWithValidation .boost] ++
    (replicate 20 [.scrapingNextWithValidation .boost, .statusMessage]).flatten ++
    [.resetRecoveryState]

/-- The page is missed, and the recovery broken off. -/
def missAndReset : List ScrapeCall :=
  [.scrapingStart 1 1, .scrapingNextWithValidation .boost, .resetRecoveryState]

def afterMisses (attempts : UInt32) : ScrapeWatch where
  scraper := {
    graphs := statusGraphs
    activeScrape := some (1, {
      vertex := { id := 2, page := .setTime }
      edge := { keyCommand := .select }
      visited := [2, 1] })
    recoveryAttempts := attempts }
  recoveryKeys := 20

theorem foldl_missAndReset (attempts : UInt32) :
    missAndReset.foldl perform (afterMisses attempts) = afterMisses (attempts + 1) := by
  have hmisses : perform (perform (afterMisses attempts) (.scrapingStart 1 1))
        (.scrapingNextWithValidation .boost) =
      { afterMisses attempts with
        scraper := { (afterMisses attempts).scraper with
          expectedSource := .equipmentStatus }.initiateRecovery } := rfl
  change perform (perform (perform (afterMisses attempts) (.scrapingStart 1 1))
    (.scrapingNextWithValidation .boost)) .resetRecoveryState = _
  rw [hmisses, perform, Scrapeable.initiateRecovery]
  split <;> rfl

theorem foldl_replicate_missAndReset (count : ℕ) (attempts : UInt32) :
    (replicate count missAndReset).flatten.foldl perform (afterMisses attempts) =
      afterMisses (attempts + UInt32.ofNat count) := by
  induction count generalizing attempts with
  | zero => rw [replicate_zero, flatten_nil, foldl_nil]; simp
  | succ count ih =>
    rw [replicate_succ, flatten_cons, foldl_append, foldl_missAndReset, ih, UInt32.ofNat_add]
    congr 1
    rw [UInt32.add_comm (UInt32.ofNat count), ← UInt32.add_assoc]
    rfl

set_option maxRecDepth 10000 in
/-- With the count back at its start, there are as many keys for the recovery again. -/
theorem not_scrapes_wrapped :
    ¬ EachStep perform Scrapes { scraper := { graphs := statusGraphs } }
      (longRecovery ++ missAndReset ++ (replicate 4294967293 missAndReset).flatten ++
        longRecovery) := by
  intro h
  rw [eachStep_append, foldl_append] at h
  have hfirst : (longRecovery ++ missAndReset).foldl perform
      { scraper := { graphs := statusGraphs } } = afterMisses 3 := rfl
  have hwraps : (3 : UInt32) + UInt32.ofNat 4294967293 = 0 := by decide
  rw [hfirst, foldl_replicate_missAndReset, hwraps] at h
  have hkeys : (longRecovery.foldl perform (afterMisses 0)).recoveryKeys = 40 := rfl
  have hlast : longRecovery = longRecovery.dropLast ++ [.resetRecoveryState] := rfl
  rw [hlast, foldl_append, foldl_cons, foldl_nil] at hkeys
  have hagain := h.2
  rw [hlast, eachStep_append] at hagain
  have hbounded := hagain.2.1.bounded
  rw [hkeys] at hbounded
  exact absurd hbounded (by decide)

end ScrapeWatch

end AqualinkAutomate.Jandy
