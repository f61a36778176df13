import Aqualink.Navigation.MenuModel

/-!
# The navigator

The navigator drives the cursor of the controller from page to page.  It is given a
goal, then told about every screen, and answers a screen with at most one key.

While it answers, its functions call each other, always as the last thing they do:

```text
  OnPageUpdate ─┬─> HandleWaitingForPage ─┬─> ExecuteNextStep <──> MoveCursorToTarget
                ├─> ExecuteNextStep       │         ^ │                  ^
                ├─> MoveCursorToTarget    │         │ v                  │
                └─> RecoveryNext   <──────┴──> RecoveryNext ─────────────┘
```

So each of them is one pass that ends with a key, with nothing to press, or with the
next `Call`; `step` is the pass of a call.  Nothing bounds the number of calls, and
what an update returns is what iterating `step` returns.
-/

namespace AqualinkAutomate.Navigation

open General

inductive NavKeyCommand where
  | noCommand | pageDownOrSelect1 | back | pageUpOrSelect3 | select | lineDown | lineUp
  deriving DecidableEq

inductive NavigatorState where
  | idle | syncing | navigating | waitingForPage | movingCursor | enteringPassword | reorienting
  | atDestination | failed
  deriving DecidableEq

abbrev maxRecoveryAttempts : UInt32 := 3
abbrev maxBackPresses : UInt32 := 10
abbrev maxRecomputeCount : UInt32 := 50
abbrev maxStuckRecomputes : UInt32 := 3
abbrev maxWaitCycles : UInt32 := 100
abbrev maxTransientWaits : UInt32 := 20
abbrev maxCursorMoves : UInt32 := 15
abbrev maxItemScrollAttempts : UInt32 := 6
abbrev maxCursorStuckCount : UInt32 := 5
abbrev syncRequiredConsistentCount : UInt32 := 3

abbrev cursorLineNone : UInt8 := 0xFF

/-- The state of a navigator.  A new one has every field at its default. -/
structure Navigator where
  state : NavigatorState := .idle
  currentPage : PageId := .unknown
  targetPage : PageId := .unknown
  cursorLine : UInt8 := 0
  targetCursorLine : UInt8 := 0
  path : List MenuEdge := []
  pathIndex : ℕ := 0
  pendingStatusMessages : UInt32 := 0
  recoveryAttempts : UInt32 := 0
  recoveryBackPresses : UInt32 := 0
  navigatingToItem : Bool := false
  targetItemLine : UInt8 := 0
  itemLabel : Text := []
  selectTarget : PageId := .unknown
  itemScrollAttempts : UInt32 := 0
  previousCursorLine : UInt8 := 0
  cursorStuckCount : UInt32 := 0
  skipCursorCheck : Bool := false
  currentContent : Option ScreenDataPage := none
  currentEdge : Option MenuEdge := none
  cursorMoveCount : UInt32 := 0
  passwordDigitIndex : UInt8 := 0
  waitCycleCount : UInt32 := 0
  recomputeCount : UInt32 := 0
  lastRecomputeActual : PageId := .unknown
  lastRecomputeTarget : PageId := .unknown
  stuckRecomputeCount : UInt32 := 0
  transientWaitCount : UInt32 := 0
  syncDetectedPage : PageId := .unknown
  syncConsistentCount : UInt32 := 0
  deriving DecidableEq

inductive Call where
  | onPageUpdate (content : ScreenDataPage) (highlightedLine : UInt8)
  | handleWaitingForPage
  | executeNextStep
  | moveCursorToTarget
  | recoveryNext
  deriving DecidableEq

/-- The navigator afterwards and the key to press. -/
abbrev Answer : Type := Navigator × Option NavKeyCommand

abbrev Step : Type := Pass (Call × Navigator) Answer

namespace Navigator

/-! ## Goals -/

/-- Find out from the screens where the keypad is. -/
def startSync (nav : Navigator) : Navigator :=
  { nav with
    state := .syncing
    currentPage := .unknown
    syncDetectedPage := .unknown
    syncConsistentCount := 0
    transientWaitCount := 0 }

/-- What both kinds of goal reset. -/
def beginNavigation (nav : Navigator) : Navigator :=
  { nav with
    pathIndex := 0
    path := []
    state := .navigating
    pendingStatusMessages := 0
    recomputeCount := 0
    stuckRecomputeCount := 0
    lastRecomputeActual := .unknown
    lastRecomputeTarget := .unknown
    recoveryAttempts := 0
    recoveryBackPresses := 0
    transientWaitCount := 0 }

def navigateTo (nav : Navigator) (target : PageId) : Navigator :=
  { nav with
    targetPage := target
    navigatingToItem := false
    selectTarget := .unknown }.beginNavigation

/-- Go to a page and to an item on it: by its label or, without one, by its line. -/
def navigateToItem (nav : Navigator) (page : PageId) (menuItemLine : UInt8) (itemLabel : Text)
    (selectTarget : PageId) : Navigator :=
  { nav with
    targetPage := page
    navigatingToItem := true
    targetItemLine := menuItemLine
    itemLabel := itemLabel
    selectTarget := selectTarget
    itemScrollAttempts := 0 }.beginNavigation

/-- One of the status messages that follow a key is here. -/
def onStatusMessageReceived (nav : Navigator) : Navigator :=
  if 0 < nav.pendingStatusMessages then
    { nav with pendingStatusMessages := nav.pendingStatusMessages - 1 }
  else nav

def reset (nav : Navigator) : Navigator :=
  { nav with
    state := .idle
    currentPage := .unknown
    targetPage := .unknown
    path := []
    pathIndex := 0
    pendingStatusMessages := 0
    recoveryAttempts := 0
    recoveryBackPresses := 0
    navigatingToItem := false
    selectTarget := .unknown
    cursorStuckCount := 0
    previousCursorLine := 0
    skipCursorCheck := false
    passwordDigitIndex := 0
    waitCycleCount := 0
    recomputeCount := 0
    stuckRecomputeCount := 0
    lastRecomputeActual := .unknown
    lastRecomputeTarget := .unknown
    transientWaitCount := 0
    syncDetectedPage := .unknown
    syncConsistentCount := 0
    currentContent := none
    currentEdge := none
    cursorMoveCount := 0 }

/-! ## How a pass ends -/

/-- Nothing to press. -/
def stop (nav : Navigator) : Step := .done (nav, none)

def press (nav : Navigator) (key : NavKeyCommand) : Step := .done (nav, some key)

def tailCall (nav : Navigator) (call : Call) : Step := .again (call, nav)

/-! ## Lookups on the current screen -/

def findLineByLabel (nav : Navigator) (label : Text) : Option UInt8 :=
  nav.currentContent.bind fun content => content.findLineByLabel label

def edgeLine (nav : Navigator) (edge : MenuEdge) : UInt8 :=
  (nav.findLineByLabel edge.label).getD edge.triggerLine

def isBlockingPage (page : PageId) : Bool := page = .service || page = .timeOut

/-! ## Recovery -/

/-- The path is given up and the way back begins, three times at most. -/
def initiateRecovery (nav : Navigator) : Navigator :=
  let nav := { nav with recoveryAttempts := nav.recoveryAttempts + 1 }
  if maxRecoveryAttempts < nav.recoveryAttempts then { nav with state := .failed }
  else
    { nav with state := .reorienting, recoveryBackPresses := 0, path := [], pathIndex := 0 }

def pressBack (nav : Navigator) : Step :=
  { nav with
    recoveryBackPresses := nav.recoveryBackPresses + 1
    pendingStatusMessages := 2 }.press .back

def selectSystemLink (nav : Navigator) (page : MenuPage) : Step :=
  match page.edges.find? fun edge => edge.trigger = .select ∧ edge.target = .system with
  | none => { nav with state := .failed }.stop
  | some edge =>
    let nav := { nav with targetCursorLine := nav.edgeLine edge }
    if nav.cursorLine ≠ nav.targetCursorLine then
      { nav with
        currentEdge := some edge
        cursorMoveCount := 0
        state := .movingCursor }.tailCall .moveCursorToTarget
    else { nav with pendingStatusMessages := 2 }.press .select

/-- Back is pressed until the system page shows or a page that links to it. -/
def recoveryNext (model : MenuModel) (nav : Navigator) : Step :=
  if 0 < nav.pendingStatusMessages then nav.stop
  else if isBlockingPage nav.currentPage then { nav with state := .failed }.stop
  else if nav.currentPage = .system then
    { nav with
      state := .navigating
      recoveryBackPresses := 0
      path := []
      pathIndex := 0 }.tailCall .executeNextStep
  else
    match (model.getPage nav.currentPage).filter fun page => !page.supportsKey .back with
    | some page => nav.selectSystemLink page
    | none =>
      if maxBackPresses ≤ nav.recoveryBackPresses then
        let nav := { nav with
          recoveryAttempts := nav.recoveryAttempts + 1
          recoveryBackPresses := 0 }
        if maxRecoveryAttempts ≤ nav.recoveryAttempts then { nav with state := .failed }.stop
        else nav.pressBack
      else nav.pressBack

/-! ## Steps along the path -/

/-- The shortest way to the target; where there is none, the way back begins. -/
def computePath (model : MenuModel) (nav : Navigator) : Navigator :=
  if nav.currentPage = .unknown then nav.initiateRecovery
  else
    let nav := { nav with
      path := model.findPath nav.currentPage nav.targetPage
      pathIndex := 0 }
    if nav.path = [] ∧ nav.currentPage ≠ nav.targetPage then nav.initiateRecovery else nav

def selectItem (nav : Navigator) : Step :=
  { nav with
    targetPage := nav.selectTarget
    navigatingToItem := false
    selectTarget := .unknown
    path := []
    pathIndex := 0
    pendingStatusMessages := 2
    state := .waitingForPage }.press .select

def reachItem (nav : Navigator) (line : UInt8) : Step :=
  let nav := { nav with targetCursorLine := line }
  if nav.cursorLine ≠ nav.targetCursorLine then
    { nav with state := .movingCursor }.tailCall .moveCursorToTarget
  else if nav.selectTarget ≠ .unknown then nav.selectItem
  else { nav with state := .atDestination }.stop

/-- The item is looked for further down, as far as the page scrolls and the budget goes. -/
def scrollToItem (model : MenuModel) (nav : Navigator) : Step :=
  if (model.getPage nav.currentPage).any (fun page => page.supportsKey .pageDown) ∧
      nav.itemScrollAttempts < maxItemScrollAttempts then
    { nav with
      itemScrollAttempts := nav.itemScrollAttempts + 1
      pendingStatusMessages := 1
      state := .waitingForPage }.press .pageDownOrSelect1
  else { nav with state := .failed }.stop

def reachTarget (model : MenuModel) (nav : Navigator) : Step :=
  if nav.navigatingToItem then
    if nav.itemLabel = [] then nav.reachItem nav.targetItemLine
    else
      match nav.findLineByLabel nav.itemLabel with
      | some line => nav.reachItem line
      | none => nav.scrollToItem model
  else { nav with state := .atDestination }.stop

/-- The key of an edge, and how many status messages to wait for behind it; the
involuntary edges have neither. -/
def triggerKey : EdgeTrigger → NavKeyCommand × Option UInt32
  | .select => (.select, some 2)
  | .back => (.back, some 2)
  | .lineUp => (.lineUp, some 1)
  | .lineDown => (.lineDown, some 1)
  | .pageUp => (.pageUpOrSelect3, some 1)
  | .pageDown => (.pageDownOrSelect1, some 1)
  | .systemTimeout | .systemService => (.noCommand, none)

/-- The key of an edge, once the cursor is where the edge begins. -/
def executeEdge (nav : Navigator) (edge : MenuEdge) : Step :=
  if edge.trigger = .select ∧ nav.skipCursorCheck = false ∧ nav.cursorLine ≠ nav.edgeLine edge then
    { nav with
      targetCursorLine := nav.edgeLine edge
      currentEdge := some edge
      cursorMoveCount := 0
      state := .movingCursor }.tailCall .moveCursorToTarget
  else
    { nav with
      skipCursorCheck := false
      pathIndex := nav.pathIndex + 1
      pendingStatusMessages := (triggerKey edge.trigger).2.getD nav.pendingStatusMessages
      state := .waitingForPage }.press (triggerKey edge.trigger).1

def followPath (model : MenuModel) (nav : Navigator) : Step :=
  if nav.currentPage = nav.targetPage then nav.reachTarget model
  else
    match nav.path[nav.pathIndex]? with
    | none => { nav with path := [] }.tailCall .executeNextStep
    | some edge => nav.executeEdge edge

def executeNextStep (model : MenuModel) (nav : Navigator) : Step :=
  if nav.path = [] ∧ nav.currentPage ≠ nav.targetPage then
    let nav := nav.computePath model
    if nav.state = .reorienting then nav.tailCall .recoveryNext else nav.followPath model
  else nav.followPath model

/-! ## Moving the cursor -/

def pressCursorKey (nav : Navigator) : Step :=
  { nav with
    previousCursorLine := nav.cursorLine
    pendingStatusMessages := 1 }.press
      (if nav.cursorLine < nav.targetCursorLine then .lineDown else .lineUp)

def acceptCursorLine (nav : Navigator) : Step :=
  { nav with
    targetCursorLine := nav.cursorLine
    skipCursorCheck := true
    state := .navigating }.tailCall .executeNextStep

def keepMoving (nav : Navigator) : Step :=
  if nav.cursorLine = nav.previousCursorLine ∧ 0 < nav.cursorStuckCount then
    if maxCursorStuckCount ≤ nav.cursorStuckCount + 1 then
      if nav.navigatingToItem then { nav with cursorStuckCount := 0, state := .failed }.stop
      else { nav with cursorStuckCount := 0 }.acceptCursorLine
    else { nav with cursorStuckCount := nav.cursorStuckCount + 1 }.pressCursorKey
  else { nav with cursorStuckCount := 1 }.pressCursorKey

def giveUpCursorMove (nav : Navigator) : Step :=
  if nav.navigatingToItem then { nav with cursorMoveCount := 0, state := .failed }.stop
  else { nav with cursorMoveCount := 0 }.acceptCursorLine

/-- `AttemptWrapRecovery`: the line where the label of the edge is now, if it is another
one than the target. -/
def wrapRecoveryLine (nav : Navigator) : Option UInt8 :=
  (nav.currentEdge.bind fun edge => nav.findLineByLabel edge.label).filter
    fun line => line ≠ nav.targetCursorLine

def moveCursorToTarget (nav : Navigator) : Step :=
  if nav.cursorLine = nav.targetCursorLine then
    { nav with
      cursorStuckCount := 0
      cursorMoveCount := 0
      state := .navigating }.tailCall .executeNextStep
  else if 0 < nav.pendingStatusMessages then nav.stop
  else if maxCursorMoves < nav.cursorMoveCount + 1 then
    match nav.wrapRecoveryLine with
    | none => nav.giveUpCursorMove
    | some line =>
      if nav.cursorLine = line then
        { nav with
          targetCursorLine := line
          cursorMoveCount := 0
          cursorStuckCount := 0
          state := .navigating }.tailCall .executeNextStep
      else { nav with targetCursorLine := line, cursorMoveCount := 0 }.keepMoving
  else { nav with cursorMoveCount := nav.cursorMoveCount + 1 }.keepMoving

/-! ## Waiting for a page -/

/-- Wait for a splash page to clear; `none` if there is nothing to wait for or the wait
has been too long. -/
def handleTransientPage (model : MenuModel) (nav : Navigator) (actual : PageId) :
    Navigator × Bool :=
  if actual = .unknown ∨ (model.getPage actual).any MenuPage.isTransient = false then (nav, false)
  else
    let nav := { nav with
      currentPage := actual
      transientWaitCount := nav.transientWaitCount + 1 }
    if nav.transientWaitCount ≤ maxTransientWaits then
      ({ nav with state := .waitingForPage, pendingStatusMessages := 0 }, true)
    else (nav, false)

/-- The third path in a row to one target fails the navigation. -/
def detectStuckRecompute (nav : Navigator) (actual : PageId) : Navigator × Bool :=
  if nav.targetPage = nav.lastRecomputeTarget then
    if maxStuckRecomputes ≤ nav.stuckRecomputeCount + 1 then
      ({ nav with
          stuckRecomputeCount := 0
          lastRecomputeActual := .unknown
          lastRecomputeTarget := .unknown
          state := .failed }, true)
    else
      ({ nav with
          stuckRecomputeCount := nav.stuckRecomputeCount + 1
          lastRecomputeActual := actual }, false)
  else
    ({ nav with
        stuckRecomputeCount := 1
        lastRecomputeTarget := nav.targetPage
        lastRecomputeActual := actual }, false)

def recomputePath (model : MenuModel) (nav : Navigator) (actual : PageId) : Navigator :=
  if actual = .unknown then nav.initiateRecovery
  else
    let nav := { nav with
      currentPage := actual
      pathIndex := 0
      path := model.findPath actual nav.targetPage }
    if nav.path = [] then nav.initiateRecovery else { nav with state := .navigating }

/-- Look for another path, but not too often. -/
def recompute (model : MenuModel) (nav : Navigator) (actual : PageId) : Navigator :=
  match { nav with recomputeCount := nav.recomputeCount + 1 }.detectStuckRecompute actual with
  | (nav, true) => nav
  | (nav, false) =>
    if maxRecomputeCount ≤ nav.recomputeCount then { nav with state := .failed }
    else nav.recomputePath model actual

def handleUnexpectedPage (model : MenuModel) (nav : Navigator) (actual : PageId) : Navigator :=
  match nav.handleTransientPage model actual with
  | (nav, true) => nav
  | (nav, false) => nav.recompute model actual

/-- The last step led to another page than the model says. -/
def AtUnexpectedPage (nav : Navigator) : Prop :=
  0 < nav.pathIndex ∧ (nav.path[nav.pathIndex - 1]?).any fun edge =>
    nav.currentPage ≠ edge.target ∧ edge.target ≠ .unknown

instance (nav : Navigator) : Decidable nav.AtUnexpectedPage :=
  inferInstanceAs (Decidable (_ ∧ _))

def handleWaitingForPage (model : MenuModel) (nav : Navigator) : Step :=
  if 0 < nav.pendingStatusMessages then nav.stop
  else if nav.AtUnexpectedPage then
    let nav := nav.handleUnexpectedPage model nav.currentPage
    match nav.state with
    | .navigating => nav.tailCall .executeNextStep
    | .reorienting => nav.tailCall .recoveryNext
    | _ => nav.stop
  else { nav with state := .navigating }.tailCall .executeNextStep

/-! ## A screen update -/

/-- The sync is over when one page has come three times in a row. -/
def handleSyncing (nav : Navigator) (detected : PageId) : Navigator :=
  if detected = .unknown ∨ detected = .startUp ∨ detected = .service ∨ detected = .timeOut then
    { nav with syncConsistentCount := 0, syncDetectedPage := .unknown }
  else
    let nav :=
      if detected = nav.syncDetectedPage then
        { nav with syncConsistentCount := nav.syncConsistentCount + 1 }
      else { nav with syncDetectedPage := detected, syncConsistentCount := 1 }
    if syncRequiredConsistentCount ≤ nav.syncConsistentCount then
      { nav with
        currentPage := nav.syncDetectedPage
        state := .idle
        syncDetectedPage := .unknown
        syncConsistentCount := 0 }
    else nav

def handleSpecialPage (nav : Navigator) : Navigator :=
  if nav.currentPage = .service then { nav with state := .failed }
  else { nav with pendingStatusMessages := 2 }

def handlePasswordEntry (nav : Navigator) : Step :=
  { nav with
    passwordDigitIndex := 0
    pendingStatusMessages := 2
    state := .waitingForPage }.press .back

def receiveScreen (nav : Navigator) (content : ScreenDataPage) (highlightedLine : UInt8) :
    Navigator :=
  { nav with
    currentContent := some content
    cursorLine := if highlightedLine = cursorLineNone then nav.cursorLine else highlightedLine }

def receivePage (nav : Navigator) (detected : PageId) : Navigator :=
  { nav with currentPage := if detected = .unknown then nav.currentPage else detected }

/-- What the state does with the screen. -/
def dispatch (nav : Navigator) : Step :=
  match nav.state with
  | .waitingForPage => nav.tailCall .handleWaitingForPage
  | .movingCursor => nav.tailCall .moveCursorToTarget
  | .navigating => nav.tailCall .executeNextStep
  | .reorienting => nav.tailCall .recoveryNext
  | .enteringPassword => nav.handlePasswordEntry
  | .idle | .atDestination | .failed | .syncing => nav.stop

/-- A key that is not answered in a hundred screens begins the way back. -/
def awaitAnswer (nav : Navigator) : Step :=
  if nav.state = .waitingForPage ∧ 0 < nav.pendingStatusMessages then
    if maxWaitCycles ≤ nav.waitCycleCount + 1 then
      { nav with waitCycleCount := 0 }.initiateRecovery.tailCall .recoveryNext
    else { nav with waitCycleCount := nav.waitCycleCount + 1 }.dispatch
  else { nav with waitCycleCount := 0 }.dispatch

/-- `OnPageUpdate`.  With and without a configured password the navigator backs out of a
password prompt. -/
def onPageUpdate (model : MenuModel) (nav : Navigator) (content : ScreenDataPage)
    (highlightedLine : UInt8) : Step :=
  let detected := model.detectPage content
  let nav := nav.receiveScreen content highlightedLine
  if nav.state = .syncing then (nav.handleSyncing detected).stop
  else
    let nav := nav.receivePage detected
    if isBlockingPage nav.currentPage then nav.handleSpecialPage.stop
    else if nav.currentPage = .enterPassword ∧ nav.state ≠ .enteringPassword then
      { nav with pendingStatusMessages := 2 }.press .back
    else nav.awaitAnswer

end Navigator

/-- The pass of a call. -/
def step (model : MenuModel) : Call × Navigator → Step
  | (.onPageUpdate content highlightedLine, nav) => nav.onPageUpdate model content highlightedLine
  | (.handleWaitingForPage, nav) => nav.handleWaitingForPage model
  | (.executeNextStep, nav) => nav.executeNextStep model
  | (.moveCursorToTarget, nav) => nav.moveCursorToTarget
  | (.recoveryNext, nav) => nav.recoveryNext model

/-! ## Runs -/

/-- What a navigator is told. -/
inductive NavigatorEvent where
  | startSync
  | navigateTo (target : PageId)
  | navigateToItem (page : PageId) (menuItemLine : UInt8) (itemLabel : Text) (selectTarget : PageId)
  | reset
  | statusMessage
  | pageUpdate (content : ScreenDataPage) (highlightedLine : UInt8)
  deriving DecidableEq

/-- An event is handled with an answer.  Only a screen update may have none. -/
def Answers (model : MenuModel) (nav : Navigator) : NavigatorEvent → Answer → Prop
  | .startSync, answer => answer = (nav.startSync, none)
  | .navigateTo target, answer => answer = (nav.navigateTo target, none)
  | .navigateToItem page line label selectTarget, answer =>
    answer = (nav.navigateToItem page line label selectTarget, none)
  | .reset, answer => answer = (nav.reset, none)
  | .statusMessage, answer => answer = (nav.onStatusMessageReceived, none)
  | .pageUpdate content line, answer =>
    Returns (step model) (.onPageUpdate content line, nav) answer

def respond (model : MenuModel) (fuel : ℕ) (nav : Navigator) : NavigatorEvent → Option Answer
  | .startSync => some (nav.startSync, none)
  | .navigateTo target => some (nav.navigateTo target, none)
  | .navigateToItem page line label selectTarget =>
    some (nav.navigateToItem page line label selectTarget, none)
  | .reset => some (nav.reset, none)
  | .statusMessage => some (nav.onStatusMessageReceived, none)
  | .pageUpdate content line => iterate (step model) fuel (.onPageUpdate content line, nav)

variable {model : MenuModel} {nav : Navigator} {event : NavigatorEvent}

theorem Answers.of_respond {fuel : ℕ} {answer : Answer}
    (h : respond model fuel nav event = some answer) : Answers model nav event answer := by
  cases event with
  | pageUpdate content line => exact ⟨fuel, h⟩
  | startSync | navigateTo | navigateToItem | reset | statusMessage =>
    exact (Option.some_inj.mp h).symm

theorem Answers.unique {answer answer' : Answer} (h : Answers model nav event answer)
    (h' : Answers model nav event answer') : answer = answer' := by
  cases event with
  | pageUpdate content line => exact Returns.unique h h'
  | startSync | navigateTo | navigateToItem | reset | statusMessage => exact h.trans h'.symm

/-- The states that a navigator can be in between two events. -/
inductive Reachable (model : MenuModel) : Navigator → Prop where
  | start : Reachable model {}
  | next {nav : Navigator} {event : NavigatorEvent} {answer : Answer} (h : Reachable model nav)
      (hanswers : Answers model nav event answer) : Reachable model answer.1

/-- A run of events, if no answer takes more passes than that. -/
def run (model : MenuModel) (fuel : ℕ) : Navigator → List NavigatorEvent → Option Navigator
  | nav, [] => some nav
  | nav, event :: events =>
    match respond model fuel nav event with
    | none => none
    | some answer => run model fuel answer.1 events

theorem Reachable.run {fuel : ℕ} {nav' : Navigator} {events : List NavigatorEvent}
    (h : Reachable model nav) (hrun : Navigation.run model fuel nav events = some nav') :
    Reachable model nav' := by
  induction events generalizing nav with
  | nil =>
    obtain rfl : nav = nav' := Option.some_inj.mp hrun
    exact h
  | cons event events ih =>
    unfold Navigation.run at hrun
    cases hrespond : respond model fuel nav event with
    | none =>
      rw [hrespond] at hrun
      cases hrun
    | some answer =>
      rw [hrespond] at hrun
      exact ih (h.next (.of_respond hrespond)) hrun

end AqualinkAutomate.Navigation
