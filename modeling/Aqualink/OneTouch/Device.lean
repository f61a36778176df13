import Aqualink.Navigation.SpiderEngine
import Aqualink.OneTouch.Keypad
import Aqualink.OneTouch.Screen

/-!
# The emulated keypad

The OneTouch device plays a keypad to the controller: it draws the screen that it is sent
and answers every message with an acknowledgement, which may carry a key.  This is the
device in normal operation, while it is emulated.

Two things work on the keypad, and both are stepped with every message.

* A *goal* that was requested.
* The *setpoint refresh*, which crawls to the page of the chlorinator from time to time.

The key that a step emits is put into `keyCommandToSend`.  The controller takes keys only
from the acknowledgement of a status message, so that is where the key leaves, while the
acknowledgement of any other message is empty.

A device records in its `log` what happens to the keypad.
-/

namespace AqualinkAutomate.OneTouch

open Navigation

/-! ## When to refresh the setpoint -/

/-- The periodic reading of the setpoint; times are those of the monotonic clock. -/
structure ChlorinatorSetpointRefresh where
  enabled : Bool := false
  interval : ℤ := 0
  startupComplete : Bool := false
  prevOnline : Bool := false
  onlineInitialised : Bool := false
  recoveryPending : Bool := false
  lastScrape : ℤ := 0
  deriving DecidableEq

inductive RefreshAction where
  | none | scrape
  deriving DecidableEq

namespace ChlorinatorSetpointRefresh

def notifyScrapeStarted (refresh : ChlorinatorSetpointRefresh) (now : ℤ) :
    ChlorinatorSetpointRefresh :=
  { refresh with recoveryPending := false, lastScrape := now }

def notifyScrapeFinished (refresh : ChlorinatorSetpointRefresh) (now : ℤ) :
    ChlorinatorSetpointRefresh :=
  { refresh with lastScrape := now }

/-- The chlorinator coming back asks for a refresh; that it is there at first does not. -/
def observeOnline (refresh : ChlorinatorSetpointRefresh) (online : Bool) :
    ChlorinatorSetpointRefresh :=
  { refresh with
    recoveryPending :=
      refresh.recoveryPending || (refresh.onlineInitialised && online && !refresh.prevOnline)
    prevOnline := online
    onlineInitialised := true }

def evaluate (refresh : ChlorinatorSetpointRefresh)
    (emulationActive goalInProgress chlorinatorOnline : Bool) (now : ℤ) :
    ChlorinatorSetpointRefresh × RefreshAction :=
  let refresh := refresh.observeOnline chlorinatorOnline
  if refresh.enabled = false ∨ refresh.interval ≤ 0 ∨ emulationActive = false ∨
      goalInProgress = true ∨ refresh.startupComplete = false then
    (refresh, .none)
  else if refresh.recoveryPending = true ∨ refresh.interval ≤ now - refresh.lastScrape then
    (refresh, .scrape)
  else
    (refresh, .none)

theorem evaluate_goalInProgress (refresh : ChlorinatorSetpointRefresh)
    (emulationActive chlorinatorOnline : Bool) (now : ℤ) :
    (refresh.evaluate emulationActive true chlorinatorOnline now).2 = .none := by
  simp [evaluate]

end ChlorinatorSetpointRefresh

/-! ## The device -/

inductive AckType where
  | v1Normal | v2Normal
  deriving DecidableEq

inductive KeypadEvent where
  /-- A goal or the refresh takes a step, while that key waits to be sent. -/
  | step (waiting : KeyCommand)
  | emit (key : KeyCommand)
  | acknowledge (toStatus : Bool) (ackType : AckType) (key : KeyCommand)
  | goalEnded (status : GoalStatus)
  deriving DecidableEq

structure OneTouchDevice (γ : Type*) where
  spiderEngine : SpiderEngine := {}
  activeGoal : Option γ := none
  refreshState : ChlorinatorSetpointRefresh := {}
  refreshInProgress : Bool := false
  refreshStepCount : ℕ := 0
  displayedPage : ScreenDataPage
  highlightedLine : UInt8 := 0
  keyCommandToSend : KeyCommand := .noKeyCommand
  ackTypeToSend : AckType := .v2Normal
  log : List KeypadEvent := []

abbrev pageLines : UInt8 := 12
abbrev setpointRefreshStepLimit : ℕ := 500

/-- What a message finds around the device: the chlorinator, and the clock when the device
decides on a refresh and when it notes that one has begun or ended. -/
structure Surroundings where
  chlorinatorOnline : Bool := false
  evaluatedAt : ℤ := 0
  notedAt : ℤ := 0
  deriving DecidableEq

namespace OneTouchDevice

variable {γ : Type*}

def record (device : OneTouchDevice γ) (event : KeypadEvent) : OneTouchDevice γ :=
  { device with log := device.log ++ [event] }

def recordStep (device : OneTouchDevice γ) : OneTouchDevice γ :=
  device.record (.step device.keyCommandToSend)

/-- A key that is emitted takes the place of the one that waits. -/
def queueKey (device : OneTouchDevice γ) (key : Option NavKeyCommand) : OneTouchDevice γ :=
  match key with
  | none => device
  | some key =>
    { device with keyCommandToSend := convertNavKeyCommand key }.record
      (.emit (convertNavKeyCommand key))

def withNavigator (device : OneTouchDevice γ) (navigator : Navigator) : OneTouchDevice γ :=
  { device with spiderEngine := { device.spiderEngine with navigator := navigator } }

def resetNavigator (device : OneTouchDevice γ) : OneTouchDevice γ :=
  device.withNavigator device.spiderEngine.navigator.reset

def goalInProgress (device : OneTouchDevice γ) : Bool :=
  device.activeGoal.isSome || device.refreshInProgress

/-! ### Goals -/

def keypadContext (device : OneTouchDevice γ) : KeypadContext where
  page := device.displayedPage
  highlightedLine := device.highlightedLine
  navigator := device.spiderEngine.navigator

def settleGoal (device : OneTouchDevice γ) (goal : γ) (status : GoalStatus) : OneTouchDevice γ :=
  match status with
  | .running => { device with activeGoal := some goal }
  | status => { device with activeGoal := none }.resetNavigator.record (.goalEnded status)

def takeGoalStep (device : OneTouchDevice γ) (result : GoalStep γ) : OneTouchDevice γ :=
  ((device.withNavigator result.context.navigator).settleGoal result.goal result.status).queueKey
    result.context.emittedKey

def serviceActiveGoal [KeypadGoal γ] (model : MenuModel) (fuel : ℕ) (device : OneTouchDevice γ) :
    Option (OneTouchDevice γ) :=
  match device.activeGoal with
  | none => some device
  | some goal =>
    (KeypadGoal.step model fuel goal device.keypadContext).map device.recordStep.takeGoalStep

/-! ### The setpoint refresh -/

def finishRefresh (device : OneTouchDevice γ) (surroundings : Surroundings) : OneTouchDevice γ :=
  { device with
    refreshInProgress := false
    refreshState := device.refreshState.notifyScrapeFinished surroundings.notedAt }.resetNavigator

def stepCrawl (model : MenuModel) (fuel : ℕ) (device : OneTouchDevice γ) :
    Option (OneTouchDevice γ × Option NavKeyCommand) :=
  (device.spiderEngine.processStep model fuel device.displayedPage device.highlightedLine).map
    fun answer => ({ device.recordStep with spiderEngine := answer.1 }, answer.2)

/-- Go on with the refresh, unless it takes too long.  The last step of a crawl emits no
key. -/
def continueRefresh (model : MenuModel) (fuel : ℕ) (surroundings : Surroundings)
    (device : OneTouchDevice γ) : Option (OneTouchDevice γ) :=
  let device := { device with refreshStepCount := device.refreshStepCount + 1 }
  if setpointRefreshStepLimit < device.refreshStepCount then
    -- the key of the step before may still wait
    some (device.finishRefresh surroundings)
  else
    (device.stepCrawl model fuel).map fun (device, key) =>
      if device.spiderEngine.state = .complete ∨ device.spiderEngine.state = .failed then
        device.finishRefresh surroundings
      else
        device.queueKey key

def beginRefresh (model : MenuModel) (surroundings : Surroundings) (device : OneTouchDevice γ) :
    OneTouchDevice γ :=
  { device with
    spiderEngine :=
      device.spiderEngine.startCrawl model (some (targetedVisitPolicy {.setAquapure}))
    refreshInProgress := true
    refreshStepCount := 0
    refreshState := device.refreshState.notifyScrapeStarted surroundings.notedAt }

def evaluateRefresh (surroundings : Surroundings) (device : OneTouchDevice γ) :
    ChlorinatorSetpointRefresh × RefreshAction :=
  device.refreshState.evaluate true device.goalInProgress surroundings.chlorinatorOnline
    surroundings.evaluatedAt

/-- `SetpointRefresh_ProcessStep`.  A refresh that is started takes its first step at once. -/
def setpointRefreshStep (model : MenuModel) (fuel : ℕ) (surroundings : Surroundings)
    (device : OneTouchDevice γ) : Option (OneTouchDevice γ) :=
  if device.refreshInProgress then
    device.continueRefresh model fuel surroundings
  else
    let (refreshState, action) := device.evaluateRefresh surroundings
    let device := { device with refreshState := refreshState }
    match action with
    | .none => some device
    | .scrape =>
      ((device.beginRefresh model surroundings).stepCrawl model fuel).map fun (device, key) =>
        device.queueKey key

/-! ### Messages -/

def acknowledge (toStatus : Bool) (device : OneTouchDevice γ) : OneTouchDevice γ :=
  if toStatus = true ∧ device.keyCommandToSend ≠ .noKeyCommand then
    { device with keyCommandToSend := .noKeyCommand }.record
      (.acknowledge true .v1Normal device.keyCommandToSend)
  else
    device.record (.acknowledge toStatus device.ackTypeToSend .noKeyCommand)

def processControllerUpdates [KeypadGoal γ] (model : MenuModel) (fuel : ℕ)
    (surroundings : Surroundings) (toStatus : Bool) (device : OneTouchDevice γ) :
    Option (OneTouchDevice γ) :=
  ((device.serviceActiveGoal model fuel).bind
    (setpointRefreshStep model fuel surroundings)).map (acknowledge toStatus)

/-- The line that a message highlights.  One that the screen does not have leaves the
cursor where it is. -/
def takeHighlight (device : OneTouchDevice γ) (line : UInt8) : OneTouchDevice γ :=
  if line = ScreenDataPage.clearHighlights ∨ line < pageLines then
    { device with highlightedLine := line }
  else
    device

def takeMessage (device : OneTouchDevice γ) (message : BusMessage) : OneTouchDevice γ :=
  let device := { device with displayedPage := message.draw device.displayedPage }
  match message with
  | .highlight line => device.takeHighlight line
  | .status => device.withNavigator device.spiderEngine.navigator.onStatusMessageReceived
  | _ => device

/-- The acknowledgements of the start-up end with the first status message. -/
def afterStatus (device : OneTouchDevice γ) : OneTouchDevice γ :=
  if device.ackTypeToSend = .v1Normal then { device with ackTypeToSend := .v2Normal } else device

/-- A message for a line that the screen does not have is dropped. -/
def receive [KeypadGoal γ] (model : MenuModel) (fuel : ℕ) (surroundings : Surroundings)
    (device : OneTouchDevice γ) (message : BusMessage) : Option (OneTouchDevice γ) :=
  match message with
  | .messageLong line _ =>
    if pageLines ≤ line then
      some device
    else
      (device.takeMessage message).processControllerUpdates model fuel surroundings false
  | .status =>
    ((device.takeMessage message).processControllerUpdates model fuel surroundings true).map
      afterStatus
  | _ => (device.takeMessage message).processControllerUpdates model fuel surroundings false

/-! ### Requests -/

def requestGoal (device : OneTouchDevice γ) (goal : γ) : OneTouchDevice γ :=
  if device.goalInProgress then device else { device with activeGoal := some goal }

def requestFullRediscovery (model : MenuModel) (device : OneTouchDevice γ) : OneTouchDevice γ :=
  if device.spiderEngine.state ≠ .idle then
    device
  else
    { device with
      spiderEngine :=
        device.spiderEngine.startCrawl model (some (fullDiscoveryVisitPolicy false)) }

end OneTouchDevice

/-- What a device is told. -/
inductive DeviceEvent (γ : Type*) where
  | message (message : BusMessage) (surroundings : Surroundings)
  | requestGoal (goal : γ)
  | requestFullRediscovery

/-- The device after an event, if no answer of the navigator takes more passes than that. -/
def OneTouchDevice.handle {γ : Type*} [KeypadGoal γ] (model : MenuModel) (fuel : ℕ)
    (device : OneTouchDevice γ) : DeviceEvent γ → Option (OneTouchDevice γ)
  | .message message surroundings => device.receive model fuel surroundings message
  | .requestGoal goal => some (device.requestGoal goal)
  | .requestFullRediscovery => some (device.requestFullRediscovery model)

end AqualinkAutomate.OneTouch
