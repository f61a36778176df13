import Aqualink.Equipment.Actuation
import Aqualink.General.TaggedLog
import Aqualink.OneTouch.Device
import Aqualink.OneTouch.MenuGoals

/-!
# The operating states of the keypad

An emulated device waits for a page that it knows and then crawls through the menu.  When the
crawl is complete, or has been given up for a timeout, the device is in normal operation, where
it takes the steps of its goal and of the setpoint refresh.  If the crawl fails, or no page is
seen in time, the device is at fault, until the controller has shown a page that it knows
three times in a row.  A device that only listens is in normal operation from the start.

The `account` of a message says which of the three parties did what.
-/

namespace AqualinkAutomate.OneTouch

open Equipment General Navigation Scheduling

namespace ChlorinatorSetpointRefresh

def configure (refresh : ChlorinatorSetpointRefresh) (interval : ℤ) :
    ChlorinatorSetpointRefresh :=
  { refresh with interval := interval, enabled := decide (0 < interval) }

def disable (refresh : ChlorinatorSetpointRefresh) : ChlorinatorSetpointRefresh :=
  { refresh with enabled := false }

def markStartupComplete (refresh : ChlorinatorSetpointRefresh) : ChlorinatorSetpointRefresh :=
  { refresh with startupComplete := true }

end ChlorinatorSetpointRefresh

/-! ## The device -/

/-- The devices that there are, by number, and which of them belong to the graph. -/
structure DataHub where
  devices : List ℕ := []
  traits : ℕ → AuxillaryTraits := fun _ => {}
  /-- An operator has declared the device present. -/
  forcedPresent : ℕ → Bool := fun _ => false

namespace DataHub

def isAutoDetected (hub : DataHub) (device : ℕ) : Bool :=
  decide ((hub.traits device).type = some .auxillary) && !hub.forcedPresent device

def clearAutoDetectedAuxillaries (hub : DataHub) : DataHub × ℕ :=
  ({ hub with devices := hub.devices.filter fun device => !hub.isAutoDetected device },
    (hub.devices.filter hub.isAutoDetected).length)

end DataHub

inductive OperatingState where
  | coldStart | startUp | scraping | normalOperation | scrapingFaulted | faultHasOccurred
  deriving DecidableEq

inductive KeypadOwner where
  | activeGoal | setpointRefresh | crawl
  deriving DecidableEq

/-- What a message finds around the device. -/
structure MessageSurroundings extends Surroundings where
  /-- The labels of the auxiliaries are known already. -/
  seededAuxLabels : Bool := false
  deriving DecidableEq

structure OperatingDevice where
  keypad : OneTouchDevice OneTouchGoal
  opState : OperatingState := .coldStart
  emulated : Bool
  suppressed : Bool := false
  scrapingStallCounter : UInt32 := 0
  faultRecoveryStatusCount : UInt32 := 0
  lastRediscoveryClearedCount : ℕ := 0
  hub : DataHub := {}
  /-- What was done on the keypad at the latest message. -/
  account : List (Tagged KeypadOwner KeypadEvent) := []

structure DiscoveryStatusSnapshot where
  inProgress : Bool
  lastClearedCount : ℕ
  deriving DecidableEq

abbrev scrapingStallLimit : UInt32 := 10
abbrev faultRecoveryStatusFrames : UInt32 := 3
abbrev chlorinatorStep : ℕ := 5

namespace OperatingDevice

/-- A device as it is constructed, in front of a blank screen. -/
def initial (emulated : Bool) (hub : DataHub) : OperatingDevice where
  keypad := { displayedPage := ⟨List.replicate pageLines.toNat {}⟩ }
  emulated := emulated
  hub := hub

def emulationActive (device : OperatingDevice) : Bool := device.emulated && !device.suppressed

def work (device : OperatingDevice) (owner : KeypadOwner) (keypad : OneTouchDevice OneTouchGoal) :
    OperatingDevice :=
  { device with
    keypad := keypad
    account := device.account ++
      (keypad.log.drop device.keypad.log.length).map (Tagged.mk owner) }

/-! ### Normal operation -/

def serviceActiveGoal (model : MenuModel) (fuel : ℕ) (device : OperatingDevice) :
    Option OperatingDevice :=
  (device.keypad.serviceActiveGoal model fuel).map (device.work .activeGoal)

/-- A device that does not transmit starts no refresh, but it goes on watching the
chlorinator. -/
def setpointRefreshStep (model : MenuModel) (fuel : ℕ) (surroundings : Surroundings)
    (device : OperatingDevice) : Option OperatingDevice :=
  if device.keypad.refreshInProgress = true ∨ device.emulationActive = true then
    (device.keypad.setpointRefreshStep model fuel surroundings).map (device.work .setpointRefresh)
  else
    some { device with keypad := { device.keypad with
      refreshState := device.keypad.refreshState.observeOnline surroundings.chlorinatorOnline } }

/-! ### The crawl through the menu -/

/-- The crawl is complete.  A panel that has no page for the chlorinator is not to be asked for
its setpoint again. -/
def completeScraping (surroundings : Surroundings) (device : OperatingDevice) : OperatingDevice :=
  let refresh := device.keypad.refreshState
  let refresh :=
    if .setAquapure ∈ device.keypad.spiderEngine.failed then refresh.disable else refresh
  { device with
    keypad := { device.keypad with
      refreshState := refresh.markStartupComplete.notifyScrapeFinished
        surroundings.notedAt }.resetNavigator
    opState := .normalOperation }

/-- A page without links goes away by itself, and the navigator may be waiting for the
controller; otherwise a step without a key counts as a stall. -/
def nextStallCount (model : MenuModel) (device : OperatingDevice) : UInt32 :=
  let detected := model.detectPage device.keypad.displayedPage
  if detected ≠ .unknown ∧ (model.getPage detected).any (fun page => page.edges.isEmpty) then 0
  else if device.keypad.spiderEngine.navigator.state = .waitingForPage ∨
      device.keypad.spiderEngine.navigator.state = .movingCursor then 0
  else if scrapingStallLimit ≤ device.scrapingStallCounter + 1 then 0
  else device.scrapingStallCounter + 1

def continueScraping (model : MenuModel) (device : OperatingDevice) (key : Option NavKeyCommand) :
    OperatingDevice :=
  { device.work .crawl (device.keypad.queueKey key) with
    scrapingStallCounter := if key.isSome then 0 else device.nextStallCount model }

/-- What becomes of the device after a step of the crawl. -/
def settleScraping (model : MenuModel) (surroundings : Surroundings) (device : OperatingDevice)
    (key : Option NavKeyCommand) : OperatingDevice :=
  match device.keypad.spiderEngine.state with
  | .complete => device.completeScraping surroundings
  | .failed => { device with opState := .scrapingFaulted }
  | _ => device.continueScraping model key

/-- `Scraping_ProcessStep`. -/
def scrapingStep (model : MenuModel) (fuel : ℕ) (surroundings : Surroundings)
    (device : OperatingDevice) : Option OperatingDevice :=
  (device.keypad.stepCrawl model fuel).map fun (keypad, key) =>
    (device.work .crawl keypad).settleScraping model surroundings key

def beginScraping (model : MenuModel) (surroundings : MessageSurroundings)
    (device : OperatingDevice) : OperatingDevice :=
  let engine := device.keypad.spiderEngine
  { device with
    keypad := { device.keypad with
      spiderEngine :=
        if engine.state = .idle then
          engine.startCrawl model (some (fullDiscoveryVisitPolicy surroundings.seededAuxLabels))
        else engine }
    opState := .scraping
    scrapingStallCounter := 0 }

/-- `Scraping_ProcessStep_StartUp`. -/
def startUpStep (model : MenuModel) (fuel : ℕ) (surroundings : MessageSurroundings)
    (device : OperatingDevice) : Option OperatingDevice :=
  (device.beginScraping model surroundings).scrapingStep model fuel surroundings.toSurroundings

/-! ### Faults -/

/-- Three pages in a row that the model knows, each shown to its end, lift the fault. -/
def attemptFaultRecovery (model : MenuModel) (toStatus : Bool) (device : OperatingDevice) :
    OperatingDevice :=
  if toStatus = false then device
  else if model.detectPage device.keypad.displayedPage = .unknown then
    { device with faultRecoveryStatusCount := 0 }
  else if device.faultRecoveryStatusCount + 1 < faultRecoveryStatusFrames then
    { device with faultRecoveryStatusCount := device.faultRecoveryStatusCount + 1 }
  else
    { device with
      keypad := { device.keypad with
        refreshState := device.keypad.refreshState.markStartupComplete }.resetNavigator
      opState := .normalOperation
      scrapingStallCounter := 0
      faultRecoveryStatusCount := 0 }

/-- A crawl that times out is left as it is. -/
def watchdogTimeoutOccurred (device : OperatingDevice) : OperatingDevice :=
  match device.opState with
  | .scraping =>
    { device with
      keypad := { device.keypad with
        refreshState := device.keypad.refreshState.markStartupComplete }
      opState := .normalOperation
      scrapingStallCounter := 0 }
  | .startUp | .coldStart => { device with opState := .faultHasOccurred }
  | .normalOperation | .scrapingFaulted | .faultHasOccurred => device

/-! ### Messages -/

/-- A device that only listens has nothing to crawl for. -/
def skipScraping (device : OperatingDevice) : OperatingDevice :=
  if device.emulated = false ∧ (device.opState = .coldStart ∨ device.opState = .startUp) then
    { device with opState := .normalOperation }
  else device

def operate (model : MenuModel) (fuel : ℕ) (surroundings : MessageSurroundings) (toStatus : Bool)
    (device : OperatingDevice) : Option OperatingDevice :=
  match device.opState with
  | .coldStart =>
    let detected := model.detectPage device.keypad.displayedPage
    if detected = .startUp ∨ detected = .unknown then some device
    else device.startUpStep model fuel surroundings
  | .startUp => device.startUpStep model fuel surroundings
  | .scraping => device.scrapingStep model fuel surroundings.toSurroundings
  | .normalOperation =>
    (device.serviceActiveGoal model fuel).bind
      (setpointRefreshStep model fuel surroundings.toSurroundings)
  | .scrapingFaulted | .faultHasOccurred => some (device.attemptFaultRecovery model toStatus)

def acknowledge (toStatus : Bool) (device : OperatingDevice) : OperatingDevice :=
  if device.emulationActive then
    { device with keypad := device.keypad.acknowledge toStatus }
  else if toStatus then
    { device with keypad := { device.keypad with keyCommandToSend := .noKeyCommand } }
  else device

def processControllerUpdates (model : MenuModel) (fuel : ℕ) (surroundings : MessageSurroundings)
    (toStatus : Bool) (device : OperatingDevice) : Option OperatingDevice :=
  (device.skipScraping.operate model fuel surroundings toStatus).map (acknowledge toStatus)

def takeMessage (device : OperatingDevice) (message : BusMessage) : OperatingDevice :=
  { device with keypad := device.keypad.takeMessage message, account := [] }

def afterStatus (device : OperatingDevice) : OperatingDevice :=
  { device with keypad := device.keypad.afterStatus }

/-- A message for a line that the screen does not have is dropped. -/
def receive (model : MenuModel) (fuel : ℕ) (surroundings : MessageSurroundings)
    (device : OperatingDevice) (message : BusMessage) : Option OperatingDevice :=
  match message with
  | .messageLong line _ =>
    if pageLines ≤ line then
      some { device with account := [] }
    else
      (device.takeMessage message).processControllerUpdates model fuel surroundings false
  | .status =>
    ((device.takeMessage message).processControllerUpdates model fuel surroundings true).map
      afterStatus
  | _ => (device.takeMessage message).processControllerUpdates model fuel surroundings false

/-! ### Requests -/

def reasonCannotActuate (device : OperatingDevice) : Option ActuationResult :=
  if device.emulationActive = false then some .notSupported
  else if device.opState = .scrapingFaulted ∨ device.opState = .faultHasOccurred then
    some .notSupported
  else none

def startGoal (device : OperatingDevice) (goal : OneTouchGoal) :
    OperatingDevice × ActuationResult :=
  if device.keypad.goalInProgress then (device, .busy)
  else ({ device with keypad := { device.keypad with activeGoal := some goal } }, .accepted)

def queueGoal (device : OperatingDevice) (goal : OneTouchGoal) :
    OperatingDevice × ActuationResult :=
  match device.reasonCannotActuate with
  | some reason => (device, reason)
  | none => device.startGoal goal

/-- A device that is known to be as it is asked for is left alone. -/
def actuateDevice (device : OperatingDevice) (target : Option ℕ) (action : ActuationAction) :
    OperatingDevice × ActuationResult :=
  match target with
  | none => (device, .mappingFailed)
  | some target =>
    match device.reasonCannotActuate with
    | some reason => (device, reason)
    | none =>
      let traits := device.hub.traits target
      match (traits.label.map trimWhitespace).filter (· ≠ []) with
      | none => (device, .mappingFailed)
      | some label =>
        if action.wanted.isSome = true ∧ traits.currentOnState = action.wanted then
          (device, .accepted)
        else device.startGoal (.toggle { label := label })

def queueValueEdit (device : OperatingDevice) (page : PageId) (line : UInt8) (label : Text)
    (target : Int32) : OperatingDevice × ActuationResult :=
  device.queueGoal (.valueEdit { page := page, line := line, label := label, target := target })

def setPoolSetpoint (device : OperatingDevice) (temperature : UInt8) :
    OperatingDevice × ActuationResult :=
  device.queueValueEdit .setTemperature 2 "Pool Heat".toList (.ofNat temperature.toNat)

def setSpaSetpoint (device : OperatingDevice) (temperature : UInt8) :
    OperatingDevice × ActuationResult :=
  device.queueValueEdit .setTemperature 3 "Spa Heat".toList (.ofNat temperature.toNat)

def roundPercentage (percentage : UInt8) : Int32 :=
  .ofNat ((min percentage.toNat 100 + chlorinatorStep / 2) / chlorinatorStep * chlorinatorStep)

def setChlorinatorPercentage (device : OperatingDevice) (percentage : UInt8)
    (body : BodyOfWaterIds) : OperatingDevice × ActuationResult :=
  match body with
  | .pool => device.queueValueEdit .setAquapure 3 "Set Pool".toList (roundPercentage percentage)
  | .spa => device.queueValueEdit .setAquapure 4 "Set Spa".toList (roundPercentage percentage)
  | .shared | .unknown => (device, .invalidValue)

def setChlorinatorBoost (device : OperatingDevice) (enable : Bool) :
    OperatingDevice × ActuationResult :=
  device.queueGoal (.boost { start := enable })

def setSpaSwitchAssignment (device : OperatingDevice) (switchNumber buttonNumber : UInt8)
    (function : Text) : OperatingDevice × ActuationResult :=
  match device.reasonCannotActuate with
  | some reason => (device, reason)
  | none =>
    if switchNumber < 1 ∨ buttonNumber < 1 ∨ function = [] then (device, .invalidValue)
    else
      device.startGoal (.spaSwitch
        { switchNumber := switchNumber, buttonNumber := buttonNumber, function := function })

def queueScheduleWrite (device : OperatingDevice) (op : ScheduleWriteOp)
    (program : ControllerSchedule) : OperatingDevice × ActuationResult :=
  device.queueGoal (.scheduleWrite { op := op, program := program })

def createControllerProgram (device : OperatingDevice) (program : ControllerSchedule) :
    OperatingDevice × ActuationResult :=
  if device.emulationActive = false then (device, .notSupported)
  else if program.promotable = false then (device, .invalidValue)
  else device.queueScheduleWrite .create program

def deleteControllerProgram (device : OperatingDevice) (program : ControllerSchedule) :
    OperatingDevice × ActuationResult :=
  if device.emulationActive = false then (device, .notSupported)
  else if program.target = [] then (device, .invalidValue)
  else device.queueScheduleWrite .delete program

def editControllerProgram (device : OperatingDevice) (existing desired : ControllerSchedule) :
    OperatingDevice × ActuationResult :=
  if device.emulationActive = false then (device, .notSupported)
  else if existing.target = [] then (device, .invalidValue)
  else if desired.promotable = false then (device, .invalidValue)
  else device.queueScheduleWrite .edit desired

/-- A discovery starts on an engine that has not crawled yet. -/
def requestFullRediscovery (model : MenuModel) (device : OperatingDevice) :
    OperatingDevice × Bool :=
  if device.keypad.spiderEngine.state ≠ .idle ∨ device.emulationActive = false then
    (device, false)
  else
    let (hub, cleared) := device.hub.clearAutoDetectedAuxillaries
    ({ device with
        keypad := device.keypad.requestFullRediscovery model
        hub := hub
        lastRediscoveryClearedCount := cleared }, true)

def discoveryStatus (device : OperatingDevice) : DiscoveryStatusSnapshot where
  inProgress := device.keypad.spiderEngine.state ≠ .idle
  lastClearedCount := device.lastRediscoveryClearedCount

end OperatingDevice

/-! ## What a device is told -/

/-- What is asked of the keypad. -/
inductive DeviceRequest where
  | actuateDevice (target : Option ℕ) (action : ActuationAction)
  | setPoolSetpoint (temperature : UInt8)
  | setSpaSetpoint (temperature : UInt8)
  | setChlorinatorPercentage (percentage : UInt8) (body : BodyOfWaterIds)
  | setChlorinatorBoost (enable : Bool)
  | setSpaSwitchAssignment (switchNumber buttonNumber : UInt8) (function : Text)
  | createControllerProgram (program : ControllerSchedule)
  | deleteControllerProgram (program : ControllerSchedule)
  | editControllerProgram (existing desired : ControllerSchedule)

inductive OperatingEvent where
  | message (message : BusMessage) (surroundings : MessageSurroundings)
  | watchdogTimeout
  | suppressEmulation
  | configureRefresh (interval : ℤ)
  /-- What is known of the devices changes. -/
  | hubUpdate (hub : DataHub)
  | request (request : DeviceRequest)
  | requestFullRediscovery
  | queryDiscovery

namespace OperatingDevice

def answer (device : OperatingDevice) : DeviceRequest → OperatingDevice × ActuationResult
  | .actuateDevice target action => device.actuateDevice target action
  | .setPoolSetpoint temperature => device.setPoolSetpoint temperature
  | .setSpaSetpoint temperature => device.setSpaSetpoint temperature
  | .setChlorinatorPercentage percentage body => device.setChlorinatorPercentage percentage body
  | .setChlorinatorBoost enable => device.setChlorinatorBoost enable
  | .setSpaSwitchAssignment switchNumber buttonNumber function =>
    device.setSpaSwitchAssignment switchNumber buttonNumber function
  | .createControllerProgram program => device.createControllerProgram program
  | .deleteControllerProgram program => device.deleteControllerProgram program
  | .editControllerProgram existing desired => device.editControllerProgram existing desired

/-- The device after an event, if no answer of the navigator takes more passes than that. -/
def attempt (model : MenuModel) (fuel : ℕ) (device : OperatingDevice) :
    OperatingEvent → Option OperatingDevice
  | .message message surroundings => device.receive model fuel surroundings message
  | .watchdogTimeout => some device.watchdogTimeoutOccurred
  | .suppressEmulation => some { device with suppressed := true }
  | .configureRefresh interval =>
    some { device with keypad := { device.keypad with
      refreshState := device.keypad.refreshState.configure interval } }
  | .hubUpdate hub => some { device with hub := hub }
  | .request request => some (device.answer request).1
  | .requestFullRediscovery => some (device.requestFullRediscovery model).1
  | .queryDiscovery => some device

end OperatingDevice

end AqualinkAutomate.OneTouch
