import Aqualink.Equipment.Actuation
import Aqualink.General.Names
import Aqualink.General.Observers
import Aqualink.Scheduling.SchedulerService

/-!
# The alert monitor

The monitor derives six conditions from what the hubs report.  A condition is latched: a transition
is made when the condition differs from its latch.

A level of salt is a whole number of ppm, as all devices report it.  The clock gives a new reading
each time it is read.
-/

namespace AqualinkAutomate.Alerting

open Equipment General Scheduling

/-! ## What the hubs report -/

inductive ChlorinatorHealth where
  | ok | turningOff
  | warning_NoFlow | warning_LowSalt | warning_HighSalt | warning_HighCurrent
  | warning_CleanCell | warning_LowVoltage | warning_LowTemperature
  | error_CheckPCB | generalFault
  | unknown
  deriving DecidableEq

instance : EnumNames ChlorinatorHealth where
  values := [.ok, .turningOff, .warning_NoFlow, .warning_LowSalt, .warning_HighSalt,
    .warning_HighCurrent, .warning_CleanCell, .warning_LowVoltage, .warning_LowTemperature,
    .error_CheckPCB, .generalFault, .unknown]
  enumName
    | .ok => "Ok"
    | .turningOff => "TurningOff"
    | .warning_NoFlow => "Warning_NoFlow"
    | .warning_LowSalt => "Warning_LowSalt"
    | .warning_HighSalt => "Warning_HighSalt"
    | .warning_HighCurrent => "Warning_HighCurrent"
    | .warning_CleanCell => "Warning_CleanCell"
    | .warning_LowVoltage => "Warning_LowVoltage"
    | .warning_LowTemperature => "Warning_LowTemperature"
    | .error_CheckPCB => "Error_CheckPCB"
    | .generalFault => "GeneralFault"
    | .unknown => "Unknown"
  mem_values health := by cases health <;> decide
  nodup_names := by decide

def isChlorinatorFault (health : ChlorinatorHealth) : Bool :=
  health == .error_CheckPCB || health == .generalFault

def chlorinatorFaultLabel : ChlorinatorHealth → String
  | .error_CheckPCB => "Check PCB"
  | .generalFault => "General fault"
  | _ => "Fault"

def chlorinatorWarningLabel : ChlorinatorHealth → Option String
  | .warning_NoFlow => some "No flow"
  | .warning_LowSalt => some "Low salt"
  | .warning_HighSalt => some "High salt"
  | .warning_HighCurrent => some "High current"
  | .warning_CleanCell => some "Clean cell"
  | .warning_LowVoltage => some "Low voltage"
  | .warning_LowTemperature => some "Low temperature"
  | _ => none

/-- What the data hub has.  Of each chlorinator, its flags if they are known, in the order of the
enumeration; of each filter pump, its status. -/
structure DataReadings where
  saltLevel : ℤ := 0
  chlorinators : List (Option (List ChlorinatorHealth)) := []
  mode : EquipmentMode := .normal
  filterPumps : List (Option PumpStatuses) := []
  spaMode : Bool := false
  poolTempIsStale : Bool := false
  spaTempIsStale : Bool := false
  temperatureStalenessThreshold : ℕ := 600

structure AlertPreferences where
  saltLowPpm : ℕ := 2600
  commsTimeoutSeconds : ℕ := 60

structure HubReadings where
  dataHub : Option DataReadings
  /-- The count of all messages -/
  statisticsHub : Option ℕ
  preferencesHub : Option AlertPreferences
  clock : ℕ → ℤ

/-! ## The monitor -/

namespace ConditionKeys

def chlorinatorFault : String := "chlorinator_fault"
def chlorinatorWarning : String := "chlorinator_warning"
def saltLow : String := "salt_low"
def serviceMode : String := "service_mode"
def serialCommsLoss : String := "serial_comms_loss"
def temperatureStale : String := "temperature_stale"

end ConditionKeys

structure AlertTransition where
  condition : String
  raised : Bool
  ts : ℤ
  detail : String
  params : Json

structure AlertMonitor where
  settings : AlertPreferences
  /-- The number of sinks -/
  sinks : ℕ
  latched : String → Bool := fun _ => false
  clockReads : ℕ := 0
  running : Bool := false
  lastMessageCount : ℕ := 0
  lastMessageChangeTs : ℤ := 0
  haveCommsBaseline : Bool := false

/-- What `SetCondition` is called with. -/
structure ConditionUpdate where
  key : String
  raised : Bool
  detail : String
  params : Json := .object []

inductive Evaluator where
  | saltLow | chlorinatorWarning | chlorinatorFault | serviceMode | serialCommsLoss
  | temperatureStale
  deriving DecidableEq

def evaluateAll : List Evaluator :=
  [.saltLow, .chlorinatorWarning, .chlorinatorFault, .serviceMode, .serialCommsLoss,
    .temperatureStale]

namespace AlertMonitor

variable (monitor : AlertMonitor) (hubs : HubReadings)

def isRaised (condition : String) : Bool := monitor.latched condition

def readClock (clock : ℕ → ℤ) : ℤ × AlertMonitor :=
  (clock monitor.clockReads, { monitor with clockReads := monitor.clockReads + 1 })

def preferences : AlertPreferences := hubs.preferencesHub.getD monitor.settings

def evaluateSaltLow : Option ConditionUpdate :=
  let threshold : ℕ := (monitor.preferences hubs).saltLowPpm
  match hubs.dataHub with
  | none => none
  | some data =>
    let salt := data.saltLevel
    -- a threshold of 0 disables the check, and a level of 0 is no sample
    if threshold = 0 ∨ salt ≤ 0 then none
    else
      let currentlyRaised := monitor.isRaised ConditionKeys.saltLow
      if !currentlyRaised && decide (salt < threshold) then
        some ⟨ConditionKeys.saltLow, true, s!"Salt {salt} ppm below threshold {threshold} ppm",
          .object [("salt_ppm", .integer salt), ("threshold_ppm", .integer threshold)]⟩
      else if currentlyRaised && decide ((threshold : ℤ) + 100 ≤ salt) then
        some ⟨ConditionKeys.saltLow, false,
          s!"Salt {salt} ppm recovered above {threshold + 100} ppm",
          .object [("salt_ppm", .integer salt), ("threshold_ppm", .integer (threshold + 100))]⟩
      else none

/-- `EvaluateChlorinatorWarning` and `EvaluateChlorinatorFault`, which differ in what they look for
among the flags of the first chlorinator. -/
def evaluateChlorinator (key text : String) (label : ChlorinatorHealth → Option String) :
    Option ConditionUpdate :=
  match hubs.dataHub with
  | none => none
  | some data =>
    match data.chlorinators with
    | [] => some ⟨key, false, "No chlorinator present", .object []⟩
    | flags :: _ =>
      let matched := (flags.getD []).filter fun flag => (label flag).isSome
      let names := matched.map fun flag => Json.string (enumName flag)
      match names with
      | [] => some ⟨key, false, "Chlorinator health OK", .object []⟩
      | name :: _ =>
        some ⟨key, true, text ++ ": " ++ ", ".intercalate (matched.filterMap label),
          .object [("health", name), ("health_flags", .array names)]⟩

def evaluateChlorinatorWarning : Option ConditionUpdate :=
  evaluateChlorinator hubs ConditionKeys.chlorinatorWarning "Chlorinator warning"
    chlorinatorWarningLabel

def evaluateChlorinatorFault : Option ConditionUpdate :=
  evaluateChlorinator hubs ConditionKeys.chlorinatorFault "Chlorinator fault" fun health =>
    if isChlorinatorFault health then some (chlorinatorFaultLabel health) else none

def evaluateServiceMode : Option ConditionUpdate :=
  match hubs.dataHub with
  | none => none
  | some data =>
    if data.mode = .service then
      some ⟨ConditionKeys.serviceMode, true, "Controller is in Service mode",
        .object [("mode", .string "Service")]⟩
    else some ⟨ConditionKeys.serviceMode, false, "Controller left Service mode", .object []⟩

def evaluateSerialCommsLoss : AlertMonitor × Option ConditionUpdate :=
  match hubs.statisticsHub with
  | none => (monitor, none)
  | some count =>
    if !monitor.haveCommsBaseline then (monitor, none)
    else
      let (now, monitor) := monitor.readClock hubs.clock
      let timeout := (monitor.preferences hubs).commsTimeoutSeconds
      if count ≠ monitor.lastMessageCount then
        ({ monitor with lastMessageCount := count, lastMessageChangeTs := now },
          some ⟨ConditionKeys.serialCommsLoss, false, "Serial traffic resumed", .object []⟩)
      else if (timeout : ℤ) ≤ now - monitor.lastMessageChangeTs then
        (monitor, some ⟨ConditionKeys.serialCommsLoss, true,
          s!"No protocol message decoded for {timeout} s",
          .object [("timeout_seconds", .integer timeout)]⟩)
      else (monitor, none)

def evaluateTemperatureStale : Option ConditionUpdate :=
  match hubs.dataHub with
  | none => none
  | some data =>
    let pumpRunning := data.filterPumps.any fun status => status == some .running
    let isStale := if data.spaMode then data.spaTempIsStale else data.poolTempIsStale
    let threshold := data.temperatureStalenessThreshold
    let body := if data.spaMode then "spa" else "pool"
    if pumpRunning && isStale then
      some ⟨ConditionKeys.temperatureStale, true,
        s!"No fresh {body} temperature for over {threshold} s while the pump is running",
        .object [("body", .string body), ("threshold_seconds", .integer threshold)]⟩
    else
      some ⟨ConditionKeys.temperatureStale, false, "Water temperature reporting is fresh",
        .object []⟩

/-- `SetCondition`, up to the notification of the sinks. -/
def setCondition (clock : ℕ → ℤ) (update : ConditionUpdate) :
    AlertMonitor × Option AlertTransition :=
  if monitor.latched update.key = update.raised then (monitor, none)
  else
    let latched := Function.update monitor.latched update.key update.raised
    let (ts, monitor) := { monitor with latched }.readClock clock
    (monitor, some ⟨update.key, update.raised, ts, update.detail, update.params⟩)

def evaluate (evaluator : Evaluator) : AlertMonitor × Option AlertTransition :=
  let (monitor, update) := match evaluator with
    | .saltLow => (monitor, monitor.evaluateSaltLow hubs)
    | .chlorinatorWarning => (monitor, evaluateChlorinatorWarning hubs)
    | .chlorinatorFault => (monitor, evaluateChlorinatorFault hubs)
    | .serviceMode => (monitor, evaluateServiceMode hubs)
    | .serialCommsLoss => monitor.evaluateSerialCommsLoss hubs
    | .temperatureStale => (monitor, evaluateTemperatureStale hubs)
  match update with
  | none => (monitor, none)
  | some update => monitor.setCondition hubs.clock update

/-- The baseline that `Start` takes. -/
def start : AlertMonitor :=
  let (now, monitor) := monitor.readClock hubs.clock
  { monitor with
    running := true
    lastMessageCount := hubs.statisticsHub.getD 0
    lastMessageChangeTs := now
    haveCommsBaseline := true }

def nextTransition : List Evaluator → AlertMonitor → Option AlertTransition
  | [], _ => none
  | evaluator :: rest, monitor =>
    match monitor.evaluate hubs evaluator with
    | (monitor, none) => nextTransition rest monitor
    | (_, some transition) => some transition

/-! ## The latches -/

variable {monitor hubs} {monitor' : AlertMonitor} {clock : ℕ → ℤ} {update : ConditionUpdate}
variable {transition : AlertTransition} {evaluator : Evaluator}

/-- What a step of the monitor does to its latches: none changes, or the one of the transition that
is made, which is its change. -/
inductive Latches (monitor : AlertMonitor) : AlertMonitor → Option AlertTransition → Prop
  | kept {monitor' : AlertMonitor} (hsinks : monitor'.sinks = monitor.sinks)
      (hlatched : monitor'.latched = monitor.latched) : Latches monitor monitor' none
  | changed {monitor' : AlertMonitor} {transition : AlertTransition}
      (hsinks : monitor'.sinks = monitor.sinks)
      (hlatched : monitor'.latched =
        Function.update monitor.latched transition.condition transition.raised)
      (hchange : monitor.latched transition.condition ≠ transition.raised) :
      Latches monitor monitor' (some transition)

theorem latches_setCondition :
    Latches monitor (monitor.setCondition clock update).1
      (monitor.setCondition clock update).2 := by
  unfold setCondition
  split_ifs with hsame
  · exact .kept rfl rfl
  · exact .changed rfl rfl hsame

theorem evaluateSerialCommsLoss_latched :
    (monitor.evaluateSerialCommsLoss hubs).1.latched = monitor.latched ∧
      (monitor.evaluateSerialCommsLoss hubs).1.sinks = monitor.sinks := by
  unfold evaluateSerialCommsLoss
  split
  · exact ⟨rfl, rfl⟩
  · dsimp only [readClock]
    split_ifs <;> exact ⟨rfl, rfl⟩

theorem Latches.of_eq {transition : Option AlertTransition} {earlier : AlertMonitor}
    (h : Latches monitor monitor' transition) (hlatched : monitor.latched = earlier.latched)
    (hsinks : monitor.sinks = earlier.sinks) : Latches earlier monitor' transition := by
  cases h with
  | kept hsinks' hlatched' => exact .kept (hsinks'.trans hsinks) (hlatched'.trans hlatched)
  | changed hsinks' hlatched' hchange =>
    rw [hlatched] at hlatched' hchange
    exact .changed (hsinks'.trans hsinks) hlatched' hchange

theorem latches_evaluate :
    Latches monitor (monitor.evaluate hubs evaluator).1 (monitor.evaluate hubs evaluator).2 := by
  have hupdated : ∀ earlier : AlertMonitor, earlier.latched = monitor.latched →
      earlier.sinks = monitor.sinks → ∀ update : Option ConditionUpdate,
      let evaluated : AlertMonitor × Option AlertTransition := match update with
        | none => (earlier, none)
        | some update => earlier.setCondition hubs.clock update
      Latches monitor evaluated.1 evaluated.2 := by
    intro earlier hlatched hsinks update
    cases update with
    | none => exact .kept hsinks hlatched
    | some update => exact latches_setCondition.of_eq hlatched hsinks
  have hcomms := @evaluateSerialCommsLoss_latched monitor hubs
  cases evaluator
  case serialCommsLoss => exact hupdated _ hcomms.1 hcomms.2 _
  all_goals exact hupdated monitor rfl rfl _

end AlertMonitor

end AqualinkAutomate.Alerting
