import Mathlib.Data.Fintype.Basic
import Aqualink.Iaq.AquaPureWriter
import Aqualink.Iaq.ScheduleWriter
import Aqualink.Iaq.SpaSwitchWriter

/-!
# The touch-panel device

The device stands in for an AqualinkTouch.  The controller draws pages for it and polls it,
and each answer to a poll has room for one command.  There are several ways to a command:

* a sequence is put into the command queue, which is sent one command a poll;
* a button is pressed by its index, through the one pending command;
* a writer has a goal, and its step with each poll sets the pending command.

A sequence or a writer may arm a value besides, which the device sends when the controller
says that it is ready for it.

What the device does is noted as a list of effects, in their order.
-/

namespace AqualinkAutomate.Iaq

open General Navigation Equipment Scheduling List

/-! ## The page survey -/

structure PageTarget where
  label : Text
  buttonPath : List UInt8
  deriving DecidableEq

/-- The pages that are worth a visit. -/
abbrev PageRegistry : Type := List PageTarget

abbrev surveyDwellPolls : ℕ := 6

def surveyTarget (target : PageTarget) : List UInt8 :=
  target.buttonPath.map pressCommandFor ++ replicate surveyDwellPolls cmdDwell ++
    target.buttonPath.map (fun _ => cmdBack) ++
    replicate (surveyDwellPolls / 2 + 1) cmdDwell

def buildSurveyCommandSequence (registry : PageRegistry) : List UInt8 :=
  registry.flatMap surveyTarget

structure PageSurvey where
  enabled : Bool := false
  done : Bool := false
  registry : PageRegistry := []

def PageSurvey.enable (survey : PageSurvey) (registry : PageRegistry) : PageSurvey :=
  { survey with enabled := true, registry := registry }

def PageSurvey.isArmed (survey : PageSurvey) : Bool := survey.enabled && !survey.done

/-! ## The assignments of the spa switches -/

structure SpaSwitchAssignment where
  switchNumber : UInt8
  buttonNumber : UInt8
  function : Text
  deriving DecidableEq

/-- Tabs and terminators arrive as question marks. -/
def isSep (c : Char) : Bool := decide (c ∈ [' ', '\t', '\r', '\n', '?'])

/-- A number that counts from 1 and fits into a byte. -/
def oneBasedByte (digits : Text) : Option UInt8 :=
  (fromChars digits).bind fun n =>
    if n < 1 ∨ 255 < n then none else some (UInt8.ofNat n.toNat)

/-- A row such as `1:2 Pool Light`. -/
def parseSpaSwitchAssignmentLine (line : Text) : Option SpaSwitchAssignment :=
  let s := trimBy isSep line
  let switchDigits := s.takeWhile Char.isDigit
  match s.dropWhile Char.isDigit with
  | ':' :: rest =>
    let buttonDigits := rest.takeWhile Char.isDigit
    let tail := rest.dropWhile Char.isDigit
    let function := trimBy isSep tail
    if switchDigits = [] ∨ buttonDigits = [] ∨ tail.head?.any isSep = false ∨ function = [] then
      none
    else
      match oneBasedByte switchDigits, oneBasedByte buttonDigits with
      | some switchNumber, some buttonNumber => some ⟨switchNumber, buttonNumber, function⟩
      | _, _ => none
  | _ => none

def SpaSwitchAssignments.set (assignments : SpaSwitchAssignments)
    (assignment : SpaSwitchAssignment) : SpaSwitchAssignments := fun switchNumber buttonNumber =>
  if switchNumber = assignment.switchNumber ∧ buttonNumber = assignment.buttonNumber then
    some assignment.function
  else assignments switchNumber buttonNumber

/-! ## The device -/

inductive WriterName where
  | spaSwitch | aquaPure | schedule
  deriving DecidableEq

instance : Fintype WriterName where
  elems := {.spaSwitch, .aquaPure, .schedule}
  complete name := by cases name <;> decide

inductive SequenceKind where
  | setpoint | survey
  deriving DecidableEq

structure ExplicitWish where
  label : Text
  on : Bool
  deriving DecidableEq

/-- What the device does.

* `queued`: a sequence replaces the command queue; one for a setpoint arms its value too;
* `pressed`: a request sets the pending command;
* `goalTaken`: a writer accepts a goal;
* `polled`: the controller polls;
* `served`: a writer took a step, which gave the calls and may have ended its goal;
* `sentQueued`, `sentPending`: a command goes out with the answer to a poll;
* `answered`: the armed value goes out;
* `suppressed`: the device stops transmitting. -/
inductive Effect where
  | queued (kind : SequenceKind) (commands : List UInt8)
  | pressed (command : UInt8) (button : Option ResolvedButton) (wish : Option ExplicitWish)
  | goalTaken (name : WriterName)
  | polled
  | served (name : WriterName) (calls : SinkCalls) (finished : Option Bool)
  | sentQueued (command : UInt8)
  | sentPending (command : UInt8)
  | answered (value : Text)
  | suppressed
  deriving DecidableEq

abbrev statusPageLines : ℕ := 18

structure IaqDevice where
  emulated : Bool := true
  suppressed : Bool := false
  pageModel : PageModel := {}
  statusPage : ScreenDataPage := ⟨replicate statusPageLines {}⟩
  spaSwitchAssignments : SpaSwitchAssignments := fun _ _ => none
  spaSwitchWriter : SpaSwitchWriter := {}
  aquaPureWriter : AquaPureWriter := {}
  scheduleWriter : ScheduleWriter := {}
  pageSurvey : PageSurvey := {}
  pendingCommand : UInt8 := 0x00
  commandQueue : List UInt8 := []
  awaitingControlReady : Bool := false
  controlDataValue : Text := []

abbrev Reaction : Type := IaqDevice × List Effect

namespace IaqDevice

def isEmulationActive (device : IaqDevice) : Bool := device.emulated && !device.suppressed

def hasPendingGoal (device : IaqDevice) : WriterName → Bool
  | .spaSwitch => device.spaSwitchWriter.pending.isSome
  | .aquaPure => device.aquaPureWriter.pending.isSome
  | .schedule => device.scheduleWriter.pending.isSome

def isBusy (device : IaqDevice) : Bool :=
  !device.commandQueue.isEmpty || device.awaitingControlReady

def channelBusy (device : IaqDevice) : Bool :=
  device.hasPendingGoal .aquaPure || device.hasPendingGoal .spaSwitch ||
    device.hasPendingGoal .schedule || device.isBusy

/-! ## Requests -/

def selectPageButton (device : IaqDevice) (index : UInt8) (button : Option ResolvedButton)
    (wish : Option ExplicitWish) : Reaction :=
  ({ device with pendingCommand := pressCommandFor index },
    [.pressed (pressCommandFor index) button wish])

def actuatePageButton (device : IaqDevice) (index : UInt8) : Reaction × ActuationResult :=
  (device.selectPageButton index none none, .accepted)

end IaqDevice

def ButtonStatuses.isOn (status : ButtonStatuses) : Bool :=
  decide (status ∈ [.on, .enabled, .enabledStandby])

def ButtonStatuses.known (status : ButtonStatuses) : Option Bool :=
  if status = .unknown then none else some status.isOn

namespace IaqDevice

def reportedState (device : IaqDevice) (label : Text) : Option Bool :=
  (device.pageModel.findButtonByLabel label).bind fun index =>
    (device.pageModel.buttons index).bind fun info => info.status.known

def statusOf (device : IaqDevice) (index : UInt8) : ButtonStatuses :=
  ((device.pageModel.buttons index).map PageButtonInfo.status).getD .unknown

/-- Pressing a button toggles it, so an explicit request presses only if the button is not
known to be as it is wanted. -/
def actuateDevice (device : IaqDevice) (target : Option AuxillaryTraits)
    (action : ActuationAction) : Reaction × ActuationResult :=
  let refused (result : ActuationResult) : Reaction × ActuationResult := ((device, []), result)
  match target with
  | none => refused .mappingFailed
  | some traits =>
    if device.isEmulationActive = false then refused .notSupported
    else if trimWhitespace (traits.label.getD []) = [] then refused .mappingFailed
    else
      let label := trimWhitespace (traits.label.getD [])
      match device.pageModel.findButtonByLabel label with
      | none => refused .mappingFailed
      | some index =>
        if action.wanted.isSome ∧ (device.statusOf index).known = action.wanted then
          refused .accepted
        else
          (device.selectPageButton index (device.pageModel.buttonAt index)
            (action.wanted.map fun on => ⟨label, on⟩), .accepted)

theorem actuateDevice_cases (device : IaqDevice) (target : Option AuxillaryTraits)
    (action : ActuationAction) :
    (device.actuateDevice target action).1 = (device, []) ∨
      ∃ traits label index, target = some traits ∧ label = trimWhitespace (traits.label.getD []) ∧
        device.isEmulationActive ∧
        device.pageModel.findButtonByLabel label = some index ∧
        ¬ (action.wanted.isSome ∧ (device.statusOf index).known = action.wanted) ∧
        (device.actuateDevice target action).1 =
          device.selectPageButton index (device.pageModel.buttonAt index)
            (action.wanted.map fun on => ⟨label, on⟩) := by
  cases target with
  | none => exact .inl rfl
  | some traits =>
    simp only [actuateDevice]
    split
    · exact .inl rfl
    · next hactive =>
        split
        · exact .inl rfl
        · split
          · exact .inl rfl
          · next index hindex =>
              split
              · exact .inl rfl
              · next hpress =>
                  exact .inr ⟨traits, _, index, rfl, rfl, (Bool.not_eq_false _).mp hactive,
                    hindex, hpress, rfl⟩

abbrev cmdOpenSetTempPage : UInt8 := 0x14
abbrev cmdSelectPoolHeat : UInt8 := 0x11
abbrev cmdSelectSpaHeat : UInt8 := 0x13

def setpointCommands (selectFieldCommand : UInt8) : List UInt8 :=
  [cmdBack, cmdOpenSetTempPage, selectFieldCommand, cmdSubmitValue]

/-- Whatever is in the queue or armed is replaced. -/
def queueSetpoint (device : IaqDevice) (selectFieldCommand temperature : UInt8) :
    Reaction × ActuationResult :=
  if device.isEmulationActive = false then ((device, []), .notSupported)
  else
    (({ device with
        commandQueue := setpointCommands selectFieldCommand
        awaitingControlReady := true
        controlDataValue := '1' :: decimal temperature.toNat },
      [.queued .setpoint (setpointCommands selectFieldCommand)]), .accepted)

def takeGoal (name : WriterName) (device : IaqDevice) (result : ActuationResult) :
    Reaction × ActuationResult :=
  ((device, if result = .accepted then [.goalTaken name] else []), result)

/-- `SetChlorinatorPercentage` and `SetChlorinatorBoost` -/
def queueAquaPure (device : IaqDevice) (queued : AquaPureWriter × ActuationResult) :
    Reaction × ActuationResult :=
  takeGoal .aquaPure { device with aquaPureWriter := queued.1 } queued.2

def queueSpaSwitch (device : IaqDevice) (queued : SpaSwitchWriter × ActuationResult) :
    Reaction × ActuationResult :=
  takeGoal .spaSwitch { device with spaSwitchWriter := queued.1 } queued.2

/-- `CreateControllerProgram`, `DeleteControllerProgram` and `EditControllerProgram` -/
def queueSchedule (device : IaqDevice) (queued : ScheduleWriter × ActuationResult) :
    Reaction × ActuationResult :=
  takeGoal .schedule { device with scheduleWriter := queued.1 } queued.2

end IaqDevice

inductive IaqRequest where
  | poolSetpoint (temperature : UInt8)
  | spaSetpoint (temperature : UInt8)
  | chlorinatorPercentage (percentage : UInt8) (body : BodyOfWaterIds)
  | chlorinatorBoost (enable : Bool)
  | actuateDevice (target : Option AuxillaryTraits) (action : ActuationAction)
  | actuatePageButton (index : UInt8)
  | spaSwitchAssignment (switchNumber buttonNumber : UInt8) (function : Text)
  | createControllerProgram (program : ControllerSchedule)
  | deleteControllerProgram (program : ControllerSchedule)
  | editControllerProgram (existing desired : ControllerSchedule)
  deriving DecidableEq

namespace IaqDevice

def request (device : IaqDevice) : IaqRequest → Reaction × ActuationResult
  | .poolSetpoint temperature => device.queueSetpoint cmdSelectPoolHeat temperature
  | .spaSetpoint temperature => device.queueSetpoint cmdSelectSpaHeat temperature
  | .chlorinatorPercentage percentage body =>
    device.queueAquaPure (device.aquaPureWriter.queuePercentage percentage body
      device.isEmulationActive device.channelBusy)
  | .chlorinatorBoost enable =>
    device.queueAquaPure (device.aquaPureWriter.queueBoost enable device.isEmulationActive
      device.channelBusy)
  | .actuateDevice target action => device.actuateDevice target action
  | .actuatePageButton index => device.actuatePageButton index
  | .spaSwitchAssignment switchNumber buttonNumber function =>
    device.queueSpaSwitch (device.spaSwitchWriter.queue switchNumber buttonNumber function
      device.isEmulationActive device.channelBusy)
  | .createControllerProgram program =>
    device.queueSchedule (device.scheduleWriter.queueCreate program device.emulated
      device.channelBusy)
  | .deleteControllerProgram program =>
    device.queueSchedule (device.scheduleWriter.queueDelete program device.emulated
      device.channelBusy)
  | .editControllerProgram existing desired =>
    device.queueSchedule (device.scheduleWriter.queueEdit existing desired device.emulated
      device.channelBusy)

/-! ## Polls -/

def stepWriter (device : IaqDevice) : WriterName → IaqDevice × SinkCalls × Option Bool
  | .spaSwitch =>
    let step := device.spaSwitchWriter.processStep device.pageModel device.spaSwitchAssignments
    ({ device with spaSwitchWriter := step.writer }, step.calls, step.finished)
  | .aquaPure =>
    let step := device.aquaPureWriter.processStep device.pageModel
    ({ device with aquaPureWriter := step.writer }, step.calls, step.finished)
  | .schedule =>
    let step := device.scheduleWriter.processStep device.pageModel device.statusPage
    ({ device with scheduleWriter := step.writer }, step.calls, step.finished)

/-- `IssueCommand` and `ArmControlValue` -/
def take (device : IaqDevice) (calls : SinkCalls) : IaqDevice :=
  { device with
    pendingCommand := calls.command.getD device.pendingCommand
    awaitingControlReady := calls.controlValue.isSome || device.awaitingControlReady
    controlDataValue := calls.controlValue.getD device.controlDataValue }

def serve (name : WriterName) (device : IaqDevice) : Reaction :=
  if device.hasPendingGoal name = false then (device, [])
  else
    match device.stepWriter name with
    | (stepped, calls, finished) => (stepped.take calls, [.served name calls finished])

def transmit (device : IaqDevice) (effect : Effect) : List Effect :=
  if device.isEmulationActive then [effect] else []

def sendCommand (device : IaqDevice) : Reaction :=
  match device.commandQueue with
  | command :: rest => ({ device with commandQueue := rest }, device.transmit (.sentQueued command))
  | [] =>
    if device.pendingCommand = 0x00 then (device, [])
    else
      ({ device with pendingCommand := 0x00 }, device.transmit (.sentPending device.pendingCommand))

def observeMenuPage (device : IaqDevice) : Reaction :=
  ({ device with aquaPureWriter := device.aquaPureWriter.observeMenuPage device.pageModel }, [])

end IaqDevice

def Reaction.andThen (reaction : Reaction) (next : IaqDevice → Reaction) : Reaction :=
  ((next reaction.1).1, reaction.2 ++ (next reaction.1).2)

namespace IaqDevice

/-- `ProcessControllerUpdates`.  A message that is not a poll is acknowledged without a
command. -/
def processControllerUpdates (isPollMessage : Bool) (device : IaqDevice) : Reaction :=
  if isPollMessage then
    ((((Reaction.andThen (device, [.polled]) (serve .spaSwitch)).andThen observeMenuPage).andThen
      (serve .aquaPure)).andThen (serve .schedule)).andThen sendCommand
  else device.observeMenuPage

/-! ## Messages -/

def maybeStartPageSurvey (device : IaqDevice) : Reaction :=
  if device.emulated && device.pageSurvey.isArmed then
    let commands := buildSurveyCommandSequence device.pageSurvey.registry
    ({ device with
        commandQueue := commands
        pageSurvey := { device.pageSurvey with done := true } }, [.queued .survey commands])
  else (device, [])

def answerControlReady (device : IaqDevice) : Reaction :=
  ({ device with awaitingControlReady := false, controlDataValue := [] },
    if device.emulated then [.answered device.controlDataValue] else [])

def takePage (device : IaqDevice) (message : PageMessage) : IaqDevice :=
  let device := { device with pageModel := device.pageModel.take message }
  match message with
  | .pageStart _ => { device with statusPage := device.statusPage.clear }
  | .tableMessage line _ text =>
    match parseSpaSwitchAssignmentLine text with
    | some assignment =>
      if line = 0x00 then
        { device with
          spaSwitchAssignments := device.spaSwitchAssignments.set assignment }
      else device
    | none => device
  | _ => device

end IaqDevice

/-- What the controller sends to the panel.  `other` stands for the messages that the device
acknowledges and that do not touch what is modelled here. -/
inductive IaqMessage where
  | page (message : PageMessage)
  | pageMessage (line : UInt8) (text : Text)
  | poll
  | controlReady
  | mainStatus
  | probe
  | heartbeat
  | other
  deriving DecidableEq

namespace IaqDevice

def receive (device : IaqDevice) : IaqMessage → Reaction
  | .page message => (device.takePage message).processControllerUpdates false
  | .pageMessage line text =>
    { device with statusPage := device.statusPage.setText line text }.processControllerUpdates
      false
  | .poll => device.processControllerUpdates true
  | .controlReady =>
    if device.awaitingControlReady ∧ device.controlDataValue ≠ [] then device.answerControlReady
    else device.processControllerUpdates false
  | .mainStatus => device.maybeStartPageSurvey.andThen (processControllerUpdates false)
  | .probe => if device.emulated then device.processControllerUpdates false else (device, [])
  | .heartbeat => (device, [])
  | .other => device.processControllerUpdates false

end IaqDevice

/-- What happens to the device. -/
inductive IaqEvent where
  | message (message : IaqMessage)
  | request (request : IaqRequest)
  | enablePageSurvey (registry : PageRegistry)
  | suppressEmulation
  deriving DecidableEq

def IaqDevice.react (device : IaqDevice) : IaqEvent → Reaction
  | .message message => device.receive message
  | .request request => (device.request request).1
  | .enablePageSurvey registry =>
    ({ device with pageSurvey := device.pageSurvey.enable registry }, [])
  | .suppressEmulation => ({ device with suppressed := true }, [.suppressed])

end AqualinkAutomate.Iaq
