import Aqualink.Equipment.Devices
import Aqualink.Hub.Bodies

/-!
# The serial adapter

An emulated adapter answers the polls of the panel.  A poll for the status is answered with the
first of the pending commands or, if there is none, with the next question of a rotation.  A
poll that the device is ready is the panel asking for the value of a setpoint, and is answered
with the first of the pending commands too.  Other messages are answered with nothing.

A command replaces the ones that are pending.  A setpoint takes two steps.
-/

namespace AqualinkAutomate.SerialAdapter

open Equipment General Hub Navigation

/-! ## Codes -/

namespace CommandTypes

def query : UInt8 := 0x05

def setOff : UInt8 := 0x80

def setOn : UInt8 := 0x81

def readySetpoint : UInt8 := 0x35

end CommandTypes

inductive SystemConfigurationStatuses where
  | model | options | opMode | vBat | leds
  deriving DecidableEq

def SystemConfigurationStatuses.code : SystemConfigurationStatuses → UInt8
  | .model => 0x00
  | .options => 0x01
  | .opMode => 0x0D
  | .vBat => 0x0E
  | .leds => 0xFF

inductive SystemPumpCommands where
  | pumpLo | pump | cleanr | spillover | spa
  deriving DecidableEq

def SystemPumpCommands.code : SystemPumpCommands → UInt8
  | .pumpLo => 0x0D
  | .pump => 0x0C
  | .cleanr => 0x10
  | .spillover => 0x0F
  | .spa => 0x0E

inductive SystemTemperatureCommands where
  | units | poolHt | poolHt2 | spaHt | solHt | poolSp | poolSp2 | spaSp | poolTmp | spaTmp | airTmp
  | solTmp
  deriving DecidableEq

def SystemTemperatureCommands.code : SystemTemperatureCommands → UInt8
  | .units => 0x0A
  | .poolHt => 0x11
  | .poolHt2 => 0x12
  | .spaHt => 0x13
  | .solHt => 0x14
  | .poolSp => 0x05
  | .poolSp2 => 0x06
  | .spaSp => 0x07
  | .poolTmp => 0x08
  | .spaTmp => 0x0B
  | .airTmp => 0x09
  | .solTmp => 0x0C

/-- What can be asked for. -/
inductive StatusTypes where
  | configuration (status : SystemConfigurationStatuses)
  | pump (command : SystemPumpCommands)
  | temperature (command : SystemTemperatureCommands)
  | auxillary (id : JandyAuxillaryIds)
  deriving DecidableEq

/-- The two bytes of an answer. -/
structure PendingCommand where
  ackType : UInt8
  ackDataValue : UInt8
  deriving DecidableEq

/-- The answer to a poll when there is nothing to say. -/
def PendingCommand.none : PendingCommand := ⟨0x00, 0x00⟩

def auxillaryCode (id : JandyAuxillaryIds) : UInt8 := UInt8.ofNat id.value + 0x14

def StatusTypes.question : StatusTypes → PendingCommand
  | .configuration status => ⟨status.code, CommandTypes.query⟩
  | .pump command => ⟨command.code, CommandTypes.query⟩
  | .temperature command => ⟨command.code, CommandTypes.query⟩
  | .auxillary id => ⟨0x00, auxillaryCode id⟩

/-- The questions in order: the model is not asked for, and the units come before what is
measured in them. -/
def statusTypesCollection : List StatusTypes :=
  [.configuration .options, .configuration .opMode, .configuration .vBat, .configuration .leds,
    .temperature .units, .temperature .poolSp, .temperature .poolSp2, .temperature .spaSp,
    .temperature .poolTmp, .temperature .airTmp, .temperature .spaTmp, .temperature .solTmp,
    .temperature .poolHt, .temperature .poolHt2, .temperature .spaHt, .temperature .solHt] ++
  JandyAuxillaryIds.all.map .auxillary

/-! ## The device -/

structure SerialAdapterDevice where
  emulated : Bool
  suppressed : Bool := false
  /-- The watchdog has not run out. -/
  running : Bool := true
  hasClaimedAddress : Bool := false
  statusMessageReceived : Bool := false
  statusTypes : List StatusTypes := statusTypesCollection
  /-- The place of the next question. -/
  statusTypesIter : ℕ := 0
  pendingCommands : List PendingCommand := []
  deriving DecidableEq

namespace SerialAdapterDevice

def isEmulationActive (device : SerialAdapterDevice) : Bool :=
  device.emulated && !device.suppressed

/-! ### Answers -/

def advanceStatusTypeIter (device : SerialAdapterDevice) : SerialAdapterDevice :=
  { device with
    statusTypesIter :=
      if device.statusTypesIter + 1 = device.statusTypes.length then 0
      else device.statusTypesIter + 1 }

/-- An auxiliary that the panel cannot have is not asked for. -/
def isPollableStatusType (span : JandyAuxillaryIds → Bool) : StatusTypes → Bool
  | .auxillary id => span id
  | _ => true

/-- Skip at most `guard` questions that are not asked. -/
def skipUnpollableStatusTypes (span : JandyAuxillaryIds → Bool) :
    ℕ → SerialAdapterDevice → SerialAdapterDevice
  | 0, device => device
  | guard + 1, device =>
    match device.statusTypes[device.statusTypesIter]? with
    | some type =>
      if isPollableStatusType span type then device
      else skipUnpollableStatusTypes span guard device.advanceStatusTypeIter
    | none => device

/-- The next question of the rotation. -/
def queryStatus (span : JandyAuxillaryIds → Bool) (device : SerialAdapterDevice) :
    SerialAdapterDevice × PendingCommand :=
  let device := skipUnpollableStatusTypes span device.statusTypes.length device
  (device.advanceStatusTypeIter,
    (device.statusTypes[device.statusTypesIter]?.map StatusTypes.question).getD .none)

def claimAddress (device : SerialAdapterDevice) : SerialAdapterDevice :=
  { device with hasClaimedAddress := device.hasClaimedAddress || device.isEmulationActive }

def takePending (device : SerialAdapterDevice) : Option (PendingCommand × SerialAdapterDevice) :=
  match device.pendingCommands with
  | pending :: rest => some (pending, { device with pendingCommands := rest })
  | [] => none

def processControllerUpdates (span : JandyAuxillaryIds → Bool) (device : SerialAdapterDevice) :
    SerialAdapterDevice × PendingCommand :=
  let (device, ack) :=
    if device.statusMessageReceived then
      let (device, ack) :=
        match device.takePending with
        | some (pending, device) => (device, pending)
        | none => device.queryStatus span
      ({ device with statusMessageReceived := false }, ack)
    else (device, .none)
  (device.claimAddress, ack)

def drainPendingCommandForDevReady (device : SerialAdapterDevice) :
    SerialAdapterDevice × PendingCommand :=
  let (device, ack) :=
    match device.takePending with
    | some (pending, device) => (device, pending)
    | none => (device, .none)
  (device.claimAddress, ack)

end SerialAdapterDevice

/-! ### Messages -/

/-- What the device reads of the data hub. -/
structure HubView where
  poolConfiguration : PoolConfigurations := .unknown
  presenceGatingDisabled : Bool := false
  /-- The auxiliaries that a panel of the model can have. -/
  span : JandyAuxillaryIds → Bool := fun _ => true

structure Options where
  hasCleaner : Bool
  hasSpillover : Bool
  deriving DecidableEq

inductive Message where
  | probe
  | status
  | devReady
  | devStatus (options : Option Options)
  | unknown
  | ack
  deriving DecidableEq

namespace SerialAdapterDevice

/-- A push of the panel before the address was claimed is meant for a real adapter.  The device
falls silent for good, and whatever is pending is dropped. -/
def detectRealAdapterAndSuppressEmulation (hub : HubView) (device : SerialAdapterDevice) :
    SerialAdapterDevice :=
  if !device.emulated || device.suppressed then device
  else if hub.presenceGatingDisabled then device
  else if device.hasClaimedAddress then device
  else { device with suppressed := true, pendingCommands := [] }

/-- Ask for the cleaner and the spillover where they take the place of an auxiliary, and no
more for the options. -/
def readOptions (device : SerialAdapterDevice) (options : Options) : SerialAdapterDevice :=
  let types := device.statusTypes
  let types :=
    if options.hasCleaner then
      types.replace (.auxillary .aux1) (.pump .cleanr)
    else types
  let types :=
    if options.hasSpillover then
      types.replace (.auxillary .aux3) (.pump .spillover)
    else types
  match types with
  | .configuration .options :: rest => { device with statusTypes := rest, statusTypesIter := 0 }
  | _ => { device with statusTypes := types }

/-- `Signal_AckMessage`: only an active device answers. -/
def signalAckMessage (answered : SerialAdapterDevice × PendingCommand) :
    SerialAdapterDevice × Option PendingCommand :=
  (answered.1, if answered.1.isEmulationActive then some answered.2 else none)

/-- The device after a message, and what it puts on the wire. -/
def receive (hub : HubView) (device : SerialAdapterDevice) : Message →
    SerialAdapterDevice × Option PendingCommand
  | .probe | .unknown => signalAckMessage (device.processControllerUpdates hub.span)
  | .status =>
    let device := { device with statusMessageReceived := true }
    signalAckMessage (device.processControllerUpdates hub.span)
  | .devReady =>
    let device := device.detectRealAdapterAndSuppressEmulation hub
    signalAckMessage device.drainPendingCommandForDevReady
  | .devStatus options =>
    let device := device.detectRealAdapterAndSuppressEmulation hub
    let device := options.elim device fun options => device.readOptions options
    signalAckMessage (device.processControllerUpdates hub.span)
  | .ack => (device, none)

/-! ### Requests -/

def queueCommand (ackType ackDataValue : UInt8) (device : SerialAdapterDevice) :
    SerialAdapterDevice :=
  if device.emulated && device.suppressed then device
  else { device with pendingCommands := [⟨ackType, ackDataValue⟩] }

def queuePumpCommand (command : SystemPumpCommands) (action : UInt8)
    (device : SerialAdapterDevice) : SerialAdapterDevice :=
  device.queueCommand action command.code

/-- The first step is for a poll for the status, the second for the poll after it that the device
is ready. -/
def queueSetpointWriteTwoStep (setpoint : SystemTemperatureCommands) (temperature : UInt8)
    (device : SerialAdapterDevice) : SerialAdapterDevice :=
  let device := device.queueCommand setpoint.code CommandTypes.readySetpoint
  if device.emulated && device.suppressed then device
  else
    { device with pendingCommands := device.pendingCommands ++ [⟨0x00, temperature⟩] }

def switchCode (on : Bool) : UInt8 := if on then CommandTypes.setOn else CommandTypes.setOff

def queueAuxToggleWrite (auxId : JandyAuxillaryIds) (turnOn : Bool) (device : SerialAdapterDevice) :
    SerialAdapterDevice :=
  device.queueCommand (switchCode turnOn) (auxillaryCode auxId)

def queueHeaterCommand (heater : SystemTemperatureCommands) (enable : Bool)
    (device : SerialAdapterDevice) : SerialAdapterDevice :=
  device.queueCommand (switchCode enable) heater.code

end SerialAdapterDevice

/-- A device that can be asked for, by its traits. -/
structure Actuated where
  auxId : Option JandyAuxillaryIds := none
  traits : AuxillaryTraits

def resolveToggleAction (traits : AuxillaryTraits) : Bool :=
  match traits.type with
  | some .auxillary | some .cleaner | some .spillover | some .sprinkler =>
    traits.status ≠ some .on
  | some .pump => traits.pumpStatus ≠ some .running
  | _ => true

def turnsOn (traits : AuxillaryTraits) : ActuationAction → Bool
  | .on => true
  | .off => false
  | .toggle => resolveToggleAction traits

def systemPumpFor (traits : AuxillaryTraits) : Option SystemPumpCommands :=
  let label := traits.label.getD []
  traits.type.bind fun type =>
    if type = .pump ∧ (containsText label "Filter".toList ∨ containsText label "Pump".toList) then
      some .pump
    else if type = .cleaner then some .cleanr
    else if type = .spillover then some .spillover
    else if containsText label "Spa".toList then some .spa
    else none

inductive Request where
  | actuateDevice (device : Actuated) (action : ActuationAction)
  | setPoolSetpoint (temperature : UInt8)
  | setSpaSetpoint (temperature : UInt8)
  | setCirculationMode (mode : CirculationModes)
  | setHeaterMode (heaterBody : BodyOfWaterIds) (enable : Bool)

namespace SerialAdapterDevice

variable (hub : HubView) (device : SerialAdapterDevice)

/-- Only a device that is polled is asked. -/
def actuateDevice (actuated : Actuated) (action : ActuationAction) :
    SerialAdapterDevice × ActuationResult :=
  let on := turnsOn actuated.traits action
  if !device.isEmulationActive then (device, .notSupported)
  else if !device.running then (device, .notSupported)
  else
    match actuated.auxId with
    | some auxId => (device.queueAuxToggleWrite auxId on, .accepted)
    | none =>
      match systemPumpFor actuated.traits with
      | some command => (device.queuePumpCommand command (switchCode on), .accepted)
      | none => (device, .mappingFailed)

def setSetpoint (setpoint : SystemTemperatureCommands) (temperature : UInt8) :
    SerialAdapterDevice × ActuationResult :=
  if !device.isEmulationActive then (device, .notSupported)
  else (device.queueSetpointWriteTwoStep setpoint temperature, .accepted)

def setPoolSetpoint (temperature : UInt8) : SerialAdapterDevice × ActuationResult :=
  device.setSetpoint .poolSp temperature

def setSpaSetpoint (temperature : UInt8) : SerialAdapterDevice × ActuationResult :=
  device.setSetpoint .spaSp temperature

def setCirculationMode (mode : CirculationModes) : SerialAdapterDevice × ActuationResult :=
  let knownSingleBody := hub.poolConfiguration = .singleBody
  if !device.isEmulationActive then (device, .notSupported)
  else
    match mode with
    | .spa =>
      if knownSingleBody then (device, .notSupported)
      else (device.queuePumpCommand .spa CommandTypes.setOn, .accepted)
    | .pool => (device.queuePumpCommand .spa CommandTypes.setOff, .accepted)
    | .spillover =>
      if knownSingleBody then (device, .notSupported)
      else (device.queuePumpCommand .spillover CommandTypes.setOn, .accepted)
    | .spaFill | .spaDrain => (device, .notSupported)

/-- The heater of both bodies is the solar one. -/
def setHeaterMode (heaterBody : BodyOfWaterIds) (enable : Bool) :
    SerialAdapterDevice × ActuationResult :=
  if !device.isEmulationActive then (device, .notSupported)
  else
    match heaterBody with
    | .pool => (device.queueHeaterCommand .poolHt enable, .accepted)
    | .spa => (device.queueHeaterCommand .spaHt enable, .accepted)
    | .shared => (device.queueHeaterCommand .solHt enable, .accepted)
    | .unknown => (device, .mappingFailed)

def request : Request → SerialAdapterDevice × ActuationResult
  | .actuateDevice actuated action => device.actuateDevice actuated action
  | .setPoolSetpoint temperature => device.setPoolSetpoint temperature
  | .setSpaSetpoint temperature => device.setSpaSetpoint temperature
  | .setCirculationMode mode => device.setCirculationMode hub mode
  | .setHeaterMode heaterBody enable => device.setHeaterMode heaterBody enable

end SerialAdapterDevice

/-! ### Runs -/

/-- What happens to the device. -/
inductive AdapterEvent where
  | message (hub : HubView) (message : Message)
  | request (hub : HubView) (request : Request)
  /-- No message has come for too long. -/
  | watchdogTimeout

namespace SerialAdapterDevice

def step (device : SerialAdapterDevice) : AdapterEvent → SerialAdapterDevice
  | .message hub message => (device.receive hub message).1
  | .request hub request => (device.request hub request).1
  | .watchdogTimeout => { device with running := false }

end SerialAdapterDevice

end AqualinkAutomate.SerialAdapter
