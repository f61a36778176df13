import Aqualink.SerialAdapter.Device

/-!
# The pending commands

What the events do to the pending commands: an accepted request puts its frames in their place,
a poll takes the first of them, and a device that falls silent drops them.
-/

namespace AqualinkAutomate.SerialAdapter

open Equipment General Hub

/-! ## Answers -/

namespace SerialAdapterDevice

variable {span : JandyAuxillaryIds → Bool} {device : SerialAdapterDevice}

theorem skipUnpollableStatusTypes_eq (span : JandyAuxillaryIds → Bool) (guard : ℕ)
    (device : SerialAdapterDevice) :
    ∃ iter, skipUnpollableStatusTypes span guard device =
      { device with statusTypesIter := iter } := by
  induction guard generalizing device with
  | zero => exact ⟨device.statusTypesIter, rfl⟩
  | succ guard ih =>
    unfold skipUnpollableStatusTypes
    split
    · split
      · exact ⟨device.statusTypesIter, rfl⟩
      · exact ih device.advanceStatusTypeIter
    · exact ⟨device.statusTypesIter, rfl⟩

/-- A question moves the rotation on. -/
theorem queryStatus_eq (span : JandyAuxillaryIds → Bool) (device : SerialAdapterDevice) :
    ∃ iter, (device.queryStatus span).1 = { device with statusTypesIter := iter } := by
  obtain ⟨iter, hiter⟩ := skipUnpollableStatusTypes_eq span device.statusTypes.length device
  unfold queryStatus
  rw [hiter]
  exact ⟨_, rfl⟩

/-- What the rest of the device can see of an answer: whether a command was taken. -/
structure Answered (device next : SerialAdapterDevice) (pending : List PendingCommand) : Prop where
  pendingCommands_eq : next.pendingCommands = pending
  statusMessageReceived_eq : next.statusMessageReceived = false
  emulated_eq : next.emulated = device.emulated
  suppressed_eq : next.suppressed = device.suppressed

theorem answered_processControllerUpdates_of_status (h : device.statusMessageReceived) :
    Answered device (device.processControllerUpdates span).1 device.pendingCommands.tail := by
  unfold processControllerUpdates takePending
  rw [if_pos h]
  cases hpending : device.pendingCommands with
  | cons pending rest => exact ⟨rfl, rfl, rfl, rfl⟩
  | nil =>
    obtain ⟨iter, hiter⟩ := queryStatus_eq span device
    dsimp only
    rw [hiter]
    exact ⟨hpending, rfl, rfl, rfl⟩

theorem answered_status (device : SerialAdapterDevice) (span : JandyAuxillaryIds → Bool) :
    Answered { device with statusMessageReceived := true }
      (processControllerUpdates span { device with statusMessageReceived := true }).1
      device.pendingCommands.tail :=
  answered_processControllerUpdates_of_status rfl

theorem answered_processControllerUpdates (h : device.statusMessageReceived = false) :
    Answered device (device.processControllerUpdates span).1 device.pendingCommands := by
  unfold processControllerUpdates
  rw [if_neg (Bool.eq_false_iff.mp h)]
  exact ⟨rfl, h, rfl, rfl⟩

theorem answered_drainPendingCommandForDevReady (h : device.statusMessageReceived = false) :
    Answered device device.drainPendingCommandForDevReady.1 device.pendingCommands.tail := by
  unfold drainPendingCommandForDevReady takePending
  cases hpending : device.pendingCommands with
  | cons pending rest => exact ⟨rfl, h, rfl, rfl⟩
  | nil => exact ⟨hpending, h, rfl, rfl⟩

end SerialAdapterDevice

/-! ## Requests -/

/-- The frames of a request, in the order in which they are to be sent. -/
def Request.frames : Request → List PendingCommand
  | .actuateDevice actuated action =>
    let state := SerialAdapterDevice.switchCode (turnsOn actuated.traits action)
    match actuated.auxId with
    | some auxId => [⟨state, auxillaryCode auxId⟩]
    | none => ((systemPumpFor actuated.traits).map fun command => ⟨state, command.code⟩).toList
  | .setPoolSetpoint temperature =>
    [⟨SystemTemperatureCommands.poolSp.code, CommandTypes.readySetpoint⟩, ⟨0x00, temperature⟩]
  | .setSpaSetpoint temperature =>
    [⟨SystemTemperatureCommands.spaSp.code, CommandTypes.readySetpoint⟩, ⟨0x00, temperature⟩]
  | .setCirculationMode .spa => [⟨CommandTypes.setOn, SystemPumpCommands.spa.code⟩]
  | .setCirculationMode .pool => [⟨CommandTypes.setOff, SystemPumpCommands.spa.code⟩]
  | .setCirculationMode .spillover => [⟨CommandTypes.setOn, SystemPumpCommands.spillover.code⟩]
  | .setCirculationMode _ => []
  | .setHeaterMode .pool enable =>
    [⟨SerialAdapterDevice.switchCode enable, SystemTemperatureCommands.poolHt.code⟩]
  | .setHeaterMode .spa enable =>
    [⟨SerialAdapterDevice.switchCode enable, SystemTemperatureCommands.spaHt.code⟩]
  | .setHeaterMode .shared enable =>
    [⟨SerialAdapterDevice.switchCode enable, SystemTemperatureCommands.solHt.code⟩]
  | .setHeaterMode .unknown _ => []

namespace SerialAdapterDevice

variable {device : SerialAdapterDevice} {hub : HubView}

section

variable (h : device.isEmulationActive = true)

include h

theorem not_suppressed_of_active : (device.emulated && device.suppressed) = false := by
  unfold isEmulationActive at h
  rw [Bool.and_eq_true, Bool.not_eq_true'] at h
  rw [h.2, Bool.and_false]

theorem queueCommand_of_active (ackType ackDataValue : UInt8) :
    device.queueCommand ackType ackDataValue =
      { device with pendingCommands := [⟨ackType, ackDataValue⟩] } := by
  unfold queueCommand
  rw [not_suppressed_of_active h]
  rfl

theorem queueSetpointWriteTwoStep_of_active (setpoint : SystemTemperatureCommands)
    (temperature : UInt8) :
    device.queueSetpointWriteTwoStep setpoint temperature =
      { device with
        pendingCommands :=
          [⟨setpoint.code, CommandTypes.readySetpoint⟩, ⟨0x00, temperature⟩] } := by
  have hsuppressed := not_suppressed_of_active h
  unfold queueSetpointWriteTwoStep
  rw [queueCommand_of_active h]
  dsimp only
  rw [hsuppressed]
  rfl

end

theorem request_cases (hub : HubView) (device : SerialAdapterDevice) (request : Request) :
    ((device.request hub request).2 = .accepted ∧ device.isEmulationActive ∧
        (device.request hub request).1 = { device with pendingCommands := request.frames }) ∨
      ((device.request hub request).2 ≠ .accepted ∧ (device.request hub request).1 = device) := by
  by_cases h : device.isEmulationActive
  · cases request with
    | actuateDevice actuated action =>
      by_cases hrunning : device.running
      · cases hid : actuated.auxId with
        | some auxId =>
          left
          simp [SerialAdapterDevice.request, actuateDevice, Request.frames, h, hrunning, hid,
            queueAuxToggleWrite, queueCommand_of_active h]
        | none =>
          cases hpump : systemPumpFor actuated.traits with
          | some command =>
            left
            simp [SerialAdapterDevice.request, actuateDevice, Request.frames, h, hrunning,
              hid, hpump, queuePumpCommand, queueCommand_of_active h]
          | none =>
            right
            simp [SerialAdapterDevice.request, actuateDevice, h, hrunning, hid, hpump]
      · right
        simp [SerialAdapterDevice.request, actuateDevice, h, hrunning]
    | setPoolSetpoint temperature =>
      left
      simp [SerialAdapterDevice.request, setPoolSetpoint, setSetpoint, Request.frames, h,
        queueSetpointWriteTwoStep_of_active h]
    | setSpaSetpoint temperature =>
      left
      simp [SerialAdapterDevice.request, setSpaSetpoint, setSetpoint, Request.frames, h,
        queueSetpointWriteTwoStep_of_active h]
    | setCirculationMode mode =>
      by_cases hsingle : hub.poolConfiguration = .singleBody <;> cases mode <;>
        simp [SerialAdapterDevice.request, setCirculationMode, Request.frames, h, hsingle,
          queuePumpCommand, queueCommand_of_active h]
    | setHeaterMode heaterBody enable =>
      cases heaterBody <;>
        simp [SerialAdapterDevice.request, setHeaterMode, Request.frames, h, queueHeaterCommand,
          queueCommand_of_active h]
  · right
    cases request <;>
      simp [SerialAdapterDevice.request, actuateDevice, setPoolSetpoint, setSpaSetpoint,
        setSetpoint, setCirculationMode, setHeaterMode, h]

/-! ## Events -/

/-- The messages that are answered with a pending command. -/
def isPoll : AdapterEvent → Bool
  | .message _ .status | .message _ .devReady => true
  | _ => false

def suppresses (device : SerialAdapterDevice) : AdapterEvent → Bool
  | .message hub .devReady | .message hub (.devStatus _) =>
    device.emulated && !device.suppressed && !hub.presenceGatingDisabled &&
      !device.hasClaimedAddress
  | _ => false

def accepts (device : SerialAdapterDevice) : AdapterEvent → Bool
  | .request hub request => decide ((device.request hub request).2 = .accepted)
  | _ => false

def taken (device : SerialAdapterDevice) (event : AdapterEvent) : Option PendingCommand :=
  if isPoll event && !device.suppresses event then device.pendingCommands.head? else none

def offered (device : SerialAdapterDevice) : AdapterEvent → List PendingCommand
  | .request hub request =>
    if (device.request hub request).2 = .accepted then request.frames else []
  | _ => []

theorem detectRealAdapter_of_suppresses {message : Message}
    (h : device.suppresses (.message hub message)) :
    device.detectRealAdapterAndSuppressEmulation hub =
      { device with suppressed := true, pendingCommands := [] } := by
  unfold detectRealAdapterAndSuppressEmulation
  cases message <;> simp_all [suppresses]

theorem detectRealAdapter_of_not_suppresses {message : Message}
    (hmessage : message = .devReady ∨ ∃ options, message = .devStatus options)
    (h : device.suppresses (.message hub message) = false) :
    device.detectRealAdapterAndSuppressEmulation hub = device := by
  unfold detectRealAdapterAndSuppressEmulation
  obtain rfl | ⟨options, rfl⟩ := hmessage <;> simp_all [suppresses]

theorem pendingCommands_readOptions (device : SerialAdapterDevice) (options : Option Options) :
    (options.elim device fun options => device.readOptions options).pendingCommands =
        device.pendingCommands ∧
      (options.elim device fun options => device.readOptions options).statusMessageReceived =
        device.statusMessageReceived := by
  cases options with
  | none => exact ⟨rfl, rfl⟩
  | some options =>
    simp only [Option.elim_some, readOptions]
    split <;> exact ⟨rfl, rfl⟩

theorem pendingCommands_request (hub : HubView) (request : Request) :
    (device.step (.request hub request)).pendingCommands =
      if device.accepts (.request hub request) then device.offered (.request hub request)
      else device.pendingCommands := by
  obtain ⟨haccepted, -, hdevice⟩ | ⟨hrefused, hdevice⟩ := request_cases hub device request
  · have haccepts : device.accepts (.request hub request) := decide_eq_true haccepted
    rw [step, hdevice, if_pos haccepts, offered, if_pos haccepted]
  · have haccepts : ¬ device.accepts (.request hub request) := by
      simpa [accepts] using hrefused
    rw [step, hdevice, if_neg haccepts]

theorem answered_devReady (hub : HubView) (h : device.statusMessageReceived = false) :
    Answered (device.detectRealAdapterAndSuppressEmulation hub)
      (device.step (.message hub .devReady))
      (device.detectRealAdapterAndSuppressEmulation hub).pendingCommands.tail := by
  refine answered_drainPendingCommandForDevReady ?_
  unfold detectRealAdapterAndSuppressEmulation
  split_ifs <;> exact h

theorem answered_devStatus (hub : HubView) (h : device.statusMessageReceived = false)
    (options : Option Options) :
    Answered ((options.elim (device.detectRealAdapterAndSuppressEmulation hub) fun options =>
        (device.detectRealAdapterAndSuppressEmulation hub).readOptions options))
      (device.step (.message hub (.devStatus options)))
      (device.detectRealAdapterAndSuppressEmulation hub).pendingCommands := by
  obtain ⟨hpending, hstatus⟩ := (device.detectRealAdapterAndSuppressEmulation
    hub).pendingCommands_readOptions options
  have hdetected : (device.detectRealAdapterAndSuppressEmulation hub).statusMessageReceived =
      false := by
    unfold detectRealAdapterAndSuppressEmulation
    split_ifs <;> exact h
  rw [← hpending]
  exact answered_processControllerUpdates (hstatus.trans hdetected)

theorem pendingCommands_step (h : device.statusMessageReceived = false) (event : AdapterEvent) :
    (device.step event).statusMessageReceived = false ∧
      (device.step event).pendingCommands =
        if device.accepts event then device.offered event
        else if device.suppresses event then []
        else if isPoll event then device.pendingCommands.tail
        else device.pendingCommands := by
  cases event with
  | watchdogTimeout => exact ⟨h, rfl⟩
  | request hub request =>
    refine ⟨?_, pendingCommands_request hub request⟩
    obtain ⟨-, -, hdevice⟩ | ⟨-, hdevice⟩ := request_cases hub device request <;>
      rw [step, hdevice] <;> exact h
  | message hub message =>
    cases message with
    | ack => exact ⟨h, rfl⟩
    | probe | unknown =>
      have hanswered : Answered device (device.processControllerUpdates hub.span).1
          device.pendingCommands := answered_processControllerUpdates h
      exact ⟨hanswered.statusMessageReceived_eq, hanswered.pendingCommands_eq⟩
    | status =>
      have hanswered := answered_status device hub.span
      exact ⟨hanswered.statusMessageReceived_eq, hanswered.pendingCommands_eq⟩
    | devReady =>
      have hanswered := answered_devReady hub h
      refine ⟨hanswered.statusMessageReceived_eq, hanswered.pendingCommands_eq.trans ?_⟩
      cases hsuppress : device.suppresses (.message hub .devReady) with
      | true =>
        rw [detectRealAdapter_of_suppresses hsuppress]
        rfl
      | false =>
        rw [detectRealAdapter_of_not_suppresses (.inl rfl) hsuppress]
        rfl
    | devStatus options =>
      have hanswered := answered_devStatus hub h options
      refine ⟨hanswered.statusMessageReceived_eq, hanswered.pendingCommands_eq.trans ?_⟩
      cases hsuppress : device.suppresses (.message hub (.devStatus options)) with
      | true =>
        rw [detectRealAdapter_of_suppresses hsuppress]
        rfl
      | false =>
        rw [detectRealAdapter_of_not_suppresses (.inr ⟨options, rfl⟩) hsuppress]
        rfl

/-! ## The answer on the wire -/

theorem isEmulationActive_of_answered {next : SerialAdapterDevice} {pending : List PendingCommand}
    (h : Answered device next pending) : next.isEmulationActive = device.isEmulationActive := by
  unfold isEmulationActive
  rw [h.emulated_eq, h.suppressed_eq]

variable {event : AdapterEvent}

theorem isEmulationActive_step (h : device.statusMessageReceived = false)
    (hsuppress : device.suppresses event = false) :
    (device.step event).isEmulationActive = device.isEmulationActive := by
  cases event with
  | watchdogTimeout => rfl
  | request hub request =>
    obtain ⟨-, -, hdevice⟩ | ⟨-, hdevice⟩ := request_cases hub device request
    · rw [step, hdevice]
      rfl
    · rw [step, hdevice]
  | message hub message =>
    cases message with
    | ack => rfl
    | probe | unknown =>
      exact isEmulationActive_of_answered (answered_processControllerUpdates h)
    | status =>
      have hanswered := isEmulationActive_of_answered (answered_status device hub.span)
      exact hanswered
    | devReady =>
      have hanswered := isEmulationActive_of_answered (answered_devReady hub h)
      rwa [detectRealAdapter_of_not_suppresses (.inl rfl) hsuppress] at hanswered
    | devStatus options =>
      have hanswered := isEmulationActive_of_answered (answered_devStatus hub h options)
      rw [detectRealAdapter_of_not_suppresses (.inr ⟨options, rfl⟩) hsuppress] at hanswered
      refine hanswered.trans ?_
      cases options with
      | none => rfl
      | some options =>
        simp only [Option.elim_some, readOptions]
        split <;> rfl

/-- Between two events no status message waits, and only an active device has something
pending. -/
structure Settled (device : SerialAdapterDevice) : Prop where
  statusMessageReceived_eq : device.statusMessageReceived = false
  active_of_pending : device.pendingCommands ≠ [] → device.isEmulationActive

theorem settled_of_emulated (emulated : Bool) : Settled { emulated } :=
  ⟨rfl, fun h => absurd rfl h⟩

theorem not_suppresses_of_accepts (h : device.accepts event) : device.suppresses event = false := by
  cases event with
  | request hub request => rfl
  | message hub message => cases h
  | watchdogTimeout => cases h

theorem active_of_accepts (h : device.accepts event) : device.isEmulationActive := by
  cases event with
  | message hub message => cases h
  | watchdogTimeout => cases h
  | request hub request =>
    obtain ⟨-, hactive, -⟩ | ⟨hrefused, -⟩ := request_cases hub device request
    · exact hactive
    · exact absurd (of_decide_eq_true h) hrefused

theorem Settled.step (h : device.Settled) (event : AdapterEvent) : (device.step event).Settled := by
  obtain ⟨hstatus, hpending⟩ := pendingCommands_step h.statusMessageReceived_eq event
  refine ⟨hstatus, fun hne => ?_⟩
  rw [hpending] at hne
  by_cases haccepts : device.accepts event
  · rw [isEmulationActive_step h.statusMessageReceived_eq (not_suppresses_of_accepts haccepts)]
    exact active_of_accepts haccepts
  rw [if_neg haccepts] at hne
  by_cases hsuppress : device.suppresses event
  · rw [if_pos hsuppress] at hne
    exact absurd rfl hne
  rw [if_neg hsuppress] at hne
  rw [isEmulationActive_step h.statusMessageReceived_eq (Bool.eq_false_iff.mpr hsuppress)]
  refine h.active_of_pending fun hnone => hne ?_
  rw [hnone]
  exact ite_self _

end SerialAdapterDevice

end AqualinkAutomate.SerialAdapter
