import Aqualink.Iaq.Device

/-!
# The command channel

All that the touch panel is asked to do shares one channel to the controller: a queue, a
pending command, an armed value, and the goals of three writers.  `Channel` is the part of the
device that this is about, and `ChannelStep` says what can become of it when something happens
to the device (`channelStep_react`).  The pages come in only through the steps of the writers.
-/

namespace AqualinkAutomate.Iaq

open General Navigation Equipment Scheduling List Function

@[ext]
structure Channel where
  queue : List UInt8
  pending : UInt8
  awaiting : Bool
  hasGoal : WriterName → Bool
  emulated : Bool
  suppressed : Bool

def IaqDevice.channel (device : IaqDevice) : Channel where
  queue := device.commandQueue
  pending := device.pendingCommand
  awaiting := device.awaitingControlReady
  hasGoal := device.hasPendingGoal
  emulated := device.emulated
  suppressed := device.suppressed

namespace Channel

def active (channel : Channel) : Bool := channel.emulated && !channel.suppressed

def NoGoal (channel : Channel) : Prop := ∀ name, channel.hasGoal name = false

instance (channel : Channel) : Decidable channel.NoGoal :=
  inferInstanceAs (Decidable (∀ name, channel.hasGoal name = false))

def busy (channel : Channel) : Bool :=
  channel.hasGoal .aquaPure || channel.hasGoal .spaSwitch || channel.hasGoal .schedule ||
    (!channel.queue.isEmpty || channel.awaiting)

theorem busy_eq_false_iff {channel : Channel} :
    channel.busy = false ↔
      channel.NoGoal ∧ channel.queue = [] ∧ channel.awaiting = false := by
  simp only [busy, NoGoal, Bool.or_eq_false_iff, Bool.not_eq_false', List.isEmpty_iff]
  constructor
  · rintro ⟨⟨⟨haqua, hspa⟩, hschedule⟩, hqueue, hawaiting⟩
    exact ⟨fun name => by cases name <;> assumption, hqueue, hawaiting⟩
  · rintro ⟨hnone, hqueue, hawaiting⟩
    exact ⟨⟨⟨hnone _, hnone _⟩, hnone _⟩, hqueue, hawaiting⟩

def serve (channel : Channel) (name : WriterName) (calls : SinkCalls) (finished : Option Bool) :
    Channel :=
  { channel with
    pending := calls.command.getD channel.pending
    awaiting := calls.controlValue.isSome || channel.awaiting
    hasGoal := Function.update channel.hasGoal name finished.isNone }

/-- The channel after the answer to a poll. -/
def send (channel : Channel) : Channel :=
  match channel.queue with
  | _ :: rest => { channel with queue := rest }
  | [] => { channel with pending := 0x00 }

section

variable (channel : Channel)

@[simp] theorem hasGoal_send : channel.send.hasGoal = channel.hasGoal := by
  unfold send
  split <;> rfl

@[simp] theorem awaiting_send : channel.send.awaiting = channel.awaiting := by
  unfold send
  split <;> rfl

@[simp] theorem emulated_send : channel.send.emulated = channel.emulated := by
  unfold send
  split <;> rfl

@[simp] theorem queue_send : channel.send.queue = channel.queue.tail := by
  unfold send
  split
  next hqueue => rw [hqueue, tail_cons]
  next hqueue => rw [hqueue, tail_nil]

end

/-- What goes out with the answer to a poll. -/
def sending (channel : Channel) : List Effect :=
  if channel.active = false then []
  else
    match channel.queue with
    | command :: _ => [.sentQueued command]
    | [] => if channel.pending = 0x00 then [] else [.sentPending channel.pending]

end Channel

inductive ChannelStep : Channel → List Effect → Channel → Prop where
  | quiet (channel : Channel) : ChannelStep channel [] channel
  | setpoint (channel : Channel) (field : UInt8) (hactive : channel.active = true) :
      ChannelStep channel [.queued .setpoint (IaqDevice.setpointCommands field)]
        { channel with queue := IaqDevice.setpointCommands field, awaiting := true }
  | survey (channel : Channel) (commands : List UInt8) (hemulated : channel.emulated = true) :
      ChannelStep channel [.queued .survey commands] { channel with queue := commands }
  | press (channel : Channel) (command : UInt8) (button : Option ResolvedButton)
      (wish : Option ExplicitWish) :
      ChannelStep channel [.pressed command button wish] { channel with pending := command }
  | takeGoal (channel : Channel) (name : WriterName) (hemulated : channel.emulated = true)
      (hfree : channel.busy = false) :
      ChannelStep channel [.goalTaken name]
        { channel with hasGoal := Function.update channel.hasGoal name true }
  | poll (channel : Channel) (hnone : channel.NoGoal) :
      ChannelStep channel (.polled :: channel.sending) channel.send
  | pollServing (channel : Channel) (name : WriterName) (calls : SinkCalls)
      (finished : Option Bool) (hgoal : channel.hasGoal name = true)
      (hdwells : finished.isSome = true → calls = .issue cmdDwell)
      (hsubmits : calls.controlValue.isSome = true → calls.command = some cmdSubmitValue) :
      ChannelStep channel
        (.polled :: .served name calls finished :: (channel.serve name calls finished).sending)
        (channel.serve name calls finished).send
  | answer (channel : Channel) (value : Text) (hawaiting : channel.awaiting = true) :
      ChannelStep channel (if channel.emulated then [.answered value] else [])
        { channel with awaiting := false }
  | suppress (channel : Channel) :
      ChannelStep channel [.suppressed] { channel with suppressed := true }

def Channel.OneGoal (channel : Channel) : Prop :=
  ∀ name name', channel.hasGoal name = true → channel.hasGoal name' = true → name = name'

theorem Channel.OneGoal.noGoal_end {channel : Channel} {name : WriterName} (h : channel.OneGoal)
    (hgoal : channel.hasGoal name) :
    ∀ other, Function.update channel.hasGoal name false other = false := by
  intro other
  by_cases heq : other = name
  · rw [heq, update_self]
  · rw [update_of_ne heq]
    exact (Bool.not_eq_true _).mp fun hother => heq (h other name hother hgoal)

/-! ## The device keeps to these steps -/

namespace IaqDevice

variable {device : IaqDevice}

theorem channel_observeMenuPage : device.observeMenuPage.1.channel = device.channel := by
  refine Channel.ext rfl rfl rfl (funext fun name => ?_) rfl rfl
  cases name with
  | aquaPure =>
    exact congrArg Option.isSome (device.aquaPureWriter.pending_observeMenuPage device.pageModel)
  | spaSwitch | schedule => rfl

theorem channel_takePage (message : PageMessage) :
    (device.takePage message).channel = device.channel := by
  cases message with
  | tableMessage line attr text =>
    simp only [takePage]
    cases parseSpaSwitchAssignmentLine text with
    | none => rfl
    | some assignment =>
      dsimp only
      split <;> rfl
  | pageStart | pageButton | titleMessage | pageEnd => rfl

theorem sendCommand_eq :
    device.sendCommand.1.channel = device.channel.send ∧
      device.sendCommand.2 = device.channel.sending := by
  have hactive : device.channel.active = device.isEmulationActive := rfl
  have hqueue : device.channel.queue = device.commandQueue := rfl
  have hpending : device.channel.pending = device.pendingCommand := rfl
  unfold sendCommand Channel.send Channel.sending transmit
  rw [hactive, hqueue, hpending]
  cases hwaits : device.commandQueue with
  | cons command rest =>
    refine ⟨rfl, ?_⟩
    cases device.isEmulationActive <;> rfl
  | nil =>
    dsimp only
    split
    · next hnothing =>
        refine ⟨?_, by cases device.isEmulationActive <;> rfl⟩
        exact Channel.ext hwaits hnothing rfl rfl rfl rfl
    · refine ⟨Channel.ext rfl rfl rfl rfl rfl rfl, ?_⟩
      cases device.isEmulationActive <;> rfl

theorem serve_of_goal {name : WriterName} (h : device.hasPendingGoal name) :
    ∃ calls finished, (device.serve name).2 = [.served name calls finished] ∧
      (device.serve name).1.channel = device.channel.serve name calls finished ∧
      (finished.isSome → calls = .issue cmdDwell) ∧
      (calls.controlValue.isSome → calls.command = some cmdSubmitValue) := by
  have hserved : device.serve name =
      ((device.stepWriter name).1.take (device.stepWriter name).2.1,
        [.served name (device.stepWriter name).2.1 (device.stepWriter name).2.2]) := by
    rw [serve, if_neg (by rw [h]; decide)]
  rw [hserved]
  refine ⟨_, _, rfl, ?_⟩
  cases name with
  | spaSwitch =>
    obtain ⟨hgoal, hdwells, hsubmits⟩ := SpaSwitchWriter.regular_processStep h
      device.pageModel device.spaSwitchAssignments
    refine ⟨Channel.ext rfl rfl rfl (funext fun other => ?_) rfl rfl, hdwells, hsubmits⟩
    cases other with
    | spaSwitch => exact hgoal
    | aquaPure | schedule => rfl
  | aquaPure =>
    obtain ⟨hgoal, hdwells, hsubmits⟩ := AquaPureWriter.regular_processStep h device.pageModel
    refine ⟨Channel.ext rfl rfl rfl (funext fun other => ?_) rfl rfl, hdwells, hsubmits⟩
    cases other with
    | aquaPure => exact hgoal
    | spaSwitch | schedule => rfl
  | schedule =>
    obtain ⟨hgoal, hdwells, hsubmits⟩ := ScheduleWriter.regular_processStep h
      device.pageModel device.statusPage
    refine ⟨Channel.ext rfl rfl rfl (funext fun other => ?_) rfl rfl, hdwells, hsubmits⟩
    cases other with
    | schedule => exact hgoal
    | spaSwitch | aquaPure => rfl

theorem serve_of_noGoal {name : WriterName} (h : device.hasPendingGoal name = false) :
    device.serve name = (device, []) :=
  if_pos h

end IaqDevice

/-! ### A poll -/

/-- The writers that are done were served: either one of them had the goal and took its step,
or none had one and nothing happened yet. -/
def Served (channel : Channel) (done : List WriterName) (reaction : Reaction) : Prop :=
  ((∀ name ∈ done, channel.hasGoal name = false) ∧ reaction.2 = [.polled] ∧
      reaction.1.channel = channel) ∨
    ∃ name ∈ done, ∃ calls finished, channel.hasGoal name = true ∧
      reaction.2 = [.polled, .served name calls finished] ∧
      reaction.1.channel = channel.serve name calls finished ∧
      (finished.isSome = true → calls = .issue cmdDwell) ∧
      (calls.controlValue.isSome = true → calls.command = some cmdSubmitValue)

namespace Served

variable {channel : Channel} {done : List WriterName} {reaction : Reaction} {name : WriterName}

theorem andThen_observeMenuPage (h : Served channel done reaction) :
    Served channel done (reaction.andThen IaqDevice.observeMenuPage) := by
  have hchannel : (reaction.andThen IaqDevice.observeMenuPage).1.channel = reaction.1.channel :=
    IaqDevice.channel_observeMenuPage
  have heffects : (reaction.andThen IaqDevice.observeMenuPage).2 = reaction.2 :=
    append_nil _
  unfold Served
  rwa [hchannel, heffects]

theorem andThen_serve (h : Served channel done reaction) (hone : channel.OneGoal)
    (hname : name ∉ done) :
    Served channel (name :: done) (reaction.andThen (IaqDevice.serve name)) := by
  rcases h with ⟨hnone, heffects, hchannel⟩ | ⟨server, hserver, calls, finished, hgoal, hserved⟩
  · have hhas : reaction.1.hasPendingGoal name = channel.hasGoal name :=
      congrFun (congrArg Channel.hasGoal hchannel) name
    cases hgoal : channel.hasGoal name with
    | false =>
      rw [Reaction.andThen, IaqDevice.serve_of_noGoal (hhas.trans hgoal)]
      refine .inl ⟨?_, by rw [heffects]; rfl, hchannel⟩
      exact List.forall_mem_cons.mpr ⟨hgoal, hnone⟩
    | true =>
      obtain ⟨calls, finished, heffects', hchannel', hregular⟩ :=
        IaqDevice.serve_of_goal (hhas.trans hgoal)
      refine .inr ⟨name, mem_cons_self, calls, finished, hgoal, ?_, ?_, hregular⟩
      · rw [Reaction.andThen, heffects, heffects']
        rfl
      · rw [Reaction.andThen, hchannel', hchannel]
  · obtain ⟨heffects, hchannel, hregular⟩ := hserved
    have hne : name ≠ server := fun heq => hname (heq ▸ hserver)
    have hnone : reaction.1.hasPendingGoal name = false :=
      calc reaction.1.hasPendingGoal name
        _ = (channel.serve server calls finished).hasGoal name :=
            congrFun (congrArg Channel.hasGoal hchannel) name
        _ = channel.hasGoal name := update_of_ne hne _ _
        _ = false := (Bool.not_eq_true _).mp fun hgoal' => hne (hone _ _ hgoal' hgoal)
    rw [Reaction.andThen, IaqDevice.serve_of_noGoal hnone]
    exact .inr ⟨server, mem_cons_of_mem _ hserver, calls, finished, hgoal,
      (append_nil _).trans heffects, hchannel, hregular⟩

end Served

namespace IaqDevice

variable {device : IaqDevice}

theorem channelStep_poll (h : device.channel.OneGoal) :
    ChannelStep device.channel (device.receive .poll).2 (device.receive .poll).1.channel := by
  have hstart : Served device.channel [] (device, [.polled]) :=
    .inl ⟨fun name hname => (not_mem_nil hname).elim, rfl, rfl⟩
  have hserved : Served device.channel [.schedule, .aquaPure, .spaSwitch]
      ((((Reaction.andThen (device, [.polled]) (serve .spaSwitch)).andThen
        observeMenuPage).andThen (serve .aquaPure)).andThen (serve .schedule)) := by
    have hspa := hstart.andThen_serve h (by decide : WriterName.spaSwitch ∉ [])
    have haqua := hspa.andThen_observeMenuPage.andThen_serve h
      (by decide : WriterName.aquaPure ∉ [.spaSwitch])
    exact haqua.andThen_serve h (by decide)
  change ChannelStep _ (device.processControllerUpdates true).2
    (device.processControllerUpdates true).1.channel
  rw [processControllerUpdates, if_pos rfl]
  generalize (((Reaction.andThen (device, [.polled]) (serve .spaSwitch)).andThen
    observeMenuPage).andThen (serve .aquaPure)).andThen (serve .schedule) = served at *
  obtain ⟨hsent, hsending⟩ : served.1.sendCommand.1.channel = served.1.channel.send ∧
      served.1.sendCommand.2 = served.1.channel.sending := sendCommand_eq
  rw [Reaction.andThen, hsent, hsending]
  rcases hserved with ⟨hnone, heffects, hchannel⟩ | ⟨name, -, calls, finished, hgoal, hserved⟩
  · rw [heffects, hchannel]
    refine .poll _ fun name => hnone name ?_
    cases name <;> decide
  · obtain ⟨heffects, hchannel, hdwells, hsubmits⟩ := hserved
    rw [heffects, hchannel]
    exact .pollServing _ name calls finished hgoal hdwells hsubmits

theorem commandQueue_serve (name : WriterName) (device : IaqDevice) :
    (device.serve name).1.commandQueue = device.commandQueue := by
  unfold serve
  split
  · rfl
  · cases name <;> rfl

theorem commandQueue_sendCommand (device : IaqDevice) :
    device.sendCommand.1.commandQueue = device.commandQueue.tail := by
  unfold sendCommand
  split
  next hqueue => rw [hqueue, tail_cons]
  next hqueue =>
    rw [hqueue, tail_nil]
    split
    · exact hqueue
    · rfl

theorem commandQueue_receive_poll (device : IaqDevice) :
    (device.receive .poll).1.commandQueue = device.commandQueue.tail := by
  refine (commandQueue_sendCommand _).trans (congrArg List.tail ?_)
  refine (commandQueue_serve .schedule _).trans ?_
  exact (commandQueue_serve .aquaPure _).trans (commandQueue_serve .spaSwitch device)

/-! ### Which steps a poll takes -/

variable {effect : Effect}

theorem mem_serve {name : WriterName} (h : effect ∈ (device.serve name).2) :
    device.hasPendingGoal name ∧
      ∃ finished, effect = .served name (device.stepWriter name).2.1 finished := by
  unfold serve at h
  split at h
  · cases h
  · next hgoal => exact ⟨(Bool.not_eq_false _).mp hgoal, _, List.mem_singleton.mp h⟩

theorem mem_sendCommand (h : effect ∈ device.sendCommand.2) :
    ∃ command, effect = .sentQueued command ∨ effect = .sentPending command := by
  rw [sendCommand_eq.2, Channel.sending] at h
  split at h
  · cases h
  · split at h
    · exact ⟨_, .inl (List.mem_singleton.mp h)⟩
    · split at h
      · cases h
      · exact ⟨_, .inr (List.mem_singleton.mp h)⟩

theorem serve_frame (name : WriterName) (device : IaqDevice) :
    (device.serve name).1.pageModel = device.pageModel ∧
      (device.serve name).1.statusPage = device.statusPage ∧
      (name ≠ .aquaPure → (device.serve name).1.aquaPureWriter = device.aquaPureWriter) ∧
      (name ≠ .schedule → (device.serve name).1.scheduleWriter = device.scheduleWriter) := by
  unfold serve
  split
  · exact ⟨rfl, rfl, fun _ => rfl, fun _ => rfl⟩
  · cases name with
    | spaSwitch => exact ⟨rfl, rfl, fun _ => rfl, fun _ => rfl⟩
    | aquaPure => exact ⟨rfl, rfl, fun h => absurd rfl h, fun _ => rfl⟩
    | schedule => exact ⟨rfl, rfl, fun _ => rfl, fun h => absurd rfl h⟩

def pollCalls (device : IaqDevice) : WriterName → SinkCalls
  | .spaSwitch =>
    (device.spaSwitchWriter.processStep device.pageModel device.spaSwitchAssignments).calls
  | .aquaPure =>
    ((device.aquaPureWriter.observeMenuPage device.pageModel).processStep device.pageModel).calls
  | .schedule => (device.scheduleWriter.processStep device.pageModel device.statusPage).calls

theorem mem_receive_poll (h : effect ∈ (device.receive .poll).2) :
    effect = .polled ∨
      (∃ name finished, device.hasPendingGoal name ∧
        effect = .served name (device.pollCalls name) finished) ∨
      ∃ command, effect = .sentQueued command ∨ effect = .sentPending command := by
  simp only [receive, processControllerUpdates, if_true, Reaction.andThen, mem_append] at h
  -- the device as the writers after the first one find it
  obtain ⟨hpage, hstatus, haqua, hschedule⟩ := serve_frame .spaSwitch device
  have haqua := haqua (by decide)
  have hschedule := hschedule (by decide)
  rcases h with (((((h | h) | h) | h) | h) | h)
  · exact .inl (List.mem_singleton.mp h)
  · obtain ⟨hgoal, finished, rfl⟩ := mem_serve h
    exact .inr (.inl ⟨.spaSwitch, finished, hgoal, rfl⟩)
  · cases h
  · obtain ⟨hgoal, finished, rfl⟩ := mem_serve h
    have hobserved : (device.serve .spaSwitch).1.observeMenuPage.1.aquaPureWriter =
        device.aquaPureWriter.observeMenuPage device.pageModel := by
      rw [observeMenuPage, haqua, hpage]
    have hshown : (device.serve .spaSwitch).1.observeMenuPage.1.pageModel = device.pageModel :=
      hpage
    refine .inr (.inl ⟨.aquaPure, finished, ?_, ?_⟩)
    · rwa [hasPendingGoal, hobserved, AquaPureWriter.pending_observeMenuPage] at hgoal
    · rw [stepWriter, hobserved, hshown, pollCalls]
  · obtain ⟨hgoal, finished, rfl⟩ := mem_serve h
    obtain ⟨hpage', hstatus', -, hschedule'⟩ :=
      serve_frame .aquaPure (device.serve .spaSwitch).1.observeMenuPage.1
    have hwriter := (hschedule' (by decide)).trans hschedule
    refine .inr (.inl ⟨.schedule, finished, ?_, ?_⟩)
    · rwa [hasPendingGoal, hwriter] at hgoal
    · rw [stepWriter, hwriter, hpage'.trans hpage, hstatus'.trans hstatus, pollCalls]
  · exact .inr (.inr (mem_sendCommand h))

theorem mem_receive_of_ne_poll {message : IaqMessage} (hpoll : message ≠ .poll)
    (h : effect ∈ (device.receive message).2) :
    (∃ commands, effect = .queued .survey commands) ∨ ∃ value, effect = .answered value := by
  cases message with
  | poll => exact absurd rfl hpoll
  | controlReady =>
    simp only [receive, answerControlReady] at h
    split at h
    · split at h
      · exact .inr ⟨_, List.mem_singleton.mp h⟩
      · cases h
    · cases h
  | mainStatus =>
    have heffects : (device.receive .mainStatus).2 = device.maybeStartPageSurvey.2 :=
      append_nil _
    rw [heffects, maybeStartPageSurvey] at h
    split at h
    · exact .inl ⟨_, List.mem_singleton.mp h⟩
    · cases h
  | probe =>
    simp only [receive] at h
    split at h <;> cases h
  | page | pageMessage | heartbeat | other => cases h

/-! ### Requests -/

/-- A writer that is asked for a goal either stays as it was or has the goal, and nothing else of
the channel moves. -/
theorem channelStep_queue {ω : Type*} {hasGoal : ω → Bool} {writer : ω} {allowed : Bool}
    {queued : ω × ActuationResult} {name : WriterName} (put : ω → IaqDevice)
    (h : Queued hasGoal writer allowed device.channelBusy queued)
    (hallowed : allowed → device.emulated) (hkept : put writer = device)
    (hput : ∀ writer, (put writer).channel =
      { device.channel with
        hasGoal := Function.update device.channel.hasGoal name (hasGoal writer) }) :
    ChannelStep device.channel (takeGoal name (put queued.1) queued.2).1.2
      (takeGoal name (put queued.1) queued.2).1.1.channel := by
  unfold takeGoal
  by_cases hresult : queued.2 = .accepted
  · obtain ⟨hready, hfree, hgoal⟩ := h.accepted hresult
    rw [if_pos hresult, hput, hgoal]
    exact .takeGoal _ name (hallowed hready) hfree
  · rw [if_neg hresult, h.refused hresult, hkept]
    exact .quiet _

theorem channelStep_queueAquaPure {queued : AquaPureWriter × ActuationResult}
    (h : Queued (·.pending.isSome) device.aquaPureWriter device.isEmulationActive
      device.channelBusy queued) :
    ChannelStep device.channel (device.queueAquaPure queued).1.2
      (device.queueAquaPure queued).1.1.channel :=
  channelStep_queue (fun writer => { device with aquaPureWriter := writer }) h
    (fun hactive => (Bool.and_eq_true_iff.mp hactive).1) rfl fun writer =>
      Channel.ext rfl rfl rfl (funext fun name => by cases name <;> rfl) rfl rfl

theorem channelStep_queueSchedule {queued : ScheduleWriter × ActuationResult}
    (h : Queued (·.pending.isSome) device.scheduleWriter device.emulated device.channelBusy
      queued) :
    ChannelStep device.channel (device.queueSchedule queued).1.2
      (device.queueSchedule queued).1.1.channel :=
  channelStep_queue (fun writer => { device with scheduleWriter := writer }) h id rfl fun writer =>
    Channel.ext rfl rfl rfl (funext fun name => by cases name <;> rfl) rfl rfl

theorem channelStep_queueSetpoint (field temperature : UInt8) :
    ChannelStep device.channel (device.queueSetpoint field temperature).1.2
      (device.queueSetpoint field temperature).1.1.channel := by
  unfold queueSetpoint
  split
  · exact .quiet _
  · next hactive => exact .setpoint _ field ((Bool.not_eq_false _).mp hactive)

theorem channelStep_selectPageButton (index : UInt8) (button : Option ResolvedButton)
    (wish : Option ExplicitWish) :
    ChannelStep device.channel (device.selectPageButton index button wish).2
      (device.selectPageButton index button wish).1.channel :=
  .press device.channel (pressCommandFor index) button wish

theorem channelStep_actuateDevice (target : Option AuxillaryTraits) (action : ActuationAction) :
    ChannelStep device.channel (device.actuateDevice target action).1.2
      (device.actuateDevice target action).1.1.channel := by
  rcases device.actuateDevice_cases target action with
    heq | ⟨traits, label, index, -, -, -, -, -, heq⟩
  · rw [heq]
    exact .quiet _
  · rw [heq]
    exact channelStep_selectPageButton _ _ _

theorem channelStep_request (request : IaqRequest) :
    ChannelStep device.channel (device.request request).1.2
      (device.request request).1.1.channel := by
  cases request with
  | poolSetpoint temperature => exact channelStep_queueSetpoint _ temperature
  | spaSetpoint temperature => exact channelStep_queueSetpoint _ temperature
  | chlorinatorPercentage percentage body =>
    exact channelStep_queueAquaPure (AquaPureWriter.queued_queuePercentage ..)
  | chlorinatorBoost enable => exact channelStep_queueAquaPure (AquaPureWriter.queued_queueBoost ..)
  | actuateDevice target action => exact channelStep_actuateDevice target action
  | actuatePageButton index => exact channelStep_selectPageButton index none none
  | spaSwitchAssignment switchNumber buttonNumber function =>
    exact channelStep_queue (fun writer => { device with spaSwitchWriter := writer })
      (SpaSwitchWriter.queued_queue ..) (fun hactive => (Bool.and_eq_true_iff.mp hactive).1) rfl
      fun writer => Channel.ext rfl rfl rfl (funext fun name => by cases name <;> rfl) rfl rfl
  | createControllerProgram program =>
    exact channelStep_queueSchedule (ScheduleWriter.queued_queueCreate ..)
  | deleteControllerProgram program =>
    exact channelStep_queueSchedule (ScheduleWriter.queued_queueDelete ..)
  | editControllerProgram existing desired =>
    exact channelStep_queueSchedule (ScheduleWriter.queued_queueEdit ..)

/-! ### Messages -/

/-- A message that is only acknowledged. -/
theorem channelStep_quiet {device' : IaqDevice} (h : device'.channel = device.channel) :
    ChannelStep device.channel (device'.processControllerUpdates false).2
      (device'.processControllerUpdates false).1.channel := by
  have hchannel : (device'.processControllerUpdates false).1.channel = device'.channel :=
    channel_observeMenuPage
  rw [hchannel, h]
  exact .quiet _

theorem channelStep_mainStatus :
    ChannelStep device.channel (device.receive .mainStatus).2
      (device.receive .mainStatus).1.channel := by
  have hchannel : (device.receive .mainStatus).1.channel =
      device.maybeStartPageSurvey.1.channel := channel_observeMenuPage
  have heffects : (device.receive .mainStatus).2 = device.maybeStartPageSurvey.2 :=
    append_nil _
  rw [hchannel, heffects, maybeStartPageSurvey]
  split
  · next harmed => exact .survey _ _ (Bool.and_eq_true_iff.mp harmed).1
  · exact .quiet _

theorem channelStep_receive (h : device.channel.OneGoal) (message : IaqMessage) :
    ChannelStep device.channel (device.receive message).2
      (device.receive message).1.channel := by
  cases message with
  | page message => exact channelStep_quiet (channel_takePage message)
  | pageMessage line text => exact channelStep_quiet rfl
  | poll => exact channelStep_poll h
  | controlReady =>
    simp only [receive]
    split
    · next harmed => exact .answer _ _ harmed.1
    · exact channelStep_quiet rfl
  | mainStatus => exact channelStep_mainStatus
  | probe =>
    simp only [receive]
    split
    · exact channelStep_quiet rfl
    · exact .quiet _
  | heartbeat => exact .quiet _
  | other => exact channelStep_quiet rfl

theorem channelStep_react (h : device.channel.OneGoal) (event : IaqEvent) :
    ChannelStep device.channel (device.react event).2 (device.react event).1.channel := by
  cases event with
  | message message => exact channelStep_receive h message
  | request request => exact channelStep_request request
  | enablePageSurvey registry => exact .quiet _
  | suppressEmulation => exact .suppress _

end IaqDevice

theorem ChannelStep.oneGoal {channel channel' : Channel} {effects : List Effect}
    (hstep : ChannelStep channel effects channel') (h : channel.OneGoal) : channel'.OneGoal := by
  cases hstep with
  | takeGoal name _ hfree =>
    have hnone := (Channel.busy_eq_false_iff.mp hfree).1
    intro first second hfirst hsecond
    have hupdate : ∀ other, Function.update channel.hasGoal name true other → other = name := by
      intro other hother
      by_contra hne
      rw [update_of_ne hne, hnone other] at hother
      cases hother
    rw [hupdate first hfirst, hupdate second hsecond]
  | pollServing name calls finished hgoal =>
    have hback : ∀ other, (channel.serve name calls finished).send.hasGoal other →
          channel.hasGoal other := by
      intro other hother
      rw [Channel.hasGoal_send] at hother
      by_cases heq : other = name
      · rw [heq, hgoal]
      · rw [← hother]
        exact (update_of_ne heq _ _).symm
    exact fun first second hfirst hsecond => h _ _ (hback _ hfirst) (hback _ hsecond)
  | poll =>
    intro first second
    rw [Channel.hasGoal_send]
    exact h first second
  | quiet | setpoint | survey | press | answer | suppress => exact h

end AqualinkAutomate.Iaq
