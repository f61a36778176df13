import Mathlib.Data.List.Induction
import Aqualink.General.Runs

/-!
# A spa-side remote that is observed

The master polls a remote with the image of its lamps, and the remote answers with an
acknowledgement that names the button that is pressed.  An acknowledgement says nothing about
who sends it.  So the device that watches the bus opens a window when the master polls the
remote, and takes the next acknowledgement for the answer.

A remote that stays silent leaves the window open.  The master turns to another address, and the
answer from there is taken for the one of the remote.

* `awaitingButtonAck_run`: the window is open while the remote has been polled and nothing has
  been acknowledged since.
* `attributed_iff`: each button that is recorded comes from an answer to a poll of the remote,
  exactly if no foreign acknowledgement that looks like a button comes first after such a poll.
-/

namespace AqualinkAutomate.Spaside

open General List

/-! ## The device -/

inductive SpasideLedState where
  | off | on | blink
  deriving DecidableEq

/-- The lamps that an image has a confirmed place for. -/
def ledIndicatorCount : ℕ := 4

structure SpasideRemoteDevice where
  deviceId : UInt8
  awaitingButtonAck : Bool := false
  pollCount : UInt32 := 0
  leds : List SpasideLedState := replicate ledIndicatorCount .off
  ledImage : List UInt8 := []
  ledImageSeen : Bool := false
  /-- The last button, where 0 stands for none. -/
  lastButton : UInt8 := 0
  lastButtonAt : Option ℕ := none
  deriving DecidableEq

/-- The codes of an acknowledgement that have a name. -/
def ackTypes : List UInt8 :=
  [0x00, 0x40, 0x01, 0x03, 0x80, 0x81, 0x83, 0x3F, 0x70, 0x72, 0xFF]

/-- `AckType`: a code without a name reads as the unknown one. -/
def ackTypeOf (raw : UInt8) : UInt8 := if raw ∈ ackTypes then raw else 0xFF

theorem ackTypeOf_eq_zero_iff (raw : UInt8) : ackTypeOf raw = 0x00 ↔ raw = 0x00 := by
  unfold ackTypeOf
  split_ifs with hknown
  · exact Iff.rfl
  · refine iff_of_false (by decide) ?_
    rintro rfl
    exact hknown (by decide)

/-- What the master says to a device: a poll for the status, or anything else, which an observed
remote does not listen to. -/
inductive MasterMessage where
  | status (payload : List UInt8)
  | other
  deriving DecidableEq

inductive BusEvent where
  | message (address : UInt8) (contents : MasterMessage)
  /-- An acknowledgement for the master, at a time. -/
  | ack (now : ℕ) (ackType command : UInt8)
  deriving DecidableEq

namespace SpasideRemoteDevice

def ledStateOf (bits : UInt8) : SpasideLedState :=
  if bits = 0x00 then .off else if bits = 0x01 then .on else .blink

def decodeLedImage (payload : List UInt8) (device : SpasideRemoteDevice) : SpasideRemoteDevice :=
  match payload with
  | [] => device
  | ledByte :: rest =>
    { device with
      ledImage := ledByte :: rest
      ledImageSeen := true
      leds := (range ledIndicatorCount).map fun i =>
        ledStateOf ((ledByte >>> UInt8.ofNat (2 * i)) &&& 0x03) }

/-- `Slot_Spaside_Status`: a poll of the remote opens the window. -/
def slotStatus (payload : List UInt8) (device : SpasideRemoteDevice) : SpasideRemoteDevice :=
  decodeLedImage payload
    { device with awaitingButtonAck := true, pollCount := device.pollCount + 1 }

def buttonOf (ackType command : UInt8) (device : SpasideRemoteDevice) : Option UInt8 :=
  if !device.awaitingButtonAck then none
  else if ackTypeOf ackType ≠ 0x00 then none
  else if command ≠ 0x00 then some command
  else none

/-- `Slot_Spaside_Ack`: the first acknowledgement closes the window. -/
def slotAck (now : ℕ) (ackType command : UInt8) (device : SpasideRemoteDevice) :
    SpasideRemoteDevice :=
  if !device.awaitingButtonAck then device
  else
    match device.buttonOf ackType command with
    | some button =>
      { device with awaitingButtonAck := false, lastButton := button, lastButtonAt := some now }
    | none => { device with awaitingButtonAck := false }

/-- Polls are heard by their address, and every acknowledgement is heard. -/
def step (device : SpasideRemoteDevice) : BusEvent → SpasideRemoteDevice
  | .message address (.status payload) =>
    if address = device.deviceId then device.slotStatus payload else device
  | .message _ .other => device
  | .ack now ackType command => device.slotAck now ackType command

def run (deviceId : UInt8) (events : List BusEvent) : SpasideRemoteDevice :=
  events.foldl step { deviceId }

/-! ## The window -/

variable {device : SpasideRemoteDevice} {deviceId : UInt8} {events before : List BusEvent}

@[simp] theorem deviceId_decodeLedImage (payload : List UInt8) (device : SpasideRemoteDevice) :
    (device.decodeLedImage payload).deviceId = device.deviceId := by
  cases payload <;> rfl

@[simp] theorem awaitingButtonAck_decodeLedImage (payload : List UInt8)
    (device : SpasideRemoteDevice) :
    (device.decodeLedImage payload).awaitingButtonAck = device.awaitingButtonAck := by
  cases payload <;> rfl

section

variable (now : ℕ) (ackType command : UInt8) (device : SpasideRemoteDevice)

@[simp] theorem deviceId_slotAck :
    (device.slotAck now ackType command).deviceId = device.deviceId := by
  unfold slotAck
  cases device.awaitingButtonAck with
  | false => rfl
  | true => cases device.buttonOf ackType command <;> rfl

@[simp] theorem awaitingButtonAck_slotAck :
    (device.slotAck now ackType command).awaitingButtonAck = false := by
  unfold slotAck
  cases hopen : device.awaitingButtonAck with
  | false => simpa using hopen
  | true => cases device.buttonOf ackType command <;> rfl

end

section

variable (device : SpasideRemoteDevice)

theorem step_status (address : UInt8) (payload : List UInt8) :
    device.step (.message address (.status payload)) =
      if address = device.deviceId then device.slotStatus payload else device := rfl

theorem step_ack (now : ℕ) (ackType command : UInt8) :
    device.step (.ack now ackType command) = device.slotAck now ackType command := rfl

theorem deviceId_step (event : BusEvent) : (device.step event).deviceId = device.deviceId := by
  cases event with
  | message address contents =>
    cases contents with
    | other => rfl
    | status payload =>
      rw [step_status, slotStatus]
      split_ifs
      · exact deviceId_decodeLedImage payload _
      · rfl
  | ack now ackType command => exact deviceId_slotAck now ackType command device

end

theorem deviceId_run (deviceId : UInt8) (events : List BusEvent) :
    (run deviceId events).deviceId = deviceId := by
  induction events using reverseRecOn with
  | nil => rfl
  | append_singleton events event ih =>
    rw [run, foldl_append]
    exact (deviceId_step _ event).trans ih

def OpenPoll (deviceId : UInt8) (before : List BusEvent) : Prop :=
  ∃ earlier payload since, before = earlier ++ .message deviceId (.status payload) :: since ∧
    ∀ event ∈ since, ∃ address contents, event = .message address contents

/-- The remote has been polled, and the master has turned to no other address since. -/
def Answers (deviceId : UInt8) (before : List BusEvent) : Prop :=
  ∃ earlier payload since, before = earlier ++ .message deviceId (.status payload) :: since ∧
    ∀ event ∈ since, ∃ contents, event = .message deviceId contents

theorem openPoll_poll (deviceId : UInt8) (before : List BusEvent) (payload : List UInt8) :
    OpenPoll deviceId (before ++ [.message deviceId (.status payload)]) :=
  ⟨before, payload, [], rfl, nofun⟩

variable {contents : MasterMessage}

theorem openPoll_message {address : UInt8}
    (hother : ∀ payload, BusEvent.message address contents ≠ .message deviceId (.status payload)) :
    OpenPoll deviceId (before ++ [.message address contents]) ↔ OpenPoll deviceId before := by
  constructor
  · rintro ⟨earlier, payload, since, hbefore, hsince⟩
    obtain ⟨-, hpoll, -⟩ | ⟨rest, rfl, hrest⟩ := concat_eq_append_cons_iff.mp hbefore
    · exact absurd hpoll (hother payload)
    · exact ⟨earlier, payload, rest, hrest, fun event hmem =>
        hsince event (mem_append_left _ hmem)⟩
  · rintro ⟨earlier, payload, since, rfl, hsince⟩
    refine ⟨earlier, payload, since ++ [.message address contents], by simp, ?_⟩
    intro event hmem
    rcases List.mem_append.mp hmem with hmem | hmem
    · exact hsince event hmem
    · exact ⟨address, contents, List.mem_singleton.mp hmem⟩

section

variable (deviceId : UInt8) (before : List BusEvent)

theorem not_openPoll_ack (now : ℕ) (ackType command : UInt8) :
    ¬ OpenPoll deviceId (before ++ [.ack now ackType command]) := by
  rintro ⟨earlier, payload, since, hbefore, hsince⟩
  obtain ⟨-, hpoll, -⟩ | ⟨rest, rfl, -⟩ := concat_eq_append_cons_iff.mp hbefore
  · cases hpoll
  · obtain ⟨address, contents, hmessage⟩ :=
      hsince _ (mem_append_right _ (List.mem_singleton.mpr rfl))
    cases hmessage

theorem awaitingButtonAck_run :
    (run deviceId before).awaitingButtonAck ↔ OpenPoll deviceId before := by
  induction before using reverseRecOn with
  | nil =>
    refine iff_of_false (by simp [run]) ?_
    rintro ⟨earlier, payload, since, hbefore, -⟩
    simp at hbefore
  | append_singleton before event ih =>
    have hrun : run deviceId (before ++ [event]) = (run deviceId before).step event := by
      rw [run, foldl_append]
      rfl
    have hid := deviceId_run deviceId before
    rw [hrun]
    cases event with
    | ack now ackType command =>
      refine iff_of_false ?_ (not_openPoll_ack deviceId before now ackType command)
      rw [step_ack, awaitingButtonAck_slotAck]
      exact Bool.false_ne_true
    | message address contents =>
      cases contents with
      | other =>
        rw [openPoll_message (fun payload heq => by cases heq), ← ih]
        rfl
      | status payload =>
        rw [step_status, hid]
        by_cases haddress : address = deviceId
        · subst haddress
          rw [if_pos rfl]
          refine iff_of_true ?_ (openPoll_poll address before payload)
          simp [slotStatus]
        · rw [if_neg haddress, ih]
          refine (openPoll_message fun other heq => haddress ?_).symm
          cases heq
          rfl

theorem buttonOf_run_eq_some_iff (ackType command button : UInt8) :
    (run deviceId before).buttonOf ackType command = some button ↔
      OpenPoll deviceId before ∧ ackType = 0x00 ∧ command ≠ 0x00 ∧ command = button := by
  unfold buttonOf
  rw [← awaitingButtonAck_run]
  split_ifs with hclosed htype hcommand
  · simp_all
  · rw [Ne, ackTypeOf_eq_zero_iff] at htype
    simp_all
  · rw [Ne, not_not, ackTypeOf_eq_zero_iff] at htype
    simp_all
  · simp_all

end

/-! ## Attribution -/

theorem not_answers_of_turned {address : UInt8} (before : List BusEvent)
    (hne : address ≠ deviceId) : ¬ Answers deviceId (before ++ [.message address contents]) := by
  rintro ⟨earlier, payload, since, hbefore, hsince⟩
  obtain ⟨-, hpoll, -⟩ | ⟨rest, rfl, -⟩ := concat_eq_append_cons_iff.mp hbefore
  · exact hne (BusEvent.message.inj hpoll).1
  · obtain ⟨contents, hmessage⟩ := hsince _ (mem_append_right _ (List.mem_singleton.mpr rfl))
    exact hne (BusEvent.message.inj hmessage).1

/-- Each button that is recorded comes from an acknowledgement that answers a poll of the
remote. -/
def Attributed (deviceId : UInt8) (events : List BusEvent) : Prop :=
  ∀ before now ackType command after, events = before ++ .ack now ackType command :: after →
    (run deviceId before).buttonOf ackType command ≠ none → Answers deviceId before

/-- No acknowledgement that looks like a button is the first after a poll of the remote when the
master has turned to another address in between. -/
def NoForeignButton (deviceId : UInt8) (events : List BusEvent) : Prop :=
  ∀ before now ackType command after, events = before ++ .ack now ackType command :: after →
    ackType = 0x00 → command ≠ 0x00 → OpenPoll deviceId before → Answers deviceId before

/-- **Buttons of the remote.**  Over any traffic on the bus, the buttons that an observed remote
records come from answers to its own polls, exactly if no foreign acknowledgement that looks like
a button is the first one after a poll that the remote has left unanswered. -/
theorem attributed_iff (deviceId : UInt8) (events : List BusEvent) :
    Attributed deviceId events ↔ NoForeignButton deviceId events := by
  constructor
  · intro hattributed before now ackType command after hevents htype hcommand hopen
    refine hattributed before now ackType command after hevents ?_
    have hbutton : (run deviceId before).buttonOf ackType command = some command :=
      (buttonOf_run_eq_some_iff deviceId before ackType command command).mpr
        ⟨hopen, htype, hcommand, rfl⟩
    rw [hbutton]
    exact Option.some_ne_none command
  · intro hforeign before now ackType command after hevents hrecorded
    obtain ⟨button, hbutton⟩ := Option.ne_none_iff_exists'.mp hrecorded
    obtain ⟨hopen, htype, hcommand, -⟩ :=
      (buttonOf_run_eq_some_iff deviceId before ackType command button).mp hbutton
    exact hforeign before now ackType command after hevents htype hcommand hopen

/-- The remote at 0x10 is polled and stays silent, the master polls the serial adapter at 0x48,
and what that one answers is recorded as a button of the remote. -/
theorem not_attributed_silent_remote :
    let events : List BusEvent :=
      [.message 0x10 (.status [0x00]), .message 0x48 (.status []), .ack 7 0x00 0x15]
    (run 0x10 events).lastButton = 0x15 ∧ ¬ Attributed 0x10 events := by
  refine ⟨by decide, fun hattributed => ?_⟩
  have hanswers := hattributed [.message 0x10 (.status [0x00]), .message 0x48 (.status [])] 7 0x00
    0x15 [] rfl (by decide)
  exact not_answers_of_turned [.message 0x10 (.status [0x00])] (by decide) hanswers

end SpasideRemoteDevice

end AqualinkAutomate.Spaside
