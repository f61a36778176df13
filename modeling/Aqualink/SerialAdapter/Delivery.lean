import Aqualink.SerialAdapter.PendingCommands

/-!
# What becomes of an accepted command

The pending commands are those of the last accepted request.  Its frames are taken one after the
other on the polls that follow, until another request is accepted or the device falls silent.
What is left then is not sent.
-/

namespace AqualinkAutomate.SerialAdapter

open Equipment General Hub List

namespace SerialAdapterDevice

variable {device : SerialAdapterDevice} {event : AdapterEvent} {events : List AdapterEvent}

def takenIn (device : SerialAdapterDevice) : List AdapterEvent → List PendingCommand
  | [] => []
  | event :: events => (device.taken event).toList ++ (device.step event).takenIn events

/-- The frames of the requests that are accepted in a run. -/
def acceptedIn (device : SerialAdapterDevice) : List AdapterEvent → List PendingCommand
  | [] => []
  | event :: events => device.offered event ++ (device.step event).acceptedIn events

/-- No other request is accepted, and the device does not fall silent. -/
def Undisturbed (device : SerialAdapterDevice) (event : AdapterEvent) : Prop :=
  device.accepts event = false ∧ device.suppresses event = false

theorem taken_of_accepts (h : device.accepts event) : device.taken event = none := by
  cases event with
  | request hub request => rfl
  | message hub message => cases h
  | watchdogTimeout => cases h

theorem offered_of_not_accepts (h : device.accepts event = false) : device.offered event = [] := by
  cases event with
  | request hub request => exact if_neg (of_decide_eq_false h)
  | message hub message => rfl
  | watchdogTimeout => rfl

theorem taken_append_pendingCommands_step (h : device.Settled) (event : AdapterEvent) :
    ((device.taken event).toList ++ (device.step event).pendingCommands).Sublist
      (device.pendingCommands ++ device.offered event) := by
  rw [(pendingCommands_step h.statusMessageReceived_eq event).2]
  by_cases haccepts : device.accepts event
  · rw [if_pos haccepts, taken_of_accepts haccepts]
    exact sublist_append_right _ _
  rw [if_neg haccepts, offered_of_not_accepts (Bool.eq_false_iff.mpr haccepts), append_nil]
  by_cases hsuppress : device.suppresses event
  · have hnone : device.taken event = none := by simp [taken, hsuppress]
    rw [if_pos hsuppress, hnone]
    exact nil_sublist _
  rw [if_neg hsuppress]
  by_cases hpoll : isPoll event
  · have htaken : device.taken event = device.pendingCommands.head? := by
      simp [taken, hpoll, hsuppress]
    rw [if_pos hpoll, htaken]
    cases device.pendingCommands with
    | nil => exact List.Sublist.refl []
    | cons pending rest => exact List.Sublist.refl (pending :: rest)
  · have hnone : device.taken event = none := by simp [taken, hpoll]
    rw [if_neg hpoll, hnone]
    exact List.Sublist.refl _

theorem takenIn_sublist (h : device.Settled) :
    (device.takenIn events).Sublist (device.pendingCommands ++ device.acceptedIn events) := by
  induction events generalizing device with
  | nil => exact nil_sublist _
  | cons event events ih =>
    have hrest := ih (h.step event)
    have hfirst := taken_append_pendingCommands_step h event
    have htail := hrest.append_left (device.taken event).toList
    refine htail.trans ?_
    rw [← append_assoc, acceptedIn, ← append_assoc]
    exact hfirst.append_right _

theorem pendingCommands_step_of_undisturbed (h : device.Settled)
    (hevent : device.Undisturbed event) :
    (device.step event).pendingCommands =
      if isPoll event then device.pendingCommands.tail else device.pendingCommands := by
  rw [(pendingCommands_step h.statusMessageReceived_eq event).2, hevent.1, hevent.2]
  rfl

theorem takenIn_of_undisturbed (h : device.Settled)
    (hevents : EachStep step Undisturbed device events) :
    device.takenIn events = device.pendingCommands.take (events.countP isPoll) := by
  induction events generalizing device with
  | nil => exact List.take_zero.symm
  | cons event events ih =>
    obtain ⟨hevent, hrest⟩ := hevents
    rw [takenIn, ih (h.step event) hrest, pendingCommands_step_of_undisturbed h hevent]
    by_cases hpoll : isPoll event
    · have htaken : device.taken event = device.pendingCommands.head? := by
        simp [taken, hpoll, hevent.2]
      rw [if_pos hpoll, htaken, countP_cons_of_pos hpoll]
      cases device.pendingCommands with
      | nil => simp
      | cons pending rest => rfl
    · have hnone : device.taken event = none := by simp [taken, hpoll]
      rw [if_neg hpoll, hnone, countP_cons_of_neg hpoll]
      rfl

/-- The device after a run. -/
def after (emulated : Bool) (events : List AdapterEvent) : SerialAdapterDevice :=
  events.foldl step { emulated }

theorem settled_after (emulated : Bool) (events : List AdapterEvent) :
    (after emulated events).Settled :=
  foldl_of_step (fun _ event h => h.step event) (settled_of_emulated emulated)

/-- Nothing is taken that was not accepted, and nothing out of its order.  After a request was
accepted its frames are what is pending.  The polls take them in order, and all of them if there
are enough, before another request is accepted or the device falls silent. -/
theorem accepted_frames_taken (emulated : Bool) :
    (∀ events, (takenIn { emulated } events).Sublist (acceptedIn { emulated } events)) ∧
    ∀ before hub request later,
      ((after emulated before).request hub request).2 = .accepted →
      EachStep step Undisturbed ((after emulated before).step (.request hub request)) later →
        ((after emulated before).step (.request hub request)).pendingCommands = request.frames ∧
          takenIn ((after emulated before).step (.request hub request)) later =
            request.frames.take (later.countP isPoll) := by
  refine ⟨fun events => takenIn_sublist (settled_of_emulated emulated), ?_⟩
  intro before hub request later haccepted hlater
  have hpending : ((after emulated before).step (.request hub request)).pendingCommands =
      request.frames := by
    have haccepts : (after emulated before).accepts (.request hub request) :=
      decide_eq_true haccepted
    rw [pendingCommands_request, if_pos haccepts]
    exact if_pos haccepted
  have hsettled := (settled_after emulated before).step (.request hub request)
  refine ⟨hpending, ?_⟩
  rw [takenIn_of_undisturbed hsettled hlater, hpending]

/-- The setpoint of the pool, sent in two polls. -/
theorem accepted_frames_taken_poolSetpoint :
    takenIn ((after true []).step (.request {} (.setPoolSetpoint 28)))
        [.message {} .status, .message {} .devReady] =
      [⟨0x05, 0x35⟩, ⟨0x00, 28⟩] := by
  have hlater : EachStep step Undisturbed ((after true []).step (.request {} (.setPoolSetpoint 28)))
      [.message {} .status, .message {} .devReady] := by
    refine ⟨⟨rfl, rfl⟩, ⟨rfl, ?_⟩, trivial⟩
    decide +kernel
  exact ((accepted_frames_taken true).2 [] {} (.setPoolSetpoint 28)
    [.message {} .status, .message {} .devReady] rfl hlater).2

/-- The setpoint of the spa is asked for before the next poll: the one of the pool is never
sent, however many polls follow. -/
theorem poolSetpoint_lost : ((after true []).request {} (.setPoolSetpoint 28)).2 = .accepted ∧
    ((after true [.request {} (.setPoolSetpoint 28)]).request {} (.setSpaSetpoint 36)).2 =
      .accepted ∧
    ∀ later, EachStep step Undisturbed
        (after true [.request {} (.setPoolSetpoint 28), .request {} (.setSpaSetpoint 36)]) later →
      ⟨0x05, 0x35⟩ ∉ takenIn { emulated := true }
        (.request {} (.setPoolSetpoint 28) :: .request {} (.setSpaSetpoint 36) :: later) := by
  refine ⟨rfl, rfl, fun later hlater hmem => ?_⟩
  have htaken := takenIn_of_undisturbed (settled_after true _) hlater
  change _ ∈ takenIn (after true [.request {} (.setPoolSetpoint 28),
    .request {} (.setSpaSetpoint 36)]) later at hmem
  rw [htaken] at hmem
  have hspa := mem_of_mem_take hmem
  revert hspa
  decide

end SerialAdapterDevice

end AqualinkAutomate.SerialAdapter
