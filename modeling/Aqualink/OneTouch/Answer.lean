import Aqualink.OneTouch.Device

/-!
# How the device answers a message

A message goes through a goal, the refresh and the acknowledgement, and each of them adds
to the log and may change which key waits.  What is proved of the log and of that key is
proved of each of the three first; `keypad` is all that such a property depends on.

`receive_of_some` and `receive_of_none` then say what a message does with a goal in progress
and without one: how the goal goes on, and which key is sent or left waiting.
-/

namespace AqualinkAutomate.OneTouch

open General Navigation List

namespace KeypadEvent

/-- The key that an acknowledgement takes to the controller, which looks for it in that of a
status message. -/
def transmittedKey : KeypadEvent → Option KeyCommand
  | .acknowledge true .v1Normal key => if key = .noKeyCommand then none else some key
  | _ => none

@[simp] theorem transmittedKey_acknowledge_noKeyCommand (toStatus : Bool) (ackType : AckType) :
    (acknowledge toStatus ackType .noKeyCommand).transmittedKey = none := by
  cases toStatus <;> cases ackType <;> rfl

def outcome : KeypadEvent → Option GoalStatus
  | .goalEnded status => some status
  | _ => none

end KeypadEvent

def BusMessage.IsProcessed : BusMessage → Prop
  | .messageLong line _ => line < pageLines
  | _ => True

instance (message : BusMessage) : Decidable message.IsProcessed := by
  cases message <;> (unfold BusMessage.IsProcessed; infer_instance)

namespace OneTouchDevice

variable {γ : Type*} {device device' : OneTouchDevice γ} {model : MenuModel} {fuel : ℕ}
  {surroundings : Surroundings}

def transmittedKeys (device : OneTouchDevice γ) : List KeyCommand :=
  device.log.filterMap KeypadEvent.transmittedKey

/-- How the goals ended that have. -/
def outcomes (device : OneTouchDevice γ) : List GoalStatus :=
  device.log.filterMap KeypadEvent.outcome

def RefreshSteps (device : OneTouchDevice γ) (surroundings : Surroundings) : Prop :=
  if device.refreshInProgress then
    device.refreshStepCount < setpointRefreshStepLimit
  else
    (device.evaluateRefresh surroundings).2 = .scrape

instance (device : OneTouchDevice γ) (surroundings : Surroundings) :
    Decidable (device.RefreshSteps surroundings) := by
  unfold RefreshSteps
  infer_instance

/-- A refresh would be started if the keypad were free. -/
def RefreshDue (device : OneTouchDevice γ) (surroundings : Surroundings) : Prop :=
  (device.refreshState.evaluate true false surroundings.chlorinatorOnline
    surroundings.evaluatedAt).2 = .scrape

instance (device : OneTouchDevice γ) (surroundings : Surroundings) :
    Decidable (device.RefreshDue surroundings) := by
  unfold RefreshDue
  infer_instance

/-! ## What is recorded -/

/-- What there is to say about keys: what was recorded and which key waits. -/
def keypad (device : OneTouchDevice γ) : List KeypadEvent × KeyCommand :=
  (device.log, device.keyCommandToSend)

theorem filterMap_record {α : Type*} (f : KeypadEvent → Option α) (event : KeypadEvent) :
    (device.record event).log.filterMap f = device.log.filterMap f ++ (f event).toList := by
  simp only [record, filterMap_append, filterMap_cons, filterMap_nil]
  cases f event <;> rfl

@[simp] theorem transmittedKeys_record (event : KeypadEvent) :
    (device.record event).transmittedKeys =
      device.transmittedKeys ++ event.transmittedKey.toList :=
  filterMap_record _ event

theorem keypad_record (h : device.keypad = device'.keypad) (event : KeypadEvent) :
    (device.record event).keypad = (device'.record event).keypad := by
  obtain ⟨hlog, hkey⟩ := Prod.mk.inj h
  exact Prod.ext (congrArg (· ++ [event]) hlog) hkey

theorem keypad_queueKey (h : device.keypad = device'.keypad) (key : Option NavKeyCommand) :
    (device.queueKey key).keypad = (device'.queueKey key).keypad := by
  cases key with
  | none => exact h
  | some key =>
    obtain ⟨hlog, -⟩ := Prod.mk.inj h
    exact Prod.ext (congrArg (· ++ _) hlog) rfl

section

variable (device : OneTouchDevice γ)

theorem keypad_settleGoal (goal : γ) (status : GoalStatus) :
    (device.settleGoal goal status).keypad =
      if status = .running then device.keypad
      else (device.record (.goalEnded status)).keypad := by
  cases status with
  | running => rfl
  | done | failed => exact keypad_record rfl _

theorem takeMessage_eq (message : BusMessage) :
    ∃ page line engine, device.takeMessage message =
      { device with
        displayedPage := page
        highlightedLine := line
        spiderEngine := engine } := by
  cases message with
  | highlight line =>
    by_cases hline : line = ScreenDataPage.clearHighlights ∨ line < pageLines
    · exact ⟨_, _, _, if_pos hline⟩
    · exact ⟨_, _, _, if_neg hline⟩
  | _ => exact ⟨_, _, _, rfl⟩

theorem keypad_takeMessage (message : BusMessage) :
    (device.takeMessage message).keypad = device.keypad := by
  obtain ⟨page, line, engine, heq⟩ := device.takeMessage_eq message
  rw [heq]
  rfl

theorem takeMessage_frame (message : BusMessage) :
    (device.takeMessage message).activeGoal = device.activeGoal ∧
      (device.takeMessage message).refreshInProgress = device.refreshInProgress ∧
      (device.takeMessage message).refreshState = device.refreshState := by
  obtain ⟨page, line, engine, heq⟩ := device.takeMessage_eq message
  rw [heq]
  exact ⟨rfl, rfl, rfl⟩

end

/-! ## The refresh -/

@[simp] theorem activeGoal_queueKey (key : Option NavKeyCommand) :
    (device.queueKey key).activeGoal = device.activeGoal := by
  cases key <;> rfl

@[simp] theorem refreshInProgress_queueKey (key : Option NavKeyCommand) :
    (device.queueKey key).refreshInProgress = device.refreshInProgress := by
  cases key <;> rfl

theorem stepCrawl_eq_some {key : Option NavKeyCommand}
    (h : device.stepCrawl model fuel = some (device', key)) :
    ∃ engine, device' = { device.recordStep with spiderEngine := engine } := by
  obtain ⟨⟨engine, key'⟩, -, heq⟩ := Option.map_eq_some_iff.mp h
  exact ⟨engine, (Prod.mk.inj heq).1.symm⟩

section

variable (h : device.setpointRefreshStep model fuel surroundings = some device')

include h

/-- The refresh rests, and may end or note why it does not begin, or it takes a step of the
crawl, which may begin or end it.  It changes nothing else. -/
theorem setpointRefreshStep_cases :
    ¬ device.RefreshSteps surroundings ∧
        (∃ engine progress stepCount state, (progress = true → device.refreshInProgress = true) ∧
          device' = { device with
            spiderEngine := engine
            refreshInProgress := progress
            refreshStepCount := stepCount
            refreshState := state }) ∨
      device.RefreshSteps surroundings ∧
        ∃ engine progress stepCount state key,
          device' = { device.recordStep with
            spiderEngine := engine
            refreshInProgress := progress
            refreshStepCount := stepCount
            refreshState := state }.queueKey key := by
  rw [setpointRefreshStep] at h
  by_cases hprogress : device.refreshInProgress = true
  · rw [if_pos hprogress, continueRefresh] at h
    dsimp only at h
    simp only [RefreshSteps, if_pos hprogress]
    split at h
    next hexceeded =>
      cases h
      exact Or.inl ⟨by omega, _, _, _, _, fun _ => hprogress, rfl⟩
    next hwithin =>
      obtain ⟨⟨stepped, key⟩, hstep, rfl⟩ := Option.map_eq_some_iff.mp h
      obtain ⟨engine, rfl⟩ := stepCrawl_eq_some hstep
      refine Or.inr ⟨by omega, ?_⟩
      split
      -- the last step of a crawl emits no key
      · exact ⟨_, _, _, _, none, rfl⟩
      · exact ⟨_, _, _, _, key, rfl⟩
  · rw [if_neg hprogress] at h
    simp only [RefreshSteps, if_neg hprogress]
    rcases hevaluate : device.evaluateRefresh surroundings with ⟨refreshState, action⟩
    rw [hevaluate] at h
    cases action with
    | none =>
      cases h
      exact Or.inl ⟨by simp, _, _, _, _, id, rfl⟩
    | scrape =>
      obtain ⟨⟨stepped, key⟩, hstep, rfl⟩ := Option.map_eq_some_iff.mp h
      obtain ⟨engine, rfl⟩ := stepCrawl_eq_some hstep
      exact Or.inr ⟨rfl, _, _, _, _, key, rfl⟩

theorem keypad_setpointRefreshStep :
    if device.RefreshSteps surroundings then
      ∃ key, device'.keypad = (device.recordStep.queueKey key).keypad
    else device'.keypad = device.keypad := by
  rcases setpointRefreshStep_cases h with
    ⟨hrests, engine, progress, stepCount, state, -, rfl⟩ |
      ⟨hsteps, engine, progress, stepCount, state, key, rfl⟩
  · rw [if_neg hrests]
    rfl
  · rw [if_pos hsteps]
    refine ⟨key, keypad_queueKey ?_ key⟩
    rfl

end

theorem evaluateRefresh_of_goalInProgress (h : device.goalInProgress) :
    (device.evaluateRefresh surroundings).2 = .none := by
  rw [evaluateRefresh, h]
  exact device.refreshState.evaluate_goalInProgress _ _ _

theorem activeGoal_setpointRefreshStep
    (h : device.setpointRefreshStep model fuel surroundings = some device') :
    device'.activeGoal = device.activeGoal := by
  rcases setpointRefreshStep_cases h with
    ⟨-, engine, progress, stepCount, state, -, rfl⟩ |
      ⟨-, engine, progress, stepCount, state, key, rfl⟩
  · rfl
  · exact activeGoal_queueKey key

section

variable (hgoal : device.activeGoal.isSome = true) (hidle : device.refreshInProgress = false)

include hgoal hidle

theorem not_refreshSteps_of_activeGoal : ¬ device.RefreshSteps surroundings := by
  have hnone : (device.evaluateRefresh surroundings).2 = .none :=
    evaluateRefresh_of_goalInProgress (Bool.or_eq_true_iff.mpr (.inl hgoal))
  rw [RefreshSteps, if_neg (by simp [hidle]), hnone]
  simp

theorem refreshInProgress_setpointRefreshStep
    (h : device.setpointRefreshStep model fuel surroundings = some device') :
    device'.refreshInProgress = false := by
  rcases setpointRefreshStep_cases h with
    ⟨-, engine, progress, stepCount, state, hprogress, rfl⟩ | ⟨hsteps, -⟩
  · exact Bool.eq_false_of_not_eq_true fun hon => by simp [hprogress hon] at hidle
  · exact absurd hsteps (not_refreshSteps_of_activeGoal hgoal hidle)

end

/-! ## The goal -/

theorem refreshSteps_takeGoalStep (device : OneTouchDevice γ)
    (hfree : device.refreshInProgress = false) (result : GoalStep γ) :
    (device.takeGoalStep result).RefreshSteps surroundings ↔
      result.status ≠ .running ∧ device.RefreshDue surroundings := by
  obtain ⟨goal, context, status⟩ := result
  obtain ⟨page, line, navigator, emitted⟩ := context
  cases emitted <;> cases status <;>
    simp [takeGoalStep, settleGoal, withNavigator, resetNavigator, record, queueKey, RefreshSteps,
      RefreshDue, evaluateRefresh, goalInProgress, hfree,
      ChlorinatorSetpointRefresh.evaluate_goalInProgress]

theorem keyCommandToSend_takeGoalStep (result : GoalStep γ) :
    (device.takeGoalStep result).keyCommandToSend =
      (result.context.emittedKey.map convertNavKeyCommand).getD device.keyCommandToSend := by
  obtain ⟨goal, context, status⟩ := result
  obtain ⟨page, line, navigator, emitted⟩ := context
  cases emitted <;> cases status <;> rfl

theorem serviceActiveGoal_cases [KeypadGoal γ]
    (h : device.serviceActiveGoal model fuel = some device') :
    device.activeGoal = none ∧ device' = device ∨
      ∃ goal result, device.activeGoal = some goal ∧
        KeypadGoal.step model fuel goal device.keypadContext = some result ∧
        device' = device.recordStep.takeGoalStep result := by
  rw [serviceActiveGoal] at h
  split at h
  next hgoal => exact .inl ⟨hgoal, (Option.some_inj.mp h).symm⟩
  next goal hgoal =>
    obtain ⟨result, hresult, rfl⟩ := Option.map_eq_some_iff.mp h
    exact .inr ⟨goal, result, hgoal, hresult, rfl⟩

/-! ## The message -/

theorem acknowledge_frame (device : OneTouchDevice γ) (toStatus : Bool) :
    (device.acknowledge toStatus).activeGoal = device.activeGoal ∧
      (device.acknowledge toStatus).refreshInProgress = device.refreshInProgress := by
  unfold acknowledge
  split_ifs <;> exact ⟨rfl, rfl⟩

variable {toStatus : Bool}

theorem processControllerUpdates_eq_some [KeypadGoal γ]
    (h : device.processControllerUpdates model fuel surroundings toStatus = some device') :
    ∃ serviced refreshed, device.serviceActiveGoal model fuel = some serviced ∧
      serviced.setpointRefreshStep model fuel surroundings = some refreshed ∧
      device' = refreshed.acknowledge toStatus := by
  obtain ⟨refreshed, hbind, rfl⟩ := Option.map_eq_some_iff.mp h
  obtain ⟨serviced, hservice, hrefresh⟩ := Option.bind_eq_some_iff.mp hbind
  exact ⟨serviced, refreshed, hservice, hrefresh, rfl⟩

theorem afterStatus_cases (device : OneTouchDevice γ) :
    device.afterStatus = device ∨
      device.afterStatus = { device with ackTypeToSend := .v2Normal } := by
  unfold afterStatus
  split_ifs
  · exact .inr rfl
  · exact .inl rfl

variable {message : BusMessage}

theorem receive_cases [KeypadGoal γ]
    (h : device.receive model fuel surroundings message = some device') :
    ¬ message.IsProcessed ∧ device' = device ∨
      message.IsProcessed ∧ ∃ toStatus processed,
        (device.takeMessage message).processControllerUpdates model fuel surroundings toStatus =
            some processed ∧
          (device' = processed ∨ device' = { processed with ackTypeToSend := .v2Normal }) := by
  cases message with
  | messageLong line text =>
    rw [receive] at h
    split at h
    next houtside =>
      refine .inl ⟨?_, (Option.some_inj.mp h).symm⟩
      exact UInt8.not_lt.mpr houtside
    next hinside => exact .inr ⟨UInt8.not_le.mp hinside, false, device', h, .inl rfl⟩
  | status =>
    obtain ⟨processed, hprocess, rfl⟩ := Option.map_eq_some_iff.mp h
    exact .inr ⟨trivial, true, processed, hprocess, processed.afterStatus_cases⟩
  | probe | clear | highlight | highlightChars | shiftLines | displayUpdate | unknown =>
    exact .inr ⟨trivial, false, device', h, .inl rfl⟩

/-! ## The key of the answer -/

section

variable {α : Type*} {f : KeypadEvent → Option α}

theorem filterMap_queueKey (hemit : ∀ key, f (.emit key) = none) (key : Option NavKeyCommand) :
    (device.queueKey key).log.filterMap f = device.log.filterMap f := by
  cases key with
  | none => rfl
  | some key => simp [queueKey, record, hemit]

section

variable (hstep : ∀ key, f (.step key) = none) (hemit : ∀ key, f (.emit key) = none)

include hstep hemit

theorem filterMap_setpointRefreshStep
    (h : device.setpointRefreshStep model fuel surroundings = some device') :
    device'.log.filterMap f = device.log.filterMap f := by
  have hkeypad := keypad_setpointRefreshStep h
  split at hkeypad
  · obtain ⟨key, hkeypad⟩ := hkeypad
    obtain ⟨hlog, -⟩ := Prod.mk.inj hkeypad
    rw [hlog, filterMap_queueKey hemit, recordStep, filterMap_record, hstep]
    simp
  · obtain ⟨hlog, -⟩ := Prod.mk.inj hkeypad
    rw [hlog]

theorem filterMap_takeGoalStep (result : GoalStep γ) :
    (device.recordStep.takeGoalStep result).log.filterMap f =
      device.log.filterMap f ++
        if result.status = .running then [] else (f (.goalEnded result.status)).toList := by
  have hrecorded : device.recordStep.log.filterMap f = device.log.filterMap f := by
    rw [recordStep, filterMap_record, hstep]
    simp
  have hkeypad := keypad_settleGoal (device.recordStep.withNavigator result.context.navigator)
    result.goal result.status
  rw [takeGoalStep, filterMap_queueKey hemit]
  split at hkeypad
  next hrunning =>
    rw [if_pos hrunning, append_nil, ← hrecorded]
    exact congrArg (filterMap f) (Prod.mk.inj hkeypad).1
  next hended =>
    rw [if_neg hended, ← hrecorded]
    exact (congrArg (filterMap f) (Prod.mk.inj hkeypad).1).trans (filterMap_record f _)

end

end

/-- That key is sent, or waits. -/
def Sends (device device' : OneTouchDevice γ) (key : KeyCommand) : Prop :=
  device'.transmittedKeys = device.transmittedKeys ∧ device'.keyCommandToSend = key ∨
    device'.transmittedKeys = device.transmittedKeys ++ [key] ∧
      device'.keyCommandToSend = .noKeyCommand

theorem sends_acknowledge (device : OneTouchDevice γ) (toStatus : Bool) :
    device.Sends (device.acknowledge toStatus) device.keyCommandToSend := by
  unfold acknowledge
  split
  · next hsends =>
      refine .inr ⟨?_, rfl⟩
      rw [transmittedKeys_record]
      simp [KeypadEvent.transmittedKey, hsends.2, transmittedKeys]
  · refine .inl ⟨?_, rfl⟩
    simp

section

variable (h : device.setpointRefreshStep model fuel surroundings = some device')

include h

theorem transmittedKeys_setpointRefreshStep : device'.transmittedKeys = device.transmittedKeys :=
  filterMap_setpointRefreshStep (fun _ => rfl) (fun _ => rfl) h

theorem outcomes_setpointRefreshStep : device'.outcomes = device.outcomes :=
  filterMap_setpointRefreshStep (fun _ => rfl) (fun _ => rfl) h

end

theorem outcomes_acknowledge (device : OneTouchDevice γ) (toStatus : Bool) :
    (device.acknowledge toStatus).outcomes = device.outcomes := by
  unfold acknowledge
  split
  · exact (filterMap_record _ _).trans (by simp [KeypadEvent.outcome, outcomes])
  · exact (filterMap_record _ _).trans (by simp [KeypadEvent.outcome, outcomes])

theorem processControllerUpdates_of_none [KeypadGoal γ] (hgoal : device.activeGoal = none)
    (h : device.processControllerUpdates model fuel surroundings toStatus = some device') :
    device'.activeGoal = none ∧ device'.outcomes = device.outcomes ∧
      ∃ key, device.Sends device' key ∧
        (¬ device.RefreshSteps surroundings → key = device.keyCommandToSend) := by
  obtain ⟨serviced, refreshed, hservice, hrefresh, rfl⟩ := processControllerUpdates_eq_some h
  obtain ⟨-, rfl⟩ | ⟨goal, -, hsome, -⟩ := serviceActiveGoal_cases hservice
  · refine ⟨?_, ?_, refreshed.keyCommandToSend, ?_, fun hrests => ?_⟩
    · exact (refreshed.acknowledge_frame toStatus).1.trans
        ((activeGoal_setpointRefreshStep hrefresh).trans hgoal)
    · rw [outcomes_acknowledge]
      exact outcomes_setpointRefreshStep hrefresh
    · have hsends := refreshed.sends_acknowledge toStatus
      rwa [Sends, transmittedKeys_setpointRefreshStep hrefresh] at hsends
    · have hkeypad := keypad_setpointRefreshStep hrefresh
      rw [if_neg hrests] at hkeypad
      exact (Prod.mk.inj hkeypad).2
  · rw [hgoal] at hsome
    cases hsome

/-- The goal takes a step in the context, goes on or ends as the step says, and its key is sent,
unless it has ended and a refresh that is due presses another. -/
def Answered [KeypadGoal γ] (device device' : OneTouchDevice γ) (model : MenuModel) (fuel : ℕ)
    (goal : γ) (ctx : KeypadContext) (due : Prop) : Prop :=
  ∃ result, KeypadGoal.step model fuel goal ctx = some result ∧
    device'.activeGoal = (if result.status = .running then some result.goal else none) ∧
    device'.outcomes =
      device.outcomes ++ (if result.status = .running then [] else [result.status]) ∧
    (result.status = .running → device'.refreshInProgress = false) ∧
    ∃ key, device.Sends device' key ∧
      (result.status = .running ∨ ¬ due →
        key = (result.context.emittedKey.map convertNavKeyCommand).getD device.keyCommandToSend)

theorem processControllerUpdates_of_some [KeypadGoal γ] {goal : γ}
    (hgoal : device.activeGoal = some goal) (hidle : device.refreshInProgress = false)
    (h : device.processControllerUpdates model fuel surroundings toStatus = some device') :
    device.Answered device' model fuel goal device.keypadContext
      (device.RefreshDue surroundings) := by
  obtain ⟨serviced, refreshed, hservice, hrefresh, rfl⟩ := processControllerUpdates_eq_some h
  obtain ⟨hnone, -⟩ | ⟨goal', result, hsome, hresult, rfl⟩ := serviceActiveGoal_cases hservice
  · rw [hgoal] at hnone
    cases hnone
  obtain rfl : goal = goal' := Option.some_inj.mp (hgoal.symm.trans hsome)
  have hactive : (device.recordStep.takeGoalStep result).activeGoal =
      if result.status = .running then some result.goal else none := by
    rw [takeGoalStep, activeGoal_queueKey]
    cases result.status <;> rfl
  -- a goal and the refresh have the keypad in turn
  have hservicedIdle : (device.recordStep.takeGoalStep result).refreshInProgress = false := by
    rw [takeGoalStep, refreshInProgress_queueKey]
    cases result.status <;> exact hidle
  refine ⟨result, hresult, ?_, ?_, fun hrunning => ?_, refreshed.keyCommandToSend, ?_, ?_⟩
  · calc (refreshed.acknowledge toStatus).activeGoal
      _ = refreshed.activeGoal := (refreshed.acknowledge_frame toStatus).1
      _ = (device.recordStep.takeGoalStep result).activeGoal :=
          activeGoal_setpointRefreshStep hrefresh
      _ = _ := hactive
  · rw [outcomes_acknowledge, outcomes_setpointRefreshStep hrefresh]
    exact filterMap_takeGoalStep (fun _ => rfl) (fun _ => rfl) result
  · rw [(refreshed.acknowledge_frame toStatus).2]
    exact refreshInProgress_setpointRefreshStep (by rw [hactive, if_pos hrunning]; rfl)
      hservicedIdle hrefresh
  · -- keys are sent with the acknowledgement only
    have htransmitted : refreshed.transmittedKeys = device.transmittedKeys := by
      calc refreshed.transmittedKeys
        _ = (device.recordStep.takeGoalStep result).transmittedKeys :=
            transmittedKeys_setpointRefreshStep hrefresh
        _ = device.transmittedKeys ++ if result.status = .running then [] else [] :=
            filterMap_takeGoalStep (fun _ => rfl) (fun _ => rfl) result
        _ = device.transmittedKeys := by simp
    have hsends := refreshed.sends_acknowledge toStatus
    rwa [Sends, htransmitted] at hsends
  · intro hquiet
    have hrests : ¬ (device.recordStep.takeGoalStep result).RefreshSteps surroundings := by
      rw [device.recordStep.refreshSteps_takeGoalStep hidle]
      rintro ⟨hended, hdue⟩
      rcases hquiet with hrunning | hnotDue
      · exact hended hrunning
      · exact hnotDue hdue
    have hkeypad := keypad_setpointRefreshStep hrefresh
    rw [if_neg hrests] at hkeypad
    exact (Prod.mk.inj hkeypad).2.trans (keyCommandToSend_takeGoalStep result)

theorem outcomes_takeMessage (device : OneTouchDevice γ) (message : BusMessage) :
    (device.takeMessage message).outcomes = device.outcomes :=
  congrArg (filterMap KeypadEvent.outcome)
    (Prod.mk.inj (device.keypad_takeMessage message)).1

theorem sends_takeMessage {key : KeyCommand} :
    (device.takeMessage message).Sends device' key ↔ device.Sends device' key := by
  have htransmitted : (device.takeMessage message).transmittedKeys = device.transmittedKeys :=
    congrArg (filterMap KeypadEvent.transmittedKey)
      (Prod.mk.inj (device.keypad_takeMessage message)).1
  rw [Sends, Sends, htransmitted]

theorem receive_of_none [KeypadGoal γ] (hgoal : device.activeGoal = none)
    (hprocessed : message.IsProcessed)
    (h : device.receive model fuel surroundings message = some device') :
    device'.activeGoal = none ∧ device'.outcomes = device.outcomes ∧
      ∃ key, device.Sends device' key ∧
        (¬ (device.takeMessage message).RefreshSteps surroundings →
          key = device.keyCommandToSend) := by
  rcases receive_cases h with ⟨hdropped, -⟩ | ⟨-, toStatus, processed, hprocess, heq⟩
  · exact absurd hprocessed hdropped
  have hnone := processControllerUpdates_of_none
    ((device.takeMessage_frame message).1.trans hgoal) hprocess
  rw [outcomes_takeMessage, (Prod.mk.inj (device.keypad_takeMessage message)).2] at hnone
  simp only [sends_takeMessage] at hnone
  rcases heq with rfl | rfl <;> exact hnone

theorem receive_of_some [KeypadGoal γ] {goal : γ} (hgoal : device.activeGoal = some goal)
    (hidle : device.refreshInProgress = false) (hprocessed : message.IsProcessed)
    (h : device.receive model fuel surroundings message = some device') :
    device.Answered device' model fuel goal (device.takeMessage message).keypadContext
      ((device.takeMessage message).RefreshDue surroundings) := by
  rcases receive_cases h with ⟨hdropped, -⟩ | ⟨-, toStatus, processed, hprocess, heq⟩
  · exact absurd hprocessed hdropped
  obtain ⟨hactive, hrefresh, -⟩ := device.takeMessage_frame message
  have hsome := processControllerUpdates_of_some (hactive.trans hgoal) (hrefresh.trans hidle)
    hprocess
  rw [Answered, outcomes_takeMessage, (Prod.mk.inj (device.keypad_takeMessage message)).2] at hsome
  simp only [sends_takeMessage] at hsome
  rcases heq with rfl | rfl <;> exact hsome

end OneTouchDevice

end AqualinkAutomate.OneTouch
