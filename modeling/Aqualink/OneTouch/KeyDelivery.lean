import Aqualink.OneTouch.Answer

/-!
# The keys of the keypad reach the controller

Every key that is emitted should be sent, once and in order, and nothing should work on the
keypad while a key waits.  Now a goal and the refresh are stepped with every message, while
a key is sent with a status message only, and there is room for one.  So a step with a key
waiting is one step too many, and if it emits a key, the one that waits is lost.

`keys_delivered_iff` says exactly which messages do no harm: while a key waits, neither a
goal nor the refresh may be stepped, and no refresh may be due when a goal ends with a key.
-/

namespace AqualinkAutomate.OneTouch

open General Navigation List

namespace KeypadEvent

def emittedKey : KeypadEvent → Option KeyCommand
  | .emit key => if key = .noKeyCommand then none else some key
  | _ => none

end KeypadEvent

namespace OneTouchDevice

variable {γ : Type*} {device : OneTouchDevice γ}

def emittedKeys (device : OneTouchDevice γ) : List KeyCommand :=
  device.log.filterMap KeypadEvent.emittedKey

def waitingKeys (device : OneTouchDevice γ) : List KeyCommand :=
  if device.keyCommandToSend = .noKeyCommand then [] else [device.keyCommandToSend]

def Accounted (device : OneTouchDevice γ) : Prop :=
  device.emittedKeys = device.transmittedKeys ++ device.waitingKeys

def Unhurried (device : OneTouchDevice γ) : Prop :=
  ∀ waiting, .step waiting ∈ device.log → waiting = .noKeyCommand

def DeliversKeys (device : OneTouchDevice γ) : Prop := device.Accounted ∧ device.Unhurried

/-- The keypad has one user at a time. -/
def Exclusive (device : OneTouchDevice γ) : Prop :=
  device.activeGoal.isSome → device.refreshInProgress = false

/-! ## Which messages deliver -/

def GoalEndsWithKey [KeypadGoal γ] (model : MenuModel) (fuel : ℕ) (device : OneTouchDevice γ) :
    Prop :=
  ∃ goal result key, device.activeGoal = some goal ∧
    KeypadGoal.step model fuel goal device.keypadContext = some result ∧
    result.status ≠ .running ∧ result.context.emittedKey = some key ∧
    convertNavKeyCommand key ≠ .noKeyCommand

/-- Nothing is stepped while a key waits, and no refresh follows a goal that ends with a
key. -/
structure StepsWithoutKey [KeypadGoal γ] (model : MenuModel) (fuel : ℕ)
    (surroundings : Surroundings) (device : OneTouchDevice γ) : Prop where
  waiting : device.keyCommandToSend ≠ .noKeyCommand →
    device.activeGoal = none ∧ ¬ device.RefreshSteps surroundings
  ending : device.GoalEndsWithKey model fuel → ¬ device.RefreshDue surroundings

end OneTouchDevice

def OneTouchDevice.KeepsKeys {γ : Type*} [KeypadGoal γ] (model : MenuModel) (fuel : ℕ)
    (device : OneTouchDevice γ) : DeviceEvent γ → Prop
  | .message received surroundings =>
    received.IsProcessed →
      (device.takeMessage received).StepsWithoutKey model fuel surroundings
  | .requestGoal _ => True
  | .requestFullRediscovery => True

namespace OneTouchDevice

variable {γ : Type*} {device device' : OneTouchDevice γ} {model : MenuModel} {fuel : ℕ}
  {surroundings : Surroundings}

/-! ## What is recorded -/

@[simp] theorem emittedKeys_record (event : KeypadEvent) :
    (device.record event).emittedKeys = device.emittedKeys ++ event.emittedKey.toList :=
  filterMap_record _ event

@[simp] theorem waitingKeys_record (event : KeypadEvent) :
    (device.record event).waitingKeys = device.waitingKeys := rfl

@[simp] theorem unhurried_record {event : KeypadEvent} :
    (device.record event).Unhurried ↔
      device.Unhurried ∧ ∀ waiting, event = .step waiting → waiting = .noKeyCommand := by
  simp only [Unhurried, record, mem_append, mem_singleton]
  grind

@[simp] theorem unhurried_recordStep :
    device.recordStep.Unhurried ↔ device.Unhurried ∧ device.keyCommandToSend = .noKeyCommand := by
  rw [recordStep, unhurried_record]
  simp

@[simp] theorem unhurried_queueKey {key : Option NavKeyCommand} :
    (device.queueKey key).Unhurried ↔ device.Unhurried := by
  cases key with
  | none => rfl
  | some key => simp [queueKey, Unhurried, record]

@[simp] theorem unhurried_acknowledge {toStatus : Bool} :
    (device.acknowledge toStatus).Unhurried ↔ device.Unhurried := by
  unfold acknowledge
  split_ifs <;> simp [Unhurried, record]

theorem Accounted.recordStep (h : device.Accounted) : device.recordStep.Accounted := by
  simpa [Accounted, OneTouchDevice.recordStep, KeypadEvent.emittedKey,
    KeypadEvent.transmittedKey] using h

theorem Accounted.queueKey (h : device.Accounted) (hfree : device.keyCommandToSend = .noKeyCommand)
    (key : Option NavKeyCommand) : (device.queueKey key).Accounted := by
  cases key with
  | none => exact h
  | some key =>
    have hsent : device.emittedKeys = device.transmittedKeys := by
      rwa [Accounted, waitingKeys, if_pos hfree, append_nil] at h
    have hemits : (KeypadEvent.emit (convertNavKeyCommand key)).emittedKey.toList =
        ({ device with keyCommandToSend := convertNavKeyCommand key }).waitingKeys := by
      simp only [KeypadEvent.emittedKey, waitingKeys]
      split_ifs <;> rfl
    rw [OneTouchDevice.queueKey, Accounted, emittedKeys_record, transmittedKeys_record,
      waitingKeys_record, hemits]
    exact congrArg (· ++ _) (hsent.trans (append_nil _).symm)

theorem Accounted.acknowledge (h : device.Accounted) (toStatus : Bool) :
    (device.acknowledge toStatus).Accounted := by
  unfold OneTouchDevice.acknowledge
  split
  next hsends =>
    rw [Accounted, emittedKeys_record, transmittedKeys_record, waitingKeys_record]
    simpa [Accounted, waitingKeys, hsends.2, KeypadEvent.emittedKey, KeypadEvent.transmittedKey,
      emittedKeys, transmittedKeys] using h
  next hkeeps =>
    rw [Accounted, emittedKeys_record, transmittedKeys_record, waitingKeys_record]
    simpa [Accounted, KeypadEvent.emittedKey] using h

theorem unhurried_congr (h : device.keypad = device'.keypad) :
    device.Unhurried ↔ device'.Unhurried := by
  obtain ⟨hlog, -⟩ := Prod.mk.inj h
  rw [Unhurried, Unhurried, hlog]

theorem accounted_congr (h : device.keypad = device'.keypad) :
    device.Accounted ↔ device'.Accounted := by
  obtain ⟨hlog, hkey⟩ := Prod.mk.inj h
  simp only [Accounted, emittedKeys, transmittedKeys, waitingKeys, hlog, hkey]

/-- It is neither a step nor a key. -/
theorem unhurried_settleGoal {goal : γ} {status : GoalStatus} :
    (device.settleGoal goal status).Unhurried ↔ device.Unhurried := by
  have hkeypad := keypad_settleGoal device goal status
  split at hkeypad
  · exact unhurried_congr hkeypad
  · simpa using unhurried_congr hkeypad

theorem Accounted.settleGoal (h : device.Accounted) (goal : γ) (status : GoalStatus) :
    (device.settleGoal goal status).Accounted := by
  have hkeypad := keypad_settleGoal device goal status
  split at hkeypad
  · exact (accounted_congr hkeypad).mpr h
  · rw [accounted_congr hkeypad]
    simpa [Accounted, KeypadEvent.emittedKey, KeypadEvent.transmittedKey] using h

/-! ## What a message needs -/

theorem unhurried_setpointRefreshStep
    (h : device.setpointRefreshStep model fuel surroundings = some device') :
    device'.Unhurried ↔
      device.Unhurried ∧
        (device.RefreshSteps surroundings → device.keyCommandToSend = .noKeyCommand) := by
  have hkeypad := keypad_setpointRefreshStep h
  split at hkeypad
  next hsteps =>
    obtain ⟨key, hkeypad⟩ := hkeypad
    rw [unhurried_congr hkeypad, unhurried_queueKey, unhurried_recordStep]
    exact and_congr_right fun _ => ⟨fun hfree _ => hfree, fun hfree => hfree hsteps⟩
  next hrests =>
    rw [unhurried_congr hkeypad]
    exact ⟨fun h => ⟨h, fun hsteps => absurd hsteps hrests⟩, And.left⟩

theorem Accounted.setpointRefreshStep (h : device.Accounted)
    (hfree : device.RefreshSteps surroundings → device.keyCommandToSend = .noKeyCommand)
    (hstep : device.setpointRefreshStep model fuel surroundings = some device') :
    device'.Accounted := by
  have hkeypad := keypad_setpointRefreshStep hstep
  split at hkeypad
  · next hsteps =>
      obtain ⟨key, hkeypad⟩ := hkeypad
      exact (accounted_congr hkeypad).mpr (h.recordStep.queueKey (hfree hsteps) key)
  · exact (accounted_congr hkeypad).mpr h

section

variable [KeypadGoal γ]

theorem unhurried_serviceActiveGoal (h : device.serviceActiveGoal model fuel = some device') :
    device'.Unhurried ↔
      device.Unhurried ∧ (device.activeGoal ≠ none → device.keyCommandToSend = .noKeyCommand) := by
  rcases serviceActiveGoal_cases h with ⟨hgoal, rfl⟩ | ⟨goal, result, hgoal, -, rfl⟩
  · simp [hgoal]
  · rw [takeGoalStep, unhurried_queueKey, unhurried_settleGoal]
    have hnavigator : (device.recordStep.withNavigator result.context.navigator).Unhurried ↔
        device.recordStep.Unhurried := unhurried_congr rfl
    rw [hnavigator, unhurried_recordStep]
    simp [hgoal]

theorem Accounted.serviceActiveGoal (h : device.Accounted)
    (hfree : device.activeGoal ≠ none → device.keyCommandToSend = .noKeyCommand)
    (hservice : device.serviceActiveGoal model fuel = some device') : device'.Accounted := by
  rcases serviceActiveGoal_cases hservice with ⟨-, rfl⟩ | ⟨goal, result, hgoal, -, rfl⟩
  · exact h
  · have hstepped : (device.recordStep.withNavigator result.context.navigator).Accounted :=
      (accounted_congr rfl).mpr h.recordStep
    refine (hstepped.settleGoal result.goal result.status).queueKey ?_ _
    have hkey : device.keyCommandToSend = .noKeyCommand := hfree (by simp [hgoal])
    cases result.status <;> exact hkey

theorem stepsWithoutKey_iff {serviced : OneTouchDevice γ} (hexclusive : device.Exclusive)
    (hservice : device.serviceActiveGoal model fuel = some serviced) :
    device.StepsWithoutKey model fuel surroundings ↔
      (device.activeGoal ≠ none → device.keyCommandToSend = .noKeyCommand) ∧
        (serviced.RefreshSteps surroundings → serviced.keyCommandToSend = .noKeyCommand) := by
  rcases serviceActiveGoal_cases hservice with ⟨hgoal, rfl⟩ | ⟨goal, result, hgoal, hresult, rfl⟩
  -- without a goal the refresh finds the device as the message left it
  · constructor
    · intro h
      refine ⟨fun hsome => absurd hgoal hsome, fun hsteps => ?_⟩
      by_contra hwaiting
      exact (h.waiting hwaiting).2 hsteps
    · rintro ⟨-, hfree⟩
      refine ⟨fun hwaiting => ⟨hgoal, fun hsteps => hwaiting (hfree hsteps)⟩, ?_⟩
      rintro ⟨goal, result, key, hsome, -⟩
      simp [hgoal] at hsome
  -- with a goal no refresh is going on, and one can only begin behind its last step
  have hidle : device.refreshInProgress = false := hexclusive (by simp [hgoal])
  have hstepped : (device.recordStep.takeGoalStep result).RefreshSteps surroundings ↔
      result.status ≠ .running ∧ device.RefreshDue surroundings :=
    device.recordStep.refreshSteps_takeGoalStep hidle result
  have hkey : (device.recordStep.takeGoalStep result).keyCommandToSend =
      (result.context.emittedKey.map convertNavKeyCommand).getD device.keyCommandToSend :=
    keyCommandToSend_takeGoalStep result
  rw [hstepped, hkey]
  constructor
  · intro h
    have hfree : device.keyCommandToSend = .noKeyCommand := by
      by_contra hwaiting
      exact absurd (h.waiting hwaiting).1 (by simp [hgoal])
    refine ⟨fun _ => hfree, ?_⟩
    rintro ⟨hended, hdue⟩
    rw [hfree]
    cases hemitted : result.context.emittedKey with
    | none => rfl
    | some key =>
      by_contra hwaiting
      exact h.ending ⟨goal, result, key, hgoal, hresult, hended, hemitted, hwaiting⟩ hdue
  · rintro ⟨hfree, hnext⟩
    refine ⟨fun hwaiting => absurd (hfree (by simp [hgoal])) hwaiting, ?_⟩
    rintro ⟨goal', result', key, hgoal', hresult', hended, hemitted, hkey'⟩ hdue
    obtain rfl : goal = goal' := Option.some_inj.mp (hgoal.symm.trans hgoal')
    obtain rfl : result = result' := Option.some_inj.mp (hresult.symm.trans hresult')
    have hnokey := hnext ⟨hended, hdue⟩
    rw [hemitted] at hnokey
    exact hkey' hnokey

theorem deliversKeys_processControllerUpdates {toStatus : Bool} (hexclusive : device.Exclusive)
    (hdelivers : device.DeliversKeys)
    (h : device.processControllerUpdates model fuel surroundings toStatus = some device') :
    device'.DeliversKeys ↔ device.StepsWithoutKey model fuel surroundings := by
  obtain ⟨serviced, refreshed, hservice, hrefresh, rfl⟩ := processControllerUpdates_eq_some h
  obtain ⟨haccounted, hunhurried⟩ := hdelivers
  -- being unhurried decides it: a step with a key waiting stays in the log for good
  rw [stepsWithoutKey_iff hexclusive hservice]
  constructor
  · rintro ⟨-, hafter⟩
    rw [unhurried_acknowledge, unhurried_setpointRefreshStep hrefresh,
      unhurried_serviceActiveGoal hservice] at hafter
    exact ⟨hafter.1.2, hafter.2⟩
  · rintro ⟨hgoal, hcrawl⟩
    have hserviced : serviced.Accounted := haccounted.serviceActiveGoal hgoal hservice
    have hrefreshed : refreshed.Accounted := hserviced.setpointRefreshStep hcrawl hrefresh
    refine ⟨hrefreshed.acknowledge toStatus, ?_⟩
    rw [unhurried_acknowledge, unhurried_setpointRefreshStep hrefresh,
      unhurried_serviceActiveGoal hservice]
    exact ⟨⟨hunhurried, hgoal⟩, hcrawl⟩

end

/-! ## One user at a time -/

theorem exclusive_congr (hgoal : device.activeGoal = device'.activeGoal)
    (hrefresh : device.refreshInProgress = device'.refreshInProgress) :
    device.Exclusive ↔ device'.Exclusive := by
  rw [Exclusive, Exclusive, hgoal, hrefresh]

theorem Exclusive.acknowledge (h : device.Exclusive) (toStatus : Bool) :
    (device.acknowledge toStatus).Exclusive := by
  obtain ⟨hgoal, hrefresh⟩ := device.acknowledge_frame toStatus
  exact (exclusive_congr hgoal hrefresh).mpr h

theorem Exclusive.takeMessage (h : device.Exclusive) (message : BusMessage) :
    (device.takeMessage message).Exclusive := by
  obtain ⟨hgoal, hrefresh, -⟩ := device.takeMessage_frame message
  exact (exclusive_congr hgoal hrefresh).mpr h

theorem Exclusive.setpointRefreshStep (h : device.Exclusive)
    (hstep : device.setpointRefreshStep model fuel surroundings = some device') :
    device'.Exclusive := by
  intro hsome
  rw [activeGoal_setpointRefreshStep hstep] at hsome
  exact refreshInProgress_setpointRefreshStep hsome (h hsome) hstep

section

variable [KeypadGoal γ]

theorem Exclusive.serviceActiveGoal (h : device.Exclusive)
    (hservice : device.serviceActiveGoal model fuel = some device') : device'.Exclusive := by
  rcases serviceActiveGoal_cases hservice with ⟨-, rfl⟩ | ⟨goal, result, hgoal, -, rfl⟩
  · exact h
  · have hidle : device.refreshInProgress = false := h (by simp [hgoal])
    intro _
    rw [takeGoalStep, refreshInProgress_queueKey]
    cases result.status <;> exact hidle

theorem Exclusive.processControllerUpdates {toStatus : Bool} (h : device.Exclusive)
    (hprocess : device.processControllerUpdates model fuel surroundings toStatus = some device') :
    device'.Exclusive := by
  obtain ⟨serviced, refreshed, hservice, hrefresh, rfl⟩ := processControllerUpdates_eq_some hprocess
  exact ((h.serviceActiveGoal hservice).setpointRefreshStep hrefresh).acknowledge toStatus

variable {event : DeviceEvent γ}

theorem Exclusive.handle (h : device.Exclusive)
    (hhandle : device.handle model fuel event = some device') : device'.Exclusive := by
  cases event with
  | message received surroundings =>
    rcases receive_cases hhandle with ⟨-, rfl⟩ | ⟨-, toStatus, processed, hprocess, heq⟩
    · exact h
    · have hprocessed : processed.Exclusive :=
        (h.takeMessage received).processControllerUpdates hprocess
      rcases heq with rfl | rfl <;> exact hprocessed
  | requestGoal goal =>
    cases hhandle
    rw [requestGoal]
    split
    · exact h
    · next hfree =>
        intro _
        rw [goalInProgress, Bool.or_eq_true] at hfree
        exact Bool.eq_false_of_not_eq_true fun hprogress => hfree (.inr hprogress)
  | requestFullRediscovery =>
    cases hhandle
    rw [requestFullRediscovery]
    split_ifs <;> exact h

theorem deliversKeys_handle (hexclusive : device.Exclusive) (hdelivers : device.DeliversKeys)
    (h : device.handle model fuel event = some device') :
    device'.DeliversKeys ↔ device.KeepsKeys model fuel event := by
  cases event with
  | message received surroundings =>
    have htaken : (device.takeMessage received).DeliversKeys :=
      hdelivers.imp (accounted_congr (device.keypad_takeMessage received)).mpr
        (unhurried_congr (device.keypad_takeMessage received)).mpr
    rcases receive_cases h with ⟨hdropped, rfl⟩ | ⟨htaking, toStatus, processed, hprocess, heq⟩
    · exact iff_of_true hdelivers fun hprocessed => absurd hprocessed hdropped
    · have hiff := deliversKeys_processControllerUpdates (hexclusive.takeMessage received) htaken
        hprocess
      have hsame : device'.DeliversKeys ↔ processed.DeliversKeys := by
        rcases heq with rfl | rfl <;> rfl
      rw [hsame, hiff]
      exact ⟨fun h _ => h, fun h => h htaking⟩
  | requestGoal goal =>
    cases h
    refine iff_of_true ?_ trivial
    rw [requestGoal]
    split_ifs <;> exact hdelivers
  | requestFullRediscovery =>
    cases h
    refine iff_of_true ?_ trivial
    rw [requestFullRediscovery]
    split_ifs <;> exact hdelivers

/-- In normal operation, whatever the controller sends and is asked for: the keys that are
emitted are sent, once and in order, and nothing is stepped with a key waiting, exactly as
long as every message finds nothing to step while a key waits, and no refresh due when a goal
ends with a key. -/
theorem keys_delivered_iff (model : MenuModel) (fuel : ℕ) {device : OneTouchDevice γ}
    (hexclusive : device.Exclusive) (hdelivers : device.DeliversKeys)
    (events : List (DeviceEvent γ)) :
    EachStateReached (handle model fuel) DeliversKeys device events ↔
      EachStepTaken (handle model fuel) (KeepsKeys model fuel) device events :=
  eachStateReached_iff (fun _ _ _ hhandle hexclusive => hexclusive.handle hhandle)
    (fun _ _ _ hhandle hexclusive hdelivers => deliversKeys_handle hexclusive hdelivers hhandle)
    hexclusive hdelivers

theorem keepsKeys_of_free (hfree : device.keyCommandToSend = .noKeyCommand)
    (hdisabled : device.refreshState.enabled = false) (received : BusMessage) :
    device.KeepsKeys model fuel (.message received surroundings) := by
  intro _
  have hkey : (device.takeMessage received).keyCommandToSend = .noKeyCommand :=
    (congrArg Prod.snd (device.keypad_takeMessage received)).trans hfree
  have hstate : (device.takeMessage received).refreshState = device.refreshState :=
    (device.takeMessage_frame received).2.2
  refine ⟨fun hwaiting => absurd hkey hwaiting, fun _ hdue => ?_⟩
  simp [RefreshDue, ChlorinatorSetpointRefresh.evaluate, hstate,
    ChlorinatorSetpointRefresh.observeOnline, hdisabled] at hdue

end

end OneTouchDevice

/-! ### Setting the pool heat -/

/-- A menu of one page. -/
def setTemperatureModel : MenuModel where
  pages := [{ id := .setTemperature, detectors := [{ line := 0, pattern := "Set Temp".toList }] }]

def poolHeatPage (value : String) : ScreenDataPage where
  rows := [{ text := "Set Temp".toList }, {},
    { text := ("Pool Heat " ++ value).toList, highlightState := .highlighted }]

def poolHeatEdit : ValueEditGoal where
  page := .setTemperature
  line := 2
  label := "Pool Heat".toList
  target := 81

def poolHeatDevice : OneTouchDevice ValueEditGoal where
  activeGoal := some poolHeatEdit
  displayedPage := poolHeatPage "80"
  highlightedLine := 2

/-- As long as the controller sends status messages only, the keys of the edit arrive. -/
theorem keys_delivered_poolHeat :
    EachStateReached (OneTouchDevice.handle setTemperatureModel 9) OneTouchDevice.DeliversKeys
      poolHeatDevice [.message .status {}, .message .status {}] := by
  have hdelivers : poolHeatDevice.DeliversKeys :=
    ⟨rfl, by simp [OneTouchDevice.Unhurried, poolHeatDevice]⟩
  refine (OneTouchDevice.keys_delivered_iff setTemperatureModel 9 (fun _ => rfl) hdelivers _).mpr ?_
  refine fun after hafter => ⟨OneTouchDevice.keepsKeys_of_free rfl rfl _, ?_⟩
  have hkey : (OneTouchDevice.handle setTemperatureModel 9 poolHeatDevice
      (.message .status {})).map (fun device => device.keyCommandToSend) = some .noKeyCommand := rfl
  have hrefresh : (OneTouchDevice.handle setTemperatureModel 9 poolHeatDevice
      (.message .status {})).map (fun device => device.refreshState.enabled) = some false := rfl
  rw [hafter] at hkey hrefresh
  refine fun _ _ => ⟨OneTouchDevice.keepsKeys_of_free (Option.some_inj.mp hkey)
    (Option.some_inj.mp hrefresh) _, trivial⟩

/-- The controller probes the keypad between two status messages: the cursor is on the row,
the goal presses Select to open the editor, and an arrow takes its place before it is sent. -/
theorem select_lost_between_status_messages :
    ([.message .probe {}, .message .probe {}, .message .probe {}, .message .status {}].foldlM
        (OneTouchDevice.handle setTemperatureModel 9) poolHeatDevice).map
        (fun device => (device.emittedKeys, device.transmittedKeys, device.waitingKeys)) =
      some ([.select, .lineUp, .lineUp], [.lineUp], []) ∧
    ¬ EachStateReached (OneTouchDevice.handle setTemperatureModel 9) OneTouchDevice.DeliversKeys
      poolHeatDevice
      [.message .probe {}, .message .probe {}, .message .probe {}, .message .status {}] := by
  have hkeys : ([.message .probe {}, .message .probe {}, .message .probe {},
      .message .status {}].foldlM (OneTouchDevice.handle setTemperatureModel 9)
        poolHeatDevice).map
      (fun device => (device.emittedKeys, device.transmittedKeys, device.waitingKeys)) =
        some ([.select, .lineUp, .lineUp], [.lineUp], []) := by decide +kernel
  refine ⟨hkeys, fun hdelivers => ?_⟩
  obtain ⟨device, hrun, heq⟩ := Option.map_eq_some_iff.mp hkeys
  have haccounted : device.emittedKeys = device.transmittedKeys ++ device.waitingKeys :=
    (hdelivers.last hrun).1
  simp only [Prod.mk.injEq] at heq
  rw [heq.1, heq.2.1, heq.2.2] at haccounted
  exact absurd haccounted (by decide)

end AqualinkAutomate.OneTouch
