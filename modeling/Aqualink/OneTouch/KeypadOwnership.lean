import Aqualink.OneTouch.KeypadAccount

/-!
# One owner of the keypad at a time

The goal, the setpoint refresh and the crawl drive one navigator.  What keeps them apart is
written down in three places: the operating state has the crawl, the runner has the goal, and
a flag has the refresh.

The refresh takes its turn behind the goal, so on the message with which a goal ends it may
begin at once, and both have taken a step.  On any other message one party steps at most.  A
goal that is requested during the crawl waits for the end of it.
-/

namespace AqualinkAutomate.OneTouch

open Equipment General Navigation List

namespace OperatingDevice

variable {device served next : OperatingDevice} {model : MenuModel} {fuel : ℕ}
  {surroundings : MessageSurroundings} {request : DeviceRequest}

/-- No two of the three have the keypad.  Only a device that transmits gets goals. -/
structure SingleOwner (device : OperatingDevice) : Prop where
  exclusive : device.keypad.Exclusive
  refresh : device.keypad.refreshInProgress → device.opState = .normalOperation
  goal : device.keypad.activeGoal.isSome → device.emulated

/-! ## Requests -/

def withKeypad (device : OperatingDevice) (keypad : OneTouchDevice OneTouchGoal) :
    OperatingDevice :=
  { device with keypad := keypad }

def free (device : OperatingDevice) : OperatingDevice :=
  device.withKeypad { device.keypad with activeGoal := none, refreshInProgress := false }

def StartsGoal (device : OperatingDevice) (request : DeviceRequest) : Prop :=
  (device.free.answer request).1.keypad.activeGoal.isSome = true

def Decides (device : OperatingDevice)
    (answer : OperatingDevice → OperatingDevice × ActuationResult) : Prop :=
  (∃ result, ∀ keypad, answer (device.withKeypad keypad) = (device.withKeypad keypad, result)) ∨
    device.reasonCannotActuate = none ∧ ∃ goal, ∀ keypad,
      answer (device.withKeypad keypad) = (device.withKeypad keypad).startGoal goal

theorem decides_queueGoal (device : OperatingDevice) (goal : OneTouchGoal) :
    device.Decides fun device => device.queueGoal goal := by
  have hsame : ∀ keypad, (device.withKeypad keypad).reasonCannotActuate =
      device.reasonCannotActuate := fun _ => rfl
  cases hreason : device.reasonCannotActuate with
  | some reason => exact .inl ⟨reason, fun keypad => by simp [queueGoal, hsame, hreason]⟩
  | none => exact .inr ⟨hreason, goal, fun keypad => by simp [queueGoal, hsame, hreason]⟩

theorem decides_actuateDevice (device : OperatingDevice) (target : Option ℕ)
    (action : ActuationAction) :
    device.Decides fun device => device.actuateDevice target action := by
  have hsame : ∀ keypad, (device.withKeypad keypad).reasonCannotActuate =
      device.reasonCannotActuate := fun _ => rfl
  have hhub : ∀ keypad, (device.withKeypad keypad).hub = device.hub := fun _ => rfl
  cases target with
  | none => exact .inl ⟨.mappingFailed, fun _ => rfl⟩
  | some target =>
    cases hreason : device.reasonCannotActuate with
    | some reason => exact .inl ⟨reason, fun keypad => by simp [actuateDevice, hsame, hreason]⟩
    | none =>
      simp only [Decides, actuateDevice, hsame, hreason, hhub]
      split
      · exact .inl ⟨.mappingFailed, fun _ => rfl⟩
      · next label _ =>
          split
          · exact .inl ⟨.accepted, fun _ => rfl⟩
          · exact .inr ⟨trivial, .toggle { label := label }, fun _ => rfl⟩

theorem decides_setSpaSwitchAssignment (device : OperatingDevice)
    (switchNumber buttonNumber : UInt8) (function : Text) :
    device.Decides fun device =>
      device.setSpaSwitchAssignment switchNumber buttonNumber function := by
  have hsame : ∀ keypad, (device.withKeypad keypad).reasonCannotActuate =
      device.reasonCannotActuate := fun _ => rfl
  cases hreason : device.reasonCannotActuate with
  | some reason =>
    exact .inl ⟨reason, fun keypad => by simp [setSpaSwitchAssignment, hsame, hreason]⟩
  | none =>
    simp only [Decides, setSpaSwitchAssignment, hsame, hreason]
    split
    · exact .inl ⟨.invalidValue, fun _ => rfl⟩
    · exact .inr ⟨trivial, _, fun _ => rfl⟩

/-- A check of its own before the goal is queued. -/
theorem Decides.guard {condition : OperatingDevice → Prop} [DecidablePred condition]
    {answer : OperatingDevice → OperatingDevice × ActuationResult} (h : device.Decides answer)
    (result : ActuationResult)
    (hsame : ∀ keypad, condition (device.withKeypad keypad) ↔ condition device) :
    device.Decides fun device => if condition device then (device, result) else answer device := by
  by_cases hrefused : condition device
  · exact .inl ⟨result, fun keypad => if_pos ((hsame keypad).mpr hrefused)⟩
  · have hpasses : ∀ keypad, ¬ condition (device.withKeypad keypad) :=
      fun keypad => mt (hsame keypad).mp hrefused
    simpa only [Decides, if_neg (hpasses _)] using h

theorem decides_answer (device : OperatingDevice) (request : DeviceRequest) :
    device.Decides fun device => device.answer request := by
  cases request with
  | actuateDevice target action => exact device.decides_actuateDevice target action
  | setPoolSetpoint | setSpaSetpoint | setChlorinatorBoost => exact device.decides_queueGoal _
  | setChlorinatorPercentage percentage body =>
    cases body with
    | pool | spa => exact device.decides_queueGoal _
    | shared | unknown => exact .inl ⟨.invalidValue, fun _ => rfl⟩
  | setSpaSwitchAssignment switchNumber buttonNumber function =>
    exact device.decides_setSpaSwitchAssignment switchNumber buttonNumber function
  | createControllerProgram program | deleteControllerProgram program =>
    exact ((device.decides_queueGoal _).guard _ fun _ => Iff.rfl).guard _ fun _ => Iff.rfl
  | editControllerProgram existing desired =>
    exact (((device.decides_queueGoal _).guard _ fun _ => Iff.rfl).guard _
      fun _ => Iff.rfl).guard _ fun _ => Iff.rfl

structure RequestRespects (device : OperatingDevice) (request : DeviceRequest) : Prop where
  engine : (device.answer request).1.keypad.spiderEngine = device.keypad.spiderEngine
  refresh : (device.answer request).1.keypad.refreshInProgress = device.keypad.refreshInProgress
  goal : ∀ goal, device.keypad.activeGoal = some goal →
    (device.answer request).1.keypad.activeGoal = some goal
  busy : device.keypad.goalInProgress → device.StartsGoal request →
    device.answer request = (device, .busy)
  accepted : device.keypad.goalInProgress = false → device.StartsGoal request →
    (device.answer request).2 = .accepted

theorem startGoal_of_busy (goal : OneTouchGoal) (hbusy : device.keypad.goalInProgress) :
    device.startGoal goal = (device, .busy) :=
  if_pos hbusy

theorem startGoal_of_free (goal : OneTouchGoal) (hfree : device.keypad.goalInProgress = false) :
    device.startGoal goal =
      ({ device with keypad := { device.keypad with activeGoal := some goal } }, .accepted) :=
  if_neg (by simp [hfree])

theorem requestRespects (device : OperatingDevice) (request : DeviceRequest) :
    device.RequestRespects request := by
  rcases device.decides_answer request with ⟨result, hanswer⟩ | ⟨-, goal, hanswer⟩
  · have hstays : device.answer request = (device, result) := hanswer device.keypad
    have hstarts : ¬ device.StartsGoal request := by
      have hfree : device.free.answer request = (device.free, result) := hanswer _
      rw [StartsGoal, hfree]
      simp [free, withKeypad]
    constructor
    case engine | refresh | goal => simp [hstays]
    case busy | accepted => exact fun _ h => absurd h hstarts
  · have hgoal : device.answer request = device.startGoal goal := hanswer device.keypad
    cases hfree : device.keypad.goalInProgress with
    | true =>
      rw [startGoal_of_busy goal hfree] at hgoal
      constructor
      case engine | refresh | goal => simp [hgoal]
      case busy => exact fun _ _ => hgoal
      case accepted => exact fun h => by simp [hfree] at h
    | false =>
      have hnone : device.keypad.activeGoal = none := by
        simp only [OneTouchDevice.goalInProgress, Bool.or_eq_false_iff] at hfree
        simpa using hfree.1
      rw [startGoal_of_free goal hfree] at hgoal
      constructor
      case engine | refresh | accepted => simp [hgoal]
      case goal => simp [hnone]
      case busy => exact fun h => by simp [hfree] at h

theorem SingleOwner.answer (h : device.SingleOwner) (request : DeviceRequest) :
    (device.answer request).1.SingleOwner := by
  rcases device.decides_answer request with ⟨result, hanswer⟩ | ⟨hcan, goal, hanswer⟩
  · have hstays : device.answer request = (device, result) := hanswer device.keypad
    rwa [hstays]
  · have hgoal : device.answer request = device.startGoal goal := hanswer device.keypad
    cases hfree : device.keypad.goalInProgress with
    | true => rwa [hgoal, startGoal_of_busy goal hfree]
    | false =>
      have hidle : device.keypad.refreshInProgress = false := by
        simp only [OneTouchDevice.goalInProgress, Bool.or_eq_false_iff] at hfree
        exact hfree.2
      have hemulated : device.emulated := by
        rw [reasonCannotActuate] at hcan
        split_ifs at hcan with hpassive
        simp only [emulationActive, Bool.and_eq_false_iff] at hpassive
        exact Bool.eq_true_of_not_eq_false fun h => hpassive (.inl h)
      rw [hgoal, startGoal_of_free goal hfree]
      exact ⟨fun _ => hidle, h.refresh, fun _ => hemulated⟩

/-! ## Messages -/

/-- The latest message had one party take a step, or none. -/
def SoleStepper (device : OperatingDevice) : Prop :=
  ∀ first ∈ device.steppers, ∀ second ∈ device.steppers, first = second

/-- What a message may do to the keypad: with no goal ending, one party at most takes a step,
and a goal that finds the device out of normal operation waits. -/
structure MessageRespects (device next : OperatingDevice) : Prop where
  sole : next.endedGoals = [] → next.SoleStepper
  held : device.opState ≠ .normalOperation →
    next.keypad.activeGoal = device.keypad.activeGoal ∧ itemsOf .activeGoal next.account = []

/-- Only one party has been at work. -/
theorem sole_of_account {owner : KeypadOwner} {events : List KeypadEvent}
    (h : next.account = events.map (Tagged.mk owner)) : next.SoleStepper := by
  have howner : ∀ stepper ∈ next.steppers, stepper = owner := by
    intro stepper hstepper
    obtain ⟨key, hentry⟩ := mem_steppers.mp hstepper
    rw [h, mem_map] at hentry
    obtain ⟨event, -, heq⟩ := hentry
    exact (congrArg Tagged.tag heq).symm
  exact fun first hfirst second hsecond => (howner first hfirst).trans (howner second hsecond).symm

theorem sole_of_nil (h : next.account = []) : next.SoleStepper := by
  have hnothing : next.account = ([] : List KeypadEvent).map (Tagged.mk KeypadOwner.crawl) := h
  exact sole_of_account hnothing

theorem SingleOwner.enter (h : device.SingleOwner) (message : BusMessage) :
    (device.enter message).SingleOwner := by
  have hkeeps := device.keepsGoal_enter message
  refine ⟨?_, fun hrefresh => ?_, fun hgoal => ?_⟩
  · exact (OneTouchDevice.exclusive_congr hkeeps.activeGoal.symm
      hkeeps.refreshInProgress.symm).mp h.exclusive
  · rcases device.opState_enter message with hsame | ⟨hnormal, -⟩
    · exact hsame.trans (h.refresh (hkeeps.refreshInProgress.symm.trans hrefresh))
    · exact hnormal
  · have hemulated : (device.enter message).emulated = device.emulated :=
      congrArg Prod.fst hkeeps.setting
    exact hemulated.trans (h.goal (by rwa [← hkeeps.activeGoal]))

variable {result : GoalStep OneTouchGoal}

theorem running_of_no_outcome {key : KeyCommand}
    (h : (KeypadEvent.step key :: (endEvents result.status ++
      emitEvents result.context.emittedKey)).filterMap KeypadEvent.outcome = []) :
    result.status = .running := by
  by_contra hended
  simp [endEvents, hended, KeypadEvent.outcome] at h

theorem not_refreshSteps_of_running {surroundings : Surroundings}
    (hidle : device.keypad.refreshInProgress = false) (hrunning : result.status = .running) :
    ¬ (device.keypad.recordStep.takeGoalStep result).RefreshSteps surroundings := by
  rw [OneTouchDevice.refreshSteps_takeGoalStep device.keypad.recordStep hidle]
  exact fun hsteps => hsteps.1 hrunning

theorem sole_normalOperation {serviced : OperatingDevice} {surroundings : Surroundings}
    (hempty : device.account = []) (hexclusive : device.keypad.Exclusive)
    (hservice : device.serviceActiveGoal model fuel = some serviced)
    (hrefresh : serviced.setpointRefreshStep model fuel surroundings = some served)
    (hended : served.endedGoals = []) : served.SoleStepper := by
  obtain ⟨-, haccount⟩ := setpointRefreshStep_cases hrefresh
  rcases serviceActiveGoal_cases hservice with ⟨-, rfl⟩ | ⟨goal, result, hgoal, -, rfl⟩
  · rcases haccount with hsame | ⟨-, key, emitted, hadds⟩
    · exact sole_of_nil (hsame.trans hempty)
    · rw [hempty, nil_append] at hadds
      exact sole_of_account hadds
  · have hgoalAccount := device.account_work_takeGoalStep result
    rw [hempty, nil_append] at hgoalAccount
    rcases haccount with hsame | ⟨hsteps, key, emitted, hadds⟩
    · exact sole_of_account (hsame.trans hgoalAccount)
    · have hitems : itemsOf .activeGoal served.account =
          .step device.keypad.keyCommandToSend ::
            (endEvents result.status ++ emitEvents result.context.emittedKey) := by
        rw [hadds, hgoalAccount, itemsOf_append, itemsOf_tagAll, itemsOf_tagAll, if_pos rfl,
          if_neg (by decide), append_nil]
      rw [endedGoals, hitems] at hended
      have hidle : device.keypad.refreshInProgress = false := hexclusive (by simp [hgoal])
      exact absurd hsteps (not_refreshSteps_of_running hidle (running_of_no_outcome hended))

variable {toStatus : Bool}

theorem itemsOf_activeGoal_operate (hempty : device.account = [])
    (hstate : device.opState ≠ .normalOperation)
    (h : device.operate model fuel surroundings toStatus = some served) :
    served.keypad.activeGoal = device.keypad.activeGoal ∧
      itemsOf .activeGoal served.account = [] := by
  by_cases hcrawls : device.CrawlSteps model
  · obtain ⟨hkeeps, key, emitted, haccount⟩ := isCrawled_operate hcrawls h
    refine ⟨hkeeps.activeGoal, ?_⟩
    rw [haccount, hempty, nil_append, itemsOf_tagAll, if_neg (by decide)]
  · obtain ⟨hkeeps, haccount⟩ := rests_operate hcrawls hstate h
    refine ⟨hkeeps.activeGoal, ?_⟩
    rw [haccount, hempty]
    rfl

theorem sole_operate (hempty : device.account = []) (hexclusive : device.keypad.Exclusive)
    (h : device.operate model fuel surroundings toStatus = some served)
    (hended : served.endedGoals = []) : served.SoleStepper := by
  by_cases hstate : device.opState = .normalOperation
  · obtain ⟨serviced, hservice, hrefresh⟩ := operate_normalOperation hstate h
    exact sole_normalOperation hempty hexclusive hservice hrefresh hended
  · by_cases hcrawls : device.CrawlSteps model
    · obtain ⟨-, key, emitted, haccount⟩ := isCrawled_operate hcrawls h
      rw [hempty, nil_append] at haccount
      exact sole_of_account haccount
    · obtain ⟨-, haccount⟩ := rests_operate hcrawls hstate h
      exact sole_of_nil (haccount.trans hempty)

theorem SingleOwner.messageRespects (howner : device.SingleOwner) {message : BusMessage}
    (h : device.receive model fuel surroundings message = some next) :
    device.MessageRespects next := by
  rcases receive_cases h with ⟨-, rfl⟩ | ⟨-, served, key, ackType, log, hserved, rfl⟩
  · exact ⟨fun _ => sole_of_nil rfl, fun _ => ⟨rfl, rfl⟩⟩
  · have hempty := device.account_enter message
    have henter := howner.enter message
    have hsole := sole_operate hempty henter.exclusive hserved
    refine ⟨hsole, fun hstate => ?_⟩
    have hsame := (device.keepsGoal_enter message).activeGoal
    rcases device.opState_enter message with hkept | ⟨hnormal, hlistens⟩
    · obtain ⟨hgoal, hitems⟩ := itemsOf_activeGoal_operate hempty (hkept ▸ hstate) hserved
      exact ⟨hgoal.trans hsame, hitems⟩
    -- a device that only listens has no goal
    · have hnone : device.keypad.activeGoal = none := by
        by_contra hsome
        have hemulated := howner.goal (Option.isSome_iff_ne_none.mpr hsome)
        rw [hlistens] at hemulated
        exact absurd hemulated (by decide)
      obtain ⟨serviced, hservice, hrefresh⟩ := operate_normalOperation hnormal hserved
      obtain ⟨hrefreshed, haccount⟩ := setpointRefreshStep_cases hrefresh
      rcases serviceActiveGoal_cases hservice with ⟨-, rfl⟩ | ⟨goal, result, hgoal, -, -⟩
      · refine ⟨hrefreshed.activeGoal.trans hsame, ?_⟩
        rcases haccount with haccount | ⟨-, key, emitted, haccount⟩
        · exact (congrArg (itemsOf .activeGoal) (haccount.trans hempty)).trans itemsOf_nil
        · dsimp only
          rw [haccount, hempty, nil_append, itemsOf_tagAll, if_neg (by decide)]
      · rw [hsame, hnone] at hgoal
        cases hgoal

/-! ## Every run -/

theorem exclusive_serviceActiveGoal (hexclusive : device.keypad.Exclusive)
    (h : device.serviceActiveGoal model fuel = some served) : served.keypad.Exclusive := by
  obtain ⟨keypad, hservice, rfl⟩ := Option.map_eq_some_iff.mp h
  exact hexclusive.serviceActiveGoal hservice

theorem SingleOwner.operate (h : device.SingleOwner)
    (hserved : device.operate model fuel surroundings toStatus = some served) :
    served.SingleOwner := by
  by_cases hstate : device.opState = .normalOperation
  · obtain ⟨serviced, hservice, hrefresh⟩ := operate_normalOperation hstate hserved
    obtain ⟨hrefreshed, hopState, hsetting⟩ := (setpointRefreshStep_cases hrefresh).1
    have hserviced : serviced.opState = .normalOperation ∧
        (serviced.keypad.activeGoal.isSome → serviced.emulated) := by
      rcases serviceActiveGoal_cases hservice with ⟨-, rfl⟩ | ⟨goal, result, hgoal, -, rfl⟩
      · exact ⟨hstate, h.goal⟩
      · have hsome : device.keypad.activeGoal.isSome := by rw [hgoal, Option.isSome_some]
        exact ⟨hstate, fun _ => h.goal hsome⟩
    have hexclusive := exclusive_serviceActiveGoal h.exclusive hservice
    refine ⟨exclusive_setpointRefreshStep hexclusive hrefresh,
      fun _ => hopState.trans hserviced.1, fun hsome => ?_⟩
    rw [hrefreshed] at hsome
    exact (congrArg Prod.fst hsetting).trans (hserviced.2 hsome)
  · have hkeeps : device.KeepsGoal served := by
      by_cases hcrawls : device.CrawlSteps model
      · exact (isCrawled_operate hcrawls hserved).keepsGoal
      · exact (rests_operate hcrawls hstate hserved).1
    refine ⟨?_, fun hrefresh => ?_, fun hsome => ?_⟩
    · exact (OneTouchDevice.exclusive_congr hkeeps.activeGoal.symm
        hkeeps.refreshInProgress.symm).mp h.exclusive
    · rw [hkeeps.refreshInProgress] at hrefresh
      exact absurd (h.refresh hrefresh) hstate
    · rw [hkeeps.activeGoal] at hsome
      exact (congrArg Prod.fst hkeeps.setting).trans (h.goal hsome)

theorem SingleOwner.attempt (h : device.SingleOwner) {event : OperatingEvent}
    (hattempt : device.attempt model fuel event = some next) : next.SingleOwner := by
  cases event with
  | message message surroundings =>
    rcases receive_cases hattempt with ⟨-, rfl⟩ | ⟨-, served, key, ackType, log, hserved, rfl⟩
    · exact ⟨h.exclusive, h.refresh, h.goal⟩
    · obtain ⟨hexclusive, hrefresh, hgoal⟩ := (h.enter message).operate hserved
      exact ⟨hexclusive, hrefresh, hgoal⟩
  | watchdogTimeout =>
    cases hattempt
    have hcrawls : device.opState ≠ .normalOperation → device.keypad.refreshInProgress → False :=
      fun hstate hrefresh => hstate (h.refresh hrefresh)
    unfold watchdogTimeoutOccurred
    split
    · exact ⟨h.exclusive, fun _ => rfl, h.goal⟩
    · next hstate =>
        exact ⟨h.exclusive, fun hrefresh => (hcrawls (by simp [hstate]) hrefresh).elim, h.goal⟩
    · next hstate =>
        exact ⟨h.exclusive, fun hrefresh => (hcrawls (by simp [hstate]) hrefresh).elim, h.goal⟩
    all_goals exact h
  | suppressEmulation | configureRefresh | hubUpdate =>
    cases hattempt
    exact ⟨h.exclusive, h.refresh, h.goal⟩
  | request request =>
    cases hattempt
    exact h.answer request
  | requestFullRediscovery =>
    cases hattempt
    unfold requestFullRediscovery OneTouchDevice.requestFullRediscovery
    split_ifs <;> exact ⟨h.exclusive, h.refresh, h.goal⟩
  | queryDiscovery =>
    cases hattempt
    exact h

theorem singleOwner_initial (emulated : Bool) (hub : DataHub) :
    (initial emulated hub).SingleOwner := by
  constructor
  case exclusive => exact nofun
  case refresh => exact nofun
  case goal => exact nofun

/-- What an event may do to the keypad. -/
def RespectsOwner (model : MenuModel) (fuel : ℕ) (device : OperatingDevice) :
    OperatingEvent → Prop
  | .message message surroundings =>
    ∀ next, device.receive model fuel surroundings message = some next →
      device.MessageRespects next
  | .request request => device.RequestRespects request
  | _ => True

theorem SingleOwner.respectsOwner (h : device.SingleOwner) (event : OperatingEvent) :
    device.RespectsOwner model fuel event := by
  cases event with
  | message message surroundings => exact fun next hnext => h.messageRespects hnext
  | request request => exact device.requestRespects request
  | _ => trivial

/-- The keypad has one owner at a time.  With a message, unless a goal ends with it, one party
at most takes a step; a request leaves the party that has the keypad alone, and is answered
that it is busy if it would start a goal otherwise; and a goal does nothing out of normal
operation. -/
theorem keypad_has_single_owner (model : MenuModel) (fuel : ℕ) (emulated : Bool) (hub : DataHub)
    (events : List OperatingEvent) :
    EachStateReached (attempt model fuel) SingleOwner (initial emulated hub) events ∧
      EachStepTaken (attempt model fuel) (RespectsOwner model fuel) (initial emulated hub)
        events := by
  have hinitial := singleOwner_initial emulated hub
  have hall : EachStepTaken (attempt model fuel) (fun _ _ => True) (initial emulated hub) events :=
    eachStepTaken_true
  have hstates : EachStateReached (attempt model fuel) SingleOwner (initial emulated hub) events :=
    hall.eachStateReached (fun _ _ _ hnext h _ => h.attempt hnext) (fun _ h => h) hinitial
  refine ⟨hstates, ?_⟩
  exact (eachStepTaken_congr (fun _ _ _ hnext h => h.attempt hnext)
    (fun _ event _ _ h => iff_of_true trivial (h.respectsOwner event)) hinitial).mp hall

/-- Whoever has the keypad, the crawl included, a request finds it busy. -/
def BusyWhileOwned (device : OperatingDevice) : Prop :=
  device.keypad.goalInProgress = true ∨ device.opState = .scraping →
    ∀ request, device.StartsGoal request → (device.answer request).2 = .busy

/-- The controller comes up with a page that the device knows. -/
def crawlBegins : List OperatingEvent := [.message (.messageLong 0 "Set Temp".toList) {}]

/-- The device recovers from a fault, and a refresh is due when its goal finds the pool heat as
it is to be. -/
def refreshBehindGoal : List OperatingEvent :=
  [.watchdogTimeout, .message (.messageLong 0 "Set Temp".toList) {},
    .message (.messageLong 2 "Pool Heat 90".toList) {}, .message (.highlight 2) {},
    .message .status {}, .message .status {}, .message .status {}, .configureRefresh 1,
    .request (.setPoolSetpoint 90), .message .probe {}, .message .probe { evaluatedAt := 1 }]

/-- The refresh takes its first step on the message with which the goal ends, and a request
that comes during the crawl is accepted. -/
theorem keypad_is_shared :
    ¬ EachStateReached (attempt setTemperatureModel 9) SoleStepper (initial true {})
        refreshBehindGoal ∧
      ¬ EachStateReached (attempt setTemperatureModel 9) BusyWhileOwned (initial true {})
        crawlBegins := by
  have hrefresh : (refreshBehindGoal.foldlM (attempt setTemperatureModel 9)
      (initial true {})).map steppers = some [.activeGoal, .setpointRefresh] := by decide +kernel
  have hcrawl : (crawlBegins.foldlM (attempt setTemperatureModel 9) (initial true {})).map
      (fun device => (device.opState,
        (device.free.answer (.setPoolSetpoint 80)).1.keypad.activeGoal.isSome,
        (device.answer (.setPoolSetpoint 80)).2)) = some (.scraping, true, .accepted) := by
    decide +kernel
  constructor
  · intro hsole
    obtain ⟨device, hrun, hsteppers⟩ := Option.map_eq_some_iff.mp hrefresh
    have hlast : device.SoleStepper := hsole.last hrun
    rw [SoleStepper, hsteppers] at hlast
    exact absurd (hlast .activeGoal (by decide) .setpointRefresh (by decide)) (by decide)
  · intro hbusy
    obtain ⟨device, hrun, hanswer⟩ := Option.map_eq_some_iff.mp hcrawl
    obtain ⟨hscraping, hanswer⟩ := Prod.mk.inj hanswer
    obtain ⟨hstarts, haccepted⟩ := Prod.mk.inj hanswer
    have hlast := hbusy.last hrun (.inr hscraping) (.setPoolSetpoint 80) hstarts
    rw [haccepted] at hlast
    exact absurd hlast (by decide)

end OperatingDevice

end AqualinkAutomate.OneTouch
