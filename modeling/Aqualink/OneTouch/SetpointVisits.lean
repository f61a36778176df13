import Aqualink.OneTouch.KeypadOwnership

/-!
# Visits to the page of the chlorinator

The setpoint refresh visits the page of the chlorinator from time to time, and once more after
the chlorinator has come back.  What decides on a visit is spread over the device: the interval
comes from the configuration, the crawl of the start-up may rule visits out, and the chlorinator is
observed only in turns in which no visit is under way.

`RefreshWatch` keeps beside the device what an observer notes of it, and `Tracks` connects the
notes with the state of the refresh.  `visits_rationed` says when visits start, over every run.
-/

namespace AqualinkAutomate.OneTouch

open General Navigation

theorem ChlorinatorSetpointRefresh.evaluate_fst (refresh : ChlorinatorSetpointRefresh)
    (emulationActive goalInProgress chlorinatorOnline : Bool) (now : ℤ) :
    (refresh.evaluate emulationActive goalInProgress chlorinatorOnline now).1 =
      refresh.observeOnline chlorinatorOnline := by
  unfold evaluate
  dsimp only
  split_ifs <;> rfl

namespace OneTouchDevice

variable {γ : Type*} {device next : OneTouchDevice γ} {model : MenuModel} {fuel : ℕ}
  {surroundings : Surroundings}

theorem refreshState_queueKey (key : Option NavKeyCommand) :
    (device.queueKey key).refreshState = device.refreshState := by
  cases key <;> rfl

/-- A visit under way goes on or ends. -/
theorem refreshState_of_inProgress (hprogress : device.refreshInProgress)
    (h : device.setpointRefreshStep model fuel surroundings = some next) :
    next.refreshState = device.refreshState ∨
      next.refreshState = device.refreshState.notifyScrapeFinished surroundings.notedAt := by
  rw [setpointRefreshStep, if_pos hprogress, continueRefresh] at h
  dsimp only at h
  split at h
  · cases h
    exact .inr rfl
  · obtain ⟨⟨stepped, key⟩, hstep, rfl⟩ := Option.map_eq_some_iff.mp h
    obtain ⟨engine, rfl⟩ := stepCrawl_eq_some hstep
    split
    · exact .inr rfl
    · exact .inl (refreshState_queueKey key)

theorem refreshState_of_not_inProgress (hidle : device.refreshInProgress = false)
    (h : device.setpointRefreshStep model fuel surroundings = some next) :
    next.refreshInProgress = decide ((device.evaluateRefresh surroundings).2 = .scrape) ∧
      next.refreshState =
        if (device.evaluateRefresh surroundings).2 = .scrape then
          (device.evaluateRefresh surroundings).1.notifyScrapeStarted surroundings.notedAt
        else (device.evaluateRefresh surroundings).1 := by
  rw [setpointRefreshStep, if_neg (by simp [hidle])] at h
  rcases hevaluate : device.evaluateRefresh surroundings with ⟨refreshState, action⟩
  rw [hevaluate] at h
  cases action with
  | none =>
    cases h
    exact ⟨hidle, rfl⟩
  | scrape =>
    obtain ⟨⟨stepped, key⟩, hstep, rfl⟩ := Option.map_eq_some_iff.mp h
    obtain ⟨engine, rfl⟩ := stepCrawl_eq_some hstep
    exact ⟨refreshInProgress_queueKey key, refreshState_queueKey key⟩

end OneTouchDevice

namespace OperatingDevice

variable {device turn served next : OperatingDevice} {model : MenuModel} {fuel : ℕ}

/-! ## Turns of the refresh -/

def BeginsVisit (turn : OperatingDevice) (surroundings : Surroundings) : Prop :=
  turn.keypad.refreshInProgress = false ∧ turn.emulationActive = true ∧
    (turn.keypad.evaluateRefresh surroundings).2 = .scrape

instance (turn : OperatingDevice) (surroundings : Surroundings) :
    Decidable (turn.BeginsVisit surroundings) :=
  inferInstanceAs (Decidable (_ ∧ _))

def AllowsVisit (turn : OperatingDevice) : Prop :=
  turn.keypad.refreshState.enabled = true ∧ turn.emulationActive = true ∧
    turn.keypad.goalInProgress = false

/-- The turn in which the refresh decides on a visit: in normal operation, after the goal, while
no visit is under way. -/
def decision (model : MenuModel) (fuel : ℕ) (device : OperatingDevice) :
    OperatingEvent → Option (OperatingDevice × Surroundings)
  | .message message surroundings =>
    if message.IsProcessed ∧ (device.enter message).opState = .normalOperation ∧
        device.keypad.refreshInProgress = false then
      ((device.enter message).serviceActiveGoal model fuel).map fun turn =>
        (turn, surroundings.toSurroundings)
    else none
  | _ => none

def observed (turn : OperatingDevice) (surroundings : Surroundings) : ChlorinatorSetpointRefresh :=
  turn.keypad.refreshState.observeOnline surroundings.chlorinatorOnline

variable {surroundings : Surroundings}

theorem beginsVisit_iff :
    turn.BeginsVisit surroundings ↔
      turn.AllowsVisit ∧ 0 < turn.keypad.refreshState.interval ∧
        turn.keypad.refreshState.startupComplete ∧
        ((turn.observed surroundings).recoveryPending ∨
          turn.keypad.refreshState.interval ≤
            surroundings.evaluatedAt - turn.keypad.refreshState.lastScrape) := by
  simp only [BeginsVisit, AllowsVisit, OneTouchDevice.evaluateRefresh,
    ChlorinatorSetpointRefresh.evaluate, observed, OneTouchDevice.goalInProgress]
  grind [ChlorinatorSetpointRefresh.observeOnline]

theorem setpointRefreshStep_refreshState
    (h : turn.setpointRefreshStep model fuel surroundings = some served) :
    turn.keypad.refreshInProgress ∧
        (served.keypad.refreshState = turn.keypad.refreshState ∨
          served.keypad.refreshState =
            turn.keypad.refreshState.notifyScrapeFinished surroundings.notedAt) ∨
      turn.BeginsVisit surroundings ∧ served.keypad.refreshInProgress ∧
        served.keypad.refreshState =
          (turn.observed surroundings).notifyScrapeStarted surroundings.notedAt ∨
      turn.keypad.refreshInProgress = false ∧ ¬ turn.BeginsVisit surroundings ∧
        served.keypad.refreshInProgress = false ∧
        served.keypad.refreshState = turn.observed surroundings := by
  have hobserves : (turn.keypad.evaluateRefresh surroundings).1 = turn.observed surroundings :=
    ChlorinatorSetpointRefresh.evaluate_fst ..
  rw [setpointRefreshStep] at h
  split at h
  next hworks =>
    obtain ⟨keypad, hstep, rfl⟩ := Option.map_eq_some_iff.mp h
    cases hprogress : turn.keypad.refreshInProgress with
    | true => exact .inl ⟨rfl, OneTouchDevice.refreshState_of_inProgress hprogress hstep⟩
    | false =>
      have hactive : turn.emulationActive := by simpa [hprogress] using hworks
      obtain ⟨hflag, hstate⟩ := OneTouchDevice.refreshState_of_not_inProgress hprogress hstep
      rw [hobserves] at hstate
      by_cases hscrape : (turn.keypad.evaluateRefresh surroundings).2 = .scrape
      · rw [decide_eq_true hscrape] at hflag
        rw [if_pos hscrape] at hstate
        exact .inr (.inl ⟨⟨hprogress, hactive, hscrape⟩, hflag, hstate⟩)
      · rw [decide_eq_false hscrape] at hflag
        rw [if_neg hscrape] at hstate
        exact .inr (.inr ⟨rfl, fun hbegins => hscrape hbegins.2.2, hflag, hstate⟩)
  next hrests =>
    cases h
    obtain ⟨hidle, hpassive⟩ := not_or.mp hrests
    have hidle := Bool.eq_false_of_not_eq_true hidle
    exact .inr (.inr ⟨hidle, fun hbegins => hpassive hbegins.2.1, hidle, rfl⟩)

/-! ## The end of the start-up -/

/-- What an event that decides on no visit leaves of the refresh. -/
structure KeepsWatch (refresh next : ChlorinatorSetpointRefresh) (notedAt : ℤ) : Prop where
  prevOnline : next.prevOnline = refresh.prevOnline
  onlineInitialised : next.onlineInitialised = refresh.onlineInitialised
  recoveryPending : next.recoveryPending = refresh.recoveryPending
  positive : (refresh.enabled → 0 < refresh.interval) →
    next.enabled → 0 < next.interval
  complete : refresh.startupComplete → next.startupComplete
  lastScrape : next.lastScrape = refresh.lastScrape ∨ next.lastScrape = notedAt

theorem KeepsWatch.refl (refresh : ChlorinatorSetpointRefresh) (notedAt : ℤ) :
    KeepsWatch refresh refresh notedAt :=
  ⟨rfl, rfl, rfl, id, id, .inl rfl⟩

/-- The start-up has come to its end; visits may have been switched off, and the timer set. -/
def EndsStartup (refresh next : ChlorinatorSetpointRefresh) (notedAt : ℤ) : Prop :=
  KeepsWatch refresh next notedAt ∧ next.startupComplete = true

def AtFault (device : OperatingDevice) : Prop :=
  device.opState = .scrapingFaulted ∨ device.opState = .faultHasOccurred

instance (device : OperatingDevice) : Decidable device.AtFault :=
  inferInstanceAs (Decidable (_ ∨ _))

/-- Outside of normal operation a message leaves the refresh alone, or it ends the start-up: the
crawl is complete, or a fault is lifted. -/
def StartsOperation (device served : OperatingDevice) (notedAt : ℤ) : Prop :=
  served.opState ≠ .normalOperation ∧ served.keypad.refreshState = device.keypad.refreshState ∨
    served.opState = .normalOperation ∧
      EndsStartup device.keypad.refreshState served.keypad.refreshState notedAt ∧
      (device.AtFault ∨ served.keypad.spiderEngine.state = .complete)

theorem endsStartup_completeScraping (surroundings : Surroundings) (device : OperatingDevice) :
    EndsStartup device.keypad.refreshState
      (device.completeScraping surroundings).keypad.refreshState surroundings.notedAt := by
  unfold completeScraping
  split_ifs
  · exact ⟨⟨rfl, rfl, rfl, nofun, fun _ => rfl, .inr rfl⟩, rfl⟩
  · exact ⟨⟨rfl, rfl, rfl, id, fun _ => rfl, .inr rfl⟩, rfl⟩

theorem startsOperation_scrapingStep (hstate : device.opState ≠ .normalOperation)
    (h : device.scrapingStep model fuel surroundings = some served) :
    device.StartsOperation served surroundings.notedAt := by
  obtain ⟨⟨keypad, key⟩, hcrawl, rfl⟩ := Option.map_eq_some_iff.mp h
  obtain ⟨engine, rfl⟩ := OneTouchDevice.stepCrawl_eq_some hcrawl
  dsimp only
  unfold settleScraping
  split
  · next hcomplete =>
      exact .inr ⟨rfl, endsStartup_completeScraping surroundings
        (device.work .crawl { device.keypad.recordStep with spiderEngine := engine }),
        .inr hcomplete⟩
  · exact .inl ⟨by simp, rfl⟩
  · exact .inl ⟨hstate, OneTouchDevice.refreshState_queueKey key⟩

theorem startsOperation_attemptFaultRecovery (hfault : device.AtFault) (toStatus : Bool)
    (notedAt : ℤ) :
    device.StartsOperation (device.attemptFaultRecovery model toStatus) notedAt := by
  have hstate : device.opState ≠ .normalOperation := by
    rcases hfault with h | h <;> simp [h]
  unfold attemptFaultRecovery
  split_ifs
  · exact .inl ⟨hstate, rfl⟩
  · exact .inl ⟨hstate, rfl⟩
  · exact .inl ⟨hstate, rfl⟩
  · exact .inr ⟨rfl, ⟨⟨rfl, rfl, rfl, id, fun _ => rfl, .inl rfl⟩, rfl⟩, .inl hfault⟩

theorem startsOperation_operate {surroundings : MessageSurroundings} {toStatus : Bool}
    (hstate : device.opState ≠ .normalOperation)
    (h : device.operate model fuel surroundings toStatus = some served) :
    device.StartsOperation served surroundings.notedAt := by
  have hstartUp : device.startUpStep model fuel surroundings = some served →
      device.StartsOperation served surroundings.notedAt := by
    intro hstep
    rcases startsOperation_scrapingStep (by simp [beginScraping]) hstep with
      hstays | ⟨hnormal, hends, hfault | hcomplete⟩
    · exact .inl hstays
    · rcases hfault with hfault | hfault <;> cases hfault
    · exact .inr ⟨hnormal, hends, .inr hcomplete⟩
  unfold operate at h
  cases hopState : device.opState <;> rw [hopState] at h
  case coldStart =>
    dsimp only at h
    split_ifs at h
    · cases h
      exact .inl ⟨hstate, rfl⟩
    · exact hstartUp h
  case startUp => exact hstartUp h
  case scraping => exact startsOperation_scrapingStep hstate h
  case normalOperation => exact absurd hopState hstate
  case scrapingFaulted =>
    cases h
    exact startsOperation_attemptFaultRecovery (.inl hopState) toStatus _
  case faultHasOccurred =>
    cases h
    exact startsOperation_attemptFaultRecovery (.inr hopState) toStatus _

/-! ## What an event does to the refresh -/

inductive StartupEnd where
  | crawlCompleted | crawlAbandoned | faultRecovered
  deriving DecidableEq

def startupEnd (device next : OperatingDevice) (event : OperatingEvent) : Option StartupEnd :=
  if device.opState = .normalOperation ∨ next.opState ≠ .normalOperation then none
  else if device.AtFault then some .faultRecovered
  else match event with
    | .watchdogTimeout => some .crawlAbandoned
    | .message _ _ =>
      if next.keypad.spiderEngine.state = .complete then some .crawlCompleted else none
    | _ => none

/-- The event decides on no visit. -/
structure Undecided (device next : OperatingDevice) (event : OperatingEvent) (notedAt : ℤ) :
    Prop where
  keeps : KeepsWatch device.keypad.refreshState next.keypad.refreshState notedAt
  flag : next.keypad.refreshInProgress = true → device.keypad.refreshInProgress = true
  emulated : next.emulated = device.emulated
  startup : next.keypad.refreshState.startupComplete = true →
    device.keypad.refreshState.startupComplete = true ∨
      (startupEnd device next event).isSome = true
  normal : next.opState = .normalOperation → device.emulated = true →
    device.opState = .normalOperation ∨ next.keypad.refreshState.startupComplete = true

/-- The turn in which the event decides on a visit, before it does. -/
structure DecisionTurn (device turn : OperatingDevice) : Prop where
  refreshState : turn.keypad.refreshState = device.keypad.refreshState
  idle : device.keypad.refreshInProgress = false
  emulated : turn.emulated = device.emulated
  normal : device.emulated → device.opState = .normalOperation

/-- What becomes of the decision. -/
structure Decided (device next turn : OperatingDevice) (surroundings : Surroundings) : Prop where
  emulated : next.emulated = device.emulated
  flag : next.keypad.refreshInProgress ↔ turn.BeginsVisit surroundings
  state : next.keypad.refreshState =
    if turn.BeginsVisit surroundings then
      (turn.observed surroundings).notifyScrapeStarted surroundings.notedAt
    else turn.observed surroundings

variable {event : OperatingEvent}

theorem undecided_of_refreshState {notedAt : ℤ}
    (hstate : next.keypad.refreshState = device.keypad.refreshState)
    (hflag : next.keypad.refreshInProgress = device.keypad.refreshInProgress)
    (hemulated : next.emulated = device.emulated)
    (hnormal : next.opState = .normalOperation → device.emulated →
      device.opState = .normalOperation) :
    device.Undecided next event notedAt where
  keeps := by rw [hstate]; exact .refl _ _
  flag h := hflag ▸ h
  emulated := hemulated
  startup h := .inl (hstate ▸ h)
  normal h h' := .inl (hnormal h h')

section

variable (device : OperatingDevice) (message : BusMessage)

theorem emulated_enter : (device.enter message).emulated = device.emulated :=
  congrArg Prod.fst (device.keepsGoal_enter message).setting

theorem refreshState_enter :
    (device.enter message).keypad.refreshState = device.keypad.refreshState := by
  obtain ⟨-, -, hstate⟩ := device.keypad.takeMessage_frame message
  unfold enter skipScraping
  split <;> exact hstate

theorem refreshInProgress_enter :
    (device.enter message).keypad.refreshInProgress = device.keypad.refreshInProgress :=
  (device.keepsGoal_enter message).refreshInProgress

end

theorem normalOperation_of_enter {message : BusMessage}
    (h : (device.enter message).opState = .normalOperation) (hemulated : device.emulated) :
    device.opState = .normalOperation := by
  rcases device.opState_enter message with hsame | ⟨-, hlistens⟩
  · exact hsame ▸ h
  · rw [hlistens] at hemulated
    cases hemulated

theorem serviceActiveGoal_refresh (h : device.serviceActiveGoal model fuel = some turn) :
    turn.keypad.refreshState = device.keypad.refreshState ∧
      turn.keypad.refreshInProgress = device.keypad.refreshInProgress ∧
      turn.emulated = device.emulated ∧ turn.opState = device.opState := by
  rcases serviceActiveGoal_cases h with ⟨-, rfl⟩ | ⟨goal, result, -, -, rfl⟩
  · exact ⟨rfl, rfl, rfl, rfl⟩
  · have hsettled : ∀ (keypad : OneTouchDevice OneTouchGoal),
        (keypad.takeGoalStep result).refreshState = keypad.refreshState ∧
          (keypad.takeGoalStep result).refreshInProgress = keypad.refreshInProgress := by
      intro keypad
      rw [OneTouchDevice.takeGoalStep, OneTouchDevice.refreshState_queueKey,
        OneTouchDevice.refreshInProgress_queueKey]
      unfold OneTouchDevice.settleGoal
      split <;> exact ⟨rfl, rfl⟩
    obtain ⟨hstate, hprogress⟩ := hsettled device.keypad.recordStep
    exact ⟨hstate, hprogress, rfl, rfl⟩

theorem decisionTurn (h : device.decision model fuel event = some (turn, surroundings)) :
    device.DecisionTurn turn := by
  cases event with
  | message message found =>
    rw [decision] at h
    split_ifs at h with hturn
    obtain ⟨serviced, hservice, heq⟩ := Option.map_eq_some_iff.mp h
    cases heq
    obtain ⟨hstate, -, hemulated, -⟩ := serviceActiveGoal_refresh hservice
    exact ⟨hstate.trans (device.refreshState_enter message), hturn.2.2,
      hemulated.trans (device.emulated_enter message), normalOperation_of_enter hturn.2.1⟩
  | _ => cases h

section

variable {message : BusMessage} {surroundings : MessageSurroundings}

theorem startupEnd_of_startsOperation (hdevice : device.opState ≠ .normalOperation)
    (hnext : next.opState = .normalOperation)
    (h : device.AtFault ∨ next.keypad.spiderEngine.state = .complete) :
    (startupEnd device next (.message message surroundings)).isSome := by
  rw [startupEnd, if_neg (by simp [hdevice, hnext])]
  by_cases hfault : device.AtFault
  · rw [if_pos hfault]
    rfl
  · rw [if_neg hfault, if_pos (h.resolve_left hfault)]
    rfl

theorem undecided_of_startUp (hstate : (device.enter message).opState ≠ .normalOperation)
    (hserved : (device.enter message).operate model fuel surroundings (message = .status) =
      some served)
    (hkeypad : next.keypad.refreshState = served.keypad.refreshState ∧
      next.keypad.refreshInProgress = served.keypad.refreshInProgress ∧
      next.keypad.spiderEngine = served.keypad.spiderEngine)
    (hrest : next.emulated = served.emulated ∧ next.opState = served.opState) :
    device.Undecided next (.message message surroundings) surroundings.notedAt := by
  obtain ⟨hrefresh, hprogress, hengine⟩ := hkeypad
  obtain ⟨hemulated, hopState⟩ := hrest
  have henter : (device.enter message).opState = device.opState :=
    (device.opState_enter message).resolve_right fun h => hstate h.1
  have hkeeps : (device.enter message).KeepsGoal served := by
    by_cases hcrawls : (device.enter message).CrawlSteps model
    · exact (isCrawled_operate hcrawls hserved).keepsGoal
    · exact (rests_operate hcrawls hstate hserved).1
  have hflag : next.keypad.refreshInProgress = device.keypad.refreshInProgress :=
    hprogress.trans (hkeeps.refreshInProgress.trans (device.refreshInProgress_enter message))
  have hsame : next.emulated = device.emulated :=
    hemulated.trans ((congrArg Prod.fst hkeeps.setting).trans (device.emulated_enter message))
  rcases startsOperation_operate hstate hserved with ⟨hstays, hserves⟩ | ⟨hnormal, hends, hcause⟩
  · refine undecided_of_refreshState ?_ hflag hsame fun h => ?_
    · exact hrefresh.trans (hserves.trans (device.refreshState_enter message))
    · exact absurd (hopState.symm.trans h) hstays
  · rw [refreshState_enter, ← hrefresh] at hends
    refine ⟨hends.1, fun h => hflag ▸ h, hsame, fun _ => .inr ?_, fun _ _ => .inr hends.2⟩
    refine startupEnd_of_startsOperation (henter ▸ hstate) (hopState.trans hnormal) ?_
    rw [hengine]
    exact hcause.imp_left fun hfault => by rwa [AtFault, henter] at hfault

theorem refreshState_of_normalOperation (hprocessed : message.IsProcessed)
    (hstate : (device.enter message).opState = .normalOperation)
    (hserved : (device.enter message).operate model fuel surroundings (message = .status) =
      some served)
    (hkeypad : next.keypad.refreshState = served.keypad.refreshState ∧
      next.keypad.refreshInProgress = served.keypad.refreshInProgress)
    (hrest : next.emulated = served.emulated) :
    device.decision model fuel (.message message surroundings) = none ∧
        device.Undecided next (.message message surroundings) surroundings.notedAt ∨
      ∃ turn, device.decision model fuel (.message message surroundings) =
          some (turn, surroundings.toSurroundings) ∧
        device.Decided next turn surroundings.toSurroundings := by
  obtain ⟨turn, hturn, hrefresh⟩ := operate_normalOperation hstate hserved
  obtain ⟨hturnState, hturnProgress, hturnEmulated, -⟩ := serviceActiveGoal_refresh hturn
  have hsetting := congrArg Prod.fst (setpointRefreshStep_cases hrefresh).1.setting
  have hemulated : turn.emulated = device.emulated :=
    hturnEmulated.trans (device.emulated_enter message)
  have hnext : next.emulated = device.emulated := hrest.trans (hsetting.trans hemulated)
  have hsame : turn.keypad.refreshState = device.keypad.refreshState :=
    hturnState.trans (device.refreshState_enter message)
  have hprogress : turn.keypad.refreshInProgress = device.keypad.refreshInProgress :=
    hturnProgress.trans (device.refreshInProgress_enter message)
  have hnormal : device.emulated → device.opState = .normalOperation :=
    normalOperation_of_enter hstate
  cases hidle : device.keypad.refreshInProgress with
  | true =>
    refine .inl ⟨if_neg (by simp [hidle]), ?_⟩
    rcases setpointRefreshStep_refreshState hrefresh with
      ⟨-, hgoes⟩ | ⟨hbegins, -⟩ | ⟨hrests, -⟩
    · rw [← hkeypad.1, hsame] at hgoes
      rcases hgoes with hgoes | hends
      · exact ⟨by rw [hgoes]; exact .refl _ _, fun _ => hidle, hnext, fun h => .inl (hgoes ▸ h),
          fun _ h => .inl (hnormal h)⟩
      · refine ⟨?_, fun _ => hidle, hnext, fun h => ?_, fun _ h => .inl (hnormal h)⟩
        · rw [hends]
          exact ⟨rfl, rfl, rfl, id, id, .inr rfl⟩
        · rw [hends] at h
          exact .inl h
    · rw [hprogress.symm.trans hbegins.1] at hidle
      cases hidle
    · rw [hprogress.symm.trans hrests] at hidle
      cases hidle
  | false =>
    have hdecision : device.decision model fuel (.message message surroundings) =
        some (turn, surroundings.toSurroundings) := by
      rw [decision, if_pos ⟨hprocessed, hstate, hidle⟩, hturn]
      rfl
    refine .inr ⟨turn, hdecision, ?_⟩
    rcases setpointRefreshStep_refreshState hrefresh with
      ⟨hon, -⟩ | ⟨hbegins, hflag, hstarts⟩ | ⟨-, hrests, hflag, hobserves⟩
    · rw [hprogress, hidle] at hon
      cases hon
    · refine ⟨hnext, ?_, ?_⟩
      · exact iff_of_true (hkeypad.2.trans hflag) hbegins
      · rw [if_pos hbegins]
        exact hkeypad.1.trans hstarts
    · refine ⟨hnext, ?_, ?_⟩
      · exact iff_of_false (by simp [hkeypad.2, hflag]) hrests
      · rw [if_neg hrests]
        exact hkeypad.1.trans hobserves

theorem message_refreshState (h : device.receive model fuel surroundings message = some next) :
    device.decision model fuel (.message message surroundings) = none ∧
        device.Undecided next (.message message surroundings) surroundings.notedAt ∨
      ∃ turn, device.decision model fuel (.message message surroundings) =
          some (turn, surroundings.toSurroundings) ∧
        device.Decided next turn surroundings.toSurroundings := by
  rcases receive_cases h with
    ⟨hdropped, rfl⟩ | ⟨hprocessed, served, key, ackType, log, hserved, rfl⟩
  · exact .inl ⟨if_neg fun hturn => hdropped hturn.1,
      undecided_of_refreshState rfl rfl rfl fun h _ => h⟩
  · by_cases hstate : (device.enter message).opState = .normalOperation
    · exact refreshState_of_normalOperation hprocessed hstate hserved ⟨rfl, rfl⟩ rfl
    · exact .inl ⟨if_neg fun hturn => hstate hturn.2.1,
        undecided_of_startUp hstate hserved ⟨rfl, rfl, rfl⟩ ⟨rfl, rfl⟩⟩

end

theorem undecided_watchdogTimeout (device : OperatingDevice) (notedAt : ℤ) :
    device.Undecided device.watchdogTimeoutOccurred .watchdogTimeout notedAt := by
  unfold watchdogTimeoutOccurred
  split
  · next hstate =>
      refine ⟨⟨rfl, rfl, rfl, id, fun _ => rfl, .inl rfl⟩, id, rfl, fun _ => .inr ?_,
        fun _ _ => .inr rfl⟩
      simp [startupEnd, AtFault, hstate]
  · exact undecided_of_refreshState rfl rfl rfl nofun
  · exact undecided_of_refreshState rfl rfl rfl nofun
  all_goals exact undecided_of_refreshState rfl rfl rfl fun h _ => h

theorem undecided_request (device : OperatingDevice) (request : DeviceRequest) (notedAt : ℤ) :
    device.Undecided (device.answer request).1 (.request request) notedAt := by
  rcases device.decides_answer request with ⟨result, hanswer⟩ | ⟨-, goal, hanswer⟩
  · have hstays : device.answer request = (device, result) := hanswer device.keypad
    rw [hstays]
    exact undecided_of_refreshState rfl rfl rfl fun h _ => h
  · have hgoal : device.answer request = device.startGoal goal := hanswer device.keypad
    rw [hgoal, startGoal]
    split_ifs
    · exact undecided_of_refreshState rfl rfl rfl fun h _ => h
    · exact undecided_of_refreshState rfl rfl rfl fun h _ => h

theorem attempt_refreshState {notedAt : ℤ}
    (hnoted : ∀ message surroundings, event = .message message surroundings →
      surroundings.notedAt = notedAt)
    (h : device.attempt model fuel event = some next) :
    device.decision model fuel event = none ∧ device.Undecided next event notedAt ∨
      ∃ turn surroundings, device.decision model fuel event = some (turn, surroundings) ∧
        surroundings.notedAt = notedAt ∧ device.Decided next turn surroundings := by
  cases event with
  | message message surroundings =>
    obtain rfl := hnoted message surroundings rfl
    exact (message_refreshState h).imp_right fun ⟨turn, hturn, hdecided⟩ =>
      ⟨turn, surroundings.toSurroundings, hturn, rfl, hdecided⟩
  | watchdogTimeout =>
    cases h
    exact .inl ⟨rfl, device.undecided_watchdogTimeout notedAt⟩
  | configureRefresh interval =>
    cases h
    refine .inl ⟨rfl, ⟨rfl, rfl, rfl, fun _ => of_decide_eq_true, id, .inl rfl⟩, id, rfl, .inl,
      fun h _ => .inl h⟩
  | request request =>
    cases h
    exact .inl ⟨rfl, device.undecided_request request notedAt⟩
  | requestFullRediscovery =>
    cases h
    refine .inl ⟨rfl, ?_⟩
    unfold requestFullRediscovery OneTouchDevice.requestFullRediscovery
    split_ifs <;> exact undecided_of_refreshState rfl rfl rfl fun h _ => h
  | suppressEmulation | hubUpdate | queryDiscovery =>
    cases h
    exact .inl ⟨rfl, undecided_of_refreshState rfl rfl rfl fun h _ => h⟩

end OperatingDevice

/-! ## What an observer notes -/

/-- An event, and how much time goes by until the device decides on it and until it has noted
what comes of it.  The clock is monotonic. -/
structure TimedEvent where
  event : OperatingEvent
  wait : ℕ := 0
  work : ℕ := 0

def TimedEvent.stamped (timed : TimedEvent) (clock : ℤ) : OperatingEvent :=
  match timed.event with
  | .message message surroundings =>
    .message message { surroundings with
      evaluatedAt := clock + timed.wait
      notedAt := clock + timed.wait + timed.work }
  | event => event

structure RefreshWatch where
  device : OperatingDevice
  clock : ℤ
  /-- How the start-up has ended, once it has. -/
  startup : Option OperatingDevice.StartupEnd := none
  /-- The chlorinator when it was last observed. -/
  lastSeen : Option Bool := none
  /-- It has come back since the latest visit started. -/
  edgeSeen : Bool := false
  lastStart : Option ℤ := none

namespace RefreshWatch

open OperatingDevice

variable {model : MenuModel} {fuel : ℕ} {watch next : RefreshWatch} {timed : TimedEvent}
  {turn : OperatingDevice} {surroundings : Surroundings}

/-- The chlorinator has come back, if not before, then by this observation. -/
def edgeBy (watch : RefreshWatch) (surroundings : Surroundings) : Bool :=
  watch.edgeSeen || (decide (watch.lastSeen = some false) && surroundings.chlorinatorOnline)

def note (watch : RefreshWatch) (turn : OperatingDevice) (surroundings : Surroundings) :
    RefreshWatch :=
  { watch with
    lastSeen := some surroundings.chlorinatorOnline
    edgeSeen := watch.edgeBy surroundings && !decide (turn.BeginsVisit surroundings)
    lastStart :=
      if turn.BeginsVisit surroundings then some surroundings.notedAt else watch.lastStart }

def attempt (model : MenuModel) (fuel : ℕ) (watch : RefreshWatch) (timed : TimedEvent) :
    Option RefreshWatch :=
  let event := timed.stamped watch.clock
  (watch.device.attempt model fuel event).map fun device =>
    let noted := match watch.device.decision model fuel event with
      | some (turn, surroundings) => watch.note turn surroundings
      | none => watch
    { noted with
      device := device
      clock := watch.clock + timed.wait + timed.work
      startup := watch.startup <|> startupEnd watch.device device event }

/-- Visits are rationed in the turn: one that starts is allowed, the start-up is over, and it is
an interval away from the latest one unless the chlorinator has come back in between; and once
it has come back, a visit starts as soon as it is allowed. -/
structure RationsTurn (accepted : StartupEnd → Prop) (watch : RefreshWatch) (turn : OperatingDevice)
    (surroundings : Surroundings) : Prop where
  allowed : turn.BeginsVisit surroundings → turn.AllowsVisit
  startup : turn.BeginsVisit surroundings → ∃ ended, watch.startup = some ended ∧ accepted ended
  spaced : turn.BeginsVisit surroundings → ∀ start, watch.lastStart = some start →
    watch.edgeBy surroundings ∨
      start + turn.keypad.refreshState.interval ≤ surroundings.evaluatedAt
  answered : watch.edgeBy surroundings → turn.AllowsVisit → turn.BeginsVisit surroundings

def RationsVisits (accepted : StartupEnd → Prop) (model : MenuModel) (fuel : ℕ)
    (watch : RefreshWatch) (timed : TimedEvent) : Prop :=
  (∀ turn surroundings, watch.device.decision model fuel (timed.stamped watch.clock) =
      some (turn, surroundings) → watch.RationsTurn accepted turn surroundings) ∧
    ∀ device, watch.device.attempt model fuel (timed.stamped watch.clock) = some device →
      (watch.device.keypad.refreshInProgress = false ∧ device.keypad.refreshInProgress = true ↔
        ∃ turn surroundings, watch.device.decision model fuel (timed.stamped watch.clock) =
          some (turn, surroundings) ∧ turn.BeginsVisit surroundings)

structure Tracks (watch : RefreshWatch) : Prop where
  seen : watch.lastSeen =
    if watch.device.keypad.refreshState.onlineInitialised then
      some watch.device.keypad.refreshState.prevOnline
    else none
  pending : watch.edgeSeen = watch.device.keypad.refreshState.recoveryPending
  positive : watch.device.keypad.refreshState.enabled →
    0 < watch.device.keypad.refreshState.interval
  started : ∀ start, watch.lastStart = some start →
    start ≤ watch.clock ∧ start ≤ watch.device.keypad.refreshState.lastScrape
  startup : watch.device.keypad.refreshState.startupComplete →
    watch.startup.isSome
  complete : watch.device.opState = .normalOperation → watch.device.emulated →
    watch.device.keypad.refreshState.startupComplete

theorem tracks_initial (emulated : Bool) (hub : DataHub) (clock : ℤ) :
    Tracks { device := initial emulated hub, clock } where
  seen := rfl
  pending := rfl
  positive h := absurd h Bool.false_ne_true
  started _ h := nomatch h
  startup h := absurd h Bool.false_ne_true
  complete h := nomatch h

theorem Tracks.edgeBy_eq (h : watch.Tracks)
    (hsame : turn.keypad.refreshState = watch.device.keypad.refreshState) :
    watch.edgeBy surroundings = (turn.observed surroundings).recoveryPending := by
  rw [edgeBy, h.pending, h.seen, observed, hsame, ChlorinatorSetpointRefresh.observeOnline]
  cases watch.device.keypad.refreshState.onlineInitialised <;>
    cases watch.device.keypad.refreshState.prevOnline <;> simp

theorem stamped_notedAt {clock : ℤ} {message : BusMessage} {found : MessageSurroundings}
    (h : timed.stamped clock = .message message found) :
    found.notedAt = clock + timed.wait + timed.work := by
  unfold TimedEvent.stamped at h
  split at h
  · obtain ⟨-, rfl⟩ := OperatingEvent.message.inj h
    rfl
  · next hother => exact absurd h (hother message found)

theorem isSome_startup {ended : Option StartupEnd}
    (h : watch.startup.isSome ∨ ended.isSome) :
    (watch.startup <|> ended).isSome := by
  cases hstartup : watch.startup with
  | none => exact h.resolve_left (by simp [hstartup])
  | some startup => rfl

section

variable {device : OperatingDevice} {event : OperatingEvent} (h : watch.Tracks)

include h

theorem Tracks.undecided
    (hundecided : watch.device.Undecided device event (watch.clock + timed.wait + timed.work)) :
    Tracks { watch with
      device := device
      clock := watch.clock + timed.wait + timed.work
      startup := watch.startup <|> startupEnd watch.device device event } where
  seen := by
    change watch.lastSeen = _
    rw [h.seen, hundecided.keeps.onlineInitialised, hundecided.keeps.prevOnline]
  pending := h.pending.trans hundecided.keeps.recoveryPending.symm
  positive := hundecided.keeps.positive h.positive
  started start hstart := by
    obtain ⟨hclock, hscrape⟩ := h.started start hstart
    refine ⟨by dsimp only; omega, ?_⟩
    rcases hundecided.keeps.lastScrape with hsame | hnoted
    · rwa [hsame]
    · rw [hnoted]
      omega
  startup hcomplete := by
    rcases hundecided.startup hcomplete with hbefore | hends
    · exact isSome_startup (.inl (h.startup hbefore))
    · exact isSome_startup (.inr hends)
  complete hnormal hemulated := by
    rcases hundecided.normal hnormal (hundecided.emulated.symm.trans hemulated) with
      hbefore | hcomplete
    · exact hundecided.keeps.complete
        (h.complete hbefore (hundecided.emulated.symm.trans hemulated))
    · exact hcomplete

theorem Tracks.decided (hturn : watch.device.DecisionTurn turn)
    (hnoted : surroundings.notedAt = watch.clock + timed.wait + timed.work)
    (hdecided : watch.device.Decided device turn surroundings) :
    Tracks { watch.note turn surroundings with
      device := device
      clock := watch.clock + timed.wait + timed.work
      startup := watch.startup <|> startupEnd watch.device device event } := by
  have hedge := @Tracks.edgeBy_eq _ _ surroundings h hturn.refreshState
  have hstate := hdecided.state
  have hcomplete : device.keypad.refreshState.startupComplete =
      watch.device.keypad.refreshState.startupComplete := by
    rw [hstate, ← hturn.refreshState]
    split_ifs <;> rfl
  constructor
  case seen =>
    by_cases hbegins : turn.BeginsVisit surroundings
    · rw [hstate, if_pos hbegins]
      rfl
    · rw [hstate, if_neg hbegins]
      rfl
  case pending =>
    rw [hstate, note, hedge]
    split_ifs with hbegins
    · rw [decide_eq_true hbegins, Bool.not_true, Bool.and_false]
      rfl
    · rw [decide_eq_false hbegins, Bool.not_false, Bool.and_true]
  case positive =>
    have hpositive := h.positive
    rw [← hturn.refreshState] at hpositive
    rw [hstate]
    split_ifs <;> exact hpositive
  case started =>
    intro start hstart
    dsimp only [note] at hstart ⊢
    rw [hstate]
    split_ifs at hstart ⊢ with hbegins
    · cases hstart
      exact ⟨hnoted.le, le_rfl⟩
    · obtain ⟨hclock, hscrape⟩ := h.started start hstart
      refine ⟨by omega, ?_⟩
      rwa [← hturn.refreshState] at hscrape
  case startup => exact fun hafter => isSome_startup (.inl (h.startup (hcomplete ▸ hafter)))
  case complete =>
    intro _ hemulated
    have hbefore : watch.device.emulated := hdecided.emulated.symm.trans hemulated
    exact hcomplete.trans (h.complete (hturn.normal hbefore) hbefore)

end

theorem Tracks.attempt (h : watch.Tracks) (hnext : watch.attempt model fuel timed = some next) :
    next.Tracks := by
  obtain ⟨device, hdevice, rfl⟩ := Option.map_eq_some_iff.mp hnext
  rcases attempt_refreshState (fun _ _ hmessage => stamped_notedAt hmessage) hdevice with
    ⟨hnone, hundecided⟩ | ⟨turn, surroundings, hdecision, hnoted, hdecided⟩
  · rw [hnone]
    exact h.undecided hundecided
  · rw [hdecision]
    exact h.decided (decisionTurn hdecision) hnoted hdecided

theorem Tracks.rationsTurn (h : watch.Tracks) (hturn : watch.device.DecisionTurn turn) :
    watch.RationsTurn (fun _ => True) turn surroundings := by
  have hedge := @Tracks.edgeBy_eq _ _ surroundings h hturn.refreshState
  constructor
  case allowed => exact fun hbegins => (beginsVisit_iff.mp hbegins).1
  case startup =>
    intro hbegins
    obtain ⟨-, -, hcomplete, -⟩ := beginsVisit_iff.mp hbegins
    rw [hturn.refreshState] at hcomplete
    obtain ⟨ended, hended⟩ := Option.isSome_iff_exists.mp (h.startup hcomplete)
    exact ⟨ended, hended, trivial⟩
  case spaced =>
    intro hbegins start hstart
    obtain ⟨-, -, -, hpending | hinterval⟩ := beginsVisit_iff.mp hbegins
    · exact .inl (hedge.trans hpending)
    · have hscrape := (h.started start hstart).2
      rw [← hturn.refreshState] at hscrape
      exact .inr (by omega)
  case answered =>
    intro hseen hallows
    have hemulated : turn.emulated := by
      have hactive := hallows.2.1
      rw [emulationActive, Bool.and_eq_true] at hactive
      exact hactive.1
    have hbefore : watch.device.emulated := hturn.emulated.symm.trans hemulated
    have hpositive := h.positive
    rw [← hturn.refreshState] at hpositive
    have hcomplete := h.complete (hturn.normal hbefore) hbefore
    rw [← hturn.refreshState] at hcomplete
    exact beginsVisit_iff.mpr
      ⟨hallows, hpositive hallows.1, hcomplete, .inl (hedge.symm.trans hseen)⟩

theorem Tracks.rationsVisits (h : watch.Tracks) (timed : TimedEvent) :
    watch.RationsVisits (fun _ => True) model fuel timed := by
  constructor
  · exact fun turn surroundings hdecision => h.rationsTurn (decisionTurn hdecision)
  · intro device hdevice
    rcases attempt_refreshState (fun _ _ hmessage => stamped_notedAt hmessage) hdevice with
      ⟨hnone, hundecided⟩ | ⟨turn, surroundings, hdecision, -, hdecided⟩
    · rw [hnone]
      refine iff_of_false ?_ fun ⟨_, _, hturn, _⟩ => nomatch hturn
      rintro ⟨hidle, hon⟩
      rw [hundecided.flag hon] at hidle
      cases hidle
    · rw [hdecision]
      constructor
      · rintro ⟨-, hon⟩
        exact ⟨turn, surroundings, rfl, hdecided.flag.mp hon⟩
      · rintro ⟨turn', surroundings', heq, hbegins⟩
        cases Option.some_inj.mp heq
        exact ⟨(decisionTurn hdecision).idle, hdecided.flag.mpr hbegins⟩

/-- Over every run: a visit starts only while visits are switched on and the device transmits,
after the start-up and with nobody at work on the keypad; two visits are an interval apart unless
the chlorinator has come back after the first one started; and when it comes back, even while
visits are held off, one visit starts as soon as it is allowed. -/
theorem visits_rationed (model : MenuModel) (fuel : ℕ) (emulated : Bool) (hub : DataHub)
    (clock : ℤ) (events : List TimedEvent) :
    EachStepTried (attempt model fuel) (RationsVisits (fun _ => True) model fuel)
      { device := initial emulated hub, clock } events :=
  eachStepTried_of_invariant (fun _ _ _ hnext h => Tracks.attempt h hnext)
    (fun _ timed h => Tracks.rationsVisits h timed) (tracks_initial emulated hub clock)

/-- The device recovers from a fault before it has crawled. -/
def recoversFromFault : List TimedEvent :=
  [{ event := .configureRefresh 300 }, { event := .watchdogTimeout },
    { event := .message (.messageLong 0 "Set Temp".toList) {} },
    { event := .message .status {} }, { event := .message .status {} },
    { event := .message .status {} }]

/-- After a recovery from a fault, a visit starts without any crawl of the start-up. -/
theorem not_rationed_after_crawl :
    ¬ EachStepTried (attempt setTemperatureModel 9)
      (RationsVisits (fun ended => ended ≠ .faultRecovered) setTemperatureModel 9)
      { device := initial true {}, clock := 1000 }
      (recoversFromFault ++ [{ event := .message .status {} }]) := by
  intro hruns
  have hrun : (recoversFromFault.foldlM (attempt setTemperatureModel 9)
      { device := initial true {}, clock := 1000 }).bind (fun watch =>
        (watch.device.decision setTemperatureModel 9
          ((TimedEvent.mk (.message .status {}) 0 0).stamped watch.clock)).map
            fun (turn, surroundings) => (decide (turn.BeginsVisit surroundings), watch.startup)) =
      some (true, some .faultRecovered) := by decide +kernel
  obtain ⟨watch, hwatch, hturn⟩ := Option.bind_eq_some_iff.mp hrun
  obtain ⟨⟨turn, surroundings⟩, hdecision, heq⟩ := Option.map_eq_some_iff.mp hturn
  obtain ⟨hbegins, hstartup⟩ := Prod.mk.inj heq
  have hrations := (hruns.last hwatch).1 turn surroundings hdecision
  obtain ⟨ended, hended, hover⟩ := hrations.startup (of_decide_eq_true hbegins)
  exact hover (Option.some_inj.mp (hended.symm.trans hstartup))

end RefreshWatch

end AqualinkAutomate.OneTouch
