import Aqualink.OneTouch.KeyDelivery
import Aqualink.OneTouch.OperatingStates

/-!
# Who does what on the keypad

A message finds the device in an operating state, and what the state has to do for the keypad
is done by one party or by two: the crawl, or the goal and after it the refresh.  This file
says what each of them leaves in the account of the message and in the device.
-/

namespace AqualinkAutomate.OneTouch

open General Navigation List

/-! ## What is recorded -/

/-- The records of a key that a step may have emitted. -/
def emitEvents (key : Option NavKeyCommand) : List KeypadEvent :=
  key.toList.map fun key => .emit (convertNavKeyCommand key)

def endEvents (status : GoalStatus) : List KeypadEvent :=
  if status = .running then [] else [.goalEnded status]

namespace OneTouchDevice

variable {γ : Type*} {device device' : OneTouchDevice γ} {model : MenuModel} {fuel : ℕ}
  {surroundings : Surroundings}

theorem log_queueKey (device : OneTouchDevice γ) (key : Option NavKeyCommand) :
    (device.queueKey key).log = device.log ++ emitEvents key := by
  cases key with
  | none => exact (append_nil _).symm
  | some key => rfl

theorem log_takeGoalStep (device : OneTouchDevice γ) (result : GoalStep γ) :
    (device.takeGoalStep result).log =
      device.log ++ (endEvents result.status ++ emitEvents result.context.emittedKey) := by
  rw [takeGoalStep, log_queueKey, ← append_assoc]
  cases hstatus : result.status with
  | running => exact congrArg (· ++ _) (append_nil _).symm
  | done | failed => rfl

theorem log_stepCrawl {key : Option NavKeyCommand}
    (h : device.stepCrawl model fuel = some (device', key)) :
    device'.log = device.log ++ [.step device.keyCommandToSend] := by
  obtain ⟨engine, rfl⟩ := stepCrawl_eq_some h
  rfl

theorem log_setpointRefreshStep
    (h : device.setpointRefreshStep model fuel surroundings = some device') :
    if device.RefreshSteps surroundings then
      ∃ key, device'.log = device.log ++ (.step device.keyCommandToSend :: emitEvents key)
    else device'.log = device.log := by
  have hkeypad := keypad_setpointRefreshStep h
  split at hkeypad
  next hsteps =>
    obtain ⟨key, hkeypad⟩ := hkeypad
    rw [if_pos hsteps]
    refine ⟨key, ?_⟩
    calc device'.log
      _ = (device.recordStep.queueKey key).log := (Prod.mk.inj hkeypad).1
      _ = device.log ++ [.step device.keyCommandToSend] ++ emitEvents key := log_queueKey _ key
      _ = _ := append_assoc _ _ _
  next hrests =>
    rw [if_neg hrests]
    exact (Prod.mk.inj hkeypad).1

end OneTouchDevice

namespace OperatingDevice

variable {device served next : OperatingDevice} {model : MenuModel} {fuel : ℕ}
variable {keypad : OneTouchDevice OneTouchGoal}

theorem account_work {owner : KeypadOwner} {events : List KeypadEvent}
    (h : keypad.log = device.keypad.log ++ events) :
    (device.work owner keypad).account = device.account ++ events.map (Tagged.mk owner) := by
  rw [work, h, drop_left]

/-- The owners that took a step, one after the other. -/
def steppers (device : OperatingDevice) : List KeypadOwner :=
  device.account.filterMap fun entry =>
    match entry.item with
    | .step _ => some entry.tag
    | _ => none

def endedGoals (device : OperatingDevice) : List GoalStatus :=
  (itemsOf .activeGoal device.account).filterMap KeypadEvent.outcome

theorem mem_steppers {owner : KeypadOwner} :
    owner ∈ device.steppers ↔ ∃ key, ⟨owner, .step key⟩ ∈ device.account := by
  simp only [steppers, mem_filterMap]
  constructor
  · rintro ⟨⟨tag, item⟩, hentry, htag⟩
    cases item with
    | step key =>
      obtain rfl : tag = owner := Option.some_inj.mp htag
      exact ⟨key, hentry⟩
    | emit | acknowledge | goalEnded => cases htag
  · rintro ⟨key, hentry⟩
    exact ⟨_, hentry, rfl⟩

/-! ## The crawl -/

def CrawlSteps (model : MenuModel) (device : OperatingDevice) : Prop :=
  match device.opState with
  | .coldStart =>
    model.detectPage device.keypad.displayedPage ≠ .startUp ∧
      model.detectPage device.keypad.displayedPage ≠ .unknown
  | .startUp | .scraping => True
  | .normalOperation | .scrapingFaulted | .faultHasOccurred => False

instance (model : MenuModel) (device : OperatingDevice) : Decidable (device.CrawlSteps model) := by
  unfold CrawlSteps
  cases device.opState <;> infer_instance

/-- What a message does not change. -/
def setting (device : OperatingDevice) : Bool × Bool × DataHub :=
  (device.emulated, device.suppressed, device.hub)

/-- What the crawl and the fault recovery leave as it is. -/
structure KeepsGoal (device served : OperatingDevice) : Prop where
  activeGoal : served.keypad.activeGoal = device.keypad.activeGoal
  refreshInProgress : served.keypad.refreshInProgress = device.keypad.refreshInProgress
  setting : served.setting = device.setting

theorem KeepsGoal.refl (device : OperatingDevice) : device.KeepsGoal device :=
  ⟨rfl, rfl, rfl⟩

theorem KeepsGoal.trans (h : device.KeepsGoal served) (h' : served.KeepsGoal next) :
    device.KeepsGoal next :=
  ⟨h'.activeGoal.trans h.activeGoal, h'.refreshInProgress.trans h.refreshInProgress,
    h'.setting.trans h.setting⟩

section

variable (device : OperatingDevice) (surroundings : Surroundings) (key : Option NavKeyCommand)

theorem keepsGoal_settleScraping :
    device.KeepsGoal (device.settleScraping model surroundings key) := by
  unfold settleScraping
  split
  · exact ⟨rfl, rfl, rfl⟩
  · exact ⟨rfl, rfl, rfl⟩
  · exact ⟨OneTouchDevice.activeGoal_queueKey key, OneTouchDevice.refreshInProgress_queueKey key,
      rfl⟩

theorem account_settleScraping :
    ∃ emitted, (device.settleScraping model surroundings key).account =
      device.account ++ (emitEvents emitted).map (Tagged.mk .crawl) := by
  unfold settleScraping
  split
  · exact ⟨none, (append_nil _).symm⟩
  · exact ⟨none, (append_nil _).symm⟩
  · exact ⟨key, account_work (OneTouchDevice.log_queueKey _ key)⟩

end

theorem keepsGoal_work_stepCrawl {key : Option NavKeyCommand}
    (h : device.keypad.stepCrawl model fuel = some (keypad, key)) :
    device.KeepsGoal (device.work .crawl keypad) := by
  obtain ⟨engine, rfl⟩ := OneTouchDevice.stepCrawl_eq_some h
  exact ⟨rfl, rfl, rfl⟩

structure IsCrawled (device served : OperatingDevice) : Prop where
  keepsGoal : device.KeepsGoal served
  account : ∃ key emitted, served.account =
    device.account ++ (.step key :: emitEvents emitted).map (Tagged.mk .crawl)

theorem isCrawled_scrapingStep {surroundings : Surroundings}
    (h : device.scrapingStep model fuel surroundings = some served) : device.IsCrawled served := by
  obtain ⟨⟨keypad, key⟩, hcrawl, rfl⟩ := Option.map_eq_some_iff.mp h
  have haccount : (device.work .crawl keypad).account =
      device.account ++ [.step device.keypad.keyCommandToSend].map (Tagged.mk .crawl) :=
    account_work (OneTouchDevice.log_stepCrawl hcrawl)
  have hsettled : ∃ emitted,
      ((device.work .crawl keypad).settleScraping model surroundings key).account =
        (device.work .crawl keypad).account ++ (emitEvents emitted).map (Tagged.mk .crawl) :=
    account_settleScraping _ surroundings key
  obtain ⟨emitted, hemitted⟩ := hsettled
  refine ⟨(keepsGoal_work_stepCrawl hcrawl).trans (keepsGoal_settleScraping _ surroundings key),
    device.keypad.keyCommandToSend, emitted, ?_⟩
  rw [hemitted, haccount, append_assoc, ← map_append]
  rfl

theorem isCrawled_startUpStep {surroundings : MessageSurroundings}
    (h : device.startUpStep model fuel surroundings = some served) : device.IsCrawled served := by
  obtain ⟨⟨hgoal, hrefresh, hsetting⟩, haccount⟩ := isCrawled_scrapingStep h
  exact ⟨⟨hgoal, hrefresh, hsetting⟩, haccount⟩

theorem keepsGoal_attemptFaultRecovery (device : OperatingDevice) (toStatus : Bool) :
    device.KeepsGoal (device.attemptFaultRecovery model toStatus) := by
  unfold attemptFaultRecovery
  split_ifs <;> exact ⟨rfl, rfl, rfl⟩

theorem account_attemptFaultRecovery (device : OperatingDevice) (toStatus : Bool) :
    (device.attemptFaultRecovery model toStatus).account = device.account := by
  unfold attemptFaultRecovery
  split_ifs <;> rfl

/-! ## The work of an operating state -/

variable {surroundings : MessageSurroundings} {toStatus : Bool}

theorem isCrawled_operate (hcrawls : device.CrawlSteps model)
    (h : device.operate model fuel surroundings toStatus = some served) :
    device.IsCrawled served := by
  unfold CrawlSteps at hcrawls
  unfold operate at h
  cases hstate : device.opState <;> rw [hstate] at hcrawls h
  case coldStart =>
    dsimp only at h
    rw [if_neg (by simp [hcrawls])] at h
    exact isCrawled_startUpStep h
  case startUp => exact isCrawled_startUpStep h
  case scraping => exact isCrawled_scrapingStep h
  case normalOperation | scrapingFaulted | faultHasOccurred => exact hcrawls.elim

theorem rests_operate (hcrawls : ¬ device.CrawlSteps model)
    (hstate : device.opState ≠ .normalOperation)
    (h : device.operate model fuel surroundings toStatus = some served) :
    device.KeepsGoal served ∧ served.account = device.account := by
  unfold CrawlSteps at hcrawls
  unfold operate at h
  cases hopState : device.opState <;> rw [hopState] at hcrawls h
  case coldStart =>
    dsimp only at h
    rw [if_pos (by simp only at hcrawls; tauto)] at h
    cases h
    exact ⟨.refl device, rfl⟩
  case startUp | scraping => exact absurd trivial hcrawls
  case normalOperation => exact absurd hopState hstate
  case scrapingFaulted | faultHasOccurred =>
    cases h
    exact ⟨keepsGoal_attemptFaultRecovery device toStatus,
      account_attemptFaultRecovery device toStatus⟩

/-! ## Normal operation -/

theorem serviceActiveGoal_cases (h : device.serviceActiveGoal model fuel = some served) :
    device.keypad.activeGoal = none ∧ served = device ∨
      ∃ goal result, device.keypad.activeGoal = some goal ∧
        goal.step model fuel device.keypad.keypadContext = some result ∧
        served = device.work .activeGoal (device.keypad.recordStep.takeGoalStep result) := by
  obtain ⟨keypad, hservice, rfl⟩ := Option.map_eq_some_iff.mp h
  rcases OneTouchDevice.serviceActiveGoal_cases hservice with
    ⟨hnone, rfl⟩ | ⟨goal, result, hgoal, hresult, rfl⟩
  · refine .inl ⟨hnone, ?_⟩
    rw [work, drop_length, map_nil, append_nil]
  · exact .inr ⟨goal, result, hgoal, hresult, rfl⟩

theorem account_work_takeGoalStep (device : OperatingDevice) (result : GoalStep OneTouchGoal) :
    (device.work .activeGoal (device.keypad.recordStep.takeGoalStep result)).account =
      device.account ++ (.step device.keypad.keyCommandToSend ::
        (endEvents result.status ++ emitEvents result.context.emittedKey)).map
          (Tagged.mk .activeGoal) := by
  refine account_work ?_
  rw [OneTouchDevice.log_takeGoalStep, OneTouchDevice.recordStep, OneTouchDevice.record,
    append_assoc]
  rfl

structure IsRefreshed (device served : OperatingDevice) : Prop where
  activeGoal : served.keypad.activeGoal = device.keypad.activeGoal
  opState : served.opState = device.opState
  setting : served.setting = device.setting

theorem setpointRefreshStep_cases {surroundings : Surroundings}
    (h : device.setpointRefreshStep model fuel surroundings = some served) :
    device.IsRefreshed served ∧
      (served.account = device.account ∨ device.keypad.RefreshSteps surroundings ∧
        ∃ key emitted, served.account = device.account ++
          (.step key :: emitEvents emitted).map (Tagged.mk .setpointRefresh)) := by
  rw [setpointRefreshStep] at h
  split at h
  · obtain ⟨keypad, hrefresh, rfl⟩ := Option.map_eq_some_iff.mp h
    have hactive := OneTouchDevice.activeGoal_setpointRefreshStep hrefresh
    have hlog := OneTouchDevice.log_setpointRefreshStep hrefresh
    refine ⟨⟨hactive, rfl, rfl⟩, ?_⟩
    split at hlog
    · next hsteps =>
        obtain ⟨key, hlog⟩ := hlog
        exact .inr ⟨hsteps, _, key, account_work hlog⟩
    · have hnothing : keypad.log = device.keypad.log ++ [] := by rw [hlog, append_nil]
      exact .inl ((account_work hnothing).trans (append_nil _))
  · cases h
    exact ⟨⟨rfl, rfl, rfl⟩, .inl rfl⟩

theorem exclusive_setpointRefreshStep {surroundings : Surroundings}
    (hexclusive : device.keypad.Exclusive)
    (h : device.setpointRefreshStep model fuel surroundings = some served) :
    served.keypad.Exclusive := by
  rw [setpointRefreshStep] at h
  split at h
  · obtain ⟨keypad, hrefresh, rfl⟩ := Option.map_eq_some_iff.mp h
    exact hexclusive.setpointRefreshStep hrefresh
  · cases h
    exact hexclusive

theorem operate_normalOperation (hstate : device.opState = .normalOperation)
    (h : device.operate model fuel surroundings toStatus = some served) :
    ∃ serviced, device.serviceActiveGoal model fuel = some serviced ∧
      serviced.setpointRefreshStep model fuel surroundings.toSurroundings = some served := by
  rw [operate, hstate] at h
  exact Option.bind_eq_some_iff.mp h

theorem ne_crawl_of_mem_account (hempty : device.account = [])
    (hstate : device.opState = .normalOperation)
    (h : device.operate model fuel surroundings toStatus = some served)
    {entry : Tagged KeypadOwner KeypadEvent} (hentry : entry ∈ served.account) :
    entry.tag ≠ .crawl := by
  have htag : ∀ {owner : KeypadOwner} {events : List KeypadEvent}, owner ≠ .crawl →
      entry ∈ events.map (Tagged.mk owner) → entry.tag ≠ .crawl := by
    intro owner events howner hmem
    obtain ⟨event, -, rfl⟩ := List.mem_map.mp hmem
    exact howner
  obtain ⟨serviced, hservice, hrefresh⟩ := operate_normalOperation hstate h
  have hserviced : entry ∈ serviced.account → entry.tag ≠ .crawl := by
    intro hmem
    rcases serviceActiveGoal_cases hservice with ⟨-, rfl⟩ | ⟨goal, result, -, -, rfl⟩
    · rw [hempty] at hmem
      cases hmem
    · rw [account_work_takeGoalStep, hempty, nil_append] at hmem
      exact htag (by decide) hmem
  rcases (setpointRefreshStep_cases hrefresh).2 with hsame | ⟨-, key, emitted, hadds⟩
  · exact hserviced (hsame ▸ hentry)
  · rw [hadds, mem_append] at hentry
    exact hentry.elim hserviced (htag (by decide))

theorem setting_operate (h : device.operate model fuel surroundings toStatus = some served) :
    served.setting = device.setting := by
  by_cases hstate : device.opState = .normalOperation
  · obtain ⟨serviced, hservice, hrefresh⟩ := operate_normalOperation hstate h
    have hserviced : serviced.setting = device.setting := by
      rcases serviceActiveGoal_cases hservice with ⟨-, rfl⟩ | ⟨goal, result, -, -, rfl⟩ <;> rfl
    exact (setpointRefreshStep_cases hrefresh).1.setting.trans hserviced
  · by_cases hcrawls : device.CrawlSteps model
    · exact (isCrawled_operate hcrawls h).keepsGoal.setting
    · exact (rests_operate hcrawls hstate h).1.setting

/-! ## The message -/

/-- What a message finds when the keypad is worked on. -/
def enter (device : OperatingDevice) (message : BusMessage) : OperatingDevice :=
  (device.takeMessage message).skipScraping

theorem acknowledge_eq (device : OperatingDevice) (toStatus : Bool) :
    ∃ key log, device.acknowledge toStatus =
      { device with keypad := { device.keypad with keyCommandToSend := key, log := log } } := by
  unfold acknowledge
  split
  · unfold OneTouchDevice.acknowledge
    split
    · exact ⟨_, _, rfl⟩
    · exact ⟨device.keypad.keyCommandToSend, _, rfl⟩
  · split
    · exact ⟨_, device.keypad.log, rfl⟩
    · exact ⟨device.keypad.keyCommandToSend, device.keypad.log, rfl⟩

theorem receive_cases {message : BusMessage}
    (h : device.receive model fuel surroundings message = some next) :
    ¬ message.IsProcessed ∧ next = { device with account := [] } ∨
      message.IsProcessed ∧ ∃ served key ackType log,
        (device.enter message).operate model fuel surroundings (message = .status) = some served ∧
          next = { served with keypad := { served.keypad with
            keyCommandToSend := key
            ackTypeToSend := ackType
            log := log } } := by
  have hanswer : ∀ {toStatus}, (device.takeMessage message).processControllerUpdates model fuel
      surroundings toStatus = some next → toStatus = decide (message = .status) →
      ∃ served key ackType log,
        (device.enter message).operate model fuel surroundings (message = .status) = some served ∧
          next = { served with keypad := { served.keypad with
            keyCommandToSend := key
            ackTypeToSend := ackType
            log := log } } := by
    rintro toStatus h rfl
    obtain ⟨served, hserved, rfl⟩ := Option.map_eq_some_iff.mp h
    obtain ⟨key, log, hacknowledge⟩ := served.acknowledge_eq (decide (message = .status))
    exact ⟨served, key, served.keypad.ackTypeToSend, log, hserved, hacknowledge⟩
  cases message with
  | messageLong line text =>
    rw [receive] at h
    split at h
    next houtside =>
      exact .inl ⟨UInt8.not_lt.mpr houtside, (Option.some_inj.mp h).symm⟩
    next hinside => exact .inr ⟨UInt8.not_le.mp hinside, hanswer h rfl⟩
  | status =>
    obtain ⟨processed, hprocess, rfl⟩ := Option.map_eq_some_iff.mp h
    obtain ⟨served, hserved, rfl⟩ := Option.map_eq_some_iff.mp hprocess
    obtain ⟨key, log, hacknowledge⟩ := served.acknowledge_eq true
    refine .inr ⟨trivial, served, key, ?_⟩
    rcases (served.acknowledge true).keypad.afterStatus_cases with hafter | hafter
    · refine ⟨served.keypad.ackTypeToSend, log, hserved, ?_⟩
      rw [afterStatus, hafter, hacknowledge]
    · refine ⟨.v2Normal, log, hserved, ?_⟩
      rw [afterStatus, hafter, hacknowledge]
  | probe | clear | highlight | highlightChars | shiftLines | displayUpdate | unknown =>
    exact .inr ⟨trivial, hanswer h rfl⟩

section

variable (device : OperatingDevice) (message : BusMessage)

theorem account_enter : (device.enter message).account = [] := by
  unfold enter skipScraping
  split <;> rfl

theorem keepsGoal_enter : device.KeepsGoal (device.enter message) := by
  obtain ⟨hgoal, hrefresh, -⟩ := device.keypad.takeMessage_frame message
  unfold enter skipScraping
  split <;> exact ⟨hgoal, hrefresh, rfl⟩

theorem opState_enter :
    (device.enter message).opState = device.opState ∨
      (device.enter message).opState = .normalOperation ∧ device.emulated = false := by
  unfold enter skipScraping
  split
  · next hlistens => exact .inr ⟨rfl, hlistens.1⟩
  · exact .inl rfl

end

end OperatingDevice

end AqualinkAutomate.OneTouch
