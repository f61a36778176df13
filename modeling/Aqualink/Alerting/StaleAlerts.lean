import Aqualink.Alerting.AlertMonitor

/-!
# Alerts that outlive their settings

The thresholds are read anew in each evaluation, but two evaluations leave early and keep the latch
as it is: the one of the salt level if the check is disabled or there is no sample, and the one of
the traffic if the silence is shorter than the timeout.  A latch that was right under the settings
before may then be wrong under the present ones.

By `alerts_reflect_iff` the alerts reflect the readings and the settings after each evaluation of a
run exactly if every evaluation that leaves early finds a latch that is right (`SaltSettled`,
`CommsSettled`).
-/

namespace AqualinkAutomate.Alerting

open General Function List

def Evaluator.key : Evaluator → String
  | .saltLow => ConditionKeys.saltLow
  | .chlorinatorWarning => ConditionKeys.chlorinatorWarning
  | .chlorinatorFault => ConditionKeys.chlorinatorFault
  | .serviceMode => ConditionKeys.serviceMode
  | .serialCommsLoss => ConditionKeys.serialCommsLoss
  | .temperatureStale => ConditionKeys.temperatureStale

namespace AlertMonitor

/-! ## What an evaluation leaves alone -/

/-- The settings and what is known of the traffic are the same. -/
structure SameBaseline (monitor monitor' : AlertMonitor) : Prop where
  settings : monitor'.settings = monitor.settings
  count : monitor'.lastMessageCount = monitor.lastMessageCount
  changeTs : monitor'.lastMessageChangeTs = monitor.lastMessageChangeTs
  baseline : monitor'.haveCommsBaseline = monitor.haveCommsBaseline

section

variable {monitor monitor' monitor'' : AlertMonitor} {hubs : HubReadings} {clock : ℕ → ℤ}
variable {update : ConditionUpdate} {evaluator : Evaluator}

theorem SameBaseline.refl (monitor : AlertMonitor) : SameBaseline monitor monitor :=
  ⟨rfl, rfl, rfl, rfl⟩

theorem SameBaseline.trans (h : SameBaseline monitor monitor')
    (h' : SameBaseline monitor' monitor'') : SameBaseline monitor monitor'' :=
  ⟨h'.settings.trans h.settings, h'.count.trans h.count, h'.changeTs.trans h.changeTs,
    h'.baseline.trans h.baseline⟩

theorem setCondition_sameBaseline : SameBaseline monitor (monitor.setCondition clock update).1 := by
  unfold setCondition
  split
  · exact .refl _
  · exact ⟨rfl, rfl, rfl, rfl⟩

theorem setCondition_latched :
    (monitor.setCondition clock update).1.latched =
      Function.update monitor.latched update.key update.raised := by
  unfold setCondition
  split
  case isTrue hsame => rw [← hsame, update_eq_self]
  case isFalse => rfl

def conditionUpdate (monitor : AlertMonitor) (hubs : HubReadings) :
    Evaluator → Option ConditionUpdate
  | .saltLow => monitor.evaluateSaltLow hubs
  | .chlorinatorWarning => evaluateChlorinatorWarning hubs
  | .chlorinatorFault => evaluateChlorinatorFault hubs
  | .serviceMode => evaluateServiceMode hubs
  | .serialCommsLoss => (monitor.evaluateSerialCommsLoss hubs).2
  | .temperatureStale => evaluateTemperatureStale hubs

theorem evaluateChlorinator_key {key text : String} {label : ChlorinatorHealth → Option String} :
    ∀ update ∈ evaluateChlorinator hubs key text label, update.key = key := by
  unfold evaluateChlorinator
  split
  · simp
  · split
    · simp
    · dsimp only
      split <;> simp

theorem conditionUpdate_key :
    ∀ update ∈ monitor.conditionUpdate hubs evaluator, update.key = evaluator.key := by
  cases evaluator with
  | chlorinatorWarning => exact evaluateChlorinator_key
  | chlorinatorFault => exact evaluateChlorinator_key
  | saltLow | serviceMode | serialCommsLoss | temperatureStale =>
    simp only [conditionUpdate, evaluateSaltLow, evaluateServiceMode, evaluateSerialCommsLoss,
      evaluateTemperatureStale, Evaluator.key]
    split
    · simp
    · split_ifs <;> simp

theorem evaluate_eq (h : evaluator ≠ .serialCommsLoss) :
    (monitor.evaluate hubs evaluator).1 =
      match monitor.conditionUpdate hubs evaluator with
      | none => monitor
      | some update => (monitor.setCondition hubs.clock update).1 := by
  cases hupdate : monitor.conditionUpdate hubs evaluator with
  | none => cases evaluator <;> simp_all [conditionUpdate, evaluate]
  | some update => cases evaluator <;> simp_all [conditionUpdate, evaluate]

theorem evaluate_frame (h : evaluator ≠ .serialCommsLoss) :
    SameBaseline monitor (monitor.evaluate hubs evaluator).1 ∧
      ∀ key, key ≠ evaluator.key →
        (monitor.evaluate hubs evaluator).1.latched key = monitor.latched key := by
  rw [evaluate_eq h]
  split
  case h_1 => exact ⟨.refl _, fun _ _ => rfl⟩
  case h_2 update hupdate =>
    refine ⟨setCondition_sameBaseline, fun key hkey => ?_⟩
    rw [setCondition_latched, conditionUpdate_key update hupdate, update_of_ne hkey]

def evaluateEach (hubs : HubReadings) (evaluators : List Evaluator) (monitor : AlertMonitor) :
    AlertMonitor :=
  evaluators.foldl (fun monitor evaluator => (monitor.evaluate hubs evaluator).1) monitor

theorem evaluateEach_frame {evaluators : List Evaluator} (h : .serialCommsLoss ∉ evaluators) :
    SameBaseline monitor (monitor.evaluateEach hubs evaluators) ∧
      ∀ key, (∀ evaluator ∈ evaluators, key ≠ evaluator.key) →
        (monitor.evaluateEach hubs evaluators).latched key = monitor.latched key := by
  induction evaluators generalizing monitor with
  | nil => exact ⟨.refl _, fun _ _ => rfl⟩
  | cons evaluator evaluators ih =>
    obtain ⟨hne, hrest⟩ := ne_and_not_mem_of_not_mem_cons h
    have hfirst := @evaluate_frame monitor hubs evaluator hne.symm
    obtain ⟨hbaseline, hlatched⟩ := @ih (monitor.evaluate hubs evaluator).1 hrest
    refine ⟨hfirst.1.trans hbaseline, fun key hkey => ?_⟩
    exact (hlatched key fun later hlater => hkey later (mem_cons_of_mem _ hlater)).trans
      (hfirst.2 key (hkey evaluator mem_cons_self))

end

/-! ## The two evaluations that leave early -/

def saltThreshold (monitor : AlertMonitor) (hubs : HubReadings) : ℕ :=
  (monitor.preferences hubs).saltLowPpm

def commsTimeout (monitor : AlertMonitor) (hubs : HubReadings) : ℕ :=
  (monitor.preferences hubs).commsTimeoutSeconds

end AlertMonitor

def HubReadings.salt (hubs : HubReadings) : Option ℤ :=
  hubs.dataHub.bind fun data => if 0 < data.saltLevel then some data.saltLevel else none

namespace AlertMonitor

section

variable {monitor : AlertMonitor} {hubs : HubReadings}

theorem preferences_of_sameBaseline {monitor' : AlertMonitor} (h : SameBaseline monitor monitor') :
    monitor'.preferences hubs = monitor.preferences hubs := by
  rw [preferences, preferences, h.settings]

theorem evaluate_saltLow_of_sample {salt : ℤ} (hsalt : hubs.salt = some salt)
    (hthreshold : monitor.saltThreshold hubs ≠ 0) :
    (monitor.evaluate hubs .saltLow).1.isRaised ConditionKeys.saltLow =
      if monitor.isRaised ConditionKeys.saltLow
      then decide (salt < monitor.saltThreshold hubs + 100)
      else decide (salt < monitor.saltThreshold hubs) := by
  obtain ⟨data, hdata, hpos⟩ := Option.bind_eq_some_iff.mp hsalt
  obtain ⟨hlevel, rfl⟩ : 0 < data.saltLevel ∧ data.saltLevel = salt := by simpa using hpos
  have hgo : ¬ ((monitor.preferences hubs).saltLowPpm = 0 ∨ data.saltLevel ≤ 0) := by
    rintro (hzero | hle)
    · exact hthreshold hzero
    · omega
  rw [evaluate_eq (by decide), conditionUpdate, evaluateSaltLow]
  simp only [hdata, if_neg hgo, saltThreshold]
  cases hraised : monitor.isRaised ConditionKeys.saltLow with
  | false =>
    by_cases hlow : data.saltLevel < ((monitor.preferences hubs).saltLowPpm : ℤ)
    · simp [hlow, isRaised, setCondition_latched]
    · simp [hlow, hraised]
  | true =>
    by_cases hhigh : ((monitor.preferences hubs).saltLowPpm : ℤ) + 100 ≤ data.saltLevel
    · simp [hhigh, isRaised, setCondition_latched, Int.not_lt.mpr hhigh]
    · simp [hhigh, hraised, Int.not_le.mp hhigh]

theorem evaluate_saltLow_early (h : hubs.salt = none ∨ monitor.saltThreshold hubs = 0) :
    (monitor.evaluate hubs .saltLow).1 = monitor := by
  rw [evaluate_eq (by decide), conditionUpdate, evaluateSaltLow]
  cases hdata : hubs.dataHub with
  | none => rfl
  | some data =>
    have hskip : (monitor.preferences hubs).saltLowPpm = 0 ∨ data.saltLevel ≤ 0 := by
      refine h.symm.imp id fun hnone => ?_
      by_contra hpos
      simp [HubReadings.salt, hdata, Int.not_le.mp hpos] at hnone
    simp only [if_pos hskip]

structure CommsEvaluated (monitor after : AlertMonitor) (count : ℕ) (changeTs : ℤ)
    (raised : Bool) : Prop where
  settings : after.settings = monitor.settings
  baseline : after.haveCommsBaseline
  count : after.lastMessageCount = count
  changeTs : after.lastMessageChangeTs = changeTs
  raised : after.isRaised ConditionKeys.serialCommsLoss = raised
  others : ∀ key, key ≠ ConditionKeys.serialCommsLoss → after.latched key = monitor.latched key

theorem commsEvaluated_setCondition {before : AlertMonitor} {update : ConditionUpdate}
    (hkey : update.key = ConditionKeys.serialCommsLoss)
    (hbaseline : before.haveCommsBaseline) (hsettings : before.settings = monitor.settings)
    (hlatched : before.latched = monitor.latched) :
    CommsEvaluated monitor (before.setCondition hubs.clock update).1 before.lastMessageCount
      before.lastMessageChangeTs update.raised := by
  have hsame := @setCondition_sameBaseline before hubs.clock update
  refine ⟨hsame.settings.trans hsettings, hsame.baseline.trans hbaseline, hsame.count,
    hsame.changeTs, ?_, fun key hne => ?_⟩
  · rw [isRaised, setCondition_latched, hkey, update_self]
  · rw [setCondition_latched, hkey, update_of_ne hne, hlatched]

theorem commsEvaluated_of_count {count : ℕ} (hcount : hubs.statisticsHub = some count)
    (hbaseline : monitor.haveCommsBaseline) (hnew : count ≠ monitor.lastMessageCount) :
    CommsEvaluated monitor (monitor.evaluate hubs .serialCommsLoss).1 count
      (hubs.clock monitor.clockReads) false := by
  simp only [evaluate, evaluateSerialCommsLoss, hcount, hbaseline, readClock, Bool.not_true,
    Bool.false_eq_true, if_false, if_pos hnew]
  exact commsEvaluated_setCondition rfl rfl rfl rfl

theorem commsEvaluated_of_silence (hcount : hubs.statisticsHub = some monitor.lastMessageCount)
    (hbaseline : monitor.haveCommsBaseline) :
    CommsEvaluated monitor (monitor.evaluate hubs .serialCommsLoss).1 monitor.lastMessageCount
      monitor.lastMessageChangeTs
      (decide ((monitor.commsTimeout hubs : ℤ) ≤
          hubs.clock monitor.clockReads - monitor.lastMessageChangeTs) ||
        monitor.isRaised ConditionKeys.serialCommsLoss) := by
  by_cases hlong : (monitor.commsTimeout hubs : ℤ) ≤
      hubs.clock monitor.clockReads - monitor.lastMessageChangeTs
  · rw [decide_eq_true hlong, Bool.true_or]
    rw [commsTimeout, preferences] at hlong
    simp only [evaluate, evaluateSerialCommsLoss, hcount, hbaseline, readClock, Bool.not_true,
      Bool.false_eq_true, if_false, ne_eq, not_true_eq_false, preferences, if_pos hlong]
    exact commsEvaluated_setCondition rfl rfl rfl rfl
  · rw [decide_eq_false hlong, Bool.false_or]
    rw [commsTimeout, preferences] at hlong
    simp only [evaluate, evaluateSerialCommsLoss, hcount, hbaseline, readClock, Bool.not_true,
      Bool.false_eq_true, if_false, ne_eq, not_true_eq_false, preferences, if_neg hlong]
    exact ⟨rfl, rfl, rfl, rfl, rfl, fun _ _ => rfl⟩

theorem evaluate_serialCommsLoss_of_none (h : hubs.statisticsHub = none) :
    (monitor.evaluate hubs .serialCommsLoss).1 = monitor := by
  simp [evaluate, evaluateSerialCommsLoss, h]

end

theorem evaluateEach_append (monitor : AlertMonitor) (hubs : HubReadings)
    (first rest : List Evaluator) :
    monitor.evaluateEach hubs (first ++ rest) =
      (monitor.evaluateEach hubs first).evaluateEach hubs rest :=
  foldl_append

end AlertMonitor

/-! ## Runs -/

/-- The monitor, and beside it the last sample of the salt level, the count of the messages, and
when it last changed. -/
structure AlertRun where
  monitor : AlertMonitor
  lastSalt : Option ℤ := none
  lastCount : ℕ
  lastNewAt : ℤ

namespace AlertRun

def start (settings : AlertPreferences) (sinks : ℕ) (hubs : HubReadings) : AlertRun where
  monitor := { settings, sinks : AlertMonitor }.start hubs
  lastCount := hubs.statisticsHub.getD 0
  lastNewAt := hubs.clock 0

variable (run : AlertRun) (hubs : HubReadings)

/-- The evaluations in front of the one of the traffic. -/
def beforeComms : AlertMonitor :=
  run.monitor.evaluateEach hubs [.saltLow, .chlorinatorWarning, .chlorinatorFault, .serviceMode]

/-- The time that the evaluation of the traffic goes by. -/
def commsClock : ℤ := hubs.clock (run.beforeComms hubs).clockReads

/-- One `EvaluateAll`. -/
def step : AlertRun where
  monitor := run.monitor.evaluateEach hubs evaluateAll
  lastSalt := hubs.salt.or run.lastSalt
  lastCount := hubs.statisticsHub.getD run.lastCount
  lastNewAt :=
    if hubs.statisticsHub.getD run.lastCount = run.lastCount then run.lastNewAt
    else run.commsClock hubs

/-- After the evaluation `salt_low` is as the last sample and the threshold have it. -/
structure SaltReflected : Prop where
  disabled : run.monitor.saltThreshold hubs = 0 →
    (run.step hubs).monitor.isRaised ConditionKeys.saltLow = false
  raised : (run.step hubs).monitor.isRaised ConditionKeys.saltLow →
    ∃ salt, (run.step hubs).lastSalt = some salt ∧ salt < run.monitor.saltThreshold hubs + 100
  low : ∀ salt, (run.step hubs).lastSalt = some salt → salt < run.monitor.saltThreshold hubs →
    (run.step hubs).monitor.isRaised ConditionKeys.saltLow

/-- After the evaluation `serial_comms_loss` is raised if no message was counted for the
timeout. -/
def CommsReflected : Prop :=
  hubs.statisticsHub ≠ none →
    ((run.step hubs).monitor.isRaised ConditionKeys.serialCommsLoss = true ↔
      (run.monitor.commsTimeout hubs : ℤ) ≤ run.commsClock hubs - (run.step hubs).lastNewAt)

/-- The alert is not raised while the check is disabled, and while there is no sample it is as the
last one and the threshold have it. -/
structure SaltSettled : Prop where
  disabled : run.monitor.saltThreshold hubs = 0 →
    run.monitor.isRaised ConditionKeys.saltLow = false
  raised : hubs.salt = none → run.monitor.isRaised ConditionKeys.saltLow →
    ∃ salt, run.lastSalt = some salt ∧ salt < run.monitor.saltThreshold hubs + 100
  low : hubs.salt = none → ∀ salt, run.lastSalt = some salt →
    salt < run.monitor.saltThreshold hubs → run.monitor.isRaised ConditionKeys.saltLow

/-- The alert is not raised while the silence is shorter than the timeout, which is not zero when a
message is counted. -/
def CommsSettled : Prop :=
  ∀ count, hubs.statisticsHub = some count →
    if count = run.lastCount then
      run.commsClock hubs - run.lastNewAt < run.monitor.commsTimeout hubs →
        run.monitor.isRaised ConditionKeys.serialCommsLoss = false
    else 0 < run.monitor.commsTimeout hubs

structure Tracks (run : AlertRun) : Prop where
  baseline : run.monitor.haveCommsBaseline
  count : run.monitor.lastMessageCount = run.lastCount
  changeTs : run.monitor.lastMessageChangeTs = run.lastNewAt

section

variable {run hubs}

theorem start_tracks (settings : AlertPreferences) (sinks : ℕ) (hubs : HubReadings) :
    Tracks (start settings sinks hubs) :=
  ⟨rfl, rfl, rfl⟩

theorem step_monitor :
    (run.step hubs).monitor =
      (((run.beforeComms hubs).evaluate hubs .serialCommsLoss).1.evaluate hubs
        .temperatureStale).1 :=
  AlertMonitor.evaluateEach_append run.monitor hubs
    [.saltLow, .chlorinatorWarning, .chlorinatorFault, .serviceMode] _

theorem beforeComms_frame :
    AlertMonitor.SameBaseline run.monitor (run.beforeComms hubs) ∧
      (run.beforeComms hubs).isRaised ConditionKeys.serialCommsLoss =
        run.monitor.isRaised ConditionKeys.serialCommsLoss := by
  have hnot : Evaluator.serialCommsLoss ∉
      [Evaluator.saltLow, .chlorinatorWarning, .chlorinatorFault, .serviceMode] := by decide
  obtain ⟨hbaseline, hlatched⟩ :=
    @AlertMonitor.evaluateEach_frame run.monitor hubs _ hnot
  exact ⟨hbaseline, hlatched _ (by decide)⟩

theorem Tracks.commsEvaluated_of_count (h : run.Tracks) {count : ℕ}
    (hcount : hubs.statisticsHub = some count) (hnew : count ≠ run.lastCount) :
    (run.beforeComms hubs).CommsEvaluated
      ((run.beforeComms hubs).evaluate hubs .serialCommsLoss).1 count (run.commsClock hubs)
      false := by
  have hsame := (@beforeComms_frame run hubs).1
  refine AlertMonitor.commsEvaluated_of_count hcount (hsame.baseline.trans h.baseline) ?_
  rwa [hsame.count, h.count]

theorem Tracks.commsEvaluated_of_silence (h : run.Tracks)
    (hcount : hubs.statisticsHub = some run.lastCount) :
    (run.beforeComms hubs).CommsEvaluated
      ((run.beforeComms hubs).evaluate hubs .serialCommsLoss).1 run.lastCount run.lastNewAt
      (decide ((run.monitor.commsTimeout hubs : ℤ) ≤ run.commsClock hubs - run.lastNewAt) ||
        run.monitor.isRaised ConditionKeys.serialCommsLoss) := by
  obtain ⟨hsame, hraised⟩ := @beforeComms_frame run hubs
  have hlast : (run.beforeComms hubs).lastMessageCount = run.lastCount :=
    hsame.count.trans h.count
  have hts : (run.beforeComms hubs).lastMessageChangeTs = run.lastNewAt :=
    hsame.changeTs.trans h.changeTs
  have htimeout : (run.beforeComms hubs).commsTimeout hubs = run.monitor.commsTimeout hubs := by
    rw [AlertMonitor.commsTimeout, AlertMonitor.preferences_of_sameBaseline hsame]
    rfl
  rw [← hlast] at hcount
  have heval := AlertMonitor.commsEvaluated_of_silence hcount (hsame.baseline.trans h.baseline)
  rwa [hlast, hts, htimeout, hraised] at heval

/-- The evaluation of the traffic comes to what is counted, and keeps the other latches. -/
theorem Tracks.comms (h : run.Tracks) :
    let after := ((run.beforeComms hubs).evaluate hubs .serialCommsLoss).1
    (after.haveCommsBaseline ∧ after.lastMessageCount = (run.step hubs).lastCount ∧
      after.lastMessageChangeTs = (run.step hubs).lastNewAt) ∧
    ∀ key, key ≠ ConditionKeys.serialCommsLoss →
      after.latched key = (run.beforeComms hubs).latched key := by
  intro after
  cases hcount : hubs.statisticsHub with
  | none =>
    have hsame := (@beforeComms_frame run hubs).1
    have hafter : after = run.beforeComms hubs :=
      AlertMonitor.evaluate_serialCommsLoss_of_none hcount
    rw [hafter]
    refine ⟨⟨hsame.baseline.trans h.baseline, ?_, ?_⟩, fun _ _ => rfl⟩
    · simp [step, hcount, hsame.count, h.count]
    · simp [step, hcount, hsame.changeTs, h.changeTs]
  | some count =>
    by_cases hnew : count = run.lastCount
    · subst hnew
      have heval := h.commsEvaluated_of_silence hcount
      refine ⟨⟨heval.baseline, ?_, ?_⟩, heval.others⟩
      · simp [step, hcount, after, heval.count]
      · simp [step, hcount, after, heval.changeTs]
    · have heval := h.commsEvaluated_of_count hcount hnew
      refine ⟨⟨heval.baseline, ?_, ?_⟩, heval.others⟩
      · simp [step, hcount, after, heval.count]
      · simp [step, hcount, hnew, after, heval.changeTs]

theorem Tracks.step (h : run.Tracks) : (run.step hubs).Tracks := by
  obtain ⟨⟨hbaseline, hcount, hts⟩, -⟩ := @Tracks.comms run hubs h
  have hsame := (@AlertMonitor.evaluate_frame
    ((run.beforeComms hubs).evaluate hubs .serialCommsLoss).1 hubs .temperatureStale
    (by decide)).1
  rw [← step_monitor] at hsame
  exact ⟨hsame.baseline.trans hbaseline, hsame.count.trans hcount, hsame.changeTs.trans hts⟩

theorem step_latched {key : String} (hkey : key ≠ ConditionKeys.temperatureStale) :
    (run.step hubs).monitor.latched key =
      ((run.beforeComms hubs).evaluate hubs .serialCommsLoss).1.latched key := by
  rw [step_monitor]
  exact (AlertMonitor.evaluate_frame (by decide)).2 key hkey

theorem Tracks.isRaised_saltLow (h : run.Tracks) :
    (run.step hubs).monitor.isRaised ConditionKeys.saltLow =
      (run.monitor.evaluate hubs .saltLow).1.isRaised ConditionKeys.saltLow := by
  have hnot : Evaluator.serialCommsLoss ∉
      [Evaluator.chlorinatorWarning, .chlorinatorFault, .serviceMode] := by decide
  have hrest := (@AlertMonitor.evaluateEach_frame (run.monitor.evaluate hubs .saltLow).1 hubs _
    hnot).2 ConditionKeys.saltLow (by decide)
  rwa [AlertMonitor.isRaised, step_latched (by decide), h.comms.2 ConditionKeys.saltLow (by decide)]

theorem Tracks.saltReflected_iff (h : run.Tracks) :
    run.SaltReflected hubs ↔ run.SaltSettled hubs := by
  have hafter := @Tracks.isRaised_saltLow run hubs h
  cases hsalt : hubs.salt with
  | none =>
    have hlast : (run.step hubs).lastSalt = run.lastSalt := by simp [AlertRun.step, hsalt]
    rw [AlertMonitor.evaluate_saltLow_early (.inl hsalt)] at hafter
    constructor
    · rintro ⟨hdisabled, hraised, hlow⟩
      rw [hafter] at hdisabled hraised
      rw [hlast] at hraised
      refine ⟨hdisabled, fun _ => hraised, fun _ salt hsome hlt => ?_⟩
      exact hafter ▸ hlow salt (hlast.trans hsome) hlt
    · rintro ⟨hdisabled, hraised, hlow⟩
      refine ⟨hafter ▸ hdisabled, ?_, fun salt hsome hlt => ?_⟩
      · rw [hafter, hlast]
        exact hraised hsalt
      · rw [hafter]
        exact hlow hsalt salt (hlast.symm.trans hsome) hlt
  | some salt =>
    have hlast : (run.step hubs).lastSalt = some salt := by simp [AlertRun.step, hsalt]
    by_cases hzero : run.monitor.saltThreshold hubs = 0
    · have hpos : 0 < salt := by
        obtain ⟨data, -, hif⟩ := Option.bind_eq_some_iff.mp hsalt
        split at hif
        · rwa [← Option.some_inj.mp hif]
        · cases hif
      rw [AlertMonitor.evaluate_saltLow_early (.inr hzero)] at hafter
      constructor
      · rintro ⟨hdisabled, -, -⟩
        refine ⟨hafter ▸ hdisabled, fun hnone => ?_, fun hnone => ?_⟩
        · rw [hsalt] at hnone; cases hnone
        · rw [hsalt] at hnone; cases hnone
      · rintro ⟨hdisabled, -, -⟩
        have hoff := hafter.trans (hdisabled hzero)
        refine ⟨fun _ => hoff, fun hon => absurd hon (by simp [hoff]), fun low hsome hlt => ?_⟩
        rw [hlast, Option.some_inj] at hsome
        omega
    · rw [AlertMonitor.evaluate_saltLow_of_sample hsalt hzero] at hafter
      refine iff_of_true ⟨fun h0 => absurd h0 hzero, fun hon => ⟨salt, hlast, ?_⟩,
        fun low hsome hlt => ?_⟩ ⟨fun h0 => absurd h0 hzero, fun hnone => ?_, fun hnone => ?_⟩
      · rw [hafter] at hon
        split at hon <;> · simp only [decide_eq_true_eq] at hon; omega
      · obtain rfl : salt = low := Option.some_inj.mp (hlast.symm.trans hsome)
        rw [hafter]
        split <;> · simp only [decide_eq_true_eq]; omega
      · rw [hsalt] at hnone; cases hnone
      · rw [hsalt] at hnone; cases hnone

theorem Tracks.commsReflected_iff (h : run.Tracks) :
    run.CommsReflected hubs ↔ run.CommsSettled hubs := by
  cases hcount : hubs.statisticsHub with
  | none => simp [CommsReflected, CommsSettled, hcount]
  | some count =>
    have hafter : (run.step hubs).monitor.isRaised ConditionKeys.serialCommsLoss =
        ((run.beforeComms hubs).evaluate hubs .serialCommsLoss).1.isRaised
          ConditionKeys.serialCommsLoss := step_latched (by decide)
    simp only [CommsReflected, CommsSettled, hcount, ne_eq, reduceCtorEq, not_false_eq_true,
      forall_const, Option.some.injEq, forall_eq', hafter]
    by_cases hnew : count = run.lastCount
    · subst hnew
      have hat : (run.step hubs).lastNewAt = run.lastNewAt := by simp [AlertRun.step, hcount]
      rw [(h.commsEvaluated_of_silence hcount).raised, hat, if_pos rfl]
      by_cases hlong : (run.monitor.commsTimeout hubs : ℤ) ≤ run.commsClock hubs - run.lastNewAt
      · simp [hlong, Int.not_lt.mpr hlong]
      · simp [hlong, Int.not_le.mp hlong]
    · have hat : (run.step hubs).lastNewAt = run.commsClock hubs := by
        simp [AlertRun.step, hcount, hnew]
      rw [(h.commsEvaluated_of_count hcount hnew).raised, hat, if_neg hnew]
      simp only [Bool.false_eq_true, sub_self, false_iff]
      omega

end

/-- **Alerts reflect the inputs.**  After each evaluation of a run both alerts are as the samples,
the counts, the clock and the present settings have it, exactly if every evaluation finds them
settled. -/
theorem alerts_reflect_iff (settings : AlertPreferences) (sinks : ℕ) (first : HubReadings)
    (readings : List HubReadings) :
    EachStep step (fun run hubs => run.SaltReflected hubs ∧ run.CommsReflected hubs)
        (start settings sinks first) readings ↔
      EachStep step (fun run hubs => run.SaltSettled hubs ∧ run.CommsSettled hubs)
        (start settings sinks first) readings :=
  eachStep_congr (Q := Tracks) (fun _ _ h => h.step)
    (fun _ _ h => and_congr h.saltReflected_iff h.commsReflected_iff)
    (start_tracks settings sinks first)

/-! ## An alert for a check that is disabled -/

def saltAt (salt : ℤ) (saltLowPpm : ℕ) : HubReadings where
  dataHub := some { saltLevel := salt }
  statisticsHub := some 0
  preferencesHub := some { saltLowPpm }
  clock := fun _ => 0

/-- The salt is low, the alert is raised, and then the check is disabled. -/
theorem disabled_check_not_reflected :
    ¬ EachStep step (fun run hubs => run.SaltReflected hubs ∧ run.CommsReflected hubs)
      (start {} 1 (saltAt 2000 2600)) [saltAt 2000 2600, saltAt 2000 0] := by
  rintro ⟨-, ⟨hsalt, -⟩, -⟩
  have htracks : Tracks ((start {} 1 (saltAt 2000 2600)).step (saltAt 2000 2600)) :=
    (start_tracks _ _ _).step
  have hoff := (htracks.saltReflected_iff.mp hsalt).disabled rfl
  revert hoff
  decide

end AlertRun

end AqualinkAutomate.Alerting
