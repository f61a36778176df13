import Aqualink.OneTouch.KeypadOwnership

/-!
# Discovering the equipment again

A discovery on request is a crawl like the one of the start-up, and like the setpoint refresh,
and all three share one engine.  The engine does not become idle again when a crawl ends, and
whether it is stepped is up to the operating state.  So a crawl that has ended, or that nobody
drives, still counts as a discovery in progress, and a discovery that is accepted is left
alone unless the start-up takes it over.

`rediscovery_runs_iff` says when the device keeps to what it tells about discoveries.
-/

namespace AqualinkAutomate.OneTouch

open General Navigation

namespace OperatingDevice

variable {device served next : OperatingDevice} {model : MenuModel} {fuel : ℕ}
  {surroundings : MessageSurroundings}

/-! ## Crawls in progress -/

def CrawlActive (device : OperatingDevice) : Prop :=
  device.keypad.spiderEngine.state = .syncing ∨
    device.keypad.spiderEngine.state = .navigatingToNext ∨
    device.keypad.spiderEngine.state = .capturingPage

def CrawlDriven (device : OperatingDevice) : Prop :=
  device.opState = .scraping ∨
    device.opState = .normalOperation ∧ device.keypad.refreshInProgress = true ∧
      device.keypad.refreshStepCount < setpointRefreshStepLimit

def CrawlInProgress (device : OperatingDevice) : Prop :=
  device.CrawlActive ∧ device.CrawlDriven

instance (device : OperatingDevice) : Decidable device.CrawlActive := by
  unfold CrawlActive
  infer_instance

instance (device : OperatingDevice) : Decidable device.CrawlDriven := by
  unfold CrawlDriven
  infer_instance

structure NoneLeftOver (device : OperatingDevice) : Prop where
  not_complete : device.keypad.spiderEngine.state ≠ .complete
  not_failed : device.keypad.spiderEngine.state ≠ .failed
  driven : device.keypad.spiderEngine.state ≠ .idle → device.CrawlDriven

theorem noneLeftOver_iff :
    device.NoneLeftOver ↔ (device.keypad.spiderEngine.state ≠ .idle → device.CrawlInProgress) := by
  constructor
  · intro h hbusy
    refine ⟨?_, h.driven hbusy⟩
    have hcomplete := h.not_complete
    have hfailed := h.not_failed
    unfold CrawlActive
    cases hstate : device.keypad.spiderEngine.state <;> simp_all
  · intro h
    have hactive : device.keypad.spiderEngine.state ≠ .idle → device.CrawlActive :=
      fun hbusy => (h hbusy).1
    refine ⟨fun hstate => ?_, fun hstate => ?_, fun hbusy => (h hbusy).2⟩
    · simp [CrawlActive, hstate] at hactive
    · simp [CrawlActive, hstate] at hactive

/-! ## Discoveries -/

structure DiscoveryWatch where
  device : OperatingDevice
  pending : Bool := false

def crawlEnded (device : OperatingDevice) : Bool :=
  device.keypad.spiderEngine.state = .complete || device.keypad.spiderEngine.state = .failed

namespace DiscoveryWatch

def accepts (model : MenuModel) (watch : DiscoveryWatch) : OperatingEvent → Bool
  | .requestFullRediscovery => (watch.device.requestFullRediscovery model).2
  | _ => false

def attempt (model : MenuModel) (fuel : ℕ) (watch : DiscoveryWatch) (event : OperatingEvent) :
    Option DiscoveryWatch :=
  (watch.device.attempt model fuel event).map fun next =>
    { device := next
      pending := (watch.pending || watch.accepts model event) && !next.crawlEnded }

/-- What is said about discoveries.  One is reported to be in progress only while a crawl is
active and being stepped; a device that transmits, with no crawl in progress, accepts one; and
one that is accepted is stepped with every message up to its end, by the crawl alone. -/
def RunsRediscovery (model : MenuModel) (fuel : ℕ) (watch : DiscoveryWatch) :
    OperatingEvent → Prop
  | .queryDiscovery =>
    watch.device.discoveryStatus.inProgress = true → watch.device.CrawlInProgress
  | .requestFullRediscovery =>
    watch.device.emulationActive = true → ¬ watch.device.CrawlInProgress →
      (watch.device.requestFullRediscovery model).2 = true
  | .message message surroundings =>
    watch.pending = true →
      ∀ next, watch.device.receive model fuel surroundings message = some next →
        .crawl ∈ next.steppers ∧ .activeGoal ∉ next.steppers ∧
          .setpointRefresh ∉ next.steppers
  | _ => True

/-- No crawl is left over when a discovery is asked for or asked about, and while one is
pending, the device is in the start-up and sees pages that it knows. -/
def LeavesNothing (model : MenuModel) (watch : DiscoveryWatch) : OperatingEvent → Prop
  | .queryDiscovery => watch.device.NoneLeftOver
  | .requestFullRediscovery =>
    watch.device.emulationActive = true → watch.device.NoneLeftOver
  | .message message _ =>
    watch.pending = true →
      message.IsProcessed ∧ (watch.device.enter message).CrawlSteps model
  | _ => True

variable {watch : DiscoveryWatch}

theorem inProgress_iff (device : OperatingDevice) :
    device.discoveryStatus.inProgress ↔ device.keypad.spiderEngine.state ≠ .idle := by
  simp [discoveryStatus]

theorem accepted_iff (hactive : device.emulationActive) :
    (device.requestFullRediscovery model).2 ↔ device.keypad.spiderEngine.state = .idle := by
  unfold requestFullRediscovery
  split_ifs with hrefused
  · simpa [hactive] using hrefused
  · simpa [hactive] using hrefused

theorem stepped_iff {message : BusMessage}
    (h : device.receive model fuel surroundings message = some next) :
    (.crawl ∈ next.steppers ∧ .activeGoal ∉ next.steppers ∧ .setpointRefresh ∉ next.steppers) ↔
      message.IsProcessed ∧ (device.enter message).CrawlSteps model := by
  have hempty := device.account_enter message
  rcases receive_cases h with ⟨hdropped, rfl⟩ | ⟨htaken, served, key, ackType, log, hserved, rfl⟩
  · refine iff_of_false ?_ fun hsteps => hdropped hsteps.1
    rintro ⟨hcrawl, -⟩
    cases hcrawl
  · by_cases hcrawls : (device.enter message).CrawlSteps model
    · refine iff_of_true ?_ ⟨htaken, hcrawls⟩
      obtain ⟨-, key, emitted, haccount⟩ := isCrawled_operate hcrawls hserved
      rw [hempty, List.nil_append] at haccount
      simp [mem_steppers, haccount]
    · refine iff_of_false ?_ fun hsteps => hcrawls hsteps.2
      rintro ⟨hcrawl, -⟩
      obtain ⟨key, hentry⟩ := mem_steppers.mp hcrawl
      by_cases hstate : (device.enter message).opState = .normalOperation
      · exact ne_crawl_of_mem_account hempty hstate hserved hentry rfl
      · obtain ⟨-, haccount⟩ := rests_operate hcrawls hstate hserved
        have hnothing : served.account = [] := haccount.trans hempty
        change _ ∈ served.account at hentry
        rw [hnothing] at hentry
        cases hentry

theorem runsRediscovery_iff {event : OperatingEvent}
    {watch' : DiscoveryWatch} (h : watch.attempt model fuel event = some watch') :
    watch.RunsRediscovery model fuel event ↔ watch.LeavesNothing model event := by
  obtain ⟨next, hnext, -⟩ := Option.map_eq_some_iff.mp h
  cases event with
  | queryDiscovery =>
    rw [RunsRediscovery, LeavesNothing, inProgress_iff, noneLeftOver_iff]
  | requestFullRediscovery =>
    rw [RunsRediscovery, LeavesNothing]
    refine forall_congr' fun hactive => ?_
    rw [accepted_iff hactive, noneLeftOver_iff, not_imp_comm]
  | message message surroundings =>
    rw [RunsRediscovery, LeavesNothing]
    refine forall_congr' fun _ => ?_
    constructor
    · intro hsteps
      exact (stepped_iff hnext).mp (hsteps next hnext)
    · intro hsteps next' hnext'
      exact (stepped_iff hnext').mpr hsteps
  | _ => exact Iff.rfl

/-- Whatever comes in whatever order: the device keeps to what it says about discoveries exactly
as long as no crawl is left over when a discovery is asked for or asked about, and no message
comes while one is pending unless the start-up has a step of the crawl for it. -/
theorem rediscovery_runs_iff (model : MenuModel) (fuel : ℕ) (emulated : Bool) (hub : DataHub)
    (events : List OperatingEvent) :
    EachStepTaken (attempt model fuel) (RunsRediscovery model fuel)
        { device := initial emulated hub } events ↔
      EachStepTaken (attempt model fuel) (LeavesNothing model)
        { device := initial emulated hub } events :=
  eachStepTaken_congr (fun _ _ _ _ _ => trivial) (fun _ _ _ h _ => runsRediscovery_iff h) trivial

/-- The crawl of the start-up visits the one page of the menu. -/
def crawlCompletes : List OperatingEvent :=
  [.message (.messageLong 0 "Set Temp".toList) {}, .message .status {}, .message .status {},
    .message .status {}]

/-- The device recovers from a fault, and has not crawled by then. -/
def recoversWithoutCrawl : List OperatingEvent :=
  [.watchdogTimeout, .message (.messageLong 0 "Set Temp".toList) {}, .message .status {},
    .message .status {}, .message .status {}, .requestFullRediscovery]

/-- After the start-up a discovery is said to be in progress, and none is accepted; and one that
is accepted after a fault is not stepped. -/
theorem rediscovery_fails :
    ¬ EachStepTaken (attempt setTemperatureModel 9) (RunsRediscovery setTemperatureModel 9)
        { device := initial true {} } (crawlCompletes ++ [.queryDiscovery]) ∧
      ¬ EachStepTaken (attempt setTemperatureModel 9) (RunsRediscovery setTemperatureModel 9)
        { device := initial true {} } (crawlCompletes ++ [.requestFullRediscovery]) ∧
      ¬ EachStepTaken (attempt setTemperatureModel 9) (RunsRediscovery setTemperatureModel 9)
        { device := initial true {} } (recoversWithoutCrawl ++ [.message .status {}]) := by
  have hcompleted : (crawlCompletes.foldlM (attempt setTemperatureModel 9)
      { device := initial true {} }).map (fun watch =>
        (watch.device.keypad.spiderEngine.state, watch.device.emulationActive)) =
      some (.complete, true) := by decide +kernel
  have hrecovered : (recoversWithoutCrawl.foldlM (attempt setTemperatureModel 9)
      { device := initial true {} }).map (fun watch => (watch.pending,
        (watch.device.receive setTemperatureModel 9 {} .status).map steppers)) =
      some (true, some []) := by decide +kernel
  obtain ⟨completed, hcompletes, heq⟩ := Option.map_eq_some_iff.mp hcompleted
  obtain ⟨hcomplete, hactive⟩ := Prod.mk.inj heq
  have hactive' : ¬ completed.device.CrawlInProgress := by
    rintro ⟨hactive, -⟩
    simp [CrawlActive, hcomplete] at hactive
  refine ⟨fun hruns => ?_, fun hruns => ?_, fun hruns => ?_⟩
  · refine hactive' (hruns.last hcompletes rfl ?_)
    rw [inProgress_iff, hcomplete]
    decide
  · have haccepted := hruns.last hcompletes rfl hactive hactive'
    rw [accepted_iff hactive, hcomplete] at haccepted
    exact absurd haccepted (by decide)
  · obtain ⟨watch, hrun, heq⟩ := Option.map_eq_some_iff.mp hrecovered
    obtain ⟨hpending, hsteppers⟩ := Prod.mk.inj heq
    obtain ⟨next, hnext, hnone⟩ := Option.map_eq_some_iff.mp hsteppers
    have hreceived : watch.attempt setTemperatureModel 9 (.message .status {}) =
        some { device := next, pending := (watch.pending || false) && !next.crawlEnded } := by
      rw [attempt, OperatingDevice.attempt, hnext]
      rfl
    have hcrawl := (hruns.last hrun hreceived hpending next hnext).1
    rw [hnone] at hcrawl
    cases hcrawl

end DiscoveryWatch

end OperatingDevice

end AqualinkAutomate.OneTouch
