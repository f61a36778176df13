import Aqualink.Navigation.ItemSelection
import Aqualink.OneTouch.KeypadOwnership

/-!
# Switching a device on or off with the keypad

Whoever works on the keypad may emit a key, which takes the place of the one that waits.  So
after the work of a message the key that waits is the last one in the account of the message,
or the one that waited before; and with a status message it is sent.

A Select on the row of a device toggles it, whatever is wanted.  Whether a request is to toggle
it is decided when the request comes, and the Select goes out many messages later.  So the
watch follows an explicit request from the goal that it starts, through the key that waits, to
the status message with which the key is sent.

By then the device need not be other than it is wanted; but it was not known to be as it is
wanted when the request was taken on (`togglesOnly_justified`).
-/

namespace AqualinkAutomate.OneTouch

open Equipment General Navigation List

def lastKey (waiting : KeyCommand) (events : List KeypadEvent) : KeyCommand :=
  events.foldl (fun waiting event =>
    match event with
    | .emit key => key
    | _ => waiting) waiting

theorem lastKey_append (waiting : KeyCommand) (events events' : List KeypadEvent) :
    lastKey waiting (events ++ events') = lastKey (lastKey waiting events) events' :=
  foldl_append

theorem lastKey_step (waiting key : KeyCommand) (events : List KeypadEvent) :
    lastKey waiting (.step key :: events) = lastKey waiting events :=
  rfl

theorem lastKey_endEvents (waiting : KeyCommand) (status : GoalStatus) :
    lastKey waiting (endEvents status) = waiting := by
  cases status <;> rfl

theorem lastKey_emitEvents (waiting : KeyCommand) (key : Option NavKeyCommand) :
    lastKey waiting (emitEvents key) = (key.map convertNavKeyCommand).getD waiting := by
  cases key <;> rfl

variable {events : List KeypadEvent} {waiting : KeyCommand}

theorem lastKey_eq_self (h : ∀ key, .emit key ∉ events) : lastKey waiting events = waiting := by
  induction events with
  | nil => rfl
  | cons event events ih =>
    have hrest := ih fun key hkey => h key (mem_cons_of_mem _ hkey)
    cases event with
    | emit key => exact absurd mem_cons_self (h key)
    | step | acknowledge | goalEnded => exact hrest

theorem lastKey_of_mem {key : KeyCommand} (hmem : .emit key ∈ events)
    (honly : ∀ other, .emit other ∈ events → other = key) : lastKey waiting events = key := by
  induction events generalizing waiting with
  | nil => cases hmem
  | cons event events ih =>
    have honly' : ∀ other, .emit other ∈ events → other = key :=
      fun other hother => honly other (mem_cons_of_mem _ hother)
    by_cases hrest : .emit key ∈ events
    · exact ih hrest honly'
    · obtain rfl : KeypadEvent.emit key = event :=
        (List.mem_cons.mp hmem).resolve_right hrest
      exact lastKey_eq_self fun other hother => hrest (honly' other hother ▸ hother)

namespace OneTouchDevice

variable {γ : Type*} {device : OneTouchDevice γ}

theorem lastKey_queueKey (device : OneTouchDevice γ) (key : Option NavKeyCommand) :
    (device.queueKey key).keyCommandToSend =
      lastKey device.keyCommandToSend (emitEvents key) := by
  cases key <;> rfl

end OneTouchDevice

namespace OperatingDevice

variable {device served next : OperatingDevice} {model : MenuModel} {fuel : ℕ}

def Tracks (device served : OperatingDevice) : Prop :=
  ∃ entries, served.account = device.account ++ entries ∧
    served.keypad.keyCommandToSend =
      lastKey device.keypad.keyCommandToSend (entries.map Tagged.item)

theorem tracks_of_same (haccount : served.account = device.account)
    (hkey : served.keypad.keyCommandToSend = device.keypad.keyCommandToSend) :
    device.Tracks served :=
  ⟨[], haccount.trans (append_nil _).symm, hkey⟩

theorem Tracks.trans (h : device.Tracks served) (h' : served.Tracks next) : device.Tracks next := by
  obtain ⟨entries, haccount, hkey⟩ := h
  obtain ⟨entries', haccount', hkey'⟩ := h'
  refine ⟨entries ++ entries', ?_, ?_⟩
  · rw [haccount', haccount, append_assoc]
  · rw [hkey', hkey, map_append, lastKey_append]

theorem tracks_work {owner : KeypadOwner} {keypad : OneTouchDevice OneTouchGoal}
    (hlog : keypad.log = device.keypad.log ++ events)
    (hkey : keypad.keyCommandToSend = lastKey device.keypad.keyCommandToSend events) :
    device.Tracks (device.work owner keypad) := by
  refine ⟨events.map (Tagged.mk owner), account_work hlog, hkey.trans ?_⟩
  rw [map_map]
  exact congrArg (lastKey _) (map_id events).symm

/-! ### Each party -/

variable {surroundings : Surroundings}

theorem tracks_scrapingStep (h : device.scrapingStep model fuel surroundings = some served) :
    device.Tracks served := by
  obtain ⟨⟨keypad, key⟩, hcrawl, rfl⟩ := Option.map_eq_some_iff.mp h
  have hwork : device.Tracks (device.work .crawl keypad) := by
    refine tracks_work (OneTouchDevice.log_stepCrawl hcrawl) ?_
    obtain ⟨engine, rfl⟩ := OneTouchDevice.stepCrawl_eq_some hcrawl
    rfl
  refine hwork.trans ?_
  dsimp only
  unfold settleScraping
  split
  · exact tracks_of_same rfl rfl
  · exact tracks_of_same rfl rfl
  · exact tracks_work (OneTouchDevice.log_queueKey _ key) (OneTouchDevice.lastKey_queueKey _ key)

theorem tracks_serviceActiveGoal (h : device.serviceActiveGoal model fuel = some served) :
    device.Tracks served := by
  rcases serviceActiveGoal_cases h with ⟨-, rfl⟩ | ⟨goal, result, -, -, rfl⟩
  · exact tracks_of_same rfl rfl
  · have hlog := OneTouchDevice.log_takeGoalStep device.keypad.recordStep result
    rw [OneTouchDevice.recordStep, OneTouchDevice.record, append_assoc] at hlog
    refine tracks_work hlog ?_
    rw [OneTouchDevice.keyCommandToSend_takeGoalStep, singleton_append, lastKey_step,
      lastKey_append, lastKey_endEvents, lastKey_emitEvents]
    rfl

theorem tracks_setpointRefreshStep
    (h : device.setpointRefreshStep model fuel surroundings = some served) :
    device.Tracks served := by
  rw [setpointRefreshStep] at h
  split at h
  · obtain ⟨keypad, hrefresh, rfl⟩ := Option.map_eq_some_iff.mp h
    have hkeypad := OneTouchDevice.keypad_setpointRefreshStep hrefresh
    split at hkeypad
    · obtain ⟨key, hkeypad⟩ := hkeypad
      obtain ⟨hlog, hkey⟩ := Prod.mk.inj hkeypad
      rw [OneTouchDevice.log_queueKey, OneTouchDevice.recordStep, OneTouchDevice.record,
        append_assoc] at hlog
      rw [OneTouchDevice.lastKey_queueKey] at hkey
      exact tracks_work hlog hkey
    · obtain ⟨hlog, hkey⟩ := Prod.mk.inj hkeypad
      exact tracks_work (hlog.trans (append_nil _).symm) hkey
  · cases h
    exact tracks_of_same rfl rfl

/-! ### The work of a message -/

variable {surroundings : MessageSurroundings} {toStatus : Bool}

theorem tracks_operate (h : device.operate model fuel surroundings toStatus = some served) :
    device.Tracks served := by
  unfold operate at h
  cases hstate : device.opState <;> rw [hstate] at h
  case coldStart =>
    dsimp only at h
    split at h
    · cases h
      exact tracks_of_same rfl rfl
    · have hbegins : device.Tracks (device.beginScraping model surroundings) :=
        tracks_of_same rfl rfl
      exact hbegins.trans (tracks_scrapingStep h)
  case startUp =>
    have hbegins : device.Tracks (device.beginScraping model surroundings) :=
      tracks_of_same rfl rfl
    exact hbegins.trans (tracks_scrapingStep h)
  case scraping => exact tracks_scrapingStep h
  case normalOperation =>
    obtain ⟨serviced, hservice, hrefresh⟩ := Option.bind_eq_some_iff.mp h
    exact (tracks_serviceActiveGoal hservice).trans (tracks_setpointRefreshStep hrefresh)
  case scrapingFaulted | faultHasOccurred =>
    cases h
    refine tracks_of_same (account_attemptFaultRecovery device toStatus) ?_
    unfold attemptFaultRecovery
    split_ifs <;> rfl

/-- The key that went out with the latest acknowledgement. -/
def sentKey (device : OperatingDevice) : Option KeyCommand :=
  device.keypad.log.getLast?.bind KeypadEvent.transmittedKey

theorem keyCommandToSend_enter (device : OperatingDevice) (message : BusMessage) :
    (device.enter message).keypad.keyCommandToSend = device.keypad.keyCommandToSend := by
  obtain ⟨page, line, engine, heq⟩ := device.keypad.takeMessage_eq message
  unfold enter skipScraping takeMessage
  rw [heq]
  split <;> rfl

theorem sentKey_acknowledge (hactive : device.emulationActive)
    (hkey : device.keypad.keyCommandToSend ≠ .noKeyCommand) :
    (device.acknowledge true).sentKey = some device.keypad.keyCommandToSend := by
  rw [acknowledge, if_pos hactive, sentKey, OneTouchDevice.acknowledge, if_pos ⟨rfl, hkey⟩]
  dsimp only [OneTouchDevice.record]
  rw [getLast?_concat, Option.bind_some, KeypadEvent.transmittedKey, if_neg hkey]

theorem keyCommandToSend_acknowledge (device : OperatingDevice) :
    (device.acknowledge false).keypad.keyCommandToSend = device.keypad.keyCommandToSend := by
  unfold acknowledge
  split
  · rw [OneTouchDevice.acknowledge, if_neg (by simp)]
    rfl
  · rfl

theorem account_acknowledge (device : OperatingDevice) (toStatus : Bool) :
    (device.acknowledge toStatus).account = device.account := by
  obtain ⟨key, log, heq⟩ := device.acknowledge_eq toStatus
  rw [heq]

variable {message : BusMessage}

theorem key_processed
    (hprocess :
      (device.takeMessage message).processControllerUpdates model fuel surroundings toStatus =
      some next) :
    ∃ served : OperatingDevice, next = served.acknowledge toStatus ∧
      served.account = next.account ∧
      served.emulationActive = device.emulationActive ∧
      served.keypad.keyCommandToSend =
        lastKey device.keypad.keyCommandToSend (next.account.map Tagged.item) := by
  obtain ⟨served, hserved, rfl⟩ := Option.map_eq_some_iff.mp hprocess
  obtain ⟨entries, haccount, hkey⟩ := tracks_operate hserved
  have henter : (device.takeMessage message).skipScraping = device.enter message := rfl
  rw [henter] at hserved haccount hkey
  rw [account_enter, nil_append] at haccount
  rw [keyCommandToSend_enter] at hkey
  have hsetting : served.setting = device.setting :=
    (setting_operate hserved).trans (device.keepsGoal_enter message).setting
  refine ⟨served, rfl, (served.account_acknowledge toStatus).symm, ?_, ?_⟩
  · exact congrArg (fun setting => setting.1 && !setting.2.1) hsetting
  · rwa [account_acknowledge, haccount]

theorem key_receive (h : device.receive model fuel surroundings message = some next) :
    ∃ key, key = lastKey device.keypad.keyCommandToSend (next.account.map Tagged.item) ∧
      if message = .status then
        device.emulationActive → key ≠ .noKeyCommand → next.sentKey = some key
      else next.keypad.keyCommandToSend = key := by
  have hanswer : (device.takeMessage message).processControllerUpdates model fuel surroundings
      false = some next → ∃ key,
        key = lastKey device.keypad.keyCommandToSend (next.account.map Tagged.item) ∧
          next.keypad.keyCommandToSend = key := by
    intro hprocess
    obtain ⟨served, rfl, -, -, hkey⟩ := key_processed hprocess
    exact ⟨_, hkey, served.keyCommandToSend_acknowledge⟩
  cases message with
  | status =>
    obtain ⟨processed, hprocess, rfl⟩ := Option.map_eq_some_iff.mp h
    obtain ⟨served, rfl, -, hactive, hkey⟩ := key_processed hprocess
    have hafter : (served.acknowledge true).afterStatus.sentKey =
        (served.acknowledge true).sentKey := by
      simp only [afterStatus, sentKey]
      rcases (served.acknowledge true).keypad.afterStatus_cases with heq | heq
      · rw [heq]
      · rw [heq]
    refine ⟨_, hkey, ?_⟩
    rw [if_pos rfl, hafter]
    exact fun hemulates hne => sentKey_acknowledge (hactive.trans hemulates) hne
  | messageLong line text =>
    rw [receive] at h
    split at h
    · cases h
      exact ⟨_, rfl, rfl⟩
    · exact hanswer h
  | probe | clear | highlight | highlightChars | shiftLines | displayUpdate | unknown =>
    exact hanswer h

end OperatingDevice

/-! ## The key that toggles -/

def ToggleGoal.selects (goal : ToggleGoal) (ctx : KeypadContext) (result : GoalStep ToggleGoal) :
    Bool :=
  (goal.start ctx).2.navigator.navigatingToItem && !result.context.navigator.navigatingToItem

theorem ToggleGoal.selectsOnRow {goal : ToggleGoal} {ctx : KeypadContext} {model : MenuModel}
    {fuel : ℕ} {result : GoalStep ToggleGoal} (h : goal.step model fuel ctx = some result)
    (hselects : goal.selects ctx result) :
    Navigator.SelectsOnRow (goal.start ctx).2.page (goal.start ctx).2.navigator.itemLabel
      (result.context.navigator, result.context.emittedKey) := by
  obtain ⟨context, hfollow, rfl⟩ := Option.map_eq_some_iff.mp h
  obtain ⟨answer, hrespond, rfl⟩ := Option.map_eq_some_iff.mp hfollow
  simp only [selects, Bool.and_eq_true, Bool.not_eq_true'] at hselects
  obtain ⟨hkey, hrow⟩ := Navigator.selectsOnRow_of_pageUpdate hselects.1
    (Answers.of_respond hrespond) hselects.2
  exact ⟨by rw [hkey]; rfl, hrow⟩

/-! ## Following a request -/

/-- An explicit request for a device: its number, whether it is to be on, and what was known of
it when the request came. -/
structure ToggleWish where
  target : ℕ
  on : Bool
  known : Option Bool
  deriving DecidableEq

namespace ToggleWish

/-- The device is known to be other than it is wanted. -/
def Differs (hub : DataHub) (wish : ToggleWish) : Prop :=
  (hub.traits wish.target).currentOnState = some (!wish.on)

instance (hub : DataHub) (wish : ToggleWish) : Decidable (wish.Differs hub) := by
  unfold Differs
  infer_instance

/-- The device was not known to be as it is wanted.  If its state was known, and is what it was,
it is other than it is wanted. -/
structure Justified (hub : DataHub) (wish : ToggleWish) : Prop where
  taken : wish.known ≠ some wish.on
  unchanged : wish.known.isSome →
    (hub.traits wish.target).currentOnState = wish.known → wish.Differs hub

end ToggleWish

theorem ToggleWish.justified_iff {hub : DataHub} {wish : ToggleWish} :
    wish.Justified hub ↔ wish.known ≠ some wish.on :=
  ⟨Justified.taken, fun h => ⟨h, fun hknown hsame => hsame.trans (known_other h hknown)⟩⟩

def DeviceRequest.wish (hub : DataHub) : DeviceRequest → Option ToggleWish
  | .actuateDevice (some target) action =>
    action.wanted.map fun on => ⟨target, on, (hub.traits target).currentOnState⟩
  | _ => none

namespace OperatingDevice

variable {device served next : OperatingDevice} {model : MenuModel} {fuel : ℕ}
  {surroundings : MessageSurroundings}

def starts (device : OperatingDevice) (request : DeviceRequest) : Bool :=
  device.keypad.activeGoal.isNone && (device.answer request).1.keypad.activeGoal.isSome

theorem taken_of_starts {request : DeviceRequest} {wish : ToggleWish}
    (hstarts : device.starts request) (hwish : wish ∈ request.wish device.hub) :
    wish.known ≠ some wish.on := by
  unfold DeviceRequest.wish at hwish
  split at hwish
  · next target action =>
      obtain ⟨on, hwanted, rfl⟩ := Option.mem_map.mp hwish
      have hwanted : action.wanted = some on := hwanted
      obtain ⟨hidle, hgoal⟩ := Bool.and_eq_true_iff.mp hstarts
      have hnone : device.keypad.activeGoal = none := Option.isNone_iff_eq_none.mp hidle
      have hunchanged : device.keypad.activeGoal.isSome ≠ true := by rw [hnone]; decide
      intro hsame
      simp only [answer, actuateDevice, hwanted] at hgoal
      split at hgoal
      · exact hunchanged hgoal
      · split at hgoal
        · exact hunchanged hgoal
        · rw [if_pos ⟨rfl, hsame⟩] at hgoal
          exact hunchanged hgoal
  · cases hwish

def selectsDevice (model : MenuModel) (fuel : ℕ) (device : OperatingDevice)
    (message : BusMessage) : Bool :=
  decide (message.IsProcessed ∧ (device.enter message).opState = .normalOperation) &&
    match (device.enter message).keypad.activeGoal with
    | some (.toggle goal) =>
      (goal.step model fuel (device.enter message).keypad.keypadContext).any
        (goal.selects (device.enter message).keypad.keypadContext)
    | _ => false

/-- A key other than the one that selects the row was emitted. -/
def emitsOther (device : OperatingDevice) (selects : Bool) : Bool :=
  device.account.any fun entry =>
    match entry.item with
    | .emit _ => !(selects && decide (entry.tag = .activeGoal))
    | _ => false

theorem emits_of_selectsDevice {message : BusMessage}
    (hselects : selectsDevice model fuel device message)
    (h : device.receive model fuel surroundings message = some next) :
    ⟨.activeGoal, .emit .select⟩ ∈ next.account ∧
      ∀ key, ⟨.activeGoal, .emit key⟩ ∈ next.account → key = .select := by
  simp only [selectsDevice, Bool.and_eq_true, decide_eq_true_eq] at hselects
  obtain ⟨⟨hprocessed, hstate⟩, hgoal⟩ := hselects
  split at hgoal
  · next goal hactive =>
      cases hstep : goal.step model fuel (device.enter message).keypad.keypadContext with
      | none =>
        rw [hstep] at hgoal
        cases hgoal
      | some result =>
        rw [hstep, Option.any_some] at hgoal
        have hkey : result.context.emittedKey = some .select :=
          (ToggleGoal.selectsOnRow hstep hgoal).1
        rcases receive_cases h with ⟨hdropped, -⟩ | ⟨-, served, key, ackType, log, hserved, rfl⟩
        · exact absurd hprocessed hdropped
        obtain ⟨serviced, hservice, hrefresh⟩ := operate_normalOperation hstate hserved
        rcases serviceActiveGoal_cases hservice with
          ⟨hnone, -⟩ | ⟨goal', result', hsome, hresult, rfl⟩
        · rw [hactive] at hnone
          cases hnone
        obtain rfl : .toggle goal = goal' := Option.some_inj.mp (hactive.symm.trans hsome)
        rw [OneTouchGoal.step, hstep] at hresult
        obtain rfl : GoalStep.map .toggle result = result' := Option.some_inj.mp hresult
        have haccount := (device.enter message).account_work_takeGoalStep
          (GoalStep.map .toggle result)
        have hcontext : (GoalStep.map OneTouchGoal.toggle result).context = result.context := rfl
        rw [account_enter, nil_append, hcontext, hkey] at haccount
        have hgoalPart : ∀ key, ⟨.activeGoal, .emit key⟩ ∈
            ((device.enter message).work .activeGoal
              ((device.enter message).keypad.recordStep.takeGoalStep
                (GoalStep.map .toggle result))).account ↔ key = KeyCommand.select := by
          intro key
          rw [haccount]
          cases (GoalStep.map OneTouchGoal.toggle result).status <;>
            simp [endEvents, emitEvents, convertNavKeyCommand]
        have hboth : ∀ key, ⟨.activeGoal, .emit key⟩ ∈ served.account ↔
            key = KeyCommand.select := by
          intro key
          rcases (setpointRefreshStep_cases hrefresh).2 with hsame | ⟨-, waiting, emitted, hadds⟩
          · rw [hsame]
            exact hgoalPart key
          · rw [hadds, mem_append, hgoalPart key]
            simp
        exact ⟨(hboth .select).mpr rfl, fun key hmem => (hboth key).mp hmem⟩
  · cases hgoal

end OperatingDevice

/-- A device, with the explicit request that its goal is for, and the one that the Select is for
that waits to be sent. -/
structure ToggleWatch where
  device : OperatingDevice
  wish : Option ToggleWish := none
  waiting : Option ToggleWish := none

namespace ToggleWatch

def waits (model : MenuModel) (fuel : ℕ) (watch : ToggleWatch) (message : BusMessage)
    (next : OperatingDevice) : Option ToggleWish :=
  let selects := watch.device.selectsDevice model fuel message
  if next.emitsOther selects then none
  else if selects then watch.wish
  else watch.waiting

def follow (model : MenuModel) (fuel : ℕ) (watch : ToggleWatch) (event : OperatingEvent)
    (next : OperatingDevice) : ToggleWatch :=
  match event with
  | .message message _ =>
    { device := next
      wish :=
        if watch.device.selectsDevice model fuel message || next.keypad.activeGoal.isNone then
          none
        else watch.wish
      waiting := if message = .status then none else watch.waits model fuel message next }
  | .request request =>
    { watch with
      device := next
      wish :=
        if watch.device.starts request then request.wish watch.device.hub else watch.wish }
  | _ => { watch with device := next }

def attempt (model : MenuModel) (fuel : ℕ) (watch : ToggleWatch) (event : OperatingEvent) :
    Option ToggleWatch :=
  (watch.device.attempt model fuel event).map (watch.follow model fuel event)

/-- The Select of an explicit request is sent only if the device is as `P` says. -/
def TogglesOnly (P : DataHub → ToggleWish → Prop) (model : MenuModel) (fuel : ℕ)
    (watch : ToggleWatch) : OperatingEvent → Prop
  | .message message surroundings =>
    message = .status → watch.device.emulationActive = true →
      ∀ next, watch.device.receive model fuel surroundings message = some next →
        ∀ wish ∈ watch.waits model fuel message next, P watch.device.hub wish
  | _ => True

/-! ## The key that waits for a request -/

variable {model : MenuModel} {fuel : ℕ} {watch : ToggleWatch}

def SelectWaits (watch : ToggleWatch) : Prop :=
  watch.waiting.isSome = true → watch.device.keypad.keyCommandToSend = .select

variable {next : OperatingDevice} {message : BusMessage}

theorem SelectWaits.lastKey_eq (h : watch.SelectWaits) {surroundings : MessageSurroundings}
    (hnext : watch.device.receive model fuel surroundings message = some next)
    (hwaits : (watch.waits model fuel message next).isSome) :
    lastKey watch.device.keypad.keyCommandToSend (next.account.map Tagged.item) = .select := by
  unfold waits at hwaits
  dsimp only at hwaits
  split at hwaits
  · cases hwaits
  · next hother =>
      have hemits : ∀ entry ∈ next.account, ∀ key, entry.item = .emit key →
          watch.device.selectsDevice model fuel message ∧ entry.tag = .activeGoal := by
        intro entry hentry key hkey
        by_contra hnot
        refine hother (List.any_eq_true.mpr ⟨entry, hentry, ?_⟩)
        rw [hkey]
        simp only [Bool.not_eq_true', ← Bool.not_eq_true, Bool.and_eq_true, decide_eq_true_eq]
        exact hnot
      split at hwaits
      next hselects =>
        obtain ⟨hselect, honly⟩ := OperatingDevice.emits_of_selectsDevice hselects hnext
        refine lastKey_of_mem (List.mem_map.mpr ⟨_, hselect, rfl⟩) fun key hkey => ?_
        obtain ⟨⟨tag, item⟩, hentry, rfl⟩ := List.mem_map.mp hkey
        obtain rfl : tag = .activeGoal := (hemits _ hentry key rfl).2
        exact honly key hentry
      next hrests =>
        rw [lastKey_eq_self fun key hkey => ?_]
        · exact h hwaits
        · obtain ⟨entry, hentry, hitem⟩ := List.mem_map.mp hkey
          exact hrests (hemits entry hentry key hitem).1

theorem SelectWaits.attempt (h : watch.SelectWaits) {event : OperatingEvent}
    {watch' : ToggleWatch} (hattempt : watch.attempt model fuel event = some watch') :
    watch'.SelectWaits := by
  obtain ⟨next, hnext, rfl⟩ := Option.map_eq_some_iff.mp hattempt
  cases event with
  | message message surroundings =>
    intro hwaiting
    simp only [follow] at hwaiting ⊢
    split at hwaiting
    · cases hwaiting
    · next hmessage =>
        obtain ⟨key, hkey, hwaits⟩ := OperatingDevice.key_receive hnext
        rw [if_neg hmessage] at hwaits
        rw [hwaits, hkey, h.lastKey_eq hnext hwaiting]
  | request request =>
    have hsame : (watch.device.answer request).1.keypad.keyCommandToSend =
        watch.device.keypad.keyCommandToSend := by
      rcases watch.device.decides_answer request with ⟨result, hanswer⟩ | ⟨-, goal, hanswer⟩
      · exact congrArg (fun answer => answer.1.keypad.keyCommandToSend)
          (hanswer watch.device.keypad)
      · have hgoal : watch.device.answer request = watch.device.startGoal goal :=
          hanswer watch.device.keypad
        rw [hgoal, OperatingDevice.startGoal]
        split <;> rfl
    cases hnext
    exact fun hwaiting => hsame.trans (h hwaiting)
  | watchdogTimeout =>
    cases hnext
    have hsame : watch.device.watchdogTimeoutOccurred.keypad.keyCommandToSend =
        watch.device.keypad.keyCommandToSend := by
      unfold OperatingDevice.watchdogTimeoutOccurred
      split <;> rfl
    exact fun hwaiting => hsame.trans (h hwaiting)
  | requestFullRediscovery =>
    cases hnext
    have hsame : (watch.device.requestFullRediscovery model).1.keypad.keyCommandToSend =
        watch.device.keypad.keyCommandToSend := by
      unfold OperatingDevice.requestFullRediscovery OneTouchDevice.requestFullRediscovery
      split_ifs <;> rfl
    exact fun hwaiting => hsame.trans (h hwaiting)
  | suppressEmulation | configureRefresh | hubUpdate | queryDiscovery =>
    cases hnext
    exact h

/-- What goes out for an explicit request is a Select. -/
def SendsSelect (model : MenuModel) (fuel : ℕ) (watch : ToggleWatch) : OperatingEvent → Prop
  | .message message surroundings =>
    message = .status → watch.device.emulationActive = true →
      ∀ next, watch.device.receive model fuel surroundings message = some next →
        (watch.waits model fuel message next).isSome = true → next.sentKey = some .select
  | _ => True

theorem sendsSelect (model : MenuModel) (fuel : ℕ) (emulated : Bool) (hub : DataHub)
    (events : List OperatingEvent) :
    EachStepTaken (attempt model fuel) (SendsSelect model fuel)
      { device := .initial emulated hub } events := by
  have hstart : SelectWaits { device := .initial emulated hub } :=
    nofun
  refine eachStepTaken_true.of_invariant (fun _ _ _ hattempt h _ => h.attempt hattempt)
    (fun watch event h _ => ?_) hstart
  cases event with
  | message message surroundings =>
    intro hmessage hactive next hnext hwaits
    obtain ⟨key, hkey, hsent⟩ := OperatingDevice.key_receive hnext
    obtain rfl : key = .select := hkey.trans (h.lastKey_eq hnext hwaits)
    rw [if_pos hmessage] at hsent
    exact hsent hactive (by decide)
  | _ => trivial

/-! ## What was known when the request was taken on -/

/-- No device that a goal or a waiting Select is to switch was known to be as it is wanted. -/
structure AllTaken (watch : ToggleWatch) : Prop where
  wish : ∀ wish ∈ watch.wish, wish.known ≠ some wish.on
  waiting : ∀ wish ∈ watch.waiting, wish.known ≠ some wish.on

theorem AllTaken.waits (h : watch.AllTaken) :
    ∀ wish ∈ watch.waits model fuel message next, wish.known ≠ some wish.on := by
  intro wish hwish
  unfold ToggleWatch.waits at hwish
  dsimp only at hwish
  split_ifs at hwish
  · cases hwish
  · exact h.wish wish hwish
  · exact h.waiting wish hwish

theorem AllTaken.follow (h : watch.AllTaken) (event : OperatingEvent) (next : OperatingDevice) :
    (watch.follow model fuel event next).AllTaken := by
  cases event with
  | message message surroundings =>
    constructor
    case wish =>
      intro wish hwish
      simp only [ToggleWatch.follow] at hwish
      split_ifs at hwish
      · cases hwish
      · exact h.wish wish hwish
    case waiting =>
      intro wish hwish
      simp only [ToggleWatch.follow] at hwish
      split_ifs at hwish
      · cases hwish
      · exact h.waits wish hwish
  | request request =>
    refine ⟨fun wish hwish => ?_, h.waiting⟩
    simp only [ToggleWatch.follow] at hwish
    split_ifs at hwish with hstarts
    · exact OperatingDevice.taken_of_starts hstarts hwish
    · exact h.wish wish hwish
  | _ => exact ⟨h.wish, h.waiting⟩

theorem AllTaken.togglesOnly (h : watch.AllTaken) (event : OperatingEvent) :
    watch.TogglesOnly (fun hub wish => wish.Justified hub) model fuel event := by
  cases event with
  | message message surroundings =>
    intro _ _ next _ wish hwish
    exact ToggleWish.justified_iff.mpr (h.waits wish hwish)
  | _ => trivial

/-- Whatever happens in whatever order: a Select goes out for an explicit request only if the
device was not known to be as it is wanted when the request was taken on. -/
theorem togglesOnly_justified (model : MenuModel) (fuel : ℕ) (emulated : Bool) (hub : DataHub)
    (events : List OperatingEvent) :
    EachStepTaken (attempt model fuel)
      (TogglesOnly (fun hub wish => wish.Justified hub) model fuel)
      { device := .initial emulated hub } events := by
  have hstart : AllTaken { device := .initial emulated hub } :=
    ⟨fun _ hwish => (Option.not_mem_none _ hwish).elim,
      fun _ hwish => (Option.not_mem_none _ hwish).elim⟩
  refine eachStepTaken_true.of_invariant (fun watch event watch' hattempt h _ => ?_)
    (fun _ event h _ => h.togglesOnly event) hstart
  obtain ⟨next, -, rfl⟩ := Option.map_eq_some_iff.mp hattempt
  exact h.follow event next

end ToggleWatch

end AqualinkAutomate.OneTouch
