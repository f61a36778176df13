import Aqualink.Auth.AccessToken
import Aqualink.Equipment.Devices
import Aqualink.Scheduling.SchedulerService

/-!
# The authority of a schedule

A schedule acts on its own when it fires, so whoever saves it must be entitled to what it
does.  For a button the schedule names a device by its label: `authorizeScheduleAction`
asks the policy engine for every device that has the label at that time, and firing looks
the label up once more, in the devices as they are by then.

So the check speaks of the devices that had the label when the schedule was saved, and the
schedule drives the one that has it when it fires.  `LabelKeepsDevice` says when that is
the same, and `authority_kept_iff` that nothing less would do.
-/

namespace AqualinkAutomate.Scheduling

open Auth Equipment

/-! ## The policy engine -/

inductive Decision where
  | permit
  | deny
  deriving DecidableEq

/-- `PolicyEngine::Decide`, for the resource of an id. -/
def PolicyEngine.decide (subject : Subject) (action resourceId : String) (authEnabled : Bool) :
    Decision :=
  if authEnabled = false then
    .permit
  else if subject.entitlements.permits Vocabulary.systemAdmin "" then
    .permit
  else if subject.entitlements.permits action resourceId then
    .permit
  else
    .deny

/-! ## Saving a schedule -/

namespace ActionType

def entitlement : ActionType → String
  | .poolSetpoint => "equipment.control.setpoints"
  | .spaSetpoint => "equipment.control.setpoints"
  | .chlorinatorPercent => "equipment.control.chlorinator"
  | .circulationMode => "equipment.control.circulation"
  | _ => "equipment.control.aux"

def isButtonAction : ActionType → Bool
  | .buttonOn => true
  | .buttonOff => true
  | .buttonToggle => true
  | _ => false

end ActionType

/-- The subject may save the schedule; the error says why not. -/
def authorizeScheduleAction (subject : Subject) (schedule : Schedule) (graph : DevicesGraph)
    (authEnabled : Bool) : Except String Unit :=
  let target := schedule.action.target
  let entitlement := schedule.action.type.entitlement
  let permitted (resourceId : String) : Bool :=
    PolicyEngine.decide subject entitlement resourceId authEnabled = .permit
  if schedule.action.type.isButtonAction then
    let devices := graph.findByLabel target
    if devices.isEmpty then
      -- fail closed, but without authentication there is no gate at all
      if authEnabled then
        .error ("schedule targets an unknown device '" ++ target ++ "'")
      else
        .ok ()
    else if devices.all fun device => permitted device.id.toText then
      .ok ()
    else
      .error ("not entitled to control '" ++ target ++
        "' — a schedule may only perform actions you can perform directly")
  else if permitted "" then
    -- the other actions are not about one resource
    .ok ()
  else
    .error ("not entitled to '" ++ entitlement ++
      "' — a schedule may only perform actions you can perform directly")

/-! ## Firing it -/

/-- The device that the schedule drives when it fires, and how. -/
def drivenDevice (deriveStableUuid : String → Uuid) (mode : Option EquipmentMode)
    (hasDispatcher : Bool) (schedule : Schedule) (graph : DevicesGraph) :
    Option (AuxillaryDevice × DeviceAction) :=
  match fire mode hasDispatcher schedule with
  | some (.commandByLabel label action) =>
    (deviceForLabel deriveStableUuid graph label).map fun device => (device, action)
  | _ => none

/-- Whoever may save the schedule may command the device that it drives. -/
def AuthorityKept (deriveStableUuid : String → Uuid) (schedule : Schedule)
    (atSave atFire : DevicesGraph) : Prop :=
  ∀ subject, authorizeScheduleAction subject schedule atSave true = .ok () →
    ∀ mode hasDispatcher device action,
      drivenDevice deriveStableUuid mode hasDispatcher schedule atFire = some (device, action) →
        PolicyEngine.decide subject schedule.action.type.entitlement device.id.toText true =
          .permit

def LabelKeepsDevice (deriveStableUuid : String → Uuid) (label : String)
    (atSave atFire : DevicesGraph) : Prop :=
  ∀ device, deviceForLabel deriveStableUuid atFire label = some device →
    atSave.findByLabel label ≠ [] → ∃ before ∈ atSave.findByLabel label, before.id = device.id

theorem authorizeScheduleAction_eq_ok {subject : Subject} {schedule : Schedule}
    {graph : DevicesGraph} (hbutton : schedule.action.type.isButtonAction) :
    authorizeScheduleAction subject schedule graph true = .ok () ↔
      graph.findByLabel schedule.action.target ≠ [] ∧
        ∀ device ∈ graph.findByLabel schedule.action.target,
          PolicyEngine.decide subject schedule.action.type.entitlement device.id.toText true =
            .permit := by
  simp only [authorizeScheduleAction, hbutton, if_true, List.isEmpty_iff]
  split
  next hnone => simp [hnone]
  next hsome =>
    split
    next hall => simpa [hsome] using hall
    next hall => simpa [hsome] using hall

section

variable {deriveStableUuid : String → Uuid} {schedule : Schedule} {graph : DevicesGraph}
variable {device : AuxillaryDevice}

theorem drivenDevice_eq_some {mode : Option EquipmentMode} {hasDispatcher : Bool}
    {action : DeviceAction}
    (h : drivenDevice deriveStableUuid mode hasDispatcher schedule graph = some (device, action)) :
    deviceForLabel deriveStableUuid graph schedule.action.target = some device := by
  rw [drivenDevice] at h
  split at h
  · next label fired hfire =>
      have hlabel : label = schedule.action.target := by
        rw [fire] at hfire
        split at hfire
        · simp at hfire
        · split at hfire
          · rw [Action.dispatcherCall] at hfire
            cases htype : schedule.action.type <;> simp [htype] at hfire <;> simp [hfire]
          · simp at hfire
      rw [← hlabel]
      cases hdevice : deviceForLabel deriveStableUuid graph label with
      | none => simp [hdevice] at h
      | some found =>
        simp only [hdevice, Option.map_some, Option.some_inj, Prod.mk.injEq] at h
        rw [h.1]
  · simp at h

theorem exists_drivenDevice (hbutton : schedule.action.type.isButtonAction)
    (hdevice : deviceForLabel deriveStableUuid graph schedule.action.target = some device) :
    ∃ action, drivenDevice deriveStableUuid none true schedule graph = some (device, action) := by
  cases htype : schedule.action.type with
  | buttonOn => exact ⟨.on, by simp [drivenDevice, fire, Action.dispatcherCall, htype, hdevice]⟩
  | buttonOff => exact ⟨.off, by simp [drivenDevice, fire, Action.dispatcherCall, htype, hdevice]⟩
  | buttonToggle =>
    exact ⟨.toggle, by simp [drivenDevice, fire, Action.dispatcherCall, htype, hdevice]⟩
  | _ => simp [htype, ActionType.isButtonAction] at hbutton

end

/-! ## The subject with the least authority -/

def controlEntitlement (id : Uuid) : Entitlement where
  action := "equipment.control.aux"
  selector := some id.toText
  action_valid := by decide
  selector_ne_empty := by
    intro hempty
    have hdash := id.dash_mem_toText
    rw [Option.some_inj.mp hempty] at hdash
    simp at hdash

/-- Somebody who may control these devices and do nothing else. -/
def controllerOf (devices : List AuxillaryDevice) : Subject where
  id := "user-1"
  authenticated := true
  provider := .localAccount
  groups := []
  entitlements :=
    (devices.map fun device => controlEntitlement device.id).foldl EntitlementSet.add .empty
  tokenVersion := 1

variable {devices : List AuxillaryDevice}

theorem mem_controllerOf {entitlement : Entitlement} :
    entitlement ∈ (controllerOf devices).entitlements ↔
      ∃ device ∈ devices, controlEntitlement device.id = entitlement := by
  simp [controllerOf, EntitlementSet.mem_foldl_add]

theorem matchesRequest_controlEntitlement {id other : Uuid} :
    (controlEntitlement id).matchesRequest "equipment.control.aux" other.toText ↔
      id = other := by
  have hwildcard : id.toText ≠ "*" := by
    intro h
    have hdash := id.dash_mem_toText
    rw [h] at hdash
    exact absurd hdash (by decide)
  rw [Entitlement.matchesRequest, if_neg (by simp [controlEntitlement])]
  simp only [controlEntitlement, Bool.or_eq_true, beq_iff_eq, hwildcard, false_or]
  exact Uuid.toText_injective.eq_iff

theorem decide_controllerOf {id : Uuid} :
    PolicyEngine.decide (controllerOf devices) "equipment.control.aux" id.toText true = .permit ↔
      ∃ device ∈ devices, device.id = id := by
  have hadmin : ¬ (controllerOf devices).entitlements.permits Vocabulary.systemAdmin "" := by
    rw [EntitlementSet.permits_iff]
    rintro ⟨entitlement, hmem, hmatches⟩
    obtain ⟨device, -, rfl⟩ := mem_controllerOf.mp hmem
    have hother : (controlEntitlement device.id).action ≠ Vocabulary.systemAdmin := by
      show "equipment.control.aux" ≠ "system.admin"
      decide
    simp [Entitlement.matchesRequest, hother] at hmatches
  have hpermits : (controllerOf devices).entitlements.permits "equipment.control.aux" id.toText ↔
      ∃ device ∈ devices, device.id = id := by
    rw [EntitlementSet.permits_iff]
    constructor
    · rintro ⟨entitlement, hmem, hmatches⟩
      obtain ⟨device, hdevice, rfl⟩ := mem_controllerOf.mp hmem
      exact ⟨device, hdevice, matchesRequest_controlEntitlement.mp hmatches⟩
    · rintro ⟨device, hdevice, hid⟩
      exact ⟨_, mem_controllerOf.mpr ⟨device, hdevice, rfl⟩,
        matchesRequest_controlEntitlement.mpr hid⟩
  rw [PolicyEngine.decide, if_neg (by decide), if_neg hadmin, ← hpermits]
  split
  next hpermit => simp [hpermit]
  next hdeny => simp [hdeny]

/-! ## The authority is kept -/

/-- Saving a button's schedule gives no more authority than its author has, whoever that
is, exactly if the device that its label stands for when it fires is one that had the
label when it was saved, or if nobody could save it because there was none. -/
theorem authority_kept_iff (deriveStableUuid : String → Uuid) {schedule : Schedule}
    (hbutton : schedule.action.type.isButtonAction) (atSave atFire : DevicesGraph) :
    AuthorityKept deriveStableUuid schedule atSave atFire ↔
      LabelKeepsDevice deriveStableUuid schedule.action.target atSave atFire := by
  have hentitlement : schedule.action.type.entitlement = "equipment.control.aux" := by
    cases htype : schedule.action.type <;>
      simp [htype, ActionType.isButtonAction, ActionType.entitlement] at hbutton ⊢
  constructor
  · intro hkept device hdevice hlabelled
    -- the author may control the devices of the label and nothing else
    have hsaved : authorizeScheduleAction
        (controllerOf (atSave.findByLabel schedule.action.target)) schedule atSave true =
          .ok () := by
      rw [authorizeScheduleAction_eq_ok hbutton, hentitlement]
      exact ⟨hlabelled, fun device hmem => decide_controllerOf.mpr ⟨device, hmem, rfl⟩⟩
    obtain ⟨action, hdriven⟩ := exists_drivenDevice hbutton hdevice
    have hpermit := hkept _ hsaved none true device action hdriven
    rwa [hentitlement, decide_controllerOf] at hpermit
  · intro hkeeps subject hsaved mode hasDispatcher device action hdriven
    obtain ⟨hlabelled, hpermitted⟩ := (authorizeScheduleAction_eq_ok hbutton).mp hsaved
    obtain ⟨before, hmem, hid⟩ := hkeeps device (drivenDevice_eq_some hdriven) hlabelled
    rw [← hid]
    exact hpermitted before hmem

/-! ### A relabelled pool -/

/-- The two auxiliaries of the pool. -/
def lightId : Uuid := Vector.replicate 16 1
def heatPumpId : Uuid := Vector.replicate 16 2

def poolUuid (nativeKey : String) : Uuid :=
  if nativeKey = auxNativeKey .aux1 then lightId else heatPumpId

/-- Switch the pool light on at half past nine in the evening, every day. -/
def lightSchedule : Schedule where
  uuid := "light"
  name := "Light"
  daysOfWeek := 0x7F
  hour := 21
  minute := 30
  action := { type := .buttonOn, target := "Pool Light" }

def labelledPool : DevicesGraph :=
  ⟨[⟨lightId, some "Pool Light"⟩, ⟨heatPumpId, some "Heat Pump"⟩]⟩

/-- The pool after the labels were swapped. -/
def relabelledPool : DevicesGraph :=
  ⟨[⟨lightId, some "Heat Pump"⟩, ⟨heatPumpId, some "Pool Light"⟩]⟩

/-- The devices may change in any way, as long as the label stays where it is. -/
theorem authority_kept_pool :
    AuthorityKept poolUuid lightSchedule labelledPool
      ⟨[⟨heatPumpId, none⟩, ⟨lightId, some "Pool Light"⟩]⟩ := by
  refine (authority_kept_iff poolUuid rfl _ _).mpr ?_
  intro device hdevice _
  have hlight : device = ⟨lightId, some "Pool Light"⟩ := (Option.some_inj.mp hdevice).symm
  exact ⟨⟨lightId, some "Pool Light"⟩, by decide, by rw [hlight]⟩

/-- Somebody who may control nothing but the pool light saves the schedule, the labels are
swapped, and the schedule switches the heat pump on. -/
theorem schedule_drives_heatPump :
    authorizeScheduleAction (controllerOf [⟨lightId, some "Pool Light"⟩]) lightSchedule
        labelledPool true = .ok () ∧
      drivenDevice poolUuid (some .normal) true lightSchedule relabelledPool =
        some (⟨heatPumpId, some "Pool Light"⟩, .on) ∧
      PolicyEngine.decide (controllerOf [⟨lightId, some "Pool Light"⟩]) "equipment.control.aux"
        heatPumpId.toText true = .deny ∧
      ¬ AuthorityKept poolUuid lightSchedule labelledPool relabelledPool := by
  have hsaved : authorizeScheduleAction (controllerOf [⟨lightId, some "Pool Light"⟩])
      lightSchedule labelledPool true = .ok () := by decide +kernel
  have hdeny : PolicyEngine.decide (controllerOf [⟨lightId, some "Pool Light"⟩])
      "equipment.control.aux" heatPumpId.toText true = .deny := by decide +kernel
  refine ⟨hsaved, rfl, hdeny, fun hkept => ?_⟩
  have hpermit := hkept _ hsaved (some .normal) true _ _ rfl
  exact absurd (hpermit.symm.trans hdeny) (by decide)

end AqualinkAutomate.Scheduling
