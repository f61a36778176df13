import Aqualink.Alerting.AlertMonitor
import Aqualink.Mqtt.Discovery

/-!
# The keys of the components

A config is one JSON object of components, and each of the builders puts its components in under
their keys.  The keys of the system are fixed.  The keys of a device are its category, the slug of
its label and, for all aspects but the first, a suffix.

The categories start differently from one another and from each fixed key.  So two components
can have one key only in the same category, where the slug of one device is the slug of another
one and what a suffix has in front of another suffix (`nodup_componentKeys_iff`).
-/

namespace AqualinkAutomate.Mqtt

open Alerting Equipment General Hub List

/-! ## The components -/

/-- A component, less its topics and templates. -/
structure Component where
  key : String
  platform : String
  name : String
  deriving DecidableEq

/-- What the builders read of the data hub.  A device without a label counts as `none`. -/
structure DiscoveryHub where
  bodies : List BodyOfWaterIds := []
  poolConfiguration : PoolConfigurations := .unknown
  pumps : List (Option String) := []
  heaters : List (Option String) := []
  chlorinators : List (Option String) := []
  auxillaries : List (Option String) := []
  lights : List (Option String) := []
  deriving DecidableEq

def resolveBodyPresence (hub : Option DiscoveryHub) : Bool × Bool :=
  match hub with
  | some hub =>
    if hub.bodies.isEmpty then (true, true) else (.pool ∈ hub.bodies, .spa ∈ hub.bodies)
  | none => (true, true)

def emitted {α : Type*} (entries : List (Bool × α)) : List α :=
  entries.filterMap fun entry => if entry.1 then some entry.2 else none

def addTemperatureSensorComponents (hub : Option DiscoveryHub) : List Component :=
  let (hasPool, hasSpa) := resolveBodyPresence hub
  let sensors := emitted
    [(hasPool, ⟨"pool_temp", "sensor", "Pool Temperature"⟩),
      (hasSpa, ⟨"spa_temp", "sensor", "Spa Temperature"⟩),
      (true, ⟨"air_temp", "sensor", "Air Temperature"⟩),
      (true, ⟨"freeze_protect_temp", "sensor", "Freeze Protect Temperature"⟩)]
  let freshness := emitted
    [(hasPool, ("Pool Temperature", "pool_temp")), (hasSpa, ("Spa Temperature", "spa_temp")),
      (true, ("Air Temperature", "air_temp"))]
  sensors ++ freshness.flatMap fun (name, idBase) =>
    [⟨idBase ++ "_updated", "sensor", name ++ " Last Updated"⟩,
      ⟨idBase ++ "_stale", "binary_sensor", name ++ " Stale"⟩]

def addSetpointComponents (hub : Option DiscoveryHub) : List Component :=
  let (hasPool, hasSpa) := resolveBodyPresence hub
  emitted
    [(hasPool, ⟨"pool_setpoint", "number", "Pool Setpoint"⟩),
      (hasSpa, ⟨"spa_setpoint", "number", "Spa Setpoint"⟩)] ++
    [⟨"pool_setpoint_2", "sensor", "Pool Setpoint 2"⟩,
      ⟨"pool_heater_2_enabled", "binary_sensor", "Pool Heater 2 (TEMP2)"⟩]

def addChemistrySensorComponents : List Component :=
  [⟨"orp", "sensor", "ORP"⟩, ⟨"ph", "sensor", "pH"⟩, ⟨"salt_level", "sensor", "Salt Level"⟩]

def addCirculationComponents (hub : Option DiscoveryHub) : List Component :=
  let isDualBody := hub.any fun hub =>
    hub.poolConfiguration = .dualBodySharedEquipment ||
      hub.poolConfiguration = .dualBodyDualEquipment
  [⟨"circulation_mode", "sensor", "Circulation Mode"⟩,
    ⟨"equipment_mode", "sensor", "Equipment Mode"⟩,
    ⟨"spa_mode", "binary_sensor", "Spa Mode"⟩,
    ⟨"clean_mode", "binary_sensor", "Clean Mode"⟩] ++
  if isDualBody then
    [⟨"spa_mode_switch", "switch", "Spa Mode"⟩,
      ⟨"circulation_mode_select", "select", "Circulation Mode"⟩]
  else []

def addSystemComponents : List Component := [⟨"uptime", "sensor", "Uptime"⟩]

def alertConditions : List (String × String) :=
  [(ConditionKeys.chlorinatorFault, "Chlorinator Fault"),
    (ConditionKeys.chlorinatorWarning, "Chlorinator Warning"),
    (ConditionKeys.saltLow, "Salt Low"),
    (ConditionKeys.serviceMode, "Service Mode"),
    (ConditionKeys.serialCommsLoss, "Serial Comms Loss"),
    (ConditionKeys.temperatureStale, "Temperature Stale")]

def addAlertComponents : List Component :=
  alertConditions.map fun (key, friendlyName) =>
    ⟨"alert_" ++ key, "binary_sensor", friendlyName⟩

def deviceKey (category : DeviceCategory) (label suffix : String) : String :=
  category.name ++ "_" ++ slugify label ++ suffix

def addDeviceSwitch (category : DeviceCategory) (label : String) : List Component :=
  [⟨deviceKey category label "", "switch", label⟩]

def addSensor (category : DeviceCategory) (label : String) : List Component :=
  [⟨deviceKey category label "", "sensor", label⟩]

def chlorinatorSensors : List (String × String) :=
  [("generating", "Generating %"), ("setpoint", "Target %"), ("reason", "Output State"),
    ("boost", "Boost Mode"), ("health", "Health"), ("health_flags", "Active Warnings")]

def addChlorinatorComponents (label : String) : List Component :=
  (chlorinatorSensors.map fun (keySuffix, nameSuffix) =>
    ⟨deviceKey .chlorinator label ("_" ++ keySuffix), "sensor", label ++ " " ++ nameSuffix⟩) ++
  [⟨deviceKey .chlorinator label "_pct_cmd", "number", label ++ " Pool Output"⟩,
    ⟨deviceKey .chlorinator label "_spa_pct_cmd", "number", label ++ " Spa Output"⟩,
    ⟨deviceKey .chlorinator label "_boost_cmd", "switch", label ++ " Boost"⟩]

def addLightComponents (label : String) : List Component :=
  addSensor .light label ++
    [⟨deviceKey .light label "_on", "binary_sensor", label ++ " On"⟩,
      ⟨deviceKey .light label "_mode", "sensor", label ++ " Colour Mode"⟩]

def addHeaterComponents (label : String) : List Component :=
  addSensor .heater label ++ [⟨deviceKey .heater label "_switch", "switch", label ++ " Enable"⟩]

def addDeviceComponents : DeviceCategory → String → List Component
  | .pump, label => addDeviceSwitch .pump label
  | .chlorinator, label => addDeviceSwitch .chlorinator label ++ addChlorinatorComponents label
  | .auxillary, label => addDeviceSwitch .auxillary label
  | .light, label => addLightComponents label
  | .heater, label => addHeaterComponents label

def DeviceCategory.dynamicOrder : List DeviceCategory :=
  [.pump, .chlorinator, .auxillary, .light, .heater]

def DiscoveryHub.labels (hub : DiscoveryHub) : DeviceCategory → List String
  | .pump => hub.pumps.filterMap id
  | .chlorinator => hub.chlorinators.filterMap id
  | .auxillary => hub.auxillaries.filterMap id
  | .light => hub.lights.filterMap id
  | .heater => hub.heaters.filterMap id

def addDynamicDeviceComponents (hub : Option DiscoveryHub) : List Component :=
  match hub with
  | some hub => DeviceCategory.dynamicOrder.flatMap fun category =>
    (hub.labels category).flatMap (addDeviceComponents category)
  | none => []

def systemComponents (hub : Option DiscoveryHub) : List Component :=
  addTemperatureSensorComponents hub ++ addSetpointComponents hub ++
    addChemistrySensorComponents ++ addCirculationComponents hub ++ addSystemComponents ++
    addAlertComponents

/-- The components that `PublishDiscoveryConfigs` puts into the document one after the other. -/
def discoveryComponents (hub : Option DiscoveryHub) : List Component :=
  systemComponents hub ++ addDynamicDeviceComponents hub

def componentKeys (hub : Option DiscoveryHub) : List String :=
  (discoveryComponents hub).map Component.key

/-! ## The suffixes -/

namespace DeviceCategory

/-- What the keys of a device add to its slug. -/
def suffixes : DeviceCategory → List String
  | pump | auxillary => [""]
  | light => ["", "_on", "_mode"]
  | heater => ["", "_switch"]
  | chlorinator =>
    ["", "_generating", "_setpoint", "_reason", "_boost", "_health", "_health_flags", "_pct_cmd",
      "_spa_pct_cmd", "_boost_cmd"]

/-- What a label has to end with for a key of its device to be a key of another one. -/
def extensions (category : DeviceCategory) : List (List Char) :=
  General.extensions (category.suffixes.map String.toList)

theorem nodup_suffixes (category : DeviceCategory) :
    (category.suffixes.map String.toList).Nodup := by
  cases category <;> decide

def start (category : DeviceCategory) : List Char := (category.name ++ "_").toList

theorem start_inj {category other : DeviceCategory} {rest otherRest : List Char}
    (h : category.start ++ rest = other.start ++ otherRest) : category = other := by
  cases category <;> cases other <;> first | rfl | simp [start, name] at h

end DeviceCategory

theorem toList_deviceKey (category : DeviceCategory) (label suffix : String) :
    (deviceKey category label suffix).toList =
      category.start ++ ((slugify label).toList ++ suffix.toList) := by
  simp [deviceKey, DeviceCategory.start]

theorem keys_addDeviceComponents (category : DeviceCategory) (label : String) :
    (addDeviceComponents category label).map Component.key =
      category.suffixes.map (deviceKey category label) := by
  cases category <;> rfl

/-! ## The keys of the system -/

/-- A hub of two bodies, for which every component of the system is there. -/
def dualBodyHub : DiscoveryHub := { poolConfiguration := .dualBodySharedEquipment }

theorem emitted_sublist {α : Type*} (entries : List (Bool × α)) :
    (emitted entries).Sublist (entries.map Prod.snd) := by
  unfold emitted
  induction entries with
  | nil => exact .slnil
  | cons entry entries ih =>
    obtain ⟨isEmitted, value⟩ := entry
    cases isEmitted with
    | false => exact ih.cons value
    | true => exact ih.cons_cons value

theorem sublist_systemComponents (hub : Option DiscoveryHub) :
    (systemComponents hub).Sublist (systemComponents (some dualBodyHub)) := by
  have htemperatures : (addTemperatureSensorComponents hub).Sublist
      (addTemperatureSensorComponents (some dualBodyHub)) :=
    (emitted_sublist _).append ((emitted_sublist _).flatMap _)
  have hsetpoints : (addSetpointComponents hub).Sublist
      (addSetpointComponents (some dualBodyHub)) :=
    (emitted_sublist _).append (.refl _)
  have hcirculation : (addCirculationComponents hub).Sublist
      (addCirculationComponents (some dualBodyHub)) := by
    refine .append (.refl _) ?_
    split
    · exact .refl _
    · exact nil_sublist _
  exact ((((htemperatures.append hsetpoints).append (.refl _)).append hcirculation).append
    (.refl _)).append (.refl _)

theorem nodup_systemKeys (hub : Option DiscoveryHub) :
    ((systemComponents hub).map Component.key).Nodup := by
  have hall : ((systemComponents (some dualBodyHub)).map Component.key).Nodup := by decide
  exact hall.sublist ((sublist_systemComponents hub).map _)

theorem not_start_systemKeys (hub : Option DiscoveryHub) (category : DeviceCategory) :
    ∀ component ∈ systemComponents hub, ¬ category.start <+: component.key.toList := by
  have hall : ∀ component ∈ systemComponents (some dualBodyHub),
      ¬ category.start <+: component.key.toList := by
    cases category <;> decide
  exact fun component hmem => hall component ((sublist_systemComponents hub).subset hmem)

variable {component : Component}

theorem ne_deviceKey_of_system {hub : Option DiscoveryHub}
    (hmem : component ∈ systemComponents hub) (category : DeviceCategory) (label suffix : String) :
    component.key ≠ deviceKey category label suffix := by
  intro heq
  refine not_start_systemKeys hub category component hmem ?_
  rw [heq, toList_deviceKey]
  exact prefix_append _ _

/-! ## The keys of the devices -/

def DiscoveryHub.slugs (hub : DiscoveryHub) (category : DeviceCategory) : List (List Char) :=
  (hub.labels category).map fun label => (slugify label).toList

theorem toList_keys_category (hub : DiscoveryHub) (category : DeviceCategory) :
    (((hub.labels category).flatMap (addDeviceComponents category)).map Component.key).map
        String.toList =
      (suffixed (category.suffixes.map String.toList) (hub.slugs category)).map
        (category.start ++ ·) := by
  unfold suffixed DiscoveryHub.slugs
  simp only [map_flatMap, flatMap_map, keys_addDeviceComponents, map_map]
  congr 1
  funext label
  refine map_congr_left fun suffix _ => ?_
  simp [toList_deviceKey]

variable {hub : DiscoveryHub} {category : DeviceCategory}

theorem nodup_category_iff (hslugs : (hub.slugs category).Nodup) :
    (((hub.labels category).flatMap (addDeviceComponents category)).map Component.key).Nodup ↔
      ∀ slug ∈ hub.slugs category, ∀ other ∈ hub.slugs category,
        ∀ extension ∈ category.extensions, other ≠ slug ++ extension := by
  rw [← nodup_map_iff (fun _ _ => String.toList_injective), toList_keys_category,
    nodup_map_iff (append_right_injective category.start)]
  exact nodup_suffixed_iff hslugs category.nodup_suffixes

theorem key_of_category
    (hmem : component ∈ (hub.labels category).flatMap (addDeviceComponents category)) :
    ∃ label suffix, component.key = deviceKey category label suffix := by
  obtain ⟨label, -, hcomponent⟩ := List.mem_flatMap.mp hmem
  have hkey : component.key ∈ (addDeviceComponents category label).map Component.key :=
    mem_map_of_mem hcomponent
  rw [keys_addDeviceComponents] at hkey
  obtain ⟨suffix, -, hsuffix⟩ := List.mem_map.mp hkey
  exact ⟨label, suffix, hsuffix.symm⟩

theorem nodup_dynamic_iff (hub : DiscoveryHub) (hslugs : ∀ category, (hub.slugs category).Nodup) :
    ((addDynamicDeviceComponents (some hub)).map Component.key).Nodup ↔
      ∀ category, ∀ slug ∈ hub.slugs category, ∀ other ∈ hub.slugs category,
        ∀ extension ∈ category.extensions, other ≠ slug ++ extension := by
  unfold addDynamicDeviceComponents
  rw [map_flatMap, nodup_flatMap]
  have hall : ∀ category, category ∈ DeviceCategory.dynamicOrder := by
    intro category
    cases category <;> decide
  have hdisjoint : DeviceCategory.dynamicOrder.Pairwise (Function.onFun List.Disjoint
      fun category => ((hub.labels category).flatMap (addDeviceComponents category)).map
        Component.key) := by
    have hnodup : DeviceCategory.dynamicOrder.Nodup := by decide
    refine hnodup.pairwise_of_forall_ne fun category _ other _ hne => ?_
    intro key hkey hother
    obtain ⟨component, hcomponent, rfl⟩ := List.mem_map.mp hkey
    obtain ⟨otherComponent, hotherComponent, heq⟩ := List.mem_map.mp hother
    obtain ⟨label, suffix, hlabel⟩ := key_of_category hcomponent
    obtain ⟨otherLabel, otherSuffix, hotherLabel⟩ := key_of_category hotherComponent
    rw [hlabel, hotherLabel] at heq
    have htext := congrArg String.toList heq
    rw [toList_deviceKey, toList_deviceKey] at htext
    exact hne (DeviceCategory.start_inj htext).symm
  constructor
  · rintro ⟨hcategories, -⟩ category
    exact (nodup_category_iff (hslugs category)).mp (hcategories category (hall category))
  · intro hextends
    exact ⟨fun category _ => (nodup_category_iff (hslugs category)).mpr (hextends category),
      hdisjoint⟩

/-! ## The config -/

def DiscoveryHub.allSlugs (hub : DiscoveryHub) : List (List Char) :=
  DeviceCategory.dynamicOrder.flatMap hub.slugs

theorem DiscoveryHub.nodup_slugs (h : hub.allSlugs.Nodup) (category : DeviceCategory) :
    (hub.slugs category).Nodup := by
  have hall : category ∈ DeviceCategory.dynamicOrder := by cases category <;> decide
  exact (List.nodup_flatMap.mp h).1 category hall

/-- **Keys of the components.**  Where all the devices have different slugs, the keys of the
system and of the aspects of the devices are all different exactly if no device has the slug of
another one of its category followed by what one suffix of the category has in front of another
one: by a suffix, that is, or by `_spa` for a chlorinator. -/
theorem nodup_componentKeys_iff (hub : DiscoveryHub) (hslugs : hub.allSlugs.Nodup) :
    (componentKeys (some hub)).Nodup ↔
      ∀ category, ∀ slug ∈ hub.slugs category, ∀ other ∈ hub.slugs category,
        ∀ extension ∈ category.extensions, other ≠ slug ++ extension := by
  rw [← nodup_dynamic_iff hub (DiscoveryHub.nodup_slugs hslugs)]
  unfold componentKeys discoveryComponents
  rw [map_append, nodup_append']
  constructor
  · rintro ⟨-, hdynamic, -⟩
    exact hdynamic
  · intro hdynamic
    refine ⟨nodup_systemKeys (some hub), hdynamic, ?_⟩
    intro key hkey hother
    obtain ⟨component, hcomponent, rfl⟩ := List.mem_map.mp hkey
    obtain ⟨otherComponent, hotherComponent, heq⟩ := List.mem_map.mp hother
    obtain ⟨category, -, hcategory⟩ := List.mem_flatMap.mp hotherComponent
    obtain ⟨label, suffix, hlabel⟩ := key_of_category hcategory
    exact ne_deviceKey_of_system hcomponent category label suffix (heq.symm.trans hlabel)

/-- A usual installation: its keys are all different. -/
theorem nodup_componentKeys_of_combo :
    (componentKeys (some
      { bodies := [.pool, .spa]
        poolConfiguration := .dualBodySharedEquipment
        pumps := [some "Filter Pump"]
        heaters := [some "Pool Heat", some "Spa Heat", none]
        chlorinators := [some "AquaPure"]
        auxillaries := [some "Aux 1", some "Spa Switch"]
        lights := [some "Light 0xf0"] })).Nodup :=
  (nodup_componentKeys_iff _ (by decide)).mpr fun category => by cases category <;> decide

/-- Of two chlorinators, the spa output of the one and the pool output of the other one have the
same key. -/
theorem not_nodup_componentKeys_of_chlorinators :
    let hub : DiscoveryHub := { chlorinators := [some "AquaPure", some "AquaPure Spa"] }
    hub.allSlugs.Nodup ∧ ¬ (componentKeys (some hub)).Nodup := by
  decide

end AqualinkAutomate.Mqtt
