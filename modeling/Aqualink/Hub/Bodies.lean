import Aqualink.Equipment.Actuation
import Aqualink.General.FirstMatch
import Aqualink.General.Runs

/-!
# The bodies of water

The data hub is where the devices report to and the other parts of the program read from.
This file has what it knows of the bodies of water: the pool configuration, the circulation
mode, the bodies, and the temperatures that are reported of them.

A temperature is kept in two places, in the hub and in the body, which may be added to the hub
after the temperature was reported.  Temperatures are of any type whose values can be compared.
-/

namespace AqualinkAutomate.Hub

open Equipment General List Option

inductive PoolConfigurations where
  | singleBody | dualBodySharedEquipment | dualBodyDualEquipment | unknown
  deriving DecidableEq

inductive ConfigurationSource where
  | auto | userSpecified
  deriving DecidableEq

inductive CirculationModes where
  | pool | spa | spaFill | spaDrain | spillover
  deriving DecidableEq

/-- `SpaMode` -/
def CirculationModes.isSpa (mode : CirculationModes) : Bool :=
  decide (mode ∈ [CirculationModes.spa, .spaFill, .spaDrain])

/-- What is reported of a body of water. -/
inductive Reading where
  | poolTemp | spaTemp | poolTempSetpoint | spaTempSetpoint
  deriving DecidableEq

def Reading.body : Reading → BodyOfWaterIds
  | .poolTemp | .poolTempSetpoint => .pool
  | .spaTemp | .spaTempSetpoint => .spa

variable {τ : Type*}

/-! ## A body of water -/

structure BodyOfWater (τ : Type*) where
  id : BodyOfWaterIds
  label : String
  isActive : Bool := false
  currentTemp : Option τ := none
  tempSetpoint : Option τ := none
  deriving DecidableEq

namespace BodyOfWater

/-- `CurrentTemp` and `TempSetpoint` -/
def get (body : BodyOfWater τ) : Reading → Option τ
  | .poolTemp | .spaTemp => body.currentTemp
  | .poolTempSetpoint | .spaTempSetpoint => body.tempSetpoint

def set (value : τ) (body : BodyOfWater τ) : Reading → BodyOfWater τ
  | .poolTemp | .spaTemp => { body with currentTemp := some value }
  | .poolTempSetpoint | .spaTempSetpoint => { body with tempSetpoint := some value }

def setActive (active : Bool) (body : BodyOfWater τ) : BodyOfWater τ :=
  { body with isActive := active }

section

variable (value : τ) (body : BodyOfWater τ) (reading : Reading)

@[simp] theorem id_set : (body.set value reading).id = body.id := by
  cases reading <;> rfl

@[simp] theorem get_set_self : (body.set value reading).get reading = some value := by
  cases reading <;> rfl

end

theorem get_set_of_ne {reading other : Reading} (hne : other ≠ reading)
    (hbody : other.body = reading.body) (value : τ) (body : BodyOfWater τ) :
    (body.set value reading).get other = body.get other := by
  cases reading <;> cases other <;> first | rfl | exact absurd rfl hne | cases hbody

section

variable (active : Bool) (body : BodyOfWater τ)

@[simp] theorem get_setActive (reading : Reading) :
    (body.setActive active).get reading = body.get reading := by
  cases reading <;> rfl

@[simp] theorem id_setActive :
    (body.setActive active).id = body.id := rfl

@[simp] theorem isActive_setActive :
    (body.setActive active).isActive = active := rfl

end

end BodyOfWater

/-! ## The hub -/

/-- What the hub tells its listeners. -/
inductive ConfigEvent (τ : Type*) where
  | temperature (reading : Reading) (value : τ)
  | circulation (mode : CirculationModes) (bodies : List (BodyOfWaterIds × Bool))
  deriving DecidableEq

structure DataHub (τ : Type*) where
  poolConfiguration : PoolConfigurations := .unknown
  poolConfigurationSource : ConfigurationSource := .auto
  circulationMode : CirculationModes := .pool
  bodies : List (BodyOfWater τ) := []
  /-- What was reported, whether there is a body or not. -/
  reported : Reading → Option τ := fun _ => none

namespace DataHub

def getBody (hub : DataHub τ) (id : BodyOfWaterIds) : Option (BodyOfWater τ) :=
  hub.bodies.find? fun body => body.id = id

def modifyBody (hub : DataHub τ) (id : BodyOfWaterIds) (f : BodyOfWater τ → BodyOfWater τ) :
    DataHub τ :=
  { hub with bodies := modifyFirst (fun body => body.id = id) f hub.bodies }

def addBody (hub : DataHub τ) (body : BodyOfWater τ) : DataHub τ :=
  if hub.bodies.any fun existing => existing.id = body.id then hub
  else { hub with bodies := hub.bodies ++ [body] }

/-! ### Readings -/

/-- A body that is there is asked first. -/
def read (hub : DataHub τ) (reading : Reading) : Option τ :=
  match hub.getBody reading.body with
  | some body => body.get reading
  | none => hub.reported reading

/-- A value that was never reported counts as another one. -/
def temperatureChanged [DecidableEq τ] (current : Option τ) (next : τ) : Bool :=
  current ≠ some next

def write [DecidableEq τ] (hub : DataHub τ) (reading : Reading) (value : τ) :
    DataHub τ × List (ConfigEvent τ) :=
  ({ hub with reported := Function.update hub.reported reading (some value) }.modifyBody
      reading.body fun body => body.set value reading,
    if temperatureChanged (hub.reported reading) value then [.temperature reading value] else [])

def writePoolTemp [DecidableEq τ] (hub : DataHub τ) := hub.write .poolTemp

def writeSpaTemp [DecidableEq τ] (hub : DataHub τ) := hub.write .spaTemp

def writePoolTempSetpoint [DecidableEq τ] (hub : DataHub τ) := hub.write .poolTempSetpoint

def writeSpaTempSetpoint [DecidableEq τ] (hub : DataHub τ) := hub.write .spaTempSetpoint

def poolTemp (hub : DataHub τ) : Option τ := hub.read .poolTemp

def spaTemp (hub : DataHub τ) : Option τ := hub.read .spaTemp

def poolTempSetpoint (hub : DataHub τ) : Option τ := hub.read .poolTempSetpoint

def spaTempSetpoint (hub : DataHub τ) : Option τ := hub.read .spaTempSetpoint

/-! ### Configurations -/

def configuredBodies (config : PoolConfigurations) (singleBodyKind : BodyOfWaterIds) :
    List (BodyOfWater τ) :=
  match config with
  | .dualBodySharedEquipment | .dualBodyDualEquipment =>
    [{ id := .pool, label := "Pool" }, { id := .spa, label := "Spa" }]
  | .singleBody =>
    if singleBodyKind = .spa then [{ id := .spa, label := "Spa" }]
    else [{ id := .pool, label := "Pool" }]
  | .unknown => []

def activateBodies (hub : DataHub τ) (config : PoolConfigurations) : DataHub τ :=
  if config = .singleBody then
    { hub with bodies := hub.bodies.modifyHead (BodyOfWater.setActive true) }
  else
    (hub.modifyBody .pool (BodyOfWater.setActive !hub.circulationMode.isSpa)).modifyBody .spa
      (BodyOfWater.setActive hub.circulationMode.isSpa)

/-- Bodies that are there already stay as they are. -/
def applyPoolConfiguration (hub : DataHub τ) (config : PoolConfigurations)
    (source : ConfigurationSource) (singleBodyKind : BodyOfWaterIds) : DataHub τ :=
  let hub := { hub with poolConfiguration := config, poolConfigurationSource := source }
  if hub.bodies ≠ [] then hub
  else ((configuredBodies config singleBodyKind).foldl addBody hub).activateBodies config

def activity (hub : DataHub τ) (id : BodyOfWaterIds) : Option Bool :=
  (hub.getBody id).map BodyOfWater.isActive

def followMode (hub : DataHub τ) (mode : CirculationModes) : DataHub τ :=
  if (hub.getBody .pool).isSome ∧ (hub.getBody .spa).isSome then
    (hub.modifyBody .pool (BodyOfWater.setActive !mode.isSpa)).modifyBody .spa
      (BodyOfWater.setActive mode.isSpa)
  else hub

/-- The listeners are told if anything changes. -/
def setCirculationMode (hub : DataHub τ) (mode : CirculationModes) :
    DataHub τ × List (ConfigEvent τ) :=
  let moved := { hub with circulationMode := mode }.followMode mode
  (moved, if hub.circulationMode = mode ∧ moved.activity .pool = hub.activity .pool ∧
        moved.activity .spa = hub.activity .spa then []
    else [.circulation mode (moved.bodies.map fun body => (body.id, body.isActive))])

/-! ## What the operations leave alone -/

variable {hub : DataHub τ} {id other : BodyOfWaterIds} {f : BodyOfWater τ → BodyOfWater τ}

theorem getBody_modifyBody_self (h : ∀ body : BodyOfWater τ, (f body).id = body.id) :
    (hub.modifyBody id f).getBody id = (hub.getBody id).map f :=
  find?_modifyFirst fun body hbody => by
    rw [decide_eq_true_eq] at hbody ⊢
    exact (h body).trans hbody

theorem getBody_modifyBody_of_ne (h : ∀ body : BodyOfWater τ, (f body).id = body.id)
    (hne : other ≠ id) : (hub.modifyBody id f).getBody other = hub.getBody other :=
  find?_modifyFirst_of_disjoint fun body hbody => by
    rw [decide_eq_true_eq] at hbody
    rw [h body, hbody]
    exact ⟨decide_eq_false hne.symm, decide_eq_false hne.symm⟩

theorem read_modifyBody (hid : ∀ body : BodyOfWater τ, (f body).id = body.id)
    (hget : ∀ (body : BodyOfWater τ) reading, (f body).get reading = body.get reading)
    (reading : Reading) : (hub.modifyBody id f).read reading = hub.read reading := by
  unfold read
  by_cases hbody : reading.body = id
  · rw [hbody, getBody_modifyBody_self hid]
    cases hub.getBody id with
    | none => rfl
    | some body => exact hget body reading
  · rw [getBody_modifyBody_of_ne hid hbody]
    rfl

theorem read_modifyBody_setActive (active : Bool) (reading : Reading) :
    (hub.modifyBody id (BodyOfWater.setActive active)).read reading = hub.read reading := by
  have hid : ∀ body : BodyOfWater τ, (body.setActive active).id = body.id := fun _ => rfl
  exact read_modifyBody hid (fun body => body.get_setActive active) reading

theorem read_followMode (mode : CirculationModes) (reading : Reading) :
    (hub.followMode mode).read reading = hub.read reading := by
  unfold followMode
  split
  · rw [read_modifyBody_setActive, read_modifyBody_setActive]
  · rfl

theorem read_setCirculationMode (mode : CirculationModes) (reading : Reading) :
    (hub.setCirculationMode mode).1.read reading = hub.read reading :=
  read_followMode mode reading

theorem reported_followMode (mode : CirculationModes) :
    (hub.followMode mode).reported = hub.reported := by
  unfold followMode
  split <;> rfl

theorem addBody_eq (hub : DataHub τ) (body : BodyOfWater τ) :
    ∃ bodies, hub.addBody body = { hub with bodies } := by
  unfold addBody
  split
  · exact ⟨hub.bodies, rfl⟩
  · exact ⟨hub.bodies ++ [body], rfl⟩

theorem foldl_addBody_eq (hub : DataHub τ) (joining : List (BodyOfWater τ)) :
    ∃ bodies, joining.foldl addBody hub = { hub with bodies } := by
  induction joining generalizing hub with
  | nil => exact ⟨hub.bodies, rfl⟩
  | cons body joining ih =>
    obtain ⟨first, hfirst⟩ := hub.addBody_eq body
    obtain ⟨bodies, hbodies⟩ := ih (hub.addBody body)
    refine ⟨bodies, hbodies.trans ?_⟩
    rw [hfirst]

theorem activateBodies_eq (config : PoolConfigurations) :
    ∃ bodies, hub.activateBodies config = { hub with bodies } := by
  unfold activateBodies
  split <;> exact ⟨_, rfl⟩

theorem applyPoolConfiguration_eq (hub : DataHub τ) (config : PoolConfigurations)
    (source : ConfigurationSource) (singleBodyKind : BodyOfWaterIds) :
    ∃ bodies, hub.applyPoolConfiguration config source singleBodyKind =
      { hub with
        poolConfiguration := config
        poolConfigurationSource := source
        bodies } := by
  unfold applyPoolConfiguration
  dsimp only
  split
  · exact ⟨hub.bodies, rfl⟩
  · obtain ⟨joined, hjoined⟩ := foldl_addBody_eq
      { hub with poolConfiguration := config, poolConfigurationSource := source }
      (configuredBodies config singleBodyKind)
    rw [hjoined]
    exact activateBodies_eq config

theorem reported_addBody (body : BodyOfWater τ) : (hub.addBody body).reported = hub.reported := by
  obtain ⟨bodies, hbodies⟩ := hub.addBody_eq body
  rw [hbodies]

section

variable (config : PoolConfigurations) (source : ConfigurationSource)
  (singleBodyKind : BodyOfWaterIds)

theorem reported_applyPoolConfiguration :
    (hub.applyPoolConfiguration config source singleBodyKind).reported = hub.reported := by
  obtain ⟨bodies, hbodies⟩ := hub.applyPoolConfiguration_eq config source singleBodyKind
  rw [hbodies]

theorem poolConfiguration_applyPoolConfiguration :
    (hub.applyPoolConfiguration config source singleBodyKind).poolConfiguration = config := by
  obtain ⟨bodies, hbodies⟩ := hub.applyPoolConfiguration_eq config source singleBodyKind
  rw [hbodies]

end

/-! ## What the operations do to the readings -/

theorem getBody_write [DecidableEq τ] (reading : Reading) (value : τ) :
    (hub.write reading value).1.getBody id =
      if id = reading.body then (hub.getBody id).map fun body => body.set value reading
      else hub.getBody id := by
  have hid : ∀ body : BodyOfWater τ, (body.set value reading).id = body.id := fun body =>
    body.id_set value reading
  split
  next hbody =>
    rw [hbody]
    exact getBody_modifyBody_self hid
  next hbody => exact getBody_modifyBody_of_ne hid hbody

theorem read_write [DecidableEq τ] (reading other : Reading) (value : τ) :
    (hub.write reading value).1.read other =
      if other = reading then some value else hub.read other := by
  have hreported : (hub.write reading value).1.reported other =
      if other = reading then some value else hub.reported other :=
    Function.update_apply hub.reported reading (some value) other
  unfold read
  rw [getBody_write, hreported]
  by_cases hreading : other = reading
  · rw [hreading, if_pos rfl, if_pos rfl, if_pos rfl]
    cases hub.getBody reading.body with
    | none => rfl
    | some body => exact body.get_set_self value reading
  · rw [if_neg hreading, if_neg hreading]
    by_cases hbody : other.body = reading.body
    · rw [if_pos hbody]
      cases hub.getBody other.body with
      | none => rfl
      | some body => exact BodyOfWater.get_set_of_ne hreading hbody value body
    · rw [if_neg hbody]

theorem read_addBody (body : BodyOfWater τ) (reading : Reading) :
    (hub.addBody body).read reading =
      if hub.getBody body.id = none ∧ reading.body = body.id then body.get reading
      else hub.read reading := by
  have hany : (hub.bodies.any fun existing => existing.id = body.id) =
      (hub.getBody body.id).isSome := List.isSome_find?.symm
  unfold addBody
  rw [hany]
  cases hbody : hub.getBody body.id with
  | some existing =>
    rw [isSome_some, if_pos rfl, if_neg]
    rintro ⟨hnone, -⟩
    cases hnone
  | none =>
    rw [isSome_none, if_neg Bool.false_ne_true]
    unfold read getBody
    rw [find?_append]
    by_cases hreading : reading.body = body.id
    · have hfind : hub.bodies.find? (fun existing => existing.id = body.id) = none := hbody
      simp [hfind, hreading]
    · have hfind : [body].find? (fun existing => existing.id = reading.body) = none := by
        simp [Ne.symm hreading]
      simp [hfind, hreading]

theorem get_of_mem_configuredBodies {config : PoolConfigurations}
    {singleBodyKind : BodyOfWaterIds} {body : BodyOfWater τ}
    (h : body ∈ configuredBodies config singleBodyKind) (reading : Reading) :
    body.get reading = none := by
  cases config with
  | singleBody =>
    unfold configuredBodies at h
    dsimp only at h
    split at h <;> rw [mem_singleton] at h <;> rw [h] <;> cases reading <;> rfl
  | unknown => cases h
  | dualBodySharedEquipment | dualBodyDualEquipment =>
    obtain rfl | h := List.mem_cons.mp h
    · cases reading <;> rfl
    · rw [mem_singleton] at h
      rw [h]
      cases reading <;> rfl

def impliedBodies (config : PoolConfigurations) (singleBodyKind : BodyOfWaterIds)
    (mode : CirculationModes) : List (BodyOfWater τ) :=
  (configuredBodies config singleBodyKind).map fun body =>
    body.setActive (config = .singleBody || decide (body.id = .spa) == mode.isSpa)

theorem bodies_applyPoolConfiguration (h : hub.bodies = []) (config : PoolConfigurations)
    (source : ConfigurationSource) (singleBodyKind : BodyOfWaterIds) :
    (hub.applyPoolConfiguration config source singleBodyKind).bodies =
      impliedBodies config singleBodyKind hub.circulationMode := by
  cases config with
  | singleBody =>
    by_cases hkind : singleBodyKind = .spa <;>
      simp [applyPoolConfiguration, impliedBodies, configuredBodies, activateBodies, addBody,
        BodyOfWater.setActive, h, hkind]
  | dualBodySharedEquipment | dualBodyDualEquipment =>
    simp [applyPoolConfiguration, impliedBodies, configuredBodies, activateBodies, addBody,
      BodyOfWater.setActive, modifyBody, modifyFirst, h]
  | unknown =>
    simp [applyPoolConfiguration, impliedBodies, configuredBodies, activateBodies, modifyBody, h]

theorem bodies_applyPoolConfiguration_of_ne_nil (h : hub.bodies ≠ []) (config : PoolConfigurations)
    (source : ConfigurationSource) (singleBodyKind : BodyOfWaterIds) :
    (hub.applyPoolConfiguration config source singleBodyKind).bodies = hub.bodies := by
  unfold applyPoolConfiguration
  rw [if_pos h]

theorem read_applyPoolConfiguration (h : hub.bodies = []) (config : PoolConfigurations)
    (source : ConfigurationSource) (singleBodyKind : BodyOfWaterIds) (reading : Reading) :
    (hub.applyPoolConfiguration config source singleBodyKind).read reading =
      if ∃ body ∈ configuredBodies (τ := τ) config singleBodyKind, body.id = reading.body then none
      else hub.reported reading := by
  unfold read getBody
  rw [bodies_applyPoolConfiguration h, reported_applyPoolConfiguration, impliedBodies, find?_map]
  split
  next found hfound =>
    obtain ⟨body, hbody, rfl⟩ := Option.map_eq_some_iff.mp hfound
    have hmem := mem_of_find?_eq_some hbody
    have hid := find?_some hbody
    rw [Function.comp_apply, decide_eq_true_eq, BodyOfWater.id_setActive] at hid
    rw [if_pos ⟨body, hmem, hid⟩, BodyOfWater.get_setActive, get_of_mem_configuredBodies hmem]
  next hnone =>
    rw [map_eq_none_iff, find?_eq_none] at hnone
    rw [if_neg]
    rintro ⟨body, hmem, hid⟩
    exact hnone body hmem (decide_eq_true hid)

theorem read_applyPoolConfiguration_of_ne_nil (h : hub.bodies ≠ []) (config : PoolConfigurations)
    (source : ConfigurationSource) (singleBodyKind : BodyOfWaterIds) (reading : Reading) :
    (hub.applyPoolConfiguration config source singleBodyKind).read reading = hub.read reading := by
  unfold applyPoolConfiguration
  rw [if_pos h]
  rfl

end DataHub

end AqualinkAutomate.Hub
