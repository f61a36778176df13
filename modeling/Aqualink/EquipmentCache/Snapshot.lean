import Aqualink.Equipment.Devices
import Aqualink.General.Names
import Aqualink.General.Json
import Aqualink.Hub.Bodies

/-!
# The equipment cache

The pool configuration, the board and the devices are kept in a file, so that they are known
after a restart before they are discovered again.  This file has the document that is written,
and how it is applied to a hub.

A UUID is read by a library, which reads what it wrote.  A device without a readable one gets a
random one.
-/

namespace AqualinkAutomate.EquipmentCache

open General Hub
open Equipment (Uuid BodyOfWaterIds AuxillaryTypes)

/-! ## Names -/

inductive SystemBoards where
  | rs4Only | rs6Only | rs8Only
  | rs2_6Dual | rs2_10Dual | rs2_14Dual | rs2_22Dual | rs2_30Dual
  | rs4Combo | rs6Combo | rs8Combo | rs12Combo | rs16Combo | rs24Combo | rs32Combo
  | pd4Only | pd8Only | pd4Combo | pd6Combo | pd8Combo
  | unknown
  deriving DecidableEq

inductive PumpTypes where
  | filterCirculation | spaJet | solarHeating | heaterLoop | cleaner | waterFeature | drainSump
  | unknown
  deriving DecidableEq

instance : EnumNames PoolConfigurations where
  values := [.singleBody, .dualBodySharedEquipment, .dualBodyDualEquipment, .unknown]
  enumName
    | .singleBody => "SingleBody"
    | .dualBodySharedEquipment => "DualBody_SharedEquipment"
    | .dualBodyDualEquipment => "DualBody_DualEquipment"
    | .unknown => "Unknown"
  mem_values config := by cases config <;> decide
  nodup_names := by decide

instance : EnumNames SystemBoards where
  values := [.rs4Only, .rs6Only, .rs8Only, .rs2_6Dual, .rs2_10Dual, .rs2_14Dual, .rs2_22Dual,
    .rs2_30Dual, .rs4Combo, .rs6Combo, .rs8Combo, .rs12Combo, .rs16Combo, .rs24Combo, .rs32Combo,
    .pd4Only, .pd8Only, .pd4Combo, .pd6Combo, .pd8Combo, .unknown]
  enumName
    | .rs4Only => "RS4_Only"
    | .rs6Only => "RS6_Only"
    | .rs8Only => "RS8_Only"
    | .rs2_6Dual => "RS2_6_Dual"
    | .rs2_10Dual => "RS2_10_Dual"
    | .rs2_14Dual => "RS2_14_Dual"
    | .rs2_22Dual => "RS2_22_Dual"
    | .rs2_30Dual => "RS2_30_Dual"
    | .rs4Combo => "RS4_Combo"
    | .rs6Combo => "RS6_Combo"
    | .rs8Combo => "RS8_Combo"
    | .rs12Combo => "RS12_Combo"
    | .rs16Combo => "RS16_Combo"
    | .rs24Combo => "RS24_Combo"
    | .rs32Combo => "RS32_Combo"
    | .pd4Only => "PD4_Only"
    | .pd8Only => "PD8_Only"
    | .pd4Combo => "PD4_Combo"
    | .pd6Combo => "PD6_Combo"
    | .pd8Combo => "PD8_Combo"
    | .unknown => "Unknown"
  mem_values board := by cases board <;> decide
  nodup_names := by decide

instance : EnumNames AuxillaryTypes where
  values := [.auxillary, .chlorinator, .cleaner, .heater, .light, .pump, .spillover, .sprinkler,
    .unknown]
  enumName
    | .auxillary => "Auxillary"
    | .chlorinator => "Chlorinator"
    | .cleaner => "Cleaner"
    | .heater => "Heater"
    | .light => "Light"
    | .pump => "Pump"
    | .spillover => "Spillover"
    | .sprinkler => "Sprinkler"
    | .unknown => "Unknown"
  mem_values type := by cases type <;> decide
  nodup_names := by decide

instance : EnumNames BodyOfWaterIds where
  values := [.pool, .spa, .shared, .unknown]
  enumName
    | .pool => "Pool"
    | .spa => "Spa"
    | .shared => "Shared"
    | .unknown => "Unknown"
  mem_values id := by cases id <;> decide
  nodup_names := by decide

instance : EnumNames PumpTypes where
  values := [.filterCirculation, .spaJet, .solarHeating, .heaterLoop, .cleaner, .waterFeature,
    .drainSump, .unknown]
  enumName
    | .filterCirculation => "FilterCirculation"
    | .spaJet => "SpaJet"
    | .solarHeating => "SolarHeating"
    | .heaterLoop => "HeaterLoop"
    | .cleaner => "Cleaner"
    | .waterFeature => "WaterFeature"
    | .drainSump => "DrainSump"
    | .unknown => "Unknown"
  mem_values type := by cases type <;> decide
  nodup_names := by decide

/-! ## The devices -/

structure AuxillaryDevice where
  id : Uuid
  label : Option String := none
  type : Option AuxillaryTypes := none
  bodyOfWater : Option BodyOfWaterIds := none
  hardwareLabel : Option String := none
  pumpType : Option PumpTypes := none
  deriving DecidableEq

namespace AuxillaryDevice

/-- `operator==`: by type and label if both devices have both, else by type and id. -/
def equals (device other : AuxillaryDevice) : Bool :=
  match device.type, other.type with
  | some type, some otherType =>
    decide (type = otherType) &&
      match device.label, other.label with
      | some label, some otherLabel => label == otherLabel
      | _, _ => device.id == other.id
  | _, _ => device.id == other.id

def isUntypedFilterPump (device : AuxillaryDevice) : Bool :=
  device.type = some .pump && device.pumpType.isNone &&
    device.label.any fun label => equalsCaseInsensitive label.toList "Filter Pump".toList

/-- An auxillary without an identity of its own is not kept. -/
def isPersisted (device : AuxillaryDevice) : Bool :=
  match device.type with
  | some type => !(decide (type = .auxillary) && device.hardwareLabel.isNone)
  | none => false

def adopt (device : AuxillaryDevice) : AuxillaryDevice :=
  if device.isUntypedFilterPump then { device with pumpType := some .filterCirculation }
  else device

end AuxillaryDevice

/-- The hub with the board and the devices, in the order in which they were added. -/
structure EquipmentHub (τ : Type*) extends DataHub τ where
  systemBoard : SystemBoards := .unknown
  devices : List AuxillaryDevice := []

structure UuidReader where
  parse : String → Option Uuid
  parse_toText : ∀ id, parse id.toText = some id

variable {τ : Type*}

namespace EquipmentHub

def findById (hub : EquipmentHub τ) (id : Uuid) : Option AuxillaryDevice :=
  hub.devices.find? fun device => device.id == id

def findByLabel (hub : EquipmentHub τ) (label : String) : List AuxillaryDevice :=
  hub.devices.filter fun device => device.label == some label

/-- `DevicesGraph::Add` -/
def add (hub : EquipmentHub τ) (device : AuxillaryDevice) : EquipmentHub τ :=
  { hub with devices := insertAbsent AuxillaryDevice.equals hub.devices device }

def adoptUntypedFilterPumps (hub : EquipmentHub τ) : EquipmentHub τ :=
  { hub with devices := hub.devices.map AuxillaryDevice.adopt }

end EquipmentHub

/-! ## The document -/

def snapshotFields (device : AuxillaryDevice) : List (String × Option Json) :=
  [("body_of_water", device.bodyOfWater.map fun id => .string (enumName id)),
    ("hardware_id", device.hardwareLabel.map .string),
    ("id", some (.string device.id.toText)),
    ("label", device.label.map .string),
    ("pump_type", device.pumpType.map fun type => .string (enumName type)),
    ("type", device.type.map fun type => .string (enumName type))]

def snapshot (hub : EquipmentHub τ) : Json :=
  .object
    [("devices", .array ((hub.devices.filter AuxillaryDevice.isPersisted).map fun device =>
        .ofPresent (snapshotFields device))),
      ("pool_configuration", .string (enumName hub.poolConfiguration)),
      ("system_board", .string (enumName hub.systemBoard))]

/-! ## Applying a document -/

variable (reader : UuidReader)

def applyConfigurationFromSnapshot (hub : EquipmentHub τ) (json : Json) : EquipmentHub τ :=
  let hub : EquipmentHub τ :=
    match (json.text? "pool_configuration").bind enumCast with
    | some config =>
      if config ≠ .unknown ∧ hub.poolConfiguration = .unknown then
        { hub with toDataHub := hub.applyPoolConfiguration config .auto .pool }
      else hub
    | none => hub
  match (json.text? "system_board").bind enumCast with
  | some board =>
    if board ≠ .unknown ∧ hub.systemBoard = .unknown then { hub with systemBoard := board }
    else hub
  | none => hub

def restoreDevice (hub : EquipmentHub τ) (random : Uuid) (json : Json) : EquipmentHub τ :=
  match json.text? "label" with
  | none => hub
  | some label =>
    let id := (json.text? "id").bind reader.parse
    let isPresent :=
      match id with
      | some id => (hub.findById id).isSome
      | none => !(hub.findByLabel label).isEmpty
    if isPresent then hub
    else hub.add
      { id := id.getD random
        label := some label
        type := (json.text? "type").bind enumCast
        bodyOfWater := (json.text? "body_of_water").bind enumCast
        hardwareLabel := json.text? "hardware_id"
        pumpType := (json.text? "pump_type").bind enumCast }

def applySnapshot (randoms : ℕ → Uuid) (hub : EquipmentHub τ) (json : Json) : EquipmentHub τ :=
  match json with
  | .object _ =>
    let hub := applyConfigurationFromSnapshot hub json
    match json.member "devices" with
    | some (.array items) =>
      (items.zipIdx.foldl
        (fun hub item => restoreDevice reader hub (randoms item.2) item.1)
        hub).adoptUntypedFilterPumps
    | _ => hub
  | _ => hub

end AqualinkAutomate.EquipmentCache
