import Aqualink.General.Texts

/-!
# The Matter bridge

The devices of the equipment come in three buckets.  The bridge makes one flat list of them, each
with the kind of Matter device that it is shown as.

Texts are of ASCII characters, and the level is a whole number.

One endpoint for each device, whose attributes are written by the commissioner and by the bridge.
Each write notifies the handler of the endpoint, which sends a command to the API.  A handler does
nothing while the state of its device is being applied.

A refresh asks the API for the devices and goes through them: a device that has a handle gets its
state applied, and the others are added.  It waits for the API, for each write and for each endpoint
that it adds, and anything can happen meanwhile.  So a step here is what runs without a wait, and a
write is performed, and notified, somewhere between the call and the continuation.

The temperature sensors take no part in this.
-/

namespace AqualinkAutomate.MatterBridge

open General List

inductive MatterKind where
  | onOffPlugInUnit | thermostat | onOffLevelChlorinator | temperatureSensor
  deriving DecidableEq

inductive DeviceBucket where
  | auxillary | heater | pump
  deriving DecidableEq

structure BridgedDevice where
  uuid : String
  label : String
  bucket : DeviceBucket
  kind : MatterKind
  on : Bool
  /-- The generating percentage of a chlorinator, 101 for boost. -/
  level : Option ℤ := none
  bodyOfWater : Option String := none
  deriving DecidableEq

structure RawDevice where
  id : Option String := none
  label : Option String := none
  state : Option String := none
  generatingPercentage : Option ℤ := none
  bodyOfWater : Option String := none
  deriving DecidableEq

structure RawDevices where
  auxillaries : List RawDevice := []
  heaters : List RawDevice := []
  pumps : List RawDevice := []
  deriving DecidableEq

def activeStates : List String := ["on", "running", "heating", "enabled", "generating"]

def stateIsOn (state : Option String) : Bool :=
  match state with
  | none => false
  | some text => activeStates.any fun active =>
    equalsCaseInsensitive active.toList (trimWhitespace text.toList)

def mapDeviceKind (bucket : DeviceBucket) (raw : RawDevice) : MatterKind :=
  match bucket with
  | .heater => .thermostat
  | .pump => .onOffPlugInUnit
  | .auxillary =>
    if raw.generatingPercentage.isSome then .onOffLevelChlorinator else .onOffPlugInUnit

/-- The label without blanks around it, if there is anything in it. -/
def labelOf (raw : RawDevice) : String :=
  match (raw.label.map fun label => trimWhitespace label.toList).filter (· ≠ []) with
  | some label => String.ofList label
  | none => "Aqualink Device"

def bridgedDevice (bucket : DeviceBucket) (raw : RawDevice) : Option BridgedDevice :=
  match raw.id.filter (· ≠ "") with
  | none => none
  | some uuid => some
      { uuid := uuid
        label := labelOf raw
        bucket := bucket
        kind := mapDeviceKind bucket raw
        on := stateIsOn raw.state
        level := raw.generatingPercentage
        bodyOfWater := raw.bodyOfWater.filter (· ≠ "") }

def flattenBucket (bucket : DeviceBucket) (devices : List RawDevice) : List BridgedDevice :=
  devices.filterMap (bridgedDevice bucket)

def parseDevices (devices : RawDevices) : List BridgedDevice :=
  flattenBucket .auxillary devices.auxillaries ++ flattenBucket .heater devices.heaters ++
    flattenBucket .pump devices.pumps

/-! ## What a toggle does -/

/-- Whether a device is on, as a snapshot of the equipment has it. -/
def RawDevices.isOn (devices : RawDevices) (uuid : String) : Option Bool :=
  ((parseDevices devices).find? fun device => device.uuid == uuid).map BridgedDevice.on

def RawDevice.toggle (uuid : String) (raw : RawDevice) : RawDevice :=
  if raw.id = some uuid then
    { raw with state := some (if stateIsOn raw.state then "Off" else "On") }
  else
    raw

/-- `POST /api/equipment/buttons/{uuid}`: a device that was on is off, and the other way round. -/
def RawDevices.toggle (uuid : String) (devices : RawDevices) : RawDevices where
  auxillaries := devices.auxillaries.map (RawDevice.toggle uuid)
  heaters := devices.heaters.map (RawDevice.toggle uuid)
  pumps := devices.pumps.map (RawDevice.toggle uuid)

def BridgedDevice.flip (uuid : String) (device : BridgedDevice) : BridgedDevice :=
  if device.uuid = uuid then { device with on := !device.on } else device

@[simp] theorem BridgedDevice.uuid_flip (uuid : String) (device : BridgedDevice) :
    (device.flip uuid).uuid = device.uuid := by
  unfold flip
  split_ifs <;> rfl

theorem id_of_bridgedDevice {bucket : DeviceBucket} {raw : RawDevice} {device : BridgedDevice}
    (h : bridgedDevice bucket raw = some device) : raw.id = some device.uuid := by
  unfold bridgedDevice at h
  split at h
  · cases h
  · next found hfound =>
      cases h
      exact (Option.filter_eq_some_iff.mp hfound).1

theorem bridgedDevice_toggle (bucket : DeviceBucket) (uuid : String) (raw : RawDevice) :
    bridgedDevice bucket (raw.toggle uuid) =
      (bridgedDevice bucket raw).map (BridgedDevice.flip uuid) := by
  have hon : stateIsOn (some "On") := by decide
  have hoff : stateIsOn (some "Off") = false := by decide
  by_cases hid : raw.id = some uuid
  · rw [RawDevice.toggle, if_pos hid]
    by_cases hempty : uuid = ""
    · simp [bridgedDevice, hid, hempty, Option.filter]
    · simp only [bridgedDevice, hid, Option.filter, hempty, decide_not, decide_false,
        Bool.not_false, if_true, Option.map_some, BridgedDevice.flip, mapDeviceKind, labelOf]
      cases hstate : stateIsOn raw.state <;> simp [hon, hoff]
  · rw [RawDevice.toggle, if_neg hid]
    cases hdevice : bridgedDevice bucket raw with
    | none => rfl
    | some device =>
      have hne : device.uuid ≠ uuid := fun heq => hid (heq ▸ id_of_bridgedDevice hdevice)
      rw [Option.map_some, BridgedDevice.flip, if_neg hne]

theorem flattenBucket_toggle (bucket : DeviceBucket) (uuid : String) (devices : List RawDevice) :
    flattenBucket bucket (devices.map (RawDevice.toggle uuid)) =
      (flattenBucket bucket devices).map (BridgedDevice.flip uuid) := by
  rw [flattenBucket, filterMap_map, flattenBucket, map_filterMap]
  exact congrArg (filterMap · devices) (funext fun raw => bridgedDevice_toggle bucket uuid raw)

theorem parseDevices_toggle (uuid : String) (devices : RawDevices) :
    parseDevices (devices.toggle uuid) = (parseDevices devices).map (BridgedDevice.flip uuid) := by
  simp only [parseDevices, RawDevices.toggle, flattenBucket_toggle, map_append]

theorem RawDevices.isOn_toggle (uuid other : String) (devices : RawDevices) :
    (devices.toggle uuid).isOn other =
      if other = uuid then (devices.isOn other).map not else devices.isOn other := by
  have hfind : ((parseDevices devices).map (BridgedDevice.flip uuid)).find?
      (fun device => device.uuid == other) =
      ((parseDevices devices).find? fun device => device.uuid == other).map
        (BridgedDevice.flip uuid) := by
    rw [find?_map]
    refine congrArg (Option.map (BridgedDevice.flip uuid)) (congrArg (List.find? · _) ?_)
    funext device
    rw [Function.comp_apply, BridgedDevice.uuid_flip]
  rw [isOn, isOn, parseDevices_toggle, hfind]
  cases hfound : (parseDevices devices).find? fun device => device.uuid == other with
  | none => simp
  | some device =>
    have huuid : device.uuid = other := by simpa using find?_some hfound
    by_cases hother : other = uuid
    · simp [BridgedDevice.flip, huuid, hother]
    · simp [BridgedDevice.flip, huuid, hother]

/-! ## Endpoints -/

inductive Command where
  | toggleButton (uuid : String)
  | setChlorinator (percentage : ℤ)
  /-- In degrees Celsius, for the spa or the pool. -/
  | setSetpoints (isSpa : Bool) (celsius : ℤ)
  deriving DecidableEq

def Command.isToggle : Command → Bool
  | toggleButton _ => true
  | setChlorinator _ | setSetpoints _ _ => false

inductive AttributeWrite where
  | onOff (value : Bool)
  | currentLevel (value : Option ℤ)
  | occupiedHeatingSetpoint (value : ℤ)
  deriving DecidableEq

structure DeviceHandle where
  /-- The state that was seen last. -/
  device : BridgedDevice
  /-- Suppresses the echo while remote state is applied to the endpoint. -/
  applyingRemote : Bool
  deriving DecidableEq

structure BridgedEndpoint where
  id : String
  uuid : String
  kind : MatterKind
  isSpa : Bool
  onOff : Bool
  currentLevel : Option ℤ
  occupiedHeatingSetpoint : ℤ
  /-- What the handler of the endpoint refers to, once it has been subscribed. -/
  handle : Option DeviceHandle
  deriving DecidableEq

def clamp (low high value : ℤ) : ℤ := max low (min high value)

def toCenti (celsius : ℤ) : ℤ := celsius * 100

def roundFromCenti (value : ℤ) : ℤ := (value + 50) / 100

def endpointId (kindPrefix uuid : String) : String :=
  kindPrefix ++ "-" ++ String.ofList ((uuid.toList.filter Char.isAlphanum).take 24)

namespace BridgedDevice

variable (device : BridgedDevice)

/-- The level that the endpoint of a chlorinator shows. -/
def shownLevel : ℤ := clamp 0 254 (device.level.getD 0)

/-- What `applyDeviceState` writes; the setpoint is owned by the commissioner. -/
def patch : List AttributeWrite :=
  match device.kind with
  | .thermostat => []
  | .onOffLevelChlorinator => [.onOff device.on, .currentLevel (some device.shownLevel)]
  | .onOffPlugInUnit | .temperatureSensor => [.onOff device.on]

/-- The endpoint that `addDevice` adds, without a handler yet. -/
def newEndpoint : BridgedEndpoint where
  id :=
    match device.kind with
    | .thermostat => endpointId "heat" device.uuid
    | .onOffLevelChlorinator => endpointId "swg" device.uuid
    | .onOffPlugInUnit | .temperatureSensor => endpointId "aux" device.uuid
  uuid := device.uuid
  kind := device.kind
  isSpa := containsCaseInsensitive (device.bodyOfWater.getD "").toList "spa".toList
  onOff := device.on
  currentLevel := some device.shownLevel
  occupiedHeatingSetpoint := toCenti 28
  handle := none

end BridgedDevice

namespace BridgedEndpoint

variable (endpoint : BridgedEndpoint)

/-- The endpoint is that of `addOnOff`. -/
def IsOnOff : Prop := endpoint.kind ≠ .thermostat ∧ endpoint.kind ≠ .onOffLevelChlorinator

instance : Decidable endpoint.IsOnOff := inferInstanceAs (Decidable (_ ∧ _))

def write : AttributeWrite → BridgedEndpoint
  | .onOff value => { endpoint with onOff := value }
  | .currentLevel value => { endpoint with currentLevel := value }
  | .occupiedHeatingSetpoint value => { endpoint with occupiedHeatingSetpoint := value }

def notify (write : AttributeWrite) : Option Command :=
  match endpoint.handle with
  | none => none
  | some handle =>
    if handle.applyingRemote then
      none
    else
      match endpoint.kind, write with
      | .onOffPlugInUnit, .onOff value | .temperatureSensor, .onOff value =>
        if value = handle.device.on then none else some (.toggleButton endpoint.uuid)
      | .onOffLevelChlorinator, .currentLevel (some value) =>
        some (.setChlorinator (clamp 0 100 value))
      | .thermostat, .occupiedHeatingSetpoint value =>
        some (.setSetpoints endpoint.isSpa (roundFromCenti value))
      | _, _ => none

def modifyHandle (f : DeviceHandle → DeviceHandle) : BridgedEndpoint :=
  { endpoint with handle := endpoint.handle.map f }

end BridgedEndpoint

/-! ## The bridge and what it waits for -/

/-- Where a refresh is waiting. -/
inductive Task where
  /-- For the API. -/
  | fetching
  /-- For the answer of the API, which has been given. -/
  | answered (devices : RawDevices)
  /-- Between two devices of `syncDevices`. -/
  | syncing (devices : List BridgedDevice)
  /-- In `applyDeviceState`, for the endpoint with that index to be written. -/
  | applying (device : BridgedDevice) (index : ℕ) (written : Bool) (rest : List BridgedDevice)
  /-- In `addDevice`, for the aggregator to add the endpoint. -/
  | adding (device : BridgedDevice) (index : Option ℕ) (rest : List BridgedDevice)
  | done
  deriving DecidableEq

structure World where
  endpoints : List BridgedEndpoint := []
  /-- The index of the endpoint of a uuid. -/
  handles : String → Option ℕ := fun _ => none
  tasks : List Task := []
  /-- What the API would answer. -/
  equipment : RawDevices
  /-- The commands that the API has not carried out yet. -/
  inFlight : List Command := []
  /-- All the commands that have been sent. -/
  sent : List Command := []

namespace World

variable (world : World)

def modifyEndpoint (index : ℕ) (f : BridgedEndpoint → BridgedEndpoint) : World :=
  { world with endpoints := world.endpoints.modify index f }

def setTask (index : ℕ) (task : Task) : World :=
  { world with tasks := world.tasks.set index task }

/-- The attributes of an endpoint are written, and its handler is notified of each. -/
def write (index : ℕ) (writes : List AttributeWrite) : World :=
  match world.endpoints[index]? with
  | none => world
  | some endpoint =>
    { world.modifyEndpoint index
        (fun endpoint => writes.foldl BridgedEndpoint.write endpoint) with
      inFlight := world.inFlight ++ writes.filterMap endpoint.notify
      sent := world.sent ++ writes.filterMap endpoint.notify }

/-- `applyDeviceState` up to its wait; there is nothing to wait for with a thermostat. -/
def applyDeviceState (index : ℕ) (device : BridgedDevice) : World :=
  world.modifyEndpoint index (BridgedEndpoint.modifyHandle · fun _ =>
    ⟨device, decide (device.kind ≠ .thermostat)⟩)

/-- Where a task is after `applyDeviceState` has been called. -/
def afterApply (index : ℕ) (device : BridgedDevice) (rest : List BridgedDevice) : Task :=
  if device.kind = .thermostat then .syncing rest else .applying device index false rest

/-- The `finally` of `applyDeviceState`. -/
def finishApply (index : ℕ) : World :=
  world.modifyEndpoint index
    (BridgedEndpoint.modifyHandle · fun handle => { handle with applyingRemote := false })

def finishAdd (index : ℕ) (device : BridgedDevice) : World :=
  { world.modifyEndpoint index
      (fun endpoint => { endpoint with handle := some ⟨device, false⟩ }) with
    handles := Function.update world.handles device.uuid (some index) }

/-- The continuation of a task, up to its next wait. -/
def resume (index : ℕ) : Task → World
  | .answered devices => world.setTask index (.syncing (parseDevices devices))
  | .syncing [] => world.setTask index .done
  | .syncing (device :: rest) =>
    match world.handles device.uuid with
    | some endpoint =>
      (world.applyDeviceState endpoint device).setTask index (afterApply endpoint device rest)
    | none => world.setTask index (.adding device none rest)
  | .applying _ endpoint true rest => (world.finishApply endpoint).setTask index (.syncing rest)
  | .adding device (some endpoint) rest =>
    (world.finishAdd endpoint device).setTask index (.syncing rest)
  | _ => world

/-- The matter.js part of a task: the attributes are written, or the endpoint is added. -/
def perform (index : ℕ) : Task → World
  | .applying device endpoint false rest =>
    (world.write endpoint device.patch).setTask index (.applying device endpoint true rest)
  | .adding device none rest =>
    { world with endpoints := world.endpoints ++ [device.newEndpoint] }.setTask index
      (.adding device (some world.endpoints.length) rest)
  | _ => world

def throwIn (index : ℕ) : Task → World
  | .fetching | .answered _ | .adding _ none _ => world.setTask index .done
  | .applying _ endpoint false _ => (world.finishApply endpoint).setTask index .done
  | _ => world

/-- `applyButtonState` up to its wait. -/
def applyButtonState (uuid : String) (on : Bool) : World :=
  match world.handles uuid with
  | none => world
  | some index =>
    match world.endpoints[index]?.bind BridgedEndpoint.handle with
    | none => world
    | some handle =>
      let device := { handle.device with on := on }
      { world.applyDeviceState index device with
        tasks := world.tasks ++ [afterApply index device []] }

end World

/-! ## Steps -/

/-- What can happen next; a task is given by its index, and so is a command in flight. -/
inductive Event where
  | startRefresh
  | applyButtonState (uuid : String) (on : Bool)
  /-- The API answers with the devices as they are. -/
  | answer (task : ℕ)
  | perform (task : ℕ)
  | resume (task : ℕ)
  | throwIn (task : ℕ)
  /-- The commissioner writes an attribute. -/
  | commissioner (endpoint : ℕ) (write : AttributeWrite)
  /-- The API responds to a command, which it has carried out or not. -/
  | response (command : ℕ) (carriedOut : Bool)
  /-- The equipment changes by itself, or by someone else. -/
  | equipmentChanged (devices : RawDevices)

def Command.carryOut (equipment : RawDevices) : Command → RawDevices
  | toggleButton uuid => equipment.toggle uuid
  | setChlorinator _ | setSetpoints _ _ => equipment

namespace World

def respond (world : World) (index : ℕ) (carriedOut : Bool) : World :=
  match world.inFlight[index]? with
  | none => world
  | some command =>
    { world with
      inFlight := world.inFlight.eraseIdx index
      equipment :=
        if carriedOut then command.carryOut world.equipment else world.equipment }

def step (world : World) : Event → World
  | .startRefresh => { world with tasks := world.tasks ++ [.fetching] }
  | .applyButtonState uuid on => world.applyButtonState uuid on
  | .answer task =>
    match world.tasks[task]? with
    | some .fetching => world.setTask task (.answered world.equipment)
    | _ => world
  | .perform task => (world.tasks[task]?.map (world.perform task)).getD world
  | .resume task => (world.tasks[task]?.map (world.resume task)).getD world
  | .throwIn task => (world.tasks[task]?.map (world.throwIn task)).getD world
  | .commissioner endpoint write => world.write endpoint [write]
  | .response command carriedOut => world.respond command carriedOut
  | .equipmentChanged devices => { world with equipment := devices }

end World

end AqualinkAutomate.MatterBridge
