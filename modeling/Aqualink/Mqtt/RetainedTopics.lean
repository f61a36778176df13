import Aqualink.General.Retained
import Aqualink.Mqtt.Commands

/-!
# Retained topics

A sweep over the devices publishes the document of each labelled device under
`device/{slug}`, retained, and then clears what the sweep before it had published and this one
has not.  After a sweep the states of the devices are published for Home Assistant under
`ha/{category}_{slug}` and compared with the states published before in the same way; that
happens on each connect too.

A document that cannot be written ends a sweep at once, with what it has published by then on
the broker and not on the list.

The broker holds the last payload of each topic, an empty payload clearing the topic.  After
every sweep of a run it holds exactly what the labelled devices have published if and only if at
every sweep all the documents can be written and no two devices with different payloads share a
topic (`converged_iff`).
-/

namespace AqualinkAutomate.Mqtt

open General List

/-! ## Topics -/

inductive DeviceCategory where
  | auxillary | heater | pump | chlorinator | light
  deriving DecidableEq

/-- `CategoryName` -/
def DeviceCategory.name : DeviceCategory → String
  | auxillary => "aux"
  | heater => "heater"
  | pump => "pump"
  | chlorinator => "chlorinator"
  | light => "light"

structure MqttSettings where
  topicPrefix : String
  homeAssistantEnabled : Bool

namespace MqttSettings

variable (settings : MqttSettings)

def buildTopic (subtopic : String) : String :=
  if settings.topicPrefix = "" then subtopic else settings.topicPrefix ++ ("/" ++ subtopic)

def deviceJsonTopic (slug : String) : String := settings.buildTopic ("device/" ++ slug)

def deviceStateTopic (category : DeviceCategory) (slug : String) : String :=
  settings.buildTopic ("ha/" ++ category.name ++ "_" ++ slug)

theorem buildTopic_injective : Function.Injective settings.buildTopic := by
  intro first second h
  unfold buildTopic at h
  split at h
  · exact h
  · rwa [String.append_right_inj, String.append_right_inj] at h

theorem deviceJsonTopic_inj {slug other : String} :
    settings.deviceJsonTopic slug = settings.deviceJsonTopic other ↔ slug = other := by
  rw [deviceJsonTopic, deviceJsonTopic, settings.buildTopic_injective.eq_iff,
    String.append_right_inj]

theorem deviceStateTopic_inj {category other : DeviceCategory} {slug otherSlug : String} :
    settings.deviceStateTopic category slug = settings.deviceStateTopic other otherSlug ↔
      category = other ∧ slug = otherSlug := by
  rw [deviceStateTopic, deviceStateTopic, settings.buildTopic_injective.eq_iff]
  constructor
  · intro h
    have hcategory : category = other := by
      have htext := congrArg String.toList h
      cases category <;> cases other <;> first | rfl | simp [DeviceCategory.name] at htext
    subst hcategory
    exact ⟨rfl, (String.append_right_inj _).mp h⟩
  · rintro ⟨rfl, rfl⟩
    rfl

theorem deviceJsonTopic_ne_deviceStateTopic (slug other : String) (category : DeviceCategory) :
    settings.deviceJsonTopic slug ≠ settings.deviceStateTopic category other := by
  intro h
  have htext := congrArg String.toList (settings.buildTopic_injective h)
  simp at htext

end MqttSettings

/-! ## Devices -/

/-- The text form of a document; nothing if a text of it is not valid UTF-8. -/
structure JsonWriter where
  dump : Json → Option String
  dump_ne_empty : ∀ json text, dump json = some text → text ≠ ""

structure PublishedDevice where
  category : DeviceCategory
  id : String
  label : Option String
  /-- The name of the status, if it has one. -/
  status : Option { name : String // name ≠ "" } := none
  /-- The members of the document for the traits that the device has. -/
  traits : List (String × Json) := []
  bodyOfWater : Option String := none
  colour : Option ℕ := none
  resolvedSetpoint : Option ℕ := none
  generatingReason : String := "Unknown"

namespace PublishedDevice

/-- `ConvertStatusToString` -/
def state (device : PublishedDevice) : String := (device.status.map Subtype.val).getD "Unknown"

theorem state_ne_empty (device : PublishedDevice) : device.state ≠ "" := by
  cases hstatus : device.status with
  | none => simp [state, hstatus]
  | some name => simpa [state, hstatus] using name.property

/-- The members of `to_json`. -/
def members (device : PublishedDevice) (label : String) : List (String × Json) :=
  device.traits.foldl (fun fields trait => Json.setField trait.1 trait.2 fields)
    [("id", .string device.id), ("label", .string label), ("state", .string device.state)]

def document (device : PublishedDevice) (label : String) : Json :=
  let fields := Json.setField "type" (.string device.category.name) (device.members label)
  let fields := match device.bodyOfWater with
    | some body => Json.setField "body_of_water" (.string body) fields
    | none => fields
  let fields := match device.category, device.colour with
    | .light, some mode => Json.setField "light_mode" (.integer mode) fields
    | _, _ => fields
  .object <| if device.category = .chlorinator then
      Json.setField "generating_reason" (.string device.generatingReason)
        (Json.setField "setpoint_percent"
          ((device.resolvedSetpoint.map fun percent => Json.integer percent).getD .null) fields)
    else fields

end PublishedDevice

def retainedPayload (payload : String) : Option String :=
  if payload = "" then none else some payload

theorem retainedPayload_of_ne {payload : String} (h : payload ≠ "") :
    retainedPayload payload = some payload :=
  if_neg h

/-! ## The publishers -/

structure RetainedState where
  devices : List PublishedDevice := []
  broker : String → Option String
  publishedDeviceTopics : List String := []
  publishedStateTopics : List String := []
  /-- Every topic of a device that this process has published. -/
  everPublished : List String := []

namespace RetainedState

section

variable (settings : MqttSettings) (writer : JsonWriter) (s : RetainedState)

def ofCategories (categories : List DeviceCategory) : List PublishedDevice :=
  categories.flatMap fun category => s.devices.filter fun d => d.category = category

/-- What `PublishOneDevice` publishes of the devices, and whether it gets to the end. -/
def publishDevices : List PublishedDevice → List (String × Option String) × Bool
  | [] => ([], true)
  | device :: devices =>
    match device.label with
    | none => publishDevices devices
    | some label =>
      match writer.dump (device.document label) with
      -- the text is not valid, and the sweep ends in the middle
      | none => ([], false)
      | some payload =>
        let rest := publishDevices devices
        ((settings.deviceJsonTopic (slugify label), retainedPayload payload) :: rest.1, rest.2)

def stateEntries (devices : List PublishedDevice) : List (String × Option String) :=
  devices.filterMap fun device => device.label.map fun label =>
    (settings.deviceStateTopic device.category (slugify label), retainedPayload device.state)

def publishDeviceStates : RetainedState :=
  let entries := stateEntries settings
    (s.ofCategories [.pump, .heater, .chlorinator, .auxillary, .light])
  { s with
    broker := retainedSweep s.broker s.publishedStateTopics entries
    publishedStateTopics := entries.map Prod.fst
    everPublished := s.everPublished ++ entries.map Prod.fst }

/-- `PublishDeviceStatus`, with what is done when the devices have been published. -/
def publishDeviceStatus : RetainedState :=
  let (entries, complete) := publishDevices settings writer
    (s.ofCategories [.auxillary, .heater, .pump, .chlorinator, .light])
  if complete then
    let swept := { s with
      broker := retainedSweep s.broker s.publishedDeviceTopics entries
      publishedDeviceTopics := entries.map Prod.fst
      everPublished := s.everPublished ++ entries.map Prod.fst }
    if settings.homeAssistantEnabled then swept.publishDeviceStates settings else swept
  else
    -- the topics to sweep are replaced at the end of a whole sweep only
    { s with
      broker := publishAll s.broker entries
      everPublished := s.everPublished ++ entries.map Prod.fst }

/-- `ComputeOwnedDeviceTopics` -/
def ownedDeviceTopics : List String :=
  (s.ofCategories [.auxillary, .heater, .pump, .chlorinator, .light]).flatMap fun device =>
    match device.label with
    | none => []
    | some label =>
      settings.deviceJsonTopic (slugify label) ::
        if settings.homeAssistantEnabled then
          [settings.deviceStateTopic device.category (slugify label)]
        else []

/-- `ReconcileRetainedTopics`, for the topics that were seen. -/
def reconcileRetainedTopics (seenTopics : List String) : RetainedState :=
  let stale := seenTopics.filter (· ∉ s.ownedDeviceTopics settings)
  { s with broker := publishAll s.broker (stale.map fun topic => (topic, none)) }

end

end RetainedState

inductive RetainedEvent where
  /-- Devices are discovered, removed, relabelled, or change in another way. -/
  | devicesChanged (devices : List PublishedDevice)
  | sweep
  | connected
  | reconciled (seenTopics : List String)

def RetainedState.step (settings : MqttSettings) (writer : JsonWriter) (s : RetainedState) :
    RetainedEvent → RetainedState
  | .devicesChanged devices => { s with devices := devices }
  | .sweep => s.publishDeviceStatus settings writer
  | .connected => if settings.homeAssistantEnabled then s.publishDeviceStates settings else s
  | .reconciled seenTopics => s.reconcileRetainedTopics settings seenTopics

/-! ## Convergence -/

section

variable (settings : MqttSettings) (writer : JsonWriter) (s : RetainedState)

/-- What is on the broker of the topics that this process has published is what the labelled
devices say of themselves. -/
structure Converged : Prop where
  json : ∀ device ∈ s.devices, ∀ label, device.label = some label →
    ∃ payload, writer.dump (device.document label) = some payload ∧
      s.broker (settings.deviceJsonTopic (slugify label)) = some payload
  state : settings.homeAssistantEnabled →
    ∀ device ∈ s.devices, ∀ label, device.label = some label →
      s.broker (settings.deviceStateTopic device.category (slugify label)) = some device.state
  noGhost : ∀ topic ∈ s.everPublished, s.broker topic ≠ none →
    ∃ device ∈ s.devices, ∃ label, device.label = some label ∧
      (topic = settings.deviceJsonTopic (slugify label) ∨
        topic = settings.deviceStateTopic device.category (slugify label))

/-- The documents can be written, and devices that share a topic have the same to say. -/
structure Publishable : Prop where
  written : ∀ device ∈ s.devices, ∀ label, device.label = some label →
    writer.dump (device.document label) ≠ none
  json : ∀ device ∈ s.devices, ∀ other ∈ s.devices, ∀ label otherLabel,
    device.label = some label → other.label = some otherLabel → slugify label = slugify otherLabel →
      writer.dump (device.document label) = writer.dump (other.document otherLabel)
  state : settings.homeAssistantEnabled →
    ∀ device ∈ s.devices, ∀ other ∈ s.devices, ∀ label otherLabel,
      device.label = some label → other.label = some otherLabel →
        device.category = other.category → slugify label = slugify otherLabel →
          device.state = other.state

end

/-! ## What a sweep publishes -/

section

variable {settings : MqttSettings} {writer : JsonWriter} {s : RetainedState}

namespace RetainedState

variable {device : PublishedDevice}

theorem mem_ofCategories {categories : List DeviceCategory} (hall : ∀ c, c ∈ categories) :
    device ∈ s.ofCategories categories ↔ device ∈ s.devices := by
  simp only [ofCategories, mem_flatMap, mem_filter, decide_eq_true_eq]
  constructor
  · rintro ⟨-, -, hmem, -⟩
    exact hmem
  · intro hmem
    exact ⟨device.category, hall _, hmem, rfl⟩

theorem mem_sweepOrder :
    device ∈ s.ofCategories [.auxillary, .heater, .pump, .chlorinator, .light] ↔
      device ∈ s.devices :=
  mem_ofCategories fun c => by cases c <;> decide

theorem mem_stateOrder :
    device ∈ s.ofCategories [.pump, .heater, .chlorinator, .auxillary, .light] ↔
      device ∈ s.devices :=
  mem_ofCategories fun c => by cases c <;> decide

section

variable (settings : MqttSettings) {devices : List PublishedDevice}
  (hwritten : ∀ device ∈ devices, ∀ label, device.label = some label →
    writer.dump (device.document label) ≠ none)

include hwritten

theorem mem_publishDevices_iff (entry : String × Option String) :
    entry ∈ (publishDevices settings writer devices).1 ↔
      ∃ device ∈ devices, ∃ label, device.label = some label ∧
        entry = (settings.deviceJsonTopic (slugify label),
          writer.dump (device.document label)) := by
  induction devices with
  | nil => simp [publishDevices]
  | cons device devices ih =>
    have hrest := ih fun other hother => hwritten other (mem_cons_of_mem _ hother)
    rw [publishDevices]
    cases hlabel : device.label with
    | none => simp [hrest, hlabel]
    | some label =>
      obtain ⟨payload, hpayload⟩ := Option.ne_none_iff_exists'.mp
        (hwritten device mem_cons_self label hlabel)
      have hretained := retainedPayload_of_ne (writer.dump_ne_empty _ _ hpayload)
      simp [hpayload, hrest, hlabel, hretained]

theorem publishDevices_complete : (publishDevices settings writer devices).2 := by
  induction devices with
  | nil => rfl
  | cons device devices ih =>
    have hrest := ih fun other hother => hwritten other (mem_cons_of_mem _ hother)
    rw [publishDevices]
    cases hlabel : device.label with
    | none => exact hrest
    | some label =>
      obtain ⟨payload, hpayload⟩ := Option.ne_none_iff_exists'.mp
        (hwritten device mem_cons_self label hlabel)
      simpa [hpayload] using hrest

end

theorem mem_stateEntries_iff {devices : List PublishedDevice} (entry : String × Option String) :
    entry ∈ stateEntries settings devices ↔
      ∃ device ∈ devices, ∃ label, device.label = some label ∧
        entry = (settings.deviceStateTopic device.category (slugify label), some device.state) := by
  simp only [stateEntries, mem_filterMap, Option.map_eq_some_iff,
    retainedPayload_of_ne (PublishedDevice.state_ne_empty _)]
  exact exists_congr fun device => and_congr_right fun _ => exists_congr fun label =>
    and_congr_right fun _ => eq_comm

end RetainedState

/-! ## What the publishers keep track of -/

variable (settings) in
structure Tracked (s : RetainedState) : Prop where
  listed : ∀ topic ∈ s.everPublished, s.broker topic ≠ none →
    topic ∈ s.publishedDeviceTopics ∨ topic ∈ s.publishedStateTopics
  json : ∀ topic ∈ s.publishedDeviceTopics, ∃ slug, topic = settings.deviceJsonTopic slug
  state : ∀ topic ∈ s.publishedStateTopics,
    ∃ category slug, topic = settings.deviceStateTopic category slug
  disabled : settings.homeAssistantEnabled = false → s.publishedStateTopics = []

theorem Tracked.publishDeviceStates (h : Tracked settings s)
    (hassistant : settings.homeAssistantEnabled) :
    Tracked settings (s.publishDeviceStates settings) where
  listed := by
    intro topic htopic hheld
    obtain hpublished | ⟨hold, hheld⟩ := of_retainedSweep_ne_none hheld
    · exact .inr hpublished
    · obtain hever | hnew := List.mem_append.mp htopic
      · exact .inl ((h.listed topic hever hheld).resolve_right hold)
      · exact .inr hnew
  json := h.json
  state := by
    intro topic htopic
    obtain ⟨entry, hentry, rfl⟩ := List.mem_map.mp htopic
    obtain ⟨device, -, label, -, rfl⟩ := (RetainedState.mem_stateEntries_iff entry).mp hentry
    exact ⟨_, _, rfl⟩
  disabled := fun hdisabled => by
    rw [hassistant] at hdisabled
    cases hdisabled

variable (settings writer s) in
def RetainedState.publishDocuments : RetainedState :=
  let entries := (RetainedState.publishDevices settings writer
    (s.ofCategories [.auxillary, .heater, .pump, .chlorinator, .light])).1
  { s with
    broker := retainedSweep s.broker s.publishedDeviceTopics entries
    publishedDeviceTopics := entries.map Prod.fst
    everPublished := s.everPublished ++ entries.map Prod.fst }

theorem publishDeviceStatus_of_publishable (h : Publishable settings writer s) :
    s.publishDeviceStatus settings writer =
      if settings.homeAssistantEnabled then
        (s.publishDocuments settings writer).publishDeviceStates settings
      else s.publishDocuments settings writer := by
  have hcomplete := RetainedState.publishDevices_complete settings
    fun device hdevice => h.written device (RetainedState.mem_sweepOrder.mp hdevice)
  rw [RetainedState.publishDeviceStatus]
  simp only [hcomplete, if_true]
  rfl

theorem mem_publishDocuments_iff (h : Publishable settings writer s) (topic : String) :
    topic ∈ (s.publishDocuments settings writer).publishedDeviceTopics ↔
      ∃ device ∈ s.devices, ∃ label, device.label = some label ∧
        topic = settings.deviceJsonTopic (slugify label) := by
  have hentries := RetainedState.mem_publishDevices_iff settings
    fun device hdevice => h.written device (RetainedState.mem_sweepOrder.mp hdevice)
  simp only [RetainedState.publishDocuments, mem_map, hentries, RetainedState.mem_sweepOrder]
  constructor
  · rintro ⟨entry, ⟨device, hmem, label, hlabel, rfl⟩, rfl⟩
    exact ⟨device, hmem, label, hlabel, rfl⟩
  · rintro ⟨device, hmem, label, hlabel, rfl⟩
    exact ⟨_, ⟨device, hmem, label, hlabel, rfl⟩, rfl⟩

theorem Tracked.publishDocuments (h : Tracked settings s) (hpub : Publishable settings writer s) :
    Tracked settings (s.publishDocuments settings writer) where
  listed := by
    intro topic htopic hheld
    obtain hpublished | ⟨hold, hheld⟩ := of_retainedSweep_ne_none hheld
    · exact .inl hpublished
    · obtain hever | hnew := List.mem_append.mp htopic
      · exact .inr ((h.listed topic hever hheld).resolve_left hold)
      · exact .inl hnew
  json := by
    intro topic htopic
    obtain ⟨device, -, label, -, rfl⟩ := (mem_publishDocuments_iff hpub topic).mp htopic
    exact ⟨_, rfl⟩
  state := h.state
  disabled := h.disabled

variable {device : PublishedDevice}

theorem broker_publishDocuments (h : Publishable settings writer s) (hmem : device ∈ s.devices)
    {label : String} (hlabel : device.label = some label) :
    (s.publishDocuments settings writer).broker (settings.deviceJsonTopic (slugify label)) =
      writer.dump (device.document label) := by
  refine retainedSweep_of_mem
    ((mem_publishDocuments_iff h _).mpr ⟨device, hmem, label, hlabel, rfl⟩) ?_
  intro entry hentry htopic
  have hentries := RetainedState.mem_publishDevices_iff settings
    fun device hdevice => h.written device (RetainedState.mem_sweepOrder.mp hdevice)
  obtain ⟨other, hother, otherLabel, hotherLabel, rfl⟩ := (hentries entry).mp hentry
  exact h.json other (RetainedState.mem_sweepOrder.mp hother) device hmem otherLabel label
    hotherLabel hlabel (settings.deviceJsonTopic_inj.mp htopic)

theorem mem_publishDeviceStates_iff (topic : String) :
    topic ∈ (s.publishDeviceStates settings).publishedStateTopics ↔
      ∃ device ∈ s.devices, ∃ label, device.label = some label ∧
        topic = settings.deviceStateTopic device.category (slugify label) := by
  simp only [RetainedState.publishDeviceStates, mem_map, RetainedState.mem_stateEntries_iff,
    RetainedState.mem_stateOrder]
  constructor
  · rintro ⟨entry, ⟨device, hmem, label, hlabel, rfl⟩, rfl⟩
    exact ⟨device, hmem, label, hlabel, rfl⟩
  · rintro ⟨device, hmem, label, hlabel, rfl⟩
    exact ⟨_, ⟨device, hmem, label, hlabel, rfl⟩, rfl⟩

theorem broker_publishDeviceStates_state
    (hagree : ∀ device ∈ s.devices, ∀ other ∈ s.devices, ∀ label otherLabel,
      device.label = some label → other.label = some otherLabel →
      device.category = other.category →
      slugify label = slugify otherLabel → device.state = other.state)
    (hmem : device ∈ s.devices) {label : String} (hlabel : device.label = some label) :
    (s.publishDeviceStates settings).broker
        (settings.deviceStateTopic device.category (slugify label)) = some device.state := by
  refine retainedSweep_of_mem ((mem_publishDeviceStates_iff _).mpr
    ⟨device, hmem, label, hlabel, rfl⟩) ?_
  intro entry hentry htopic
  obtain ⟨other, hother, otherLabel, hotherLabel, rfl⟩ :=
    (RetainedState.mem_stateEntries_iff entry).mp hentry
  obtain ⟨hcategory, hslug⟩ := settings.deviceStateTopic_inj.mp htopic
  rw [hagree other (RetainedState.mem_stateOrder.mp hother) device hmem otherLabel label hotherLabel
    hlabel hcategory hslug]

theorem broker_publishDeviceStates_json (h : Tracked settings s) (slug : String) :
    (s.publishDeviceStates settings).broker (settings.deviceJsonTopic slug) =
      s.broker (settings.deviceJsonTopic slug) := by
  refine retainedSweep_of_foreign ?_ ?_
  · intro hlisted
    obtain ⟨category, other, htopic⟩ := h.state _ hlisted
    exact settings.deviceJsonTopic_ne_deviceStateTopic _ _ _ htopic
  · intro hentry
    obtain ⟨device, -, label, -, htopic⟩ :=
      (mem_publishDeviceStates_iff (s := s) (settings.deviceJsonTopic slug)).mp hentry
    exact settings.deviceJsonTopic_ne_deviceStateTopic _ _ _ htopic

/-! ## Runs -/

theorem devices_publishDeviceStatus :
    (s.publishDeviceStatus settings writer).devices = s.devices := by
  rw [RetainedState.publishDeviceStatus]
  dsimp only
  split
  · split
    · rfl
    · rfl
  · rfl

theorem Tracked.sweep (h : Tracked settings s) (hpub : Publishable settings writer s) :
    Tracked settings (s.publishDeviceStatus settings writer) := by
  rw [publishDeviceStatus_of_publishable hpub]
  split
  next hassistant => exact (h.publishDocuments hpub).publishDeviceStates hassistant
  next => exact h.publishDocuments hpub

theorem Tracked.converged_sweep (h : Tracked settings s) (hpub : Publishable settings writer s) :
    Converged settings writer (s.publishDeviceStatus settings writer) := by
  have hdocuments := h.publishDocuments hpub
  have htracked := h.sweep hpub
  rw [publishDeviceStatus_of_publishable hpub] at htracked ⊢
  have hwritten : ∀ device ∈ s.devices, ∀ label, device.label = some label →
      ∃ payload, writer.dump (device.document label) = some payload ∧
        (s.publishDocuments settings writer).broker (settings.deviceJsonTopic (slugify label)) =
          some payload := by
    intro device hmem label hlabel
    obtain ⟨payload, hpayload⟩ :=
      Option.ne_none_iff_exists'.mp (hpub.written device hmem label hlabel)
    exact ⟨payload, hpayload, (broker_publishDocuments hpub hmem hlabel).trans hpayload⟩
  by_cases hassistant : settings.homeAssistantEnabled
  · rw [if_pos hassistant] at htracked ⊢
    refine ⟨?_, ?_, ?_⟩
    · intro device hmem label hlabel
      rw [broker_publishDeviceStates_json hdocuments]
      exact hwritten device hmem label hlabel
    · intro _ device hmem label hlabel
      exact broker_publishDeviceStates_state (s := s.publishDocuments settings writer)
        (hpub.state hassistant) hmem hlabel
    · intro topic htopic hheld
      obtain hlisted | hlisted := htracked.listed topic htopic hheld
      · obtain ⟨device, hmem, label, hlabel, rfl⟩ :=
          (mem_publishDocuments_iff hpub topic).mp hlisted
        exact ⟨device, hmem, label, hlabel, .inl rfl⟩
      -- a listed topic is one that the last sweep has written
      · obtain ⟨device, hmem, label, hlabel, rfl⟩ := (mem_publishDeviceStates_iff topic).mp hlisted
        exact ⟨device, hmem, label, hlabel, .inr rfl⟩
  · rw [if_neg hassistant] at htracked ⊢
    refine ⟨hwritten, fun hon => absurd hon hassistant, ?_⟩
    intro topic htopic hheld
    obtain hlisted | hlisted := htracked.listed topic htopic hheld
    · obtain ⟨device, hmem, label, hlabel, rfl⟩ := (mem_publishDocuments_iff hpub topic).mp hlisted
      exact ⟨device, hmem, label, hlabel, .inl rfl⟩
    · rw [htracked.disabled (by simpa using hassistant)] at hlisted
      cases hlisted

theorem Converged.publishable (h : Converged settings writer (s.step settings writer .sweep)) :
    Publishable settings writer s := by
  have hdevices : (s.step settings writer .sweep).devices = s.devices := devices_publishDeviceStatus
  have hjson := h.json
  have hstate := h.state
  rw [hdevices] at hjson hstate
  refine ⟨?_, ?_, ?_⟩
  · intro device hmem label hlabel
    obtain ⟨payload, hpayload, -⟩ := hjson device hmem label hlabel
    simp [hpayload]
  · intro device hmem other hother label otherLabel hlabel hotherLabel hslug
    obtain ⟨payload, hpayload, hbroker⟩ := hjson device hmem label hlabel
    obtain ⟨otherPayload, hotherPayload, hotherBroker⟩ := hjson other hother otherLabel hotherLabel
    calc writer.dump (device.document label) = some payload := hpayload
      _ = some otherPayload := by rw [← hbroker, hslug, hotherBroker]
      _ = writer.dump (other.document otherLabel) := hotherPayload.symm
  · intro hassistant device hmem other hother label otherLabel hlabel hotherLabel hcategory hslug
    have hheld := hstate hassistant device hmem label hlabel
    rw [hcategory, hslug, hstate hassistant other hother otherLabel hotherLabel] at hheld
    exact (Option.some_inj.mp hheld).symm

variable (settings writer) in
theorem Tracked.step (event : RetainedEvent) (h : Tracked settings s)
    (hpub : event = .sweep → Publishable settings writer s) :
    Tracked settings (s.step settings writer event) := by
  cases event with
  | devicesChanged devices => exact ⟨h.listed, h.json, h.state, h.disabled⟩
  | sweep => exact h.sweep (hpub rfl)
  | connected =>
    rw [RetainedState.step]
    split
    next hassistant => exact h.publishDeviceStates hassistant
    next => exact h
  | reconciled seenTopics =>
    refine ⟨fun topic htopic hheld => ?_, h.json, h.state, h.disabled⟩
    exact h.listed topic htopic (of_publishAll_none_ne_none hheld)

end

/-- **Retained topics converge** after every sweep of a run if and only if at every sweep
everything can be published. -/
theorem converged_iff (settings : MqttSettings) (writer : JsonWriter)
    (broker : String → Option String) (events : List RetainedEvent) :
    EachStep (RetainedState.step settings writer)
        (fun s event => event = .sweep →
          Converged settings writer (s.step settings writer event))
        { broker := broker } events ↔
      EachStep (RetainedState.step settings writer)
        (fun s event => event = .sweep → Publishable settings writer s)
        { broker := broker } events := by
  constructor
  · intro hconverged
    -- what has converged could be published, whatever went before
    refine EachStep.of_invariant (Q := fun _ => True) (fun _ _ _ _ => trivial) ?_ trivial hconverged
    rintro s event - hstep rfl
    exact (hstep rfl).publishable
  · intro hpublishable
    -- the other way round the state is tracked from the start, and each sweep keeps it so
    have hstart : Tracked settings { broker := broker } :=
      { listed := nofun
        json := nofun
        state := nofun
        disabled := fun _ => rfl }
    refine EachStep.of_invariant (Q := Tracked settings)
      (fun s event h hstep => h.step settings writer event hstep) ?_ hstart hpublishable
    rintro s event h hstep rfl
    exact h.converged_sweep (hstep rfl)

/-! ## A topic for two -/

def plainWriter : JsonWriter where
  dump json := match json with
    | .object fields => some ("\x7b" ++ ",".intercalate (fields.map fun field =>
      "\"" ++ field.1 ++ "\":" ++ match field.2 with
        | .string text => "\"" ++ text ++ "\""
        | _ => "null") ++ "\x7d")
    | _ => some "null"
  dump_ne_empty := by
    rintro (_ | _ | _ | _ | _ | _ | fields) text h hempty <;>
      simp [hempty] at h

def sharedTopic : List RetainedEvent :=
  [.devicesChanged
    [{ category := .auxillary, id := "00000000-0000-5000-8000-000000000001",
       label := some "Pool Light" },
     { category := .auxillary, id := "00000000-0000-5000-8000-000000000002",
       label := some "Pool-Light" }],
    .sweep]

/-- The second of two devices whose labels have the same slug overwrites what the first has
published. -/
theorem sharedTopic_not_converged :
    ¬ ∀ (settings : MqttSettings) (writer : JsonWriter) (broker : String → Option String)
      (events : List RetainedEvent),
      EachStep (RetainedState.step settings writer)
        (fun s event => event = .sweep → Converged settings writer (s.step settings writer event))
        { broker := broker } events := by
  intro hall
  obtain ⟨-, hsweep, -⟩ := hall ⟨"aqualink", true⟩ plainWriter (fun _ => none) sharedTopic
  have hpublishable := (hsweep rfl).publishable
  have hsame := hpublishable.json _ mem_cons_self _
    (mem_cons_of_mem _ mem_cons_self) "Pool Light" "Pool-Light" rfl rfl
    (by decide +kernel)
  revert hsame
  decide +kernel

end AqualinkAutomate.Mqtt
