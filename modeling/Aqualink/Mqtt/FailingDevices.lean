import Aqualink.General.GuardedSweep
import Aqualink.Mqtt.ComponentKeys

/-!
# Devices that cannot be published

Three sweeps go over the devices: one publishes their documents, one their states, and one puts
their components into the discovery config, which goes out as a whole.  Each is one guarded block.
So a device that cannot be written, or handed over to the client, ends the sweep: of the documents
and of the states nothing behind it is published, and of the config nothing at all.

An ended sweep clears nothing, and leaves its record as it was.  What it has published by then is
not on the record if the sweep before it had not published it.

`sparesOthers_iff` says in which runs a device that fails does no harm to the others.
-/

namespace AqualinkAutomate.Mqtt

open General List

/-! ## The sweeps -/

def inOrder (categories : List DeviceCategory) (devices : List PublishedDevice) :
    List PublishedDevice :=
  categories.flatMap fun category => devices.filter fun device => device.category = category

section

variable (settings : MqttSettings) (writer : JsonWriter) (fails : PublishedDevice → Bool)

def publishOneDevice (device : PublishedDevice) : Option (List (String × String)) :=
  match device.label with
  | none => some []
  | some label =>
    if fails device then none
    else
      (writer.dump (device.document label)).map fun payload =>
        [(settings.deviceJsonTopic (slugify label), payload)]

def publishDeviceState (device : PublishedDevice) : Option (List (String × String)) :=
  match device.label with
  | none => some []
  | some label =>
    if fails device then none
    else some [(settings.deviceStateTopic device.category (slugify label), device.state)]

/-- The keys and the platforms of the components of a device, unless something throws.  A text
that is not valid shows only when the whole config is written, to the same effect. -/
def addComponents (device : PublishedDevice) : Option (List (String × String)) :=
  match device.label with
  | none => some []
  | some label =>
    if fails device then none
    else
      some ((addDeviceComponents device.category label).map fun component =>
        (component.key, component.platform))

end

structure Swept where
  published : List (String × String)
  cleared : List String
  ledger : Ledger String

def sweepEach (ledger : Ledger String)
    (attempt : PublishedDevice → Option (List (String × String)))
    (devices : List PublishedDevice) : Swept :=
  let (entries, complete) := attemptAll attempt devices
  let topics := entries.map Prod.fst
  if complete then ⟨entries, ledger.stale topics, ledger.replace topics⟩
  else ⟨entries, [], ledger.extend topics⟩

structure SweepState where
  devices : List PublishedDevice := []
  /-- The topics of the documents. -/
  documents : Ledger String := {}
  /-- The topics of the states. -/
  states : Ledger String := {}
  /-- The keys of the components. -/
  components : Ledger String := {}

namespace SweepState

variable (settings : MqttSettings) (writer : JsonWriter) (fails : PublishedDevice → Bool)
variable (s : SweepState)

def documentOrder : List PublishedDevice :=
  inOrder [.auxillary, .heater, .pump, .chlorinator, .light] s.devices

def stateOrder : List PublishedDevice :=
  inOrder [.pump, .heater, .chlorinator, .auxillary, .light] s.devices

def componentOrder : List PublishedDevice := inOrder DeviceCategory.dynamicOrder s.devices

def publishDeviceStatus : Swept :=
  sweepEach s.documents (publishOneDevice settings writer fails) s.documentOrder

def publishDeviceStates : Swept :=
  sweepEach s.states (publishDeviceState settings fails) s.stateOrder

/-- `PublishDiscoveryConfigs`, with the components that do not depend on the devices.  To clear a
component is to put its tombstone into the config. -/
def publishDiscoveryConfigs (system : List Component) : Swept :=
  let (entries, complete) := attemptAll (addComponents fails) s.componentOrder
  if complete then
    let components := system.map (fun component => (component.key, component.platform)) ++ entries
    let keys := components.map Prod.fst
    ⟨components, s.components.stale keys, s.components.replace keys⟩
  else ⟨[], [], s.components⟩

end SweepState

inductive SweepEvent where
  | devicesChanged (devices : List PublishedDevice)
  | deviceStatus (fails : PublishedDevice → Bool)
  | deviceStates (fails : PublishedDevice → Bool)
  | discoveryConfigs (system : List Component) (fails : PublishedDevice → Bool)

def SweepState.step (settings : MqttSettings) (writer : JsonWriter) (s : SweepState) :
    SweepEvent → SweepState
  | .devicesChanged devices => { s with devices }
  | .deviceStatus fails =>
    { s with documents := (s.publishDeviceStatus settings writer fails).ledger }
  | .deviceStates fails => { s with states := (s.publishDeviceStates settings fails).ledger }
  | .discoveryConfigs system fails =>
    { s with components := (s.publishDiscoveryConfigs fails system).ledger }

/-! ## Sparing the others -/

def documentTopics (settings : MqttSettings) (device : PublishedDevice) : List String :=
  (device.label.map fun label => settings.deviceJsonTopic (slugify label)).toList

def stateTopics (settings : MqttSettings) (device : PublishedDevice) : List String :=
  (device.label.map fun label =>
    settings.deviceStateTopic device.category (slugify label)).toList

def componentNames (device : PublishedDevice) : List String :=
  (device.label.map fun label =>
    (addDeviceComponents device.category label).map Component.key).getD []

/-- A sweep publishes of every device that does not fail, clears nothing of a device that is
there, and keeps its record true. -/
structure SparesOthers (attempt : PublishedDevice → Option (List (String × String)))
    (names : PublishedDevice → List String) (devices : List PublishedDevice) (swept : Swept) :
    Prop where
  others : (devices.flatMap (made attempt)).Sublist swept.published
  kept : ∀ device ∈ devices, ∀ name ∈ names device, name ∉ swept.cleared
  consistent : swept.ledger.Consistent

def SweepState.Spares (settings : MqttSettings) (writer : JsonWriter) (s : SweepState) :
    SweepEvent → Prop
  | .devicesChanged _ => True
  | .deviceStatus fails =>
    SparesOthers (publishOneDevice settings writer fails) (documentTopics settings)
      s.documentOrder (s.publishDeviceStatus settings writer fails)
  | .deviceStates fails =>
    SparesOthers (publishDeviceState settings fails) (stateTopics settings) s.stateOrder
      (s.publishDeviceStates settings fails)
  | .discoveryConfigs system fails =>
    SparesOthers (addComponents fails) componentNames s.componentOrder
      (s.publishDiscoveryConfigs fails system)

def HarmlessEach (ledger : Ledger String)
    (attempt : PublishedDevice → Option (List (String × String)))
    (devices : List PublishedDevice) : Prop :=
  (∀ device ∈ devices, attempt device ≠ none) ∨
    FailuresLast attempt devices ∧
      ∀ entry ∈ devices.flatMap (made attempt), entry.1 ∈ ledger.recorded

def HarmlessTogether (attempt : PublishedDevice → Option (List (String × String)))
    (devices : List PublishedDevice) : Prop :=
  (∀ device ∈ devices, attempt device ≠ none) ∨ ∀ device ∈ devices, made attempt device = []

def SweepState.Harmless (settings : MqttSettings) (writer : JsonWriter) (s : SweepState) :
    SweepEvent → Prop
  | .devicesChanged _ => True
  | .deviceStatus fails =>
    HarmlessEach s.documents (publishOneDevice settings writer fails) s.documentOrder
  | .deviceStates fails => HarmlessEach s.states (publishDeviceState settings fails) s.stateOrder
  | .discoveryConfigs _ fails => HarmlessTogether (addComponents fails) s.componentOrder

/-! ## One sweep -/

section

variable {settings : MqttSettings} {writer : JsonWriter} {fails : PublishedDevice → Bool}
variable {device : PublishedDevice} {entries : List (String × String)}

theorem names_of_publishOneDevice
    (h : publishOneDevice settings writer fails device = some entries) :
    entries.map Prod.fst = documentTopics settings device := by
  unfold publishOneDevice at h
  unfold documentTopics
  cases hlabel : device.label with
  | none =>
    rw [hlabel] at h
    cases h
    rfl
  | some label =>
    rw [hlabel] at h
    dsimp only at h
    split at h
    next => cases h
    next =>
      obtain ⟨payload, -, rfl⟩ := Option.map_eq_some_iff.mp h
      rfl

theorem names_of_publishDeviceState (h : publishDeviceState settings fails device = some entries) :
    entries.map Prod.fst = stateTopics settings device := by
  unfold publishDeviceState at h
  unfold stateTopics
  cases hlabel : device.label with
  | none =>
    rw [hlabel] at h
    cases h
    rfl
  | some label =>
    rw [hlabel] at h
    dsimp only at h
    split at h
    next => cases h
    next =>
      cases h
      rfl

theorem names_of_addComponents (h : addComponents fails device = some entries) :
    entries.map Prod.fst = componentNames device := by
  unfold addComponents at h
  unfold componentNames
  cases hlabel : device.label with
  | none =>
    rw [hlabel] at h
    cases h
    rfl
  | some label =>
    rw [hlabel] at h
    dsimp only at h
    split at h
    next => cases h
    next =>
      cases h
      simp

end

section

variable {attempt : PublishedDevice → Option (List (String × String))}
variable {names : PublishedDevice → List String} {devices : List PublishedDevice}
variable {ledger : Ledger String} {entries : List (String × String)}

section

variable
  (hnames : ∀ device entries, attempt device = some entries → entries.map Prod.fst = names device)

include hnames

theorem kept_of_complete (hcomplete : ∀ device ∈ devices, attempt device ≠ none)
    (hpublished : ∀ entry ∈ devices.flatMap (made attempt), entry ∈ entries) :
    ∀ device ∈ devices, ∀ name ∈ names device, name ∉ ledger.stale (entries.map Prod.fst) := by
  intro device hdevice name hname hstale
  obtain ⟨made', hmade⟩ := Option.ne_none_iff_exists'.mp (hcomplete device hdevice)
  rw [← hnames device made' hmade] at hname
  obtain ⟨entry, hentry, rfl⟩ := List.mem_map.mp hname
  have hmem : entry ∈ entries := by
    refine hpublished entry (List.mem_flatMap.mpr ⟨device, hdevice, ?_⟩)
    rwa [made_of_eq_some hmade]
  have hgone := (List.mem_filter.mp hstale).2
  rw [decide_eq_true_eq] at hgone
  exact hgone (mem_map_of_mem hmem)

theorem sweepEach_spares_iff (hledger : ledger.Consistent) :
    SparesOthers attempt names devices (sweepEach ledger attempt devices) ↔
      HarmlessEach ledger attempt devices := by
  unfold sweepEach HarmlessEach
  rw [← attemptAll_complete_iff, ← attemptAll_eq_iff]
  dsimp only
  split
  next hcomplete =>
    -- a whole sweep does no harm
    have hall := attemptAll_of_complete hcomplete
    refine iff_of_true ⟨?_, ?_, hledger.replace⟩ (.inl hcomplete)
    · rw [← hall]
    · refine kept_of_complete hnames (attemptAll_complete_iff.mp hcomplete) ?_
      intro entry hentry
      rwa [hall]
  next hended =>
    constructor
    · rintro ⟨hothers, -, hconsistent⟩
      have hall := attemptAll_sublist.antisymm hothers
      refine .inr ⟨hall, fun entry hentry => ?_⟩
      rw [← hall] at hentry
      exact hledger.extend_iff.mp hconsistent _ (mem_map_of_mem hentry)
    · rintro (hcomplete | ⟨hall, hrecorded⟩)
      · exact absurd hcomplete hended
      · refine ⟨by rw [← hall], fun _ _ _ _ => not_mem_nil, ?_⟩
        refine hledger.extend_iff.mpr fun topic htopic => ?_
        obtain ⟨entry, hentry, rfl⟩ := List.mem_map.mp htopic
        rw [hall] at hentry
        exact hrecorded entry hentry

end

theorem publishDiscoveryConfigs_spares_iff {s : SweepState} (fails : PublishedDevice → Bool)
    (system : List Component) (hledger : s.components.Consistent) :
    SparesOthers (addComponents fails) componentNames s.componentOrder
        (s.publishDiscoveryConfigs fails system) ↔
      HarmlessTogether (addComponents fails) s.componentOrder := by
  unfold SweepState.publishDiscoveryConfigs HarmlessTogether
  rw [← attemptAll_complete_iff]
  dsimp only
  split
  next hcomplete =>
    have hall := attemptAll_of_complete hcomplete
    refine iff_of_true ⟨?_, ?_, hledger.replace⟩ (.inl hcomplete)
    · rw [hall]
      exact sublist_append_right _ _
    · refine kept_of_complete (fun _ _ => names_of_addComponents)
        (attemptAll_complete_iff.mp hcomplete) ?_
      intro entry hentry
      rw [hall]
      exact mem_append_right _ hentry
  next hended =>
    constructor
    · rintro ⟨hothers, -, -⟩
      exact .inr (List.flatMap_eq_nil_iff.mp (List.sublist_nil.mp hothers))
    · rintro (hcomplete | hnone)
      · exact absurd hcomplete hended
      · refine ⟨?_, fun _ _ _ _ => not_mem_nil, hledger⟩
        rw [List.flatMap_eq_nil_iff.mpr hnone]

end

/-! ## Runs -/

section

variable {settings : MqttSettings} {writer : JsonWriter} {s : SweepState} {event : SweepEvent}

/-- The three records are true. -/
structure SweepState.Consistent (s : SweepState) : Prop where
  documents : s.documents.Consistent
  states : s.states.Consistent
  components : s.components.Consistent

theorem SweepState.Consistent.spares_iff (h : s.Consistent) :
    s.Spares settings writer event ↔ s.Harmless settings writer event := by
  cases event with
  | devicesChanged devices => exact Iff.rfl
  | deviceStatus fails =>
    exact sweepEach_spares_iff (fun _ _ => names_of_publishOneDevice) h.documents
  | deviceStates fails =>
    exact sweepEach_spares_iff (fun _ _ => names_of_publishDeviceState) h.states
  | discoveryConfigs system fails =>
    exact publishDiscoveryConfigs_spares_iff fails system h.components

theorem SweepState.Consistent.step (h : s.Consistent) (hspares : s.Spares settings writer event) :
    (s.step settings writer event).Consistent := by
  cases event with
  | devicesChanged devices => exact ⟨h.documents, h.states, h.components⟩
  | deviceStatus fails => exact ⟨hspares.consistent, h.states, h.components⟩
  | deviceStates fails => exact ⟨h.documents, hspares.consistent, h.components⟩
  | discoveryConfigs system fails => exact ⟨h.documents, h.states, hspares.consistent⟩

end

/-- **One bad device does not stop the others** in the sweeps of a run if and only if all of them
are harmless: no device fails, or those that do fail come last and what there is to publish of the
others is on record already; in the config, no device fails or there are no others. -/
theorem sparesOthers_iff (settings : MqttSettings) (writer : JsonWriter)
    (events : List SweepEvent) :
    EachStep (SweepState.step settings writer) (SweepState.Spares settings writer) {} events ↔
      EachStep (SweepState.step settings writer) (SweepState.Harmless settings writer) {}
        events := by
  have hempty : Ledger.Consistent ({} : Ledger String) := fun _ => Iff.rfl
  exact eachStep_congr_of_step (Q := SweepState.Consistent) (fun _ _ h hspares => h.step hspares)
    (fun _ _ h => h.spares_iff) ⟨hempty, hempty, hempty⟩

/-- The first of two relays cannot be written, and the second is not published. -/
theorem lightBehindCleaner_not_spared :
    ¬ ∀ (settings : MqttSettings) (writer : JsonWriter) (events : List SweepEvent),
      EachStep (SweepState.step settings writer) (SweepState.Spares settings writer) {}
        events := by
  intro hall
  have hsteps := hall ⟨"aqualink", true⟩ plainWriter
    [.devicesChanged
      [{ category := .auxillary, id := "00000000-0000-5000-8000-000000000001",
         label := some "Cleaner" },
       { category := .auxillary, id := "00000000-0000-5000-8000-000000000002",
         label := some "Pool Light" }],
      .deviceStates fun device => device.label = some "Cleaner"]
  have hothers := hsteps.2.1.others
  revert hothers
  decide +kernel

end AqualinkAutomate.Mqtt
