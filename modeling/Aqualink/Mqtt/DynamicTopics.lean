import Aqualink.Mqtt.FailSafe

/-!
# The topics of the devices

Each time the devices have been published, a pass over them registers a handler on
`device/{slug}` for every pump, chlorinator and auxiliary with a label, and one on
`heater/{slug}` for every heater with a label and a body of water.  The handler keeps the label
or the body that it was registered with, and a topic that has a handler keeps it for good.

Between two passes devices are discovered, relabelled and removed.  The topics follow the devices
after a pass exactly if what the earlier passes captured still speaks for them
(`topicsFollow_iff`).
-/

namespace AqualinkAutomate.Mqtt

open Equipment General List Option

/-! ## The devices and the handlers -/

/-- A device with the traits that the registration looks at. -/
structure TopicDevice extends AuxillaryDevice where
  type : AuxillaryTypes
  body : Option BodyOfWaterIds := none
  deriving DecidableEq

namespace TopicDevice

def HasSlug (slug : String) (device : TopicDevice) : Prop := device.label.map slugify = some slug

instance (slug : String) (device : TopicDevice) : Decidable (device.HasSlug slug) :=
  inferInstanceAs (Decidable (_ = _))

/-- The types that are registered for `device/{slug}`. -/
def IsSwitched (device : TopicDevice) : Prop :=
  device.type = .pump ∨ device.type = .chlorinator ∨ device.type = .auxillary

instance (device : TopicDevice) : Decidable device.IsSwitched :=
  inferInstanceAs (Decidable (_ ∨ _))

end TopicDevice

structure TopicState where
  devices : List TopicDevice := []
  handlers : CommandHandlers := registered [.defaultCommands, .deviceCommand, .setpointCommand]

namespace TopicState

variable (s : TopicState)

def ofType (type : AuxillaryTypes) : List TopicDevice := s.devices.filter fun d => d.type == type

/-- The labels of `Pumps()`, `Chlorinators()` and `Auxillaries()`. -/
def switchLabels : List String :=
  (s.ofType .pump ++ s.ofType .chlorinator ++ s.ofType .auxillary).filterMap fun d => d.label

/-- The labels and bodies of `Heaters()`. -/
def heaterLabels : List (String × BodyOfWaterIds) :=
  (s.ofType .heater).filterMap fun d =>
    match d.label, d.body with
    | some label, some body => some (label, body)
    | _, _ => none

def registerDynamicDeviceCommands : TopicState :=
  let pass := Registration.dynamicDeviceCommands s.switchLabels s.heaterLabels
  { s with handlers := Registration.apply s.handlers pass }

/-- The graph that the command dispatcher looks a label up in. -/
def graph : DevicesGraph := ⟨s.devices.map TopicDevice.toAuxillaryDevice⟩

end TopicState

inductive TopicEvent where
  | discovered (device : TopicDevice)
  | changed (id : Uuid) (label : Option String) (body : Option BodyOfWaterIds)
  | removed (id : Uuid)
  | devicesPublished

def TopicState.step (s : TopicState) : TopicEvent → TopicState
  | .discovered device => { s with devices := s.devices ++ [device] }
  | .changed id label body =>
    { s with devices := s.devices.map fun d =>
        if d.id = id then { d with label := label, body := body } else d }
  | .removed id => { s with devices := s.devices.filter fun d => d.id ≠ id }
  | .devicesPublished => s.registerDynamicDeviceCommands

def TopicState.run (history : List TopicEvent) : TopicState :=
  history.foldl TopicState.step {}

/-! ## What a message actuates -/

inductive Actuated where
  | device (device : AuxillaryDevice) (action : ActuationAction)
  | heater (body : BodyOfWaterIds) (enable : Bool)
  deriving DecidableEq

section

variable (deriveStableUuid : String → Uuid) (env : Environment) (s : TopicState)

def actuatedBy : DispatcherCall → Option Actuated
  -- a label is looked up when the message comes, a body was captured at the registration
  | .commandByLabel label action =>
    (deviceForLabel deriveStableUuid s.graph label).map fun d => .device d action
  | .setHeaterMode body enable => some (.heater body enable)
  | _ => none

def callsFor (handlers : CommandHandlers) (command : String) (payload : Json) :
    List DispatcherCall :=
  match handlers.handlerOf command with
  | some handler => handler.run env payload
  | none => []

def actuated (command : String) (payload : Json) : List Actuated :=
  (callsFor env s.handlers command payload).filterMap (actuatedBy deriveStableUuid s)

def switchAction (payload : Json) : Option Bool :=
  if parsePayloadString payload = "ON" then some true
  else if parsePayloadString payload = "OFF" then some false
  else none

def ActuationAction.ofBool (on : Bool) : ActuationAction := if on then .on else .off

/-- The topics follow the devices.  Whoever is actuated over a topic has the slug of the topic,
nobody is actuated over a topic whose slug no device has, and what has a slug to itself can be
switched over the topic. -/
structure TopicsFollow : Prop where
  device : ∀ slug payload, ∀ x ∈ actuated deriveStableUuid env s ("device/" ++ slug) payload,
    ∃ d ∈ s.devices, d.HasSlug slug ∧ ∃ action, x = .device d.toAuxillaryDevice action
  heater : ∀ slug payload, ∀ x ∈ actuated deriveStableUuid env s ("heater/" ++ slug) payload,
    ∃ d ∈ s.devices, d.type = .heater ∧ d.HasSlug slug ∧
      ∃ body enable, d.body = some body ∧ x = .heater body enable
  nobody : ∀ slug, (∀ d ∈ s.devices, ¬ d.HasSlug slug) → ∀ payload,
    actuated deriveStableUuid env s ("device/" ++ slug) payload = [] ∧
      actuated deriveStableUuid env s ("heater/" ++ slug) payload = []
  deviceReached : env.hasDispatcher → ∀ (d : TopicDevice) slug, d.IsSwitched →
    s.devices.filter (fun d => d.HasSlug slug) = [d] →
    ∀ payload on, switchAction payload = some on →
      actuated deriveStableUuid env s ("device/" ++ slug) payload =
        [.device d.toAuxillaryDevice (ActuationAction.ofBool on)]
  heaterReached : env.hasDispatcher → ∀ (d : TopicDevice) slug body, d.type = .heater →
    d.body = some body → s.devices.filter (fun d => d.HasSlug slug) = [d] →
    ∀ payload on, switchAction payload = some on →
      actuated deriveStableUuid env s ("heater/" ++ slug) payload = [.heater body on]

/-- What was captured on the topics still speaks for the devices: a label for a device with the
slug of the topic, or for none and then none is waiting for the topic; a body for a heater with
the slug of the topic. -/
structure CapturesHold : Prop where
  device : ∀ slug label, s.handlers.handlerOf ("device/" ++ slug) = some (.dynamicDevice label) →
    match deviceForLabel deriveStableUuid s.graph label with
    | some d => d.label.map slugify = some slug
    | none => ∀ d : TopicDevice, d.IsSwitched →
        s.devices.filter (fun d => d.HasSlug slug) ≠ [d]
  heater : ∀ slug label body,
    s.handlers.handlerOf ("heater/" ++ slug) = some (.heater label body) →
      ∃ d ∈ s.devices, d.type = .heater ∧ d.HasSlug slug ∧ d.body = some body

end

/-! ## The handlers of the topics -/

theorem ne_of_toList_ne {a b : String} (h : a.toList ≠ b.toList) : a ≠ b :=
  fun hab => h (congrArg String.toList hab)

theorem device_ne_heater (a b : String) : "device/" ++ a ≠ "heater/" ++ b :=
  ne_of_toList_ne (by simp)

theorem append_beq_append (front a b : String) : (front ++ a == front ++ b) = (a == b) := by
  rw [Bool.eq_iff_iff, beq_iff_eq, beq_iff_eq, String.append_right_inj]

namespace CommandHandlers

theorem handlerOf_apply_dynamic (handlers : CommandHandlers) (labels : List String)
    (heaters : List (String × BodyOfWaterIds)) (command : String) :
    ((Registration.dynamicDeviceCommands labels heaters).apply handlers).handlerOf command =
      (handlers.handlerOf command).or
        (handlerOf (Registration.dynamicDeviceCommands labels heaters).entries.2 command) := by
  have hfind := @find?_foldl_insertAbsent (String × CommandHandler) handlers
    (Registration.dynamicDeviceCommands labels heaters).entries.2 _ _ _ Prod.fst command
  have hfold : (Registration.dynamicDeviceCommands labels heaters).apply handlers =
      (Registration.dynamicDeviceCommands labels heaters).entries.2.foldl
        (insertAbsent fun existing a => existing.1 == a.1) handlers := rfl
  rw [handlerOf, hfold, hfind]
  cases hthere : List.find? (fun a => a.1 == command) handlers with
  | some entry => simp [handlerOf, hthere]
  | none => simp [handlerOf, hthere]

theorem find?_fixed (command : String) (h : command.toList.head? ≠ some 'c') :
    ([("chlorinator/percentage", .percentage .pool),
      ("chlorinator/pool/percentage", .percentage .pool),
      ("chlorinator/spa/percentage", .percentage .spa), ("chlorinator/boost", .boost),
      ("circulation/mode", .circulationMode)] : CommandHandlers).find?
        (fun e => e.1 == command) = none := by
  have hhead : ∀ e ∈ ([("chlorinator/percentage", .percentage .pool),
      ("chlorinator/pool/percentage", .percentage .pool),
      ("chlorinator/spa/percentage", .percentage .spa), ("chlorinator/boost", .boost),
      ("circulation/mode", .circulationMode)] : CommandHandlers),
        e.1.toList.head? = some 'c' := by decide
  rw [find?_eq_none]
  intro e he hcommand
  rw [beq_iff_eq] at hcommand
  exact h (hcommand ▸ hhead e he)

section

variable (labels : List String) (heaters : List (String × BodyOfWaterIds)) (slug : String)

include heaters

theorem handlerOf_device :
    handlerOf (Registration.dynamicDeviceCommands labels heaters).entries.2 ("device/" ++ slug) =
      (labels.find? fun label => slugify label == slug).map .dynamicDevice := by
  have hheaters : (heaters.map fun heater => ("heater/" ++ slugify heater.1,
      CommandHandler.heater heater.1 heater.2)).find?
        (fun e => e.1 == "device/" ++ slug) = none := by
    rw [find?_eq_none]
    intro entry hentry
    obtain ⟨heater, -, rfl⟩ := List.mem_map.mp hentry
    simpa using (device_ne_heater slug (slugify heater.1)).symm
  have hfixed := find?_fixed ("device/" ++ slug) (by simp)
  simp only [handlerOf, Registration.entries, find?_append, hheaters, hfixed, or_none,
    find?_map, Option.map_map, Function.comp_def, append_beq_append]

theorem handlerOf_heater :
    handlerOf (Registration.dynamicDeviceCommands labels heaters).entries.2 ("heater/" ++ slug) =
      (heaters.find? fun heater => slugify heater.1 == slug).map
        fun heater => .heater heater.1 heater.2 := by
  have hdevices : (labels.map fun label => ("device/" ++ slugify label,
      CommandHandler.dynamicDevice label)).find? (fun e => e.1 == "heater/" ++ slug) = none := by
    rw [find?_eq_none]
    intro entry hentry
    obtain ⟨label, -, rfl⟩ := List.mem_map.mp hentry
    simpa using device_ne_heater (slugify label) slug
  have hfixed := find?_fixed ("heater/" ++ slug) (by simp)
  simp only [handlerOf, Registration.entries, find?_append, hdevices, hfixed, or_none,
    none_or, find?_map, Option.map_map, Function.comp_def, append_beq_append]

end

end CommandHandlers

namespace TopicState

variable {s : TopicState} {slug : String}

theorem registered_device :
    s.registerDynamicDeviceCommands.handlers.handlerOf ("device/" ++ slug) =
      (s.handlers.handlerOf ("device/" ++ slug)).or
        ((s.switchLabels.find? fun label => slugify label == slug).map .dynamicDevice) := by
  rw [← CommandHandlers.handlerOf_device s.switchLabels s.heaterLabels]
  exact CommandHandlers.handlerOf_apply_dynamic ..

theorem registered_heater :
    s.registerDynamicDeviceCommands.handlers.handlerOf ("heater/" ++ slug) =
      (s.handlers.handlerOf ("heater/" ++ slug)).or
        ((s.heaterLabels.find? fun heater => slugify heater.1 == slug).map
          fun heater => .heater heater.1 heater.2) := by
  rw [← CommandHandlers.handlerOf_heater s.switchLabels s.heaterLabels]
  exact CommandHandlers.handlerOf_apply_dynamic ..

/-! ## What the topics have captured -/

structure Captured (handlers : CommandHandlers) : Prop where
  device : ∀ slug handler, handlers.handlerOf ("device/" ++ slug) = some handler →
    ∃ label, handler = .dynamicDevice label ∧ slugify label = slug
  heater : ∀ slug handler, handlers.handlerOf ("heater/" ++ slug) = some handler →
    ∃ label body, handler = .heater label body ∧ slugify label = slug

theorem captured_registered :
    Captured (registered [.defaultCommands, .deviceCommand, .setpointCommand]) := by
  have hnone : ∀ command : String, '/' ∈ command.toList.take 7 →
      (registered [.defaultCommands, .deviceCommand, .setpointCommand]).handlerOf command =
        none := by
    have hkeys : ∀ e ∈ registered [.defaultCommands, .deviceCommand, .setpointCommand],
        '/' ∉ e.1.toList.take 7 := by decide
    intro command hslash
    have hfind : (registered [.defaultCommands, .deviceCommand, .setpointCommand]).find?
        (fun e => e.1 == command) = none := by
      rw [find?_eq_none]
      intro e he hcommand
      rw [beq_iff_eq] at hcommand
      exact hkeys e he (hcommand ▸ hslash)
    rw [CommandHandlers.handlerOf, hfind, map_none]
  constructor
  · intro slug handler h
    rw [hnone _ (by simp)] at h
    cases h
  · intro slug handler h
    rw [hnone _ (by simp)] at h
    cases h

theorem Captured.registerDynamicDeviceCommands (h : Captured s.handlers) :
    Captured s.registerDynamicDeviceCommands.handlers := by
  constructor
  · intro slug handler hhandler
    rw [registered_device, or_eq_some_iff] at hhandler
    obtain hold | ⟨-, hnew⟩ := hhandler
    · exact h.device slug handler hold
    · obtain ⟨label, hlabel, rfl⟩ := Option.map_eq_some_iff.mp hnew
      exact ⟨label, rfl, by simpa using find?_some hlabel⟩
  · intro slug handler hhandler
    rw [registered_heater, or_eq_some_iff] at hhandler
    obtain hold | ⟨-, hnew⟩ := hhandler
    · exact h.heater slug handler hold
    · obtain ⟨heater, hheater, rfl⟩ := Option.map_eq_some_iff.mp hnew
      exact ⟨heater.1, heater.2, rfl, by simpa using find?_some hheater⟩

theorem captured_run (history : List TopicEvent) : Captured (run history).handlers := by
  induction history using reverseRecOn with
  | nil => exact captured_registered
  | append_singleton history event ih =>
    rw [run, foldl_append]
    cases event with
    | devicesPublished => exact ih.registerDynamicDeviceCommands
    | _ => exact ih

end TopicState

/-! ## Looking a label up -/

section

variable {deriveStableUuid : String → Uuid} {s : TopicState} {label slug : String}

theorem mem_of_deviceForLabel {d : AuxillaryDevice}
    (h : deviceForLabel deriveStableUuid s.graph label = some d) :
    ∃ device ∈ s.devices, device.toAuxillaryDevice = d := by
  have hmem : d ∈ s.graph.devices := by
    unfold deviceForLabel at h
    split at h
    next found rest hfound =>
      obtain rfl : found = d := by simpa using h
      exact (List.mem_filter.mp (hfound ▸ mem_cons_self)).1
    next =>
      obtain ⟨auxId, -, hfound⟩ := Option.bind_eq_some_iff.mp h
      exact mem_of_find?_eq_some hfound
  simpa [TopicState.graph] using hmem

variable {device : TopicDevice}

theorem deviceForLabel_of_label (deriveStableUuid : String → Uuid) (hmem : device ∈ s.devices)
    (hlabel : device.label = some label) :
    ∃ d, deviceForLabel deriveStableUuid s.graph label = some d ∧ d.label = some label := by
  have hfound : device.toAuxillaryDevice ∈ s.graph.findByLabel label :=
    List.mem_filter.mpr ⟨List.mem_map_of_mem hmem, by simpa using hlabel⟩
  unfold deviceForLabel
  split
  next first rest hfirst =>
    have hmatches : first ∈ s.graph.findByLabel label := hfirst ▸ mem_cons_self
    exact ⟨first, rfl, by simpa using (List.mem_filter.mp hmatches).2⟩
  next hnone =>
    rw [hnone] at hfound
    cases hfound

theorem mem_switchLabels (hmem : device ∈ s.devices) (hswitched : device.IsSwitched)
    (hlabel : device.label = some label) : label ∈ s.switchLabels := by
  refine List.mem_filterMap.mpr ⟨device, ?_, hlabel⟩
  simp only [TopicState.ofType, mem_append, mem_filter, beq_iff_eq]
  obtain htype | htype | htype := hswitched
  · exact .inl (.inl ⟨hmem, htype⟩)
  · exact .inl (.inr ⟨hmem, htype⟩)
  · exact .inr ⟨hmem, htype⟩

theorem exists_of_mem_switchLabels (h : label ∈ s.switchLabels) :
    ∃ device ∈ s.devices, device.label = some label := by
  obtain ⟨device, hmem, hlabel⟩ := List.mem_filterMap.mp h
  simp only [TopicState.ofType, mem_append, mem_filter] at hmem
  obtain (hmem | hmem) | hmem := hmem
  all_goals exact ⟨device, hmem.1, hlabel⟩

theorem mem_heaterLabels_iff {body : BodyOfWaterIds} :
    (label, body) ∈ s.heaterLabels ↔
      ∃ device ∈ s.devices, device.type = .heater ∧ device.label = some label ∧
        device.body = some body := by
  simp only [TopicState.heaterLabels, TopicState.ofType, mem_filterMap, mem_filter,
    beq_iff_eq, and_assoc]
  refine exists_congr fun device => and_congr_right fun _ => and_congr_right fun _ => ?_
  cases device.label <;> cases device.body <;> simp

theorem hasSlug_of_label (hlabel : device.label = some label) :
    device.HasSlug slug ↔ slugify label = slug := by
  rw [TopicDevice.HasSlug, hlabel, map_some, some_inj]

end

/-! ## A pass -/

section

variable {deriveStableUuid : String → Uuid} {env : Environment} {s : TopicState} {slug : String}
variable {label : String}

theorem actuated_dynamicDevice (payload : Json)
    (h : s.handlers.handlerOf ("device/" ++ slug) = some (.dynamicDevice label)) :
    actuated deriveStableUuid env s ("device/" ++ slug) payload =
      if env.hasDispatcher then
        match switchAction payload, deviceForLabel deriveStableUuid s.graph label with
        | some on, some d => [.device d (ActuationAction.ofBool on)]
        | _, _ => []
      else [] := by
  simp only [actuated, callsFor, h, CommandHandler.run, handleDynamicDeviceCommand, switchAction]
  split
  · split_ifs with hon hoff
    · cases hdevice : deviceForLabel deriveStableUuid s.graph label <;>
        simp [actuatedBy, hdevice, ActuationAction.ofBool]
    · cases hdevice : deviceForLabel deriveStableUuid s.graph label <;>
        simp [actuatedBy, hdevice, ActuationAction.ofBool]
    · rfl
  · rfl

variable {body : BodyOfWaterIds}

theorem actuated_heater (payload : Json)
    (h : s.handlers.handlerOf ("heater/" ++ slug) = some (.heater label body)) :
    actuated deriveStableUuid env s ("heater/" ++ slug) payload =
      if env.hasDispatcher then
        match switchAction payload with
        | some on => [.heater body on]
        | none => []
      else [] := by
  simp only [actuated, callsFor, h, CommandHandler.run, handleHeaterCommand, switchAction]
  split
  · split_ifs <;> simp [actuatedBy]
  · rfl

theorem actuated_of_none {command : String} (payload : Json)
    (h : s.handlers.handlerOf command = none) :
    actuated deriveStableUuid env s command payload = [] := by
  simp only [actuated, callsFor, h, filterMap_nil]

theorem capturesHold_registerDynamicDeviceCommands :
    CapturesHold deriveStableUuid s.registerDynamicDeviceCommands ↔
      CapturesHold deriveStableUuid s := by
  constructor
  · intro h
    constructor
    · intro slug label hlabel
      refine h.device slug label ?_
      rw [TopicState.registered_device, hlabel, some_or]
    · intro slug label body hbody
      refine h.heater slug label body ?_
      rw [TopicState.registered_heater, hbody, some_or]
  · intro h
    constructor
    · intro slug label hlabel
      rw [TopicState.registered_device, or_eq_some_iff] at hlabel
      obtain hold | ⟨-, hnew⟩ := hlabel
      · exact h.device slug label hold
      -- what the pass itself has captured is a label of now
      · obtain ⟨found, hfound, heq⟩ := Option.map_eq_some_iff.mp hnew
        obtain rfl : found = label := by simpa using heq
        have hslug : slugify found = slug := by simpa using find?_some hfound
        obtain ⟨device, hmem, hdevice⟩ :=
          exists_of_mem_switchLabels (mem_of_find?_eq_some hfound)
        obtain ⟨d, hd, hdlabel⟩ :=
          deviceForLabel_of_label deriveStableUuid hmem hdevice
        have hgraph : s.registerDynamicDeviceCommands.graph = s.graph := rfl
        rw [hgraph, hd]
        simp only [hdlabel, map_some, hslug]
    · intro slug label body hbody
      rw [TopicState.registered_heater, or_eq_some_iff] at hbody
      obtain hold | ⟨-, hnew⟩ := hbody
      · exact h.heater slug label body hold
      · obtain ⟨⟨foundLabel, foundBody⟩, hfound, heq⟩ := Option.map_eq_some_iff.mp hnew
        obtain ⟨rfl, rfl⟩ : foundLabel = label ∧ foundBody = body := by simpa using heq
        have hslug : slugify foundLabel = slug := by simpa using find?_some hfound
        obtain ⟨device, hmem, htype, hlabel, hbody⟩ :=
          mem_heaterLabels_iff.mp (mem_of_find?_eq_some hfound)
        exact ⟨device, hmem, htype, (hasSlug_of_label hlabel).mpr hslug, hbody⟩

variable {d : TopicDevice}

theorem mem_of_filter_eq_singleton (h : s.devices.filter (fun d => d.HasSlug slug) = [d]) :
    d ∈ s.devices ∧ ∃ label, d.label = some label ∧ slugify label = slug := by
  have hmem : d ∈ s.devices.filter (fun d => d.HasSlug slug) := h ▸ mem_singleton_self d
  obtain ⟨hdevice, hslug⟩ := List.mem_filter.mp hmem
  exact ⟨hdevice, Option.map_eq_some_iff.mp (of_decide_eq_true hslug)⟩

theorem eq_of_filter_eq_singleton {other : TopicDevice}
    (h : s.devices.filter (fun d => d.HasSlug slug) = [d]) (hother : other ∈ s.devices)
    (hslug : other.HasSlug slug) : other = d := by
  have hmem : other ∈ s.devices.filter (fun d => d.HasSlug slug) :=
    List.mem_filter.mpr ⟨hother, decide_eq_true hslug⟩
  exact List.mem_singleton.mp (h ▸ hmem)

section

variable (hcaptured : TopicState.Captured s.handlers)
  (hholds : env.hasDispatcher = true → CapturesHold deriveStableUuid s)

include hcaptured hholds

theorem device_of_mem_actuated {payload : Json} {x : Actuated}
    (hx : x ∈ actuated deriveStableUuid env s ("device/" ++ slug) payload) :
    ∃ d ∈ s.devices, d.HasSlug slug ∧ ∃ action, x = .device d.toAuxillaryDevice action := by
  cases hhandler : s.handlers.handlerOf ("device/" ++ slug) with
  | none =>
    rw [actuated_of_none payload hhandler] at hx
    cases hx
  | some handler =>
    obtain ⟨label, rfl, -⟩ := hcaptured.device slug handler hhandler
    rw [actuated_dynamicDevice payload hhandler] at hx
    split at hx
    next hdispatcher =>
      have hslug := (hholds hdispatcher).device slug label hhandler
      split at hx
      next on d hon hd =>
        rw [hd] at hslug
        obtain ⟨device, hmem, rfl⟩ := mem_of_deviceForLabel hd
        exact ⟨device, hmem, hslug, _, List.mem_singleton.mp hx⟩
      next => cases hx
    next => cases hx

theorem heater_of_mem_actuated {payload : Json} {x : Actuated}
    (hx : x ∈ actuated deriveStableUuid env s ("heater/" ++ slug) payload) :
    ∃ d ∈ s.devices, d.type = .heater ∧ d.HasSlug slug ∧
      ∃ body enable, d.body = some body ∧ x = .heater body enable := by
  cases hhandler : s.handlers.handlerOf ("heater/" ++ slug) with
  | none =>
    rw [actuated_of_none payload hhandler] at hx
    cases hx
  | some handler =>
    obtain ⟨label, body, rfl, -⟩ := hcaptured.heater slug handler hhandler
    rw [actuated_heater payload hhandler] at hx
    split at hx
    next hdispatcher =>
      obtain ⟨d, hmem, htype, hslug, hbody⟩ :=
        (hholds hdispatcher).heater slug label body hhandler
      split at hx
      next on hon => exact ⟨d, hmem, htype, hslug, body, on, hbody, List.mem_singleton.mp hx⟩
      next => cases hx
    next => cases hx

end

theorem exists_device_handler (hmem : d ∈ s.devices) (hswitched : d.IsSwitched)
    (hlabel : d.label = some label) (hslug : slugify label = slug) :
    ∃ handler, s.registerDynamicDeviceCommands.handlers.handlerOf ("device/" ++ slug) =
      some handler := by
  rw [TopicState.registered_device, ← isSome_iff_exists,
    isSome_or, isSome_map, Bool.or_eq_true]
  exact .inr (List.find?_isSome.mpr ⟨label, mem_switchLabels hmem hswitched hlabel, by simpa⟩)

theorem exists_heater_handler (hmem : d ∈ s.devices) (htype : d.type = .heater)
    (hlabel : d.label = some label) (hbody : d.body = some body) (hslug : slugify label = slug) :
    ∃ handler, s.registerDynamicDeviceCommands.handlers.handlerOf ("heater/" ++ slug) =
      some handler := by
  rw [TopicState.registered_heater, ← isSome_iff_exists,
    isSome_or, isSome_map, Bool.or_eq_true]
  exact .inr (List.find?_isSome.mpr
    ⟨(label, body), mem_heaterLabels_iff.mpr ⟨d, hmem, htype, hlabel, hbody⟩, by simpa⟩)

variable (env) in
theorem TopicState.Captured.topicsFollow (hcaptured : TopicState.Captured s.handlers)
    (hholds : env.hasDispatcher = true →
      CapturesHold deriveStableUuid s.registerDynamicDeviceCommands) :
    TopicsFollow deriveStableUuid env s.registerDynamicDeviceCommands := by
  have hcaptured' := hcaptured.registerDynamicDeviceCommands
  refine ⟨fun slug payload x => device_of_mem_actuated hcaptured' hholds,
    fun slug payload x => heater_of_mem_actuated hcaptured' hholds, ?_, ?_, ?_⟩
  · intro slug hnone payload
    constructor
    · refine List.eq_nil_iff_forall_not_mem.mpr fun x hx => ?_
      obtain ⟨d, hmem, hslug, -⟩ := device_of_mem_actuated hcaptured' hholds hx
      exact hnone d hmem hslug
    · refine List.eq_nil_iff_forall_not_mem.mpr fun x hx => ?_
      obtain ⟨d, hmem, -, hslug, -⟩ := heater_of_mem_actuated hcaptured' hholds hx
      exact hnone d hmem hslug
  · intro hdispatcher d slug hswitched hunique payload on hon
    obtain ⟨hmem, label, hlabel, hslug⟩ := mem_of_filter_eq_singleton (s := s) hunique
    obtain ⟨handler, hhandler⟩ := exists_device_handler hmem hswitched hlabel hslug
    obtain ⟨captured, rfl, -⟩ := hcaptured'.device slug handler hhandler
    have hresolved := (hholds hdispatcher).device slug captured hhandler
    rw [actuated_dynamicDevice payload hhandler, if_pos hdispatcher, hon]
    split at hresolved
    next found hfound =>
      rw [hfound]
      obtain ⟨device, hdevice, rfl⟩ := mem_of_deviceForLabel hfound
      rw [eq_of_filter_eq_singleton hunique hdevice hresolved]
    next => exact absurd hunique (hresolved d hswitched)
  · intro hdispatcher d slug body htype hbody hunique payload on hon
    obtain ⟨hmem, label, hlabel, hslug⟩ := mem_of_filter_eq_singleton (s := s) hunique
    obtain ⟨handler, hhandler⟩ := exists_heater_handler hmem htype hlabel hbody hslug
    obtain ⟨capturedLabel, captured, rfl, -⟩ := hcaptured'.heater slug handler hhandler
    obtain ⟨other, hother, -, hotherSlug, hotherBody⟩ :=
      (hholds hdispatcher).heater slug capturedLabel captured hhandler
    rw [eq_of_filter_eq_singleton hunique hother hotherSlug, hbody, some_inj] at hotherBody
    rw [actuated_heater payload hhandler, if_pos hdispatcher, hon, hotherBody]

theorem TopicsFollow.capturesHold (h : TopicsFollow deriveStableUuid env s)
    (hdispatcher : env.hasDispatcher) : CapturesHold deriveStableUuid s := by
  have hon : switchAction (.string "ON") = some true := by decide
  constructor
  · intro slug label hhandler
    have hactuated : actuated deriveStableUuid env s ("device/" ++ slug) (.string "ON") = _ :=
      actuated_dynamicDevice (.string "ON") hhandler
    rw [if_pos hdispatcher, hon] at hactuated
    split
    next d hd =>
      rw [hd] at hactuated
      obtain ⟨device, -, hslug, action, hx⟩ := h.device slug (.string "ON")
        (.device d (ActuationAction.ofBool true)) (hactuated ▸ mem_singleton_self _)
      obtain ⟨rfl, -⟩ : d = device.toAuxillaryDevice ∧ _ := by simpa using hx
      exact hslug
    next hnone =>
      intro d hswitched hunique
      rw [hnone, h.deviceReached hdispatcher d slug hswitched hunique _ true hon] at hactuated
      cases hactuated
  · intro slug label body hhandler
    have hactuated : actuated deriveStableUuid env s ("heater/" ++ slug) (.string "ON") = _ :=
      actuated_heater (.string "ON") hhandler
    rw [if_pos hdispatcher, hon] at hactuated
    obtain ⟨d, hmem, htype, hslug, found, enable, hbody, hx⟩ := h.heater slug (.string "ON")
      (.heater body true) (hactuated ▸ mem_singleton_self _)
    obtain ⟨rfl, -⟩ : body = found ∧ _ := by simpa using hx
    exact ⟨d, hmem, htype, hslug, hbody⟩

end

/-- **The topics follow the devices**, after a pass at the end of any history, exactly if what
the passes before it captured holds. -/
theorem topicsFollow_iff (deriveStableUuid : String → Uuid) (env : Environment)
    (history : List TopicEvent) :
    TopicsFollow deriveStableUuid env (TopicState.run (history ++ [.devicesPublished])) ↔
      (env.hasDispatcher → CapturesHold deriveStableUuid (TopicState.run history)) := by
  have hrun : TopicState.run (history ++ [.devicesPublished]) =
      (TopicState.run history).registerDynamicDeviceCommands := by
    rw [TopicState.run, foldl_append]
    rfl
  rw [hrun]
  constructor
  · intro hfollow hdispatcher
    exact capturesHold_registerDynamicDeviceCommands.mp (hfollow.capturesHold hdispatcher)
  · intro hholds
    exact (TopicState.captured_run history).topicsFollow env fun hdispatcher =>
      capturesHold_registerDynamicDeviceCommands.mpr (hholds hdispatcher)

def relabelledLight : List TopicEvent :=
  [.discovered { id := Vector.replicate 16 1, label := some "Pool Light", type := .auxillary },
    .devicesPublished, .changed (Vector.replicate 16 1) (some "Pool-Light") none]

/-- Its topic, which is the same as before, is left with the old label. -/
theorem relabelledLight_unreachable :
    ¬ ∀ (deriveStableUuid : String → Uuid) (env : Environment) (history : List TopicEvent),
      TopicsFollow deriveStableUuid env (TopicState.run (history ++ [.devicesPublished])) := by
  intro hall
  have hfollow := hall (fun _ => Vector.replicate 16 0)
    ⟨exactDoubles, true, some .fahrenheit, some .celsius, fun _ => none⟩ relabelledLight
  have hreached := hfollow.deviceReached rfl
    { id := Vector.replicate 16 1, label := some "Pool-Light", type := .auxillary } "pool_light"
    (by decide) (by decide +kernel) (.string "ON") true (by decide)
  revert hreached
  decide +kernel

end AqualinkAutomate.Mqtt
