import Aqualink.Http.SubjectResolver

/-!
# Preferences

There is one global document of preferences, and for each user overrides of the fields that are a
matter of taste.  A `PUT` of an authenticated subject is split: the fields of taste go to the
overrides of the subject, the others to the global document.  Any other `PUT` goes to the global
document as a whole.

Each part is validated before any of it is applied.  `applyJson_eq_ok` says what becomes of the
global document: a field that is named gets the value that is asked for, and the others stay.

Whether a text is a web address is a parameter.
-/

namespace AqualinkAutomate.Http

open Auth General Scheduling

inductive TemperatureUnits where
  | celsius
  | fahrenheit
  deriving DecidableEq

def TemperatureUnits.name : TemperatureUnits → String
  | celsius => "Celsius"
  | fahrenheit => "Fahrenheit"

/-- The preferences that the services read. -/
structure PreferencesHub where
  temperatureDisplayUnits : TemperatureUnits := .celsius
  alertSaltLowPpm : UInt32 := 2600
  alertCommsTimeoutSeconds : UInt32 := 60
  alertWebhookUrl : String := ""
  historyRetentionDays : UInt32 := 90
  labelOverrides : Json := .object []
  auxPresenceOverrides : Json := .object []
  showAuxIdInLabel : Bool := false
  uiPreferences : List (String × Json) := []
  spaSwitchButtons : Json := .object []

/-! ## The global document -/

structure PreferenceError where
  message : String
  code : String
  deriving DecidableEq

def readField {α : Type} (json : Json) (key : String) (convert : Json → Except PreferenceError α)
    (current : α) : Except PreferenceError α :=
  match json.member key with
  | none => .ok current
  | some value => convert value

/-- What is asked for in a field. -/
def requested {α : Type} (json : Json) (key : String)
    (convert : Json → Except PreferenceError α) : Option α :=
  (json.member key).bind fun value => (convert value).toOption

def objectPart (json : Json) (key : String) : Json :=
  match json.member key with
  | some (.object fields) => .object fields
  | _ => .object []

def asTemperatureUnits : Json → Except PreferenceError TemperatureUnits
  | .string "Celsius" => .ok .celsius
  | .string "Fahrenheit" => .ok .fahrenheit
  | _ => .error
      ⟨"temperature_units must be 'Celsius' or 'Fahrenheit'", "invalid_temperature_units"⟩

def asSaltLowPpm : Json → Except PreferenceError UInt32
  | .integer value =>
    if toInt64 value < 0 ∨ 6000 < toInt64 value then
      .error ⟨"alert.salt_low_ppm must be 0..6000", "invalid_salt_low_ppm"⟩
    else .ok (UInt32.ofInt value)
  | _ => .error ⟨"alert.salt_low_ppm must be 0..6000", "invalid_salt_low_ppm"⟩

/-- A number greater than zero. -/
def asPositive (error : PreferenceError) : Json → Except PreferenceError UInt32
  | .integer value =>
    if toInt64 value ≤ 0 then .error error else .ok (UInt32.ofInt value)
  | _ => .error error

def asCommsTimeout : Json → Except PreferenceError UInt32 :=
  asPositive ⟨"alert.comms_timeout_seconds must be greater than 0", "invalid_comms_timeout"⟩

def asRetentionDays : Json → Except PreferenceError UInt32 :=
  asPositive ⟨"history.retention_days must be greater than 0", "invalid_retention_days"⟩

def asWebhookUrl (isValidWebhookUrl : String → Bool) : Json → Except PreferenceError String
  | .string url =>
    if url ≠ "" ∧ isValidWebhookUrl url = false then
      .error ⟨"alert.webhook_url must be empty or an absolute http/https URL",
        "invalid_webhook_url"⟩
    else .ok url
  | _ => .error ⟨"alert.webhook_url must be empty or an absolute http/https URL",
      "invalid_webhook_url"⟩

/-- An object whose values all pass. -/
def asObjectOf (passes : Json → Bool) (noObject noValue : PreferenceError) :
    Json → Except PreferenceError Json
  | .object fields =>
    if fields.all fun field => passes field.2 then .ok (.object fields) else .error noValue
  | _ => .error noObject

def isText : Json → Bool
  | .string _ => true
  | _ => false

def isPresence : Json → Bool
  | .string text => text == "present" || text == "absent"
  | _ => false

def asLabelOverrides : Json → Except PreferenceError Json :=
  asObjectOf isText
    ⟨"label_overrides must be an object of canonical->display strings", "invalid_label_overrides"⟩
    ⟨"label_overrides values must be strings", "invalid_label_overrides"⟩

def asAuxPresenceOverrides : Json → Except PreferenceError Json :=
  asObjectOf isPresence
    ⟨"aux_presence_overrides must be an object of aux-id->\"present\"/\"absent\" strings",
      "invalid_aux_presence_overrides"⟩
    ⟨"aux_presence_overrides values must be \"present\" or \"absent\"",
      "invalid_aux_presence_overrides"⟩

def asShowAuxId : Json → Except PreferenceError Bool
  | .bool value => .ok value
  | _ => .error ⟨"show_aux_id_in_label must be a boolean", "invalid_show_aux_id"⟩

/-- The patch of the interface's own preferences. -/
def asUi : Json → Except PreferenceError (List (String × Json))
  | .object fields => .ok fields
  | _ => .error ⟨"ui must be an object", "invalid_ui"⟩

def patchUi (ui : List (String × Json)) (field : String × Json) : List (String × Json) :=
  match field.2 with
  | .null => ui.filter fun existing => existing.1 != field.1
  | value => Json.setField field.1 value ui

/-- The shallow merge of `ValidateUi`. -/
def mergeUi (ui patch : List (String × Json)) : List (String × Json) := patch.foldl patchUi ui

def asSpaSwitchButtons : Json → Except PreferenceError Json :=
  asObjectOf isText
    ⟨"spa_switch_buttons must be an object of \"switch:button\"->function strings",
      "invalid_spa_switch_buttons"⟩
    ⟨"spa_switch_buttons values must be strings", "invalid_spa_switch_buttons"⟩

/-- `ApplyJson`, which validates in this order and applies nothing if it refuses. -/
def applyJson (isValidWebhookUrl : String → Bool) (hub : PreferencesHub) (json : Json) :
    Except PreferenceError PreferencesHub := do
  let units ← readField json "temperature_units" asTemperatureUnits hub.temperatureDisplayUnits
  let salt ← readField (objectPart json "alert") "salt_low_ppm" asSaltLowPpm hub.alertSaltLowPpm
  let comms ← readField (objectPart json "alert") "comms_timeout_seconds" asCommsTimeout
    hub.alertCommsTimeoutSeconds
  let webhook ← readField (objectPart json "alert") "webhook_url" (asWebhookUrl isValidWebhookUrl)
    hub.alertWebhookUrl
  let retention ← readField (objectPart json "history") "retention_days" asRetentionDays
    hub.historyRetentionDays
  let labels ← readField json "label_overrides" asLabelOverrides hub.labelOverrides
  let presence ← readField json "aux_presence_overrides" asAuxPresenceOverrides
    hub.auxPresenceOverrides
  let showAuxId ← readField json "show_aux_id_in_label" asShowAuxId hub.showAuxIdInLabel
  let patch ← readField json "ui" asUi []
  let buttons ← readField json "spa_switch_buttons" asSpaSwitchButtons hub.spaSwitchButtons
  return { temperatureDisplayUnits := units, alertSaltLowPpm := salt,
           alertCommsTimeoutSeconds := comms, alertWebhookUrl := webhook,
           historyRetentionDays := retention, labelOverrides := labels,
           auxPresenceOverrides := presence, showAuxIdInLabel := showAuxId,
           uiPreferences := mergeUi hub.uiPreferences patch, spaSwitchButtons := buttons }

/-- The document of the global preferences. -/
def PreferencesHub.toJson (hub : PreferencesHub) : List (String × Json) :=
  [("alert", .object [("comms_timeout_seconds", .integer hub.alertCommsTimeoutSeconds.toNat),
      ("salt_low_ppm", .integer hub.alertSaltLowPpm.toNat),
      ("webhook_url", .string hub.alertWebhookUrl)]),
    ("aux_presence_overrides", hub.auxPresenceOverrides),
    ("history", .object [("retention_days", .integer hub.historyRetentionDays.toNat)]),
    ("label_overrides", hub.labelOverrides),
    ("show_aux_id_in_label", .bool hub.showAuxIdInLabel),
    ("spa_switch_buttons", hub.spaSwitchButtons),
    ("temperature_units", .string hub.temperatureDisplayUnits.name),
    ("ui", .object hub.uiPreferences)]

/-! ## The overrides of the users -/

def perUserKeys : List String := ["temperature_units", "theme", "accent", "chemistry_bands"]

def isPerUserKey (key : String) : Bool := decide (key ∈ perUserKeys)

/-- `ValidateField` of the per-user store: what is wrong with the value. -/
def validateUserField (key : String) (value : Json) : Option String :=
  if key = "temperature_units" then
    match value with
    | .string "Celsius" | .string "Fahrenheit" => none
    | _ => some "temperature_units must be 'Celsius' or 'Fahrenheit'"
  else if key = "theme" then
    match value with
    | .string "light" | .string "dark" | .string "system" => none
    | _ => some "theme must be 'light', 'dark' or 'system'"
  else if key = "accent" then
    match value with
    | .string text =>
      if text = "" ∨ 32 < text.utf8ByteSize then some "accent must be a non-empty short string"
      else none
    | _ => some "accent must be a non-empty short string"
  else if key = "chemistry_bands" then
    match value with
    | .object _ => none
    | _ => some "chemistry_bands must be an object"
  else none

abbrev UserOverrides : Type := String → Option (List (String × Json))

/-- `UserPreferencesStore::Apply` -/
def UserOverrides.apply (byUser : UserOverrides) (userId : String)
    (fields : List (String × Json)) : Except String UserOverrides :=
  if userId = "" then
    .error "a user id is required to store per-user preferences"
  else
    match fields.findSome? fun field =>
        if isPerUserKey field.1 then validateUserField field.1 field.2 else none with
    | some error => .error error
    | none =>
      .ok fun other =>
        if other = userId then
          some ((fields.filter fun field => isPerUserKey field.1).foldl
            (fun overrides field => Json.setField field.1 field.2 overrides)
            ((byUser userId).getD []))
        else byUser other

/-! ## The route -/

inductive HttpStatus where
  | ok
  | badRequest
  | unauthorized
  | forbidden
  | conflict
  | unprocessableEntity
  | internalServerError
  | serviceUnavailable
  deriving DecidableEq

/-- An answer has an error code or a document. -/
structure HttpResponse where
  status : HttpStatus
  code : String := ""
  message : String := ""
  body : Json := .null

/-- The preferences, in memory and on disk. -/
structure PreferencesState where
  global : Persisted PreferencesHub
  users : Persisted UserOverrides

/-- How the server is set up, and how the saves of a request go. -/
structure PreferencesEnv where
  isValidWebhookUrl : String → Bool
  authModeEnabled : Bool
  hasUserPreferences : Bool
  globalSaved : Bool := true
  usersSaved : Bool := true

section

variable (env : PreferencesEnv) (state : PreferencesState) (subject : Subject)

/-- The fields of the global document and those that a view always has. -/
def withPerUserDefaults (view : List (String × Json)) : List (String × Json) :=
  let bands := ((Json.object view).member "ui").bind (Json.member "chemistryBands")
  [("theme", .string "system"), ("accent", .string "teal"),
    ("chemistry_bands", bands.getD (.object []))].foldl
      (fun view field =>
        if ((Json.object view).member field.1).isSome then view
        else Json.setField field.1 field.2 view) view

def buildMergedView (perUserActive : Bool) : Json :=
  let view := withPerUserDefaults state.global.memory.toJson
  let overrides := if perUserActive then (state.users.memory subject.id).getD [] else []
  .object (overrides.foldl (fun view field => Json.setField field.1 field.2 view) view)

/-- The commit of `ApplyJson`.  A failed save is logged, no more. -/
def commitGlobal (hub : PreferencesHub) : PreferencesState :=
  { state with
    global := ⟨hub, if env.globalSaved then some hub else state.global.file⟩ }

/-- `HandlePutRequest`, given the parsed body if it is JSON. -/
def handlePutRequest (perUserActive : Bool) (body : Option Json) :
    PreferencesState × HttpResponse :=
  match body with
  | some (.object fields) =>
    if perUserActive then
      let userFields := fields.filter fun field => isPerUserKey field.1
      let systemFields := fields.filter fun field => !isPerUserKey field.1
      if systemFields ≠ [] ∧
          subject.entitlements.permits Vocabulary.systemAdmin "" = false then
        (state, ⟨.forbidden, "admin_required",
          "system preferences require administrator access", .null⟩)
      else
        let applied := if systemFields = [] then .ok state else
          (applyJson env.isValidWebhookUrl state.global.memory (.object systemFields)).map
            (commitGlobal env state)
        match applied with
        | .error error => (state, ⟨.badRequest, error.code, error.message, .null⟩)
        | .ok state =>
          -- the system fields are applied and saved by now
          if userFields = [] then
            (state, ⟨.ok, "", "", buildMergedView state subject perUserActive⟩)
          else
            match state.users.memory.apply subject.id userFields with
            | .error error => (state, ⟨.badRequest, "invalid_preferences", error, .null⟩)
            | .ok byUser =>
              if env.usersSaved then
                let state := { state with users := ⟨byUser, some byUser⟩ }
                (state, ⟨.ok, "", "", buildMergedView state subject perUserActive⟩)
              else
                -- the save throws, and the router answers
                ({ state with users := ⟨byUser, state.users.file⟩ },
                  ⟨.internalServerError, "", "", .null⟩)
    else
      match applyJson env.isValidWebhookUrl state.global.memory (.object fields) with
      | .error error => (state, ⟨.badRequest, error.code, error.message, .null⟩)
      | .ok hub =>
        let state := commitGlobal env state hub
        (state, ⟨.ok, "", "", buildMergedView state subject perUserActive⟩)
  | _ => (state, ⟨.badRequest, "invalid_json", "Invalid JSON in request body", .null⟩)

/-- A `PUT` on the route, behind the gate of the router. -/
def putPreferences (body : Option Json) : PreferencesState × HttpResponse :=
  if PolicyEngine.decide subject Vocabulary.prefsSelf "" env.authModeEnabled = .permit then
    handlePutRequest env state subject
      (env.authModeEnabled && env.hasUserPreferences && subject.authenticated) body
  else if subject.authenticated then
    (state, ⟨.forbidden, "", "Forbidden: not entitled.", .null⟩)
  else
    (state, ⟨.unauthorized, "", "Unauthorized.", .null⟩)

end

/-! ## What becomes of the global document -/

def Accepts {α : Type} (json : Json) (key : String) (convert : Json → Except PreferenceError α) :
    Prop :=
  ∀ value, json.member key = some value → ∃ converted, convert value = .ok converted

/-- Every field of the global document is converted. -/
structure ValidPreferences (isValidWebhookUrl : String → Bool) (json : Json) : Prop where
  units : Accepts json "temperature_units" asTemperatureUnits
  salt : Accepts (objectPart json "alert") "salt_low_ppm" asSaltLowPpm
  comms : Accepts (objectPart json "alert") "comms_timeout_seconds" asCommsTimeout
  webhook : Accepts (objectPart json "alert") "webhook_url" (asWebhookUrl isValidWebhookUrl)
  retention : Accepts (objectPart json "history") "retention_days" asRetentionDays
  labels : Accepts json "label_overrides" asLabelOverrides
  presence : Accepts json "aux_presence_overrides" asAuxPresenceOverrides
  showAuxId : Accepts json "show_aux_id_in_label" asShowAuxId
  ui : Accepts json "ui" asUi
  buttons : Accepts json "spa_switch_buttons" asSpaSwitchButtons

/-- The global document with what is asked for. -/
def PreferencesHub.updated (isValidWebhookUrl : String → Bool) (hub : PreferencesHub)
    (json : Json) : PreferencesHub where
  temperatureDisplayUnits :=
    (requested json "temperature_units" asTemperatureUnits).getD hub.temperatureDisplayUnits
  alertSaltLowPpm :=
    (requested (objectPart json "alert") "salt_low_ppm" asSaltLowPpm).getD hub.alertSaltLowPpm
  alertCommsTimeoutSeconds :=
    (requested (objectPart json "alert") "comms_timeout_seconds" asCommsTimeout).getD
      hub.alertCommsTimeoutSeconds
  alertWebhookUrl :=
    (requested (objectPart json "alert") "webhook_url" (asWebhookUrl isValidWebhookUrl)).getD
      hub.alertWebhookUrl
  historyRetentionDays :=
    (requested (objectPart json "history") "retention_days" asRetentionDays).getD
      hub.historyRetentionDays
  labelOverrides := (requested json "label_overrides" asLabelOverrides).getD hub.labelOverrides
  auxPresenceOverrides :=
    (requested json "aux_presence_overrides" asAuxPresenceOverrides).getD hub.auxPresenceOverrides
  showAuxIdInLabel :=
    (requested json "show_aux_id_in_label" asShowAuxId).getD hub.showAuxIdInLabel
  uiPreferences := mergeUi hub.uiPreferences ((requested json "ui" asUi).getD [])
  spaSwitchButtons :=
    (requested json "spa_switch_buttons" asSpaSwitchButtons).getD hub.spaSwitchButtons

section

variable {α : Type} {json : Json} {key : String} {convert : Json → Except PreferenceError α}
variable {current : α} {hub hub' : PreferencesHub} {isValidWebhookUrl : String → Bool}

theorem readField_of_accepts (h : Accepts json key convert) :
    readField json key convert current = .ok ((requested json key convert).getD current) := by
  rw [readField, requested]
  cases hmember : json.member key with
  | none => rfl
  | some value =>
    obtain ⟨converted, hconverted⟩ := h value hmember
    simp only [hconverted, Option.bind_some, Except.toOption, Option.getD_some]

theorem readField_eq_ok {value : α} :
    readField json key convert current = .ok value ↔
      Accepts json key convert ∧ value = (requested json key convert).getD current := by
  constructor
  · intro h
    have haccepts : Accepts json key convert := by
      intro found hfound
      rw [readField, hfound] at h
      exact ⟨value, h⟩
    rw [readField_of_accepts haccepts] at h
    exact ⟨haccepts, (Except.ok.inj h).symm⟩
  · rintro ⟨haccepts, rfl⟩
    exact readField_of_accepts haccepts

theorem applyJson_eq_ok :
    applyJson isValidWebhookUrl hub json = .ok hub' ↔
      ValidPreferences isValidWebhookUrl json ∧ hub' = hub.updated isValidWebhookUrl json := by
  simp only [applyJson, bind_eq_ok_iff, readField_eq_ok]
  constructor
  · rintro ⟨_, ⟨hunits, rfl⟩, _, ⟨hsalt, rfl⟩, _, ⟨hcomms, rfl⟩, _, ⟨hwebhook, rfl⟩, _,
      ⟨hretention, rfl⟩, _, ⟨hlabels, rfl⟩, _, ⟨hpresence, rfl⟩, _, ⟨hshow, rfl⟩, _, ⟨hui, rfl⟩, _,
      ⟨hbuttons, rfl⟩, hresult⟩
    exact ⟨⟨hunits, hsalt, hcomms, hwebhook, hretention, hlabels, hpresence, hshow, hui, hbuttons⟩,
      (Except.ok.inj hresult).symm⟩
  · rintro ⟨hvalid, rfl⟩
    exact ⟨_, ⟨hvalid.units, rfl⟩, _, ⟨hvalid.salt, rfl⟩, _, ⟨hvalid.comms, rfl⟩, _,
      ⟨hvalid.webhook, rfl⟩, _, ⟨hvalid.retention, rfl⟩, _, ⟨hvalid.labels, rfl⟩, _,
      ⟨hvalid.presence, rfl⟩, _, ⟨hvalid.showAuxId, rfl⟩, _, ⟨hvalid.ui, rfl⟩, _,
      ⟨hvalid.buttons, rfl⟩, rfl⟩

def Restates (json : Json) (key : String) (convert : Json → Except PreferenceError α)
    (current : α) : Prop :=
  ∀ value, requested json key convert = some value → value = current

theorem getD_requested_eq_iff :
    (requested json key convert).getD current = current ↔ Restates json key convert current := by
  rw [Restates]
  cases requested json key convert with
  | none => simp
  | some value => simp

end

end AqualinkAutomate.Http
