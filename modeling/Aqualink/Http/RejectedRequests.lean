import Aqualink.Http.PreferenceOwnership
import Aqualink.Mqtt.FailSafe

/-!
# What a rejected request does

The setpoints and the chlorinator are set by requests of two fields.  The first field is validated
and sent to the dispatcher before the second one is looked at, so a request that is answered with
400 for its second field has acted on the first.  A `PUT` of preferences is like that: the system
fields are applied before the fields of the user are validated.

`actsOnNothing_iff` says which requests do nothing when they are rejected.

A command that the dispatcher answers with `InvalidValue` was not issued: no controller takes it on.
The dispatcher is a parameter, whose answer can depend on the calls before.  The answers that
succeed are given without the echo of the values.
-/

namespace AqualinkAutomate.Http

open Auth General List
open Scheduling hiding DispatcherCall
open Equipment (CommandResult BodyOfWaterIds)
open Mqtt (DoubleArithmetic DispatcherCall)

/-! ## Two fields one after the other -/

def statusForCommandResult : CommandResult → HttpStatus
  | .success => .ok
  | .invalidValue => .badRequest
  | .deviceNotFound | .noSerialAdapter => .serviceUnavailable
  | .unknownEquipmentType => .unprocessableEntity
  | .busy => .conflict

abbrev CallLog : Type := List (DispatcherCall × CommandResult)

inductive FieldStep where
  | absent
  | refused (code message : String) (details : List (String × Json))
  | call (call : DispatcherCall)

/-- The fields in their order: the first one that is refused ends the request, and the first
failure of a command is what the request is answered with. -/
def dispatchFields (answer : CallLog → DispatcherCall → CommandResult) :
    List FieldStep → CallLog → CommandResult → CallLog × HttpResponse
  | [], calls, overall => (calls, ⟨statusForCommandResult overall, "", "", .null⟩)
  | .absent :: rest, calls, overall => dispatchFields answer rest calls overall
  | .refused code message details :: _, calls, _ =>
    (calls, ⟨.badRequest, code, message, .object details⟩)
  | .call call :: rest, calls, overall =>
    let result := answer calls call
    -- the command is out, whatever the later fields are
    dispatchFields answer rest (calls ++ [(call, result)])
      (if overall = .success then result else overall)

/-- The commands that the dispatcher did not find invalid. -/
def issued (calls : CallLog) : CallLog := calls.filter fun entry => entry.2 ≠ .invalidValue

/-! ## The handlers -/

/-- What the handlers find when they run. -/
structure ControlEnv where
  doubles : DoubleArithmetic
  systemTemperatureUnits : TemperatureUnits
  hasDispatcher : Bool
  answer : CallLog → DispatcherCall → CommandResult
  preferences : PreferencesEnv

section

variable (env : ControlEnv)

def wireSetpoint (celsius : env.doubles.Double) : UInt8 :=
  let doubles := env.doubles
  let value := match env.systemTemperatureUnits with
    | .celsius => doubles.round celsius
    | .fahrenheit =>
      doubles.round (doubles.add
        (doubles.div (doubles.mul celsius (doubles.ofInteger 9)) (doubles.ofInteger 5))
        (doubles.ofInteger 32))
  doubles.toByte (doubles.clampToByte value)

/-- `ConvertAndDispatchSetpoint`, up to the call. -/
def setpointStep (payload : Json) (key : String) (dispatch : UInt8 → DispatcherCall) : FieldStep :=
  match payload.member key with
  | none => .absent
  | some field =>
    match env.doubles.numberOf field with
    | none =>
      .refused "setpoint_not_a_number" ("Setpoint '" ++ key ++ "' must be a number")
        [("target", .string key)]
    | some celsius =>
      if !env.doubles.isFinite celsius ||
          env.doubles.lt celsius (env.doubles.ofInteger (-10)) ||
          env.doubles.lt (env.doubles.ofInteger 50) celsius then
        -- the bounds -10.0 and 50.0
        .refused "setpoint_out_of_range" ("Setpoint '" ++ key ++ "' out of range")
          [("max", .float 0x4049000000000000), ("min", .float 0xC024000000000000),
            ("target", .string key)]
      else
        .call (dispatch (wireSetpoint env celsius))

def setpointSteps (payload : Json) : List FieldStep :=
  [setpointStep env payload "pool" .setPoolSetpoint, setpointStep env payload "spa" .setSpaSetpoint]

def chlorinatorBody (payload : Json) : Except String BodyOfWaterIds :=
  match payload.member "body" with
  | none => .ok .pool
  | some (.string text) =>
    if lowercase text = "pool" then .ok .pool
    else if lowercase text = "spa" then .ok .spa
    else .error "body must be \"pool\" or \"spa\""
  | some _ => .error "body must be a string"

def percentageStep (payload : Json) : FieldStep :=
  match payload.member "percentage" with
  | none => .absent
  | some field =>
    match env.doubles.numberOf field with
    | none => .refused "" "percentage must be a number" []
    | some percent =>
      if !env.doubles.isFinite percent || env.doubles.lt percent (env.doubles.ofInteger 0) ||
          env.doubles.lt (env.doubles.ofInteger 100) percent then
        .refused "" "percentage must be 0..100" []
      else
        match chlorinatorBody payload with
        | .error message => .refused "" message []
        | .ok body =>
          .call (.setChlorinatorPercentage
            (env.doubles.toByte (env.doubles.round percent)) body)

def boostStep (payload : Json) : FieldStep :=
  match payload.member "boost" with
  | none => .absent
  | some (.bool enable) => .call (.setChlorinatorBoost enable)
  | some _ => .refused "" "boost must be a boolean" []

def chlorinatorSteps (payload : Json) : List FieldStep :=
  [percentageStep env payload, boostStep payload]

end

inductive ControlRequest where
  | setpoints (body : Option Json)
  | chlorinator (body : Option Json)
  | preferences (body : Option Json)

structure ControlOutcome where
  preferences : PreferencesState
  calls : CallLog
  response : HttpResponse

section

variable (env : ControlEnv) (subject : Subject) (state : PreferencesState)

/-- What a request of two fields does: `HandlePost` behind the gate of the router. -/
def postFields (action : String) (body : Option Json) (steps : Json → List FieldStep)
    (unavailable refusal : HttpResponse) (accepts : Json → Bool) : ControlOutcome :=
  if PolicyEngine.decide subject action "" env.preferences.authModeEnabled = .permit then
    if env.hasDispatcher then
      match body.filter accepts with
      | none => ⟨state, [], refusal⟩
      | some payload =>
        let (calls, response) := dispatchFields env.answer (steps payload) [] .success
        ⟨state, calls, response⟩
    else
      ⟨state, [], unavailable⟩
  else if subject.authenticated then
    ⟨state, [], ⟨.forbidden, "", "Forbidden: not entitled.", .null⟩⟩
  else
    ⟨state, [], ⟨.unauthorized, "", "Unauthorized.", .null⟩⟩

def isObject : Json → Bool
  | .object _ => true
  | _ => false

def postSetpoints (body : Option Json) : ControlOutcome :=
  postFields env subject state "equipment.control.setpoints" body (setpointSteps env)
    ⟨.serviceUnavailable, "dispatcher_unavailable", "Command dispatcher not available", .null⟩
    ⟨.badRequest, "invalid_json", "Invalid JSON in request body", .null⟩ fun _ => true

def postChlorinator (body : Option Json) : ControlOutcome :=
  postFields env subject state "equipment.control.chlorinator" body (chlorinatorSteps env)
    ⟨.serviceUnavailable, "", "Command dispatcher not available", .null⟩
    ⟨.badRequest, "", "request body must be a JSON object", .null⟩ isObject

def handleControl : ControlRequest → ControlOutcome
  | .setpoints body => postSetpoints env subject state body
  | .chlorinator body => postChlorinator env subject state body
  | .preferences body =>
    let (state, response) := putPreferences env.preferences state subject body
    ⟨state, [], response⟩

end

/-! ## What the law is -/

def ControlOutcome.Inert (outcome : ControlOutcome) (state : PreferencesState) : Prop :=
  issued outcome.calls = [] ∧ outcome.preferences = state

def FieldStep.isRefused : FieldStep → Bool
  | .refused _ _ _ => true
  | _ => false

def HasInvalidUserField (fields : List (String × Json)) : Prop :=
  ∃ field ∈ fields, isPerUserKey field.1 = true ∧ validateUserField field.1 field.2 ≠ none

def PreferencesEnv.perUserActive (env : PreferencesEnv) (subject : Subject) : Bool :=
  env.authModeEnabled && env.hasUserPreferences && subject.authenticated

def systemPart (fields : List (String × Json)) : List (String × Json) :=
  fields.filter fun field => !isPerUserKey field.1

def userPart (fields : List (String × Json)) : List (String × Json) :=
  fields.filter fun field => isPerUserKey field.1

def HasInvalidField (env : ControlEnv) (subject : Subject) : ControlRequest → Prop
  | .setpoints body =>
    ∃ payload, body = some payload ∧ ∃ step ∈ setpointSteps env payload, step.isRefused = true
  | .chlorinator body =>
    ∃ payload, body.filter isObject = some payload ∧
      ∃ step ∈ chlorinatorSteps env payload, step.isRefused = true
  | .preferences body =>
    ∃ fields, body = some (.object fields) ∧
      if env.preferences.perUserActive subject then
        ¬ ValidPreferences env.preferences.isValidWebhookUrl (.object (systemPart fields)) ∨
          HasInvalidUserField fields
      else ¬ ValidPreferences env.preferences.isValidWebhookUrl (.object fields)

/-- What is answered with 400 or 403 has done nothing, and a request with an invalid field is
refused and has done nothing. -/
structure ActsOnNothing (state : PreferencesState) (invalid : Prop) (outcome : ControlOutcome) :
    Prop where
  rejected : outcome.response.status = .badRequest ∨ outcome.response.status = .forbidden →
    outcome.Inert state
  whole : invalid → outcome.response.status ≠ .ok ∧ outcome.Inert state

/-! ## Requests of two fields -/

/-- A second field that is refused comes after a command that the dispatcher found invalid, and
if the dispatcher finds one of two commands invalid it has issued none, or the other one has
failed already. -/
def SettledTogether (answer : CallLog → DispatcherCall → CommandResult) :
    FieldStep → FieldStep → Prop
  | .call first, .refused _ _ _ => answer [] first = .invalidValue
  | .call first, .call second =>
    let result := answer [] first
    let result' := answer [(first, result)] second
    (result = .invalidValue → result' = .invalidValue) ∧
      (result = .success → result' ≠ .invalidValue)
  | _, _ => True

section

variable {answer : CallLog → DispatcherCall → CommandResult} {first second : FieldStep}
variable {calls : CallLog} {overall result : CommandResult}

theorem statusForCommandResult_eq_badRequest :
    statusForCommandResult result = .badRequest ↔ result = .invalidValue := by
  cases result <;> simp [statusForCommandResult]

theorem statusForCommandResult_ne_forbidden : statusForCommandResult result ≠ .forbidden := by
  cases result <;> simp [statusForCommandResult]

theorem issued_singleton (call : DispatcherCall) :
    issued [(call, result)] = [] ↔ result = .invalidValue := by
  simp [issued]

theorem issued_pair (call : DispatcherCall) (result : CommandResult) (other : DispatcherCall)
    (later : CommandResult) :
    issued [(call, result), (other, later)] = [] ↔
      result = .invalidValue ∧ later = .invalidValue := by
  simp [issued]

variable {steps : List FieldStep}

theorem dispatchFields_ne_forbidden :
    (dispatchFields answer steps calls overall).2.status ≠ .forbidden := by
  induction steps generalizing calls overall with
  | nil => exact statusForCommandResult_ne_forbidden
  | cons step rest ih =>
    cases step with
    | absent => exact ih
    | refused code message details => exact nofun
    | call call => exact ih

theorem dispatchFields_of_refused (h : ∃ step ∈ steps, step.isRefused) :
    (dispatchFields answer steps calls overall).2.status = .badRequest := by
  induction steps generalizing calls overall with
  | nil =>
    obtain ⟨step, hmem, -⟩ := h
    cases hmem
  | cons step rest ih =>
    -- a field that is passed leaves the refused one to the rest
    have hrest : step.isRefused = false → ∃ later ∈ rest, later.isRefused := by
      intro hpassed
      obtain ⟨later, hmem, hrefused⟩ := h
      obtain rfl | hmem := List.mem_cons.mp hmem
      · rw [hpassed] at hrefused
        cases hrefused
      · exact ⟨later, hmem, hrefused⟩
    cases step with
    | absent => exact ih (hrest rfl)
    | refused code message details => rfl
    | call call => exact ih (hrest rfl)

theorem dispatchFields_two_iff :
    ((dispatchFields answer [first, second] [] .success).2.status = .badRequest →
        issued (dispatchFields answer [first, second] [] .success).1 = []) ↔
      SettledTogether answer first second := by
  have hnone : issued [] = [] := rfl
  cases first with
  | refused code message details => exact iff_of_true (fun _ => hnone) trivial
  | absent =>
    cases second with
    | absent => exact iff_of_true (fun _ => hnone) trivial
    | refused code message details => exact iff_of_true (fun _ => hnone) trivial
    | call call =>
      refine iff_of_true (fun hstatus => ?_) trivial
      exact (issued_singleton call).mpr (statusForCommandResult_eq_badRequest.mp hstatus)
  | call call =>
    cases second with
    | absent =>
      refine iff_of_true (fun hstatus => ?_) trivial
      exact (issued_singleton call).mpr (statusForCommandResult_eq_badRequest.mp hstatus)
    | refused code message details =>
      calc (HttpStatus.badRequest = .badRequest → issued [(call, answer [] call)] = [])
          ↔ issued [(call, answer [] call)] = [] := by simp only [true_imp_iff]
        _ ↔ answer [] call = .invalidValue := issued_singleton call
    | call other =>
      have hcalls := issued_pair call (answer [] call) other (answer [(call, answer [] call)] other)
      -- the first failure is the first command's unless that one has succeeded
      by_cases hsuccess : answer [] call = .success
      · simp only [dispatchFields, SettledTogether, nil_append, cons_append, if_true,
          statusForCommandResult_eq_badRequest, hcalls, if_pos hsuccess]
        simp [hsuccess]
      · simp only [dispatchFields, SettledTogether, nil_append, cons_append, if_true,
          statusForCommandResult_eq_badRequest, hcalls, hsuccess, false_imp_iff,
          and_true]
        exact ⟨fun h hinvalid => (h hinvalid).2, fun h hinvalid => ⟨hinvalid, h hinvalid⟩⟩

theorem ActsOnNothing.of_inert {state : PreferencesState} {invalid : Prop}
    {outcome : ControlOutcome} (hinert : outcome.Inert state)
    (hstatus : invalid → outcome.response.status ≠ .ok) : ActsOnNothing state invalid outcome :=
  ⟨fun _ => hinert, fun h => ⟨hstatus h, hinert⟩⟩

variable {env : ControlEnv} {subject : Subject} {state : PreferencesState} {action : String}
variable {body : Option Json} {steps : Json → List FieldStep} {unavailable refusal : HttpResponse}
variable {accepts : Json → Bool} {accepted : Option Json} {firstStep secondStep : Json → FieldStep}

theorem postFields_iff (hbody : body.filter accepts = accepted)
    (hsteps : ∀ payload, steps payload = [firstStep payload, secondStep payload])
    (hunavailable : unavailable.status = .serviceUnavailable) :
    ActsOnNothing state
        (∃ payload, accepted = some payload ∧ ∃ step ∈ steps payload, step.isRefused)
        (postFields env subject state action body steps unavailable refusal accepts) ↔
      (PolicyEngine.decide subject action "" env.preferences.authModeEnabled = .permit →
        env.hasDispatcher → ∀ payload, accepted = some payload →
          SettledTogether env.answer (firstStep payload) (secondStep payload)) := by
  have hinert : ∀ response : HttpResponse, (⟨state, [], response⟩ : ControlOutcome).Inert state :=
    fun _ => ⟨rfl, rfl⟩
  rw [postFields, hbody]
  split
  next hpermit =>
    split
    next hdispatcher =>
      cases accepted with
      | none =>
        refine iff_of_true (.of_inert (hinert _) ?_) (fun _ _ => nofun)
        rintro ⟨payload, hsome, -⟩
        cases hsome
      | some payload =>
        have hfields :=
          @dispatchFields_two_iff env.answer (firstStep payload) (secondStep payload)
        constructor
        · rintro hnothing - - _ hsome
          cases hsome
          refine hfields.mp fun hstatus => ?_
          rw [← hsteps] at hstatus ⊢
          exact (hnothing.rejected (.inl hstatus)).1
        · intro hsettled
          have hissued := hfields.mpr (hsettled hpermit hdispatcher payload rfl)
          rw [← hsteps] at hissued
          refine ⟨fun hstatus => ?_, ?_⟩
          · exact ⟨hissued (hstatus.resolve_right dispatchFields_ne_forbidden), rfl⟩
          · rintro ⟨_, hsome, hrefused⟩
            cases hsome
            have hstatus := @dispatchFields_of_refused env.answer [] .success _ hrefused
            exact ⟨by rw [hstatus]; exact nofun, hissued hstatus, rfl⟩
    next hnone =>
      refine iff_of_true (.of_inert (hinert _) fun _ => ?_) fun _ hdispatcher =>
        absurd hdispatcher hnone
      rw [hunavailable]
      exact nofun
  next hdeny =>
    refine iff_of_true ?_ fun hpermit => absurd hpermit hdeny
    split
    · exact .of_inert (hinert _) fun _ => by simp
    · exact .of_inert (hinert _) fun _ => by simp

end

/-! ## Preferences -/

def UserPartRefused (subject : Subject) (fields : List (String × Json)) : Prop :=
  userPart fields ≠ [] ∧ (subject.id = "" ∨ HasInvalidUserField fields)

def AlreadyApplied (env : PreferencesEnv) (state : PreferencesState)
    (fields : List (String × Json)) : Prop :=
  NothingNew env.isValidWebhookUrl state.global.memory (.object (systemPart fields)) ∧
    (env.globalSaved = true → state.global.file = some state.global.memory)

def SystemPartApplied (env : PreferencesEnv) (subject : Subject) (fields : List (String × Json)) :
    Prop :=
  systemPart fields ≠ [] ∧ subject.entitlements.permits Vocabulary.systemAdmin "" = true ∧
    ValidPreferences env.isValidWebhookUrl (.object (systemPart fields))

section

variable {env : PreferencesEnv} {state applied : PreferencesState} {subject : Subject}
variable {fields : List (String × Json)}

theorem exists_apply_ok_iff {byUser : UserOverrides} {userId : String} :
    (∃ byUser', byUser.apply userId (userPart fields) = .ok byUser') ↔
      userId ≠ "" ∧ ¬ HasInvalidUserField fields := by
  have hfind : ((userPart fields).findSome? fun field =>
      if isPerUserKey field.1 then validateUserField field.1 field.2 else none) = none ↔
        ¬ HasInvalidUserField fields := by
    rw [findSome?_eq_none_iff]
    constructor
    · rintro hnone ⟨field, hmem, hkey, hinvalid⟩
      have hfield := hnone field (List.mem_filter.mpr ⟨hmem, hkey⟩)
      rw [if_pos hkey] at hfield
      exact hinvalid hfield
    · intro hvalid field hmem
      obtain ⟨hmem, hkey⟩ := List.mem_filter.mp hmem
      rw [if_pos hkey]
      by_contra hinvalid
      exact hvalid ⟨field, hmem, hkey, hinvalid⟩
  rw [UserOverrides.apply]
  split
  next hid => simp [hid]
  next hid =>
    split
    next error herror =>
      have hinvalid : HasInvalidUserField fields := by
        by_contra hvalid
        rw [hfind.mpr hvalid] at herror
        cases herror
      simp [hinvalid]
    next hnone => simp [hid, hfind.mp hnone]

theorem userPartRefused_of_invalid (h : HasInvalidUserField fields) :
    UserPartRefused subject fields := by
  refine ⟨fun hempty => ?_, .inr h⟩
  obtain ⟨field, hmem, hkey, -⟩ := h
  exact ne_nil_of_mem (List.mem_filter.mpr ⟨hmem, hkey⟩) hempty

theorem handlePutRequest_of_applied
    (hadmin : systemPart fields ≠ [] →
      subject.entitlements.permits Vocabulary.systemAdmin "")
    (happlied : (if systemPart fields = [] then .ok state else
      (applyJson env.isValidWebhookUrl state.global.memory (.object (systemPart fields))).map
        (commitGlobal env state)) = .ok applied) :
    let outcome := handlePutRequest env state subject true (some (.object fields))
    (UserPartRefused subject fields → outcome.1 = applied ∧ outcome.2.status = .badRequest) ∧
      (¬ UserPartRefused subject fields →
        outcome.2.status ≠ .badRequest ∧ outcome.2.status ≠ .forbidden) := by
  have hdenied : ¬ (systemPart fields ≠ [] ∧
      subject.entitlements.permits Vocabulary.systemAdmin "" = false) := by
    rintro ⟨hsystem, hnone⟩
    rw [hadmin hsystem] at hnone
    cases hnone
  have huser : UserPartRefused subject fields ↔ userPart fields ≠ [] ∧
      ¬ ∃ byUser', applied.users.memory.apply subject.id (userPart fields) = .ok byUser' := by
    rw [exists_apply_ok_iff, UserPartRefused]
    tauto
  rw [huser]
  unfold systemPart at happlied hdenied
  unfold userPart
  simp only [handlePutRequest, if_true, if_neg hdenied, happlied]
  by_cases hempty : (fields.filter fun field => isPerUserKey field.1) = []
  · simp [hempty]
  · cases happly : applied.users.memory.apply subject.id
        (fields.filter fun field => isPerUserKey field.1) with
    | error error => simp [hempty]
    | ok byUser =>
      simp only [hempty, if_false]
      split <;> simp

theorem PreferencesHub.eq_iff {hub hub' : PreferencesHub} :
    hub' = hub ↔ hub'.withoutUnits = hub.withoutUnits ∧
      hub'.temperatureDisplayUnits = hub.temperatureDisplayUnits := by
  cases hub
  cases hub'
  simp only [PreferencesHub.withoutUnits, PreferencesHub.mk.injEq, true_and]
  exact and_comm

theorem commitGlobal_updated_eq_iff :
    commitGlobal env state (state.global.memory.updated env.isValidWebhookUrl
        (.object (systemPart fields))) = state ↔ AlreadyApplied env state fields := by
  have hunits : (state.global.memory.updated env.isValidWebhookUrl
      (.object (systemPart fields))).temperatureDisplayUnits =
        state.global.memory.temperatureDisplayUnits := units_updated_of_system
  have hmemory : state.global.memory.updated env.isValidWebhookUrl
      (.object (systemPart fields)) = state.global.memory ↔
        NothingNew env.isValidWebhookUrl state.global.memory (.object (systemPart fields)) := by
    rw [PreferencesHub.eq_iff, updated_withoutUnits_eq_iff, and_iff_left hunits]
  rw [AlreadyApplied, ← hmemory]
  obtain ⟨⟨memory, file⟩, users⟩ := state
  simp only [commitGlobal, PreferencesState.mk.injEq, Persisted.mk.injEq, and_true]
  constructor
  · rintro ⟨hsame, hfile⟩
    refine ⟨hsame, fun hsaved => ?_⟩
    rw [if_pos hsaved, hsame] at hfile
    exact hfile.symm
  · rintro ⟨hsame, hfile⟩
    refine ⟨hsame, ?_⟩
    split
    next hsaved => rw [hsame, hfile hsaved]
    next => rfl

variable {isValidWebhookUrl : String → Bool}

theorem validPreferences_empty : ValidPreferences isValidWebhookUrl (.object []) := by
  constructor <;> exact nofun

theorem exists_applyJson_error {json : Json} (hub : PreferencesHub)
    (h : ¬ ValidPreferences isValidWebhookUrl json) :
    ∃ error, applyJson isValidWebhookUrl hub json = .error error := by
  cases hjson : applyJson isValidWebhookUrl hub json with
  | error error => exact ⟨error, rfl⟩
  | ok hub' => exact absurd (applyJson_eq_ok.mp hjson).1 h

theorem handlePutRequest_of_denied (hsystem : systemPart fields ≠ [])
    (hdenied : subject.entitlements.permits Vocabulary.systemAdmin "" ≠ true) :
    handlePutRequest env state subject true (some (.object fields)) =
      (state, ⟨.forbidden, "admin_required",
        "system preferences require administrator access", .null⟩) := by
  simp only [handlePutRequest, if_true]
  exact if_pos ⟨hsystem, Bool.eq_false_of_not_eq_true hdenied⟩

section

variable
  (hadmin : systemPart fields ≠ [] → subject.entitlements.permits Vocabulary.systemAdmin "" = true)

include hadmin

theorem handlePutRequest_of_invalid
    (hinvalid : ¬ ValidPreferences env.isValidWebhookUrl (.object (systemPart fields))) :
    ∃ error : PreferenceError, handlePutRequest env state subject true (some (.object fields)) =
      (state, ⟨.badRequest, error.code, error.message, .null⟩) := by
  have hsystem : systemPart fields ≠ [] := by
    intro hempty
    rw [hempty] at hinvalid
    exact hinvalid validPreferences_empty
  obtain ⟨error, herror⟩ := exists_applyJson_error state.global.memory hinvalid
  have hpermits := hadmin hsystem
  refine ⟨error, ?_⟩
  unfold systemPart at hsystem herror
  simp only [handlePutRequest, if_true, hpermits, if_neg hsystem, herror, Except.map,
    reduceCtorEq, and_false, if_false]

theorem exists_applied
    (hvalid : ValidPreferences env.isValidWebhookUrl (.object (systemPart fields))) :
    ∃ applied, (if systemPart fields = [] then .ok state else
        (applyJson env.isValidWebhookUrl state.global.memory (.object (systemPart fields))).map
          (commitGlobal env state)) = (.ok applied : Except PreferenceError PreferencesState) ∧
      (applied = state ↔
        (SystemPartApplied env subject fields → AlreadyApplied env state fields)) := by
  by_cases hsystem : systemPart fields = []
  · exact ⟨state, if_pos hsystem, iff_of_true rfl fun h => absurd hsystem h.1⟩
  · refine ⟨commitGlobal env state (state.global.memory.updated env.isValidWebhookUrl
      (.object (systemPart fields))), ?_, ?_⟩
    · rw [if_neg hsystem, applyJson_eq_ok.mpr ⟨hvalid, rfl⟩]
      rfl
    · rw [commitGlobal_updated_eq_iff]
      exact ⟨fun h _ => h, fun h => h ⟨hsystem, hadmin hsystem, hvalid⟩⟩

end

theorem perUser_actsOnNothing_iff :
    ActsOnNothing state
        (¬ ValidPreferences env.isValidWebhookUrl (.object (systemPart fields)) ∨
          HasInvalidUserField fields)
        ⟨(handlePutRequest env state subject true (some (.object fields))).1, [],
          (handlePutRequest env state subject true (some (.object fields))).2⟩ ↔
      (UserPartRefused subject fields → SystemPartApplied env subject fields →
        AlreadyApplied env state fields) := by
  by_cases hadmin : systemPart fields ≠ [] →
      subject.entitlements.permits Vocabulary.systemAdmin ""
  -- the system fields come first: they are refused, or applied before those of the user are read
  · by_cases hvalid : ValidPreferences env.isValidWebhookUrl (.object (systemPart fields))
    · obtain ⟨applied, happlied, hstate⟩ := exists_applied hadmin hvalid
      obtain ⟨hrefused, haccepted⟩ := handlePutRequest_of_applied hadmin happlied
      by_cases huser : UserPartRefused subject fields
      · obtain ⟨hsame, hstatus⟩ := hrefused huser
        constructor
        · intro hnothing _
          exact hstate.mp (hsame.symm.trans (hnothing.rejected (.inl hstatus)).2)
        · intro h
          refine .of_inert ⟨rfl, hsame.trans (hstate.mpr (h huser))⟩ fun _ hok => ?_
          rw [hstatus] at hok
          cases hok
      · -- what is not refused is neither a bad request nor forbidden, and has no invalid field
        obtain ⟨hbad, hforbidden⟩ := haccepted huser
        refine iff_of_true ⟨?_, ?_⟩ fun h => absurd h huser
        · rintro (h | h)
          · exact absurd h hbad
          · exact absurd h hforbidden
        · rintro (h | h)
          · exact absurd hvalid h
          · exact absurd (userPartRefused_of_invalid h) huser
    · obtain ⟨error, houtcome⟩ := @handlePutRequest_of_invalid _ state _ _ hadmin hvalid
      rw [houtcome]
      refine iff_of_true (.of_inert ⟨rfl, rfl⟩ fun _ => by simp) ?_
      intro _ happlied
      exact absurd happlied.2.2 hvalid
  · obtain ⟨hsystem, hdenied⟩ := Classical.not_imp.mp hadmin
    rw [handlePutRequest_of_denied hsystem hdenied]
    refine iff_of_true (.of_inert ⟨rfl, rfl⟩ fun _ => by simp) ?_
    intro _ happlied
    exact absurd happlied.2.1 hdenied

end

/-! ## Which rejected requests act on nothing -/

section

variable (env : ControlEnv) (subject : Subject) (state : PreferencesState)

/-- The permission that the router asks for. -/
def ControlRequest.action : ControlRequest → String
  | .setpoints _ => "equipment.control.setpoints"
  | .chlorinator _ => "equipment.control.chlorinator"
  | .preferences _ => Vocabulary.prefsSelf

/-- The parts of a request stand or fall together. -/
def HandledAtOnce : ControlRequest → Prop
  | .setpoints body =>
    env.hasDispatcher = true → ∀ payload, body = some payload →
      SettledTogether env.answer (setpointStep env payload "pool" .setPoolSetpoint)
        (setpointStep env payload "spa" .setSpaSetpoint)
  | .chlorinator body =>
    env.hasDispatcher = true → ∀ payload, body.filter isObject = some payload →
      SettledTogether env.answer (percentageStep env payload) (boostStep payload)
  | .preferences body =>
    env.preferences.perUserActive subject = true → ∀ fields, body = some (.object fields) →
      UserPartRefused subject fields → SystemPartApplied env.preferences subject fields →
        AlreadyApplied env.preferences state fields

theorem global_actsOnNothing {env : PreferencesEnv} {fields : List (String × Json)} :
    ActsOnNothing state (¬ ValidPreferences env.isValidWebhookUrl (.object fields))
      ⟨(handlePutRequest env state subject false (some (.object fields))).1, [],
        (handlePutRequest env state subject false (some (.object fields))).2⟩ := by
  simp only [handlePutRequest, Bool.false_eq_true, if_false]
  cases hjson : applyJson env.isValidWebhookUrl state.global.memory (.object fields) with
  | error error => exact .of_inert ⟨rfl, rfl⟩ fun _ => by simp
  | ok hub =>
    refine ⟨?_, fun hinvalid => absurd (applyJson_eq_ok.mp hjson).1 hinvalid⟩
    rintro (h | h) <;> cases h

theorem putPreferences_actsOnNothing_iff {body : Option Json} :
    ActsOnNothing state (HasInvalidField env subject (.preferences body))
        (handleControl env subject state (.preferences body)) ↔
      (PolicyEngine.decide subject Vocabulary.prefsSelf "" env.preferences.authModeEnabled =
        .permit → HandledAtOnce env subject state (.preferences body)) := by
  simp only [handleControl, putPreferences]
  split
  next hpermit =>
    rw [forall_prop_of_true hpermit]
    by_cases hbody : ∃ fields, body = some (.object fields)
    · obtain ⟨fields, rfl⟩ := hbody
      simp only [HasInvalidField, HandledAtOnce, Option.some.injEq, Json.object.injEq,
        exists_eq_left', forall_eq']
      cases hactive : env.preferences.perUserActive subject with
      | false =>
        rw [PreferencesEnv.perUserActive] at hactive
        rw [hactive]
        exact iff_of_true (global_actsOnNothing subject state) fun h =>
          absurd h Bool.false_ne_true
      | true =>
        rw [PreferencesEnv.perUserActive] at hactive
        rw [hactive, forall_prop_of_true rfl]
        exact perUser_actsOnNothing_iff
    · have hother : ∀ fields, body ≠ some (.object fields) := fun fields h => hbody ⟨fields, h⟩
      refine iff_of_true ?_ fun _ fields h => absurd h (hother fields)
      rw [handlePutRequest.eq_def]
      split
      next fields => exact absurd rfl (hother fields)
      next => exact .of_inert ⟨rfl, rfl⟩ fun _ => by simp
  next hdeny =>
    refine iff_of_true ?_ fun hpermit => absurd hpermit hdeny
    split
    · exact .of_inert ⟨rfl, rfl⟩ fun _ => by simp
    · exact .of_inert ⟨rfl, rfl⟩ fun _ => by simp

/-- **A rejected request acts on nothing**, and a document with an invalid field is refused as a
whole, if and only if the router refuses the request, or its parts stand or fall together. -/
theorem actsOnNothing_iff (request : ControlRequest) :
    ActsOnNothing state (HasInvalidField env subject request)
        (handleControl env subject state request) ↔
      (PolicyEngine.decide subject request.action "" env.preferences.authModeEnabled = .permit →
        HandledAtOnce env subject state request) := by
  cases request with
  | setpoints body =>
    have hbody : body.filter (fun _ => true) = body := by cases body <;> rfl
    exact postFields_iff hbody (fun _ => rfl) rfl
  | chlorinator body => exact postFields_iff rfl (fun _ => rfl) rfl
  | preferences body => exact putPreferences_actsOnNothing_iff env subject state

end

/-! ## A pool that is heated by a bad request -/

def obedientPanel : ControlEnv where
  doubles := Mqtt.exactDoubles
  systemTemperatureUnits := .celsius
  hasDispatcher := true
  answer _ _ := .success
  preferences := ⟨fun _ => true, false, false, true, true⟩

/-- The setpoint of the spa is no number, but that of the pool is set. -/
theorem poolBeforeSpa_not_actsOnNothing :
    ¬ ∀ (env : ControlEnv) (subject : Subject) (state : PreferencesState)
      (request : ControlRequest),
      ActsOnNothing state (HasInvalidField env subject request)
        (handleControl env subject state request) := by
  intro hall
  have hnothing := hall obedientPanel (SubjectStores.mk .initial []).anonymousGuest
    ⟨⟨{}, none⟩, ⟨fun _ => none, none⟩⟩
    (.setpoints (some (.object [("pool", .integer 30), ("spa", .string "x")])))
  have hissued := (hnothing.rejected (.inl rfl)).1
  revert hissued
  decide +kernel

end AqualinkAutomate.Http
