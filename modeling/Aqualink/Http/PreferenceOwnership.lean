import Aqualink.Http.Preferences

/-!
# Whose preferences a request changes

With the identity system on, the global preferences belong to the administrators, and the fields
of taste to each user.  The handler sees to that for a subject that is authenticated.  A guest has
no preferences of its own, so what a guest puts goes to the global document: the permission for
one's own preferences, given to the group `Guest` or to everyone, lets anybody change it.

`owned_iff` says which requests change no more than they should, in any state of the stores.
-/

namespace AqualinkAutomate.Http

open Auth General Scheduling

def PreferencesHub.withoutUnits (hub : PreferencesHub) : PreferencesHub :=
  { hub with temperatureDisplayUnits := .celsius }

/-- The global preferences change only for an administrator, the display units as a field of taste
for nobody, and the overrides only for the subject. -/
structure Owned (subject : Subject) (before after : PreferencesState) : Prop where
  system : after.global.memory.withoutUnits ≠ before.global.memory.withoutUnits →
    subject.entitlements.permits Vocabulary.systemAdmin ""
  units : after.global.memory.temperatureDisplayUnits =
    before.global.memory.temperatureDisplayUnits
  others : ∀ id, id ≠ subject.id → after.users.memory id = before.users.memory id

/-- With the identity system on there is a store of overrides. -/
def PreferencesEnv.withIdentity (env : PreferencesEnv) : PreferencesEnv :=
  { env with authModeEnabled := true, hasUserPreferences := true }

/-- Each global preference but the units that the document names has the value it asks for. -/
structure NothingNew (isValidWebhookUrl : String → Bool) (hub : PreferencesHub) (json : Json) :
    Prop where
  salt : Restates (objectPart json "alert") "salt_low_ppm" asSaltLowPpm hub.alertSaltLowPpm
  comms : Restates (objectPart json "alert") "comms_timeout_seconds" asCommsTimeout
    hub.alertCommsTimeoutSeconds
  webhook : Restates (objectPart json "alert") "webhook_url" (asWebhookUrl isValidWebhookUrl)
    hub.alertWebhookUrl
  retention : Restates (objectPart json "history") "retention_days" asRetentionDays
    hub.historyRetentionDays
  labels : Restates json "label_overrides" asLabelOverrides hub.labelOverrides
  presence : Restates json "aux_presence_overrides" asAuxPresenceOverrides hub.auxPresenceOverrides
  showAuxId : Restates json "show_aux_id_in_label" asShowAuxId hub.showAuxIdInLabel
  ui : ∀ patch, requested json "ui" asUi = some patch →
    mergeUi hub.uiPreferences patch = hub.uiPreferences
  buttons : Restates json "spa_switch_buttons" asSpaSwitchButtons hub.spaSwitchButtons

/-- The request has a credential that is accepted, or guests have no access to the route, or its
document is refused or asks a guest for nothing new. -/
def OwnWrite (isValidWebhookUrl : String → Bool) (credentials : Credentials)
    (stores : SubjectStores) (now : ℤ) (headers : Headers) (hub : PreferencesHub)
    (body : Option Json) : Prop :=
  (stores.resolveCredential credentials now (bearerToken headers false)).1.isSome = true ∨
    PolicyEngine.decide stores.anonymousGuest Vocabulary.prefsSelf "" true = .deny ∨
      ∀ fields, body = some (.object fields) →
        ValidPreferences isValidWebhookUrl (.object fields) →
          Restates (.object fields) "temperature_units" asTemperatureUnits
              hub.temperatureDisplayUnits ∧
            (stores.anonymousGuest.entitlements.permits Vocabulary.systemAdmin "" = true ∨
              NothingNew isValidWebhookUrl hub (.object fields))

/-! ## The two branches of the handler -/

section

variable {env : PreferencesEnv} {state : PreferencesState} {subject : Subject}
variable {hub : PreferencesHub} {json : Json} {body : Option Json}
variable {isValidWebhookUrl : String → Bool}

theorem updated_withoutUnits_eq_iff :
    (hub.updated isValidWebhookUrl json).withoutUnits = hub.withoutUnits ↔
      NothingNew isValidWebhookUrl hub json := by
  have hui : mergeUi hub.uiPreferences ((requested json "ui" asUi).getD []) = hub.uiPreferences ↔
      ∀ patch, requested json "ui" asUi = some patch →
        mergeUi hub.uiPreferences patch = hub.uiPreferences := by
    cases requested json "ui" asUi with
    | none => simp [mergeUi]
    | some patch => simp
  simp only [PreferencesHub.withoutUnits, PreferencesHub.updated, PreferencesHub.mk.injEq, true_and,
    getD_requested_eq_iff, hui]
  constructor
  · rintro ⟨hsalt, hcomms, hwebhook, hretention, hlabels, hpresence, hshow, hmerge, hbuttons⟩
    exact ⟨hsalt, hcomms, hwebhook, hretention, hlabels, hpresence, hshow, hmerge, hbuttons⟩
  · intro h
    exact ⟨h.salt, h.comms, h.webhook, h.retention, h.labels, h.presence, h.showAuxId, h.ui,
      h.buttons⟩

variable {fields : List (String × Json)}

theorem units_updated_of_system :
    (hub.updated isValidWebhookUrl
        (.object (fields.filter fun field => !isPerUserKey field.1))).temperatureDisplayUnits =
      hub.temperatureDisplayUnits := by
  have hmember : (Json.object (fields.filter fun field => !isPerUserKey field.1)).member
      "temperature_units" = none := by
    rw [Json.member, Option.map_eq_none_iff, List.find?_eq_none]
    intro field hfield hkey
    have hsystem := (List.mem_filter.mp hfield).2
    rw [beq_iff_eq.mp hkey] at hsystem
    revert hsystem
    decide
  rw [PreferencesHub.updated, requested, hmember]
  rfl

theorem Owned.refl : Owned subject state state :=
  ⟨fun h => absurd rfl h, rfl, fun _ _ => rfl⟩

theorem apply_of_ne {byUser byUser' : UserOverrides} {userId other : String}
    (h : byUser.apply userId fields = .ok byUser') (hother : other ≠ userId) :
    byUser' other = byUser other := by
  rw [UserOverrides.apply] at h
  split at h
  next => cases h
  next =>
    split at h
    next => cases h
    next =>
      cases h
      exact if_neg hother

theorem owned_of_perUserActive :
    Owned subject state (handlePutRequest env state subject true body).1 := by
  rw [handlePutRequest.eq_def]
  split
  next fields =>
    simp only [if_true]
    split
    next => exact Owned.refl
    next hadmin =>
      split
      next => exact Owned.refl
      next applied happlied =>
        -- the system fields are an administrator's, and the units are not among them
        have hsystem : Owned subject state applied := by
          split at happlied
          next =>
            cases happlied
            exact Owned.refl
          next hfields =>
            cases hjson : applyJson env.isValidWebhookUrl state.global.memory
                (.object (fields.filter fun field => !isPerUserKey field.1)) with
            | error error =>
              rw [hjson] at happlied
              cases happlied
            | ok hub =>
              rw [hjson] at happlied
              cases happlied
              obtain ⟨-, rfl⟩ := applyJson_eq_ok.mp hjson
              refine ⟨fun _ => ?_, units_updated_of_system, fun _ _ => rfl⟩
              simpa [hfields] using hadmin
        split
        next => exact hsystem
        next =>
          split
          next => exact hsystem
          next byUser hbyUser =>
            have husers : ∀ id, id ≠ subject.id → byUser id = state.users.memory id := by
              intro id hid
              rw [apply_of_ne hbyUser hid]
              exact hsystem.others id hid
            split
            · exact ⟨hsystem.system, hsystem.units, husers⟩
            · exact ⟨hsystem.system, hsystem.units, husers⟩
  next => exact Owned.refl

theorem owned_of_global_iff :
    Owned subject state (handlePutRequest env state subject false body).1 ↔
      ∀ fields, body = some (.object fields) →
        ValidPreferences env.isValidWebhookUrl (.object fields) →
          Restates (.object fields) "temperature_units" asTemperatureUnits
              state.global.memory.temperatureDisplayUnits ∧
            (subject.entitlements.permits Vocabulary.systemAdmin "" ∨
              NothingNew env.isValidWebhookUrl state.global.memory (.object fields)) := by
  rw [handlePutRequest.eq_def]
  split
  next fields =>
    simp only [Bool.false_eq_true, if_false]
    cases hjson : applyJson env.isValidWebhookUrl state.global.memory (.object fields) with
    | error error =>
      have hinvalid : ¬ ValidPreferences env.isValidWebhookUrl (.object fields) := by
        intro hvalid
        rw [applyJson_eq_ok.mpr ⟨hvalid, rfl⟩] at hjson
        cases hjson
      refine iff_of_true Owned.refl ?_
      rintro _ hfields hvalid
      cases hfields
      exact absurd hvalid hinvalid
    | ok hub =>
      obtain ⟨hvalid, rfl⟩ := applyJson_eq_ok.mp hjson
      constructor
      · intro howned _ hfields _
        cases hfields
        refine ⟨getD_requested_eq_iff.mp howned.units, ?_⟩
        by_cases hnew : NothingNew env.isValidWebhookUrl state.global.memory (.object fields)
        · exact .inr hnew
        · exact .inl (howned.system fun hsame => hnew (updated_withoutUnits_eq_iff.mp hsame))
      · intro h
        obtain ⟨hunits, hsystem⟩ := h fields rfl hvalid
        refine ⟨fun hchanged => ?_, getD_requested_eq_iff.mpr hunits, fun _ _ => rfl⟩
        exact hsystem.resolve_right fun hnew => hchanged (updated_withoutUnits_eq_iff.mpr hnew)
  next hbody =>
    refine iff_of_true Owned.refl ?_
    intro fields hfields
    exact absurd hfields (hbody fields)

end

/-! ## Whose preferences a request changes -/

/-- **System preferences belong to administrators**, and a request changes only what its subject
owns, if and only if it is made with a credential, or a guest cannot make it or asks for nothing
new. -/
theorem owned_iff (env : PreferencesEnv) (credentials : Credentials) (stores : SubjectStores)
    (now : ℤ) (headers : Headers) (state : PreferencesState) (body : Option Json) :
    Owned (stores.resolveSubject credentials now headers false).1 state
        (putPreferences env.withIdentity state
          (stores.resolveSubject credentials now headers false).1 body).1 ↔
      OwnWrite env.isValidWebhookUrl credentials stores now headers state.global.memory body := by
  cases hcredential :
      (stores.resolveCredential credentials now (bearerToken headers false)).1 with
  | some subject =>
    have hactive : subject.authenticated := authenticated_of_resolveCredential hcredential
    rw [resolveSubject_of_some hcredential]
    refine iff_of_true ?_ (.inl (by rw [hcredential]; rfl))
    rw [putPreferences]
    split
    · simp only [PreferencesEnv.withIdentity, hactive, Bool.and_self]
      exact owned_of_perUserActive
    · exact Owned.refl
  | none =>
    rw [resolveSubject_of_none hcredential, OwnWrite, hcredential]
    simp only [Option.isSome_none, Bool.false_eq_true, false_or]
    cases hdecision : PolicyEngine.decide stores.anonymousGuest Vocabulary.prefsSelf "" true with
    | deny =>
      refine iff_of_true ?_ (.inl rfl)
      rw [putPreferences]
      simp only [PreferencesEnv.withIdentity, hdecision]
      exact Owned.refl
    | permit =>
      have hguest : stores.anonymousGuest.authenticated = false := rfl
      rw [putPreferences]
      simp only [PreferencesEnv.withIdentity, hdecision, hguest, Bool.and_false, if_true,
        reduceCtorEq, false_or]
      exact owned_of_global_iff

/-! ## A guest with preferences of its own -/

def guestsHavePreferences : List AdminRequest :=
  [.putGroup BuiltInGroups.guest [Vocabulary.prefsSelf]]

def noCredentials : Credentials where
  codec := { keys := ⟨⟨"key-1", []⟩, []⟩ }
  readToken _ := none
  sha256 _ := Vector.replicate 32 0

/-- A guest then sets a preference of the system, and is no administrator. -/
theorem guestPut_not_owned :
    ¬ ∀ (env : PreferencesEnv) (credentials : Credentials) (requests : List AdminRequest)
      (apiKeys : List ApiKeyRecord) (now : ℤ) (headers : Headers) (state : PreferencesState)
      (body : Option Json),
      let stores : SubjectStores := ⟨requests.foldl AuthStores.afterRequest .initial, apiKeys⟩
      let subject := (stores.resolveSubject credentials now headers false).1
      Owned subject state (putPreferences env.withIdentity state subject body).1 := by
  intro hall
  have howned := hall ⟨fun _ => true, true, true, true, true⟩ noCredentials guestsHavePreferences []
    0 [] ⟨⟨{}, none⟩, ⟨fun _ => none, none⟩⟩
    (some (.object [("show_aux_id_in_label", .bool true)]))
  have hadmin := howned.system fun hsame => by
    have hshown := congrArg PreferencesHub.showAuxIdInLabel hsame
    revert hshown
    decide +kernel
  revert hadmin
  decide +kernel

end AqualinkAutomate.Http
