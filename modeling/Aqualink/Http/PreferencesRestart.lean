import Aqualink.Http.Preferences
import Aqualink.Storage.Saves

/-!
# Preferences over a restart

The global document of preferences is seeded from the command line, overridden by the file,
and written to the file after every change.  So a restart is to bring back what the hub
held: the document that `toJson` renders has to pass the checks of `applyJson`, all of
them, since a single field that does not discards the whole file.

What the hub holds passes the checks (`Sound`), but for two numbers, which are checked as 64-bit
integers and stored as 32-bit ones.  `preferences_exact` says that nothing else goes wrong, for
one document and for whole runs.
-/

namespace AqualinkAutomate.Http

open Auth General Scheduling Storage List Option

/-! ## The command line -/

/-- The options that seed preferences; one that is not given has its default. -/
structure SeedOptions where
  saltLowPpm : Option UInt32 := none
  commsTimeoutSeconds : Option UInt32 := none
  webhookUrl : Option String := none
  retentionDays : Option UInt32 := none

abbrev saltLowPpmMax : UInt32 := 6000

/-- `Validate` of the alerting and of the history options: whether they are let through. -/
def SeedOptions.validate (isValidWebhookUrl : String → Bool) (options : SeedOptions) : Bool :=
  options.saltLowPpm.all (fun ppm => decide (ppm ≤ saltLowPpmMax)) &&
    options.commsTimeoutSeconds.all (fun secs => secs != 0) &&
    options.webhookUrl.all isValidWebhookUrl &&
    options.retentionDays.all (fun days => days != 0)

/-- `Seed`, with the settings that the options are processed to. -/
def PreferencesHub.seed (hub : PreferencesHub) (options : SeedOptions) : PreferencesHub :=
  { hub with
    alertSaltLowPpm := options.saltLowPpm.getD 2600
    alertCommsTimeoutSeconds := options.commsTimeoutSeconds.getD 60
    alertWebhookUrl := options.webhookUrl.getD ""
    historyRetentionDays := options.retentionDays.getD 90 }

/-! ## The service -/

/-- `RecordSpaSwitchAssignment`.  Indexing a document that is no object throws. -/
def PreferencesHub.recordSpaSwitchAssignment (hub : PreferencesHub) (switchNumber : UInt8)
    (buttonNumber : UInt8) (function : String) : PreferencesHub :=
  match hub.spaSwitchButtons with
  | .object fields =>
    { hub with
      spaSwitchButtons := .object (Json.setField
        (toString switchNumber.toNat ++ ":" ++ toString buttonNumber.toNat) (.string function)
        fields) }
  | _ => hub

inductive PreferencesEvent where
  | applyJson (json : Json)
  | recordSpaSwitchAssignment (switchNumber : UInt8) (buttonNumber : UInt8) (function : String)

/-- A document that is refused leaves the hub as it is. -/
def PreferencesHub.after (isValidWebhookUrl : String → Bool) (hub : PreferencesHub) :
    PreferencesEvent → PreferencesHub
  | .applyJson json => (Http.applyJson isValidWebhookUrl hub json).toOption.getD hub
  | .recordSpaSwitchAssignment switchNumber buttonNumber function =>
    hub.recordSpaSwitchAssignment switchNumber buttonNumber function

/-- `Start`: a file that is there is parsed and applied.  What the library throws is caught. -/
def PreferencesHub.start (isValidWebhookUrl : String → Bool) (text : JsonText)
    (file : Option (List UInt8)) (hub : PreferencesHub) : PreferencesHub :=
  match file.bind text.parse with
  | none => hub
  | some json => hub.after isValidWebhookUrl (.applyJson json)

/-! ## What a document stores -/

def numericFields (json : Json) : List (Option ℤ × (PreferencesHub → UInt32)) :=
  [((objectPart json "alert").integer? "salt_low_ppm", PreferencesHub.alertSaltLowPpm),
    ((objectPart json "alert").integer? "comms_timeout_seconds",
      PreferencesHub.alertCommsTimeoutSeconds),
    ((objectPart json "history").integer? "retention_days", PreferencesHub.historyRetentionDays)]

def StoresExactly (json : Json) (hub : PreferencesHub) : Prop :=
  ∀ field ∈ numericFields json, ∀ value, field.1 = some value → ((field.2 hub).toNat : ℤ) = value

/-- Every number of the document fits in 32 bits. -/
def Fits (json : Json) : Prop :=
  ∀ field ∈ numericFields json, ∀ value, field.1 = some value → 0 ≤ value ∧ value < 2 ^ 32

section

variable {isValidWebhookUrl : String → Bool} {hub hub' : PreferencesHub} {json : Json}
variable {key : String} {value : ℤ}

/-- Storing a number keeps its low bits. -/
theorem toNat_ofInt (value : ℤ) : ((UInt32.ofInt value).toNat : ℤ) = value % 2 ^ 32 := by
  unfold UInt32.ofInt
  rw [UInt32.toNat_ofNat']
  omega

theorem toNat_ofInt_eq_iff :
    ((UInt32.ofInt value).toNat : ℤ) = value ↔ 0 ≤ value ∧ value < 2 ^ 32 := by
  rw [toNat_ofInt]
  omega

/-- So does cutting it to 64 bits. -/
theorem toInt64_emod (value : ℤ) : toInt64 value % 2 ^ 32 = value % 2 ^ 32 := by
  unfold toInt64 Int.bmod
  dsimp only
  split_ifs <;> omega

def KeepsLowBits (convert : Json → Except PreferenceError UInt32) : Prop :=
  ∀ value converted, convert (.integer value) = .ok converted → converted = UInt32.ofInt value

theorem keepsLowBits_asSaltLowPpm : KeepsLowBits asSaltLowPpm := by
  intro value converted h
  unfold asSaltLowPpm at h
  dsimp only at h
  split_ifs at h
  exact (Except.ok.inj h).symm

theorem keepsLowBits_asPositive (error : PreferenceError) : KeepsLowBits (asPositive error) := by
  intro value converted h
  unfold asPositive at h
  dsimp only at h
  split_ifs at h
  exact (Except.ok.inj h).symm

theorem requested_of_integer? {convert : Json → Except PreferenceError UInt32}
    (hkeeps : KeepsLowBits convert) (haccepts : Accepts json key convert)
    (hvalue : json.integer? key = some value) :
    requested json key convert = some (UInt32.ofInt value) := by
  have hmember : json.member key = some (.integer value) := by
    unfold Json.integer? at hvalue
    split at hvalue
    · next found hfound =>
        cases hvalue
        exact hfound
    · cases hvalue
  obtain ⟨converted, hconverted⟩ := haccepts _ hmember
  unfold requested
  rw [hmember, bind_some, hconverted, hkeeps value converted hconverted]
  rfl

/-- The three numbers of an accepted document, one by one. -/
theorem numericFields_updated (hvalid : ValidPreferences isValidWebhookUrl json) :
    ∀ field ∈ numericFields json, ∀ value, field.1 = some value →
      field.2 (hub.updated isValidWebhookUrl json) = UInt32.ofInt value := by
  intro field hfield value hvalue
  unfold numericFields at hfield
  rcases List.mem_cons.mp hfield with rfl | hfield
  · have hrequested := requested_of_integer? keepsLowBits_asSaltLowPpm hvalid.salt hvalue
    exact congrArg (fun found => Option.getD found _) hrequested
  rcases List.mem_cons.mp hfield with rfl | hfield
  · have hrequested := requested_of_integer? (keepsLowBits_asPositive _) hvalid.comms hvalue
    exact congrArg (fun found => Option.getD found _) hrequested
  · obtain rfl := List.mem_singleton.mp hfield
    have hrequested := requested_of_integer? (keepsLowBits_asPositive _) hvalid.retention hvalue
    exact congrArg (fun found => Option.getD found _) hrequested

theorem storesExactly_updated_iff (hvalid : ValidPreferences isValidWebhookUrl json) :
    StoresExactly json (hub.updated isValidWebhookUrl json) ↔ Fits json := by
  unfold StoresExactly Fits
  refine forall₂_congr fun field hfield => forall₂_congr fun value hvalue => ?_
  rw [numericFields_updated hvalid field hfield value hvalue]
  exact toNat_ofInt_eq_iff

theorem storesExactly_iff :
    (∀ hub', applyJson isValidWebhookUrl hub json = .ok hub' → StoresExactly json hub') ↔
      (ValidPreferences isValidWebhookUrl json → Fits json) := by
  constructor
  · intro h hvalid
    exact (storesExactly_updated_iff hvalid).mp (h _ (applyJson_eq_ok.mpr ⟨hvalid, rfl⟩))
  · intro h hub' happlied
    obtain ⟨hvalid, rfl⟩ := applyJson_eq_ok.mp happlied
    exact (storesExactly_updated_iff hvalid).mpr (h hvalid)

end

/-! ## What a hub can hold -/

/-- The document is an object, and its values pass. -/
def ObjectOf (passes : Json → Bool) (json : Json) : Prop :=
  ∃ fields, json = .object fields ∧ (fields.all fun field => passes field.2) = true

/-- The patches of the interface leave this behind. -/
structure UiFields (ui : List (String × Json)) : Prop where
  sorted : Json.Sorted ui
  notNull : ∀ field ∈ ui, field.2 ≠ .null

/-- What every reachable hub holds, the two numbers of 32 bits aside. -/
structure PreferencesHub.Sound (isValidWebhookUrl : String → Bool) (hub : PreferencesHub) :
    Prop where
  salt : hub.alertSaltLowPpm ≤ saltLowPpmMax
  webhook : hub.alertWebhookUrl ≠ "" → isValidWebhookUrl hub.alertWebhookUrl = true
  labels : ObjectOf isText hub.labelOverrides
  presence : ObjectOf isPresence hub.auxPresenceOverrides
  buttons : ObjectOf isText hub.spaSwitchButtons
  ui : UiFields hub.uiPreferences

/-- The two numbers that must not be zero are not. -/
def PreferencesHub.Nonzero (hub : PreferencesHub) : Prop :=
  hub.alertCommsTimeoutSeconds ≠ 0 ∧ hub.historyRetentionDays ≠ 0

section

variable {isValidWebhookUrl : String → Bool} {hub : PreferencesHub} {json : Json}

section

variable {α : Type} {convert : Json → Except PreferenceError α} {key : String}

theorem requested_eq_some {converted : α} (h : requested json key convert = some converted) :
    ∃ value, json.member key = some value ∧ convert value = .ok converted := by
  unfold requested at h
  obtain ⟨value, hvalue, hconverted⟩ := Option.bind_eq_some_iff.mp h
  refine ⟨value, hvalue, ?_⟩
  cases hresult : convert value with
  | error error =>
    rw [hresult] at hconverted
    cases hconverted
  | ok found =>
    rw [hresult] at hconverted
    rw [Option.some_inj.mp hconverted]

theorem getD_requested {holds : α → Prop} {current : α} (hcurrent : holds current)
    (hconvert : ∀ value converted, convert value = .ok converted → holds converted) :
    holds ((requested json key convert).getD current) := by
  cases hrequested : requested json key convert with
  | none => exact hcurrent
  | some converted =>
    obtain ⟨value, -, hvalue⟩ := requested_eq_some hrequested
    exact hconvert value converted hvalue

end

variable {noObject noValue : PreferenceError} {passes : Json → Bool}

theorem objectOf_of_asObjectOf {value converted : Json}
    (h : asObjectOf passes noObject noValue value = .ok converted) : ObjectOf passes converted := by
  cases value with
  | object fields =>
    unfold asObjectOf at h
    dsimp only at h
    split_ifs at h with hall
    cases h
    exact ⟨fields, rfl, hall⟩
  | null | bool _ | integer _ | float _ | string _ | array _ => cases h

theorem le_of_asSaltLowPpm {value : Json} {converted : UInt32}
    (h : asSaltLowPpm value = .ok converted) : converted ≤ saltLowPpmMax := by
  cases value with
  | integer value =>
    unfold asSaltLowPpm at h
    dsimp only at h
    split_ifs at h with hrange
    cases h
    -- the 32 bits that are stored are the low ones of the 64 that were checked
    have hstored := toNat_ofInt value
    have hcut := toInt64_emod value
    have hmax : saltLowPpmMax.toNat = 6000 := rfl
    rw [UInt32.le_iff_toNat_le]
    omega
  | null | bool _ | float _ | string _ | array _ | object _ => cases h

theorem sound_of_asWebhookUrl {value : Json} {converted : String}
    (h : asWebhookUrl isValidWebhookUrl value = .ok converted) :
    converted ≠ "" → isValidWebhookUrl converted := by
  cases value with
  | string url =>
    unfold asWebhookUrl at h
    dsimp only at h
    split_ifs at h with hrefused
    cases h
    intro hne
    by_contra hinvalid
    exact hrefused ⟨hne, by simpa using hinvalid⟩
  | null | bool _ | integer _ | float _ | array _ | object _ => cases h

section

variable {ui : List (String × Json)} (h : UiFields ui)

include h

theorem uiFields_patchUi (field : String × Json) : UiFields (patchUi ui field) := by
  obtain ⟨key, value⟩ := field
  by_cases hnull : value = .null
  · subst hnull
    refine ⟨h.sorted.sublist filter_sublist, fun other hother => ?_⟩
    exact h.notNull other (List.mem_filter.mp hother).1
  · have hpatch : patchUi ui (key, value) = Json.setField key value ui := by
      unfold patchUi
      split
      · next heq => exact absurd heq hnull
      · rfl
    rw [hpatch]
    refine ⟨Json.sorted_setField h.sorted, fun other hother => ?_⟩
    rcases Json.mem_of_mem_setField hother with rfl | hother
    · exact hnull
    · exact h.notNull other hother

theorem uiFields_mergeUi (patch : List (String × Json)) : UiFields (mergeUi ui patch) := by
  unfold mergeUi
  induction patch generalizing ui with
  | nil => exact h
  | cons field patch ih => exact ih (uiFields_patchUi h field)

/-- Patching nothing with what was left behind gives it back. -/
theorem mergeUi_nil : mergeUi [] ui = ui := by
  have hset : ∀ (done : List (String × Json)),
      mergeUi done ui = ui.foldl (fun done field => Json.setField field.1 field.2 done) done := by
    intro done
    refine foldl_ext _ _ done fun fields field hfield => ?_
    unfold patchUi
    split
    · next hnull => exact absurd hnull (h.notNull field hfield)
    · rfl
  rw [hset, Json.foldl_setField_of_sorted (by simpa using h.sorted), nil_append]

end

theorem PreferencesHub.Sound.updated (h : hub.Sound isValidWebhookUrl) (json : Json) :
    (hub.updated isValidWebhookUrl json).Sound isValidWebhookUrl where
  salt := @getD_requested _ _ _ _ (fun ppm => ppm ≤ saltLowPpmMax) _ h.salt
    fun _ _ => le_of_asSaltLowPpm
  webhook := @getD_requested _ _ _ _ (fun url => url ≠ "" → isValidWebhookUrl url) _
    h.webhook fun _ _ => sound_of_asWebhookUrl
  labels := getD_requested h.labels fun _ _ => objectOf_of_asObjectOf
  presence := getD_requested h.presence fun _ _ => objectOf_of_asObjectOf
  buttons := getD_requested h.buttons fun _ _ => objectOf_of_asObjectOf
  ui := uiFields_mergeUi h.ui _

theorem PreferencesHub.Sound.recordSpaSwitchAssignment (h : hub.Sound isValidWebhookUrl)
    (switchNumber buttonNumber : UInt8) (function : String) :
    (hub.recordSpaSwitchAssignment switchNumber buttonNumber function).Sound isValidWebhookUrl := by
  obtain ⟨fields, hfields, hall⟩ := h.buttons
  unfold PreferencesHub.recordSpaSwitchAssignment
  rw [hfields]
  refine ⟨h.salt, h.webhook, h.labels, h.presence, ⟨_, rfl, ?_⟩, h.ui⟩
  rw [List.all_eq_true] at hall ⊢
  intro field hfield
  rcases Json.mem_of_mem_setField hfield with rfl | hfield
  · rfl
  · exact hall field hfield

theorem applyJson_toOption_getD :
    (applyJson isValidWebhookUrl hub json).toOption.getD hub = hub ∨
      (applyJson isValidWebhookUrl hub json).toOption.getD hub =
        hub.updated isValidWebhookUrl json ∧ ValidPreferences isValidWebhookUrl json := by
  cases hresult : applyJson isValidWebhookUrl hub json with
  | error error => exact .inl rfl
  | ok hub' =>
    obtain ⟨hvalid, rfl⟩ := applyJson_eq_ok.mp hresult
    exact .inr ⟨rfl, hvalid⟩

theorem PreferencesHub.Sound.after (h : hub.Sound isValidWebhookUrl) (event : PreferencesEvent) :
    (hub.after isValidWebhookUrl event).Sound isValidWebhookUrl := by
  cases event with
  | applyJson json =>
    unfold PreferencesHub.after
    dsimp only
    rcases @applyJson_toOption_getD isValidWebhookUrl hub json with heq | ⟨heq, -⟩
    · rwa [heq]
    · rw [heq]
      exact h.updated json
  | recordSpaSwitchAssignment switchNumber buttonNumber function =>
    exact h.recordSpaSwitchAssignment switchNumber buttonNumber function

/-- The command line is checked as strictly as a document. -/
theorem sound_seed {options : SeedOptions} (h : options.validate isValidWebhookUrl) :
    (({} : PreferencesHub).seed options).Sound isValidWebhookUrl ∧
      (({} : PreferencesHub).seed options).Nonzero := by
  unfold SeedOptions.validate at h
  simp only [Bool.and_eq_true] at h
  obtain ⟨⟨⟨hsalt, hcomms⟩, hwebhook⟩, hretention⟩ := h
  obtain ⟨salt, comms, webhook, retention⟩ := options
  refine ⟨⟨?_, ?_, ⟨[], rfl, rfl⟩, ⟨[], rfl, rfl⟩, ⟨[], rfl, rfl⟩, List.Pairwise.nil,
    nofun⟩, ?_, ?_⟩
  · cases salt with
    | none => exact (by decide : (2600 : UInt32) ≤ saltLowPpmMax)
    | some ppm => exact of_decide_eq_true hsalt
  · cases webhook with
    | none => exact fun hne => absurd rfl hne
    | some url => exact fun _ => hwebhook
  · cases comms with
    | none => exact (by decide : (60 : UInt32) ≠ 0)
    | some secs => exact bne_iff_ne.mp hcomms
  · cases retention with
    | none => exact (by decide : (90 : UInt32) ≠ 0)
    | some days => exact bne_iff_ne.mp hretention

/-! ## The document of a hub -/

theorem asTemperatureUnits_name (units : TemperatureUnits) :
    asTemperatureUnits (.string units.name) = .ok units := by
  cases units <;> rfl

theorem asObjectOf_of_objectOf {value : Json} (h : ObjectOf passes value) :
    asObjectOf passes noObject noValue value = .ok value := by
  obtain ⟨fields, rfl, hall⟩ := h
  unfold asObjectOf
  dsimp only
  rw [if_pos hall]

/-- A stored number is rendered so that it fits, and read back. -/
theorem ofInt_toNat (value : UInt32) : UInt32.ofInt value.toNat = value := by
  apply UInt32.toNat_inj.mp
  have hcut := toNat_ofInt (value.toNat : ℤ)
  have hlt := value.toNat_lt
  omega

theorem toInt64_toNat (value : UInt32) : toInt64 value.toNat = value.toNat := by
  have hlt := value.toNat_lt
  exact toInt64_eq_self (by omega) (by omega)

theorem asSaltLowPpm_toNat {ppm : UInt32} (h : ppm ≤ saltLowPpmMax) :
    asSaltLowPpm (.integer ppm.toNat) = .ok ppm := by
  have hle : ppm.toNat ≤ 6000 := UInt32.le_iff_toNat_le.mp h
  unfold asSaltLowPpm
  dsimp only
  rw [toInt64_toNat, if_neg (by omega), ofInt_toNat]

theorem asPositive_toNat_eq_ok_iff {error : PreferenceError} {value converted : UInt32} :
    asPositive error (.integer value.toNat) = .ok converted ↔ value ≠ 0 ∧ converted = value := by
  unfold asPositive
  dsimp only
  rw [toInt64_toNat, ofInt_toNat]
  by_cases hzero : value = 0
  · subst hzero
    simp
  · have hne : value.toNat ≠ 0 := fun h => hzero (UInt32.toNat_inj.mp h)
    rw [if_neg (by omega)]
    constructor
    · intro h
      exact ⟨hzero, (Except.ok.inj h).symm⟩
    · rintro ⟨-, rfl⟩
      rfl

theorem accepts_of_member {α : Type} {convert : Json → Except PreferenceError α} {key : String}
    {value : Json} {converted : α} (hmember : json.member key = some value)
    (hconvert : convert value = .ok converted) :
    Accepts json key convert ∧ requested json key convert = some converted := by
  constructor
  · intro found hfound
    rw [hmember] at hfound
    cases hfound
    exact ⟨converted, hconvert⟩
  · unfold requested
    rw [hmember, bind_some, hconvert]
    rfl

theorem asWebhookUrl_of_sound {url : String} (h : url ≠ "" → isValidWebhookUrl url) :
    asWebhookUrl isValidWebhookUrl (.string url) = .ok url := by
  unfold asWebhookUrl
  dsimp only
  rw [if_neg]
  rintro ⟨hne, hinvalid⟩
  rw [h hne] at hinvalid
  cases hinvalid

section

variable (h : hub.Sound isValidWebhookUrl)

include h

theorem validPreferences_toJson_iff :
    ValidPreferences isValidWebhookUrl (.object hub.toJson) ↔ hub.Nonzero := by
  have hcomms : (objectPart (.object hub.toJson) "alert").member "comms_timeout_seconds" =
      some (.integer hub.alertCommsTimeoutSeconds.toNat) := rfl
  have hretention : (objectPart (.object hub.toJson) "history").member "retention_days" =
      some (.integer hub.historyRetentionDays.toNat) := rfl
  constructor
  · intro hvalid
    obtain ⟨comms, hcommsOk⟩ := hvalid.comms _ hcomms
    obtain ⟨retention, hretentionOk⟩ := hvalid.retention _ hretention
    exact ⟨(asPositive_toNat_eq_ok_iff.mp hcommsOk).1,
      (asPositive_toNat_eq_ok_iff.mp hretentionOk).1⟩
  · rintro ⟨hcommsNe, hretentionNe⟩
    exact {
      units := (accepts_of_member rfl (asTemperatureUnits_name _)).1
      salt := (accepts_of_member rfl (asSaltLowPpm_toNat h.salt)).1
      comms := (accepts_of_member hcomms (asPositive_toNat_eq_ok_iff.mpr ⟨hcommsNe, rfl⟩)).1
      webhook := (accepts_of_member rfl (asWebhookUrl_of_sound h.webhook)).1
      retention :=
        (accepts_of_member hretention (asPositive_toNat_eq_ok_iff.mpr ⟨hretentionNe, rfl⟩)).1
      labels := (accepts_of_member rfl (asObjectOf_of_objectOf h.labels)).1
      presence := (accepts_of_member rfl (asObjectOf_of_objectOf h.presence)).1
      showAuxId := (@accepts_of_member (.object hub.toJson) _ asShowAuxId
        "show_aux_id_in_label" (.bool hub.showAuxIdInLabel) _ rfl rfl).1
      ui := (@accepts_of_member (.object hub.toJson) _ asUi "ui"
        (.object hub.uiPreferences) _ rfl rfl).1
      buttons := (accepts_of_member rfl (asObjectOf_of_objectOf h.buttons)).1 }

theorem updated_toJson (hnonzero : hub.Nonzero) (options : SeedOptions) :
    (({} : PreferencesHub).seed options).updated isValidWebhookUrl (.object hub.toJson) = hub := by
  have hcomms : requested (objectPart (.object hub.toJson) "alert") "comms_timeout_seconds"
      asCommsTimeout = some hub.alertCommsTimeoutSeconds :=
    (accepts_of_member rfl (asPositive_toNat_eq_ok_iff.mpr ⟨hnonzero.1, rfl⟩)).2
  have hretention : requested (objectPart (.object hub.toJson) "history") "retention_days"
      asRetentionDays = some hub.historyRetentionDays :=
    (accepts_of_member rfl (asPositive_toNat_eq_ok_iff.mpr ⟨hnonzero.2, rfl⟩)).2
  have hunits : requested (.object hub.toJson) "temperature_units" asTemperatureUnits =
      some hub.temperatureDisplayUnits := (accepts_of_member rfl (asTemperatureUnits_name _)).2
  have hsalt : requested (objectPart (.object hub.toJson) "alert") "salt_low_ppm" asSaltLowPpm =
      some hub.alertSaltLowPpm := (accepts_of_member rfl (asSaltLowPpm_toNat h.salt)).2
  have hwebhook : requested (objectPart (.object hub.toJson) "alert") "webhook_url"
      (asWebhookUrl isValidWebhookUrl) = some hub.alertWebhookUrl :=
    (accepts_of_member rfl (asWebhookUrl_of_sound h.webhook)).2
  have hlabels : requested (.object hub.toJson) "label_overrides" asLabelOverrides =
      some hub.labelOverrides := (accepts_of_member rfl (asObjectOf_of_objectOf h.labels)).2
  have hpresence : requested (.object hub.toJson) "aux_presence_overrides"
      asAuxPresenceOverrides = some hub.auxPresenceOverrides :=
    (accepts_of_member rfl (asObjectOf_of_objectOf h.presence)).2
  have hshow : requested (.object hub.toJson) "show_aux_id_in_label" asShowAuxId =
      some hub.showAuxIdInLabel := rfl
  have hui : requested (.object hub.toJson) "ui" asUi = some hub.uiPreferences := rfl
  have hbuttons : requested (.object hub.toJson) "spa_switch_buttons" asSpaSwitchButtons =
      some hub.spaSwitchButtons := (accepts_of_member rfl (asObjectOf_of_objectOf h.buttons)).2
  have hmerge : mergeUi (({} : PreferencesHub).seed options).uiPreferences hub.uiPreferences =
      hub.uiPreferences := mergeUi_nil h.ui
  unfold PreferencesHub.updated
  rw [hcomms, hretention, hunits, hsalt, hwebhook, hlabels, hpresence, hshow, hui, hbuttons]
  simp only [getD_some, hmerge]

theorem applyJson_toJson_iff (options : SeedOptions) {hub' : PreferencesHub} :
    applyJson isValidWebhookUrl (({} : PreferencesHub).seed options) (.object hub.toJson) =
      .ok hub' ↔ hub.Nonzero ∧ hub' = hub := by
  rw [applyJson_eq_ok, validPreferences_toJson_iff h]
  exact and_congr_right fun hnonzero => by rw [updated_toJson h hnonzero options]

end

end

/-! ## A restart -/

/-- Whatever the hub is seeded with, a start from the file that was saved brings back what
the saved hub held. -/
def PreferencesHub.Restores (isValidWebhookUrl : String → Bool) (hub : PreferencesHub) : Prop :=
  ∀ (text : JsonText) (bytes : List UInt8), text.dump (.object hub.toJson) = some bytes →
    text.parse bytes = some (.object hub.toJson) →
    ∀ (preferencesFile : String) (faults : WriteFaults) (files : FileSystem String UInt8),
      preferencesFile ≠ "" → faults.opens = true → faults.renames = true →
      bytes.length ≤ faults.written →
      ∀ options : SeedOptions, options.validate isValidWebhookUrl = true →
        (({} : PreferencesHub).seed options).start isValidWebhookUrl text
          (savePreferences text preferencesFile (some (.object hub.toJson)) faults files
            preferencesFile) = hub

section

variable {isValidWebhookUrl : String → Bool} {hub : PreferencesHub}

theorem savePreferences_of_no_faults {text : JsonText} {bytes : List UInt8}
    (hdump : text.dump (.object hub.toJson) = some bytes) {preferencesFile : String}
    (hpath : preferencesFile ≠ "") {faults : WriteFaults} (hopens : faults.opens)
    (hrenames : faults.renames) (hwritten : bytes.length ≤ faults.written)
    (files : FileSystem String UInt8) :
    savePreferences text preferencesFile (some (.object hub.toJson)) faults files
      preferencesFile = some bytes := by
  unfold savePreferences
  dsimp only
  rw [if_neg hpath, hdump, saveUnguarded_target (tempFile_ne preferencesFile), if_pos hrenames,
    renamed, if_pos hopens, take_of_length_le hwritten]
  rfl

theorem start_of_parse {text : JsonText} {bytes : List UInt8}
    (hparse : text.parse bytes = some (.object hub.toJson)) (options : SeedOptions) :
    (({} : PreferencesHub).seed options).start isValidWebhookUrl text (some bytes) =
      (applyJson isValidWebhookUrl (({} : PreferencesHub).seed options)
        (.object hub.toJson)).toOption.getD (({} : PreferencesHub).seed options) := by
  unfold PreferencesHub.start
  rw [bind_some, hparse]
  rfl

theorem PreferencesHub.Sound.restores_iff (h : hub.Sound isValidWebhookUrl) :
    hub.Restores isValidWebhookUrl ↔ hub.Nonzero := by
  constructor
  · intro hrestores
    -- the text form of this one document, in a file of its own
    have hstart := hrestores ⟨fun _ => some [], fun _ => some (.object hub.toJson)⟩ [] rfl rfl "p"
      ⟨true, 0, true⟩ (fun _ => none) (by decide) rfl rfl (Nat.le_refl _) {} rfl
    rw [savePreferences_of_no_faults rfl (by decide) rfl rfl (Nat.le_refl _),
      start_of_parse rfl] at hstart
    cases hresult : applyJson isValidWebhookUrl (({} : PreferencesHub).seed {})
        (.object hub.toJson) with
    | error error =>
      rw [hresult] at hstart
      rw [← hstart]
      exact (@sound_seed isValidWebhookUrl {} rfl).2
    | ok hub' => exact ((applyJson_toJson_iff h {}).mp hresult).1
  · intro hnonzero text bytes hdump hparse preferencesFile faults files hpath hopens hrenames
      hwritten options _
    rw [savePreferences_of_no_faults hdump hpath hopens hrenames hwritten, start_of_parse hparse,
      (applyJson_toJson_iff h options).mpr ⟨hnonzero, rfl⟩]
    rfl

theorem asPositive_ne_zero {error : PreferenceError} {value : ℤ} {converted : UInt32}
    (h : asPositive error (.integer value) = .ok converted) (hfits : 0 ≤ value ∧ value < 2 ^ 32) :
    converted ≠ 0 := by
  have hstored := toNat_ofInt value
  rw [← keepsLowBits_asPositive error value converted h] at hstored
  unfold asPositive at h
  dsimp only at h
  split_ifs at h with hpositive
  rintro rfl
  rw [toInt64_eq_self (by omega) (by omega)] at hpositive
  have hzero : (0 : UInt32).toNat = 0 := rfl
  omega

theorem PreferencesHub.Nonzero.updated (h : hub.Nonzero) {json : Json} (hfits : Fits json) :
    (hub.updated isValidWebhookUrl json).Nonzero := by
  have hpositive : ∀ {part : Json} {key : String} {error : PreferenceError} {current : UInt32},
      current ≠ 0 → (∀ value, part.integer? key = some value → 0 ≤ value ∧ value < 2 ^ 32) →
      (requested part key (asPositive error)).getD current ≠ 0 := by
    intro part key error current hcurrent hvalues
    cases hrequested : requested part key (asPositive error) with
    | none => exact hcurrent
    | some converted =>
      obtain ⟨value, hmember, hconvert⟩ := requested_eq_some hrequested
      cases value with
      | integer value =>
        exact asPositive_ne_zero hconvert (hvalues value (Json.integer?_of_member hmember))
      | null | bool _ | float _ | string _ | array _ | object _ => cases hconvert
  constructor
  · exact hpositive h.1 (hfits _ (mem_cons_of_mem _ mem_cons_self))
  · exact hpositive h.2 (hfits _ (mem_cons_of_mem _ (mem_cons_of_mem _ mem_cons_self)))

/-- The document of the event, if it is one that is accepted, has numbers that fit. -/
def PreferencesEvent.FitsIfValid (isValidWebhookUrl : String → Bool) (_ : PreferencesHub) :
    PreferencesEvent → Prop
  | .applyJson json => ValidPreferences isValidWebhookUrl json → Fits json
  | .recordSpaSwitchAssignment _ _ _ => True

theorem PreferencesHub.Nonzero.after (h : hub.Nonzero) {event : PreferencesEvent}
    (hfits : event.FitsIfValid isValidWebhookUrl hub) :
    (hub.after isValidWebhookUrl event).Nonzero := by
  cases event with
  | applyJson json =>
    unfold PreferencesHub.after
    dsimp only
    rcases @applyJson_toOption_getD isValidWebhookUrl hub json with heq | ⟨heq, hvalid⟩
    · rwa [heq]
    · rw [heq]
      exact h.updated (hfits hvalid)
  | recordSpaSwitchAssignment switchNumber buttonNumber function =>
    unfold PreferencesHub.after PreferencesHub.recordSpaSwitchAssignment
    dsimp only
    split <;> exact h

/-- The document was refused and changed nothing, or its numbers are stored as they are. -/
def RefusedOrStored (isValidWebhookUrl : String → Bool) (hub : PreferencesHub) (json : Json) :
    Prop :=
  (∃ error, applyJson isValidWebhookUrl hub json = .error error ∧
      hub.after isValidWebhookUrl (.applyJson json) = hub) ∨
    ∃ hub', applyJson isValidWebhookUrl hub json = .ok hub' ∧
      hub.after isValidWebhookUrl (.applyJson json) = hub' ∧ StoresExactly json hub'

theorem refusedOrStored_iff {json : Json} :
    RefusedOrStored isValidWebhookUrl hub json ↔
      (ValidPreferences isValidWebhookUrl json → Fits json) := by
  rw [← @storesExactly_iff isValidWebhookUrl hub json]
  unfold RefusedOrStored PreferencesHub.after
  dsimp only
  generalize applyJson isValidWebhookUrl hub json = result
  cases result with
  | error error => simp [Except.toOption]
  | ok hub' => simp [Except.toOption]

/-- **Preferences.**  A document is refused or stored exactly, if and only if it is not one
that passes the checks with a number that does not fit.  A hub that was seeded from the
command line survives a restart after any run if and only if neither number is zero; and so
it does after every run of documents that fit. -/
theorem preferences_exact (isValidWebhookUrl : String → Bool) :
    (∀ hub json, RefusedOrStored isValidWebhookUrl hub json ↔
      (ValidPreferences isValidWebhookUrl json → Fits json)) ∧
    ∀ options : SeedOptions, options.validate isValidWebhookUrl →
      ∀ events : List PreferencesEvent,
        EachState (PreferencesHub.after isValidWebhookUrl)
            (fun hub => hub.Restores isValidWebhookUrl ↔ hub.Nonzero)
            (({} : PreferencesHub).seed options) events ∧
          (EachStep (PreferencesHub.after isValidWebhookUrl)
              (fun hub event => event.FitsIfValid isValidWebhookUrl hub)
              (({} : PreferencesHub).seed options) events →
            EachState (PreferencesHub.after isValidWebhookUrl)
              (fun hub => hub.Restores isValidWebhookUrl)
              (({} : PreferencesHub).seed options) events) := by
  refine ⟨fun hub json => refusedOrStored_iff, fun options hoptions events => ?_⟩
  obtain ⟨hsound, hnonzero⟩ := sound_seed hoptions
  -- whatever the documents are, the hub stays sound
  have hsounds : EachState (PreferencesHub.after isValidWebhookUrl)
      (fun hub => hub.Sound isValidWebhookUrl) (({} : PreferencesHub).seed options) events :=
    eachStep_true.eachState_of_step (fun _ event h _ => h.after event) hsound
  refine ⟨hsounds.mono fun hub h => h.restores_iff, fun hfits => ?_⟩
  refine EachState.mono (fun hub h => h.1.restores_iff.mpr h.2) (EachStep.eachState_of_step
    (Q := fun hub => hub.Sound isValidWebhookUrl ∧ hub.Nonzero) ?_ ⟨hsound, hnonzero⟩ hfits)
  exact fun hub event h hfits => ⟨h.1.after event, h.2.after hfits⟩

end

/-! ### Numbers that do not fit -/

/-- A timeout that is asked for. -/
def timeoutDocument (seconds : ℤ) : Json :=
  .object [("alert", .object [("comms_timeout_seconds", .integer seconds)])]

/-- A timeout that fits and a wish for a button of the spa-side switch are there after a
restart. -/
theorem preferences_exact_timeout :
    RefusedOrStored (fun _ => false) {} (timeoutDocument 90) ∧
      EachState (PreferencesHub.after fun _ => false) (fun hub => hub.Restores fun _ => false)
        (({} : PreferencesHub).seed {})
        [.applyJson (timeoutDocument 90), .recordSpaSwitchAssignment 1 2 "Pool Light"] := by
  have hfits : Fits (timeoutDocument 90) := by
    intro field hfield value hvalue
    rw [numericFields, mem_cons, mem_pair] at hfield
    obtain rfl | rfl | rfl := hfield
    · cases hvalue
    · cases hvalue
      decide
    · cases hvalue
  obtain ⟨hstores, hrestores⟩ := preferences_exact fun _ => false
  exact ⟨(hstores {} _).mpr fun _ => hfits,
    (hrestores {} rfl _).2 ⟨fun _ => hfits, trivial, trivial⟩⟩

/-- A timeout of 2 ^ 32 + 5 seconds is stored as five; one of 2 ^ 32 is stored as zero, and
the hub does not survive a restart. -/
theorem wide_timeout_stored :
    ¬ RefusedOrStored (fun _ => false) {} (timeoutDocument 4294967301) ∧
      ¬ ((({} : PreferencesHub).seed {}).after (fun _ => false)
        (.applyJson (timeoutDocument 4294967296))).Restores fun _ => false := by
  have hstores : applyJson (fun _ => false) {} (timeoutDocument 4294967301) =
      .ok { alertCommsTimeoutSeconds := 5 } := rfl
  constructor
  · rintro (⟨error, hrefused, -⟩ | ⟨hub, hstored, -, hexact⟩)
    · rw [hstores] at hrefused
      cases hrefused
    · rw [hstores] at hstored
      cases hstored
      have hvalue := hexact _ (mem_cons_of_mem _ mem_cons_self) 4294967301 rfl
      exact absurd hvalue (by decide)
  · have hsound := (@sound_seed (fun _ => false) {} rfl).1.after
      (.applyJson (timeoutDocument 4294967296))
    rw [hsound.restores_iff]
    exact fun hnonzero => hnonzero.1 rfl

end AqualinkAutomate.Http
