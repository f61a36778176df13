import Mathlib.Data.Nat.Digits.Defs
import Aqualink.Mqtt.Commands

/-!
# What a message asks for

`Asks` says of a payload which call it asks the handler of a topic for, in words that do not
mention how the handlers read payloads: the texts, the numbers and the fields that a payload
has.  `handleMessage` makes that call and no other, and no call when nothing is asked for.

Three handlers are not held to the last part.  The handlers of a chlorinator percentage and of
the boost take a payload that they cannot read for a value of their own, and a setpoint that is
not finite in the unit of the system is sent as zero.  `TakenLeniently` collects these payloads;
about them only the number of calls is said.
-/

namespace AqualinkAutomate.Mqtt

open Equipment General Hub List

/-! ## What a payload carries -/

def CarriesText (payload : Json) (text : String) : Prop :=
  payload.text? "raw" = some text ∨ payload = .string text

def IsNumeral (text : String) (n : ℕ) : Prop :=
  text.toList ≠ [] ∧ (∀ c ∈ text.toList, c.isDigit = true) ∧
    Nat.ofDigits 10 (text.toList.reverse.map fun c => c.toNat - '0'.toNat) = n

inductive CarriesByte (doubles : DoubleArithmetic) (payload : Json) : UInt8 → Prop
  | numeral {text : String} {n : UInt8} (htext : CarriesText payload text)
      (hnumeral : IsNumeral text n.toNat) : CarriesByte doubles payload n
  | number {x : doubles.Double} (hnumber : doubles.numberOf payload = some x)
      (hfinite : doubles.isFinite x = true) (hlow : doubles.lt x (doubles.ofInteger 0) = false)
      (hhigh : doubles.lt (doubles.ofInteger 255) x = false) :
      CarriesByte doubles payload (UInt8.ofInt (doubles.llround x))

inductive CarriesDouble (doubles : DoubleArithmetic) (payload : Json) : doubles.Double → Prop
  | numeral {text : String} {x : doubles.Double} (htext : CarriesText payload text)
      (hnumeral : doubles.fromChars text = some x) : CarriesDouble doubles payload x
  | number {x : doubles.Double} (hnumber : doubles.numberOf payload = some x)
      (hfinite : doubles.isFinite x = true) : CarriesDouble doubles payload x

section

variable {doubles : DoubleArithmetic} {payload : Json} {text : String}

theorem text?_string (text key : String) : (Json.string text).text? key = none := rfl

theorem text?_of_numberOf {x : doubles.Double} (h : doubles.numberOf payload = some x)
    (key : String) : payload.text? key = none := by
  cases payload with
  | integer value => rfl
  | float bits => rfl
  | _ => cases h

theorem parsePayloadString_of_carriesText (h : CarriesText payload text) :
    parsePayloadString payload = text := by
  unfold parsePayloadString
  obtain hraw | rfl := h
  · rw [hraw]
  · rw [text?_string]

theorem carriesText_of_parsePayloadString (h : parsePayloadString payload = text)
    (hne : text ≠ "") : CarriesText payload text := by
  unfold parsePayloadString at h
  split at h
  next raw hraw => exact .inl (hraw.trans (congrArg some h))
  next =>
    split at h
    · exact .inr (congrArg Json.string h)
    · exact absurd h.symm hne

section

variable {α : Type} {ofText : String → Option α} {ofNumber : doubles.Double → Option α}
  {default a : α}

theorem parsePayloadNumber_of_carriesText (h : CarriesText payload text)
    (ha : ofText text = some a) :
    parsePayloadNumber doubles ofText ofNumber payload default = a := by
  unfold parsePayloadNumber
  obtain hraw | rfl := h
  · simp only [hraw, ha, Option.getD_some]
  · simp only [text?_string, DoubleArithmetic.numberOf, ha, Option.getD_some]

theorem parsePayloadNumber_of_numberOf {x : doubles.Double}
    (h : doubles.numberOf payload = some x) (ha : ofNumber x = some a) :
    parsePayloadNumber doubles ofText ofNumber payload default = a := by
  simp only [parsePayloadNumber, text?_of_numberOf h, h, ha, Option.getD_some]

theorem of_parsePayloadNumber (h : parsePayloadNumber doubles ofText ofNumber payload default = a)
    (hne : default ≠ a) :
    (∃ text, CarriesText payload text ∧ ofText text = some a) ∨
      ∃ x, doubles.numberOf payload = some x ∧ ofNumber x = some a := by
  have hsome : ∀ {found : Option α}, found.getD default = a → found = some a := by
    intro found hfound
    cases found with
    | none => exact absurd hfound hne
    | some b => exact congrArg some hfound
  unfold parsePayloadNumber at h
  split at h
  next text hraw => exact .inl ⟨text, .inl hraw, hsome h⟩
  next =>
    split at h
    next x hx => exact .inr ⟨x, hx, hsome h⟩
    next =>
      split at h
      next text _ _ => exact .inl ⟨text, .inr rfl, hsome h⟩
      next => exact absurd h hne

end

theorem foldl_digits (l : List Char) :
    l.foldl (fun soFar digit => 10 * soFar + (digit.toNat - '0'.toNat)) 0 =
      Nat.ofDigits 10 (l.reverse.map fun c => c.toNat - '0'.toNat) := by
  induction l using reverseRecOn with
  | nil => rfl
  | append_singleton l c ih =>
    rw [foldl_append, foldl_cons, foldl_nil, ih, reverse_append,
      reverse_singleton, singleton_append, map_cons, Nat.ofDigits_cons,
      Nat.add_comm]

theorem byteOfText_of_isNumeral {n : UInt8} (h : IsNumeral text n.toNat) :
    byteOfText text = some n := by
  obtain ⟨hne, hdigits, hvalue⟩ := h
  have hall : text.toList.all Char.isDigit := List.all_eq_true.mpr hdigits
  have hle : n.toNat ≤ 255 := by have := n.toNat_lt; omega
  simp only [byteOfText, foldl_digits, hvalue]
  rw [if_pos ⟨hne, hall, hle⟩, UInt8.ofNat_toNat]

theorem parsePayloadByte_of_carriesByte {n : UInt8} (h : CarriesByte doubles payload n) :
    parsePayloadByte doubles payload = n := by
  cases h with
  | numeral htext hnumeral =>
    exact parsePayloadNumber_of_carriesText htext (byteOfText_of_isNumeral hnumeral)
  | number hnumber hfinite hlow hhigh =>
    refine parsePayloadNumber_of_numberOf hnumber ?_
    simp [DoubleArithmetic.toByteChecked, hfinite, hlow, hhigh]

theorem parsePayloadDouble_of_carriesDouble {x : doubles.Double}
    (h : CarriesDouble doubles payload x) : parsePayloadDouble doubles payload = x := by
  cases h with
  | numeral htext hnumeral => exact parsePayloadNumber_of_carriesText htext hnumeral
  | number hnumber hfinite =>
    exact parsePayloadNumber_of_numberOf hnumber (if_pos hfinite)

/-- A positive number that was read is not the default. -/
theorem carriesDouble_of_lt
    (h : doubles.lt (doubles.ofInteger 0) (parsePayloadDouble doubles payload)) :
    CarriesDouble doubles payload (parsePayloadDouble doubles payload) := by
  have hne : doubles.ofInteger 0 ≠ parsePayloadDouble doubles payload := by
    intro heq
    rw [← heq] at h
    have hlt := doubles.lt_byte 0 0
    rw [UInt8.toNat_zero, Nat.cast_zero, h] at hlt
    cases hlt
  obtain ⟨text, htext, hx⟩ | ⟨x, hx, hchecked⟩ := of_parsePayloadNumber rfl hne
  · exact .numeral htext hx
  · unfold DoubleArithmetic.toDoubleChecked at hchecked
    split at hchecked
    next hfinite =>
      cases hchecked
      exact .number hx hfinite
    next => cases hchecked

theorem ofInt_toNat (n : UInt8) : UInt8.ofInt n.toNat = n := by
  have hmod : ((n.toNat : ℤ) % 2 ^ 8).toNat = n.toNat := by
    have := n.toNat_lt
    omega
  rw [UInt8.ofInt, hmod, UInt8.ofNat_toNat]

end

/-! ## What a message asks for -/

inductive AnswersTo : CommandHandler → String → Prop
  | status : AnswersTo .status "status"
  | refresh : AnswersTo .refresh "refresh"
  | device : AnswersTo .device "device"
  | setpoint : AnswersTo .setpoint "setpoint"
  | poolSetpoint : AnswersTo (.haSetpoint "pool") "setpoint/pool"
  | spaSetpoint : AnswersTo (.haSetpoint "spa") "setpoint/spa"
  | dynamicDevice (label : String) : AnswersTo (.dynamicDevice label) ("device/" ++ slugify label)
  | heater (label : String) (body : BodyOfWaterIds) :
      AnswersTo (.heater label body) ("heater/" ++ slugify label)
  | percentage : AnswersTo (.percentage .pool) "chlorinator/percentage"
  | poolPercentage : AnswersTo (.percentage .pool) "chlorinator/pool/percentage"
  | spaPercentage : AnswersTo (.percentage .spa) "chlorinator/spa/percentage"
  | boost : AnswersTo .boost "chlorinator/boost"
  | circulationMode : AnswersTo .circulationMode "circulation/mode"

inductive SetpointCall : String → UInt8 → DispatcherCall → Prop
  | pool (temperature : UInt8) : SetpointCall "pool" temperature (.setPoolSetpoint temperature)
  | spa (temperature : UInt8) : SetpointCall "spa" temperature (.setSpaSetpoint temperature)

inductive SwitchText : String → Bool → Prop
  | on : SwitchText "ON" true
  | off : SwitchText "OFF" false

inductive ModeText : String → CirculationModes → Prop
  | pool : ModeText "pool" .pool
  | poolCapital : ModeText "Pool" .pool
  | spa : ModeText "spa" .spa
  | spaCapital : ModeText "Spa" .spa
  | spillover : ModeText "spillover" .spillover
  | spilloverCapital : ModeText "Spillover" .spillover

def NamesDevice (payload : Json) (deviceId : String) : Prop :=
  payload.member "device_id" = some (.string deviceId) ∧ deviceId ≠ "" ∧
    ∀ action, payload.member "action" = some action → ∃ word, action = .string word

def TargetsTemperature (env : Environment) (payload : Json) (target : String)
    (celsius : env.doubles.Double) : Prop :=
  payload.member "target" = some (.string target) ∧
    (∃ number, payload.member "temperature" = some number ∧
      env.doubles.numberOf number = some celsius) ∧
    env.doubles.le celsius (env.doubles.ofInteger 0) = false

/-- The payload is a number above zero. -/
def CarriesTemperature (env : Environment) (payload : Json)
    (temperature : env.doubles.Double) : Prop :=
  CarriesDouble env.doubles payload temperature ∧
    env.doubles.lt (env.doubles.ofInteger 0) temperature = true

def limitedSetpoint (env : Environment) (value : env.doubles.Double) : UInt8 :=
  env.doubles.toByte (env.doubles.clampToByte value)

/-- The call that a payload asks a handler for.  The command `device` always toggles. -/
inductive Asks (env : Environment) (payload : Json) : CommandHandler → DispatcherCall → Prop
  | toggleByUuid {deviceId : String} {uuid : Uuid} (hname : NamesDevice payload deviceId)
      (huuid : env.parseUuid deviceId = some uuid) : Asks env payload .device (.toggleByUuid uuid)
  | toggleByLabel {label : String} (hname : NamesDevice payload label)
      (huuid : env.parseUuid label = none) : Asks env payload .device (.toggleByLabel label)
  | setpoint {target : String} {celsius : env.doubles.Double} {call : DispatcherCall}
      (htarget : TargetsTemperature env payload target celsius)
      (hfinite : env.doubles.isFinite (wireValue env celsius) = true)
      (hcall : SetpointCall target (limitedSetpoint env (wireValue env celsius)) call) :
      Asks env payload .setpoint call
  | haSetpoint {target : String} {temperature : env.doubles.Double} {call : DispatcherCall}
      (hnumber : CarriesTemperature env payload temperature)
      (hfinite :
        env.doubles.isFinite (wireValue env (displayToCelsius env temperature)) = true)
      (hcall : SetpointCall target
        (limitedSetpoint env (wireValue env (displayToCelsius env temperature))) call) :
      Asks env payload (.haSetpoint target) call
  | dynamicDevice {label text : String} {on : Bool} (htext : CarriesText payload text)
      (hswitch : SwitchText text on) :
      Asks env payload (.dynamicDevice label)
        (.commandByLabel label (bif on then .on else .off))
  | heater {label text : String} {body : BodyOfWaterIds} {on : Bool}
      (htext : CarriesText payload text) (hswitch : SwitchText text on) :
      Asks env payload (.heater label body) (.setHeaterMode body on)
  | percentage {body : BodyOfWaterIds} {n : UInt8} (hnumber : CarriesByte env.doubles payload n) :
      Asks env payload (.percentage body) (.setChlorinatorPercentage n body)
  | boost {text : String} {on : Bool} (htext : CarriesText payload text)
      (hswitch : SwitchText text on) : Asks env payload .boost (.setChlorinatorBoost on)
  | circulationMode {text : String} {mode : CirculationModes} (htext : CarriesText payload text)
      (hmode : ModeText text mode) : Asks env payload .circulationMode (.setCirculationMode mode)

inductive TakenLeniently (env : Environment) (payload : Json) : CommandHandler → Prop
  | percentage {body : BodyOfWaterIds} (h : ∀ n, ¬ CarriesByte env.doubles payload n) :
      TakenLeniently env payload (.percentage body)
  | boost (h : ∀ on text, CarriesText payload text → ¬ SwitchText text on) :
      TakenLeniently env payload .boost
  | setpoint {target : String} {celsius : env.doubles.Double}
      (htarget : TargetsTemperature env payload target celsius)
      (hfinite : env.doubles.isFinite (wireValue env celsius) = false) :
      TakenLeniently env payload .setpoint
  | haSetpoint {target : String} {temperature : env.doubles.Double}
      (hnumber : CarriesTemperature env payload temperature)
      (hfinite :
        env.doubles.isFinite (wireValue env (displayToCelsius env temperature)) = false) :
      TakenLeniently env payload (.haSetpoint target)

/-! ## The fields of a payload -/

section

variable {α : Type} {convert : Json → Option α} {payload : Json} {key : String} {default a : α}

theorem payloadValue_of_member {value : Json} (h : payload.member key = some value) :
    payloadValue convert payload key default = convert value := by
  cases payload with
  | object fields => simp only [payloadValue, h]
  | _ => cases h

theorem payloadValue_of_absent {fields : List (String × Json)}
    (h : (Json.object fields).member key = none) :
    payloadValue convert (.object fields) key default = some default := by
  simp only [payloadValue, h]

theorem of_payloadValue (h : payloadValue convert payload key default = some a) :
    (∃ value, payload.member key = some value ∧ convert value = some a) ∨
      payload.member key = none ∧ a = default := by
  unfold payloadValue at h
  split at h
  next fields =>
    split at h
    next value hvalue => exact .inl ⟨value, hvalue, h⟩
    next hnone => exact .inr ⟨hnone, (Option.some.inj h).symm⟩
  next => cases h

theorem eq_string_of_textOf {value : Json} {text : String} (h : textOf value = some text) :
    value = .string text := by
  cases value with
  | string other => exact congrArg Json.string (Option.some.inj h)
  | _ => cases h

variable {deviceId : String}

theorem textValue_deviceId (h : NamesDevice payload deviceId) :
    payloadValue textOf payload "device_id" "" = some deviceId :=
  payloadValue_of_member h.1

theorem exists_textValue_action (h : NamesDevice payload deviceId) :
    ∃ word, payloadValue textOf payload "action" "toggle" = some word := by
  cases haction : payload.member "action" with
  | some action =>
    obtain ⟨word, rfl⟩ := h.2.2 action haction
    exact ⟨word, payloadValue_of_member haction⟩
  | none =>
    cases payload with
    | object fields => exact ⟨"toggle", payloadValue_of_absent haction⟩
    | _ => cases h.1

theorem namesDevice_of_values {word : String}
    (hid : payloadValue textOf payload "device_id" "" = some deviceId)
    (haction : payloadValue textOf payload "action" "toggle" = some word) (hne : deviceId ≠ "") :
    NamesDevice payload deviceId := by
  refine ⟨?_, hne, ?_⟩
  · obtain ⟨value, hvalue, htext⟩ | ⟨-, hempty⟩ := of_payloadValue hid
    · rw [hvalue, eq_string_of_textOf htext]
    · exact absurd hempty hne
  · intro action hmember
    obtain ⟨value, hvalue, htext⟩ | ⟨hnone, -⟩ := of_payloadValue haction
    · rw [hmember] at hvalue
      cases hvalue
      exact ⟨word, eq_string_of_textOf htext⟩
    · rw [hmember] at hnone
      cases hnone

end

/-! ## Each handler -/

section

variable {env : Environment} {payload : Json} {call : DispatcherCall}

theorem handleDeviceCommand_of_namesDevice {deviceId : String} (hd : env.hasDispatcher)
    (h : NamesDevice payload deviceId) :
    handleDeviceCommand env payload =
      match env.parseUuid deviceId with
      | some uuid => [.toggleByUuid uuid]
      | none => [.toggleByLabel deviceId] := by
  obtain ⟨word, hword⟩ := exists_textValue_action h
  cases hparsed : env.parseUuid deviceId <;>
    simp only [handleDeviceCommand, hd, if_true, textValue_deviceId h, hword, if_neg h.2.1, hparsed]

theorem asks_of_mem_handleDeviceCommand (h : call ∈ handleDeviceCommand env payload) :
    env.hasDispatcher ∧ Asks env payload .device call := by
  unfold handleDeviceCommand at h
  split at h
  next hd =>
    refine ⟨hd, ?_⟩
    split at h
    next deviceId word hid hword =>
      split at h
      next => cases h
      next hne =>
        have hname : NamesDevice payload deviceId := namesDevice_of_values hid hword hne
        split at h
        next uuid huuid =>
          cases List.mem_singleton.mp h
          exact .toggleByUuid hname huuid
        next huuid =>
          cases List.mem_singleton.mp h
          exact .toggleByLabel hname huuid
    next => cases h
  next => cases h

theorem wireSetpoint_of_isFinite {value : env.doubles.Double}
    (h : env.doubles.isFinite value) :
    wireSetpoint env value = limitedSetpoint env value := by
  unfold wireSetpoint limitedSetpoint
  rw [if_pos h]

variable {target label : String}

theorem SetpointCall.target_ne_empty {temperature : UInt8}
    (h : SetpointCall target temperature call) : target ≠ "" := by
  cases h <;> decide

variable {celsius : env.doubles.Double}

theorem handleSetpointCommand_of_targets (h : TargetsTemperature env payload target celsius)
    (hne : target ≠ "") :
    handleSetpointCommand env payload = dispatchSetpoint env target celsius := by
  obtain ⟨htarget, ⟨number, hnumber, hcelsius⟩, hpositive⟩ := h
  have htext : payloadValue textOf payload "target" "" = some target :=
    payloadValue_of_member htarget
  have htemperature : payloadValue env.doubles.numberOf payload "temperature"
      (env.doubles.ofInteger 0) = some celsius :=
    (payloadValue_of_member hnumber).trans hcelsius
  simp [handleSetpointCommand, htext, htemperature, hne, hpositive]

/-- Zero is not above zero, so that a default is not taken. -/
theorem targets_of_values (htext : payloadValue textOf payload "target" "" = some target)
    (hnumber : payloadValue env.doubles.numberOf payload "temperature" (env.doubles.ofInteger 0) =
      some celsius)
    (hne : target ≠ "") (hpositive : env.doubles.le celsius (env.doubles.ofInteger 0) = false) :
    TargetsTemperature env payload target celsius := by
  refine ⟨?_, ?_, hpositive⟩
  · obtain ⟨value, hvalue, htext⟩ | ⟨-, hempty⟩ := of_payloadValue htext
    · rw [hvalue, eq_string_of_textOf htext]
    · exact absurd hempty hne
  · obtain ⟨value, hvalue, hcelsius⟩ | ⟨-, rfl⟩ := of_payloadValue hnumber
    · exact ⟨value, hvalue, hcelsius⟩
    · have hle := env.doubles.le_byte 0 0
      rw [UInt8.toNat_zero, Nat.cast_zero, hpositive] at hle
      cases hle

theorem targets_of_mem_handleSetpointCommand (h : call ∈ handleSetpointCommand env payload) :
    ∃ target celsius, TargetsTemperature env payload target celsius ∧
      call ∈ dispatchSetpoint env target celsius := by
  unfold handleSetpointCommand at h
  split at h
  next target celsius htext hnumber =>
    split at h
    next => cases h
    next hvalid =>
      rw [not_or, Bool.not_eq_true] at hvalid
      exact ⟨target, celsius, targets_of_values htext hnumber hvalid.1 hvalid.2, h⟩
  next => cases h

theorem carries_of_mem_handleHaSetpointCommand
    (h : call ∈ handleHaSetpointCommand env target payload) :
    ∃ temperature, CarriesTemperature env payload temperature ∧
      call ∈ dispatchSetpoint env target (displayToCelsius env temperature) := by
  unfold handleHaSetpointCommand at h
  dsimp only at h
  split at h
  next hpositive => exact ⟨_, ⟨carriesDouble_of_lt hpositive, hpositive⟩, h⟩
  next => cases h

theorem dispatchSetpoint_of_call (hd : env.hasDispatcher)
    (hcall : SetpointCall target (wireSetpoint env (wireValue env celsius)) call) :
    dispatchSetpoint env target celsius = [call] := by
  unfold dispatchSetpoint
  rw [hd]
  cases hcall <;> rfl

theorem call_of_mem_dispatchSetpoint (h : call ∈ dispatchSetpoint env target celsius) :
    env.hasDispatcher ∧
      SetpointCall target (wireSetpoint env (wireValue env celsius)) call := by
  unfold dispatchSetpoint at h
  split at h
  next => cases h
  next hd =>
    refine ⟨by simpa using hd, ?_⟩
    split at h
    next htarget =>
      cases List.mem_singleton.mp h
      exact htarget ▸ .pool _
    next =>
      split at h
      next htarget =>
        cases List.mem_singleton.mp h
        exact htarget ▸ .spa _
      next => cases h

theorem switch_of_carriesText {text : String} {on : Bool} (h : CarriesText payload text)
    (hswitch : SwitchText text on) (onCall offCall : DispatcherCall) :
    (if parsePayloadString payload = "ON" then [onCall]
      else if parsePayloadString payload = "OFF" then [offCall] else []) =
      [bif on then onCall else offCall] := by
  rw [parsePayloadString_of_carriesText h]
  cases hswitch <;> rfl

theorem switch_of_mem {onCall offCall : DispatcherCall}
    (h : call ∈ if parsePayloadString payload = "ON" then [onCall]
      else if parsePayloadString payload = "OFF" then [offCall] else []) :
    ∃ text on, CarriesText payload text ∧ SwitchText text on ∧
      call = bif on then onCall else offCall := by
  split at h
  next hon =>
    exact ⟨"ON", true, carriesText_of_parsePayloadString hon (by decide), .on,
      List.mem_singleton.mp h⟩
  next =>
    split at h
    next hoff =>
      exact ⟨"OFF", false, carriesText_of_parsePayloadString hoff (by decide), .off,
        List.mem_singleton.mp h⟩
    next => cases h

theorem asks_of_mem_handleDynamicDeviceCommand
    (h : call ∈ handleDynamicDeviceCommand env label payload) :
    env.hasDispatcher ∧ Asks env payload (.dynamicDevice label) call := by
  unfold handleDynamicDeviceCommand at h
  split at h
  next hd =>
    obtain ⟨text, on, htext, hswitch, rfl⟩ := switch_of_mem h
    have hasks : Asks env payload (.dynamicDevice label)
        (.commandByLabel label (bif on then .on else .off)) := .dynamicDevice htext hswitch
    refine ⟨hd, ?_⟩
    cases on <;> exact hasks
  next => cases h

variable {body : BodyOfWaterIds}

theorem asks_of_mem_handleHeaterCommand (h : call ∈ handleHeaterCommand env body payload) :
    env.hasDispatcher ∧ Asks env payload (.heater label body) call := by
  unfold handleHeaterCommand at h
  split at h
  next hd =>
    obtain ⟨text, on, htext, hswitch, rfl⟩ := switch_of_mem h
    have hasks : Asks env payload (.heater label body) (.setHeaterMode body on) :=
      .heater htext hswitch
    refine ⟨hd, ?_⟩
    cases on <;> exact hasks
  next => cases h

theorem asks_of_mem_handlePercentageCommand (h : call ∈ handlePercentageCommand env body payload) :
    env.hasDispatcher ∧ (Asks env payload (.percentage body) call ∨
      TakenLeniently env payload (.percentage body)) := by
  unfold handlePercentageCommand at h
  split at h
  next hd =>
    refine ⟨hd, ?_⟩
    by_cases hcarries : ∃ n, CarriesByte env.doubles payload n
    · obtain ⟨n, hn⟩ := hcarries
      rw [parsePayloadByte_of_carriesByte hn] at h
      cases List.mem_singleton.mp h
      exact .inl (.percentage hn)
    · exact .inr (.percentage (not_exists.mp hcarries))
  next => cases h

theorem asks_of_mem_handleBoostCommand (h : call ∈ handleBoostCommand env payload) :
    env.hasDispatcher ∧
      (Asks env payload .boost call ∨ TakenLeniently env payload .boost) := by
  unfold handleBoostCommand at h
  split at h
  next hd =>
    refine ⟨hd, ?_⟩
    cases List.mem_singleton.mp h
    by_cases hswitch : ∃ on text, CarriesText payload text ∧ SwitchText text on
    · obtain ⟨on, text, htext, hon⟩ := hswitch
      have hasks : Asks env payload .boost (.setChlorinatorBoost on) := .boost htext hon
      rw [parsePayloadString_of_carriesText htext]
      cases hon <;> exact .inl hasks
    · refine .inr (.boost fun on text htext hon => ?_)
      exact hswitch ⟨on, text, htext, hon⟩
  next => cases h

theorem asks_of_mem_handleCirculationModeCommand
    (h : call ∈ handleCirculationModeCommand env payload) :
    env.hasDispatcher ∧ Asks env payload .circulationMode call := by
  unfold handleCirculationModeCommand at h
  split at h
  next hd =>
    refine ⟨hd, ?_⟩
    dsimp only at h
    have hasks : ∀ {text : String} {mode : CirculationModes}, parsePayloadString payload = text →
        ModeText text mode → text ≠ "" →
        Asks env payload .circulationMode (.setCirculationMode mode) :=
      fun htext hmode hne =>
        .circulationMode (carriesText_of_parsePayloadString htext hne) hmode
    split at h
    next hpool =>
      cases List.mem_singleton.mp h
      obtain htext | htext := hpool
      exacts [hasks htext .pool (by decide), hasks htext .poolCapital (by decide)]
    next =>
      split at h
      next hspa =>
        cases List.mem_singleton.mp h
        obtain htext | htext := hspa
        exacts [hasks htext .spa (by decide), hasks htext .spaCapital (by decide)]
      next =>
        split at h
        next hspillover =>
          cases List.mem_singleton.mp h
          obtain htext | htext := hspillover
          exacts [hasks htext .spillover (by decide), hasks htext .spilloverCapital (by decide)]
        next => cases h
  next => cases h

variable {handler : CommandHandler}

theorem run_of_asks (hd : env.hasDispatcher) (h : Asks env payload handler call) :
    handler.run env payload = [call] := by
  cases h with
  | toggleByUuid hname huuid =>
    exact (handleDeviceCommand_of_namesDevice hd hname).trans (by rw [huuid])
  | toggleByLabel hname huuid =>
    exact (handleDeviceCommand_of_namesDevice hd hname).trans (by rw [huuid])
  | setpoint htarget hfinite hcall =>
    rw [← wireSetpoint_of_isFinite hfinite] at hcall
    exact (handleSetpointCommand_of_targets htarget hcall.target_ne_empty).trans
      (dispatchSetpoint_of_call hd hcall)
  | haSetpoint hnumber hfinite hcall =>
    rw [← wireSetpoint_of_isFinite hfinite] at hcall
    have hvalue := parsePayloadDouble_of_carriesDouble hnumber.1
    simp only [CommandHandler.run, handleHaSetpointCommand, hvalue, hnumber.2, if_true]
    exact dispatchSetpoint_of_call hd hcall
  | dynamicDevice htext hswitch =>
    simp only [CommandHandler.run, handleDynamicDeviceCommand, hd, if_true]
    rw [switch_of_carriesText htext hswitch]
    cases hswitch <;> rfl
  | heater htext hswitch =>
    simp only [CommandHandler.run, handleHeaterCommand, hd, if_true]
    rw [switch_of_carriesText htext hswitch]
    cases hswitch <;> rfl
  | percentage hnumber =>
    simp only [CommandHandler.run, handlePercentageCommand, hd, if_true,
      parsePayloadByte_of_carriesByte hnumber]
  | boost htext hswitch =>
    simp only [CommandHandler.run, handleBoostCommand, hd, if_true,
      parsePayloadString_of_carriesText htext]
    cases hswitch <;> rfl
  | circulationMode htext hmode =>
    simp only [CommandHandler.run, handleCirculationModeCommand, hd, if_true,
      parsePayloadString_of_carriesText htext]
    cases hmode <;> rfl

theorem asks_of_mem_run (h : call ∈ handler.run env payload) :
    env.hasDispatcher ∧ (Asks env payload handler call ∨ TakenLeniently env payload handler)
    := by
  cases handler with
  | status => cases h
  | refresh => cases h
  | device => exact (asks_of_mem_handleDeviceCommand h).imp_right .inl
  | setpoint =>
    obtain ⟨target, celsius, htarget, hcall⟩ := targets_of_mem_handleSetpointCommand h
    obtain ⟨hd, hcall⟩ := call_of_mem_dispatchSetpoint hcall
    refine ⟨hd, ?_⟩
    cases hfinite : env.doubles.isFinite (wireValue env celsius) with
    | false => exact .inr (.setpoint htarget hfinite)
    | true =>
      rw [wireSetpoint_of_isFinite hfinite] at hcall
      exact .inl (.setpoint htarget hfinite hcall)
  | haSetpoint target =>
    obtain ⟨temperature, hnumber, hcall⟩ := carries_of_mem_handleHaSetpointCommand h
    obtain ⟨hd, hcall⟩ := call_of_mem_dispatchSetpoint hcall
    refine ⟨hd, ?_⟩
    cases hfinite :
        env.doubles.isFinite (wireValue env (displayToCelsius env temperature)) with
    | false => exact .inr (.haSetpoint hnumber hfinite)
    | true =>
      rw [wireSetpoint_of_isFinite hfinite] at hcall
      exact .inl (.haSetpoint hnumber hfinite hcall)
  | dynamicDevice label => exact (asks_of_mem_handleDynamicDeviceCommand h).imp_right .inl
  | heater label body => exact (asks_of_mem_handleHeaterCommand h).imp_right .inl
  | percentage body => exact asks_of_mem_handlePercentageCommand h
  | boost => exact asks_of_mem_handleBoostCommand h
  | circulationMode => exact (asks_of_mem_handleCirculationModeCommand h).imp_right .inl

theorem length_dispatchSetpoint_le (target : String) (celsius : env.doubles.Double) :
    (dispatchSetpoint env target celsius).length ≤ 1 := by
  unfold dispatchSetpoint
  split_ifs <;> simp

theorem length_run_le (handler : CommandHandler) (env : Environment) (payload : Json) :
    (handler.run env payload).length ≤ 1 := by
  cases handler with
  | setpoint =>
    simp only [CommandHandler.run, handleSetpointCommand]
    split
    · split
      · exact Nat.zero_le 1
      · exact length_dispatchSetpoint_le _ _
    · exact Nat.zero_le 1
  | haSetpoint target =>
    simp only [CommandHandler.run, handleHaSetpointCommand]
    split
    · exact length_dispatchSetpoint_le _ _
    · exact Nat.zero_le 1
  | device =>
    simp only [CommandHandler.run, handleDeviceCommand]
    repeat' split
    all_goals simp
  | dynamicDevice label =>
    simp only [CommandHandler.run, handleDynamicDeviceCommand]
    split_ifs <;> simp
  | heater label body =>
    simp only [CommandHandler.run, handleHeaterCommand]
    split_ifs <;> simp
  | percentage body =>
    simp only [CommandHandler.run, handlePercentageCommand]
    split_ifs <;> simp
  | circulationMode =>
    simp only [CommandHandler.run, handleCirculationModeCommand]
    split_ifs <;> simp
  | boost =>
    simp only [CommandHandler.run, handleBoostCommand]
    split_ifs <;> simp
  | status => exact Nat.zero_le 1
  | refresh => exact Nat.zero_le 1

end

/-! ## Registration -/

section

variable {handlers : CommandHandlers} {entry added : String × CommandHandler}

theorem mem_of_mem_register (h : entry ∈ handlers.register added) :
    entry ∈ handlers ∨ entry = added := by
  obtain hold | hnew := List.mem_append.mp h
  · exact .inl (mem_of_mem_filter hold)
  · exact .inr (List.mem_singleton.mp hnew)

theorem mem_of_mem_registerAbsent (h : entry ∈ handlers.registerAbsent added) :
    entry ∈ handlers ∨ entry = added := by
  unfold CommandHandlers.registerAbsent insertAbsent at h
  split at h
  next => exact .inl h
  next => exact (List.mem_append.mp h).imp_right List.mem_singleton.mp

end

variable {entry : String × CommandHandler}

theorem answersTo_of_mem_entries {step : Registration} (h : entry ∈ step.entries.2) :
    AnswersTo entry.2 entry.1 := by
  cases step with
  | defaultCommands =>
    simp only [Registration.entries, mem_cons, not_mem_nil, or_false] at h
    obtain rfl | rfl := h
    exacts [.status, .refresh]
  | deviceCommand =>
    cases List.mem_singleton.mp h
    exact .device
  | setpointCommand =>
    simp only [Registration.entries, mem_cons, not_mem_nil, or_false] at h
    obtain rfl | rfl | rfl := h
    exacts [.setpoint, .poolSetpoint, .spaSetpoint]
  | dynamicDeviceCommands labels heaters =>
    simp only [Registration.entries, mem_append, mem_map, mem_cons, not_mem_nil, or_false] at h
    obtain (⟨label, -, rfl⟩ | ⟨heater, -, rfl⟩) | rfl | rfl | rfl | rfl | rfl := h
    exacts [.dynamicDevice label, .heater heater.1 heater.2, .percentage, .poolPercentage,
      .spaPercentage, .boost, .circulationMode]

theorem mem_of_mem_apply {handlers : CommandHandlers} {step : Registration}
    (h : entry ∈ step.apply handlers) : entry ∈ handlers ∨ entry ∈ step.entries.2 := by
  unfold Registration.apply at h
  generalize step.entries.2 = added at h ⊢
  have hstep : ∀ (handlers : CommandHandlers) (entry added : String × CommandHandler),
      entry ∈ (if step.entries.1 then CommandHandlers.registerAbsent
        else CommandHandlers.register) handlers added → entry ∈ handlers ∨ entry = added := by
    intro handlers entry added h
    split at h
    · exact mem_of_mem_registerAbsent h
    · exact mem_of_mem_register h
  induction added generalizing handlers with
  | nil => exact .inl h
  | cons first added ih =>
    obtain hfirst | hadded := ih h
    · obtain hold | rfl := hstep _ _ _ hfirst
      · exact .inl hold
      · exact .inr mem_cons_self
    · exact .inr (mem_cons_of_mem first hadded)

variable {steps : List Registration}

theorem answersTo_of_mem_registered (h : entry ∈ registered steps) : AnswersTo entry.2 entry.1 := by
  induction steps using reverseRecOn with
  | nil => cases h
  | append_singleton steps step ih =>
    unfold registered at h ih
    rw [foldl_append, foldl_cons, foldl_nil] at h
    obtain hold | hnew := mem_of_mem_apply h
    · exact ih hold
    · exact answersTo_of_mem_entries hnew

theorem answersTo_of_handlerOf {command : String} {handler : CommandHandler}
    (h : (registered steps).handlerOf command = some handler) : AnswersTo handler command := by
  obtain ⟨entry, hentry, rfl⟩ := Option.map_eq_some_iff.mp h
  have hcommand : entry.1 = command := by simpa using find?_some hentry
  exact hcommand ▸ answersTo_of_mem_registered (mem_of_find?_eq_some hentry)

/-! ## Messages -/

structure Reaches (parse : String → Except ParseFailure Json) (handlers : CommandHandlers)
    (command text : String) (handler : CommandHandler) (payload : Json) : Prop where
  parsed : messagePayload parse text = some payload
  found : handlers.handlerOf command = some handler

def MessageAsks (env : Environment) (parse : String → Except ParseFailure Json)
    (handlers : CommandHandlers) (command text : String) (call : DispatcherCall) : Prop :=
  env.hasDispatcher = true ∧ ∃ handler payload,
    Reaches parse handlers command text handler payload ∧ AnswersTo handler command ∧
      Asks env payload handler call

/-- The handler takes the message for a value of its own. -/
def MessageTakenLeniently (env : Environment) (parse : String → Except ParseFailure Json)
    (handlers : CommandHandlers) (command text : String) : Prop :=
  ∃ handler payload, Reaches parse handlers command text handler payload ∧
    TakenLeniently env payload handler

section

variable {env : Environment} {parse : String → Except ParseFailure Json}
  {handlers : CommandHandlers} {command text : String}

theorem handleMessage_of_reaches {handler : CommandHandler} {payload : Json}
    (h : Reaches parse handlers command text handler payload) :
    handleMessage env parse handlers command text = handler.run env payload := by
  simp only [handleMessage, h.parsed, h.found]

theorem reaches_of_mem_handleMessage {call : DispatcherCall}
    (h : call ∈ handleMessage env parse handlers command text) :
    ∃ handler payload, Reaches parse handlers command text handler payload := by
  unfold handleMessage at h
  split at h
  next payload handler hparsed hfound => exact ⟨handler, payload, ⟨hparsed, hfound⟩⟩
  next => cases h

end

/-- Whatever was registered: a message makes at most one call, it makes the call that it asks
for, and it makes no call that it does not ask for unless a handler takes it leniently. -/
theorem handleMessage_failSafe (env : Environment) (parse : String → Except ParseFailure Json)
    (steps : List Registration) (command text : String) :
    (handleMessage env parse (registered steps) command text).length ≤ 1 ∧
      (∀ call, MessageAsks env parse (registered steps) command text call →
        handleMessage env parse (registered steps) command text = [call]) ∧
      ∀ call ∈ handleMessage env parse (registered steps) command text,
        MessageAsks env parse (registered steps) command text call ∨
          MessageTakenLeniently env parse (registered steps) command text := by
  refine ⟨?_, ?_, ?_⟩
  · unfold handleMessage
    split
    · exact length_run_le _ env _
    · exact Nat.zero_le 1
  · rintro call ⟨hd, handler, payload, hreaches, -, hasks⟩
    exact (handleMessage_of_reaches hreaches).trans (run_of_asks hd hasks)
  · intro call hcall
    obtain ⟨handler, payload, hreaches⟩ := reaches_of_mem_handleMessage hcall
    rw [handleMessage_of_reaches hreaches] at hcall
    obtain ⟨hd, hasks | hlenient⟩ := asks_of_mem_run hcall
    · exact .inl ⟨hd, handler, payload, hreaches, answersTo_of_handlerOf hreaches.found, hasks⟩
    · exact .inr ⟨handler, payload, hreaches, hlenient⟩

/-! ## A command that is not obeyed -/

def roundHalfAway (x : ℚ) : ℤ := if 0 ≤ x then ⌊x + 1 / 2⌋ else -⌊-x + 1 / 2⌋

theorem roundHalfAway_natCast (n : ℕ) : roundHalfAway n = n := by
  have hfloor : ⌊((n : ℤ) : ℚ) + 1 / 2⌋ = (n : ℤ) := by
    rw [Int.floor_intCast_add]
    norm_num
  unfold roundHalfAway
  rw [if_pos (by positivity)]
  exact_mod_cast hfloor

def fractionOfBits (bits : UInt64) : ℚ :=
  let mantissa : ℕ := bits.toNat % 2 ^ 52
  let exponent : ℕ := bits.toNat / 2 ^ 52 % 2 ^ 11
  let magnitude : ℚ :=
    if exponent = 0 then mantissa * 2 ^ (-1074 : ℤ)
    else (2 ^ 52 + mantissa) * 2 ^ ((exponent : ℤ) - 1075)
  if bits.toNat / 2 ^ 63 = 1 then -magnitude else magnitude

def exactDoubles : DoubleArithmetic where
  Double := ℚ
  ofInteger n := n
  ofBits := fractionOfBits
  fromChars text := (byteOfText text).map fun n => (n.toNat : ℚ)
  isFinite _ := true
  lt x y := decide (x < y)
  le x y := decide (x ≤ y)
  add := (· + ·)
  sub := (· - ·)
  mul := (· * ·)
  div := (· / ·)
  round x := roundHalfAway x
  llround := roundHalfAway
  toByte x := UInt8.ofInt ⌊x⌋
  isFinite_byte _ := rfl
  lt_byte m n := by simp [UInt8.lt_iff_toNat_lt]
  le_byte m n := by simp [UInt8.le_iff_toNat_le]
  round_byte n := by simp [roundHalfAway_natCast]
  llround_byte n := by simp [roundHalfAway_natCast]
  toByte_byte n := by simp [ofInt_toNat]

/-- An explicit action on the command `device` is not the call that is made: the device is
toggled, so that a light that is on is switched off when it is asked to be on. -/
theorem deviceCommand_action_ignored :
    ¬ ∀ (env : Environment) (parse : String → Except ParseFailure Json) (text label : String),
      env.hasDispatcher → env.parseUuid label = none →
        messagePayload parse text =
          some (.object [("action", .string "on"), ("device_id", .string label)]) →
        handleMessage env parse (registered [.deviceCommand]) "device" text =
          [.commandByLabel label .on] := by
  intro hall
  have hcalls := hall ⟨exactDoubles, true, some .fahrenheit, some .celsius, fun _ => none⟩
    (fun _ => .ok (.object [("action", .string "on"), ("device_id", .string "Pool Light")]))
    "\x7b\"device_id\": \"Pool Light\", \"action\": \"on\"\x7d" "Pool Light" rfl rfl rfl
  revert hcalls
  decide

end AqualinkAutomate.Mqtt
