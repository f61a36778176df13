import Aqualink.General.Json

/-!
# Schedules and their JSON form

A schedule performs one action of the command dispatcher at a local wall-clock time, on
the days of a bit mask.  `toJson` and `fromJson` are the two directions of its JSON
form; they are written separately in the source, and `fromJson_toJson` says that they
agree on everything that `fromJson` returns.

The C++ keeps a target text and an integer value in every action, of which the type uses
one; what the parser leaves alone has its default.
-/

namespace AqualinkAutomate.Scheduling

open General

inductive ActionType where
  | buttonOn
  | buttonOff
  | buttonToggle
  | poolSetpoint
  | spaSetpoint
  | chlorinatorPercent
  | circulationMode
  deriving DecidableEq

structure Action where
  type : ActionType := .buttonToggle
  /-- A device label, or the name of a circulation mode. -/
  target : String := ""
  value : ℤ := 0
  deriving DecidableEq

structure Schedule where
  uuid : String := ""
  name : String := ""
  enabled : Bool := true
  /-- Bit 0 is Monday, bit 6 is Sunday. -/
  daysOfWeek : UInt8 := 0
  hour : Fin 24 := 0
  minute : Fin 60 := 0
  action : Action := {}
  deriving DecidableEq

inductive CirculationModes where
  | pool
  | spa
  | spaFill
  | spaDrain
  | spillover
  deriving DecidableEq

namespace CirculationModes

def enumName : CirculationModes → String
  | pool => "Pool"
  | spa => "Spa"
  | spaFill => "SpaFill"
  | spaDrain => "SpaDrain"
  | spillover => "Spillover"

/-- `enum_cast`, which compares names with their case. -/
def enumCast (text : String) : Option CirculationModes :=
  [pool, spa, spaFill, spaDrain, spillover].find? fun mode => mode.enumName == text

end CirculationModes

/-! ## Action names -/

def actionNames : List (ActionType × String) :=
  [(.buttonOn, "button_on"), (.buttonOff, "button_off"), (.buttonToggle, "button_toggle"),
    (.poolSetpoint, "pool_setpoint"), (.spaSetpoint, "spa_setpoint"),
    (.chlorinatorPercent, "chlorinator_percent"), (.circulationMode, "circulation_mode")]

def actionTypeToString (type : ActionType) : String :=
  ((actionNames.find? fun pair => pair.1 == type).map Prod.snd).getD "button_toggle"

def actionTypeFromString (text : String) : Option ActionType :=
  (actionNames.find? fun pair => pair.2 == text).map Prod.fst

def isButtonAction (type : ActionType) : Bool :=
  type == .buttonOn || type == .buttonOff || type == .buttonToggle

def isSetpointAction (type : ActionType) : Bool :=
  type == .poolSetpoint || type == .spaSetpoint

@[simp] theorem actionTypeFromString_actionTypeToString (type : ActionType) :
    actionTypeFromString (actionTypeToString type) = some type := by
  cases type <;> decide

/-! ## Times of day -/

/-- `std::from_chars` for an `int`: an optional minus sign and the longest run of digits;
what follows is left alone.  Nothing when there is no digit or the value does not fit. -/
def fromChars (text : List Char) : Option ℤ :=
  let negative := text.head? == some '-'
  let digits := (if negative then text.tail else text).takeWhile Char.isDigit
  let magnitude : ℤ := digits.foldl (fun soFar digit => 10 * soFar + (digit.toNat - '0'.toNat)) 0
  let value := if negative then -magnitude else magnitude
  if digits ≠ [] ∧ -2 ^ 31 ≤ value ∧ value < 2 ^ 31 then some value else none

def parseTime (text : String) : Option (Fin 24 × Fin 60) :=
  let h := text.toList.takeWhile (· != ':')
  match text.toList.dropWhile (· != ':') with
  | [] => none
  | _ :: m =>
    -- seconds behind a second colon are part of `m`, and are read over
    if h = [] ∨ m = [] then
      none
    else
      match fromChars h, fromChars m with
      | some hv, some mv =>
        if hrange : 0 ≤ hv ∧ hv ≤ 23 ∧ 0 ≤ mv ∧ mv ≤ 59 then
          some (⟨hv.toNat, by omega⟩, ⟨mv.toNat, by omega⟩)
        else
          none
      | _, _ => none

/-- `{:02d}` of a number below 100. -/
def twoDigits (n : ℕ) : List Char := [Nat.digitChar (n / 10), Nat.digitChar (n % 10)]

def formatTime (hour : Fin 24) (minute : Fin 60) : String :=
  String.ofList (twoDigits hour ++ ':' :: twoDigits minute)

theorem fromChars_twoDigits : ∀ n : Fin 60, fromChars (twoDigits n) = some (n : ℤ) := by
  decide

theorem not_mem_twoDigits : ∀ n : Fin 60, ':' ∉ twoDigits n := by decide

theorem takeWhile_dropWhile_colon {h m : List Char} (hcolon : ':' ∉ h) :
    (h ++ ':' :: m).takeWhile (· != ':') = h ∧ (h ++ ':' :: m).dropWhile (· != ':') = ':' :: m := by
  have hplain : ∀ c ∈ h, (c != ':') := by
    intro c hc
    have hne : c ≠ ':' := fun heq => hcolon (heq ▸ hc)
    simpa using hne
  constructor
  · rw [List.takeWhile_append_of_pos hplain]
    simp
  · rw [List.dropWhile_append_of_pos hplain]
    simp

@[simp] theorem parseTime_formatTime (hour : Fin 24) (minute : Fin 60) :
    parseTime (formatTime hour minute) = some (hour, minute) := by
  have hhour := fromChars_twoDigits ⟨hour, by omega⟩
  have hminute := fromChars_twoDigits minute
  obtain ⟨htake, hdrop⟩ := takeWhile_dropWhile_colon (m := twoDigits minute)
    (not_mem_twoDigits ⟨hour, by omega⟩)
  simp only [parseTime, formatTime, String.toList_ofList, htake, hdrop]
  simp only [hhour, hminute]
  have hrange : (0 : ℤ) ≤ hour ∧ (hour : ℤ) ≤ 23 ∧ (0 : ℤ) ≤ minute ∧ (minute : ℤ) ≤ 59 := by
    omega
  simp [twoDigits, hrange]

/-! ## The two directions -/

/-- The branch of `parseAction` for the button actions. -/
def parseButton (type : ActionType) (actionJson : Json) : Except String Action :=
  if actionJson.stringOr "target" "" = "" then
    .error "action.target (device label) is required for button actions"
  else
    .ok { type, target := actionJson.stringOr "target" "" }

def parseCirculationMode (actionJson : Json) : Except String Action :=
  if (CirculationModes.enumCast (actionJson.stringOr "target" "")).isNone then
    .error "action.target is not a valid circulation mode"
  else
    .ok { type := .circulationMode, target := actionJson.stringOr "target" "" }

def checkValue (type : ActionType) (value : ℤ) : Except String Action :=
  if isSetpointAction type ∧ (value < 1 ∨ value > 104) then
    .error "setpoint value must be 1..104"
  else if type = .chlorinatorPercent ∧ (value < 0 ∨ value > 100) then
    .error "chlorinator_percent value must be 0..100"
  else
    .ok { type, value }

def parseAction (actionJson : Json) : Except String Action :=
  match actionTypeFromString (actionJson.stringOr "type" "") with
  | none => .error "action.type is unknown"
  | some type =>
    if isButtonAction type then
      parseButton type actionJson
    else if type = .circulationMode then
      parseCirculationMode actionJson
    else
      match actionJson.integer? "value" with
      | none => .error "action.value (integer) is required"
      | some number =>
        -- a number too wide for an `int` wraps before it is checked
        checkValue type (toInt32 number)

/-- The "action" object.  Its keys come in their order, as in every object here. -/
def Action.toJson (action : Action) : Json :=
  if isButtonAction action.type || action.type == .circulationMode then
    .object [("target", .string action.target), ("type", .string (actionTypeToString action.type))]
  else
    .object [("type", .string (actionTypeToString action.type)), ("value", .integer action.value)]

def toJson (schedule : Schedule) : Json :=
  .object [("action", schedule.action.toJson), ("days_of_week", .integer schedule.daysOfWeek.toNat),
    ("enabled", .bool schedule.enabled),
    ("name", .string schedule.name),
    ("time_local", .string (formatTime schedule.hour schedule.minute)),
    ("uuid", .string schedule.uuid)]

/-- The bit mask of the days, with what the two checks on it complain about. -/
def parseDaysOfWeek (json : Json) : Except String UInt8 :=
  match json.integer? "days_of_week" with
  | none => .error "days_of_week (integer bitmask) is required"
  | some number =>
    let dow := toInt64 number
    if dow < 0 ∨ dow > 127 then
      .error "days_of_week must be a 0..127 bitmask"
    else
      .ok (UInt8.ofNat dow.toNat)

def parseTimeLocal (json : Json) : Except String (Fin 24 × Fin 60) :=
  match json.member "time_local" with
  | some (.string text) =>
    (parseTime text).elim (.error "time_local must be a valid \"HH:MM\" string") .ok
  | _ => .error "time_local must be a valid \"HH:MM\" string"

def parseActionField (json : Json) : Except String Action :=
  match json.member "action" with
  | some (.object fields) => parseAction (.object fields)
  | _ => .error "action object is required"

/-- Parse and validate a schedule.  The fields are checked in the order of the source, so
that the error is the one of the first bad field. -/
def fromJson (json : Json) : Except String Schedule :=
  match json with
  | .object _ => do
    let daysOfWeek ← parseDaysOfWeek json
    let (hour, minute) ← parseTimeLocal json
    let action ← parseActionField json
    return {
      uuid := json.stringOr "uuid" ""
      name := json.stringOr "name" ""
      enabled := json.boolOr "enabled" true
      daysOfWeek, hour, minute, action }
  | _ => .error "schedule must be a JSON object"

/-! ## What the parser returns -/

/-- The action is one that the parser can return: the part that its type uses is in range,
and the other has its default. -/
def Action.Valid (action : Action) : Prop :=
  if isButtonAction action.type then
    action.target ≠ "" ∧ action.value = 0
  else if action.type = .circulationMode then
    (CirculationModes.enumCast action.target).isSome ∧ action.value = 0
  else
    action.target = "" ∧ action.value ≤ (if isSetpointAction action.type then 104 else 100) ∧
      (if isSetpointAction action.type then 1 else 0) ≤ action.value

structure Schedule.Valid (schedule : Schedule) : Prop where
  days : schedule.daysOfWeek ≤ 127
  action : schedule.action.Valid

variable {type : ActionType}

theorem type_of_not_isButtonAction (hbutton : isButtonAction type = false)
    (hmode : type ≠ .circulationMode) : isSetpointAction type ∨ type = .chlorinatorPercent := by
  cases type <;> simp_all [isButtonAction, isSetpointAction]

variable {action : Action} {actionJson json : Json}

theorem valid_of_parseButton (hbutton : isButtonAction type)
    (h : parseButton type actionJson = .ok action) : action.Valid := by
  rw [parseButton] at h
  split at h
  · simp at h
  · next htarget =>
      cases h
      simpa [Action.Valid, hbutton] using htarget

theorem valid_of_parseCirculationMode (h : parseCirculationMode actionJson = .ok action) :
    action.Valid := by
  rw [parseCirculationMode] at h
  split at h
  · simp at h
  · next htarget =>
      cases h
      simpa [Action.Valid, isButtonAction, Option.isSome_iff_ne_none] using htarget

theorem valid_of_checkValue {value : ℤ} (hbutton : isButtonAction type = false)
    (hmode : type ≠ .circulationMode) (h : checkValue type value = .ok action) : action.Valid := by
  rw [checkValue] at h
  split at h
  · simp at h
  · next hsetpoint =>
      split at h
      · simp at h
      · next hchlorinator =>
          cases h
          simp only [Action.Valid, hbutton, hmode, if_false, true_and]
          rcases type_of_not_isButtonAction hbutton hmode with hkind | rfl
          · rw [not_and] at hsetpoint
            have hrange := hsetpoint hkind
            simp [hkind]
            omega
          · rw [not_and] at hchlorinator
            have hrange := hchlorinator rfl
            simp [isSetpointAction]
            omega

theorem Action.valid_of_parseAction (h : parseAction actionJson = .ok action) : action.Valid := by
  rw [parseAction] at h
  split at h
  · simp at h
  · next type _ =>
      split at h
      next hbutton => exact valid_of_parseButton hbutton h
      next hbutton =>
        split at h
        · exact valid_of_parseCirculationMode h
        · next hmode =>
            split at h
            · simp at h
            · exact valid_of_checkValue (by simpa using hbutton) hmode h

theorem valid_of_parseDaysOfWeek {days : UInt8} (h : parseDaysOfWeek json = .ok days) :
    days ≤ 127 := by
  simp only [parseDaysOfWeek] at h
  split at h
  · simp at h
  · next number _ =>
      split at h
      · simp at h
      · next hrange =>
          cases h
          rw [UInt8.le_iff_toNat_le, UInt8.toNat_ofNat]
          have hmod := Nat.mod_le (toInt64 number).toNat (2 ^ 8)
          simp
          omega

theorem valid_of_parseActionField (h : parseActionField json = .ok action) : action.Valid := by
  rw [parseActionField] at h
  split at h
  · exact Action.valid_of_parseAction h
  · simp at h

variable {schedule : Schedule}

theorem fromJson_eq_ok (h : fromJson json = .ok schedule) :
    parseDaysOfWeek json = .ok schedule.daysOfWeek ∧
      parseTimeLocal json = .ok (schedule.hour, schedule.minute) ∧
        parseActionField json = .ok schedule.action := by
  cases json with
  | object fields =>
    obtain ⟨days, hdays, h⟩ := bind_eq_ok_iff.mp h
    obtain ⟨⟨hour, minute⟩, htime, h⟩ := bind_eq_ok_iff.mp h
    obtain ⟨action, haction, h⟩ := bind_eq_ok_iff.mp h
    cases h
    exact ⟨hdays, htime, haction⟩
  | _ => simp [fromJson] at h

theorem fromJson_of_parts {fields : List (String × Json)} {daysOfWeek : UInt8} {hour : Fin 24}
    {minute : Fin 60} (hdays : parseDaysOfWeek (.object fields) = .ok daysOfWeek)
    (htime : parseTimeLocal (.object fields) = .ok (hour, minute))
    (haction : parseActionField (.object fields) = .ok action) :
    fromJson (.object fields) = .ok {
      uuid := (Json.object fields).stringOr "uuid" ""
      name := (Json.object fields).stringOr "name" ""
      enabled := (Json.object fields).boolOr "enabled" true
      daysOfWeek, hour, minute, action } := by
  simp only [fromJson, hdays, htime, haction]
  rfl

theorem valid_of_fromJson (h : fromJson json = .ok schedule) : schedule.Valid := by
  obtain ⟨hdays, -, haction⟩ := fromJson_eq_ok h
  exact ⟨valid_of_parseDaysOfWeek hdays, valid_of_parseActionField haction⟩

/-! ## The round trip -/

@[simp] theorem type_toJson (action : Action) :
    action.toJson.stringOr "type" "" = actionTypeToString action.type := by
  apply Json.stringOr_of_member
  rw [Action.toJson]
  split <;> simp

theorem target_toJson (action : Action)
    (h : (isButtonAction action.type || action.type == .circulationMode)) :
    action.toJson.stringOr "target" "" = action.target := by
  apply Json.stringOr_of_member
  rw [Action.toJson, if_pos h]
  simp

theorem value_toJson (action : Action)
    (h : (isButtonAction action.type || action.type == .circulationMode) = false) :
    action.toJson.integer? "value" = some action.value := by
  apply Json.integer?_of_member
  rw [Action.toJson, if_neg (by simp [h])]
  simp

theorem checkValue_of_bounds (htarget : action.target = "")
    (hhigh : action.value ≤ if isSetpointAction action.type then 104 else 100)
    (hlow : (if isSetpointAction action.type then 1 else 0) ≤ action.value) :
    checkValue action.type action.value = .ok action := by
  have hsetpoint : ¬ (isSetpointAction action.type ∧ (action.value < 1 ∨ action.value > 104)) := by
    rintro ⟨hkind, hrange⟩
    simp only [hkind, if_true] at hhigh hlow
    omega
  have hchlorinator :
      ¬ (action.type = .chlorinatorPercent ∧ (action.value < 0 ∨ action.value > 100)) := by
    rintro ⟨hkind, hrange⟩
    simp [hkind, isSetpointAction] at hhigh hlow
    omega
  rw [checkValue, if_neg hsetpoint, if_neg hchlorinator, ← htarget]

theorem parseAction_toJson (h : action.Valid) : parseAction action.toJson = .ok action := by
  rw [parseAction, type_toJson, actionTypeFromString_actionTypeToString]
  simp only [Action.Valid] at h
  split at h
  next hbutton =>
    obtain ⟨htarget, hvalue⟩ := h
    have htext := target_toJson action (by simp [hbutton])
    simp only [hbutton, if_true, parseButton, htext, htarget, if_false]
    rw [← hvalue]
  next hbutton =>
    split at h
    next hmode =>
      obtain ⟨htarget, hvalue⟩ := h
      have htext := target_toJson action (by simp [hmode])
      simp only [hbutton, if_pos hmode, parseCirculationMode, htext]
      rw [if_neg (by simp), if_neg (by simpa [Option.isSome_iff_ne_none] using htarget),
        ← hmode, ← hvalue]
    next hmode =>
      obtain ⟨htarget, hhigh, hlow⟩ := h
      have hnumber := value_toJson action (by simp [hbutton, hmode])
      have hbounds : 0 ≤ action.value ∧ action.value ≤ 104 := by
        split at hhigh <;> split at hlow <;> omega
      have hwidth : toInt32 action.value = action.value :=
        toInt32_eq_self (by omega) (by omega)
      simp only [hbutton, hmode, if_false, hnumber, hwidth]
      exact checkValue_of_bounds htarget hhigh hlow

theorem exists_toJson_eq_object (action : Action) : ∃ fields, action.toJson = .object fields := by
  rw [Action.toJson]
  split
  · exact ⟨_, rfl⟩
  · exact ⟨_, rfl⟩

theorem fromJson_toJson (h : schedule.Valid) : fromJson (toJson schedule) = .ok schedule := by
  have hdays : parseDaysOfWeek (toJson schedule) = .ok schedule.daysOfWeek := by
    have hrange : schedule.daysOfWeek.toNat ≤ 127 := by
      simpa using UInt8.le_iff_toNat_le.mp h.days
    have hwidth : toInt64 schedule.daysOfWeek.toNat = schedule.daysOfWeek.toNat :=
      toInt64_eq_self (by omega) (by omega)
    have hnumber : (toJson schedule).integer? "days_of_week" =
        some (schedule.daysOfWeek.toNat : ℤ) := by
      apply Json.integer?_of_member
      simp [toJson]
    simp only [parseDaysOfWeek, hnumber, hwidth]
    rw [if_neg (by omega)]
    simp
  have htime : parseTimeLocal (toJson schedule) = .ok (schedule.hour, schedule.minute) := by
    simp [parseTimeLocal, toJson]
  have haction : parseActionField (toJson schedule) = .ok schedule.action := by
    have hparsed := parseAction_toJson h.action
    obtain ⟨fields, hfields⟩ := exists_toJson_eq_object schedule.action
    simp only [parseActionField, toJson, Json.member_object_cons_self, hfields]
    rw [← hfields, hparsed]
  have huuid : (toJson schedule).stringOr "uuid" "" = schedule.uuid :=
    Json.stringOr_of_member (by simp [toJson])
  have hname : (toJson schedule).stringOr "name" "" = schedule.name :=
    Json.stringOr_of_member (by simp [toJson])
  have henabled : (toJson schedule).boolOr "enabled" true = schedule.enabled :=
    Json.boolOr_of_member (by simp [toJson])
  calc fromJson (toJson schedule)
      = .ok {
          uuid := (toJson schedule).stringOr "uuid" ""
          name := (toJson schedule).stringOr "name" ""
          enabled := (toJson schedule).boolOr "enabled" true
          daysOfWeek := schedule.daysOfWeek
          hour := schedule.hour
          minute := schedule.minute
          action := schedule.action } := fromJson_of_parts hdays htime haction
    _ = .ok schedule := by rw [huuid, hname, henabled]

end AqualinkAutomate.Scheduling
