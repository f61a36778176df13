import Aqualink.Scheduling.ControllerSchedule

/-!
# What the schedule parsers accept

A request body or an entry of the schedules file is a document of any shape, and both
parsers are to accept it exactly if its times are `HH:MM` and its integers in range, with
those values.  `Exact` and `ControllerExact` say so without looking at the parsers.

The parsers fall short of it in two places.

* A time is parted at its first colon, and of each half they read the number that it begins
  with: `7:5`, `-0:00` and `07:30:59` all pass (`TimePasses`).
* An integer is cut to the width of the C++ type before it is checked, so one that is out of
  range can pass for another that is not.

Neither loses a document that should be accepted.  So the parsers are exact on a document
unless it passes every check although a time is not `HH:MM` or an integer was cut
(`validation_exact_iff`).
-/

namespace AqualinkAutomate.Scheduling

open General Option List

/-! ## The programs of the controller -/

structure NamedProgram extends ControllerSchedule where
  id : String := ""
  name : String := ""
  group : String := ""
  enabled : Bool := true
  deriving DecidableEq

/-- `ParseHhMm`, which the source writes down a second time. -/
def parseHhMm (text : String) : Option (Fin 24 × Fin 60) := parseTime text

def parseProgramTarget (json : Json) : Except String String :=
  match json.text? "target" with
  | none => .error "target is required and must be a non-empty string"
  | some target =>
    if target = "" then .error "target is required and must be a non-empty string"
    else .ok target

/-- The bit mask of the days, which is read as an `int` here. -/
def parseProgramDays (json : Json) : Except String UInt8 :=
  match json.integer? "days_of_week" with
  | none => .error "days_of_week is required and must be an integer bitmask"
  | some number =>
    let days := toInt32 number
    if days < 0 ∨ days > 0x7f then .error "days_of_week must be in the range 0..127"
    else .ok (UInt8.ofNat days.toNat)

def parseProgramTime (key : String) (json : Json) : Except String (Fin 24 × Fin 60) :=
  ((json.text? key).bind parseHhMm).elim
    (.error (key ++ " is required and must be a valid \"HH:MM\" time")) .ok

/-- Parse and validate a program.  It is always enabled. -/
def controllerScheduleFromJson (json : Json) : Except String NamedProgram :=
  match json with
  | .object _ => do
    let target ← parseProgramTarget json
    let daysOfWeek ← parseProgramDays json
    let (onHour, onMinute) ← parseProgramTime "on_local" json
    let (offHour, offMinute) ← parseProgramTime "off_local" json
    return {
      target := target.toList
      daysOfWeek
      onHour := onHour, onMinute := onMinute, offHour := offHour, offMinute := offMinute
      name := json.stringOr "name" ""
      group := json.stringOr "group" "" }
  | _ => .error "body must be a JSON object"

/-! ## Times -/

def IsTime (text : String) : Prop := ∃ hour minute, text = formatTime hour minute

/-- The checks on a time: both halves begin with a number that is in range. -/
def TimePasses (text : String) : Prop :=
  ∃ h m hv mv, text.toList = h ++ ':' :: m ∧ ':' ∉ h ∧ fromChars h = some hv ∧
    fromChars m = some mv ∧ (0 ≤ hv ∧ hv ≤ 23) ∧ 0 ≤ mv ∧ mv ≤ 59

variable {value : ℤ}

theorem ne_nil_of_fromChars {text : List Char} (h : fromChars text = some value) : text ≠ [] := by
  rintro rfl
  cases h

theorem cut_at_colon {text m : List Char} {c : Char} (h : text.dropWhile (· != ':') = c :: m) :
    text = text.takeWhile (· != ':') ++ ':' :: m := by
  have hne : text.dropWhile (· != ':') ≠ [] := by
    rw [h]
    exact cons_ne_nil c m
  have hcolon : c = ':' := by
    have hhead := head_dropWhile_not (· != ':') hne
    simpa [h] using hhead
  calc text = text.takeWhile (· != ':') ++ text.dropWhile (· != ':') :=
        List.takeWhile_append_dropWhile.symm
    _ = text.takeWhile (· != ':') ++ ':' :: m := by rw [h, hcolon]

theorem parseTime_isSome_iff {text : String} : (parseTime text).isSome ↔ TimePasses text := by
  constructor
  · intro h
    unfold parseTime at h
    dsimp only at h
    split at h
    · cases h
    · next c m hdrop =>
        by_cases hempty : text.toList.takeWhile (· != ':') = [] ∨ m = []
        · rw [if_pos hempty] at h
          cases h
        rw [if_neg hempty] at h
        split at h
        · next hv mv hhour hminute =>
            by_cases hrange : 0 ≤ hv ∧ hv ≤ 23 ∧ 0 ≤ mv ∧ mv ≤ 59
            · refine ⟨_, m, hv, mv, cut_at_colon hdrop, fun hmem => ?_, hhour, hminute,
                ⟨hrange.1, hrange.2.1⟩, hrange.2.2⟩
              simpa using mem_takeWhile_imp hmem
            · rw [dif_neg hrange] at h
              cases h
        · cases h
  · rintro ⟨h, m, hv, mv, htext, hcolon, hhour, hminute, hrange, hrange'⟩
    obtain ⟨htake, hdrop⟩ := takeWhile_dropWhile_colon (m := m) hcolon
    have hnonempty : ¬ (h = [] ∨ m = []) :=
      not_or.mpr ⟨ne_nil_of_fromChars hhour, ne_nil_of_fromChars hminute⟩
    simp only [parseTime, htext, htake, hdrop, if_neg hnonempty, hhour, hminute]
    rw [dif_pos ⟨hrange.1, hrange.2, hrange'⟩]
    rfl

/-! ## Actions -/

/-- The action is about a device or a mode, and not about a number. -/
def usesTarget (type : ActionType) : Bool := isButtonAction type || type == .circulationMode

/-- The values that an action with a number allows. -/
def InRange (type : ActionType) (value : ℤ) : Prop :=
  (if isSetpointAction type then 1 else 0) ≤ value ∧
    value ≤ if isSetpointAction type then 104 else 100

/-- The action is the one that the object describes, and it is allowed. -/
structure ExactAction (actionJson : Json) (action : Action) : Prop where
  type : actionTypeFromString (actionJson.stringOr "type" "") = some action.type
  valid : action.Valid
  target : usesTarget action.type → actionJson.stringOr "target" "" = action.target
  value : usesTarget action.type = false → actionJson.integer? "value" = some action.value

def valueRead (actionJson : Json) : Option ℤ :=
  match actionTypeFromString (actionJson.stringOr "type" "") with
  | none => none
  | some type => if usesTarget type then none else actionJson.integer? "value"

def ActionPasses (actionJson : Json) : Prop :=
  ∃ type, actionTypeFromString (actionJson.stringOr "type" "") = some type ∧
    if isButtonAction type then actionJson.stringOr "target" "" ≠ ""
    else if type = .circulationMode then
      (CirculationModes.enumCast (actionJson.stringOr "target" "")).isSome = true
    else ∃ number, actionJson.integer? "value" = some number ∧ InRange type (toInt32 number)

theorem checkValue_eq_ok {type : ActionType} (husesTarget : usesTarget type = false)
    (hrange : InRange type value) : checkValue type value = .ok { type, value } := by
  have hbutton : isButtonAction type = false := (Bool.or_eq_false_iff.mp husesTarget).1
  unfold InRange at hrange
  exact @checkValue_of_bounds { type, value } rfl hrange.2 hrange.1

variable {action : Action}

theorem inRange_of_checkValue {type : ActionType} (husesTarget : usesTarget type = false)
    (h : checkValue type value = .ok action) : InRange type value ∧ action = { type, value } := by
  obtain ⟨hbutton, hmode⟩ := Bool.or_eq_false_iff.mp husesTarget
  have haction : action = { type, value } := by
    unfold checkValue at h
    split_ifs at h
    exact (Except.ok.inj h).symm
  have hvalid := valid_of_checkValue hbutton (by simpa using hmode) h
  rw [haction] at hvalid
  unfold Action.Valid at hvalid
  rw [if_neg (by simp [hbutton]), if_neg (by simpa using hmode)] at hvalid
  exact ⟨⟨hvalid.2.2, hvalid.2.1⟩, haction⟩

section

variable {actionJson : Json}

section

variable {type : ActionType}
  (htype : actionTypeFromString (actionJson.stringOr "type" "") = some type)

include htype

theorem parseAction_of_usesTarget (husesTarget : usesTarget type) :
    parseAction actionJson = if isButtonAction type then parseButton type actionJson
      else parseCirculationMode actionJson := by
  unfold parseAction
  rw [htype]
  dsimp only
  by_cases hbutton : isButtonAction type
  · rw [if_pos hbutton, if_pos hbutton]
  · have hmode : type = .circulationMode := by simpa [usesTarget, hbutton] using husesTarget
    rw [if_neg hbutton, if_neg hbutton, if_pos hmode]

theorem parseAction_of_number (husesTarget : usesTarget type = false) :
    parseAction actionJson = (actionJson.integer? "value").elim
      (.error "action.value (integer) is required") fun number =>
        checkValue type (toInt32 number) := by
  obtain ⟨hbutton, hmode⟩ := Bool.or_eq_false_iff.mp husesTarget
  unfold parseAction
  rw [htype]
  dsimp only
  rw [if_neg (by simp [hbutton]), if_neg (by simpa using hmode)]
  cases actionJson.integer? "value" <;> rfl

end

theorem read_of_parseTarget {type : ActionType} (husesTarget : usesTarget type)
    (h : (if isButtonAction type then parseButton type actionJson
      else parseCirculationMode actionJson) = .ok action) :
    action.type = type ∧ actionJson.stringOr "target" "" = action.target := by
  by_cases hbutton : isButtonAction type
  · rw [if_pos hbutton, parseButton] at h
    split_ifs at h
    cases h
    exact ⟨rfl, rfl⟩
  · have hmode : type = .circulationMode := by simpa [usesTarget, hbutton] using husesTarget
    rw [if_neg hbutton, parseCirculationMode] at h
    split_ifs at h
    cases h
    exact ⟨hmode.symm, rfl⟩

theorem read_of_parseAction (h : parseAction actionJson = .ok action) :
    actionTypeFromString (actionJson.stringOr "type" "") = some action.type ∧
      (usesTarget action.type → actionJson.stringOr "target" "" = action.target) ∧
      (usesTarget action.type = false → ∃ number, actionJson.integer? "value" = some number ∧
        toInt32 number = action.value) := by
  cases htype : actionTypeFromString (actionJson.stringOr "type" "") with
  | none =>
    rw [parseAction, htype] at h
    cases h
  | some type =>
    by_cases husesTarget : usesTarget type
    · obtain ⟨rfl, htarget⟩ := read_of_parseTarget husesTarget
        ((parseAction_of_usesTarget htype husesTarget).symm.trans h)
      refine ⟨rfl, fun _ => htarget, fun hnumber => ?_⟩
      rw [husesTarget] at hnumber
      cases hnumber
    · have hnumber : usesTarget type = false := by simpa using husesTarget
      have hparsed := (parseAction_of_number htype hnumber).symm.trans h
      cases hvalue : actionJson.integer? "value" with
      | none =>
        rw [hvalue] at hparsed
        cases hparsed
      | some number =>
        rw [hvalue] at hparsed
        obtain ⟨-, rfl⟩ := inRange_of_checkValue hnumber hparsed
        refine ⟨rfl, fun htarget => absurd htarget husesTarget, fun _ => ⟨number, rfl, rfl⟩⟩

theorem parseAction_of_valid (hvalid : action.Valid)
    (htype : actionTypeFromString (actionJson.stringOr "type" "") = some action.type)
    (htarget : usesTarget action.type → actionJson.stringOr "target" "" = action.target)
    (hvalue : usesTarget action.type = false → ∃ number, actionJson.integer? "value" = some number ∧
      toInt32 number = action.value) :
    parseAction actionJson = .ok action := by
  unfold Action.Valid at hvalid
  by_cases husesTarget : usesTarget action.type
  · rw [parseAction_of_usesTarget htype husesTarget]
    by_cases hbutton : isButtonAction action.type
    · rw [if_pos hbutton] at hvalid ⊢
      rw [parseButton, htarget husesTarget, if_neg hvalid.1, ← hvalid.2]
    · have hmode : action.type = .circulationMode := by
        simpa [usesTarget, hbutton] using husesTarget
      rw [if_neg hbutton, if_pos hmode] at hvalid
      have hsome : ¬ (CirculationModes.enumCast action.target).isNone := by
        simpa [isSome_iff_ne_none] using hvalid.1
      rw [if_neg hbutton, parseCirculationMode, htarget husesTarget, if_neg hsome, ← hmode,
        ← hvalid.2]
  · have hnumber : usesTarget action.type = false := by simpa using husesTarget
    obtain ⟨hbutton, hmode⟩ := Bool.or_eq_false_iff.mp hnumber
    rw [if_neg (by simp [hbutton]), if_neg (by simpa using hmode)] at hvalid
    obtain ⟨number, hread, hcut⟩ := hvalue hnumber
    rw [parseAction_of_number htype hnumber, hread, elim_some, hcut]
    exact checkValue_of_bounds hvalid.1 hvalid.2.1 hvalid.2.2

/-- The actions that the parser returns. -/
theorem parseAction_eq_ok_iff :
    parseAction actionJson = .ok action ↔
      actionTypeFromString (actionJson.stringOr "type" "") = some action.type ∧ action.Valid ∧
        (usesTarget action.type → actionJson.stringOr "target" "" = action.target) ∧
        (usesTarget action.type = false → ∃ number, actionJson.integer? "value" = some number ∧
          toInt32 number = action.value) := by
  constructor
  · intro h
    obtain ⟨htype, htarget, hvalue⟩ := read_of_parseAction h
    exact ⟨htype, Action.valid_of_parseAction h, htarget, hvalue⟩
  · rintro ⟨htype, hvalid, htarget, hvalue⟩
    exact parseAction_of_valid hvalid htype htarget hvalue

theorem actionPasses_iff :
    ActionPasses actionJson ↔ ∃ action, parseAction actionJson = .ok action := by
  constructor
  · rintro ⟨type, htype, hpasses⟩
    by_cases hbutton : isButtonAction type
    · rw [if_pos hbutton] at hpasses
      rw [parseAction_of_usesTarget htype (by simp [usesTarget, hbutton]), if_pos hbutton,
        parseButton, if_neg hpasses]
      exact ⟨_, rfl⟩
    rw [if_neg hbutton] at hpasses
    by_cases hmode : type = .circulationMode
    · rw [if_pos hmode] at hpasses
      have hsome : ¬ (CirculationModes.enumCast (actionJson.stringOr "target" "")).isNone := by
        simpa [isSome_iff_ne_none] using hpasses
      rw [parseAction_of_usesTarget htype (by simp [usesTarget, hmode]), if_neg hbutton,
        parseCirculationMode, if_neg hsome]
      exact ⟨_, rfl⟩
    · rw [if_neg hmode] at hpasses
      obtain ⟨number, hread, hrange⟩ := hpasses
      have hnumber : usesTarget type = false := by simp [usesTarget, hbutton, hmode]
      rw [parseAction_of_number htype hnumber, hread, elim_some, checkValue_eq_ok hnumber hrange]
      exact ⟨_, rfl⟩
  · rintro ⟨action, h⟩
    obtain ⟨htype, hvalid, htarget, hvalue⟩ := parseAction_eq_ok_iff.mp h
    refine ⟨action.type, htype, ?_⟩
    unfold Action.Valid at hvalid
    by_cases hbutton : isButtonAction action.type
    · rw [if_pos hbutton] at hvalid ⊢
      rw [htarget (by simp [usesTarget, hbutton])]
      exact hvalid.1
    rw [if_neg hbutton] at hvalid ⊢
    by_cases hmode : action.type = .circulationMode
    · rw [if_pos hmode] at hvalid ⊢
      rw [htarget (by simp [usesTarget, hmode])]
      exact hvalid.1
    · rw [if_neg hmode] at hvalid ⊢
      obtain ⟨number, hread, hcut⟩ := hvalue (by simp [usesTarget, hbutton, hmode])
      exact ⟨number, hread, hcut ▸ ⟨hvalid.2.2, hvalid.2.1⟩⟩

end

/-! ## Documents -/

/-- The document is that schedule, and everything about it is in range. -/
structure Exact (json : Json) (schedule : Schedule) : Prop where
  uuid : schedule.uuid = json.stringOr "uuid" ""
  name : schedule.name = json.stringOr "name" ""
  enabled : schedule.enabled = json.boolOr "enabled" true
  days : json.integer? "days_of_week" = some (schedule.daysOfWeek.toNat : ℤ) ∧
    schedule.daysOfWeek ≤ 127
  time : json.text? "time_local" = some (formatTime schedule.hour schedule.minute)
  action : ∃ fields, json.member "action" = some (.object fields) ∧
    ExactAction (.object fields) schedule.action

structure ControllerExact (json : Json) (program : NamedProgram) : Prop where
  id : program.id = ""
  name : program.name = json.stringOr "name" ""
  group : program.group = json.stringOr "group" ""
  enabled : program.enabled
  target : json.text? "target" = some (String.ofList program.target) ∧ program.target ≠ []
  days : json.integer? "days_of_week" = some (program.daysOfWeek.toNat : ℤ) ∧
    program.daysOfWeek ≤ 127
  on : ∃ (hour : Fin 24) (minute : Fin 60), json.text? "on_local" = some (formatTime hour minute) ∧
    program.onHour = hour ∧ program.onMinute = minute
  off : ∃ (hour : Fin 24) (minute : Fin 60),
    json.text? "off_local" = some (formatTime hour minute) ∧ program.offHour = hour ∧
      program.offMinute = minute

def DaysPass (cut : ℤ → ℤ) (json : Json) : Prop :=
  ∃ number, json.integer? "days_of_week" = some number ∧ 0 ≤ cut number ∧ cut number ≤ 127

/-- The document passes the checks of `fromJson`. -/
structure Passes (json : Json) : Prop where
  days : DaysPass toInt64 json
  time : ∃ text, json.text? "time_local" = some text ∧ TimePasses text
  action : ∃ fields, json.member "action" = some (.object fields) ∧
    ActionPasses (.object fields)

/-- Its times are `HH:MM`, and no integer of it is cut. -/
structure Plain (json : Json) : Prop where
  days : ∀ number, json.integer? "days_of_week" = some number → toInt64 number = number
  time : ∀ text, json.text? "time_local" = some text → IsTime text
  value : ∀ fields number, json.member "action" = some (.object fields) →
    valueRead (.object fields) = some number → toInt32 number = number

/-- The document passes the checks of `controllerScheduleFromJson`. -/
structure ControllerPasses (json : Json) : Prop where
  target : ∃ target, json.text? "target" = some target ∧ target ≠ ""
  days : DaysPass toInt32 json
  on : ∃ text, json.text? "on_local" = some text ∧ TimePasses text
  off : ∃ text, json.text? "off_local" = some text ∧ TimePasses text

structure ControllerPlain (json : Json) : Prop where
  days : ∀ number, json.integer? "days_of_week" = some number → toInt32 number = number
  on : ∀ text, json.text? "on_local" = some text → IsTime text
  off : ∀ text, json.text? "off_local" = some text → IsTime text

/-! ### Their fields -/

theorem mask_iff {days : UInt8} :
    ¬ (value < 0 ∨ value > 127) ∧ UInt8.ofNat value.toNat = days ↔
      value = days.toNat ∧ days ≤ 127 := by
  rw [UInt8.le_iff_toNat_le]
  constructor
  · rintro ⟨hrange, rfl⟩
    rw [UInt8.toNat_ofNat']
    have : (127 : UInt8).toNat = 127 := rfl
    omega
  · rintro ⟨rfl, hle⟩
    have : (127 : UInt8).toNat = 127 := rfl
    refine ⟨by omega, ?_⟩
    rw [Int.toNat_natCast, UInt8.ofNat_toNat]

section

variable {json : Json} {days : UInt8}

theorem parseMask_eq_ok_iff (cut : ℤ → ℤ) (missing range : String) :
    (match json.integer? "days_of_week" with
      | none => .error missing
      | some number =>
        if cut number < 0 ∨ cut number > 127 then .error range
        else .ok (UInt8.ofNat (cut number).toNat)) = Except.ok days ↔
      ∃ number, json.integer? "days_of_week" = some number ∧ cut number = days.toNat ∧
        days ≤ 127 := by
  cases hread : json.integer? "days_of_week" with
  | none => simp
  | some number =>
    simp only [some_inj, exists_eq_left', ← mask_iff]
    split_ifs with hrange
    · simp [hrange]
    · simp [hrange]

theorem parseDaysOfWeek_eq_ok_iff :
    parseDaysOfWeek json = .ok days ↔ ∃ number, json.integer? "days_of_week" = some number ∧
      toInt64 number = days.toNat ∧ days ≤ 127 :=
  parseMask_eq_ok_iff toInt64 _ _

theorem parseProgramDays_eq_ok_iff :
    parseProgramDays json = .ok days ↔ ∃ number, json.integer? "days_of_week" = some number ∧
      toInt32 number = days.toNat ∧ days ≤ 127 :=
  parseMask_eq_ok_iff toInt32 _ _

end

variable {json : Json} {time : Fin 24 × Fin 60}

theorem parseTimeLocal_eq_ok_iff :
    parseTimeLocal json = .ok time ↔
      ∃ text, json.text? "time_local" = some text ∧ parseTime text = some time := by
  unfold parseTimeLocal Json.text?
  rcases json.member "time_local" with _ | value
  · simp
  cases value with
  | string text =>
    simp only [some_inj, exists_eq_left']
    cases parseTime text <;> simp
  | _ => simp

theorem parseProgramTime_eq_ok_iff {key : String} :
    parseProgramTime key json = .ok time ↔
      ∃ text, json.text? key = some text ∧ parseTime text = some time := by
  unfold parseProgramTime
  cases hread : json.text? key with
  | none => simp
  | some text =>
    simp only [bind_some, some_inj, exists_eq_left', parseHhMm]
    cases parseTime text <;> simp

theorem parseProgramTarget_eq_ok_iff {target : String} :
    parseProgramTarget json = .ok target ↔ json.text? "target" = some target ∧ target ≠ "" := by
  unfold parseProgramTarget
  cases json.text? "target" with
  | none => simp
  | some text =>
    dsimp only
    split_ifs with hempty
    · simp only [some_inj, false_iff, not_and, not_not]
      rintro rfl
      exact hempty
    · simp only [Except.ok.injEq, some_inj]
      constructor
      · rintro rfl
        exact ⟨rfl, hempty⟩
      · exact And.left

theorem parseActionField_eq_ok_iff :
    parseActionField json = .ok action ↔ ∃ fields, json.member "action" = some (.object fields) ∧
      parseAction (.object fields) = .ok action := by
  unfold parseActionField
  split
  next fields hmember =>
    rw [hmember]
    simp
  next hmember =>
    simp only [reduceCtorEq, false_iff, not_exists, not_and]
    exact fun fields hfields _ => absurd hfields (hmember fields)

/-! ### What the parsers return -/

theorem exists_fields_of_integer? {key : String} {number : ℤ}
    (h : json.integer? key = some number) : ∃ fields, json = .object fields := by
  cases json with
  | object fields => exact ⟨fields, rfl⟩
  | null | bool _ | integer _ | float _ | string _ | array _ => cases h

theorem fromJson_eq_ok_iff {schedule : Schedule} :
    fromJson json = .ok schedule ↔
      (schedule.uuid = json.stringOr "uuid" "" ∧ schedule.name = json.stringOr "name" "" ∧
        schedule.enabled = json.boolOr "enabled" true) ∧
      parseDaysOfWeek json = .ok schedule.daysOfWeek ∧
      parseTimeLocal json = .ok (schedule.hour, schedule.minute) ∧
      parseActionField json = .ok schedule.action := by
  constructor
  · intro h
    obtain ⟨hdays, htime, haction⟩ := fromJson_eq_ok h
    refine ⟨?_, hdays, htime, haction⟩
    obtain ⟨number, hnumber, -⟩ := parseDaysOfWeek_eq_ok_iff.mp hdays
    obtain ⟨fields, rfl⟩ := exists_fields_of_integer? hnumber
    rw [fromJson_of_parts hdays htime haction] at h
    rw [← Except.ok.inj h]
    exact ⟨rfl, rfl, rfl⟩
  · rintro ⟨⟨huuid, hname, henabled⟩, hdays, htime, haction⟩
    obtain ⟨number, hnumber, -⟩ := parseDaysOfWeek_eq_ok_iff.mp hdays
    obtain ⟨fields, rfl⟩ := exists_fields_of_integer? hnumber
    rw [fromJson_of_parts hdays htime haction, ← huuid, ← hname, ← henabled]

theorem controllerScheduleFromJson_of_parts {fields : List (String × Json)} {target : String}
    {daysOfWeek : UInt8} {on off : Fin 24 × Fin 60}
    (htarget : parseProgramTarget (.object fields) = .ok target)
    (hdays : parseProgramDays (.object fields) = .ok daysOfWeek)
    (hon : parseProgramTime "on_local" (.object fields) = .ok on)
    (hoff : parseProgramTime "off_local" (.object fields) = .ok off) :
    controllerScheduleFromJson (.object fields) = .ok {
      target := target.toList
      daysOfWeek
      onHour := on.1, onMinute := on.2, offHour := off.1, offMinute := off.2
      name := (Json.object fields).stringOr "name" ""
      group := (Json.object fields).stringOr "group" "" } := by
  simp only [controllerScheduleFromJson, htarget, hdays, hon, hoff]
  rfl

theorem controllerScheduleFromJson_eq_ok {program : NamedProgram}
    (h : controllerScheduleFromJson json = .ok program) :
    ∃ fields target daysOfWeek on off, json = .object fields ∧
      parseProgramTarget json = .ok target ∧ parseProgramDays json = .ok daysOfWeek ∧
      parseProgramTime "on_local" json = .ok on ∧ parseProgramTime "off_local" json = .ok off := by
  cases json with
  | object fields =>
    obtain ⟨target, htarget, h⟩ := bind_eq_ok_iff.mp h
    obtain ⟨days, hdays, h⟩ := bind_eq_ok_iff.mp h
    obtain ⟨on, hon, h⟩ := bind_eq_ok_iff.mp h
    obtain ⟨off, hoff, -⟩ := bind_eq_ok_iff.mp h
    exact ⟨fields, target, days, on, off, rfl, htarget, hdays, hon, hoff⟩
  | null | bool _ | integer _ | float _ | string _ | array _ => cases h

theorem parseTime_eq_some_iff_of_isTime {text : String} (h : IsTime text) :
    parseTime text = some time ↔ text = formatTime time.1 time.2 := by
  constructor
  · intro hparsed
    obtain ⟨hour, minute, rfl⟩ := h
    rw [parseTime_formatTime] at hparsed
    rw [← Option.some_inj.mp hparsed]
  · rintro rfl
    exact parseTime_formatTime time.1 time.2

theorem passes_iff : Passes json ↔ ∃ schedule, fromJson json = .ok schedule := by
  constructor
  · rintro ⟨⟨number, hnumber, hlow, hhigh⟩, ⟨text, htext, hpasses⟩, fields, hmember, haction⟩
    obtain ⟨all, rfl⟩ := exists_fields_of_integer? hnumber
    obtain ⟨time, htime⟩ := Option.isSome_iff_exists.mp (parseTime_isSome_iff.mpr hpasses)
    obtain ⟨action, haction⟩ := actionPasses_iff.mp haction
    have hmask := mask_iff.mp ⟨show ¬ (toInt64 number < 0 ∨ toInt64 number > 127) by omega, rfl⟩
    exact ⟨_, fromJson_of_parts (parseDaysOfWeek_eq_ok_iff.mpr ⟨number, hnumber, hmask⟩)
      (parseTimeLocal_eq_ok_iff.mpr ⟨text, htext, htime⟩)
      (parseActionField_eq_ok_iff.mpr ⟨fields, hmember, haction⟩)⟩
  · rintro ⟨schedule, h⟩
    obtain ⟨-, hdays, htime, haction⟩ := fromJson_eq_ok_iff.mp h
    obtain ⟨number, hnumber, hmask⟩ := parseDaysOfWeek_eq_ok_iff.mp hdays
    obtain ⟨text, htext, hparsed⟩ := parseTimeLocal_eq_ok_iff.mp htime
    obtain ⟨fields, hmember, haction⟩ := parseActionField_eq_ok_iff.mp haction
    have hrange := (mask_iff.mpr hmask).1
    exact ⟨⟨number, hnumber, by omega⟩,
      ⟨text, htext, parseTime_isSome_iff.mp (Option.isSome_iff_exists.mpr ⟨_, hparsed⟩)⟩,
      fields, hmember, actionPasses_iff.mpr ⟨_, haction⟩⟩

theorem controllerPasses_iff :
    ControllerPasses json ↔ ∃ program, controllerScheduleFromJson json = .ok program := by
  constructor
  · rintro ⟨⟨target, htarget⟩, ⟨number, hnumber, hlow, hhigh⟩, ⟨on, hon, honPasses⟩, off, hoff,
      hoffPasses⟩
    obtain ⟨all, rfl⟩ := exists_fields_of_integer? hnumber
    obtain ⟨onTime, honTime⟩ := Option.isSome_iff_exists.mp (parseTime_isSome_iff.mpr honPasses)
    obtain ⟨offTime, hoffTime⟩ :=
      Option.isSome_iff_exists.mp (parseTime_isSome_iff.mpr hoffPasses)
    have hmask := mask_iff.mp ⟨show ¬ (toInt32 number < 0 ∨ toInt32 number > 127) by omega, rfl⟩
    exact ⟨_, controllerScheduleFromJson_of_parts (parseProgramTarget_eq_ok_iff.mpr htarget)
      (parseProgramDays_eq_ok_iff.mpr ⟨number, hnumber, hmask⟩)
      (parseProgramTime_eq_ok_iff.mpr ⟨on, hon, honTime⟩)
      (parseProgramTime_eq_ok_iff.mpr ⟨off, hoff, hoffTime⟩)⟩
  · rintro ⟨program, h⟩
    obtain ⟨fields, target, days, on, off, rfl, htarget, hdays, hon, hoff⟩ :=
      controllerScheduleFromJson_eq_ok h
    obtain ⟨number, hnumber, hmask⟩ := parseProgramDays_eq_ok_iff.mp hdays
    obtain ⟨onText, honText, honParsed⟩ := parseProgramTime_eq_ok_iff.mp hon
    obtain ⟨offText, hoffText, hoffParsed⟩ := parseProgramTime_eq_ok_iff.mp hoff
    have hrange := (mask_iff.mpr hmask).1
    exact ⟨⟨target, parseProgramTarget_eq_ok_iff.mp htarget⟩, ⟨number, hnumber, by omega⟩,
      ⟨onText, honText, parseTime_isSome_iff.mp (Option.isSome_iff_exists.mpr ⟨_, honParsed⟩)⟩,
      offText, hoffText, parseTime_isSome_iff.mp (Option.isSome_iff_exists.mpr ⟨_, hoffParsed⟩)⟩

/-! ## Where the parsers are exact -/

theorem cut_mask {days : UInt8} (h : days ≤ 127) :
    toInt64 days.toNat = days.toNat ∧ toInt32 days.toNat = days.toNat := by
  have hle : days.toNat ≤ 127 := UInt8.le_iff_toNat_le.mp h
  exact ⟨toInt64_eq_self (by omega) (by omega), toInt32_eq_self (by omega) (by omega)⟩

theorem cut_value (hvalid : action.Valid) (hnumber : usesTarget action.type = false) :
    toInt32 action.value = action.value := by
  obtain ⟨hbutton, hmode⟩ := Bool.or_eq_false_iff.mp hnumber
  unfold Action.Valid at hvalid
  rw [if_neg (by simp [hbutton]), if_neg (by simpa using hmode)] at hvalid
  obtain ⟨-, hhigh, hlow⟩ := hvalid
  have hbounds : 0 ≤ action.value ∧ action.value ≤ 104 := by
    split at hhigh <;> split at hlow <;> omega
  exact toInt32_eq_self (by omega) (by omega)

section

variable {actionJson : Json}

theorem valueRead_of_type {type : ActionType}
    (htype : actionTypeFromString (actionJson.stringOr "type" "") = some type) :
    valueRead actionJson = if usesTarget type then none else actionJson.integer? "value" := by
  unfold valueRead
  rw [htype]

theorem ExactAction.parseAction (h : ExactAction actionJson action) :
    Scheduling.parseAction actionJson = .ok action :=
  parseAction_eq_ok_iff.mpr ⟨h.type, h.valid, h.target, fun hnumber =>
    ⟨action.value, h.value hnumber, cut_value h.valid hnumber⟩⟩

theorem ExactAction.uncut (h : ExactAction actionJson action) {number : ℤ}
    (hread : valueRead actionJson = some number) : toInt32 number = number := by
  rw [valueRead_of_type h.type] at hread
  by_cases husesTarget : usesTarget action.type
  · rw [if_pos husesTarget] at hread
    cases hread
  · have hnumber : usesTarget action.type = false := by simpa using husesTarget
    rw [if_neg husesTarget, h.value hnumber] at hread
    rw [← Option.some_inj.mp hread]
    exact cut_value h.valid hnumber

theorem exactAction_of_parseAction (h : parseAction actionJson = .ok action)
    (huncut : ∀ number, valueRead actionJson = some number → toInt32 number = number) :
    ExactAction actionJson action := by
  obtain ⟨htype, hvalid, htarget, hvalue⟩ := parseAction_eq_ok_iff.mp h
  refine ⟨htype, hvalid, htarget, fun hnumber => ?_⟩
  obtain ⟨number, hread, hcut⟩ := hvalue hnumber
  have hkept := huncut number (by rw [valueRead_of_type htype, if_neg (by simp [hnumber]), hread])
  rw [hread, ← hcut, hkept]

end

section

variable {schedule : Schedule}

theorem Exact.fromJson (h : Exact json schedule) : Scheduling.fromJson json = .ok schedule := by
  obtain ⟨fields, hmember, haction⟩ := h.action
  refine fromJson_eq_ok_iff.mpr ⟨⟨h.uuid, h.name, h.enabled⟩, ?_, ?_, ?_⟩
  · exact parseDaysOfWeek_eq_ok_iff.mpr ⟨_, h.days.1, (cut_mask h.days.2).1, h.days.2⟩
  · exact parseTimeLocal_eq_ok_iff.mpr ⟨_, h.time, parseTime_formatTime _ _⟩
  · exact parseActionField_eq_ok_iff.mpr ⟨fields, hmember, haction.parseAction⟩

theorem Exact.plain (h : Exact json schedule) : Plain json where
  days number hnumber := by
    rw [h.days.1] at hnumber
    rw [← Option.some_inj.mp hnumber]
    exact (cut_mask h.days.2).1
  time text htext := by
    rw [h.time] at htext
    exact ⟨_, _, (Option.some_inj.mp htext).symm⟩
  value fields number hmember hread := by
    obtain ⟨fields', hmember', haction⟩ := h.action
    rw [hmember'] at hmember
    rw [← Option.some_inj.mp hmember] at hread
    exact haction.uncut hread

theorem Plain.exact (hplain : Plain json) (h : fromJson json = .ok schedule) :
    Exact json schedule := by
  obtain ⟨⟨huuid, hname, henabled⟩, hdays, htime, haction⟩ := fromJson_eq_ok_iff.mp h
  obtain ⟨number, hnumber, hcut, hle⟩ := parseDaysOfWeek_eq_ok_iff.mp hdays
  obtain ⟨text, htext, hparsed⟩ := parseTimeLocal_eq_ok_iff.mp htime
  obtain ⟨fields, hmember, haction⟩ := parseActionField_eq_ok_iff.mp haction
  refine ⟨huuid, hname, henabled, ⟨?_, hle⟩, ?_, fields, hmember, ?_⟩
  · rw [hnumber, ← hcut, hplain.days number hnumber]
  · rw [htext, (parseTime_eq_some_iff_of_isTime (hplain.time text htext)).mp hparsed]
  · exact exactAction_of_parseAction haction fun number hread =>
      hplain.value fields number hmember hread

variable {program : NamedProgram}

theorem ControllerExact.controllerScheduleFromJson (h : ControllerExact json program) :
    Scheduling.controllerScheduleFromJson json = .ok program := by
  obtain ⟨fields, rfl⟩ := exists_fields_of_integer? h.days.1
  obtain ⟨onHour, onMinute, hon, honHour, honMinute⟩ := h.on
  obtain ⟨offHour, offMinute, hoff, hoffHour, hoffMinute⟩ := h.off
  have htarget : String.ofList program.target ≠ "" := by
    intro hempty
    exact h.target.2 (String.ofList_eq_empty_iff.mp hempty)
  rw [controllerScheduleFromJson_of_parts (parseProgramTarget_eq_ok_iff.mpr ⟨h.target.1, htarget⟩)
    (parseProgramDays_eq_ok_iff.mpr ⟨_, h.days.1, (cut_mask h.days.2).2, h.days.2⟩)
    (parseProgramTime_eq_ok_iff.mpr ⟨_, hon, parseTime_formatTime onHour onMinute⟩)
    (parseProgramTime_eq_ok_iff.mpr ⟨_, hoff, parseTime_formatTime offHour offMinute⟩)]
  rw [String.toList_ofList, ← h.name, ← h.group, ← honHour, ← honMinute, ← hoffHour, ← hoffMinute]
  obtain ⟨base, id, name, group, enabled⟩ := program
  obtain rfl : id = "" := h.id
  obtain rfl : enabled := h.enabled
  rfl

theorem ControllerExact.plain (h : ControllerExact json program) : ControllerPlain json where
  days number hnumber := by
    rw [h.days.1] at hnumber
    rw [← Option.some_inj.mp hnumber]
    exact (cut_mask h.days.2).2
  on text htext := by
    obtain ⟨hour, minute, hon, -⟩ := h.on
    rw [hon] at htext
    exact ⟨hour, minute, (Option.some_inj.mp htext).symm⟩
  off text htext := by
    obtain ⟨hour, minute, hoff, -⟩ := h.off
    rw [hoff] at htext
    exact ⟨hour, minute, (Option.some_inj.mp htext).symm⟩

theorem ControllerPlain.exact (hplain : ControllerPlain json)
    (h : controllerScheduleFromJson json = .ok program) : ControllerExact json program := by
  obtain ⟨fields, target, days, on, off, rfl, htarget, hdays, hon, hoff⟩ :=
    controllerScheduleFromJson_eq_ok h
  rw [controllerScheduleFromJson_of_parts htarget hdays hon hoff] at h
  obtain ⟨htext, hempty⟩ := parseProgramTarget_eq_ok_iff.mp htarget
  obtain ⟨number, hnumber, hcut, hle⟩ := parseProgramDays_eq_ok_iff.mp hdays
  obtain ⟨onText, honText, honParsed⟩ := parseProgramTime_eq_ok_iff.mp hon
  obtain ⟨offText, hoffText, hoffParsed⟩ := parseProgramTime_eq_ok_iff.mp hoff
  cases h
  refine ⟨rfl, rfl, rfl, rfl, ⟨?_, ?_⟩, ⟨?_, hle⟩, ⟨on.1, on.2, ?_, rfl, rfl⟩,
    off.1, off.2, ?_, rfl, rfl⟩
  · rw [htext, String.ofList_toList]
  · exact fun hnil => hempty (String.toList_eq_nil_iff.mp hnil)
  · rw [hnumber, ← hcut, hplain.days number hnumber]
  · rw [honText, (parseTime_eq_some_iff_of_isTime (hplain.on onText honText)).mp honParsed]
  · rw [hoffText, (parseTime_eq_some_iff_of_isTime (hplain.off offText hoffText)).mp hoffParsed]

end

/-- **Exact validation.**  Either parser treats a document as it should, that is, returns what
the document says if it is in range and nothing else, if and only if the document does not pass
the checks with a time that is not `HH:MM` or with an integer that is cut. -/
theorem validation_exact_iff (json : Json) :
    ((∀ schedule, fromJson json = .ok schedule ↔ Exact json schedule) ↔
      (Passes json → Plain json)) ∧
    ((∀ program, controllerScheduleFromJson json = .ok program ↔ ControllerExact json program) ↔
      (ControllerPasses json → ControllerPlain json)) := by
  refine ⟨⟨?_, ?_⟩, ?_, ?_⟩
  · intro h hpasses
    obtain ⟨schedule, hschedule⟩ := passes_iff.mp hpasses
    exact ((h schedule).mp hschedule).plain
  · intro h schedule
    exact ⟨fun hok => (h (passes_iff.mpr ⟨schedule, hok⟩)).exact hok, Exact.fromJson⟩
  · intro h hpasses
    obtain ⟨program, hprogram⟩ := controllerPasses_iff.mp hpasses
    exact ((h program).mp hprogram).plain
  · intro h program
    exact ⟨fun hok => (h (controllerPasses_iff.mpr ⟨program, hok⟩)).exact hok,
      ControllerExact.controllerScheduleFromJson⟩

/-- A time without its zeros, and with something behind it. -/
def looseTime : Json :=
  .object [("action", .object [("target", .string "Pump"), ("type", .string "button_on")]),
    ("days_of_week", .integer 1), ("time_local", .string "7:5pm")]

def wideValue : Json :=
  .object [("action", .object [("type", .string "chlorinator_percent"),
      ("value", .integer 4294967346)]),
    ("days_of_week", .integer 1), ("time_local", .string "07:05")]

/-- A mask of 2 ^ 32 + 5. -/
def wideDays : Json :=
  .object [("days_of_week", .integer 4294967301), ("off_local", .string "17:00"),
    ("on_local", .string "09:00"), ("target", .string "Pump")]

theorem loose_documents_accepted :
    (∃ schedule, fromJson looseTime = .ok schedule ∧ ¬ Exact looseTime schedule) ∧
      (∃ schedule, fromJson wideValue = .ok schedule ∧ schedule.action.value = 50 ∧
        ¬ Exact wideValue schedule) ∧
      ∃ program, controllerScheduleFromJson wideDays = .ok program ∧ program.daysOfWeek = 5 ∧
        ¬ ControllerExact wideDays program := by
  refine ⟨?_, ?_, ?_⟩
  · refine ⟨{
      daysOfWeek := 1, hour := 7, minute := 5
      action := { type := .buttonOn, target := "Pump" } }, by rfl, fun h => ?_⟩
    exact absurd h.time (by decide)
  · refine ⟨{
      daysOfWeek := 1, hour := 7, minute := 5
      action := { type := .chlorinatorPercent, value := 50 } }, by rfl, rfl, fun h => ?_⟩
    obtain ⟨fields, hmember, haction⟩ := h.action
    have hread : wideValue.member "action" = some (.object [("type", .string "chlorinator_percent"),
      ("value", .integer 4294967346)]) := rfl
    rw [hread] at hmember
    cases Option.some_inj.mp hmember
    exact absurd (haction.value rfl) (by decide)
  · refine ⟨{ target := ['P', 'u', 'm', 'p'], daysOfWeek := 5, onHour := 9, offHour := 17 },
      by rfl, rfl, fun h => ?_⟩
    exact absurd h.days.1 (by decide)

end AqualinkAutomate.Scheduling
