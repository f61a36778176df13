import Aqualink.General.Texts
import Aqualink.Scheduling.Schedule

/-!
# The programs of the controller

The controller keeps programs of its own: a piece of equipment is on from one time to
another on some days.  The keypad and the touch panel both show them, in rows that are
written differently but built from the same pieces: a time of the twelve-hour clock with its
meridiem, and a word for the days.
-/

namespace AqualinkAutomate.Scheduling

open General

/-- A program, as it is written to the controller and read from its screens. -/
structure ControllerSchedule where
  target : List Char := []
  /-- Bit 0 is Monday, bit 6 is Sunday. -/
  daysOfWeek : UInt8 := 0
  onHour : ℤ := 0
  onMinute : ℤ := 0
  offHour : ℤ := 0
  offMinute : ℤ := 0
  deriving DecidableEq

namespace DayMask

abbrev monday : UInt8 := 0x01
abbrev tuesday : UInt8 := 0x02
abbrev wednesday : UInt8 := 0x04
abbrev thursday : UInt8 := 0x08
abbrev friday : UInt8 := 0x10
abbrev saturday : UInt8 := 0x20
abbrev sunday : UInt8 := 0x40
abbrev weekdays : UInt8 := 0x1F
abbrev weekends : UInt8 := 0x60
abbrev allDays : UInt8 := 0x7F

def singleDays : List UInt8 := [monday, tuesday, wednesday, thursday, friday, saturday, sunday]

end DayMask

/-! ## What the controller can represent -/

inductive ControllerDaySelection where
  | allDays | weekdays | weekends | singleDay | notExpressible
  deriving DecidableEq

def classifyDaySelection (daysOfWeek : UInt8) : ControllerDaySelection :=
  let days := daysOfWeek &&& DayMask.allDays
  if days = 0 then .notExpressible
  else if days = DayMask.allDays then .allDays
  else if days = DayMask.weekdays then .weekdays
  else if days = DayMask.weekends then .weekends
  else if days ∈ DayMask.singleDays then .singleDay
  else .notExpressible

def timeInRange (hour minute : ℤ) : Bool :=
  decide (0 ≤ hour ∧ hour ≤ 23 ∧ 0 ≤ minute ∧ minute ≤ 59)

/-- `CheckControllerCandidate`: whether the program can be promoted. -/
def ControllerSchedule.promotable (candidate : ControllerSchedule) : Bool :=
  candidate.target ≠ [] &&
    timeInRange candidate.onHour candidate.onMinute &&
    timeInRange candidate.offHour candidate.offMinute &&
    classifyDaySelection candidate.daysOfWeek ≠ .notExpressible

/-! ## The pieces of a row -/

/-- The words of a text, which are set apart by blanks. -/
def tokenise (text : List Char) : List (List Char) :=
  (text.splitOnP (· = ' ')).filter fun token => !token.isEmpty

/-- A time of the twelve-hour clock in 24 hours.  The meridiem is read by a function of its
own, which says whether it is after noon. -/
def parse12HourTime (isPm : List Char → Option Bool) (hhmm meridiem : List Char) :
    Option (ℤ × ℤ) :=
  if ':' ∈ hhmm then
    let h := hhmm.takeWhile (· ≠ ':')
    let m := (hhmm.dropWhile (· ≠ ':')).drop 1
    match fromChars h, fromChars m, isPm meridiem with
    | some hour, some minute, some pm =>
      if hour < 1 ∨ 12 < hour ∨ minute < 0 ∨ 59 < minute then none
      else if pm then some (if hour = 12 then 12 else hour + 12, minute)
      else some (if hour = 12 then 0 else hour, minute)
    | _, _, _ => none
  else none

end AqualinkAutomate.Scheduling
