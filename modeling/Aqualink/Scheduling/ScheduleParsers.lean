import Aqualink.Scheduling.ControllerSchedule
import Aqualink.OneTouch.Screen

/-!
# Reading programs off a panel

The touch panel lists the programs in rows, and the keypad shows them on pages.
-/

/-!
## The rows of the schedule list

A row of the schedule list has four fields: the equipment, the time it goes on, the time it
goes off, and the days.  They are set apart by tabs, which arrive as question marks.
-/

namespace AqualinkAutomate.Iaq

open Navigation Scheduling

def isFieldSeparator (c : Char) : Bool := c = '\t' || c = '?'

def splitFields (text : Text) : List Text :=
  ((text.splitOnP isFieldSeparator).map trim).filter fun field => !field.isEmpty

def meridiem (token : Text) : Option Bool :=
  if token = "PM".toList ∨ token = "pm".toList then some true
  else if token = "AM".toList ∨ token = "am".toList then some false
  else none

def parseDayToken (token : Text) : Option UInt8 :=
  if token = "All".toList then some DayMask.allDays
  else if token = "Wkdays".toList then some DayMask.weekdays
  else if token = "Wkends".toList then some DayMask.weekends
  else if token = "Su".toList then some DayMask.sunday
  else if token = "M".toList then some DayMask.monday
  else if token = "Tu".toList then some DayMask.tuesday
  else if token = "W".toList then some DayMask.wednesday
  else if token = "Th".toList then some DayMask.thursday
  else if token = "F".toList then some DayMask.friday
  else if token = "Sa".toList then some DayMask.saturday
  else none

def parseTimeField (field : Text) : Option (ℤ × ℤ) :=
  match tokenise field with
  | [hhmm, mer] => parse12HourTime meridiem hhmm mer
  | _ => none

def parseScheduleRow (row : Text) : Option ControllerSchedule :=
  match splitFields row with
  | [target, on, off, days] =>
    match parseTimeField on, parseTimeField off, parseDayToken days with
    | some onTime, some offTime, some daysOfWeek =>
      some
        { target := target
          daysOfWeek := daysOfWeek
          onHour := onTime.1
          onMinute := onTime.2
          offHour := offTime.1
          offMinute := offTime.2 }
    | _, _, _ => none
  | _ => none

end AqualinkAutomate.Iaq

/-!
## The program page of a piece of equipment

The keypad shows the programs one at a time, on a page of the equipment: its name, the number
of the program, when it goes on and off, and the days.  A page is read as a program only if
all three of these rows can be read.
-/

namespace AqualinkAutomate.OneTouch

open General Navigation Scheduling

def iEquals (first second : Text) : Bool := first.map Char.toUpper == second.map Char.toUpper

def meridiem (token : Text) : Option Bool :=
  if iEquals token "PM".toList then some true
  else if iEquals token "AM".toList then some false
  else none

def parseTimeRow (row expectedPrefix : Text) : Option (ℤ × ℤ) :=
  match tokenise row with
  | [first, hhmm, mer] =>
    if iEquals first expectedPrefix then parse12HourTime meridiem hhmm mer else none
  | _ => none

def parseDaysRow (row : Text) : Option UInt8 :=
  let token := trim row
  if iEquals token "All Days".toList then some DayMask.allDays
  else if iEquals token "Weekdays".toList then some DayMask.weekdays
  else if iEquals token "Weekends".toList then some DayMask.weekends
  else if iEquals token "Mon".toList then some DayMask.monday
  else if iEquals token "Tue".toList then some DayMask.tuesday
  else if iEquals token "Wed".toList then some DayMask.wednesday
  else if iEquals token "Thu".toList then some DayMask.thursday
  else if iEquals token "Fri".toList then some DayMask.friday
  else if iEquals token "Sat".toList then some DayMask.saturday
  else if iEquals token "Sun".toList then some DayMask.sunday
  else none

/-- The number of the program, in the third line, is read over. -/
def parseProgramDetailLines : List Text → Option ControllerSchedule
  | line :: _ :: _ :: on :: off :: days :: _ =>
    let target := trim line
    if target = [] ∨ iEquals target "No Programs".toList = true then none
    else
      match parseTimeRow on "ON".toList, parseTimeRow off "OFF".toList, parseDaysRow days with
      | some onTime, some offTime, some daysOfWeek =>
        some
          { target := target
            daysOfWeek := daysOfWeek
            onHour := onTime.1
            onMinute := onTime.2
            offHour := offTime.1
            offMinute := offTime.2 }
      | _, _, _ => none
  | _ => none

def parseProgramDetailPage (page : ScreenDataPage) : Option ControllerSchedule :=
  parseProgramDetailLines (page.rows.map ScreenRow.text)

end AqualinkAutomate.OneTouch
