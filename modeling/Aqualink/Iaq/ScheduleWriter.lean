import Aqualink.Iaq.PageModel
import Aqualink.Scheduling.ScheduleParsers

/-!
# Writing the programs of the controller

The schedule writer walks to the schedule list and adds a program, deletes one, or edits one.
To add one it picks the equipment; to delete or edit one it presses the row that shows it.
Times are entered on a page of their own, where the meridiem has to fit first, and days by one
key on the list.  At the end the writer looks at the list: a program that was written is to be
there, one that was deleted is not.
-/

namespace AqualinkAutomate.Iaq

open General Navigation Equipment Scheduling

namespace ScheduleWriter

abbrev pageSchedule : UInt8 := 0x28
abbrev pageDevicePicker : UInt8 := 0x38
abbrev pageTimePicker : UInt8 := 0x29
abbrev timePickerAmPmLine : ℕ := 2

abbrev cmdMenuToSchedule : UInt8 := 0x11
abbrev cmdAddProgram : UInt8 := 0x11
abbrev pickRowBase : UInt8 := 0x13
abbrev cmdPickerScroll : UInt8 := 0x12
abbrev cmdPickerOk : UInt8 := 0x13
abbrev cmdOpenOnField : UInt8 := 0x21
abbrev cmdOpenOffField : UInt8 := 0x22
abbrev cmdAmPmToggle : UInt8 := 0x11
abbrev rowBase : UInt8 := 0x22
abbrev cmdEditProgram : UInt8 := 0x12
abbrev cmdDeleteProgram : UInt8 := 0x13
abbrev cmdConfirmOk : UInt8 := 0x01
abbrev cmdDayAll : UInt8 := 0x17
abbrev cmdDayMon : UInt8 := 0x18
abbrev cmdDayWkdays : UInt8 := 0x1F
abbrev cmdDayWkends : UInt8 := 0x20

abbrev settlePolls : ℕ := 4
abbrev maxScrolls : ℕ := 12
abbrev pollLimit : ℕ := 400

/-- The button for the days; a mask that no button stands for gets that of all days. -/
def dayCommandFor (daysOfWeek : UInt8) : UInt8 :=
  let days := daysOfWeek &&& DayMask.allDays
  if days = DayMask.allDays then cmdDayAll
  else if days = DayMask.weekdays then cmdDayWkdays
  else if days = DayMask.weekends then cmdDayWkends
  else if days ∈ DayMask.singleDays then cmdDayMon + UInt8.ofNat (DayMask.singleDays.idxOf days)
  else cmdDayAll

def twoDigits (n : ℤ) : Text :=
  if 0 ≤ n ∧ n < 10 then '0' :: decimal n.toNat
  else if 0 ≤ n then decimal n.toNat
  else '-' :: decimal n.natAbs

/-- A time as the picker takes it: `1`, the hour of twelve, `:` and the minute. -/
def scheduleTimeValue (hour24 minute : ℤ) : Text :=
  let hour12 := if hour24.tmod 12 = 0 then 12 else hour24.tmod 12
  '1' :: twoDigits hour12 ++ ':' :: twoDigits minute

inductive Op where
  | create | delete | edit
  deriving DecidableEq

inductive Phase where
  | navigateToList | addProgram | selectDevice | setOnTime | setOffTime | setDay | verify
  | selectRow | pressDelete | confirmDelete | verifyGone | pressEdit | done | failed
  deriving DecidableEq

/-- `program` is to be written, `existing` to be found. -/
structure Goal where
  op : Op
  program : ControllerSchedule := {}
  existing : ControllerSchedule := {}
  deriving DecidableEq

end ScheduleWriter

/-- The writer of controller programs. -/
structure ScheduleWriter where
  pending : Option ScheduleWriter.Goal := none
  phase : ScheduleWriter.Phase := .navigateToList
  pollCount : ℕ := 0
  settleCount : ℕ := 0
  scrollCount : ℕ := 0
  programAdded : Bool := false
  deviceClicked : Bool := false
  timeFieldOpened : Bool := false
  deriving DecidableEq

namespace ScheduleWriter

/-! ## Requests -/

def arm (goal : Goal) : ScheduleWriter := { pending := some goal }

def queueCreate (writer : ScheduleWriter) (program : ControllerSchedule)
    (emulated channelBusy : Bool) : ScheduleWriter × ActuationResult :=
  if emulated = false then (writer, .notSupported)
  else if writer.pending.isSome ∨ channelBusy = true then (writer, .busy)
  else if program.promotable = false then (writer, .invalidValue)
  else (arm { op := .create, program := program }, .accepted)

def queueDelete (writer : ScheduleWriter) (program : ControllerSchedule)
    (emulated channelBusy : Bool) : ScheduleWriter × ActuationResult :=
  if emulated = false then (writer, .notSupported)
  else if writer.pending.isSome ∨ channelBusy = true then (writer, .busy)
  else if program.target = [] then (writer, .invalidValue)
  else (arm { op := .delete, program := program, existing := program }, .accepted)

def queueEdit (writer : ScheduleWriter) (existing desired : ControllerSchedule)
    (emulated channelBusy : Bool) : ScheduleWriter × ActuationResult :=
  if emulated = false then (writer, .notSupported)
  else if writer.pending.isSome ∨ channelBusy = true then (writer, .busy)
  else if existing.target = [] then (writer, .invalidValue)
  else if desired.promotable = false then (writer, .invalidValue)
  else (arm { op := .edit, program := desired, existing := existing }, .accepted)

/-! ## Steps -/

/-- The page is given some polls to be drawn. -/
def settle (writer : ScheduleWriter) : ScheduleWriter :=
  { writer with settleCount := settlePolls }

def issueAndSettle (writer : ScheduleWriter) (command : UInt8) : WriterStep ScheduleWriter where
  writer := writer.settle
  calls := .issue command

/-- The goal is over, done or given up. -/
def finishGoal (writer : ScheduleWriter) (ok : Bool) : WriterStep ScheduleWriter where
  writer := { writer with
    pending := none
    phase := .navigateToList
    programAdded := false
    deviceClicked := false
    timeFieldOpened := false
    scrollCount := 0
    settleCount := 0 }
  calls := .issue cmdDwell
  finished := some ok

/-- The time is submitted once the half of the day on the page is the right one. -/
def enterTime (writer : ScheduleWriter) (statusPage : ScreenDataPage) (hour minute : ℤ)
    (next : Phase) : WriterStep ScheduleWriter :=
  let shown := trimWhitespace ((statusPage.rows[timePickerAmPmLine]?).map ScreenRow.text |>.getD [])
  let isAm := equalsCaseInsensitive shown "AM".toList
  let isPm := equalsCaseInsensitive shown "PM".toList
  if isAm = false ∧ isPm = false then .dwell writer
  else if isPm ≠ decide (12 ≤ hour) then writer.issueAndSettle cmdAmPmToggle
  else
    { writer := { writer.settle with timeFieldOpened := false, phase := next }
      calls :=
        { command := some cmdSubmitValue
          controlValue := some (scheduleTimeValue hour minute) } }

/-- The field of a time is opened, and the time entered in the picker. -/
def setTimeField (writer : ScheduleWriter) (page : PageModel) (statusPage : ScreenDataPage)
    (openCommand : UInt8) (hour minute : ℤ) (next : Phase) : WriterStep ScheduleWriter :=
  if writer.timeFieldOpened = false then
    if page.pageId = pageSchedule then
      { writer := { writer.settle with timeFieldOpened := true }, calls := .issue openCommand }
    else .dwell writer
  else if page.pageId ≠ pageTimePicker then .dwell writer
  else writer.enterTime statusPage hour minute next

/-- The row of the list stands for the program. -/
def shows (program : ControllerSchedule) (text : Text) : Bool :=
  (parseScheduleRow text).any fun parsed =>
    equalsCaseInsensitive parsed.target program.target &&
      decide (parsed.daysOfWeek = program.daysOfWeek) &&
      decide (parsed.onHour = program.onHour ∧ parsed.onMinute = program.onMinute) &&
      decide (parsed.offHour = program.offHour ∧ parsed.offMinute = program.offMinute)

def rowShowing (page : PageModel) (program : ControllerSchedule) : Option UInt8 :=
  page.scheduleRows.find? (shows program)

def stepNavigateToList (writer : ScheduleWriter) (page : PageModel) (goal : Goal) :
    WriterStep ScheduleWriter :=
  if page.pageId = pageSchedule then
    .rest { writer with phase := if goal.op = .create then .addProgram else .selectRow }
  else if page.pageId = pageMenu then writer.issueAndSettle cmdMenuToSchedule
  else writer.issueAndSettle cmdBack

def stepAddProgram (writer : ScheduleWriter) (page : PageModel) : WriterStep ScheduleWriter :=
  if page.pageId ≠ pageSchedule then .rest { writer with phase := .navigateToList }
  else if writer.programAdded then .rest { writer with phase := .selectDevice }
  else
    { writer := { writer.settle with programAdded := true, phase := .selectDevice }
      calls := .issue cmdAddProgram }

def stepSelectDevice (writer : ScheduleWriter) (page : PageModel) (goal : Goal) :
    WriterStep ScheduleWriter :=
  if page.pageId ≠ pageDevicePicker then .dwell writer
  else if writer.deviceClicked then
    { writer := { writer.settle with phase := .setOnTime }, calls := .issue cmdPickerOk }
  else
    match page.devicePickerRows.find? fun label =>
        equalsCaseInsensitive label goal.program.target with
    | some row =>
      { writer := { writer.settle with deviceClicked := true }
        calls := .issue (pickRowBase + row) }
    | none =>
      let writer := { writer with scrollCount := writer.scrollCount + 1 }
      if maxScrolls < writer.scrollCount then writer.finishGoal false
      else writer.issueAndSettle cmdPickerScroll

def stepSetDay (writer : ScheduleWriter) (page : PageModel) (goal : Goal) :
    WriterStep ScheduleWriter :=
  if page.pageId ≠ pageSchedule then .dwell writer
  else
    { writer := { writer.settle with phase := .verify }
      calls := .issue (dayCommandFor goal.program.daysOfWeek) }

/-- The goal is done when the list shows the program. -/
def stepVerify (writer : ScheduleWriter) (page : PageModel) (goal : Goal) :
    WriterStep ScheduleWriter :=
  if (rowShowing page goal.program).isSome then writer.finishGoal true else .dwell writer

/-- The row of the program that is to be edited or deleted is highlighted. -/
def stepSelectRow (writer : ScheduleWriter) (page : PageModel) (goal : Goal) :
    WriterStep ScheduleWriter :=
  if page.pageId ≠ pageSchedule then .dwell writer
  else if page.scheduleRows.isEmpty then .dwell writer
  else
    match rowShowing page goal.existing with
    | some ordinal =>
      { writer := { writer.settle with
          phase := if goal.op = .edit then .pressEdit else .pressDelete }
        calls := .issue (rowBase + ordinal) }
    | none => writer.finishGoal false

def pressOnList (writer : ScheduleWriter) (page : PageModel) (command : UInt8) (next : Phase) :
    WriterStep ScheduleWriter :=
  if page.pageId ≠ pageSchedule then .dwell writer
  else { writer := { writer.settle with phase := next }, calls := .issue command }

def stepPressEdit (writer : ScheduleWriter) (page : PageModel) : WriterStep ScheduleWriter :=
  writer.pressOnList page cmdEditProgram .setOnTime

def stepPressDelete (writer : ScheduleWriter) (page : PageModel) : WriterStep ScheduleWriter :=
  writer.pressOnList page cmdDeleteProgram .confirmDelete

def stepConfirmDelete (writer : ScheduleWriter) : WriterStep ScheduleWriter where
  writer := { writer.settle with phase := .verifyGone }
  calls := .issue cmdConfirmOk

/-- The program is deleted once the list does not show it. -/
def stepVerifyGone (writer : ScheduleWriter) (page : PageModel) (goal : Goal) :
    WriterStep ScheduleWriter :=
  if (rowShowing page goal.existing).isSome then .dwell writer else writer.finishGoal true

def stepPhase (writer : ScheduleWriter) (page : PageModel) (statusPage : ScreenDataPage)
    (goal : Goal) : WriterStep ScheduleWriter :=
  match writer.phase with
  | .navigateToList => writer.stepNavigateToList page goal
  | .addProgram => writer.stepAddProgram page
  | .selectDevice => writer.stepSelectDevice page goal
  | .setOnTime =>
    writer.setTimeField page statusPage cmdOpenOnField goal.program.onHour goal.program.onMinute
      .setOffTime
  | .setOffTime =>
    writer.setTimeField page statusPage cmdOpenOffField goal.program.offHour
      goal.program.offMinute .setDay
  | .setDay => writer.stepSetDay page goal
  | .verify => writer.stepVerify page goal
  | .selectRow => writer.stepSelectRow page goal
  | .pressEdit => writer.stepPressEdit page
  | .pressDelete => writer.stepPressDelete page
  | .confirmDelete => writer.stepConfirmDelete
  | .verifyGone => writer.stepVerifyGone page goal
  | .done => writer.finishGoal true
  | .failed => writer.finishGoal false

/-- One poll: the limit first, then the wait for the page, then the phase. -/
def processStep (writer : ScheduleWriter) (page : PageModel) (statusPage : ScreenDataPage) :
    WriterStep ScheduleWriter :=
  match writer.pending with
  | none => .rest writer
  | some goal =>
    let counted := { writer with pollCount := writer.pollCount + 1 }
    if pollLimit < counted.pollCount then counted.finishGoal false
    else if 0 < counted.settleCount then
      .dwell { counted with settleCount := counted.settleCount - 1 }
    else counted.stepPhase page statusPage goal

/-! ## What the answers say -/

theorem queued_arm {writer : ScheduleWriter} {goal : Goal} {emulated channelBusy : Bool}
    (hemulated : ¬ emulated = false)
    (hfree : ¬ (writer.pending.isSome ∨ channelBusy)) :
    Queued (·.pending.isSome) writer emulated channelBusy (arm goal, .accepted) where
  refused hrefused := absurd rfl hrefused
  accepted _ := ⟨(Bool.not_eq_false _).mp hemulated,
    (Bool.not_eq_true _).mp fun h => hfree (.inr h), rfl⟩

section

variable (writer : ScheduleWriter) (program : ControllerSchedule) (emulated channelBusy : Bool)

theorem queued_queueCreate :
    Queued (·.pending.isSome) writer emulated channelBusy
      (writer.queueCreate program emulated channelBusy) := by
  unfold queueCreate
  split_ifs with hemulated hbusy hpromotable
  · exact queued_of_refused (by decide)
  · exact queued_of_refused (by decide)
  · exact queued_of_refused (by decide)
  · exact queued_arm hemulated hbusy

theorem queued_queueDelete :
    Queued (·.pending.isSome) writer emulated channelBusy
      (writer.queueDelete program emulated channelBusy) := by
  unfold queueDelete
  split_ifs with hemulated hbusy htarget
  · exact queued_of_refused (by decide)
  · exact queued_of_refused (by decide)
  · exact queued_of_refused (by decide)
  · exact queued_arm hemulated hbusy

end

theorem queued_queueEdit (writer : ScheduleWriter) (existing desired : ControllerSchedule)
    (emulated channelBusy : Bool) :
    Queued (·.pending.isSome) writer emulated channelBusy
      (writer.queueEdit existing desired emulated channelBusy) := by
  unfold queueEdit
  split_ifs with hemulated hbusy htarget hpromotable
  · exact queued_of_refused (by decide)
  · exact queued_of_refused (by decide)
  · exact queued_of_refused (by decide)
  · exact queued_of_refused (by decide)
  · exact queued_arm hemulated hbusy

/-! ## What every step keeps to -/

open WriterStep

section

variable {writer : ScheduleWriter} (h : writer.pending.isSome = true)

include h

theorem regular_enterTime (statusPage : ScreenDataPage) (hour minute : ℤ) (next : Phase) :
    (writer.enterTime statusPage hour minute next).Regular (·.pending.isSome) := by
  unfold enterTime
  dsimp only
  split_ifs
  · exact regular_of_working h rfl
  · exact regular_of_working h rfl
  · exact regular_of_submit h

section

variable (page : PageModel)

theorem regular_setTimeField (statusPage : ScreenDataPage) (openCommand : UInt8) (hour minute : ℤ)
    (next : Phase) :
    (writer.setTimeField page statusPage openCommand hour minute next).Regular
      (·.pending.isSome) := by
  unfold setTimeField
  split_ifs
  · exact regular_of_working h rfl
  · exact regular_of_working h rfl
  · exact regular_of_working h rfl
  · exact regular_enterTime h statusPage hour minute next

theorem regular_stepSelectDevice (goal : Goal) :
    (writer.stepSelectDevice page goal).Regular (·.pending.isSome) := by
  unfold stepSelectDevice
  split_ifs
  · exact regular_of_working h rfl
  · exact regular_of_working h rfl
  · split
    · exact regular_of_working h rfl
    · dsimp only
      split_ifs
      · exact regular_of_finish rfl
      · exact regular_of_working h rfl

theorem regular_stepSelectRow (goal : Goal) :
    (writer.stepSelectRow page goal).Regular (·.pending.isSome) := by
  unfold stepSelectRow
  split
  · exact regular_of_working h rfl
  · split
    · exact regular_of_working h rfl
    · cases rowShowing page goal.existing with
      | some ordinal => exact regular_of_working h rfl
      | none => exact regular_of_finish rfl

theorem regular_pressOnList (command : UInt8) (next : Phase) :
    (writer.pressOnList page command next).Regular (·.pending.isSome) := by
  unfold pressOnList
  split_ifs
  all_goals exact regular_of_working h rfl

theorem regular_of_walk (goal : Goal) :
    (writer.stepNavigateToList page goal).Regular (·.pending.isSome) ∧
      (writer.stepAddProgram page).Regular (·.pending.isSome) ∧
      (writer.stepSetDay page goal).Regular (·.pending.isSome) := by
  unfold stepNavigateToList stepAddProgram stepSetDay
  refine ⟨?_, ?_, ?_⟩ <;> split_ifs
  all_goals exact regular_of_working h rfl

theorem regular_of_look (goal : Goal) :
    (writer.stepVerify page goal).Regular (·.pending.isSome) ∧
      (writer.stepVerifyGone page goal).Regular (·.pending.isSome) := by
  unfold stepVerify stepVerifyGone
  refine ⟨?_, ?_⟩ <;> split_ifs
  · exact regular_of_finish rfl
  · exact regular_of_working h rfl
  · exact regular_of_working h rfl
  · exact regular_of_finish rfl

theorem regular_processStep (statusPage : ScreenDataPage) :
    (writer.processStep page statusPage).Regular (·.pending.isSome) := by
  obtain ⟨goal, hgoal⟩ := Option.isSome_iff_exists.mp h
  simp only [processStep, hgoal]
  split_ifs
  · exact regular_of_finish rfl
  · exact regular_of_working rfl rfl
  · unfold stepPhase
    split
    · exact (regular_of_walk rfl page goal).1
    · exact (regular_of_walk rfl page goal).2.1
    · exact regular_stepSelectDevice rfl page goal
    · exact regular_setTimeField rfl page statusPage _ _ _ _
    · exact regular_setTimeField rfl page statusPage _ _ _ _
    · exact (regular_of_walk rfl page goal).2.2
    · exact (regular_of_look rfl page goal).1
    · exact regular_stepSelectRow rfl page goal
    · exact regular_pressOnList rfl page _ _
    · exact regular_pressOnList rfl page _ _
    · exact regular_of_working rfl rfl
    · exact (regular_of_look rfl page goal).2
    · exact regular_of_finish rfl
    · exact regular_of_finish rfl

end

end

/-! ## Which buttons a step presses -/

section

variable (writer : ScheduleWriter) (page : PageModel)

theorem press_setTimeField (statusPage : ScreenDataPage) (openCommand : UInt8) (hour minute : ℤ)
    (next : Phase) :
    (writer.setTimeField page statusPage openCommand hour minute next).calls.press = none := by
  unfold setTimeField
  split_ifs
  · rfl
  · rfl
  · rfl
  · unfold enterTime
    dsimp only
    split_ifs <;> rfl

theorem press_pressOnList (command : UInt8) (next : Phase) :
    (writer.pressOnList page command next).calls.press = none := by
  unfold pressOnList
  split_ifs <;> rfl

theorem press_processStep (statusPage : ScreenDataPage) :
    (writer.processStep page statusPage).calls.press = none := by
  unfold processStep
  split
  · rfl
  · next goal hgoal =>
      dsimp only
      split
      · rfl
      · split
        · rfl
        · unfold stepPhase
          split
          · unfold stepNavigateToList
            split_ifs <;> rfl
          · unfold stepAddProgram
            split_ifs <;> rfl
          · unfold stepSelectDevice
            split
            · rfl
            · split
              · rfl
              · split
                · rfl
                · dsimp only
                  split_ifs <;> rfl
          · exact press_setTimeField ..
          · exact press_setTimeField ..
          · unfold stepSetDay
            split_ifs <;> rfl
          · unfold stepVerify
            split_ifs <;> rfl
          · unfold stepSelectRow
            split
            · rfl
            · split
              · rfl
              · split <;> rfl
          · exact press_pressOnList ..
          · exact press_pressOnList ..
          · rfl
          · unfold stepVerifyGone
            split_ifs <;> rfl
          · rfl
          · rfl

end

end ScheduleWriter

end AqualinkAutomate.Iaq
