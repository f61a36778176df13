import Aqualink.General.Wheel
import Aqualink.OneTouch.ProgramChoice
import Aqualink.Scheduling.ScreenGrammar

/-!
# The editor for a program of the controller

The editor has five fields, one after the other: the hour and the minute when the equipment goes
on, those when it goes off, and the days.  Each is a wheel that an arrow turns by one position.
Select goes on to the next field, and behind the days it saves the program.

Here every key is received and the page drawn again before the goal's next step.  The goal then
takes `stepsNeeded` steps from the page of the editor to its end, and leaves a field only with what
is asked for (`editor_writes_program`).  Its steps are counted from the start on, and the 901st
ends it, so there have to be enough of them left when the editor comes up.
-/

namespace AqualinkAutomate.OneTouch

open General Navigation Scheduling List Option Function

/-! ## The editor -/

inductive EditorField where
  | onHour | onMinute | offHour | offMinute | days
  deriving DecidableEq

namespace EditorField

/-- The field that Select goes on to; behind the days the program is saved. -/
def next : EditorField → Option EditorField
  | .onHour => some .onMinute
  | .onMinute => some .offHour
  | .offHour => some .offMinute
  | .offMinute => some .days
  | .days => none

def positions (days : List UInt8) : EditorField → ℕ
  | .onHour => 24
  | .onMinute => 60
  | .offHour => 24
  | .offMinute => 60
  | .days => days.length

/-- The phase in which the goal turns the field. -/
def phase : EditorField → SchedulePhase
  | .onHour => .setOnHour
  | .onMinute => .setOnMinute
  | .offHour => .setOffHour
  | .offMinute => .setOffMinute
  | .days => .setDays

end EditorField

/-- The positions of the wheels. -/
abbrev EditorContent (days : List UInt8) : Type :=
  ∀ field : EditorField, Fin (field.positions days)

namespace EditorContent

variable {days : List UInt8}

def daysOfWeek (content : EditorContent days) : UInt8 := days.get (content .days)

def program (content : EditorContent days) (target : Text) : ControllerSchedule where
  target := target
  daysOfWeek := content.daysOfWeek
  onHour := (content .onHour).val
  onMinute := (content .onMinute).val
  offHour := (content .offHour).val
  offMinute := (content .offMinute).val

def HasAsked (content : EditorContent days) (program : ControllerSchedule) : EditorField → Prop
  | .onHour => ((content .onHour).val : ℤ) = program.onHour
  | .onMinute => ((content .onMinute).val : ℤ) = program.onMinute
  | .offHour => ((content .offHour).val : ℤ) = program.offHour
  | .offMinute => ((content .offMinute).val : ℤ) = program.offMinute
  | .days => content.daysOfWeek = program.daysOfWeek &&& DayMask.allDays

theorem HasAsked.congr {content other : EditorContent days} {program : ControllerSchedule}
    {field : EditorField} (h : other.HasAsked program field) (heq : content field = other field) :
    content.HasAsked program field := by
  cases field <;> unfold HasAsked <;> first | rw [heq] | (unfold daysOfWeek; rw [heq])
  all_goals exact h

def up (content : EditorContent days) (field : EditorField) : EditorContent days :=
  Function.update content field
    ⟨Wheel.up (field.positions days) (content field), Wheel.up_lt (content field).isLt⟩

def down (content : EditorContent days) (field : EditorField) : EditorContent days :=
  Function.update content field
    ⟨Wheel.down (field.positions days) (content field), Wheel.down_lt (content field).isLt⟩

end EditorContent

structure ProgramPanel where
  equipment : Text
  /-- The wheel of the days, which may have them in any order. -/
  days : List UInt8
  nodup : days.Nodup
  mem_days : ∀ mask, mask ∈ days ↔ mask ∈ daysNames.map Prod.snd
  drawEditor : EditorField → EditorContent days → ScreenDataPage
  isEditor : ∀ field content, ScheduleWriteGoal.onEditorPage (drawEditor field content) = true
  showsOn : ∀ field content, ∃ row, (drawEditor field content).rows[3]? = some row ∧
    IsTimeRow "ON".toList row.text ((content .onHour).val, (content .onMinute).val)
  showsOff : ∀ field content, ∃ row, (drawEditor field content).rows[4]? = some row ∧
    IsTimeRow "OFF".toList row.text ((content .offHour).val, (content .offMinute).val)
  showsDays : ∀ field content, ∃ row, (drawEditor field content).rows[5]? = some row ∧
    IsDaysRow row.text content.daysOfWeek
  /-- The page of the equipment with the program that was saved. -/
  drawProgram : EditorContent days → ScreenDataPage
  isDetail : ∀ content, ScheduleWriteGoal.onDetailPage (drawProgram content) = true
  showsProgram : ∀ content, IsProgramPage ((drawProgram content).rows.map ScreenRow.text)
    (content.program equipment)

theorem mem_daysNames_of_expressible {daysOfWeek : UInt8}
    (h : classifyDaySelection daysOfWeek ≠ .notExpressible) :
    daysOfWeek &&& DayMask.allDays ∈ daysNames.map Prod.snd := by
  unfold classifyDaySelection at h
  dsimp only at h
  have hall : daysNames.map Prod.snd =
      [DayMask.allDays, DayMask.weekdays, DayMask.weekends] ++ DayMask.singleDays := rfl
  rw [hall]
  split_ifs at h with hzero hdays hweekdays hweekends hsingle
  · exact absurd rfl h
  · rw [hdays]
    decide
  · rw [hweekdays]
    decide
  · rw [hweekends]
    decide
  · exact mem_append_right _ hsingle
  · exact absurd rfl h

theorem ProgramPanel.length_days (panel : ProgramPanel) : panel.days.length = 10 := by
  have hnames : (daysNames.map Prod.snd).Nodup := by decide
  exact ((perm_ext_iff_of_nodup panel.nodup hnames).mpr panel.mem_days).length_eq

inductive PanelScreen (panel : ProgramPanel) where
  | editor (field : EditorField) (content : EditorContent panel.days)
  | program (saved : EditorContent panel.days)

namespace PanelScreen

variable {panel : ProgramPanel}

def page : PanelScreen panel → ScreenDataPage
  | .editor field content => panel.drawEditor field content
  | .program saved => panel.drawProgram saved

def receive : PanelScreen panel → NavKeyCommand → PanelScreen panel
  | .editor field content, .lineUp => .editor field (content.up field)
  | .editor field content, .lineDown => .editor field (content.down field)
  | .editor field content, .select =>
    match field.next with
    | some next => .editor next content
    | none => .program content
  | screen, _ => screen

variable {content : EditorContent panel.days}

theorem receive_select {field next : EditorField} (hnext : field.next = some next) :
    (editor field content).receive .select = .editor next content := by
  cases field <;> cases hnext <;> rfl

theorem receive_select_of_last {field : EditorField} (hlast : field.next = none) :
    (editor field content).receive .select = .program content := by
  cases field <;> cases hlast
  rfl

def context (screen : PanelScreen panel) : KeypadContext where
  page := screen.page
  highlightedLine := cursorLineNone
  navigator := {}

end PanelScreen

structure EditorRun (panel : ProgramPanel) where
  goal : ScheduleWriteGoal
  status : GoalStatus := .running
  screen : PanelScreen panel

namespace EditorRun

variable {panel : ProgramPanel}

def settle (run : EditorRun panel) (result : GoalStep ScheduleWriteGoal) : EditorRun panel where
  goal := result.goal
  status := result.status
  screen := (result.context.emittedKey.map run.screen.receive).getD run.screen

/-- The goal steps until it ends. -/
def step (model : MenuModel) (fuel : ℕ) (run : EditorRun panel) : EditorRun panel :=
  if run.status = .running then
    ((run.goal.step model fuel run.screen.context).map run.settle).getD run
  else run

end EditorRun

/-! ## The rows of the editor -/

section

variable {page : ScreenDataPage} {row : ScreenRow} {time : ℤ × ℤ}

/-- The page that the goal makes up around a row can be read if the row can. -/
theorem parseProgramDetailLines_probe {onText offText : Text} {onTime offTime : ℤ × ℤ}
    (hon : parseTimeRow onText "ON".toList = some onTime)
    (hoff : parseTimeRow offText "OFF".toList = some offTime) :
    parseProgramDetailLines ["X".toList, [], [], onText, offText, "All Days".toList] =
      some ⟨"X".toList, DayMask.allDays, onTime.1, onTime.2, offTime.1, offTime.2⟩ := by
  have hdays : parseDaysRow "All Days".toList = some DayMask.allDays := by decide
  have hnamed : ¬ (trim "X".toList = [] ∨ iEquals (trim "X".toList) "No Programs".toList) := by
    decide
  unfold parseProgramDetailLines
  dsimp only
  rw [if_neg hnamed, hon, hoff, hdays]
  rfl

theorem displayedTime_on (hrow : page.rows[3]? = some row)
    (hshows : IsTimeRow "ON".toList row.text time) :
    ScheduleWriteGoal.displayedTime page ScheduleWriteGoal.onLine = some time := by
  have hother : parseTimeRow "OFF 1:00 AM".toList "OFF".toList = some (1, 0) := by decide
  have hline : page.rows[ScheduleWriteGoal.onLine.toNat]? = some row := hrow
  rw [ScheduleWriteGoal.displayedTime, hline, bind_some, if_neg (by decide),
    parseProgramDetailLines_probe hshows.parse hother]
  rfl

theorem displayedTime_off (hrow : page.rows[4]? = some row)
    (hshows : IsTimeRow "OFF".toList row.text time) :
    ScheduleWriteGoal.displayedTime page ScheduleWriteGoal.offLine = some time := by
  have hother : parseTimeRow "ON  1:00 AM".toList "ON".toList = some (1, 0) := by decide
  have hline : page.rows[ScheduleWriteGoal.offLine.toNat]? = some row := hrow
  rw [ScheduleWriteGoal.displayedTime, hline, bind_some, if_pos rfl,
    parseProgramDetailLines_probe hother hshows.parse]
  rfl

theorem displayedDays_eq {days : UInt8} (hrow : page.rows[5]? = some row)
    (hshows : IsDaysRow row.text days) :
    ScheduleWriteGoal.displayedDays page ScheduleWriteGoal.daysLine = some days := by
  have hline : page.rows[ScheduleWriteGoal.daysLine.toNat]? = some row := hrow
  unfold ScheduleWriteGoal.displayedDays
  rw [hline, bind_some]
  exact parseDaysRow_eq_some_iff.mpr hshows

end

/-! ## A step of the goal in a field -/

namespace EditorField

/-- Whether the goal turns the wheel up.  That of the days it turns in one direction only. -/
def GoesUp (days : List UInt8) (field : EditorField) (x target : ℕ) : Prop :=
  field = .days ∨ Wheel.ahead (field.positions days) x target ≤ field.positions days / 2

instance (days : List UInt8) (field : EditorField) (x target : ℕ) :
    Decidable (field.GoesUp days x target) :=
  inferInstanceAs (Decidable (_ ∨ _))

/-- How many turns there are to the target. -/
def distance (days : List UInt8) (field : EditorField) (x target : ℕ) : ℕ :=
  if field = .days then Wheel.ahead (field.positions days) x target
  else Wheel.distance (field.positions days) x target

end EditorField

namespace ScheduleWriteGoal

variable {goal : ScheduleWriteGoal} {ctx : KeypadContext} {n x target : ℕ} {days : List UInt8}

def atWheel (goal : ScheduleWriteGoal) (ctx : KeypadContext) (x target : ℕ) (up : Bool) :
    GoalStep ScheduleWriteGoal :=
  if x = target then
    ⟨{ goal with phase := goal.phase.next goal.op, fieldStep := 0 }, ctx.emit .select, .running⟩
  else
    ⟨{ goal with fieldStep := goal.fieldStep + 1 },
      ctx.emit (if up then .lineUp else .lineDown), .running⟩

theorem turnField_eq_atWheel (hx : x < n) (hstep : goal.fieldStep < maxStep)
    {next : SchedulePhase} (hnext : goal.phase.next goal.op = next) :
    goal.turnField ctx x target n next =
      goal.atWheel ctx x target (decide (Wheel.ahead n x target ≤ n / 2)) := by
  have hforward : (((target : ℤ) - x) + n).tmod n = (Wheel.ahead n x target : ℕ) := by
    have hsum : ((target : ℤ) - x) + n = ((target + (n - x) : ℕ) : ℤ) := by omega
    rw [hsum]
    rfl
  have hhalf : (n : ℤ).tdiv 2 = ((n / 2 : ℕ) : ℤ) := rfl
  unfold turnField atWheel
  by_cases heq : x = target
  · rw [if_pos (congrArg _ heq), if_pos heq, hnext]
  · have hne : (x : ℤ) ≠ target := fun h => heq (Int.ofNat_inj.mp h)
    rw [if_neg hne, if_neg heq]
    dsimp only
    rw [if_neg (by omega), hforward, hhalf]
    simp only [Int.ofNat_le, decide_eq_true_eq]

section

variable {line : UInt8} {time : ℤ × ℤ} (heditor : onEditorPage ctx.page = true)
  (htime : displayedTime ctx.page line = some time)

include heditor htime

variable {next : SchedulePhase}

theorem stepHour_eq_atWheel (hx : x < 24) (hshown : time.1 = x) {asked : ℤ}
    (hasked : (target : ℤ) = asked) (hstep : goal.fieldStep < maxStep)
    (hnext : goal.phase.next goal.op = next) :
    goal.stepHour ctx line asked next =
      goal.atWheel ctx x target (decide (Wheel.ahead 24 x target ≤ 24 / 2)) := by
  unfold stepHour
  rw [if_pos heditor, htime]
  dsimp only
  rw [hshown, ← hasked]
  exact turnField_eq_atWheel hx hstep hnext

theorem stepMinute_eq_atWheel (hx : x < 60) (hshown : time.2 = x) {asked : ℤ}
    (hasked : (target : ℤ) = asked) (hstep : goal.fieldStep < maxStep)
    (hnext : goal.phase.next goal.op = next) :
    goal.stepMinute ctx line asked next =
      goal.atWheel ctx x target (decide (Wheel.ahead 60 x target ≤ 60 / 2)) := by
  unfold stepMinute
  rw [if_pos heditor, htime]
  dsimp only
  rw [hshown, ← hasked]
  exact turnField_eq_atWheel hx hstep hnext

end

theorem stepSetDays_eq_atWheel (hnodup : days.Nodup) {place asked : Fin days.length}
    (heditor : onEditorPage ctx.page)
    (hdays : displayedDays ctx.page daysLine = some (days.get place))
    (hasked : days.get asked = goal.program.daysOfWeek &&& DayMask.allDays)
    (hstep : goal.fieldStep < maxStep) (hphase : goal.phase = .setDays) :
    goal.stepSetDays ctx = goal.atWheel ctx place asked true := by
  have hplace : days.get place = goal.program.daysOfWeek &&& DayMask.allDays ↔
      (place : ℕ) = asked := by
    rw [← hasked, hnodup.get_inj_iff, Fin.ext_iff]
  unfold stepSetDays atWheel
  rw [if_pos heditor, hdays]
  dsimp only
  by_cases heq : (place : ℕ) = asked
  · rw [if_pos (hplace.mpr heq), if_pos heq, hphase]
    rfl
  · rw [if_neg fun h => heq (hplace.mp h), if_neg heq, if_neg (by omega)]
    rfl

theorem stepPhase_field {panel : ProgramPanel} {model : MenuModel} {fuel : ℕ}
    {field : EditorField} {content asked : EditorContent panel.days}
    (hphase : goal.phase = field.phase) (hasked : asked.HasAsked goal.program field)
    (hstep : goal.fieldStep < maxStep) :
    goal.stepPhase model fuel (PanelScreen.editor field content).context =
      some (goal.atWheel (PanelScreen.editor field content).context (content field) (asked field)
        (decide (field.GoesUp panel.days (content field) (asked field)))) := by
  have heditor : onEditorPage (PanelScreen.editor field content).context.page :=
    panel.isEditor field content
  obtain ⟨onRow, honRow, hon⟩ := panel.showsOn field content
  obtain ⟨offRow, hoffRow, hoff⟩ := panel.showsOff field content
  obtain ⟨daysRow, hdaysRow, hdays⟩ := panel.showsDays field content
  have hnear (field' : EditorField) (hfield : field' ≠ .days) (x target : ℕ) :
      decide (field'.GoesUp panel.days x target) =
        decide (Wheel.ahead (field'.positions panel.days) x target ≤
          field'.positions panel.days / 2) :=
    decide_eq_decide.mpr (or_iff_right hfield)
  unfold stepPhase
  rw [hphase]
  cases field with
  | onHour =>
    have hnext : goal.phase.next goal.op = .setOnMinute := by rw [hphase]; rfl
    rw [hnear .onHour (by decide)]
    exact congrArg some (stepHour_eq_atWheel heditor (displayedTime_on honRow hon)
      (content .onHour).isLt rfl hasked hstep hnext)
  | onMinute =>
    have hnext : goal.phase.next goal.op = .setOffHour := by rw [hphase]; rfl
    rw [hnear .onMinute (by decide)]
    exact congrArg some (stepMinute_eq_atWheel heditor (displayedTime_on honRow hon)
      (content .onMinute).isLt rfl hasked hstep hnext)
  | offHour =>
    have hnext : goal.phase.next goal.op = .setOffMinute := by rw [hphase]; rfl
    rw [hnear .offHour (by decide)]
    exact congrArg some (stepHour_eq_atWheel heditor (displayedTime_off hoffRow hoff)
      (content .offHour).isLt rfl hasked hstep hnext)
  | offMinute =>
    have hnext : goal.phase.next goal.op = .setDays := by rw [hphase]; rfl
    rw [hnear .offMinute (by decide)]
    exact congrArg some (stepMinute_eq_atWheel heditor (displayedTime_off hoffRow hoff)
      (content .offMinute).isLt rfl hasked hstep hnext)
  | days =>
    have hup : decide (EditorField.days.GoesUp panel.days (content .days) (asked .days)) :=
      decide_eq_true (.inl rfl)
    rw [hup]
    exact congrArg some (stepSetDays_eq_atWheel panel.nodup heditor
      (displayedDays_eq hdaysRow hdays) hasked hstep hphase)

end ScheduleWriteGoal

/-! ## How far the fields are from what is asked for -/

namespace EditorField

/-- The field and those behind it. -/
def onwards : EditorField → List EditorField
  | .onHour => [.onHour, .onMinute, .offHour, .offMinute, .days]
  | .onMinute => [.onMinute, .offHour, .offMinute, .days]
  | .offHour => [.offHour, .offMinute, .days]
  | .offMinute => [.offMinute, .days]
  | .days => [.days]

theorem onwards_eq (field : EditorField) :
    field.onwards = field :: (field.next.map onwards).getD [] := by
  cases field <;> rfl

theorem not_mem_onwards_next (field : EditorField) : field ∉ (field.next.map onwards).getD [] := by
  cases field <;> decide

variable {days : List UInt8} {x target : ℕ}

theorem distance_eq_zero_iff {field : EditorField} (hx : x < field.positions days)
    (htarget : target < field.positions days) : field.distance days x target = 0 ↔ x = target := by
  unfold distance
  split
  · exact Wheel.ahead_eq_zero_iff hx htarget
  · exact Wheel.distance_eq_zero_iff hx htarget

theorem distance_le (field : EditorField) (target : ℕ) (hdays : days.length = 10)
    (hx : x < field.positions days) :
    field.distance days x target ≤
      match field with
      | .onHour | .offHour => 12
      | .onMinute | .offMinute => 30
      | .days => 9 := by
  cases field with
  | onHour => exact Wheel.distance_le 24 x target
  | onMinute => exact Wheel.distance_le 60 x target
  | offHour => exact Wheel.distance_le 24 x target
  | offMinute => exact Wheel.distance_le 60 x target
  | days =>
    have hlt : Wheel.ahead days.length x target < days.length :=
      Wheel.ahead_lt hx target
    show Wheel.ahead days.length x target ≤ 9
    omega

end EditorField

namespace EditorContent

variable {days : List UInt8} {content asked : EditorContent days} {field : EditorField}

def turned (content : EditorContent days) (field : EditorField) (up : Bool) : EditorContent days :=
  if up then content.up field else content.down field

theorem turned_of_ne {other : EditorField} (hne : other ≠ field) (up : Bool) :
    content.turned field up other = content other := by
  cases up <;> exact update_of_ne hne _ _

theorem distance_turned (hne : content field ≠ asked field) :
    field.distance days (content.turned field
        (decide (field.GoesUp days (content field) (asked field))) field) (asked field) + 1 =
      field.distance days (content field) (asked field) := by
  have hx := (content field).isLt
  have htarget := (asked field).isLt
  have hval : (content field : ℕ) ≠ asked field := fun h => hne (Fin.ext h)
  have hup : ((content.up field field : Fin _) : ℕ) =
      Wheel.up (field.positions days) (content field) := by
    unfold up
    rw [update_self]
  have hdown : ((content.down field field : Fin _) : ℕ) =
      Wheel.down (field.positions days) (content field) := by
    unfold down
    rw [update_self]
  unfold turned EditorField.distance
  by_cases hdays : field = .days
  · have hgoes : field.GoesUp days (content field) (asked field) := .inl hdays
    rw [decide_eq_true hgoes, if_pos rfl, if_pos hdays, if_pos hdays, hup]
    exact Wheel.ahead_up hx htarget hval
  · have hgoes : field.GoesUp days (content field) (asked field) ↔
        Wheel.ahead (field.positions days) (content field) (asked field) ≤
          field.positions days / 2 :=
      or_iff_right hdays
    have hturn := Wheel.distance_turn hx htarget hval
    unfold Wheel.turn at hturn
    rw [if_neg hdays, if_neg hdays, ← hturn]
    by_cases hnear : field.GoesUp days (content field) (asked field)
    · rw [decide_eq_true hnear, if_pos rfl, if_pos (hgoes.mp hnear), hup]
    · rw [decide_eq_false hnear, if_neg Bool.false_ne_true, if_neg fun h => hnear (hgoes.mpr h),
        hdown]

def stepsFrom (content asked : EditorContent days) (field : EditorField) : ℕ :=
  (field.onwards.map fun f => f.distance days (content f) (asked f) + 1).sum

/-- The steps from the page of the editor to the end of the goal. -/
def stepsNeeded (content asked : EditorContent days) : ℕ := stepsFrom content asked .onHour + 2

theorem stepsFrom_eq (content asked : EditorContent days) (field : EditorField) :
    stepsFrom content asked field = field.distance days (content field) (asked field) + 1 +
      (field.next.map (stepsFrom content asked)).getD 0 := by
  cases field <;> rfl

theorem stepsFrom_turned (hne : content field ≠ asked field) :
    stepsFrom (content.turned field
        (decide (field.GoesUp days (content field) (asked field)))) asked field + 1 =
      stepsFrom content asked field := by
  have hbehind : (field.next.map (stepsFrom (content.turned field
      (decide (field.GoesUp days (content field) (asked field)))) asked)).getD 0 =
        (field.next.map (stepsFrom content asked)).getD 0 := by
    cases hnext : field.next with
    | none => rfl
    | some next =>
      have hnot := field.not_mem_onwards_next
      rw [hnext] at hnot
      refine congrArg sum (map_congr_left fun f hf => ?_)
      have hfield : f ≠ field := by
        rintro rfl
        exact hnot hf
      rw [turned_of_ne hfield]
  rw [stepsFrom_eq, stepsFrom_eq content, hbehind, ← distance_turned hne]
  omega

theorem stepsFrom_next (heq : content field = asked field) :
    stepsFrom content asked field = 1 + (field.next.map (stepsFrom content asked)).getD 0 := by
  have hzero : field.distance days (content field) (asked field) = 0 := by
    rw [EditorField.distance_eq_zero_iff (content field).isLt (asked field).isLt, heq]
  rw [stepsFrom_eq, hzero]

theorem stepsNeeded_le (hdays : days.length = 10) (content asked : EditorContent days) :
    stepsNeeded content asked ≤ 100 := by
  have hbound (f : EditorField) := f.distance_le (asked f) hdays (content f).isLt
  have honHour := hbound .onHour
  have honMinute := hbound .onMinute
  have hoffHour := hbound .offHour
  have hoffMinute := hbound .offMinute
  have hdaysField := hbound .days
  dsimp only at honHour honMinute hoffHour hoffMinute hdaysField
  unfold stepsNeeded stepsFrom EditorField.onwards
  simp only [map_cons, map_nil, sum_cons, sum_nil]
  omega

end EditorContent

/-! ## The run -/

namespace EditorRun

inductive At {panel : ProgramPanel} (asked : EditorContent panel.days) (left : ℕ)
    (run : EditorRun panel) : Prop where
  | entering (content : EditorContent panel.days) (hphase : run.goal.phase = .enterEditor)
      (hscreen : run.screen = .editor .onHour content) (hleft : left = content.stepsNeeded asked)
  | setting (field : EditorField) (content : EditorContent panel.days)
      (hphase : run.goal.phase = field.phase) (hscreen : run.screen = .editor field content)
      (hset : ∀ earlier ∉ field.onwards, content earlier = asked earlier)
      (hfield : run.goal.fieldStep + field.distance panel.days (content field) (asked field) <
        ScheduleWriteGoal.maxStep)
      (hleft : left = content.stepsFrom asked field + 1)
  | verifying (hphase : run.goal.phase = .verify) (hscreen : run.screen = .program asked)
      (hleft : left = 1)

structure Writes {panel : ProgramPanel} (program : ControllerSchedule)
    (asked : EditorContent panel.days) (left : ℕ) (run : EditorRun panel) : Prop where
  started : run.goal.started
  program_eq : run.goal.program = program
  status : run.status = .running
  place : run.At asked left

section

variable {panel : ProgramPanel} {model : MenuModel} {fuel : ℕ} {run : EditorRun panel}
variable {program : ControllerSchedule} {content asked : EditorContent panel.days}
variable {field : EditorField} {left : ℕ}

theorem step_of_ended (hstatus : run.status ≠ .running) : run.step model fuel = run :=
  if_neg hstatus

section

variable (hstatus : run.status = .running) (hstarted : run.goal.started = true)

include hstatus hstarted

theorem step_of_counted (hcount : run.goal.stepCount < ScheduleWriteGoal.stepLimit)
    {screen : PanelScreen panel} (hscreen : run.screen = screen)
    {result : GoalStep ScheduleWriteGoal}
    (hresult :
      { run.goal with stepCount := run.goal.stepCount + 1 }.stepPhase model fuel screen.context =
      some result) :
    run.step model fuel =
      { goal := result.goal
        status := result.status
        screen := (result.context.emittedKey.map screen.receive).getD screen } := by
  have hcounted : run.goal.countStep = { run.goal with stepCount := run.goal.stepCount + 1 } :=
    if_pos hstarted
  have hleft : ¬run.goal.Overdue := by
    rintro ⟨-, hover⟩
    rw [hcounted] at hover
    exact absurd hover (not_lt.mpr hcount)
  subst hscreen
  unfold step
  rw [if_pos hstatus, ScheduleWriteGoal.step_of_not_overdue hleft, hcounted, hresult]
  rfl

theorem step_of_overdue (hcount : ScheduleWriteGoal.stepLimit ≤ run.goal.stepCount) :
    run.step model fuel =
      { goal := run.goal.countStep, status := .failed, screen := run.screen } := by
  have hcounted : run.goal.countStep = { run.goal with stepCount := run.goal.stepCount + 1 } :=
    if_pos hstarted
  have hover : run.goal.Overdue := by
    refine ⟨by rw [hcounted]; exact hstarted, ?_⟩
    rw [hcounted]
    exact Nat.lt_succ_of_le hcount
  unfold step
  rw [if_pos hstatus, ScheduleWriteGoal.step_of_overdue hover]
  rfl

theorem step_entering (hcount : run.goal.stepCount < ScheduleWriteGoal.stepLimit)
    (hphase : run.goal.phase = .enterEditor) (hscreen : run.screen = .editor field content) :
    run.step model fuel =
      { goal := { run.goal with
          stepCount := run.goal.stepCount + 1
          phase := .setOnHour
          fieldStep := 0 }
        status := .running
        screen := .editor field content } := by
  have hresult : { run.goal with stepCount := run.goal.stepCount + 1 }.stepPhase model fuel
      (PanelScreen.editor field content).context =
        some ⟨{ run.goal with
          stepCount := run.goal.stepCount + 1
          phase := .setOnHour
          fieldStep := 0 }, (PanelScreen.editor field content).context, .running⟩ := by
    unfold ScheduleWriteGoal.stepPhase
    rw [hphase]
    exact congrArg some (if_pos (panel.isEditor field content))
  rw [step_of_counted hstatus hstarted hcount hscreen hresult]
  rfl

theorem step_in_field (hcount : run.goal.stepCount < ScheduleWriteGoal.stepLimit)
    (hphase : run.goal.phase = field.phase) (hscreen : run.screen = .editor field content)
    (hasked : asked.HasAsked run.goal.program field)
    (hfield : run.goal.fieldStep < ScheduleWriteGoal.maxStep) :
    run.step model fuel =
      if content field = asked field then
        { goal := { run.goal with
            stepCount := run.goal.stepCount + 1
            phase := run.goal.phase.next run.goal.op
            fieldStep := 0 }
          status := .running
          screen := (PanelScreen.editor field content).receive .select }
      else
        { goal := { run.goal with
            stepCount := run.goal.stepCount + 1
            fieldStep := run.goal.fieldStep + 1 }
          status := .running
          screen := .editor field (content.turned field
            (decide (field.GoesUp panel.days (content field) (asked field)))) } := by
  rw [step_of_counted hstatus hstarted hcount hscreen
    (ScheduleWriteGoal.stepPhase_field (by exact hphase) (by exact hasked) hfield)]
  unfold ScheduleWriteGoal.atWheel
  by_cases heq : content field = asked field
  · rw [if_pos heq, if_pos (congrArg Fin.val heq)]
    rfl
  · have hne : (content field : ℕ) ≠ asked field := fun h => heq (Fin.ext h)
    rw [if_neg heq, if_neg hne]
    unfold EditorContent.turned
    cases decide (field.GoesUp panel.days (content field) (asked field)) <;> rfl

end

theorem onwards_next {next : EditorField} (hnext : field.next = some next) :
    field.onwards = field :: next.onwards := by
  rw [field.onwards_eq, hnext]
  rfl

theorem phase_next {next : EditorField} (hnext : field.next = some next) (op : ScheduleWriteOp) :
    field.phase.next op = next.phase := by
  cases field <;> cases hnext <;> rfl

theorem distance_lt_maxStep (panel : ProgramPanel) (field : EditorField)
    (content asked : EditorContent panel.days) :
    field.distance panel.days (content field) (asked field) < ScheduleWriteGoal.maxStep := by
  have hle := field.distance_le (asked field) panel.length_days (content field).isLt
  have hmax : ScheduleWriteGoal.maxStep = 40 := rfl
  cases field <;> dsimp only at hle <;> omega

/-- **A step of the goal** in the editor. -/
theorem Writes.step (hasked : ∀ field, asked.HasAsked program field)
    (h : Writes program asked (left + 2) run)
    (hcount : run.goal.stepCount < ScheduleWriteGoal.stepLimit) :
    Writes program asked (left + 1) (run.step model fuel) ∧
      (run.step model fuel).goal.stepCount = run.goal.stepCount + 1 := by
  have hstarted := h.started
  rcases h.place with ⟨content, hphase, hscreen, hleft⟩ |
    ⟨field, content, hphase, hscreen, hset, hfield, hleft⟩ | ⟨-, -, hleft⟩
  · rw [step_entering h.status hstarted hcount hphase hscreen]
    refine ⟨⟨hstarted, h.program_eq, rfl, ?_⟩, rfl⟩
    refine .setting .onHour content rfl rfl ?_ ?_ ?_
    · intro earlier hnot
      exact absurd (show earlier ∈ EditorField.onHour.onwards by cases earlier <;> decide) hnot
    · exact (Nat.zero_add _).symm ▸ distance_lt_maxStep panel .onHour content asked
    · unfold EditorContent.stepsNeeded at hleft
      omega
  · have hstep : run.step model fuel = _ :=
      step_in_field h.status hstarted hcount hphase hscreen (h.program_eq ▸ hasked field)
        (lt_of_le_of_lt (Nat.le_add_right _ _) hfield)
    rw [hstep]
    by_cases heq : content field = asked field
    · have hsteps := EditorContent.stepsFrom_next heq
      rw [if_pos heq]
      refine ⟨⟨hstarted, h.program_eq, rfl, ?_⟩, rfl⟩
      cases hnext : field.next with
      | none =>
        rw [hnext] at hsteps
        refine .verifying ?_ ?_ ?_
        · cases field <;> cases hnext
          exact congrArg (SchedulePhase.next run.goal.op) hphase
        · rw [PanelScreen.receive_select_of_last hnext]
          refine congrArg _ (funext fun earlier => ?_)
          by_cases hsame : earlier = field
          · rw [hsame, heq]
          · refine hset earlier ?_
            rw [EditorField.onwards_eq, hnext]
            simpa using hsame
        · simp only [map_none, getD_none] at hsteps
          omega
      | some next =>
        rw [hnext] at hsteps
        refine .setting next content ?_ (PanelScreen.receive_select hnext) ?_ ?_ ?_
        · exact (congrArg (SchedulePhase.next run.goal.op) hphase).trans (phase_next hnext _)
        · intro earlier hnot
          by_cases hsame : earlier = field
          · rw [hsame, heq]
          · refine hset earlier ?_
            rw [onwards_next hnext, mem_cons]
            exact not_or.mpr ⟨hsame, hnot⟩
        · exact (Nat.zero_add _).symm ▸ distance_lt_maxStep panel next content asked
        · simp only [map_some, getD_some] at hsteps
          omega
    · have hsteps := EditorContent.stepsFrom_turned heq
      have hnear := EditorContent.distance_turned heq
      rw [if_neg heq]
      refine ⟨⟨hstarted, h.program_eq, rfl, ?_⟩, rfl⟩
      refine .setting field _ hphase rfl ?_ ?_ ?_
      · intro earlier hnot
        have hne : earlier ≠ field := by
          rintro rfl
          exact hnot (by rw [EditorField.onwards_eq]; exact mem_cons_self)
        rw [EditorContent.turned_of_ne hne]
        exact hset earlier hnot
      · dsimp only
        omega
      · omega
  · omega

theorem isProgram_of_asked (hasked : ∀ field, asked.HasAsked program field) {target : Text}
    (htarget : equalsCaseInsensitive target program.target) :
    ScheduleWriteGoal.isProgram program (asked.program target) := by
  have honHour := hasked .onHour
  have honMinute := hasked .onMinute
  have hoffHour := hasked .offHour
  have hoffMinute := hasked .offMinute
  have hdays := hasked .days
  unfold EditorContent.HasAsked at honHour honMinute hoffHour hoffMinute hdays
  dsimp only at honHour honMinute hoffHour hoffMinute hdays
  unfold ScheduleWriteGoal.isProgram EditorContent.program
  simp only [htarget, hdays, honHour, honMinute, hoffHour, hoffMinute, decide_true, and_self,
    Bool.and_self]

theorem Writes.verifying (h : Writes program asked 1 run) :
    run.goal.phase = .verify ∧ run.screen = .program asked := by
  rcases h.place with ⟨content, -, -, hleft⟩ | ⟨field, content, -, -, -, -, hleft⟩ |
    ⟨hphase, hscreen, -⟩
  · unfold EditorContent.stepsNeeded at hleft
    omega
  · rw [EditorContent.stepsFrom_eq] at hleft
    omega
  · exact ⟨hphase, hscreen⟩

theorem Writes.done (hasked : ∀ field, asked.HasAsked program field)
    (htarget : equalsCaseInsensitive panel.equipment program.target)
    (h : Writes program asked 1 run) (hcount : run.goal.stepCount < ScheduleWriteGoal.stepLimit) :
    (run.step model fuel).status = .done := by
  have hplace := h.verifying
  have hparsed : parseProgramDetailPage (panel.drawProgram asked) =
      some (asked.program panel.equipment) :=
    (panel.showsProgram asked).parse
  have hfound : ScheduleWriteGoal.onDetailPage (panel.drawProgram asked) ∧
      (parseProgramDetailPage (panel.drawProgram asked)).any
        (ScheduleWriteGoal.isProgram run.goal.program) := by
    refine ⟨panel.isDetail asked, ?_⟩
    rw [hparsed, h.program_eq]
    exact isProgram_of_asked hasked htarget
  have hresult : { run.goal with stepCount := run.goal.stepCount + 1 }.stepPhase model fuel
      (PanelScreen.program asked).context =
        some ⟨{ run.goal with stepCount := run.goal.stepCount + 1 },
          (PanelScreen.program asked).context, .done⟩ := by
    unfold ScheduleWriteGoal.stepPhase
    rw [hplace.1]
    exact congrArg some (if_pos hfound)
  rw [step_of_counted h.status h.started hcount hplace.2 hresult]

theorem Writes.pos (h : Writes program asked left run) : 1 ≤ left := by
  rcases h.place with ⟨content, -, -, hleft⟩ | ⟨field, content, -, -, -, -, hleft⟩ | ⟨-, -, hleft⟩
  · unfold EditorContent.stepsNeeded at hleft
    omega
  · omega
  · omega

def WritesOrEnded (program : ControllerSchedule) (asked : EditorContent panel.days)
    (run : EditorRun panel) : Prop :=
  (∃ left, Writes program asked left run) ∨ run.status ≠ .running

section

variable (hasked : ∀ field, asked.HasAsked program field)

include hasked

theorem WritesOrEnded.step (htarget : equalsCaseInsensitive panel.equipment program.target)
    (h : WritesOrEnded program asked run) : WritesOrEnded program asked (run.step model fuel) := by
  rcases h with ⟨left, h⟩ | hended
  · by_cases hcount : run.goal.stepCount < ScheduleWriteGoal.stepLimit
    · obtain _ | _ | left := left
      · exact absurd h.pos (by decide)
      · have hdone : (run.step model fuel).status = .done := h.done hasked htarget hcount
        exact .inr (by rw [hdone]; decide)
      · exact .inl ⟨_, (h.step hasked hcount).1⟩
    · rw [step_of_overdue h.status h.started (not_lt.mp hcount)]
      exact .inr (show GoalStatus.failed ≠ .running by decide)
  · rw [step_of_ended hended]
    exact .inr hended

theorem WritesOrEnded.hasAsked (h : WritesOrEnded program asked run)
    (hscreen : run.screen = .editor field content)
    (hleaves : ∀ other, (run.step model fuel).screen ≠ .editor field other) :
    content.HasAsked program field := by
  rcases h with ⟨left, h⟩ | hended
  · by_cases hcount : run.goal.stepCount < ScheduleWriteGoal.stepLimit
    · rcases h.place with ⟨shown, hphase, -, -⟩ | ⟨field', shown, hphase, hfield, -, hnear, -⟩ |
        ⟨-, hprogram, -⟩
      · refine absurd ?_ (hleaves content)
        rw [step_entering h.status h.started hcount hphase hscreen]
      · obtain ⟨rfl, rfl⟩ : field' = field ∧ HEq shown content := by
          have hsame := hfield.symm.trans hscreen
          injection hsame with hf hc
          exact ⟨hf, heq_of_eq hc⟩
        by_cases heq : shown field' = asked field'
        · exact (hasked field').congr heq
        · have hstep : run.step model fuel = _ :=
            step_in_field h.status h.started hcount hphase hfield (h.program_eq ▸ hasked field')
              (lt_of_le_of_lt (Nat.le_add_right _ _) hnear)
          rw [hstep, if_neg heq] at hleaves
          exact absurd rfl (hleaves _)
      · exact absurd (hprogram.symm.trans hscreen) (by rintro ⟨⟩)
    · refine absurd ?_ (hleaves content)
      rwa [step_of_overdue h.status h.started (not_lt.mp hcount)]
  · exact absurd (by rwa [step_of_ended hended]) (hleaves content)

theorem Writes.iterate (h : Writes program asked (left + 1) run) {n : ℕ} (hn : n ≤ left)
    (hcount : run.goal.stepCount + n ≤ ScheduleWriteGoal.stepLimit) :
    Writes program asked (left - n + 1) ((EditorRun.step model fuel)^[n] run) ∧
      ((EditorRun.step model fuel)^[n] run).goal.stepCount = run.goal.stepCount + n := by
  induction n with
  | zero => exact ⟨h, rfl⟩
  | succ n ih =>
    obtain ⟨hwrites, hsteps⟩ := ih (by omega) (by omega)
    have hleft : left - n + 1 = (left - (n + 1)) + 2 := by omega
    rw [hleft] at hwrites
    rw [iterate_succ_apply']
    refine (hwrites.step hasked (by omega)).imp id fun hnext => ?_
    rw [hnext, hsteps, Nat.add_assoc]

end

/-- The goal in front of the editor. -/
structure Enters (program : ControllerSchedule) (goal : ScheduleWriteGoal) : Prop where
  program_eq : goal.program = program
  phase : goal.phase = .enterEditor
  started : goal.started

/-- The goal after a number of steps from the page of the editor on. -/
def after (model : MenuModel) (fuel : ℕ) (goal : ScheduleWriteGoal)
    (content : EditorContent panel.days) (n : ℕ) : EditorRun panel :=
  (step model fuel)^[n] { goal := goal, screen := .editor .onHour content }

theorem after_succ (goal : ScheduleWriteGoal) (n : ℕ) :
    after model fuel goal content (n + 1) = (after model fuel goal content n).step model fuel :=
  iterate_succ_apply' _ _ _

variable {goal : ScheduleWriteGoal}

section

variable (h : Enters program goal)

include h

theorem Enters.writes (content asked : EditorContent panel.days) :
    Writes program asked (content.stepsNeeded asked)
      { goal := goal, screen := .editor .onHour content } :=
  ⟨h.started, h.program_eq, rfl, .entering content h.phase rfl rfl⟩

theorem Enters.writes_after (model : MenuModel) (fuel : ℕ) (content : EditorContent panel.days)
    (hasked : ∀ field, asked.HasAsked program field) (n : ℕ) (hn : n < content.stepsNeeded asked)
    (hcount : goal.stepCount + n ≤ ScheduleWriteGoal.stepLimit) :
    Writes program asked (content.stepsNeeded asked - n) (after model fuel goal content n) ∧
      (after model fuel goal content n).goal.stepCount = goal.stepCount + n := by
  have hleft : content.stepsNeeded asked = (content.stepsNeeded asked - 1) + 1 := by omega
  have hwrites := h.writes content asked
  rw [hleft] at hwrites
  have hafter : Writes program asked (content.stepsNeeded asked - 1 - n + 1)
      (after model fuel goal content n) ∧
        (after model fuel goal content n).goal.stepCount = goal.stepCount + n :=
    hwrites.iterate hasked (by omega) hcount
  have hsame : content.stepsNeeded asked - 1 - n + 1 = content.stepsNeeded asked - n := by omega
  rwa [hsame] at hafter

section

variable (hasked : ∀ field, asked.HasAsked program field)

include hasked

theorem Enters.writesOrEnded_after
    (htarget : equalsCaseInsensitive panel.equipment program.target) (n : ℕ) :
    WritesOrEnded program asked (after model fuel goal content n) := by
  induction n with
  | zero => exact .inl ⟨_, h.writes content asked⟩
  | succ n ih =>
    rw [after_succ]
    exact ih.step hasked htarget

theorem Enters.ends (htarget : equalsCaseInsensitive panel.equipment program.target)
    (hlimit : goal.stepCount + content.stepsNeeded asked ≤ ScheduleWriteGoal.stepLimit) :
    ((after model fuel goal content (content.stepsNeeded asked - 1)).goal.phase = .verify ∧
        (after model fuel goal content (content.stepsNeeded asked - 1)).screen = .program asked) ∧
      (after model fuel goal content (content.stepsNeeded asked)).status = .done := by
  have hpos : 1 ≤ content.stepsNeeded asked := (h.writes content asked).pos
  obtain ⟨hwrites, hcount⟩ := h.writes_after model fuel content hasked
    (content.stepsNeeded asked - 1) (by omega) (by omega)
  rw [Nat.sub_sub_self hpos] at hwrites
  refine ⟨hwrites.verifying, ?_⟩
  have hlast : after model fuel goal content (content.stepsNeeded asked) =
      (after model fuel goal content (content.stepsNeeded asked - 1)).step model fuel := by
    rw [← after_succ, Nat.sub_add_cancel hpos]
  rw [hlast]
  exact hwrites.done hasked htarget (by omega)

theorem Enters.fails
    (hlimit : ScheduleWriteGoal.stepLimit < goal.stepCount + content.stepsNeeded asked) :
    ∃ n, (after model fuel goal content n).status = .failed := by
  have hlast : ∃ n left, Writes program asked left (after model fuel goal content n) ∧
      ScheduleWriteGoal.stepLimit ≤ (after model fuel goal content n).goal.stepCount := by
    by_cases hcount : goal.stepCount ≤ ScheduleWriteGoal.stepLimit
    · obtain ⟨hwrites, hsteps⟩ := h.writes_after model fuel content hasked
        (ScheduleWriteGoal.stepLimit - goal.stepCount) (by omega) (by omega)
      exact ⟨_, _, hwrites, by omega⟩
    · exact ⟨0, _, h.writes content asked, le_of_not_ge hcount⟩
  obtain ⟨n, left, hwrites, hcount⟩ := hlast
  refine ⟨n + 1, ?_⟩
  rw [after_succ, step_of_overdue hwrites.status hwrites.started hcount]

theorem Enters.never_fails_iff
    (htarget : equalsCaseInsensitive panel.equipment program.target) :
    (∀ n, (after model fuel goal content n).status ≠ .failed) ↔
      goal.stepCount + content.stepsNeeded asked ≤ ScheduleWriteGoal.stepLimit := by
  constructor
  · intro hnever
    by_contra hlimit
    obtain ⟨n, hfailed⟩ := h.fails hasked (not_le.mp hlimit)
    exact hnever n hfailed
  · intro hlimit n
    by_cases hn : n < content.stepsNeeded asked
    · rw [(h.writes_after model fuel content hasked n hn (by omega)).1.status]
      decide
    · -- the goal stays ended
      have hdone : (after model fuel goal content (content.stepsNeeded asked)).status = .done :=
        (h.ends hasked htarget hlimit).2
      obtain ⟨more, rfl⟩ := Nat.exists_eq_add_of_le (not_lt.mp hn)
      have hstays : after model fuel goal content (content.stepsNeeded asked + more) =
          after model fuel goal content (content.stepsNeeded asked) := by
        unfold after at hdone ⊢
        rw [Nat.add_comm, iterate_add_apply]
        refine iterate_fixed (step_of_ended ?_) more
        rw [hdone]
        decide
      rw [hstays, hdone]
      decide

end

end

end

end EditorRun

theorem exists_asked (panel : ProgramPanel) {program : ControllerSchedule}
    (hpromotable : program.promotable) :
    ∃ asked : EditorContent panel.days, ∀ field, asked.HasAsked program field := by
  unfold ControllerSchedule.promotable timeInRange at hpromotable
  simp only [Bool.and_eq_true, decide_eq_true_eq] at hpromotable
  obtain ⟨⟨⟨-, hon⟩, hoff⟩, hdays⟩ := hpromotable
  have hmask : program.daysOfWeek &&& DayMask.allDays ∈ daysNames.map Prod.snd :=
    mem_daysNames_of_expressible hdays
  obtain ⟨place, hplace⟩ := List.mem_iff_get.mp ((panel.mem_days _).mpr hmask)
  refine ⟨fun
    | .onHour => ⟨program.onHour.toNat, show _ < 24 by omega⟩
    | .onMinute => ⟨program.onMinute.toNat, show _ < 60 by omega⟩
    | .offHour => ⟨program.offHour.toNat, show _ < 24 by omega⟩
    | .offMinute => ⟨program.offMinute.toNat, show _ < 60 by omega⟩
    | .days => place, fun field => ?_⟩
  cases field with
  | onHour => exact Int.toNat_of_nonneg hon.1
  | onMinute => exact Int.toNat_of_nonneg hon.2.2.1
  | offHour => exact Int.toNat_of_nonneg hoff.1
  | offMinute => exact Int.toNat_of_nonneg hoff.2.2.1
  | days => exact hplace

/-- **The editor writes the program.**  Whatever the editor has at first, each field is left only
with what the program asks for.  The goal has saved the program and found it on the page of the
equipment after the steps that this takes, which are 100 at most, and fails exactly if these are
more than are left of its 900. -/
theorem editor_writes_program (model : MenuModel) (fuel : ℕ) (panel : ProgramPanel)
    {program : ControllerSchedule} (hpromotable : program.promotable)
    (htarget : equalsCaseInsensitive panel.equipment program.target)
    {goal : ScheduleWriteGoal} (henters : EditorRun.Enters program goal)
    (content : EditorContent panel.days) :
    ∃ asked : EditorContent panel.days,
      (∀ field, asked.HasAsked program field) ∧ content.stepsNeeded asked ≤ 100 ∧
      (∀ n field shown, (EditorRun.after model fuel goal content n).screen = .editor field shown →
        (∀ other, (EditorRun.after model fuel goal content (n + 1)).screen ≠ .editor field other) →
          shown.HasAsked program field) ∧
      ((∀ n, (EditorRun.after model fuel goal content n).status ≠ .failed) ↔
        goal.stepCount + content.stepsNeeded asked ≤ ScheduleWriteGoal.stepLimit) ∧
      (goal.stepCount + content.stepsNeeded asked ≤ ScheduleWriteGoal.stepLimit →
        (∃ n < content.stepsNeeded asked,
          (EditorRun.after model fuel goal content n).goal.phase = .verify ∧
          (EditorRun.after model fuel goal content n).screen = .program asked) ∧
        (EditorRun.after model fuel goal content (content.stepsNeeded asked)).status = .done) := by
  obtain ⟨asked, hasked⟩ := exists_asked panel hpromotable
  refine ⟨asked, hasked, EditorContent.stepsNeeded_le panel.length_days content asked, ?_,
    henters.never_fails_iff hasked htarget, ?_⟩
  · intro n field shown hscreen hleaves
    have hnext : ∀ other,
        ((EditorRun.after model fuel goal content n).step model fuel).screen ≠
          .editor field other := by
      simpa only [EditorRun.after_succ] using hleaves
    exact (henters.writesOrEnded_after hasked htarget n).hasAsked hasked hscreen hnext
  · intro hlimit
    obtain ⟨hverify, hdone⟩ := henters.ends hasked htarget hlimit
    have hpos := (henters.writes content asked).pos
    exact ⟨⟨_, by omega, hverify⟩, hdone⟩

/-! ### The program of a pump -/

def timeRow (label : Text) (hour minute : ℕ) : Text :=
  label ++ ' ' :: ((twoDigits (hour12 hour) ++ ':' :: twoDigits minute) ++
    ' ' :: (if 12 ≤ hour then "PM".toList else "AM".toList))

theorem isTimeRow_timeRow {label : Text} (hlabel : label ≠ []) (hplain : ' ' ∉ label)
    {hour minute : ℕ} (hhour : hour < 24) (hminute : minute < 60) :
    IsTimeRow label (timeRow label hour minute) (hour, minute) := by
  have hdigits : ∀ n : Fin 60, ' ' ∉ twoDigits n := by decide
  have hbounds : 1 ≤ hour12 hour ∧ hour12 hour ≤ 12 := by
    unfold hour12
    split <;> omega
  have hmer : ∀ pm : Prop, [Decidable pm] → (if pm then "PM".toList else "AM".toList) ≠ [] ∧
      ' ' ∉ (if pm then "PM".toList else "AM".toList) ∧
      meridiem (if pm then "PM".toList else "AM".toList) = some (decide pm) := by
    intro pm _
    by_cases h : pm
    · simp only [h, if_true, decide_true]
      decide
    · simp only [h, if_false, decide_false]
      decide
  obtain ⟨hmerNe, hmerPlain, hmeridiem⟩ := hmer (12 ≤ hour)
  have hclock : ' ' ∉ twoDigits (hour12 hour) ++ ':' :: twoDigits minute := by
    simp only [mem_append, mem_cons, not_or]
    exact ⟨hdigits ⟨hour12 hour, by omega⟩, by decide, hdigits ⟨minute, hminute⟩⟩
  have hno {word : Text} (hword : ' ' ∉ word) : ∀ c ∈ word, decide (c = ' ') = false := by
    intro c hc
    exact decide_eq_false fun h => hword (h ▸ hc)
  refine ⟨label, _, _, words_eq_iff.mp ?_, beq_self_eq_true _, hour, minute, hhour,
    ⟨hbounds, by omega, twoDigits (hour12 hour), by simp, rfl⟩, hmeridiem, rfl⟩
  rw [timeRow, words_append_of_word hlabel (hno hplain) (by simp), words_cons_of_sep (by decide),
    words_append_of_word (by simp) (hno hclock) (by simp), words_cons_of_sep (by decide),
    words_of_word hmerNe (hno hmerPlain)]

def namedDays : List UInt8 := daysNames.map Prod.snd

def daysRow (mask : UInt8) : Text :=
  ((daysNames.find? fun pair => pair.2 == mask).map fun pair => pair.1.toList).getD []

theorem isDaysRow_daysRow (content : EditorContent namedDays) :
    IsDaysRow (daysRow content.daysOfWeek) content.daysOfWeek := by
  have hnames : ∀ mask ∈ namedDays, parseDaysRow (daysRow mask) = some mask := by decide +kernel
  exact parseDaysRow_eq_some_iff.mp (hnames _ (List.get_mem _ _))

def programRows (content : EditorContent namedDays) : List Text :=
  [timeRow "ON".toList (content .onHour) (content .onMinute),
    timeRow "OFF".toList (content .offHour) (content .offMinute),
    daysRow content.daysOfWeek]

def pumpPanel : ProgramPanel where
  equipment := "Filter Pump".toList
  days := namedDays
  nodup := by decide
  mem_days _ := Iff.rfl
  drawEditor _ content :=
    ⟨(([] : Text) :: "Change Program".toList :: [] :: programRows content).map fun text =>
      { text := text }⟩
  isEditor _ _ := rfl
  showsOn _ content :=
    ⟨_, rfl, isTimeRow_timeRow (by decide) (by decide) (content .onHour).isLt
      (content .onMinute).isLt⟩
  showsOff _ content :=
    ⟨_, rfl, isTimeRow_timeRow (by decide) (by decide) (content .offHour).isLt
      (content .offMinute).isLt⟩
  showsDays _ content := ⟨_, rfl, isDaysRow_daysRow content⟩
  drawProgram content :=
    ⟨("Filter Pump".toList :: [] :: "Pgm 1 of 1".toList :: programRows content).map fun text =>
      { text := text }⟩
  isDetail _ := rfl
  showsProgram content :=
    ⟨_, _, _, _, _, _, _, _, _, _, rfl, by decide, by decide,
      isTimeRow_timeRow (by decide) (by decide) (content .onHour).isLt (content .onMinute).isLt,
      isTimeRow_timeRow (by decide) (by decide) (content .offHour).isLt (content .offMinute).isLt,
      isDaysRow_daysRow content, rfl⟩

/-- On Sundays from half past eight to a quarter past eight in the evening. -/
def sundayProgram : ControllerSchedule where
  target := "Filter Pump".toList
  daysOfWeek := DayMask.sunday
  onHour := 8
  onMinute := 30
  offHour := 20
  offMinute := 15

theorem sundayProgram_promotable : sundayProgram.promotable := by decide

/-- The goal in front of the editor, after a number of steps. -/
def changeSunday (stepCount : ℕ) : ScheduleWriteGoal where
  op := .edit
  program := sundayProgram
  phase := .enterEditor
  started := true
  stepCount := stepCount

theorem changeSunday_enters (stepCount : ℕ) :
    EditorRun.Enters sundayProgram (changeSunday stepCount) :=
  ⟨rfl, rfl, rfl⟩

def midnight : EditorContent pumpPanel.days :=
  fun field => ⟨0, by cases field <;> decide⟩

theorem editor_writes_sunday :
    ∃ saved : EditorContent pumpPanel.days, (∀ field, saved.HasAsked sundayProgram field) ∧
      ∃ n, (EditorRun.after {} 0 (changeSunday 20) midnight n).screen =
        .program saved := by
  obtain ⟨asked, hasked, hsteps, -, -, hends⟩ :=
    editor_writes_program {} 0 pumpPanel sundayProgram_promotable rfl (changeSunday_enters 20)
      midnight
  have hlimit : (changeSunday 20).stepCount + EditorContent.stepsNeeded midnight asked ≤
      ScheduleWriteGoal.stepLimit := by
    show 20 + EditorContent.stepsNeeded midnight asked ≤ 900
    have hle : EditorContent.stepsNeeded midnight asked ≤ 100 := hsteps
    omega
  obtain ⟨⟨n, -, -, hsaved⟩, -⟩ := hends hlimit
  exact ⟨asked, hasked, n, hsaved⟩

/-- The editor takes some time to come up. -/
def screensToEditor (waits : ℕ) : List ShownScreen :=
  [⟨programList, 2, true, true⟩, ⟨programList, 2, true, true⟩, ⟨firstOfTwo, 11, true, true⟩] ++
    replicate waits ⟨⟨[]⟩, cursorLineNone, true, true⟩

/-- When it does, the goal has 48 steps left, and the program takes more. -/
theorem sunday_given_up :
    sundayProgram.promotable ∧
      ((screensToEditor 850).foldlM (GoalRun.attempt programModel 9)
        { goal := some { op := .edit, program := sundayProgram } }).map GoalRun.goal =
          some (some (changeSunday 852)) ∧
      ∃ n, (EditorRun.after {} 0 (changeSunday 852) midnight n).status =
        .failed := by
  refine ⟨by decide, by decide +kernel, 49, by decide +kernel⟩

end AqualinkAutomate.OneTouch
