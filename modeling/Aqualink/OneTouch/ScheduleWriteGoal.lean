import Aqualink.OneTouch.Keypad
import Aqualink.Scheduling.ScheduleParsers

/-!
# Writing a program of the controller

The goal goes to the list of programs, selects the equipment, and on its page selects one of
three rows: a program is added, deleted or changed.  A deletion is done at once.  The other
two open an editor, which takes the times and the days one field after the other: the goal
turns a field until it shows what it should, and Select goes on to the next field.  Select on
the days saves the program, and the page of the equipment comes back.

In the end the goal looks at that page: a program that was written is to be there, and one
that was deleted is not.
-/

namespace AqualinkAutomate.OneTouch

open General Navigation Scheduling

inductive ScheduleWriteOp where
  | create | delete | edit
  deriving DecidableEq

/-- `ScheduleWriteGoal::Phase`. -/
inductive SchedulePhase where
  | toProgramMenu | selectEquipment | chooseAction | enterEditor | setOnHour | setOnMinute
  | setOffHour | setOffMinute | setDays | verify | verifyGone
  deriving DecidableEq

structure ScheduleWriteGoal where
  op : ScheduleWriteOp
  program : ControllerSchedule
  phase : SchedulePhase := .toProgramMenu
  started : Bool := false
  stepCount : ℕ := 0
  fieldStep : ℕ := 0
  deriving DecidableEq

namespace ScheduleWriteGoal

abbrev stepLimit : ℕ := 900
abbrev maxStep : ℕ := 40

abbrev titleLine : UInt8 := 1
abbrev onLine : UInt8 := 3
abbrev offLine : UInt8 := 4
abbrev daysLine : UInt8 := 5
abbrev addRow : UInt8 := 9
abbrev deleteRow : UInt8 := 10
abbrev changeRow : UInt8 := 11

/-! ## The pages -/

def showsNoPrograms (page : ScreenDataPage) : Bool :=
  containsText (lineText page 4) "No Programs".toList

def onDetailPage (page : ScreenDataPage) : Bool :=
  !containsText (lineText page 0) "Program".toList &&
    (containsText (lineText page 2) "Pgm ".toList || showsNoPrograms page ||
      containsText (lineText page changeRow.toNat) "Change".toList)

def onEditorPage (page : ScreenDataPage) : Bool :=
  containsText (lineText page titleLine.toNat) "New Program".toList ||
    containsText (lineText page titleLine.toNat) "Change Program".toList

/-- The time in a row.  It is read by the parser of the page, which is given a page where the
other rows can be read. -/
def displayedTime (page : ScreenDataPage) (line : UInt8) : Option (ℤ × ℤ) :=
  (page.rows[line.toNat]?).bind fun row =>
    if line = offLine then
      (parseProgramDetailLines ["X".toList, [], [], "ON  1:00 AM".toList, row.text,
        "All Days".toList]).map fun parsed => (parsed.offHour, parsed.offMinute)
    else
      (parseProgramDetailLines ["X".toList, [], [], row.text, "OFF 1:00 AM".toList,
        "All Days".toList]).map fun parsed => (parsed.onHour, parsed.onMinute)

def displayedDays (page : ScreenDataPage) (line : UInt8) : Option UInt8 :=
  (page.rows[line.toNat]?).bind fun row => parseDaysRow row.text

/-! ## Fields -/

def turnField (goal : ScheduleWriteGoal) (ctx : KeypadContext) (shown target positions : ℤ)
    (next : SchedulePhase) : GoalStep ScheduleWriteGoal :=
  if shown = target then
    ⟨{ goal with phase := next, fieldStep := 0 }, ctx.emit .select, .running⟩
  else
    let goal := { goal with fieldStep := goal.fieldStep + 1 }
    if maxStep < goal.fieldStep then ⟨goal, ctx, .failed⟩
    else
      let forward := ((target - shown) + positions).tmod positions
      ⟨goal, ctx.emit (if forward ≤ positions.tdiv 2 then .lineUp else .lineDown), .running⟩

def stepHour (goal : ScheduleWriteGoal) (ctx : KeypadContext) (line : UInt8) (targetHour : ℤ)
    (next : SchedulePhase) : GoalStep ScheduleWriteGoal :=
  if onEditorPage ctx.page then
    match displayedTime ctx.page line with
    | none => ⟨goal, ctx, .running⟩
    | some shown => goal.turnField ctx shown.1 targetHour 24 next
  else ⟨goal, ctx, .running⟩

def stepMinute (goal : ScheduleWriteGoal) (ctx : KeypadContext) (line : UInt8) (targetMinute : ℤ)
    (next : SchedulePhase) : GoalStep ScheduleWriteGoal :=
  if onEditorPage ctx.page then
    match displayedTime ctx.page line with
    | none => ⟨goal, ctx, .running⟩
    | some shown => goal.turnField ctx shown.2 targetMinute 60 next
  else ⟨goal, ctx, .running⟩

/-! ## Phases -/

/-- Leave it to the navigator to get to the list. -/
def stepToProgramMenu (model : MenuModel) (fuel : ℕ) (goal : ScheduleWriteGoal)
    (ctx : KeypadContext) : Option (GoalStep ScheduleWriteGoal) :=
  let (goal, ctx) :=
    if goal.started then (goal, ctx)
    else
      ({ goal with started := true, stepCount := 0 },
        { ctx with navigator := ctx.navigator.navigateTo .program })
  (ctx.followNavigator model fuel).map fun ctx =>
    if ctx.navigator.isComplete then
      if ctx.navigator.isSuccess then
        ⟨{ goal with phase := .selectEquipment, fieldStep := 0 },
          { ctx with navigator := ctx.navigator.reset }, .running⟩
      else ⟨goal, ctx, .failed⟩
    else ⟨goal, ctx, .running⟩

/-- The first line is the title of the list. -/
def stepSelectEquipment (goal : ScheduleWriteGoal) (ctx : KeypadContext) :
    GoalStep ScheduleWriteGoal :=
  if onDetailPage ctx.page then
    ⟨{ goal with phase := .chooseAction, fieldStep := 0 }, ctx, .running⟩
  else
    match (findLineStartingWith ctx.page goal.program.target).filter (· ≠ 0) with
    | some line =>
      let goal := { goal with fieldStep := 0 }
      match ctx.moveCursorToward line with
      | (ctx, true) => ⟨{ goal with phase := .chooseAction }, ctx.emit .select, .running⟩
      | (ctx, false) => ⟨goal, ctx, .running⟩
    | none =>
      let goal := { goal with fieldStep := goal.fieldStep + 1 }
      ⟨goal, ctx.emit .lineDown, if maxStep < goal.fieldStep then .failed else .running⟩

def actionRow : ScheduleWriteOp → UInt8
  | .create => addRow
  | .delete => deleteRow
  | .edit => changeRow

def stepChooseAction (goal : ScheduleWriteGoal) (ctx : KeypadContext) :
    GoalStep ScheduleWriteGoal :=
  if onDetailPage ctx.page then
    if goal.op = .delete then
      if showsNoPrograms ctx.page then ⟨goal, ctx, .done⟩
      else
        match ctx.moveCursorToward deleteRow with
        | (ctx, true) => ⟨{ goal with phase := .verifyGone }, ctx.emit .select, .running⟩
        | (ctx, false) => ⟨goal, ctx, .running⟩
    else
      match ctx.moveCursorToward (actionRow goal.op) with
      | (ctx, true) =>
        ⟨{ goal with phase := .enterEditor, fieldStep := 0 }, ctx.emit .select, .running⟩
      | (ctx, false) => ⟨goal, ctx, .running⟩
  else ⟨goal, ctx, .running⟩

def stepEnterEditor (goal : ScheduleWriteGoal) (ctx : KeypadContext) :
    GoalStep ScheduleWriteGoal :=
  if onEditorPage ctx.page then
    ⟨{ goal with phase := .setOnHour, fieldStep := 0 }, ctx, .running⟩
  else ⟨goal, ctx, .running⟩

def stepSetDays (goal : ScheduleWriteGoal) (ctx : KeypadContext) : GoalStep ScheduleWriteGoal :=
  if onEditorPage ctx.page then
    match displayedDays ctx.page daysLine with
    | none => ⟨goal, ctx, .running⟩
    | some shown =>
      if shown = goal.program.daysOfWeek &&& DayMask.allDays then
        ⟨{ goal with phase := .verify, fieldStep := 0 }, ctx.emit .select, .running⟩
      else
        let goal := { goal with fieldStep := goal.fieldStep + 1 }
        if maxStep < goal.fieldStep then ⟨goal, ctx, .failed⟩
        else ⟨goal, ctx.emit .lineUp, .running⟩
  else ⟨goal, ctx, .running⟩

def isProgram (program parsed : ControllerSchedule) : Bool :=
  equalsCaseInsensitive parsed.target program.target &&
    decide (parsed.daysOfWeek = program.daysOfWeek &&& DayMask.allDays) &&
    decide (parsed.onHour = program.onHour ∧ parsed.onMinute = program.onMinute) &&
    decide (parsed.offHour = program.offHour ∧ parsed.offMinute = program.offMinute)

def stepVerify (goal : ScheduleWriteGoal) (ctx : KeypadContext) : GoalStep ScheduleWriteGoal :=
  if onDetailPage ctx.page = true ∧
      (parseProgramDetailPage ctx.page).any (isProgram goal.program) = true then
    ⟨goal, ctx, .done⟩
  else ⟨goal, ctx, .running⟩

def stepVerifyGone (goal : ScheduleWriteGoal) (ctx : KeypadContext) : GoalStep ScheduleWriteGoal :=
  if onDetailPage ctx.page = true ∧
      (showsNoPrograms ctx.page = true ∨ parseProgramDetailPage ctx.page = none) then
    ⟨goal, ctx, .done⟩
  else ⟨goal, ctx, .running⟩

def stepPhase (model : MenuModel) (fuel : ℕ) (goal : ScheduleWriteGoal) (ctx : KeypadContext) :
    Option (GoalStep ScheduleWriteGoal) :=
  match goal.phase with
  | .toProgramMenu => goal.stepToProgramMenu model fuel ctx
  | .selectEquipment => some (goal.stepSelectEquipment ctx)
  | .chooseAction => some (goal.stepChooseAction ctx)
  | .enterEditor => some (goal.stepEnterEditor ctx)
  | .setOnHour => some (goal.stepHour ctx onLine goal.program.onHour .setOnMinute)
  | .setOnMinute => some (goal.stepMinute ctx onLine goal.program.onMinute .setOffHour)
  | .setOffHour => some (goal.stepHour ctx offLine goal.program.offHour .setOffMinute)
  | .setOffMinute => some (goal.stepMinute ctx offLine goal.program.offMinute .setDays)
  | .setDays => some (goal.stepSetDays ctx)
  | .verify => some (goal.stepVerify ctx)
  | .verifyGone => some (goal.stepVerifyGone ctx)

def countStep (goal : ScheduleWriteGoal) : ScheduleWriteGoal :=
  if goal.started then { goal with stepCount := goal.stepCount + 1 } else goal

def step (model : MenuModel) (fuel : ℕ) (goal : ScheduleWriteGoal) (ctx : KeypadContext) :
    Option (GoalStep ScheduleWriteGoal) :=
  let goal := goal.countStep
  if goal.started ∧ stepLimit < goal.stepCount then
    some ⟨goal, ctx, .failed⟩
  else
    goal.stepPhase model fuel ctx

instance : KeypadGoal ScheduleWriteGoal where
  step := step

/-! ## Steps by their phase -/

section

variable {goal : ScheduleWriteGoal} {ctx : KeypadContext} {model : MenuModel} {fuel : ℕ}

/-- The step comes after the last one that is allowed. -/
def Overdue (goal : ScheduleWriteGoal) : Prop :=
  goal.countStep.started = true ∧ stepLimit < goal.countStep.stepCount

instance (goal : ScheduleWriteGoal) : Decidable goal.Overdue := by
  unfold Overdue
  infer_instance

theorem step_of_overdue (h : goal.Overdue) :
    goal.step model fuel ctx = some ⟨goal.countStep, ctx, .failed⟩ :=
  if_pos h

theorem step_of_not_overdue (h : ¬ goal.Overdue) :
    goal.step model fuel ctx = goal.countStep.stepPhase model fuel ctx :=
  if_neg h

@[simp] theorem phase_countStep (goal : ScheduleWriteGoal) : goal.countStep.phase = goal.phase := by
  unfold countStep
  split <;> rfl

@[simp] theorem op_countStep (goal : ScheduleWriteGoal) : goal.countStep.op = goal.op := by
  unfold countStep
  split <;> rfl

@[simp] theorem program_countStep (goal : ScheduleWriteGoal) :
    goal.countStep.program = goal.program := by
  unfold countStep
  split <;> rfl

end

end ScheduleWriteGoal

/-- The phase that follows. -/
def SchedulePhase.next (op : ScheduleWriteOp) : SchedulePhase → SchedulePhase
  | .toProgramMenu => .selectEquipment
  | .selectEquipment => .chooseAction
  | .chooseAction => if op = .delete then .verifyGone else .enterEditor
  | .enterEditor => .setOnHour
  | .setOnHour => .setOnMinute
  | .setOnMinute => .setOffHour
  | .setOffHour => .setOffMinute
  | .setOffMinute => .setDays
  | .setDays => .verify
  | .verify => .verify
  | .verifyGone => .verifyGone

namespace ScheduleWriteGoal

/-- What every step keeps to: the task stays the same, and the goal goes on by one phase at
most. -/
structure Advances (goal : ScheduleWriteGoal) (result : GoalStep ScheduleWriteGoal) : Prop where
  op : result.goal.op = goal.op
  program : result.goal.program = goal.program
  phase : result.goal.phase = goal.phase ∨ result.goal.phase = goal.phase.next goal.op

section

variable {goal : ScheduleWriteGoal} {ctx : KeypadContext} {model : MenuModel} {fuel : ℕ}

theorem advances_stay (goal : ScheduleWriteGoal) (ctx : KeypadContext) (status : GoalStatus) :
    goal.Advances ⟨goal, ctx, status⟩ :=
  ⟨rfl, rfl, .inl rfl⟩

theorem advances_turnField {shown target positions : ℤ} {next : SchedulePhase}
    (hnext : goal.phase.next goal.op = next) :
    goal.Advances (goal.turnField ctx shown target positions next) := by
  unfold turnField
  split
  · exact ⟨rfl, rfl, .inr hnext.symm⟩
  · dsimp only
    split <;> exact ⟨rfl, rfl, .inl rfl⟩

section

variable {line : UInt8} {target : ℤ} {next : SchedulePhase} (hnext : goal.phase.next goal.op = next)

include hnext

theorem advances_stepHour : goal.Advances (goal.stepHour ctx line target next) := by
  unfold stepHour
  split
  · split
    · exact advances_stay ..
    · exact advances_turnField hnext
  · exact advances_stay ..

theorem advances_stepMinute : goal.Advances (goal.stepMinute ctx line target next) := by
  unfold stepMinute
  split
  · split
    · exact advances_stay ..
    · exact advances_turnField hnext
  · exact advances_stay ..

end

variable {result : GoalStep ScheduleWriteGoal}

theorem advances_stepToProgramMenu (hphase : goal.phase = .toProgramMenu)
    (h : goal.stepToProgramMenu model fuel ctx = some result) : goal.Advances result := by
  unfold stepToProgramMenu at h
  dsimp only at h
  split at h <;> (
    obtain ⟨followed, -, rfl⟩ := Option.map_eq_some_iff.mp h
    split
    · split
      · exact ⟨rfl, rfl, .inr (by rw [hphase]; rfl)⟩
      · exact ⟨rfl, rfl, .inl rfl⟩
    · exact ⟨rfl, rfl, .inl rfl⟩)

theorem advances_stepSelectEquipment (hphase : goal.phase = .selectEquipment) :
    goal.Advances (goal.stepSelectEquipment ctx) := by
  unfold stepSelectEquipment
  split
  · exact ⟨rfl, rfl, .inr (by rw [hphase]; rfl)⟩
  · split
    · next line _ =>
        rcases ctx.moveCursorToward_cases line with ⟨-, heq⟩ | ⟨-, key, -, heq⟩
        · simp only [heq]
          exact ⟨rfl, rfl, .inr (by rw [hphase]; rfl)⟩
        · simp only [heq]
          exact ⟨rfl, rfl, .inl rfl⟩
    · exact ⟨rfl, rfl, .inl rfl⟩

theorem advances_stepChooseAction (hphase : goal.phase = .chooseAction) :
    goal.Advances (goal.stepChooseAction ctx) := by
  unfold stepChooseAction
  split
  · split
    next hdelete =>
      split
      · exact advances_stay ..
      · rcases ctx.moveCursorToward_cases deleteRow with ⟨-, heq⟩ | ⟨-, key, -, heq⟩
        · simp only [heq]
          exact ⟨rfl, rfl, .inr (by rw [hphase, SchedulePhase.next, if_pos hdelete])⟩
        · simp only [heq]
          exact advances_stay ..
    next hop =>
      rcases ctx.moveCursorToward_cases (actionRow goal.op) with ⟨-, heq⟩ | ⟨-, key, -, heq⟩
      · simp only [heq]
        exact ⟨rfl, rfl, .inr (by rw [hphase, SchedulePhase.next, if_neg hop])⟩
      · simp only [heq]
        exact advances_stay ..
  · exact advances_stay ..

theorem advances_stepSetDays (hphase : goal.phase = .setDays) :
    goal.Advances (goal.stepSetDays ctx) := by
  unfold stepSetDays
  split
  · split
    · exact advances_stay ..
    · split
      · exact ⟨rfl, rfl, .inr (by rw [hphase]; rfl)⟩
      · dsimp only
        split <;> exact ⟨rfl, rfl, .inl rfl⟩
  · exact advances_stay ..

theorem advances_stepPhase (h : goal.stepPhase model fuel ctx = some result) :
    goal.Advances result := by
  unfold stepPhase at h
  split at h <;> rename_i hphase
  · exact advances_stepToProgramMenu hphase h
  all_goals cases h
  · exact advances_stepSelectEquipment hphase
  · exact advances_stepChooseAction hphase
  · unfold stepEnterEditor
    split
    · exact ⟨rfl, rfl, .inr (by rw [hphase]; rfl)⟩
    · exact advances_stay ..
  · exact advances_stepHour (by rw [hphase]; rfl)
  · exact advances_stepMinute (by rw [hphase]; rfl)
  · exact advances_stepHour (by rw [hphase]; rfl)
  · exact advances_stepMinute (by rw [hphase]; rfl)
  · exact advances_stepSetDays hphase
  · unfold stepVerify
    split_ifs <;> exact advances_stay ..
  · unfold stepVerifyGone
    split_ifs <;> exact advances_stay ..

theorem advances_step (h : goal.step model fuel ctx = some result) : goal.Advances result := by
  have hcounted : goal.countStep.Advances result := by
    by_cases hoverdue : goal.Overdue
    · rw [step_of_overdue hoverdue] at h
      cases h
      exact advances_stay ..
    · rw [step_of_not_overdue hoverdue] at h
      exact advances_stepPhase h
  obtain ⟨hop, hprogram, hphase⟩ := hcounted
  simp only [op_countStep, program_countStep, phase_countStep] at hop hprogram hphase
  exact ⟨hop, hprogram, hphase⟩

end

end ScheduleWriteGoal

end AqualinkAutomate.OneTouch
