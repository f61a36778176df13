import Aqualink.OneTouch.ScheduleWriteGoal

/-!
# Which program is deleted or changed

On the page of the equipment the goal selects the row that deletes or changes the program on
it.  The page may be another one than the goal is for: it was on the screen before, or the
list gave a longer name that begins with the target, or the equipment has several programs.
The goal does not look, so it acts on its own program exactly as long as every page on which
it acts is one of its own (`acts_on_own_iff`).
-/

namespace AqualinkAutomate.OneTouch

open General Navigation Scheduling

namespace ScheduleWriteGoal

variable {goal : ScheduleWriteGoal} {ctx : KeypadContext}

/-! ## The row that is selected -/

def SelectsAction (goal : ScheduleWriteGoal) (page : ScreenDataPage) (highlightedLine : UInt8) :
    Prop :=
  onDetailPage page = true ∧ highlightedLine = actionRow goal.op ∧
    (goal.op = .delete → showsNoPrograms page = false)

instance (goal : ScheduleWriteGoal) (page : ScreenDataPage) (highlightedLine : UInt8) :
    Decidable (goal.SelectsAction page highlightedLine) := by
  unfold SelectsAction
  infer_instance

theorem emits_select_stepChooseAction_iff (hctx : ctx.emittedKey = none) :
    (goal.stepChooseAction ctx).context.emittedKey = some .select ↔
      goal.SelectsAction ctx.page ctx.highlightedLine := by
  have hquiet : ctx.emittedKey ≠ some .select := by
    rw [hctx]
    exact Option.some_ne_none _ ∘ Eq.symm
  unfold stepChooseAction SelectsAction
  split
  next hdetail =>
    simp only [hdetail, true_and]
    split
    next hdelete =>
      rw [hdelete]
      simp only [actionRow, true_imp_iff]
      split
      next hempty => simp [hquiet, hempty]
      next hsome =>
        rcases ctx.moveCursorToward_cases deleteRow with
          ⟨honRow, heq⟩ | ⟨hoffRow, key, hkey, heq⟩ <;> rw [heq]
        · simp [KeypadContext.emit, honRow, hsome]
        · simp [KeypadContext.emit, hoffRow, hkey]
    next hop =>
      rcases ctx.moveCursorToward_cases (actionRow goal.op) with
        ⟨honRow, heq⟩ | ⟨hoffRow, key, hkey, heq⟩ <;> rw [heq]
      · simp [KeypadContext.emit, honRow, hop]
      · simp [KeypadContext.emit, hoffRow, hkey]
  next hother => simp [hquiet, hother]

/-! ## Whose program it is -/

def ShowsEquipment (program : ControllerSchedule) (page : ScreenDataPage) : Prop :=
  (parseProgramDetailPage page).any (fun parsed =>
    equalsCaseInsensitive parsed.target program.target) = true

def ShowsOwn (goal : ScheduleWriteGoal) (page : ScreenDataPage) : Prop :=
  ShowsEquipment goal.program page ∧
    (goal.op = .delete → (parseProgramDetailPage page).any (isProgram goal.program) = true)

instance (goal : ScheduleWriteGoal) (page : ScreenDataPage) : Decidable (goal.ShowsOwn page) := by
  unfold ShowsOwn ShowsEquipment
  infer_instance

end ScheduleWriteGoal

namespace GoalRun

open ScheduleWriteGoal

variable {run : GoalRun ScheduleWriteGoal} {screen : ShownScreen} {model : MenuModel} {fuel : ℕ}

/-- Where the goal selects the row that deletes or changes a program, its own is shown. -/
def ActsOnOwn (model : MenuModel) (fuel : ℕ) (run : GoalRun ScheduleWriteGoal)
    (screen : ShownScreen) : Prop :=
  ∀ goal ∈ run.goal, ∀ result, goal.step model fuel (run.context screen) = some result →
    goal.phase = .chooseAction → goal.op ≠ .create → result.context.emittedKey = some .select →
    goal.ShowsOwn screen.page

/-- Where the cursor is on the row for the operation, on the page of some equipment, that is
the page of the goal's own program. -/
def FindsOwn (run : GoalRun ScheduleWriteGoal) (screen : ShownScreen) : Prop :=
  ∀ goal ∈ run.goal, ¬ goal.Overdue → goal.phase = .chooseAction → goal.op ≠ .create →
    goal.SelectsAction screen.page screen.highlightedLine → goal.ShowsOwn screen.page

instance (run : GoalRun ScheduleWriteGoal) (screen : ShownScreen) :
    Decidable (run.FindsOwn screen) := by
  unfold FindsOwn
  infer_instance

theorem actsOnOwn_iff : run.ActsOnOwn model fuel screen ↔ run.FindsOwn screen := by
  unfold ActsOnOwn FindsOwn
  refine forall₂_congr fun goal _ => ?_
  by_cases hoverdue : goal.Overdue
  · rw [step_of_overdue hoverdue]
    refine iff_of_true ?_ fun hnot => absurd hoverdue hnot
    rintro result hresult - - hselect
    cases hresult
    cases hselect
  · rw [step_of_not_overdue hoverdue]
    simp only [hoverdue, not_false_eq_true, true_imp_iff]
    constructor
    · intro hsafe hphase hop hselects
      have hstep : goal.countStep.stepPhase model fuel (run.context screen) =
          some (goal.countStep.stepChooseAction (run.context screen)) := by
        rw [stepPhase, phase_countStep, hphase]
      refine hsafe _ hstep hphase hop ((emits_select_stepChooseAction_iff rfl).mpr ?_)
      rwa [SelectsAction, op_countStep]
    · intro hown result hresult hphase hop hselect
      rw [stepPhase, phase_countStep, hphase] at hresult
      cases hresult
      have hselects := (emits_select_stepChooseAction_iff rfl).mp hselect
      rw [SelectsAction, op_countStep] at hselects
      exact hown hphase hop hselects

end GoalRun

/-- Whatever the controller shows, and wherever the navigator is when the goal begins: the goal
deletes and changes its own program only, exactly as long as it finds no other on the page
whose row it selects. -/
theorem acts_on_own_iff (model : MenuModel) (fuel : ℕ) (op : ScheduleWriteOp)
    (program : ControllerSchedule) (navigator : Navigator) (screens : List ShownScreen) :
    EachStepTaken (GoalRun.attempt model fuel) (GoalRun.ActsOnOwn model fuel)
        { goal := some { op := op, program := program }, navigator := navigator } screens ↔
      EachStepTaken (GoalRun.attempt model fuel) GoalRun.FindsOwn
        { goal := some { op := op, program := program }, navigator := navigator } screens :=
  eachStepTaken_congr (I := fun _ => True) (fun _ _ _ _ _ => trivial)
    (fun _ _ _ _ _ => GoalRun.actsOnOwn_iff) trivial

/-! ### Two programs of one pump -/

def programModel : MenuModel where
  pages := [{ id := .program, detectors := [{ line := 0, pattern := "Program".toList }] }]

def programList : ScreenDataPage where
  rows := ["Program", "", "Filter Pump"].map fun text => { text := text.toList }

def firstOfTwo : ScreenDataPage where
  rows := ["Filter Pump", "", "Pgm 1 of 2", "ON   8:00 AM", "OFF 10:30 PM", "Weekdays", "", "", "",
    "Add Program", "Delete Program", "Change Program"].map fun text => { text := text.toList }

def morningProgram : ControllerSchedule where
  target := "Filter Pump".toList
  daysOfWeek := DayMask.weekends
  onHour := 9
  offHour := 11

def deleteMorning : GoalRun ScheduleWriteGoal where
  goal := some { op := .delete, program := morningProgram }

/-- The list, with the cursor on the pump, and then its page with the cursor on the row that
deletes the program. -/
def deletionScreens : List ShownScreen :=
  [⟨programList, 2, true, true⟩, ⟨programList, 2, true, true⟩, ⟨firstOfTwo, 10, true, true⟩]

/-- The second program is to be deleted, and the first one is. -/
theorem first_program_deleted_for_second :
    ¬ EachStepTaken (GoalRun.attempt programModel 9) (GoalRun.ActsOnOwn programModel 9)
      deleteMorning deletionScreens := by
  intro h
  have hfinds := (eachStepTaken_congr (I := fun _ => True) (fun _ _ _ _ _ => trivial)
    (fun _ _ _ _ _ => GoalRun.actsOnOwn_iff) trivial).mp h
  revert hfinds
  decide +kernel

end AqualinkAutomate.OneTouch
