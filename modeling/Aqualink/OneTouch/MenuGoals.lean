import Aqualink.OneTouch.ScheduleWriteGoal

/-!
# The other goals on the keypad

The boost of the chlorinator is started and stopped on a page of its own.  The function of a
button of a spa-side switch is assigned in a part of the set-up menu that the navigator does
not know, so from there on the goal goes by what the screen says.

`OneTouchGoal` is one of all goals there are.
-/

namespace AqualinkAutomate.OneTouch

open General Navigation

/-! ## The boost -/

/-- `BoostGoal::Phase`. -/
inductive BoostPhase where
  | navigating | acting | settle
  deriving DecidableEq

/-- Start or stop the boost. -/
structure BoostGoal where
  start : Bool
  phase : BoostPhase := .navigating
  started : Bool := false
  stepCount : ℕ := 0
  deriving DecidableEq

namespace BoostGoal

abbrev stepLimit : ℕ := 500

/-- The page shows the time that is left of a boost. -/
def boostIsRunning (page : ScreenDataPage) : Bool :=
  page.rows.any fun row => containsText row.text "Time Remaining".toList

/-- Nothing is pressed where the boost already is as it should be. -/
def act (goal : BoostGoal) (ctx : KeypadContext) : GoalStep BoostGoal :=
  if goal.start = boostIsRunning ctx.page then
    ⟨goal, ctx, .done⟩
  else if goal.start then
    ⟨{ goal with phase := .settle }, ctx.emit .select, .running⟩
  else
    ⟨{ goal with phase := .acting },
      { ctx with navigator := ctx.navigator.navigateToItem .boost 0 "Stop".toList .boost },
      .running⟩

def stepNavigating (model : MenuModel) (fuel : ℕ) (goal : BoostGoal) (ctx : KeypadContext) :
    Option (GoalStep BoostGoal) :=
  let (goal, ctx) :=
    if goal.started then (goal, ctx)
    else
      ({ goal with started := true, stepCount := 0 },
        { ctx with navigator := ctx.navigator.navigateTo .boost })
  (ctx.followNavigator model fuel).map fun ctx =>
    if ctx.navigator.isComplete then
      if ctx.navigator.isSuccess then goal.act ctx else ⟨goal, ctx, .failed⟩
    else ⟨goal, ctx, .running⟩

def stepActing (model : MenuModel) (fuel : ℕ) (goal : BoostGoal) (ctx : KeypadContext) :
    Option (GoalStep BoostGoal) :=
  (ctx.followNavigator model fuel).map fun ctx =>
    if ctx.navigator.isComplete then
      ⟨goal, ctx, if ctx.navigator.isSuccess then .done else .failed⟩
    else ⟨goal, ctx, .running⟩

def stepPhase (model : MenuModel) (fuel : ℕ) (goal : BoostGoal) (ctx : KeypadContext) :
    Option (GoalStep BoostGoal) :=
  match goal.phase with
  | .navigating => goal.stepNavigating model fuel ctx
  | .acting => goal.stepActing model fuel ctx
  | .settle => some ⟨goal, ctx, .done⟩

def countStep (goal : BoostGoal) : BoostGoal :=
  if goal.started then { goal with stepCount := goal.stepCount + 1 } else goal

def step (model : MenuModel) (fuel : ℕ) (goal : BoostGoal) (ctx : KeypadContext) :
    Option (GoalStep BoostGoal) :=
  let goal := goal.countStep
  if goal.started ∧ stepLimit < goal.stepCount then
    some ⟨goal, ctx, .failed⟩
  else
    goal.stepPhase model fuel ctx

instance : KeypadGoal BoostGoal where
  step := step

end BoostGoal

/-! ## A button of a spa-side switch -/

/-- `SpaSwitchGoal::Phase`. -/
inductive SpaSwitchPhase where
  | toSystemSetup | selectSpaSwitch | passNumberPage | toRow | cyclePicker | commit
  deriving DecidableEq

/-- Give a button of a spa switch a function. -/
structure SpaSwitchGoal where
  switchNumber : UInt8
  buttonNumber : UInt8
  function : Text
  phase : SpaSwitchPhase := .toSystemSetup
  started : Bool := false
  stepCount : ℕ := 0
  cursorStuck : ℕ := 0
  pickerFirstSeen : Option Text := none
  deriving DecidableEq

namespace SpaSwitchGoal

abbrev stepLimit : ℕ := 800
abbrev maxScroll : ℕ := 40
abbrev pickerFunctionLine : ℕ := 3

/-- How the row of the button begins, as in `1:2`. -/
def rowTag (goal : SpaSwitchGoal) : Text :=
  Nat.toDigits 10 goal.switchNumber.toNat ++ ":".toList ++ Nat.toDigits 10 goal.buttonNumber.toNat

def handleToSystemSetup (model : MenuModel) (fuel : ℕ) (goal : SpaSwitchGoal)
    (ctx : KeypadContext) : Option (GoalStep SpaSwitchGoal) :=
  let (goal, ctx) :=
    if goal.started then (goal, ctx)
    else
      ({ goal with started := true, stepCount := 0 },
        { ctx with navigator := ctx.navigator.navigateTo .systemSetup })
  (ctx.followNavigator model fuel).map fun ctx =>
    if ctx.navigator.isComplete then
      if ctx.navigator.isSuccess then
        ⟨{ goal with phase := .selectSpaSwitch, cursorStuck := 0 },
          { ctx with navigator := ctx.navigator.reset }, .running⟩
      else ⟨goal, ctx, .failed⟩
    else ⟨goal, ctx, .running⟩

/-- The cursor walks to the row with the label, or down the page until the row comes. -/
def selectRow (goal : SpaSwitchGoal) (ctx : KeypadContext) (label : Text)
    (select : SpaSwitchGoal → SpaSwitchGoal) : GoalStep SpaSwitchGoal :=
  match findLineStartingWith ctx.page label with
  | some line =>
    let goal := { goal with cursorStuck := 0 }
    match ctx.moveCursorToward line with
    | (ctx, true) => ⟨select goal, ctx.emit .select, .running⟩
    | (ctx, false) => ⟨goal, ctx, .running⟩
  | none =>
    let goal := { goal with cursorStuck := goal.cursorStuck + 1 }
    ⟨goal, ctx.emit .lineDown, if maxScroll < goal.cursorStuck then .failed else .running⟩

def handleSelectSpaSwitch (goal : SpaSwitchGoal) (ctx : KeypadContext) : GoalStep SpaSwitchGoal :=
  goal.selectRow ctx "Spa Switch".toList fun goal => { goal with phase := .passNumberPage }

def handlePassNumberPage (goal : SpaSwitchGoal) (ctx : KeypadContext) : GoalStep SpaSwitchGoal :=
  if lineText ctx.page 1 = "Setup".toList then
    ⟨{ goal with phase := .toRow, cursorStuck := 0 }, ctx.emit .select, .running⟩
  else ⟨goal, ctx, .running⟩

def handleToRow (goal : SpaSwitchGoal) (ctx : KeypadContext) : GoalStep SpaSwitchGoal :=
  if containsText (lineText ctx.page 1) "Button Setup".toList then
    goal.selectRow ctx goal.rowTag fun goal =>
      { goal with phase := .cyclePicker, pickerFirstSeen := none }
  else ⟨goal, ctx, .running⟩

/-- The picker is turned until it shows the function, for one lap at most. -/
def turnPicker (goal : SpaSwitchGoal) (ctx : KeypadContext) (shown : Text) :
    GoalStep SpaSwitchGoal :=
  if equalsCaseInsensitive shown goal.function then
    ⟨{ goal with phase := .commit }, ctx, .running⟩
  else
    match goal.pickerFirstSeen with
    | none => ⟨{ goal with pickerFirstSeen := some shown }, ctx.emit .lineUp, .running⟩
    | some first =>
      if equalsCaseInsensitive shown first then ⟨goal, ctx, .failed⟩
      else ⟨goal, ctx.emit .lineUp, .running⟩

def handleCyclePicker (goal : SpaSwitchGoal) (ctx : KeypadContext) : GoalStep SpaSwitchGoal :=
  if containsText (lineText ctx.page 1) "Button".toList = true ∧
      containsText (lineText ctx.page 1) goal.rowTag = true then
    match displayedFunctionOnRow ctx.page pickerFunctionLine with
    | none => ⟨goal, ctx, .running⟩
    | some shown => goal.turnPicker ctx shown
  else ⟨goal, ctx, .running⟩

def stepPhase (model : MenuModel) (fuel : ℕ) (goal : SpaSwitchGoal) (ctx : KeypadContext) :
    Option (GoalStep SpaSwitchGoal) :=
  match goal.phase with
  | .toSystemSetup => goal.handleToSystemSetup model fuel ctx
  | .selectSpaSwitch => some (goal.handleSelectSpaSwitch ctx)
  | .passNumberPage => some (goal.handlePassNumberPage ctx)
  | .toRow => some (goal.handleToRow ctx)
  | .cyclePicker => some (goal.handleCyclePicker ctx)
  | .commit => some ⟨goal, ctx.emit .select, .done⟩

def countStep (goal : SpaSwitchGoal) : SpaSwitchGoal :=
  if goal.started then { goal with stepCount := goal.stepCount + 1 } else goal

def step (model : MenuModel) (fuel : ℕ) (goal : SpaSwitchGoal) (ctx : KeypadContext) :
    Option (GoalStep SpaSwitchGoal) :=
  let goal := goal.countStep
  if goal.started ∧ stepLimit < goal.stepCount then
    some ⟨goal, ctx, .failed⟩
  else
    goal.stepPhase model fuel ctx

instance : KeypadGoal SpaSwitchGoal where
  step := step

end SpaSwitchGoal

/-! ## All goals -/

namespace GoalStep

def map {γ δ : Type*} (f : γ → δ) (result : GoalStep γ) : GoalStep δ :=
  ⟨f result.goal, result.context, result.status⟩

end GoalStep

/-- What the keypad can be asked for. -/
inductive OneTouchGoal where
  | toggle (goal : ToggleGoal)
  | valueEdit (goal : ValueEditGoal)
  | boost (goal : BoostGoal)
  | spaSwitch (goal : SpaSwitchGoal)
  | scheduleWrite (goal : ScheduleWriteGoal)

namespace OneTouchGoal

def step (model : MenuModel) (fuel : ℕ) (goal : OneTouchGoal) (ctx : KeypadContext) :
    Option (GoalStep OneTouchGoal) :=
  match goal with
  | .toggle goal => (goal.step model fuel ctx).map (GoalStep.map .toggle)
  | .valueEdit goal => (goal.step model fuel ctx).map (GoalStep.map .valueEdit)
  | .boost goal => (goal.step model fuel ctx).map (GoalStep.map .boost)
  | .spaSwitch goal => (goal.step model fuel ctx).map (GoalStep.map .spaSwitch)
  | .scheduleWrite goal => (goal.step model fuel ctx).map (GoalStep.map .scheduleWrite)

instance : KeypadGoal OneTouchGoal where
  step := step

end OneTouchGoal

end AqualinkAutomate.OneTouch
