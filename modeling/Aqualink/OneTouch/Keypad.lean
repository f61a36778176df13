import Aqualink.Navigation.Navigator
import Aqualink.General.Runs

/-!
# Goals on the keypad

A goal is something the keypad is to do: switch a device, edit a value.  It works on one
`KeypadContext` after the other, which is what there is of the keypad at that time: the
screen, the cursor, and the navigator that all goals share.  A step of a goal emits at most
one key and ends with a status, and as long as that is `running` the goal has another step
when the next message arrives.

`KeypadGoal` is what the keypad knows of its goals.  A step shows the screen to the
navigator, which may take any number of passes, so it has no result if they are more than
the given number.
-/

namespace AqualinkAutomate.Navigation.Navigator

def isComplete (nav : Navigator) : Bool := nav.state = .atDestination || nav.state = .failed

def isSuccess (nav : Navigator) : Bool := nav.state = .atDestination

end AqualinkAutomate.Navigation.Navigator

namespace AqualinkAutomate.OneTouch

open Navigation

inductive KeyCommand where
  | noKeyCommand | pageDownOrSelect1 | backOrSelect2 | pageUpOrSelect3 | select | lineDown | lineUp
  deriving DecidableEq

def convertNavKeyCommand : NavKeyCommand → KeyCommand
  | .noCommand => .noKeyCommand
  | .pageDownOrSelect1 => .pageDownOrSelect1
  | .back => .backOrSelect2
  | .pageUpOrSelect3 => .pageUpOrSelect3
  | .select => .select
  | .lineDown => .lineDown
  | .lineUp => .lineUp

structure KeypadContext where
  page : ScreenDataPage
  highlightedLine : UInt8
  navigator : Navigator
  emittedKey : Option NavKeyCommand := none

namespace KeypadContext

def emit (ctx : KeypadContext) (key : NavKeyCommand) : KeypadContext :=
  { ctx with emittedKey := some key }

/-- Press the cursor a line towards a line, unless it is there.  Where no line is
highlighted, a key brings the cursor up first. -/
def moveCursorToward (ctx : KeypadContext) (targetLine : UInt8) : KeypadContext × Bool :=
  if ctx.highlightedLine = targetLine then (ctx, true)
  else if ctx.highlightedLine = cursorLineNone then (ctx.emit .lineDown, false)
  else (ctx.emit (if ctx.highlightedLine < targetLine then .lineDown else .lineUp), false)

theorem moveCursorToward_cases (ctx : KeypadContext) (line : UInt8) :
    (ctx.highlightedLine = line ∧ ctx.moveCursorToward line = (ctx, true)) ∨
      (ctx.highlightedLine ≠ line ∧ ∃ key, key ≠ .select ∧
        ctx.moveCursorToward line = (ctx.emit key, false)) := by
  unfold moveCursorToward
  split
  next honLine => exact .inl ⟨honLine, rfl⟩
  next hoffLine =>
    refine .inr ⟨hoffLine, ?_⟩
    split
    · exact ⟨_, by decide, rfl⟩
    · exact ⟨_, by split <;> decide, rfl⟩

def followNavigator (model : MenuModel) (fuel : ℕ) (ctx : KeypadContext) : Option KeypadContext :=
  (respond model fuel ctx.navigator (.pageUpdate ctx.page ctx.highlightedLine)).map fun answer =>
    { ctx with
      navigator := answer.1
      emittedKey := answer.2.or ctx.emittedKey }

end KeypadContext

inductive GoalStatus where
  | running | done | failed
  deriving DecidableEq

structure GoalStep (γ : Type*) where
  goal : γ
  context : KeypadContext
  status : GoalStatus

class KeypadGoal (γ : Type*) where
  step (model : MenuModel) (fuel : ℕ) (goal : γ) (ctx : KeypadContext) : Option (GoalStep γ)

/-! ## Switching a device -/

/-- Select the row of a device on the equipment page. -/
structure ToggleGoal where
  label : Text
  started : Bool := false
  stepCount : ℕ := 0

namespace ToggleGoal

abbrev stepLimit : ℕ := 500

/-- The first step sends the navigator off. -/
def start (goal : ToggleGoal) (ctx : KeypadContext) : ToggleGoal × KeypadContext :=
  if goal.started then
    (goal, ctx)
  else
    ({ goal with started := true, stepCount := 0 }, { ctx with
        navigator := ctx.navigator.navigateToItem .equipmentOnOff 0 goal.label .equipmentOnOff })

def status (goal : ToggleGoal) (ctx : KeypadContext) : GoalStatus :=
  if stepLimit < goal.stepCount then
    .failed
  else if ctx.navigator.isComplete then
    if ctx.navigator.isSuccess then .done else .failed
  else
    .running

def step (model : MenuModel) (fuel : ℕ) (goal : ToggleGoal) (ctx : KeypadContext) :
    Option (GoalStep ToggleGoal) :=
  let (goal, ctx) := goal.start ctx
  (ctx.followNavigator model fuel).map fun ctx =>
    let goal := { goal with stepCount := goal.stepCount + 1 }
    ⟨goal, ctx, goal.status ctx⟩

instance : KeypadGoal ToggleGoal where
  step := step

end ToggleGoal

/-! ## Editing a value -/

/-- The value is an `int`; a run of digits that does not fit wraps around. -/
def firstNumberFrom : Option Int32 → Text → Option Int32
  | value, [] => value
  | value, c :: text =>
    if c.isDigit then
      firstNumberFrom (some (value.getD 0 * 10 + .ofNat (c.toNat - '0'.toNat))) text
    else if value.isSome then
      value
    else
      firstNumberFrom none text

/-- The number that the first run of digits in a text is read as. -/
def firstNumber (text : Text) : Option Int32 := firstNumberFrom none text

example : firstNumber "Pool 4294967377 9".toList = some 81 := by decide +kernel

def displayedValue (page : ScreenDataPage) (line : UInt8) : Option Int32 :=
  (page.rows[line.toNat]?).bind fun row => firstNumber row.text

/-- `ValueEditGoal::Phase`. -/
inductive EditPhase where
  | navigating | beginEdit | stepping | commit
  deriving DecidableEq

/-- Edit the value in a row: open the editor, press arrows until the row shows the target,
and leave the editor. -/
structure ValueEditGoal where
  page : PageId
  line : UInt8
  label : Text
  target : Int32
  phase : EditPhase := .navigating
  started : Bool := false
  stepCount : ℕ := 0

namespace ValueEditGoal

abbrev stepLimit : ℕ := 500

/-- The first step sends the navigator to the row; no page is to be entered from there. -/
def start (goal : ValueEditGoal) (ctx : KeypadContext) : ValueEditGoal × KeypadContext :=
  if goal.started then
    (goal, ctx)
  else
    ({ goal with started := true, stepCount := 0 }, { ctx with
        navigator := ctx.navigator.navigateToItem goal.page goal.line goal.label .unknown })

/-- Open the editor once the cursor is on the row. -/
def arrive (goal : ValueEditGoal) (ctx : KeypadContext) : GoalStep ValueEditGoal :=
  if ctx.navigator.isComplete then
    if ctx.navigator.isSuccess then
      ⟨{ goal with phase := .beginEdit }, ctx, .running⟩
    else
      ⟨goal, ctx, .failed⟩
  else
    ⟨goal, ctx, .running⟩

def stepNavigating (model : MenuModel) (fuel : ℕ) (goal : ValueEditGoal) (ctx : KeypadContext) :
    Option (GoalStep ValueEditGoal) :=
  let (goal, ctx) := goal.start ctx
  (ctx.followNavigator model fuel).map fun ctx => goal.arrive ctx

def stepBeginEdit (goal : ValueEditGoal) (ctx : KeypadContext) : GoalStep ValueEditGoal :=
  if displayedValue ctx.page goal.line = some goal.target then
    ⟨goal, ctx, .done⟩
  else
    ⟨{ goal with phase := .stepping }, ctx.emit .select, .running⟩

/-- Press an arrow towards the target. -/
def stepStepping (goal : ValueEditGoal) (ctx : KeypadContext) : GoalStep ValueEditGoal :=
  match displayedValue ctx.page goal.line with
  | none => ⟨goal, ctx, .running⟩
  | some current =>
    if current = goal.target then
      ⟨{ goal with phase := .commit }, ctx, .running⟩
    else
      ⟨goal, ctx.emit (if current < goal.target then .lineUp else .lineDown), .running⟩

def stepPhase (model : MenuModel) (fuel : ℕ) (goal : ValueEditGoal) (ctx : KeypadContext) :
    Option (GoalStep ValueEditGoal) :=
  match goal.phase with
  | .navigating => goal.stepNavigating model fuel ctx
  | .beginEdit => some (goal.stepBeginEdit ctx)
  | .stepping => some (goal.stepStepping ctx)
  | .commit => some ⟨goal, ctx.emit .select, .done⟩

def countStep (goal : ValueEditGoal) : ValueEditGoal :=
  if goal.started then { goal with stepCount := goal.stepCount + 1 } else goal

def step (model : MenuModel) (fuel : ℕ) (goal : ValueEditGoal) (ctx : KeypadContext) :
    Option (GoalStep ValueEditGoal) :=
  let goal := goal.countStep
  if goal.started ∧ stepLimit < goal.stepCount then
    some ⟨goal, ctx, .failed⟩
  else
    goal.stepPhase model fuel ctx

instance : KeypadGoal ValueEditGoal where
  step := step

end ValueEditGoal

/-!
## A goal and the screens it is shown

A goal sees one screen after the other and answers with keys.  `GoalRun` follows a goal from
its start, together with the navigator it drives and the key that waits: a key leaves with
the next status message, unless another takes its place before.

A screen is as the controller has drawn it by then, which may be in the middle of a page.
-/

structure ShownScreen where
  page : ScreenDataPage
  highlightedLine : UInt8
  /-- The message is a status message. -/
  atStatus : Bool
  /-- Nothing has been drawn since the last status message. -/
  rendered : Bool := atStatus
  deriving DecidableEq

structure GoalRun (γ : Type*) where
  /-- The goal, until it ends. -/
  goal : Option γ
  navigator : Navigator := {}
  waiting : Option NavKeyCommand := none

namespace GoalRun

variable {γ : Type*}

def context (run : GoalRun γ) (screen : ShownScreen) : KeypadContext where
  page := screen.page
  highlightedLine := screen.highlightedLine
  navigator := if screen.atStatus then run.navigator.onStatusMessageReceived else run.navigator

def settle (run : GoalRun γ) (screen : ShownScreen) (result : GoalStep γ) : GoalRun γ where
  goal := if result.status = .running then some result.goal else none
  navigator :=
    if result.status = .running then result.context.navigator else result.context.navigator.reset
  waiting := if screen.atStatus then none else result.context.emittedKey.or run.waiting

/-- What the goal makes of a screen, if no answer of the navigator takes more passes. -/
def attempt [KeypadGoal γ] (model : MenuModel) (fuel : ℕ) (run : GoalRun γ)
    (screen : ShownScreen) : Option (GoalRun γ) :=
  match run.goal with
  | none => some { run with waiting := if screen.atStatus then none else run.waiting }
  | some goal =>
    (KeypadGoal.step model fuel goal (run.context screen)).map (run.settle screen)

end GoalRun

end AqualinkAutomate.OneTouch
