import Aqualink.Equipment.Actuation
import Aqualink.General.Completions
import Aqualink.General.Runs

/-!
# The newest command

The chlorinator percentage of a body of water, or one of its setpoints, can be set through
several controllers.  A controller that accepts a command has a goal, and when it finishes the
panel has the value.  A touch panel or a OneTouch that has a goal for the chlorinator is busy, so
that the next command goes to the next controller, and then two of them are at it.

The panel ends up with the newest value if no other controller still had a goal when it was
accepted (`newest_wins`), and otherwise with that of the controller that finished last.
-/

namespace AqualinkAutomate.Equipment

open General List Function

/-! ## Requests -/

/-- What is set. -/
inductive Quantity where
  | chlorinatorPercentage (body : BodyOfWaterIds)
  | poolSetpoint
  | spaSetpoint
  deriving DecidableEq

def setpointMinValue : UInt8 := 1

def setpointMaxValue : UInt8 := 104

/-- The dispatcher finds the value invalid itself. -/
def Quantity.rejects (value : UInt8) : Quantity → Bool
  | .chlorinatorPercentage body =>
    decide (100 < value) || (decide (body ≠ .pool) && decide (body ≠ .spa))
  | .poolSetpoint | .spaSetpoint =>
    decide (value < setpointMinValue) || decide (setpointMaxValue < value)

def Quantity.capable : Quantity → ControllerKind → Bool
  | .chlorinatorPercentage _, kind => decide (kind ≠ .serialAdapter)
  | .poolSetpoint, _ | .spaSetpoint, _ => true

def Quantity.whenNone : Quantity → CommandResult
  | .chlorinatorPercentage _ => .deviceNotFound
  | .poolSetpoint | .spaSetpoint => .noSerialAdapter

/-- What a controller is up to when it is asked, apart from a goal for the same quantity. -/
structure Situation where
  emulationActive : Bool := true
  /-- A OneTouch in a state in which it serves no goal. -/
  faulted : Bool := false
  /-- Another goal, a queue or a refresh occupies it. -/
  otherwiseBusy : Bool := false
  /-- A touch panel without a page for the chlorinator. -/
  routeUnavailable : Bool := false
  deriving DecidableEq

/-- `AquaPureWriter::QueuePercentage` -/
def iaqPercentageAnswer (percentage : UInt8) (body : BodyOfWaterIds) (situation : Situation)
    (hasGoal : Bool) : ActuationResult :=
  if 100 < percentage then .invalidValue
  else if body ≠ .pool ∧ body ≠ .spa then .invalidValue
  else if situation.emulationActive = false then .notSupported
  else if hasGoal = true ∨ situation.otherwiseBusy = true then .busy
  else if situation.routeUnavailable then .mappingFailed
  else .accepted

/-- A setpoint replaces whatever a serial adapter or a touch panel was sending. -/
def replacingAnswer (situation : Situation) : ActuationResult :=
  if situation.emulationActive then .accepted else .notSupported

/-- `OneTouchDevice::QueueValueEdit` -/
def valueEditAnswer (situation : Situation) (hasGoal : Bool) : ActuationResult :=
  if situation.emulationActive = false then .notSupported
  else if situation.faulted then .notSupported
  else if hasGoal || situation.otherwiseBusy then .busy
  else .accepted

def Quantity.answer (quantity : Quantity) (value : UInt8) (situation : Situation)
    (hasGoal : Bool) (kind : ControllerKind) : ActuationResult :=
  match quantity, kind with
  | .chlorinatorPercentage body, .iaq => iaqPercentageAnswer value body situation hasGoal
  | .chlorinatorPercentage body, .oneTouch =>
    if body ≠ .pool ∧ body ≠ .spa then .invalidValue else valueEditAnswer situation hasGoal
  | .chlorinatorPercentage _, .serialAdapter => .notSupported
  | .poolSetpoint, .oneTouch | .spaSetpoint, .oneTouch => valueEditAnswer situation hasGoal
  | .poolSetpoint, _ | .spaSetpoint, _ => replacingAnswer situation

def oneTouchChlorinatorStep : ℕ := 5

def roundToStep (percentage : UInt8) : UInt8 :=
  let clamped := if 100 < percentage then 100 else percentage.toNat
  UInt8.ofNat ((clamped + oneTouchChlorinatorStep / 2) / oneTouchChlorinatorStep *
    oneTouchChlorinatorStep)

/-- What the panel has when a controller has carried out a command. -/
def Quantity.landed (quantity : Quantity) (value : UInt8) (kind : ControllerKind) : UInt8 :=
  match quantity, kind with
  | .chlorinatorPercentage _, .oneTouch => roundToStep value
  | _, _ => value

/-! ## Commands in progress -/

/-- The goals of the controllers with the value of the panel, and what was written through. -/
structure CommandState where
  goals : Writers ℕ UInt8
  cached : Option UInt8 := none

inductive CommandEvent where
  /-- A command, with what the controllers are up to and whether the hub knows a
  chlorinator. -/
  | dispatch (value : UInt8) (situations : ℕ → Situation) (chlorinatorKnown : Bool)
  /-- A controller finishes its goal. -/
  | finish (index : ℕ)

section

variable (quantity : Quantity) (kinds : List ControllerKind)

namespace CommandState

def dispatch (state : CommandState) (value : UInt8) (situations : ℕ → Situation) :
    CommandResult × Option Candidate :=
  if quantity.rejects value then (.invalidValue, none)
  else
    dispatchToCapable quantity.capable kinds
      (fun candidate => quantity.answer value (situations candidate.index)
        (state.goals.pending candidate.index).isSome candidate.kind) quantity.whenNone

/-- `WriteThroughChlorinatorSetpoint` -/
def writeThrough (state : CommandState) (value : UInt8) (chlorinatorKnown : Bool) :
    CommandState :=
  match quantity with
  | .chlorinatorPercentage _ =>
    if chlorinatorKnown then { state with cached := some value } else state
  | .poolSetpoint | .spaSetpoint => state

def takeAnswer (state : CommandState) (value : UInt8) (chlorinatorKnown : Bool) :
    CommandResult × Option Candidate → CommandState
  | (.success, some candidate) =>
    writeThrough quantity
      { state with
        goals := state.goals.assign candidate.index (quantity.landed value candidate.kind) }
      value chlorinatorKnown
  | _ => state

def step (state : CommandState) : CommandEvent → CommandState
  | .dispatch value situations chlorinatorKnown =>
    state.takeAnswer quantity value chlorinatorKnown
      (state.dispatch quantity kinds value situations)
  | .finish index => { state with goals := state.goals.finish index }

/-- A command is answered with success by a controller. -/
def Succeeds (state : CommandState) (value : UInt8) (situations : ℕ → Situation)
    (candidate : Candidate) : Prop :=
  state.dispatch quantity kinds value situations = (.success, some candidate)

instance (state : CommandState) (value : UInt8) (situations : ℕ → Situation)
    (candidate : Candidate) :
    Decidable (state.Succeeds quantity kinds value situations candidate) :=
  inferInstanceAs (Decidable (state.dispatch quantity kinds value situations = _))

/-- No command is answered with success. -/
def Unsuccessful (state : CommandState) : CommandEvent → Prop
  | .dispatch value situations _ =>
    (state.dispatch quantity kinds value situations).1 ≠ .success
  | .finish _ => True

instance (state : CommandState) :
    ∀ event, Decidable (state.Unsuccessful quantity kinds event)
  | .dispatch value situations _ =>
    inferInstanceAs (Decidable ((state.dispatch quantity kinds value situations).1 ≠ .success))
  | .finish _ => .isTrue trivial

/-- The controllers before any command. -/
def start (panel : UInt8) (cached : Option UInt8) : CommandState where
  goals := { register := panel }
  cached := cached

variable {quantity : Quantity} {kinds : List ControllerKind} {state : CommandState}
  {value : UInt8} {situations : ℕ → Situation} {candidate : Candidate}

theorem step_of_succeeds (h : state.Succeeds quantity kinds value situations candidate)
    (chlorinatorKnown : Bool) :
    state.step quantity kinds (.dispatch value situations chlorinatorKnown) =
      writeThrough quantity
        { state with
          goals := state.goals.assign candidate.index (quantity.landed value candidate.kind) }
        value chlorinatorKnown := by
  have hanswer : state.dispatch quantity kinds value situations = (.success, some candidate) := h
  unfold step
  dsimp only
  rw [hanswer]
  rfl

theorem takeAnswer_of_ne {chlorinatorKnown : Bool} {answer : CommandResult × Option Candidate}
    (h : answer.1 ≠ .success) :
    state.takeAnswer quantity value chlorinatorKnown answer = state := by
  unfold takeAnswer
  split
  next => exact absurd rfl h
  next => rfl

theorem goals_writeThrough (state : CommandState) (value : UInt8) (chlorinatorKnown : Bool) :
    (state.writeThrough quantity value chlorinatorKnown).goals = state.goals := by
  cases quantity with
  | chlorinatorPercentage body =>
    simp only [writeThrough]
    split <;> rfl
  | poolSetpoint | spaSetpoint => rfl

variable {event : CommandEvent}

theorem cached_of_unsuccessful (h : state.Unsuccessful quantity kinds event) :
    (state.step quantity kinds event).cached = state.cached := by
  cases event with
  | dispatch value situations chlorinatorKnown =>
    exact congrArg CommandState.cached (takeAnswer_of_ne h)
  | finish index => rfl

theorem lands_of_unsuccessful {a : UInt8} (h : state.Unsuccessful quantity kinds event)
    (hlands : state.goals.Lands a) : (state.step quantity kinds event).goals.Lands a := by
  cases event with
  | dispatch value situations chlorinatorKnown =>
    unfold step
    dsimp only
    rwa [takeAnswer_of_ne h]
  | finish index => exact hlands.finish index

/-- After any commands and in any order in which the controllers finish: the percentage that was
written through is the one that was accepted last, and so is what the panel has once every
controller has finished, if no other controller had a goal when it was accepted. -/
theorem newest_wins (quantity : Quantity) (kinds : List ControllerKind) (panel : UInt8)
    (cached : Option UInt8) (before after : List CommandEvent) (value : UInt8)
    (situations : ℕ → Situation) (chlorinatorKnown : Bool) (candidate : Candidate)
    (hsuccess : (before.foldl (step quantity kinds) (start panel cached)).Succeeds quantity kinds
      value situations candidate)
    (hlast : EachStep (step quantity kinds) (Unsuccessful quantity kinds)
      ((before ++ [CommandEvent.dispatch value situations chlorinatorKnown]).foldl
        (step quantity kinds) (start panel cached)) after) :
    let accepting := before.foldl (step quantity kinds) (start panel cached)
    let final := (before ++ CommandEvent.dispatch value situations chlorinatorKnown :: after).foldl
      (step quantity kinds) (start panel cached)
    (∀ body, quantity = .chlorinatorPercentage body → chlorinatorKnown →
      final.cached = some value) ∧
      (accepting.goals.Alone candidate.index → final.goals.Idle →
        final.goals.register = quantity.landed value candidate.kind) := by
  rw [foldl_append, foldl_cons, foldl_nil, step_of_succeeds hsuccess] at hlast
  rw [foldl_append, foldl_cons, step_of_succeeds hsuccess]
  refine ⟨?_, fun halone hidle => ?_⟩
  · rintro body rfl rfl
    refine hlast.foldl_of_step (Q := fun state => state.cached = some value) ?_ ?_
    · intro state event hcached hunsuccessful
      exact (cached_of_unsuccessful hunsuccessful).trans hcached
    · simp [writeThrough]
  · refine Writers.Lands.register_of_idle ?_ hidle
    refine hlast.foldl_of_step
      (Q := fun state => state.goals.Lands (quantity.landed value candidate.kind)) ?_ ?_
    · intro state event hlands hunsuccessful
      exact lands_of_unsuccessful hunsuccessful hlands
    · rw [goals_writeThrough]
      exact Writers.lands_assign halone

/-- The touch panel and the OneTouch are at it for 30 and 50 at a time.  They have finished when 70
is asked for, and while the touch panel sets it both are too busy for 80. -/
theorem newest_wins_iaq :
    let before := [CommandEvent.dispatch 30 (fun _ => {}) true, .dispatch 50 (fun _ => {}) true,
      .finish 1, .finish 0]
    let after := [CommandEvent.dispatch 80 (fun _ => { otherwiseBusy := true }) true, .finish 0]
    let final := (before ++ CommandEvent.dispatch 70 (fun _ => {}) true :: after).foldl
      (step (.chlorinatorPercentage .pool) [.iaq, .oneTouch]) (start 20 none)
    final.cached = some 70 ∧ final.goals.register = 70 := by
  intro before after final
  have h := newest_wins (.chlorinatorPercentage .pool) [.iaq, .oneTouch] 20 none before after 70
    (fun _ => {}) true ⟨0, .iaq⟩ (by decide) (by decide)
  refine ⟨h.1 .pool rfl rfl, h.2 (fun i hi => ?_) fun i => ?_⟩
  · change Function.update (Function.update (Function.update (Function.update (fun _ => none)
      0 (some 30)) 1 (some 50)) 1 none) 0 none i = none
    simp only [update_apply]
    split_ifs <;> rfl
  · change Function.update (Function.update (Function.update (Function.update (Function.update
      (Function.update (fun _ => none) 0 (some 30)) 1 (some 50)) 1 none) 0 none) 0 (some 70))
      0 none i = none
    simp only [update_apply]
    split_ifs <;> rfl

/-- The touch panel is still busy with 30 when 70 is asked for, so the OneTouch takes that, and
the touch panel finishes last: the panel has 30, while 70 was answered with success and written
through. -/
theorem busy_controller_finishes_last :
    ¬ ∀ (kinds : List ControllerKind) (events : List CommandEvent) (value : UInt8)
      (situations : ℕ → Situation) (candidate : Candidate) (after : List CommandEvent),
      (events.foldl (step (.chlorinatorPercentage .pool) kinds) (start 0 none)).Succeeds
        (.chlorinatorPercentage .pool) kinds value situations candidate →
      EachStep (step (.chlorinatorPercentage .pool) kinds)
        (Unsuccessful (.chlorinatorPercentage .pool) kinds)
        ((events ++ [CommandEvent.dispatch value situations true]).foldl
          (step (.chlorinatorPercentage .pool) kinds) (start 0 none)) after →
      ((events ++ CommandEvent.dispatch value situations true :: after).foldl
        (step (.chlorinatorPercentage .pool) kinds) (start 0 none)).goals.Idle →
      ((events ++ CommandEvent.dispatch value situations true :: after).foldl
        (step (.chlorinatorPercentage .pool) kinds) (start 0 none)).goals.register = value := by
  intro hall
  have hpanel := hall [.iaq, .oneTouch] [.dispatch 30 (fun _ => {}) true] 70 (fun _ => {})
    ⟨1, .oneTouch⟩ [.finish 1, .finish 0] (by decide) (by decide) fun i => by
      change Function.update (Function.update (Function.update (Function.update (fun _ => none)
        0 (some 30)) 1 (some 70)) 1 none) 0 none i = none
      simp only [update_apply]
      split_ifs <;> rfl
  revert hpanel
  decide

end CommandState

end

end AqualinkAutomate.Equipment
