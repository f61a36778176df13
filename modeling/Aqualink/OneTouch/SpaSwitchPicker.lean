import Aqualink.General.Wheel
import Aqualink.OneTouch.MenuGoals

/-!
# The picker of a spa-side switch

The picker offers its functions one at a time, and LineUp turns it to the next one, round and
round.  The goal turns it until it shows the function that is asked for and presses Select; if it
shows again what it showed first, the function is not offered.

The goal steps with every message, whatever the screen has on it by then.  If every key has reached
the picker and been drawn before the goal's next step (`Prompt`), the goal selects the function if
it is offered, selects no other, and gives up only if it is not (`picker_search`).
-/

namespace AqualinkAutomate.OneTouch

open General Navigation List

structure SpaPicker (rowTag : Text) where
  /-- What it offers, in the order in which LineUp goes through it. -/
  functions : List Text
  nodup : functions.Nodup
  draw : Text → ScreenDataPage
  titled : ∀ function ∈ functions,
    containsText (lineText (draw function) 1) "Button".toList = true ∧
      containsText (lineText (draw function) 1) rowTag = true
  shows : ∀ function ∈ functions,
    displayedFunctionOnRow (draw function) SpaSwitchGoal.pickerFunctionLine = some function

abbrev SpaPicker.Place {rowTag : Text} (picker : SpaPicker rowTag) : Type :=
  Fin picker.functions.length

namespace SpaPicker

variable {rowTag : Text} (picker : SpaPicker rowTag)

def functionAt (place : picker.Place) : Text := picker.functions[place]

/-- LineUp turns to the next place, and from the last one to the first. -/
def up (place : picker.Place) : picker.Place :=
  ⟨Wheel.up picker.functions.length place, Wheel.up_lt place.isLt⟩

def after (place : picker.Place) (turns : ℕ) : picker.Place :=
  ⟨(place + turns) % picker.functions.length, Nat.mod_lt _ (by have := place.isLt; omega)⟩

def CaseApart : Prop :=
  ∀ first second : picker.Place,
    equalsCaseInsensitive (picker.functionAt first) (picker.functionAt second) = true →
      first = second

instance : Decidable picker.CaseApart :=
  inferInstanceAs (Decidable (∀ _ _ : Fin _, _ → _))

def ShowsAt (function : Text) (place : picker.Place) : Prop :=
  equalsCaseInsensitive (picker.functionAt place) function = true

instance (function : Text) (place : picker.Place) : Decidable (picker.ShowsAt function place) :=
  inferInstanceAs (Decidable (_ = true))

def Offers (function : Text) : Prop := ∃ place, picker.ShowsAt function place

theorem up_after (place : picker.Place) (turns : ℕ) :
    picker.up (picker.after place turns) = picker.after place (turns + 1) :=
  Fin.ext (Wheel.up_add_mod _ _ _)

theorem after_zero (place : picker.Place) : picker.after place 0 = place :=
  Fin.ext (Nat.mod_eq_of_lt place.isLt)

theorem exists_after (start place : picker.Place) :
    ∃ turns < picker.functions.length, picker.after start turns = place := by
  obtain ⟨turns, hlt, hplace⟩ := Wheel.exists_add_mod_eq start.isLt place.isLt
  exact ⟨turns, hlt, Fin.ext hplace⟩

theorem after_eq_self_iff {start : picker.Place} {turns : ℕ} (hpos : 0 < turns)
    (hturns : turns ≤ picker.functions.length) :
    picker.after start turns = start ↔ turns = picker.functions.length := by
  rw [Fin.ext_iff]
  exact Wheel.add_mod_eq_self_iff start.isLt hpos hturns

end SpaPicker

/-! ## The goal and the picker -/

structure PickerLoop {rowTag : Text} (picker : SpaPicker rowTag) where
  /-- The goal, until it ends. -/
  goal : Option SpaSwitchGoal
  status : GoalStatus := .running
  /-- The key that has not reached the picker yet. -/
  waiting : Option NavKeyCommand := none
  position : picker.Place
  /-- The place that the screen shows. -/
  shown : picker.Place
  /-- What was shown when the goal pressed Select. -/
  pressed : Option picker.Place := none
  /-- Where the picker was when Select reached it. -/
  selected : Option picker.Place := none

/-- What happens between the goal and the picker: a message, which may be a status message, or
the screen is drawn. -/
inductive PickerEvent where
  | message (atStatus : Bool)
  | echo
  deriving DecidableEq

namespace PickerLoop

variable {rowTag : Text} {picker : SpaPicker rowTag}

/-- The picker takes a key. -/
def receive (loop : PickerLoop picker) : NavKeyCommand → PickerLoop picker
  | .lineUp => { loop with position := picker.up loop.position }
  | .select => { loop with selected := some loop.position }
  | _ => loop

/-- The key that waits is sent with the answer to a status message. -/
def answer (loop : PickerLoop picker) (atStatus : Bool) : PickerLoop picker :=
  match atStatus, loop.waiting with
  | true, some key => { loop.receive key with waiting := none }
  | _, _ => loop

def context (loop : PickerLoop picker) : KeypadContext where
  page := picker.draw (picker.functionAt loop.shown)
  highlightedLine := cursorLineNone
  navigator := {}

def settle (loop : PickerLoop picker) (result : GoalStep SpaSwitchGoal) : PickerLoop picker :=
  { loop with
    goal := if result.status = .running then some result.goal else none
    status := result.status
    waiting := result.context.emittedKey.or loop.waiting
    pressed := if result.context.emittedKey = some .select then some loop.shown else loop.pressed }

def step (model : MenuModel) (fuel : ℕ) (loop : PickerLoop picker) :
    PickerEvent → PickerLoop picker
  | .echo => { loop with shown := loop.position }
  | .message atStatus =>
    match loop.goal with
    | none => loop.answer atStatus
    | some goal =>
      match goal.step model fuel loop.context with
      | none => loop
      | some result => (loop.settle result).answer atStatus

/-- Before the goal steps, its keys have reached the picker and been drawn, and it has a step
left. -/
def Prompt (loop : PickerLoop picker) : PickerEvent → Prop
  | .echo => True
  | .message _ => ∀ goal ∈ loop.goal, loop.waiting = none ∧ loop.shown = loop.position ∧
      goal.stepCount < SpaSwitchGoal.stepLimit

instance (loop : PickerLoop picker) : ∀ event, Decidable (loop.Prompt event)
  | .echo => .isTrue trivial
  | .message _ =>
    inferInstanceAs (Decidable (∀ goal ∈ loop.goal, loop.waiting = none ∧
      loop.shown = loop.position ∧ goal.stepCount < SpaSwitchGoal.stepLimit))

def messages (events : List PickerEvent) : ℕ := events.countP (· ≠ .echo)

/-! ## A step of the goal at the picker -/

section

variable {model : MenuModel} {fuel : ℕ} {loop : PickerLoop picker} {goal : SpaSwitchGoal}

theorem step_eq_stepPhase (hstarted : goal.started)
    (hcount : goal.stepCount < SpaSwitchGoal.stepLimit) (ctx : KeypadContext) :
    goal.step model fuel ctx =
      { goal with stepCount := goal.stepCount + 1 }.stepPhase model fuel ctx := by
  unfold SpaSwitchGoal.step SpaSwitchGoal.countStep
  rw [if_pos hstarted]
  dsimp only
  rw [if_neg]
  rintro ⟨-, hover⟩
  omega

theorem stepPhase_cyclePicker (htag : goal.rowTag = rowTag) (hphase : goal.phase = .cyclePicker) :
    goal.stepPhase model fuel loop.context =
      some (goal.turnPicker loop.context (picker.functionAt loop.shown)) := by
  have hmem : picker.functionAt loop.shown ∈ picker.functions := getElem_mem _
  obtain ⟨hbutton, hrow⟩ := picker.titled _ hmem
  have hline : displayedFunctionOnRow loop.context.page SpaSwitchGoal.pickerFunctionLine =
      some (picker.functionAt loop.shown) := picker.shows _ hmem
  have htitle : containsText (lineText loop.context.page 1) "Button".toList ∧
      containsText (lineText loop.context.page 1) goal.rowTag :=
    ⟨hbutton, htag ▸ hrow⟩
  unfold SpaSwitchGoal.stepPhase
  rw [hphase]
  unfold SpaSwitchGoal.handleCyclePicker
  rw [if_pos htitle, hline]

theorem step_cyclePicker (htag : goal.rowTag = rowTag) (hphase : goal.phase = .cyclePicker)
    (hstarted : goal.started) (hcount : goal.stepCount < SpaSwitchGoal.stepLimit) :
    goal.step model fuel loop.context =
      some ({ goal with stepCount := goal.stepCount + 1 }.turnPicker loop.context
        (picker.functionAt loop.shown)) := by
  rw [step_eq_stepPhase hstarted hcount]
  exact stepPhase_cyclePicker (by exact htag) (by exact hphase)

theorem stepPhase_commit (hphase : goal.phase = .commit) (ctx : KeypadContext) :
    goal.stepPhase model fuel ctx = some ⟨goal, ctx.emit .select, .done⟩ := by
  unfold SpaSwitchGoal.stepPhase
  rw [hphase]

theorem step_commit (hphase : goal.phase = .commit) (hstarted : goal.started)
    (hcount : goal.stepCount < SpaSwitchGoal.stepLimit) (ctx : KeypadContext) :
    goal.step model fuel ctx =
      some ⟨{ goal with stepCount := goal.stepCount + 1 }, ctx.emit .select, .done⟩ := by
  rw [step_eq_stepPhase hstarted hcount]
  exact stepPhase_commit (by exact hphase) ctx

theorem step_message {result : GoalStep SpaSwitchGoal} {atStatus : Bool}
    (hgoal : loop.goal = some goal) (hresult : goal.step model fuel loop.context = some result) :
    loop.step model fuel (.message atStatus) = (loop.settle result).answer atStatus := by
  unfold step
  dsimp only
  rw [hgoal]
  dsimp only
  rw [hresult]

theorem step_message_of_ended {atStatus : Bool} (hgoal : loop.goal = none) :
    loop.step model fuel (.message atStatus) = loop.answer atStatus := by
  unfold step
  rw [hgoal]

end

/-! ## What the search has come to -/

def heading (loop : PickerLoop picker) : picker.Place :=
  if loop.waiting = some .lineUp then picker.up loop.position else loop.position

structure Turning (start : picker.Place) (function : Text) (turns : ℕ)
    (loop : PickerLoop picker) (goal : SpaSwitchGoal) : Prop where
  goal_eq : loop.goal = some goal
  rowTag_eq : goal.rowTag = rowTag
  function_eq : goal.function = function
  phase : goal.phase = .cyclePicker
  started : goal.started
  firstSeen : goal.pickerFirstSeen = if turns = 0 then none else some (picker.functionAt start)
  status : loop.status = .running
  waiting : loop.waiting = none ∨ loop.waiting = some .lineUp
  heading : loop.heading = picker.after start turns
  turns_le : turns ≤ picker.functions.length
  passed : ∀ k < turns, ¬picker.ShowsAt function (picker.after start k)
  pressed : loop.pressed = none
  selected : loop.selected = none

structure Found (function : Text) (loop : PickerLoop picker) (goal : SpaSwitchGoal) : Prop where
  goal_eq : loop.goal = some goal
  phase : goal.phase = .commit
  started : goal.started
  status : loop.status = .running
  waiting : loop.waiting = none
  shows : picker.ShowsAt function loop.position
  pressed : loop.pressed = none
  selected : loop.selected = none

structure Chosen (function : Text) (loop : PickerLoop picker) : Prop where
  goal_eq : loop.goal = none
  status : loop.status = .done
  shows : picker.ShowsAt function loop.position
  pressed : loop.pressed = some loop.position
  selected : loop.waiting = some .select ∧ loop.selected = none ∨
    loop.waiting = none ∧ loop.selected = some loop.position

structure Missing (function : Text) (loop : PickerLoop picker) : Prop where
  goal_eq : loop.goal = none
  status : loop.status = .failed
  notOffered : ¬picker.Offers function
  waiting : loop.waiting = none
  pressed : loop.pressed = none
  selected : loop.selected = none

inductive Search (start : picker.Place) (function : Text) (count : ℕ) (loop : PickerLoop picker) :
    Prop where
  | turning (goal : SpaSwitchGoal) (h : Turning start function count loop goal)
  | found (goal : SpaSwitchGoal) (hcount : count ≤ picker.functions.length)
      (h : Found function loop goal)
  | chosen (h : Chosen function loop)
  | missing (h : Missing function loop)

variable {loop : PickerLoop picker}

theorem heading_of_idle (h : loop.waiting = none) : loop.heading = loop.position := by
  unfold heading
  rw [h]
  exact if_neg (by decide)

theorem heading_of_lineUp (h : loop.waiting = some .lineUp) :
    loop.heading = picker.up loop.position :=
  if_pos h

section

variable {model : MenuModel} {fuel : ℕ} {goal : SpaSwitchGoal}
variable {start : picker.Place} {function : Text} {turns count : ℕ} {atStatus : Bool}

theorem answer_of_idle (h : loop.waiting = none) : loop.answer atStatus = loop := by
  unfold answer
  rw [h]
  cases atStatus <;> rfl

theorem answer_settle_of_idle {result : GoalStep SpaSwitchGoal} (hidle : loop.waiting = none)
    (hquiet : result.context.emittedKey = none) :
    (loop.settle result).answer atStatus = loop.settle result := by
  refine answer_of_idle ?_
  show result.context.emittedKey.or loop.waiting = none
  rw [hquiet, hidle]
  rfl

section

variable (h : Turning start function turns loop goal)

include h

/-- Sending the key that waits leaves the picker where it is heading. -/
theorem Turning.answer : Turning start function turns (loop.answer atStatus) goal := by
  rcases h.waiting with hidle | hkey
  · rwa [answer_of_idle hidle]
  · cases atStatus with
    | false =>
      have hsame : loop.answer false = loop := by unfold PickerLoop.answer; rfl
      rwa [hsame]
    | true =>
      have hsent : loop.answer true =
          { loop with position := picker.up loop.position, waiting := none } := by
        unfold PickerLoop.answer
        rw [hkey]
        rfl
      rw [hsent]
      refine { h with waiting := .inl rfl, heading := ?_ }
      rw [heading_of_idle rfl, ← h.heading, heading_of_lineUp hkey]

theorem Turning.position_eq (hidle : loop.waiting = none) :
    loop.position = picker.after start turns := by
  rw [← heading_of_idle hidle]
  exact h.heading

theorem Turning.next (hidle : loop.waiting = none)
    (hother : ¬picker.ShowsAt function loop.position) (hlt : turns < picker.functions.length) :
    Turning start function (turns + 1)
      (loop.settle ⟨{ goal with
        stepCount := goal.stepCount + 1
        pickerFirstSeen := some (picker.functionAt start) },
        loop.context.emit .lineUp, .running⟩)
      { goal with
        stepCount := goal.stepCount + 1
        pickerFirstSeen := some (picker.functionAt start) } where
  goal_eq := rfl
  rowTag_eq := h.rowTag_eq
  function_eq := h.function_eq
  phase := h.phase
  started := h.started
  firstSeen := rfl
  status := rfl
  waiting := .inr rfl
  heading := by
    rw [heading_of_lineUp rfl, ← picker.up_after, ← h.position_eq hidle]
    rfl
  turns_le := hlt
  passed := by
    intro k hk
    rcases Nat.lt_succ_iff_lt_or_eq.mp hk with hbefore | rfl
    · exact h.passed k hbefore
    · rwa [← h.position_eq hidle]
  pressed := h.pressed
  selected := h.selected

theorem Turning.not_offers (hround : turns = picker.functions.length) :
    ¬picker.Offers function := by
  rintro ⟨place, hplace⟩
  obtain ⟨k, hk, rfl⟩ := picker.exists_after start place
  exact h.passed k (hround ▸ hk) hplace

end

section

variable (hapart : picker.CaseApart) (h : Turning start function turns loop goal)
  (hidle : loop.waiting = none) (hshown : loop.shown = loop.position)

include hapart h hidle hshown

theorem Turning.turn (hother : ¬picker.ShowsAt function loop.position) :
    Search start function (turns + 1) ((loop.settle
      ({ goal with stepCount := goal.stepCount + 1 }.turnPicker loop.context
        (picker.functionAt loop.shown))).answer atStatus) := by
  have hpos := h.position_eq hidle
  have hne : ¬equalsCaseInsensitive (picker.functionAt loop.shown) goal.function := by
    rwa [h.function_eq, hshown]
  have hfirst := h.firstSeen
  unfold SpaSwitchGoal.turnPicker
  rw [if_neg hne]
  dsimp only
  by_cases hzero : turns = 0
  · -- the first function: there is nothing to compare it with yet
    rw [if_pos hzero] at hfirst
    have hstart : picker.functionAt loop.shown = picker.functionAt start := by
      rw [hshown, hpos, hzero, picker.after_zero]
    have hlt : turns < picker.functions.length := by have := start.isLt; omega
    rw [hfirst, hstart]
    exact .turning _ (h.next hidle hother hlt).answer
  · have hround : picker.after start turns = start ↔ turns = picker.functions.length :=
      picker.after_eq_self_iff (Nat.pos_of_ne_zero hzero) h.turns_le
    rw [if_neg hzero] at hfirst
    rw [hfirst]
    dsimp only
    by_cases hback : equalsCaseInsensitive (picker.functionAt loop.shown)
        (picker.functionAt start)
    · have hlast : turns = picker.functions.length := by
        rw [← hround, ← hpos, ← hshown]
        exact hapart _ _ hback
      rw [if_pos hback, answer_settle_of_idle hidle rfl]
      exact .missing ⟨rfl, rfl, h.not_offers hlast, hidle, h.pressed, h.selected⟩
    · have hlast : turns ≠ picker.functions.length := by
        intro hlast
        refine hback ?_
        rw [hshown, hpos, hround.mpr hlast]
        exact beq_self_eq_true _
      have hnext := h.next hidle hother (lt_of_le_of_ne h.turns_le hlast)
      rw [if_neg hback, ← hfirst]
      rw [← hfirst] at hnext
      exact .turning _ hnext.answer

theorem Turning.message (hcount : goal.stepCount < SpaSwitchGoal.stepLimit) :
    Search start function (turns + 1) (loop.step model fuel (.message atStatus)) := by
  rw [step_message h.goal_eq (step_cyclePicker h.rowTag_eq h.phase h.started hcount)]
  by_cases hmatch : picker.ShowsAt function loop.position
  · have hlt : turns < picker.functions.length := by
      refine lt_of_le_of_ne h.turns_le fun hround => h.not_offers hround ⟨_, hmatch⟩
    have hequal : equalsCaseInsensitive (picker.functionAt loop.shown) goal.function := by
      rwa [h.function_eq, hshown]
    unfold SpaSwitchGoal.turnPicker
    rw [if_pos hequal, answer_settle_of_idle hidle rfl]
    exact .found _ hlt ⟨rfl, rfl, h.started, rfl, hidle, hmatch, h.pressed, h.selected⟩
  · exact h.turn hapart hidle hshown hmatch

end

theorem Found.message (h : Found function loop goal) (hshown : loop.shown = loop.position)
    (hcount : goal.stepCount < SpaSwitchGoal.stepLimit) :
    Chosen function (loop.step model fuel (.message atStatus)) := by
  have hpressed : some loop.shown = some loop.position := congrArg some hshown
  rw [step_message h.goal_eq (step_commit h.phase h.started hcount _)]
  cases atStatus with
  | false => exact ⟨rfl, rfl, h.shows, hpressed, .inl ⟨rfl, h.selected⟩⟩
  | true => exact ⟨rfl, rfl, h.shows, hpressed, .inr ⟨rfl, rfl⟩⟩

/-- Select is sent to where it was pressed. -/
theorem Chosen.message (h : Chosen function loop) :
    Chosen function (loop.step model fuel (.message atStatus)) := by
  rw [step_message_of_ended h.goal_eq]
  rcases h.selected with ⟨hkey, hnone⟩ | ⟨hidle, -⟩
  · cases atStatus with
    | false =>
      have hsame : loop.answer false = loop := by unfold answer; rfl
      rwa [hsame]
    | true =>
      have hsent : loop.answer true =
          { loop with selected := some loop.position, waiting := none } := by
        unfold answer
        rw [hkey]
        rfl
      rw [hsent]
      exact { h with selected := .inr ⟨rfl, rfl⟩ }
  · rwa [answer_of_idle hidle]

theorem Missing.message (h : Missing function loop) :
    Missing function (loop.step model fuel (.message atStatus)) := by
  rwa [step_message_of_ended h.goal_eq, answer_of_idle h.waiting]

theorem Search.step (hapart : picker.CaseApart) (h : Search start function count loop)
    {event : PickerEvent} (hprompt : loop.Prompt event) :
    Search start function (count + messages [event]) (loop.step model fuel event) := by
  cases event with
  | echo =>
    -- drawing the screen changes nothing of what the search knows
    cases h with
    | turning goal h => exact .turning goal { h with }
    | found goal hcount h => exact .found goal hcount { h with }
    | chosen h => exact .chosen { h with }
    | missing h => exact .missing { h with }
  | message atStatus =>
    cases h with
    | turning goal h =>
      obtain ⟨hidle, hshown, hleft⟩ := hprompt goal h.goal_eq
      exact h.message hapart hidle hshown hleft
    | found goal hcount h =>
      obtain ⟨-, hshown, hleft⟩ := hprompt goal h.goal_eq
      exact .chosen (h.message hshown hleft)
    | chosen h => exact .chosen h.message
    | missing h => exact .missing h.message

theorem Search.run (hapart : picker.CaseApart) {events : List PickerEvent}
    (h : Search start function count loop)
    (hrun : EachStep (fun loop event => loop.step model fuel event) Prompt loop events) :
    Search start function (count + messages events)
      (events.foldl (fun loop event => loop.step model fuel event) loop) := by
  induction events generalizing count loop with
  | nil => exact h
  | cons event events ih =>
    have hcount : count + messages (event :: events) =
        count + messages [event] + messages events := by
      unfold messages
      rw [countP_cons, countP_singleton]
      omega
    rw [hcount]
    exact ih (h.step hapart hrun.1) hrun.2

end

/-- The picker has come up, and the goal has not looked at it yet. -/
def opening (goal : SpaSwitchGoal) {picker : SpaPicker goal.rowTag} (start : picker.Place) :
    PickerLoop picker where
  goal := some goal
  position := start
  shown := start

structure Opens (goal : SpaSwitchGoal) : Prop where
  phase : goal.phase = .cyclePicker
  started : goal.started
  firstSeen : goal.pickerFirstSeen = none

theorem search_opening {goal : SpaSwitchGoal} {picker : SpaPicker goal.rowTag}
    (start : picker.Place) (hopens : Opens goal) :
    Search start goal.function 0 (opening goal start) :=
  .turning goal
    { goal_eq := rfl
      rowTag_eq := rfl
      function_eq := rfl
      phase := hopens.phase
      started := hopens.started
      firstSeen := hopens.firstSeen
      status := rfl
      waiting := .inl rfl
      heading := (heading_of_idle rfl).trans (picker.after_zero start).symm
      turns_le := Nat.zero_le _
      passed := fun k hk => absurd hk (Nat.not_lt_zero k)
      pressed := rfl
      selected := rfl }

/-- What is to be said of the goal and the picker after a number of messages. -/
structure Exact (function : Text) (count : ℕ) (loop : PickerLoop picker) : Prop where
  pressed : ∀ place, loop.pressed = some place → picker.ShowsAt function place
  selected : ∀ place, loop.selected = some place → picker.ShowsAt function place
  done : loop.status = .done → ∃ place, loop.pressed = some place ∧
    (loop.waiting = some .select ∨ loop.selected = some place)
  failed : loop.status = .failed → ¬picker.Offers function
  ends : picker.functions.length < count →
    picker.Offers function ∧ loop.status = .done ∨ ¬picker.Offers function ∧ loop.status = .failed

theorem Search.exact {start : picker.Place} {function : Text} {count : ℕ}
    (h : Search start function count loop) : loop.Exact function count := by
  have hnone : ∀ found : Option picker.Place, found = none →
      ∀ place, found = some place → picker.ShowsAt function place := by
    rintro _ rfl place ⟨⟩
  cases h with
  | turning goal h =>
    refine ⟨hnone _ h.pressed, hnone _ h.selected, ?_, ?_, ?_⟩
    · rw [h.status]
      rintro ⟨⟩
    · rw [h.status]
      rintro ⟨⟩
    · intro hlong
      exact absurd h.turns_le (not_le.mpr hlong)
  | found goal hcount h =>
    refine ⟨hnone _ h.pressed, hnone _ h.selected, ?_, ?_, ?_⟩
    · rw [h.status]
      rintro ⟨⟩
    · rw [h.status]
      rintro ⟨⟩
    · intro hlong
      exact absurd hcount (not_le.mpr hlong)
  | chosen h =>
    refine ⟨?_, ?_, ?_, ?_, fun _ => .inl ⟨⟨_, h.shows⟩, h.status⟩⟩
    · rintro place hplace
      obtain rfl : loop.position = place := Option.some_inj.mp (h.pressed.symm.trans hplace)
      exact h.shows
    · rintro place hplace
      rcases h.selected with ⟨-, hselected⟩ | ⟨-, hselected⟩
      · exact hnone _ hselected place hplace
      · obtain rfl : loop.position = place := Option.some_inj.mp (hselected.symm.trans hplace)
        exact h.shows
    · intro _
      exact ⟨_, h.pressed, h.selected.imp And.left And.right⟩
    · rw [h.status]
      rintro ⟨⟩
  | missing h =>
    refine ⟨hnone _ h.pressed, hnone _ h.selected, ?_, fun _ => h.notOffered,
      fun _ => .inr ⟨h.notOffered, h.status⟩⟩
    rw [h.status]
    rintro ⟨⟩

/-- **The picker search is exact.**  As long as every key has reached the picker and been drawn
before the goal's next step, the goal selects nothing but the function that is asked for, gives
up only if that is not offered, and has done the one or the other after one message more than
there are functions. -/
theorem picker_search {goal : SpaSwitchGoal} {picker : SpaPicker goal.rowTag} (model : MenuModel)
    (fuel : ℕ) (start : picker.Place) (hopens : Opens goal) (hapart : picker.CaseApart)
    (events : List PickerEvent)
    (hprompt : EachStep (step model fuel) Prompt (opening goal start) events) :
    (events.foldl (step model fuel) (opening goal start)).Exact goal.function
      (messages events) := by
  have hrun := (search_opening start hopens).run hapart hprompt
  rw [Nat.zero_add] at hrun
  exact hrun.exact

/-! ### Four functions -/

/-- The goal for the second button of the first switch. -/
def lightButton : SpaSwitchGoal where
  switchNumber := 1
  buttonNumber := 2
  function := "Pool Light".toList
  phase := .cyclePicker
  started := true

theorem lightButton_opens : Opens lightButton := ⟨rfl, rfl, rfl⟩

def buttonPage (function : Text) : ScreenDataPage where
  rows := [{}, { text := "  Button 1:2".toList }, {}, { text := function }]

def buttonPicker : SpaPicker lightButton.rowTag where
  functions := ["Spa".toList, "Spa Heat".toList, "Pool Light".toList, "Air Blower".toList]
  nodup := by decide
  draw := buttonPage
  titled function _ := ⟨by rfl, by rfl⟩
  shows := by decide

def firstFunction : buttonPicker.Place := ⟨0, by decide⟩

theorem buttonPicker_caseApart : buttonPicker.CaseApart := by decide

/-- Each key is sent and drawn before the next message. -/
def promptly : List PickerEvent :=
  (replicate 5 [.message true, .echo]).flatten

theorem picker_search_light :
    (promptly.foldl (step {} 0) (opening lightButton firstFunction)).Exact "Pool Light".toList 5 :=
  picker_search {} 0 firstFunction lightButton_opens buttonPicker_caseApart promptly
    (by decide +kernel)

/-- The second message still finds the first function. -/
def lateDrawing : List PickerEvent := [.message true, .message true]

/-- The function that was passed first is drawn late, and two keys too many are pressed. -/
def overtaken : List PickerEvent :=
  [.message true, .echo, .message true, .message false, .echo, .message true, .echo, .message true]

/-- The goal gives up although the function is offered, and selects another one. -/
theorem picker_misled :
    buttonPicker.Offers lightButton.function ∧
      (lateDrawing.foldl (step {} 0) (opening lightButton firstFunction)).status = .failed ∧
      (overtaken.foldl (step {} 0) (opening lightButton firstFunction)).selected.map
        buttonPicker.functionAt = some "Air Blower".toList := by
  refine ⟨⟨⟨2, by decide⟩, by decide⟩, by decide +kernel, by decide +kernel⟩

end PickerLoop

end AqualinkAutomate.OneTouch
