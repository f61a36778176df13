import Aqualink.OneTouch.KeyDelivery

/-!
# Editing a value of the panel

A `ValueEditGoal` and the panel form a closed loop.  The panel has a `ValueEditor`: Select
opens and closes it, an arrow turns its value by one position of a wheel while it is open,
and closing it commits the value.  The keys that the device sends get there from the time
the goal has arrived on the row; what comes back is what the controller draws, and nothing
is assumed of that.  It may be late.

The goal takes what the row shows for the value of the panel, and takes the keys it has
emitted for pressed.  So it commits too early when the target it sees is an old value, and
leaves the panel in the editor when a Select of it is overwritten, or when it gives up
halfway.  `Attentive` excludes just this, message by message, and then the edit ends with the
target committed and the editor closed (`value_edit_commits`).
-/

namespace AqualinkAutomate.OneTouch

open General Navigation

/-! ## The panel -/

/-- The values that can be dialled: where an arrow leads from each. -/
structure ValueWheel where
  up : ℤ → ℤ
  down : ℤ → ℤ

/-- The value editor of a row.  It listens to the keys from the arrival of the goal on its
row to the last key of the goal. -/
structure ValueEditor where
  listening : Bool := false
  editing : Bool := false
  value : ℤ
  committed : ℤ
  deriving DecidableEq

namespace ValueEditor

def toggle (editor : ValueEditor) : ValueEditor :=
  if editor.editing then
    { editor with editing := false, committed := editor.value }
  else
    { editor with editing := true }

def turn (move : ℤ → ℤ) (editor : ValueEditor) : ValueEditor :=
  if editor.editing then { editor with value := move editor.value } else editor

def press (wheel : ValueWheel) (editor : ValueEditor) (key : KeyCommand) : ValueEditor :=
  if editor.listening then
    match key with
    | .select => editor.toggle
    | .lineUp => editor.turn wheel.up
    | .lineDown => editor.turn wheel.down
    | _ => editor
  else
    editor

variable {wheel : ValueWheel} {editor : ValueEditor}

@[simp] theorem press_noKeyCommand : editor.press wheel .noKeyCommand = editor := by
  unfold press
  split_ifs <;> rfl

theorem press_of_not_listening (h : editor.listening = false) (key : KeyCommand) :
    editor.press wheel key = editor := by
  simp [press, h]

@[simp] theorem listening_press (wheel : ValueWheel) (editor : ValueEditor) (key : KeyCommand) :
    (editor.press wheel key).listening = editor.listening := by
  unfold press
  cases key <;> simp only [toggle, turn] <;> split_ifs <;> simp_all

theorem editing_press {key : KeyCommand} (hkey : key ≠ .select) :
    (editor.press wheel key).editing = editor.editing := by
  unfold press
  cases key <;> simp only [turn] <;> split_ifs <;> first | rfl | exact absurd rfl hkey

theorem committed_press {key : KeyCommand} (hkey : key ≠ .select) :
    (editor.press wheel key).committed = editor.committed := by
  unfold press
  cases key <;> simp only [turn] <;> split_ifs <;> first | rfl | exact absurd rfl hkey

theorem press_select (h : editor.listening) : editor.press wheel .select = editor.toggle := by
  simp [press, h]

end ValueEditor

/-! ## The loop -/

/-- The device with the panel behind it. -/
structure EditLoop where
  device : OneTouchDevice ValueEditGoal
  editor : ValueEditor

namespace EditLoop

def listens (editor : ValueEditor) (device : OneTouchDevice ValueEditGoal) : Bool :=
  match device.activeGoal with
  | some goal => goal.phase ≠ .navigating
  | none => editor.listening && device.keyCommandToSend ≠ .noKeyCommand

def sentKeys (device device' : OneTouchDevice ValueEditGoal) : List KeyCommand :=
  device'.transmittedKeys.drop device.transmittedKeys.length

/-- The panel takes the key that comes with the answer of the device. -/
def answered (wheel : ValueWheel) (loop : EditLoop) (device' : OneTouchDevice ValueEditGoal) :
    EditLoop where
  device := device'
  editor :=
    { (sentKeys loop.device device').foldl (ValueEditor.press wheel) loop.editor with
      listening := listens loop.editor device' }

def step (model : MenuModel) (fuel : ℕ) (wheel : ValueWheel) (loop : EditLoop)
    (event : BusMessage × Surroundings) : Option EditLoop :=
  (loop.device.receive model fuel event.2 event.1).map (loop.answered wheel)

def settled (wheel : ValueWheel) (loop : EditLoop) : ValueEditor :=
  loop.editor.press wheel loop.device.keyCommandToSend

structure EndsWell (wheel : ValueWheel) (target : ℤ) (loop : EditLoop) : Prop where
  closed : loop.device.activeGoal = none → (loop.settled wheel).editing = false
  committed : loop.device.activeGoal = none → .done ∈ loop.device.outcomes →
    (loop.settled wheel).committed = target

/-- An edit is about to start, while the editor is closed. -/
structure Begins (goal : ValueEditGoal) (loop : EditLoop) : Prop where
  activeGoal : loop.device.activeGoal = some goal
  phase : goal.phase = .navigating
  idle : loop.device.refreshInProgress = false
  outcomes : loop.device.outcomes = []
  listening : loop.editor.listening = false
  editing : loop.editor.editing = false
  committed : loop.editor.committed = loop.editor.value

end EditLoop

/-! ## When an edit goes well -/

namespace ValueEditGoal

def EndsOnRow (goal : ValueEditGoal) (page : ScreenDataPage) : Prop :=
  stepLimit ≤ goal.stepCount ∧ goal.phase ≠ .navigating ∨ goal.phase = .commit ∨
    goal.phase = .beginEdit ∧ displayedValue page goal.line = some goal.target

instance (goal : ValueEditGoal) (page : ScreenDataPage) : Decidable (goal.EndsOnRow page) :=
  inferInstanceAs (Decidable (_ ∨ _))

/-- What a step of the goal takes for granted.

* A refresh does not take the place of its last key.
* Where it finds the target on the row, the panel has it, and no arrow is on the way.
* Its Select is pressed by the time it turns the value.
* It does not run out of steps in the editor. -/
@[mk_iff]
structure Attentive (goal : ValueEditGoal) (device : OneTouchDevice ValueEditGoal)
    (editor : ValueEditor) (surroundings : Surroundings) : Prop where
  refresh : goal.EndsOnRow device.displayedPage → ¬ device.RefreshDue surroundings
  opening : goal.phase = .beginEdit → goal.EndsOnRow device.displayedPage →
    device.keyCommandToSend ≠ .select
  arrived : goal.phase = .beginEdit →
    displayedValue device.displayedPage goal.line = some goal.target →
      goal.stepCount < stepLimit → editor.value = goal.target.toInt
  within : goal.phase = .stepping ∨ goal.phase = .commit → goal.stepCount < stepLimit
  opened : goal.phase = .stepping → displayedValue device.displayedPage goal.line ≠ none →
    device.keyCommandToSend ≠ .select
  upToDate : goal.phase = .stepping →
    displayedValue device.displayedPage goal.line = some goal.target →
      editor.value = goal.target.toInt ∧ device.keyCommandToSend = .noKeyCommand

instance (goal : ValueEditGoal) (device : OneTouchDevice ValueEditGoal) (editor : ValueEditor)
    (surroundings : Surroundings) : Decidable (goal.Attentive device editor surroundings) :=
  decidable_of_iff' _ (attentive_iff goal device editor surroundings)

end ValueEditGoal

/-- While the editor listens to what is left of a goal, no refresh is stepped. -/
def EditLoop.Attentive (loop : EditLoop) (event : BusMessage × Surroundings) : Prop :=
  event.1.IsProcessed →
    match loop.device.activeGoal with
    | some goal => goal.Attentive (loop.device.takeMessage event.1) loop.editor event.2
    | none => loop.editor.listening → ¬ (loop.device.takeMessage event.1).RefreshSteps event.2

instance (loop : EditLoop) (event : BusMessage × Surroundings) :
    Decidable (loop.Attentive event) := by
  unfold EditLoop.Attentive
  cases loop.device.activeGoal <;> infer_instance

/-! ## What a step of the goal does -/

namespace ValueEditGoal

variable {model : MenuModel} {fuel : ℕ} {goal : ValueEditGoal} {ctx : KeypadContext}
  {result : GoalStep ValueEditGoal}

theorem step_navigating (hphase : goal.phase = .navigating)
    (h : goal.step model fuel ctx = some result) :
    result.goal.target = goal.target ∧ result.status ≠ .done ∧
      (result.goal.phase = .navigating ∨
        result.goal.phase = .beginEdit ∧ result.goal.started) := by
  have hcount : goal.countStep.phase = .navigating ∧ goal.countStep.target = goal.target := by
    unfold countStep
    split_ifs <;> exact ⟨hphase, rfl⟩
  rw [step] at h
  split at h
  · cases h
    exact ⟨hcount.2, by simp, .inl hcount.1⟩
  · rw [stepPhase, hcount.1] at h
    obtain ⟨ctx', -, rfl⟩ := Option.map_eq_some_iff.mp h
    have hstart : (goal.countStep.start ctx).1.phase = .navigating ∧
        (goal.countStep.start ctx).1.target = goal.target ∧
        (goal.countStep.start ctx).1.started := by
      unfold start
      split
      · next hstarted => exact ⟨hcount.1, hcount.2, hstarted⟩
      · exact ⟨hcount.1, hcount.2, rfl⟩
    unfold arrive
    split_ifs
    · exact ⟨hstart.2.1, by simp, .inr ⟨rfl, hstart.2.2⟩⟩
    · exact ⟨hstart.2.1, by simp, .inl hstart.1⟩
    · exact ⟨hstart.2.1, by simp, .inl hstart.1⟩

theorem step_of_started (hstarted : goal.started) :
    goal.step model fuel ctx =
      if stepLimit ≤ goal.stepCount then some ⟨goal.countStep, ctx, .failed⟩
      else { goal with stepCount := goal.stepCount + 1 }.stepPhase model fuel ctx := by
  have hcount : goal.countStep = { goal with stepCount := goal.stepCount + 1 } := if_pos hstarted
  rw [step, hcount]
  by_cases hlimit : stepLimit ≤ goal.stepCount
  · rw [if_pos hlimit, if_pos ⟨hstarted, by dsimp only; omega⟩]
  · rw [if_neg hlimit, if_neg]
    rintro ⟨-, hexceeded⟩
    exact hlimit (by dsimp only at hexceeded; omega)

theorem stepStepping_cases (goal : ValueEditGoal) (ctx : KeypadContext) :
    displayedValue ctx.page goal.line = none ∧ goal.stepStepping ctx = ⟨goal, ctx, .running⟩ ∨
      displayedValue ctx.page goal.line = some goal.target ∧
        goal.stepStepping ctx = ⟨{ goal with phase := .commit }, ctx, .running⟩ ∨
      displayedValue ctx.page goal.line ≠ none ∧
        ∃ arrow, (arrow = .lineUp ∨ arrow = .lineDown) ∧
          goal.stepStepping ctx = ⟨goal, ctx.emit arrow, .running⟩ := by
  unfold stepStepping
  cases hshown : displayedValue ctx.page goal.line with
  | none => exact .inl ⟨rfl, rfl⟩
  | some current =>
    dsimp only
    split
    · next hreached => exact .inr (.inl ⟨congrArg some hreached, rfl⟩)
    · refine .inr (.inr ⟨by simp, _, ?_, rfl⟩)
      split_ifs <;> simp

end ValueEditGoal

/-! ## The loop in every phase -/

/-- How the editor stands in a phase, with that key waiting.  As soon as the goal presses
arrows, either the editor is open or its Select is on the way. -/
def EditPhase.Fits (phase : EditPhase) (target : ℤ) (editor : ValueEditor)
    (waiting : KeyCommand) : Prop :=
  match phase with
  | .navigating | .beginEdit => editor.editing = false ∧ editor.committed = editor.value
  | .stepping =>
    editor.editing = false ∧ waiting = .select ∨ editor.editing = true ∧ waiting ≠ .select
  | .commit => editor.editing = true ∧ editor.value = target ∧ waiting = .noKeyCommand

namespace EditLoop

structure InPhase (target : ℤ) (goal : ValueEditGoal) (loop : EditLoop) : Prop where
  target_eq : goal.target.toInt = target
  idle : loop.device.refreshInProgress = false
  outcomes : loop.device.outcomes = []
  started : goal.phase ≠ .navigating → goal.started
  listening : loop.editor.listening = decide (goal.phase ≠ .navigating)
  fits : goal.phase.Fits target loop.editor loop.device.keyCommandToSend

def Sound (wheel : ValueWheel) (target : ℤ) (loop : EditLoop) : Prop :=
  match loop.device.activeGoal with
  | some goal => loop.InPhase target goal
  | none => loop.EndsWell wheel target

variable {model : MenuModel} {fuel : ℕ} {wheel : ValueWheel} {target : ℤ}
  {loop loop' : EditLoop} {device' : OneTouchDevice ValueEditGoal} {goal : ValueEditGoal}
  {key : KeyCommand}

theorem Sound.endsWell (h : loop.Sound wheel target) : loop.EndsWell wheel target := by
  rw [Sound] at h
  split at h
  · next goal hgoal => constructor <;> simp [hgoal]
  · exact h

theorem InPhase.listening_of_arrived (h : loop.InPhase target goal)
    (harrived : goal.phase ≠ .navigating) : loop.editor.listening :=
  h.listening.trans (decide_eq_true harrived)

theorem InPhase.not_listening (h : loop.InPhase target goal)
    (hnavigating : goal.phase = .navigating) : loop.editor.listening = false :=
  h.listening.trans (decide_eq_false (not_not_intro hnavigating))

theorem foldl_sentKeys (wheel : ValueWheel) (hsends : loop.device.Sends device' key)
    (editor : ValueEditor) :
    (sentKeys loop.device device').foldl (ValueEditor.press wheel) editor = editor ∧
        device'.keyCommandToSend = key ∨
      (sentKeys loop.device device').foldl (ValueEditor.press wheel) editor =
          editor.press wheel key ∧ device'.keyCommandToSend = .noKeyCommand := by
  rcases hsends with ⟨hsame, hkey⟩ | ⟨hsent, hkey⟩
  · exact .inl ⟨by simp [sentKeys, hsame], hkey⟩
  · exact .inr ⟨by simp [sentKeys, hsent], hkey⟩

theorem settled_answered (wheel : ValueWheel) (hgoal : device'.activeGoal = none)
    (hsends : loop.device.Sends device' key) :
    ∃ listening, (loop.answered wheel device').settled wheel =
      { loop.editor.press wheel key with listening := listening } := by
  rcases foldl_sentKeys wheel hsends loop.editor with ⟨heditor, hkey⟩ | ⟨heditor, hkey⟩
  · by_cases hnone : key = .noKeyCommand
    · refine ⟨false, ?_⟩
      simp [settled, answered, listens, hgoal, heditor, hkey, hnone]
    · refine ⟨loop.editor.listening, ?_⟩
      have hsame : (loop.answered wheel device').editor = loop.editor := by
        simp [answered, listens, hgoal, heditor, hkey, hnone]
      rw [settled, hsame, answered, hkey, ← loop.editor.listening_press wheel key]
  · refine ⟨listens loop.editor device', ?_⟩
    simp only [settled, answered, heditor, hkey, ValueEditor.press_noKeyCommand]

theorem endsWell_answered (hgoal : device'.activeGoal = none)
    (hsends : loop.device.Sends device' key)
    (hclosed : (loop.editor.press wheel key).editing = false)
    (hcommitted : .done ∈ device'.outcomes → (loop.editor.press wheel key).committed = target) :
    (loop.answered wheel device').EndsWell wheel target := by
  obtain ⟨listening, hsettled⟩ := settled_answered wheel hgoal hsends
  refine ⟨fun _ => ?_, fun _ hdone => ?_⟩
  · rwa [hsettled]
  · rw [hsettled]
    exact hcommitted hdone

theorem sound_of_none (hgoal : loop.device.activeGoal = none) (h : loop.EndsWell wheel target) :
    loop.Sound wheel target := by
  rwa [Sound, hgoal]

theorem sound_of_some (hgoal : loop.device.activeGoal = some goal) (h : loop.InPhase target goal) :
    loop.Sound wheel target := by
  rwa [Sound, hgoal]

theorem answered_of_not_listening (hlistening : loop.editor.listening = false)
    (hsends : loop.device.Sends device' key) :
    (loop.answered wheel device').editor =
      { loop.editor with listening := listens loop.editor device' } := by
  rcases foldl_sentKeys wheel hsends loop.editor with ⟨heditor, -⟩ | ⟨heditor, -⟩
  · rw [answered, heditor]
  · rw [answered, heditor, ValueEditor.press_of_not_listening hlistening]

theorem fits_stepping (hlistening : loop.editor.listening)
    (hsends : loop.device.Sends device' key)
    (h : loop.editor.editing = false ∧ key = .select ∨ loop.editor.editing ∧ key ≠ .select) :
    EditPhase.stepping.Fits target (loop.answered wheel device').editor
      device'.keyCommandToSend := by
  rcases foldl_sentKeys wheel hsends loop.editor with ⟨heditor, hkey⟩ | ⟨heditor, hkey⟩
  · simp only [EditPhase.Fits, answered, heditor, hkey]
    exact h
  · simp only [EditPhase.Fits, answered, heditor, hkey]
    refine .inr ⟨?_, by simp⟩
    rcases h with ⟨hclosed, rfl⟩ | ⟨hopen, hselect⟩
    · rw [ValueEditor.press_select hlistening, ValueEditor.toggle, if_neg (by simp [hclosed])]
    · rwa [ValueEditor.editing_press hselect]

structure Answers (loop : EditLoop) (result : GoalStep ValueEditGoal)
    (device' : OneTouchDevice ValueEditGoal) (key : KeyCommand) : Prop where
  activeGoal : device'.activeGoal = if result.status = .running then some result.goal else none
  outcomes : device'.outcomes =
    loop.device.outcomes ++ if result.status = .running then [] else [result.status]
  idle : result.status = .running → device'.refreshInProgress = false
  sends : loop.device.Sends device' key

section

variable {result : GoalStep ValueEditGoal} (h : loop.Answers result device' key)
  (hphase : loop.InPhase target goal)

include h hphase

theorem Answers.sound_of_running (hrunning : result.status = .running)
    (htarget : result.goal.target.toInt = target)
    (hstarted : result.goal.phase ≠ .navigating → result.goal.started)
    (hfits : result.goal.phase.Fits target (loop.answered wheel device').editor
      device'.keyCommandToSend) :
    (loop.answered wheel device').Sound wheel target := by
  have hgoal : device'.activeGoal = some result.goal := by rw [h.activeGoal, if_pos hrunning]
  refine sound_of_some hgoal ⟨htarget, h.idle hrunning, ?_, hstarted, ?_, hfits⟩
  · exact h.outcomes.trans (by rw [hphase.outcomes, if_pos hrunning]; rfl)
  · simp [answered, listens, hgoal]

theorem Answers.sound_of_ended (hended : result.status ≠ .running)
    (hclosed : (loop.editor.press wheel key).editing = false)
    (hcommitted : result.status = .done → (loop.editor.press wheel key).committed = target) :
    (loop.answered wheel device').Sound wheel target := by
  have hgoal : device'.activeGoal = none := by rw [h.activeGoal, if_neg hended]
  refine sound_of_none hgoal (endsWell_answered hgoal h.sends hclosed fun hdone => ?_)
  rw [h.outcomes, hphase.outcomes, if_neg hended] at hdone
  exact hcommitted (List.mem_singleton.mp hdone).symm

end

section

variable {result : GoalStep ValueEditGoal} {device : OneTouchDevice ValueEditGoal}
  {surroundings : Surroundings}
  (h : loop.Answers result device' key) (hphase : loop.InPhase target goal)
  (hstep : goal.step model fuel device.keypadContext = some result)

include h hphase hstep

theorem sound_navigating (hnavigating : goal.phase = .navigating) :
    (loop.answered wheel device').Sound wheel target := by
  obtain ⟨htarget, hnotDone, hnext⟩ := ValueEditGoal.step_navigating hnavigating hstep
  have hlistening : loop.editor.listening = false := hphase.not_listening hnavigating
  have hfits := hphase.fits
  rw [hnavigating] at hfits
  by_cases hrunning : result.status = .running
  · refine h.sound_of_running hphase hrunning
      ((congrArg Int32.toInt htarget).trans hphase.target_eq) ?_ ?_
    · intro haway
      rcases hnext with hstays | ⟨-, hstarted⟩
      · exact absurd hstays haway
      · exact hstarted
    · rw [answered_of_not_listening hlistening h.sends]
      rcases hnext with hstays | ⟨harrived, -⟩
      · rwa [hstays]
      · rwa [harrived]
  · refine h.sound_of_ended hphase hrunning ?_ fun hdone => absurd hdone hnotDone
    rw [ValueEditor.press_of_not_listening hlistening]
    exact hfits.1

variable
  (hattentive : goal.Attentive device loop.editor surroundings)
  (hkey : result.status = .running ∨ ¬ device.RefreshDue surroundings →
    key = (result.context.emittedKey.map convertNavKeyCommand).getD loop.device.keyCommandToSend)

include hattentive hkey

theorem sound_commit (hcommits : goal.phase = .commit) :
    (loop.answered wheel device').Sound wheel target := by
  have hlistening : loop.editor.listening :=
    hphase.listening_of_arrived (by simp [hcommits])
  have hfits := hphase.fits
  rw [hcommits] at hfits
  obtain ⟨hopen, hvalue, -⟩ := hfits
  rw [ValueEditGoal.step_of_started (hphase.started (by simp [hcommits])),
    if_neg (Nat.not_le.mpr (hattentive.within (.inr hcommits))), ValueEditGoal.stepPhase,
    hcommits] at hstep
  cases hstep
  obtain rfl : key = .select := hkey (.inr (hattentive.refresh (.inr (.inl hcommits))))
  have htoggled : loop.editor.press wheel .select =
      { loop.editor with editing := false, committed := loop.editor.value } := by
    rw [ValueEditor.press_select hlistening, ValueEditor.toggle, if_pos hopen]
  refine h.sound_of_ended hphase (by simp) ?_ fun _ => ?_
  · rw [htoggled]
  · rwa [htoggled]

variable (hwaiting : device.keyCommandToSend = loop.device.keyCommandToSend)

include hwaiting

theorem sound_beginEdit (hbegins : goal.phase = .beginEdit) :
    (loop.answered wheel device').Sound wheel target := by
  have hstarted : goal.started := hphase.started (by simp [hbegins])
  have hlistening : loop.editor.listening :=
    hphase.listening_of_arrived (by simp [hbegins])
  have hfits := hphase.fits
  rw [hbegins] at hfits
  obtain ⟨hclosed, hcommitted⟩ := hfits
  -- if the goal ends without a key of its own, the key that waits must not open the editor
  have hends : goal.EndsOnRow device.displayedPage → result.context.emittedKey = none →
      key ≠ .select := by
    intro hends hnone
    rw [hkey (.inr (hattentive.refresh hends)), hnone]
    exact hwaiting ▸ hattentive.opening hbegins hends
  rw [ValueEditGoal.step_of_started hstarted] at hstep
  split at hstep
  next hlimit =>
    cases hstep
    have hselect : key ≠ .select := hends (.inl ⟨hlimit, by simp [hbegins]⟩) rfl
    refine h.sound_of_ended hphase (by simp) ?_ (by simp)
    rwa [ValueEditor.editing_press hselect]
  next hwithin =>
    rw [ValueEditGoal.stepPhase, hbegins] at hstep
    cases hstep
    rw [ValueEditGoal.stepBeginEdit] at h hkey hends
    split at h
    next hshown =>
      have hselect : key ≠ .select := by
        refine hends (.inr (.inr ⟨hbegins, hshown⟩)) ?_
        rw [if_pos hshown]
        rfl
      refine h.sound_of_ended hphase (by simp) ?_ fun _ => ?_
      · rwa [ValueEditor.editing_press hselect]
      · calc (loop.editor.press wheel key).committed
            _ = loop.editor.committed := ValueEditor.committed_press hselect
            _ = loop.editor.value := hcommitted
            _ = goal.target.toInt := hattentive.arrived hbegins hshown (by omega)
            _ = target := hphase.target_eq
    next hother =>
      rw [if_neg hother] at hkey
      obtain rfl : key = .select := hkey (.inl rfl)
      refine h.sound_of_running hphase rfl hphase.target_eq (fun _ => hstarted) ?_
      exact fits_stepping hlistening h.sends (.inl ⟨hclosed, rfl⟩)

theorem sound_stepping (hsteps : goal.phase = .stepping) :
    (loop.answered wheel device').Sound wheel target := by
  have hstarted : goal.started := hphase.started (by simp [hsteps])
  have hlistening : loop.editor.listening :=
    hphase.listening_of_arrived (by simp [hsteps])
  have hfits := hphase.fits
  rw [hsteps] at hfits
  -- once the row can be read, the Select that opened the editor has been pressed
  have hopen : displayedValue device.displayedPage goal.line ≠ none → loop.editor.editing := by
    intro hshown
    rcases hfits with ⟨-, hselect⟩ | ⟨hopen, -⟩
    · exact absurd (hwaiting.trans hselect) (hattentive.opened hsteps hshown)
    · exact hopen
  rw [ValueEditGoal.step_of_started hstarted,
    if_neg (Nat.not_le.mpr (hattentive.within (.inl hsteps))), ValueEditGoal.stepPhase,
    hsteps] at hstep
  have hresult := Option.some_inj.mp hstep
  rcases ValueEditGoal.stepStepping_cases _ device.keypadContext with
    ⟨-, heq⟩ | ⟨hshown, heq⟩ | ⟨hshown, arrow, harrow, heq⟩
  -- the row cannot be read: nothing is pressed, and the key that waits stays
  · obtain rfl := heq.symm.trans hresult
    obtain rfl : key = loop.device.keyCommandToSend := hkey (.inl rfl)
    refine h.sound_of_running hphase rfl hphase.target_eq (fun _ => hstarted) ?_
    exact fits_stepping hlistening h.sends hfits
  -- the row shows the target: the panel has it, as the echo is not late
  · obtain rfl := heq.symm.trans hresult
    obtain ⟨hvalue, hfree⟩ := hattentive.upToDate hsteps hshown
    have hediting : loop.editor.editing :=
      hopen (Option.ne_none_iff_exists'.mpr ⟨goal.target, hshown⟩)
    have hkeeps : (loop.answered wheel device').editor.editing = loop.editor.editing ∧
        (loop.answered wheel device').editor.value = loop.editor.value ∧
        device'.keyCommandToSend = .noKeyCommand := by
      obtain rfl : key = .noKeyCommand := by
        calc key
          _ = loop.device.keyCommandToSend := hkey (.inl rfl)
          _ = device.keyCommandToSend := hwaiting.symm
          _ = .noKeyCommand := hfree
      rcases foldl_sentKeys wheel h.sends loop.editor with ⟨heditor, hkey'⟩ | ⟨heditor, hkey'⟩
      · simp [answered, heditor, hkey']
      · simp [answered, heditor, hkey']
    refine h.sound_of_running hphase rfl hphase.target_eq (fun _ => hstarted) ?_
    exact ⟨hkeeps.1.trans hediting, hkeeps.2.1.trans (hvalue.trans hphase.target_eq), hkeeps.2.2⟩
  -- the row shows another value: an arrow leaves the editor open
  · obtain rfl := heq.symm.trans hresult
    have hpressed : key ≠ .select := by
      rw [hkey (.inl rfl)]
      rcases harrow with rfl | rfl <;> simp [KeypadContext.emit, convertNavKeyCommand]
    refine h.sound_of_running hphase rfl hphase.target_eq (fun _ => hstarted) ?_
    exact fits_stepping hlistening h.sends (.inr ⟨hopen hshown, hpressed⟩)

end

/-- A message for a line that the screen does not have changes nothing. -/
theorem sound_dropped (h : loop.Sound wheel target) :
    (loop.answered wheel loop.device).Sound wheel target := by
  have hsends : loop.device.Sends loop.device loop.device.keyCommandToSend := .inl ⟨rfl, rfl⟩
  have hnothing : sentKeys loop.device loop.device = [] := by simp [sentKeys]
  rw [Sound] at h
  split at h
  next goal hgoal =>
    refine sound_of_some hgoal ⟨h.target_eq, h.idle, h.outcomes, h.started, ?_, ?_⟩
    · simp [answered, listens, hgoal]
    · have hfits := h.fits
      rw [answered, hnothing]
      revert hfits
      cases goal.phase <;> exact id
  next hgoal =>
    exact sound_of_none hgoal (endsWell_answered hgoal hsends (h.closed hgoal) (h.committed hgoal))

theorem sound_step {event : BusMessage × Surroundings} (hsound : loop.Sound wheel target)
    (hattentive : loop.Attentive event) (h : loop.step model fuel wheel event = some loop') :
    loop'.Sound wheel target := by
  obtain ⟨device', hreceive, rfl⟩ := Option.map_eq_some_iff.mp h
  by_cases hprocessed : event.1.IsProcessed
  · have hwaiting := (Prod.mk.inj (loop.device.keypad_takeMessage event.1)).2
    replace hattentive := hattentive hprocessed
    rw [Sound] at hsound
    split at hsound
    next goal hgoal =>
      rw [hgoal] at hattentive
      obtain ⟨result, hstep, hactive, houtcomes, hidle, key, hsends, hkey⟩ :=
        OneTouchDevice.receive_of_some hgoal hsound.idle hprocessed hreceive
      have hanswers : loop.Answers result device' key := ⟨hactive, houtcomes, hidle, hsends⟩
      cases hphase : goal.phase with
      | navigating => exact sound_navigating hanswers hsound hstep hphase
      | beginEdit =>
        exact sound_beginEdit hanswers hsound hstep hattentive hkey hwaiting hphase
      | stepping => exact sound_stepping hanswers hsound hstep hattentive hkey hwaiting hphase
      | commit => exact sound_commit hanswers hsound hstep hattentive hkey hphase
    next hgoal =>
      rw [hgoal] at hattentive
      obtain ⟨hactive, houtcomes, key, hsends, hkey⟩ :=
        OneTouchDevice.receive_of_none hgoal hprocessed hreceive
      -- only the refresh can press another key, and then nobody listens
      have hpress : loop.editor.press wheel key = loop.settled wheel := by
        by_cases hlistening : loop.editor.listening
        · rw [hkey (hattentive hlistening), settled]
        · rw [settled, ValueEditor.press_of_not_listening (by simpa using hlistening),
            ValueEditor.press_of_not_listening (by simpa using hlistening)]
      refine sound_of_none hactive (endsWell_answered hactive hsends ?_ fun hdone => ?_)
      · rw [hpress]
        exact hsound.closed hgoal
      · rw [hpress]
        exact hsound.committed hgoal (houtcomes ▸ hdone)
  · rcases OneTouchDevice.receive_cases hreceive with ⟨-, rfl⟩ | ⟨hprocessed', -⟩
    · exact sound_dropped hsound
    · exact absurd hprocessed' hprocessed

theorem Begins.sound (h : loop.Begins goal) : loop.Sound wheel goal.target.toInt := by
  refine sound_of_some h.activeGoal ⟨rfl, h.idle, h.outcomes, ?_, ?_, ?_⟩
  · exact fun haway => absurd h.phase haway
  · rw [h.listening, h.phase]
    rfl
  · rw [h.phase]
    exact ⟨h.editing, h.committed⟩

end EditLoop

/-- From any value to any target on any wheel, with the messages of the controller and the
echoes of the panel in any order: as long as every message meets an attentive loop, the goal
is done only with the target committed, and ends only with the editor closed. -/
theorem value_edit_commits (model : MenuModel) (fuel : ℕ) (wheel : ValueWheel)
    {loop : EditLoop} {goal : ValueEditGoal} (hbegins : loop.Begins goal)
    (messages : List (BusMessage × Surroundings))
    (hattentive : EachStepTaken (EditLoop.step model fuel wheel) EditLoop.Attentive loop messages) :
    EachStateReached (EditLoop.step model fuel wheel) (EditLoop.EndsWell wheel goal.target.toInt)
      loop messages :=
  hattentive.eachStateReached
    (fun _ _ _ hstep hsound hattentive => EditLoop.sound_step hsound hattentive hstep)
    (fun _ hsound => hsound.endsWell) hbegins.sound

/-! ### Setting the pool heat from 80 to 81 -/

/-- The temperatures of the panel. -/
def temperatureWheel : ValueWheel where
  up value := if value < 104 then value + 1 else value
  down value := if 34 < value then value - 1 else value

def poolHeatLoop : EditLoop where
  device := poolHeatDevice
  editor := { value := 80, committed := 80 }

theorem poolHeatLoop_begins : poolHeatLoop.Begins poolHeatEdit :=
  ⟨rfl, rfl, rfl, rfl, rfl, rfl, rfl⟩

def statusMessage : BusMessage × Surroundings := (.status, {})

/-- The row is drawn with another value. -/
def echo (value : String) : BusMessage × Surroundings :=
  (.messageLong 2 ("Pool Heat " ++ value).toList, {})

/-- The arrow is echoed before the next status message. -/
theorem value_edit_commits_81 :
    EachStateReached (EditLoop.step setTemperatureModel 9 temperatureWheel)
      (EditLoop.EndsWell temperatureWheel 81) poolHeatLoop
      [statusMessage, statusMessage, statusMessage, echo "81", statusMessage] :=
  value_edit_commits setTemperatureModel 9 temperatureWheel poolHeatLoop_begins _
    (by decide +kernel)

/-- The row shows what the panel had two messages before.  So the second arrow is pressed
while the first is not shown yet, the goal commits on seeing 81, and the panel has 82. -/
def lateEcho : List (BusMessage × Surroundings) :=
  [statusMessage, statusMessage, statusMessage, statusMessage, echo "81", echo "82", statusMessage]

theorem late_echo_commits_82 :
    poolHeatLoop.Begins poolHeatEdit ∧
      (lateEcho.inits.map fun messages =>
        (messages.foldlM (EditLoop.step setTemperatureModel 9 temperatureWheel) poolHeatLoop).map
          fun loop => (displayedValue loop.device.displayedPage 2, loop.editor.value)) =
        [some (some 80, 80), some (some 80, 80), some (some 80, 80), some (some 80, 81),
          some (some 80, 82), some (some 81, 82), some (some 82, 82), some (some 82, 82)] ∧
      (lateEcho.foldlM (EditLoop.step setTemperatureModel 9 temperatureWheel) poolHeatLoop).map
          (fun loop => (loop.device.outcomes, loop.editor.committed)) = some ([.done], 82) ∧
      ¬ EachStateReached (EditLoop.step setTemperatureModel 9 temperatureWheel)
        (EditLoop.EndsWell temperatureWheel 81) poolHeatLoop lateEcho := by
  have hends : (lateEcho.foldlM (EditLoop.step setTemperatureModel 9 temperatureWheel)
      poolHeatLoop).map (fun loop => (loop.device.activeGoal.isNone, loop.device.outcomes,
        (loop.settled temperatureWheel).committed)) = some (true, [.done], 82) := by decide +kernel
  refine ⟨poolHeatLoop_begins, by decide +kernel, by decide +kernel, fun hwell => ?_⟩
  obtain ⟨loop, hrun, heq⟩ := Option.map_eq_some_iff.mp hends
  simp only [Prod.mk.injEq, Option.isNone_iff_eq_none] at heq
  have hcommitted := (hwell.last hrun).committed heq.1 (by rw [heq.2.1]; simp)
  rw [heq.2.2] at hcommitted
  exact absurd hcommitted (by decide)

end AqualinkAutomate.OneTouch
