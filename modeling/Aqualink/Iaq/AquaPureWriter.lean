import Aqualink.Iaq.PageModel

/-!
# Setting the chlorinator

The AquaPure writer walks to the page of the chlorinator, presses the row of the body of water
or the boost button there, submits the value, and goes back to the home page.  It looks at the
page before each command, so a walk that went astray is taken up again.

The menu of the panel may not show its buttons.  Then the key that opens the page is pressed
all the same, and a panel on which that fails is remembered to have no such page.
-/

namespace AqualinkAutomate.Iaq

open General Navigation Equipment

namespace AquaPureWriter

abbrev pageSetSwg : UInt8 := 0x30
abbrev settlePolls : ℕ := 4
abbrev maxUnwind : ℕ := 6
abbrev pollLimit : ℕ := 200
abbrev cmdMenuToAquaPure : UInt8 := 0x19
abbrev maxMenuAttempts : ℕ := 2

def menuLabels : List Text := ["AquaPure".toList, "Aqua Pure".toList, "Chlorinator".toList]

inductive Phase where
  | navigate | selectField | submit | returnHome | done | failed
  deriving DecidableEq

/-- A percentage for a body of water, or the boost. -/
structure Goal where
  isBoost : Bool := false
  boostEnable : Bool := false
  percentage : UInt8 := 0
  body : BodyOfWaterIds := .pool
  deriving DecidableEq

end AquaPureWriter

/-- The writer of chlorinator settings. -/
structure AquaPureWriter where
  pending : Option AquaPureWriter.Goal := none
  phase : AquaPureWriter.Phase := .navigate
  pollCount : ℕ := 0
  settleCount : ℕ := 0
  unwindCount : ℕ := 0
  menuAttempts : ℕ := 0
  fieldSelected : Bool := false
  routeUnavailable : Bool := false
  /-- The menu entry that was learned, with the name that it had then. -/
  menuAquaPureIndex : Option ResolvedButton := none
  deriving DecidableEq

def PageButtonInfo.nameContains (needle : Text) (info : PageButtonInfo) : Bool :=
  needle ≠ [] && containsCaseInsensitive (trimWhitespace info.name) needle

def PageModel.findButtonContaining (page : PageModel) (needle : Text) : Option UInt8 :=
  page.buttons.find? (PageButtonInfo.nameContains needle)

namespace AquaPureWriter

/-! ## Requests -/

def arm (writer : AquaPureWriter) (goal : Goal) (emulationActive channelBusy : Bool) :
    AquaPureWriter × ActuationResult :=
  if emulationActive = false then (writer, .notSupported)
  else if writer.pending.isSome ∨ channelBusy = true then (writer, .busy)
  else if writer.routeUnavailable then (writer, .mappingFailed)
  else
    ({ writer with
        pending := some goal
        phase := .navigate
        pollCount := 0
        settleCount := 0
        unwindCount := 0
        menuAttempts := 0
        fieldSelected := false }, .accepted)

/-- More than a hundred is refused before the writer is looked at. -/
def queuePercentage (writer : AquaPureWriter) (percentage : UInt8) (body : BodyOfWaterIds)
    (emulationActive channelBusy : Bool) : AquaPureWriter × ActuationResult :=
  if 100 < percentage then (writer, .invalidValue)
  else if body ≠ .pool ∧ body ≠ .spa then (writer, .invalidValue)
  else writer.arm { percentage := percentage, body := body } emulationActive channelBusy

def queueBoost (writer : AquaPureWriter) (enable emulationActive channelBusy : Bool) :
    AquaPureWriter × ActuationResult :=
  writer.arm { isBoost := true, boostEnable := enable } emulationActive channelBusy

/-! ## Steps -/

/-- The button of the menu that leads to the chlorinator, by the first of the labels it has. -/
def menuEntry (page : PageModel) : Option UInt8 := menuLabels.findSome? page.findButtonContaining

/-- What a menu page tells about the way to the chlorinator.  One without buttons tells
nothing. -/
def observeMenuPage (writer : AquaPureWriter) (page : PageModel) : AquaPureWriter :=
  if page.pageId ≠ pageMenu ∨ page.buttons.isEmpty = true then writer
  else
    match menuEntry page with
    | some index =>
      { writer with menuAquaPureIndex := page.buttonAt index, routeUnavailable := false }
    | none => { writer with menuAquaPureIndex := none }

def settle (writer : AquaPureWriter) : AquaPureWriter :=
  { writer with settleCount := settlePolls }

def finishGoal (writer : AquaPureWriter) (ok : Bool) : WriterStep AquaPureWriter where
  writer := { writer with
    pending := none
    phase := .navigate
    settleCount := 0
    unwindCount := 0
    menuAttempts := 0
    fieldSelected := false }
  calls := .issue cmdDwell
  finished := some ok

def issueAndSettle (writer : AquaPureWriter) (command : UInt8) : WriterStep AquaPureWriter where
  writer := writer.settle
  calls := .issue command

/-- Press the entry that the menu was last seen to have, or else the key that it has on other
panels. -/
def pressMenuEntry (writer : AquaPureWriter) : WriterStep AquaPureWriter :=
  match writer.menuAquaPureIndex with
  | some entry =>
    { writer := writer.settle
      calls := { command := some (pressCommandFor entry.index), press := some entry } }
  | none => writer.issueAndSettle cmdMenuToAquaPure

/-- Go up, but not too often. -/
def unwind (writer : AquaPureWriter) (failing : AquaPureWriter → WriterStep AquaPureWriter) :
    WriterStep AquaPureWriter :=
  let counted := { writer with unwindCount := writer.unwindCount + 1 }
  if maxUnwind ≤ writer.unwindCount then failing counted else counted.issueAndSettle cmdBack

def fail (writer : AquaPureWriter) : WriterStep AquaPureWriter :=
  .rest { writer with phase := .failed }

def stepNavigate (writer : AquaPureWriter) (page : PageModel) : WriterStep AquaPureWriter :=
  if page.pageId = pageSetSwg then
    .rest { writer with phase := .selectField, unwindCount := 0 }
  else if page.pageId = pageMenu then
    let writer := writer.observeMenuPage page
    let counted := { writer with menuAttempts := writer.menuAttempts + 1 }
    -- still on the menu after pressing
    if maxMenuAttempts ≤ writer.menuAttempts then
      { counted with routeUnavailable := true }.fail
    else counted.pressMenuEntry
  else writer.unwind fail

/-- What the button of the field has in its name. -/
def fieldLabel (goal : Goal) : Text :=
  if goal.isBoost then "Boost".toList
  else if goal.body = .spa then "Spa".toList
  else "Pool".toList

def stepSelectField (writer : AquaPureWriter) (page : PageModel) (goal : Goal) :
    WriterStep AquaPureWriter :=
  if page.pageId ≠ pageSetSwg then .rest { writer with phase := .navigate }
  else if page.buttons.isEmpty then .dwell writer
  else
    match page.findButtonContaining (fieldLabel goal) with
    | none => writer.fail
    | some index =>
      { writer := { writer.settle with
          fieldSelected := true
          phase := if goal.isBoost then .returnHome else .submit }
        calls := .pressButton page index }

def stepSubmit (writer : AquaPureWriter) (page : PageModel) (goal : Goal) :
    WriterStep AquaPureWriter :=
  if page.pageId ≠ pageSetSwg then
    .rest { writer with phase := .navigate, fieldSelected := false }
  else
    { writer := { writer.settle with phase := .returnHome }
      calls :=
        { command := some cmdSubmitValue
          controlValue := some ('1' :: decimal goal.percentage.toNat) } }

/-- The goal is done: the value was submitted, wherever the panel is left. -/
def finishDone (writer : AquaPureWriter) : WriterStep AquaPureWriter :=
  let finished := writer.finishGoal true
  { finished with writer := { finished.writer with phase := .done } }

def stepReturnHome (writer : AquaPureWriter) (page : PageModel) : WriterStep AquaPureWriter :=
  if page.pageId = pageHome then writer.finishDone else writer.unwind finishDone

def stepPhase (writer : AquaPureWriter) (page : PageModel) (goal : Goal) :
    WriterStep AquaPureWriter :=
  match writer.phase with
  | .navigate => writer.stepNavigate page
  | .selectField => writer.stepSelectField page goal
  | .submit => writer.stepSubmit page goal
  | .returnHome => writer.stepReturnHome page
  | .done => writer.finishGoal true
  | .failed => writer.finishGoal false

/-- One poll: the limit first, then the wait for the page, then the phase. -/
def processStep (writer : AquaPureWriter) (page : PageModel) : WriterStep AquaPureWriter :=
  match writer.pending with
  | none => .rest writer
  | some goal =>
    let counted := { writer with pollCount := writer.pollCount + 1 }
    if pollLimit < writer.pollCount then counted.finishGoal false
    else if 0 < counted.settleCount then
      .dwell { counted with settleCount := counted.settleCount - 1 }
    else counted.stepPhase page goal

/-! ## What the answers say -/

theorem queued_arm (writer : AquaPureWriter) (goal : Goal) (emulationActive channelBusy : Bool) :
    Queued (·.pending.isSome) writer emulationActive channelBusy
      (writer.arm goal emulationActive channelBusy) := by
  unfold arm
  split_ifs with hactive hbusy hroute
  · exact queued_of_refused (by decide)
  · exact queued_of_refused (by decide)
  · exact queued_of_refused (by decide)
  · refine ⟨fun hrefused => absurd rfl hrefused, fun _ => ⟨?_, ?_, rfl⟩⟩
    · exact (Bool.not_eq_false _).mp hactive
    · exact (Bool.not_eq_true _).mp fun h => hbusy (.inr h)

theorem queued_queuePercentage (writer : AquaPureWriter) (percentage : UInt8)
    (body : BodyOfWaterIds) (emulationActive channelBusy : Bool) :
    Queued (·.pending.isSome) writer emulationActive channelBusy
      (writer.queuePercentage percentage body emulationActive channelBusy) := by
  unfold queuePercentage
  split
  · exact queued_of_refused (by decide)
  · split
    · exact queued_of_refused (by decide)
    · exact writer.queued_arm _ _ _

theorem queued_queueBoost (writer : AquaPureWriter) (enable emulationActive channelBusy : Bool) :
    Queued (·.pending.isSome) writer emulationActive channelBusy
      (writer.queueBoost enable emulationActive channelBusy) :=
  writer.queued_arm _ _ _

/-! ## What every step keeps to -/

open WriterStep

variable {writer : AquaPureWriter}

theorem regular_unwind {failing : AquaPureWriter → WriterStep AquaPureWriter}
    (h : writer.pending.isSome)
    (hfailing : ∀ writer : AquaPureWriter, writer.pending.isSome →
      (failing writer).Regular (·.pending.isSome)) :
    (writer.unwind failing).Regular (·.pending.isSome) := by
  unfold unwind
  split_ifs
  · exact hfailing _ h
  · exact regular_of_working h rfl

section

variable (writer : AquaPureWriter) (page : PageModel)

theorem observeMenuPage_frame :
    (writer.observeMenuPage page).pending = writer.pending ∧
      (writer.observeMenuPage page).phase = writer.phase ∧
      (writer.observeMenuPage page).settleCount = writer.settleCount := by
  unfold observeMenuPage
  split
  · exact ⟨rfl, rfl, rfl⟩
  · cases menuEntry page <;> exact ⟨rfl, rfl, rfl⟩

theorem pending_observeMenuPage : (writer.observeMenuPage page).pending = writer.pending :=
  (writer.observeMenuPage_frame page).1

theorem observeMenuPage_observeMenuPage :
    (writer.observeMenuPage page).observeMenuPage page = writer.observeMenuPage page := by
  by_cases hblank : page.pageId ≠ pageMenu ∨ page.buttons.isEmpty
  · rw [observeMenuPage, if_pos hblank]
  · rw [observeMenuPage, observeMenuPage, if_neg hblank, if_neg hblank]
    cases menuEntry page <;> rfl

end

section

variable (h : writer.pending.isSome = true)

include h

section

variable (page : PageModel)

theorem regular_stepNavigate : (writer.stepNavigate page).Regular (·.pending.isSome) := by
  unfold stepNavigate
  split_ifs with hset hmenu
  · exact regular_of_working h rfl
  · have hobserved : (writer.observeMenuPage page).pending.isSome := by
      rw [pending_observeMenuPage, h]
    dsimp only
    split_ifs
    · exact regular_of_working hobserved rfl
    · unfold pressMenuEntry
      dsimp only
      split
      · exact regular_of_working hobserved rfl
      · exact regular_of_working hobserved rfl
  · exact regular_unwind h fun _ hgoal => regular_of_working hgoal rfl

theorem regular_stepSelectField (goal : Goal) :
    (writer.stepSelectField page goal).Regular (·.pending.isSome) := by
  unfold stepSelectField
  split
  · exact regular_of_working h rfl
  · split
    · exact regular_of_working h rfl
    · cases page.findButtonContaining (fieldLabel goal) with
      | none => exact regular_of_working h rfl
      | some index => exact regular_of_working h rfl

theorem regular_stepSubmit (goal : Goal) :
    (writer.stepSubmit page goal).Regular (·.pending.isSome) := by
  unfold stepSubmit
  split_ifs
  · exact regular_of_working h rfl
  · exact regular_of_submit h

theorem regular_stepReturnHome : (writer.stepReturnHome page).Regular (·.pending.isSome) := by
  unfold stepReturnHome
  split_ifs
  · exact regular_of_finish rfl
  · exact regular_unwind h fun _ _ => regular_of_finish rfl

theorem regular_processStep : (writer.processStep page).Regular (·.pending.isSome) := by
  obtain ⟨goal, hgoal⟩ := Option.isSome_iff_exists.mp h
  simp only [processStep, hgoal]
  split_ifs
  · exact regular_of_finish rfl
  · exact regular_of_working rfl rfl
  · unfold stepPhase
    split
    · exact regular_stepNavigate rfl page
    · exact regular_stepSelectField rfl page goal
    · exact regular_stepSubmit rfl page goal
    · exact regular_stepReturnHome rfl page
    · exact regular_of_finish rfl
    · exact regular_of_finish rfl

end

end

/-! ## Which buttons a step presses -/

variable {entry : ResolvedButton}

theorem press_stepPhase {page : PageModel} {goal : Goal}
    (h : (writer.stepPhase page goal).calls.press = some entry) :
    (writer.phase = .navigate ∧ page.pageId = pageMenu ∧
        (writer.observeMenuPage page).menuAquaPureIndex = some entry) ∨
      (writer.phase = .selectField ∧ page.pageId = pageSetSwg ∧
        ∃ index, page.findButtonContaining (fieldLabel goal) = some index ∧
          page.buttonAt index = some entry) := by
  unfold stepPhase at h
  cases hphase : writer.phase with
  | navigate =>
    rw [hphase] at h
    simp only [stepNavigate] at h
    split at h
    · cases h
    · split at h
      · next hmenu =>
          split at h
          · cases h
          · refine .inl ⟨rfl, hmenu, ?_⟩
            unfold pressMenuEntry at h
            dsimp only at h
            split at h
            · next learned hlearned => exact hlearned.trans h
            · cases h
      · unfold unwind at h
        dsimp only at h
        split at h <;> cases h
  | selectField =>
    rw [hphase] at h
    simp only [stepSelectField] at h
    split at h
    · cases h
    · next hpage =>
        split at h
        · cases h
        · split at h
          · cases h
          · next index hindex =>
              exact .inr ⟨rfl, not_not.mp hpage, index, hindex, h⟩
  | submit =>
    rw [hphase] at h
    simp only [stepSubmit] at h
    split at h <;> cases h
  | returnHome =>
    rw [hphase] at h
    simp only [stepReturnHome, unwind] at h
    split at h
    · cases h
    · split at h <;> cases h
  | done =>
    rw [hphase] at h
    cases h
  | failed =>
    rw [hphase] at h
    cases h

theorem press_processStep {page : PageModel}
    (h : (writer.processStep page).calls.press = some entry) :
    ∃ goal ∈ writer.pending, writer.settleCount = 0 ∧
      ((writer.phase = .navigate ∧ page.pageId = pageMenu ∧
          (writer.observeMenuPage page).menuAquaPureIndex = some entry) ∨
        (writer.phase = .selectField ∧ page.pageId = pageSetSwg ∧
          ∃ index, page.findButtonContaining (fieldLabel goal) = some index ∧
            page.buttonAt index = some entry)) := by
  simp only [processStep] at h
  split at h
  · cases h
  · next goal hgoal =>
      split at h
      · cases h
      · split at h
        · cases h
        · next hsettle =>
            refine ⟨goal, hgoal, Nat.eq_zero_of_not_pos hsettle, ?_⟩
            refine (press_stepPhase h).imp (And.imp_right (And.imp_right fun hlearned => ?_)) id
            refine Eq.trans ?_ hlearned
            unfold observeMenuPage
            split
            · rfl
            · cases menuEntry page <;> rfl

end AquaPureWriter

end AqualinkAutomate.Iaq
