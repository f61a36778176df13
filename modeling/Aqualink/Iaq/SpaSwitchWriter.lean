import Aqualink.Iaq.PageModel

/-!
# Assigning a function to a spa switch

The spa-switch writer walks to the page of the spa switches, selects the row of the button
that is to be changed, scrolls the picker until the function is in it, and presses it there,
which takes effect at once.  Then it waits until the controller reports the assignment.
-/

namespace AqualinkAutomate.Iaq

open General Navigation Equipment

namespace SpaSwitchWriter

abbrev pageSetup : UInt8 := 0x14
abbrev pageSpaRemotes : UInt8 := 0x3A
abbrev pageSpaSwitchDetail : UInt8 := 0x3B

abbrev cmdMenuToSetup : UInt8 := 0x15
abbrev cmdOpenSpaSwitchDetail : UInt8 := 0x16
abbrev cmdScrollPicker : UInt8 := 0x15
abbrev rowSelectCmdBase : UInt8 := 0x15
abbrev commitCmdBase : UInt8 := 0x1C

abbrev maxVisibleRow : ℕ := 7
abbrev settlePolls : ℕ := 4
abbrev maxScrolls : ℕ := 10
abbrev pollLimit : ℕ := 400

inductive Phase where
  | navigate | selectRow | findFunction | verify | done | failed
  deriving DecidableEq

structure Goal where
  switchNumber : UInt8
  buttonNumber : UInt8
  function : Text
  deriving DecidableEq

/-- The row of the button on the page, from 1 on. -/
def ordinal (switchNumber buttonNumber : UInt8) : ℕ :=
  (switchNumber.toNat - 1) * 4 + buttonNumber.toNat

def Goal.ordinal (goal : Goal) : ℕ := SpaSwitchWriter.ordinal goal.switchNumber goal.buttonNumber

def Goal.rowSelectCommand (goal : Goal) : UInt8 := rowSelectCmdBase + UInt8.ofNat goal.ordinal

/-- The button of a row of the picker. -/
def commitCommand (slot : UInt8) : UInt8 := commitCmdBase + slot

end SpaSwitchWriter

/-- The writer of spa-switch assignments. -/
structure SpaSwitchWriter where
  pending : Option SpaSwitchWriter.Goal := none
  phase : SpaSwitchWriter.Phase := .navigate
  rowSelected : Bool := false
  pollCount : ℕ := 0
  scrollCount : ℕ := 0
  settleCount : ℕ := 0
  firstPickerSeen : Option Text := none
  deriving DecidableEq

/-- The functions of the buttons, as the controller reports them. -/
abbrev SpaSwitchAssignments : Type := UInt8 → UInt8 → Option Text

namespace SpaSwitchWriter

/-! ## Requests -/

def queue (writer : SpaSwitchWriter) (switchNumber buttonNumber : UInt8) (function : Text)
    (emulationActive channelBusy : Bool) : SpaSwitchWriter × ActuationResult :=
  if emulationActive = false then (writer, .notSupported)
  else if switchNumber < 1 ∨ buttonNumber < 1 ∨ 4 < buttonNumber ∨ function = [] then
    (writer, .invalidValue)
  -- the row is not on the page
  else if maxVisibleRow < ordinal switchNumber buttonNumber then (writer, .notSupported)
  else if writer.pending.isSome ∨ channelBusy = true then (writer, .busy)
  else
    ({ pending := some ⟨switchNumber, buttonNumber, function⟩ }, .accepted)

/-! ## Steps -/

def settle (writer : SpaSwitchWriter) : SpaSwitchWriter :=
  { writer with settleCount := settlePolls }

def issueAndSettle (writer : SpaSwitchWriter) (command : UInt8) : WriterStep SpaSwitchWriter where
  writer := writer.settle
  calls := .issue command

def finishGoal (writer : SpaSwitchWriter) (ok : Bool) : WriterStep SpaSwitchWriter where
  writer := { writer with
    pending := none
    phase := .navigate
    rowSelected := false
    scrollCount := 0
    settleCount := 0
    firstPickerSeen := none }
  calls := .issue cmdDwell
  finished := some ok

def stepNavigate (writer : SpaSwitchWriter) (page : PageModel) : WriterStep SpaSwitchWriter :=
  if page.pageId = pageSpaSwitchDetail then .rest { writer with phase := .selectRow }
  else if page.pageId = pageSpaRemotes then writer.issueAndSettle cmdOpenSpaSwitchDetail
  else if page.pageId = pageSetup then
    match page.findButtonByLabel "Spa Remotes".toList with
    | some index => { writer := writer.settle, calls := .pressButton page index }
    | none => .dwell writer
  else if page.pageId = pageMenu then writer.issueAndSettle cmdMenuToSetup
  else writer.issueAndSettle cmdBack

def stepSelectRow (writer : SpaSwitchWriter) (page : PageModel) (goal : Goal) :
    WriterStep SpaSwitchWriter :=
  if page.pageId ≠ pageSpaSwitchDetail then .rest { writer with phase := .navigate }
  else if writer.rowSelected then
    .rest { writer with phase := .findFunction, firstPickerSeen := none }
  else
    { writer := { writer.settle with
        rowSelected := true
        phase := .findFunction
        firstPickerSeen := none }
      calls := .issue goal.rowSelectCommand }

/-- The row of the picker that shows the function. -/
def functionSlot (page : PageModel) (goal : Goal) : Option UInt8 :=
  page.spaSwitchPickerRows.find? fun function => equalsCaseInsensitive function goal.function

def signature (page : PageModel) : Text := page.spaSwitchPickerRows.first?.getD []

/-- The picker has been scrolled round to the rows it began with. -/
def hasWrapped (writer : SpaSwitchWriter) (page : PageModel) : Bool :=
  writer.firstPickerSeen.any fun first =>
    signature page ≠ [] && 0 < writer.scrollCount &&
      equalsCaseInsensitive (signature page) first

def scroll (writer : SpaSwitchWriter) (page : PageModel) : WriterStep SpaSwitchWriter :=
  if writer.hasWrapped page then writer.finishGoal false
  else
    let writer := { writer with
      firstPickerSeen := some (writer.firstPickerSeen.getD (signature page))
      scrollCount := writer.scrollCount + 1 }
    if maxScrolls < writer.scrollCount then writer.finishGoal false
    else writer.issueAndSettle cmdScrollPicker

def stepFindFunction (writer : SpaSwitchWriter) (page : PageModel) (goal : Goal) :
    WriterStep SpaSwitchWriter :=
  if page.pageId ≠ pageSpaSwitchDetail then .rest { writer with phase := .navigate }
  else
    match functionSlot page goal with
    | some slot =>
      { writer := { writer.settle with phase := .verify }
        calls := .issue (commitCommand slot) }
    | none => writer.scroll page

/-- The goal is done when the panel reports the assignment. -/
def stepVerify (writer : SpaSwitchWriter) (assignments : SpaSwitchAssignments) (goal : Goal) :
    WriterStep SpaSwitchWriter :=
  if (assignments goal.switchNumber goal.buttonNumber).any fun live =>
      equalsCaseInsensitive live goal.function then
    writer.finishGoal true
  else .dwell writer

def stepPhase (writer : SpaSwitchWriter) (page : PageModel) (assignments : SpaSwitchAssignments)
    (goal : Goal) : WriterStep SpaSwitchWriter :=
  match writer.phase with
  | .navigate => writer.stepNavigate page
  | .selectRow => writer.stepSelectRow page goal
  | .findFunction => writer.stepFindFunction page goal
  | .verify => writer.stepVerify assignments goal
  | .done => writer.finishGoal true
  | .failed => writer.finishGoal false

/-- One poll: the limit first, then the wait for the page, then the phase. -/
def processStep (writer : SpaSwitchWriter) (page : PageModel)
    (assignments : SpaSwitchAssignments) : WriterStep SpaSwitchWriter :=
  match writer.pending with
  | none => .rest writer
  | some goal =>
    let counted := { writer with pollCount := writer.pollCount + 1 }
    if pollLimit < counted.pollCount then counted.finishGoal false
    else if 0 < counted.settleCount then
      .dwell { counted with settleCount := counted.settleCount - 1 }
    else counted.stepPhase page assignments goal

/-! ## What the answers say -/

section

variable (writer : SpaSwitchWriter) (switchNumber buttonNumber : UInt8) (function : Text)
  (emulationActive channelBusy : Bool)

/-- A request is refused, or starts a walk of its own. -/
theorem queue_cases :
    (∃ result ≠ .accepted, writer.queue switchNumber buttonNumber function emulationActive
        channelBusy = (writer, result)) ∨
      writer.queue switchNumber buttonNumber function emulationActive channelBusy =
        ({ pending := some ⟨switchNumber, buttonNumber, function⟩ }, .accepted) := by
  unfold queue
  split_ifs
  · exact .inl ⟨_, by decide, rfl⟩
  · exact .inl ⟨_, by decide, rfl⟩
  · exact .inl ⟨_, by decide, rfl⟩
  · exact .inl ⟨_, by decide, rfl⟩
  · exact .inr rfl

theorem queued_queue :
    Queued (·.pending.isSome) writer emulationActive channelBusy
      (writer.queue switchNumber buttonNumber function emulationActive channelBusy) := by
  unfold queue
  split_ifs with hactive hinvalid hrow hbusy
  · exact queued_of_refused (by decide)
  · exact queued_of_refused (by decide)
  · exact queued_of_refused (by decide)
  · exact queued_of_refused (by decide)
  · refine ⟨fun hrefused => absurd rfl hrefused, fun _ => ⟨?_, ?_, rfl⟩⟩
    · exact (Bool.not_eq_false _).mp hactive
    · exact (Bool.not_eq_true _).mp fun h => hbusy (.inr h)

end

/-! ## What every step keeps to -/

open WriterStep

section

variable {writer : SpaSwitchWriter} (h : writer.pending.isSome = true)

include h

theorem regular_stepNavigate (page : PageModel) :
    (writer.stepNavigate page).Regular (·.pending.isSome) := by
  unfold stepNavigate
  split_ifs
  · exact regular_of_working h rfl
  · exact regular_of_working h rfl
  · cases page.findButtonByLabel "Spa Remotes".toList with
    | none => exact regular_of_working h rfl
    | some index => exact regular_of_working h rfl
  · exact regular_of_working h rfl
  · exact regular_of_working h rfl

theorem regular_stepSelectRow (page : PageModel) (goal : Goal) :
    (writer.stepSelectRow page goal).Regular (·.pending.isSome) := by
  unfold stepSelectRow
  split_ifs
  all_goals exact regular_of_working h rfl

theorem regular_stepFindFunction (page : PageModel) (goal : Goal) :
    (writer.stepFindFunction page goal).Regular (·.pending.isSome) := by
  unfold stepFindFunction
  split
  · exact regular_of_working h rfl
  · cases functionSlot page goal with
    | some slot => exact regular_of_working h rfl
    | none =>
      simp only [scroll]
      split_ifs
      · exact regular_of_finish rfl
      · exact regular_of_finish rfl
      · exact regular_of_working h rfl

theorem regular_stepVerify (assignments : SpaSwitchAssignments) (goal : Goal) :
    (writer.stepVerify assignments goal).Regular (·.pending.isSome) := by
  unfold stepVerify
  split_ifs
  · exact regular_of_finish rfl
  · exact regular_of_working h rfl

theorem regular_processStep (page : PageModel) (assignments : SpaSwitchAssignments) :
    (writer.processStep page assignments).Regular (·.pending.isSome) := by
  obtain ⟨goal, hgoal⟩ := Option.isSome_iff_exists.mp h
  simp only [processStep, hgoal]
  split_ifs
  · exact regular_of_finish rfl
  · exact regular_of_working rfl rfl
  · unfold stepPhase
    split
    · exact regular_stepNavigate rfl page
    · exact regular_stepSelectRow rfl page goal
    · exact regular_stepFindFunction rfl page goal
    · exact regular_stepVerify rfl assignments goal
    · exact regular_of_finish rfl
    · exact regular_of_finish rfl

end

/-! ## Which buttons a step presses -/

theorem press_processStep {writer : SpaSwitchWriter} {page : PageModel}
    {assignments : SpaSwitchAssignments} {entry : ResolvedButton}
    (h : (writer.processStep page assignments).calls.press = some entry) :
    writer.pending.isSome ∧ writer.settleCount = 0 ∧ writer.phase = .navigate ∧
      page.pageId = pageSetup ∧
      ∃ index, page.findButtonByLabel "Spa Remotes".toList = some index ∧
        page.buttonAt index = some entry := by
  simp only [processStep] at h
  split at h
  · cases h
  · next goal hgoal =>
      split at h
      · cases h
      · split at h
        · cases h
        · next hsettle =>
            refine ⟨by rw [hgoal]; rfl, Nat.eq_zero_of_not_pos hsettle, ?_⟩
            unfold stepPhase at h
            cases hphase : writer.phase with
            | navigate =>
              simp only [hphase, stepNavigate] at h
              split at h
              · cases h
              · split at h
                · cases h
                · split at h
                  · next hsetup =>
                      split at h
                      · next index hindex => exact ⟨rfl, hsetup, index, hindex, h⟩
                      · cases h
                  · split at h <;> cases h
            | selectRow =>
              simp only [hphase, stepSelectRow] at h
              split at h
              · cases h
              · split at h <;> cases h
            | findFunction =>
              simp only [hphase, stepFindFunction, scroll] at h
              split at h
              · cases h
              · split at h
                · cases h
                · split at h
                  · cases h
                  · split at h <;> cases h
            | verify =>
              simp only [hphase, stepVerify] at h
              split at h <;> cases h
            | done =>
              simp only [hphase] at h
              cases h
            | failed =>
              simp only [hphase] at h
              cases h

end SpaSwitchWriter

end AqualinkAutomate.Iaq
