import Aqualink.Iaq.AquaPureWriter

/-!
# The boost on the touch panel

The boost button of the chlorinator's page toggles the boost with each press.  The writer goes
to the page, presses the button and goes home; it keeps what the boost is to be with its goal,
but looks neither at that nor at the button.  `BoostPanel` is the writer with the page and the
boost.

So a goal that is done has pressed exactly once, whatever was asked for, and the boost is not
what it was (`boost_of_done`).
-/

namespace AqualinkAutomate.Iaq

open General Equipment

namespace AquaPureWriter

def pressesBoost (page : PageModel) (calls : SinkCalls) : Bool :=
  decide (page.pageId = pageSetSwg) &&
    calls.press.any fun entry => page.findButtonContaining "Boost".toList = some entry.index

/-- The boost button was pressed for the goal, in the phases of a goal for the boost. -/
def Phase.pressed : Phase → Option Bool
  | .navigate | .selectField | .failed => some false
  | .returnHome => some true
  | .submit | .done => none

inductive BoostStep (page : PageModel) (writer : AquaPureWriter) (pressed : Bool)
    (step : WriterStep AquaPureWriter) : Prop where
  | goesOn (hfinished : step.finished = none) (hpending : step.writer.pending = writer.pending)
      (hphase : step.writer.phase.pressed = some (pressed ^^ pressesBoost page step.calls))
  | ends (ok : Bool) (hfinished : step.finished = some ok) (hpending : step.writer.pending = none)
      (hpress : pressesBoost page step.calls = false) (hok : ok = true → pressed = true)

namespace BoostStep

variable {page : PageModel} {writer : AquaPureWriter} {pressed : Bool}
  {step : WriterStep AquaPureWriter} {goal : Goal}

theorem pressesBoost_of_none {calls : SinkCalls} (h : calls.press = none) :
    pressesBoost page calls = false := by
  rw [pressesBoost, h, Option.any_none, Bool.and_false]

theorem pressesBoost_of_other {calls : SinkCalls} (h : page.pageId ≠ pageSetSwg) :
    pressesBoost page calls = false := by
  rw [pressesBoost, decide_eq_false h, Bool.false_and]

theorem of_none (hfinished : step.finished = none) (hpending : step.writer.pending = writer.pending)
    (hpress : step.calls.press = none) (hphase : step.writer.phase.pressed = some pressed) :
    BoostStep page writer pressed step := by
  refine .goesOn hfinished hpending ?_
  rw [pressesBoost_of_none hpress, Bool.xor_false, hphase]

theorem unwind {failing : AquaPureWriter → WriterStep AquaPureWriter}
    (hphase : writer.phase.pressed = some pressed)
    (hfailing : ∀ counted : AquaPureWriter, counted.pending = writer.pending →
      BoostStep page writer pressed (failing counted)) :
    BoostStep page writer pressed (writer.unwind failing) := by
  unfold AquaPureWriter.unwind
  split_ifs
  · exact hfailing _ rfl
  · exact .of_none rfl rfl rfl hphase

theorem stepNavigate (hphase : writer.phase = .navigate) :
    BoostStep page writer false (writer.stepNavigate page) := by
  unfold AquaPureWriter.stepNavigate
  split_ifs with hset hmenu
  · exact .of_none rfl rfl rfl rfl
  · obtain ⟨hpending, hsame, -⟩ := writer.observeMenuPage_frame page
    have hnavigates : (writer.observeMenuPage page).phase.pressed = some false := by
      rw [hsame, hphase]
      rfl
    dsimp only
    split_ifs
    · exact .of_none rfl hpending rfl rfl
    · unfold pressMenuEntry
      dsimp only
      split
      · refine .goesOn rfl hpending ?_
        rwa [pressesBoost_of_other hset]
      · exact .of_none rfl hpending rfl hnavigates
  · have hnavigates : writer.phase.pressed = some false := by
      rw [hphase]
      rfl
    exact .unwind hnavigates fun _ hpending => .of_none rfl hpending rfl rfl

theorem stepSelectField (hphase : writer.phase = .selectField) (hboost : goal.isBoost) :
    BoostStep page writer false (writer.stepSelectField page goal) := by
  have hselects : writer.phase.pressed = some false := by
    rw [hphase]
    rfl
  unfold AquaPureWriter.stepSelectField
  split_ifs with hpage hempty
  · exact .of_none rfl rfl rfl rfl
  · exact .of_none rfl rfl rfl hselects
  · have hlabel : fieldLabel goal = "Boost".toList := if_pos hboost
    rw [hlabel]
    cases hfind : page.findButtonContaining "Boost".toList with
    | none => exact .of_none rfl rfl rfl rfl
    | some index =>
      obtain ⟨info, hinfo, -⟩ := (ByteTable.find?_eq_some_iff.mp hfind).1
      have hentry : page.buttonAt index = some ⟨index, info.name⟩ := by
        rw [PageModel.buttonAt, hinfo]
        rfl
      have hpress : pressesBoost page (.pressButton page index) := by
        rw [pressesBoost, SinkCalls.pressButton, hentry, Option.any_some,
          decide_eq_true (not_not.mp hpage), hfind]
        exact decide_eq_true rfl
      refine .goesOn rfl rfl ?_
      rw [hpress]
      rfl

theorem finishDone (counted : AquaPureWriter) : BoostStep page writer true counted.finishDone :=
  .ends true rfl rfl (pressesBoost_of_none rfl) fun _ => rfl

theorem stepReturnHome (hphase : writer.phase = .returnHome) :
    BoostStep page writer true (writer.stepReturnHome page) := by
  unfold AquaPureWriter.stepReturnHome
  split_ifs
  · exact .finishDone writer
  · refine .unwind ?_ fun counted _ => .finishDone counted
    rw [hphase]
    rfl

theorem finishFalse (counted : AquaPureWriter) :
    BoostStep page writer pressed (counted.finishGoal false) :=
  .ends false rfl rfl (pressesBoost_of_none rfl) nofun

theorem stepPhase {counted : AquaPureWriter} (hpending : counted.pending = writer.pending)
    (hboost : goal.isBoost) (hphase : counted.phase.pressed = some pressed) :
    BoostStep page writer pressed (counted.stepPhase page goal) := by
  have hgoal : BoostStep page counted pressed (counted.stepPhase page goal) := by
    unfold AquaPureWriter.stepPhase
    cases hnow : counted.phase with
    | navigate =>
      rw [hnow] at hphase
      obtain rfl : false = pressed := Option.some_inj.mp hphase
      exact .stepNavigate hnow
    | selectField =>
      rw [hnow] at hphase
      obtain rfl : false = pressed := Option.some_inj.mp hphase
      exact .stepSelectField hnow hboost
    | returnHome =>
      rw [hnow] at hphase
      obtain rfl : true = pressed := Option.some_inj.mp hphase
      exact .stepReturnHome hnow
    | failed => exact .finishFalse counted
    | submit | done =>
      rw [hnow] at hphase
      cases hphase
  cases hgoal with
  | goesOn hfinished hkept hpressed => exact .goesOn hfinished (hkept.trans hpending) hpressed
  | ends ok hfinished hnone hpress hok => exact .ends ok hfinished hnone hpress hok

theorem processStep (hpending : writer.pending = some goal) (hboost : goal.isBoost)
    (hphase : writer.phase.pressed = some pressed) :
    BoostStep page writer pressed (writer.processStep page) := by
  unfold AquaPureWriter.processStep
  rw [hpending]
  dsimp only
  split_ifs
  · exact .finishFalse _
  · exact .of_none rfl hpending.symm rfl hphase
  · exact .stepPhase hpending.symm hboost hphase

end BoostStep

theorem armed_of_accepted {writer : AquaPureWriter} {enable emulationActive channelBusy : Bool}
    (h : (writer.queueBoost enable emulationActive channelBusy).2 = .accepted) :
    (writer.queueBoost enable emulationActive channelBusy).1.pending =
        some { isBoost := true, boostEnable := enable } ∧
      (writer.queueBoost enable emulationActive channelBusy).1.phase = .navigate := by
  unfold queueBoost arm at h ⊢
  split_ifs at h ⊢
  exact ⟨rfl, rfl⟩

end AquaPureWriter

/-! ## Runs -/

structure BoostPanel where
  writer : AquaPureWriter
  page : PageModel
  boost : Bool
  finished : Option Bool := none

inductive BoostEvent where
  | page (message : PageMessage)
  | poll
  deriving DecidableEq

namespace BoostPanel

open AquaPureWriter

variable {panel : BoostPanel} {before : Bool}

def pollStep (panel : BoostPanel) : WriterStep AquaPureWriter :=
  (panel.writer.observeMenuPage panel.page).processStep panel.page

/-- With every message the writer looks whether it sees the menu.  The command of a poll goes
out with the answer to it, and the boost toggles. -/
def step (panel : BoostPanel) : BoostEvent → BoostPanel
  | .page message =>
    { panel with
      page := panel.page.take message
      writer := panel.writer.observeMenuPage (panel.page.take message) }
  | .poll =>
    { panel with
      writer := panel.pollStep.writer
      boost := panel.boost ^^ pressesBoost panel.page panel.pollStep.calls
      finished := panel.finished.or panel.pollStep.finished }

def Toggled (before : Bool) (panel : BoostPanel) : Prop :=
  match panel.writer.pending with
  | none => panel.finished = some true → panel.boost = !before
  | some goal =>
    panel.finished = none ∧ goal.isBoost = true ∧
      ∃ pressed, panel.writer.phase.pressed = some pressed ∧ panel.boost = (before ^^ pressed)

theorem toggled_of_none (hpending : panel.writer.pending = none) :
    panel.Toggled before ↔ (panel.finished = some true → panel.boost = !before) := by
  unfold Toggled
  rw [hpending]

theorem toggled_of_some {goal : Goal} (hpending : panel.writer.pending = some goal) :
    panel.Toggled before ↔ panel.finished = none ∧ goal.isBoost ∧
      ∃ pressed, panel.writer.phase.pressed = some pressed ∧ panel.boost = (before ^^ pressed) := by
  unfold Toggled
  rw [hpending]

theorem Toggled.observe (h : panel.Toggled before) (page page' : PageModel) :
    ({ panel with page := page', writer := panel.writer.observeMenuPage page } :
      BoostPanel).Toggled before := by
  obtain ⟨hpending, hphase, -⟩ := panel.writer.observeMenuPage_frame page
  unfold Toggled at h ⊢
  rwa [hpending, hphase]

theorem Toggled.poll (h : panel.Toggled before) : (panel.step .poll).Toggled before := by
  have hobserved := h.observe panel.page panel.page
  cases hpending : (panel.writer.observeMenuPage panel.page).pending with
  | none =>
    have hrests : panel.pollStep = .rest (panel.writer.observeMenuPage panel.page) := by
      unfold pollStep processStep
      rw [hpending]
    have hdone := (toggled_of_none hpending).mp hobserved
    have hquiet : pressesBoost panel.page panel.pollStep.calls = false := by
      rw [hrests]
      exact BoostStep.pressesBoost_of_none rfl
    refine (toggled_of_none ?_).mpr fun hfinished => ?_
    · show panel.pollStep.writer.pending = none
      rwa [hrests]
    · have hbefore : panel.finished.or panel.pollStep.finished = some true := hfinished
      rw [hrests] at hbefore
      have hboost := hdone (by simpa [WriterStep.rest] using hbefore)
      show (panel.boost ^^ pressesBoost panel.page panel.pollStep.calls) = !before
      rwa [hquiet, Bool.xor_false]
  | some goal =>
    obtain ⟨hfinished, hboost, pressed, hphase, hnow⟩ := (toggled_of_some hpending).mp hobserved
    have hnone : panel.finished = none := hfinished
    have hpressed : panel.boost = (before ^^ pressed) := hnow
    have hstep : BoostStep panel.page _ pressed panel.pollStep :=
      .processStep hpending hboost hphase
    cases hstep with
    | goesOn hgoes hkept hnext =>
      refine (toggled_of_some (hkept.trans hpending)).mpr ⟨?_, hboost, _, hnext, ?_⟩
      · show panel.finished.or panel.pollStep.finished = none
        rw [hnone, hgoes]
        rfl
      · show (panel.boost ^^ pressesBoost panel.page panel.pollStep.calls) = _
        rw [hpressed, Bool.xor_assoc]
    | ends ok hended hgone hquiet hok =>
      refine (toggled_of_none hgone).mpr fun hdone => ?_
      have hbefore : panel.finished.or panel.pollStep.finished = some true := hdone
      rw [hnone, hended] at hbefore
      obtain rfl := hok (Option.some_inj.mp hbefore)
      show (panel.boost ^^ pressesBoost panel.page panel.pollStep.calls) = !before
      rw [hquiet, hpressed, Bool.xor_false, Bool.xor_true]

theorem Toggled.step (h : panel.Toggled before) (event : BoostEvent) :
    (panel.step event).Toggled before := by
  cases event with
  | page message => exact h.observe _ _
  | poll => exact h.poll

/-- **Completion on the touch panel.**  Once the goal of an accepted request is done, the boost
is not what it was, whatever it was to be. -/
theorem boost_of_done {writer : AquaPureWriter} {enable emulationActive channelBusy : Bool}
    (haccepted : (writer.queueBoost enable emulationActive channelBusy).2 = .accepted)
    (page : PageModel) {events : List BoostEvent} {last : BoostPanel}
    (hlast : last = events.foldl step ⟨(writer.queueBoost enable emulationActive channelBusy).1,
      page, before, none⟩)
    (hdone : last.finished = some true) : last.boost = !before := by
  have hstart : Toggled before
      ⟨(writer.queueBoost enable emulationActive channelBusy).1, page, before, none⟩ := by
    obtain ⟨hpending, hphase⟩ := armed_of_accepted haccepted
    refine (toggled_of_some hpending).mpr ⟨rfl, rfl, false, ?_, (Bool.xor_false before).symm⟩
    show Phase.pressed (writer.queueBoost enable emulationActive channelBusy).1.phase = _
    rw [hphase]
    rfl
  have hend : last.Toggled before := by
    rw [hlast]
    exact foldl_of_step (fun _ event h => h.step event) hstart
  cases hpending : last.writer.pending with
  | none => exact (toggled_of_none hpending).mp hend hdone
  | some goal =>
    obtain ⟨hnone, -⟩ := (toggled_of_some hpending).mp hend
    rw [hdone] at hnone
    cases hnone

end BoostPanel

end AqualinkAutomate.Iaq
