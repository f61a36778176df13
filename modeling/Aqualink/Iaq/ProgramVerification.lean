import Aqualink.Iaq.ScheduleWriter

/-!
# What the panel takes for a program that was written

The key for the days saves a program, and Ok on the dialog deletes one; then the writer looks
at the schedule list.  `ListWatch` follows whether that key was issued, and whether the page
that started last has been sent to its end.

The writer is to report success only on a schedule list that is complete and shows what was
asked for (`Confirms`).  A program that was written is only found on the list, while one that
was deleted is missing from every other page, too, and from a list that has just started
(`confirms_iff`).
-/

namespace AqualinkAutomate.Iaq

open General Navigation Equipment Scheduling List

structure ListWatch where
  page : PageModel := {}
  statusPage : ScreenDataPage := ⟨[]⟩
  writer : ScheduleWriter := {}
  /-- The page that started last has ended. -/
  complete : Bool := false
  /-- The key that saves or deletes was issued for the goal. -/
  keyIssued : Bool := false

inductive ListEvent where
  | page (message : PageMessage)
  | pageMessage (line : UInt8) (text : Text)
  | poll
  | create (program : ControllerSchedule) (emulated channelBusy : Bool)
  | delete (program : ControllerSchedule) (emulated channelBusy : Bool)
  | edit (existing desired : ControllerSchedule) (emulated channelBusy : Bool)
  deriving DecidableEq

namespace ScheduleWriter

def pressesWriteKey (writer : ScheduleWriter) (step : WriterStep ScheduleWriter) : Bool :=
  decide (writer.phase = .setDay ∧ step.writer.phase = .verify ∨
    writer.phase = .confirmDelete ∧ step.writer.phase = .verifyGone)

end ScheduleWriter

namespace ListWatch

def pollStep (watch : ListWatch) : WriterStep ScheduleWriter :=
  watch.writer.processStep watch.page watch.statusPage

def queue (watch : ListWatch) (queued : ScheduleWriter × ActuationResult) : ListWatch :=
  { watch with
    writer := queued.1
    keyIssued := watch.keyIssued && decide (queued.2 ≠ .accepted) }

def step (watch : ListWatch) : ListEvent → ListWatch
  | .page (.pageStart id) =>
    { watch with
      page := watch.page.take (.pageStart id)
      statusPage := watch.statusPage.clear
      complete := false }
  | .page .pageEnd => { watch with complete := true }
  | .page message => { watch with page := watch.page.take message }
  | .pageMessage line text => { watch with statusPage := watch.statusPage.setText line text }
  | .poll =>
    { watch with
      writer := watch.pollStep.writer
      keyIssued := watch.keyIssued || watch.writer.pressesWriteKey watch.pollStep }
  | .create program emulated channelBusy =>
    watch.queue (watch.writer.queueCreate program emulated channelBusy)
  | .delete program emulated channelBusy =>
    watch.queue (watch.writer.queueDelete program emulated channelBusy)
  | .edit existing desired emulated channelBusy =>
    watch.queue (watch.writer.queueEdit existing desired emulated channelBusy)

/-! ## What success is to mean -/

def Confirmed (watch : ListWatch) (goal : ScheduleWriter.Goal) : Prop :=
  watch.keyIssued = true ∧ watch.complete = true ∧
    watch.page.pageId = ScheduleWriter.pageSchedule ∧
    if goal.op = .delete then ScheduleWriter.rowShowing watch.page goal.existing = none
    else (ScheduleWriter.rowShowing watch.page goal.program).isSome = true

/-- Success is only reported when the page confirms it. -/
def Confirms (watch : ListWatch) : ListEvent → Prop
  | .poll =>
    ∀ goal ∈ watch.writer.pending, watch.pollStep.finished = some true → watch.Confirmed goal
  | _ => True

def LooksBack (watch : ListWatch) (phase : ScheduleWriter.Phase) : Prop :=
  watch.writer.pollCount < ScheduleWriter.pollLimit ∧ watch.writer.settleCount = 0 ∧
    watch.writer.phase = phase

/-- No page that the writer takes for its confirmation misleads it. -/
def NotMisled (watch : ListWatch) : ListEvent → Prop
  | .poll =>
    ∀ goal ∈ watch.writer.pending,
      (watch.LooksBack .verify →
          (ScheduleWriter.rowShowing watch.page goal.program).isSome = true →
            watch.complete = true) ∧
        (watch.LooksBack .verifyGone →
          ScheduleWriter.rowShowing watch.page goal.existing = none →
            watch.complete = true ∧ watch.page.pageId = ScheduleWriter.pageSchedule)
  | _ => True

instance (watch : ListWatch) (event : ListEvent) : Decidable (watch.NotMisled event) := by
  cases event <;> (unfold NotMisled LooksBack; infer_instance)

end ListWatch

namespace ScheduleWriter

/-! ## How a goal goes on -/

def Phase.successors (op : Op) : Phase → List Phase
  | .navigateToList => if op = .create then [.addProgram] else [.selectRow]
  | .addProgram => [.navigateToList, .selectDevice]
  | .selectDevice => [.setOnTime]
  | .setOnTime => [.setOffTime]
  | .setOffTime => [.setDay]
  | .setDay => [.verify]
  | .selectRow => if op = .edit then [.pressEdit] else [.pressDelete]
  | .pressEdit => [.setOnTime]
  | .pressDelete => [.confirmDelete]
  | .confirmDelete => [.verifyGone]
  | .verify | .verifyGone | .done | .failed => []

/-- The goal ends, or stays pending and goes on by one phase at most. -/
def Advances (writer : ScheduleWriter) (goal : Goal) (step : WriterStep ScheduleWriter) : Prop :=
  step.writer.pending = none ∨
    step.writer.pending = some goal ∧
      (step.writer.phase = writer.phase ∨ step.writer.phase ∈ writer.phase.successors goal.op)

section

variable {writer : ScheduleWriter} {goal : Goal}

section

variable {step : WriterStep ScheduleWriter} (hpending : step.writer.pending = some goal)

include hpending

theorem advances_of_stays (hphase : step.writer.phase = writer.phase) : writer.Advances goal step :=
  .inr ⟨hpending, .inl hphase⟩

theorem advances_of_goes (hphase : step.writer.phase ∈ writer.phase.successors goal.op) :
    writer.Advances goal step :=
  .inr ⟨hpending, .inr hphase⟩

end

variable (hpending : writer.pending = some goal)

include hpending

section

variable {page : PageModel}

theorem advances_setTimeField {statusPage : ScreenDataPage} {openCommand : UInt8}
    {hour minute : ℤ} {next : Phase} (hnext : next ∈ writer.phase.successors goal.op) :
    writer.Advances goal
      (writer.setTimeField page statusPage openCommand hour minute next) := by
  unfold setTimeField
  split_ifs
  · exact advances_of_stays hpending rfl
  · exact advances_of_stays hpending rfl
  · exact advances_of_stays hpending rfl
  · unfold enterTime
    dsimp only
    split_ifs
    · exact advances_of_stays hpending rfl
    · exact advances_of_stays hpending rfl
    · exact advances_of_goes hpending hnext

theorem advances_pressOnList {command : UInt8} {next : Phase}
    (hnext : next ∈ writer.phase.successors goal.op) :
    writer.Advances goal (writer.pressOnList page command next) := by
  unfold pressOnList
  split_ifs
  · exact advances_of_stays hpending rfl
  · exact advances_of_goes hpending hnext

theorem advances_stepSelectDevice (hphase : writer.phase = .selectDevice) :
    writer.Advances goal (writer.stepSelectDevice page goal) := by
  unfold stepSelectDevice
  split_ifs
  · exact advances_of_stays hpending rfl
  · exact advances_of_goes hpending (by rw [hphase]; exact mem_singleton_self _)
  · split
    · exact advances_of_stays hpending rfl
    · dsimp only
      split_ifs
      · exact .inl rfl
      · exact advances_of_stays hpending rfl

theorem advances_stepSelectRow (hphase : writer.phase = .selectRow) :
    writer.Advances goal (writer.stepSelectRow page goal) := by
  unfold stepSelectRow
  split
  · exact advances_of_stays hpending rfl
  · split
    · exact advances_of_stays hpending rfl
    · split
      · refine advances_of_goes hpending ?_
        rw [hphase, Phase.successors]
        split_ifs <;> exact mem_singleton_self _
      · exact .inl rfl

end

theorem advances_stepPhase (page : PageModel) (statusPage : ScreenDataPage) :
    writer.Advances goal (writer.stepPhase page statusPage goal) := by
  unfold stepPhase
  split <;> rename_i hphase
  · unfold stepNavigateToList
    split
    · refine advances_of_goes hpending ?_
      rw [hphase, Phase.successors]
      dsimp only [WriterStep.rest]
      split_ifs <;> exact mem_singleton_self _
    · split_ifs <;> exact advances_of_stays hpending rfl
  · unfold stepAddProgram
    split_ifs <;>
      exact advances_of_goes hpending (by simp [hphase, Phase.successors, WriterStep.rest])
  · exact advances_stepSelectDevice hpending hphase
  · exact advances_setTimeField hpending (by simp [hphase, Phase.successors])
  · exact advances_setTimeField hpending (by simp [hphase, Phase.successors])
  · unfold stepSetDay
    split_ifs
    · exact advances_of_stays hpending rfl
    · exact advances_of_goes hpending (by simp [hphase, Phase.successors])
  · unfold stepVerify
    split_ifs
    · exact .inl rfl
    · exact advances_of_stays hpending rfl
  · exact advances_stepSelectRow hpending hphase
  · exact advances_pressOnList hpending (by simp [hphase, Phase.successors])
  · exact advances_pressOnList hpending (by simp [hphase, Phase.successors])
  · exact advances_of_goes hpending (by simp [hphase, Phase.successors, stepConfirmDelete])
  · unfold stepVerifyGone
    split_ifs
    · exact advances_of_stays hpending rfl
    · exact .inl rfl
  · exact .inl rfl
  · exact .inl rfl

theorem advances_processStep (page : PageModel) (statusPage : ScreenDataPage) :
    writer.Advances goal (writer.processStep page statusPage) := by
  simp only [processStep, hpending]
  split_ifs
  · exact .inl rfl
  · exact advances_of_stays rfl rfl
  · change Advances { writer with pending := some goal, pollCount := writer.pollCount + 1 } goal _
    exact advances_stepPhase rfl page statusPage

end

/-! ## When the writer reports success -/

section

variable {writer : ScheduleWriter} {goal : Goal} {page : PageModel} {statusPage : ScreenDataPage}

theorem finished_setTimeField {openCommand : UInt8} {hour minute : ℤ} {next : Phase} :
    (writer.setTimeField page statusPage openCommand hour minute next).finished = none := by
  unfold setTimeField
  split_ifs
  · rfl
  · rfl
  · rfl
  · unfold enterTime
    dsimp only
    split_ifs <;> rfl

theorem finished_pressOnList {command : UInt8} {next : Phase} :
    (writer.pressOnList page command next).finished = none := by
  unfold pressOnList
  split_ifs <;> rfl

theorem finished_stepSelectDevice_ne :
    (writer.stepSelectDevice page goal).finished ≠ some true := by
  unfold stepSelectDevice
  split_ifs
  · simp [WriterStep.dwell]
  · simp
  · split
    · simp
    · dsimp only
      split_ifs
      · simp [finishGoal]
      · simp [issueAndSettle]

theorem finished_stepSelectRow_ne : (writer.stepSelectRow page goal).finished ≠ some true := by
  unfold stepSelectRow
  split
  · simp [WriterStep.dwell]
  · split
    · simp [WriterStep.dwell]
    · split
      · simp
      · simp [finishGoal]

def Succeeds (writer : ScheduleWriter) (goal : Goal) (page : PageModel) : Prop :=
  writer.phase = .verify ∧ (rowShowing page goal.program).isSome = true ∨
    writer.phase = .verifyGone ∧ rowShowing page goal.existing = none

theorem finished_stepPhase_iff (hphase : writer.phase ≠ .done) :
    (writer.stepPhase page statusPage goal).finished = some true ↔
      writer.Succeeds goal page := by
  unfold stepPhase Succeeds
  split <;> rename_i heq <;> simp only [heq, reduceCtorEq, false_and, true_and, or_false, false_or]
  · unfold stepNavigateToList
    split_ifs <;> simp [WriterStep.rest, issueAndSettle]
  · unfold stepAddProgram
    split_ifs <;> simp [WriterStep.rest]
  · exact iff_of_false finished_stepSelectDevice_ne id
  · simp [finished_setTimeField]
  · simp [finished_setTimeField]
  · unfold stepSetDay
    split_ifs <;> simp [WriterStep.dwell]
  · unfold stepVerify
    split_ifs with hshown <;> simp [hshown, finishGoal, WriterStep.dwell]
  · exact iff_of_false finished_stepSelectRow_ne id
  · simp [stepPressEdit, finished_pressOnList]
  · simp [stepPressDelete, finished_pressOnList]
  · simp [stepConfirmDelete]
  · unfold stepVerifyGone
    cases hrow : rowShowing page goal.existing <;> simp [finishGoal, WriterStep.dwell]
  · exact absurd heq hphase
  · simp [finishGoal]

theorem finished_processStep_iff (hpending : writer.pending = some goal)
    (hphase : writer.phase ≠ .done) :
    (writer.processStep page statusPage).finished = some true ↔
      writer.pollCount < pollLimit ∧ writer.settleCount = 0 ∧ writer.Succeeds goal page := by
  unfold processStep
  rw [hpending]
  dsimp only
  split
  next hover =>
    refine iff_of_false (by simp [finishGoal]) fun h => ?_
    omega
  next hwithin =>
    have hcount : writer.pollCount < pollLimit := by omega
    split
    next hsettling =>
      refine iff_of_false (by simp [WriterStep.dwell]) fun h => ?_
      omega
    next hsettled =>
      have hzero : writer.settleCount = 0 := by omega
      rw [finished_stepPhase_iff (by exact hphase)]
      exact ⟨fun h => ⟨hcount, hzero, h⟩, fun h => h.2.2⟩

end

/-! ## Phases and operations -/

def Phase.fits (op : Op) : Phase → Bool
  | .navigateToList => true
  | .addProgram | .selectDevice => decide (op = .create)
  | .setOnTime | .setOffTime | .setDay | .verify => decide (op ≠ .delete)
  | .selectRow => decide (op ≠ .create)
  | .pressEdit => decide (op = .edit)
  | .pressDelete | .confirmDelete | .verifyGone => decide (op = .delete)
  | .done | .failed => false

theorem Phase.fits_of_mem_successors {op : Op} {phase next : Phase} (h : phase.fits op)
    (hnext : next ∈ phase.successors op) : next.fits op := by
  cases op <;> cases phase <;> revert h hnext <;> simp [Phase.successors, Phase.fits] <;>
    rintro (rfl | rfl) <;> simp

def Phase.looksBack (phase : Phase) : Bool := decide (phase = .verify ∨ phase = .verifyGone)

variable {writer : ScheduleWriter}

theorem Advances.looksBack {goal : Goal} {step : WriterStep ScheduleWriter}
    (h : writer.Advances goal step) (hpending : step.writer.pending = some goal)
    (hlooks : step.writer.phase.looksBack) :
    writer.phase.looksBack ∨ writer.pressesWriteKey step := by
  rcases h with hnone | ⟨-, hstays | hgoes⟩
  · cases hnone.symm.trans hpending
  · rw [← hstays]
    exact .inl hlooks
  · revert hgoes hlooks
    rw [pressesWriteKey]
    cases writer.phase <;> cases goal.op <;> cases step.writer.phase <;> decide

def Requested (writer : ScheduleWriter) (queued : ScheduleWriter × ActuationResult) : Prop :=
  queued.1 = writer ∧ queued.2 ≠ .accepted ∨ ∃ goal, queued = (arm goal, .accepted)

theorem requested_of_refused {result : ActuationResult} (h : result ≠ .accepted) :
    writer.Requested (writer, result) :=
  .inl ⟨rfl, h⟩

section

variable (writer : ScheduleWriter) (program : ControllerSchedule) (emulated channelBusy : Bool)

theorem requested_queueCreate :
    writer.Requested (writer.queueCreate program emulated channelBusy) := by
  unfold queueCreate
  split_ifs
  · exact requested_of_refused (by decide)
  · exact requested_of_refused (by decide)
  · exact requested_of_refused (by decide)
  · exact .inr ⟨_, rfl⟩

theorem requested_queueDelete :
    writer.Requested (writer.queueDelete program emulated channelBusy) := by
  unfold queueDelete
  split_ifs
  · exact requested_of_refused (by decide)
  · exact requested_of_refused (by decide)
  · exact requested_of_refused (by decide)
  · exact .inr ⟨_, rfl⟩

end

theorem requested_queueEdit (writer : ScheduleWriter) (existing desired : ControllerSchedule)
    (emulated channelBusy : Bool) :
    writer.Requested (writer.queueEdit existing desired emulated channelBusy) := by
  unfold queueEdit
  split_ifs
  · exact requested_of_refused (by decide)
  · exact requested_of_refused (by decide)
  · exact requested_of_refused (by decide)
  · exact requested_of_refused (by decide)
  · exact .inr ⟨_, rfl⟩

end ScheduleWriter

def PageModel.ListOnly (page : PageModel) : Prop :=
  page.pageId ≠ schedulePageId → ∀ attr, page.scheduleRows attr = none

theorem PageModel.ListOnly.take {page : PageModel} (h : page.ListOnly) (message : PageMessage) :
    (page.take message).ListOnly := by
  intro hother attr
  rw [pageId_take] at hother
  rw [scheduleRows_take]
  cases message with
  | pageStart id => rfl
  | tableMessage line column text =>
    exact (congrFun (if_neg hother) attr).trans (h hother attr)
  | titleMessage | pageButton | pageEnd => exact h hother attr

/-! ## The whole run -/

namespace ListWatch

open ScheduleWriter

variable {watch : ListWatch}

/-- What holds between two events. -/
structure Coherent (watch : ListWatch) : Prop where
  fits : ∀ goal ∈ watch.writer.pending, watch.writer.phase.fits goal.op
  key : ∀ goal ∈ watch.writer.pending, watch.writer.phase.looksBack →
    watch.keyIssued
  rows : watch.page.ListOnly

theorem Coherent.queue (h : watch.Coherent) {queued : ScheduleWriter × ActuationResult}
    (hqueued : watch.writer.Requested queued) : (watch.queue queued).Coherent := by
  unfold ListWatch.queue
  rcases hqueued with ⟨hwriter, hrefused⟩ | ⟨goal, rfl⟩
  · refine ⟨?_, ?_, h.rows⟩
    · rw [hwriter]
      exact h.fits
    · rw [hwriter, decide_eq_true hrefused, Bool.and_true]
      exact h.key
  · refine ⟨fun goal' _ => rfl, fun goal' _ hlooks => ?_, h.rows⟩
    cases hlooks

theorem Coherent.poll (h : watch.Coherent) : (watch.step .poll).Coherent := by
  cases hpending : watch.writer.pending with
  | none =>
    have hidle : watch.pollStep = .rest watch.writer := by
      rw [pollStep, processStep, hpending]
    have hnone : watch.pollStep.writer.pending = none := by rw [hidle, WriterStep.rest, hpending]
    refine ⟨fun goal hgoal => ?_, fun goal hgoal => ?_, h.rows⟩
    · cases hnone.symm.trans hgoal
    · cases hnone.symm.trans hgoal
  | some goal =>
    have hadvances := advances_processStep hpending watch.page watch.statusPage
    have hsame : ∀ goal' ∈ watch.pollStep.writer.pending, goal' = goal := by
      intro goal' hgoal'
      rcases hadvances with hnone | ⟨hstill, -⟩
      · cases hnone.symm.trans hgoal'
      · exact Option.some_inj.mp (Eq.trans (Eq.symm hgoal') hstill)
    refine ⟨fun goal' hgoal' => ?_, fun goal' hgoal' hlooks => ?_, h.rows⟩
    · obtain rfl := hsame goal' hgoal'
      rcases hadvances with hnone | ⟨-, hstays | hgoes⟩
      · cases hnone.symm.trans hgoal'
      · have hfits := h.fits goal' hpending
        rwa [← hstays] at hfits
      · exact Phase.fits_of_mem_successors (h.fits goal' hpending) hgoes
    · obtain rfl := hsame goal' hgoal'
      rcases hadvances.looksBack hgoal' hlooks with hbefore | hpresses
      · exact Bool.or_eq_true_iff.mpr (.inl (h.key goal' hpending hbefore))
      · exact Bool.or_eq_true_iff.mpr (.inr hpresses)

theorem Coherent.step (h : watch.Coherent) (event : ListEvent) : (watch.step event).Coherent := by
  cases event with
  | page message =>
    cases message with
    | pageEnd => exact ⟨h.fits, h.key, h.rows⟩
    | pageStart | pageButton | titleMessage | tableMessage =>
      exact ⟨h.fits, h.key, h.rows.take _⟩
  | pageMessage line text => exact ⟨h.fits, h.key, h.rows⟩
  | poll => exact h.poll
  | create program emulated channelBusy => exact h.queue (requested_queueCreate ..)
  | delete program emulated channelBusy => exact h.queue (requested_queueDelete ..)
  | edit existing desired emulated channelBusy => exact h.queue (requested_queueEdit ..)

theorem pageId_of_rowShowing {page : PageModel} (h : page.ListOnly) {program : ControllerSchedule}
    (hrow : (rowShowing page program).isSome) : page.pageId = pageSchedule := by
  by_contra hother
  obtain ⟨attr, hattr⟩ := Option.isSome_iff_exists.mp hrow
  obtain ⟨text, htext, -⟩ := ByteTable.exists_of_find?_eq_some hattr
  cases (h hother attr).symm.trans htext

theorem confirms_iff_notMisled (h : watch.Coherent) (event : ListEvent) :
    watch.Confirms event ↔ watch.NotMisled event := by
  cases event with
  | poll =>
    refine forall₂_congr fun goal hgoal => ?_
    have hfits := h.fits goal hgoal
    have hkey := h.key goal hgoal
    have hphase : watch.writer.phase ≠ .done := by
      intro hdone
      rw [hdone] at hfits
      cases hfits
    rw [pollStep, finished_processStep_iff hgoal hphase, Succeeds, Confirmed]
    cases hlooks : watch.writer.phase with
    | verify =>
      rw [hlooks] at hfits hkey
      have hop : goal.op ≠ .delete := of_decide_eq_true hfits
      simp only [LooksBack, hlooks, if_neg hop, hkey rfl, true_and, reduceCtorEq, false_and,
        and_false, or_false, and_true]
      constructor
      · intro hall
        refine ⟨fun hnow hrow => ?_, fun hnot => hnot.elim⟩
        exact (hall ⟨hnow.1, hnow.2, hrow⟩).1
      · rintro ⟨hcomplete, -⟩ ⟨hcount, hsettled, hrow⟩
        exact ⟨hcomplete ⟨hcount, hsettled⟩ hrow, pageId_of_rowShowing h.rows hrow, hrow⟩
    | verifyGone =>
      rw [hlooks] at hfits hkey
      have hop : goal.op = .delete := of_decide_eq_true hfits
      simp only [LooksBack, hlooks, if_pos hop, hkey rfl, true_and, reduceCtorEq, false_and,
        and_false, false_or, and_true]
      constructor
      · intro hall
        refine ⟨fun hnot => hnot.elim, fun hnow hrow => ?_⟩
        obtain ⟨hcomplete, hpage, -⟩ := hall ⟨hnow.1, hnow.2, hrow⟩
        exact ⟨hcomplete, hpage⟩
      · rintro ⟨-, hgone⟩ ⟨hcount, hsettled, hrow⟩
        obtain ⟨hcomplete, hpage⟩ := hgone ⟨hcount, hsettled⟩ hrow
        exact ⟨hcomplete, hpage, hrow⟩
    | _ => simp [LooksBack, hlooks]
  | page | pageMessage | create | delete | edit => exact Iff.rfl

theorem coherent_start (statusPage : ScreenDataPage) : Coherent { statusPage := statusPage } where
  fits := nofun
  key := nofun
  rows := fun _ _ => rfl

/-- Whatever the controller sends and is asked for: the writer reports success only on a list
that confirms it, exactly as long as no page misleads it. -/
theorem eachStep_confirms_iff (h : watch.Coherent) (events : List ListEvent) :
    EachStep step Confirms watch events ↔ EachStep step NotMisled watch events :=
  eachStep_congr (fun _ event hcoherent => hcoherent.step event)
    (fun _ event hcoherent => confirms_iff_notMisled hcoherent event) h

end ListWatch

end AqualinkAutomate.Iaq
