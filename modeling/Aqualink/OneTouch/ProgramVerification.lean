import Aqualink.OneTouch.ScheduleWriteGoal

/-!
# What the keypad takes for a program that was written

Select on the days saves a program, and Select on its row deletes one; then the goal waits for
the page of the equipment.  `WriteWatch` follows what became of that key.

The goal is to report success only if the page of the equipment has been drawn, after the key
was sent, and shows what was asked for (`Confirms`).  It has no key to wait for when there is
nothing to delete.  It does so exactly as long as it is not misled by a page that comes too
early, that is being drawn, or that belongs to other equipment (`confirms_iff`).
-/

namespace AqualinkAutomate.OneTouch

open General Navigation Scheduling

/-- What became of the key that saves or deletes. -/
inductive WriteKey where
  | notPressed | waiting | sent
  deriving DecidableEq

namespace ScheduleWriteGoal

variable {goal : ScheduleWriteGoal} {result : GoalStep ScheduleWriteGoal}

def pressesWriteKey (goal : ScheduleWriteGoal) (result : GoalStep ScheduleWriteGoal) : Bool :=
  decide ((goal.phase = .setDays ∨ goal.phase = .chooseAction ∧ goal.op = .delete) ∧
    result.context.emittedKey = some .select)

end ScheduleWriteGoal

/-- The goal looks at the page of the equipment for what became of the program. -/
def SchedulePhase.looksBack (phase : SchedulePhase) : Bool :=
  decide (phase = .verify ∨ phase = .verifyGone)

structure WriteWatch where
  run : GoalRun ScheduleWriteGoal
  key : WriteKey := .notPressed

namespace WriteWatch

def follow (watch : WriteWatch) (screen : ShownScreen) (goal : ScheduleWriteGoal)
    (result : GoalStep ScheduleWriteGoal) : WriteKey :=
  if goal.pressesWriteKey result then (if screen.atStatus then .sent else .waiting)
  else if watch.key = .waiting ∧ screen.atStatus = true ∧ result.context.emittedKey = none then
    .sent
  else watch.key

def attempt (model : MenuModel) (fuel : ℕ) (watch : WriteWatch) (screen : ShownScreen) :
    Option WriteWatch :=
  match watch.run.goal with
  | none => some watch
  | some goal =>
    (goal.step model fuel (watch.run.context screen)).map fun result =>
      { run := watch.run.settle screen result, key := watch.follow screen goal result }

end WriteWatch

/-! ## What success is to mean -/

def BelongsTo (target : Text) (page : ScreenDataPage) : Prop :=
  equalsCaseInsensitive (lineText page 0) target = true

instance (target : Text) (page : ScreenDataPage) : Decidable (BelongsTo target page) :=
  inferInstanceAs (Decidable (_ = true))

namespace WriteWatch

def Confirmed (watch : WriteWatch) (screen : ShownScreen) (goal : ScheduleWriteGoal) : Prop :=
  screen.rendered = true ∧
    if goal.op = .delete then
      watch.key ≠ .waiting ∧ BelongsTo goal.program.target screen.page ∧
        ScheduleWriteGoal.showsNoPrograms screen.page = true
    else
      watch.key = .sent ∧ (parseProgramDetailPage screen.page).any
        (ScheduleWriteGoal.isProgram goal.program) = true

/-- Success is only reported when the page confirms it. -/
def Confirms (model : MenuModel) (fuel : ℕ) (watch : WriteWatch) (screen : ShownScreen) : Prop :=
  ∀ goal ∈ watch.run.goal, ∀ result,
    goal.step model fuel (watch.run.context screen) = some result → result.status = .done →
      watch.Confirmed screen goal

/-- No page that the goal takes for its confirmation misleads it. -/
def NotMisled (watch : WriteWatch) (screen : ShownScreen) : Prop :=
  ∀ goal ∈ watch.run.goal, ¬ goal.Overdue → ScheduleWriteGoal.onDetailPage screen.page = true →
    (goal.phase = .verify →
        (parseProgramDetailPage screen.page).any (ScheduleWriteGoal.isProgram goal.program) =
            true →
          screen.rendered = true ∧ watch.key = .sent) ∧
      (goal.phase = .chooseAction → goal.op = .delete →
        ScheduleWriteGoal.showsNoPrograms screen.page = true →
          screen.rendered = true ∧ BelongsTo goal.program.target screen.page) ∧
      (goal.phase = .verifyGone →
        ScheduleWriteGoal.showsNoPrograms screen.page = true ∨
            parseProgramDetailPage screen.page = none →
          screen.rendered = true ∧ watch.key = .sent ∧
            BelongsTo goal.program.target screen.page ∧
            ScheduleWriteGoal.showsNoPrograms screen.page = true)

instance (watch : WriteWatch) (screen : ShownScreen) : Decidable (watch.NotMisled screen) := by
  unfold NotMisled
  refine @Option.decidableForallMem _ _ (fun goal => ?_) _
  exact @instDecidableForall _ _ _ (@instDecidableForall _ _ _ inferInstance)

end WriteWatch

/-! ## When the goal reports success -/

namespace ScheduleWriteGoal

variable {goal : ScheduleWriteGoal} {ctx : KeypadContext} {model : MenuModel} {fuel : ℕ}
  {result : GoalStep ScheduleWriteGoal}

def Succeeds (goal : ScheduleWriteGoal) (page : ScreenDataPage) : Prop :=
  onDetailPage page = true ∧
    match goal.phase with
    | .verify => (parseProgramDetailPage page).any (isProgram goal.program) = true
    | .chooseAction => goal.op = .delete ∧ showsNoPrograms page = true
    | .verifyGone => showsNoPrograms page = true ∨ parseProgramDetailPage page = none
    | _ => False

variable {next : SchedulePhase} {target : ℤ}

theorem turnField_ne_done {shown positions : ℤ} :
    (goal.turnField ctx shown target positions next).status ≠ .done := by
  unfold turnField
  split
  · simp
  · dsimp only
    split <;> simp

theorem stepHour_ne_done {line : UInt8} : (goal.stepHour ctx line target next).status ≠ .done := by
  unfold stepHour
  split
  · split
    · simp
    · exact turnField_ne_done
  · simp

theorem stepMinute_ne_done {line : UInt8} :
    (goal.stepMinute ctx line target next).status ≠ .done := by
  unfold stepMinute
  split
  · split
    · simp
    · exact turnField_ne_done
  · simp

theorem stepToProgramMenu_ne_done (h : goal.stepToProgramMenu model fuel ctx = some result) :
    result.status ≠ .done := by
  unfold stepToProgramMenu at h
  dsimp only at h
  split at h <;> (
    obtain ⟨followed, -, rfl⟩ := Option.map_eq_some_iff.mp h
    split
    · split <;> simp
    · simp)

theorem stepSelectEquipment_ne_done : (goal.stepSelectEquipment ctx).status ≠ .done := by
  unfold stepSelectEquipment
  split
  · simp
  · split
    · next line _ =>
        rcases ctx.moveCursorToward_cases line with ⟨-, heq⟩ | ⟨-, key, -, heq⟩ <;> simp [heq]
    · dsimp only
      split <;> simp

theorem stepSetDays_ne_done : (goal.stepSetDays ctx).status ≠ .done := by
  unfold stepSetDays
  split
  · split
    · simp
    · split
      · simp
      · dsimp only
        split <;> simp
  · simp

theorem stepChooseAction_eq_done_iff :
    (goal.stepChooseAction ctx).status = .done ↔
      onDetailPage ctx.page ∧ goal.op = .delete ∧ showsNoPrograms ctx.page := by
  unfold stepChooseAction
  split
  next hdetail =>
    split
    next hdelete =>
      split
      next hempty => simp [hdetail, hdelete, hempty]
      next hsome =>
        rcases ctx.moveCursorToward_cases deleteRow with ⟨-, heq⟩ | ⟨-, key, -, heq⟩ <;>
          simp [heq, hsome]
    next hop =>
      rcases ctx.moveCursorToward_cases (actionRow goal.op) with ⟨-, heq⟩ | ⟨-, key, -, heq⟩ <;>
        simp [heq, hop]
  next hother => simp [hother]

theorem stepPhase_eq_done_iff (h : goal.stepPhase model fuel ctx = some result) :
    result.status = .done ↔ goal.Succeeds ctx.page := by
  unfold stepPhase at h
  unfold Succeeds
  split at h <;> rename_i hphase <;> simp only [hphase]
  · exact iff_of_false (stepToProgramMenu_ne_done h) fun h => h.2
  all_goals cases h
  · exact iff_of_false stepSelectEquipment_ne_done fun h => h.2
  · exact stepChooseAction_eq_done_iff
  · refine iff_of_false ?_ fun h => h.2
    unfold stepEnterEditor
    split <;> simp
  · exact iff_of_false stepHour_ne_done fun h => h.2
  · exact iff_of_false stepMinute_ne_done fun h => h.2
  · exact iff_of_false stepHour_ne_done fun h => h.2
  · exact iff_of_false stepMinute_ne_done fun h => h.2
  · exact iff_of_false stepSetDays_ne_done fun h => h.2
  · unfold stepVerify
    split <;> simp_all
  · unfold stepVerifyGone
    split <;> simp_all

theorem step_eq_done_iff (h : goal.step model fuel ctx = some result) :
    result.status = .done ↔ ¬ goal.Overdue ∧ goal.Succeeds ctx.page := by
  by_cases hoverdue : goal.Overdue
  · rw [step_of_overdue hoverdue] at h
    cases h
    exact iff_of_false (by simp) fun h => h.1 hoverdue
  · rw [step_of_not_overdue hoverdue] at h
    rw [stepPhase_eq_done_iff h, Succeeds, Succeeds, phase_countStep, op_countStep,
      program_countStep]
    exact ⟨fun h => ⟨hoverdue, h⟩, fun h => h.2⟩

/-! ## The key comes before the look back -/

theorem phase_stepSetDays_eq_verify_iff (hphase : goal.phase = .setDays)
    (hctx : ctx.emittedKey = none) :
    (goal.stepSetDays ctx).goal.phase = .verify ↔
      (goal.stepSetDays ctx).context.emittedKey = some .select := by
  unfold stepSetDays
  split
  · split
    · simp [hphase, hctx]
    · split
      · simp [KeypadContext.emit]
      · dsimp only
        split <;> simp [hphase, hctx, KeypadContext.emit]
  · simp [hphase, hctx]

theorem phase_stepChooseAction_eq_verifyGone_iff (hphase : goal.phase = .chooseAction)
    (hdelete : goal.op = .delete) (hctx : ctx.emittedKey = none) :
    (goal.stepChooseAction ctx).goal.phase = .verifyGone ↔
      (goal.stepChooseAction ctx).context.emittedKey = some .select := by
  unfold stepChooseAction
  simp only [if_pos hdelete]
  split
  · split
    · simp [hphase, hctx]
    · rcases ctx.moveCursorToward_cases deleteRow with ⟨-, heq⟩ | ⟨-, key, hkey, heq⟩
      · simp [heq, KeypadContext.emit]
      · simp [heq, KeypadContext.emit, hphase, hkey]
  · simp [hphase, hctx]

theorem looksBack_stepPhase (hctx : ctx.emittedKey = none)
    (h : goal.stepPhase model fuel ctx = some result) :
    result.goal.phase.looksBack = (goal.phase.looksBack || goal.pressesWriteKey result) := by
  obtain ⟨-, -, hnext⟩ := advances_stepPhase h
  cases hphase : goal.phase with
  | setDays =>
    rw [stepPhase, hphase] at h
    cases h
    have hkey := phase_stepSetDays_eq_verify_iff hphase hctx
    rw [hphase] at hnext
    rcases hnext with hstays | hgoes
    · simp_all [SchedulePhase.looksBack, pressesWriteKey]
    · simp_all [SchedulePhase.looksBack, pressesWriteKey, SchedulePhase.next]
  | chooseAction =>
    rw [stepPhase, hphase] at h
    cases h
    by_cases hdelete : goal.op = .delete
    · have hkey := phase_stepChooseAction_eq_verifyGone_iff hphase hdelete hctx
      rw [hphase] at hnext
      rcases hnext with hstays | hgoes
      · simp_all [SchedulePhase.looksBack, pressesWriteKey]
      · simp_all [SchedulePhase.looksBack, pressesWriteKey, SchedulePhase.next]
    · rw [hphase, SchedulePhase.next, if_neg hdelete] at hnext
      rcases hnext with hstays | hgoes <;> simp_all [SchedulePhase.looksBack, pressesWriteKey]
  | _ =>
    rw [hphase] at hnext
    rcases hnext with hstays | hgoes <;>
      simp_all [SchedulePhase.looksBack, pressesWriteKey, SchedulePhase.next]

theorem looksBack_step (hctx : ctx.emittedKey = none) (h : goal.step model fuel ctx = some result) :
    result.goal.phase.looksBack = (goal.phase.looksBack || goal.pressesWriteKey result) := by
  by_cases hoverdue : goal.Overdue
  · rw [step_of_overdue hoverdue] at h
    cases h
    simp [pressesWriteKey, hctx]
  · rw [step_of_not_overdue hoverdue] at h
    have hcounted := looksBack_stepPhase hctx h
    simpa only [pressesWriteKey, phase_countStep, op_countStep] using hcounted

end ScheduleWriteGoal

def SchedulePhase.fits (op : ScheduleWriteOp) : SchedulePhase → Bool
  | .toProgramMenu | .selectEquipment | .chooseAction => true
  | .verifyGone => decide (op = .delete)
  | _ => decide (op ≠ .delete)

theorem SchedulePhase.fits_next {op : ScheduleWriteOp} {phase : SchedulePhase}
    (h : phase.fits op) : (phase.next op).fits op := by
  cases op <;> cases phase <;> revert h <;> decide

/-! ## The whole run -/

namespace WriteWatch

variable {watch watch' : WriteWatch} {screen : ShownScreen} {model : MenuModel} {fuel : ℕ}

/-- What holds between two screens. -/
structure Coherent (watch : WriteWatch) : Prop where
  fits : ∀ goal ∈ watch.run.goal, goal.phase.fits goal.op
  key : ∀ goal ∈ watch.run.goal, goal.phase.looksBack = decide (watch.key ≠ .notPressed)

section

variable (h : watch.Coherent) (hattempt : watch.attempt model fuel screen = some watch')

include h hattempt

theorem Coherent.attempt : watch'.Coherent := by
  unfold WriteWatch.attempt at hattempt
  split at hattempt
  · cases hattempt
    exact h
  · next goal hgoal =>
      obtain ⟨result, hresult, rfl⟩ := Option.map_eq_some_iff.mp hattempt
      have hadvances := ScheduleWriteGoal.advances_step hresult
      have hlooksBack := ScheduleWriteGoal.looksBack_step rfl hresult
      have hrunning : ∀ goal' ∈ (watch.run.settle screen result).goal, goal' = result.goal := by
        intro goal' hgoal'
        simp only [GoalRun.settle] at hgoal'
        split at hgoal'
        · exact (Option.some_inj.mp hgoal').symm
        · cases hgoal'
      refine ⟨fun goal' hgoal' => ?_, fun goal' hgoal' => ?_⟩
      · obtain rfl := hrunning goal' hgoal'
        rw [hadvances.op]
        rcases hadvances.phase with hstays | hgoes
        · rw [hstays]
          exact h.fits goal hgoal
        · rw [hgoes]
          exact SchedulePhase.fits_next (h.fits goal hgoal)
      · obtain rfl := hrunning goal' hgoal'
        rw [hlooksBack, h.key goal hgoal, follow]
        by_cases hpresses : goal.pressesWriteKey result
        · rw [hpresses, Bool.or_true, if_pos rfl]
          split <;> rfl
        · rw [(Bool.not_eq_true _).mp hpresses, Bool.or_false, if_neg Bool.false_ne_true]
          split
          · next hsent => simp [hsent.1]
          · rfl

theorem confirms_iff_notMisled : watch.Confirms model fuel screen ↔ watch.NotMisled screen := by
  unfold Confirms NotMisled
  refine forall₂_congr fun goal hgoal => ?_
  have hgoal' : watch.run.goal = some goal := hgoal
  rw [WriteWatch.attempt, hgoal'] at hattempt
  obtain ⟨result, hresult, -⟩ := Option.map_eq_some_iff.mp hattempt
  have hdone := ScheduleWriteGoal.step_eq_done_iff hresult
  have honly : (∀ result', goal.step model fuel (watch.run.context screen) = some result' →
      result'.status = .done → watch.Confirmed screen goal) ↔
        (¬ goal.Overdue → goal.Succeeds screen.page → watch.Confirmed screen goal) := by
    constructor
    · exact fun hall hnot hsucceeds => hall result hresult (hdone.mpr ⟨hnot, hsucceeds⟩)
    · rintro hall result' hresult' hstatus
      cases hresult.symm.trans hresult'
      exact hall (hdone.mp hstatus).1 (hdone.mp hstatus).2
  rw [honly]
  refine imp_congr_right fun _ => ?_
  have hfits := h.fits goal hgoal
  have hkey := h.key goal hgoal
  unfold ScheduleWriteGoal.Succeeds Confirmed
  cases hphase : goal.phase with
  | verify =>
    rw [hphase] at hfits
    have hop : goal.op ≠ .delete := of_decide_eq_true hfits
    simp only [if_neg hop, true_imp_iff, reduceCtorEq, false_imp_iff, and_true]
    constructor
    · intro hall hdetail hprogram
      obtain ⟨hrendered, hsent, -⟩ := hall ⟨hdetail, hprogram⟩
      exact ⟨hrendered, hsent⟩
    · rintro hall ⟨hdetail, hprogram⟩
      obtain ⟨hrendered, hsent⟩ := hall hdetail hprogram
      exact ⟨hrendered, hsent, hprogram⟩
  | chooseAction =>
    rw [hphase] at hkey
    have hnotPressed : watch.key = .notPressed := by
      simpa [SchedulePhase.looksBack] using hkey.symm
    by_cases hop : goal.op = .delete
    · simp only [hop, hnotPressed, true_and, true_imp_iff, reduceCtorEq, false_imp_iff, and_true]
      constructor
      · intro hall hdetail hempty
        obtain ⟨hrendered, -, hbelongs, -⟩ := hall ⟨hdetail, hempty⟩
        exact ⟨hrendered, hbelongs⟩
      · rintro hall ⟨hdetail, hempty⟩
        obtain ⟨hrendered, hbelongs⟩ := hall hdetail hempty
        exact ⟨hrendered, by decide, hbelongs, hempty⟩
    · simp [hop]
  | verifyGone =>
    rw [hphase] at hfits hkey
    have hop : goal.op = .delete := of_decide_eq_true hfits
    have hpressed : watch.key ≠ .notPressed := of_decide_eq_true hkey.symm
    have hsent : watch.key ≠ .waiting ↔ watch.key = .sent := by
      cases hwatch : watch.key
      · exact absurd hwatch hpressed
      · simp
      · simp
    simp only [if_pos hop, hsent, true_imp_iff, reduceCtorEq, false_imp_iff, true_and]
    exact and_imp
  | _ => simp

end

theorem coherent_start (op : ScheduleWriteOp) (program : ControllerSchedule)
    (navigator : Navigator) :
    Coherent { run := { goal := some { op := op, program := program }, navigator := navigator } }
    where
  fits := by
    intro goal hgoal
    cases hgoal
    rfl
  key := by
    intro goal hgoal
    cases hgoal
    rfl

/-- Whatever the controller shows: the goal reports success only on a page that confirms it,
exactly as long as no page misleads it. -/
theorem eachStep_confirms_iff (h : watch.Coherent) (screens : List ShownScreen) :
    EachStepTaken (attempt model fuel) (Confirms model fuel) watch screens ↔
      EachStepTaken (attempt model fuel) NotMisled watch screens :=
  eachStepTaken_congr (fun _ _ _ hattempt hcoherent => hcoherent.attempt hattempt)
    (fun _ _ _ hattempt hcoherent => confirms_iff_notMisled hcoherent hattempt) h

end WriteWatch

end AqualinkAutomate.OneTouch
