import Aqualink.Iaq.SpaSwitchWriter

/-!
# Committing a spa-switch assignment

A function that is pressed in the picker is assigned at once, to the row that is selected.  So
the notes follow whether the row of the goal was selected since the page was entered, and which
rows of the picker arrived since then.

`CommitLaw` says that every commit is of a row that was selected, and of a function that
arrived in the picker since.  The writer remembers that it has selected the row, also when the
page is left and entered again, and the picker keeps rows of earlier pages.  The law holds in
every run in which neither does harm (`commitLaw_of_settled`).
-/

namespace AqualinkAutomate.Iaq

open General Navigation Equipment

namespace SpaSwitchWriter

def selectsRow (writer : SpaSwitchWriter) (step : WriterStep SpaSwitchWriter) : Bool :=
  decide (writer.phase = .selectRow ∧ step.writer.phase = .findFunction) &&
    writer.pending.any fun goal => step.calls.command = some goal.rowSelectCommand

def commits (writer : SpaSwitchWriter) (step : WriterStep SpaSwitchWriter) : Option UInt8 :=
  if writer.phase = .findFunction ∧ step.writer.phase = .verify then
    step.calls.command.map fun command => command - commitCmdBase
  else none

end SpaSwitchWriter

structure PickerRow where
  slot : UInt8
  function : Text
  deriving DecidableEq

structure CommitRecord where
  slot : UInt8
  rowSelected : Bool
  functionArrived : Bool
  deriving DecidableEq

structure CommitNotes where
  /-- The row of the goal was selected since the page was last entered. -/
  rowSelected : Bool := false
  /-- The rows of the picker that arrived since then. -/
  arrived : List PickerRow := []
  commits : List CommitRecord := []

namespace CommitNotes

def restart (notes : CommitNotes) : CommitNotes :=
  { notes with rowSelected := false, arrived := [] }

/-- What the controller sends of a page. -/
def see (notes : CommitNotes) (page : PageModel) : PageMessage → CommitNotes
  | .pageStart id =>
    if id = SpaSwitchWriter.pageSpaSwitchDetail ∧
        page.pageId ≠ SpaSwitchWriter.pageSpaSwitchDetail then notes.restart
    else notes
  | .tableMessage line attr text =>
    if line = 0x01 ∧ attr ≠ 0x00 then
      { notes with arrived := notes.arrived ++ [⟨attr, pickerFunction text⟩] }
    else notes
  | _ => notes

def hasArrived (notes : CommitNotes) (slot : UInt8) (function : Text) : Bool :=
  notes.arrived.any fun row =>
    decide (row.slot = slot) && equalsCaseInsensitive row.function function

def poll (notes : CommitNotes) (writer : SpaSwitchWriter) (step : WriterStep SpaSwitchWriter) :
    CommitNotes :=
  if writer.selectsRow step then { notes with rowSelected := true, arrived := [] }
  else
    match writer.commits step with
    | some slot =>
      { notes with
        commits := notes.commits ++ [⟨slot, notes.rowSelected,
          writer.pending.any fun goal => notes.hasArrived slot goal.function⟩] }
    | none => notes

end CommitNotes

structure CommitWatch where
  page : PageModel := {}
  writer : SpaSwitchWriter := {}
  notes : CommitNotes := {}

inductive CommitEvent where
  | page (message : PageMessage)
  /-- A poll, with the assignments as they are reported by then. -/
  | poll (assignments : SpaSwitchAssignments)
  | queue (switchNumber buttonNumber : UInt8) (function : Text)
      (emulationActive channelBusy : Bool)

namespace CommitWatch

def step (watch : CommitWatch) : CommitEvent → CommitWatch
  | .page message =>
    { watch with
      page := watch.page.take message
      notes := watch.notes.see watch.page message }
  | .poll assignments =>
    let step := watch.writer.processStep watch.page assignments
    { watch with writer := step.writer, notes := watch.notes.poll watch.writer step }
  | .queue switchNumber buttonNumber function emulationActive channelBusy =>
    let queued := watch.writer.queue switchNumber buttonNumber function emulationActive
      channelBusy
    { watch with
      writer := queued.1
      notes := if queued.2 = .accepted then watch.notes.restart else watch.notes }

end CommitWatch

/-- Every commit hits the row and the function that were asked for. -/
def CommitLaw (notes : CommitNotes) : Prop :=
  ∀ commit ∈ notes.commits, commit.rowSelected = true ∧ commit.functionArrived = true

/-- A row of the picker that an earlier page left there and that shows the function stands
behind one that has arrived and shows it, too. -/
def CommitNotes.Unspoilt (notes : CommitNotes) (page : PageModel) (function : Text) : Prop :=
  ∀ slot, ∀ shown ∈ page.spaSwitchPickerRows slot, equalsCaseInsensitive shown function = true →
    ⟨slot, shown⟩ ∉ notes.arrived →
    ∃ lower < slot, ∃ shown' ∈ page.spaSwitchPickerRows lower,
      equalsCaseInsensitive shown' function = true ∧ ⟨lower, shown'⟩ ∈ notes.arrived

instance (notes : CommitNotes) (page : PageModel) (function : Text) :
    Decidable (notes.Unspoilt page function) :=
  inferInstanceAs (Decidable (∀ slot, ∀ shown ∈ page.spaSwitchPickerRows slot,
    equalsCaseInsensitive shown function = true → ⟨slot, shown⟩ ∉ notes.arrived →
    ∃ lower < slot, ∃ shown' ∈ page.spaSwitchPickerRows lower,
      equalsCaseInsensitive shown' function = true ∧ ⟨lower, shown'⟩ ∈ notes.arrived))

/-- The page is not entered again while the selection of its row is relied on, and no row that
is left in the picker comes first. -/
def CommitWatch.Settled (watch : CommitWatch) : CommitEvent → Prop
  | .page (.pageStart id) =>
    id = SpaSwitchWriter.pageSpaSwitchDetail →
      watch.page.pageId ≠ SpaSwitchWriter.pageSpaSwitchDetail →
      watch.writer.pending.isSome = true →
      watch.writer.rowSelected = false ∨ watch.writer.phase = .verify
  | .poll _ =>
    ∀ goal ∈ watch.writer.pending, watch.writer.phase = .findFunction →
      watch.writer.settleCount = 0 →
      watch.page.pageId = SpaSwitchWriter.pageSpaSwitchDetail →
      watch.notes.Unspoilt watch.page goal.function
  | _ => True

instance (watch : CommitWatch) : ∀ event, Decidable (watch.Settled event)
  | .page (.pageStart id) => inferInstanceAs (Decidable
      (id = SpaSwitchWriter.pageSpaSwitchDetail →
        watch.page.pageId ≠ SpaSwitchWriter.pageSpaSwitchDetail →
        watch.writer.pending.isSome = true →
        watch.writer.rowSelected = false ∨ watch.writer.phase = .verify))
  | .poll _ => inferInstanceAs (Decidable
      (∀ goal ∈ watch.writer.pending, watch.writer.phase = .findFunction →
        watch.writer.settleCount = 0 →
        watch.page.pageId = SpaSwitchWriter.pageSpaSwitchDetail →
        watch.notes.Unspoilt watch.page goal.function))
  | .page (.pageButton _ _ _) | .page (.titleMessage _) | .page (.tableMessage _ _ _)
  | .page .pageEnd | .queue _ _ _ _ _ => .isTrue trivial

/-! ## The invariant -/

structure CommitInvariant (watch : CommitWatch) : Prop where
  law : CommitLaw watch.notes
  searching : watch.writer.pending.isSome → watch.writer.phase = .findFunction →
    watch.writer.rowSelected
  selected : watch.writer.pending.isSome → watch.writer.rowSelected →
    watch.writer.phase ≠ .verify → watch.notes.rowSelected

theorem CommitNotes.Unspoilt.hasArrived {notes : CommitNotes} {page : PageModel}
    {goal : SpaSwitchWriter.Goal} (h : notes.Unspoilt page goal.function) {slot : UInt8}
    (hslot : SpaSwitchWriter.functionSlot page goal = some slot) :
    notes.hasArrived slot goal.function := by
  obtain ⟨⟨shown, hshown, hequal⟩, hlower⟩ := ByteTable.find?_eq_some_iff.mp hslot
  have harrived : ⟨slot, shown⟩ ∈ notes.arrived := by
    by_contra hleft
    obtain ⟨lower, hlt, shown', hshown', hequal', -⟩ := h slot shown hshown hequal hleft
    rw [hlower lower hlt shown' hshown'] at hequal'
    cases hequal'
  refine List.any_eq_true.mpr ⟨_, harrived, ?_⟩
  rwa [decide_eq_true rfl, Bool.true_and]

namespace CommitInvariant

variable {watch : CommitWatch}

section

variable (h : CommitInvariant watch)

include h

variable {step : WriterStep SpaSwitchWriter}

theorem idle (hselects : watch.writer.selectsRow step = false)
    (hcommits : watch.writer.commits step = none)
    (hsearching : step.writer.pending.isSome → step.writer.phase = .findFunction →
      step.writer.rowSelected)
    (hselected : step.writer.pending.isSome → step.writer.rowSelected →
      step.writer.phase ≠ .verify → watch.notes.rowSelected) :
    CommitInvariant
      { watch with writer := step.writer, notes := watch.notes.poll watch.writer step } := by
  have hnotes : watch.notes.poll watch.writer step = watch.notes := by
    rw [CommitNotes.poll, hselects, hcommits]
    rfl
  rw [hnotes]
  exact ⟨h.law, hsearching, hselected⟩

theorem stay (hphase : step.writer.phase = watch.writer.phase)
    (hpending : step.writer.pending.isSome = watch.writer.pending.isSome)
    (hrow : step.writer.rowSelected = watch.writer.rowSelected) :
    CommitInvariant
      { watch with writer := step.writer, notes := watch.notes.poll watch.writer step } := by
  refine h.idle ?_ ?_ ?_ ?_
  · rw [SpaSwitchWriter.selectsRow, hphase]
    cases watch.writer.phase <;> rfl
  · rw [SpaSwitchWriter.commits, hphase]
    cases watch.writer.phase <;> rfl
  · rw [hphase, hpending, hrow]
    exact h.searching
  · rw [hphase, hpending, hrow]
    exact h.selected

/-- A step that ends the goal. -/
theorem finish (writer : SpaSwitchWriter) (ok : Bool) :
    CommitInvariant
      { watch with
        writer := (writer.finishGoal ok).writer
        notes := watch.notes.poll watch.writer (writer.finishGoal ok) } := by
  refine h.idle ?_ ?_ nofun nofun
  · rw [SpaSwitchWriter.selectsRow, decide_eq_false fun hphase => by cases hphase.2]
    rfl
  · exact if_neg fun hphase => by cases hphase.2

theorem leave (hphase : step.writer.phase = .navigate ∨ step.writer.phase = .selectRow)
    (hwas : watch.writer.phase ≠ .verify)
    (hpending : step.writer.pending.isSome = watch.writer.pending.isSome)
    (hrow : step.writer.rowSelected = watch.writer.rowSelected) :
    CommitInvariant
      { watch with writer := step.writer, notes := watch.notes.poll watch.writer step } := by
  have hnot : step.writer.phase ≠ .findFunction ∧ step.writer.phase ≠ .verify := by
    rcases hphase with hphase | hphase <;> rw [hphase] <;> decide
  refine h.idle ?_ ?_ (fun _ hsearch => absurd hsearch hnot.1) ?_
  · rw [SpaSwitchWriter.selectsRow, decide_eq_false fun hselects => hnot.1 hselects.2]
    rfl
  · exact if_neg fun hcommits => hnot.2 hcommits.2
  · rw [hpending, hrow]
    exact fun hgoal hselected _ => h.selected hgoal hselected hwas

end

section

variable {goal : SpaSwitchWriter.Goal}

section

variable (h : CommitInvariant watch)

include h

theorem stepNavigate (hphase : watch.writer.phase = .navigate) :
    CommitInvariant
      { watch with
        writer := (watch.writer.stepNavigate watch.page).writer
        notes := watch.notes.poll watch.writer (watch.writer.stepNavigate watch.page) } := by
  unfold SpaSwitchWriter.stepNavigate
  split
  · refine h.leave (.inr rfl) ?_ rfl rfl
    rw [hphase]
    decide
  · split
    · exact h.stay rfl rfl rfl
    · split
      · split
        · exact h.stay rfl rfl rfl
        · exact h.stay rfl rfl rfl
      · split
        · exact h.stay rfl rfl rfl
        · exact h.stay rfl rfl rfl

theorem stepSelectRow (hphase : watch.writer.phase = .selectRow)
    (hgoal : watch.writer.pending = some goal) :
    CommitInvariant
      { watch with
        writer := (watch.writer.stepSelectRow watch.page goal).writer
        notes := watch.notes.poll watch.writer (watch.writer.stepSelectRow watch.page goal) } := by
  have hwas : watch.writer.phase ≠ .verify := by
    rw [hphase]
    decide
  unfold SpaSwitchWriter.stepSelectRow
  split
  · exact h.leave (.inl rfl) hwas rfl rfl
  · split
    · next hselected =>
        -- the row was selected before, and nothing is sent
        refine h.idle ?_ ?_ (fun _ _ => hselected) fun hsome hrow _ => h.selected hsome hrow hwas
        · rw [SpaSwitchWriter.selectsRow, hgoal]
          exact Bool.and_false _
        · rw [SpaSwitchWriter.commits, hphase]
          rfl
    · have hselects : watch.writer.selectsRow
          { writer := { watch.writer.settle with
              rowSelected := true
              phase := .findFunction
              firstPickerSeen := none }
            calls := .issue goal.rowSelectCommand } := by
        rw [SpaSwitchWriter.selectsRow, hgoal, hphase]
        simp [SinkCalls.issue]
      rw [CommitNotes.poll, if_pos hselects]
      exact ⟨h.law, fun _ _ => rfl, fun _ _ _ => rfl⟩

theorem stepFindFunction (hphase : watch.writer.phase = .findFunction)
    (hgoal : watch.writer.pending = some goal)
    (hunspoilt : watch.page.pageId = SpaSwitchWriter.pageSpaSwitchDetail →
      watch.notes.Unspoilt watch.page goal.function) :
    CommitInvariant
      { watch with
        writer := (watch.writer.stepFindFunction watch.page goal).writer
        notes := watch.notes.poll watch.writer
          (watch.writer.stepFindFunction watch.page goal) } := by
  have hwas : watch.writer.phase ≠ .verify := by
    rw [hphase]
    decide
  have hsome : watch.writer.pending.isSome := by
    rw [hgoal]
    rfl
  unfold SpaSwitchWriter.stepFindFunction
  split
  · exact h.leave (.inl rfl) hwas rfl rfl
  · next hpage =>
      split
      · next slot hslot =>
          have hcommits : watch.writer.commits
              { writer := { watch.writer.settle with phase := .verify }
                calls := .issue (SpaSwitchWriter.commitCommand slot) } = some slot := by
            rw [SpaSwitchWriter.commits, if_pos ⟨hphase, rfl⟩]
            change some (SpaSwitchWriter.commitCmdBase + slot - SpaSwitchWriter.commitCmdBase) = _
            rw [UInt8.add_comm, UInt8.add_sub_cancel]
          have hselects : watch.writer.selectsRow
              { writer := { watch.writer.settle with phase := .verify }
                calls := .issue (SpaSwitchWriter.commitCommand slot) } = false := by
            rw [SpaSwitchWriter.selectsRow, hphase]
            rfl
          rw [CommitNotes.poll, hselects, hcommits]
          refine ⟨fun commit hcommit => ?_, fun _ hsearch => ?_, fun _ _ hverify => ?_⟩
          · rcases List.mem_append.mp hcommit with hold | hnew
            · exact h.law commit hold
            · obtain rfl := List.mem_singleton.mp hnew
              refine ⟨h.selected hsome (h.searching hsome hphase) hwas, ?_⟩
              rw [hgoal]
              exact (hunspoilt (not_not.mp hpage)).hasArrived hslot
          · cases hsearch
          · exact absurd rfl hverify
      · unfold SpaSwitchWriter.scroll
        split
        · exact h.finish _ _
        · dsimp only
          split
          · exact h.finish _ _
          · exact h.stay rfl rfl rfl

theorem stepVerify (assignments : SpaSwitchAssignments) :
    CommitInvariant
      { watch with
        writer := (watch.writer.stepVerify assignments goal).writer
        notes := watch.notes.poll watch.writer (watch.writer.stepVerify assignments goal) } := by
  unfold SpaSwitchWriter.stepVerify
  split
  · exact h.finish _ _
  · exact h.stay rfl rfl rfl

theorem stepPhase (hgoal : watch.writer.pending = some goal) (assignments : SpaSwitchAssignments)
    (hunspoilt : watch.writer.phase = .findFunction →
      watch.page.pageId = SpaSwitchWriter.pageSpaSwitchDetail →
      watch.notes.Unspoilt watch.page goal.function) :
    CommitInvariant
      { watch with
        writer := (watch.writer.stepPhase watch.page assignments goal).writer
        notes := watch.notes.poll watch.writer
          (watch.writer.stepPhase watch.page assignments goal) } := by
  unfold SpaSwitchWriter.stepPhase
  split
  · next hphase => exact h.stepNavigate hphase
  · next hphase => exact h.stepSelectRow hphase hgoal
  · next hphase => exact h.stepFindFunction hphase hgoal (hunspoilt hphase)
  · exact h.stepVerify assignments
  · exact h.finish _ _
  · exact h.finish _ _

end

end

section

variable (h : CommitInvariant watch)

include h

theorem poll (assignments : SpaSwitchAssignments) (hsettled : watch.Settled (.poll assignments)) :
    CommitInvariant (watch.step (.poll assignments)) := by
  unfold CommitWatch.step
  dsimp only
  unfold SpaSwitchWriter.processStep
  split
  · exact h.stay rfl rfl rfl
  · next goal hgoal =>
      have hcounted : CommitInvariant
          { watch with writer := { watch.writer with pollCount := watch.writer.pollCount + 1 } } :=
        ⟨h.law, h.searching, h.selected⟩
      dsimp only
      split
      · exact hcounted.finish _ _
      · split
        · exact hcounted.stay rfl rfl rfl
        · next hcount =>
            refine hcounted.stepPhase hgoal assignments fun hphase hpage => ?_
            exact hsettled goal hgoal hphase (Nat.eq_zero_of_not_pos hcount) hpage

theorem page (message : PageMessage) (hsettled : watch.Settled (.page message)) :
    CommitInvariant (watch.step (.page message)) := by
  refine ⟨?_, h.searching, fun hgoal hrow hphase => ?_⟩
  · change CommitLaw (watch.notes.see watch.page message)
    unfold CommitNotes.see
    split
    · split <;> exact h.law
    · split <;> exact h.law
    · exact h.law
  · change (watch.notes.see watch.page message).rowSelected
    have hselected := h.selected hgoal hrow hphase
    unfold CommitNotes.see
    split
    · split
      · next id hentered =>
          -- the page is entered again, so the row was not selected or does not matter any more
          rcases hsettled hentered.1 hentered.2 hgoal with hnone | hverify
          · cases hnone.symm.trans hrow
          · exact absurd hverify hphase
      · exact hselected
    · split
      · exact hselected
      · exact hselected
    · exact hselected

/-- A request.  The row of a new goal has not been selected yet. -/
theorem queue (switchNumber buttonNumber : UInt8) (function : Text)
    (emulationActive channelBusy : Bool) :
    CommitInvariant
      (watch.step (.queue switchNumber buttonNumber function emulationActive channelBusy)) := by
  unfold CommitWatch.step
  rcases watch.writer.queue_cases switchNumber buttonNumber function emulationActive channelBusy
    with ⟨result, hrefused, heq⟩ | heq
  · simp only [heq, if_neg hrefused]
    exact h
  · simp only [heq, if_true]
    refine ⟨h.law, fun _ hsearch => ?_, fun _ hrow => ?_⟩
    · cases hsearch
    · cases hrow

theorem step (event : CommitEvent) (hsettled : watch.Settled event) :
    CommitInvariant (watch.step event) := by
  cases event with
  | page message => exact h.page message hsettled
  | poll assignments => exact h.poll assignments hsettled
  | queue switchNumber buttonNumber function emulationActive channelBusy =>
    exact h.queue switchNumber buttonNumber function emulationActive channelBusy

end

end CommitInvariant

/-- In a run in which nothing stale is relied on every commit hits its cell. -/
theorem commitLaw_of_settled (events : List CommitEvent)
    (h : EachStep CommitWatch.step CommitWatch.Settled {} events) :
    EachState CommitWatch.step (fun watch => CommitLaw watch.notes) {} events := by
  have hstart : CommitInvariant {} := by
    refine ⟨fun _ h => (List.not_mem_nil h).elim, fun h => ?_, fun h => ?_⟩ <;> cases h
  exact (h.eachState_of_step (fun _ event hinv => hinv.step event) hstart).mono
    fun _ hinv => hinv.law

/-- A function is assigned to the first button, on a page that stays. -/
def assignLight (after : List CommitEvent) : List CommitEvent :=
  [.queue 1 1 "Pool Light".toList true false,
    .page (.pageStart SpaSwitchWriter.pageSpaSwitchDetail), .poll fun _ _ => none,
    .poll fun _ _ => none] ++ after ++
    List.replicate 4 (.poll fun _ _ => none) ++ [.poll fun _ _ => none]

/-- The function arrives in the picker after the row was selected. -/
theorem commitLaw_of_assignLight :
    EachState CommitWatch.step (fun watch => CommitLaw watch.notes) {}
      (assignLight [.page (.tableMessage 0x01 0x02 "Pool Light?".toList)]) :=
  commitLaw_of_settled _ (by decide +kernel)

/-- The page is left and entered again after the row was selected, and the function was in the
picker before. -/
theorem not_commitLaw_of_page_left :
    ¬ EachState CommitWatch.step (fun watch => CommitLaw watch.notes) {}
      (.page (.tableMessage 0x01 0x02 "Pool Light?".toList) ::
        assignLight [.page (.pageStart pageMenu),
          .page (.pageStart SpaSwitchWriter.pageSpaSwitchDetail)]) := by
  intro h
  have hlaw := h.last
  revert hlaw
  unfold CommitLaw
  decide +kernel

end AqualinkAutomate.Iaq
