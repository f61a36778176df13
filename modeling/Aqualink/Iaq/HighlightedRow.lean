import Aqualink.Iaq.ProgramVerification

/-!
# Keys that act on the highlighted row

To delete or edit a program the writer presses its row on the schedule list, which highlights
it.  Delete, Edit, and Ok on the dialog that Delete raises, then act on the row that is
highlighted, some polls later.  Until then the controller can send the list again, in another
order or with other programs, or leave it.

`RowWatch` notes which row the writer has highlighted for its goal, and whether that row was
redrawn since.  The keys act on the program that was asked for (`OnHighlighted`) exactly if no key
is due while the row is redrawn (`Undisturbed`).
-/

namespace AqualinkAutomate.Iaq

open General Navigation Equipment Scheduling Option

namespace ScheduleWriter

inductive RowKey where
  | edit | delete | confirm
  deriving DecidableEq

def RowKey.command : RowKey → UInt8
  | .edit => cmdEditProgram
  | .delete => cmdDeleteProgram
  | .confirm => cmdConfirmOk

def Phase.rowKey : Phase → Option RowKey
  | .pressEdit => some .edit
  | .pressDelete => some .delete
  | .confirmDelete => some .confirm
  | _ => none

def sendsRowKey (writer : ScheduleWriter) (step : WriterStep ScheduleWriter) : Option RowKey :=
  writer.phase.rowKey.filter fun key => step.calls.command = some key.command

def highlights (writer : ScheduleWriter) (step : WriterStep ScheduleWriter) : Option UInt8 :=
  if writer.phase = .selectRow ∧ step.writer.phase.rowKey.isSome = true then
    step.calls.command.map fun command => command - rowBase
  else none

end ScheduleWriter

structure RowWatch extends ListWatch where
  highlighted : Option UInt8 := none
  /-- The row does not show the program any more. -/
  redrawn : Bool := false

namespace RowWatch

open ScheduleWriter

def shownBy (watch : RowWatch) (text : Text) : Bool :=
  watch.writer.pending.any fun goal => shows goal.existing text

def redraw (watch : RowWatch) : PageMessage → Bool
  | .pageStart _ => true
  | .tableMessage _ attr text =>
    if watch.page.pageId = pageSchedule ∧ watch.highlighted = some attr then
      !watch.shownBy text
    else watch.redrawn
  | _ => watch.redrawn

def step (watch : RowWatch) (event : ListEvent) : RowWatch :=
  match event with
  | .page message =>
    { watch with toListWatch := watch.toListWatch.step event, redrawn := watch.redraw message }
  | .poll =>
    match watch.writer.highlights watch.pollStep with
    | some ordinal =>
      { watch with
        toListWatch := watch.toListWatch.step event
        highlighted := some ordinal
        redrawn := false }
    | none => { watch with toListWatch := watch.toListWatch.step event }
  | _ => { watch with toListWatch := watch.toListWatch.step event }

/-! ## What the keys are to act on -/

def RowStands (watch : RowWatch) : Prop :=
  watch.page.pageId = pageSchedule ∧ ∃ ordinal ∈ watch.highlighted,
    ∃ text ∈ watch.page.scheduleRows ordinal, watch.shownBy text = true

/-- A key is only sent while the highlighted row stands. -/
def OnHighlighted (watch : RowWatch) : ListEvent → Prop
  | .poll => (watch.writer.sendsRowKey watch.pollStep).isSome = true → watch.RowStands
  | _ => True

structure KeyDue (watch : RowWatch) : Prop where
  pending : watch.writer.pending.isSome
  within : watch.writer.pollCount < pollLimit
  settled : watch.writer.settleCount = 0
  phase : watch.writer.phase.rowKey.isSome
  page : watch.writer.phase ≠ .confirmDelete → watch.page.pageId = pageSchedule

/-- No key is due while the highlighted row is redrawn. -/
def Undisturbed (watch : RowWatch) : ListEvent → Prop
  | .poll => watch.KeyDue → watch.redrawn = false
  | _ => True

end RowWatch

/-! ## When a key is sent -/

namespace ScheduleWriter

variable {writer : ScheduleWriter} {goal : ScheduleWriter.Goal} {page : PageModel}
  {statusPage : ScreenDataPage}

theorem command_ne_dwell (key : RowKey) : cmdDwell ≠ key.command := by
  cases key <;> decide

theorem sendsRowKey_of_dwell {step : WriterStep ScheduleWriter}
    (h : step.calls.command = some cmdDwell) : writer.sendsRowKey step = none := by
  unfold sendsRowKey
  rw [h]
  exact Option.filter_eq_none_iff.mpr fun key _ => by simp [command_ne_dwell]

theorem sendsRowKey_pressOnList {key : RowKey} {next : Phase}
    (hkey : writer.phase.rowKey = some key) :
    (writer.sendsRowKey (writer.pressOnList page key.command next)).isSome ↔
      page.pageId = pageSchedule := by
  unfold pressOnList
  split
  next hother =>
    rw [sendsRowKey_of_dwell rfl]
    exact iff_of_false Bool.false_ne_true hother
  next hlist =>
    refine iff_of_true ?_ (not_not.mp hlist)
    simp [sendsRowKey, hkey, SinkCalls.issue]

theorem sendsRowKey_stepPhase (hphase : writer.phase.rowKey.isSome) :
    (writer.sendsRowKey (writer.stepPhase page statusPage goal)).isSome ↔
      (writer.phase ≠ .confirmDelete → page.pageId = pageSchedule) := by
  cases hwas : writer.phase with
  | pressDelete =>
    have hstep : writer.stepPhase page statusPage goal =
        writer.pressOnList page RowKey.delete.command .confirmDelete := by
      simp only [stepPhase, hwas]
      rfl
    rw [hstep, sendsRowKey_pressOnList (by rw [hwas]; rfl)]
    simp
  | pressEdit =>
    have hstep : writer.stepPhase page statusPage goal =
        writer.pressOnList page RowKey.edit.command .setOnTime := by
      simp only [stepPhase, hwas]
      rfl
    rw [hstep, sendsRowKey_pressOnList (by rw [hwas]; rfl)]
    simp
  | confirmDelete =>
    refine iff_of_true ?_ fun h => absurd rfl h
    simp [sendsRowKey, stepPhase, hwas, Phase.rowKey, stepConfirmDelete, SinkCalls.issue,
      RowKey.command]
  | _ =>
    rw [hwas] at hphase
    cases hphase

end ScheduleWriter

namespace RowWatch

open ScheduleWriter

variable {watch : RowWatch}

theorem sendsRowKey_iff : (watch.writer.sendsRowKey watch.pollStep).isSome ↔ watch.KeyDue := by
  cases hkey : watch.writer.phase.rowKey with
  | none =>
    refine iff_of_false ?_ fun h => ?_
    · simp [sendsRowKey, hkey]
    · have hphase := h.phase
      rw [hkey] at hphase
      cases hphase
  | some key =>
    have hsome : watch.writer.phase.rowKey.isSome := by rw [hkey]; rfl
    cases hpending : watch.writer.pending with
    | none =>
      refine iff_of_false ?_ fun h => ?_
      · simp [sendsRowKey, hkey, ListWatch.pollStep, processStep, hpending, WriterStep.rest]
      · have hgoal := h.pending
        rw [hpending] at hgoal
        cases hgoal
    | some goal =>
      simp only [ListWatch.pollStep, processStep, hpending]
      split
      next hover =>
        rw [sendsRowKey_of_dwell rfl]
        refine iff_of_false Bool.false_ne_true fun h => ?_
        have := h.within
        omega
      next hwithin =>
        split
        next hsettling =>
          rw [sendsRowKey_of_dwell rfl]
          refine iff_of_false Bool.false_ne_true fun h => ?_
          have := h.settled
          omega
        next hsettled =>
          have hsends := @sendsRowKey_stepPhase
            { watch.writer with pending := some goal, pollCount := watch.writer.pollCount + 1 }
            goal watch.page watch.statusPage hsome
          refine hsends.trans ⟨fun hpage => ?_, KeyDue.page⟩
          exact ⟨by rw [hpending]; rfl, by omega, by omega, hsome, hpage⟩

/-! ## The row that is highlighted -/

structure Tracked (watch : RowWatch) : Prop where
  rows : watch.page.ListOnly
  stands : watch.writer.pending.isSome → watch.writer.phase.rowKey.isSome →
    watch.highlighted.isSome ∧ (watch.redrawn = false ↔ watch.RowStands)

theorem page_step (watch : ListWatch) (message : PageMessage) :
    (watch.step (.page message)).page = watch.page.take message := by
  cases message <;> rfl

theorem writer_step (watch : ListWatch) (message : PageMessage) :
    (watch.step (.page message)).writer = watch.writer := by
  cases message <;> rfl

theorem redrawn_step_iff (hhigh : watch.highlighted.isSome)
    (h : watch.redrawn = false ↔ watch.RowStands) (message : PageMessage) :
    (watch.step (.page message)).redrawn = false ↔ (watch.step (.page message)).RowStands := by
  obtain ⟨ordinal, hordinal⟩ := Option.isSome_iff_exists.mp hhigh
  have hstands : (watch.step (.page message)).RowStands ↔
      (watch.page.take message).pageId = pageSchedule ∧
        ∃ text ∈ (watch.page.take message).scheduleRows ordinal, watch.shownBy text := by
    simp only [RowStands, step, page_step, shownBy, writer_step, hordinal, Option.mem_def,
      some_inj, exists_eq_left']
  have hbefore : watch.RowStands ↔ watch.page.pageId = pageSchedule ∧
      ∃ text ∈ watch.page.scheduleRows ordinal, watch.shownBy text := by
    simp only [RowStands, hordinal, Option.mem_def, some_inj, exists_eq_left']
  rw [hstands, PageModel.pageId_take, PageModel.scheduleRows_take]
  rw [hbefore] at h
  cases message with
  | pageStart id => simp [step, redraw]
  | tableMessage line attr text =>
    simp only [step, redraw, hordinal, some_inj]
    by_cases hlist : watch.page.pageId = pageSchedule
    · by_cases hattr : ordinal = attr
      · subst hattr
        simp [hlist]
      · simp only [hattr, and_false, if_false, h, if_pos hlist, ByteTable.insert_apply]
    · simp only [hlist, false_and, if_false, h, iff_self]
  | pageButton | titleMessage | pageEnd => exact h

/-! ### The steps of the writer -/

theorem rowKey_of_successor {op : Op} {phase next : Phase} (h : next ∈ phase.successors op)
    (hkey : next.rowKey.isSome) :
    phase = .selectRow ∨ phase = .pressDelete ∧ next = .confirmDelete := by
  cases next with
  | pressEdit => cases op <;> cases phase <;> revert h <;> decide
  | pressDelete => cases op <;> cases phase <;> revert h <;> decide
  | confirmDelete => cases op <;> cases phase <;> revert h <;> decide
  | _ => cases hkey

section

variable {writer : ScheduleWriter} {goal : ScheduleWriter.Goal} {page : PageModel}
  {statusPage : ScreenDataPage}

theorem highlights_stepPhase (hwas : writer.phase = .selectRow)
    (hkey : (writer.stepPhase page statusPage goal).writer.phase.rowKey.isSome) :
    page.pageId = pageSchedule ∧ ∃ ordinal, rowShowing page goal.existing = some ordinal ∧
      writer.highlights (writer.stepPhase page statusPage goal) = some ordinal := by
  have hstep : writer.stepPhase page statusPage goal = writer.stepSelectRow page goal := by
    simp only [stepPhase, hwas]
  rw [hstep] at hkey ⊢
  revert hkey
  unfold stepSelectRow
  split
  next =>
    intro hkey
    rw [WriterStep.dwell, hwas] at hkey
    cases hkey
  next hlist =>
    split
    next =>
      intro hkey
      rw [WriterStep.dwell, hwas] at hkey
      cases hkey
    next =>
      split
      next ordinal hordinal =>
        intro hkey
        refine ⟨not_not.mp hlist, ordinal, hordinal, ?_⟩
        rw [highlights, if_pos ⟨hwas, hkey⟩]
        change some (rowBase + ordinal - rowBase) = _
        rw [UInt8.add_comm, UInt8.add_sub_cancel]
      next =>
        intro hkey
        cases hkey

theorem highlights_processStep (hpending : writer.pending = some goal)
    (hwas : writer.phase = .selectRow)
    (hkey : (writer.processStep page statusPage).writer.phase.rowKey.isSome) :
    page.pageId = pageSchedule ∧ ∃ ordinal, rowShowing page goal.existing = some ordinal ∧
      writer.highlights (writer.processStep page statusPage) = some ordinal := by
  revert hkey
  simp only [processStep, hpending]
  split
  next =>
    intro hkey
    cases hkey
  next =>
    split
    next =>
      intro hkey
      rw [WriterStep.dwell] at hkey
      simp only [hwas] at hkey
      cases hkey
    next =>
      intro hkey
      exact @highlights_stepPhase
        { writer with pending := some goal, pollCount := writer.pollCount + 1 } goal page
        statusPage hwas hkey

end

theorem highlights_of_ne {writer : ScheduleWriter} (h : writer.phase ≠ .selectRow)
    (step : WriterStep ScheduleWriter) : writer.highlights step = none :=
  if_neg fun hand => h hand.1

/-! ### All the events -/

theorem rowStands_congr {first second : RowWatch} (hpage : first.page = second.page)
    (hhigh : first.highlighted = second.highlighted)
    (hpending : first.writer.pending = second.writer.pending) :
    first.RowStands ↔ second.RowStands := by
  simp only [RowStands, shownBy, hpage, hhigh, hpending]

theorem step_poll_of_none (h : watch.writer.highlights watch.pollStep = none) :
    watch.step .poll = { watch with toListWatch := watch.toListWatch.step .poll } := by
  simp only [step, h]

theorem step_poll_of_some {ordinal : UInt8}
    (h : watch.writer.highlights watch.pollStep = some ordinal) :
    watch.step .poll =
      { watch with
        toListWatch := watch.toListWatch.step .poll
        highlighted := some ordinal
        redrawn := false } := by
  simp only [step, h]

theorem writer_step_poll : (watch.step .poll).writer = watch.pollStep.writer := by
  simp only [step]
  split <;> rfl

theorem page_step_poll : (watch.step .poll).page = watch.page := by
  simp only [step]
  split <;> rfl

theorem before_rowKey (hpending : watch.pollStep.writer.pending.isSome)
    (hkey : watch.pollStep.writer.phase.rowKey.isSome) :
    watch.pollStep.writer.pending = watch.writer.pending ∧
      ((∃ goal ∈ watch.writer.pending, ∃ ordinal, watch.page.pageId = pageSchedule ∧
          rowShowing watch.page goal.existing = some ordinal ∧
          watch.writer.highlights watch.pollStep = some ordinal) ∨
        watch.writer.phase.rowKey.isSome ∧
          watch.writer.highlights watch.pollStep = none) := by
  cases hbefore : watch.writer.pending with
  | none =>
    rw [ListWatch.pollStep, processStep, hbefore, WriterStep.rest, hbefore] at hpending
    cases hpending
  | some goal =>
    rcases advances_processStep hbefore watch.page watch.statusPage with hnone | ⟨hgoal, hphase⟩
    · rw [ListWatch.pollStep, hnone] at hpending
      cases hpending
    refine ⟨hgoal, ?_⟩
    by_cases hselects : watch.writer.phase = .selectRow
    · obtain ⟨hlist, ordinal, hrow, hhigh⟩ := highlights_processStep hbefore hselects hkey
      exact .inl ⟨goal, rfl, ordinal, hlist, hrow, hhigh⟩
    · refine .inr ⟨?_, highlights_of_ne hselects _⟩
      rcases hphase with hstays | hgoes
      · rwa [← hstays]
      · obtain hselected | ⟨hdelete, -⟩ := rowKey_of_successor hgoes hkey
        · exact absurd hselected hselects
        · rw [hdelete]
          rfl

theorem Tracked.poll (h : watch.Tracked) : (watch.step .poll).Tracked := by
  have hrows : (watch.step .poll).page.ListOnly := by
    rw [page_step_poll]
    exact h.rows
  refine ⟨hrows, fun hpending hkey => ?_⟩
  rw [writer_step_poll] at hpending hkey
  obtain ⟨hsame, ⟨goal, hgoal, ordinal, hlist, hrow, hhigh⟩ | ⟨hwas, hnone⟩⟩ :=
    before_rowKey hpending hkey
  · rw [step_poll_of_some hhigh]
    refine ⟨rfl, iff_of_true rfl ⟨hlist, ordinal, rfl, ?_⟩⟩
    obtain ⟨⟨text, htext, hshows⟩, -⟩ := ByteTable.find?_eq_some_iff.mp hrow
    refine ⟨text, htext, ?_⟩
    change watch.pollStep.writer.pending.any _ = true
    rwa [hsame, Option.mem_def.mp hgoal]
  · obtain ⟨hhigh, hstands⟩ := h.stands (hsame ▸ hpending) hwas
    have hcongr : RowStands { watch with toListWatch := watch.toListWatch.step .poll } ↔
        watch.RowStands := rowStands_congr rfl rfl hsame
    rw [step_poll_of_none hnone]
    exact ⟨hhigh, hstands.trans hcongr.symm⟩

theorem Tracked.queue (h : watch.Tracked) {queued : ScheduleWriter × ActuationResult}
    (hqueued : watch.writer.Requested queued) :
    Tracked { watch with toListWatch := watch.toListWatch.queue queued } := by
  rcases hqueued with ⟨hwriter, -⟩ | ⟨goal, rfl⟩
  · refine ⟨h.rows, fun hpending hkey => ?_⟩
    have hpending' : watch.writer.pending.isSome := hwriter ▸ hpending
    have hkey' : watch.writer.phase.rowKey.isSome := hwriter ▸ hkey
    obtain ⟨hhigh, hstands⟩ := h.stands hpending' hkey'
    refine ⟨hhigh, hstands.trans (rowStands_congr rfl rfl ?_)⟩
    exact congrArg ScheduleWriter.pending hwriter.symm
  · exact ⟨h.rows, nofun⟩

theorem Tracked.page (h : watch.Tracked) (message : PageMessage) :
    (watch.step (.page message)).Tracked := by
  have hpage : (watch.step (.page message)).page = watch.page.take message := page_step _ message
  have hwriter : (watch.step (.page message)).writer = watch.writer := writer_step _ message
  refine ⟨hpage ▸ h.rows.take message, fun hpending hkey => ?_⟩
  rw [hwriter] at hpending hkey
  obtain ⟨hhigh, hstands⟩ := h.stands hpending hkey
  exact ⟨hhigh, redrawn_step_iff hhigh hstands message⟩

theorem Tracked.step (h : watch.Tracked) (event : ListEvent) : (watch.step event).Tracked := by
  cases event with
  | page message => exact h.page message
  | pageMessage line text => exact ⟨h.rows, h.stands⟩
  | poll => exact h.poll
  | create program emulated channelBusy => exact h.queue (requested_queueCreate ..)
  | delete program emulated channelBusy => exact h.queue (requested_queueDelete ..)
  | edit existing desired emulated channelBusy => exact h.queue (requested_queueEdit ..)

theorem tracked_start (statusPage : ScreenDataPage) : Tracked { statusPage := statusPage } where
  rows _ _ := rfl
  stands h := by cases h

theorem onHighlighted_iff_undisturbed (h : watch.Tracked) (event : ListEvent) :
    watch.OnHighlighted event ↔ watch.Undisturbed event := by
  cases event with
  | poll =>
    unfold OnHighlighted Undisturbed
    rw [sendsRowKey_iff]
    exact forall_congr' fun hdue => (h.stands hdue.pending hdue.phase).2.symm
  | page | pageMessage | create | delete | edit => exact Iff.rfl

/-- Whatever the controller sends and the writer is asked for: its keys act on the row that it
highlighted, with the program still in it, exactly as long as none is due while that row is
redrawn. -/
theorem onHighlighted_iff (statusPage : ScreenDataPage) (events : List ListEvent) :
    EachStep step OnHighlighted { statusPage := statusPage } events ↔
      EachStep step Undisturbed { statusPage := statusPage } events :=
  eachStep_congr (fun _ event htracked => htracked.step event)
    (fun _ event htracked => onHighlighted_iff_undisturbed htracked event)
    (tracked_start statusPage)

/-! ## Lists that stay, and a list that does not -/

/-- A program is deleted, and the list is sent again before Ok. -/
def deleteRedrawn : List ListEvent :=
  [.page (.pageStart pageSchedule),
    .page (.tableMessage 0x00 0x00 "Filter Pump?8:00 AM?10:30 PM?Wkdays?".toList),
    .delete ⟨"Filter Pump".toList, DayMask.weekdays, 8, 0, 22, 30⟩ true false] ++
    List.replicate 7 .poll ++
    [.page (.pageStart pageSchedule),
      .page (.tableMessage 0x00 0x00 "Cleaner?9:00 AM?11:00 AM?All?".toList)] ++
    List.replicate 4 .poll

/-- Another program is in the row that was highlighted, and Ok deletes it. -/
theorem redrawn_row_confirmed :
    ¬ EachStep step OnHighlighted { statusPage := ⟨[]⟩ } (deleteRedrawn ++ [.poll]) := by
  intro h
  have hlast := (eachStep_append.mp h).2.1
  have hstands : RowStands (deleteRedrawn.foldl step { statusPage := ⟨[]⟩ }) :=
    hlast (by decide +kernel)
  revert hstands
  unfold RowStands
  decide +kernel

end RowWatch

end AqualinkAutomate.Iaq
