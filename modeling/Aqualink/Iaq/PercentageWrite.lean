import Aqualink.Iaq.AquaPureWriter

/-!
# One write of the output

A goal for the output of the chlorinator walks to its page, presses the row of the body of water,
lets four polls pass, and submits the value if the page is still the one of the chlorinator.  What
the page was in between it does not look at.  So the row was the last button that was pressed, but
the page can have been left and entered again since (`controlValue_receive`).

A goal submits once (`Spent`), and is given up by its 202nd poll: the counter is compared before
the poll is counted, and has to be above the limit.
-/

namespace AqualinkAutomate.Iaq

open General Navigation Equipment List

namespace AquaPureWriter

/-! ## Runs -/

structure Message where
  page : PageModel
  isPoll : Bool

/-- The part of the device that serves the writer: it learns from each page, and a goal takes a
step with each poll. -/
def receive (writer : AquaPureWriter) (message : Message) : WriterStep AquaPureWriter :=
  let observed := writer.observeMenuPage message.page
  if message.isPoll then observed.processStep message.page else .rest observed

def next (writer : AquaPureWriter) (message : Message) : AquaPureWriter :=
  (writer.receive message).writer

def run (writer : AquaPureWriter) (messages : List Message) : AquaPureWriter :=
  messages.foldl next writer

def polls (messages : List Message) : ℕ := messages.countP Message.isPoll

/-- The writer, and the button that it pressed last since the chlorinator's page was entered. -/
def watch (watched : AquaPureWriter × Option ResolvedButton) (message : Message) :
    AquaPureWriter × Option ResolvedButton :=
  (watched.1.next message, if message.page.pageId = pageSetSwg then
      (watched.1.receive message).calls.press.or watched.2
    else none)

/-- The button that was pressed last on this visit to the chlorinator's page. -/
def visitPress (writer : AquaPureWriter) (messages : List Message) : Option ResolvedButton :=
  (messages.foldl watch (writer, none)).2

theorem run_concat (writer : AquaPureWriter) (messages : List Message) (message : Message) :
    writer.run (messages ++ [message]) = (writer.run messages).next message := by
  rw [run, foldl_append]
  rfl

theorem polls_concat (messages : List Message) (message : Message) :
    polls (messages ++ [message]) = polls messages + if message.isPoll then 1 else 0 := by
  rw [polls, countP_append, countP_singleton]
  rfl

/-! ## What a poll does -/

inductive PollStep (goal : Goal) (writer : AquaPureWriter) (page : PageModel)
    (step : WriterStep AquaPureWriter) : Prop where
  /-- The goal is over. -/
  | ends (hpending : step.writer.pending = none) (hvalue : step.calls.controlValue = none)
  | dwells (hpending : step.writer.pending = some goal) (hphase : step.writer.phase = writer.phase)
      (hsettle : step.writer.settleCount + 1 = writer.settleCount)
      (hcount : step.writer.pollCount = writer.pollCount + 1)
      (hlimit : writer.pollCount ≤ pollLimit)
      (hcalls : step.calls = .issue cmdDwell)
  /-- The row of the body is pressed. -/
  | selects (index : UInt8) (hpage : page.pageId = pageSetSwg)
      (hindex : page.findButtonContaining (fieldLabel goal) = some index)
      (hpending : step.writer.pending = some goal) (hbefore : writer.phase = .selectField)
      (hphase : step.writer.phase = .submit)
      (hsettle : step.writer.settleCount = settlePolls)
      (hcount : step.writer.pollCount = writer.pollCount + 1)
      (hlimit : writer.pollCount ≤ pollLimit)
      (hcalls : step.calls = .pressButton page index)
  /-- The value is submitted. -/
  | submits (hpage : page.pageId = pageSetSwg) (hbefore : writer.phase = .submit)
      (hsettled : writer.settleCount = 0) (hpending : step.writer.pending = some goal)
      (hphase : step.writer.phase = .returnHome)
      (hcount : step.writer.pollCount = writer.pollCount + 1)
      (hlimit : writer.pollCount ≤ pollLimit)
      (hcalls : step.calls =
        { command := some cmdSubmitValue
          controlValue := some ('1' :: decimal goal.percentage.toNat) })
  /-- The goal goes on, and neither presses a row nor submits. -/
  | walks (hpending : step.writer.pending = some goal) (hphase : step.writer.phase ≠ .submit)
      (hreturn : writer.phase = .returnHome → step.writer.phase = .returnHome)
      (hcount : step.writer.pollCount = writer.pollCount + 1)
      (hlimit : writer.pollCount ≤ pollLimit)
      (hvalue : step.calls.controlValue = none)

theorem pollCount_observeMenuPage (writer : AquaPureWriter) (page : PageModel) :
    (writer.observeMenuPage page).pollCount = writer.pollCount := by
  unfold observeMenuPage
  split
  · rfl
  · cases menuEntry page <;> rfl

section

variable {goal : Goal} {writer counted : AquaPureWriter} {page : PageModel}

/-- Going up, or giving up. -/
theorem pollStep_unwind {failing : AquaPureWriter → WriterStep AquaPureWriter}
    (hpending : counted.pending = some goal) (hphase : counted.phase ≠ .submit)
    (hreturn : writer.phase = .returnHome → counted.phase = .returnHome)
    (hcount : counted.pollCount = writer.pollCount + 1) (hlimit : writer.pollCount ≤ pollLimit)
    (hfailing : ∀ after : AquaPureWriter, after.pending = some goal →
      after.pollCount = writer.pollCount + 1 → PollStep goal writer page (failing after)) :
    PollStep goal writer page (counted.unwind failing) := by
  unfold unwind
  split_ifs
  · exact hfailing _ hpending hcount
  · exact .walks hpending hphase hreturn hcount hlimit rfl

theorem pollStep_stepNavigate (hpending : counted.pending = some goal)
    (hphase : counted.phase = .navigate) (hbefore : writer.phase = .navigate)
    (hcount : counted.pollCount = writer.pollCount + 1) (hlimit : writer.pollCount ≤ pollLimit) :
    PollStep goal writer page (counted.stepNavigate page) := by
  have hreturn (phase : Phase) : writer.phase = .returnHome → phase = .returnHome := by
    rw [hbefore]
    intro h
    cases h
  have hfails (after : AquaPureWriter) (hgoal : after.pending = some goal)
      (hpolls : after.pollCount = writer.pollCount + 1) :
      PollStep goal writer page after.fail :=
    .walks hgoal (show Phase.failed ≠ .submit by decide) (hreturn _) hpolls hlimit rfl
  unfold stepNavigate
  split_ifs with hset hmenu
  · exact .walks hpending (show Phase.selectField ≠ .submit by decide) (hreturn _) hcount hlimit rfl
  · obtain ⟨hgoal, hsame, -⟩ := counted.observeMenuPage_frame page
    have hpolls := counted.pollCount_observeMenuPage page
    have hnavigates : (counted.observeMenuPage page).phase ≠ .submit := by
      rw [hsame, hphase]
      decide
    dsimp only
    split_ifs
    · exact hfails _ (hgoal.trans hpending) (hpolls.trans hcount)
    · unfold pressMenuEntry
      dsimp only
      split
      · exact .walks (hgoal.trans hpending) hnavigates (hreturn _) (hpolls.trans hcount) hlimit rfl
      · exact .walks (hgoal.trans hpending) hnavigates (hreturn _) (hpolls.trans hcount) hlimit rfl
  · refine pollStep_unwind hpending ?_ (hreturn _) hcount hlimit hfails
    rw [hphase]
    decide

theorem pollStep_stepSelectField (hboost : goal.isBoost = false)
    (hpending : counted.pending = some goal) (hphase : counted.phase = .selectField)
    (hbefore : writer.phase = .selectField)
    (hcount : counted.pollCount = writer.pollCount + 1) (hlimit : writer.pollCount ≤ pollLimit) :
    PollStep goal writer page (counted.stepSelectField page goal) := by
  have hreturn (phase : Phase) : writer.phase = .returnHome → phase = .returnHome := by
    rw [hbefore]
    intro h
    cases h
  unfold stepSelectField
  split
  next =>
    exact .walks hpending (show Phase.navigate ≠ .submit by decide) (hreturn _) hcount hlimit rfl
  next hpage =>
    split
    next =>
      have hstays : counted.phase ≠ .submit := by
        rw [hphase]
        decide
      exact .walks hpending hstays (hreturn _) hcount hlimit rfl
    next =>
      cases hindex : page.findButtonContaining (fieldLabel goal) with
      | none =>
        exact .walks hpending (show Phase.failed ≠ .submit by decide) (hreturn _) hcount hlimit rfl
      | some index =>
        have hsubmits : (if goal.isBoost then Phase.returnHome else .submit) = .submit := by
          rw [hboost]
          rfl
        exact .selects index (not_not.mp hpage) hindex hpending hbefore hsubmits rfl hcount hlimit
          rfl

theorem pollStep_stepSubmit (hpending : counted.pending = some goal)
    (hbefore : writer.phase = .submit) (hsettled : writer.settleCount = 0)
    (hcount : counted.pollCount = writer.pollCount + 1) (hlimit : writer.pollCount ≤ pollLimit) :
    PollStep goal writer page (counted.stepSubmit page goal) := by
  unfold stepSubmit
  split_ifs with hpage
  · refine .walks hpending (show Phase.navigate ≠ .submit by decide) ?_ hcount hlimit rfl
    rw [hbefore]
    intro h
    cases h
  · exact .submits (not_not.mp hpage) hbefore hsettled hpending rfl hcount hlimit rfl

theorem pollStep_stepReturnHome (hpending : counted.pending = some goal)
    (hphase : counted.phase = .returnHome)
    (hcount : counted.pollCount = writer.pollCount + 1) (hlimit : writer.pollCount ≤ pollLimit) :
    PollStep goal writer page (counted.stepReturnHome page) := by
  unfold stepReturnHome
  split_ifs
  · exact .ends rfl rfl
  · refine pollStep_unwind hpending ?_ (fun _ => hphase) hcount hlimit fun _ _ _ => .ends rfl rfl
    rw [hphase]
    decide

theorem pollStep_processStep (hboost : goal.isBoost = false) (hgoal : writer.pending = some goal)
    (page : PageModel) : PollStep goal writer page (writer.processStep page) := by
  simp only [processStep, hgoal]
  split_ifs with hlimit hsettle
  · exact .ends rfl rfl
  · exact .dwells rfl rfl (Nat.sub_add_cancel hsettle) rfl (Nat.le_of_not_lt hlimit) rfl
  · have hlimit := Nat.le_of_not_lt hlimit
    have hsettled := Nat.eq_zero_of_not_pos hsettle
    unfold stepPhase
    cases hphase : writer.phase with
    | navigate => exact pollStep_stepNavigate rfl rfl hphase rfl hlimit
    | selectField => exact pollStep_stepSelectField hboost rfl rfl hphase rfl hlimit
    | submit => exact pollStep_stepSubmit rfl hphase hsettled rfl hlimit
    | returnHome => exact pollStep_stepReturnHome rfl rfl rfl hlimit
    | done => exact .ends rfl rfl
    | failed => exact .ends rfl rfl

end

/-! ## What a message does -/

theorem receive_of_rest (writer : AquaPureWriter) (message : Message)
    (h : message.isPoll = false ∨ writer.pending = none) :
    writer.receive message = .rest (writer.observeMenuPage message.page) := by
  unfold receive
  split
  next hpoll =>
    have hnone : writer.pending = none := h.resolve_left (by rw [hpoll]; decide)
    rw [processStep, pending_observeMenuPage, hnone]
  next => rfl

variable {writer : AquaPureWriter}

theorem pollStep_receive {message : Message} {goal : Goal} (hboost : goal.isBoost = false)
    (hgoal : writer.pending = some goal) (hpoll : message.isPoll) :
    PollStep goal (writer.observeMenuPage message.page) message.page (writer.receive message) := by
  have hobserved : (writer.observeMenuPage message.page).pending = some goal := by
    rw [pending_observeMenuPage, hgoal]
  unfold receive
  rw [if_pos hpoll]
  exact pollStep_processStep hboost hobserved message.page

section

variable {start : AquaPureWriter} {goal : Goal} {messages : List Message} {message : Message}

def HasGoal (goal : Goal) (writer : AquaPureWriter) : Prop :=
  writer.pending = none ∨ writer.pending = some goal

/-- The goal is over, or the value was submitted. -/
def Spent (writer : AquaPureWriter) : Prop :=
  writer.pending = none ∨ writer.phase = .returnHome

section

variable (hboost : goal.isBoost = false)

include hboost

theorem HasGoal.next (h : HasGoal goal writer) (message : Message) :
    HasGoal goal (writer.next message) := by
  have hrests (hrest : message.isPoll = false ∨ writer.pending = none) :
      HasGoal goal (writer.next message) := by
    rw [AquaPureWriter.next, receive_of_rest _ _ hrest]
    exact h.imp (writer.pending_observeMenuPage _).trans (writer.pending_observeMenuPage _).trans
  cases hpoll : message.isPoll with
  | false => exact hrests (.inl hpoll)
  | true =>
    obtain hnone | hgoal := h
    · exact hrests (.inr hnone)
    · cases pollStep_receive hboost hgoal hpoll with
      | ends hpending => exact .inl hpending
      | dwells hpending => exact .inr hpending
      | selects _ _ _ hpending => exact .inr hpending
      | submits _ _ _ hpending => exact .inr hpending
      | walks hpending => exact .inr hpending

theorem Spent.receive (hgoal : HasGoal goal writer) (h : Spent writer) (message : Message) :
    Spent (writer.next message) ∧ (writer.receive message).calls.controlValue = none := by
  have hrests (hrest : message.isPoll = false ∨ writer.pending = none) :
      Spent (writer.next message) ∧ (writer.receive message).calls.controlValue = none := by
    rw [AquaPureWriter.next, receive_of_rest _ _ hrest]
    refine ⟨?_, rfl⟩
    obtain ⟨hpending, hphase, -⟩ := writer.observeMenuPage_frame message.page
    exact h.imp hpending.trans hphase.trans
  cases hpoll : message.isPoll with
  | false => exact hrests (.inl hpoll)
  | true =>
    obtain hnone | hgoal := hgoal
    · exact hrests (.inr hnone)
    obtain hnone | hphase := h
    · exact hrests (.inr hnone)
    have hreturn : (writer.observeMenuPage message.page).phase = .returnHome :=
      (writer.observeMenuPage_frame message.page).2.1.trans hphase
    cases pollStep_receive hboost hgoal hpoll with
    | ends hpending hvalue => exact ⟨.inl hpending, hvalue⟩
    | dwells hpending hsame _ _ _ hcalls =>
      exact ⟨.inr (hsame.trans hreturn), by rw [hcalls]; rfl⟩
    | selects _ _ _ _ hbefore =>
      rw [hreturn] at hbefore
      cases hbefore
    | submits _ hbefore =>
      rw [hreturn] at hbefore
      cases hbefore
    | walks _ _ hstays _ _ hvalue => exact ⟨.inr (hstays hreturn), hvalue⟩

theorem hasGoal_run (hstart : start.pending = some goal) (messages : List Message) :
    HasGoal goal (start.run messages) :=
  foldl_of_step (fun _ message h => h.next hboost message) (.inr hstart)

theorem pollCount_run (hstart : start.pending = some goal) (hzero : start.pollCount = 0) :
    (start.run messages).pending = some goal →
      (start.run messages).pollCount = polls messages ∧ polls messages ≤ pollLimit + 1 := by
  induction messages using reverseRecOn with
  | nil =>
    intro _
    exact ⟨hzero, Nat.zero_le _⟩
  | append_singleton messages message ih =>
    intro hpending
    rw [run_concat] at hpending ⊢
    rw [polls_concat]
    have hrests (hrest : message.isPoll = false ∨ (start.run messages).pending = none) :
        (start.run messages).pending = some goal ∧
          ((start.run messages).next message).pollCount = (start.run messages).pollCount := by
      rw [next, receive_of_rest _ _ hrest] at hpending ⊢
      exact ⟨((start.run messages).pending_observeMenuPage _).symm.trans hpending,
        (start.run messages).pollCount_observeMenuPage _⟩
    cases hpoll : message.isPoll with
    | false =>
      obtain ⟨hbefore, hsame⟩ := hrests (.inl hpoll)
      obtain ⟨hcount, hlimit⟩ := ih hbefore
      exact ⟨hsame.trans hcount, hlimit⟩
    | true =>
      obtain hnone | hgoal := hasGoal_run hboost hstart messages
      · have hbefore := (hrests (.inr hnone)).1
        rw [hnone] at hbefore
        cases hbefore
      · obtain ⟨hcount, -⟩ := ih hgoal
        have hone (h : ((start.run messages).receive message).writer.pollCount =
            ((start.run messages).observeMenuPage message.page).pollCount + 1)
            (hlimit : ((start.run messages).observeMenuPage message.page).pollCount ≤
              pollLimit) :
            ((start.run messages).next message).pollCount = polls messages + 1 ∧
              polls messages + 1 ≤ pollLimit + 1 := by
          rw [pollCount_observeMenuPage, hcount] at h hlimit
          exact ⟨h, by omega⟩
        cases pollStep_receive hboost hgoal hpoll with
        | ends hnone =>
          rw [next, hnone] at hpending
          cases hpending
        | dwells _ _ _ hcount hlimit => exact hone hcount hlimit
        | selects _ _ _ _ _ _ _ hcount hlimit => exact hone hcount hlimit
        | submits _ _ _ _ _ hcount hlimit => exact hone hcount hlimit
        | walks _ _ _ hcount hlimit => exact hone hcount hlimit

end

structure RowPressed (start : AquaPureWriter) (goal : Goal) (before : List Message)
    (press : Message) (entry : ResolvedButton) : Prop where
  page : press.page.pageId = pageSetSwg
  button : press.page.buttonAt entry.index = some entry
  name : containsCaseInsensitive (trimWhitespace entry.name) (fieldLabel goal)
  calls : ((start.run before).receive press).calls =
    { command := some (pressCommandFor entry.index), press := some entry }

/-- No button is pressed by the messages. -/
def Quiet (writer : AquaPureWriter) (messages : List Message) : Prop :=
  EachStep next (fun writer message => (writer.receive message).calls.press = none) writer messages

theorem buttonAt_findButtonContaining {page : PageModel} {needle : Text} {index : UInt8}
    (h : page.findButtonContaining needle = some index) :
    ∃ entry, page.buttonAt index = some entry ∧ entry.index = index ∧
      containsCaseInsensitive (trimWhitespace entry.name) needle := by
  obtain ⟨info, hinfo, hname⟩ := (ByteTable.find?_eq_some_iff.mp h).1
  rw [PageButtonInfo.nameContains, Bool.and_eq_true] at hname
  exact ⟨⟨index, info.name⟩, by rw [PageModel.buttonAt, hinfo]; rfl, rfl, hname.2⟩

theorem rowPressed_of_submit (hboost : goal.isBoost = false) (hstart : start.pending = some goal)
    (hphase : start.phase = .navigate) :
    (start.run messages).pending = some goal → (start.run messages).phase = .submit →
      ∃ before press after entry, messages = before ++ press :: after ∧
        RowPressed start goal before press entry ∧
        Quiet ((start.run before).next press) after ∧
        polls after + (start.run messages).settleCount = settlePolls := by
  induction messages using reverseRecOn with
  | nil =>
    intro _ hsubmit
    have hnow : start.phase = .submit := hsubmit
    rw [hphase] at hnow
    cases hnow
  | append_singleton messages message ih =>
    intro hpending hsubmit
    rw [run_concat] at hpending hsubmit ⊢
    obtain ⟨hpendingSame, hphaseSame, hsettleSame⟩ :=
      (start.run messages).observeMenuPage_frame message.page
    -- a message that presses nothing goes behind the press
    have hextends (hgoal : (start.run messages).pending = some goal)
        (hbefore : (start.run messages).phase = .submit)
        (hquiet : ((start.run messages).receive message).calls.press = none)
        (hsettle : ((start.run messages).next message).settleCount +
          (if message.isPoll then 1 else 0) = (start.run messages).settleCount) :
        ∃ before press after entry, messages ++ [message] = before ++ press :: after ∧
          RowPressed start goal before press entry ∧
          Quiet ((start.run before).next press) after ∧
          polls after + ((start.run messages).next message).settleCount = settlePolls := by
      obtain ⟨before, press, after, entry, rfl, hrow, hafter, hpolls⟩ := ih hgoal hbefore
      refine ⟨before, press, after ++ [message], entry, by simp, hrow, ?_, ?_⟩
      · have hreached : after.foldl next ((start.run before).next press) =
            start.run (before ++ press :: after) := by
          rw [run, run, foldl_append]
          rfl
        refine eachStep_append.mpr ⟨hafter, ?_, trivial⟩
        rwa [hreached]
      · rw [polls_concat]
        omega
    cases hpoll : message.isPoll with
    | false =>
      have hrest := receive_of_rest (start.run messages) message (.inl hpoll)
      rw [next, hrest] at hpending hsubmit
      refine hextends (hpendingSame.symm.trans hpending) (hphaseSame.symm.trans hsubmit)
        (by rw [hrest]; rfl) ?_
      rwa [next, hrest, hpoll]
    | true =>
      obtain hnone | hgoal := hasGoal_run hboost hstart messages
      · have hrest := receive_of_rest (start.run messages) message (.inr hnone)
        rw [next, hrest] at hpending
        have hnow := hpendingSame.symm.trans hpending
        rw [hnone] at hnow
        cases hnow
      · cases pollStep_receive hboost hgoal hpoll with
        | ends hnone =>
          rw [next, hnone] at hpending
          cases hpending
        | dwells _ hsame hsettle _ _ hcalls =>
          refine hextends hgoal (hphaseSame.symm.trans (hsame.symm.trans hsubmit))
            (by rw [hcalls]; rfl) ?_
          rw [hpoll]
          exact hsettle.trans hsettleSame
        | selects index hpage hindex _ _ _ hsettle _ _ hcalls =>
          obtain ⟨entry, hentry, rfl, hname⟩ := buttonAt_findButtonContaining hindex
          refine ⟨messages, message, [], entry, rfl, ⟨hpage, hentry, hname, ?_⟩, trivial, ?_⟩
          · rw [hcalls, SinkCalls.pressButton, hentry]
          · rw [next, hsettle]
            rfl
        | submits _ _ _ _ hreturn =>
          rw [next, hreturn] at hsubmit
          cases hsubmit
        | walks _ hphase => exact absurd hsubmit hphase

theorem fst_foldl_watch (writer : AquaPureWriter) (last : Option ResolvedButton)
    (messages : List Message) : (messages.foldl watch (writer, last)).1 = writer.run messages := by
  induction messages generalizing writer last with
  | nil => rfl
  | cons message messages ih => exact ih (writer.next message) _

theorem snd_foldl_watch_of_quiet {last : Option ResolvedButton} (h : Quiet writer messages) :
    (messages.foldl watch (writer, last)).2 =
      if ∀ message ∈ messages, message.page.pageId = pageSetSwg then last else none := by
  induction messages generalizing writer last with
  | nil => simp
  | cons message messages ih =>
    obtain ⟨hpress, hrest⟩ := eachStep_cons.mp h
    rw [foldl_cons, watch, hpress, Option.none_or, ih hrest]
    by_cases hpage : message.page.pageId = pageSetSwg
    · simp [hpage]
    · simp [hpage]

theorem visitPress_of_rowPressed {before after : List Message} {press : Message}
    {entry : ResolvedButton} (hrow : RowPressed start goal before press entry)
    (hquiet : Quiet ((start.run before).next press) after) :
    start.visitPress (before ++ press :: after) =
      if ∀ message ∈ after, message.page.pageId = pageSetSwg then some entry else none := by
  have hbefore : before.foldl watch (start, none) =
      (start.run before, (before.foldl watch (start, none)).2) :=
    Prod.ext (fst_foldl_watch start none before) rfl
  rw [visitPress, foldl_append, foldl_cons, hbefore, watch, if_pos hrow.page, hrow.calls]
  exact snd_foldl_watch_of_quiet hquiet

theorem controlValue_of_spent (hboost : goal.isBoost = false) (hgoal : HasGoal goal start)
    (hspent : Spent start) (later : List Message) (message : Message) :
    ((start.run later).receive message).calls.controlValue = none := by
  have hrun : HasGoal goal (start.run later) ∧ Spent (start.run later) :=
    foldl_of_step (Q := fun writer : AquaPureWriter => HasGoal goal writer ∧ Spent writer)
      (fun _ message h => ⟨h.1.next hboost message, (h.2.receive hboost h.1 message).1⟩)
      ⟨hgoal, hspent⟩
  exact (hrun.2.receive hboost hrun.1 message).2

structure Submission (start : AquaPureWriter) (goal : Goal) (messages : List Message)
    (message : Message) : Prop where
  /-- The value is armed and submitted in one. -/
  calls : ((start.run messages).receive message).calls =
    { command := some cmdSubmitValue
      controlValue := some ('1' :: decimal goal.percentage.toNat) }
  page : message.page.pageId = pageSetSwg
  /-- The last button was the row of the body, and four polls were let pass since.  It was pressed
  on this visit to the page unless the page was another one in between. -/
  row : ∃ before press after entry, messages = before ++ press :: after ∧
    RowPressed start goal before press entry ∧ Quiet ((start.run before).next press) after ∧
    polls after = settlePolls ∧
    start.visitPress messages =
      if ∀ message ∈ after, message.page.pageId = pageSetSwg then some entry else none
  once : ∀ later message',
    ((start.run (messages ++ message :: later)).receive message').calls.controlValue = none

theorem submission_of_controlValue (hboost : goal.isBoost = false)
    (hstart : start.pending = some goal) (hphase : start.phase = .navigate)
    (harmed : ((start.run messages).receive message).calls.controlValue ≠ none) :
    Submission start goal messages message := by
  have hpoll : message.isPoll := by
    by_contra hnot
    rw [receive_of_rest _ _ (.inl (Bool.not_eq_true _ ▸ hnot))] at harmed
    exact harmed rfl
  obtain hnone | hgoal := hasGoal_run hboost hstart messages
  · rw [receive_of_rest _ _ (.inr hnone)] at harmed
    exact absurd rfl harmed
  obtain ⟨-, hphaseSame, hsettleSame⟩ :=
    (start.run messages).observeMenuPage_frame message.page
  cases pollStep_receive hboost hgoal hpoll with
  | ends _ hvalue => exact absurd hvalue harmed
  | dwells _ _ _ _ _ hcalls => exact absurd (by rw [hcalls]; rfl) harmed
  | selects _ _ _ _ _ _ _ _ _ hcalls => exact absurd (by rw [hcalls]; rfl) harmed
  | walks _ _ _ _ _ hvalue => exact absurd hvalue harmed
  | submits hpage hbefore hsettled hpending hreturn _ _ hcalls =>
    obtain ⟨before, press, after, entry, rfl, hrow, hquiet, hpolls⟩ :=
      rowPressed_of_submit hboost hstart hphase hgoal (hphaseSame.symm.trans hbefore)
    refine ⟨hcalls, hpage, ⟨before, press, after, entry, rfl, hrow, hquiet, ?_,
      visitPress_of_rowPressed hrow hquiet⟩, fun later message' => ?_⟩
    · rwa [← hsettleSame, hsettled] at hpolls
    · have hreached : start.run (before ++ press :: after ++ message :: later) =
          ((start.run (before ++ press :: after)).next message).run later := by
        rw [run, foldl_append]
        rfl
      rw [hreached]
      exact controlValue_of_spent hboost (.inr hpending) (.inr hreturn) later message'

theorem pending_run_of_polls (hboost : goal.isBoost = false) (hstart : start.pending = some goal)
    (hzero : start.pollCount = 0) (hpolls : pollLimit + 2 ≤ polls messages) :
    (start.run messages).pending = none := by
  obtain hnone | hgoal := hasGoal_run hboost hstart messages
  · exact hnone
  · have hlimit := (pollCount_run hboost hstart hzero hgoal).2
    omega

end

theorem start_of_accepted {percentage : UInt8} {body : BodyOfWaterIds}
    {emulationActive channelBusy : Bool}
    (haccepted : (writer.queuePercentage percentage body emulationActive channelBusy).2 =
      .accepted) :
    let start := (writer.queuePercentage percentage body emulationActive channelBusy).1
    start.pending = some { percentage := percentage, body := body } ∧ start.phase = .navigate ∧
      start.pollCount = 0 := by
  unfold queuePercentage arm at haccepted ⊢
  split at haccepted
  next => cases haccepted
  next hpercentage =>
    rw [if_neg hpercentage]
    split at haccepted
    next => cases haccepted
    next hbody =>
      rw [if_neg hbody]
      split at haccepted
      next => cases haccepted
      next hactive =>
        rw [if_neg hactive]
        split at haccepted
        next => cases haccepted
        next hbusy =>
          rw [if_neg hbusy]
          split at haccepted
          next => cases haccepted
          next hroute =>
            rw [if_neg hroute]
            exact ⟨rfl, rfl, rfl⟩

/-- **One write of the output.**  After a request that is accepted, and whatever messages follow, a
value is armed once at most and submitted with it; it is the prefix and the percentage, the page is
the chlorinator's, and the row of the body was the last button, pressed there with four polls let
pass since.  The goal is over by the poll two above the limit. -/
theorem percentage_written (writer : AquaPureWriter) (percentage : UInt8) (body : BodyOfWaterIds)
    (emulationActive channelBusy : Bool)
    (haccepted : (writer.queuePercentage percentage body emulationActive channelBusy).2 =
      .accepted) :
    let start := (writer.queuePercentage percentage body emulationActive channelBusy).1
    (∀ messages message, ((start.run messages).receive message).calls.controlValue ≠ none →
      Submission start { percentage := percentage, body := body } messages message) ∧
    ∀ messages, pollLimit + 2 ≤ polls messages → (start.run messages).pending = none := by
  obtain ⟨hpending, hphase, hzero⟩ := start_of_accepted haccepted
  exact ⟨fun _ _ harmed => submission_of_controlValue rfl hpending hphase harmed,
    fun _ hpolls => pending_run_of_polls rfl hpending hzero hpolls⟩

/-! ### Thirty percent for the pool -/

def chlorinatorPage : PageModel where
  pageId := pageSetSwg
  buttons := ByteTable.empty.insert 0 ⟨"Pool 40%".toList, .unknown⟩

/-- The chlorinator's page before its rows are there. -/
def blankPage : PageModel where pageId := pageSetSwg

def homePage : PageModel where pageId := pageHome

def pollOf (page : PageModel) : Message := ⟨page, true⟩

def thirtyPercent : AquaPureWriter :=
  (queuePercentage {} 30 .pool true false).1

theorem percentage_written_thirty :
    Submission thirtyPercent { percentage := 30 } (replicate 6 (pollOf chlorinatorPage))
      (pollOf chlorinatorPage) :=
  (percentage_written {} 30 .pool true false (by decide)).1
    (replicate 6 (pollOf chlorinatorPage)) (pollOf chlorinatorPage) (by decide +kernel)

/-- The page is left while the polls are let pass, and entered again: the value is submitted, and
no button was pressed on this visit.  And a page whose rows do not come keeps the goal for two
hundred and one polls. -/
theorem not_pressed_on_visit :
    (((thirtyPercent.run ([pollOf chlorinatorPage, pollOf chlorinatorPage] ++
        replicate 4 (pollOf homePage))).receive (pollOf chlorinatorPage)).calls.controlValue =
          some "130".toList ∧
      thirtyPercent.visitPress ([pollOf chlorinatorPage, pollOf chlorinatorPage] ++
        replicate 4 (pollOf homePage)) = none) ∧
    (thirtyPercent.run (replicate 201 (pollOf blankPage))).pending ≠ none := by
  refine ⟨⟨by decide +kernel, by decide +kernel⟩, by decide +kernel⟩

end AquaPureWriter

end AqualinkAutomate.Iaq
