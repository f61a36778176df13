import Aqualink.Navigation.Arrival
import Aqualink.Navigation.ItemSelection
import Aqualink.OneTouch.MenuGoals

/-!
# The boost on the keypad

The control of the boost only toggles: Select on the page of the boost starts one, and Select on
its item Stop ends the one that runs.  So the goal goes to the page first and looks whether a
boost runs.  `BoostWatch` follows it, with the key that waits to leave and the boost itself.

On the page a goal that is done has pressed the control exactly if the boost was not as it was
asked for, and never elsewhere (`Promises`).  This rests on the page: that it shows the boost as
it is when the goal looks, and that it stays while the Select waits (`Honest`).
-/

namespace AqualinkAutomate.OneTouch

open General Navigation

def LeavesBoostByBack (model : MenuModel) : Prop :=
  ∀ page, model.getPage .boost = some page → page.supportsKey .back = true

structure BoostWatch extends GoalRun BoostGoal where
  boost : Bool
  /-- The key that waits presses the control of the boost. -/
  pressWaits : Bool := false
  outcome : Option GoalStatus := none

namespace BoostWatch

def OnBoostPage (model : MenuModel) (watch : BoostWatch) (screen : ShownScreen) : Prop :=
  (watch.context screen).navigator.pageOn model screen.page = .boost

instance (model : MenuModel) (watch : BoostWatch) (screen : ShownScreen) :
    Decidable (watch.OnBoostPage model screen) := inferInstanceAs (Decidable (_ = _))

def pressesControl (model : MenuModel) (watch : BoostWatch) (screen : ShownScreen)
    (result : GoalStep BoostGoal) : Bool :=
  decide (result.context.emittedKey = some .select ∧ watch.OnBoostPage model screen ∧
    (BoostGoal.boostIsRunning screen.page = true →
      screen.page.findLineByLabel "Stop".toList = some result.context.navigator.cursorLine))

def pressAfter (model : MenuModel) (watch : BoostWatch) (screen : ShownScreen)
    (result : GoalStep BoostGoal) : Bool :=
  if result.context.emittedKey.isSome then watch.pressesControl model screen result
  else watch.pressWaits

/-- With a status message the key leaves, and the control toggles. -/
def leave (watch : BoostWatch) (atStatus press : Bool) : BoostWatch :=
  { watch with boost := watch.boost ^^ (atStatus && press), pressWaits := !atStatus && press }

def after (model : MenuModel) (watch : BoostWatch) (screen : ShownScreen)
    (result : GoalStep BoostGoal) : BoostWatch :=
  { watch.leave screen.atStatus (watch.pressAfter model screen result) with
    toGoalRun := watch.toGoalRun.settle screen result
    outcome := if result.status = .running then none else some result.status }

def attempt (model : MenuModel) (fuel : ℕ) (watch : BoostWatch) (screen : ShownScreen) :
    Option BoostWatch :=
  match watch.goal with
  | none =>
    some { watch.leave screen.atStatus watch.pressWaits with
      waiting := if screen.atStatus then none else watch.waiting }
  | some goal =>
    (goal.step model fuel (watch.context screen)).map (watch.after model screen)

/-- The page is as it has to be: it shows the boost as it is when the goal looks, and no
password is asked for while the Select waits. -/
structure Honest (model : MenuModel) (watch : BoostWatch) (screen : ShownScreen) : Prop where
  read : (∃ goal ∈ watch.goal, goal.phase = .navigating) → watch.OnBoostPage model screen →
    BoostGoal.boostIsRunning screen.page = watch.boost
  undisturbed : watch.pressWaits →
    (watch.context screen).navigator.pageOn model screen.page ≠ .enterPassword

instance (model : MenuModel) (watch : BoostWatch) (screen : ShownScreen) :
    Decidable (watch.Honest model screen) :=
  decidable_of_iff
    ((watch.goal.any (fun goal => decide (goal.phase = .navigating)) = true →
        watch.OnBoostPage model screen → BoostGoal.boostIsRunning screen.page = watch.boost) ∧
      (watch.pressWaits = true →
        (watch.context screen).navigator.pageOn model screen.page ≠ .enterPassword))
    ⟨fun h => ⟨fun ⟨goal, hgoal, hphase⟩ =>
        h.1 ((Option.any_eq_true _ _).mpr ⟨goal, hgoal, decide_eq_true hphase⟩), h.2⟩,
      fun h => ⟨fun hany => h.read (((Option.any_eq_true _ _).mp hany).imp fun _ hgoal =>
        ⟨hgoal.1, of_decide_eq_true hgoal.2⟩), h.undisturbed⟩⟩

def settled (watch : BoostWatch) : Bool := watch.boost ^^ watch.pressWaits

@[simp] theorem settled_leave (watch : BoostWatch) (atStatus press : Bool) :
    (watch.leave atStatus press).settled = (watch.boost ^^ press) := by
  cases atStatus <;> simp [leave, settled]

end BoostWatch

/-! ## On the way to the page -/

structure BoundForBoost (item : Bool) (nav : Navigator) : Prop where
  heading : nav.Heading .boost
  target : nav.targetPage = .boost
  toItem : nav.navigatingToItem = item
  label : item → nav.itemLabel = "Stop".toList
  away : nav.state ≠ .atDestination
  synced : nav.state ≠ .syncing

namespace BoundForBoost

variable {model : MenuModel} {nav nav' : Navigator} {item : Bool} {content : ScreenDataPage}
  {line : UInt8} {answer : Answer}

theorem of_kept (h : BoundForBoost item nav) (hkept : nav.Kept nav') : BoundForBoost item nav' where
  heading := h.heading.of_kept hkept
  target := hkept.target.trans h.target
  toItem := hkept.toItem.trans h.toItem
  label hitem := hkept.label.trans (h.label hitem)
  away := hkept.away h.away
  synced := hkept.synced h.synced

theorem onStatusMessageReceived (h : BoundForBoost item nav) :
    BoundForBoost item nav.onStatusMessageReceived := by
  unfold Navigator.onStatusMessageReceived
  split
  · exact ⟨h.heading, h.target, h.toItem, h.label, h.away, h.synced⟩
  · exact h

theorem navigateTo (nav : Navigator) : BoundForBoost false (nav.navigateTo .boost) :=
  ⟨.inl ⟨rfl, rfl⟩, rfl, rfl, nofun, NavigatorState.noConfusion, NavigatorState.noConfusion⟩

theorem navigateToStop (nav : Navigator) :
    BoundForBoost true (nav.navigateToItem .boost 0 "Stop".toList .boost) :=
  ⟨.inr ⟨rfl, rfl⟩, rfl, rfl, fun _ => rfl, NavigatorState.noConfusion, NavigatorState.noConfusion⟩

/-- What the navigator makes of a screen: it is still on its way, and then it presses no Select
on the page; it selects Stop there; or it has arrived there. -/
inductive Progress (page : PageId) (content : ScreenDataPage) (item : Bool) (answer : Answer) :
    Prop where
  | underway (h : BoundForBoost item answer.1) (hkey : page = .boost → answer.2 ≠ some .select)
  | selects (h : BoundForBoost false answer.1) (hitem : item = true) (hpage : page = .boost)
      (hkey : answer.2 = some .select)
      (hrow : content.findLineByLabel "Stop".toList = some answer.1.cursorLine)
      (hawaits : answer.1.AwaitsStatus) (htwo : answer.1.pendingStatusMessages = 2)
  | arrives (hitem : item = false) (hpage : page = .boost)
      (hstate : answer.1.state = .atDestination) (hkey : answer.2 = none)

theorem progress (hback : LeavesBoostByBack model) (h : BoundForBoost item nav)
    (hanswers : Answers model nav (.pageUpdate content line) answer) :
    Progress (nav.pageOn model content) content item answer := by
  have hshown : BoundForBoost item (nav.shown model content line) :=
    ⟨h.heading, h.target, h.toItem, h.label, h.away, h.synced⟩
  have hpage : (nav.shown model content line).currentPage = nav.pageOn model content := rfl
  cases Navigator.outcome_of_pageUpdate h.synced hanswers with
  | answers hkept hselect =>
    refine .underway (hshown.of_kept hkept) fun hboost hkey => ?_
    rcases hselect hkey with hother | ⟨page, hgot, hnoBack⟩
    · exact hother ((hpage.trans hboost).trans hshown.target.symm)
    · rw [hpage, hboost] at hgot
      rw [hback page hgot] at hnoBack
      cases hnoBack
  | @selects reached _ hkept hthere hitem hrow hselect =>
    cases hselect
    have hitem : item := hshown.toItem.symm.trans hitem
    have hlabel := hshown.label hitem
    have hstop := hrow (by rw [hlabel]; decide)
    have hbound := hshown.of_kept hkept
    have htwo : (0 : UInt32) < 2 := by decide
    have hbehind : reached.selectTarget = .boost := by
      rcases hbound.heading with ⟨hnone, -⟩ | ⟨-, hselect⟩
      · rw [hbound.toItem, hitem] at hnone
        cases hnone
      · exact hselect
    refine .selects ⟨.inl ⟨rfl, hbehind⟩, hbehind, rfl, nofun, NavigatorState.noConfusion,
      NavigatorState.noConfusion⟩ hitem (hthere.trans hshown.target) rfl ?_
      ⟨htwo, .inl rfl⟩ rfl
    rw [hlabel] at hstop
    exact hstop.trans (congrArg some hkept.cursor.symm)
  | arrives hkept hthere hnone =>
    refine .arrives ?_ (hthere.trans hshown.target) rfl rfl
    rcases hshown.heading with ⟨hitem, -⟩ | ⟨hitem, hselect⟩
    · exact hshown.toItem.symm.trans hitem
    · rw [hnone hitem] at hselect
      cases hselect

end BoundForBoost

/-! ## Pressing the control once -/

theorem BoostGoal.act_cases (goal : BoostGoal) (ctx : KeypadContext) :
    (goal.start = boostIsRunning ctx.page ∧ goal.act ctx = ⟨goal, ctx, .done⟩) ∨
      (goal.start ∧ boostIsRunning ctx.page = false ∧
        goal.act ctx = ⟨{ goal with phase := .settle }, ctx.emit .select, .running⟩) ∨
      (goal.start = false ∧ boostIsRunning ctx.page ∧
        goal.act ctx = ⟨{ goal with phase := .acting },
          { ctx with navigator := ctx.navigator.navigateToItem .boost 0 "Stop".toList .boost },
          .running⟩) := by
  unfold act
  cases goal.start <;> cases boostIsRunning ctx.page <;> simp

namespace BoostWatch

variable {model : MenuModel} {fuel : ℕ} {watch watch' : BoostWatch} {screen : ShownScreen}
  {goal : BoostGoal} {result : GoalStep BoostGoal} {start : Bool}

/-- How far a goal has come that stops the boost. -/
inductive Stopping (watch : BoostWatch) : Prop where
  | seeking (hbound : BoundForBoost true watch.navigator) (hwaits : watch.pressWaits = false)
      (hboost : watch.boost = true)
  | selected (hbound : BoundForBoost false watch.navigator) (hsettled : watch.settled = false)
      (hawaits : watch.pressWaits = true →
        watch.navigator.AwaitsStatus ∧ watch.navigator.pendingStatusMessages = 2)

def InPhase (watch : BoostWatch) (goal : BoostGoal) : Prop :=
  match goal.phase with
  | .navigating =>
    watch.pressWaits = false ∧ (goal.started = true → BoundForBoost false watch.navigator)
  | .acting => goal.start = false ∧ watch.Stopping
  | .settle => watch.settled = goal.start

def Promises (start : Bool) (watch : BoostWatch) : Prop :=
  match watch.goal with
  | none => watch.outcome = some .done → watch.settled = start
  | some goal => watch.outcome = none ∧ goal.start = start ∧ watch.InPhase goal

/-! ### A step -/

theorem settled_after :
    (watch.after model screen result).settled =
      (watch.boost ^^ watch.pressAfter model screen result) :=
  settled_leave watch screen.atStatus (watch.pressAfter model screen result)

theorem goal_after (hrunning : result.status = .running) :
    (watch.after model screen result).goal = some result.goal := if_pos hrunning

theorem navigator_after (hrunning : result.status = .running) :
    (watch.after model screen result).navigator = result.context.navigator := if_pos hrunning

theorem promises_of_none (hgoal : watch.goal = none) :
    watch.Promises start ↔ (watch.outcome = some .done → watch.settled = start) := by
  unfold Promises
  rw [hgoal]

theorem promises_running (hrunning : result.status = .running) (hstart : result.goal.start = start)
    (hphase : (watch.after model screen result).InPhase result.goal) :
    (watch.after model screen result).Promises start := by
  have houtcome : (watch.after model screen result).outcome = none := if_pos hrunning
  unfold Promises
  rw [goal_after hrunning]
  exact ⟨houtcome, hstart, hphase⟩

theorem promises_ended (hended : result.status ≠ .running)
    (hdone : result.status = .done → (watch.after model screen result).settled = start) :
    (watch.after model screen result).Promises start := by
  have houtcome : (watch.after model screen result).outcome = some result.status := if_neg hended
  refine (promises_of_none (if_neg hended)).mpr fun h => hdone ?_
  exact Option.some_inj.mp (houtcome.symm.trans h)

theorem promises_failed (hfailed : result.status = .failed) :
    (watch.after model screen result).Promises start :=
  promises_ended (by rw [hfailed]; decide) fun hdone => by rw [hfailed] at hdone; cases hdone

theorem pressAfter_of_none (h : result.context.emittedKey = none) :
    watch.pressAfter model screen result = watch.pressWaits := by
  rw [pressAfter, h]
  rfl

theorem pressAfter_eq_false (hwaits : watch.pressWaits = false)
    (hkey : watch.OnBoostPage model screen → result.context.emittedKey ≠ some .select) :
    watch.pressAfter model screen result = false := by
  unfold pressAfter
  split
  · exact decide_eq_false fun h => hkey h.2.1 h.1
  · exact hwaits

variable {ctx ctx' : KeypadContext}

/-- What a goal on its way makes of a screen. -/
theorem follow_cases (hback : LeavesBoostByBack model) {item : Bool}
    (hbound : BoundForBoost item ctx.navigator)
    (hfollow : ctx.followNavigator model fuel = some ctx') (hnone : ctx.emittedKey = none) :
    ctx'.page = ctx.page ∧ BoundForBoost.Progress (ctx.navigator.pageOn model ctx.page) ctx.page
      item (ctx'.navigator, ctx'.emittedKey) := by
  obtain ⟨answer, hrespond, rfl⟩ := Option.map_eq_some_iff.mp hfollow
  have hprogress := hbound.progress hback (Answers.of_respond hrespond)
  refine ⟨rfl, ?_⟩
  have hanswer : (answer.1, answer.2.or ctx.emittedKey) = answer := by
    rw [hnone, Option.or_none]
  show BoundForBoost.Progress _ _ _ (answer.1, answer.2.or ctx.emittedKey)
  rwa [hanswer]

theorem bound_context {item : Bool} (h : BoundForBoost item watch.navigator)
    (screen : ShownScreen) : BoundForBoost item (watch.context screen).navigator := by
  unfold GoalRun.context
  split
  · exact h.onStatusMessageReceived
  · exact h

theorem after_of_not_pressed (h : watch.pressAfter model screen result = false) :
    (watch.after model screen result).boost = watch.boost ∧
      (watch.after model screen result).pressWaits = false := by
  have hboost : (watch.after model screen result).boost =
      (watch.boost ^^ (screen.atStatus && watch.pressAfter model screen result)) := rfl
  have hwaits : (watch.after model screen result).pressWaits =
      (!screen.atStatus && watch.pressAfter model screen result) := rfl
  rw [hboost, hwaits, h, Bool.and_false, Bool.and_false, Bool.xor_false]
  exact ⟨rfl, rfl⟩

theorem promises_act (honest : watch.Honest model screen) (hgoal : goal ∈ watch.goal)
    (hphase : goal.phase = .navigating) (hwaits : watch.pressWaits = false)
    (hthere : watch.OnBoostPage model screen) {acting : BoostGoal}
    (hacting : acting.start = start) (hpage : ctx.page = screen.page)
    (hkey : ctx.emittedKey = none) :
    (watch.after model screen (acting.act ctx)).Promises start := by
  have hread : BoostGoal.boostIsRunning ctx.page = watch.boost := by
    rw [hpage]
    exact honest.read ⟨goal, hgoal, hphase⟩ hthere
  rcases acting.act_cases ctx with ⟨hsame, hact⟩ | ⟨hstarts, hidle, hact⟩ | ⟨hstops, hruns, hact⟩
  · -- the boost is as it was asked for
    rw [hact]
    have hpress : watch.pressAfter model screen ⟨acting, ctx, .done⟩ = false :=
      (pressAfter_of_none hkey).trans hwaits
    refine promises_ended GoalStatus.noConfusion fun _ => ?_
    rw [settled_after, hpress, Bool.xor_false, ← hread, ← hsame, hacting]
  · -- Select starts it
    rw [hact]
    have hpress : watch.pressAfter model screen
        ⟨{ acting with phase := .settle }, ctx.emit .select, .running⟩ := by
      refine decide_eq_true ⟨rfl, hthere, fun hrunning => ?_⟩
      rw [← hpage, hidle] at hrunning
      cases hrunning
    refine promises_running rfl hacting ?_
    have hsettled : (watch.after model screen
        ⟨{ acting with phase := .settle }, ctx.emit .select, .running⟩).settled = acting.start := by
      rw [settled_after, hpress, ← hread, hidle, hstarts]
      rfl
    exact hsettled
  · -- Stop is to be selected
    rw [hact]
    have hpress : watch.pressAfter model screen
        ⟨{ acting with phase := .acting },
          { ctx with navigator := ctx.navigator.navigateToItem .boost 0 "Stop".toList .boost },
          .running⟩ = false := (pressAfter_of_none hkey).trans hwaits
    obtain ⟨hboost, hnone⟩ := after_of_not_pressed hpress
    refine promises_running rfl hacting ⟨hstops, .seeking ?_ hnone ?_⟩
    · rw [navigator_after rfl]
      exact .navigateToStop ctx.navigator
    · rw [hboost, ← hread, hruns]

theorem stepNavigating_cases (hbound : goal.started → BoundForBoost false ctx.navigator)
    (h : goal.stepNavigating model fuel ctx = some result) :
    ∃ (going : BoostGoal) (bound ctx' : KeypadContext),
      (going.start = goal.start ∧ going.phase = goal.phase) ∧
      (bound.page = ctx.page ∧ bound.emittedKey = ctx.emittedKey ∧
        bound.navigator.currentPage = ctx.navigator.currentPage) ∧
      BoundForBoost false bound.navigator ∧ bound.followNavigator model fuel = some ctx' ∧
      result = if ctx'.navigator.isComplete then
          if ctx'.navigator.isSuccess then going.act ctx' else ⟨going, ctx', .failed⟩
        else ⟨going, ctx', .running⟩ := by
  unfold BoostGoal.stepNavigating at h
  split at h
  next going bound hbegin =>
    obtain ⟨ctx', hfollow, rfl⟩ := Option.map_eq_some_iff.mp h
    split at hbegin
    · next hstarted =>
        cases hbegin
        exact ⟨goal, ctx, ctx', ⟨rfl, rfl⟩, ⟨rfl, rfl, rfl⟩, hbound hstarted, hfollow, rfl⟩
    · cases hbegin
      exact ⟨{ goal with started := true, stepCount := 0 },
        { ctx with navigator := ctx.navigator.navigateTo .boost }, ctx', ⟨rfl, rfl⟩,
        ⟨rfl, rfl, rfl⟩, .navigateTo ctx.navigator, hfollow, rfl⟩

variable {counted : BoostGoal}

theorem promises_navigating (hback : LeavesBoostByBack model) (honest : watch.Honest model screen)
    (hgoal : goal ∈ watch.goal) (hnavigating : goal.phase = .navigating)
    (hphase : counted.phase = .navigating) (hstart : counted.start = start)
    (hwaits : watch.pressWaits = false)
    (hbound : counted.started → BoundForBoost false watch.navigator)
    (h : counted.stepNavigating model fuel (watch.context screen) = some result) :
    (watch.after model screen result).Promises start := by
  obtain ⟨going, bound, ctx', ⟨hgoing, hgoes⟩, ⟨hpage, hnone, hcurrent⟩, hbound, hfollow, rfl⟩ :=
    stepNavigating_cases (fun hstarted => bound_context (hbound hstarted) screen) h
  have hon : bound.navigator.pageOn model bound.page =
      (watch.context screen).navigator.pageOn model screen.page := by
    unfold Navigator.pageOn Navigator.receivePage
    rw [hpage, hcurrent]
    rfl
  obtain ⟨hpage', hprogress⟩ := follow_cases hback hbound hfollow hnone
  rw [hon] at hprogress
  cases hprogress with
  | underway hstill hkey =>
    have hpress : ∀ status, watch.pressAfter model screen ⟨going, ctx', status⟩ = false :=
      fun status => pressAfter_eq_false hwaits hkey
    have hsuccess : ctx'.navigator.isSuccess = false := decide_eq_false hstill.away
    rw [hsuccess]
    split
    · exact promises_failed rfl
    · obtain ⟨-, hsame⟩ := after_of_not_pressed (hpress .running)
      refine promises_running rfl (hgoing.trans hstart) ?_
      unfold InPhase
      rw [hgoes, hphase]
      refine ⟨hsame, fun _ => ?_⟩
      rwa [navigator_after rfl]
  | selects _ hitem => cases hitem
  | arrives _ hboost hstate hkey =>
    have hsuccess : ctx'.navigator.isSuccess := decide_eq_true hstate
    have hcomplete : ctx'.navigator.isComplete := by
      rw [Navigator.isComplete, decide_eq_true hstate, Bool.true_or]
    rw [hsuccess, hcomplete]
    exact promises_act honest hgoal hnavigating hwaits hboost (hgoing.trans hstart)
      (hpage'.trans hpage) hkey

theorem awaits_context (h : watch.navigator.AwaitsStatus)
    (htwo : watch.navigator.pendingStatusMessages = 2) (screen : ShownScreen) :
    (watch.context screen).navigator.AwaitsStatus ∧
      (screen.atStatus = false → (watch.context screen).navigator.pendingStatusMessages = 2) := by
  unfold GoalRun.context
  dsimp only
  split
  · next hstatus =>
      refine ⟨?_, fun hno => absurd (hno.symm.trans hstatus) Bool.false_ne_true⟩
      unfold Navigator.onStatusMessageReceived
      rw [htwo, if_pos (by decide)]
      exact ⟨show (0 : UInt32) < 2 - 1 by decide, h.2⟩
  · exact ⟨h, fun _ => htwo⟩

theorem answersWaiting_of_follow (h : ctx.navigator.AwaitsStatus)
    (hfollow : ctx.followNavigator model fuel = some ctx') (hnone : ctx.emittedKey = none) :
    Navigator.AnswersWaiting ctx.navigator.pendingStatusMessages
      (ctx.navigator.pageOn model ctx.page) (ctx'.navigator, ctx'.emittedKey) := by
  obtain ⟨answer, hrespond, rfl⟩ := Option.map_eq_some_iff.mp hfollow
  obtain ⟨hstill, hquiet⟩ := h.answersWaiting (Answers.of_respond hrespond)
  refine ⟨hstill, fun hpage => ?_⟩
  show answer.2.or ctx.emittedKey = none
  rw [hquiet hpage, hnone]
  rfl

theorem promises_of_stopping (hphase : counted.phase = .acting) (hstart : counted.start = start)
    (hstops : counted.start = false) (haway : ctx.navigator.state ≠ .atDestination)
    (hstopping : ctx.navigator.state ≠ .failed →
      (watch.after model screen ⟨counted, ctx, .running⟩).Stopping) :
    (watch.after model screen (if ctx.navigator.isComplete then
        ⟨counted, ctx, if ctx.navigator.isSuccess then .done else .failed⟩
      else ⟨counted, ctx, .running⟩)).Promises start := by
  have hsuccess : ctx.navigator.isSuccess = false := decide_eq_false haway
  have hcomplete : ctx.navigator.isComplete = decide (ctx.navigator.state = .failed) := by
    rw [Navigator.isComplete, decide_eq_false haway, Bool.false_or]
  rw [hsuccess, hcomplete]
  by_cases hfailed : ctx.navigator.state = .failed
  · rw [if_pos (decide_eq_true hfailed)]
    exact promises_failed rfl
  · rw [if_neg (by simpa using hfailed)]
    refine promises_running rfl hstart ?_
    unfold InPhase
    rw [hphase]
    exact ⟨hstops, hstopping hfailed⟩

/-- On the way to Stop. -/
theorem promises_seeking (hback : LeavesBoostByBack model) (hphase : counted.phase = .acting)
    (hstart : counted.start = start) (hstops : counted.start = false)
    (hbound : BoundForBoost true watch.navigator) (hwaits : watch.pressWaits = false)
    (hboost : watch.boost)
    (h : counted.stepActing model fuel (watch.context screen) = some result) :
    (watch.after model screen result).Promises start := by
  obtain ⟨ctx, hfollow, rfl⟩ := Option.map_eq_some_iff.mp h
  obtain ⟨-, hprogress⟩ := follow_cases hback (bound_context hbound screen) hfollow rfl
  cases hprogress with
  | underway hstill hkey =>
    refine promises_of_stopping hphase hstart hstops hstill.away fun _ => ?_
    have hpress : watch.pressAfter model screen ⟨counted, ctx, .running⟩ = false :=
      pressAfter_eq_false hwaits hkey
    obtain ⟨hsame, hnone⟩ := after_of_not_pressed hpress
    refine .seeking ?_ hnone (hsame.trans hboost)
    rwa [navigator_after rfl]
  | selects hgoes _ hpage hkey hrow hawaits htwo =>
    refine promises_of_stopping hphase hstart hstops hgoes.away fun _ => ?_
    have hpress : watch.pressAfter model screen ⟨counted, ctx, .running⟩ := by
      have hemits : ctx.emittedKey.isSome := by
        rw [show ctx.emittedKey = some .select from hkey]
        rfl
      rw [pressAfter, if_pos hemits]
      exact decide_eq_true ⟨hkey, hpage, fun _ => hrow⟩
    refine .selected ?_ ?_ fun _ => ?_
    · rwa [navigator_after rfl]
    · rw [settled_after, hpress, hboost]
      rfl
    · rw [navigator_after rfl]
      exact ⟨hawaits, htwo⟩
  | arrives hitem => cases hitem

theorem promises_selected (hback : LeavesBoostByBack model) (honest : watch.Honest model screen)
    (hphase : counted.phase = .acting) (hstart : counted.start = start)
    (hstops : counted.start = false) (hbound : BoundForBoost false watch.navigator)
    (hsettled : watch.settled = false)
    (hawaits : watch.pressWaits → watch.navigator.AwaitsStatus ∧
      watch.navigator.pendingStatusMessages = 2)
    (h : counted.stepActing model fuel (watch.context screen) = some result) :
    (watch.after model screen result).Promises start := by
  obtain ⟨ctx, hfollow, rfl⟩ := Option.map_eq_some_iff.mp h
  obtain ⟨-, hprogress⟩ := follow_cases hback (bound_context hbound screen) hfollow rfl
  cases hprogress with
  | underway hstill hkey =>
    -- the Select that waits is not displaced
    have hwaiting : watch.pressWaits → ctx.emittedKey = none ∧
        (ctx.navigator.state ≠ .failed → screen.atStatus = false →
          ctx.navigator.AwaitsStatus ∧ ctx.navigator.pendingStatusMessages = 2) := by
      intro hwaits
      obtain ⟨hcontext, htwo⟩ := awaits_context (hawaits hwaits).1 (hawaits hwaits).2 screen
      obtain ⟨hstill, hquiet⟩ := answersWaiting_of_follow hcontext hfollow rfl
      refine ⟨hquiet (honest.undisturbed hwaits), fun hgoes hbefore => ?_⟩
      rcases hstill with hfailed | ⟨hawaiting, hpending⟩
      · exact absurd hfailed hgoes
      · rw [htwo hbefore, or_self] at hpending
        exact ⟨hawaiting, hpending⟩
    have hpress : watch.pressAfter model screen ⟨counted, ctx, .running⟩ = watch.pressWaits := by
      by_cases hwaits : watch.pressWaits
      · exact pressAfter_of_none (hwaiting hwaits).1
      · rw [Bool.not_eq_true] at hwaits
        rw [hwaits]
        exact pressAfter_eq_false hwaits hkey
    refine promises_of_stopping hphase hstart hstops hstill.away fun hgoes => ?_
    refine .selected ?_ ?_ fun hstays => ?_
    · rwa [navigator_after rfl]
    · rwa [settled_after, hpress]
    · have hboth : (!screen.atStatus && watch.pressAfter model screen ⟨counted, ctx, .running⟩) =
          true := hstays
      rw [hpress, Bool.and_eq_true, Bool.not_eq_true'] at hboth
      rw [navigator_after rfl]
      exact (hwaiting hboth.2).2 hgoes hboth.1
  | selects _ hitem => cases hitem
  | arrives _ _ hstate hkey =>
    have hsuccess : ctx.navigator.isSuccess := decide_eq_true hstate
    have hcomplete : ctx.navigator.isComplete := by
      rw [Navigator.isComplete, decide_eq_true hstate, Bool.true_or]
    rw [hsuccess, hcomplete]
    refine promises_ended GoalStatus.noConfusion fun _ => ?_
    have hsame : watch.pressAfter model screen ⟨counted, ctx, .done⟩ = watch.pressWaits :=
      pressAfter_of_none hkey
    show (watch.after model screen ⟨counted, ctx, .done⟩).settled = start
    rwa [settled_after, hsame, ← hstart, hstops]

theorem step_cases (h : goal.step model fuel ctx = some result) :
    result.status = .failed ∨ goal.countStep.stepPhase model fuel ctx = some result := by
  unfold BoostGoal.step at h
  dsimp only at h
  split_ifs at h
  · cases h
    exact .inl rfl
  · exact .inr h

theorem countStep_frame (goal : BoostGoal) :
    goal.countStep.start = goal.start ∧ goal.countStep.phase = goal.phase ∧
      goal.countStep.started = goal.started := by
  unfold BoostGoal.countStep
  split <;> exact ⟨rfl, rfl, rfl⟩

theorem promises_after (hback : LeavesBoostByBack model) (honest : watch.Honest model screen)
    (hgoal : goal ∈ watch.goal) (hstart : goal.start = start) (hphase : watch.InPhase goal)
    (hstep : goal.step model fuel (watch.context screen) = some result) :
    (watch.after model screen result).Promises start := by
  obtain ⟨hsame, hcounted, hstarted⟩ := countStep_frame goal
  rcases step_cases hstep with hfailed | hstep
  · exact promises_failed hfailed
  unfold BoostGoal.stepPhase at hstep
  unfold InPhase at hphase
  rw [hcounted] at hstep
  cases hnow : goal.phase with
  | navigating =>
    rw [hnow] at hstep hphase hcounted
    obtain ⟨hwaits, hbound⟩ := hphase
    rw [← hstarted] at hbound
    exact promises_navigating hback honest hgoal hnow hcounted (hsame.trans hstart) hwaits hbound
      hstep
  | acting =>
    rw [hnow] at hstep hphase hcounted
    obtain ⟨hstops, hstopping⟩ := hphase
    have hstops : goal.countStep.start = false := hsame.trans hstops
    cases hstopping with
    | seeking hbound hwaits hboost =>
      exact promises_seeking hback hcounted (hsame.trans hstart) hstops hbound hwaits hboost hstep
    | selected hbound hsettled hawaits =>
      exact promises_selected hback honest hcounted (hsame.trans hstart) hstops hbound hsettled
        hawaits hstep
  | settle =>
    rw [hnow] at hstep hphase
    cases hstep
    have hpress : watch.pressAfter model screen ⟨goal.countStep, watch.context screen, .done⟩ =
        watch.pressWaits := pressAfter_of_none rfl
    refine promises_ended GoalStatus.noConfusion fun _ => ?_
    rwa [settled_after, hpress, ← hstart]

/-! ### A run -/

theorem Promises.attempt (hback : LeavesBoostByBack model) (h : watch.Promises start)
    (honest : watch.Honest model screen)
    (hattempt : watch.attempt model fuel screen = some watch') : watch'.Promises start := by
  unfold BoostWatch.attempt at hattempt
  unfold Promises at h
  cases hgoal : watch.goal with
  | none =>
    rw [hgoal] at hattempt h
    cases hattempt
    refine (promises_of_none (by exact hgoal)).mpr fun hdone => ?_
    exact (settled_leave watch screen.atStatus watch.pressWaits).trans (h hdone)
  | some goal =>
    rw [hgoal] at hattempt h
    obtain ⟨result, hstep, rfl⟩ := Option.map_eq_some_iff.mp hattempt
    exact promises_after hback honest hgoal h.2.1 h.2.2 hstep

/-- A request for the boost, taken on with whatever the keypad was doing before. -/
def begin (enable : Bool) (navigator : Navigator) (waiting : Option NavKeyCommand) (boost : Bool) :
    BoostWatch where
  goal := some { start := enable }
  navigator := navigator
  waiting := waiting
  boost := boost

theorem promises_begin (enable : Bool) (navigator : Navigator) (waiting : Option NavKeyCommand)
    (boost : Bool) : (begin enable navigator waiting boost).Promises enable :=
  ⟨rfl, rfl, rfl, nofun⟩

/-- **Completion on the keypad.**  Whatever the boost was, once the goal is done and its key has
left it is as it was asked for. -/
theorem boost_of_done (hback : LeavesBoostByBack model) {enable boost : Bool}
    {navigator : Navigator} {waiting : Option NavKeyCommand} {screens : List ShownScreen}
    (honest : EachStepTaken (attempt model fuel) (Honest model)
      (begin enable navigator waiting boost) screens) {last : BoostWatch}
    (hlast : screens.foldlM (attempt model fuel)
      (begin enable navigator waiting boost) = some last) (hdone : last.outcome = some .done)
    (hleft : last.pressWaits = false) : last.boost = enable := by
  have hreached : EachStateReached (attempt model fuel) (Promises enable)
      (begin enable navigator waiting boost) screens :=
    honest.eachStateReached (fun _ _ _ hattempt h honest => h.attempt hback honest hattempt)
      (fun _ h => h) (promises_begin enable navigator waiting boost)
  have hpromises := hreached.last hlast
  cases hgoal : last.goal with
  | none =>
    have hsettled := (promises_of_none hgoal).mp hpromises hdone
    rwa [settled, hleft, Bool.xor_false] at hsettled
  | some goal =>
    unfold Promises at hpromises
    rw [hgoal, hdone] at hpromises
    cases hpromises.1

end BoostWatch

end AqualinkAutomate.OneTouch
