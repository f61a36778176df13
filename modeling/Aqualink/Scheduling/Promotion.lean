import Aqualink.General.OnSpans
import Aqualink.Scheduling.ControllerSchedule
import Aqualink.Scheduling.FireOnce

/-!
# Pairing two schedules into a program

A program of the controller holds its target on from one time to another.  A schedule only
switches, so a program takes the place of two of them, one that switches the target on and one
that switches it off.  The second one is searched for in the list, by its action, its target and
its days.

Nothing else is looked at, and so the program can hold the target on at other times than the
schedules did.  `preservesMeaning_iff` says for which lists it does not.  Both timetables are taken
over all the minutes of the weeks, counted from a midnight before a Monday; a schedule that is due
fires once in its minute, whichever tick of the minute comes first.
-/

namespace AqualinkAutomate.Scheduling

open General List

/-! ## Promotion -/

def isControllerRepresentableAction (type : ActionType) : Bool :=
  type == .buttonOn || type == .buttonOff

inductive PromotionBlocker where
  | targetMissing | actionNotOnOff | daySelectionNotExpressible | timeInvalid
  deriving DecidableEq

def promotionBlockerToString : PromotionBlocker → String
  | .targetMissing => "target_missing"
  | .actionNotOnOff => "action_not_on_off"
  | .daySelectionNotExpressible => "day_selection_not_expressible"
  | .timeInvalid => "time_invalid"

/-- `CheckControllerCandidate`: why the program cannot be promoted. -/
def ControllerSchedule.blockers (candidate : ControllerSchedule) : List PromotionBlocker :=
  (if candidate.target = [] then [.targetMissing] else []) ++
    (if ¬ timeInRange candidate.onHour candidate.onMinute ∨
        ¬ timeInRange candidate.offHour candidate.offMinute then [.timeInvalid] else []) ++
    (if classifyDaySelection candidate.daysOfWeek = .notExpressible then
      [.daySelectionNotExpressible] else [])

def buildPromotionCandidate (onSchedule offSchedule : Schedule) :
    Except String ControllerSchedule :=
  if onSchedule.action.type ≠ .buttonOn then
    .error "the ON schedule must be a button_on action"
  else if offSchedule.action.type ≠ .buttonOff then
    .error "the OFF schedule must be a button_off action"
  else if onSchedule.action.target = "" ∨
      onSchedule.action.target ≠ offSchedule.action.target then
    .error "the ON and OFF schedules must drive the same target device"
  else if onSchedule.daysOfWeek ≠ offSchedule.daysOfWeek then
    .error "the ON and OFF schedules must run on the same days"
  else
    .ok
      { target := onSchedule.action.target.toList
        daysOfWeek := onSchedule.daysOfWeek
        onHour := onSchedule.hour
        onMinute := onSchedule.minute
        offHour := offSchedule.hour
        offMinute := offSchedule.minute }

/-- The complementary edge: the first schedule of another uuid with the opposite action on the
same target and days. -/
def complementOf (all : List Schedule) (primary : Schedule) : Option Schedule :=
  let want : ActionType := if primary.action.type = .buttonOn then .buttonOff else .buttonOn
  all.find? fun candidate =>
    candidate.uuid != primary.uuid && (candidate.action.type == want &&
      candidate.action.target == primary.action.target &&
      candidate.daysOfWeek == primary.daysOfWeek)

/-- The two schedules of the span, the one that switches on first. -/
def spanHalves (primary complement : Schedule) : Schedule × Schedule :=
  if primary.action.type = .buttonOn then (primary, complement) else (complement, primary)

/-! ## The minutes of the weeks -/

def weekdayOf (time : ℤ) : Fin 7 := ⟨(time / 1440 % 7).toNat, by omega⟩

def weeklyMinute (time : ℤ) : LocalMinute where
  weekday := weekdayOf time
  hour := ⟨(time % 1440 / 60).toNat, by omega⟩
  minute := ⟨(time % 60).toNat, by omega⟩
  key := time

def Schedule.timeOfDay (schedule : Schedule) : ℤ := schedule.hour * 60 + schedule.minute

theorem weekdayOf_congr {time other : ℤ} (h : time / 1440 = other / 1440) :
    weekdayOf time = weekdayOf other := by
  rw [weekdayOf, weekdayOf, Fin.mk.injEq, h]

theorem weekdayOf_of_next {time other : ℤ} (h : other / 1440 = time / 1440 + 1) :
    weekdayOf other = weekdayOf time + 1 := by
  rw [Fin.ext_iff, Fin.val_add]
  simp only [weekdayOf, h]
  omega

theorem exists_weekdayOf_eq (weekday : Fin 7) (timeOfDay : ℤ) (h : 0 ≤ timeOfDay)
    (hlt : timeOfDay < 1440) : ∃ time, weekdayOf time = weekday ∧ time % 1440 = timeOfDay := by
  refine ⟨weekday * 1440 + timeOfDay, ?_, by omega⟩
  rw [Fin.ext_iff]
  simp only [weekdayOf]
  omega

theorem Schedule.timeOfDay_mem (schedule : Schedule) :
    0 ≤ schedule.timeOfDay ∧ schedule.timeOfDay < 1440 := by
  unfold timeOfDay
  omega

theorem due_weeklyMinute (schedule : Schedule) (time : ℤ) :
    Due schedule (weeklyMinute time) ↔
      schedule.enabled ∧ dayMatches schedule (weekdayOf time) ∧
        schedule.timeOfDay = time % 1440 := by
  have htime : (schedule.hour = (weeklyMinute time).hour ∧
      schedule.minute = (weeklyMinute time).minute) ↔ schedule.timeOfDay = time % 1440 := by
    simp only [weeklyMinute, Fin.ext_iff, Schedule.timeOfDay]
    omega
  rw [Due, ← htime]
  exact Iff.rfl

/-! ## What the schedules do -/

/-- A schedule is set to a minute of the weeks: to its weekday and its time of day. -/
def DueAt (schedule : Schedule) (time : ℤ) : Prop :=
  schedule.enabled = true ∧ schedule.daysOfWeek.toNat.testBit (weekdayOf time) = true ∧
    schedule.timeOfDay = time % 1440

instance (schedule : Schedule) (time : ℤ) : Decidable (DueAt schedule time) :=
  inferInstanceAs (Decidable (_ ∧ _))

/-- The weekly programme: what is due, in the order of the list; of several schedules with one
uuid the first that is due. -/
def programmeAt (schedules : List Schedule) (time : ℤ) : List Schedule :=
  firstOfEach Schedule.uuid (schedules.filter (DueAt · time))

def firedIn (schedules : List Schedule) (lm : LocalMinute) : List Schedule :=
  (schedules.foldl (tickSchedule lm) (fun _ => none, [])).2

def switchOf (target : String) (schedule : Schedule) : Option Bool :=
  if schedule.action.target = target then
    match schedule.action.type with
    | .buttonOn => some true
    | .buttonOff => some false
    | _ => none
  else
    none

def commandAt (schedules : List Schedule) (target : String) (time : ℤ) : Option Bool :=
  ((firedIn schedules (weeklyMinute time)).filterMap (switchOf target)).getLast?

section

variable {schedules : List Schedule} {lm : LocalMinute} {schedule : Schedule} {target : String}

/-- The loop of `Tick` passes by what is not due or has been fired in this minute. -/
theorem foldl_tickSchedule (table : String → Option ℤ) (fired : List Schedule) :
    (schedules.foldl (tickSchedule lm) (table, fired)).2 =
      fired ++ firstOfEach Schedule.uuid
        (schedules.filter fun schedule => Due schedule lm ∧ table schedule.uuid ≠ some lm.key) := by
  induction schedules generalizing table fired with
  | nil => exact (append_nil fired).symm
  | cons first schedules ih =>
    rw [foldl_cons, tickSchedule_eq]
    by_cases hfires : Due first lm ∧ table first.uuid ≠ some lm.key
    · rw [if_pos hfires, filter_cons_of_pos (by simpa using hfires), ih, firstOfEach,
        ← firstOfEach_filter (by rintro a b hab; simp only [hab]), filter_filter,
        append_assoc, singleton_append]
      congr 3
      refine filter_congr fun schedule _ => ?_
      by_cases huuid : schedule.uuid = first.uuid
      · simp [huuid]
      · simp [huuid]
    · rw [if_neg hfires, filter_cons_of_neg (by simpa using hfires), ih]

/-- **A tick fires the weekly programme.**  Of the schedules that have not fired in this minute
yet, a tick fires those that are due, in their order and each uuid once. -/
theorem tick_fires_programme (service : SchedulerService) (tm : Tm) (time : ℤ)
    (hweekday : weekdayOf time = (decomposeLocal tm).weekday)
    (htime : time % 1440 = tm.tmHour * 60 + tm.tmMin) :
    (service.tick tm).2 =
      programmeAt (service.schedules.filter fun schedule =>
        service.lastFiredMinute schedule.uuid ≠ some tm.key) time := by
  refine (foldl_tickSchedule _ _).trans ?_
  rw [nil_append, programmeAt, filter_filter]
  congr 1
  refine filter_congr fun schedule _ => ?_
  have hdue : Due schedule (decomposeLocal tm) ↔ DueAt schedule time := by
    have hclock : (schedule.hour = tm.tmHour ∧ schedule.minute = tm.tmMin) ↔
        schedule.timeOfDay = time % 1440 := by
      simp only [Fin.ext_iff, Schedule.timeOfDay]
      omega
    rw [Due, DueAt, ← hclock, hweekday]
    exact Iff.rfl
  simp only [hdue, Bool.decide_and]
  rfl

/-- At 8:30 of every day. -/
def morningLight : Schedule :=
  { nightSchedule with
    uuid := "light"
    hour := ⟨8, by decide⟩
    action := { type := .buttonOn, target := "Pool Light" } }

/-- On a Monday at 8:30, with a schedule of the same uuid behind and one for Sundays in front. -/
theorem morningLight_fires :
    (({ schedules := [{ morningLight with uuid := "sunday", daysOfWeek := 0x40 }, morningLight,
        { morningLight with name := "twin" }] } : SchedulerService).tick ⟨124, 0, 1, 8, 30, 1⟩).2 =
      [morningLight] :=
  (tick_fires_programme _ ⟨124, 0, 1, 8, 30, 1⟩ 510 (by decide) (by decide)).trans (by decide)

theorem firedIn_eq : firedIn schedules lm =
    firstOfEach Schedule.uuid (schedules.filter fun schedule => Due schedule lm) := by
  simp [firedIn, foldl_tickSchedule]

theorem mem_firedIn (h : schedule ∈ firedIn schedules lm) :
    schedule ∈ schedules ∧ Due schedule lm := by
  rw [firedIn_eq] at h
  simpa using firstOfEach_sublist.subset h

theorem commandAt_eq_none_iff {time : ℤ} :
    commandAt schedules target time = none ↔
      ∀ schedule ∈ firedIn schedules (weeklyMinute time), switchOf target schedule = none := by
  rw [commandAt, getLast?_eq_none_iff, filterMap_eq_nil_iff]

end

/-! ## What the program does -/

namespace ControllerSchedule

variable (program : ControllerSchedule)

def SwitchesOn (time : ℤ) : Prop :=
  program.daysOfWeek.toNat.testBit (weekdayOf time) = true ∧
    time % 1440 = program.onHour * 60 + program.onMinute

def OffTime (time : ℤ) : Prop := time % 1440 = program.offHour * 60 + program.offMinute

def EndsAt (start finish : ℤ) : Prop :=
  start < finish ∧ program.OffTime finish ∧
    ∀ later, start < later → later < finish → ¬ program.OffTime later

/-- The target is on: there has been no off-time since a start. -/
def KeepsOn (time : ℤ) : Prop :=
  ∃ start ≤ time, program.SwitchesOn start ∧
    ∀ later, start < later → later ≤ time → ¬ program.OffTime later

end ControllerSchedule

/-! ## Promotion keeps the timetable -/

/-- The program does what the schedules of its target did. -/
structure PreservesMeaning (schedules : List Schedule) (on off complement : Schedule)
    (program : ControllerSchedule) : Prop where
  enabled : complement.enabled
  /-- The two schedules start and end each span. -/
  edges : ∀ start finish, program.SwitchesOn start → program.EndsAt start finish →
    on ∈ firedIn schedules (weeklyMinute start) ∧ off ∈ firedIn schedules (weeklyMinute finish)
  /-- No on or off schedule of the target fires inside a span. -/
  quiet : ∀ start time, program.SwitchesOn start → start < time →
    (∀ later, start < later → later ≤ time → ¬ program.OffTime later) →
      ∀ schedule ∈ firedIn schedules (weeklyMinute time),
        switchOf on.action.target schedule = none
  spans : ∀ time, program.KeepsOn time ↔ OnAt (commandAt schedules on.action.target) time

/-- A time of day is between two others, over midnight if the second is not the later one. -/
def Within (onTime offTime time : ℤ) : Prop :=
  if onTime < offTime then onTime < time ∧ time < offTime else onTime < time ∨ time < offTime

/-- What the list has to say of the two schedules, for each minute of the week by itself. -/
structure KeepsTimes (schedules : List Schedule) (on off : Schedule) : Prop where
  onEnabled : on.enabled
  offEnabled : off.enabled
  /-- A span over midnight ends on a day of the schedules. -/
  overnight : on.timeOfDay < off.timeOfDay ∨ ∀ weekday, dayMatches on weekday
  /-- No earlier schedule of the same uuid fires in its place. -/
  notReplaced : ∀ schedule, schedule = on ∨ schedule = off → ∀ time,
    Due schedule (weeklyMinute time) → schedule ∈ firedIn schedules (weeklyMinute time)
  quiet : ∀ time, dayMatches on (weekdayOf time) →
    Within on.timeOfDay off.timeOfDay (time % 1440) →
      commandAt schedules on.action.target time = none
  start : ∀ time, dayMatches on (weekdayOf time) → time % 1440 = on.timeOfDay →
    commandAt schedules on.action.target time = some true
  finish : ∀ time, dayMatches on (weekdayOf time) → time % 1440 = off.timeOfDay →
    off.timeOfDay ≠ on.timeOfDay → commandAt schedules on.action.target time = some false
  /-- Nothing else switches the target on. -/
  outside : ∀ time, (dayMatches on (weekdayOf time) →
      time % 1440 ≠ on.timeOfDay ∧ time % 1440 ≠ off.timeOfDay ∧
        ¬ Within on.timeOfDay off.timeOfDay (time % 1440)) →
    commandAt schedules on.action.target time ≠ some true

section

variable {on off : Schedule}

def SpanStarts (on : Schedule) (time : ℤ) : Prop :=
  dayMatches on (weekdayOf time) = true ∧ time % 1440 = on.timeOfDay

def spanLength (on off : Schedule) : ℤ := (off.timeOfDay - on.timeOfDay - 1) % 1440 + 1

theorem spanLength_pos (on off : Schedule) : 0 < spanLength on off := by
  unfold spanLength
  omega

theorem apart_spanStarts : Apart (SpanStarts on) (spanLength on off) := by
  rintro start next ⟨-, hstart⟩ ⟨-, hnext⟩ hlt
  unfold spanLength
  omega

theorem finish_day (off : Schedule) {start : ℤ} (hstart : SpanStarts on start) :
    (start + spanLength on off) % 1440 = off.timeOfDay ∧
      if on.timeOfDay < off.timeOfDay then
        (start + spanLength on off) / 1440 = start / 1440
      else
        (start + spanLength on off) / 1440 = start / 1440 + 1 := by
  have hon := on.timeOfDay_mem
  have hoff := off.timeOfDay_mem
  have htime := hstart.2
  unfold spanLength
  constructor
  · omega
  · split_ifs <;> omega

section

variable (hover : on.timeOfDay < off.timeOfDay ∨ ∀ weekday, dayMatches on weekday = true)

include hover

theorem exists_inside_iff (time : ℤ) :
    (∃ start, SpanStarts on start ∧ start < time ∧ time < start + spanLength on off) ↔
      dayMatches on (weekdayOf time) ∧
        Within on.timeOfDay off.timeOfDay (time % 1440) := by
  have hon := on.timeOfDay_mem
  have hoff := off.timeOfDay_mem
  unfold SpanStarts spanLength Within
  constructor
  · rintro ⟨start, ⟨hday, hstart⟩, hlt, hend⟩
    split_ifs with hsame
    · rw [weekdayOf_congr (show time / 1440 = start / 1440 by omega)]
      exact ⟨hday, by omega, by omega⟩
    · exact ⟨hover.resolve_left hsame _, by omega⟩
  · rintro ⟨hday, hwithin⟩
    split_ifs at hwithin with hsame
    · refine ⟨time - time % 1440 + on.timeOfDay, ⟨?_, by omega⟩, by omega, by omega⟩
      rwa [weekdayOf_congr (show _ = time / 1440 by omega)]
    · have hall := hover.resolve_left hsame
      -- the span has started on the day itself, or on the day before
      by_cases hbefore : on.timeOfDay < time % 1440
      · exact ⟨time - time % 1440 + on.timeOfDay, ⟨hall _, by omega⟩, by omega, by omega⟩
      · exact ⟨time - time % 1440 + on.timeOfDay - 1440, ⟨hall _, by omega⟩, by omega, by omega⟩

theorem exists_finish_iff (time : ℤ) :
    (∃ start, SpanStarts on start ∧ time = start + spanLength on off) ↔
      dayMatches on (weekdayOf time) ∧ time % 1440 = off.timeOfDay := by
  have hon := on.timeOfDay_mem
  have hoff := off.timeOfDay_mem
  constructor
  · rintro ⟨start, hstart, rfl⟩
    obtain ⟨hfinish, hday⟩ := finish_day off hstart
    refine ⟨?_, hfinish⟩
    split_ifs at hday with hsame
    · rw [weekdayOf_congr hday]
      exact hstart.1
    · exact hover.resolve_left hsame _
  · rintro ⟨hday, htime⟩
    refine ⟨time - spanLength on off, ⟨?_, ?_⟩, by omega⟩
    · rcases hover with hsame | hall
      · rwa [weekdayOf_congr (show _ = time / 1440 by unfold spanLength; omega)]
      · exact hall _
    · unfold spanLength
      omega

theorem forall_outside_iff (time : ℤ) :
    (∀ start, SpanStarts on start → time < start ∨ start + spanLength on off < time) ↔
      (dayMatches on (weekdayOf time) →
        time % 1440 ≠ on.timeOfDay ∧ time % 1440 ≠ off.timeOfDay ∧
          ¬ Within on.timeOfDay off.timeOfDay (time % 1440)) := by
  have hinside := exists_inside_iff hover time
  have hfinish := exists_finish_iff hover time
  constructor
  · intro houtside hday
    refine ⟨fun htime => ?_, fun htime => ?_, fun hwithin => ?_⟩
    · have := houtside time ⟨hday, htime⟩
      have := spanLength_pos on off
      omega
    · obtain ⟨start, hstart, rfl⟩ := hfinish.mpr ⟨hday, htime⟩
      have := houtside start hstart
      have := spanLength_pos on off
      omega
    · obtain ⟨start, hstart, hlt, hend⟩ := hinside.mpr ⟨hday, hwithin⟩
      have := houtside start hstart
      omega
  · intro houtside start hstart
    by_contra hclosed
    have hbounds : start ≤ time ∧ time ≤ start + spanLength on off := by omega
    rcases hbounds.1.eq_or_lt with rfl | hlt
    · exact (houtside hstart.1).1 hstart.2
    rcases hbounds.2.eq_or_lt with heq | hend
    · obtain ⟨hday, htime⟩ := hfinish.mp ⟨start, hstart, heq⟩
      exact (houtside hday).2.1 htime
    · obtain ⟨hday, hwithin⟩ := hinside.mp ⟨start, hstart, hlt, hend⟩
      exact (houtside hday).2.2 hwithin

theorem edgesSwitch_iff (command : ℤ → Option Bool) :
    EdgesSwitch command (SpanStarts on) (spanLength on off) ↔
      (∀ time, dayMatches on (weekdayOf time) → time % 1440 = on.timeOfDay →
          command time = some true) ∧
        (∀ time, dayMatches on (weekdayOf time) → time % 1440 = off.timeOfDay →
          off.timeOfDay ≠ on.timeOfDay → command time = some false) ∧
        ∀ time, (dayMatches on (weekdayOf time) →
            time % 1440 ≠ on.timeOfDay ∧ time % 1440 ≠ off.timeOfDay ∧
              ¬ Within on.timeOfDay off.timeOfDay (time % 1440)) →
          command time ≠ some true := by
  constructor
  · intro hedges
    refine ⟨fun time hday htime => hedges.start time ⟨hday, htime⟩, ?_, ?_⟩
    · intro time hday htime hne
      obtain ⟨start, hstart, rfl⟩ := (exists_finish_iff hover time).mpr ⟨hday, htime⟩
      exact hedges.finish start hstart fun hnext => hne (htime.symm.trans hnext.2)
    · intro time htime
      exact hedges.outside time ((forall_outside_iff hover time).mpr htime)
  · rintro ⟨hstart, hfinish, houtside⟩
    constructor
    · exact fun start hstarts => hstart start hstarts.1 hstarts.2
    · intro start hstarts hnext
      obtain ⟨hday, htime⟩ := (exists_finish_iff hover _).mp ⟨start, hstarts, rfl⟩
      exact hfinish _ hday htime fun heq => hnext ⟨hday, htime.trans heq⟩
    · exact fun time htime => houtside time ((forall_outside_iff hover time).mp htime)

end

end

/-! ### The program of two schedules -/

/-- What `buildPromotionCandidate` has checked of the two schedules. -/
structure FormsSpan (on off : Schedule) (program : ControllerSchedule) : Prop where
  onType : on.action.type = .buttonOn
  offType : off.action.type = .buttonOff
  target : off.action.target = on.action.target
  days : off.daysOfWeek = on.daysOfWeek
  programDays : program.daysOfWeek = on.daysOfWeek
  onTime : program.onHour * 60 + program.onMinute = on.timeOfDay
  offTime : program.offHour * 60 + program.offMinute = off.timeOfDay

section

variable {schedules : List Schedule} {on off complement : Schedule} {program : ControllerSchedule}

theorem formsSpan_of_build (h : buildPromotionCandidate on off = .ok program) :
    FormsSpan on off program := by
  unfold buildPromotionCandidate at h
  split_ifs at h with hon hoff htarget hdays
  cases h
  rw [not_or, not_not] at htarget
  exact ⟨not_not.mp hon, not_not.mp hoff, htarget.2.symm, (not_not.mp hdays).symm, rfl, rfl, rfl⟩

theorem classifyDaySelection_zero {daysOfWeek : UInt8} (h : daysOfWeek &&& DayMask.allDays = 0) :
    classifyDaySelection daysOfWeek = .notExpressible := by
  rw [classifyDaySelection, h, if_pos rfl]

theorem exists_testBit_of_blockers (h : program.blockers = []) :
    ∃ weekday : Fin 7, program.daysOfWeek.toNat.testBit weekday := by
  by_contra hnone
  rw [not_exists] at hnone
  have hzero : program.daysOfWeek &&& DayMask.allDays = 0 := by
    rw [← UInt8.toNat_inj, UInt8.toNat_and]
    refine Nat.eq_of_testBit_eq fun i => ?_
    rw [Nat.testBit_and, show DayMask.allDays.toNat = 2 ^ 7 - 1 from rfl,
      Nat.testBit_two_pow_sub_one, UInt8.toNat_zero, Nat.zero_testBit]
    by_cases hi : i < 7
    · have := hnone ⟨i, hi⟩
      simp_all
    · simp [hi]
  have hdays := classifyDaySelection_zero hzero
  rw [ControllerSchedule.blockers, hdays] at h
  simp at h

namespace FormsSpan

variable (hspan : FormsSpan on off program)
include hspan

theorem switchesOn_iff (time : ℤ) : program.SwitchesOn time ↔ SpanStarts on time := by
  rw [ControllerSchedule.SwitchesOn, hspan.programDays, hspan.onTime]
  exact Iff.rfl

theorem dayMatches_off (weekday : Fin 7) : dayMatches off weekday = dayMatches on weekday := by
  rw [dayMatches, dayMatches, hspan.days]

theorem until_iff {start time : ℤ} (hstart : SpanStarts on start) :
    (∀ later, start < later → later ≤ time → ¬ program.OffTime later) ↔
      time < start + spanLength on off := by
  have htime := hstart.2
  have hoff := off.timeOfDay_mem
  simp only [ControllerSchedule.OffTime, hspan.offTime]
  constructor
  · intro hnone
    by_contra hlate
    have hpos := spanLength_pos on off
    exact hnone (start + spanLength on off) (by omega) (by omega) (finish_day off hstart).1
  · intro hlt later hlater hlast hoffTime
    unfold spanLength at hlt
    omega

theorem endsAt_iff {start finish : ℤ} (hstart : SpanStarts on start) :
    program.EndsAt start finish ↔ finish = start + spanLength on off := by
  have hpos := spanLength_pos on off
  constructor
  · rintro ⟨hlt, hoffTime, hnone⟩
    have hbefore : finish - 1 < start + spanLength on off :=
      (hspan.until_iff hstart).mp fun later hlater hlast =>
        hnone later hlater (by omega)
    by_contra hne
    have hbehind : finish < start + spanLength on off := by omega
    have hall := (hspan.until_iff hstart).mpr hbehind
    exact hall finish hlt le_rfl hoffTime
  · rintro rfl
    have hoffTime : program.OffTime (start + spanLength on off) :=
      (finish_day off hstart).1.trans hspan.offTime.symm
    refine ⟨by omega, hoffTime, fun later hlater hlast => ?_⟩
    exact (hspan.until_iff hstart).mpr hlast later hlater le_rfl

theorem keepsOn_iff (time : ℤ) :
    program.KeepsOn time ↔ CoveredAt (SpanStarts on) (spanLength on off) time := by
  constructor
  · rintro ⟨start, hle, hstart, hnone⟩
    rw [hspan.switchesOn_iff] at hstart
    exact ⟨start, hle, hstart, (hspan.until_iff hstart).mp hnone⟩
  · rintro ⟨start, hle, hstart, hlt⟩
    exact ⟨start, hle, (hspan.switchesOn_iff start).mpr hstart, (hspan.until_iff hstart).mpr hlt⟩

theorem switchOf_on : switchOf on.action.target on = some true := by
  rw [switchOf, if_pos rfl, hspan.onType]

theorem switchOf_off : switchOf on.action.target off = some false := by
  rw [switchOf, if_pos hspan.target, hspan.offType]

theorem due_off_iff (time : ℤ) :
    Due off (weeklyMinute time) ↔ off.enabled ∧
      dayMatches on (weekdayOf time) ∧ time % 1440 = off.timeOfDay := by
  rw [due_weeklyMinute, hspan.dayMatches_off, eq_comm (a := off.timeOfDay)]

end FormsSpan

theorem commandAt_ne_none {target : String} {schedule : Schedule} {switched : Bool} {time : ℤ}
    (hmem : schedule ∈ firedIn schedules (weeklyMinute time))
    (hswitch : switchOf target schedule = some switched) :
    commandAt schedules target time ≠ none := by
  intro hnone
  rw [commandAt_eq_none_iff.mp hnone schedule hmem] at hswitch
  cases hswitch

theorem forall_dayMatches (hsome : ∃ weekday, dayMatches on weekday)
    (hnext : ∀ weekday, dayMatches on weekday → dayMatches on (weekday + 1)) :
    ∀ weekday, dayMatches on weekday := by
  obtain ⟨first, hfirst⟩ := hsome
  have hall : ∀ behind : Fin 7, dayMatches on (first + behind) := by
    intro behind
    induction behind using Fin.induction with
    | zero => simpa using hfirst
    | succ behind ih =>
      rw [← Fin.coeSucc_eq_succ,
        show first + (behind.castSucc + 1) = first + behind.castSucc + 1 by grind]
      exact hnext _ ih
  intro weekday
  have hat := hall (weekday - first)
  rwa [show first + (weekday - first) = weekday by grind] at hat

def FiresEdges (schedules : List Schedule) (on off : Schedule) : Prop :=
  ∀ start, SpanStarts on start → on ∈ firedIn schedules (weeklyMinute start) ∧
    off ∈ firedIn schedules (weeklyMinute (start + spanLength on off))

def QuietInside (schedules : List Schedule) (on off : Schedule) : Prop :=
  ∀ start time, SpanStarts on start → start < time → time < start + spanLength on off →
    commandAt schedules on.action.target time = none

theorem enabled_of_edges (hspan : FormsSpan on off program) (hblockers : program.blockers = [])
    (hedges : FiresEdges schedules on off) :
    on.enabled ∧ off.enabled ∧
      (on.timeOfDay < off.timeOfDay ∨ ∀ weekday, dayMatches on weekday) := by
  have hsome : ∃ weekday, dayMatches on weekday := by
    obtain ⟨weekday, hday⟩ := exists_testBit_of_blockers hblockers
    rw [hspan.programDays] at hday
    exact ⟨weekday, hday⟩
  have hstart : ∀ weekday, dayMatches on weekday →
      ∃ start, SpanStarts on start ∧ weekdayOf start = weekday := by
    intro weekday hday
    obtain ⟨start, hweekday, htime⟩ :=
      exists_weekdayOf_eq weekday on.timeOfDay on.timeOfDay_mem.1 on.timeOfDay_mem.2
    exact ⟨start, ⟨hweekday.symm ▸ hday, htime⟩, hweekday⟩
  have henabled : on.enabled ∧ off.enabled := by
    obtain ⟨weekday, hday⟩ := hsome
    obtain ⟨start, hstarts, -⟩ := hstart weekday hday
    obtain ⟨hon, hoff⟩ := hedges start hstarts
    exact ⟨(mem_firedIn hon).2.1, (mem_firedIn hoff).2.1⟩
  refine ⟨henabled.1, henabled.2, ?_⟩
  by_cases hsame : on.timeOfDay < off.timeOfDay
  · exact .inl hsame
  refine .inr (forall_dayMatches hsome fun weekday hday => ?_)
  -- the schedule that switches off is due on the next day
  obtain ⟨start, hstarts, rfl⟩ := hstart weekday hday
  have hdue := (hspan.due_off_iff _).mp (mem_firedIn (hedges start hstarts).2).2
  have hnext := (finish_day off hstarts).2
  rw [if_neg hsame] at hnext
  rw [← weekdayOf_of_next hnext]
  exact hdue.2.1

theorem KeepsTimes.quietInside (hkeeps : KeepsTimes schedules on off) :
    QuietInside schedules on off := by
  intro start time hstart hlt hend
  obtain ⟨hday, hwithin⟩ := (exists_inside_iff hkeeps.overnight time).mp ⟨start, hstart, hlt, hend⟩
  exact hkeeps.quiet time hday hwithin

section

variable (hspan : FormsSpan on off program)
include hspan

section

variable (hpreserves : PreservesMeaning schedules on off complement program)

include hpreserves

theorem PreservesMeaning.firesEdges : FiresEdges schedules on off := by
  intro start hstart
  exact hpreserves.edges start _ ((hspan.switchesOn_iff start).mpr hstart)
    ((hspan.endsAt_iff hstart).mpr rfl)

theorem PreservesMeaning.quietInside : QuietInside schedules on off := by
  intro start time hstart hlt hend
  exact commandAt_eq_none_iff.mpr (hpreserves.quiet start time
    ((hspan.switchesOn_iff start).mpr hstart) hlt ((hspan.until_iff hstart).mpr hend))

theorem PreservesMeaning.edgesSwitch :
    EdgesSwitch (commandAt schedules on.action.target) (SpanStarts on) (spanLength on off) := by
  have hedges := hpreserves.firesEdges hspan
  refine (covered_iff_onAt (spanLength_pos on off) apart_spanStarts ?_ ?_
    (hpreserves.quietInside hspan)).mp fun time => ?_
  · exact fun start hstart => commandAt_ne_none (hedges start hstart).1 hspan.switchOf_on
  · exact fun start hstart => commandAt_ne_none (hedges start hstart).2 hspan.switchOf_off
  · rw [← hspan.keepsOn_iff, hpreserves.spans]

end

theorem keepsTimes_of_preserves (hblockers : program.blockers = [])
    (hpreserves : PreservesMeaning schedules on off complement program) :
    KeepsTimes schedules on off := by
  have hedges := hpreserves.firesEdges hspan
  obtain ⟨hon, hoff, hover⟩ := enabled_of_edges hspan hblockers hedges
  obtain ⟨hstart, hfinish, houtside⟩ :=
    (edgesSwitch_iff hover _).mp (hpreserves.edgesSwitch hspan)
  refine ⟨hon, hoff, hover, ?_, ?_, hstart, hfinish, houtside⟩
  · rintro schedule (rfl | rfl) time hdue
    · obtain ⟨-, hday, htime⟩ := (due_weeklyMinute _ _).mp hdue
      exact (hedges time ⟨hday, htime.symm⟩).1
    · obtain ⟨start, hstarts, rfl⟩ :=
        (exists_finish_iff hover time).mpr ((hspan.due_off_iff time).mp hdue).2
      exact (hedges start hstarts).2
  · intro time hday hwithin
    obtain ⟨start, hstarts, hlt, hend⟩ := (exists_inside_iff hover time).mpr ⟨hday, hwithin⟩
    exact hpreserves.quietInside hspan start time hstarts hlt hend

theorem KeepsTimes.firesEdges (hkeeps : KeepsTimes schedules on off) :
    FiresEdges schedules on off := by
  intro start hstart
  refine ⟨hkeeps.notReplaced on (.inl rfl) start ?_, hkeeps.notReplaced off (.inr rfl) _ ?_⟩
  · exact (due_weeklyMinute on start).mpr ⟨hkeeps.onEnabled, hstart.1, hstart.2.symm⟩
  · exact (hspan.due_off_iff _).mpr
      ⟨hkeeps.offEnabled, (exists_finish_iff hkeeps.overnight _).mp ⟨start, hstart, rfl⟩⟩

theorem preserves_of_keepsTimes (hcomplement : complement = on ∨ complement = off)
    (hkeeps : KeepsTimes schedules on off) :
    PreservesMeaning schedules on off complement program := by
  constructor
  case enabled =>
    rcases hcomplement with rfl | rfl
    · exact hkeeps.onEnabled
    · exact hkeeps.offEnabled
  case edges =>
    intro start finish hstart hfinish
    rw [hspan.switchesOn_iff] at hstart
    rw [(hspan.endsAt_iff hstart).mp hfinish]
    exact hkeeps.firesEdges hspan start hstart
  case quiet =>
    intro start time hstart hlt hnone
    rw [hspan.switchesOn_iff] at hstart
    exact commandAt_eq_none_iff.mp
      (hkeeps.quietInside start time hstart hlt ((hspan.until_iff hstart).mp hnone))
  case spans =>
    intro time
    have hspans := (edgesSwitch_iff hkeeps.overnight (commandAt schedules on.action.target)).mpr
      ⟨hkeeps.start, hkeeps.finish, hkeeps.outside⟩
    rw [hspan.keepsOn_iff]
    exact ⟨onAt_of_coveredAt hspans hkeeps.quietInside,
      coveredAt_of_onAt (spanLength_pos on off) hspans⟩

/-- **When a promotion keeps the timetable.**  The schedules are enabled, a span over midnight is
on every day, and in each minute the list sends the target what the span asks for. -/
theorem preserves_iff_keepsTimes (hblockers : program.blockers = [])
    (hcomplement : complement = on ∨ complement = off) :
    PreservesMeaning schedules on off complement program ↔ KeepsTimes schedules on off :=
  ⟨keepsTimes_of_preserves hspan hblockers, preserves_of_keepsTimes hspan hcomplement⟩

end

/-! ### Two schedules of one day -/

theorem firedIn_of_nodup (hdistinct : (schedules.map Schedule.uuid).Nodup) (lm : LocalMinute) :
    firedIn schedules lm = schedules.filter (Due · lm) :=
  firedIn_eq.trans (firstOfEach_of_nodup (hdistinct.sublist (List.filter_sublist.map _)))

theorem commandAt_pair (hspan : FormsSpan on off program) (huuid : on.uuid ≠ off.uuid) (time : ℤ) :
    commandAt [on, off] on.action.target time =
      if Due off (weeklyMinute time) then some false
      else if Due on (weeklyMinute time) then some true else none := by
  have hdistinct : ([on, off].map Schedule.uuid).Nodup := by simpa using huuid
  rw [commandAt, firedIn_of_nodup hdistinct]
  by_cases hoff : Due off (weeklyMinute time) <;> by_cases hon : Due on (weeklyMinute time) <;>
    simp [hoff, hon, hspan.switchOf_on, hspan.switchOf_off]

theorem keepsTimes_pair (hspan : FormsSpan on off program) (huuid : on.uuid ≠ off.uuid)
    (hon : on.enabled) (hoff : off.enabled)
    (hearlier : on.timeOfDay < off.timeOfDay) : KeepsTimes [on, off] on off := by
  have hdueOn : ∀ time, Due on (weeklyMinute time) ↔
      dayMatches on (weekdayOf time) ∧ on.timeOfDay = time % 1440 :=
    fun time => by rw [due_weeklyMinute, and_iff_right hon]
  have hdueOff : ∀ time, Due off (weeklyMinute time) ↔
      dayMatches on (weekdayOf time) ∧ time % 1440 = off.timeOfDay :=
    fun time => by rw [hspan.due_off_iff, and_iff_right hoff]
  constructor
  case onEnabled => exact hon
  case offEnabled => exact hoff
  case overnight => exact .inl hearlier
  case notReplaced =>
    intro schedule hhalf time hdue
    have hdistinct : ([on, off].map Schedule.uuid).Nodup := by simpa using huuid
    rw [firedIn_of_nodup hdistinct, mem_filter]
    exact ⟨by simpa using hhalf, decide_eq_true hdue⟩
  case quiet =>
    intro time _ hwithin
    rw [Within, if_pos hearlier] at hwithin
    rw [commandAt_pair hspan huuid, if_neg (by rw [hdueOff]; omega), if_neg (by rw [hdueOn]; omega)]
  case start =>
    intro time hday htime
    rw [commandAt_pair hspan huuid, if_neg (by rw [hdueOff]; omega),
      if_pos ((hdueOn time).mpr ⟨hday, htime.symm⟩)]
  case finish =>
    intro time hday htime _
    rw [commandAt_pair hspan huuid, if_pos ((hdueOff time).mpr ⟨hday, htime⟩)]
  case outside =>
    intro time houtside
    have hnot : ¬ Due on (weeklyMinute time) := fun hdue => by
      obtain ⟨hday, htime⟩ := (hdueOn time).mp hdue
      exact (houtside hday).1 htime.symm
    rw [commandAt_pair hspan huuid, if_neg hnot]
    split_ifs <;> simp

end

end AqualinkAutomate.Scheduling
