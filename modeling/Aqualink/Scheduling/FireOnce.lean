import Aqualink.General.KeyedTable
import Aqualink.Scheduling.SchedulerService

/-!
# Once per local minute

The service ticks every half minute, sees the local time only, and must fire a schedule
once in each local minute that it is due in: not twice when two ticks land in the minute,
and not again when the clock is put back and the hour is repeated.  `fired_once` is that
statement for any sequence of ticks in which the local clock never goes back by more than
an hour.  One remembered minute for each schedule is enough: it has one time of day, and an
hour is too short to bring a date back (`key_le_of_mayFollow`).
-/

namespace AqualinkAutomate.Scheduling

open General List

variable {service : SchedulerService} {schedule : Schedule} {ticks : List Tm} {tm : Tm}

/-! ## Local time -/

namespace Tm

/-- The date as a number that orders dates as the calendar does. -/
def date (tm : Tm) : ℤ := (tm.tmYear * 12 + tm.tmMon.val) * 32 + tm.tmMday.val

def minuteOfDay (tm : Tm) : ℕ := 60 * tm.tmHour + tm.tmMin

/-- The local clock may show `later` after it has shown `earlier`: it has gone forward, or
back by no more than an hour.  Going back over midnight takes it to an earlier date. -/
def MayFollow (earlier later : Tm) : Prop :=
  earlier.date < later.date ∨
    earlier.date = later.date ∧ earlier.minuteOfDay ≤ later.minuteOfDay + 60 ∨
      later.date < earlier.date ∧ earlier.minuteOfDay + 24 * 60 ≤ later.minuteOfDay + 60

instance (earlier later : Tm) : Decidable (earlier.MayFollow later) :=
  inferInstanceAs (Decidable (_ ∨ _))

/-- The same local minute, whether or not it is the same instant. -/
def SameMinute (tm other : Tm) : Prop :=
  tm.date = other.date ∧ tm.tmHour = other.tmHour ∧ tm.tmMin = other.tmMin

instance (tm other : Tm) : Decidable (tm.SameMinute other) :=
  inferInstanceAs (Decidable (_ ∧ _))

def key (tm : Tm) : ℤ := (decomposeLocal tm).key

end Tm

theorem key_eq_iff (tm other : Tm) : tm.key = other.key ↔ tm.SameMinute other := by
  simp only [Tm.key, decomposeLocal, Tm.SameMinute, Tm.date, Fin.ext_iff]
  omega

/-- At one time of day, the packed digits are ordered as the dates are. -/
theorem key_le_of_date_le {other : Tm} (hdate : tm.date ≤ other.date)
    (hhour : tm.tmHour = other.tmHour) (hmin : tm.tmMin = other.tmMin) : tm.key ≤ other.key := by
  simp only [Tm.key, decomposeLocal, Tm.date, Fin.ext_iff] at *
  omega

theorem key_le_of_mayFollow {other : Tm} (h : tm.MayFollow other)
    (hhour : tm.tmHour = other.tmHour) (hmin : tm.tmMin = other.tmMin) : tm.key ≤ other.key := by
  have hminute : tm.minuteOfDay = other.minuteOfDay := by simp [Tm.minuteOfDay, hhour, hmin]
  refine key_le_of_date_le ?_ hhour hmin
  rcases h with h | ⟨h, -⟩ | ⟨-, h⟩
  · exact h.le
  · exact h.le
  -- from one time of day back to the same of an earlier date is more than an hour
  · omega

/-! ## One tick -/

def firedFor (uuid : String) (fired : List Schedule) : List Schedule :=
  fired.filter fun schedule => schedule.uuid == uuid

theorem tickSchedule_eq (lm : LocalMinute) (table : String → Option ℤ) (fired : List Schedule)
    (schedule : Schedule) :
    tickSchedule lm (table, fired) schedule =
      if Due schedule lm ∧ table schedule.uuid ≠ some lm.key then
        (Function.update table schedule.uuid (some lm.key), fired ++ [schedule])
      else (table, fired) := by
  rw [tickSchedule]
  split_ifs with henabled hdue hkey hboth <;> simp_all [Due]

theorem foldl_tickSchedule_of_not_mem (lm : LocalMinute) {schedules : List Schedule}
    {uuid : String} (h : uuid ∉ schedules.map Schedule.uuid)
    (soFar : (String → Option ℤ) × List Schedule) :
    (schedules.foldl (tickSchedule lm) soFar).1 uuid = soFar.1 uuid ∧
      firedFor uuid (schedules.foldl (tickSchedule lm) soFar).2 = firedFor uuid soFar.2 := by
  induction schedules generalizing soFar with
  | nil => exact ⟨rfl, rfl⟩
  | cons first schedules ih =>
    rw [map_cons, mem_cons, not_or] at h
    obtain ⟨hne, hrest⟩ := h
    obtain ⟨table, fired⟩ := soFar
    rw [foldl_cons, (ih hrest _).1, (ih hrest _).2, tickSchedule_eq]
    split
    · have hbeq : (first.uuid == uuid) = false := by simpa using Ne.symm hne
      simp [firedFor, hne, hbeq]
    · exact ⟨rfl, rfl⟩

theorem tick_eq (hdistinct : (service.schedules.map Schedule.uuid).Nodup)
    (hmem : schedule ∈ service.schedules) (tm : Tm) :
    let fires := Due schedule (decomposeLocal tm) ∧
      service.lastFiredMinute schedule.uuid ≠ some tm.key
    ((service.tick tm).1.lastFiredMinute schedule.uuid =
        if fires then some tm.key else service.lastFiredMinute schedule.uuid) ∧
      firedFor schedule.uuid (service.tick tm).2 = if fires then [schedule] else [] := by
  obtain ⟨before, behind, hsplit⟩ := append_of_mem hmem
  rw [hsplit, map_append, map_cons, nodup_middle, nodup_cons, mem_append, not_or] at hdistinct
  obtain ⟨⟨hbefore, hbehind⟩, -⟩ := hdistinct
  -- the fold up to the schedule, at it, and behind it
  rcases hat : before.foldl (tickSchedule (decomposeLocal tm))
    (service.lastFiredMinute, []) with ⟨table, fired⟩
  have hstart := foldl_tickSchedule_of_not_mem (decomposeLocal tm) hbefore
    (service.lastFiredMinute, [])
  have hend := foldl_tickSchedule_of_not_mem (decomposeLocal tm) hbehind
    (tickSchedule (decomposeLocal tm) (table, fired) schedule)
  rw [hat] at hstart
  have htable : table schedule.uuid = service.lastFiredMinute schedule.uuid := hstart.1
  have hnone : firedFor schedule.uuid fired = [] := hstart.2
  have hkey : (decomposeLocal tm).key = tm.key := rfl
  simp only [SchedulerService.tick, hsplit, foldl_append, foldl_cons, hat, hend.1, hend.2]
  simp only [tickSchedule_eq, htable, hkey]
  split
  · constructor
    · simp
    · rw [firedFor] at hnone ⊢
      rw [filter_append, hnone]
      simp
  · exact ⟨htable, hnone⟩

/-! ## A run of ticks -/

/-- What has been fired, and when. -/
def fireLog : SchedulerService → List Tm → List (Tm × Schedule)
  | _, [] => []
  | service, tm :: ticks =>
    ((service.tick tm).2.map fun schedule => (tm, schedule)) ++ fireLog (service.tick tm).1 ticks

def firedKeys (uuid : String) (log : List (Tm × Schedule)) : List ℤ :=
  (log.filter fun entry => entry.2.uuid == uuid).map fun entry => entry.1.key

def dueKeys (schedule : Schedule) (ticks : List Tm) : List ℤ :=
  (ticks.filter fun tm => Due schedule (decomposeLocal tm)).map Tm.key

theorem firedKeys_fireLog (hdistinct : (service.schedules.map Schedule.uuid).Nodup)
    (hmem : schedule ∈ service.schedules) (ticks : List Tm) :
    firedKeys schedule.uuid (fireLog service ticks) =
      passes (service.lastFiredMinute schedule.uuid) (dueKeys schedule ticks) := by
  induction ticks generalizing service with
  | nil => rfl
  | cons tm ticks ih =>
    have hnext : firedKeys schedule.uuid (fireLog (service.tick tm).1 ticks) =
        passes ((service.tick tm).1.lastFiredMinute schedule.uuid) (dueKeys schedule ticks) :=
      ih hdistinct hmem
    obtain ⟨hentry, hfired⟩ := tick_eq hdistinct hmem tm
    have hhead : firedKeys schedule.uuid ((service.tick tm).2.map fun fired => (tm, fired)) =
        (firedFor schedule.uuid (service.tick tm).2).map fun _ => tm.key := by
      rw [firedKeys, filter_map, map_map]
      rfl
    have hsplit : firedKeys schedule.uuid (fireLog service (tm :: ticks)) =
        firedKeys schedule.uuid ((service.tick tm).2.map fun fired => (tm, fired)) ++
          firedKeys schedule.uuid (fireLog (service.tick tm).1 ticks) := by
      simp [firedKeys, fireLog]
    rw [hsplit, hhead, hnext, hentry, hfired]
    -- a tick in which the schedule is not due is no event for its guard
    by_cases hdue : Due schedule (decomposeLocal tm)
    · have hkeys : dueKeys schedule (tm :: ticks) = tm.key :: dueKeys schedule ticks := by
        simp [dueKeys, hdue]
      rw [hkeys]
      by_cases hlast : service.lastFiredMinute schedule.uuid = some tm.key
      · simp [hlast, passes_cons_of_eq]
      · simp [hdue, hlast, passes_cons_of_ne]
    · have hkeys : dueKeys schedule (tm :: ticks) = dueKeys schedule ticks := by
        simp [dueKeys, hdue]
      simp [hkeys, hdue]

theorem pairwise_dueKeys (hclock : ticks.Pairwise Tm.MayFollow) (schedule : Schedule) :
    (dueKeys schedule ticks).Pairwise (· ≤ ·) := by
  rw [dueKeys, pairwise_map]
  refine (hclock.filter _).imp_of_mem ?_
  intro tm other htm hother hfollow
  have hdue : Due schedule (decomposeLocal tm) := by simpa using (List.mem_filter.mp htm).2
  have hdue' : Due schedule (decomposeLocal other) := by simpa using (List.mem_filter.mp hother).2
  obtain ⟨-, -, hhour, hminute⟩ := hdue
  obtain ⟨-, -, hhour', hminute'⟩ := hdue'
  exact key_le_of_mayFollow hfollow (hhour.symm.trans hhour') (hminute.symm.trans hminute')

/-- The number of times that a schedule was fired in the minute that `minute` shows. -/
def timesFired (schedule : Schedule) (minute : Tm) (log : List (Tm × Schedule)) : ℕ :=
  log.countP fun entry => entry.2.uuid == schedule.uuid && decide (entry.1.SameMinute minute)

theorem timesFired_eq_count (schedule : Schedule) (minute : Tm) (log : List (Tm × Schedule)) :
    timesFired schedule minute log = (firedKeys schedule.uuid log).count minute.key := by
  rw [firedKeys, count_eq_countP, countP_map, countP_filter, timesFired]
  refine countP_congr fun entry _ => ?_
  simp [key_eq_iff, and_comm]

/-- A schedule is fired once in every local minute that it is due in and that a tick lands
in, and in no other minute. -/
theorem fired_once (service : SchedulerService)
    (hdistinct : (service.schedules.map Schedule.uuid).Nodup)
    (hstart : service.lastFiredMinute = fun _ => none) {ticks : List Tm}
    (hclock : ticks.Pairwise Tm.MayFollow) {schedule : Schedule}
    (hmem : schedule ∈ service.schedules) (minute : Tm) :
    timesFired schedule minute (fireLog service ticks) =
      if ∃ tm ∈ ticks, tm.SameMinute minute ∧ Due schedule (decomposeLocal tm) then 1 else 0 := by
  have hiff : minute.key ∈ dueKeys schedule ticks ↔
      ∃ tm ∈ ticks, tm.SameMinute minute ∧ Due schedule (decomposeLocal tm) := by
    simp only [dueKeys, mem_map, mem_filter, decide_eq_true_eq, key_eq_iff]
    constructor
    · rintro ⟨tm, ⟨hmem, hdue⟩, hsame⟩
      exact ⟨tm, hmem, hsame, hdue⟩
    · rintro ⟨tm, hmem, hsame, hdue⟩
      exact ⟨tm, ⟨hmem, hdue⟩, hsame⟩
  calc timesFired schedule minute (fireLog service ticks)
    _ = (firedKeys schedule.uuid (fireLog service ticks)).count minute.key :=
        timesFired_eq_count schedule minute _
    _ = (passes none (dueKeys schedule ticks)).count minute.key := by
        rw [firedKeys_fireLog hdistinct hmem, hstart]
    _ = if minute.key ∈ dueKeys schedule ticks then 1 else 0 :=
        count_passes (pairwise_dueKeys hclock schedule) minute.key
    _ = _ := by simp only [hiff]

/-! ### The night the clock is put back -/

def nightSchedule : Schedule where
  uuid := "a"
  daysOfWeek := 127
  hour := ⟨1, by decide⟩
  minute := ⟨30, by decide⟩
  action := { type := .buttonOff, target := "Spa Light" }

def novemberNight (hour : Fin 24) (minute : Fin 60) : Tm :=
  ⟨126, 10, 1, hour, minute, ⟨0, by decide⟩⟩

/-- Two ticks at 01:30, and at two o'clock the hour is repeated: one firing. -/
theorem fired_once_novemberNight :
    timesFired nightSchedule (novemberNight 1 30)
      (fireLog ⟨[nightSchedule], fun _ => none⟩
        [novemberNight 1 30, novemberNight 1 30, novemberNight 1 59, novemberNight 1 0,
          novemberNight 1 30]) = 1 :=
  (fired_once ⟨[nightSchedule], fun _ => none⟩ (by simp) rfl
    (by decide) (by simp) (novemberNight 1 30)).trans
    (if_pos ⟨novemberNight 1 30, by simp, ⟨rfl, rfl, rfl⟩, by decide⟩)

end AqualinkAutomate.Scheduling
