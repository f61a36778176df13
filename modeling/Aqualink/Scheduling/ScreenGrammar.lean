import Aqualink.Scheduling.ScheduleParsers
import Aqualink.Scheduling.Validation

/-!
# What the readers of the screens accept

The rows of a program are to be read exactly if they are rendered in full: a clock of the form
`H:MM` or `HH:MM` with its meridiem, behind `ON` or `OFF` on the keypad and in a field of its own
on the touch panel, and one of the names for the days (`IsTimeRow`, `IsDaysRow`, `IsProgramPage`,
`IsScheduleRow`).

The readers part a clock at its first colon, and of each half they read the number that it begins
with, so `8:3`, `8x:30` and `008:0-` are read as well.  The touch panel's reader also passes over
blank fields.  Otherwise the readers are exact (`screen_readers_exact_iff`).
-/

namespace AqualinkAutomate.Scheduling

open General List Option

theorem exact_iff_of_complete {β : Type*} {parse : Option β} {Renders : β → Prop}
    (hcomplete : ∀ value, Renders value → parse = some value) :
    (∀ value, parse = some value ↔ Renders value) ↔
      ¬ (parse.isSome ∧ ¬ ∃ value, Renders value) := by
  constructor
  · rintro hexact ⟨hsome, hnone⟩
    obtain ⟨value, hvalue⟩ := Option.isSome_iff_exists.mp hsome
    exact hnone ⟨value, (hexact value).mp hvalue⟩
  · intro hloose value
    refine ⟨fun hvalue => ?_, hcomplete value⟩
    by_contra hrenders
    refine hloose ⟨by rw [hvalue]; rfl, fun ⟨other, hother⟩ => hrenders ?_⟩
    have hsame := hvalue.symm.trans (hcomplete other hother)
    rwa [Option.some_inj.mp hsame]

/-! ## Names in a table -/

section

variable {α β : Type*} {p : α → Bool} {table : List (α × β)} {value : β}

/-- Look up the value of the first name that fits. -/
def lookUp (p : α → Bool) (table : List (α × β)) : Option β :=
  (table.find? fun pair => p pair.1).map Prod.snd

theorem lookUp_cons (p : α → Bool) (name : α) (value : β) (table : List (α × β)) :
    lookUp p ((name, value) :: table) = if p name then some value else lookUp p table := by
  unfold lookUp
  cases hp : p name <;> simp [hp]

theorem lookUp_eq_some_iff
    (hone : ∀ pair ∈ table, ∀ other ∈ table, p pair.1 → p other.1 → pair = other) :
    lookUp p table = some value ↔ ∃ name, (name, value) ∈ table ∧ p name := by
  unfold lookUp
  constructor
  · intro h
    obtain ⟨⟨name, _⟩, hfind, rfl⟩ := Option.map_eq_some_iff.mp h
    have hfits := find?_some hfind
    exact ⟨name, mem_of_find?_eq_some hfind, hfits⟩
  · rintro ⟨name, hmem, hfits⟩
    have hsome : (table.find? fun pair => p pair.1).isSome :=
      List.find?_isSome.mpr ⟨(name, value), hmem, hfits⟩
    obtain ⟨found, hfind⟩ := Option.isSome_iff_exists.mp hsome
    have hfound : p found.1 := by simpa using find?_some hfind
    have hsame := hone found (mem_of_find?_eq_some hfind) _ hmem hfound hfits
    rw [hfind, hsame]
    rfl

end

/-! ## Clocks -/

def hour12 (hour : ℕ) : ℕ := if hour % 12 = 0 then 12 else hour % 12

def IsClock (clock : List Char) (hour minute : ℕ) : Prop :=
  (1 ≤ hour ∧ hour ≤ 12) ∧ minute ≤ 59 ∧
    ∃ h ∈ [Nat.toDigits 10 hour, twoDigits hour], clock = h ++ ':' :: twoDigits minute

def ShowsTime (isPm : List Char → Option Bool) (clock meridiem : List Char) (time : ℤ × ℤ) :
    Prop :=
  ∃ hour minute : ℕ, hour < 24 ∧ IsClock clock (hour12 hour) minute ∧
    isPm meridiem = some (decide (12 ≤ hour)) ∧ time = (↑hour, ↑minute)

/-- The checks on a clock: both halves begin with a number that is in range. -/
def ClockPasses (clock : List Char) : Prop :=
  ∃ h m hv mv, clock = h ++ ':' :: m ∧ ':' ∉ h ∧ fromChars h = some hv ∧
    fromChars m = some mv ∧ (1 ≤ hv ∧ hv ≤ 12) ∧ 0 ≤ mv ∧ mv ≤ 59

section

variable {isPm : List Char → Option Bool} {clock mer h m : List Char} {time : ℤ × ℤ}
variable {hour minute : ℕ}

theorem fromChars_hour (hbounds : 1 ≤ hour ∧ hour ≤ 12)
    (hh : h ∈ [Nat.toDigits 10 hour, twoDigits hour]) :
    ':' ∉ h ∧ fromChars h = some (hour : ℤ) := by
  have hall : ∀ n : Fin 13, ∀ h ∈ [Nat.toDigits 10 n, twoDigits n],
      ':' ∉ h ∧ fromChars h = some (n : ℤ) := by decide
  exact hall ⟨hour, by omega⟩ h hh

theorem parse12HourTime_halves (hcolon : ':' ∉ h) (m : List Char)
    (isPm : List Char → Option Bool) (mer : List Char) :
    parse12HourTime isPm (h ++ ':' :: m) mer =
      (fromChars h).bind fun hv => (fromChars m).bind fun mv => (isPm mer).bind fun pm =>
        if hv < 1 ∨ 12 < hv ∨ mv < 0 ∨ 59 < mv then none
        else some (hv % 12 + if pm then 12 else 0, mv) := by
  have hplain (c : Char) (hc : c ∈ h) : decide (c ≠ ':') :=
    decide_eq_true fun heq => hcolon (heq ▸ hc)
  have htake : (h ++ ':' :: m).takeWhile (fun c => decide (c ≠ ':')) = h := by
    rw [takeWhile_append_of_pos hplain]
    simp
  have hdrop : ((h ++ ':' :: m).dropWhile fun c => decide (c ≠ ':')).drop 1 = m := by
    rw [dropWhile_append_of_pos hplain]
    simp
  unfold parse12HourTime
  rw [if_pos (by simp), htake, hdrop]
  dsimp only
  cases fromChars h with
  | none => rfl
  | some hv =>
    cases fromChars m with
    | none => rfl
    | some mv =>
      cases isPm mer with
      | none => rfl
      | some pm =>
        simp only [bind_some]
        split
        next => rfl
        next hrange =>
          -- noon and midnight are the twelve of the clock
          have hmod : hv % 12 = if hv = 12 then 0 else hv := by
            split <;> omega
          rw [hmod]
          cases pm with
          | false => simp
          | true => by_cases hnoon : hv = 12 <;> simp [hnoon]

theorem parse12HourTime_isSome_iff : (parse12HourTime isPm clock mer).isSome ↔
    ClockPasses clock ∧ (isPm mer).isSome := by
  constructor
  · intro hsome
    obtain ⟨time, htime⟩ := Option.isSome_iff_exists.mp hsome
    by_cases hcolon : ':' ∈ clock
    · obtain ⟨h, m, rfl, hnot⟩ := eq_append_cons_of_mem hcolon
      rw [parse12HourTime_halves hnot] at htime
      obtain ⟨hv, hhour, htime⟩ := Option.bind_eq_some_iff.mp htime
      obtain ⟨mv, hminute, htime⟩ := Option.bind_eq_some_iff.mp htime
      obtain ⟨pm, hpm, htime⟩ := Option.bind_eq_some_iff.mp htime
      split at htime
      next => cases htime
      next hrange =>
        exact ⟨⟨h, m, hv, mv, rfl, hnot, hhour, hminute, by omega⟩, by rw [hpm]; rfl⟩
    · rw [parse12HourTime, if_neg hcolon] at htime
      cases htime
  · rintro ⟨⟨h, m, hv, mv, rfl, hcolon, hhour, hminute, hrange⟩, hpm⟩
    obtain ⟨pm, hpm⟩ := Option.isSome_iff_exists.mp hpm
    rw [parse12HourTime_halves hcolon, hhour, hminute, hpm]
    simp only [bind_some]
    rw [if_neg (by omega)]
    rfl

theorem ShowsTime.parse (hshows : ShowsTime isPm clock mer time) :
    parse12HourTime isPm clock mer = some time := by
  obtain ⟨hour, minute, hhour, ⟨hbounds, hminute, h, hh, rfl⟩, hpm, rfl⟩ := hshows
  obtain ⟨hcolon, hread⟩ := fromChars_hour hbounds hh
  have hreadMinute : fromChars (twoDigits minute) = some (minute : ℤ) :=
    fromChars_twoDigits ⟨minute, by omega⟩
  have hrange : ¬ (((hour12 hour : ℕ) : ℤ) < 1 ∨ 12 < ((hour12 hour : ℕ) : ℤ) ∨
      (minute : ℤ) < 0 ∨ 59 < (minute : ℤ)) := by
    omega
  have hback : ((hour12 hour : ℕ) : ℤ) % 12 + (if 12 ≤ hour then 12 else 0) = (hour : ℤ) := by
    unfold hour12
    split_ifs <;> omega
  rw [parse12HourTime_halves hcolon, hread, hreadMinute, hpm]
  simp only [bind_some, decide_eq_true_eq]
  rw [if_neg hrange, hback]

theorem IsClock.showsTime {pm : Bool} (hclock : IsClock clock hour minute)
    (hpm : isPm mer = some pm) : ∃ time, ShowsTime isPm clock mer time := by
  have hbounds := hclock.1
  refine ⟨_, hour % 12 + if pm then 12 else 0, minute, ?_, ?_, ?_, rfl⟩
  · split <;> omega
  · have hsame : hour12 (hour % 12 + if pm then 12 else 0) = hour := by
      unfold hour12
      split_ifs <;> omega
    rwa [hsame]
  · rw [hpm]
    cases pm with
    | false =>
      have hmorning : ¬ 12 ≤ hour % 12 := by omega
      simp [hmorning]
    | true =>
      simp

theorem IsClock.length (hclock : IsClock clock hour minute) : 4 ≤ clock.length := by
  obtain ⟨hbounds, hminute, h, hh, rfl⟩ := hclock
  have hne : h ≠ [] := by
    rintro rfl
    have hread := (fromChars_hour hbounds hh).2
    cases hread
  have hpos := List.length_pos_iff.mpr hne
  simp only [length_append, length_cons, twoDigits, length_nil]
  omega

theorem tokenise_eq_iff {text : List Char} {ws : List (List Char)} :
    tokenise text = ws ↔ Spaced (fun c => decide (c = ' ')) ws text :=
  words_eq_iff

end

end AqualinkAutomate.Scheduling

/-! ## The keypad -/

namespace AqualinkAutomate.OneTouch

open General Navigation Scheduling

/-- The row is `ON` or `OFF` with a clock and a meridiem behind it. -/
def IsTimeRow (expectedPrefix row : Text) (time : ℤ × ℤ) : Prop :=
  ∃ first clock mer, Spaced (fun c => decide (c = ' ')) [first, clock, mer] row ∧
    iEquals first expectedPrefix = true ∧ ShowsTime meridiem clock mer time

def ClockInForm (row : Text) : Prop :=
  ∃ first clock mer, Spaced (fun c => decide (c = ' ')) [first, clock, mer] row ∧
    ∃ hour minute, IsClock clock hour minute

def TimeRowPasses (expectedPrefix row : Text) : Prop :=
  ∃ first clock mer, Spaced (fun c => decide (c = ' ')) [first, clock, mer] row ∧
    iEquals first expectedPrefix = true ∧ ClockPasses clock ∧
      (iEquals mer "PM".toList = true ∨ iEquals mer "AM".toList = true)

def daysNames : List (String × UInt8) :=
  [("All Days", DayMask.allDays), ("Weekdays", DayMask.weekdays), ("Weekends", DayMask.weekends),
    ("Mon", DayMask.monday), ("Tue", DayMask.tuesday), ("Wed", DayMask.wednesday),
    ("Thu", DayMask.thursday), ("Fri", DayMask.friday), ("Sat", DayMask.saturday),
    ("Sun", DayMask.sunday)]

/-- The row is one of the names of the days, case and the blanks around it aside. -/
def IsDaysRow (row : Text) (days : UInt8) : Prop :=
  ∃ name, (name, days) ∈ daysNames ∧ iEquals (trim row) name.toList = true

def IsProgramPage (lines : List Text) (program : ControllerSchedule) : Prop :=
  ∃ target second third on off days more onTime offTime daysOfWeek,
    lines = target :: second :: third :: on :: off :: days :: more ∧
      trim target ≠ [] ∧ iEquals (trim target) "No Programs".toList = false ∧
      IsTimeRow "ON".toList on onTime ∧ IsTimeRow "OFF".toList off offTime ∧
      IsDaysRow days daysOfWeek ∧
      program =
        { target := trim target
          daysOfWeek := daysOfWeek
          onHour := onTime.1
          onMinute := onTime.2
          offHour := offTime.1
          offMinute := offTime.2 }

def LooseProgramPage (lines : List Text) : Prop :=
  ∃ target second third on off days more daysOfWeek,
    lines = target :: second :: third :: on :: off :: days :: more ∧
      trim target ≠ [] ∧ iEquals (trim target) "No Programs".toList = false ∧
      TimeRowPasses "ON".toList on ∧ TimeRowPasses "OFF".toList off ∧
      IsDaysRow days daysOfWeek ∧ ¬ (ClockInForm on ∧ ClockInForm off)

section

variable {expectedPrefix row token : Text} {time : ℤ × ℤ} {days : UInt8} {lines : List Text}
variable {program : ControllerSchedule}

theorem meridiem_isSome_iff : (meridiem token).isSome ↔
    iEquals token "PM".toList ∨ iEquals token "AM".toList := by
  unfold meridiem
  split
  next hpm => exact iff_of_true rfl (.inl hpm)
  next hpm =>
    split
    next ham => exact iff_of_true rfl (.inr ham)
    next ham => exact iff_of_false Bool.false_ne_true (not_or.mpr ⟨hpm, ham⟩)

theorem parseTimeRow_eq_some_iff : parseTimeRow row expectedPrefix = some time ↔
    ∃ first clock mer, Spaced (fun c => decide (c = ' ')) [first, clock, mer] row ∧
      iEquals first expectedPrefix ∧ parse12HourTime meridiem clock mer = some time := by
  unfold parseTimeRow
  constructor
  · intro h
    split at h
    next first clock mer htokens =>
      split at h
      next hfirst => exact ⟨first, clock, mer, tokenise_eq_iff.mp htokens, hfirst, h⟩
      next => cases h
    next => cases h
  · rintro ⟨first, clock, mer, hrow, hfirst, hclock⟩
    rw [tokenise_eq_iff.mpr hrow]
    exact (if_pos hfirst).trans hclock

theorem IsTimeRow.parse (h : IsTimeRow expectedPrefix row time) :
    parseTimeRow row expectedPrefix = some time := by
  obtain ⟨first, clock, mer, hrow, hfirst, hshows⟩ := h
  exact parseTimeRow_eq_some_iff.mpr ⟨first, clock, mer, hrow, hfirst, hshows.parse⟩

theorem parseTimeRow_isSome_iff :
    (parseTimeRow row expectedPrefix).isSome ↔ TimeRowPasses expectedPrefix row := by
  simp only [TimeRowPasses, ← meridiem_isSome_iff, ← parse12HourTime_isSome_iff]
  simp only [Option.isSome_iff_exists, parseTimeRow_eq_some_iff]
  constructor
  · rintro ⟨time, first, clock, mer, hrow, hfirst, hread⟩
    exact ⟨first, clock, mer, hrow, hfirst, time, hread⟩
  · rintro ⟨first, clock, mer, hrow, hfirst, time, hread⟩
    exact ⟨time, first, clock, mer, hrow, hfirst, hread⟩

theorem exists_isTimeRow_iff (hpasses : TimeRowPasses expectedPrefix row) :
    (∃ time, IsTimeRow expectedPrefix row time) ↔ ClockInForm row := by
  constructor
  · rintro ⟨time, first, clock, mer, hrow, -, hour, minute, -, hclock, -⟩
    exact ⟨first, clock, mer, hrow, hour12 hour, minute, hclock⟩
  · rintro ⟨first, clock, mer, hrow, hour, minute, hclock⟩
    obtain ⟨first', clock', mer', hrow', hfirst, -, hmer⟩ := hpasses
    -- a row has its words in one way only
    have hsame := (words_of_spaced hrow).symm.trans (words_of_spaced hrow')
    simp only [List.cons.injEq, and_true] at hsame
    obtain ⟨rfl, rfl, rfl⟩ := hsame
    obtain ⟨pm, hpm⟩ := Option.isSome_iff_exists.mp (meridiem_isSome_iff.mpr hmer)
    obtain ⟨time, hshows⟩ := hclock.showsTime hpm
    exact ⟨time, first, clock, mer, hrow, hfirst, hshows⟩

theorem parseTimeRow_exact_iff (expectedPrefix row : Text) :
    (∀ time, parseTimeRow row expectedPrefix = some time ↔ IsTimeRow expectedPrefix row time) ↔
      ¬ (TimeRowPasses expectedPrefix row ∧ ¬ ClockInForm row) := by
  rw [exact_iff_of_complete fun _ => IsTimeRow.parse, parseTimeRow_isSome_iff]
  exact not_congr (and_congr_right fun hpasses => not_congr (exists_isTimeRow_iff hpasses))

theorem iEquals_iff {first second : Text} : iEquals first second ↔
    first.map Char.toUpper = second.map Char.toUpper := by
  rw [iEquals, beq_iff_eq]

theorem parseDaysRow_eq_lookUp (row : Text) :
    parseDaysRow row = lookUp (fun name => iEquals (trim row) name.toList) daysNames := by
  simp only [daysNames, lookUp_cons]
  rfl

theorem parseDaysRow_eq_some_iff : parseDaysRow row = some days ↔ IsDaysRow row days := by
  have happart : ∀ pair ∈ daysNames, ∀ other ∈ daysNames,
      pair.1.toList.map Char.toUpper = other.1.toList.map Char.toUpper → pair = other := by
    decide
  rw [parseDaysRow_eq_lookUp, IsDaysRow]
  refine lookUp_eq_some_iff fun pair hpair other hother hfits hfitsOther => ?_
  exact happart pair hpair other hother
    ((iEquals_iff.mp hfits).symm.trans (iEquals_iff.mp hfitsOther))

theorem parseProgramDetailLines_eq_some_iff : parseProgramDetailLines lines = some program ↔
    ∃ target second third on off days more onTime offTime daysOfWeek,
      lines = target :: second :: third :: on :: off :: days :: more ∧
        trim target ≠ [] ∧ iEquals (trim target) "No Programs".toList = false ∧
        parseTimeRow on "ON".toList = some onTime ∧ parseTimeRow off "OFF".toList = some offTime ∧
        IsDaysRow days daysOfWeek ∧
        program =
          { target := trim target
            daysOfWeek := daysOfWeek
            onHour := onTime.1
            onMinute := onTime.2
            offHour := offTime.1
            offMinute := offTime.2 } := by
  unfold parseProgramDetailLines
  constructor
  · intro h
    split at h
    next target second third on off dayRow more =>
      dsimp only at h
      split at h
      next => cases h
      next hnamed =>
        obtain ⟨hne, hprogram⟩ := not_or.mp hnamed
        split at h
        next onTime offTime daysOfWeek hon hoff hdays =>
          exact ⟨target, second, third, on, off, dayRow, more, onTime, offTime, daysOfWeek, rfl,
            hne, Bool.eq_false_iff.mpr hprogram, hon, hoff, parseDaysRow_eq_some_iff.mp hdays,
            (Option.some_inj.mp h).symm⟩
        next => cases h
    next => cases h
  · rintro ⟨target, second, third, on, off, dayRow, more, onTime, offTime, daysOfWeek, rfl, hne,
      hprogram, hon, hoff, hdays, rfl⟩
    dsimp only
    rw [if_neg (not_or.mpr ⟨hne, by rw [hprogram]; exact Bool.false_ne_true⟩), hon, hoff,
      parseDaysRow_eq_some_iff.mpr hdays]

theorem IsProgramPage.parse (h : IsProgramPage lines program) :
    parseProgramDetailLines lines = some program := by
  obtain ⟨target, second, third, on, off, dayRow, more, onTime, offTime, daysOfWeek, hlines, hne,
    hprogram, hon, hoff, hdays, hfields⟩ := h
  exact parseProgramDetailLines_eq_some_iff.mpr ⟨target, second, third, on, off, dayRow, more,
    onTime, offTime, daysOfWeek, hlines, hne, hprogram, hon.parse, hoff.parse, hdays, hfields⟩

theorem parseProgramDetailLines_exact_iff (lines : List Text) :
    (∀ program, parseProgramDetailLines lines = some program ↔ IsProgramPage lines program) ↔
      ¬ LooseProgramPage lines := by
  rw [exact_iff_of_complete fun _ => IsProgramPage.parse]
  refine not_congr ⟨?_, ?_⟩
  · rintro ⟨hsome, hnone⟩
    obtain ⟨program, hprogram⟩ := Option.isSome_iff_exists.mp hsome
    obtain ⟨target, second, third, on, off, days, more, onRead, offRead, daysOfWeek, hlines, hne,
      hnot, honRead, hoffRead, hdays, -⟩ := parseProgramDetailLines_eq_some_iff.mp hprogram
    have hon := parseTimeRow_isSome_iff.mp (Option.isSome_of_eq_some honRead)
    have hoff := parseTimeRow_isSome_iff.mp (Option.isSome_of_eq_some hoffRead)
    refine ⟨target, second, third, on, off, days, more, daysOfWeek, hlines, hne, hnot, hon, hoff,
      hdays, fun ⟨honClock, hoffClock⟩ => hnone ?_⟩
    obtain ⟨onTime, honTime⟩ := (exists_isTimeRow_iff hon).mpr honClock
    obtain ⟨offTime, hoffTime⟩ := (exists_isTimeRow_iff hoff).mpr hoffClock
    exact ⟨_, target, second, third, on, off, days, more, onTime, offTime, daysOfWeek, hlines, hne,
      hnot, honTime, hoffTime, hdays, rfl⟩
  · rintro ⟨target, second, third, on, off, days, more, daysOfWeek, rfl, hne, hnot, hon, hoff,
      hdays, hloose⟩
    constructor
    · obtain ⟨onTime, honTime⟩ := Option.isSome_iff_exists.mp (parseTimeRow_isSome_iff.mpr hon)
      obtain ⟨offTime, hoffTime⟩ := Option.isSome_iff_exists.mp (parseTimeRow_isSome_iff.mpr hoff)
      exact Option.isSome_of_eq_some (parseProgramDetailLines_eq_some_iff.mpr
        ⟨target, second, third, on, off, days, more, onTime, offTime, daysOfWeek, rfl, hne, hnot,
          honTime, hoffTime, hdays, rfl⟩)
    · rintro ⟨program, target', second', third', on', off', days', more', onTime, offTime,
        daysOfWeek', hlines, -, -, honTime, hoffTime, -, -⟩
      simp only [List.cons.injEq] at hlines
      obtain ⟨rfl, rfl, rfl, rfl, rfl, rfl, rfl⟩ := hlines
      exact hloose ⟨(exists_isTimeRow_iff hon).mp ⟨onTime, honTime⟩,
        (exists_isTimeRow_iff hoff).mp ⟨offTime, hoffTime⟩⟩

end

end AqualinkAutomate.OneTouch

/-! ## The touch panel -/

namespace AqualinkAutomate.Iaq

open General Navigation Scheduling

def IsTimeField (field : Text) (time : ℤ × ℤ) : Prop :=
  ∃ clock mer, Spaced (fun c => decide (c = ' ')) [clock, mer] field ∧
    ShowsTime meridiem clock mer time

def ClockInForm (field : Text) : Prop :=
  ∃ clock mer, Spaced (fun c => decide (c = ' ')) [clock, mer] field ∧
    ∃ hour minute, IsClock clock hour minute

def TimeFieldPasses (field : Text) : Prop :=
  ∃ clock mer, Spaced (fun c => decide (c = ' ')) [clock, mer] field ∧ ClockPasses clock ∧
    mer ∈ ["PM".toList, "pm".toList, "AM".toList, "am".toList]

def dayTokens : List (String × UInt8) :=
  [("All", DayMask.allDays), ("Wkdays", DayMask.weekdays), ("Wkends", DayMask.weekends),
    ("Su", DayMask.sunday), ("M", DayMask.monday), ("Tu", DayMask.tuesday),
    ("W", DayMask.wednesday), ("Th", DayMask.thursday), ("F", DayMask.friday),
    ("Sa", DayMask.saturday)]

def fieldsOf (row : Text) : List Text := (row.splitOnP isFieldSeparator).map trim

/-- The row has the four fields of a program, and blank ones behind them at most. -/
def IsScheduleRow (row : Text) (program : ControllerSchedule) : Prop :=
  ∃ target on off token more onTime offTime daysOfWeek,
    fieldsOf row = target :: on :: off :: token :: more ∧ (∀ field ∈ more, field = []) ∧
      target ≠ [] ∧ IsTimeField on onTime ∧ IsTimeField off offTime ∧
      (∃ name, (name, daysOfWeek) ∈ dayTokens ∧ token = name.toList) ∧
      program =
        { target := target
          daysOfWeek := daysOfWeek
          onHour := onTime.1
          onMinute := onTime.2
          offHour := offTime.1
          offMinute := offTime.2 }

def BlankBehind (row : Text) : Prop :=
  ∃ fields more, fieldsOf row = fields ++ more ∧ (∀ field ∈ fields, field ≠ []) ∧
    ∀ field ∈ more, field = []

/-- A row that passes the checks with a clock out of form, or with a blank field in front of
another one. -/
def LooseScheduleRow (row : Text) : Prop :=
  ∃ target on off token,
    (fieldsOf row).filter (fun field => !field.isEmpty) = [target, on, off, token] ∧
      TimeFieldPasses on ∧ TimeFieldPasses off ∧
      (∃ name daysOfWeek, (name, daysOfWeek) ∈ dayTokens ∧ token = name.toList) ∧
      ¬ (BlankBehind row ∧ ClockInForm on ∧ ClockInForm off)

section

variable {field token row : Text} {time : ℤ × ℤ} {daysOfWeek : UInt8} {program : ControllerSchedule}

theorem meridiem_isSome_iff : (meridiem token).isSome ↔
    token ∈ ["PM".toList, "pm".toList, "AM".toList, "am".toList] := by
  simp only [List.mem_cons, List.not_mem_nil, or_false]
  unfold meridiem
  split
  next hpm => exact iff_of_true rfl (hpm.elim .inl fun h => .inr (.inl h))
  next hpm =>
    obtain ⟨hupper, hlower⟩ := not_or.mp hpm
    rw [or_iff_right hupper, or_iff_right hlower]
    split
    next ham => exact iff_of_true rfl ham
    next ham => exact iff_of_false Bool.false_ne_true ham

theorem parseDayToken_eq_some_iff : parseDayToken token = some daysOfWeek ↔
    ∃ name, (name, daysOfWeek) ∈ dayTokens ∧ token = name.toList := by
  have happart : ∀ pair ∈ dayTokens, ∀ other ∈ dayTokens, pair.1 = other.1 → pair = other := by
    decide
  have htable : parseDayToken token =
      lookUp (fun name => decide (token = name.toList)) dayTokens := by
    simp only [dayTokens, lookUp_cons, decide_eq_true_eq]
    rfl
  rw [htable, lookUp_eq_some_iff]
  · simp only [decide_eq_true_eq]
  · intro pair hpair other hother hfits hfitsOther
    rw [decide_eq_true_eq] at hfits hfitsOther
    exact happart pair hpair other hother (String.toList_injective (hfits.symm.trans hfitsOther))

theorem parseTimeField_eq_some_iff : parseTimeField field = some time ↔
    ∃ clock mer, Spaced (fun c => decide (c = ' ')) [clock, mer] field ∧
      parse12HourTime meridiem clock mer = some time := by
  unfold parseTimeField
  constructor
  · intro h
    split at h
    next clock mer htokens => exact ⟨clock, mer, tokenise_eq_iff.mp htokens, h⟩
    next => cases h
  · rintro ⟨clock, mer, hfield, hclock⟩
    rwa [tokenise_eq_iff.mpr hfield]

theorem IsTimeField.parse (h : IsTimeField field time) : parseTimeField field = some time := by
  obtain ⟨clock, mer, hfield, hshows⟩ := h
  exact parseTimeField_eq_some_iff.mpr ⟨clock, mer, hfield, hshows.parse⟩

theorem parseTimeField_isSome_iff : (parseTimeField field).isSome ↔ TimeFieldPasses field := by
  simp only [TimeFieldPasses, ← meridiem_isSome_iff, ← parse12HourTime_isSome_iff]
  simp only [Option.isSome_iff_exists, parseTimeField_eq_some_iff]
  constructor
  · rintro ⟨time, clock, mer, hfield, hread⟩
    exact ⟨clock, mer, hfield, time, hread⟩
  · rintro ⟨clock, mer, hfield, time, hread⟩
    exact ⟨time, clock, mer, hfield, hread⟩

theorem exists_isTimeField_iff (hpasses : TimeFieldPasses field) :
    (∃ time, IsTimeField field time) ↔ ClockInForm field := by
  constructor
  · rintro ⟨time, clock, mer, hfield, hour, minute, -, hclock, -⟩
    exact ⟨clock, mer, hfield, hour12 hour, minute, hclock⟩
  · rintro ⟨clock, mer, hfield, hour, minute, hclock⟩
    obtain ⟨clock', mer', hfield', -, hmer⟩ := hpasses
    have hsame := (words_of_spaced hfield).symm.trans (words_of_spaced hfield')
    simp only [List.cons.injEq, and_true] at hsame
    obtain ⟨rfl, rfl⟩ := hsame
    obtain ⟨pm, hpm⟩ := Option.isSome_iff_exists.mp (meridiem_isSome_iff.mpr hmer)
    obtain ⟨time, hshows⟩ := hclock.showsTime hpm
    exact ⟨time, clock, mer, hfield, hshows⟩

theorem filter_eq_of_blank_behind {fields more : List Text} (hfields : ∀ field ∈ fields, field ≠ [])
    (hmore : ∀ field ∈ more, field = []) :
    (fields ++ more).filter (fun field => !field.isEmpty) = fields := by
  have hkept : fields.filter (fun field => !field.isEmpty) = fields :=
    List.filter_eq_self.mpr fun field hfield => by simpa using hfields field hfield
  have hdropped : more.filter (fun field => !field.isEmpty) = [] :=
    List.filter_eq_nil_iff.mpr fun field hfield => by simp [hmore field hfield]
  rw [List.filter_append, hkept, hdropped, List.append_nil]

theorem ne_nil_of_timeFieldPasses (h : TimeFieldPasses field) : field ≠ [] := by
  rintro rfl
  obtain ⟨clock, mer, hfield, -⟩ := h
  have hwords := words_of_spaced hfield
  simp [words] at hwords

theorem dayToken_ne_nil (h : ∃ name, (name, daysOfWeek) ∈ dayTokens ∧ token = name.toList) :
    token ≠ [] := by
  rintro rfl
  have hnone : parseDayToken [] = none := by decide
  have hsome := parseDayToken_eq_some_iff.mpr h
  rw [hnone] at hsome
  cases hsome

theorem splitFields_of_fieldsOf {target on off : Text} {more : List Text} {onTime offTime : ℤ × ℤ}
    (hfields : fieldsOf row = target :: on :: off :: token :: more)
    (hmore : ∀ field ∈ more, field = []) (hne : target ≠ []) (hon : IsTimeField on onTime)
    (hoff : IsTimeField off offTime)
    (hdays : ∃ name, (name, daysOfWeek) ∈ dayTokens ∧ token = name.toList) :
    (∀ field ∈ [target, on, off, token], field ≠ []) ∧
      splitFields row = [target, on, off, token] := by
  have honPasses := parseTimeField_isSome_iff.mp (by rw [hon.parse]; rfl)
  have hoffPasses := parseTimeField_isSome_iff.mp (by rw [hoff.parse]; rfl)
  have hnonblank : ∀ field ∈ [target, on, off, token], field ≠ [] := by
    simp only [List.mem_cons, List.not_mem_nil, or_false, forall_eq_or_imp, forall_eq]
    exact ⟨hne, ne_nil_of_timeFieldPasses honPasses, ne_nil_of_timeFieldPasses hoffPasses,
      dayToken_ne_nil hdays⟩
  refine ⟨hnonblank, ?_⟩
  calc splitFields row
      = (fieldsOf row).filter fun field => !field.isEmpty := rfl
    _ = ([target, on, off, token] ++ more).filter fun field => !field.isEmpty := by
        rw [hfields]
        rfl
    _ = [target, on, off, token] := filter_eq_of_blank_behind hnonblank hmore

theorem parseScheduleRow_eq_some_iff : parseScheduleRow row = some program ↔
    ∃ target on off token onTime offTime daysOfWeek, splitFields row = [target, on, off, token] ∧
      parseTimeField on = some onTime ∧ parseTimeField off = some offTime ∧
      parseDayToken token = some daysOfWeek ∧
      program =
        { target := target
          daysOfWeek := daysOfWeek
          onHour := onTime.1
          onMinute := onTime.2
          offHour := offTime.1
          offMinute := offTime.2 } := by
  unfold parseScheduleRow
  constructor
  · intro h
    split at h
    next target on off token hsplit =>
      split at h
      next onTime offTime daysOfWeek hon hoff hdays =>
        exact ⟨target, on, off, token, onTime, offTime, daysOfWeek, hsplit, hon, hoff, hdays,
          (Option.some_inj.mp h).symm⟩
      next => cases h
    next => cases h
  · rintro ⟨target, on, off, token, onTime, offTime, daysOfWeek, hsplit, hon, hoff, hdays, rfl⟩
    rw [hsplit]
    dsimp only
    rw [hon, hoff, hdays]

theorem IsScheduleRow.parse (h : IsScheduleRow row program) :
    parseScheduleRow row = some program := by
  obtain ⟨target, on, off, token, more, onTime, offTime, daysOfWeek, hfields, hmore, hne, hon, hoff,
    hdays, hprogram⟩ := h
  have hsplit := (splitFields_of_fieldsOf hfields hmore hne hon hoff hdays).2
  exact parseScheduleRow_eq_some_iff.mpr ⟨target, on, off, token, onTime, offTime, daysOfWeek,
    hsplit, hon.parse, hoff.parse, parseDayToken_eq_some_iff.mpr hdays, hprogram⟩

theorem parseScheduleRow_isSome_iff : (parseScheduleRow row).isSome ↔
    ∃ target on off token, splitFields row = [target, on, off, token] ∧ TimeFieldPasses on ∧
      TimeFieldPasses off ∧ ∃ name daysOfWeek, (name, daysOfWeek) ∈ dayTokens ∧
        token = name.toList := by
  constructor
  · intro hsome
    obtain ⟨program, hprogram⟩ := Option.isSome_iff_exists.mp hsome
    obtain ⟨target, on, off, token, onTime, offTime, daysOfWeek, hsplit, hon, hoff, hdays, -⟩ :=
      parseScheduleRow_eq_some_iff.mp hprogram
    obtain ⟨name, hname⟩ := parseDayToken_eq_some_iff.mp hdays
    exact ⟨target, on, off, token, hsplit,
      parseTimeField_isSome_iff.mp (Option.isSome_of_eq_some hon),
      parseTimeField_isSome_iff.mp (Option.isSome_of_eq_some hoff), name, daysOfWeek, hname⟩
  · rintro ⟨target, on, off, token, hsplit, hon, hoff, name, daysOfWeek, hname⟩
    obtain ⟨onTime, honTime⟩ := Option.isSome_iff_exists.mp (parseTimeField_isSome_iff.mpr hon)
    obtain ⟨offTime, hoffTime⟩ := Option.isSome_iff_exists.mp (parseTimeField_isSome_iff.mpr hoff)
    exact Option.isSome_of_eq_some (parseScheduleRow_eq_some_iff.mpr
      ⟨target, on, off, token, onTime, offTime, daysOfWeek, hsplit, honTime, hoffTime,
        parseDayToken_eq_some_iff.mpr ⟨name, hname⟩, rfl⟩)

theorem parseScheduleRow_exact_iff (row : Text) :
    (∀ program, parseScheduleRow row = some program ↔ IsScheduleRow row program) ↔
      ¬ LooseScheduleRow row := by
  rw [exact_iff_of_complete fun _ => IsScheduleRow.parse, parseScheduleRow_isSome_iff]
  refine not_congr ⟨?_, ?_⟩
  · rintro ⟨⟨target, on, off, token, hsplit, hon, hoff, name, daysOfWeek, hname⟩, hnone⟩
    refine ⟨target, on, off, token, hsplit, hon, hoff, ⟨name, daysOfWeek, hname⟩,
      fun ⟨⟨fields, more, hfields, hnonblank, hblank⟩, honClock, hoffClock⟩ => hnone ?_⟩
    obtain ⟨onTime, honTime⟩ := (exists_isTimeField_iff hon).mpr honClock
    obtain ⟨offTime, hoffTime⟩ := (exists_isTimeField_iff hoff).mpr hoffClock
    have hfour : fields = [target, on, off, token] := by
      calc fields = (fields ++ more).filter fun field => !field.isEmpty :=
            (filter_eq_of_blank_behind hnonblank hblank).symm
        _ = (fieldsOf row).filter fun field => !field.isEmpty := by rw [hfields]
        _ = [target, on, off, token] := hsplit
    subst hfour
    exact ⟨_, target, on, off, token, more, onTime, offTime, daysOfWeek, hfields, hblank,
      hnonblank target List.mem_cons_self, honTime, hoffTime, ⟨name, hname⟩, rfl⟩
  · rintro ⟨target, on, off, token, hsplit, hon, hoff, hdays, hloose⟩
    obtain ⟨name, daysOfWeek, hname⟩ := hdays
    refine ⟨⟨target, on, off, token, hsplit, hon, hoff, name, daysOfWeek, hname⟩, ?_⟩
    rintro ⟨program, target', on', off', token', more, onTime, offTime, days, hfields, hblank, hne,
      honTime, hoffTime, htoken, -⟩
    obtain ⟨hnonblank, hsplit'⟩ :=
      splitFields_of_fieldsOf hfields hblank hne honTime hoffTime htoken
    have hsame := hsplit'.symm.trans hsplit
    simp only [List.cons.injEq, and_true] at hsame
    obtain ⟨rfl, rfl, rfl, rfl⟩ := hsame
    exact hloose ⟨⟨[target', on', off', token'], more, hfields, hnonblank, hblank⟩,
      (exists_isTimeField_iff hon).mp ⟨onTime, honTime⟩,
      (exists_isTimeField_iff hoff).mp ⟨offTime, hoffTime⟩⟩

end

end AqualinkAutomate.Iaq

/-! ## The readers together -/

namespace AqualinkAutomate.Scheduling

open General Navigation

/-- **The readers of the screens.**  On the keypad, the reader of a row with a time is exact unless
the row passes the checks with a clock out of form, the reader of the days is exact on every row,
and the reader of a page unless a row with a time passes so.  On the touch panel, the reader of a
row is exact unless the row passes with a clock out of form or with a blank field that is not
behind the others. -/
theorem screen_readers_exact_iff (expectedPrefix row panelRow : Text) (lines : List Text) :
    ((∀ time, OneTouch.parseTimeRow row expectedPrefix = some time ↔
        OneTouch.IsTimeRow expectedPrefix row time) ↔
      ¬ (OneTouch.TimeRowPasses expectedPrefix row ∧ ¬ OneTouch.ClockInForm row)) ∧
    (∀ days : UInt8, OneTouch.parseDaysRow row = some days ↔ OneTouch.IsDaysRow row days) ∧
    ((∀ program, OneTouch.parseProgramDetailLines lines = some program ↔
        OneTouch.IsProgramPage lines program) ↔
      ¬ OneTouch.LooseProgramPage lines) ∧
    ((∀ program, Iaq.parseScheduleRow panelRow = some program ↔
        Iaq.IsScheduleRow panelRow program) ↔
      ¬ Iaq.LooseScheduleRow panelRow) :=
  ⟨OneTouch.parseTimeRow_exact_iff expectedPrefix row, fun _ => OneTouch.parseDaysRow_eq_some_iff,
    OneTouch.parseProgramDetailLines_exact_iff lines, Iaq.parseScheduleRow_exact_iff panelRow⟩

/-- A row in which half of the minute has arrived is read as three minutes past eight, and one with
a letter in the hour as half past eight. -/
theorem rows_misread :
    (OneTouch.parseTimeRow "ON   8:3 AM".toList "ON".toList = some (8, 3) ∧
      ¬ OneTouch.IsTimeRow "ON".toList "ON   8:3 AM".toList (8, 3)) ∧
    ∃ program, Iaq.parseScheduleRow "Pump?8x:30 AM?9:00 PM?All".toList = some program ∧
      ¬ Iaq.IsScheduleRow "Pump?8x:30 AM?9:00 PM?All".toList program := by
  refine ⟨⟨by decide, ?_⟩, ⟨"Pump".toList, DayMask.allDays, 8, 30, 21, 0⟩, by decide, ?_⟩
  · rintro ⟨first, clock, mer, hrow, -, hour, minute, -, hclock, -⟩
    have hwords : words (fun c => decide (c = ' ')) "ON   8:3 AM".toList =
        ["ON".toList, "8:3".toList, "AM".toList] := by decide
    have hsame := hwords.symm.trans (words_of_spaced hrow)
    simp only [List.cons.injEq, and_true] at hsame
    obtain ⟨-, rfl, -⟩ := hsame
    exact absurd hclock.length (by decide)
  · rintro ⟨target, on, off, token, more, onTime, offTime, days, hfields, -, -, hon, -⟩
    have hrow : Iaq.fieldsOf "Pump?8x:30 AM?9:00 PM?All".toList =
        ["Pump".toList, "8x:30 AM".toList, "9:00 PM".toList, "All".toList] := by decide
    rw [hrow] at hfields
    simp only [List.cons.injEq] at hfields
    obtain ⟨-, rfl, -⟩ := hfields
    obtain ⟨clock, mer, hfield, hour, minute, -, hclock, -⟩ := hon
    have hwords : words (fun c => decide (c = ' ')) "8x:30 AM".toList =
        ["8x:30".toList, "AM".toList] := by decide
    have hsame := hwords.symm.trans (words_of_spaced hfield)
    simp only [List.cons.injEq, and_true] at hsame
    obtain ⟨rfl, -⟩ := hsame
    obtain ⟨hbounds, -, h, hh, hclock⟩ := hclock
    have hsplit : "8x".toList ++ ":30".toList = h ++ ':' :: twoDigits minute := hclock
    have hhalf : "8x".toList = h := List.append_inj_left' hsplit rfl
    have hall : ∀ n : Fin 13, "8x".toList ∉ [Nat.toDigits 10 n, twoDigits n] := by decide
    rw [← hhalf] at hh
    exact hall ⟨hour12 hour, by omega⟩ hh

end AqualinkAutomate.Scheduling
