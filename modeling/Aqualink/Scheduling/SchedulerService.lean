import Aqualink.General.FileWrites
import Aqualink.General.FirstMatch
import Aqualink.General.Runs
import Aqualink.Scheduling.Schedule

/-!
# The scheduler service

A list of schedules that is kept in a JSON file, and a table of the local minute in which
each uuid fired last.  A tick fires what is due in the current local minute and has not
fired in it.

The service is driven by five operations: `load` when it is started, `create`, `replace`
and `remove` for the API, and `tick` for the timer.  What an operation draws or reads from
outside is its argument: the new uuids, the content of the file and the local time.
Every change is followed by a `save`, whose outcome no operation looks at.
-/

namespace AqualinkAutomate.Scheduling

open General

/-! ## The local minute -/

/-- The fields of `std::tm` that are read, as the C library fills them in. -/
structure Tm where
  /-- Years since 1900. -/
  tmYear : ℤ
  tmMon : Fin 12
  tmMday : Fin 32
  tmHour : Fin 24
  tmMin : Fin 60
  /-- Sunday is 0. -/
  tmWday : Fin 7
  deriving DecidableEq

structure LocalMinute where
  /-- Monday is 0. -/
  weekday : Fin 7
  hour : Fin 24
  minute : Fin 60
  /-- The decimal digits YYYYMMDDHHMM. -/
  key : ℤ
  deriving DecidableEq

def decomposeLocal (tm : Tm) : LocalMinute where
  weekday := tm.tmWday + 6
  hour := tm.tmHour
  minute := tm.tmMin
  key := (tm.tmYear + 1900) * 100000000 + (tm.tmMon.val + 1) * 1000000 + tm.tmMday.val * 10000 +
    tm.tmHour.val * 100 + tm.tmMin.val

/-! ## The operations -/

structure SchedulerService where
  schedules : List Schedule := []
  /-- The key of the minute in which a uuid fired last. -/
  lastFiredMinute : String → Option ℤ := fun _ => none

def dayMatches (schedule : Schedule) (weekday : Fin 7) : Bool :=
  schedule.daysOfWeek.toNat.testBit weekday

def Due (schedule : Schedule) (lm : LocalMinute) : Prop :=
  schedule.enabled = true ∧ dayMatches schedule lm.weekday = true ∧
    schedule.hour = lm.hour ∧ schedule.minute = lm.minute

instance (schedule : Schedule) (lm : LocalMinute) : Decidable (Due schedule lm) :=
  inferInstanceAs (Decidable (_ ∧ _))

/-- One pass of the loop of `Tick`: the table, and what has been fired so far. -/
def tickSchedule (lm : LocalMinute) (soFar : (String → Option ℤ) × List Schedule)
    (schedule : Schedule) : (String → Option ℤ) × List Schedule :=
  if schedule.enabled = false then
    soFar
  else if dayMatches schedule lm.weekday = false ∨ schedule.hour ≠ lm.hour ∨
      schedule.minute ≠ lm.minute then
    soFar
  else if soFar.1 schedule.uuid = some lm.key then
    -- already fired in this minute
    soFar
  else
    (Function.update soFar.1 schedule.uuid (some lm.key), soFar.2 ++ [schedule])

/-- One entry of the file after the other; `drawn` counts the uuids drawn so far. -/
def loadEntries (newUuid : ℕ → String) : ℕ → List Json → List Schedule
  | _, [] => []
  | drawn, entry :: entries =>
    match fromJson entry with
    | .ok schedule =>
      if schedule.uuid = "" then
        { schedule with uuid := newUuid drawn } :: loadEntries newUuid (drawn + 1) entries
      else
        schedule :: loadEntries newUuid drawn entries
    | .error _ =>
      -- one bad entry does not cost the others
      loadEntries newUuid drawn entries

def fileEntries (text : JsonText) (file : Option (List UInt8)) : List Json :=
  match file.bind text.parse with
  | some (.array entries) => entries
  | _ => []

namespace SchedulerService

def load (service : SchedulerService) (text : JsonText) (file : Option (List UInt8))
    (newUuid : ℕ → String) : SchedulerService :=
  { service with schedules := loadEntries newUuid 0 (fileEntries text file) }

/-- The document that `Save` writes. -/
def document (service : SchedulerService) : Json := .array (service.schedules.map toJson)

/-- `Save`: nothing is written without a path. -/
def save (service : SchedulerService) (text : JsonText) (schedulesFile : String)
    (faults : WriteFaults) (files : FileSystem String UInt8) : FileSystem String UInt8 :=
  if schedulesFile = "" then
    files
  else
    saveUnguarded faults (schedulesFile ++ ".tmp") schedulesFile (text.dump service.document) files

def get (service : SchedulerService) (uuid : String) : Option Schedule :=
  service.schedules.find? fun schedule => schedule.uuid == uuid

def create (service : SchedulerService) (schedule : Schedule) (newUuid : String) :
    SchedulerService :=
  { service with schedules := service.schedules ++ [{ schedule with uuid := newUuid }] }

def replace (service : SchedulerService) (uuid : String) (schedule : Schedule) :
    SchedulerService :=
  { service with
    schedules := modifyFirst (fun existing => existing.uuid == uuid)
      (fun _ => { schedule with uuid }) service.schedules }

def remove (service : SchedulerService) (uuid : String) : SchedulerService :=
  if (service.get uuid).isSome then
    { schedules := service.schedules.eraseP fun schedule => schedule.uuid == uuid
      lastFiredMinute := Function.update service.lastFiredMinute uuid none }
  else
    service

/-- `Tick` in a local minute: the service afterwards, and what was fired, in order. -/
def tick (service : SchedulerService) (tm : Tm) : SchedulerService × List Schedule :=
  let (lastFiredMinute, fired) :=
    service.schedules.foldl (tickSchedule (decomposeLocal tm)) (service.lastFiredMinute, [])
  ({ service with lastFiredMinute }, fired)

end SchedulerService

/-! ## Firing -/

inductive EquipmentMode where
  | normal
  | service
  | timeOut
  deriving DecidableEq

inductive DeviceAction where
  | on
  | off
  | toggle
  deriving DecidableEq

inductive DispatcherCall where
  | commandByLabel (label : String) (action : DeviceAction)
  | setPoolSetpoint (temperature : UInt8)
  | setSpaSetpoint (temperature : UInt8)
  /-- Scheduled chlorinator actions target the pool. -/
  | setChlorinatorPercentage (percentage : UInt8)
  | setCirculationMode (mode : CirculationModes)
  deriving DecidableEq

/-- The call that the action of a schedule stands for.  A circulation mode that is not one
makes none. -/
def Action.dispatcherCall (action : Action) : Option DispatcherCall :=
  match action.type with
  | .buttonOn => some (.commandByLabel action.target .on)
  | .buttonOff => some (.commandByLabel action.target .off)
  | .buttonToggle => some (.commandByLabel action.target .toggle)
  | .poolSetpoint => some (.setPoolSetpoint (UInt8.ofInt action.value))
  | .spaSetpoint => some (.setSpaSetpoint (UInt8.ofInt action.value))
  | .chlorinatorPercent => some (.setChlorinatorPercentage (UInt8.ofInt action.value))
  | .circulationMode => (CirculationModes.enumCast action.target).map .setCirculationMode

/-- `Fire`: nothing is sent in service mode, or when there is no dispatcher.  The mode is
not known without a data hub. -/
def fire (mode : Option EquipmentMode) (hasDispatcher : Bool) (schedule : Schedule) :
    Option DispatcherCall :=
  if mode = some .service then
    none
  else if hasDispatcher then
    schedule.action.dispatcherCall
  else
    none

end AqualinkAutomate.Scheduling
