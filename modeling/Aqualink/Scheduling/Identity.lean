import Mathlib.Data.List.Nodup
import Aqualink.Scheduling.SchedulerService

/-!
# The identity of schedules, and their file

Schedules are addressed by uuid, and the guard against firing twice is kept per uuid.
Both need what `Identity` says: the uuids of the stored schedules are pairwise distinct
and none is empty.

`create` draws a new uuid and `replace` keeps the one that is there.  `load` draws a uuid
for an entry that has none, and takes the uuid of any other entry as it is: two entries
that share one are both kept.  `identity_iff` says that this is the only way in which the
identity of schedules is lost.

What a service has stored is read back from its file: every schedule that it holds came
out of the parser, from a request or from the file, and has a uuid by then
(`Stored`).  Entry by entry that is the round trip of `Scheduling.Schedule`.

That the library reads back the document it has rendered is a hypothesis about the one
document that is saved.
-/

namespace AqualinkAutomate.Scheduling

open General List

section

variable {service : SchedulerService} {text : JsonText} {newUuid : ℕ → String} {drawn : ℕ}
variable {entries : List Json}

/-! ## Runs of the service -/

inductive ServiceEvent where
  | load (file : Option (List UInt8)) (newUuid : ℕ → String)
  | create (schedule : Schedule) (newUuid : String)
  | replace (uuid : String) (schedule : Schedule)
  | remove (uuid : String)
  | tick (tm : Tm)

namespace SchedulerService

def after (text : JsonText) (service : SchedulerService) : ServiceEvent → SchedulerService
  | .load file newUuid => service.load text file newUuid
  | .create schedule newUuid => service.create schedule newUuid
  | .replace uuid schedule => service.replace uuid schedule
  | .remove uuid => service.remove uuid
  | .tick tm => (service.tick tm).1

def uuids (service : SchedulerService) : List String := service.schedules.map Schedule.uuid

end SchedulerService

def validEntries (entries : List Json) : List Schedule :=
  entries.filterMap fun entry => (fromJson entry).toOption

def givenUuids (schedules : List Schedule) : List String :=
  (schedules.map Schedule.uuid).filter fun uuid => uuid != ""

/-- What a step draws from `NewUuid` is in use nowhere: it is no uuid of a stored schedule,
of an entry of the file that is loaded, or of another draw, and it is not empty. -/
def FreshDraws (text : JsonText) (service : SchedulerService) : ServiceEvent → Prop
  | .load file newUuid => Function.Injective newUuid ∧
      ∀ n, newUuid n ≠ "" ∧ newUuid n ∉ givenUuids (validEntries (fileEntries text file))
  | .create _ newUuid => newUuid ≠ "" ∧ newUuid ∉ service.uuids
  | _ => True

def DistinctEntries (text : JsonText) : ServiceEvent → Prop
  | .load file _ => (givenUuids (validEntries (fileEntries text file))).Nodup
  | _ => True

/-- Every schedule is addressed by its uuid. -/
structure Identity (service : SchedulerService) : Prop where
  distinct : service.uuids.Nodup
  nonempty : "" ∉ service.uuids
  /-- `get` returns the schedule of the uuid. -/
  get_eq : ∀ schedule ∈ service.schedules, service.get schedule.uuid = some schedule
  /-- `replace` changes one schedule, and keeps its uuid. -/
  replace_eq : ∀ schedule ∈ service.schedules, ∀ replacement, ∃ before behind,
    service.schedules = before ++ schedule :: behind ∧
      (service.replace schedule.uuid replacement).schedules =
        before ++ { replacement with uuid := schedule.uuid } :: behind
  /-- `remove` takes one schedule away, and no other has its uuid. -/
  remove_eq : ∀ schedule ∈ service.schedules, ∃ before behind,
    service.schedules = before ++ schedule :: behind ∧
      (service.remove schedule.uuid).schedules = before ++ behind ∧
        schedule.uuid ∉ (service.remove schedule.uuid).uuids
  /-- An entry of the last-fired table is about one schedule. -/
  guard_unique : ∀ schedule ∈ service.schedules, ∀ other ∈ service.schedules,
    schedule.uuid = other.uuid → schedule = other

/-! ## Lookups in a list with distinct uuids -/

variable {schedule : Schedule}

theorem get_of_mem (h : service.uuids.Nodup) (hmem : schedule ∈ service.schedules) :
    service.get schedule.uuid = some schedule := by
  cases hfind : service.get schedule.uuid with
  | none =>
    rw [SchedulerService.get, find?_eq_none] at hfind
    exact absurd (by simp) (hfind schedule hmem)
  | some found =>
    have huuid : found.uuid = schedule.uuid := by simpa using find?_some hfind
    have hfound : found ∈ service.schedules := mem_of_find?_eq_some hfind
    rw [inj_on_of_nodup_map h hfound hmem huuid]

theorem identity_of_distinct (hdistinct : service.uuids.Nodup) (hnonempty : "" ∉ service.uuids) :
    Identity service where
  distinct := hdistinct
  nonempty := hnonempty
  get_eq _ hmem := get_of_mem hdistinct hmem
  replace_eq schedule hmem replacement := by
    obtain ⟨before, behind, hsplit, hmodify, -⟩ :=
      exists_append_of_find? (get_of_mem hdistinct hmem)
    exact ⟨before, behind, hsplit, hmodify _⟩
  remove_eq schedule hmem := by
    have hget := get_of_mem hdistinct hmem
    obtain ⟨before, behind, hsplit, -, herase⟩ := exists_append_of_find? hget
    have hremoved : (service.remove schedule.uuid).schedules = before ++ behind := by
      simp [SchedulerService.remove, hget, herase]
    refine ⟨before, behind, hsplit, hremoved, ?_⟩
    rw [SchedulerService.uuids, hsplit, map_append, map_cons, nodup_middle, nodup_cons] at hdistinct
    rw [SchedulerService.uuids, hremoved, map_append]
    exact hdistinct.1
  guard_unique _ hmem _ hother huuid := inj_on_of_nodup_map hdistinct hmem hother huuid

theorem identity_iff_distinct : Identity service ↔ service.uuids.Nodup ∧ "" ∉ service.uuids :=
  ⟨fun h => ⟨h.distinct, h.nonempty⟩, fun h => identity_of_distinct h.1 h.2⟩

/-! ## Loading -/

def assignUuids (newUuid : ℕ → String) : ℕ → List Schedule → List Schedule
  | _, [] => []
  | drawn, schedule :: schedules =>
    if schedule.uuid = "" then
      { schedule with uuid := newUuid drawn } :: assignUuids newUuid (drawn + 1) schedules
    else
      schedule :: assignUuids newUuid drawn schedules

theorem loadEntries_eq_assignUuids :
    loadEntries newUuid drawn entries = assignUuids newUuid drawn (validEntries entries) := by
  induction entries generalizing drawn with
  | nil => rfl
  | cons entry entries ih =>
    rw [loadEntries]
    cases hentry : fromJson entry with
    | error e => simp [validEntries, hentry, ih, Except.toOption]
    | ok schedule =>
      have hcons : validEntries (entry :: entries) = schedule :: validEntries entries := by
        simp [validEntries, hentry, Except.toOption]
      simp only [hcons, assignUuids, ih]

variable {schedules : List Schedule}

theorem givenUuids_cons_of_empty (h : schedule.uuid = "") :
    givenUuids (schedule :: schedules) = givenUuids schedules := by
  simp [givenUuids, h]

theorem givenUuids_cons_of_ne (h : schedule.uuid ≠ "") :
    givenUuids (schedule :: schedules) = schedule.uuid :: givenUuids schedules := by
  simp [givenUuids, h]

section

theorem mem_uuids_assignUuids {uuid : String}
    (h : uuid ∈ (assignUuids newUuid drawn schedules).map Schedule.uuid) :
    uuid ∈ givenUuids schedules ∨ ∃ n, drawn ≤ n ∧ uuid = newUuid n := by
  induction schedules generalizing drawn with
  | nil => simp [assignUuids] at h
  | cons schedule schedules ih =>
    rw [assignUuids] at h
    split at h
    next hempty =>
      rw [map_cons, mem_cons] at h
      rw [givenUuids_cons_of_empty hempty]
      rcases h with rfl | h
      · exact .inr ⟨drawn, Nat.le_refl _, rfl⟩
      · exact (ih h).imp_right fun ⟨n, hn, heq⟩ => ⟨n, by omega, heq⟩
    next huuid =>
      rw [map_cons, mem_cons] at h
      rw [givenUuids_cons_of_ne huuid]
      rcases h with rfl | h
      · exact .inl (by simp)
      · exact (ih h).imp_left (mem_cons_of_mem _)

theorem givenUuids_sublist :
    (givenUuids schedules).Sublist
      ((assignUuids newUuid drawn schedules).map Schedule.uuid) := by
  induction schedules generalizing drawn with
  | nil => simp [givenUuids, assignUuids]
  | cons schedule schedules ih =>
    rw [assignUuids]
    split
    next hempty =>
      rw [givenUuids_cons_of_empty hempty, map_cons]
      exact ih.cons _
    next huuid =>
      rw [givenUuids_cons_of_ne huuid, map_cons]
      exact ih.cons_cons _

theorem nodup_assignUuids (hinj : Function.Injective newUuid)
    (hfresh : ∀ n, newUuid n ∉ givenUuids schedules) (hgiven : (givenUuids schedules).Nodup) :
    ((assignUuids newUuid drawn schedules).map Schedule.uuid).Nodup := by
  induction schedules generalizing drawn with
  | nil => simp [assignUuids]
  | cons schedule schedules ih =>
    rw [assignUuids]
    split
    next hempty =>
      rw [givenUuids_cons_of_empty hempty] at hfresh hgiven
      rw [map_cons, nodup_cons]
      refine ⟨fun hmem => ?_, ih hfresh hgiven⟩
      -- the draw is no uuid of the file, and the draws behind it are others
      rcases mem_uuids_assignUuids hmem with hmem | ⟨n, hn, heq⟩
      · exact hfresh drawn hmem
      · have := hinj heq
        omega
    next huuid =>
      rw [givenUuids_cons_of_ne huuid] at hfresh hgiven
      rw [nodup_cons] at hgiven
      rw [map_cons, nodup_cons]
      refine ⟨fun hmem => ?_, ih (fun n h => hfresh n (mem_cons_of_mem _ h)) hgiven.2⟩
      rcases mem_uuids_assignUuids hmem with hmem | ⟨n, hn, heq⟩
      · exact hgiven.1 hmem
      · exact hfresh n (by simp [← heq])

theorem not_mem_uuids_assignUuids (hdraws : ∀ n, newUuid n ≠ "") :
    "" ∉ (assignUuids newUuid drawn schedules).map Schedule.uuid := by
  intro hmem
  rcases mem_uuids_assignUuids hmem with hmem | ⟨n, -, heq⟩
  · simp [givenUuids] at hmem
  · exact hdraws n heq.symm

end

/-! ## One step and a whole run -/

theorem identity_after_iff {event : ServiceEvent} (hfresh : FreshDraws text service event)
    (h : Identity service) : Identity (service.after text event) ↔ DistinctEntries text event := by
  rw [identity_iff_distinct]
  cases event with
  | load file newUuid =>
    obtain ⟨hinj, hdraws⟩ := hfresh
    have huuids : (service.load text file newUuid).uuids =
        (assignUuids newUuid 0 (validEntries (fileEntries text file))).map Schedule.uuid := by
      simp only [SchedulerService.uuids, SchedulerService.load, loadEntries_eq_assignUuids]
    simp only [SchedulerService.after, DistinctEntries, huuids]
    constructor
    · intro hnext
      exact hnext.1.sublist givenUuids_sublist
    · intro hgiven
      exact ⟨nodup_assignUuids hinj (fun n => (hdraws n).2) hgiven,
        not_mem_uuids_assignUuids fun n => (hdraws n).1⟩
  | create schedule newUuid =>
    obtain ⟨hne, hnew⟩ := hfresh
    have huuids : (service.create schedule newUuid).uuids = service.uuids ++ [newUuid] := by
      simp [SchedulerService.uuids, SchedulerService.create]
    simp only [SchedulerService.after, DistinctEntries, huuids, iff_true]
    refine ⟨List.nodup_append_comm.mp ?_, ?_⟩
    · simpa using ⟨hnew, h.distinct⟩
    · simpa using ⟨h.nonempty, hne⟩
  | replace uuid schedule =>
    have huuids : (service.replace uuid schedule).uuids = service.uuids :=
      map_modifyFirst fun existing hexisting => by simpa using (beq_iff_eq.mp hexisting).symm
    simp only [SchedulerService.after, DistinctEntries, huuids, iff_true]
    exact ⟨h.distinct, h.nonempty⟩
  | remove uuid =>
    have hsub : (service.remove uuid).uuids.Sublist service.uuids := by
      rw [SchedulerService.remove]
      split
      · exact List.eraseP_sublist.map _
      · exact List.Sublist.refl _
    simp only [SchedulerService.after, DistinctEntries, iff_true]
    exact ⟨h.distinct.sublist hsub, fun hmem => h.nonempty (hsub.subset hmem)⟩
  | tick tm =>
    simp only [SchedulerService.after, DistinctEntries, iff_true]
    exact ⟨h.distinct, h.nonempty⟩

theorem identity_initial : Identity {} :=
  identity_of_distinct (by simp [SchedulerService.uuids]) (by simp [SchedulerService.uuids])

/-- In a run from the start, every state has the identity of schedules exactly when no
file that is loaded holds a uuid twice. -/
theorem identity_iff {events : List ServiceEvent}
    (hfresh : EachStep (SchedulerService.after text) (FreshDraws text) {} events) :
    EachState (SchedulerService.after text) Identity {} events ↔
      EachStep (SchedulerService.after text) (fun _ event => DistinctEntries text event) {}
        events :=
  hfresh.eachState_iff (fun _ _ h hstep => identity_after_iff hstep h) identity_initial

/-! ### A file with twins -/

def twinEntry : Json :=
  .object [("action", .object [("type", .string "pool_setpoint"), ("value", .integer 80)]),
    ("days_of_week", .integer 1), ("time_local", .string "08:00"), ("uuid", .string "a")]

def twinFile : List UInt8 :=
  let entry := "\x7b\"action\": \x7b\"type\": \"pool_setpoint\", \"value\": 80\x7d, " ++
    "\"days_of_week\": 1, \"time_local\": \"08:00\", \"uuid\": \"a\"\x7d"
  ("[" ++ entry ++ ", " ++ entry ++ "]").toUTF8.toList

def twinText : JsonText where
  dump _ := none
  parse bytes := if bytes = twinFile then some (.array [twinEntry, twinEntry]) else none

theorem parse_twinText (bytes : List UInt8) :
    twinText.parse bytes =
      if bytes = twinFile then some (.array [twinEntry, twinEntry]) else none := rfl

def twinLoad : ServiceEvent :=
  .load (some twinFile) fun n => String.ofList (replicate (n + 1) 'u')

theorem givenUuids_twinFile :
    givenUuids (validEntries (fileEntries twinText (some twinFile))) = ["a", "a"] := by
  have hentries : fileEntries twinText (some twinFile) = [twinEntry, twinEntry] := by
    rw [fileEntries, Option.bind_some, parse_twinText, if_pos (Eq.refl twinFile)]
  rw [hentries]
  rfl

theorem freshDraws_twinLoad : FreshDraws twinText {} twinLoad := by
  refine ⟨fun m n heq => ?_, fun n => ⟨fun heq => ?_, ?_⟩⟩
  · have := congrArg String.length heq
    simpa using this
  · have := congrArg String.length heq
    simp at this
  · rw [givenUuids_twinFile]
    intro hmem
    have := congrArg String.toList (show String.ofList (replicate (n + 1) 'u') = "a" by
      simpa using hmem)
    simp [replicate_succ] at this

/-- The equivalence for the run that loads this file. -/
theorem identity_iff_twinFile :
    EachState (SchedulerService.after twinText) Identity {} [twinLoad] ↔
      EachStep (SchedulerService.after twinText) (fun _ event => DistinctEntries twinText event) {}
        [twinLoad] :=
  identity_iff ⟨freshDraws_twinLoad, trivial⟩

/-- Loading it leaves two schedules with one uuid. -/
theorem shared_uuid_after_load :
    ∃ (text : JsonText) (events : List ServiceEvent),
      EachStep (SchedulerService.after text) (FreshDraws text) {} events ∧
        ¬ EachState (SchedulerService.after text) Identity {} events := by
  refine ⟨twinText, [twinLoad], ⟨freshDraws_twinLoad, trivial⟩, ?_⟩
  intro h
  have hgiven := (identity_after_iff freshDraws_twinLoad identity_initial).mp h.2
  rw [twinLoad, DistinctEntries, givenUuids_twinFile] at hgiven
  exact absurd hgiven (by decide)

end

/-! ## The schedules file -/

variable {service : SchedulerService} {text : JsonText}

/-- A step hands in what the parser returned; a drawn uuid is not empty. -/
def FromRequests (_ : SchedulerService) : ServiceEvent → Prop
  | .load _ newUuid => ∀ n, newUuid n ≠ ""
  | .create schedule newUuid => newUuid ≠ "" ∧ ∃ json, fromJson json = .ok schedule
  | .replace _ schedule => ∃ json, fromJson json = .ok schedule
  | _ => True

def Stored (service : SchedulerService) : Prop :=
  ∀ schedule ∈ service.schedules, schedule.Valid ∧ schedule.uuid ≠ ""

theorem Schedule.Valid.withUuid {schedule : Schedule} (h : schedule.Valid) (uuid : String) :
    Schedule.Valid { schedule with uuid } := ⟨h.days, h.action⟩

theorem valid_of_mem_validEntries {entries : List Json} {schedule : Schedule}
    (h : schedule ∈ validEntries entries) : schedule.Valid := by
  obtain ⟨entry, -, hentry⟩ := List.mem_filterMap.mp h
  cases hparsed : fromJson entry with
  | error e => simp [hparsed, Except.toOption] at hentry
  | ok parsed =>
    obtain rfl : parsed = schedule := by simpa [hparsed, Except.toOption] using hentry
    exact valid_of_fromJson hparsed

variable {schedules : List Schedule} {newUuid : ℕ → String}

theorem stored_assignUuids {drawn : ℕ} (hvalid : ∀ schedule ∈ schedules, schedule.Valid)
    (hdraws : ∀ n, newUuid n ≠ "") :
    ∀ schedule ∈ assignUuids newUuid drawn schedules, schedule.Valid ∧ schedule.uuid ≠ "" := by
  induction schedules generalizing drawn with
  | nil => simp [assignUuids]
  | cons first schedules ih =>
    rw [forall_mem_cons] at hvalid
    rw [assignUuids]
    split
    next hempty =>
      rw [forall_mem_cons]
      exact ⟨⟨hvalid.1.withUuid _, hdraws drawn⟩, ih hvalid.2⟩
    next huuid =>
      rw [forall_mem_cons]
      exact ⟨⟨hvalid.1, huuid⟩, ih hvalid.2⟩

theorem stored_after {event : ServiceEvent} (hevent : FromRequests service event)
    (h : Stored service) : Stored (service.after text event) := by
  cases event with
  | load file newUuid =>
    intro schedule hmem
    rw [SchedulerService.after, SchedulerService.load, loadEntries_eq_assignUuids] at hmem
    exact stored_assignUuids (fun _ => valid_of_mem_validEntries) hevent schedule hmem
  | create schedule newUuid =>
    obtain ⟨hne, json, hjson⟩ := hevent
    intro stored hmem
    rcases List.mem_append.mp hmem with hmem | hmem
    · exact h stored hmem
    · obtain rfl := List.mem_singleton.mp hmem
      exact ⟨(valid_of_fromJson hjson).withUuid _, hne⟩
  | replace uuid schedule =>
    obtain ⟨json, hjson⟩ := hevent
    intro stored hmem
    rcases mem_of_mem_modifyFirst hmem with hmem | ⟨existing, hfind, rfl⟩
    · exact h stored hmem
    · -- the replacement takes over a uuid that a stored schedule has
      have hexisting := h existing (mem_of_find?_eq_some hfind)
      have huuid : existing.uuid = uuid := by simpa using find?_some hfind
      exact ⟨(valid_of_fromJson hjson).withUuid _, huuid ▸ hexisting.2⟩
  | remove uuid =>
    intro stored hmem
    rw [SchedulerService.after, SchedulerService.remove] at hmem
    split at hmem
    · exact h stored (mem_of_mem_eraseP hmem)
    · exact h stored hmem
  | tick tm => exact h

theorem stored_run {events : List ServiceEvent}
    (hevents : EachStep (SchedulerService.after text) FromRequests service events)
    (h : Stored service) : Stored (events.foldl (SchedulerService.after text) service) :=
  hevents.foldl_of_step (fun _ _ hstored hevent => stored_after hevent hstored) h

theorem loadEntries_map_toJson {drawn : ℕ}
    (h : ∀ schedule ∈ schedules, schedule.Valid ∧ schedule.uuid ≠ "") :
    loadEntries newUuid drawn (schedules.map toJson) = schedules := by
  induction schedules with
  | nil => rfl
  | cons schedule schedules ih =>
    rw [forall_mem_cons] at h
    rw [map_cons, loadEntries, fromJson_toJson h.1.1]
    simp only [h.1.2, if_false, ih h.2]

theorem save_of_no_faults {schedulesFile : String} {bytes : List UInt8}
    (hpath : schedulesFile ≠ "") (hdump : text.dump service.document = some bytes)
    {faults : WriteFaults} (hopens : faults.opens) (hrenames : faults.renames)
    (hwritten : bytes.length ≤ faults.written) (files : FileSystem String UInt8) :
    service.save text schedulesFile faults files schedulesFile = some bytes := by
  have hne : schedulesFile ++ ".tmp" ≠ schedulesFile := by
    intro h
    have := congrArg String.length h
    simp at this
  rw [SchedulerService.save, if_neg hpath, hdump, saveUnguarded_target hne, if_pos hrenames,
    renamed, if_pos hopens, take_of_length_le hwritten]
  rfl

/-- What the parser returns is parsed back from its JSON form; and whatever run a service
has made, loading the file it has saved restores its schedules in their order. -/
theorem schedules_round_trip :
    (∀ json schedule, fromJson json = .ok schedule →
      fromJson (toJson schedule) = .ok schedule) ∧
    ∀ (text : JsonText) (events : List ServiceEvent),
      EachStep (SchedulerService.after text) FromRequests {} events →
      let service := events.foldl (SchedulerService.after text) {}
      ∀ bytes, text.dump service.document = some bytes →
        text.parse bytes = some service.document →
      ∀ (schedulesFile : String) (faults : WriteFaults) (files : FileSystem String UInt8),
        schedulesFile ≠ "" → faults.opens → faults.renames →
        bytes.length ≤ faults.written →
        ∀ newUuid, (service.load text
          (service.save text schedulesFile faults files schedulesFile) newUuid).schedules =
            service.schedules := by
  refine ⟨fun json schedule h => fromJson_toJson (valid_of_fromJson h), ?_⟩
  intro text events hevents service bytes hdump hparse schedulesFile faults files hpath hopens
    hrenames hwritten newUuid
  have hstored : Stored service := stored_run hevents (by simp [Stored])
  rw [save_of_no_faults hpath hdump hopens hrenames hwritten]
  have hentries : fileEntries text (some bytes) = service.schedules.map toJson := by
    simp only [fileEntries, Option.bind_some, hparse, SchedulerService.document]
  calc (service.load text (some bytes) newUuid).schedules
      = loadEntries newUuid 0 (fileEntries text (some bytes)) := rfl
    _ = loadEntries newUuid 0 (service.schedules.map toJson) := by rw [hentries]
    _ = service.schedules := loadEntries_map_toJson hstored

/-! ### One schedule through the file -/

def filterSchedule : Schedule where
  uuid := "9d0e4c3a-6c1f-4f3e-9a55-0c1d2e3f4a5b"
  name := "filter"
  daysOfWeek := 31
  hour := ⟨7, by decide⟩
  minute := ⟨5, by decide⟩
  action := { type := .buttonOn, target := "Filter Pump" }

/-- The file with this schedule, two blanks a level. -/
def filterFile : List UInt8 :=
  ("[\n  \x7b\n    \"action\": \x7b\n      \"target\": \"Filter Pump\",\n" ++
    "      \"type\": \"button_on\"\n    \x7d,\n    \"days_of_week\": 31,\n" ++
    "    \"enabled\": true,\n    \"name\": \"filter\",\n    \"time_local\": \"07:05\",\n" ++
    "    \"uuid\": \"9d0e4c3a-6c1f-4f3e-9a55-0c1d2e3f4a5b\"\n  \x7d\n]").toUTF8.toList

def filterText : JsonText where
  dump _ := some filterFile
  parse bytes := if bytes = filterFile then some (.array [toJson filterSchedule]) else none

theorem valid_filterSchedule : filterSchedule.Valid :=
  ⟨by decide, by simp [Action.Valid, filterSchedule, isButtonAction]⟩

/-- Created, saved and loaded by a service that draws other uuids. -/
theorem filterSchedule_round_trip :
    (SchedulerService.load {} filterText
      (SchedulerService.save ⟨[filterSchedule], fun _ => none⟩ filterText "schedules.json"
        ⟨true, filterFile.length, true⟩ (fun _ => none) "schedules.json")
      (fun _ => "x")).schedules = [filterSchedule] :=
  schedules_round_trip.2 filterText [.create filterSchedule filterSchedule.uuid]
    ⟨⟨by simp [filterSchedule], _, fromJson_toJson valid_filterSchedule⟩, trivial⟩ filterFile rfl
    (by simp [filterText]; rfl) "schedules.json" ⟨true, filterFile.length, true⟩ (fun _ => none)
    (by decide) rfl rfl (Nat.le_refl _) (fun _ => "x")

end AqualinkAutomate.Scheduling
