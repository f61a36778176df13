import Aqualink.Mqtt.Commands

/-!
# The history service and its database

A table of series, each with an id and a key of its own, and a table of samples under series ids.
The samples refer to the series by a declaration that the database does not enforce.

A statement may fail, and then it has no effect; what fails in a transaction undoes all of it.
A new series gets an id that is not in use, and that may have been in use before.
Texts are those that SQL can bind, without a NUL character.

Samples wait in a buffer, under the id of their series, until a flush writes them to the database.
The ids are kept in a cache, so that a series is looked up once.

A series of a device used to be keyed by the label of the device, and is keyed by its uuid now.  The
first time that a device is seen with a label, a series that is keyed by that label is folded into
the one of the device: its samples go over, and its row is deleted.

The operations are those of a service that has been started.  A statement that fails throws, and
each operation catches it: what was done before stays done, unless it was part of a transaction.
The clock is read by the operations, and the readings are their arguments.
-/

namespace AqualinkAutomate.History

open List

section

/-! ## Series -/

structure SeriesRow where
  id : ℤ
  key : String
  unit : String
  label : String
  deriving DecidableEq

/-- How the database picks the id of a new row. -/
structure RowIds where
  next : List ℤ → ℤ
  unused : ∀ ids, next ids ∉ ids

structure SeriesTable where
  rows : List SeriesRow
  ids : (rows.map SeriesRow.id).Nodup
  keys : (rows.map SeriesRow.key).Nodup
  deriving DecidableEq

namespace SeriesTable

variable (series : SeriesTable)

/-- `SELECT id FROM series WHERE key = ?` -/
def idOf (key : String) : Option ℤ := (series.rows.find? fun row => row.key == key).map SeriesRow.id

/-- `UPDATE series SET label = ? WHERE key = ?` -/
def setLabel (key label : String) : SeriesTable where
  rows := series.rows.map fun row => if row.key = key then { row with label := label } else row
  ids := by
    have hsame : (series.rows.map fun row =>
        if row.key = key then { row with label := label } else row).map SeriesRow.id =
        series.rows.map SeriesRow.id := by
      rw [map_map]
      refine map_congr_left fun row _ => ?_
      rw [Function.comp_apply]
      split_ifs <;> rfl
    exact hsame ▸ series.ids
  keys := by
    have hsame : (series.rows.map fun row =>
        if row.key = key then { row with label := label } else row).map SeriesRow.key =
        series.rows.map SeriesRow.key := by
      rw [map_map]
      refine map_congr_left fun row _ => ?_
      rw [Function.comp_apply]
      split_ifs <;> rfl
    exact hsame ▸ series.keys

/-- `INSERT OR IGNORE INTO series(key, unit, label) VALUES(?, ?, ?)` -/
def insertOrIgnore (rowIds : RowIds) (key unit label : String) : SeriesTable :=
  if h : key ∈ series.rows.map SeriesRow.key then
    series
  else
    { rows := series.rows ++ [⟨rowIds.next (series.rows.map SeriesRow.id), key, unit, label⟩]
      ids := by
        rw [map_append, map_singleton, ← concat_eq_append]
        exact series.ids.concat (rowIds.unused _)
      keys := by
        rw [map_append, map_singleton, ← concat_eq_append]
        exact series.keys.concat h }

/-- `DELETE FROM series WHERE id = ?` -/
def drop (id : ℤ) : SeriesTable where
  rows := series.rows.filter fun row => row.id ≠ id
  ids := series.ids.sublist (List.filter_sublist.map _)
  keys := series.keys.sublist (List.filter_sublist.map _)

def Has (id : ℤ) (key : String) : Prop := ∃ row ∈ series.rows, row.id = id ∧ row.key = key

variable {series} {id id' : ℤ} {key key' : String}

theorem Has.key_unique (h : series.Has id key) (h' : series.Has id key') : key = key' := by
  obtain ⟨row, hmem, rfl, rfl⟩ := h
  obtain ⟨row', hmem', hid, rfl⟩ := h'
  exact congrArg SeriesRow.key (inj_on_of_nodup_map series.ids hmem hmem' hid.symm)

theorem Has.id_unique (h : series.Has id key) (h' : series.Has id' key) : id = id' := by
  obtain ⟨row, hmem, rfl, rfl⟩ := h
  obtain ⟨row', hmem', rfl, hkey⟩ := h'
  exact congrArg SeriesRow.id (inj_on_of_nodup_map series.keys hmem hmem' hkey.symm)

theorem idOf_eq_some_iff : series.idOf key = some id ↔ series.Has id key := by
  constructor
  · intro h
    obtain ⟨row, hfind, rfl⟩ := Option.map_eq_some_iff.mp h
    exact ⟨row, mem_of_find?_eq_some hfind, rfl, by simpa using find?_some hfind⟩
  · intro h
    have hid := h
    obtain ⟨row, hmem, -, hkey⟩ := h
    have hsome : (series.rows.find? fun row => row.key == key).isSome :=
      List.find?_isSome.mpr ⟨row, hmem, by simpa using hkey⟩
    obtain ⟨found, hfound⟩ := Option.isSome_iff_exists.mp hsome
    have hother : series.Has found.id key :=
      ⟨found, mem_of_find?_eq_some hfound, rfl, by simpa using find?_some hfound⟩
    rw [idOf, hfound, Option.map_some, hother.id_unique hid]

theorem idOf_eq_none_iff : series.idOf key = none ↔ ∀ id, ¬ series.Has id key := by
  constructor
  · intro h id hid
    rw [idOf_eq_some_iff.mpr hid] at h
    cases h
  · intro h
    cases hid : series.idOf key with
    | none => rfl
    | some id => exact absurd (idOf_eq_some_iff.mp hid) (h id)

variable {label unit : String}

@[simp] theorem has_setLabel {other : String} :
    (series.setLabel other label).Has id key ↔ series.Has id key := by
  constructor
  · rintro ⟨changed, hmem, hid, hkey⟩
    obtain ⟨row, hrow, rfl⟩ := List.mem_map.mp hmem
    refine ⟨row, hrow, ?_, ?_⟩
    · split_ifs at hid <;> exact hid
    · split_ifs at hkey <;> exact hkey
  · rintro ⟨row, hmem, rfl, rfl⟩
    refine ⟨_, mem_map_of_mem hmem, ?_, ?_⟩
    · split_ifs <;> rfl
    · split_ifs <;> rfl

theorem has_insertOrIgnore {rowIds : RowIds} (h : series.Has id key) :
    (series.insertOrIgnore rowIds key' unit label).Has id key := by
  obtain ⟨row, hmem, hid, hkey⟩ := h
  unfold insertOrIgnore
  split_ifs
  · exact ⟨row, hmem, hid, hkey⟩
  · exact ⟨row, mem_append_left _ hmem, hid, hkey⟩

theorem has_of_has_insertOrIgnore {rowIds : RowIds} (hne : key ≠ key')
    (h : (series.insertOrIgnore rowIds key' unit label).Has id key) : series.Has id key := by
  obtain ⟨row, hmem, hid, hkey⟩ := h
  unfold insertOrIgnore at hmem
  split_ifs at hmem
  · exact ⟨row, hmem, hid, hkey⟩
  · rcases List.mem_append.mp hmem with hold | hnew
    · exact ⟨row, hold, hid, hkey⟩
    · obtain rfl := List.mem_singleton.mp hnew
      exact absurd hkey.symm hne

theorem exists_has_insertOrIgnore (rowIds : RowIds) (series : SeriesTable)
    (key unit label : String) : ∃ id, (series.insertOrIgnore rowIds key unit label).Has id key := by
  unfold insertOrIgnore
  split_ifs with h
  · obtain ⟨row, hmem, hkey⟩ := List.mem_map.mp h
    exact ⟨row.id, row, hmem, rfl, hkey⟩
  · exact ⟨_, _, mem_append_right _ mem_cons_self, rfl, rfl⟩

@[simp] theorem has_drop {dropped : ℤ} :
    (series.drop dropped).Has id key ↔ series.Has id key ∧ id ≠ dropped := by
  constructor
  · rintro ⟨row, hmem, rfl, rfl⟩
    rw [drop, mem_filter] at hmem
    exact ⟨⟨row, hmem.1, rfl, rfl⟩, by simpa using hmem.2⟩
  · rintro ⟨⟨row, hmem, rfl, rfl⟩, hne⟩
    exact ⟨row, List.mem_filter.mpr ⟨hmem, by simpa using hne⟩, rfl, rfl⟩

end SeriesTable

/-! ## Samples -/

variable {V : Type*}

structure Sample (V : Type*) where
  seriesId : ℤ
  ts : ℤ
  value : V
  deriving DecidableEq

structure Database (V : Type*) where
  series : SeriesTable
  samples : List (Sample V)

inductive DbStatement where
  | updateLabel | insertSeries | selectSeries | selectLegacy
  | begin | repoint | dropSeries | commit
  /-- The insertion of the samples before it has worked. -/
  | insertSample (index : ℕ)
  | deleteOld
  deriving DecidableEq

/-- Which statements of an operation fail. -/
abbrev Faults : Type := DbStatement → Bool

/-- A transaction.  When it fails, what has been done is rolled back. -/
def transact (faults : Faults) (body : Database V → Option (Database V)) (db : Database V) :
    Option (Database V) :=
  if faults .begin then none
  else (body db).bind fun db' => if faults .commit then none else some db'

section

variable {faults : Faults} {body : Database V → Option (Database V)} {db db' : Database V}
  (h : transact faults body db = some db')

include h

theorem transact_eq_some : body db = some db' := by
  unfold transact at h
  split_ifs at h
  · obtain ⟨_, _, hnone⟩ := Option.bind_eq_some_iff.mp h
    cases hnone
  · simpa using h

theorem transact_works : faults .begin = false ∧ faults .commit = false := by
  unfold transact at h
  split_ifs at h with hbegin hcommit
  · obtain ⟨_, _, hnone⟩ := Option.bind_eq_some_iff.mp h
    cases hnone
  · exact ⟨by simpa using hbegin, by simpa using hcommit⟩

end

/-- `UPDATE samples SET series_id = ? WHERE series_id = ?`, for one sample. -/
def Sample.repoint (target legacy : ℤ) (sample : Sample V) : Sample V :=
  if sample.seriesId = legacy then { sample with seriesId := target } else sample

def Database.insertSamples (faults : Faults) :
    ℕ → List (Sample V) → Database V → Option (Database V)
  | _, [], db => some db
  | index, sample :: rest, db =>
    if faults (.insertSample index) then none
    else insertSamples faults (index + 1) rest
      { db with samples := db.samples ++ [sample] }

theorem Database.insertSamples_eq_some {faults : Faults} {index : ℕ} {samples : List (Sample V)}
    {db db' : Database V} (h : insertSamples faults index samples db = some db') :
    db' = { db with samples := db.samples ++ samples } := by
  induction samples generalizing index db with
  | nil =>
    cases h
    simp
  | cons sample rest ih =>
    rw [insertSamples] at h
    split_ifs at h
    rw [ih h]
    simp

theorem Database.insertSamples_of_no_fault {faults : Faults}
    (h : ∀ statement, faults statement = false) (index : ℕ) (samples : List (Sample V))
    (db : Database V) :
    insertSamples faults index samples db = some { db with samples := db.samples ++ samples } := by
  induction samples generalizing index db with
  | nil => simp [insertSamples]
  | cons sample rest ih =>
    rw [insertSamples, h, if_neg (by decide), ih]
    simp

end

/-! ## The service -/

open Mqtt (slugify)

variable {V : Type*}

structure HistoryService (V : Type*) where
  running : Bool := true
  /-- `m_Db` is there; the tables stay when it is closed. -/
  isOpen : Bool := true
  db : Database V
  seriesIds : String → Option ℤ := fun _ => none
  seriesLabels : String → Option String := fun _ => none
  /-- The legacy keys whose series need not be looked for again. -/
  deviceMergeChecked : String → Bool := fun _ => false
  lastSampleTs : String → Option ℤ := fun _ => none
  buffer : List (Sample V) := []

def minSampleIntervalSeconds : ℤ := 60

/-- `device/<slug>/state`, as the series of a device were keyed once. -/
def legacyKeyOf (label : String) : String := "device/" ++ slugify label ++ "/state"

namespace HistoryService

variable (service : HistoryService V)

def ensureSeries (rowIds : RowIds) (faults : Faults) (key unit label : String) :
    HistoryService V × Option ℤ :=
  match service.seriesIds key with
  | some id =>
    let known := (service.seriesLabels key).getD ""
    if label ≠ "" ∧ known ≠ label then
      if faults .updateLabel then
        -- the comparison has made an entry
        ({ service with
            seriesLabels := Function.update service.seriesLabels key (some known) }, none)
      else
        ({ service with
            db := { service.db with series := service.db.series.setLabel key label }
            seriesLabels := Function.update service.seriesLabels key (some label) }, some id)
    else
      (service, some id)
  | none =>
    if faults .insertSeries then
      (service, none)
    else
      let series := service.db.series.insertOrIgnore rowIds key unit label
      let inserted := { service with db := { service.db with series := series } }
      if faults .selectSeries then
        (inserted, none)
      else
        let id := (series.idOf key).getD 0
        ({ inserted with
            seriesIds := Function.update service.seriesIds key (some id)
            seriesLabels :=
              if label = "" then service.seriesLabels
              else Function.update service.seriesLabels key (some label) }, some id)

def foldSeries (faults : Faults) (legacyId targetId : ℤ) (db : Database V) : Option (Database V) :=
  if faults .repoint then none
  else if faults .dropSeries then none
  else some
    { series := db.series.drop legacyId
      samples := db.samples.map (Sample.repoint targetId legacyId) }

/-- `MergeLegacyDeviceSeries`; false when a statement has thrown. -/
def mergeLegacyDeviceSeries (faults : Faults) (legacyKey : String) (targetId : ℤ) :
    HistoryService V × Bool :=
  if faults .selectLegacy then
    (service, false)
  else
    match service.db.series.idOf legacyKey with
    | none => (service, true)
    | some legacyId =>
      if legacyId = targetId then
        (service, true)
      else
        match transact faults (foldSeries faults legacyId targetId) service.db with
        | none => (service, false)
        | some db =>
          ({ service with
              db := db
              seriesIds := Function.update service.seriesIds legacyKey none
              seriesLabels := Function.update service.seriesLabels legacyKey none
              lastSampleTs := Function.update service.lastSampleTs legacyKey none }, true)

/-- A sample waits for the next flush. -/
def bufferSample (key : String) (seriesId now later : ℤ) (value : V) : HistoryService V :=
  { service with
    buffer := service.buffer ++ [⟨seriesId, now, value⟩]
    lastSampleTs := Function.update service.lastSampleTs key (some later) }

def throttled (key : String) (now : ℤ) : Prop :=
  ∃ last ∈ service.lastSampleTs key, now - last < minSampleIntervalSeconds

instance (key : String) (now : ℤ) : Decidable (service.throttled key now) :=
  inferInstanceAs (Decidable (∃ last ∈ service.lastSampleTs key, _))

def recordNumeric (rowIds : RowIds) (faults : Faults) (key unit : String) (value : V)
    (isHeartbeat : Bool) (now : ℤ) : HistoryService V :=
  if service.running = false ∨ service.isOpen = false then
    service
  else if isHeartbeat = false ∧ service.throttled key now then
    service
  else
    match service.ensureSeries rowIds faults key unit "" with
    | (service', none) => service'
    | (service', some id) => service'.bufferSample key id now now value

def recordState (rowIds : RowIds) (faults : Faults) (key : String) (value : V) (now later : ℤ) :
    HistoryService V :=
  if service.running = false ∨ service.isOpen = false then
    service
  else
    match service.ensureSeries rowIds faults key "state" "" with
    | (service', none) => service'
    | (service', some id) => service'.bufferSample key id now later value

def foldLegacy (faults : Faults) (key label : String) (targetId : ℤ) : HistoryService V × Bool :=
  if label ≠ "" ∧ legacyKeyOf label ≠ key ∧
      service.deviceMergeChecked (legacyKeyOf label) = false then
    { service with
      deviceMergeChecked := Function.update service.deviceMergeChecked (legacyKeyOf label) true
      }.mergeLegacyDeviceSeries faults (legacyKeyOf label) targetId
  else
    (service, true)

def recordDeviceState (rowIds : RowIds) (faults : Faults) (key label : String) (value : V)
    (now later : ℤ) : HistoryService V :=
  if service.running = false ∨ service.isOpen = false then
    service
  else
    match service.ensureSeries rowIds faults key "state" label with
    | (service', none) => service'
    | (service', some id) =>
      match service'.foldLegacy faults key label id with
      | (folded, false) => folded
      | (folded, true) => folded.bufferSample key id now later value

/-- `Flush`: the buffer is kept when the transaction fails. -/
def flush (faults : Faults) : HistoryService V :=
  if service.isOpen = false ∨ service.buffer = [] then
    service
  else
    match transact faults (Database.insertSamples faults 0 service.buffer) service.db with
    | none => service
    | some db => { service with db := db, buffer := [] }

def retentionCutoff (now : ℤ) (retentionDays : UInt32) : ℤ := now - retentionDays.toNat * 86400

def purgeOld (faults : Faults) (now : ℤ) (retentionDays : UInt32) : HistoryService V :=
  if service.isOpen = false ∨ retentionDays = 0 ∨ faults .deleteOld = true then
    service
  else
    { service with
      db := { service.db with
        samples := service.db.samples.filter fun sample =>
          retentionCutoff now retentionDays ≤ sample.ts } }

def stop (faults : Faults) : HistoryService V :=
  if service.running = false then
    service
  else
    { { service with running := false }.flush faults with isOpen := false }

end HistoryService

/-! ## Runs -/

/-- The operations with their arguments, the readings of the clock, and the statements that fail. -/
inductive HistoryEvent (V : Type*) where
  | recordNumeric (faults : Faults) (key unit : String) (value : V) (isHeartbeat : Bool) (now : ℤ)
  | recordState (faults : Faults) (key : String) (value : V) (now later : ℤ)
  | recordDeviceState (faults : Faults) (key label : String) (value : V) (now later : ℤ)
  | flush (faults : Faults)
  | purgeOld (faults : Faults) (now : ℤ) (retentionDays : UInt32)
  | stop (faults : Faults)

def HistoryService.step (rowIds : RowIds) (service : HistoryService V) :
    HistoryEvent V → HistoryService V
  | .recordNumeric faults key unit value isHeartbeat now =>
    service.recordNumeric rowIds faults key unit value isHeartbeat now
  | .recordState faults key value now later => service.recordState rowIds faults key value now later
  | .recordDeviceState faults key label value now later =>
    service.recordDeviceState rowIds faults key label value now later
  | .flush faults => service.flush faults
  | .purgeOld faults now retentionDays => service.purgeOld faults now retentionDays
  | .stop faults => service.stop faults

end AqualinkAutomate.History
