import Aqualink.General.TaggedLog
import Aqualink.History.HistoryService

/-!
# Every sample in its series

Whatever happens to the history is entered in a log: a sample is accepted when it gets into the
buffer, stored when a flush has emptied the buffer, renamed when its series has been folded into
another one, and purged when it is too old.  The table of samples should say the same.

It does as long as a series is folded when no sample of it waits in the buffer
(`losesNothing_of_foldsFlushed`).  The fold goes over the table only: a sample in the buffer keeps
the id of the series that is gone, and when a new series gets that id, it is filed there.
-/

namespace AqualinkAutomate.History

open General List Function

variable {V : Type*}

/-! ## What one step does to the tables -/

structure SameTables (service service' : HistoryService V) : Prop where
  db : service'.db = service.db
  seriesIds : service'.seriesIds = service.seriesIds
  buffer : service'.buffer = service.buffer

def CacheValid (service : HistoryService V) : Prop :=
  ∀ key id, service.seriesIds key = some id → service.db.series.Has id key

structure Ensured (service service' : HistoryService V) (key : String) : Prop where
  samples : service'.db.samples = service.db.samples
  buffer : service'.buffer = service.buffer
  grows : ∀ id other, service.db.series.Has id other → service'.db.series.Has id other
  others : ∀ id other, other ≠ key → service'.db.series.Has id other →
    service.db.series.Has id other
  cached : CacheValid service'

structure Folded (service service' : HistoryService V) (legacyKey : String)
    (legacyId targetId : ℤ) : Prop where
  found : service.db.series.Has legacyId legacyKey
  other : legacyId ≠ targetId
  series : service'.db.series = service.db.series.drop legacyId
  samples : service'.db.samples = service.db.samples.map (Sample.repoint targetId legacyId)
  seriesIds : service'.seriesIds = Function.update service.seriesIds legacyKey none
  buffer : service'.buffer = service.buffer

theorem Ensured.same {service middle service' : HistoryService V} {key : String}
    (h : Ensured service middle key) (hsame : SameTables middle service') :
    Ensured service service' key := by
  constructor
  · rw [hsame.db]
    exact h.samples
  · exact hsame.buffer.trans h.buffer
  · rw [hsame.db]
    exact h.grows
  · rw [hsame.db]
    exact h.others
  · intro other id hid
    rw [hsame.db]
    exact h.cached other id (hsame.seriesIds ▸ hid)

namespace HistoryService

variable {service : HistoryService V} {rowIds : RowIds} {faults : Faults}
variable {key unit label legacyKey : String} {id targetId : ℤ}

theorem ensured_ensureSeries (rowIds : RowIds) (faults : Faults) (key unit label : String)
    (hcached : CacheValid service) :
    Ensured service (service.ensureSeries rowIds faults key unit label).1 key := by
  have hsame : Ensured service service key :=
    ⟨rfl, rfl, fun _ _ h => h, fun _ _ _ h => h, hcached⟩
  unfold ensureSeries
  cases hknown : service.seriesIds key with
  | some id =>
    dsimp only
    split_ifs
    · exact ⟨rfl, rfl, fun _ _ h => h, fun _ _ _ h => h, hcached⟩
    · refine ⟨rfl, rfl, fun _ _ h => ?_, fun _ _ _ h => ?_, fun other id h => ?_⟩
      · exact SeriesTable.has_setLabel.mpr h
      · exact SeriesTable.has_setLabel.mp h
      · exact SeriesTable.has_setLabel.mpr (hcached other id h)
    · exact hsame
  | none =>
    have hgrows : ∀ id other, service.db.series.Has id other →
        (service.db.series.insertOrIgnore rowIds key unit label).Has id other :=
      fun _ _ => SeriesTable.has_insertOrIgnore
    have hothers : ∀ id other, other ≠ key →
        (service.db.series.insertOrIgnore rowIds key unit label).Has id other →
          service.db.series.Has id other :=
      fun _ _ => SeriesTable.has_of_has_insertOrIgnore
    dsimp only
    split_ifs
    · exact hsame
    · exact ⟨rfl, rfl, hgrows, hothers, fun other id h => hgrows id other (hcached other id h)⟩
    all_goals
      refine ⟨rfl, rfl, hgrows, hothers, fun other id h => ?_⟩
      dsimp only at h ⊢
      by_cases hkey : other = key
      · subst hkey
        obtain ⟨new, hnew⟩ :=
          SeriesTable.exists_has_insertOrIgnore rowIds service.db.series other unit label
        rw [update_self, SeriesTable.idOf_eq_some_iff.mpr hnew, Option.getD_some] at h
        exact Option.some.inj h ▸ hnew
      · rw [update_of_ne hkey] at h
        exact hgrows id other (hcached other id h)

theorem deviceMergeChecked_ensureSeries (service : HistoryService V) (rowIds : RowIds)
    (faults : Faults) (key unit label : String) :
    (service.ensureSeries rowIds faults key unit label).1.deviceMergeChecked =
      service.deviceMergeChecked := by
  unfold ensureSeries
  cases service.seriesIds key with
  | some id =>
    dsimp only
    split_ifs <;> rfl
  | none =>
    dsimp only
    split_ifs <;> rfl

theorem has_of_ensureSeries (hcached : CacheValid service)
    (h : (service.ensureSeries rowIds faults key unit label).2 = some id) :
    (service.ensureSeries rowIds faults key unit label).1.db.series.Has id key := by
  refine (ensured_ensureSeries rowIds faults key unit label hcached).cached key id ?_
  unfold ensureSeries at h ⊢
  cases hknown : service.seriesIds key with
  | some known =>
    rw [hknown] at h
    dsimp only at h ⊢
    split_ifs at h ⊢
    · exact hknown.trans h
    · exact hknown.trans h
  | none =>
    rw [hknown] at h
    dsimp only at h ⊢
    split_ifs at h ⊢
    all_goals
      dsimp only
      rwa [update_self]

theorem mergeLegacyDeviceSeries_cases (service : HistoryService V) (faults : Faults)
    (legacyKey : String) (targetId : ℤ) :
    (service.mergeLegacyDeviceSeries faults legacyKey targetId).1 = service ∨
      ∃ legacyId, (∀ statement ∈ [DbStatement.selectLegacy, .begin, .repoint, .dropSeries, .commit],
          faults statement = false) ∧
        Folded service (service.mergeLegacyDeviceSeries faults legacyKey targetId).1
          legacyKey legacyId targetId := by
  unfold mergeLegacyDeviceSeries
  split_ifs with hselect
  · exact .inl rfl
  cases hfound : service.db.series.idOf legacyKey with
  | none => exact .inl rfl
  | some legacyId =>
    dsimp only
    split_ifs with hsame
    · exact .inl rfl
    cases hfold : transact faults (foldSeries faults legacyId targetId) service.db with
    | none => exact .inl rfl
    | some db =>
      have hwork := transact_works hfold
      have hbody := transact_eq_some hfold
      unfold foldSeries at hbody
      split_ifs at hbody with hrepoint hdrop
      cases hbody
      refine .inr ⟨legacyId, ?_, SeriesTable.idOf_eq_some_iff.mp hfound, hsame, rfl, rfl, rfl, rfl⟩
      simp [hselect, hrepoint, hdrop, hwork]

/-- The legacy series of a label is folded: it is there, it is looked for the first time, and no
statement fails. -/
structure Folds (service : HistoryService V) (faults : Faults) (key label : String)
    (legacyId : ℤ) : Prop where
  running : service.running
  isOpen : service.isOpen
  labelled : label ≠ ""
  differs : legacyKeyOf label ≠ key
  first : service.deviceMergeChecked (legacyKeyOf label) = false
  found : service.db.series.idOf (legacyKeyOf label) = some legacyId
  /-- The series of the device is there, with the label, or can be looked up. -/
  ensured : match service.seriesIds key with
    | some _ => (service.seriesLabels key).getD "" = label ∨ faults .updateLabel = false
    | none => faults .insertSeries = false ∧ faults .selectSeries = false
  works : ∀ statement ∈ [DbStatement.selectLegacy, .begin, .repoint, .dropSeries, .commit],
    faults statement = false

theorem ensured_of_ensureSeries (hlabel : label ≠ "")
    (h : (service.ensureSeries rowIds faults key unit label).2 = some id) :
    match service.seriesIds key with
    | some _ => (service.seriesLabels key).getD "" = label ∨ faults .updateLabel = false
    | none => faults .insertSeries = false ∧ faults .selectSeries = false := by
  unfold ensureSeries at h
  cases hknown : service.seriesIds key with
  | some known =>
    rw [hknown] at h
    dsimp only at h ⊢
    split_ifs at h with hdiffers hfault
    · exact .inr (by simpa using hfault)
    · exact .inl (not_not.mp fun hne => hdiffers ⟨hlabel, hne⟩)
  | none =>
    rw [hknown] at h
    dsimp only at h ⊢
    split_ifs at h with hinsert hselect
    exact ⟨by simpa using hinsert, by simpa using hselect⟩

theorem foldLegacy_cases (service : HistoryService V) (faults : Faults) (key label : String)
    (targetId : ℤ) :
    SameTables service (service.foldLegacy faults key label targetId).1 ∨
      ∃ legacyId, label ≠ "" ∧ legacyKeyOf label ≠ key ∧
        service.deviceMergeChecked (legacyKeyOf label) = false ∧
        (∀ statement ∈ [DbStatement.selectLegacy, .begin, .repoint, .dropSeries, .commit],
          faults statement = false) ∧
        Folded service (service.foldLegacy faults key label targetId).1 (legacyKeyOf label)
          legacyId targetId := by
  unfold foldLegacy
  split_ifs with htried
  · rcases mergeLegacyDeviceSeries_cases
      { service with
        deviceMergeChecked := Function.update service.deviceMergeChecked (legacyKeyOf label) true }
      faults (legacyKeyOf label) targetId with
      hsame | ⟨legacyId, hworks, hfolded⟩
    · rw [hsame]
      exact .inl ⟨rfl, rfl, rfl⟩
    · exact .inr ⟨legacyId, htried.1, htried.2.1, htried.2.2, hworks, hfolded.found, hfolded.other,
        hfolded.series, hfolded.samples, hfolded.seriesIds, hfolded.buffer⟩
  · exact .inl ⟨rfl, rfl, rfl⟩

end HistoryService

/-! ## The log of a run -/

structure Recording (V : Type*) where
  service : HistoryService V
  log : KeyedLog String V

def acceptBuffered (before after : HistoryService V) (key : String) (ts : ℤ) (value : V)
    (log : KeyedLog String V) : KeyedLog String V :=
  if after.buffer.length = before.buffer.length then log else log.accept key ts value

def mergeVanished (before after : HistoryService V) (legacyKey key : String)
    (log : KeyedLog String V) : KeyedLog String V :=
  if before.db.series.idOf legacyKey ≠ none ∧ after.db.series.idOf legacyKey = none then
    log.merge legacyKey key
  else
    log

/-- What is entered for an event, read off the states before and after it. -/
def enter (before after : HistoryService V) (log : KeyedLog String V) :
    HistoryEvent V → KeyedLog String V
  | .recordNumeric _ key _ value _ now => acceptBuffered before after key now value log
  | .recordState _ key value now _ => acceptBuffered before after key now value log
  | .recordDeviceState _ key label value now _ =>
    acceptBuffered before after key now value
      (mergeVanished before after (legacyKeyOf label) key log)
  | .flush _ | .stop _ => if after.buffer.isEmpty then log.store else log
  | .purgeOld faults now retentionDays =>
    if before.isOpen = false ∨ retentionDays = 0 ∨ faults .deleteOld = true then log
    else log.purge (HistoryService.retentionCutoff now retentionDays)

namespace Recording

def step (rowIds : RowIds) (recording : Recording V) (event : HistoryEvent V) : Recording V where
  service := recording.service.step rowIds event
  log := enter recording.service (recording.service.step rowIds event) recording.log event

def start (db : Database V) : Recording V where
  service := { db := db }
  log := KeyedLog.empty

end Recording

/-- What a row says, whatever series it is in. -/
def Sample.reading (sample : Sample V) : ℤ × V := (sample.ts, sample.value)

theorem Sample.reading_comp_repoint (targetId legacyId : ℤ) :
    reading ∘ repoint (V := V) targetId legacyId = reading := by
  funext sample
  rw [comp_apply, repoint]
  split <;> rfl

structure BelongsTo (series : SeriesTable) (sample : Sample V) (entry : KeyedEntry String V) :
    Prop where
  ts : sample.ts = entry.ts
  value : sample.value = entry.value
  series : series.Has sample.seriesId entry.key

/-- The table, behind what is left of the rows at the start, and the buffer are those of the
log. -/
structure Filed (initial : List (Sample V)) (service : HistoryService V) (log : KeyedLog String V) :
    Prop where
  stored : ∃ earlier written, service.db.samples = earlier ++ written ∧
    (earlier.map Sample.reading).Sublist (initial.map Sample.reading) ∧
    List.Forall₂ (BelongsTo service.db.series) written log.stored
  waiting : List.Forall₂ (BelongsTo service.db.series) service.buffer log.waiting
  cached : CacheValid service

section

variable {service service' : HistoryService V} {log : KeyedLog String V}
variable {key legacyKey : String} {legacyId targetId : ℤ}
variable {samples initial : List (Sample V)} {entries : List (KeyedEntry String V)}

theorem Filed.same (h : Filed initial service log) (hsame : SameTables service service') :
    Filed initial service' log := by
  obtain ⟨hstored, hwaiting, hcached⟩ := h
  constructor
  · rwa [hsame.db]
  · rwa [hsame.db, hsame.buffer]
  · intro key id hid
    rw [hsame.db]
    exact hcached key id (hsame.seriesIds ▸ hid)

theorem Filed.ensured (h : Filed initial service log) (hensured : Ensured service service' key) :
    Filed initial service' log := by
  have himp : ∀ (sample : Sample V) entry, BelongsTo service.db.series sample entry →
      BelongsTo service'.db.series sample entry :=
    fun _ _ hbelongs => ⟨hbelongs.ts, hbelongs.value, hensured.grows _ _ hbelongs.series⟩
  obtain ⟨earlier, written, hsamples, hkept, hstored⟩ := h.stored
  constructor
  · exact ⟨earlier, written, hensured.samples.trans hsamples, hkept, hstored.imp himp⟩
  · rw [hensured.buffer]
    exact h.waiting.imp himp
  · exact hensured.cached

theorem forall₂_repoint {series : SeriesTable} (hfound : series.Has legacyId legacyKey)
    (htarget : series.Has targetId key) (hother : legacyId ≠ targetId)
    (h : List.Forall₂ (BelongsTo series) samples entries) :
    List.Forall₂ (BelongsTo (series.drop legacyId))
      (samples.map (Sample.repoint targetId legacyId))
      (entries.map (KeyedEntry.rename legacyKey key)) := by
  rw [List.forall₂_map_left_iff, List.forall₂_map_right_iff]
  refine h.imp fun sample entry hbelongs => ?_
  by_cases hid : sample.seriesId = legacyId
  · have hkey : entry.key = legacyKey := (hid ▸ hbelongs.series).key_unique hfound
    rw [Sample.repoint, if_pos hid, KeyedEntry.rename, if_pos hkey]
    exact ⟨hbelongs.ts, hbelongs.value, SeriesTable.has_drop.mpr ⟨htarget, hother.symm⟩⟩
  · have hkey : entry.key ≠ legacyKey := fun heq => hid ((heq ▸ hbelongs.series).id_unique hfound)
    rw [Sample.repoint, if_neg hid, KeyedEntry.rename, if_neg hkey]
    exact ⟨hbelongs.ts, hbelongs.value, SeriesTable.has_drop.mpr ⟨hbelongs.series, hid⟩⟩

theorem map_repoint_eq_self (targetId : ℤ) (h : ∀ sample ∈ samples, sample.seriesId ≠ legacyId) :
    samples.map (Sample.repoint targetId legacyId) = samples := by
  calc samples.map (Sample.repoint targetId legacyId) = samples.map id :=
        map_congr_left fun sample hmem => by rw [Sample.repoint, if_neg (h sample hmem), id]
    _ = samples := map_id samples

theorem Filed.folded (h : Filed initial service log)
    (hfolded : Folded service service' legacyKey legacyId targetId)
    (htarget : service.db.series.Has targetId key)
    (hflushed : ∀ sample ∈ service.buffer, sample.seriesId ≠ legacyId) :
    Filed initial service' (log.merge legacyKey key) := by
  obtain ⟨earlier, written, hsamples, hkept, hstored⟩ := h.stored
  constructor
  · refine ⟨earlier.map (Sample.repoint targetId legacyId),
      written.map (Sample.repoint targetId legacyId), ?_, ?_, ?_⟩
    · rw [hfolded.samples, hsamples, map_append]
    · rwa [map_map, Sample.reading_comp_repoint]
    · rw [hfolded.series]
      exact forall₂_repoint hfolded.found htarget hfolded.other hstored
  · rw [hfolded.buffer, hfolded.series, ← map_repoint_eq_self targetId hflushed]
    exact forall₂_repoint hfolded.found htarget hfolded.other h.waiting
  · intro other id hid
    rw [hfolded.seriesIds] at hid
    by_cases hkey : other = legacyKey
    · rw [hkey, update_self] at hid
      cases hid
    · rw [update_of_ne hkey] at hid
      have hhas := h.cached other id hid
      rw [hfolded.series]
      refine SeriesTable.has_drop.mpr ⟨hhas, fun heq => hkey ?_⟩
      exact (heq ▸ hhas).key_unique hfolded.found

theorem Filed.buffered (h : Filed initial service log) {id now later : ℤ} {value : V}
    (hid : service.db.series.Has id key) :
    Filed initial (service.bufferSample key id now later value) (log.accept key now value) := by
  constructor
  · exact h.stored
  · exact rel_append h.waiting (.cons ⟨rfl, rfl, hid⟩ .nil)
  · exact h.cached

end

/-! ## The steps -/

section

variable {service after : HistoryService V} {log : KeyedLog String V} {rowIds : RowIds}
variable {faults : Faults} {key unit label : String} {value : V} {id now later : ℤ}
variable {initial : List (Sample V)}

theorem acceptBuffered_same (h : after.buffer = service.buffer) :
    acceptBuffered service after key now value log = log := by
  rw [acceptBuffered, h, if_pos rfl]

theorem acceptBuffered_bufferSample (h : after.buffer = service.buffer) :
    acceptBuffered service (after.bufferSample key id now later value) key now value log =
      log.accept key now value := by
  rw [acceptBuffered, HistoryService.bufferSample, h, length_append, length_singleton,
    if_neg (by omega)]

section

variable (h : Filed initial service log)

include h

theorem Filed.recorded (hid : after.db.series.Has id key) (hensured : Ensured service after key) :
    Filed initial (after.bufferSample key id now later value)
      (acceptBuffered service (after.bufferSample key id now later value) key now value log) := by
  rw [acceptBuffered_bufferSample hensured.buffer]
  exact (h.ensured hensured).buffered hid

/-- A sample is accepted when its series is there, or has been added. -/
theorem Filed.ensureThenBuffer (unit : String) :
    let service' := match service.ensureSeries rowIds faults key unit "" with
      | (service', none) => service'
      | (service', some id) => service'.bufferSample key id now later value
    Filed initial service' (acceptBuffered service service' key now value log) := by
  have hensured := HistoryService.ensured_ensureSeries rowIds faults key unit "" h.cached
  rcases hresult : service.ensureSeries rowIds faults key unit "" with ⟨service', _ | id⟩
  · rw [hresult] at hensured
    dsimp only at hensured ⊢
    rw [acceptBuffered_same hensured.buffer]
    exact h.ensured hensured
  · have hid := HistoryService.has_of_ensureSeries h.cached (congrArg Prod.snd hresult)
    rw [hresult] at hensured hid
    exact h.recorded hid hensured

theorem Filed.recordNumeric (isHeartbeat : Bool) :
    Filed initial (service.recordNumeric rowIds faults key unit value isHeartbeat now)
      (acceptBuffered service
        (service.recordNumeric rowIds faults key unit value isHeartbeat now)
        key now value log) := by
  unfold HistoryService.recordNumeric
  split_ifs
  · rwa [acceptBuffered_same rfl]
  · rwa [acceptBuffered_same rfl]
  · exact h.ensureThenBuffer unit

theorem Filed.recordState :
    Filed initial (service.recordState rowIds faults key value now later)
      (acceptBuffered service (service.recordState rowIds faults key value now later) key now value
        log) := by
  unfold HistoryService.recordState
  split_ifs
  · rwa [acceptBuffered_same rfl]
  · exact h.ensureThenBuffer "state"

theorem Filed.store (hempty : service.buffer = []) : Filed initial service log.store := by
  obtain ⟨hstored, hwaiting, hcached⟩ := h
  rw [hempty, List.forall₂_nil_left_iff] at hwaiting
  constructor
  · rwa [show log.store.stored = log.stored by simp [KeyedLog.store, hwaiting]]
  · rw [hempty]
    exact .nil
  · exact hcached

theorem Filed.storeIfEmpty :
    Filed initial service (if service.buffer.isEmpty then log.store else log) := by
  split_ifs with hempty
  · exact h.store (List.isEmpty_iff.mp hempty)
  · exact h

end

theorem flush_cases (service : HistoryService V) (faults : Faults) :
    service.flush faults = service ∨ service.flush faults =
      { service with
        db := { service.db with samples := service.db.samples ++ service.buffer }
        buffer := [] } := by
  unfold HistoryService.flush
  by_cases hidle : service.isOpen = false ∨ service.buffer = []
  · rw [if_pos hidle]
    exact .inl rfl
  rw [if_neg hidle]
  cases hwritten : transact faults (Database.insertSamples faults 0 service.buffer) service.db with
  | none => exact .inl rfl
  | some db =>
    obtain rfl := Database.insertSamples_eq_some (transact_eq_some hwritten)
    exact .inr rfl

theorem Filed.flush (h : Filed initial service log) (faults : Faults) :
    Filed initial (service.flush faults)
      (if (service.flush faults).buffer.isEmpty then log.store else log) := by
  rcases flush_cases service faults with hsame | hwritten
  · rw [hsame]
    exact h.storeIfEmpty
  · obtain ⟨earlier, written, hsamples, hkept, hstored⟩ := h.stored
    rw [hwritten, if_pos (List.isEmpty_iff.mpr rfl)]
    constructor
    · refine ⟨earlier, written ++ service.buffer, ?_, hkept, rel_append hstored h.waiting⟩
      rw [hsamples, append_assoc]
    · exact .nil
    · exact h.cached

theorem Filed.stop (h : Filed initial service log) :
    Filed initial (service.stop faults)
      (if (service.stop faults).buffer.isEmpty then log.store else log) := by
  by_cases hstopped : service.running = false
  · rw [HistoryService.stop, if_pos hstopped]
    exact h.storeIfEmpty
  · have hrunning : Filed initial { service with running := false } log := h.same ⟨rfl, rfl, rfl⟩
    rw [HistoryService.stop, if_neg hstopped]
    exact (hrunning.flush faults).same ⟨rfl, rfl, rfl⟩

theorem Filed.purgeOld (h : Filed initial service log) (retentionDays : UInt32) :
    Filed initial (service.purgeOld faults now retentionDays)
      (if service.isOpen = false ∨ retentionDays = 0 ∨ faults .deleteOld then log
        else log.purge (HistoryService.retentionCutoff now retentionDays)) := by
  unfold HistoryService.purgeOld
  split_ifs
  · exact h
  obtain ⟨earlier, written, hsamples, hkept, hstored⟩ := h.stored
  constructor
  · refine ⟨_, _, by rw [hsamples, filter_append],
      (List.filter_sublist.map _).trans hkept, rel_filter ?_ hstored⟩
    intro sample entry hbelongs
    simp only [hbelongs.ts]
  · exact h.waiting
  · exact h.cached

theorem mergeVanished_ensured {legacyKey : String} (hensured : Ensured service after key) :
    mergeVanished service after legacyKey key log = log := by
  refine if_neg ?_
  rintro ⟨hsome, hnone⟩
  obtain ⟨id, hid⟩ := Option.ne_none_iff_exists'.mp hsome
  exact SeriesTable.idOf_eq_none_iff.mp hnone id
    (hensured.grows id legacyKey (SeriesTable.idOf_eq_some_iff.mp hid))

variable {service' : HistoryService V}

theorem mergeVanished_folded {legacyKey : String} {legacyId targetId : ℤ}
    (hensured : Ensured service service' key) (hkey : legacyKey ≠ key)
    (hfolded : Folded service' after legacyKey legacyId targetId) :
    mergeVanished service after legacyKey key log = log.merge legacyKey key := by
  refine if_pos ⟨?_, SeriesTable.idOf_eq_none_iff.mpr fun other hother => ?_⟩
  · have hfound := hensured.others legacyId legacyKey hkey hfolded.found
    rw [SeriesTable.idOf_eq_some_iff.mpr hfound]
    exact Option.some_ne_none _
  · rw [hfolded.series] at hother
    obtain ⟨hhas, hne⟩ := SeriesTable.has_drop.mp hother
    exact hne (hhas.id_unique hfolded.found)

theorem foldLegacy_keeps (hensured : Ensured service service' key)
    (hid : service'.db.series.Has id key) (faults : Faults) (label : String) :
    (service'.foldLegacy faults key label id).1.buffer = service.buffer ∧
      (service'.foldLegacy faults key label id).1.db.series.Has id key := by
  rcases HistoryService.foldLegacy_cases service' faults key label id with
    hsame | ⟨_, -, -, -, -, hmerged⟩
  · exact ⟨hsame.buffer.trans hensured.buffer, hsame.db ▸ hid⟩
  · refine ⟨hmerged.buffer.trans hensured.buffer, ?_⟩
    rw [hmerged.series]
    exact SeriesTable.has_drop.mpr ⟨hid, hmerged.other.symm⟩

theorem Filed.foldLegacy (h : Filed initial service log) (hrunning : service.running)
    (hopen : service.isOpen)
    (hresult : service.ensureSeries rowIds faults key "state" label = (service', some id))
    (hflushed : ∀ legacyId, HistoryService.Folds service faults key label legacyId →
      ∀ sample ∈ service.buffer, sample.seriesId ≠ legacyId) :
    Filed initial (service'.foldLegacy faults key label id).1
      (mergeVanished service (service'.foldLegacy faults key label id).1 (legacyKeyOf label) key
        log) := by
  have hensured := HistoryService.ensured_ensureSeries rowIds faults key "state" label h.cached
  have hid := HistoryService.has_of_ensureSeries h.cached (congrArg Prod.snd hresult)
  have hchecked := HistoryService.deviceMergeChecked_ensureSeries service rowIds faults key "state"
    label
  rw [hresult] at hensured hid hchecked
  dsimp only at hensured hid hchecked
  rcases HistoryService.foldLegacy_cases service' faults key label id with
    hsame | ⟨legacyId, hlabel, hkey, hfirst, hworks, hmerged⟩
  · have hreached := hensured.same hsame
    rw [mergeVanished_ensured hreached]
    exact h.ensured hreached
  · rw [mergeVanished_folded hensured hkey hmerged]
    refine (h.ensured hensured).folded hmerged hid ?_
    rw [hensured.buffer]
    have hfound := hensured.others legacyId _ hkey hmerged.found
    exact hflushed legacyId
      { running := hrunning
        isOpen := hopen
        labelled := hlabel
        differs := hkey
        first := hchecked ▸ hfirst
        found := SeriesTable.idOf_eq_some_iff.mpr hfound
        ensured := HistoryService.ensured_of_ensureSeries hlabel (congrArg Prod.snd hresult)
        works := hworks }

theorem Filed.recordDeviceState (h : Filed initial service log)
    (hflushed : ∀ legacyId, HistoryService.Folds service faults key label legacyId →
      ∀ sample ∈ service.buffer, sample.seriesId ≠ legacyId) :
    Filed initial (service.recordDeviceState rowIds faults key label value now later)
      (acceptBuffered service
        (service.recordDeviceState rowIds faults key label value now later) key now value
        (mergeVanished service
          (service.recordDeviceState rowIds faults key label value now later)
          (legacyKeyOf label) key log)) := by
  unfold HistoryService.recordDeviceState
  by_cases hclosed : service.running = false ∨ service.isOpen = false
  · have hself : Ensured service service key :=
      ⟨rfl, rfl, fun _ _ h => h, fun _ _ _ h => h, h.cached⟩
    rwa [if_pos hclosed, mergeVanished_ensured hself, acceptBuffered_same rfl]
  rw [if_neg hclosed]
  rw [not_or, Bool.not_eq_false, Bool.not_eq_false] at hclosed
  have hensured := HistoryService.ensured_ensureSeries rowIds faults key "state" label h.cached
  rcases hresult : service.ensureSeries rowIds faults key "state" label with ⟨service', _ | id⟩
  · rw [hresult] at hensured
    rw [mergeVanished_ensured hensured, acceptBuffered_same hensured.buffer]
    exact h.ensured hensured
  have hid := HistoryService.has_of_ensureSeries h.cached (congrArg Prod.snd hresult)
  rw [hresult] at hensured hid
  have hmerge := h.foldLegacy hclosed.1 hclosed.2 hresult hflushed
  have hkeeps := foldLegacy_keeps hensured hid faults label
  dsimp only at hkeeps ⊢
  rcases hfold : service'.foldLegacy faults key label id with ⟨folded, worked⟩
  rw [hfold] at hmerge hkeeps
  cases worked with
  | false =>
    rwa [acceptBuffered_same hkeeps.1]
  | true =>
    rw [acceptBuffered_bufferSample hkeeps.1]
    exact hmerge.buffered hkeeps.2

end

/-! ## Runs -/

def FoldsFlushed (recording : Recording V) : HistoryEvent V → Prop
  | .recordDeviceState faults key label _ _ _ =>
    ∀ legacyId, HistoryService.Folds recording.service faults key label legacyId →
      ∀ sample ∈ recording.service.buffer, sample.seriesId ≠ legacyId
  | _ => True

/-- Nothing is lost or misfiled. -/
structure LosesNothing (rowIds : RowIds) (db : Database V) (recording : Recording V) : Prop where
  /-- The rows that have been written are the entries that are stored, each in the series of its
  key, behind rows that were there at the start. -/
  filed : ∃ earlier written, recording.service.db.samples = earlier ++ written ∧
    (earlier.map Sample.reading).Sublist (db.samples.map Sample.reading) ∧
    List.Forall₂ (BelongsTo recording.service.db.series) written recording.log.stored
  /-- No sample is stored twice. -/
  once : (recording.log.stored.map KeyedEntry.ticket).Nodup
  /-- After a flush that leaves nothing in the buffer every sample that was accepted is stored,
  unless it was older than a cutoff. -/
  present : ∀ faults,
    let flushed := recording.step rowIds (.flush faults)
    flushed.service.buffer = [] → ∀ ticket < recording.log.accepted,
      (∃ entry ∈ flushed.log.stored, entry.ticket = ticket) ∨
        ∃ entry ∈ flushed.log.purged, entry.ticket = ticket ∧
          ∃ cutoff ∈ flushed.log.cutoffs, entry.ts < cutoff
  /-- A flush in which no statement fails is one. -/
  flushes : recording.service.isOpen → ∀ faults, (∀ statement, faults statement = false) →
    (recording.step rowIds (.flush faults)).service.buffer = []

theorem HistoryService.flush_buffer (service : HistoryService V) (hopen : service.isOpen)
    {faults : Faults} (h : ∀ statement, faults statement = false) :
    (service.flush faults).buffer = [] := by
  unfold flush
  split_ifs with hidle
  · rcases hidle with hclosed | hempty
    · rw [hopen] at hclosed
      cases hclosed
    · exact hempty
  · simp [transact, h, Database.insertSamples_of_no_fault h]

theorem filed_step (rowIds : RowIds) {initial : List (Sample V)} (recording : Recording V)
    (event : HistoryEvent V) (h : Filed initial recording.service recording.log)
    (hflushed : FoldsFlushed recording event) :
    Filed initial (recording.step rowIds event).service (recording.step rowIds event).log := by
  cases event with
  | recordNumeric faults key unit value isHeartbeat now => exact h.recordNumeric isHeartbeat
  | recordState faults key value now later => exact h.recordState
  | recordDeviceState faults key label value now later => exact h.recordDeviceState hflushed
  | flush faults => exact h.flush faults
  | purgeOld faults now retentionDays => exact h.purgeOld retentionDays
  | stop faults => exact h.stop

theorem losesNothing_of_filed (rowIds : RowIds) {db : Database V} {recording : Recording V}
    (h : Filed db.samples recording.service recording.log) : LosesNothing rowIds db recording := by
  constructor
  · exact h.stored
  · exact recording.log.stored_nodup
  · intro faults flushed hempty ticket hticket
    have hlog : flushed.log = recording.log.store := if_pos (List.isEmpty_iff.mpr hempty)
    rw [hlog]
    exact recording.log.store.stored_or_old hticket rfl
  · exact fun hopen faults hworks => recording.service.flush_buffer hopen hworks

theorem filed_start (db : Database V) :
    Filed db.samples (Recording.start db).service (Recording.start db).log := by
  constructor
  · exact ⟨db.samples, [], (append_nil _).symm, .refl _, .nil⟩
  · exact .nil
  · intro key id hid
    cases hid

/-- **When the history loses and misfiles nothing.**  Whatever statements fail and in whichever
order things happen, each sample that was accepted is stored once, by the first flush that works, in
the series of its key or of the key that this was merged into, as long as no series is folded while
a sample of it waits. -/
theorem losesNothing_of_foldsFlushed (rowIds : RowIds) (db : Database V)
    (events : List (HistoryEvent V))
    (h : EachStep (Recording.step rowIds) FoldsFlushed (Recording.start db) events) :
    EachState (Recording.step rowIds) (LosesNothing rowIds db) (Recording.start db) events := by
  have hfiled : EachState (Recording.step rowIds)
      (fun recording => Filed db.samples recording.service recording.log) (Recording.start db)
        events :=
    h.eachState_of_step (filed_step rowIds) (filed_start db)
  exact hfiled.mono fun _ => losesNothing_of_filed rowIds

/-! ### A light that has got its label -/

def aboveAll : RowIds where
  next ids := ids.foldl max 0 + 1
  unused := by
    intro ids hmem
    have habove : ∀ (ids : List ℤ) (least : ℤ), least ≤ ids.foldl max least ∧
        ∀ id ∈ ids, id ≤ ids.foldl max least := by
      intro ids
      induction ids with
      | nil => intro least; simp
      | cons first ids ih =>
        intro least
        obtain ⟨hleast, hids⟩ := ih (max least first)
        rw [foldl_cons]
        refine ⟨by omega, fun id hid => ?_⟩
        rcases List.mem_cons.mp hid with rfl | hrest
        · omega
        · exact hids id hrest
    have hle := (habove ids 0).2 _ hmem
    omega

def emptyDatabase : Database ℕ where
  series := { rows := [], ids := nodup_nil, keys := nodup_nil }
  samples := []

def noFaults : Faults := fun _ => false

def flushedBetween : List (HistoryEvent ℕ) :=
  [.recordState noFaults "device/pool_light/state" 1 100 100, .flush noFaults,
    .recordDeviceState noFaults "device/uuid-1" "Pool Light" 1 105 105, .flush noFaults]

theorem losesNothing_flushedBetween :
    EachState (Recording.step aboveAll) (LosesNothing aboveAll emptyDatabase)
      (Recording.start emptyDatabase) flushedBetween := by
  refine losesNothing_of_foldsFlushed aboveAll emptyDatabase flushedBetween
    ⟨trivial, trivial, ?_, trivial, trivial⟩
  intro legacyId _ sample hsample
  cases hsample

/-- The series of the legacy key gets the id 2, and the state waits while that series is folded.
Then the temperature of the pool gets the id 2. -/
def foldedWhileWaiting : List (HistoryEvent ℕ) :=
  [.recordDeviceState noFaults "device/uuid-1" "" 0 100 100,
    .recordState noFaults "device/pool_light/state" 1 101 101,
    .recordDeviceState noFaults "device/uuid-1" "Pool Light" 0 102 102,
    .recordNumeric noFaults "temp/pool" "C" 26 false 103, .flush noFaults]

/-- The state of the light has become a temperature of the pool. -/
theorem state_filed_as_temperature :
    let recording := foldedWhileWaiting.foldl (Recording.step aboveAll)
      (Recording.start emptyDatabase)
    recording.service.db.series.rows.map (fun row => (row.id, row.key)) =
        [(1, "device/uuid-1"), (2, "temp/pool")] ∧
      recording.service.db.samples = [⟨1, 100, 0⟩, ⟨2, 101, 1⟩, ⟨1, 102, 0⟩, ⟨2, 103, 26⟩] ∧
      recording.log.stored.map KeyedEntry.key =
        ["device/uuid-1", "device/uuid-1", "device/uuid-1", "temp/pool"] ∧
      ¬ LosesNothing aboveAll emptyDatabase recording := by
  intro recording
  have hseries : recording.service.db.series.rows.map (fun row => (row.id, row.key)) =
      [(1, "device/uuid-1"), (2, "temp/pool")] := by decide +kernel
  have hsamples : recording.service.db.samples =
      [⟨1, 100, 0⟩, ⟨2, 101, 1⟩, ⟨1, 102, 0⟩, ⟨2, 103, 26⟩] := by decide +kernel
  have hkeys : recording.log.stored.map KeyedEntry.key =
      ["device/uuid-1", "device/uuid-1", "device/uuid-1", "temp/pool"] := by decide +kernel
  refine ⟨hseries, hsamples, hkeys, fun hkept => ?_⟩
  obtain ⟨earlier, written, hsplit, -, hfiled⟩ := hkept.filed
  have hunder : List.Forall₂ (fun sample key => recording.service.db.series.Has sample.seriesId key)
      written (recording.log.stored.map KeyedEntry.key) :=
    List.forall₂_map_right_iff.mpr (hfiled.imp fun _ _ hbelongs => hbelongs.series)
  rw [hkeys] at hunder
  have hlength : written.length = 4 := hunder.length_eq
  have hall : written = recording.service.db.samples := by
    have htotal := congrArg List.length hsplit
    rw [hsamples, length_append, hlength] at htotal
    have hnone : earlier = [] := eq_nil_of_length_eq_zero (by simpa using htotal)
    rw [hsplit, hnone, nil_append]
  rw [hall, hsamples, List.forall₂_cons, List.forall₂_cons] at hunder
  -- the series 2 is that of the temperature
  obtain ⟨row, hrow, hid, hkey⟩ := hunder.2.1
  have hmem : (row.id, row.key) ∈ recording.service.db.series.rows.map fun row =>
      (row.id, row.key) := mem_map_of_mem hrow
  rw [hseries, hid, hkey] at hmem
  exact absurd hmem (by decide)

end AqualinkAutomate.History
