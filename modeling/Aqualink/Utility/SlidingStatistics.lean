import Mathlib
import Aqualink.General.BoundedFeed

/-!
# Statistics over a sliding window

The bandwidth of the serial port and the latencies of its operations are reported over a window.
Both classes prune what has expired when a sample is added, and read what is there when they are
asked; so a sample that expires after the last addition is still reported.

The bandwidth keeps a total beside its samples, in 64 bits.  It follows the samples as long as the
ones that are there at an addition, with the new one, add up to less than `2 ^ 64`; from then on it
has wrapped around, and taking away what it does not have wraps it again.

Percentages and percentiles are floating-point and are parameters.
-/

namespace AqualinkAutomate.Utility

open General SlidingWindow List

/-! ## Bandwidth -/

structure HistoryElement where
  time : ℤ
  bytes : UInt64
  deriving DecidableEq

structure UtilisationOverPeriod where
  history : List HistoryElement := []
  statsDuration : ℤ
  runningTotalBytes : UInt64 := 0

/-- What is older than the window goes, from the front, and its bytes from the total. -/
def pruneHistory (statsDuration nowTime : ℤ) :
    List HistoryElement → UInt64 → List HistoryElement × UInt64
  | [], total => ([], total)
  | element :: rest, total =>
    if nowTime - element.time > statsDuration then
      pruneHistory statsDuration nowTime rest (total - element.bytes)
    else (element :: rest, total)

/-- One of the subtractions takes away more than there is. -/
def PruneUnderflows (statsDuration nowTime : ℤ) : List HistoryElement → UInt64 → Prop
  | [], _ => False
  | element :: rest, total =>
    nowTime - element.time > statsDuration ∧
      (total < element.bytes ∨ PruneUnderflows statsDuration nowTime rest (total - element.bytes))

namespace UtilisationOverPeriod

/-- A sample is added before the history is pruned. -/
def updateHistory (u : UtilisationOverPeriod) (nowTime : ℤ) (bytes : UInt64) :
    UtilisationOverPeriod :=
  let pruned := pruneHistory u.statsDuration nowTime (u.history ++ [⟨nowTime, bytes⟩])
    (u.runningTotalBytes + bytes)
  { u with history := pruned.1, runningTotalBytes := pruned.2 }

/-- The percentage of a total is `percentage`. -/
def utilisation {Double : Type*} [Zero Double] (percentage : UInt64 → Double)
    (u : UtilisationOverPeriod) : Double :=
  if u.history.isEmpty then 0 else percentage u.runningTotalBytes

/-- After additions at the times of the samples. -/
def after (statsDuration : ℤ) (samples : List HistoryElement) : UtilisationOverPeriod :=
  samples.foldl (fun u sample => u.updateHistory sample.time sample.bytes) { statsDuration }

end UtilisationOverPeriod

def sumBytes (samples : List HistoryElement) : ℕ :=
  (samples.map fun sample => sample.bytes.toNat).sum

/-- The utilisation at the query is that of the window, and the running total was right all the
time. -/
structure DescribesWindow {Double : Type*} [Zero Double] (percentage : UInt64 → Double)
    (statsDuration : ℤ) (traffic : Timeline HistoryElement.time) : Prop where
  samples : (UtilisationOverPeriod.after statsDuration traffic.items).history =
    within HistoryElement.time statsDuration traffic.query traffic.items
  total : ∀ seen, seen <+: traffic.items →
    (UtilisationOverPeriod.after statsDuration seen).runningTotalBytes.toNat =
      sumBytes (UtilisationOverPeriod.after statsDuration seen).history
  underflow : ∀ seen sample, seen ++ [sample] <+: traffic.items →
    ¬ PruneUnderflows statsDuration sample.time
      ((UtilisationOverPeriod.after statsDuration seen).history ++ [sample])
      ((UtilisationOverPeriod.after statsDuration seen).runningTotalBytes + sample.bytes)
  idle : (∀ sample ∈ traffic.items, traffic.query - sample.time > statsDuration) →
    (UtilisationOverPeriod.after statsDuration traffic.items).utilisation percentage = 0

/-! ## Latencies -/

structure LatencySample where
  timestamp : ℤ
  latency : ℤ
  deriving DecidableEq

structure LatencyPercentileTracker where
  /-- The capacity of the ring buffer. -/
  capacity : ℕ
  samples : List LatencySample := []
  windowDuration : ℤ
  totalSamples : ℕ := 0
  alltimeMin : ℤ := 0
  alltimeMax : ℤ := 0

structure PercentileSnapshot where
  p1 : ℤ := 0
  p50 : ℤ := 0
  p95 : ℤ := 0
  p99 : ℤ := 0
  min : ℤ := 0
  max : ℤ := 0
  alltimeMin : ℤ := 0
  alltimeMax : ℤ := 0
  mean : ℤ := 0
  sampleCount : ℕ := 0

namespace LatencyPercentileTracker

def construct (maxSamples : ℕ) (windowDuration : ℤ) : LatencyPercentileTracker :=
  { capacity := if maxSamples = 0 then 1 else maxSamples, windowDuration }

/-- In a full buffer the oldest sample makes room. -/
def record (tracker : LatencyPercentileTracker) (now latency : ℤ) : LatencyPercentileTracker :=
  let samples := pushBounded tracker.capacity tracker.samples ⟨now, latency⟩
  { tracker with
    samples := prune LatencySample.timestamp tracker.windowDuration now samples
    totalSamples := tracker.totalSamples + 1
    alltimeMin :=
      if tracker.totalSamples + 1 = 1 ∨ latency < tracker.alltimeMin then latency
      else tracker.alltimeMin
    alltimeMax := if latency > tracker.alltimeMax then latency else tracker.alltimeMax }

/-- The snapshot of the samples that are there.  `percentile` interpolates in the sorted
latencies. -/
def getSnapshot (percentile : ℕ → List ℤ → ℤ) (tracker : LatencyPercentileTracker) :
    PercentileSnapshot :=
  let scratch := (tracker.samples.map LatencySample.latency).mergeSort
  match scratch.head?, scratch.getLast? with
  | some min, some max =>
    { p1 := percentile 1 scratch, p50 := percentile 50 scratch, p95 := percentile 95 scratch
      p99 := percentile 99 scratch, min, max
      alltimeMin := tracker.alltimeMin, alltimeMax := tracker.alltimeMax
      mean := scratch.sum.tdiv scratch.length, sampleCount := scratch.length }
  | _, _ => {}

def after (maxSamples : ℕ) (windowDuration : ℤ) (samples : List LatencySample) :
    LatencyPercentileTracker :=
  samples.foldl (fun tracker sample => tracker.record sample.timestamp sample.latency)
    (construct maxSamples windowDuration)

end LatencyPercentileTracker

/-- The samples behind the snapshot at the query are the newest ones of the window. -/
def SnapshotDescribesWindow (maxSamples : ℕ) (windowDuration : ℤ)
    (latencies : Timeline LatencySample.timestamp) : Prop :=
  (LatencyPercentileTracker.after maxSamples windowDuration latencies.items).samples =
    (within LatencySample.timestamp windowDuration latencies.query latencies.items).rtake maxSamples

/-! ## What is kept -/

theorem pruneHistory_fst (statsDuration nowTime : ℤ) (history : List HistoryElement)
    (total : UInt64) :
    (pruneHistory statsDuration nowTime history total).1 =
      prune HistoryElement.time statsDuration nowTime history := by
  induction history generalizing total with
  | nil => rfl
  | cons element rest ih =>
    by_cases hexpired : nowTime - element.time > statsDuration
    · rw [pruneHistory, if_pos hexpired, ih, prune, prune,
        dropWhile_cons_of_pos (by simpa using hexpired)]
    · rw [pruneHistory, if_neg hexpired, prune, dropWhile_cons_of_neg (by simpa using hexpired)]

section

variable {statsDuration nowTime : ℤ} {history : List HistoryElement} {total : UInt64}

theorem toNat_pruneHistory (h : ¬ PruneUnderflows statsDuration nowTime history total) :
    (pruneHistory statsDuration nowTime history total).2.toNat + sumBytes history =
      total.toNat + sumBytes (pruneHistory statsDuration nowTime history total).1 := by
  induction history generalizing total with
  | nil => rfl
  | cons element rest ih =>
    by_cases hexpired : nowTime - element.time > statsDuration
    · rw [PruneUnderflows, not_and, not_or] at h
      obtain ⟨henough, hrest⟩ := h hexpired
      have hle : element.bytes ≤ total := UInt64.not_lt.mp henough
      have hsub := UInt64.toNat_sub_of_le _ _ hle
      have hle' : element.bytes.toNat ≤ total.toNat := UInt64.le_iff_toNat_le.mp hle
      have hlater := ih hrest
      have hsum : sumBytes (element :: rest) = element.bytes.toNat + sumBytes rest :=
        sum_cons
      rw [pruneHistory, if_pos hexpired, hsum]
      omega
    · rw [pruneHistory, if_neg hexpired]

theorem not_pruneUnderflows (h : sumBytes history ≤ total.toNat) :
    ¬ PruneUnderflows statsDuration nowTime history total := by
  induction history generalizing total with
  | nil => exact id
  | cons element rest ih =>
    have hsum : sumBytes (element :: rest) = element.bytes.toNat + sumBytes rest :=
      sum_cons
    rintro ⟨hexpired, hshort | hlater⟩
    · have hlt := UInt64.lt_iff_toNat_lt.mp hshort
      omega
    · have hle : element.bytes ≤ total := UInt64.le_iff_toNat_le.mpr (by omega)
      have hsub := UInt64.toNat_sub_of_le _ _ hle
      exact ih (by omega) hlater

end

namespace UtilisationOverPeriod

variable {statsDuration : ℤ} {samples : List HistoryElement} {sample : HistoryElement}

theorem after_concat :
    after statsDuration (samples ++ [sample]) =
      (after statsDuration samples).updateHistory sample.time sample.bytes := by
  rw [after, foldl_append]
  rfl

theorem statsDuration_after : (after statsDuration samples).statsDuration = statsDuration := by
  induction samples using reverseRecOn with
  | nil => rfl
  | append_singleton samples sample ih => rw [after_concat, updateHistory, ih]

theorem pruneHistory_after :
    pruneHistory statsDuration sample.time ((after statsDuration samples).history ++ [sample])
        ((after statsDuration samples).runningTotalBytes + sample.bytes) =
      ((after statsDuration (samples ++ [sample])).history,
        (after statsDuration (samples ++ [sample])).runningTotalBytes) := by
  rw [after_concat, updateHistory, statsDuration_after]

theorem history_after (h : Ordered HistoryElement.time samples) :
    (after statsDuration samples).history = kept HistoryElement.time statsDuration samples := by
  induction samples using reverseRecOn with
  | nil => rfl
  | append_singleton samples sample ih =>
    have hsamples : Ordered HistoryElement.time samples :=
      h.sublist (sublist_append_left _ _)
    have hprune := congrArg Prod.fst (@pruneHistory_after statsDuration samples sample)
    rw [pruneHistory_fst, ih hsamples] at hprune
    exact hprune.symm.trans (prune_kept_concat h)

/-- What is there at an addition, with what is added, fits into the running total. -/
def Fits (statsDuration : ℤ) (samples : List HistoryElement) : Prop :=
  ∀ seen sample, seen ++ [sample] <+: samples →
    sumBytes (kept HistoryElement.time statsDuration seen) + sample.bytes.toNat < 2 ^ 64

theorem toNat_total_push
    (htotal : (after statsDuration samples).runningTotalBytes.toNat =
      sumBytes (after statsDuration samples).history)
    (hfits : sumBytes (after statsDuration samples).history + sample.bytes.toNat < 2 ^ 64) :
    ((after statsDuration samples).runningTotalBytes + sample.bytes).toNat =
      sumBytes ((after statsDuration samples).history ++ [sample]) := by
  have hsum : sumBytes ((after statsDuration samples).history ++ [sample]) =
      sumBytes (after statsDuration samples).history + sample.bytes.toNat := by
    simp [sumBytes]
  rw [UInt64.toNat_add, htotal, hsum, Nat.mod_eq_of_lt hfits]

theorem total_of_fits (h : Ordered HistoryElement.time samples)
    (hfits : Fits statsDuration samples) :
    (after statsDuration samples).runningTotalBytes.toNat =
      sumBytes (after statsDuration samples).history := by
  induction samples using reverseRecOn with
  | nil => rfl
  | append_singleton samples sample ih =>
    have hsamples : Ordered HistoryElement.time samples :=
      h.sublist (sublist_append_left _ _)
    have htotal := ih hsamples fun seen sample hseen =>
      hfits seen sample (hseen.trans (prefix_append _ _))
    have hroom := hfits samples sample prefix_rfl
    rw [← history_after hsamples] at hroom
    have hpush := toNat_total_push htotal hroom
    have hprune := toNat_pruneHistory (@not_pruneUnderflows statsDuration sample.time _ _ hpush.ge)
    rw [hpush, pruneHistory_after] at hprune
    dsimp only at hprune
    omega

theorem lt_of_total (hordered : Ordered HistoryElement.time samples)
    (htotal : (after statsDuration samples).runningTotalBytes.toNat =
      sumBytes (after statsDuration samples).history)
    (hnext : (after statsDuration (samples ++ [sample])).runningTotalBytes.toNat =
      sumBytes (after statsDuration (samples ++ [sample])).history)
    (hunderflow : ¬ PruneUnderflows statsDuration sample.time
      ((after statsDuration samples).history ++ [sample])
      ((after statsDuration samples).runningTotalBytes + sample.bytes)) :
    sumBytes (kept HistoryElement.time statsDuration samples) + sample.bytes.toNat < 2 ^ 64 := by
  by_contra hlarge
  rw [← history_after hordered] at hlarge
  have hprune := toNat_pruneHistory hunderflow
  have hsum : sumBytes ((after statsDuration samples).history ++ [sample]) =
      sumBytes (after statsDuration samples).history + sample.bytes.toNat := by
    simp [sumBytes]
  have hbytes := sample.bytes.toNat_lt
  have hbound := (after statsDuration samples).runningTotalBytes.toNat_lt
  -- the sum wraps around once
  rw [pruneHistory_after, UInt64.toNat_add, hsum, htotal] at hprune
  dsimp only at hprune
  omega

theorem total_iff (h : Ordered HistoryElement.time samples) :
    ((∀ seen, seen <+: samples → (after statsDuration seen).runningTotalBytes.toNat =
        sumBytes (after statsDuration seen).history) ∧
      ∀ seen sample, seen ++ [sample] <+: samples →
        ¬ PruneUnderflows statsDuration sample.time ((after statsDuration seen).history ++ [sample])
          ((after statsDuration seen).runningTotalBytes + sample.bytes)) ↔
      Fits statsDuration samples := by
  have hseen : ∀ {seen}, seen <+: samples → Ordered HistoryElement.time seen :=
    fun hearlier => h.sublist hearlier.sublist
  constructor
  · rintro ⟨htotal, hunderflow⟩ seen sample hnext
    have hearlier : seen <+: samples := (prefix_append _ _).trans hnext
    exact lt_of_total (hseen hearlier) (htotal seen hearlier) (htotal _ hnext)
      (hunderflow seen sample hnext)
  · intro hfits
    have htotal : ∀ seen, seen <+: samples → (after statsDuration seen).runningTotalBytes.toNat =
        sumBytes (after statsDuration seen).history :=
      fun seen hearlier => total_of_fits (hseen hearlier) fun earlier sample hmem =>
        hfits earlier sample (hmem.trans hearlier)
    refine ⟨htotal, fun seen sample hnext => ?_⟩
    have hearlier : seen <+: samples := (prefix_append _ _).trans hnext
    have hroom := hfits seen sample hnext
    rw [← history_after (hseen hearlier)] at hroom
    exact not_pruneUnderflows (toNat_total_push (htotal seen hearlier) hroom).ge

end UtilisationOverPeriod

namespace LatencyPercentileTracker

variable {maxSamples : ℕ} {windowDuration : ℤ} {samples : List LatencySample}
  {sample : LatencySample}

theorem after_concat :
    after maxSamples windowDuration (samples ++ [sample]) =
      (after maxSamples windowDuration samples).record sample.timestamp sample.latency := by
  rw [after, foldl_append]
  rfl

theorem settings_after :
    (after maxSamples windowDuration samples).capacity =
        (if maxSamples = 0 then 1 else maxSamples) ∧
      (after maxSamples windowDuration samples).windowDuration = windowDuration := by
  induction samples using reverseRecOn with
  | nil => exact ⟨rfl, rfl⟩
  | append_singleton samples sample ih =>
    rw [after_concat, record]
    exact ih

theorem samples_after (h : Ordered LatencySample.timestamp samples) :
    (after maxSamples windowDuration samples).samples =
      (kept LatencySample.timestamp windowDuration samples).rtake
        (if maxSamples = 0 then 1 else maxSamples) := by
  have hpos : 0 < if maxSamples = 0 then 1 else maxSamples := by
    split <;> omega
  induction samples using reverseRecOn with
  | nil =>
    rw [kept, within, filter_nil, rtake_nil]
    rfl
  | append_singleton samples sample ih =>
    have hsamples : Ordered LatencySample.timestamp samples :=
      h.sublist (sublist_append_left _ _)
    rw [after_concat, record, settings_after.1, settings_after.2, ih hsamples]
    exact prune_pushBounded hpos h

end LatencyPercentileTracker

/-! ## Queries -/

theorem describesWindow_iff {Double : Type*} [Zero Double] (percentage : UInt64 → Double)
    (statsDuration : ℤ) (traffic : Timeline HistoryElement.time) :
    DescribesWindow percentage statsDuration traffic ↔
      (∀ sample ∈ kept HistoryElement.time statsDuration traffic.items,
        traffic.query - sample.time ≤ statsDuration) ∧
      UtilisationOverPeriod.Fits statsDuration traffic.items := by
  have hhistory := @UtilisationOverPeriod.history_after statsDuration _ traffic.ordered
  rw [← UtilisationOverPeriod.total_iff traffic.ordered, ← kept_eq_within_iff, ← hhistory]
  constructor
  · intro h
    exact ⟨h.samples, h.total, h.underflow⟩
  · rintro ⟨hsamples, htotal, hunderflow⟩
    refine ⟨hsamples, htotal, hunderflow, fun hidle => ?_⟩
    have hnone : (UtilisationOverPeriod.after statsDuration traffic.items).history = [] := by
      rw [hsamples, within, filter_eq_nil_iff]
      intro sample hsample
      have := hidle sample hsample
      rw [decide_eq_true_iff]
      omega
    rw [UtilisationOverPeriod.utilisation, hnone]
    rfl

theorem snapshotDescribesWindow_iff (maxSamples : ℕ) (windowDuration : ℤ)
    (latencies : Timeline LatencySample.timestamp) :
    SnapshotDescribesWindow maxSamples windowDuration latencies ↔
      (∀ sample ∈ (kept LatencySample.timestamp windowDuration latencies.items).rtake maxSamples,
        latencies.query - sample.timestamp ≤ windowDuration) ∧
      (maxSamples = 0 → kept LatencySample.timestamp windowDuration latencies.items = []) := by
  rw [SnapshotDescribesWindow, LatencyPercentileTracker.samples_after latencies.ordered]
  by_cases hzero : maxSamples = 0
  · subst hzero
    rw [if_pos rfl, rtake_zero, rtake_zero]
    constructor
    · intro hnone
      refine ⟨by simp, fun _ => ?_⟩
      cases hkept : kept LatencySample.timestamp windowDuration latencies.items
        using reverseRecOn with
      | nil => rfl
      | append_singleton samples sample =>
        rw [hkept, rtake_concat Nat.one_pos] at hnone
        exact absurd hnone (by simp)
    · rintro ⟨-, hnone⟩
      rw [hnone rfl, rtake_nil]
  · rw [if_neg hzero, rtake_kept_eq_iff]
    exact ⟨fun h => ⟨h, fun heq => absurd heq hzero⟩, And.left⟩

/-- The two statistics describe the window of a query exactly if nothing that they hold has expired
since the last addition; the bandwidth if its total has always had room besides, and the latencies
if more than none were asked for. -/
theorem slidingStatistics_iff {Double : Type*} [Zero Double] (percentage : UInt64 → Double)
    (statsDuration windowDuration : ℤ) (maxSamples : ℕ) (traffic : Timeline HistoryElement.time)
    (latencies : Timeline LatencySample.timestamp) :
    (DescribesWindow percentage statsDuration traffic ↔
      (∀ sample ∈ kept HistoryElement.time statsDuration traffic.items,
        traffic.query - sample.time ≤ statsDuration) ∧
      UtilisationOverPeriod.Fits statsDuration traffic.items) ∧
    (SnapshotDescribesWindow maxSamples windowDuration latencies ↔
      (∀ sample ∈ (kept LatencySample.timestamp windowDuration latencies.items).rtake maxSamples,
        latencies.query - sample.timestamp ≤ windowDuration) ∧
      (maxSamples = 0 → kept LatencySample.timestamp windowDuration latencies.items = [])) :=
  ⟨describesWindow_iff percentage statsDuration traffic,
    snapshotDescribesWindow_iff maxSamples windowDuration latencies⟩

/-- A hundred bytes in a window of one second, and a query five seconds later. -/
def idleTraffic : Timeline HistoryElement.time where
  items := [⟨0, 100⟩]
  query := 5
  ordered := pairwise_singleton _ _
  before := by decide

/-- The utilisation is not zero although there has been no traffic for longer than the window. -/
theorem not_describesWindow_idle :
    ¬ DescribesWindow (fun total => (total.toNat : ℕ)) 1 idleTraffic :=
  fun h => absurd (h.idle (by decide)) (by decide)

end AqualinkAutomate.Utility
