import Mathlib.Data.Finset.Sort
import Aqualink.General.TruncatedBuckets
import Aqualink.History.HistoryService

/-!
# Down-sampling a series

A query of a series cuts its window into buckets and returns the mean of each bucket that has a
sample.  The width of the buckets is the length of the window over the number of points asked for,
rounded down, so there are more buckets than points when the division leaves a rest.  The buckets
are those of a division that rounds towards zero.

`Downsampled` is what is wanted of the points, and `alwaysDownsampled_iff` says for which queries
it holds of all series.  The values are rational numbers.
-/

namespace AqualinkAutomate.History

open General List

/-! ## The query -/

/-- A query of a series that has passed the checks of the route. -/
structure SeriesQuery where
  fromTs : ℤ
  toTs : ℤ
  maxPoints : ℤ
  le_fromTs : -2 ^ 63 ≤ fromTs
  toTs_lt : toTs < 2 ^ 63
  fromTs_le_toTs : fromTs ≤ toTs
  one_le_maxPoints : 1 ≤ maxPoints
  maxPoints_le : maxPoints ≤ 2000

/-- What the route makes of the parameters that are numbers: a window that ends before it begins is
refused. -/
def SeriesQuery.ofRequest (fromQuery toQuery maxPointsQuery : Option Int64) (now : Int64) :
    Option SeriesQuery :=
  let fromTs := fromQuery.getD 0
  let toTs := toQuery.getD now
  let maxPoints := (maxPointsQuery.getD 500).toInt32.toInt
  if h : toTs.toInt < fromTs.toInt then none
  else
    some
      { fromTs := fromTs.toInt
        toTs := toTs.toInt
        maxPoints := max 1 (min maxPoints 2000)
        le_fromTs := fromTs.le_toInt
        toTs_lt := toTs.toInt_lt
        fromTs_le_toTs := Int.not_lt.mp h
        one_le_maxPoints := le_max_left _ _
        maxPoints_le := max_le (by decide) (min_le_right _ _) }

structure SeriesPoint where
  ts : ℤ
  value : ℚ
  deriving DecidableEq

/-- `AVG` -/
def mean (values : List ℚ) : ℚ := values.sum / values.length

/-- A difference of 64-bit numbers, unless it overflows. -/
def checkedInt64 (n : ℤ) : Option ℤ := if -2 ^ 63 ≤ n ∧ n < 2 ^ 63 then some n else none

def Database.samplesOf {V : Type*} (db : Database V) (key : String) : List (Sample V) :=
  db.samples.filter fun sample =>
    db.series.rows.any fun row => row.id == sample.seriesId && row.key == key

def inBucket (samples : List (Sample ℚ)) (fromTs toTs width bucket : ℤ) : List (Sample ℚ) :=
  samples.filter fun sample =>
    fromTs ≤ sample.ts ∧ sample.ts ≤ toTs ∧ bucketOf width sample.ts = bucket

/-- `GROUP BY bucket ORDER BY bucket` -/
def bucketMeans (samples : List (Sample ℚ)) (fromTs toTs width : ℤ) : List SeriesPoint :=
  let window := samples.filter fun sample => fromTs ≤ sample.ts ∧ sample.ts ≤ toTs
  let buckets := (window.map fun sample => bucketOf width sample.ts).toFinset.sort
  buckets.map fun bucket =>
    { ts := bucket
      value := mean ((inBucket samples fromTs toTs width bucket).map Sample.value) }

def bucketWidth (span maxPoints : ℤ) : ℤ := max 1 (span.tdiv maxPoints)

/-- `QuerySeries`; nothing if the length of the window overflows. -/
def HistoryService.querySeries (service : HistoryService ℚ) (faults : Faults) (key : String)
    (fromTs toTs maxPoints : ℤ) : Option (List SeriesPoint) :=
  if service.isOpen = false ∨ maxPoints ≤ 0 ∨ toTs < fromTs then some []
  else
    (checkedInt64 (toTs - fromTs)).map fun span =>
      bucketMeans ((service.flush faults).db.samplesOf key) fromTs toTs (bucketWidth span maxPoints)

/-! ## What is wanted -/

namespace SeriesQuery

variable (query : SeriesQuery)

/-- The length of the window over the number of points, rounded down. -/
def width : ℤ := max 1 ((query.toTs - query.fromTs) / query.maxPoints)

def contributors (samples : List (Sample ℚ)) (point : SeriesPoint) : List (Sample ℚ) :=
  inBucket samples query.fromTs query.toTs query.width point.ts

structure Downsampled (samples : List (Sample ℚ)) (points : List SeriesPoint) : Prop where
  increasing : points.Pairwise fun point later => point.ts < later.ts
  bounded : points.length ≤ query.maxPoints + 1
  covered : ∀ sample ∈ samples, query.fromTs ≤ sample.ts → sample.ts ≤ query.toTs →
    ∃! point, point ∈ points ∧ sample ∈ query.contributors samples point
  mean : ∀ point ∈ points,
    point.value = mean ((query.contributors samples point).map Sample.value)
  near : ∀ point ∈ points, ∀ sample ∈ query.contributors samples point,
    ∀ other ∈ query.contributors samples point, sample.ts - other.ts ≤ query.width

/-- The queries that are answered by a down-sampling of any series. -/
structure Exact : Prop where
  span_lt : query.toTs - query.fromTs < 2 ^ 63
  buckets_le : query.toTs.tdiv query.width - query.fromTs.tdiv query.width ≤ query.maxPoints
  zero_le : min query.toTs (query.width - 1) - max query.fromTs (1 - query.width) ≤ query.width

end SeriesQuery

/-! ## The points -/

section

variable {samples : List (Sample ℚ)} {fromTs toTs width : ℤ}

theorem mem_inBucket {bucket : ℤ} {sample : Sample ℚ} :
    sample ∈ inBucket samples fromTs toTs width bucket ↔
      sample ∈ samples ∧ fromTs ≤ sample.ts ∧ sample.ts ≤ toTs ∧
        bucketOf width sample.ts = bucket := by
  simp [inBucket]

theorem mem_bucketMeans {point : SeriesPoint} :
    point ∈ bucketMeans samples fromTs toTs width ↔
      (∃ sample, sample ∈ inBucket samples fromTs toTs width point.ts) ∧
        point.value = mean ((inBucket samples fromTs toTs width point.ts).map Sample.value) := by
  obtain ⟨ts, value⟩ := point
  simp only [bucketMeans, mem_map, Finset.mem_sort, mem_toFinset, mem_filter,
    decide_eq_true_eq, mem_inBucket, SeriesPoint.mk.injEq]
  constructor
  · rintro ⟨bucket, ⟨sample, ⟨hmem, hfrom, hto⟩, hbucket⟩, rfl, rfl⟩
    exact ⟨⟨sample, hmem, hfrom, hto, hbucket⟩, rfl⟩
  · rintro ⟨⟨sample, hmem, hfrom, hto, hbucket⟩, hvalue⟩
    exact ⟨ts, ⟨sample, ⟨hmem, hfrom, hto⟩, hbucket⟩, rfl, hvalue.symm⟩

theorem bucketMeans_increasing :
    (bucketMeans samples fromTs toTs width).Pairwise fun point later => point.ts < later.ts := by
  rw [bucketMeans, pairwise_map]
  exact (Finset.sortedLT_sort _).pairwise

theorem length_bucketMeans_le (hwidth : 0 < width) (hle : fromTs ≤ toTs) :
    ((bucketMeans samples fromTs toTs width).length : ℤ) ≤
      toTs.tdiv width - fromTs.tdiv width + 1 := by
  rw [← card_image_bucketOf hwidth hle, bucketMeans, length_map, Finset.length_sort]
  refine Int.ofNat_le.mpr (Finset.card_le_card fun bucket hbucket => ?_)
  obtain ⟨sample, hsample, rfl⟩ := List.mem_map.mp (List.mem_toFinset.mp hbucket)
  have hwindow := (List.mem_filter.mp hsample).2
  rw [decide_eq_true_eq] at hwindow
  exact Finset.mem_image_of_mem _ (Finset.mem_Icc.mpr hwindow)

end

namespace SeriesQuery

variable {query : SeriesQuery}

theorem width_pos : 0 < query.width := lt_of_lt_of_le Int.one_pos (le_max_left _ _)

theorem querySeries_eq {service : HistoryService ℚ} (hopen : service.isOpen)
    (faults : Faults) (key : String) :
    service.querySeries faults key query.fromTs query.toTs query.maxPoints =
      if query.toTs - query.fromTs < 2 ^ 63 then
        some (bucketMeans ((service.flush faults).db.samplesOf key) query.fromTs query.toTs
          query.width)
      else none := by
  have hle := query.fromTs_le_toTs
  have hone := query.one_le_maxPoints
  have hgo : ¬ (service.isOpen = false ∨ query.maxPoints ≤ 0 ∨ query.toTs < query.fromTs) := by
    rintro (hclosed | hnone | hback)
    · rw [hopen] at hclosed; cases hclosed
    · omega
    · omega
  have hwidth : bucketWidth (query.toTs - query.fromTs) query.maxPoints = query.width := by
    rw [bucketWidth, width, Int.tdiv_eq_ediv_of_nonneg (by omega)]
  rw [HistoryService.querySeries, if_neg hgo, checkedInt64]
  by_cases hspan : query.toTs - query.fromTs < 2 ^ 63
  · rw [if_pos ⟨by omega, hspan⟩, if_pos hspan, Option.map_some, hwidth]
  · rw [if_neg fun h => hspan h.2, if_neg hspan, Option.map_none]

theorem Exact.downsampled (h : query.Exact) (samples : List (Sample ℚ)) :
    query.Downsampled samples (bucketMeans samples query.fromTs query.toTs query.width) where
  increasing := bucketMeans_increasing
  bounded :=
    (length_bucketMeans_le width_pos query.fromTs_le_toTs).trans (by have := h.buckets_le; omega)
  covered sample hsample hfrom hto := by
    have hin : sample ∈ inBucket samples query.fromTs query.toTs query.width
        (bucketOf query.width sample.ts) := mem_inBucket.mpr ⟨hsample, hfrom, hto, rfl⟩
    refine ⟨⟨bucketOf query.width sample.ts, mean ((inBucket samples query.fromTs query.toTs
      query.width (bucketOf query.width sample.ts)).map Sample.value)⟩,
      ⟨mem_bucketMeans.mpr ⟨⟨sample, hin⟩, rfl⟩, hin⟩, ?_⟩
    rintro ⟨ts, value⟩ ⟨hpoint, hother⟩
    obtain ⟨-, -, -, rfl⟩ := mem_inBucket.mp hother
    obtain ⟨-, hvalue⟩ := mem_bucketMeans.mp hpoint
    exact congrArg (SeriesPoint.mk _) hvalue
  mean point hpoint := (mem_bucketMeans.mp hpoint).2
  near point _ sample hsample other hother := by
    obtain ⟨-, hfrom, hto, hbucket⟩ := mem_inBucket.mp hsample
    obtain ⟨-, hfrom', hto', hbucket'⟩ := mem_inBucket.mp hother
    exact (near_in_buckets_iff width_pos).mpr h.zero_le _ _ hfrom hto hfrom' hto'
      (hbucket.trans hbucket'.symm)

/-! ## A series with a sample at every second of the window -/

def everySecond (query : SeriesQuery) : HistoryService ℚ where
  db :=
    { series :=
        { rows := [{ id := 1, key := "temp/pool", unit := "F", label := "" }]
          ids := nodup_singleton _
          keys := nodup_singleton _ }
      samples := (range (query.toTs - query.fromTs + 1).toNat).map fun second : ℕ =>
        { seriesId := 1, ts := query.fromTs + second, value := 80 } }

theorem exists_everySecond {ts : ℤ} (hfrom : query.fromTs ≤ ts) (hto : ts ≤ query.toTs) :
    ∃ sample ∈ query.everySecond.db.samplesOf "temp/pool", sample.ts = ts := by
  refine ⟨⟨1, ts, 80⟩, List.mem_filter.mpr ⟨List.mem_map.mpr ⟨(ts - query.fromTs).toNat, ?_, ?_⟩,
    rfl⟩, rfl⟩
  · rw [mem_range]
    omega
  · rw [Sample.mk.injEq]
    exact ⟨rfl, by omega, rfl⟩

theorem length_everySecond :
    ((bucketMeans (query.everySecond.db.samplesOf "temp/pool") query.fromTs query.toTs
      query.width).length : ℤ) =
      query.toTs.tdiv query.width - query.fromTs.tdiv query.width + 1 := by
  refine le_antisymm (length_bucketMeans_le width_pos query.fromTs_le_toTs) ?_
  rw [← card_image_bucketOf width_pos query.fromTs_le_toTs, bucketMeans, length_map,
    Finset.length_sort]
  refine Int.ofNat_le.mpr (Finset.card_le_card fun bucket hbucket => ?_)
  obtain ⟨ts, hts, rfl⟩ := Finset.mem_image.mp hbucket
  obtain ⟨hfrom, hto⟩ := Finset.mem_Icc.mp hts
  obtain ⟨sample, hsample, rfl⟩ := exists_everySecond hfrom hto
  refine List.mem_toFinset.mpr (List.mem_map.mpr ⟨sample, List.mem_filter.mpr ⟨hsample, ?_⟩, rfl⟩)
  exact decide_eq_true ⟨hfrom, hto⟩

theorem Downsampled.near_buckets
    (h : query.Downsampled (query.everySecond.db.samplesOf "temp/pool")
      (bucketMeans (query.everySecond.db.samplesOf "temp/pool") query.fromTs query.toTs
        query.width)) :
    min query.toTs (query.width - 1) - max query.fromTs (1 - query.width) ≤ query.width := by
  refine (near_in_buckets_iff width_pos).mp fun s t hs hs' ht ht' hsame => ?_
  obtain ⟨sample, hsample, rfl⟩ := exists_everySecond hs hs'
  obtain ⟨other, hother, rfl⟩ := exists_everySecond ht ht'
  obtain ⟨point, ⟨hpoint, hin⟩, -⟩ := h.covered sample hsample hs hs'
  refine h.near point hpoint sample hin other ?_
  obtain ⟨-, -, -, hbucket⟩ := mem_inBucket.mp hin
  exact mem_inBucket.mpr ⟨hother, ht, ht', hsame.symm.trans hbucket⟩

/-- Every stored series is down-sampled. -/
def AlwaysDownsampled (query : SeriesQuery) : Prop :=
  ∀ (service : HistoryService ℚ) (faults : Faults) (key : String), service.isOpen = true →
    ∃ points, service.querySeries faults key query.fromTs query.toTs query.maxPoints =
        some points ∧
      query.Downsampled ((service.flush faults).db.samplesOf key) points

theorem AlwaysDownsampled.exact (h : query.AlwaysDownsampled) : query.Exact := by
  obtain ⟨points, hpoints, hdown⟩ := h query.everySecond (fun _ => false) "temp/pool" rfl
  rw [querySeries_eq rfl] at hpoints
  split at hpoints
  case isFalse => cases hpoints
  case isTrue hspan =>
    have hflush : query.everySecond.flush (fun _ => false) = query.everySecond := by
      simp [HistoryService.flush, everySecond]
    rw [hflush] at hpoints hdown
    cases hpoints
    refine ⟨hspan, ?_, hdown.near_buckets⟩
    have hlength := @length_everySecond query
    have hbounded := hdown.bounded
    omega

/-- **Down-sampling.**  A query is answered by a down-sampling of every stored series exactly if it
is exact. -/
theorem alwaysDownsampled_iff (query : SeriesQuery) : query.AlwaysDownsampled ↔ query.Exact := by
  refine ⟨AlwaysDownsampled.exact, fun h service faults key hopen => ⟨_, ?_, h.downsampled _⟩⟩
  rw [querySeries_eq hopen, if_pos h.span_lt]

theorem exists_ofRequest (query : SeriesQuery) (now : Int64) :
    ∃ fromQuery toQuery maxPointsQuery,
      ofRequest (some fromQuery) (some toQuery) (some maxPointsQuery) now = some query := by
  obtain ⟨fromTs, toTs, maxPoints, hfrom, hto, hle, hone, htwo⟩ := query
  have hfrom' : (Int64.ofInt fromTs).toInt = fromTs :=
    Int64.toInt_ofInt_of_le hfrom (by omega)
  have hto' : (Int64.ofInt toTs).toInt = toTs := Int64.toInt_ofInt_of_le (by omega) hto
  have hmax : (Int64.ofInt maxPoints).toInt32.toInt = maxPoints := by
    rw [Int64.toInt_toInt32, Int64.toInt_ofInt_of_le (by omega) (by omega)]
    exact Int.bmod_eq_of_le (by omega) (by omega)
  refine ⟨.ofInt fromTs, .ofInt toTs, .ofInt maxPoints, ?_⟩
  simp only [ofRequest, Option.getD_some, hfrom', hto', hmax, dif_neg (Int.not_lt.mpr hle)]
  rw [Option.some_inj, SeriesQuery.mk.injEq]
  exact ⟨rfl, rfl, by omega⟩

def thousandSeconds : SeriesQuery where
  fromTs := 0
  toTs := 999
  maxPoints := 500
  le_fromTs := by decide
  toTs_lt := by decide
  fromTs_le_toTs := by decide
  one_le_maxPoints := by decide
  maxPoints_le := by decide

/-- They come as a thousand points. -/
theorem thousandSeconds_not_downsampled : ¬ thousandSeconds.AlwaysDownsampled :=
  fun h => absurd h.exact.buckets_le (by decide)

end SeriesQuery

end AqualinkAutomate.History
