import Mathlib.Data.Int.Interval
import Mathlib.Order.ConditionallyCompleteLattice.Finset
import Mathlib.Data.Int.ConditionallyCompleteOrder

/-!
# Buckets of a truncated division

A time is put into the bucket at `ts.tdiv width * width`.  The division rounds towards zero, and so
the bucket at zero has the times on both sides of it.  All others have `width` times each.

* `card_image_bucketOf`: the buckets that the times of a window fall into.
* `near_in_buckets_iff`: the windows in which no two times of one bucket are more than `width`
  apart.
-/

namespace AqualinkAutomate.General

def bucketOf (width ts : ℤ) : ℤ := ts.tdiv width * width

section

variable {width first last ts q : ℤ}

section

variable (hwidth : 0 < width)

include hwidth

theorem bucketOf_bounds (ts : ℤ) :
    (0 ≤ bucketOf width ts ∧ bucketOf width ts ≤ ts ∧ ts < bucketOf width ts + width) ∨
      (bucketOf width ts ≤ 0 ∧ ts ≤ bucketOf width ts ∧ bucketOf width ts - width < ts) := by
  have hsum : bucketOf width ts + ts.tmod width = ts := Int.tdiv_mul_add_tmod ts width
  rcases Int.le_total 0 ts with hpos | hneg
  · refine .inl ⟨Int.mul_nonneg (Int.tdiv_nonneg hpos hwidth.le) hwidth.le, ?_, ?_⟩
    · have hrest := Int.tmod_nonneg width hpos
      omega
    · have hrest := Int.tmod_lt_of_pos ts hwidth
      omega
  · have hsum' : bucketOf width (-ts) + (-ts).tmod width = -ts := Int.tdiv_mul_add_tmod (-ts) width
    have hneg' : bucketOf width (-ts) = - bucketOf width ts := by
      rw [bucketOf, bucketOf, Int.neg_tdiv, Int.neg_mul]
    have hnonneg : 0 ≤ bucketOf width (-ts) :=
      Int.mul_nonneg (Int.tdiv_nonneg (by omega) hwidth.le) hwidth.le
    have hrest := Int.tmod_nonneg width (by omega : 0 ≤ -ts)
    have hlt := Int.tmod_lt_of_pos (-ts) hwidth
    exact .inr (by omega)

theorem bucketOf_mul (q : ℤ) : bucketOf width (q * width) = q * width := by
  rw [bucketOf, Int.mul_tdiv_cancel q hwidth.ne']

theorem exists_bucketOf_eq (hle : first ≤ last) (hfirst : first.tdiv width ≤ q)
    (hlast : q ≤ last.tdiv width) :
    ∃ ts, first ≤ ts ∧ ts ≤ last ∧ bucketOf width ts = q * width := by
  have hlow : bucketOf width first ≤ q * width := Int.mul_le_mul_of_nonneg_right hfirst hwidth.le
  have hhigh : q * width ≤ bucketOf width last := Int.mul_le_mul_of_nonneg_right hlast hwidth.le
  by_cases hbefore : q * width < first
  · -- the bucket begins before the window, which begins in it
    rcases bucketOf_bounds hwidth first with ⟨-, -, hlt⟩ | ⟨-, hle', -⟩
    · have hq : q * width < (first.tdiv width + 1) * width := by
        rw [Int.add_mul, Int.one_mul]
        exact hbefore.trans hlt
      have hlt' := Int.lt_of_mul_lt_mul_right hq hwidth.le
      refine ⟨first, le_rfl, hle, ?_⟩
      rw [bucketOf, show first.tdiv width = q by omega]
    · omega
  · by_cases hafter : last < q * width
    · rcases bucketOf_bounds hwidth last with ⟨-, hle', -⟩ | ⟨-, -, hlt⟩
      · omega
      · have hq : last.tdiv width * width < (q + 1) * width := by
          rw [Int.add_mul, Int.one_mul]
          rw [bucketOf] at hlt
          omega
        have hlt' := Int.lt_of_mul_lt_mul_right hq hwidth.le
        refine ⟨last, hle, le_rfl, ?_⟩
        rw [bucketOf, show last.tdiv width = q by omega]
    · exact ⟨q * width, by omega, by omega, bucketOf_mul hwidth q⟩

theorem image_bucketOf (hle : first ≤ last) :
    (Finset.Icc first last).image (bucketOf width) =
      (Finset.Icc (first.tdiv width) (last.tdiv width)).image (· * width) := by
  ext bucket
  simp only [Finset.mem_image, Finset.mem_Icc]
  constructor
  · rintro ⟨ts, ⟨hfirst, hlast⟩, rfl⟩
    exact ⟨ts.tdiv width, ⟨Int.tdiv_le_tdiv hwidth hfirst, Int.tdiv_le_tdiv hwidth hlast⟩, rfl⟩
  · rintro ⟨q, ⟨hfirst, hlast⟩, rfl⟩
    obtain ⟨ts, hts, hts', hbucket⟩ := exists_bucketOf_eq hwidth hle hfirst hlast
    exact ⟨ts, ⟨hts, hts'⟩, hbucket⟩

theorem card_image_bucketOf (hle : first ≤ last) :
    (((Finset.Icc first last).image (bucketOf width)).card : ℤ) =
      last.tdiv width - first.tdiv width + 1 := by
  have hmono := Int.tdiv_le_tdiv hwidth hle
  rw [image_bucketOf hwidth hle, Finset.card_image_of_injective _
    fun _ _ h => (Int.mul_eq_mul_right_iff hwidth.ne').mp h, Int.card_Icc]
  omega

/-- Only the bucket at zero can have two times that are more than `width` apart. -/
theorem near_in_buckets_iff :
    (∀ s t, first ≤ s → s ≤ last → first ≤ t → t ≤ last →
        bucketOf width s = bucketOf width t → s - t ≤ width) ↔
      min last (width - 1) - max first (1 - width) ≤ width := by
  have hzero (ts : ℤ) (hlow : -width < ts) (hhigh : ts < width) : bucketOf width ts = 0 := by
    have htdiv : ts.tdiv width = 0 := by
      rw [← Int.natAbs_eq_zero, Int.natAbs_tdiv]
      exact Nat.div_eq_of_lt (by omega)
    rw [bucketOf, htdiv, Int.zero_mul]
  constructor
  · intro h
    by_cases hle : max first (1 - width) ≤ min last (width - 1)
    · refine h _ _ (by omega) (by omega) (by omega) (by omega) ?_
      rw [hzero _ (by omega) (by omega), hzero _ (by omega) (by omega)]
    · omega
  · intro h s t hs hs' ht ht' hsame
    have hbounds := bucketOf_bounds hwidth s
    have hbounds' := bucketOf_bounds hwidth t
    omega

end

end

end AqualinkAutomate.General
