import Aqualink.Pentair.Message

/-!
# The Pentair message generator

One call looks for the first preamble of the serial buffer, wherever it is, and
reads the frame behind it.  It asks the next generator to try when there is no
preamble, defers without touching the buffer while the frame is still arriving,
and otherwise cuts the preamble or the whole frame out of the buffer, leaving
what was ahead of it in place.

`generateMessageFromRawData_of_preamble` describes the calls on a buffer that
holds a preamble by the part in front of the first one and the part behind it.
-/

namespace AqualinkAutomate.Pentair

open General Protocol List

/-- `GenerateMessageFromRawData`: the outcome and the buffer that is left. -/
def generateMessageFromRawData (serialData : List UInt8) :
    Except ErrorCode PentairMessage × List UInt8 :=
  if serialData = [] then (.error .waitingForMoreData, serialData)
  else
    let preambleIndex := search framePreamble serialData 0 serialData.length
    if preambleIndex = serialData.length then (.error .waitingForMoreData, serialData)
    else
      let sofIndex := preambleIndex + (framePreamble.length - 1)
      let bytesFromSof := serialData.length - sofIndex
      if bytesFromSof < headerLength then (.error .dataAvailableToProcess, serialData)
      else
        let dataLength := serialData.getD (sofIndex + 4) 0
        let frameRegionSize := headerLength + dataLength.toNat + checksumLength
        if bytesFromSof < frameRegionSize then (.error .dataAvailableToProcess, serialData)
        else
          let region := (serialData.drop sofIndex).take frameRegionSize
          let expectedChecksum := calculateChecksum (region.take (region.length - checksumLength))
          if expectedChecksum ≠ readBigEndianChecksum region then
            -- only the preamble is erased
            (.error .checksumFailure, serialData.take preambleIndex ++
              serialData.drop (preambleIndex + framePreamble.length))
          else
            (createFromSerialData region, serialData.take preambleIndex ++
              serialData.drop (preambleIndex + (framePreamble.length - 1 + frameRegionSize)))

/-! ## One call on a buffer that holds a preamble -/

/-- The size of the checksummed region that the header behind a preamble
announces; `after` starts with the FROM byte. -/
def regionSize (after : List UInt8) : ℕ :=
  headerLength + (after.getD 3 0).toNat + checksumLength

/-- The checksummed region behind a preamble. -/
def receivedRegion (after : List UInt8) : List UInt8 :=
  (startOfFrame :: after).take (regionSize after)

def regionChecksumIsValid (after : List UInt8) : Prop :=
  calculateChecksum ((receivedRegion after).take ((receivedRegion after).length - checksumLength)) =
    readBigEndianChecksum (receivedRegion after)

instance (after : List UInt8) : Decidable (regionChecksumIsValid after) :=
  inferInstanceAs (Decidable (_ = _))

/-- The frame behind a preamble has arrived completely. -/
def Complete (after : List UInt8) : Prop :=
  headerLength ≤ after.length + 1 ∧ regionSize after ≤ after.length + 1

instance (after : List UInt8) : Decidable (Complete after) :=
  inferInstanceAs (Decidable (_ ∧ _))

@[simp] theorem generateMessageFromRawData_nil :
    generateMessageFromRawData [] = (.error .waitingForMoreData, []) := rfl

variable {xs : List UInt8}

theorem generateMessageFromRawData_of_no_preamble (h : ¬ framePreamble <:+: xs) :
    generateMessageFromRawData xs = (.error .waitingForMoreData, xs) := by
  have hindex : search framePreamble xs 0 xs.length = xs.length := by
    refine (search_eq_last_iff (by simp) (Nat.zero_le _) le_rfl).mpr ?_
    simpa using h
  by_cases hnil : xs = []
  · rw [hnil, generateMessageFromRawData_nil]
  · simp only [generateMessageFromRawData, hnil, hindex, if_false, if_true]

/-- **One call of the generator**, told by what is behind the first preamble. -/
theorem generateMessageFromRawData_of_preamble {before after : List UInt8}
    (hfirst : searchIndex framePreamble (before ++ framePreamble ++ after) = before.length) :
    generateMessageFromRawData (before ++ framePreamble ++ after) =
      if ¬ Complete after then
        (.error .dataAvailableToProcess, before ++ framePreamble ++ after)
      else if ¬ regionChecksumIsValid after then (.error .checksumFailure, before ++ after)
      else (createFromSerialData (receivedRegion after),
        before ++ after.drop (regionSize after - 1)) := by
  have hlen : (before ++ framePreamble ++ after).length = before.length + 4 + after.length := by
    simp only [length_append, length_cons, length_nil]
  have hindex : search framePreamble (before ++ framePreamble ++ after) 0
      (before.length + 4 + after.length) = before.length := by
    rw [← hlen, search_full, drop_zero, hfirst, Nat.zero_add]
  have hsof : (before ++ framePreamble ++ after).drop (before.length + 3) =
      startOfFrame :: after := by
    rw [append_assoc, ← drop_drop, drop_left]
    rfl
  have hbehind (n : ℕ) : (before ++ framePreamble ++ after).drop (before.length + 4 + n) =
      after.drop n := by
    have hfront : (before ++ framePreamble).length = before.length + 4 := by
      simp only [length_append, length_cons, length_nil]
    rw [← hfront, ← drop_drop, drop_left]
  have hahead : (before ++ framePreamble ++ after).take before.length = before := by
    rw [append_assoc, take_left]
  have hdata : (before ++ framePreamble ++ after).getD (before.length + 3 + 4) 0 =
      after.getD 3 0 := by
    rw [append_assoc, getD_append_right _ _ _ _ (by omega),
      getD_append_right _ _ _ _ (by simp; omega)]
    congr 1
    simp only [length_cons, length_nil]
    omega
  have hbytes : before.length + 4 + after.length - (before.length + 3) = after.length + 1 := by
    omega
  have hpreamble : framePreamble.length = 4 := rfl
  have herase : before.length + (3 + regionSize after) =
      before.length + 4 + (regionSize after - 1) := by
    have : 0 < regionSize after := Nat.add_pos_right _ (by decide)
    omega
  have hnil : before ++ framePreamble ++ after ≠ [] := by simp
  have hstop : ¬ before.length = before.length + 4 + after.length := by omega
  have hregion : headerLength + (after.getD 3 0).toNat + checksumLength = regionSize after := rfl
  have hreceived : (startOfFrame :: after).take (regionSize after) = receivedRegion after := rfl
  have hbehind₀ : (before ++ framePreamble ++ after).drop (before.length + 4) = after :=
    hbehind 0
  simp only [generateMessageFromRawData, hnil, hlen, hindex, hstop, hpreamble, if_false,
    Nat.reduceSub, hbytes, hdata, hregion, hsof, hreceived, hahead, herase, hbehind, hbehind₀]
  by_cases hheader : after.length + 1 < headerLength
  · rw [if_pos hheader, if_pos fun h => absurd h.1 (not_le.mpr hheader)]
  · by_cases hsize : after.length + 1 < regionSize after
    · rw [if_neg hheader, if_pos hsize, if_pos fun h => absurd h.2 (not_le.mpr hsize)]
    · have hcomplete : Complete after := ⟨not_lt.mp hheader, not_lt.mp hsize⟩
      rw [if_neg hheader, if_neg hsize, if_neg (not_not.mpr hcomplete)]
      rfl

theorem generateMessageFromRawData_ne_waiting (h : framePreamble <:+: xs) :
    (generateMessageFromRawData xs).1 ≠ .error .waitingForMoreData := by
  obtain ⟨before, after, rfl, hfirst⟩ := exists_split_searchIndex (by simp) h
  rw [generateMessageFromRawData_of_preamble hfirst]
  split
  · simp
  · split
    · simp
    · intro hwait
      rcases createFromSerialData_error hwait with h | h <;> cases h

/-! ## What a call consumes -/

/-- **Consume or defer.**  A call only removes bytes, and unless it passes the
buffer on or defers an incomplete frame it removes at least one. -/
theorem generateMessageFromRawData_consumes (xs : List UInt8) :
    (generateMessageFromRawData xs).2.Sublist xs ∧
      ((generateMessageFromRawData xs).1 = .error .waitingForMoreData ∨
        (generateMessageFromRawData xs).1 = .error .dataAvailableToProcess ∨
        (generateMessageFromRawData xs).2.length < xs.length) := by
  by_cases hpreamble : framePreamble <:+: xs
  · obtain ⟨before, after, rfl, hfirst⟩ := exists_split_searchIndex (by simp) hpreamble
    rw [generateMessageFromRawData_of_preamble hfirst]
    have hrest (n : ℕ) : (before ++ after.drop n).Sublist (before ++ framePreamble ++ after) ∧
        (before ++ after.drop n).length < (before ++ framePreamble ++ after).length := by
      constructor
      · rw [append_assoc]
        exact (List.Sublist.refl before).append
          ((drop_sublist n after).trans (sublist_append_right _ _))
      · simp only [length_append, length_drop, length_cons, length_nil]
        omega
    split
    · exact ⟨List.Sublist.refl _, .inr (.inl rfl)⟩
    · split
      · exact ⟨(hrest 0).1, .inr (.inr (hrest 0).2)⟩
      · exact ⟨(hrest _).1, .inr (.inr (hrest _).2)⟩
  · rw [generateMessageFromRawData_of_no_preamble hpreamble]
    exact ⟨List.Sublist.refl _, .inl rfl⟩

def AwaitsFrame (xs : List UInt8) : Prop :=
  ∃ before after, xs = before ++ framePreamble ++ after ∧
    searchIndex framePreamble xs = before.length ∧ ¬ Complete after

theorem not_length_generateMessageFromRawData_lt_iff (hpreamble : framePreamble <:+: xs) :
    ¬ (generateMessageFromRawData xs).2.length < xs.length ↔ AwaitsFrame xs := by
  constructor
  · intro hidle
    obtain ⟨before, after, rfl, hfirst⟩ := exists_split_searchIndex (by simp) hpreamble
    refine ⟨before, after, rfl, hfirst, fun hcomplete => hidle ?_⟩
    have hshort (n : ℕ) :
        (before ++ after.drop n).length < (before ++ framePreamble ++ after).length := by
      simp only [length_append, length_drop, length_cons, length_nil]
      omega
    rw [generateMessageFromRawData_of_preamble hfirst, if_neg (not_not.mpr hcomplete)]
    split
    · exact hshort 0
    · exact hshort _
  · rintro ⟨before, after, rfl, hfirst, hincomplete⟩
    rw [generateMessageFromRawData_of_preamble hfirst, if_pos hincomplete]
    exact lt_irrefl _

end AqualinkAutomate.Pentair
