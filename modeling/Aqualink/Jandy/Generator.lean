import Aqualink.Jandy.Message

/-!
# The Jandy message generator

One call looks for the first packet of the serial buffer: its start, the end
behind it, and a second start in between.  Positions are indices into the
buffer, and an unsuccessful search returns the end of its range.

What the generator does to the buffer is always to erase bytes from its front,
and whenever it neither delivers nothing nor asks for more it has erased at least
one (`generateMessageFromRawData_consumes`).

The calls on a buffer that holds a packet start are described by
`generateMessageFromRawData_of_start`: `before` is everything ahead of the first
start, `after` everything behind it, and the two searches of the source become
searches of `after`.
-/

namespace AqualinkAutomate.Jandy

open General Protocol List

structure PacketLocations where
  p1Start : ℕ
  p1End : ℕ
  p2Start : ℕ
  hasPacketStart : Bool
  hasPacketEnd : Bool
  hasSecondPacketStart : Bool
  deriving DecidableEq

def findAllPacketLocations (serialData : List UInt8) : PacketLocations :=
  let size := serialData.length
  let p1Start := search packetStartSequence serialData 0 size
  if p1Start = size then
    { p1Start := size, p1End := size, p2Start := size
      hasPacketStart := false, hasPacketEnd := false, hasSecondPacketStart := false }
  else
    let searchFrom := p1Start + 1
    let p1End := search packetEndSequence serialData searchFrom size
    let p2Start := search packetStartSequence serialData searchFrom p1End
    { p1Start := p1Start, p1End := p1End, p2Start := p2Start
      hasPacketStart := true
      hasPacketEnd := p1End != size
      hasSecondPacketStart := p2Start != p1End }

/-- `BufferCleanUp_HasEndOfPacketWithinMaxDistance`: the buffer without an
overlong packet, or `none` if it was not touched. -/
def hasEndOfPacketWithinMaxDistance (serialData : List UInt8) (locations : PacketLocations) :
    Option (List UInt8) :=
  if serialData.length ≤ maximumPacketLength ∨ locations.hasPacketStart = false then none
  else
    let distance := locations.p1End - locations.p1Start
    if distance = 0 then none
    else if maximumPacketLength < distance + packetEndSequence.length then
      -- with no end in the buffer, `p1End` is the end of the buffer already
      let eraseEnd :=
        if locations.hasPacketEnd then locations.p1End + packetEndSequence.length
        else locations.p1End
      some (serialData.drop eraseEnd)
    else none

/-- `PacketValidation_ChecksumIsValid`, on the bytes as they came off the wire: a
checksum byte of `0x10` is stuffed like any other. -/
def packetValidationChecksumIsValid (raw : List UInt8) : Bool :=
  let length := raw.length
  if length < 3 then false
  else if 4 ≤ length ∧ raw.getD (length - 4) 0 = headerByteDLE ∧ raw.getD (length - 3) 0 = 0x00 then
    raw.getD (length - 4) 0 == calculateChecksum (raw.take (length - 4))
  else
    raw.getD (length - 3) 0 == calculateChecksum (raw.take (length - 3))

/-- What the generator does once the locations are settled. -/
def processPacket (serialData : List UInt8) (locations : PacketLocations) :
    Except ErrorCode JandyMessage × List UInt8 :=
  if locations.hasPacketStart = false then (.error .waitingForMoreData, [])
  else if locations.hasPacketEnd ∧ locations.hasSecondPacketStart ∧
      locations.p2Start < locations.p1End + 2 then
    (.error .overlappingPackets, serialData.drop locations.p2Start)
  else if locations.hasPacketEnd = false ∧ locations.hasSecondPacketStart then
    (.error .overlappingPackets, serialData.drop locations.p2Start)
  else if locations.hasPacketEnd = false then
    (.error .waitingForMoreData, serialData)
  else
    let packet := (serialData.take (locations.p1End + 2)).drop locations.p1Start
    if packetValidationChecksumIsValid packet = false then
      (.error .checksumFailure, serialData.drop (locations.p1End + 2))
    else
      (createFromSerialData packet, serialData.drop (locations.p1End + 2))

/-- `GenerateMessageFromRawData`: the outcome and the buffer that is left. -/
def generateMessageFromRawData (serialData : List UInt8) :
    Except ErrorCode JandyMessage × List UInt8 :=
  if serialData = [] then (.error .waitingForMoreData, serialData)
  else
    let locations := findAllPacketLocations serialData
    if locations.hasPacketStart = false then (.error .waitingForMoreData, [])
    else
      match hasEndOfPacketWithinMaxDistance serialData locations with
      | some serialData => processPacket serialData (findAllPacketLocations serialData)
      | none => processPacket serialData locations

/-! ## Where the searches end up -/

section

variable {before after : List UInt8}

theorem hasPacketStart_findAllPacketLocations_iff {xs : List UInt8} :
    (findAllPacketLocations xs).hasPacketStart ↔ packetStartSequence <:+: xs := by
  have hpattern : packetStartSequence ≠ [] := by simp
  have hiff := search_eq_last_iff hpattern (Nat.zero_le xs.length) le_rfl
  rw [take_length, drop_zero] at hiff
  simp only [findAllPacketLocations]
  split
  next h => simpa using hiff.mp h
  next h => simpa using fun hnot => h (hiff.mpr hnot)

theorem exists_split_start {xs : List UInt8} (h : packetStartSequence <:+: xs) :
    ∃ before after, xs = before ++ packetStartSequence ++ after ∧
      Avoids headerByteDLE headerByteSTX before :=
  exists_split_first h

/-- Where a packet whose body and successors are `after` ends. -/
def endIndex (after : List UInt8) : ℕ := searchIndex packetEndSequence after

def secondStartIndex (after : List UInt8) : ℕ :=
  searchIndex packetStartSequence (after.take (endIndex after))

theorem endIndex_le (after : List UInt8) : endIndex after ≤ after.length :=
  searchIndex_le_length _ _

theorem secondStartIndex_le (after : List UInt8) : secondStartIndex after ≤ endIndex after :=
  (searchIndex_le_length _ _).trans (length_take_le _ _)

theorem findAllPacketLocations_of_start (hbefore : Avoids headerByteDLE headerByteSTX before) :
    findAllPacketLocations (before ++ packetStartSequence ++ after) =
      { p1Start := before.length
        p1End := before.length + 2 + endIndex after
        p2Start := before.length + 2 + secondStartIndex after
        hasPacketStart := true
        hasPacketEnd := endIndex after != after.length
        hasSecondPacketStart := secondStartIndex after != endIndex after } := by
  have hstart := searchIndex_pair (by decide) hbefore after
  have hdrop : (before ++ packetStartSequence ++ after).drop (before.length + 1) =
      headerByteSTX :: after := by
    simp [drop_append]
  have hend : search packetEndSequence (before ++ packetStartSequence ++ after)
      (before.length + 1) (before ++ packetStartSequence ++ after).length =
      before.length + 2 + endIndex after := by
    rw [search_full, hdrop, searchIndex_cons_of_not_isPrefix (by simp), endIndex]
    omega
  have hsecond : search packetStartSequence (before ++ packetStartSequence ++ after)
      (before.length + 1) (before.length + 2 + endIndex after) =
      before.length + 2 + secondStartIndex after := by
    have htake : ((before ++ packetStartSequence ++ after).take
        (before.length + 2 + endIndex after)).drop (before.length + 1) =
        headerByteSTX :: after.take (endIndex after) := by
      rw [drop_take, hdrop]
      have : before.length + 2 + endIndex after - (before.length + 1) = endIndex after + 1 := by
        omega
      rw [this, take_succ_cons]
    rw [search, htake, searchIndex_cons_of_not_isPrefix (by simp), secondStartIndex]
    omega
  have hsize : (before ++ packetStartSequence ++ after).length =
      before.length + 2 + after.length := by
    simp only [length_append, length_cons, length_nil]
  have hfirst : search packetStartSequence (before ++ packetStartSequence ++ after) 0
      (before ++ packetStartSequence ++ after).length = before.length := by
    rw [search_full, drop_zero, hstart, Nat.zero_add]
  simp only [findAllPacketLocations, hfirst, hend, hsecond]
  rw [if_neg (by omega)]
  have hbne (x y : ℕ) : (before.length + 2 + x != before.length + 2 + y) = (x != y) := by
    rw [Bool.eq_iff_iff]
    simp
  rw [hsize, hbne, hbne]

/-! ## One call on a buffer that holds a start -/

/-- An end that comes too late, or not at all, in a buffer that is long enough. -/
def Overlong (before after : List UInt8) : Prop :=
  maximumPacketLength < before.length + 2 + after.length ∧
    maximumPacketLength < endIndex after + 4

instance : Decidable (Overlong before after) := inferInstanceAs (Decidable (_ ∧ _))

def receivedPacket (after : List UInt8) : List UInt8 :=
  packetStartSequence ++ after.take (endIndex after + 2)

private theorem length_start (before after : List UInt8) :
    (before ++ packetStartSequence ++ after).length = before.length + 2 + after.length := by
  simp only [length_append, length_cons, length_nil]

private theorem drop_start (before after : List UInt8) (n : ℕ) :
    (before ++ packetStartSequence ++ after).drop (before.length + 2 + n) = after.drop n := by
  have hlen : (before ++ packetStartSequence).length = before.length + 2 := by
    simp only [length_append, length_cons, length_nil]
  rw [← hlen, ← drop_drop, drop_left]

section

variable (hbefore : Avoids headerByteDLE headerByteSTX before)

include hbefore

theorem hasEndOfPacketWithinMaxDistance_of_start :
    hasEndOfPacketWithinMaxDistance (before ++ packetStartSequence ++ after)
        (findAllPacketLocations (before ++ packetStartSequence ++ after)) =
      if Overlong before after then some (after.drop (endIndex after + 2)) else none := by
  have hend := endIndex_le after
  rw [findAllPacketLocations_of_start hbefore]
  simp only [hasEndOfPacketWithinMaxDistance, length_start, Bool.true_eq_false, or_false]
  by_cases hlong : maximumPacketLength < before.length + 2 + after.length
  · rw [if_neg (by omega), if_neg (by omega)]
    have hdist : before.length + 2 + endIndex after - before.length + packetEndSequence.length =
        endIndex after + 4 := by
      simp only [length_cons, length_nil]
      omega
    rw [hdist]
    by_cases hfar : maximumPacketLength < endIndex after + 4
    · have hboth : Overlong before after := ⟨hlong, hfar⟩
      rw [if_pos hfar, if_pos hboth]
      by_cases hnone : endIndex after = after.length
      · -- no end in the buffer: both sides have dropped everything
        rw [if_neg (by simp [hnone]), drop_start, hnone, drop_length,
          drop_eq_nil_of_le (Nat.le_add_right _ _)]
      · rw [if_pos (by simp [hnone])]
        exact congrArg some (drop_start before after (endIndex after + 2))
    · rw [if_neg hfar, if_neg fun h : Overlong before after => hfar h.2]
  · rw [if_pos (by omega), if_neg fun h : Overlong before after => hlong h.1]

theorem processPacket_of_start :
    processPacket (before ++ packetStartSequence ++ after)
        (findAllPacketLocations (before ++ packetStartSequence ++ after)) =
      if secondStartIndex after < endIndex after then
        (.error .overlappingPackets, after.drop (secondStartIndex after))
      else if endIndex after = after.length then
        (.error .waitingForMoreData, before ++ packetStartSequence ++ after)
      else if packetValidationChecksumIsValid (receivedPacket after) = false then
        (.error .checksumFailure, after.drop (endIndex after + 2))
      else (createFromSerialData (receivedPacket after), after.drop (endIndex after + 2)) := by
  have hsecond := secondStartIndex_le after
  have hpacket : ((before ++ packetStartSequence ++ after).take
      (before.length + 2 + endIndex after + 2)).drop before.length = receivedPacket after := by
    rw [drop_take, append_assoc, drop_left, receivedPacket]
    have : before.length + 2 + endIndex after + 2 - before.length = endIndex after + 2 + 2 := by
      omega
    rw [this]
    rfl
  have hdropEnd : (before ++ packetStartSequence ++ after).drop
      (before.length + 2 + endIndex after + 2) = after.drop (endIndex after + 2) :=
    drop_start before after (endIndex after + 2)
  rw [findAllPacketLocations_of_start hbefore]
  simp only [processPacket, drop_start, hdropEnd, hpacket, Bool.true_eq_false, if_false]
  rcases Nat.lt_or_eq_of_le hsecond with hlt | heq
  · -- a second start: both overlap branches erase up to it
    have hne : (secondStartIndex after != endIndex after) := by
      simpa using hlt.ne
    rw [if_pos hlt]
    by_cases hnone : endIndex after = after.length
    · rw [if_neg (by simp [hnone]), if_pos ⟨by simp [hnone], hne⟩]
    · rw [if_pos ⟨by simpa using hnone, hne, by omega⟩]
  · have hnot : ¬ secondStartIndex after < endIndex after := by omega
    rw [if_neg (by simp [heq]), if_neg (by simp [heq])]
    simp only [hnot, if_false]
    by_cases hnone : endIndex after = after.length
    · rw [if_pos (by simp [hnone]), if_pos hnone]
    · rw [if_neg (by simpa using hnone), if_neg hnone]

/-- **One call of the generator**, told by what is behind the first start. -/
theorem generateMessageFromRawData_of_start :
    generateMessageFromRawData (before ++ packetStartSequence ++ after) =
      if Overlong before after then
        processPacket (after.drop (endIndex after + 2))
          (findAllPacketLocations (after.drop (endIndex after + 2)))
      else if secondStartIndex after < endIndex after then
        (.error .overlappingPackets, after.drop (secondStartIndex after))
      else if endIndex after = after.length then
        (.error .waitingForMoreData, before ++ packetStartSequence ++ after)
      else if packetValidationChecksumIsValid (receivedPacket after) = false then
        (.error .checksumFailure, after.drop (endIndex after + 2))
      else (createFromSerialData (receivedPacket after), after.drop (endIndex after + 2)) := by
  have hstart : (findAllPacketLocations
      (before ++ packetStartSequence ++ after)).hasPacketStart := by
    rw [findAllPacketLocations_of_start hbefore]
  rw [← processPacket_of_start hbefore]
  simp only [generateMessageFromRawData, hasEndOfPacketWithinMaxDistance_of_start hbefore, hstart]
  rw [if_neg (by simp)]
  by_cases hlong : Overlong before after <;> simp [hlong]

end

end

/-! ## What a call consumes -/

@[simp] theorem generateMessageFromRawData_nil :
    generateMessageFromRawData [] = (.error .waitingForMoreData, []) := rfl

theorem generateMessageFromRawData_of_no_start {xs : List UInt8}
    (h : ¬ packetStartSequence <:+: xs) :
    generateMessageFromRawData xs = (.error .waitingForMoreData, []) := by
  have hstart : (findAllPacketLocations xs).hasPacketStart = false := by
    rw [Bool.eq_false_iff]
    exact fun htrue => h (hasPacketStart_findAllPacketLocations_iff.mp htrue)
  by_cases hnil : xs = []
  · rw [hnil, generateMessageFromRawData_nil]
  · simp only [generateMessageFromRawData, hnil, if_false, hstart, if_true]

private theorem processPacket_consumes (xs : List UInt8) :
    (processPacket xs (findAllPacketLocations xs)).2 <:+ xs ∧
      ((processPacket xs (findAllPacketLocations xs)).1 = .error .waitingForMoreData ∨
        (processPacket xs (findAllPacketLocations xs)).2.length < xs.length) := by
  by_cases hstart : packetStartSequence <:+: xs
  · obtain ⟨before, after, rfl, hbefore⟩ := exists_split_start hstart
    have hsuffix (n : ℕ) : after.drop n <:+ before ++ packetStartSequence ++ after :=
      (drop_suffix n after).trans (suffix_append _ _)
    have hshort (n : ℕ) :
        (after.drop n).length < (before ++ packetStartSequence ++ after).length := by
      rw [length_start, length_drop]
      omega
    rw [processPacket_of_start hbefore]
    split
    · exact ⟨hsuffix _, .inr (hshort _)⟩
    · split
      · exact ⟨suffix_refl _, .inl rfl⟩
      · split
        · exact ⟨hsuffix _, .inr (hshort _)⟩
        · exact ⟨hsuffix _, .inr (hshort _)⟩
  · have hflag : (findAllPacketLocations xs).hasPacketStart = false := by
      rw [Bool.eq_false_iff]
      exact fun htrue => hstart (hasPacketStart_findAllPacketLocations_iff.mp htrue)
    simp [processPacket, hflag]

/-- **Consume or wait.**  A call erases a front part of the buffer, and unless it
asks for more data that part is not empty. -/
theorem generateMessageFromRawData_consumes (xs : List UInt8) :
    (generateMessageFromRawData xs).2 <:+ xs ∧
      ((generateMessageFromRawData xs).1 = .error .waitingForMoreData ∨
        (generateMessageFromRawData xs).2.length < xs.length) := by
  by_cases hstart : packetStartSequence <:+: xs
  · obtain ⟨before, after, rfl, hbefore⟩ := exists_split_start hstart
    by_cases hlong : Overlong before after
    · -- the clean-up erased bytes first, and the rest was scanned afresh
      rw [generateMessageFromRawData_of_start hbefore, if_pos hlong]
      obtain ⟨hrest, hresult⟩ := processPacket_consumes (after.drop (endIndex after + 2))
      have hsuffix : after.drop (endIndex after + 2) <:+ before ++ packetStartSequence ++ after :=
        (drop_suffix _ _).trans (suffix_append _ _)
      refine ⟨hrest.trans hsuffix, hresult.imp_right fun hlt => ?_⟩
      exact hlt.trans_le hsuffix.length_le
    · have hscan := processPacket_consumes (before ++ packetStartSequence ++ after)
      rw [processPacket_of_start hbefore] at hscan
      rwa [generateMessageFromRawData_of_start hbefore, if_neg hlong]
  · rw [generateMessageFromRawData_of_no_start hstart]
    exact ⟨nil_suffix, .inl rfl⟩

/-- A packet whose end is awaited: a start, no second start and no end behind it,
and not too much data for the overlong clean-up. -/
def AwaitsEnd (xs : List UInt8) : Prop :=
  ∃ before after, xs = before ++ packetStartSequence ++ after ∧
    Avoids headerByteDLE headerByteSTX before ∧
    ¬ packetStartSequence <:+: after ∧ ¬ packetEndSequence <:+: after ∧
    (xs.length ≤ maximumPacketLength ∨ after.length + 4 ≤ maximumPacketLength)

/-- The generator leaves a buffer as it is exactly when the packet in it is still
arriving. -/
theorem not_length_generateMessageFromRawData_lt_iff {xs : List UInt8} (hxs : xs ≠ []) :
    ¬ (generateMessageFromRawData xs).2.length < xs.length ↔ AwaitsEnd xs := by
  constructor
  · intro hidle
    have hstart : packetStartSequence <:+: xs := by
      by_contra hstart
      rw [generateMessageFromRawData_of_no_start hstart] at hidle
      exact hidle (length_pos_of_ne_nil hxs)
    obtain ⟨before, after, rfl, hbefore⟩ := exists_split_start hstart
    have hshort (n : ℕ) :
        (after.drop n).length < (before ++ packetStartSequence ++ after).length := by
      rw [length_start, length_drop]
      omega
    rw [generateMessageFromRawData_of_start hbefore] at hidle
    split at hidle
    · have hsuffix := (processPacket_consumes (after.drop (endIndex after + 2))).1
      exact absurd (hsuffix.length_le.trans_lt (hshort _)) hidle
    · next hlong =>
      split at hidle
      · exact absurd (hshort _) hidle
      · next hsecond =>
        split at hidle
        · next hend =>
          have hnone : ¬ packetEndSequence <:+: after :=
            (searchIndex_eq_length_iff (by simp)).mp hend
          have hone : ¬ packetStartSequence <:+: after := by
            have hle := secondStartIndex_le after
            rw [← searchIndex_eq_length_iff (by simp)]
            rw [secondStartIndex, hend, take_length] at hsecond hle
            omega
          refine ⟨before, after, rfl, hbefore, hone, hnone, ?_⟩
          rw [Overlong, hend, ← length_start] at hlong
          omega
        · split at hidle <;> exact absurd (hshort _) hidle
  · rintro ⟨before, after, rfl, hbefore, hone, hnone, hroom⟩
    have hend : endIndex after = after.length := (searchIndex_eq_length_iff (by simp)).mpr hnone
    have hsecond : secondStartIndex after = after.length := by
      rw [secondStartIndex, hend, take_length]
      exact (searchIndex_eq_length_iff (by simp)).mpr hone
    have hlong : ¬ Overlong before after := by
      rw [Overlong, hend, ← length_start]
      omega
    rw [generateMessageFromRawData_of_start hbefore, if_neg hlong, if_neg (by omega), if_pos hend]
    exact lt_irrefl _

end AqualinkAutomate.Jandy
