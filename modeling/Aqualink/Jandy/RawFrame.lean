import Aqualink.Jandy.Frame

/-!
# The two readings of a received frame

A frame is looked at twice.  The generator validates its checksum, and the factory finds its
type byte, on the bytes as they came off the wire; the message then removes the stuffing and
looks at the checksum and the type again.  A received frame need not be one that a stuffing
sender would have sent: between the markers there can be anything.

`checksum_agrees` says that the two readings agree as long as enough is left of the frame for a
packet, and that a frame of which less is left is no message whatever the first reading was.
-/

namespace AqualinkAutomate.Jandy

open General Protocol List

/-- A frame as it is received, with anything between its markers. -/
def rawFrame (body : List UInt8) : List UInt8 := packetStartSequence ++ body ++ packetEndSequence

/-- What is left of the frame without the stuffing. -/
def destuffed (body : List UInt8) : List UInt8 := dropNullAfterDLE false (rawFrame body)

theorem destuffed_eq (body : List UInt8) :
    destuffed body = rawFrame (dropNullAfterDLE false body) := by
  have hstart (xs : List UInt8) : dropNullAfterDLE false (packetStartSequence ++ xs) =
      packetStartSequence ++ dropNullAfterDLE false xs := rfl
  have hend (last : Bool) : dropNullAfterDLE last packetEndSequence = packetEndSequence := by
    cases last <;> rfl
  rw [destuffed, rawFrame, append_assoc, hstart, dropNullAfterDLE_append, hend, ← append_assoc]
  rfl

theorem length_rawFrame (body : List UInt8) : (rawFrame body).length = body.length + 4 := by
  simp [rawFrame]

/-! ## The checksum -/

theorem packetChecksumIsValid_rawFrame {front : List UInt8} {checksum : UInt8}
    (hlen : minimumPacketLength ≤ (rawFrame (front ++ [checksum])).length) :
    packetChecksumIsValid (rawFrame (front ++ [checksum])) =
      (calculateChecksum (packetStartSequence ++ front) == checksum) := by
  have hindex : (rawFrame (front ++ [checksum])).length - packetFooterLength =
      (packetStartSequence ++ front).length := by
    have : packetFooterLength = 3 := rfl
    simp only [length_rawFrame, length_append, length_cons, length_nil]
    omega
  have hframe : rawFrame (front ++ [checksum]) =
      (packetStartSequence ++ front) ++ (checksum :: packetEndSequence) := by
    simp [rawFrame]
  rw [packetChecksumIsValid, if_neg (by omega), hindex, hframe, take_left,
    getD_append_right _ _ _ _ le_rfl, Nat.sub_self]
  rfl

/-- The stuffing does not count in the sum. -/
theorem calculateChecksum_dropNullAfterDLE (front : List UInt8) :
    calculateChecksum (packetStartSequence ++ dropNullAfterDLE false front) =
      calculateChecksum (packetStartSequence ++ front) := by
  simp only [calculateChecksum, checksumFrom_append, checksumFrom_dropNullAfterDLE]

theorem dropNullAfterDLE_append_stuffed (init : List UInt8) :
    dropNullAfterDLE false (init ++ [headerByteDLE] ++ [0x00]) =
      dropNullAfterDLE false init ++ [headerByteDLE] := by
  have hpair (last : Bool) : dropNullAfterDLE last [headerByteDLE, 0x00] = [headerByteDLE] := by
    cases last <;> rfl
  rw [append_assoc, singleton_append, dropNullAfterDLE_append, hpair]

section

variable {front : List UInt8} {checksum : UInt8}
  (hplain : ¬ (front.getLast? = some headerByteDLE ∧ checksum = 0x00))

include hplain

theorem dropNullAfterDLE_append_plain :
    dropNullAfterDLE false (front ++ [checksum]) = dropNullAfterDLE false front ++ [checksum] := by
  have hkept : dropNullAfterDLE ((front.getLast?.map (· == 0x10)).getD false) [checksum] =
      [checksum] := by
    rw [dropNullAfterDLE, if_neg, dropNullAfterDLE_nil]
    intro hdrop
    simp only [Bool.and_eq_true, beq_iff_eq] at hdrop
    refine hplain ⟨?_, hdrop.2⟩
    cases hlast : front.getLast? with
    | none => simp [hlast] at hdrop
    | some last => simpa [hlast] using hdrop.1
  rw [dropNullAfterDLE_append, hkept]

theorem plain_packetStartSequence_append :
    ¬ ((packetStartSequence ++ front).getLast? = some headerByteDLE ∧ checksum = 0x00) := by
  rintro ⟨hlast, hzero⟩
  cases hfront : front with
  | nil =>
    simp only [hfront, append_nil, getLast?_cons_cons, getLast?_singleton,
      Option.some.injEq] at hlast
    exact absurd hlast (by decide)
  | cons first rest =>
    rw [getLast?_append_of_ne_nil _ (by simp [hfront])] at hlast
    exact hplain ⟨hlast, hzero⟩

end

variable {body : List UInt8}

theorem packetValidationChecksumIsValid_rawFrame
    (hlen : minimumPacketLength ≤ (destuffed body).length) :
    packetValidationChecksumIsValid (rawFrame body) = packetChecksumIsValid (destuffed body) := by
  rw [destuffed_eq] at hlen ⊢
  have hne : body ≠ [] := by
    rintro rfl
    exact absurd hlen (by decide)
  obtain ⟨front, checksum, rfl⟩ := (eq_nil_or_concat' body).resolve_left hne
  by_cases hstuffed : front.getLast? = some headerByteDLE ∧ checksum = 0x00
  · obtain ⟨hlast, rfl⟩ := hstuffed
    obtain ⟨init, rfl⟩ := List.getLast?_eq_some_iff.mp hlast
    -- the last zero is the stuffing of a checksum of `0x10`
    have hraw : rawFrame (init ++ [headerByteDLE] ++ [0x00]) =
        (packetStartSequence ++ init) ++ [headerByteDLE, 0x00] ++ packetEndSequence := by
      simp [rawFrame]
    rw [dropNullAfterDLE_append_stuffed] at hlen ⊢
    rw [packetChecksumIsValid_rawFrame hlen, hraw, packetValidationChecksumIsValid_stuffed,
      calculateChecksum_dropNullAfterDLE]
    exact BEq.comm
  -- the last byte is the checksum as it is
  · have hraw : rawFrame (front ++ [checksum]) =
        (packetStartSequence ++ front) ++ [checksum] ++ packetEndSequence := by
      simp [rawFrame]
    have hplain := plain_packetStartSequence_append hstuffed
    rw [dropNullAfterDLE_append_plain hstuffed] at hlen ⊢
    rw [packetChecksumIsValid_rawFrame hlen, hraw, packetValidationChecksumIsValid_plain hplain,
      calculateChecksum_dropNullAfterDLE]
    exact BEq.comm

/-! ## The type -/

theorem getD_typeOffset_rawFrame (hlen : 3 ≤ body.length) :
    (rawFrame body).getD (typeOffset (rawFrame body)) 0 = (destuffed body).getD 3 0 := by
  rw [destuffed_eq]
  obtain ⟨destination, second, third, rest, rfl⟩ :
      ∃ destination second third rest, body = destination :: second :: third :: rest := by
    match body, hlen with
    | destination :: second :: third :: rest, _ => exact ⟨destination, second, third, rest, rfl⟩
  have hdest : (rawFrame (destination :: second :: third :: rest)).getD 2 0 = destination := rfl
  have hsecond : (rawFrame (destination :: second :: third :: rest)).getD 3 0 = second := rfl
  have hthird : (rawFrame (destination :: second :: third :: rest)).getD 4 0 = third := rfl
  rw [typeOffset, hdest, hsecond, dropNullAfterDLE_false_cons]
  by_cases hstuffed : destination = headerByteDLE ∧ second = 0x00
  · obtain ⟨rfl, rfl⟩ := hstuffed
    rw [if_pos ⟨rfl, rfl⟩, hthird]
    rfl
  · have hkeep : ((destination == 0x10) && second == 0x00) = false := by
      rw [Bool.and_eq_false_iff, beq_eq_false_iff_ne, beq_eq_false_iff_ne]
      exact not_and_or.mp hstuffed
    rw [if_neg hstuffed, hsecond, dropNullAfterDLE, hkeep]
    rfl

/-! ## The two readings -/

theorem createFromSerialData_short (hlen : 3 ≤ body.length)
    (hshort : (destuffed body).length < minimumPacketLength) :
    createFromSerialData (rawFrame body) = .error .failedToDeserialize := by
  have hraw := length_rawFrame body
  have hmin : ¬ (rawFrame body).length < minimumPacketLength := by
    have : minimumPacketLength = 7 := rfl
    omega
  simp only [createFromSerialData, if_neg hmin]
  split
  · next message hmessage =>
      unfold JandyMessage.deserializeFromContiguousData at hmessage
      split at hmessage
      · cases hmessage
      · next hmax =>
          have hpacket : unescapedPacket (rawFrame body) = destuffed body :=
            unescapedPacket_eq (not_lt.mp hmax)
          have hframing : packetFramingIsValid (destuffed body) = false := if_pos hshort
          simp only [hpacket, hframing, if_true] at hmessage
          cases hmessage
  · rfl

/-- **Validation and decoding.**  The generator accepts the raw bytes of a frame exactly if the
de-stuffed bytes have a valid checksum, unless too few of them are left for a packet; then there
is no message.  The type is the same under both readings in any case. -/
theorem checksum_agrees {body : List UInt8} (hlen : minimumPacketLength ≤ (rawFrame body).length) :
    (minimumPacketLength ≤ (destuffed body).length →
      (packetValidationChecksumIsValid (rawFrame body) ↔
        packetChecksumIsValid (destuffed body))) ∧
    ((destuffed body).length < minimumPacketLength →
      packetChecksumIsValid (destuffed body) = false ∧
        createFromSerialData (rawFrame body) = .error .failedToDeserialize) ∧
    messageTypeOf (rawFrame body) =
      (JandyMessageIds.enumCast ((destuffed body).getD 3 0)).getD .unknown := by
  have hbody : 3 ≤ body.length := by
    have : minimumPacketLength = 7 := rfl
    rw [length_rawFrame] at hlen
    omega
  refine ⟨fun henough => ?_, fun hshort => ⟨if_pos hshort, ?_⟩, ?_⟩
  · rw [packetValidationChecksumIsValid_rawFrame henough]
  · exact createFromSerialData_short hbody hshort
  · rw [messageTypeOf, getD_typeOffset_rawFrame hbody]

/-- A frame with a stuffed checksum, seen both ways. -/
theorem checksum_agrees_stuffed :
    packetValidationChecksumIsValid (rawFrame [0x00, 0xFE, 0x10, 0x00]) ↔
      packetChecksumIsValid (destuffed [0x00, 0xFE, 0x10, 0x00]) :=
  (checksum_agrees (by decide)).1 (by decide)

/-- The seven bytes of a frame whose destination is stuffed pass the validation, and the six
that are left do not. -/
theorem short_frame_disagrees :
    ¬ ∀ raw : List UInt8, minimumPacketLength ≤ raw.length →
      packetStartSequence <+: raw → packetEndSequence <:+ raw →
      Avoids headerByteDLE headerByteSTX raw.tail →
      Avoids headerByteDLE headerByteETX raw.dropLast →
      (packetValidationChecksumIsValid raw ↔
        packetChecksumIsValid (dropNullAfterDLE false raw)) := by
  intro h
  have hraw := h [0x10, 0x02, 0x10, 0x00, 0x22, 0x10, 0x03] (by decide) (by decide) (by decide)
    (avoids_iff.mpr (by decide)) (avoids_iff.mpr (by decide))
  exact absurd hraw (by decide)

end AqualinkAutomate.Jandy
