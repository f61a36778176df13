import Mathlib.Data.List.GetD
import Aqualink.Jandy.Generator

/-!
# Jandy frames

A `JandyFrame` is a destination, a type byte and a payload together with the
bytes that serialising them put on the wire, within the maximum packet length.

* **On the wire** the two marker sequences occur at the two ends of a frame and
  nowhere else, because everything in between is stuffed.
* **Reading it back** the checksum of the raw bytes validates whether or not the
  checksum byte is itself stuffed, de-stuffing restores the packet, and the type
  byte is found on either side of a stuffed destination.
* **In the generator** the first frame of a buffer is consumed exactly, whatever
  follows it and whatever marker-free bytes are in front of it
  (`generateMessageFromRawData_frame`).
-/

namespace AqualinkAutomate.Jandy

open General Protocol List

/-! ## The checksum of the raw bytes -/

theorem packetValidationChecksumIsValid_plain {front : List UInt8} {checksum : UInt8}
    (hlast : ¬ (front.getLast? = some headerByteDLE ∧ checksum = 0x00)) :
    packetValidationChecksumIsValid (front ++ [checksum] ++ packetEndSequence) =
      (checksum == calculateChecksum front) := by
  have hlen : (front ++ [checksum] ++ packetEndSequence).length = front.length + 3 := by
    simp
  have hbyte : (front ++ [checksum] ++ packetEndSequence).getD front.length 0 = checksum := by
    simp
  have htake : (front ++ [checksum] ++ packetEndSequence).take front.length = front := by
    rw [append_assoc, take_left]
  have hplain : ¬ (4 ≤ front.length + 3 ∧
      (front ++ [checksum] ++ packetEndSequence).getD (front.length + 3 - 4) 0 = headerByteDLE ∧
      (front ++ [checksum] ++ packetEndSequence).getD (front.length + 3 - 3) 0 = 0x00) := by
    rintro ⟨hfour, hdle, hzero⟩
    have hpos : front.length - 1 < front.length := by omega
    have hindex : front.length + 3 - 4 = front.length - 1 := by omega
    rw [hindex, append_assoc, getD_append _ _ _ _ hpos, getD_eq_getElem _ _ hpos] at hdle
    rw [Nat.add_sub_cancel, hbyte] at hzero
    refine hlast ⟨?_, hzero⟩
    rw [getLast?_eq_getElem?, getElem?_eq_getElem hpos, hdle]
  simp only [packetValidationChecksumIsValid, hlen, if_neg hplain]
  rw [if_neg (by omega), Nat.add_sub_cancel, hbyte, htake]

theorem packetValidationChecksumIsValid_stuffed (front : List UInt8) :
    packetValidationChecksumIsValid (front ++ [headerByteDLE, 0x00] ++ packetEndSequence) =
      (headerByteDLE == calculateChecksum front) := by
  have hlen : (front ++ [headerByteDLE, 0x00] ++ packetEndSequence).length = front.length + 4 := by
    simp
  have hfour : front.length + 4 - 4 = front.length := by omega
  have hthree : front.length + 4 - 3 = front.length + 1 := by omega
  have hbyte : (front ++ [headerByteDLE, 0x00] ++ packetEndSequence).getD front.length 0 =
      headerByteDLE := by
    simp
  have hnull : (front ++ [headerByteDLE, 0x00] ++ packetEndSequence).getD (front.length + 1) 0 =
      0x00 := by
    simp
  have htake : (front ++ [headerByteDLE, 0x00] ++ packetEndSequence).take front.length = front := by
    rw [append_assoc, take_left]
  simp only [packetValidationChecksumIsValid, hlen, hfour, hthree, hbyte, hnull, htake]
  rw [if_neg (by omega), if_pos (by simp)]

/-! ## Frames -/

/-- Everything between the first two and the last two bytes is stuffed. -/
theorem serialize_eq (destination messageType : UInt8) (payload : List UInt8) :
    JandyMessage.serialize destination messageType (some payload) =
      some (packetStartSequence ++ insertNullAfterDLE (destination :: messageType :: payload ++
        [calculateChecksum
          ([headerByteDLE, headerByteSTX, destination, messageType] ++ payload)]) ++
        packetEndSequence) := by
  simp only [JandyMessage.serialize, Option.some_inj]
  generalize calculateChecksum ([headerByteDLE, headerByteSTX, destination, messageType] ++ payload)
    = checksum
  have hpacket : [headerByteDLE, headerByteSTX, destination, messageType] ++ payload ++
      [checksum, headerByteDLE, headerByteETX] = packetStartSequence ++
        (destination :: messageType :: payload ++ [checksum]) ++ packetEndSequence := by simp
  have hlen : (packetStartSequence ++ (destination :: messageType :: payload ++ [checksum]) ++
      packetEndSequence).length = payload.length + 7 := by simp
  have hmin : ¬ payload.length + 7 < minimumPacketLength :=
    not_lt.mpr (Nat.le_add_left _ payload.length)
  have htwo : payload.length + 7 - 2 = (packetStartSequence ++
      (destination :: messageType :: payload ++ [checksum])).length := by simp
  rw [hpacket, nullCharHandlerSerialization, hlen, if_neg hmin, htwo, drop_left, take_left]
  rfl

structure JandyFrame where
  destination : UInt8
  messageType : UInt8
  payload : List UInt8
  wire : List UInt8
  serialized : JandyMessage.serialize destination messageType (some payload) = some wire
  fits : wire.length ≤ maximumPacketLength

namespace JandyFrame

variable (f : JandyFrame)

/-- What the checksum is taken over. -/
def header : List UInt8 :=
  [headerByteDLE, headerByteSTX, f.destination, f.messageType] ++ f.payload

def checksum : UInt8 := calculateChecksum f.header

def body : List UInt8 :=
  f.destination :: f.messageType :: f.payload ++ [f.checksum]

/-- The packet before stuffing, and again after de-stuffing. -/
def packet : List UInt8 := packetStartSequence ++ f.body ++ packetEndSequence

/-- The id whose message class decodes the frame. -/
def classId : JandyMessageIds := (JandyMessageIds.enumCast f.messageType).getD .unknown

/-- The message that decoding the frame gives. -/
def message : JandyMessage where
  id := (JandyMessageIds.enumCast f.messageType).getD (defaultId f.classId)
  destination := f.destination
  rawId := f.messageType
  messageLength := UInt8.ofNat f.packet.length
  checksumValue := f.checksum
  contents := f.packet

/-- The message class of the frame takes its contents. -/
def Accepted : Prop := deserializeContents f.classId f.packet = true

instance : Decidable f.Accepted := inferInstanceAs (Decidable (_ = true))

theorem packet_eq : f.packet = f.header ++ [f.checksum, headerByteDLE, headerByteETX] := by
  simp [packet, body, header]

theorem wire_eq :
    f.wire = packetStartSequence ++ insertNullAfterDLE f.body ++ packetEndSequence := by
  have hser := f.serialized
  rw [serialize_eq, Option.some_inj] at hser
  exact hser.symm

theorem length_wire : f.wire.length = (insertNullAfterDLE f.body).length + 4 := by
  simp [wire_eq]

theorem length_packet_le : f.packet.length ≤ f.wire.length := by
  have := length_le_length_insertNullAfterDLE f.body
  rw [length_wire]
  simp only [packet, length_append, length_cons, length_nil]
  omega

theorem minimumPacketLength_le : minimumPacketLength ≤ f.packet.length := by
  have : minimumPacketLength = 7 := rfl
  simp only [packet, body, length_append, length_cons, length_nil]
  omega

/-! ## The markers of a frame -/

theorem avoids_body {z : UInt8} (hz : z ≠ 0x00) :
    Avoids headerByteDLE z (insertNullAfterDLE f.body) :=
  avoids_insertNullAfterDLE hz f.body

theorem avoids_start_tail : Avoids headerByteDLE headerByteSTX f.wire.tail := by
  have htail : f.wire.tail = headerByteSTX :: insertNullAfterDLE f.body ++ packetEndSequence := by
    rw [wire_eq]
    rfl
  rw [htail]
  refine avoids_append.mpr ⟨?_, avoids_cons_cons.mpr ⟨by decide, avoids_singleton _ _ _⟩, ?_⟩
  · cases hbody : insertNullAfterDLE f.body with
    | nil => exact avoids_singleton _ _ _
    | cons b bs =>
      refine avoids_cons_cons.mpr ⟨fun h => absurd h.1 (by decide), ?_⟩
      rw [← hbody]
      exact f.avoids_body (by decide)
  · rintro x - y hy ⟨-, rfl⟩
    exact absurd hy (by simp)

theorem avoids_end_dropLast : Avoids headerByteDLE headerByteETX f.wire.dropLast := by
  have hlast : f.wire.dropLast =
      packetStartSequence ++ insertNullAfterDLE f.body ++ [headerByteDLE] := by
    rw [wire_eq, dropLast_append_of_ne_nil (by simp)]
    rfl
  rw [hlast]
  refine avoids_append.mpr ⟨avoids_append.mpr
    ⟨avoids_cons_cons.mpr ⟨by decide, avoids_singleton _ _ _⟩, f.avoids_body (by decide), ?_⟩,
    avoids_singleton _ _ _, ?_⟩
  · rintro x hx y - ⟨rfl, -⟩
    exact absurd hx (by decide)
  · rintro x - y hy ⟨-, rfl⟩
    exact absurd hy (by decide)

theorem start_prefix_iff (i : ℕ) : packetStartSequence <+: f.wire.drop i ↔ i = 0 := by
  constructor
  · intro h
    by_contra hi
    obtain ⟨i, rfl⟩ := Nat.exists_eq_succ_of_ne_zero hi
    rw [← List.drop_tail] at h
    exact avoids_iff.mp f.avoids_start_tail (h.isInfix.trans (drop_suffix i _).isInfix)
  · rintro rfl
    rw [wire_eq, drop_zero, append_assoc]
    exact prefix_append _ _

theorem end_prefix_iff (i : ℕ) : packetEndSequence <+: f.wire.drop i ↔ i + 2 = f.wire.length := by
  constructor
  · rintro ⟨rest, hrest⟩
    have hlen := congrArg List.length hrest
    simp only [length_append, length_cons, length_nil, length_drop] at hlen
    by_contra hi
    have hne : rest ≠ [] := by
      rintro rfl
      simp only [length_nil] at hlen
      omega
    refine avoids_iff.mp f.avoids_end_dropLast ⟨f.wire.take i, rest.dropLast, ?_⟩
    rw [append_assoc, ← dropLast_append_of_ne_nil hne, hrest,
      ← dropLast_append_of_ne_nil (by rw [← hrest]; simp), take_append_drop]
  · intro h
    have : f.wire.drop i = packetEndSequence := by
      rw [length_wire] at h
      rw [wire_eq]
      refine drop_left' ?_
      simp only [length_append, length_cons, length_nil]
      omega
    rw [this]

/-! ## Reading a frame back -/

theorem calculateChecksum_front :
    calculateChecksum (packetStartSequence ++
      insertNullAfterDLE (f.destination :: f.messageType :: f.payload)) = f.checksum := by
  simp only [calculateChecksum, checksum, header, checksumFrom_append,
    checksumFrom_insertNullAfterDLE]
  rfl

theorem packetValidationChecksumIsValid_wire : packetValidationChecksumIsValid f.wire := by
  have hwire : f.wire = packetStartSequence ++
      insertNullAfterDLE (f.destination :: f.messageType :: f.payload) ++
      insertNullAfterDLE [f.checksum] ++ packetEndSequence := by
    rw [wire_eq, body, insertNullAfterDLE_append]
    simp only [append_assoc]
  rw [hwire]
  by_cases hchecksum : f.checksum = headerByteDLE
  · have hstuffed : insertNullAfterDLE [f.checksum] = [headerByteDLE, 0x00] := by
      rw [hchecksum]
      rfl
    rw [hstuffed, packetValidationChecksumIsValid_stuffed, calculateChecksum_front, hchecksum]
    decide
  · have hplain : insertNullAfterDLE [f.checksum] = [f.checksum] := by
      simp [insertNullAfterDLE, hchecksum]
    rw [hplain, packetValidationChecksumIsValid_plain, calculateChecksum_front, beq_self_eq_true]
    rintro ⟨hlast, -⟩
    rw [getLast?_append_of_ne_nil] at hlast
    · exact getLast?_insertNullAfterDLE_ne _ hlast
    · rw [insertNullAfterDLE_cons]
      split <;> simp

theorem unescapedPacket_wire : unescapedPacket f.wire = f.packet := by
  have hmarker (xs : List UInt8) : dropNullAfterDLE false (packetStartSequence ++ xs) =
      packetStartSequence ++ dropNullAfterDLE false xs := rfl
  rw [unescapedPacket_eq f.fits, wire_eq, packet, append_assoc, hmarker,
    dropNullAfterDLE_insertNullAfterDLE, append_assoc]
  rfl

theorem packetFramingIsValid_packet : packetFramingIsValid f.packet := by
  have hmin := f.minimumPacketLength_le
  have hlen : f.packet.length = f.header.length + 3 := by simp [packet_eq]
  have hdle : f.packet.getD (f.packet.length - 2) 0 = headerByteDLE := by
    rw [hlen, packet_eq]
    simp
  have hetx : f.packet.getD (f.packet.length - 1) 0 = headerByteETX := by
    rw [hlen, packet_eq]
    simp
  rw [packetFramingIsValid, if_neg (by omega), hdle, hetx]
  rfl

theorem packetChecksumIsValid_packet : packetChecksumIsValid f.packet := by
  have hmin := f.minimumPacketLength_le
  have hlen : f.packet.length - packetFooterLength = f.header.length := by simp [packet_eq]
  rw [packetChecksumIsValid, if_neg (by omega), hlen, packet_eq, take_left]
  simp [checksum]

theorem rawPayload_packet : rawPayload f.packet = f.payload := by
  have hlen : f.packet.length - packetFooterLength = f.header.length := by simp [packet_eq]
  rw [rawPayload, hlen, packet_eq, take_left]
  rfl

theorem messageLength_toNat : (UInt8.ofNat f.packet.length).toNat = f.packet.length := by
  have hle := f.length_packet_le.trans f.fits
  have : maximumPacketLength = 128 := rfl
  rw [UInt8.toNat_ofNat']
  omega

theorem deserializeFromContiguousData_wire (messageType : JandyMessageIds)
    (message : JandyMessage) :
    JandyMessage.deserializeFromContiguousData messageType message f.wire =
      (deserializeContents messageType f.packet,
        { id := (JandyMessageIds.enumCast f.messageType).getD message.id
          destination := f.destination
          rawId := f.messageType
          messageLength := UInt8.ofNat f.packet.length
          checksumValue := f.checksum
          contents := f.packet }) := by
  have hchecksum : f.packet.getD (f.packet.length - packetFooterLength) 0 = f.checksum := by
    have hlen : f.packet.length - packetFooterLength = f.header.length := by simp [packet_eq]
    rw [hlen, packet_eq]
    simp
  simp only [JandyMessage.deserializeFromContiguousData, unescapedPacket_wire,
    packetFramingIsValid_packet, packetChecksumIsValid_packet, messageLength_toNat, hchecksum]
  rw [if_neg (not_lt.mpr f.fits)]
  rfl

theorem messageTypeOf_wire : messageTypeOf f.wire = f.classId := by
  obtain ⟨tail, htail⟩ : ∃ tail,
      insertNullAfterDLE (f.messageType :: f.payload ++ [f.checksum]) = f.messageType :: tail := by
    rw [cons_append, insertNullAfterDLE_cons]
    split <;> exact ⟨_, rfl⟩
  have hbody : f.body = f.destination :: (f.messageType :: f.payload ++ [f.checksum]) := rfl
  by_cases hdest : f.destination = headerByteDLE
  · have hwire : f.wire = headerByteDLE :: headerByteSTX :: headerByteDLE :: 0x00 ::
        f.messageType :: (tail ++ packetEndSequence) := by
      rw [wire_eq, hbody, insertNullAfterDLE_cons, if_pos hdest, htail, hdest]
      rfl
    rw [messageTypeOf, hwire]
    rfl
  · have hwire : f.wire = headerByteDLE :: headerByteSTX :: f.destination ::
        f.messageType :: (tail ++ packetEndSequence) := by
      rw [wire_eq, hbody, insertNullAfterDLE_cons, if_neg hdest, htail]
      rfl
    have hoffset : typeOffset f.wire = 3 := by
      rw [typeOffset, hwire]
      exact if_neg fun h => hdest h.1
    rw [messageTypeOf, hoffset, hwire]
    rfl

/-- The factory turns a frame into its message, or reports that the message class
refused the contents. -/
theorem createFromSerialData_wire :
    createFromSerialData f.wire =
      if f.Accepted then .ok f.message else .error .failedToDeserialize := by
  have hmin := f.minimumPacketLength_le.trans f.length_packet_le
  simp only [createFromSerialData, messageTypeOf_wire, deserializeFromContiguousData_wire]
  rw [if_neg (not_lt.mpr hmin)]
  by_cases haccepted : f.Accepted
  · rw [if_pos haccepted, show deserializeContents f.classId f.packet = true from haccepted]
    rfl
  · rw [if_neg haccepted, show deserializeContents f.classId f.packet = false by
      simpa [Accepted] using haccepted]

/-! ## A frame in the buffer -/

/-- What is behind the first start when a frame is followed by `rest`. -/
def tail (rest : List UInt8) : List UInt8 :=
  insertNullAfterDLE f.body ++ packetEndSequence ++ rest

section

variable (rest : List UInt8)

theorem wire_append : f.wire ++ rest = packetStartSequence ++ f.tail rest := by
  simp only [wire_eq, tail, append_assoc]

theorem endIndex_tail : endIndex (f.tail rest) = (insertNullAfterDLE f.body).length :=
  searchIndex_pair (by decide) (f.avoids_body (by decide)) rest

theorem secondStartIndex_tail :
    secondStartIndex (f.tail rest) = (insertNullAfterDLE f.body).length := by
  rw [secondStartIndex, endIndex_tail, tail, append_assoc, take_left,
    searchIndex_eq_length_iff (by simp), ← avoids_iff]
  exact f.avoids_body (by decide)

theorem receivedPacket_tail : receivedPacket (f.tail rest) = f.wire := by
  have hlen : (insertNullAfterDLE f.body).length + 2 =
      (insertNullAfterDLE f.body ++ packetEndSequence).length := by simp
  rw [receivedPacket, endIndex_tail, tail, hlen, take_left, wire_eq, append_assoc]

theorem drop_tail : (f.tail rest).drop ((insertNullAfterDLE f.body).length + 2) = rest :=
  drop_left' (by simp)

end

end JandyFrame

/-- **The first frame of a buffer is decoded**, whatever follows it and whatever
bytes without a start sequence are in front of it. -/
theorem generateMessageFromRawData_frame (f : JandyFrame) {before : List UInt8}
    (hbefore : Avoids headerByteDLE headerByteSTX before) (rest : List UInt8) :
    generateMessageFromRawData (before ++ f.wire ++ rest) =
      (createFromSerialData f.wire, rest) := by
  have hfits := f.fits
  rw [f.length_wire] at hfits
  rw [append_assoc, f.wire_append, ← append_assoc,
    generateMessageFromRawData_of_start hbefore, f.endIndex_tail, f.secondStartIndex_tail,
    f.receivedPacket_tail, f.packetValidationChecksumIsValid_wire, f.drop_tail]
  have hlong : ¬ Overlong before (f.tail rest) := by
    rintro ⟨-, hfar⟩
    rw [f.endIndex_tail] at hfar
    omega
  have hend : ¬ (insertNullAfterDLE f.body).length = (f.tail rest).length := by
    simp only [JandyFrame.tail, length_append, length_cons]
    omega
  rw [if_neg hlong, if_neg (by omega), if_neg hend, if_neg (by simp)]

theorem generateMessageFromRawData_incomplete (f : JandyFrame) {k : ℕ} (htwo : 2 ≤ k)
    (hk : k < f.wire.length) :
    generateMessageFromRawData (f.wire.take k) = (.error .waitingForMoreData, f.wire.take k) := by
  have htail : f.wire = packetStartSequence ++ f.tail [] := by
    simpa using f.wire_append []
  have htake : f.wire.take k = [] ++ packetStartSequence ++ (f.tail []).take (k - 2) := by
    rw [htail, take_append, take_of_length_le (by simpa using htwo)]
    rfl
  have hinTail : (f.tail []).take (k - 2) <:+: f.wire.tail := by
    rw [htail]
    exact (List.take_prefix _ _).isInfix.trans (suffix_cons _ _).isInfix
  have hinDropLast : (f.tail []).take (k - 2) <:+: f.wire.dropLast := by
    have hsuffix : (f.tail []).take (k - 2) <:+ f.wire.take k := by
      rw [htake]
      exact suffix_append _ _
    refine hsuffix.isInfix.trans (List.IsPrefix.isInfix ?_)
    rw [dropLast_eq_take]
    exact take_prefix_take_left (by omega)
  have hawaits : AwaitsEnd (f.wire.take k) :=
    ⟨[], _, htake, avoids_nil _ _, avoids_iff.mp (f.avoids_start_tail.of_isInfix hinTail),
      avoids_iff.mp (f.avoids_end_dropLast.of_isInfix hinDropLast),
      .inl ((length_take_le _ _).trans (hk.le.trans f.fits))⟩
  have hne : f.wire.take k ≠ [] := by
    rw [htake]
    simp
  obtain ⟨hsuffix, hresult⟩ := generateMessageFromRawData_consumes (f.wire.take k)
  have hidle := (not_length_generateMessageFromRawData_lt_iff hne).mpr hawaits
  exact Prod.ext (hresult.resolve_right hidle) (hsuffix.eq_of_length_le (not_lt.mp hidle))

/-! ## The round trip -/

/-- **Jandy frame round trip.**  A serialised message of at most the maximum
length has its markers at its two ends only, is consumed whole by the generator,
and deserialises, in every message class, to the destination, type byte and
payload it was made from. -/
theorem serialize_roundTrip {destination messageType : UInt8} {payload wire : List UInt8}
    (hserialize : JandyMessage.serialize destination messageType (some payload) = some wire)
    (hfits : wire.length ≤ maximumPacketLength) :
    (∀ i, packetStartSequence <+: wire.drop i ↔ i = 0) ∧
      (∀ i, packetEndSequence <+: wire.drop i ↔ i + 2 = wire.length) ∧
      generateMessageFromRawData wire = (createFromSerialData wire, []) ∧
      messageTypeOf wire = (JandyMessageIds.enumCast messageType).getD .unknown ∧
      ∀ classId message, ∃ result,
        JandyMessage.deserializeFromContiguousData classId message wire =
          (deserializeContents classId (unescapedPacket wire), result) ∧
        result.destination = destination ∧ result.rawId = messageType ∧
        result.contents = unescapedPacket wire ∧ rawPayload result.contents = payload ∧
        packetChecksumIsValid result.contents := by
  obtain ⟨f, rfl, rfl, rfl, rfl⟩ : ∃ f : JandyFrame, f.destination = destination ∧
      f.messageType = messageType ∧ f.payload = payload ∧ f.wire = wire :=
    ⟨⟨_, _, _, _, hserialize, hfits⟩, rfl, rfl, rfl, rfl⟩
  have hgenerate := generateMessageFromRawData_frame f (avoids_nil _ _) []
  rw [nil_append, append_nil] at hgenerate
  rw [f.unescapedPacket_wire]
  exact ⟨f.start_prefix_iff, f.end_prefix_iff, hgenerate, f.messageTypeOf_wire,
    fun classId message => ⟨_, f.deserializeFromContiguousData_wire classId message, rfl, rfl, rfl,
      f.rawPayload_packet, f.packetChecksumIsValid_packet⟩⟩

/-- Destination, payload and checksum all in need of stuffing, with both marker
sequences inside the payload. -/
theorem serialize_roundTrip_stuffed :
    ∃ wire, JandyMessage.serialize 0x10 0x25 (some [0x10, 0x02, 0x10, 0x03, 0xA4]) = some wire ∧
      generateMessageFromRawData wire = (createFromSerialData wire, []) ∧
      messageTypeOf wire = .iaqPageMessage := by
  refine ⟨[0x10, 0x02, 0x10, 0x00, 0x25, 0x10, 0x00, 0x02, 0x10, 0x00, 0x03, 0xA4, 0x10, 0x00,
    0x10, 0x03], by decide, ?_⟩
  have hserialize : JandyMessage.serialize 0x10 0x25 (some [0x10, 0x02, 0x10, 0x03, 0xA4]) =
      some [0x10, 0x02, 0x10, 0x00, 0x25, 0x10, 0x00, 0x02, 0x10, 0x00, 0x03, 0xA4, 0x10, 0x00,
        0x10, 0x03] := by decide
  have hroundTrip := serialize_roundTrip hserialize (by decide)
  exact ⟨hroundTrip.2.2.1, hroundTrip.2.2.2.1⟩

/-- A probe of the device at `0x08`. -/
def probeFrame : JandyFrame where
  destination := 0x08
  messageType := 0x00
  payload := []
  wire := [0x10, 0x02, 0x08, 0x00, 0x1A, 0x10, 0x03]
  serialized := by decide
  fits := by decide

end AqualinkAutomate.Jandy
