import Aqualink.Pentair.Frame

/-!
# Pentair messages and frames

What the messages say, and that the generator takes its own frame only.
-/

/-!
## What the Pentair messages say

The fields of the message classes, as they are written into the data of a frame
(`PentairContents.data`) and read out of it again (`readContents`).

Reading gives back what was written, with one exception that is no data of the frame: a
controller status says of each temperature whether it was there, and in a status that was sent
both are (`readContents_region`).
-/

namespace AqualinkAutomate.Pentair

open List Option

/-! ### The fields -/

/-- What a length byte can count. -/
abbrev Payload : Type := { bytes : List UInt8 // bytes.length ≤ 255 }

abbrev saltPPMPerUnit : UInt16 := 50

abbrev SaltPPM : Type := { ppm : UInt16 // ∃ units : UInt8, ppm = units.toUInt16 * saltPPMPerUnit }

/-- The fields of the message classes. -/
inductive PentairContents where
  | unknown (payload : Payload)
  | controllerStatus (hour minute circuitMask : UInt8) (hasWaterTemp : Bool) (waterTempF : UInt8)
      (hasAirTemp : Bool) (airTempF heaterMask : UInt8)
  | pumpSpeed (rpm : UInt16)
  | pumpPower (powerOn : Bool)
  | pumpStatus (rpm watts : UInt16) (gpm : UInt8) (isRunning : Bool)
  | chlorinatorSetOutput (outputPercent : UInt8)
  | chlorinatorStatus (saltPPM : SaltPPM) (outputPercent statusFlags : UInt8)
  deriving DecidableEq

abbrev powerOnByte : UInt8 := 0x0A
abbrev powerOffByte : UInt8 := 0x04
abbrev runStateRunning : UInt8 := 0x0A

namespace PentairContents

/-- The id of the message class. -/
def id : PentairContents → PentairMessageIds
  | unknown .. => .unknown
  | controllerStatus .. => .controllerStatus
  | pumpSpeed .. => .pumpSpeed
  | pumpPower .. => .pumpPower
  | pumpStatus .. => .pumpStatus
  | chlorinatorSetOutput .. => .chlorinatorSetOutput
  | chlorinatorStatus .. => .chlorinatorStatus

/-- The data that `SerializeContents` writes behind the length byte. -/
def data : PentairContents → List UInt8
  | unknown payload => payload.val
  | controllerStatus hour minute circuitMask _ waterTempF _ airTempF heaterMask =>
    [hour, minute, circuitMask, waterTempF, airTempF, heaterMask]
  | pumpSpeed rpm => bigEndianChecksum rpm
  | pumpPower powerOn => [if powerOn then powerOnByte else powerOffByte]
  | pumpStatus rpm watts gpm isRunning =>
    [if isRunning then runStateRunning else 0x04, 0x00, 0x00] ++ bigEndianChecksum watts ++
      bigEndianChecksum rpm ++ [gpm]
  | chlorinatorSetOutput outputPercent => [outputPercent]
  | chlorinatorStatus saltPPM outputPercent statusFlags =>
    [(saltPPM.val / saltPPMPerUnit).toUInt8, outputPercent, statusFlags]

def serializeContents (contents : PentairContents) : List UInt8 :=
  UInt8.ofNat contents.data.length :: contents.data

/-- The contents as the receiver of a frame knows them: both temperatures are there. -/
def received : PentairContents → PentairContents
  | controllerStatus hour minute circuitMask _ waterTempF _ airTempF heaterMask =>
    controllerStatus hour minute circuitMask true waterTempF true airTempF heaterMask
  | contents => contents

theorem length_data_le (contents : PentairContents) : contents.data.length ≤ 255 := by
  cases contents with
  | unknown payload => exact payload.property
  | _ => simp [data, bigEndianChecksum]

end PentairContents

/-! ### Reading the fields -/

def dataByteAt (messageBytes : List UInt8) (dataIndex : ℕ) : UInt8 :=
  if (messageBytes.getD 4 0).toNat ≤ dataIndex then 0 else messageBytes.getD (5 + dataIndex) 0

def dataWordAt (messageBytes : List UInt8) (dataIndex : ℕ) : UInt16 :=
  (dataByteAt messageBytes dataIndex).toUInt16 <<< 8 |||
    (dataByteAt messageBytes (dataIndex + 1)).toUInt16

theorem length_take_byte (length : UInt8) (bytes : List UInt8) :
    (bytes.take length.toNat).length ≤ 255 := by
  have := length.toNat_lt
  have hle := length_take_le length.toNat bytes
  omega

/-- `DeserializeContents` of the message class, with the fields that it reads. -/
def readContents (messageClass : PentairMessageIds) (messageBytes : List UInt8) :
    Option PentairContents :=
  let dataLength := messageBytes.getD 4 0
  let dataAt := dataByteAt messageBytes
  match messageClass with
  | .unknown | .pumpRemote =>
    some (.unknown ⟨(messageBytes.drop 5).take dataLength.toNat, length_take_byte _ _⟩)
  | .controllerStatus =>
    some (.controllerStatus (dataAt 0) (dataAt 1) (dataAt 2) (decide (3 < dataLength)) (dataAt 3)
      (decide (4 < dataLength)) (dataAt 4) (dataAt 5))
  | .pumpSpeed => if dataLength ≤ 1 then none else some (.pumpSpeed (dataWordAt messageBytes 0))
  | .pumpPower =>
    if dataLength ≤ 0 then none else some (.pumpPower (messageBytes.getD 5 0 == powerOnByte))
  | .pumpStatus =>
    some (.pumpStatus (dataWordAt messageBytes 5) (dataWordAt messageBytes 3) (dataAt 7)
      (dataAt 0 == runStateRunning))
  | .chlorinatorSetOutput =>
    if dataLength ≤ 0 then none else some (.chlorinatorSetOutput (messageBytes.getD 5 0))
  | .chlorinatorStatus =>
    some (.chlorinatorStatus ⟨(dataAt 0).toUInt16 * saltPPMPerUnit, _, rfl⟩ (dataAt 1) (dataAt 2))

theorem isSome_readContents (messageClass : PentairMessageIds) (messageBytes : List UInt8) :
    (readContents messageClass messageBytes).isSome =
      deserializeContents messageClass messageBytes := by
  cases messageClass with
  | pumpSpeed | pumpPower | chlorinatorSetOutput =>
    simp only [readContents, deserializeContents, apply_ite isSome, isSome_none,
      isSome_some, UInt8.le_iff_toNat_le]
    split
    next hle => exact (decide_eq_false (not_lt.mpr hle)).symm
    next hle => exact (decide_eq_true (not_le.mp hle)).symm
  | _ => rfl

theorem units_mul_saltPPMPerUnit (saltPPM : SaltPPM) :
    (saltPPM.val / saltPPMPerUnit).toUInt8.toUInt16 * saltPPMPerUnit = saltPPM.val := by
  obtain ⟨ppm, units, rfl⟩ := saltPPM
  have hlt := units.toNat_lt
  have hdiv : units.toUInt16 * saltPPMPerUnit / saltPPMPerUnit = units.toUInt16 := by
    apply UInt16.toNat_inj.mp
    have hunit : saltPPMPerUnit.toNat = 50 := rfl
    rw [UInt16.toNat_div, UInt16.toNat_mul, UInt8.toNat_toUInt16, hunit]
    omega
  rw [hdiv]
  simp

/-! ### Messages -/

/-- A message with its fields. -/
structure TypedMessage where
  sender : UInt8
  destination : UInt8
  contents : PentairContents
  deriving DecidableEq

namespace TypedMessage

variable (m : TypedMessage)

def serialize : Option (List UInt8) :=
  PentairMessage.serialize m.sender m.destination m.contents.id.enumInteger
    (some m.contents.serializeContents)

def frame : PentairFrame where
  sender := m.sender
  destination := m.destination
  command := m.contents.id.enumInteger
  data := m.contents.data
  wire := _
  dataFits := m.contents.length_data_le
  serialized := rfl

theorem serialize_eq : m.serialize = some m.frame.wire := rfl

@[simp] theorem classId_frame : m.frame.classId = m.contents.id := by
  cases hcontents : m.contents <;>
    simp only [PentairFrame.classId, frame, hcontents, PentairContents.id] <;> rfl

theorem getD_region (index : ℕ) :
    m.frame.region.getD (5 + index) 0 =
      (m.contents.data ++ bigEndianChecksum (calculateChecksum m.frame.header)).getD index 0 := by
  have hregion : m.frame.region = [startOfFrame, m.sender, m.destination,
      m.contents.id.enumInteger, UInt8.ofNat m.contents.data.length] ++
      (m.contents.data ++ bigEndianChecksum (calculateChecksum m.frame.header)) := by
    simp [PentairFrame.region, PentairFrame.header, frame]
  rw [hregion, getD_append_right _ _ _ _ (by simp)]
  congr 1
  simp

theorem dataByteAt_region {index : ℕ} (hindex : index < m.contents.data.length) :
    dataByteAt m.frame.region index = m.contents.data.getD index 0 := by
  have hlength : (m.frame.region.getD 4 0).toNat = m.contents.data.length :=
    m.frame.dataLength_toNat
  rw [dataByteAt, hlength, if_neg (not_le.mpr hindex), getD_region, getD_append _ _ _ _ hindex]

theorem dataWordAt_region {index : ℕ} {word : UInt16} (hindex : index + 1 < m.contents.data.length)
    (hword : [m.contents.data.getD index 0, m.contents.data.getD (index + 1) 0] =
      bigEndianChecksum word) :
    dataWordAt m.frame.region index = word := by
  obtain ⟨hhigh, hlow⟩ : m.contents.data.getD index 0 = _ ∧
      m.contents.data.getD (index + 1) 0 = _ := by
    simpa only [bigEndianChecksum, List.cons.injEq, and_true] using hword
  rw [dataWordAt, m.dataByteAt_region (Nat.lt_of_succ_lt hindex), m.dataByteAt_region hindex, hhigh,
    hlow, join_bigEndian]

theorem drop_take_region :
    (m.frame.region.drop 5).take m.contents.data.length = m.contents.data := by
  have hregion : m.frame.region.drop 5 =
      m.contents.data ++ bigEndianChecksum (calculateChecksum m.frame.header) := rfl
  rw [hregion, take_left]

/-- **The fields of a message are read back** from its frame. -/
theorem readContents_region :
    readContents m.contents.id m.frame.region = some m.contents.received := by
  have hlength : m.frame.region.getD 4 0 = UInt8.ofNat m.contents.data.length := rfl
  have hbyte : ∀ {index : ℕ}, index < m.contents.data.length →
      dataByteAt m.frame.region index = m.contents.data.getD index 0 := m.dataByteAt_region
  have hword := @m.dataWordAt_region
  have hfirst : m.frame.region.getD 5 0 = (m.contents.data ++ _).getD 0 0 := m.getD_region 0
  have hdata := m.drop_take_region
  have hcount : (UInt8.ofNat m.contents.data.length).toNat = m.contents.data.length :=
    m.frame.dataLength_toNat
  cases hcontents : m.contents with
  | unknown payload =>
    rw [hcontents] at hlength hdata hcount
    simp only [PentairContents.id, readContents, PentairContents.received, hlength, hcount, hdata]
    rfl
  | controllerStatus hour minute circuitMask hasWaterTemp waterTempF hasAirTemp airTempF
      heaterMask =>
      simp only [hcontents, PentairContents.data, length_cons, length_nil] at hlength hbyte
      simp only [PentairContents.id, readContents, PentairContents.received, hlength]
      rw [hbyte (by omega), hbyte (by omega), hbyte (by omega), hbyte (by omega), hbyte (by omega),
        hbyte (by omega)]
      rfl
  | pumpSpeed rpm =>
    simp only [hcontents, PentairContents.data, bigEndianChecksum, length_cons,
      length_nil] at hlength hword
    simp only [PentairContents.id, readContents, PentairContents.received, hlength]
    rw [if_neg (by decide), hword (by omega) rfl]
  | pumpPower powerOn =>
    simp only [hcontents, PentairContents.data, length_cons, length_nil] at hlength hfirst
    simp only [PentairContents.id, readContents, PentairContents.received, hlength, hfirst]
    rw [if_neg (by decide)]
    -- a byte of its own for on and off, of which only one is looked at
    cases powerOn <;> rfl
  | pumpStatus rpm watts gpm isRunning =>
    simp only [hcontents, PentairContents.data, bigEndianChecksum, length_append,
      length_cons, length_nil] at hbyte hword
    have hrpm : dataWordAt m.frame.region 5 = rpm := hword (by omega) rfl
    have hwatts : dataWordAt m.frame.region 3 = watts := hword (by omega) rfl
    simp only [PentairContents.id, readContents, PentairContents.received]
    rw [hrpm, hwatts, hbyte (by omega), hbyte (by omega)]
    cases isRunning <;> rfl
  | chlorinatorSetOutput outputPercent =>
    simp only [hcontents, PentairContents.data, length_cons, length_nil] at hlength hfirst
    simp only [PentairContents.id, readContents, PentairContents.received, hlength, hfirst]
    rw [if_neg (by decide)]
    rfl
  | chlorinatorStatus saltPPM outputPercent statusFlags =>
    simp only [hcontents, PentairContents.data, length_cons, length_nil] at hbyte
    simp only [PentairContents.id, readContents, PentairContents.received]
    rw [some_inj, PentairContents.chlorinatorStatus.injEq, Subtype.mk.injEq,
      hbyte (by omega), hbyte (by omega), hbyte (by omega)]
    exact ⟨units_mul_saltPPMPerUnit saltPPM, rfl, rfl⟩

end TypedMessage

/-!
## The Pentair generator takes its own frame only

The Jandy generator works on the same buffer, so what a call of the Pentair generator leaves of
it matters as much as what it decodes.

* Whatever the buffer holds, a call takes at most one range out of it, which starts with a
  preamble; the bytes ahead of the range and behind it stay as they are.
* A range that becomes a message is exactly a frame: preamble, header, as many data bytes as the
  header announces, and their checksum.
* A message behind bytes without a preamble is decoded, with the fields that it was sent with.
-/

open General Protocol

/-! ### A received frame -/

theorem bigEndianChecksum_join (high low : UInt8) :
    bigEndianChecksum (high.toUInt16 <<< 8 ||| low.toUInt16) = [high, low] := by
  have hhigh := high.toNat_lt
  have hlow := low.toNat_lt
  have hmask (n : ℕ) : n &&& 255 = n % 256 := Nat.and_two_pow_sub_one_eq_mod n 8
  have hword : (high.toUInt16 <<< 8 ||| low.toUInt16).toNat = high.toNat * 256 + low.toNat := by
    have hshift : (high.toUInt16 <<< 8).toNat = high.toNat <<< 8 := by
      simp [Nat.shiftLeft_eq]
      omega
    rw [UInt16.toNat_or, hshift, UInt8.toNat_toUInt16, ← Nat.shiftLeft_add_eq_or_of_lt hlow,
      Nat.shiftLeft_eq]
  have hfirst : (((high.toUInt16 <<< 8 ||| low.toUInt16) >>> 8) &&& 0xFF).toUInt8 = high := by
    apply UInt8.toNat_inj.mp
    rw [UInt16.toNat_toUInt8, UInt16.toNat_and, UInt16.toNat_shiftRight, hword]
    simp [Nat.shiftRight_eq_div_pow, hmask]
    omega
  have hsecond : ((high.toUInt16 <<< 8 ||| low.toUInt16) &&& 0xFF).toUInt8 = low := by
    apply UInt8.toNat_inj.mp
    rw [UInt16.toNat_toUInt8, UInt16.toNat_and, hword]
    simp [hmask]
  rw [bigEndianChecksum, hfirst, hsecond]

theorem exists_eq_of_complete {after : List UInt8} (hcomplete : Complete after) :
    ∃ sender destination command length data high low rest,
      after = sender :: destination :: command :: length :: (data ++ high :: low :: rest) ∧
        length.toNat = data.length := by
  obtain ⟨hheader, hsize⟩ := hcomplete
  have hfive : headerLength = 5 := rfl
  have htwo : checksumLength = 2 := rfl
  match after, hheader, hsize with
  | sender :: destination :: command :: length :: behind, _, hsize =>
    have hlength : regionSize (sender :: destination :: command :: length :: behind) =
        headerLength + length.toNat + checksumLength := rfl
    have hbehind : length.toNat + 2 ≤ behind.length := by
      rw [hlength] at hsize
      simp only [length_cons] at hsize
      omega
    obtain ⟨high, low, rest, hrest⟩ : ∃ high low rest,
        behind.drop length.toNat = high :: low :: rest := by
      have hdrop : (behind.drop length.toNat).length = behind.length - length.toNat :=
        length_drop
      match hxs : behind.drop length.toNat with
      | high :: low :: rest => exact ⟨high, low, rest, rfl⟩
      | [] | [_] =>
        rw [hxs] at hdrop
        simp only [length_cons, length_nil] at hdrop
        omega
    refine ⟨sender, destination, command, length, behind.take length.toNat, high, low, rest, ?_, ?_⟩
    · rw [← hrest, take_append_drop]
    · rw [length_take_of_le (by omega)]
  | [], hheader, _ | [_], hheader, _ | [_, _], hheader, _ | [_, _, _], hheader, _ =>
    simp only [length_cons, length_nil] at hheader
    omega

theorem exists_frame_of_complete {after : List UInt8} (hcomplete : Complete after)
    (hvalid : regionChecksumIsValid after) : ∃ (f : PentairFrame) (rest : List UInt8),
      after = f.tail rest := by
  obtain ⟨sender, destination, command, length, data, high, low, rest, rfl, hlength⟩ :=
    exists_eq_of_complete hcomplete
  have hbyte : UInt8.ofNat data.length = length := by
    rw [← hlength]
    exact UInt8.ofNat_toNat
  -- the frame is put together from the bytes, and its checksum is the one that was received
  let f : PentairFrame :=
    { sender, destination, command, data
      wire := _
      dataFits := by
        have := length.toNat_lt
        omega
      serialized := rfl }
  have hheader : f.header = [startOfFrame, sender, destination, command, length] ++ data := by
    rw [PentairFrame.header, show UInt8.ofNat f.data.length = length from hbyte]
    rfl
  have hsize : regionSize (sender :: destination :: command :: length ::
      (data ++ high :: low :: rest)) = (f.header ++ [high, low]).length := by
    have hdef : regionSize (sender :: destination :: command :: length ::
        (data ++ high :: low :: rest)) = headerLength + length.toNat + checksumLength := rfl
    rw [hdef, hheader, hlength]
    simp only [length_append, length_cons, length_nil]
  have hreceived : receivedRegion (sender :: destination :: command :: length ::
      (data ++ high :: low :: rest)) = f.header ++ [high, low] := by
    have hcons : startOfFrame :: sender :: destination :: command :: length ::
        (data ++ high :: low :: rest) = f.header ++ [high, low] ++ rest := by
      simp [hheader]
    rw [receivedRegion, hsize, hcons, take_left]
  have hjoin : readBigEndianChecksum (f.header ++ [high, low]) =
      high.toUInt16 <<< 8 ||| low.toUInt16 := by
    rw [← bigEndianChecksum_join high low, readBigEndianChecksum_append]
  have hsum : calculateChecksum f.header = high.toUInt16 <<< 8 ||| low.toUInt16 := by
    have hlen : (f.header ++ [high, low]).length - checksumLength = f.header.length := by simp
    rwa [regionChecksumIsValid, hreceived, hlen, take_left, hjoin] at hvalid
  refine ⟨f, rest, ?_⟩
  rw [PentairFrame.tail, PentairFrame.region, hsum, bigEndianChecksum_join, hheader]
  simp

/-! ### What a call takes -/

structure FrameBytes (removed : List UInt8) (message : PentairMessage) : Prop where
  layout : ∃ (data : List UInt8) (high low : UInt8),
    removed = framePreamble ++
        [message.sender, message.destination, message.rawCommand, message.dataLength] ++
        data ++ [high, low] ∧
      message.dataLength.toNat = data.length ∧
      high.toUInt16 <<< 8 ||| low.toUInt16 = calculateChecksum ([startOfFrame, message.sender,
        message.destination, message.rawCommand, message.dataLength] ++ data)
  contents : message.contents = removed.drop 3

theorem PentairFrame.frameBytes (f : PentairFrame) : FrameBytes f.wire f.message where
  layout := by
    refine ⟨f.data, _, _, ?_, f.dataLength_toNat, join_bigEndian _⟩
    rw [f.wire_eq]
    simp [PentairFrame.region, PentairFrame.header, PentairFrame.message, bigEndianChecksum]
  contents := by
    rw [f.wire_eq]
    rfl

/-- One call takes one range, or nothing. -/
theorem generateMessageFromRawData_removes (serialData : List UInt8) :
    ∃ before removed after, serialData = before ++ removed ++ after ∧
      (generateMessageFromRawData serialData).2 = before ++ after ∧
      (removed = [] ∨ framePreamble <+: removed) ∧
      ∀ message, (generateMessageFromRawData serialData).1 = .ok message →
        FrameBytes removed message := by
  by_cases hpreamble : framePreamble <:+: serialData
  · obtain ⟨before, after, rfl, hfirst⟩ := exists_split_searchIndex (by simp) hpreamble
    by_cases hcomplete : Complete after
    · by_cases hvalid : regionChecksumIsValid after
      · obtain ⟨f, rest, rfl⟩ := exists_frame_of_complete hcomplete hvalid
        have hbuffer : before ++ framePreamble ++ f.tail rest = before ++ f.wire ++ rest := by
          rw [append_assoc, ← f.wire_append, append_assoc]
        have hcall := generateMessageFromRawData_frame_of_first f hfirst
        refine ⟨before, f.wire, rest, hbuffer, ?_, .inr ⟨_, f.wire_eq.symm⟩, ?_⟩
        · rw [hbuffer, hcall]
        · intro message hmessage
          rw [hbuffer, hcall, f.createFromSerialData_region] at hmessage
          split at hmessage
          · obtain rfl : f.message = message := by simpa using hmessage
            exact f.frameBytes
          · cases hmessage
      · have hcall := generateMessageFromRawData_of_preamble hfirst
        rw [if_neg (not_not.mpr hcomplete), if_pos hvalid] at hcall
        refine ⟨before, framePreamble, after, rfl, by rw [hcall], .inr prefix_rfl, ?_⟩
        intro message hmessage
        rw [hcall] at hmessage
        cases hmessage
    · have hcall := generateMessageFromRawData_of_preamble hfirst
      rw [if_pos hcomplete] at hcall
      refine ⟨before ++ framePreamble ++ after, [], [], by simp, by rw [hcall]; simp, .inl rfl, ?_⟩
      intro message hmessage
      rw [hcall] at hmessage
      cases hmessage
  · have hcall := generateMessageFromRawData_of_no_preamble hpreamble
    refine ⟨serialData, [], [], by simp, by rw [hcall]; simp, .inl rfl, ?_⟩
    intro message hmessage
    rw [hcall] at hmessage
    cases hmessage

/-! ### A message behind other bytes -/

theorem framePreamble_drop_not_prefix (k : ℕ) (hpos : 0 < k) (hlt : k < framePreamble.length) :
    ¬ framePreamble.drop k <+: framePreamble := by
  have hlength : framePreamble.length = 4 := rfl
  obtain rfl | rfl | rfl : k = 1 ∨ k = 2 ∨ k = 3 := by omega
  · decide
  · decide
  · decide

theorem TypedMessage.accepted (m : TypedMessage) : m.frame.Accepted := by
  rw [PentairFrame.Accepted, m.classId_frame, ← isSome_readContents, m.readContents_region]
  rfl

/-- **The Pentair generator touches only its own frame.** -/
theorem generateMessageFromRawData_own_frame :
    (∀ serialData : List UInt8, ∃ before removed after, serialData = before ++ removed ++ after ∧
        (generateMessageFromRawData serialData).2 = before ++ after ∧
        (removed = [] ∨ framePreamble <+: removed) ∧
        ∀ message, (generateMessageFromRawData serialData).1 = .ok message →
          FrameBytes removed message) ∧
    ∀ (m : TypedMessage) (wire before rest : List UInt8), m.serialize = some wire →
      ¬ framePreamble <:+: before → ∃ message : PentairMessage,
        generateMessageFromRawData (before ++ wire ++ rest) = (.ok message, before ++ rest) ∧
          message.id = m.contents.id ∧ message.sender = m.sender ∧
          message.destination = m.destination ∧
          readContents message.id message.contents = some m.contents.received := by
  refine ⟨generateMessageFromRawData_removes, ?_⟩
  intro m wire before rest hwire hbefore
  obtain rfl : m.frame.wire = wire := by simpa only [m.serialize_eq, some_inj] using hwire
  have hfirst : searchIndex framePreamble (before ++ framePreamble ++ m.frame.tail rest) =
      before.length :=
    searchIndex_append_self_append (by simp) framePreamble_drop_not_prefix hbefore _
  refine ⟨m.frame.message, ?_, m.classId_frame, rfl, rfl, ?_⟩
  · rw [generateMessageFromRawData_frame_of_first m.frame hfirst,
      m.frame.createFromSerialData_region, if_pos m.accepted]
  · have hid : m.frame.message.id = m.contents.id := m.classId_frame
    have hcontents : m.frame.message.contents = m.frame.region := rfl
    rw [hid, hcontents, m.readContents_region]

/-- A pump command behind the start of a Jandy frame, with half a preamble in front of it. -/
theorem generateMessageFromRawData_own_frame_pumpSpeed :
    ∃ message : PentairMessage,
      generateMessageFromRawData ([0x10, 0x02, 0xFF, 0x00] ++
          [0xFF, 0x00, 0xFF, 0xA5, 0x10, 0x60, 0x01, 0x02, 0x09, 0xC4, 0x01, 0xE5] ++ [0x10]) =
        (.ok message, [0x10, 0x02, 0xFF, 0x00] ++ [0x10]) ∧
        message.id = .pumpSpeed ∧ message.sender = 0x10 ∧ message.destination = 0x60 ∧
        readContents message.id message.contents = some (.pumpSpeed 2500) :=
  generateMessageFromRawData_own_frame.2 ⟨0x10, 0x60, .pumpSpeed 2500⟩ _ _ _ (by decide) (by decide)

end AqualinkAutomate.Pentair
