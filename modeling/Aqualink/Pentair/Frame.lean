import Aqualink.Pentair.Generator

/-!
# Pentair frames

A `PentairFrame` is what a message class hands to serialisation, with its data
counted by the length byte, together with the bytes that went on the wire.

The generator cuts the first frame of a buffer out of it, and leaves a frame that
has not arrived completely, and everything ahead of it, untouched.
-/

namespace AqualinkAutomate.Pentair

open General Protocol List

structure PentairFrame where
  sender : UInt8
  destination : UInt8
  command : UInt8
  data : List UInt8
  wire : List UInt8
  dataFits : data.length ≤ 255
  serialized : PentairMessage.serialize sender destination command
    (some (UInt8.ofNat data.length :: data)) = some wire

namespace PentairFrame

variable (f : PentairFrame)

/-- What the checksum is taken over. -/
def header : List UInt8 :=
  [startOfFrame, f.sender, f.destination, f.command] ++ (UInt8.ofNat f.data.length :: f.data)

def region : List UInt8 := f.header ++ bigEndianChecksum (calculateChecksum f.header)

/-- What is behind the preamble when the frame is followed by `rest`. -/
def tail (rest : List UInt8) : List UInt8 := f.region.tail ++ rest

/-- The id of the message class that decodes the frame. -/
def classId : PentairMessageIds :=
  createMessageFromCommand ((PentairMessageIds.enumCast f.command).getD .unknown)

/-- The message that decoding the frame gives. -/
def message : PentairMessage where
  id := f.classId
  sender := f.sender
  destination := f.destination
  rawCommand := f.command
  dataLength := UInt8.ofNat f.data.length
  contents := f.region

/-- The message class of the frame takes its contents. -/
def Accepted : Prop := deserializeContents f.classId f.region = true

instance : Decidable f.Accepted := inferInstanceAs (Decidable (_ = true))

theorem wire_append (rest : List UInt8) : f.wire ++ rest = framePreamble ++ f.tail rest := by
  have hser := f.serialized
  simp only [PentairMessage.serialize, Option.some.injEq] at hser
  rw [← hser]
  rfl

theorem wire_eq : f.wire = framePreamble ++ f.region.tail := by
  have h := f.wire_append []
  simpa only [append_nil, tail] using h

theorem dataLength_toNat : (UInt8.ofNat f.data.length).toNat = f.data.length := by
  have := f.dataFits
  rw [UInt8.toNat_ofNat']
  omega

theorem length_region : f.region.length = f.data.length + 7 := by
  simp [region, header, bigEndianChecksum]

theorem length_wire : f.wire.length = f.data.length + 10 := by
  have := f.length_region
  rw [wire_eq, length_append, length_tail, this]
  simp only [length_cons, length_nil]
  omega

section

variable (rest : List UInt8)

theorem getD_tail : (f.tail rest).getD 3 0 = UInt8.ofNat f.data.length := rfl

theorem regionSize_tail : regionSize (f.tail rest) = f.region.length := by
  rw [regionSize, getD_tail, dataLength_toNat, length_region, Nat.add_comm headerLength]
  rfl

theorem receivedRegion_tail : receivedRegion (f.tail rest) = f.region := by
  have hcons : startOfFrame :: f.tail rest = f.region ++ rest := rfl
  rw [receivedRegion, regionSize_tail, hcons, take_left]

theorem complete_tail : Complete (f.tail rest) := by
  have hlen : (f.tail rest).length + 1 = f.region.length + rest.length := by
    have hcons : startOfFrame :: f.tail rest = f.region ++ rest := rfl
    rw [← length_cons, hcons, length_append]
  have hregion := f.length_region
  have hheader : headerLength = 5 := rfl
  rw [Complete, regionSize_tail, hlen]
  constructor <;> omega

theorem regionChecksumIsValid_tail : regionChecksumIsValid (f.tail rest) := by
  have hlen : f.region.length - checksumLength = f.header.length := by
    simp [region, bigEndianChecksum]
  rw [regionChecksumIsValid, receivedRegion_tail, hlen, region, take_left,
    readBigEndianChecksum_append]

end

/-- The factory turns a frame into its message, or reports that the message class
refused the contents. -/
theorem createFromSerialData_region :
    createFromSerialData f.region =
      if f.Accepted then .ok f.message else .error .failedToDeserialize := by
  have hregion := f.length_region
  have hdata := f.dataFits
  have hlength : f.region.getD 4 0 = UInt8.ofNat f.data.length := rfl
  have hsize : frameSizeIsValid f.region := by
    have hmin : minimumFrameLength = 7 := rfl
    have hmax : maximumFrameLength = 262 := rfl
    have hheader : headerLength = 5 := rfl
    have hchecksum : checksumLength = 2 := rfl
    simp only [frameSizeIsValid, hlength, f.dataLength_toNat, hregion, Bool.and_eq_true,
      decide_eq_true_eq, beq_iff_eq]
    omega
  have hcommand : f.region.getD 3 0 = f.command := rfl
  have hheader : ¬ f.region.length < headerLength := by
    rw [hregion]
    exact not_lt.mpr (Nat.le_add_left_of_le (by decide))
  have hclass : createMessageFromCommand ((PentairMessageIds.enumCast f.command).getD .unknown) =
      f.classId := rfl
  simp only [createFromSerialData, PentairMessage.deserializeFromContiguousData, hsize, hcommand,
    hclass, if_neg hheader]
  by_cases haccepted : f.Accepted
  · rw [if_pos haccepted, show deserializeContents f.classId f.region = true from haccepted]
    rfl
  · rw [if_neg haccepted, show deserializeContents f.classId f.region = false by
      simpa [Accepted] using haccepted]
    rfl

end PentairFrame

/-! ## A frame in the buffer -/

/-- A front part in which no preamble starts, whatever is behind it. -/
def PreambleFree (before : List UInt8) : Prop :=
  ∀ rest, searchIndex framePreamble (before ++ rest) =
    before.length + searchIndex framePreamble rest

theorem preambleFree_nil : PreambleFree [] := fun rest => by simp

theorem PreambleFree.append {xs ys : List UInt8} (hxs : PreambleFree xs) (hys : PreambleFree ys) :
    PreambleFree (xs ++ ys) := by
  intro rest
  rw [append_assoc, hxs, hys, length_append, Nat.add_assoc]

variable {before rest : List UInt8}

theorem preambleFree_of_getLast {z : UInt8} (hlast : before.getLast? = some z)
    (hz : z ∉ framePreamble) (h : ¬ framePreamble <:+: before) : PreambleFree before :=
  fun _ => searchIndex_append_of_getLast hlast hz h

theorem PreambleFree.searchIndex_preamble (h : PreambleFree before) (after : List UInt8) :
    searchIndex framePreamble (before ++ framePreamble ++ after) = before.length := by
  rw [append_assoc, h, searchIndex_self_append (by simp), Nat.add_zero]

theorem PreambleFree.not_isInfix (h : PreambleFree before) (hrest : ¬ framePreamble <:+: rest) :
    ¬ framePreamble <:+: before ++ rest := by
  rw [← searchIndex_eq_length_iff (by simp)] at hrest ⊢
  rw [h, hrest, length_append]

theorem generateMessageFromRawData_frame_of_first (f : PentairFrame)
    (hfirst : searchIndex framePreamble (before ++ framePreamble ++ f.tail rest) = before.length) :
    generateMessageFromRawData (before ++ f.wire ++ rest) =
      (createFromSerialData f.region, before ++ rest) := by
  have hdrop : (f.tail rest).drop (f.region.length - 1) = rest := by
    have hlen : f.region.length - 1 = f.region.tail.length := by simp
    rw [hlen, PentairFrame.tail, drop_left]
  rw [append_assoc, f.wire_append, ← append_assoc, generateMessageFromRawData_of_preamble hfirst,
    if_neg (not_not.mpr (f.complete_tail rest)),
    if_neg (not_not.mpr (f.regionChecksumIsValid_tail rest)), f.receivedRegion_tail,
    f.regionSize_tail, hdrop]

section

variable (f : PentairFrame) (hbefore : PreambleFree before)

include hbefore

/-- **The first frame of a buffer is cut out of it.** -/
theorem generateMessageFromRawData_frame (rest : List UInt8) :
    generateMessageFromRawData (before ++ f.wire ++ rest) =
      (createFromSerialData f.region, before ++ rest) :=
  generateMessageFromRawData_frame_of_first f (hbefore.searchIndex_preamble _)

theorem generateMessageFromRawData_incomplete {k : ℕ} (hfour : 4 ≤ k) (hk : k < f.wire.length) :
    generateMessageFromRawData (before ++ f.wire.take k) =
      (.error .dataAvailableToProcess, before ++ f.wire.take k) := by
  have htake : f.wire.take k = framePreamble ++ f.region.tail.take (k - 4) := by
    rw [f.wire_eq, take_append, take_of_length_le (by simpa using hfour)]
    rfl
  have hlen : (f.region.tail.take (k - 4)).length = k - 4 := by
    have hwire := f.length_wire
    have hregion := f.length_region
    rw [length_take_of_le (by rw [length_tail]; omega)]
  have hincomplete : ¬ Complete (f.region.tail.take (k - 4)) := by
    rintro ⟨hheader, hsize⟩
    rw [hlen] at hheader hsize
    have hfive : headerLength = 5 := rfl
    have hdata : (f.region.tail.take (k - 4)).getD 3 0 = UInt8.ofNat f.data.length := by
      rw [getD_eq_getElem _ _ (by omega), getElem_take]
      rfl
    rw [regionSize, hdata, f.dataLength_toNat] at hsize
    have hwire := f.length_wire
    have htwo : checksumLength = 2 := rfl
    omega
  rw [htake, ← append_assoc,
    generateMessageFromRawData_of_preamble (hbefore.searchIndex_preamble _), if_pos hincomplete]

end

/-- A request to drive the pump at `0x60` remotely. -/
def pumpRemoteFrame : PentairFrame where
  sender := 0x10
  destination := 0x60
  command := 0x04
  data := [0xFF]
  wire := [0xFF, 0x00, 0xFF, 0xA5, 0x10, 0x60, 0x04, 0x01, 0xFF, 0x02, 0x19]
  dataFits := by decide
  serialized := by decide

end AqualinkAutomate.Pentair
