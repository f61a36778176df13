import Mathlib.Data.List.GetD
import Aqualink.General.Search
import Aqualink.Protocol.ErrorCodes

/-!
# Pentair messages

```text
  FF 00 FF A5 | from | dest | command | length | data ... | checksum hi | checksum lo
             checksummed region: A5 .. last data byte
```

The start-of-frame byte `A5` is the last byte of the preamble and the first of
the checksummed region.  The length byte counts the data bytes; nothing is
stuffed, so the frame end is known from the header.
-/

namespace AqualinkAutomate.Pentair

open Protocol

abbrev preambleByteFF : UInt8 := 0xFF
abbrev preambleByte00 : UInt8 := 0x00
abbrev startOfFrame : UInt8 := 0xA5

abbrev framePreamble : List UInt8 :=
  [preambleByteFF, preambleByte00, preambleByteFF, startOfFrame]

abbrev headerLength : ℕ := 5
abbrev checksumLength : ℕ := 2
abbrev minimumFrameLength : ℕ := headerLength + checksumLength
abbrev maximumFrameLength : ℕ := headerLength + 255 + checksumLength

/-! ## The checksum -/

/-- The running 32-bit sum of the bytes, cut to 16 bits. -/
def calculateChecksum (messageBytes : List UInt8) : UInt16 :=
  (messageBytes.foldl (fun (checksum : UInt32) value => checksum + value.toUInt32) 0 &&&
    0xFFFF).toUInt16

/-- The last two bytes, high byte first. -/
def readBigEndianChecksum (messageBytes : List UInt8) : UInt16 :=
  (messageBytes.getD (messageBytes.length - 2) 0).toUInt16 <<< 8 |||
    (messageBytes.getD (messageBytes.length - 1) 0).toUInt16

/-- A checksum as it is sent, high byte first. -/
def bigEndianChecksum (checksum : UInt16) : List UInt8 :=
  [((checksum >>> 8) &&& 0xFF).toUInt8, (checksum &&& 0xFF).toUInt8]

theorem join_bigEndian (checksum : UInt16) :
    ((checksum >>> 8) &&& 0xFF).toUInt8.toUInt16 <<< 8 ||| (checksum &&& 0xFF).toUInt8.toUInt16 =
      checksum := by
  have hlt := checksum.toNat_lt
  have hmask (n : ℕ) : n &&& 255 = n % 256 := Nat.and_two_pow_sub_one_eq_mod n 8
  have hhigh : (((checksum >>> 8) &&& 0xFF).toUInt8.toUInt16 <<< 8).toNat =
      (checksum.toNat / 256) <<< 8 := by
    simp [Nat.shiftLeft_eq, Nat.shiftRight_eq_div_pow, hmask]
    omega
  have hlow : (checksum &&& 0xFF).toUInt8.toUInt16.toNat = checksum.toNat % 256 := by
    simp [hmask]
  apply UInt16.toNat_inj.mp
  rw [UInt16.toNat_or, hhigh, hlow, ← Nat.shiftLeft_add_eq_or_of_lt (Nat.mod_lt _ (by omega)),
    Nat.shiftLeft_eq]
  omega

theorem readBigEndianChecksum_append (front : List UInt8) (checksum : UInt16) :
    readBigEndianChecksum (front ++ bigEndianChecksum checksum) = checksum := by
  have hlen : (front ++ bigEndianChecksum checksum).length = front.length + 2 := by
    simp [bigEndianChecksum]
  simp only [readBigEndianChecksum, hlen]
  have hlow : front.length + 2 - 1 = front.length + 1 := by omega
  rw [Nat.add_sub_cancel, hlow, bigEndianChecksum,
    List.getD_append_right _ _ _ _ le_rfl, List.getD_append_right _ _ _ _ (Nat.le_add_right _ _)]
  simpa using join_bigEndian checksum

/-! ## Message classes -/

/-- The known commands. -/
inductive PentairMessageIds where
  | unknown | controllerStatus | pumpSpeed | pumpRemote | pumpPower | pumpStatus
  | chlorinatorSetOutput | chlorinatorStatus
  deriving DecidableEq

namespace PentairMessageIds

/-- The byte that stands for a command on the wire. -/
def enumInteger : PentairMessageIds → UInt8
  | unknown => 0x00 | controllerStatus => 0x02 | pumpSpeed => 0x01 | pumpRemote => 0x04
  | pumpPower => 0x06 | pumpStatus => 0x07 | chlorinatorSetOutput => 0x11
  | chlorinatorStatus => 0x12

/-- The declared commands. -/
def enumValues : List PentairMessageIds :=
  [unknown, controllerStatus, pumpSpeed, pumpRemote, pumpPower, pumpStatus, chlorinatorSetOutput,
    chlorinatorStatus]

def enumCast (value : UInt8) : Option PentairMessageIds :=
  enumValues.find? fun id => id.enumInteger == value

end PentairMessageIds

/-- `CreateMessageFromCommand`: the id of the message class for a command.  The
remote-control command has no class of its own. -/
def createMessageFromCommand : PentairMessageIds → PentairMessageIds
  | .pumpRemote => .unknown
  | id => id

/-- The check that a message class makes on the checksummed region.  The status
classes read a missing data byte as zero and accept every length. -/
def deserializeContents (messageClass : PentairMessageIds) (messageBytes : List UInt8) : Bool :=
  let dataLength := (messageBytes.getD 4 0).toNat
  match messageClass with
  | .pumpPower => 0 < dataLength
  | .pumpSpeed => 1 < dataLength
  | .chlorinatorSetOutput => 0 < dataLength
  | .unknown | .controllerStatus | .pumpRemote | .pumpStatus | .chlorinatorStatus => true

/-- The base part of a message.  `contents` is the checksummed region that the
message class was given to fill in its own fields; `sender` is the FROM byte. -/
structure PentairMessage where
  id : PentairMessageIds
  sender : UInt8 := 0
  destination : UInt8 := 0
  rawCommand : UInt8 := 0
  dataLength : UInt8 := 0
  contents : List UInt8 := []
  deriving DecidableEq

def frameSizeIsValid (messageBytes : List UInt8) : Bool :=
  minimumFrameLength ≤ messageBytes.length && messageBytes.length ≤ maximumFrameLength &&
    headerLength + (messageBytes.getD 4 0).toNat + checksumLength == messageBytes.length

namespace PentairMessage

/-- `Serialize`.  `contents` is what `SerializeContents` appended, the length byte
and the data, or `none` when it refused. -/
def serialize (sender destination command : UInt8) (contents : Option (List UInt8)) :
    Option (List UInt8) :=
  match contents with
  | none => none
  | some contents =>
    let checksumRegion := [startOfFrame, sender, destination, command] ++ contents
    some ([preambleByteFF, preambleByte00, preambleByteFF] ++ checksumRegion ++
      bigEndianChecksum (calculateChecksum checksumRegion))

/-- `DeserializeFromContiguousData` as the generator calls it: the checksum has
been verified before. -/
def deserializeFromContiguousData (message : PentairMessage) (contiguousData : List UInt8) :
    Bool × PentairMessage :=
  if frameSizeIsValid contiguousData = false then (false, message)
  else
    (deserializeContents message.id contiguousData, { message with
        sender := contiguousData.getD 1 0
        destination := contiguousData.getD 2 0
        rawCommand := contiguousData.getD 3 0
        dataLength := contiguousData.getD 4 0
        contents := contiguousData })

end PentairMessage

/-- `CreateFromSerialData`.  Every command has a class, so one is always created. -/
def createFromSerialData (messageBytes : List UInt8) : Except ErrorCode PentairMessage :=
  if messageBytes.length < headerLength then .error .invalidPacketFormat
  else
    let commandId := (PentairMessageIds.enumCast (messageBytes.getD 3 0)).getD .unknown
    match PentairMessage.deserializeFromContiguousData { id := createMessageFromCommand commandId }
      messageBytes with
    | (true, message) => .ok message
    | (false, _) => .error .failedToDeserialize

theorem createFromSerialData_error {messageBytes : List UInt8} {e : ErrorCode}
    (h : createFromSerialData messageBytes = .error e) :
    e = .invalidPacketFormat ∨ e = .failedToDeserialize := by
  unfold createFromSerialData at h
  split at h
  · exact .inl (by simpa using h.symm)
  · dsimp only at h
    split at h
    · cases h
    · exact .inr (by simpa using h.symm)

end AqualinkAutomate.Pentair
