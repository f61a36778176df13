import Aqualink.Jandy.Wire
import Aqualink.Protocol.ErrorCodes

/-!
# Jandy messages

The message types, and the messages on the wire.
-/

/-!
## Jandy message types

The message ids with their wire bytes, and for each id the check that its
message class makes on a framed packet (its `DeserializeContents`).  The decode
loop only reads the verdict of that check, so the fields that the classes fill
in are not part of the model.

A check looks at the *de-stuffed* packet: four header bytes, the payload, and
three footer bytes.
-/

namespace AqualinkAutomate.Jandy

inductive JandyMessageIds where
  | probe | ack | status | message | messageLong | displayUpdate
  | heaterRequest | heaterStatus
  | rssaDevStatus | rssaDevReady
  | aquaritePercent | aquariteGetId | aquariteSetPercent | aquaritePPM
  | pdaHighlight | pdaClear | pdaShiftLines | pdaHighlightChars
  | epumpStatus | epumpRPM | epumpWatts
  | lightStatus
  | chemlinkResponse
  | iaqPageStart | iaqPageButton | iaqPageMessage | iaqTableMessage | iaqPageSubMessage
  | iaqPageEnd | iaqStartUp | iaqMessageLong | iaqTitleMessage | iaqPoll | iaqControlReady
  | iaqPageContinue | iaqMainStatus | iaqOneTouchStatus | iaqAuxStatus | iaqHeartbeat
  | iaqCommandReady | iaqDeviceId
  | unknownPDA1B | unknownReadyControl | unknown
  deriving DecidableEq

namespace JandyMessageIds

/-- The byte that stands for an id on the wire. -/
def enumInteger : JandyMessageIds → UInt8
  | probe => 0x00 | ack => 0x01 | status => 0x02 | message => 0x03 | messageLong => 0x04
  | displayUpdate => 0x05
  | heaterRequest => 0x0C | heaterStatus => 0x0D
  | rssaDevStatus => 0x13 | rssaDevReady => 0x07
  | aquaritePercent => 0x11 | aquariteGetId => 0x14 | aquariteSetPercent => 0x15
  | aquaritePPM => 0x16
  | pdaHighlight => 0x08 | pdaClear => 0x09 | pdaShiftLines => 0x0F | pdaHighlightChars => 0x10
  | epumpStatus => 0x1F | epumpRPM => 0x44 | epumpWatts => 0x45
  | lightStatus => 0x19
  | chemlinkResponse => 0x21
  | iaqPageStart => 0x23 | iaqPageButton => 0x24 | iaqPageMessage => 0x25
  | iaqTableMessage => 0x26 | iaqPageSubMessage => 0x27 | iaqPageEnd => 0x28
  | iaqStartUp => 0x29 | iaqMessageLong => 0x2C | iaqTitleMessage => 0x2D | iaqPoll => 0x30
  | iaqControlReady => 0x31 | iaqPageContinue => 0x40 | iaqMainStatus => 0x70
  | iaqOneTouchStatus => 0x71 | iaqAuxStatus => 0x72 | iaqHeartbeat => 0x53
  | iaqCommandReady => 0x73 | iaqDeviceId => 0x51
  | unknownPDA1B => 0x1B | unknownReadyControl => 0x80 | unknown => 0xFF

def enumValues : List JandyMessageIds :=
  [probe, ack, status, message, messageLong, displayUpdate, heaterRequest, heaterStatus,
    rssaDevStatus, rssaDevReady, aquaritePercent, aquariteGetId, aquariteSetPercent, aquaritePPM,
    pdaHighlight, pdaClear, pdaShiftLines, pdaHighlightChars, epumpStatus, epumpRPM, epumpWatts,
    lightStatus, chemlinkResponse, iaqPageStart, iaqPageButton, iaqPageMessage, iaqTableMessage,
    iaqPageSubMessage, iaqPageEnd, iaqStartUp, iaqMessageLong, iaqTitleMessage, iaqPoll,
    iaqControlReady, iaqPageContinue, iaqMainStatus, iaqOneTouchStatus, iaqAuxStatus,
    iaqHeartbeat, iaqCommandReady, iaqDeviceId, unknownPDA1B, unknownReadyControl, unknown]

/-- The id that a byte stands for, if there is one. -/
def enumCast (value : UInt8) : Option JandyMessageIds :=
  enumValues.find? fun id => id.enumInteger == value

theorem enumCast_enumInteger (id : JandyMessageIds) : enumCast id.enumInteger = some id := by
  cases id <;> rfl

end JandyMessageIds

/-! ### What the message classes accept -/

def requireIndex (packet : List UInt8) (index : ℕ) : Bool :=
  index < packet.length

/-- The bytes between the header and the footer. -/
def rawPayload (packet : List UInt8) : List UInt8 :=
  (packet.take (packet.length - packetFooterLength)).drop packetHeaderLength

/-- The device records of an auxiliary status: two status bytes, two of padding,
a name length and the name. -/
def auxDevicesFit (payload : List UInt8) : ℕ → ℕ → Bool
  | 0, _ => true
  | numDevices + 1, pos =>
    if payload.length < pos + 5 then false
    else
      let nameLen := (payload.getD (pos + 4) 0).toNat
      if payload.length < pos + 5 + nameLen then false
      else auxDevicesFit payload numDevices (pos + 5 + nameLen)

/-- `IAQMessage_AuxStatus`: a device count, that many indices, that many records. -/
def auxStatusContents (packet : List UInt8) : Bool :=
  if packet.length ≤ packetHeaderLength + packetFooterLength then false
  else
    let payload := rawPayload packet
    let numDevices := (payload.getD 0 0).toNat
    if payload.length < 1 + numDevices then false
    else auxDevicesFit payload numDevices (1 + numDevices)

/-- `IAQMessage_MainStatus`: a device count, that many ids, an optional sentinel
pair, and the status fields of the older or of the current format. -/
def mainStatusContents (packet : List UInt8) : Bool :=
  if packet.length ≤ packetHeaderLength + packetFooterLength then false
  else
    let payload := rawPayload packet
    let deviceCount := (payload.getD 0 0).toNat
    if payload.length < 1 + deviceCount then false
    else
      let pos := 1 + deviceCount
      let hasSentinel := pos + 1 < payload.length &&
        payload.getD pos 0 == 0x0e && payload.getD (pos + 1) 0 == 0x0f
      if hasSentinel then pos + 2 + 4 + 6 ≤ payload.length
      else pos + 5 + 8 ≤ payload.length

/-- The verdict of the message class that is registered for an id. -/
def deserializeContents : JandyMessageIds → List UInt8 → Bool
  | .ack, p => requireIndex p 4 && requireIndex p 5
  | .status, p => minimumPacketLength + 5 ≤ p.length
  | .message, p => 4 + packetFooterLength < p.length
  | .messageLong, p => requireIndex p 4 && 5 + packetFooterLength < p.length
  | .heaterRequest, p =>
    requireIndex p 4 && requireIndex p 5 && requireIndex p 6 && requireIndex p 7
  | .heaterStatus, p => requireIndex p 4 && requireIndex p 6
  | .rssaDevStatus, p => requireIndex p 7
  | .aquaritePercent, p => requireIndex p 4
  | .aquariteGetId, p => requireIndex p 4
  | .aquariteSetPercent, p => requireIndex p 4
  | .aquaritePPM, p => requireIndex p 4 && requireIndex p 5
  | .pdaHighlight, p => requireIndex p 4
  | .pdaShiftLines, p => requireIndex p 4 && requireIndex p 5 && requireIndex p 6
  | .pdaHighlightChars, p => requireIndex p 4 && requireIndex p 5 && requireIndex p 6
  | .epumpStatus, p => requireIndex p 4
  | .epumpRPM, p => requireIndex p 7
  | .epumpWatts, p => requireIndex p 8
  | .lightStatus, p => requireIndex p 4
  | .chemlinkResponse, p => requireIndex p 4
  | .iaqPageButton, p =>
    requireIndex p 5 && requireIndex p 7 && 8 + packetFooterLength ≤ p.length
  | .iaqPageMessage, p => requireIndex p 4 && 5 + packetFooterLength < p.length
  | .iaqTableMessage, p => requireIndex p 4 && 6 + packetFooterLength < p.length
  | .iaqTitleMessage, p => 4 + packetFooterLength < p.length
  | .iaqMainStatus, p => mainStatusContents p
  | .iaqAuxStatus, p => auxStatusContents p
  | .iaqDeviceId, p => 4 + packetFooterLength < p.length
  -- The remaining classes take any framed packet; among them are the catch-all
  -- `JandyMessage_Unknown` and the classes that tolerate a short frame.
  | .probe, _ | .displayUpdate, _ | .rssaDevReady, _ | .pdaClear, _ | .iaqPageStart, _
  | .iaqPageSubMessage, _ | .iaqPageEnd, _ | .iaqStartUp, _ | .iaqMessageLong, _ | .iaqPoll, _
  | .iaqControlReady, _ | .iaqPageContinue, _ | .iaqOneTouchStatus, _ | .iaqHeartbeat, _
  | .iaqCommandReady, _ | .unknownPDA1B, _ | .unknownReadyControl, _ | .unknown, _ => true

/-!
## Messages

Serialisation and deserialisation of one framed packet, and the factory that
turns the wire bytes of a packet into a message.

```text
  DLE STX | destination | type | contents ... | checksum | DLE ETX
```

Everything between the first two and the last two bytes is stuffed on the wire.
-/

open General Protocol

/-- The base part of a message.  `contents` is the packet that the message class
was given to fill in its own fields. -/
structure JandyMessage where
  id : JandyMessageIds
  destination : UInt8 := 0
  rawId : UInt8 := 0
  messageLength : UInt8 := 0
  checksumValue : UInt8 := 0
  contents : List UInt8 := []
  deriving DecidableEq

def packetFramingIsValid (messageBytes : List UInt8) : Bool :=
  if messageBytes.length < minimumPacketLength then false
  else
    messageBytes.getD 0 0 == headerByteDLE &&
    messageBytes.getD 1 0 == headerByteSTX &&
    messageBytes.getD (messageBytes.length - 2) 0 == headerByteDLE &&
    messageBytes.getD (messageBytes.length - 1) 0 == headerByteETX

def packetChecksumIsValid (messageBytes : List UInt8) : Bool :=
  if messageBytes.length < minimumPacketLength then false
  else
    calculateChecksum (messageBytes.take (messageBytes.length - packetFooterLength)) ==
      messageBytes.getD (messageBytes.length - packetFooterLength) 0

namespace JandyMessage

/-- `Serialize`.  `contents` is what `SerializeContents` appended, or `none` when
it refused. -/
def serialize (destination messageType : UInt8) (contents : Option (List UInt8)) :
    Option (List UInt8) :=
  match contents with
  | none => none
  | some contents =>
    let messageBytes := [headerByteDLE, headerByteSTX, destination, messageType] ++ contents
    let checksum := calculateChecksum messageBytes
    some (nullCharHandlerSerialization (messageBytes ++ [checksum, headerByteDLE, headerByteETX]))

/-- `DeserializeFromContiguousData`: the verdict, and the message with the fields
that were set on the way.  `messageType` is the id whose class the message has. -/
def deserializeFromContiguousData (messageType : JandyMessageIds) (message : JandyMessage)
    (contiguousData : List UInt8) : Bool × JandyMessage :=
  if maximumPacketLength < contiguousData.length then (false, message)
  else
    let packetData := unescapedPacket contiguousData
    if packetFramingIsValid packetData = false then (false, message)
    else if packetChecksumIsValid packetData = false then (false, message)
    else
      let rawId := packetData.getD 3 0
      let messageLength := UInt8.ofNat packetData.length
      let message : JandyMessage :=
        { id := (JandyMessageIds.enumCast rawId).getD message.id
          destination := packetData.getD 2 0
          rawId := rawId
          messageLength := messageLength
          checksumValue := packetData.getD (messageLength.toNat - packetFooterLength) 0
          contents := packetData }
      (deserializeContents messageType packetData, message)

end JandyMessage

/-- Where the factory finds the type byte: one further when the destination byte
is a stuffed `0x10`. -/
def typeOffset (messageBytes : List UInt8) : ℕ :=
  if messageBytes.getD 2 0 = headerByteDLE ∧ messageBytes.getD 3 0 = 0x00 then 4 else 3

/-- The id that selects the message class. -/
def messageTypeOf (messageBytes : List UInt8) : JandyMessageIds :=
  (JandyMessageIds.enumCast (messageBytes.getD (typeOffset messageBytes) 0)).getD .unknown

/-- The id that a freshly created message of the class for an id carries.  Three
ids share the catch-all class. -/
def defaultId : JandyMessageIds → JandyMessageIds
  | .unknownPDA1B | .unknownReadyControl | .iaqPageSubMessage => .unknown
  | id => id

/-- `CreateFromSerialData`.  Every id has a registered class, so the look-up of
the creator always succeeds. -/
def createFromSerialData (messageBytes : List UInt8) : Except ErrorCode JandyMessage :=
  if messageBytes.length < minimumPacketLength then .error .invalidPacketFormat
  else
    let messageType := messageTypeOf messageBytes
    match JandyMessage.deserializeFromContiguousData messageType
      { id := defaultId messageType } messageBytes with
    | (true, message) => .ok message
    | (false, _) => .error .failedToDeserialize

end AqualinkAutomate.Jandy
