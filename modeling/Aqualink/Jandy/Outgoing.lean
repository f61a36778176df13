import Aqualink.Jandy.Frame

/-!
# Outgoing Jandy messages

Every message class says what its payload is (`serializeContents`), and the base class puts the
header in front of it and the checksum and the end sequence behind it (`serialize`).

The two serial adapter classes do not keep to that.  They write a whole frame of their own over
the header, and the base class frames it again, so that the inner checksum and the inner end
sequence are sent as payload (`not_framedOnce_of_selfFramed`).  Every other message is read back
as one frame with its own payload exactly if it is short enough on the wire and its class takes
back what it wrote (`framedOnce_iff`).
-/

namespace AqualinkAutomate.Jandy

open General Protocol List

/-! ## The message classes -/

/-- The ids of the classes that refuse to be sent. -/
def receiveOnlyIds : List JandyMessageIds :=
  [.displayUpdate, .pdaClear, .pdaShiftLines, .pdaHighlightChars, .epumpRPM, .epumpWatts,
    .chemlinkResponse, .iaqPageStart, .iaqPageButton, .iaqPageMessage, .iaqTableMessage,
    .iaqPageEnd, .iaqStartUp, .iaqMessageLong, .iaqTitleMessage, .iaqPoll, .iaqControlReady,
    .iaqPageContinue, .iaqMainStatus, .iaqOneTouchStatus, .iaqAuxStatus, .iaqHeartbeat,
    .iaqCommandReady, .iaqDeviceId]

/-- What a status query is about.  Each of the enumerators is given by its byte. -/
inductive StatusType where
  | unset
  | configControlCommand (command : UInt8)
  | systemConfigurationStatus (status : UInt8)
  | systemPumpCommand (command : UInt8)
  | systemTemperatureCommand (command : UInt8)
  | auxillary (auxillaryId : UInt8)
  | unknownCommand (command : UInt8)
  deriving DecidableEq

namespace StatusType

abbrev serialAdapterAuxIdOffset : UInt8 := 0x14

def commandType : StatusType → UInt8
  | configControlCommand _ | systemConfigurationStatus _ | systemPumpCommand _
  | systemTemperatureCommand _ => 0x05
  | unset | auxillary _ | unknownCommand _ => 0x00

def deviceId : StatusType → UInt8
  | unset => 0x00
  | configControlCommand byte | systemConfigurationStatus byte | systemPumpCommand byte
  | systemTemperatureCommand byte | unknownCommand byte => byte
  | auxillary auxillaryId => auxillaryId + serialAdapterAuxIdOffset

end StatusType

/-- The fields of the message classes that `SerializeContents` looks at, an enumerator being
given by its byte and a text by its bytes. -/
inductive OutgoingContents where
  | probe
  | ack (ackType command : UInt8)
  | status
  | message (line : List UInt8)
  | messageLong (lineId : UInt8) (line : List UInt8)
  | unknown (id : { id : JandyMessageIds // defaultId id = .unknown }) (payload : List UInt8)
  | heaterRequest (operatingMode poolSetpoint spaSetpoint waterTemperature : UInt8)
  | heaterStatus (heaterState errorCode : UInt8)
  | devStatus (statusType : StatusType)
  | devReady
  | aquaritePercent (percent : UInt8)
  | aquariteGetId (requestedPanelData : UInt8)
  | aquariteSetPercent (percent : UInt8)
  | aquaritePPM (ppm : UInt16) (saltStatus : UInt8)
  | pdaHighlight (lineId : UInt8)
  | epumpStatus (subCommand : UInt8)
  | lightStatus (state lightMode : UInt8)
  | controlDataResponse (asciiData : List UInt8)
  | receiveOnly (id : { id : JandyMessageIds // id ∈ receiveOnlyIds })
  deriving DecidableEq

abbrev dataPayloadSize : ℕ := 17

namespace OutgoingContents

/-- The id that the message carries. -/
def id : OutgoingContents → JandyMessageIds
  | probe => .probe
  | ack .. => .ack
  | status => .status
  | message .. => .message
  | messageLong .. => .messageLong
  | unknown id _ => id.val
  | heaterRequest .. => .heaterRequest
  | heaterStatus .. => .heaterStatus
  | devStatus .. => .rssaDevStatus
  | devReady => .rssaDevReady
  | aquaritePercent .. => .aquaritePercent
  | aquariteGetId .. => .aquariteGetId
  | aquariteSetPercent .. => .aquariteSetPercent
  | aquaritePPM .. => .aquaritePPM
  | pdaHighlight .. => .pdaHighlight
  | epumpStatus .. => .epumpStatus
  | lightStatus .. => .lightStatus
  | controlDataResponse .. => .iaqPageButton
  | receiveOnly id => id.val

/-- What the fields say, without any framing. -/
def payload : OutgoingContents → List UInt8
  | probe => []
  | ack ackType command => [ackType, command]
  | status => [0x00, 0x00, 0x00, 0x00, 0x00]
  | message line => line
  | messageLong lineId line => lineId :: line
  | unknown _ payload => payload
  | heaterRequest operatingMode poolSetpoint spaSetpoint waterTemperature =>
    [operatingMode, poolSetpoint, spaSetpoint, waterTemperature]
  | heaterStatus heaterState errorCode => [heaterState, 0x00, errorCode]
  | devStatus statusType => [statusType.commandType, statusType.deviceId, 0x00, 0x00]
  | devReady => [0x00]
  | aquaritePercent percent => [percent]
  | aquariteGetId requestedPanelData => [requestedPanelData]
  | aquariteSetPercent percent => [percent]
  | aquaritePPM ppm saltStatus => [(ppm / 100).toUInt8, saltStatus]
  | pdaHighlight lineId => [lineId, 0x00, 0x00]
  | epumpStatus subCommand => [subCommand]
  | lightStatus state lightMode => [state, lightMode]
  | controlDataResponse asciiData =>
    (range dataPayloadSize).map fun i => asciiData.getD i 0x00
  | receiveOnly _ => []

/-- A frame of its own, which the two serial adapter classes write over what is there. -/
def ownFrame (id : JandyMessageIds) (payload : List UInt8) : List UInt8 :=
  let front := [headerByteDLE, headerByteSTX, 0x00, id.enumInteger] ++ payload
  front ++ [calculateChecksum front, headerByteDLE, headerByteETX]

/-- `SerializeContents`, on the bytes that are there already. -/
def serializeContents (messageBytes : List UInt8) (contents : OutgoingContents) :
    Option (List UInt8) :=
  match contents with
  | receiveOnly _ => none
  -- what is there already is written over
  | devStatus _ | devReady => some (ownFrame contents.id contents.payload)
  | _ => some (messageBytes ++ contents.payload)

/-- The classes that frame themselves. -/
def SelfFramed : OutgoingContents → Prop
  | devStatus _ | devReady => True
  | _ => False

instance (contents : OutgoingContents) : Decidable contents.SelfFramed := by
  cases contents <;> simp only [SelfFramed] <;> infer_instance

/-- A class takes back what it wrote: only the texts may not be empty. -/
def ReadBack : OutgoingContents → Prop
  | message line | messageLong _ line => line ≠ []
  | _ => True

instance (contents : OutgoingContents) : Decidable contents.ReadBack := by
  cases contents <;> simp only [ReadBack] <;> infer_instance

end OutgoingContents

/-- A message as it is handed to the serial port. -/
structure OutgoingMessage where
  destination : UInt8
  contents : OutgoingContents
  deriving DecidableEq

namespace OutgoingMessage

variable (m : OutgoingMessage)

def serialize : Option (List UInt8) :=
  match m.contents.serializeContents
      [headerByteDLE, headerByteSTX, m.destination, m.contents.id.enumInteger] with
  | none => none
  | some messageBytes => some (nullCharHandlerSerialization
      (messageBytes ++ [calculateChecksum messageBytes, headerByteDLE, headerByteETX]))

/-- The message is read back as one frame with its own payload. -/
def FramedOnce : Prop :=
  ∀ wire, m.serialize = some wire → ∃ message : JandyMessage,
    generateMessageFromRawData wire = (.ok message, []) ∧
      message.destination = m.destination ∧ message.rawId = m.contents.id.enumInteger ∧
      rawPayload message.contents = m.contents.payload

def checksum : UInt8 :=
  calculateChecksum ([headerByteDLE, headerByteSTX, m.destination, m.contents.id.enumInteger] ++
    m.contents.payload)

/-- Header, payload and footer, and a zero for each byte that has to be stuffed. -/
def stuffedLength : ℕ :=
  m.contents.payload.length + minimumPacketLength +
    (m.destination :: m.contents.id.enumInteger :: m.contents.payload ++ [m.checksum]).count
      headerByteDLE

/-! ## The bytes of a message -/

/-- The base class puts the frame around what the class appended. -/
theorem serialize_of_not_selfFramed (hself : ¬ m.contents.SelfFramed)
    (hsent : ∀ id, m.contents ≠ .receiveOnly id) :
    m.serialize = JandyMessage.serialize m.destination m.contents.id.enumInteger
      (some m.contents.payload) := by
  cases hcontents : m.contents with
  | receiveOnly id => exact absurd hcontents (hsent id)
  | devStatus _ | devReady => exact absurd (by rw [hcontents]; trivial) hself
  | _ =>
    simp only [serialize, hcontents, OutgoingContents.serializeContents]
    rfl

theorem serialize_of_selfFramed (hself : m.contents.SelfFramed) :
    ∃ checksum, m.serialize = JandyMessage.serialize 0x00 m.contents.id.enumInteger
      (some (m.contents.payload ++ [checksum, headerByteDLE, headerByteETX])) := by
  have hframe : m.contents.serializeContents [headerByteDLE, headerByteSTX, m.destination,
      m.contents.id.enumInteger] =
        some (OutgoingContents.ownFrame m.contents.id m.contents.payload) := by
    cases hcontents : m.contents with
    | devStatus _ | devReady => rfl
    | _ => exact absurd hself (by simp [hcontents, OutgoingContents.SelfFramed])
  refine ⟨calculateChecksum ([headerByteDLE, headerByteSTX, 0x00, m.contents.id.enumInteger] ++
    m.contents.payload), ?_⟩
  rw [serialize, hframe]
  simp only [JandyMessage.serialize, OutgoingContents.ownFrame, append_assoc]

end OutgoingMessage

theorem length_insertNullAfterDLE (bytes : List UInt8) :
    (insertNullAfterDLE bytes).length = bytes.length + bytes.count headerByteDLE := by
  induction bytes with
  | nil => rfl
  | cons b bs ih =>
    rw [insertNullAfterDLE_cons, length_append, ih, length_cons, count_cons]
    by_cases h : b = headerByteDLE
    · simp [h]
      omega
    · simp [h]
      omega

variable {destination messageType : UInt8} {payload wire : List UInt8}

theorem generateMessageFromRawData_long
    (hserialize : JandyMessage.serialize destination messageType (some payload) = some wire)
    (hlong : maximumPacketLength < wire.length) :
    generateMessageFromRawData wire = (.error .waitingForMoreData, []) := by
  rw [serialize_eq, Option.some_inj] at hserialize
  subst hserialize
  generalize hbody : destination :: messageType :: payload ++ [_] = body at hlong ⊢
  have hend : endIndex (insertNullAfterDLE body ++ packetEndSequence) =
      (insertNullAfterDLE body).length := by
    have hpair := searchIndex_pair headerByteDLE_ne_ETX
      (avoids_insertNullAfterDLE (by decide : headerByteETX ≠ 0x00) body) []
    rwa [append_nil] at hpair
  have hlength : (packetStartSequence ++ insertNullAfterDLE body ++ packetEndSequence).length =
      (insertNullAfterDLE body).length + 4 := by simp
  rw [hlength] at hlong
  have hoverlong : Overlong [] (insertNullAfterDLE body ++ packetEndSequence) := by
    refine ⟨?_, by rwa [hend]⟩
    simp only [length_append, length_cons, length_nil]
    omega
  have hrest : (insertNullAfterDLE body ++ packetEndSequence).drop
      ((insertNullAfterDLE body).length + 2) = [] :=
    drop_of_length_le (by simp)
  have hcall := @generateMessageFromRawData_of_start []
    (insertNullAfterDLE body ++ packetEndSequence) (avoids_nil _ _)
  rw [if_pos hoverlong, hend, hrest] at hcall
  rwa [append_assoc]

namespace OutgoingMessage

variable (m : OutgoingMessage)

theorem length_serialize
    (hserialize :
      JandyMessage.serialize m.destination m.contents.id.enumInteger (some m.contents.payload) =
      some wire) :
    wire.length = m.stuffedLength := by
  rw [serialize_eq, Option.some_inj] at hserialize
  subst hserialize
  have hmin : minimumPacketLength = 7 := rfl
  have hchecksum : calculateChecksum ([headerByteDLE, headerByteSTX, m.destination,
      m.contents.id.enumInteger] ++ m.contents.payload) = m.checksum := rfl
  rw [hchecksum, length_append, length_append, length_insertNullAfterDLE, stuffedLength, hmin]
  simp only [length_append, length_cons, length_nil]
  omega

theorem deserializeContents_packet (f : JandyFrame) (hpayload : f.payload = m.contents.payload)
    (hsent : ∀ id, m.contents ≠ .receiveOnly id) :
    deserializeContents m.contents.id f.packet ↔ m.contents.ReadBack := by
  have hlength : f.packet.length = m.contents.payload.length + 7 := by
    rw [f.packet_eq, JandyFrame.header, hpayload]
    simp
  have hfooter : packetFooterLength = 3 := rfl
  cases hcontents : m.contents with
  | receiveOnly id => exact absurd hcontents (hsent id)
  | unknown id payload =>
    obtain ⟨id, hid⟩ := id
    have haccepts : deserializeContents id f.packet := by
      cases id <;> first | rfl | cases hid
    exact iff_of_true haccepts trivial
  | message line =>
    rw [hcontents] at hlength
    simp only [OutgoingContents.payload] at hlength
    simp only [OutgoingContents.id, OutgoingContents.ReadBack, deserializeContents, hlength,
      decide_eq_true_eq, ← length_pos_iff, hfooter]
    omega
  | messageLong lineId line =>
    rw [hcontents] at hlength
    simp only [OutgoingContents.payload, length_cons] at hlength
    simp only [OutgoingContents.id, OutgoingContents.ReadBack, deserializeContents, requireIndex,
      hlength, Bool.and_eq_true, decide_eq_true_eq, ← length_pos_iff, hfooter]
    omega
  | status | controlDataResponse asciiData =>
    rw [hcontents] at hlength
    simp only [OutgoingContents.payload, length_map, length_range, length_cons,
      length_nil] at hlength
    simp only [OutgoingContents.id, OutgoingContents.ReadBack, deserializeContents, requireIndex,
      hlength]
    decide
  | _ =>
    rw [hcontents] at hlength
    simp [OutgoingContents.id, OutgoingContents.ReadBack, deserializeContents, requireIndex,
      hlength, OutgoingContents.payload]

end OutgoingMessage

/-! ## Reading a message back -/

theorem generateMessageFromRawData_serialize {message : JandyMessage}
    (hserialize : JandyMessage.serialize destination messageType (some payload) = some wire) :
    generateMessageFromRawData wire = (.ok message, []) ↔
      ∃ f : JandyFrame, f.destination = destination ∧ f.messageType = messageType ∧
        f.payload = payload ∧ f.wire = wire ∧ f.Accepted ∧ f.message = message := by
  have hframe (f : JandyFrame) : generateMessageFromRawData f.wire =
      (if f.Accepted then .ok f.message else .error .failedToDeserialize, []) := by
    have hgenerate := generateMessageFromRawData_frame f (avoids_nil _ _) []
    rwa [nil_append, append_nil, f.createFromSerialData_wire] at hgenerate
  constructor
  · intro hdecoded
    have hfits : wire.length ≤ maximumPacketLength := by
      by_contra hlong
      rw [generateMessageFromRawData_long hserialize (not_le.mp hlong)] at hdecoded
      cases hdecoded
    let f : JandyFrame := ⟨destination, messageType, payload, wire, hserialize, hfits⟩
    refine ⟨f, rfl, rfl, rfl, rfl, ?_⟩
    have hresult := (hframe f).symm.trans hdecoded
    by_cases haccepted : f.Accepted
    · rw [if_pos haccepted] at hresult
      exact ⟨haccepted, by simpa using hresult⟩
    · rw [if_neg haccepted] at hresult
      cases hresult
  · rintro ⟨f, -, -, -, rfl, haccepted, rfl⟩
    rw [hframe, if_pos haccepted]

namespace OutgoingMessage

variable (m : OutgoingMessage)

theorem accepted_iff (f : JandyFrame) (htype : f.messageType = m.contents.id.enumInteger)
    (hpayload : f.payload = m.contents.payload) (hsent : ∀ id, m.contents ≠ .receiveOnly id) :
    f.Accepted ↔ m.contents.ReadBack := by
  have hclass : f.classId = m.contents.id := by
    rw [JandyFrame.classId, htype, JandyMessageIds.enumCast_enumInteger]
    rfl
  rw [JandyFrame.Accepted, hclass]
  exact m.deserializeContents_packet f hpayload hsent

/-- A message that its class has left to the base class to frame. -/
theorem framedOnce_iff_of_not_selfFramed (hself : ¬ m.contents.SelfFramed)
    (hsent : ∀ id, m.contents ≠ .receiveOnly id) :
    m.FramedOnce ↔ m.contents.ReadBack ∧ m.stuffedLength ≤ maximumPacketLength := by
  have hserialize := m.serialize_of_not_selfFramed hself hsent
  rw [serialize_eq] at hserialize
  constructor
  · intro hframed
    obtain ⟨message, hdecoded, -⟩ := hframed _ hserialize
    obtain ⟨f, hdestination, htype, hpayload, hwire, haccepted, -⟩ :=
      (generateMessageFromRawData_serialize (serialize_eq _ _ _)).mp hdecoded
    refine ⟨(m.accepted_iff f htype hpayload hsent).mp haccepted, ?_⟩
    rw [← m.length_serialize (serialize_eq _ _ _), ← hwire]
    exact f.fits
  · rintro ⟨hreadBack, hfits⟩ wire hwire
    have hwire' := (m.serialize_of_not_selfFramed hself hsent).symm.trans hwire
    rw [← m.length_serialize hwire'] at hfits
    let f : JandyFrame := ⟨_, _, _, wire, hwire', hfits⟩
    have haccepted : f.Accepted := (m.accepted_iff f rfl rfl hsent).mpr hreadBack
    exact ⟨f.message, (generateMessageFromRawData_serialize hwire').mpr
      ⟨f, rfl, rfl, rfl, rfl, haccepted, rfl⟩, rfl, rfl, f.rawPayload_packet⟩

theorem not_framedOnce_of_selfFramed (hself : m.contents.SelfFramed) : ¬ m.FramedOnce := by
  intro hframed
  obtain ⟨checksum, hserialize⟩ := m.serialize_of_selfFramed hself
  rw [serialize_eq] at hserialize
  obtain ⟨message, hdecoded, -, -, hcontents⟩ := hframed _ hserialize
  obtain ⟨f, -, -, hpayload, -, -, rfl⟩ :=
    (generateMessageFromRawData_serialize (serialize_eq _ _ _)).mp hdecoded
  have hraw : rawPayload f.message.contents = f.payload := f.rawPayload_packet
  -- the inner checksum and end sequence are there as well
  rw [hraw, hpayload] at hcontents
  simp at hcontents

/-- **One well-formed frame.**  A class that does not refuse to be sent puts a message on the
wire, and the message is read back as one frame with its own payload exactly if the class does
not frame itself, takes back what it wrote, and the message fits into a packet. -/
theorem framedOnce_iff :
    (m.serialize = none ↔ ∃ id, m.contents = .receiveOnly id) ∧
      (m.FramedOnce ↔ (∃ id, m.contents = .receiveOnly id) ∨
        ¬ m.contents.SelfFramed ∧ m.contents.ReadBack ∧ m.stuffedLength ≤ maximumPacketLength) := by
  by_cases hsent : ∃ id, m.contents = .receiveOnly id
  · have hnone : m.serialize = none := by
      obtain ⟨id, hid⟩ := hsent
      simp only [serialize, hid, OutgoingContents.serializeContents]
    refine ⟨iff_of_true hnone hsent, iff_of_true (fun wire hwire => ?_) (.inl hsent)⟩
    rw [hnone] at hwire
    cases hwire
  · by_cases hself : m.contents.SelfFramed
    · obtain ⟨checksum, hserialize⟩ := m.serialize_of_selfFramed hself
      refine ⟨iff_of_false (by rw [hserialize, serialize_eq]; simp) hsent,
        iff_of_false (m.not_framedOnce_of_selfFramed hself) ?_⟩
      rintro (h | h)
      · exact hsent h
      · exact h.1 hself
    · have hsent' := not_exists.mp hsent
      refine ⟨iff_of_false ?_ hsent, ?_⟩
      · rw [m.serialize_of_not_selfFramed hself hsent', serialize_eq]
        simp
      · rw [m.framedOnce_iff_of_not_selfFramed hself hsent']
        simp only [hsent, hself, false_or, not_false_eq_true, true_and]

/-- The answer that the serial adapter is ready. -/
theorem devReady_not_framedOnce :
    (⟨0x00, .devReady⟩ : OutgoingMessage).serialize =
        some [0x10, 0x02, 0x00, 0x07, 0x00, 0x19, 0x10, 0x00, 0x03, 0x45, 0x10, 0x03] ∧
      ¬ (⟨0x00, .devReady⟩ : OutgoingMessage).FramedOnce := by
  have hserialize : (⟨0x00, .devReady⟩ : OutgoingMessage).serialize =
      some [0x10, 0x02, 0x00, 0x07, 0x00, 0x19, 0x10, 0x00, 0x03, 0x45, 0x10, 0x03] := by decide
  refine ⟨hserialize, fun hframed => ?_⟩
  obtain ⟨message, hdecoded, -, -, hcontents⟩ := hframed _ hserialize
  have hmessage : generateMessageFromRawData
      [0x10, 0x02, 0x00, 0x07, 0x00, 0x19, 0x10, 0x00, 0x03, 0x45, 0x10, 0x03] =
        (.ok { id := .rssaDevReady, destination := 0x00, rawId := 0x07, messageLength := 11
               checksumValue := 0x45
               contents := [0x10, 0x02, 0x00, 0x07, 0x00, 0x19, 0x10, 0x03, 0x45, 0x10, 0x03] },
          []) := by rfl
  cases congrArg Prod.fst (hmessage.symm.trans hdecoded)
  revert hcontents
  decide

end OutgoingMessage

end AqualinkAutomate.Jandy
