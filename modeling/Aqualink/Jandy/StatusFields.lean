import Aqualink.Jandy.Message
import Aqualink.General.Readers

/-!
# The fields of the status messages

The main status and the auxiliary status have counts and lengths in them that say where the next
field is.  Their classes check the length of the payload before they read; here a read outside of it
is an outcome of its own.

What a packet decodes to is said twice: by the classes, which read one field behind the other, and
by the positions of the fields, which are computed from the bytes of the counts and lengths.
`status_decoding_eq` says that they agree on every packet, so there is no read outside of the
payload.  The verdict is the one that the generator's model has
(`isOk_mainStatus`, `isOk_auxStatus`).
-/

namespace AqualinkAutomate.Jandy

open General List

/-! ## The main status -/

inductive HeaterStatuses where
  | off | heating | enabled | notInstalled | unknown
  deriving DecidableEq

def rawToHeaterStatus (raw : UInt8) : HeaterStatuses :=
  if raw = 0x00 then .off
  else if raw = 0x01 then .heating
  else if raw = 0x03 then .enabled
  else .unknown

inductive WireTemperature where
  | degrees (raw : UInt16)
  | tenths (raw : UInt16)
  deriving DecidableEq

/-- The fields of `IAQMessage_MainStatus`, as a new message has them. -/
structure MainStatus where
  rawPayload : List UInt8 := []
  pumpOn : Bool := false
  spaMode : Bool := false
  poolTemp : Option WireTemperature := none
  spaTemp : Option WireTemperature := none
  airTemp : Option WireTemperature := none
  poolSetpoint : Option WireTemperature := none
  spaSetpoint : Option WireTemperature := none
  heaterSetpoint : Option WireTemperature := none
  poolHeaterStatus : HeaterStatuses := .unknown
  spaHeaterStatus : HeaterStatuses := .unknown
  solarHeaterStatus : HeaterStatuses := .unknown
  deviceIds : List UInt8 := []
  deriving DecidableEq

def bigEndian (high low : UInt8) : UInt16 := high.toUInt16 <<< 8 ||| low.toUInt16

def readRawBE (payload : List UInt8) (pos : ℕ) : Decoding UInt16 := do
  let high ← readAt payload pos
  let low ← readAt payload (pos + 1)
  .ok (bigEndian high low)

theorem next_index {i count : UInt8} (h : i < count) :
    (i + 1).toNat = i.toNat + 1 ∧ i.toNat < count.toNat := by
  have hlt : i.toNat < count.toNat := h
  have hcount := count.toNat_lt
  refine ⟨?_, hlt⟩
  rw [UInt8.toNat_add, show (1 : UInt8).toNat = 1 from rfl, Nat.mod_eq_of_lt (by omega)]

def readPayload (messageBytes : List UInt8) : Decoding (List UInt8) :=
  if messageBytes.length ≤ packetHeaderLength + packetFooterLength then .error .rejected
  else readRange messageBytes packetHeaderLength
    (messageBytes.length - packetHeaderLength - packetFooterLength)

namespace MainStatus

def deserializeLegacyStatus (payload : List UInt8) (pos : ℕ) (message : MainStatus) :
    Decoding MainStatus :=
  if payload.length < pos + 4 then .error .rejected
  else do
    let pumpOn ← readAt payload pos
    let spaMode ← readAt payload (pos + 1)
    -- two unknown bytes
    let pos := pos + 4
    if payload.length < pos + 6 then .error .rejected
    else
      let poolTemp ← readRawBE payload pos
      let spaTemp ← readRawBE payload (pos + 2)
      let airTemp ← readRawBE payload (pos + 4)
      let pos := pos + 6
      let message := { message with
        pumpOn := pumpOn != 0x00
        spaMode := spaMode != 0x00
        poolTemp := some (.tenths poolTemp)
        spaTemp := some (.tenths spaTemp)
        airTemp := some (.tenths airTemp) }
      if pos + 2 ≤ payload.length then
        let setpoint ← readRawBE payload pos
        .ok { message with heaterSetpoint := some (.tenths setpoint) }
      else .ok { message with heaterSetpoint := none }

/-- The water's temperature is that of the body that the pump circulates, and none with the pump
off. -/
def setWaterCurrent (message : MainStatus) (raw : UInt16) : MainStatus :=
  if message.pumpOn ∧ 0x0001 < raw then
    if message.spaMode then { message with spaTemp := some (.degrees raw) }
    else { message with poolTemp := some (.degrees raw) }
  else message

def deserializeCurrentStatus (payload : List UInt8) (pos : ℕ) (message : MainStatus) :
    Decoding MainStatus :=
  if payload.length < pos + 5 then .error .rejected
  else do
    let pumpOn ← readAt payload pos
    let poolHeaterStatus ← readAt payload (pos + 1)
    let spaMode ← readAt payload (pos + 2)
    let spaHeaterStatus ← readAt payload (pos + 3)
    let solarHeaterStatus ← readAt payload (pos + 4)
    let pos := pos + 5
    if payload.length < pos + 8 then .error .rejected
    else
      let poolSetpoint ← readRawBE payload pos
      let spaSetpoint ← readRawBE payload (pos + 2)
      let airTemp ← readRawBE payload (pos + 4)
      let waterCurrent ← readRawBE payload (pos + 6)
      let message := { message with
        pumpOn := pumpOn != 0x00
        poolHeaterStatus := rawToHeaterStatus poolHeaterStatus
        spaMode := spaMode != 0x00
        spaHeaterStatus := rawToHeaterStatus spaHeaterStatus
        solarHeaterStatus := rawToHeaterStatus solarHeaterStatus
        poolSetpoint := some (.degrees poolSetpoint)
        spaSetpoint := some (.degrees spaSetpoint)
        airTemp := some (.degrees airTemp) }
      let message := message.setWaterCurrent waterCurrent
      .ok { message with
        heaterSetpoint := if message.spaMode then message.spaSetpoint else message.poolSetpoint }

def readDeviceIds (payload : List UInt8) (deviceCount i : UInt8) (pos : ℕ) (ids : List UInt8) :
    Decoding (List UInt8 × ℕ) :=
  if i < deviceCount then do
    let id ← readAt payload pos
    readDeviceIds payload deviceCount (i + 1) (pos + 1) (ids ++ [id])
  else .ok (ids, pos)
  termination_by deviceCount.toNat - i.toNat
  decreasing_by
    have := next_index ‹i < deviceCount›
    omega

def readSentinel (payload : List UInt8) (pos : ℕ) : Decoding Bool :=
  if pos + 1 < payload.length then do
    let first ← readAt payload pos
    if first = 0x0e then
      let second ← readAt payload (pos + 1)
      .ok (second == 0x0f)
    else .ok false
  else .ok false

def deserializeContents (messageBytes : List UInt8) : Decoding MainStatus := do
  let payload ← readPayload messageBytes
  if payload.length ≤ 0 then .error .rejected
  else
    let deviceCount ← readAt payload 0
    if payload.length < 1 + deviceCount.toNat then .error .rejected
    else
      let (deviceIds, pos) ← readDeviceIds payload deviceCount 0 1 []
      let hasSentinel ← readSentinel payload pos
      let message : MainStatus := { rawPayload := payload, deviceIds }
      if hasSentinel then deserializeLegacyStatus payload (pos + 2) message
      else deserializeCurrentStatus payload pos message

end MainStatus

/-! ## The auxiliary status -/

structure AuxDeviceInfo where
  deviceIndex : UInt8 := 0
  isOn : Bool := false
  type : UInt8 := 0
  name : List Char := []
  deriving DecidableEq

/-- The fields of `IAQMessage_AuxStatus`. -/
structure AuxStatus where
  rawPayload : List UInt8 := []
  devices : List AuxDeviceInfo := []
  deriving DecidableEq

def sanitisePrintableAsciiByte (byte : UInt8) : Char :=
  if 0x20 ≤ byte ∧ byte ≤ 0x7E then Char.ofNat byte.toNat else '?'

namespace AuxStatus

def readDevices (payload deviceIndices : List UInt8) (numDevices i : UInt8) (pos : ℕ)
    (devices : List AuxDeviceInfo) : Decoding (List AuxDeviceInfo) :=
  if i < numDevices then
    if payload.length < pos + 5 then .error .rejected
    else do
      let deviceIndex ← readAt deviceIndices i.toNat
      let status ← readAt payload pos
      let type ← readAt payload (pos + 1)
      -- two bytes of padding
      let nameLen ← readAt payload (pos + 4)
      let pos := pos + 5
      if payload.length < pos + nameLen.toNat then .error .rejected
      else
        let name ← readRange payload pos nameLen.toNat
        let info : AuxDeviceInfo :=
          { deviceIndex, isOn := status == 0x01, type
            name := name.map sanitisePrintableAsciiByte }
        readDevices payload deviceIndices numDevices (i + 1) (pos + nameLen.toNat)
          (devices ++ [info])
  else .ok devices
  termination_by numDevices.toNat - i.toNat
  decreasing_by
    have := next_index ‹i < numDevices›
    omega

def deserializeContents (messageBytes : List UInt8) : Decoding AuxStatus := do
  let payload ← readPayload messageBytes
  if payload.length ≤ 0 then .error .rejected
  else
    let numDevices ← readAt payload 0
    if payload.length < 1 + numDevices.toNat then .error .rejected
    else
      let deviceIndices ← readRange payload 1 numDevices.toNat
      let devices ← readDevices payload deviceIndices numDevices 0 (1 + numDevices.toNat) []
      .ok { rawPayload := payload, devices }

end AuxStatus

/-! ## The positions of the fields -/

def byteOf (payload : List UInt8) (pos : ℕ) : UInt8 := payload.getD pos 0

section

variable (byte : ℕ → UInt8)

/-- The number on two bytes. -/
def wordOf (pos : ℕ) : UInt16 := bigEndian (byte pos) (byte (pos + 1))

/-- The older format, which the sentinel pair stands in front of. -/
def legacyFields (size start : ℕ) (message : MainStatus) : MainStatus :=
  { message with
    pumpOn := byte start != 0x00
    spaMode := byte (start + 1) != 0x00
    poolTemp := some (.tenths (wordOf byte (start + 4)))
    spaTemp := some (.tenths (wordOf byte (start + 6)))
    airTemp := some (.tenths (wordOf byte (start + 8)))
    heaterSetpoint :=
      if start + 12 ≤ size then some (.tenths (wordOf byte (start + 10))) else none }

def waterOf (start : ℕ) : Option WireTemperature :=
  if byte start != 0x00 ∧ 0x0001 < wordOf byte (start + 11) then
    some (.degrees (wordOf byte (start + 11)))
  else none

def currentFields (start : ℕ) (message : MainStatus) : MainStatus :=
  let spaMode := byte (start + 2) != 0x00
  { message with
    pumpOn := byte start != 0x00
    poolHeaterStatus := rawToHeaterStatus (byte (start + 1))
    spaMode
    spaHeaterStatus := rawToHeaterStatus (byte (start + 3))
    solarHeaterStatus := rawToHeaterStatus (byte (start + 4))
    poolSetpoint := some (.degrees (wordOf byte (start + 5)))
    spaSetpoint := some (.degrees (wordOf byte (start + 7)))
    airTemp := some (.degrees (wordOf byte (start + 9)))
    poolTemp := if spaMode then none else waterOf byte start
    spaTemp := if spaMode then waterOf byte start else none
    heaterSetpoint :=
      if spaMode then some (.degrees (wordOf byte (start + 7)))
      else some (.degrees (wordOf byte (start + 5))) }

def statusStart : ℕ := 1 + (byte 0).toNat

def HasSentinel (size : ℕ) : Prop :=
  statusStart byte + 1 < size ∧ byte (statusStart byte) = 0x0e ∧
    byte (statusStart byte + 1) = 0x0f

instance (size : ℕ) : Decidable (HasSentinel byte size) := inferInstanceAs (Decidable (_ ∧ _))

/-- The payload has all the fields of a main status. -/
def MainStatusFits (size : ℕ) : Prop :=
  statusStart byte + (if HasSentinel byte size then 12 else 13) ≤ size

instance (size : ℕ) : Decidable (MainStatusFits byte size) := inferInstanceAs (Decidable (_ ≤ _))

def mainStatusOf (payload : List UInt8) : MainStatus :=
  let byte := byteOf payload
  let size := payload.length
  let message : MainStatus :=
    { rawPayload := payload
      deviceIds := (range (byte 0).toNat).map fun i => byte (1 + i) }
  if HasSentinel byte size then legacyFields byte size (statusStart byte + 2) message
  else currentFields byte (statusStart byte) message

/-- Where the record of a device starts: behind the indices, and behind the record of the device in
front of it and its name. -/
def deviceStart : ℕ → ℕ
  | 0 => 1 + (byte 0).toNat
  | i + 1 => deviceStart i + 5 + (byte (deviceStart i + 4)).toNat

def deviceAt (i : ℕ) : AuxDeviceInfo where
  deviceIndex := byte (1 + i)
  isOn := byte (deviceStart byte i) == 0x01
  type := byte (deviceStart byte i + 1)
  name := ((range (byte (deviceStart byte i + 4)).toNat).map fun j =>
    byte (deviceStart byte i + 5 + j)).map sanitisePrintableAsciiByte

/-- The payload has the records of all the devices. -/
def AuxStatusFits (size : ℕ) : Prop := deviceStart byte (byte 0).toNat ≤ size

instance (size : ℕ) : Decidable (AuxStatusFits byte size) := inferInstanceAs (Decidable (_ ≤ _))

def auxStatusOf (payload : List UInt8) : AuxStatus where
  rawPayload := payload
  devices := (range (byteOf payload 0).toNat).map (deviceAt (byteOf payload))

end

/-! ## Reading one field behind the other -/

section

variable {payload : List UInt8} {pos : ℕ}

theorem readByte_eq (h : pos < payload.length) : readAt payload pos = .ok (byteOf payload pos) :=
  readAt_eq 0 h

theorem readRawBE_eq (h : pos + 1 < payload.length) :
    readRawBE payload pos = .ok (wordOf (byteOf payload) pos) := by
  rw [readRawBE, readByte_eq (by omega), readByte_eq h]
  rfl

theorem deserializeLegacyStatus_eq (message : MainStatus) :
    message.deserializeLegacyStatus payload pos =
      if pos + 10 ≤ payload.length then
        .ok (legacyFields (byteOf payload) payload.length pos message)
      else .error .rejected := by
  unfold MainStatus.deserializeLegacyStatus
  by_cases hflags : payload.length < pos + 4
  · rw [if_pos hflags, if_neg (by omega)]
  · rw [if_neg hflags, readByte_eq (by omega), readByte_eq (by omega)]
    by_cases htemps : payload.length < pos + 4 + 6
    · simp only [if_pos htemps]
      rw [if_neg (by omega)]
      rfl
    · simp only [if_neg htemps]
      rw [readRawBE_eq (by omega), readRawBE_eq (by omega), readRawBE_eq (by omega),
        if_pos (show pos + 10 ≤ payload.length by omega)]
      by_cases hsetpoint : pos + 4 + 6 + 2 ≤ payload.length
      · simp only [if_pos hsetpoint]
        rw [readRawBE_eq (by omega), legacyFields, if_pos hsetpoint]
        rfl
      · simp only [if_neg hsetpoint]
        rw [legacyFields, if_neg hsetpoint]
        rfl

section

variable {message : MainStatus} (hpool : message.poolTemp = none) (hspa : message.spaTemp = none)

include hpool hspa

theorem setWaterCurrent_eq (raw : UInt16) :
    message.setWaterCurrent raw =
      let water : Option WireTemperature :=
        if message.pumpOn ∧ 0x0001 < raw then some (.degrees raw) else none
      { message with
        poolTemp := if message.spaMode then none else water
        spaTemp := if message.spaMode then water else none } := by
  obtain ⟨payload, pumpOn, spaMode, poolTemp, spaTemp⟩ := message
  simp only at hpool hspa
  subst hpool hspa
  rw [MainStatus.setWaterCurrent]
  cases spaMode <;> by_cases hwater : pumpOn ∧ 0x0001 < raw <;> simp [hwater]

theorem deserializeCurrentStatus_eq :
    message.deserializeCurrentStatus payload pos =
      if pos + 13 ≤ payload.length then
        .ok (currentFields (byteOf payload) pos message)
      else .error .rejected := by
  unfold MainStatus.deserializeCurrentStatus
  by_cases hflags : payload.length < pos + 5
  · rw [if_pos hflags, if_neg (by omega)]
  · rw [if_neg hflags, readByte_eq (by omega), readByte_eq (by omega), readByte_eq (by omega),
      readByte_eq (by omega), readByte_eq (by omega)]
    by_cases htemps : payload.length < pos + 5 + 8
    · simp only [if_pos htemps]
      rw [if_neg (by omega)]
      rfl
    · simp only [if_neg htemps]
      rw [readRawBE_eq (by omega), readRawBE_eq (by omega), readRawBE_eq (by omega),
        readRawBE_eq (by omega), if_pos (show pos + 13 ≤ payload.length by omega)]
      refine congrArg Except.ok ?_
      rw [setWaterCurrent_eq (by exact hpool) (by exact hspa)]
      rfl

end

theorem readDeviceIds_eq {deviceCount : UInt8} (hfits : 1 + deviceCount.toNat ≤ payload.length)
    {i : UInt8} (hi : i.toNat ≤ deviceCount.toNat) :
    MainStatus.readDeviceIds payload deviceCount i (1 + i.toNat)
        ((range i.toNat).map fun k => byteOf payload (1 + k)) =
      .ok ((range deviceCount.toNat).map fun k => byteOf payload (1 + k),
        1 + deviceCount.toNat) := by
  induction hleft : deviceCount.toNat - i.toNat generalizing i with
  | zero =>
    have heq : i.toNat = deviceCount.toNat := by omega
    have hdone : ¬ i < deviceCount := fun hlt => absurd (next_index hlt).2 (by omega)
    rw [MainStatus.readDeviceIds, if_neg hdone, heq]
  | succ left ih =>
    have hmore : i < deviceCount := show i.toNat < deviceCount.toNat by omega
    obtain ⟨hnext, hlt⟩ := next_index hmore
    rw [MainStatus.readDeviceIds, if_pos hmore, readByte_eq (by omega)]
    have hstep := @ih (i + 1) (by omega) (by omega)
    rwa [hnext, range_succ, map_append] at hstep

theorem readSentinel_eq (payload : List UInt8) :
    MainStatus.readSentinel payload (statusStart (byteOf payload)) =
      .ok (decide (HasSentinel (byteOf payload) payload.length)) := by
  unfold MainStatus.readSentinel HasSentinel
  by_cases hroom : statusStart (byteOf payload) + 1 < payload.length
  · rw [if_pos hroom, readByte_eq (by omega)]
    by_cases hfirst : byteOf payload (statusStart (byteOf payload)) = 0x0e
    · rw [readByte_eq hroom]
      simp only [hroom, hfirst, true_and]
      exact congrArg Except.ok (Bool.eq_iff_iff.mpr (by simp))
    · simp only [hfirst, false_and, and_false, decide_false]
      exact if_neg hfirst
  · rw [if_neg hroom]
    simp [hroom]

theorem deviceStart_mono (byte : ℕ → UInt8) : Monotone (deviceStart byte) :=
  monotone_nat_of_le_succ fun i => by
    rw [deviceStart]
    omega

/-- The loop over the records, with the records below `i` read. -/
theorem readDevices_eq {numDevices : UInt8} (hfits : 1 + numDevices.toNat ≤ payload.length)
    {i : UInt8} (hi : i.toNat ≤ numDevices.toNat)
    (hpos : deviceStart (byteOf payload) i.toNat ≤ payload.length) :
    AuxStatus.readDevices payload ((payload.drop 1).take numDevices.toNat) numDevices i
        (deviceStart (byteOf payload) i.toNat)
        ((range i.toNat).map (deviceAt (byteOf payload))) =
      if deviceStart (byteOf payload) numDevices.toNat ≤ payload.length then
        .ok ((range numDevices.toNat).map (deviceAt (byteOf payload)))
      else .error .rejected := by
  induction hleft : numDevices.toNat - i.toNat generalizing i with
  | zero =>
    have heq : i.toNat = numDevices.toNat := by omega
    have hdone : ¬ i < numDevices := fun hlt => absurd (next_index hlt).2 (by omega)
    rw [heq] at hpos ⊢
    rw [AuxStatus.readDevices, if_neg hdone, if_pos hpos]
  | succ left ih =>
    have hmore : i < numDevices := show i.toNat < numDevices.toNat by omega
    obtain ⟨hnext, hlt⟩ := next_index hmore
    -- the last record ends behind this one
    have hlast : deviceStart (byteOf payload) (i.toNat + 1) ≤
        deviceStart (byteOf payload) numDevices.toNat := deviceStart_mono _ hlt
    rw [deviceStart] at hlast
    rw [AuxStatus.readDevices, if_pos hmore]
    by_cases hheader : payload.length < deviceStart (byteOf payload) i.toNat + 5
    · rw [if_pos hheader, if_neg (by omega)]
    · have hindex : readAt ((payload.drop 1).take numDevices.toNat) i.toNat =
          .ok (byteOf payload (1 + i.toNat)) := by
        rw [take_drop_eq_map 0 hfits, readAt_eq 0 (by simpa using hlt)]
        simp [hlt, byteOf]
      rw [if_neg hheader, hindex, readByte_eq (by omega), readByte_eq (by omega),
        readByte_eq (by omega)]
      by_cases hname : payload.length < deviceStart (byteOf payload) i.toNat + 5 +
          (byteOf payload (deviceStart (byteOf payload) i.toNat + 4)).toNat
      · rw [if_neg (by omega)]
        exact if_pos hname
      · have hend : deviceStart (byteOf payload) (i + 1).toNat ≤ payload.length := by
          rw [hnext, deviceStart]
          omega
        have hstep := @ih (i + 1) (by omega) hend (by omega)
        rw [hnext, range_succ, map_append, deviceStart] at hstep
        rw [← hstep]
        refine (if_neg hname).trans ?_
        rw [readRange_eq (by omega), take_drop_eq_map 0 (by omega)]
        rfl

end

/-! ## Packets -/

section

variable {packet : List UInt8}

theorem readPayload_eq (h : packetHeaderLength + packetFooterLength < packet.length) :
    readPayload packet = .ok (rawPayload packet) ∧ 0 < (rawPayload packet).length := by
  simp only [packetHeaderLength, packetFooterLength] at h
  rw [readPayload, if_neg (by simp only [packetHeaderLength, packetFooterLength]; omega)]
  simp only [packetHeaderLength, packetFooterLength]
  rw [readRange_eq (by omega), rawPayload, drop_take]
  simp only [packetHeaderLength, packetFooterLength]
  refine ⟨congrArg Except.ok (congrArg (fun count => (packet.drop 4).take count) (by omega)), ?_⟩
  rw [length_take, length_drop]
  omega

theorem readPayload_short (h : packet.length ≤ packetHeaderLength + packetFooterLength) :
    readPayload packet = .error .rejected :=
  if_pos h

theorem deserializeContents_mainStatus (packet : List UInt8) :
    MainStatus.deserializeContents packet =
      if packetHeaderLength + packetFooterLength < packet.length ∧
          MainStatusFits (byteOf (rawPayload packet)) (rawPayload packet).length then
        .ok (mainStatusOf (rawPayload packet))
      else .error .rejected := by
  unfold MainStatus.deserializeContents
  by_cases hshort : packet.length ≤ packetHeaderLength + packetFooterLength
  · rw [readPayload_short hshort, if_neg fun hfits => absurd hfits.1 (Nat.not_lt.mpr hshort)]
    rfl
  · have hlong := Nat.lt_of_not_le hshort
    obtain ⟨hpayload, hsome⟩ := readPayload_eq hlong
    rw [hpayload]
    simp only [hlong, true_and]
    generalize rawPayload packet = payload at hsome ⊢
    refine (if_neg (Nat.not_le.mpr hsome)).trans ?_
    rw [readByte_eq hsome]
    by_cases hcount : payload.length < 1 + (byteOf payload 0).toNat
    · rw [if_neg (by rw [MainStatusFits, statusStart]; omega)]
      exact if_pos hcount
    · refine (if_neg hcount).trans ?_
      have hids : MainStatus.readDeviceIds payload (byteOf payload 0) 0 1 [] =
          .ok ((range (byteOf payload 0).toNat).map fun k => byteOf payload (1 + k),
            statusStart (byteOf payload)) :=
        @readDeviceIds_eq payload (byteOf payload 0) (by omega) 0 (by simp)
      have hsentinel := readSentinel_eq payload
      rw [hids]
      simp only [bind, Except.bind, hsentinel, MainStatusFits, mainStatusOf]
      by_cases h : HasSentinel (byteOf payload) payload.length
      · simp only [h, decide_true, if_true, deserializeLegacyStatus_eq]
      · simp only [h, decide_false, if_false, Bool.false_eq_true]
        exact deserializeCurrentStatus_eq rfl rfl

theorem deserializeContents_auxStatus (packet : List UInt8) :
    AuxStatus.deserializeContents packet =
      if packetHeaderLength + packetFooterLength < packet.length ∧
          AuxStatusFits (byteOf (rawPayload packet)) (rawPayload packet).length then
        .ok (auxStatusOf (rawPayload packet))
      else .error .rejected := by
  unfold AuxStatus.deserializeContents
  by_cases hshort : packet.length ≤ packetHeaderLength + packetFooterLength
  · rw [readPayload_short hshort, if_neg fun hfits => absurd hfits.1 (Nat.not_lt.mpr hshort)]
    rfl
  · have hlong := Nat.lt_of_not_le hshort
    obtain ⟨hpayload, hsome⟩ := readPayload_eq hlong
    rw [hpayload]
    simp only [hlong, true_and]
    generalize rawPayload packet = payload at hsome ⊢
    refine (if_neg (Nat.not_le.mpr hsome)).trans ?_
    rw [readByte_eq hsome]
    by_cases hcount : payload.length < 1 + (byteOf payload 0).toNat
    · have hfirst := deviceStart_mono (byteOf payload) (Nat.zero_le (byteOf payload 0).toNat)
      rw [deviceStart] at hfirst
      rw [if_neg (by rw [AuxStatusFits]; omega)]
      exact if_pos hcount
    · refine (if_neg hcount).trans ?_
      have hdevices : AuxStatus.readDevices payload
          ((payload.drop 1).take (byteOf payload 0).toNat) (byteOf payload 0) 0
          (1 + (byteOf payload 0).toNat) [] = _ :=
        @readDevices_eq payload (byteOf payload 0) (by omega) 0 (by simp)
          (Nat.le_of_not_lt hcount)
      rw [readRange_eq (by omega)]
      by_cases hfits : deviceStart (byteOf payload) (byteOf payload 0).toNat ≤ payload.length
      · rw [if_pos hfits] at hdevices
        simp only [bind, Except.bind, hdevices, AuxStatusFits, auxStatusOf]
        exact (if_pos hfits).symm
      · rw [if_neg hfits] at hdevices
        simp only [bind, Except.bind, hdevices, AuxStatusFits]
        exact (if_neg hfits).symm

/-- **The status messages are decoded inside of the packet.**  Whatever its length and bytes, a
packet is rejected, or it decodes to the fields at their positions, which all are inside of it. -/
theorem status_decoding_eq (packet : List UInt8) :
    (MainStatus.deserializeContents packet =
        if packetHeaderLength + packetFooterLength < packet.length ∧
            MainStatusFits (byteOf (rawPayload packet)) (rawPayload packet).length then
          .ok (mainStatusOf (rawPayload packet))
        else .error .rejected) ∧
      AuxStatus.deserializeContents packet =
        if packetHeaderLength + packetFooterLength < packet.length ∧
            AuxStatusFits (byteOf (rawPayload packet)) (rawPayload packet).length then
          .ok (auxStatusOf (rawPayload packet))
        else .error .rejected :=
  ⟨deserializeContents_mainStatus packet, deserializeContents_auxStatus packet⟩

/-! ## The generator's verdicts -/

theorem isOk_ite {Value : Type*} {p : Prop} [Decidable p] {value : Value} {e : ReadError} :
    (if p then (.ok value : Decoding Value) else .error e).isOk = decide p := by
  by_cases h : p <;> simp [h, Except.isOk, Except.toBool]

theorem isOk_mainStatus (packet : List UInt8) :
    (MainStatus.deserializeContents packet).isOk = mainStatusContents packet := by
  rw [deserializeContents_mainStatus, isOk_ite, mainStatusContents]
  by_cases hshort : packet.length ≤ packetHeaderLength + packetFooterLength
  · rw [if_pos hshort, decide_eq_false fun hfits => absurd hfits.1 (Nat.not_lt.mpr hshort)]
  · rw [if_neg hshort]
    simp only [Nat.lt_of_not_le hshort, true_and]
    generalize rawPayload packet = payload
    have hcount : (payload.getD 0 0).toNat = (byteOf payload 0).toNat := rfl
    by_cases hids : payload.length < 1 + (byteOf payload 0).toNat
    · rw [if_pos (by omega), decide_eq_false (by rw [MainStatusFits, statusStart]; omega)]
    · rw [if_neg (by omega)]
      have hsentinel : (decide (statusStart (byteOf payload) + 1 < payload.length) &&
          byteOf payload (statusStart (byteOf payload)) == 0x0e &&
          byteOf payload (statusStart (byteOf payload) + 1) == 0x0f) =
          decide (HasSentinel (byteOf payload) payload.length) := by
        rw [Bool.eq_iff_iff, decide_eq_true_iff]
        simp [HasSentinel, and_assoc]
      change _ = if (decide (statusStart (byteOf payload) + 1 < payload.length) &&
          byteOf payload (statusStart (byteOf payload)) == 0x0e &&
          byteOf payload (statusStart (byteOf payload) + 1) == 0x0f) then
        decide (statusStart (byteOf payload) + 12 ≤ payload.length)
        else decide (statusStart (byteOf payload) + 13 ≤ payload.length)
      rw [hsentinel]
      by_cases h : HasSentinel (byteOf payload) payload.length <;> simp [MainStatusFits, h]

theorem auxDevicesFit_eq (payload : List UInt8) {i : ℕ}
    (hpos : deviceStart (byteOf payload) i ≤ payload.length) (numDevices : ℕ) :
    auxDevicesFit payload numDevices (deviceStart (byteOf payload) i) =
      decide (deviceStart (byteOf payload) (i + numDevices) ≤ payload.length) := by
  induction numDevices generalizing i with
  | zero => simp [auxDevicesFit, hpos]
  | succ numDevices ih =>
    have hlast := deviceStart_mono (byteOf payload) (show i + 1 ≤ i + (numDevices + 1) by omega)
    have hstep : deviceStart (byteOf payload) (i + 1) = deviceStart (byteOf payload) i + 5 +
        (payload.getD (deviceStart (byteOf payload) i + 4) 0).toNat := rfl
    rw [auxDevicesFit]
    by_cases hheader : payload.length < deviceStart (byteOf payload) i + 5
    · rw [if_pos hheader, decide_eq_false (by omega)]
    · rw [if_neg hheader]
      simp only [← hstep]
      by_cases hname : payload.length < deviceStart (byteOf payload) (i + 1)
      · rw [if_pos hname, decide_eq_false (by omega)]
      · rw [if_neg hname, ih (Nat.le_of_not_lt hname), Nat.add_assoc, Nat.add_comm 1]

theorem isOk_auxStatus (packet : List UInt8) :
    (AuxStatus.deserializeContents packet).isOk = auxStatusContents packet := by
  rw [deserializeContents_auxStatus, isOk_ite, auxStatusContents]
  by_cases hshort : packet.length ≤ packetHeaderLength + packetFooterLength
  · rw [if_pos hshort, decide_eq_false fun hfits => absurd hfits.1 (Nat.not_lt.mpr hshort)]
  · rw [if_neg hshort]
    simp only [Nat.lt_of_not_le hshort, true_and]
    generalize rawPayload packet = payload
    have hcount : (payload.getD 0 0).toNat = (byteOf payload 0).toNat := rfl
    have hfirst := deviceStart_mono (byteOf payload) (Nat.zero_le (byteOf payload 0).toNat)
    change decide (deviceStart (byteOf payload) (byteOf payload 0).toNat ≤ payload.length) = _
    rw [hcount]
    by_cases hindices : payload.length < 1 + (byteOf payload 0).toNat
    · rw [if_pos hindices, decide_eq_false (by rw [deviceStart] at hfirst; omega)]
    · rw [if_neg hindices]
      have hfit := @auxDevicesFit_eq payload 0 (Nat.le_of_not_lt hindices) (byteOf payload 0).toNat
      rw [Nat.zero_add] at hfit
      exact hfit.symm

section

variable {bytes : List UInt8} {message : JandyMessage}
  (h : createFromSerialData bytes = .ok message)

include h

theorem deserializeContents_of_factory :
    deserializeContents (messageTypeOf bytes) message.contents := by
  unfold createFromSerialData at h
  split at h
  · cases h
  · dsimp only at h
    split at h
    · next accepted hdeserialised =>
        cases h
        unfold JandyMessage.deserializeFromContiguousData at hdeserialised
        dsimp only at hdeserialised
        split_ifs at hdeserialised
        · cases hdeserialised
        · cases hdeserialised
        · cases hdeserialised
        · obtain ⟨hverdict, rfl⟩ := Prod.mk.inj hdeserialised
          exact hverdict
    · cases h

theorem createFromSerialData_status :
    (messageTypeOf bytes = .iaqMainStatus →
        MainStatus.deserializeContents message.contents =
          .ok (mainStatusOf (rawPayload message.contents))) ∧
      (messageTypeOf bytes = .iaqAuxStatus →
        AuxStatus.deserializeContents message.contents =
          .ok (auxStatusOf (rawPayload message.contents))) := by
  have hdeserialised := deserializeContents_of_factory h
  constructor
  · intro htype
    rw [htype] at hdeserialised
    have hok := (isOk_mainStatus message.contents).trans hdeserialised
    rw [deserializeContents_mainStatus, isOk_ite, decide_eq_true_eq] at hok
    rw [deserializeContents_mainStatus, if_pos hok]
  · intro htype
    rw [htype] at hdeserialised
    have hok := (isOk_auxStatus message.contents).trans hdeserialised
    rw [deserializeContents_auxStatus, isOk_ite, decide_eq_true_eq] at hok
    rw [deserializeContents_auxStatus, if_pos hok]

end

/-- The devices 3 and 5: the filter pump, which is on, and the spa mode. -/
def pumpAndSpaMode : List UInt8 :=
  [0x10, 0x02, 0x33, 0x72, 0x02, 0x03, 0x05, 0x01, 0x08, 0x00, 0x00, 0x0b, 0x46, 0x69, 0x6c, 0x74,
    0x65, 0x72, 0x20, 0x50, 0x75, 0x6d, 0x70, 0x00, 0x01, 0x00, 0x00, 0x08, 0x53, 0x70, 0x61, 0x20,
    0x4d, 0x6f, 0x64, 0x65, 0xcf, 0x10, 0x03]

/-- The spa is heated from 97 degrees to 99. -/
def spaHeating : List UInt8 :=
  [0x10, 0x02, 0x33, 0x70, 0x02, 0x01, 0x02, 0x01, 0x00, 0x01, 0x01, 0x00, 0x00, 0x52, 0x00, 0x63,
    0x00, 0x4b, 0x00, 0x61, 0x1e, 0x10, 0x03]

theorem status_of_heated_spa :
    AuxStatus.deserializeContents pumpAndSpaMode =
        .ok { rawPayload := rawPayload pumpAndSpaMode
              devices := [⟨3, true, 0x08, "Filter Pump".toList⟩,
                ⟨5, false, 0x01, "Spa Mode".toList⟩] } ∧
      MainStatus.deserializeContents spaHeating =
        .ok { rawPayload := rawPayload spaHeating, deviceIds := [1, 2], pumpOn := true
              spaMode := true, spaTemp := some (.degrees 97), airTemp := some (.degrees 75)
              poolSetpoint := some (.degrees 82), spaSetpoint := some (.degrees 99)
              heaterSetpoint := some (.degrees 99), poolHeaterStatus := .off
              spaHeaterStatus := .heating, solarHeaterStatus := .off } :=
  ⟨((@createFromSerialData_status pumpAndSpaMode _ rfl).2 rfl).trans
      (congrArg Except.ok (by decide +kernel)),
    ((@createFromSerialData_status spaHeating _ rfl).1 rfl).trans
      (congrArg Except.ok (by decide +kernel))⟩

end

end AqualinkAutomate.Jandy
