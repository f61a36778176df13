import Aqualink.Protocol.WritePath
import Aqualink.Serial.ByteProcessor

/-!
# Writing to a remote serial port

Two things write to the socket of a remote serial port: `write_some` puts the bytes
to be sent on it as they are, and the setters of the line parameters put telnet
commands on it, with `FF` doubled.

`Sent` records what a call means to transmit, next to the bytes it puts on the
socket (`portRun_sent`).  A peer that reads these with the inbound byte processor
gets back exactly that if, and only if, no `FF` was written as data
(`transparent_iff`).
-/

namespace AqualinkAutomate.Serial

open General Protocol ProtocolHandler List

/-! ## The socket -/

/-- The port, and the bytes that its socket has accepted. -/
structure NetworkSerialPort where
  isOpen : Bool := true
  sent : List UInt8 := []
  deriving DecidableEq

/-- `write_some`, with what the socket makes of it.  A socket that would block is
reported as a write of no bytes; after a hard error the port is closed. -/
def writeSome (port : NetworkSerialPort) (payload : List UInt8) (outcome : WriteOutcome) :
    NetworkSerialPort × WriteOutcome :=
  if port.isOpen then
    match outcome with
    | .accepted count =>
      ({ port with sent := port.sent ++ payload.take count }, .accepted (payload.take count).length)
    | .wouldBlock => (port, .accepted 0)
    | .error => ({ port with isOpen := false }, .error)
  else (port, .error)

/-- `boost::asio::write` of a packet of which the socket takes `written` bytes: less
than the whole packet is an error. -/
def writePacket (port : NetworkSerialPort) (packet : List UInt8) (written : ℕ) :
    NetworkSerialPort × Bool :=
  ({ port with sent := port.sent ++ packet.take written }, packet.length ≤ written)

/-! ## Telnet commands -/

abbrev comPortOption : UInt8 := 44

abbrev commandSetBaudRate : UInt8 := 1
abbrev commandSetDataSize : UInt8 := 2
abbrev commandSetParity : UInt8 := 3
abbrev commandSetStopSize : UInt8 := 4
abbrev commandSetControl : UInt8 := 5

inductive Parity where
  | none | odd | even
  deriving DecidableEq

inductive StopBits where
  | one | onePointFive | two
  deriving DecidableEq

inductive FlowControl where
  | none | software | hardware
  deriving DecidableEq

def Parity.toRfc2217 : Parity → UInt8
  | none => 1 | odd => 2 | even => 3

def StopBits.toRfc2217 : StopBits → UInt8
  | one => 1 | onePointFive => 2 | two => 3

def FlowControl.toRfc2217 : FlowControl → UInt8
  | none => 0 | software => 1 | hardware => 2

/-- Network byte order. -/
def encodeBaudRate (baudRate : UInt32) : List UInt8 :=
  [((baudRate >>> 24) &&& 0xFF).toUInt8, ((baudRate >>> 16) &&& 0xFF).toUInt8,
    ((baudRate >>> 8) &&& 0xFF).toUInt8, (baudRate &&& 0xFF).toUInt8]

def sendCommand (port : NetworkSerialPort) (command : UInt8) (data : List UInt8) (written : ℕ) :
    NetworkSerialPort :=
  if port.isOpen then
    (writePacket port
      ([iacByte, sbByte, comPortOption, command] ++ escape data ++ [iacByte, seByte]) written).1
  else port

def setBaudRate (port : NetworkSerialPort) (baudRate : UInt32) : ℕ → NetworkSerialPort :=
  sendCommand port commandSetBaudRate (encodeBaudRate baudRate)

def setCharacterSize (port : NetworkSerialPort) (size : UInt8) : ℕ → NetworkSerialPort :=
  sendCommand port commandSetDataSize [size]

def setParity (port : NetworkSerialPort) (parity : Parity) : ℕ → NetworkSerialPort :=
  sendCommand port commandSetParity [parity.toRfc2217]

def setStopBits (port : NetworkSerialPort) (stopBits : StopBits) : ℕ → NetworkSerialPort :=
  sendCommand port commandSetStopSize [stopBits.toRfc2217]

def setFlowControl (port : NetworkSerialPort) (flowControl : FlowControl) : ℕ → NetworkSerialPort :=
  sendCommand port commandSetControl [flowControl.toRfc2217]

/-- How many bytes the socket takes of each packet of the negotiation. -/
structure NegotiationWrites where
  willOption : ℕ
  baudRate : ℕ
  characterSize : ℕ
  parity : ℕ
  stopBits : ℕ
  flowControl : ℕ
  deriving DecidableEq

/-- `InitiateNegotiation`: offer the option, then set the line parameters of the bus. -/
def initiateNegotiation (port : NetworkSerialPort) (written : NegotiationWrites) :
    NetworkSerialPort :=
  if port.isOpen then
    match writePacket port [iacByte, willByte, comPortOption] written.willOption with
    | (port, false) => port
    | (port, true) =>
      let port := setBaudRate port 9600 written.baudRate
      let port := setCharacterSize port 8 written.characterSize
      let port := setParity port .none written.parity
      let port := setStopBits port .one written.stopBits
      setFlowControl port .none written.flowControl
  else port

/-- A call that may write to the socket. -/
inductive PortEvent where
  | writeSome (payload : List UInt8) (outcome : WriteOutcome)
  | initiateNegotiation (written : NegotiationWrites)
  | setBaudRate (baudRate : UInt32) (written : ℕ)
  | setCharacterSize (size : UInt8) (written : ℕ)
  | setParity (parity : Parity) (written : ℕ)
  | setStopBits (stopBits : StopBits) (written : ℕ)
  | setFlowControl (flowControl : FlowControl) (written : ℕ)
  deriving DecidableEq

def portStep (port : NetworkSerialPort) : PortEvent → NetworkSerialPort
  | .writeSome payload outcome => (writeSome port payload outcome).1
  | .initiateNegotiation written => initiateNegotiation port written
  | .setBaudRate baudRate written => setBaudRate port baudRate written
  | .setCharacterSize size written => setCharacterSize port size written
  | .setParity parity written => setParity port parity written
  | .setStopBits stopBits written => setStopBits port stopBits written
  | .setFlowControl flowControl written => setFlowControl port flowControl written

def portRun (port : NetworkSerialPort) (events : List PortEvent) : NetworkSerialPort :=
  events.foldl portStep port

/-! ## What is meant -/

inductive TelnetCommand where
  | will (option : UInt8)
  | subnegotiation (content : List UInt8)

namespace TelnetCommand

def item : TelnetCommand → TelnetItem
  | will option => .negotiation willByte (by decide) option
  | subnegotiation content => .subnegotiation content

def wire (c : TelnetCommand) : List UInt8 := c.item.wire

def observed : TelnetCommand → Observed
  | will option => .option option
  | subnegotiation content => .subnegotiation content

def FitsBuffer : TelnetCommand → Prop
  | will _ => True
  | subnegotiation content => content.length ≤ maxCommandBufferSize

theorem observed_item {c : TelnetCommand} (h : c.FitsBuffer) : c.item.observed = [c.observed] := by
  cases c with
  | will option => rfl
  | subnegotiation content => exact if_pos h

theorem length_wire_pos (c : TelnetCommand) : 0 < c.wire.length := by
  cases c <;> simp [wire, item, TelnetItem.wire]

end TelnetCommand

def controls (observed : List Observed) : List Observed :=
  observed.filter fun o => o.dataByte?.isNone

@[simp] theorem controls_append (xs ys : List Observed) :
    controls (xs ++ ys) = controls xs ++ controls ys :=
  filter_append ..

theorem controls_map_data (bytes : List UInt8) : controls (bytes.map .data) = [] := by
  simp [controls, Observed.dataByte?]

/-- What a call transmits: data, or a command of which the socket takes so many bytes. -/
inductive Sent where
  | payload (bytes : List UInt8)
  | command (c : TelnetCommand) (written : ℕ)

namespace Sent

/-- The bytes on the socket. -/
def wire : Sent → List UInt8
  | payload bytes => bytes
  | command c written => c.wire.take written

def data : Sent → List UInt8
  | payload bytes => bytes
  | command _ _ => []

/-- The commands that are transmitted whole. -/
def commands : Sent → List Observed
  | payload _ => []
  | command c written => if c.wire.length ≤ written then [c.observed] else []

/-- No command breaks off half-way. -/
def Uncut : Sent → Prop
  | payload _ => True
  | command c written => c.wire.length ≤ written ∨ written = 0

def FitsBuffer : Sent → Prop
  | payload _ => True
  | command c _ => c.FitsBuffer

end Sent

/-- `SendCommand` means one sub-negotiation. -/
def commandSent (command : UInt8) (data : List UInt8) (written : ℕ) : Sent :=
  .command (.subnegotiation (comPortOption :: command :: data)) written

/-- What a call to an open port means. -/
def eventSent : PortEvent → List Sent
  | .writeSome payload (.accepted count) => [.payload (payload.take count)]
  | .writeSome _ _ => []
  | .initiateNegotiation written =>
    .command (.will comPortOption) written.willOption ::
      if (TelnetCommand.will comPortOption).wire.length ≤ written.willOption then
        [commandSent commandSetBaudRate (encodeBaudRate 9600) written.baudRate,
          commandSent commandSetDataSize [8] written.characterSize,
          commandSent commandSetParity [Parity.none.toRfc2217] written.parity,
          commandSent commandSetStopSize [StopBits.one.toRfc2217] written.stopBits,
          commandSent commandSetControl [FlowControl.none.toRfc2217] written.flowControl]
      else []
  | .setBaudRate baudRate written =>
    [commandSent commandSetBaudRate (encodeBaudRate baudRate) written]
  | .setCharacterSize size written => [commandSent commandSetDataSize [size] written]
  | .setParity parity written => [commandSent commandSetParity [parity.toRfc2217] written]
  | .setStopBits stopBits written => [commandSent commandSetStopSize [stopBits.toRfc2217] written]
  | .setFlowControl flowControl written =>
    [commandSent commandSetControl [flowControl.toRfc2217] written]

/-- What the calls of a run mean, one after the other. -/
def runSent (port : NetworkSerialPort) : List PortEvent → List Sent
  | [] => []
  | event :: events =>
    (if port.isOpen then eventSent event else []) ++ runSent (portStep port event) events

def NetworkSerialPort.emit (port : NetworkSerialPort) (sent : List Sent) : NetworkSerialPort :=
  { port with sent := port.sent ++ sent.flatMap Sent.wire }

section

variable {port : NetworkSerialPort}

theorem emit_emit (port : NetworkSerialPort) (xs ys : List Sent) :
    (port.emit xs).emit ys = port.emit (xs ++ ys) := by
  simp [NetworkSerialPort.emit]

theorem sendCommand_eq (hopen : port.isOpen) {command : UInt8} (hcommand : command ≠ iacByte)
    (data : List UInt8) (written : ℕ) :
    sendCommand port command data written = port.emit [commandSent command data written] := by
  have hescape : escape (comPortOption :: command :: data) =
      comPortOption :: command :: escape data := by
    rw [escape_cons_of_ne (by decide), escape_cons_of_ne hcommand]
  have hwire : (commandSent command data written).wire =
      ([iacByte, sbByte, comPortOption, command] ++ escape data ++ [iacByte, seByte]).take
        written := by
    simp only [commandSent, Sent.wire, TelnetCommand.wire, TelnetCommand.item, TelnetItem.wire,
      hescape]
    rfl
  rw [sendCommand, if_pos hopen, writePacket, NetworkSerialPort.emit, flatMap_singleton, hwire]

theorem sendCommand_emit (hopen : port.isOpen) {sent : List Sent} {command : UInt8}
    (hcommand : command ≠ iacByte) (data : List UInt8) (written : ℕ) :
    sendCommand (port.emit sent) command data written =
      port.emit (sent ++ [commandSent command data written]) := by
  have hemit : (port.emit sent).isOpen := hopen
  rw [sendCommand_eq hemit hcommand, emit_emit]

theorem writePacket_eq (port : NetworkSerialPort) (c : TelnetCommand) (written : ℕ) :
    writePacket port c.wire written =
      (port.emit [.command c written], decide (c.wire.length ≤ written)) := by
  rw [writePacket, NetworkSerialPort.emit, flatMap_singleton]
  rfl

theorem initiateNegotiation_eq (hopen : port.isOpen) (written : NegotiationWrites) :
    initiateNegotiation port written = port.emit (eventSent (.initiateNegotiation written)) := by
  have hwill : [iacByte, willByte, comPortOption] = (TelnetCommand.will comPortOption).wire := rfl
  rw [initiateNegotiation, if_pos hopen, hwill, writePacket_eq, eventSent]
  by_cases hwritten : (TelnetCommand.will comPortOption).wire.length ≤ written.willOption
  · rw [decide_eq_true hwritten, if_pos hwritten]
    simp only [setBaudRate, setCharacterSize, setParity, setStopBits, setFlowControl]
    rw [sendCommand_emit hopen (by decide), sendCommand_emit hopen (by decide),
      sendCommand_emit hopen (by decide), sendCommand_emit hopen (by decide),
      sendCommand_emit hopen (by decide)]
    rfl
  · rw [decide_eq_false hwritten, if_neg hwritten]

/-- One call: the bytes it puts on the socket are those of what it means. -/
theorem portStep_sent (port : NetworkSerialPort) (event : PortEvent) :
    (portStep port event).sent =
      port.sent ++ (if port.isOpen then eventSent event else []).flatMap Sent.wire := by
  cases hopen : port.isOpen with
  | false =>
    have hclosed : portStep port event = port := by
      cases event <;>
        simp [portStep, writeSome, initiateNegotiation, setBaudRate, setCharacterSize, setParity,
          setStopBits, setFlowControl, sendCommand, hopen]
    simp [hclosed]
  | true =>
    rw [if_pos rfl]
    cases event with
    | writeSome payload outcome =>
      cases outcome <;> simp [portStep, writeSome, hopen, eventSent, Sent.wire]
    | initiateNegotiation written =>
      exact congrArg NetworkSerialPort.sent (initiateNegotiation_eq hopen written)
    | setBaudRate baudRate written =>
      exact congrArg NetworkSerialPort.sent (sendCommand_eq hopen (by decide) _ written)
    | setCharacterSize size written =>
      exact congrArg NetworkSerialPort.sent (sendCommand_eq hopen (by decide) _ written)
    | setParity parity written =>
      exact congrArg NetworkSerialPort.sent (sendCommand_eq hopen (by decide) _ written)
    | setStopBits stopBits written =>
      exact congrArg NetworkSerialPort.sent (sendCommand_eq hopen (by decide) _ written)
    | setFlowControl flowControl written =>
      exact congrArg NetworkSerialPort.sent (sendCommand_eq hopen (by decide) _ written)

theorem portRun_sent (port : NetworkSerialPort) (events : List PortEvent) :
    (portRun port events).sent = port.sent ++ (runSent port events).flatMap Sent.wire := by
  induction events generalizing port with
  | nil => simp [portRun, runSent]
  | cons event events ih =>
    rw [portRun, foldl_cons, ← portRun, ih, portStep_sent, runSent, flatMap_append, append_assoc]

end

/-! ## Without `FF` in the data -/

/-- The telnet items of what is transmitted, if no command breaks off. -/
def Sent.items : Sent → List TelnetItem
  | payload bytes => bytes.map .data
  | command c written => if c.wire.length ≤ written then [c.item] else []

theorem telnetStream_data {bytes : List UInt8} (h : iacByte ∉ bytes) :
    telnetStream (bytes.map .data) = bytes := by
  induction bytes with
  | nil => rfl
  | cons b bytes ih =>
    rw [mem_cons, not_or] at h
    have hwire : (TelnetItem.data b).wire = [b] := escape_cons_of_ne (Ne.symm h.1) []
    rw [map_cons, telnetStream, flatMap_cons, ← telnetStream, ih h.2, hwire]
    rfl

variable {s : Sent}

theorem telnetStream_items (huncut : s.Uncut) (hdata : iacByte ∉ s.data) :
    telnetStream s.items = s.wire := by
  cases s with
  | payload bytes => exact telnetStream_data hdata
  | command c written =>
    rw [Sent.items, Sent.wire]
    rcases huncut with hwhole | rfl
    · rw [if_pos hwhole, take_of_length_le hwhole, telnetStream, flatMap_singleton]
      rfl
    · rw [if_neg (Nat.not_le.mpr c.length_wire_pos)]
      rfl

theorem observed_items (hfits : s.FitsBuffer) :
    dataBytes (s.items.flatMap TelnetItem.observed) = s.data ∧
      controls (s.items.flatMap TelnetItem.observed) = s.commands := by
  cases s with
  | payload bytes =>
    have hobserved : (bytes.map TelnetItem.data).flatMap TelnetItem.observed = bytes.map .data := by
      clear hfits
      induction bytes with
      | nil => rfl
      | cons b bytes ih => rw [map_cons, flatMap_cons, ih]; rfl
    rw [Sent.items, hobserved, dataBytes_map_data, controls_map_data]
    exact ⟨rfl, rfl⟩
  | command c written =>
    rw [Sent.items, Sent.commands]
    split
    · rw [flatMap_singleton, TelnetCommand.observed_item hfits]
      cases c <;> exact ⟨rfl, rfl⟩
    · exact ⟨rfl, rfl⟩

/-- Without `FF` in the data, the bytes on the socket are a well-formed stream, and the
byte processor observes what was meant. -/
theorem observe_sent {sent : List Sent} (huncut : ∀ s ∈ sent, s.Uncut)
    (hfits : ∀ s ∈ sent, s.FitsBuffer) (hdata : iacByte ∉ sent.flatMap Sent.data) :
    dataBytes (ProtocolHandler.observe {} (sent.flatMap Sent.wire)).2 = sent.flatMap Sent.data ∧
      controls (ProtocolHandler.observe {} (sent.flatMap Sent.wire)).2 =
        sent.flatMap Sent.commands := by
  have hstream : sent.flatMap Sent.wire = telnetStream (sent.flatMap Sent.items) := by
    rw [telnetStream, flatMap_assoc]
    refine flatMap_congr fun s hs => (telnetStream_items (huncut s hs) fun h => hdata ?_).symm
    exact List.mem_flatMap.mpr ⟨s, hs, h⟩
  obtain ⟨h', hobserve, -⟩ := observe_telnetStream (h := {}) rfl (sent.flatMap Sent.items)
  rw [hstream, hobserve]
  clear hobserve hstream hdata huncut
  induction sent with
  | nil => exact ⟨rfl, rfl⟩
  | cons s sent ih =>
    obtain ⟨hs, hsent⟩ := List.forall_mem_cons.mp hfits
    obtain ⟨hitems, hcontrols⟩ := observed_items hs
    obtain ⟨ihdata, ihcontrols⟩ := ih hsent
    simp only [flatMap_cons, flatMap_append, dataBytes_append, controls_append] at *
    rw [hitems, hcontrols, ihdata, ihcontrols]
    exact ⟨rfl, rfl⟩

theorem fitsBuffer_commandSent (command : UInt8) {data : List UInt8} (h : data.length ≤ 4)
    (written : ℕ) : (commandSent command data written).FitsBuffer := by
  have hfits : (comPortOption :: command :: data).length ≤ maxCommandBufferSize := by
    rw [length_cons, length_cons]
    exact (Nat.add_le_add_right (Nat.add_le_add_right h 1) 1).trans (by decide)
  exact hfits

theorem fitsBuffer_oneByte (command byte : UInt8) (written : ℕ) :
    ∀ s ∈ [commandSent command [byte] written], s.FitsBuffer := by
  have hlength : [byte].length ≤ 4 := Nat.le_add_left 1 3
  exact List.forall_mem_singleton.mpr (fitsBuffer_commandSent command hlength written)

theorem fitsBuffer_eventSent (event : PortEvent) : ∀ s ∈ eventSent event, s.FitsBuffer := by
  cases event with
  | writeSome payload outcome =>
    cases outcome with
    | accepted count => exact List.forall_mem_singleton.mpr trivial
    | wouldBlock => exact forall_mem_nil _
    | error => exact forall_mem_nil _
  | initiateNegotiation written =>
    rw [eventSent, forall_mem_cons]
    refine ⟨trivial, ?_⟩
    split
    · simp only [forall_mem_cons]
      exact ⟨fitsBuffer_commandSent _ (by decide) _, fitsBuffer_commandSent _ (by decide) _,
        fitsBuffer_commandSent _ (by decide) _, fitsBuffer_commandSent _ (by decide) _,
        fitsBuffer_commandSent _ (by decide) _, forall_mem_nil _⟩
    · exact forall_mem_nil _
  | setBaudRate baudRate written =>
    have hlength : (encodeBaudRate baudRate).length ≤ 4 := Nat.le_refl 4
    exact List.forall_mem_singleton.mpr (fitsBuffer_commandSent _ hlength _)
  | setCharacterSize size written => exact fitsBuffer_oneByte _ size _
  | setParity parity written => exact fitsBuffer_oneByte _ parity.toRfc2217 _
  | setStopBits stopBits written => exact fitsBuffer_oneByte _ stopBits.toRfc2217 _
  | setFlowControl flowControl written => exact fitsBuffer_oneByte _ flowControl.toRfc2217 _

theorem fitsBuffer_runSent (port : NetworkSerialPort) (events : List PortEvent) :
    ∀ s ∈ runSent port events, s.FitsBuffer := by
  induction events generalizing port with
  | nil => exact forall_mem_nil _
  | cons event events ih =>
    rw [runSent, forall_mem_append]
    refine ⟨?_, ih _⟩
    split
    · exact fitsBuffer_eventSent event
    · exact forall_mem_nil _

/-! ## What an observation costs -/

/-- The number of bytes on the wire that an observation takes. -/
def Observed.cost : Observed → ℕ
  | data byte => (escape [byte]).length
  | option _ => 3
  | unknownCommand _ => 2
  | subnegotiation content => 4 + (escape content).length
  | overflow => 0

/-- The number of bytes that the byte processor has read towards its next
observation. -/
def ProtocolHandler.potential (h : ProtocolHandler) : ℕ :=
  match h.state with
  | .data => 0
  | .iac => 1
  | .command => 2
  | .subneg => 2 + (escape h.commandBuffer).length
  | .subnegIac => 3 + (escape h.commandBuffer).length

theorem escape_append (xs ys : List UInt8) : escape (xs ++ ys) = escape xs ++ escape ys :=
  flatMap_append

theorem length_escape (bytes : List UInt8) :
    (escape bytes).length = bytes.length + bytes.count iacByte := by
  induction bytes with
  | nil => rfl
  | cons b bytes ih =>
    by_cases hb : b = iacByte
    · subst hb
      rw [escape_cons, length_append, ih, count_cons_self, length_cons]
      have hone : (escape [iacByte]).length = 2 := rfl
      omega
    · rw [escape_cons_of_ne hb, length_cons, ih, count_cons_of_ne hb, length_cons]
      omega

theorem potential_bufferCommandByte (h : ProtocolHandler) (b : UInt8) :
    (h.bufferCommandByte b).1.potential +
        totalCost Observed.cost (h.bufferCommandByte b).2.toList ≤
      2 + (escape h.commandBuffer).length + (escape [b]).length := by
  by_cases hroom : h.commandBuffer.length < maxCommandBufferSize
  · simp [bufferCommandByte, hroom, potential, escape_append]
    omega
  · simp [bufferCommandByte, hroom, potential, Observed.cost]

theorem cost_step (h : ProtocolHandler) (b : UInt8) :
    (step h b).1.potential + totalCost Observed.cost (step h b).2 ≤ h.potential + 1 := by
  rw [step]
  cases hstate : h.state with
  | data =>
    by_cases hb : b = iacByte
    · simp [processByte, hstate, hb, potential]
    · simp [processByte, hstate, hb, potential, Observed.cost, length_escape]
  | iac =>
    simp only [processByte, hstate, processIac]
    by_cases hiac : b = iacByte
    · simp [hiac, potential, hstate, Observed.cost, length_escape]
    by_cases hsb : b = sbByte
    · have hne : sbByte ≠ iacByte := by decide
      simp [hsb, hne, potential, hstate, length_escape]
    by_cases hverb : b ∈ negotiationBytes
    · simp [hiac, hsb, hverb, potential, hstate]
    · simp [hiac, hsb, hverb, potential, hstate, Observed.cost]
  | command => simp [processByte, hstate, processCommand, potential, Observed.cost]
  | subneg =>
    by_cases hb : b = iacByte
    · simp [processByte, hstate, hb, potential]
      omega
    · have hpaid := potential_bufferCommandByte h b
      have hone : (escape [b]).length = 1 := by rw [escape_cons_of_ne hb]; rfl
      simp only [processByte, hstate, if_neg hb, potential] at hpaid ⊢
      omega
  | subnegIac =>
    by_cases hb : b = seByte
    · simp [processByte, hstate, processSubnegIac, hb, potential, Observed.cost]
      omega
    · have hpaid := potential_bufferCommandByte h b
      have htwo : (escape [b]).length ≤ 2 := by
        have := count_le_length (a := iacByte) (l := [b])
        rw [length_escape]
        simp only [length_singleton] at this ⊢
        omega
      simp only [processByte, hstate, processSubnegIac, if_neg hb, potential] at hpaid ⊢
      omega

theorem cost_observe_le (bytes : List UInt8) :
    totalCost Observed.cost (ProtocolHandler.observe {} bytes).2 ≤ bytes.length := by
  have := totalCost_feed_le Observed.cost ProtocolHandler.potential cost_step {} bytes
  have hzero : ProtocolHandler.potential {} = 0 := rfl
  rw [hzero, Nat.zero_add] at this
  exact (Nat.le_add_left _ _).trans this

theorem totalCost_eq (observed : List Observed) :
    totalCost Observed.cost observed =
      (escape (dataBytes observed)).length + totalCost Observed.cost (controls observed) := by
  induction observed with
  | nil => rfl
  | cons o observed ih =>
    rw [totalCost_cons, ih, dataBytes_cons, escape_append, length_append]
    cases hdata : o.dataByte? with
    | some b =>
      have hcost : o.cost = (escape [b]).length := by
        cases o <;> cases hdata
        rfl
      have hcontrols : controls (o :: observed) = controls observed := by
        simp [controls, hdata]
      rw [hcost, hcontrols]
      exact (Nat.add_assoc _ _ _).symm
    | none =>
      have hcontrols : controls (o :: observed) = o :: controls observed := by
        simp [controls, hdata]
      have hnil : (escape (none : Option UInt8).toList).length = 0 := rfl
      rw [hcontrols, totalCost_cons, hnil]
      omega

theorem cost_sent (huncut : s.Uncut) :
    s.data.length + totalCost Observed.cost s.commands = s.wire.length := by
  cases s with
  | payload bytes => rfl
  | command c written =>
    have hcost : c.observed.cost = c.wire.length := by
      cases c with
      | will option => rfl
      | subnegotiation content =>
        simp only [TelnetCommand.observed, Observed.cost, TelnetCommand.wire,
          TelnetCommand.item, TelnetItem.wire, length_append, length_cons,
          length_nil]
        omega
    rw [Sent.data, Sent.commands, Sent.wire, length_nil, Nat.zero_add]
    rcases huncut with hwhole | rfl
    · rw [if_pos hwhole, take_of_length_le hwhole, totalCost_cons, hcost]
      rfl
    · rw [if_neg (Nat.not_le.mpr c.length_wire_pos)]
      rfl

theorem totalCost_sent {sent : List Sent} (huncut : ∀ s ∈ sent, s.Uncut) :
    (sent.flatMap Sent.data).length + totalCost Observed.cost (sent.flatMap Sent.commands) =
      (sent.flatMap Sent.wire).length := by
  induction sent with
  | nil => rfl
  | cons s sent ih =>
    obtain ⟨hs, hsent⟩ := List.forall_mem_cons.mp huncut
    have hone := cost_sent hs
    have hrest := ih hsent
    simp only [flatMap_cons, length_append, totalCost_append]
    omega

/-- **Transparency.**  Provided that no command breaks off half-way, a peer that filters
what is on the socket recovers the data and the commands exactly when no `FF` was
written as data. -/
theorem transparent_iff (events : List PortEvent) {reads : List (List UInt8)}
    (hreads : reads.flatten = (portRun {} events).sent)
    (huncut : ∀ s ∈ runSent {} events, s.Uncut) :
    (filterReads {} reads).2 = (runSent {} events).flatMap Sent.data ∧
        controls (ProtocolHandler.observe {} reads.flatten).2 =
          (runSent {} events).flatMap Sent.commands ↔
      iacByte ∉ (runSent {} events).flatMap Sent.data := by
  have hfits := fitsBuffer_runSent {} events
  rw [filterReads_eq, hreads, portRun_sent, nil_append]
  constructor
  · rintro ⟨hdata, hcommands⟩
    have hcost := cost_observe_le ((runSent {} events).flatMap Sent.wire)
    have hwire := totalCost_sent huncut
    rw [totalCost_eq, hcommands, length_escape] at hcost
    rw [← hdata] at hwire ⊢
    refine List.count_eq_zero.mp ?_
    dsimp only at hwire ⊢
    omega
  · exact observe_sent huncut hfits

def probeEvents : List PortEvent :=
  [.initiateNegotiation ⟨3, 10, 7, 7, 7, 7⟩,
    .writeSome [0x10, 0x02, 0x08, 0x00, 0x1A, 0x10, 0x03] (.accepted 7)]

instance (s : Sent) : Decidable s.Uncut :=
  match s with
  | .payload _ => isTrue trivial
  | .command c written => inferInstanceAs (Decidable (c.wire.length ≤ written ∨ written = 0))

theorem transparent_probe :
    (filterReads {} [(portRun {} probeEvents).sent]).2 =
        [0x10, 0x02, 0x08, 0x00, 0x1A, 0x10, 0x03] ∧
      controls (ProtocolHandler.observe {} [(portRun {} probeEvents).sent].flatten).2 =
        [.option 44, .subnegotiation [44, 1, 0, 0, 37, 128], .subnegotiation [44, 2, 8],
          .subnegotiation [44, 3, 1], .subnegotiation [44, 4, 1], .subnegotiation [44, 5, 0]] :=
  (transparent_iff probeEvents flatten_singleton (by decide)).mpr (by decide)

/-- The preamble of a Pentair frame is read as an unknown command and as the beginning of
another. -/
theorem transparent_not_preamble :
    (filterReads {} [(portRun {} [.writeSome [0xFF, 0x00, 0xFF, 0xA5] (.accepted 4)]).sent]).2 ≠
      [0xFF, 0x00, 0xFF, 0xA5] := by
  rw [filterReads_eq]
  decide

end AqualinkAutomate.Serial
