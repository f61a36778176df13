import Mathlib.Algebra.Order.BigOperators.Group.List
import Mathlib.Data.List.GetD
import Aqualink.General.Transducer

/-!
# The inbound telnet byte processor

A remote serial port is reached over telnet.  Everything that arrives goes byte by
byte through a state machine that takes the telnet control sequences out:

```text
  IAC IAC                 the data byte FF
  IAC WILL/WONT/DO/DONT x  an option
  IAC SB ... IAC SE        a sub-negotiation, FF doubled inside
  IAC x                    any other command
```

The contents of a sub-negotiation are collected in a buffer of bounded size, which
a handler carries as a field.  When a byte does not fit, the buffer is dropped and
the machine goes back to reading data.

`filterInboundData` runs the machine over one read and compacts the data bytes to
the front of the same memory.  `filterReads_eq` shows that the compaction never
overtakes the bytes still to be read, and that how the stream is cut into reads
makes no difference.

A telnet stream is a sequence of data bytes, commands, option negotiations and
sub-negotiations.  The byte processor reads one item after the other
(`observe_wire`): in front of each item it is reading data, and so it is again
behind it.

The exception to what the items stand for is a sub-negotiation that overruns the
command buffer.  The byte that does not fit is swallowed and the machine goes back
to reading data, in the middle of the sub-negotiation, so that whatever is left of
its contents comes out as data (`TelnetItem.leaked`).  Hence the filter is exact
for the streams without such a sub-negotiation, and for no others
(`filterReads_wire_iff`).
-/

namespace AqualinkAutomate.Serial

open General List

abbrev iacByte : UInt8 := 0xFF
abbrev sbByte : UInt8 := 0xFA
abbrev seByte : UInt8 := 0xF0
abbrev willByte : UInt8 := 0xFB
abbrev wontByte : UInt8 := 0xFC
abbrev doByte : UInt8 := 0xFD
abbrev dontByte : UInt8 := 0xFE

abbrev negotiationBytes : List UInt8 := [willByte, wontByte, doByte, dontByte]

abbrev maxCommandBufferSize : ℕ := 4096

inductive State where
  | data | iac | command | subneg | subnegIac
  deriving DecidableEq

structure ProtocolHandler where
  state : State := .data
  commandBuffer : List UInt8 := []
  bounded : commandBuffer.length ≤ maxCommandBufferSize := by decide

/-- What the byte processor makes of the stream.  Only a data byte leaves it; the
others are what it logs, or hands to the command handler, which logs it. -/
inductive Observed where
  | data (byte : UInt8)
  | option (byte : UInt8)
  | unknownCommand (byte : UInt8)
  | subnegotiation (content : List UInt8)
  | overflow
  deriving DecidableEq

def Observed.dataByte? : Observed → Option UInt8
  | data byte => some byte
  | _ => none

def dataBytes (observed : List Observed) : List UInt8 := observed.filterMap Observed.dataByte?

theorem dataBytes_cons (o : Observed) (os : List Observed) :
    dataBytes (o :: os) = o.dataByte?.toList ++ dataBytes os := by
  cases o <;> rfl

@[simp] theorem dataBytes_append (xs ys : List Observed) :
    dataBytes (xs ++ ys) = dataBytes xs ++ dataBytes ys :=
  filterMap_append

@[simp] theorem dataBytes_map_data (bytes : List UInt8) :
    dataBytes (bytes.map Observed.data) = bytes := by
  induction bytes with
  | nil => rfl
  | cons b bytes ih => rw [map_cons, dataBytes_cons, ih]; rfl

theorem dataBytes_toList (observed : Option Observed) :
    dataBytes observed.toList = (observed.bind Observed.dataByte?).toList := by
  cases observed with
  | none => rfl
  | some o => cases o <;> rfl

namespace ProtocolHandler

/-- Collect a byte of a sub-negotiation, unless the buffer is full. -/
def bufferCommandByte (h : ProtocolHandler) (byte : UInt8) : ProtocolHandler × Option Observed :=
  if hroom : h.commandBuffer.length < maxCommandBufferSize then
    ({ state := .subneg
       commandBuffer := h.commandBuffer ++ [byte]
       bounded := by
         rw [length_append, length_singleton]
         exact hroom }, none)
  else ({ state := .data }, some .overflow)

def processIac (h : ProtocolHandler) (byte : UInt8) : ProtocolHandler × Option Observed :=
  if byte = iacByte then ({ h with state := .data }, some (.data byte))
  else if byte = sbByte then ({ state := .subneg }, none)
  else if byte ∈ negotiationBytes then ({ h with state := .command }, none)
  else ({ h with state := .data }, some (.unknownCommand byte))

def processCommand (h : ProtocolHandler) (byte : UInt8) : ProtocolHandler × Option Observed :=
  ({ h with state := .data }, some (.option byte))

/-- A byte that is neither `SE` nor an escaped `IAC` is unexpected, and kept all the
same. -/
def processSubnegIac (h : ProtocolHandler) (byte : UInt8) : ProtocolHandler × Option Observed :=
  if byte = seByte then ({ h with state := .data }, some (.subnegotiation h.commandBuffer))
  else h.bufferCommandByte byte

def processByte (h : ProtocolHandler) (byte : UInt8) : ProtocolHandler × Option Observed :=
  match h.state with
  | .data =>
    if byte = iacByte then ({ h with state := .iac }, none) else (h, some (.data byte))
  | .iac => h.processIac byte
  | .command => h.processCommand byte
  | .subneg =>
    if byte = iacByte then ({ h with state := .subnegIac }, none) else h.bufferCommandByte byte
  | .subnegIac => h.processSubnegIac byte

/-- The byte processor as a machine that reads a stream. -/
def step (h : ProtocolHandler) (byte : UInt8) : ProtocolHandler × List Observed :=
  ((h.processByte byte).1, (h.processByte byte).2.toList)

/-- What the byte processor makes of a stream. -/
def observe (h : ProtocolHandler) (stream : List UInt8) : ProtocolHandler × List Observed :=
  feed step h stream

end ProtocolHandler

/-! ## One read -/

/-- A read while it is filtered in place: the memory, and the number of data bytes
compacted to its front. -/
structure FilterState where
  handler : ProtocolHandler
  raw : List UInt8
  outPos : ℕ := 0

def filterPass (s : FilterState) (position : ℕ) : FilterState :=
  let (handler, observed) := s.handler.processByte (s.raw.getD position 0)
  match observed.bind Observed.dataByte? with
  | some byte => { handler, raw := s.raw.set s.outPos byte, outPos := s.outPos + 1 }
  | none => { s with handler }

/-- `FilterInboundData`, on the memory of one read. -/
def filterInboundData (handler : ProtocolHandler) (raw : List UInt8) : FilterState :=
  (range raw.length).foldl filterPass { handler, raw }

/-- The filter on one read after the other: the handler at the end, and the outputs
one behind the other. -/
def filterReads (handler : ProtocolHandler) : List (List UInt8) → ProtocolHandler × List UInt8
  | [] => (handler, [])
  | raw :: reads =>
    let s := filterInboundData handler raw
    let rest := filterReads s.handler reads
    (rest.1, s.raw.take s.outPos ++ rest.2)

section

variable {handler : ProtocolHandler} {raw : List UInt8} {position : ℕ} {s : FilterState}

theorem filterPass_of_none
    (h : (s.handler.processByte (s.raw.getD position 0)).2.bind Observed.dataByte? = none) :
    filterPass s position =
      { s with handler := (s.handler.processByte (s.raw.getD position 0)).1 } := by
  simp only [filterPass, h]

theorem filterPass_of_some {byte : UInt8}
    (h : (s.handler.processByte (s.raw.getD position 0)).2.bind Observed.dataByte? = some byte) :
    filterPass s position =
      { handler := (s.handler.processByte (s.raw.getD position 0)).1
        raw := s.raw.set s.outPos byte
        outPos := s.outPos + 1 } := by
  simp only [filterPass, h]

/-- After so many bytes of the read: the data bytes among them are at the front, and
the bytes still to be read are untouched. -/
structure Compacted (handler : ProtocolHandler) (raw : List UInt8) (position : ℕ)
    (s : FilterState) : Prop where
  handler_eq : s.handler = (handler.observe (raw.take position)).1
  output_eq : s.raw.take s.outPos = dataBytes (handler.observe (raw.take position)).2
  outPos_le : s.outPos ≤ position
  unread_eq : s.raw.drop position = raw.drop position

theorem initial_compacted : Compacted handler raw 0 { handler, raw } :=
  ⟨rfl, rfl, Nat.le_refl 0, rfl⟩

theorem observe_take_succ (hposition : position < raw.length) :
    handler.observe (raw.take (position + 1)) =
      (((handler.observe (raw.take position)).1.processByte raw[position]).1,
        (handler.observe (raw.take position)).2 ++
          ((handler.observe (raw.take position)).1.processByte raw[position]).2.toList) := by
  rw [take_succ_eq_append_getElem hposition, ProtocolHandler.observe, feed_append, feed_cons,
    feed_nil, append_nil]
  rfl

theorem filterPass_compacted (hposition : position < raw.length)
    (h : Compacted handler raw position s) :
    Compacted handler raw (position + 1) (filterPass s position) := by
  have hlength : position < s.raw.length := by
    have := congrArg List.length h.unread_eq
    rw [length_drop, length_drop] at this
    omega
  have hbyte : s.raw.getD position 0 = raw[position] := by
    have := congrArg head? h.unread_eq
    rw [head?_drop, head?_drop, getElem?_eq_getElem hlength,
      getElem?_eq_getElem hposition, Option.some_inj] at this
    rw [getD_eq_getElem _ _ hlength, this]
  have hunread : s.raw.drop (position + 1) = raw.drop (position + 1) := by
    rw [← tail_drop, ← tail_drop, h.unread_eq]
  have hprocess : s.handler.processByte (s.raw.getD position 0) =
      (handler.observe (raw.take position)).1.processByte raw[position] := by
    rw [h.handler_eq, hbyte]
  have houtPos := h.outPos_le
  have hdata := dataBytes_toList (s.handler.processByte (s.raw.getD position 0)).2
  cases hobserved : (s.handler.processByte (s.raw.getD position 0)).2.bind Observed.dataByte? with
  | none =>
    rw [hobserved, hprocess] at hdata
    rw [filterPass_of_none hobserved]
    refine ⟨?_, ?_, Nat.le_succ_of_le houtPos, hunread⟩
    · rw [observe_take_succ hposition, ← hprocess]
    · rw [observe_take_succ hposition, dataBytes_append, hdata, h.output_eq]
      exact (append_nil _).symm
  | some byte =>
    rw [hobserved, hprocess] at hdata
    rw [filterPass_of_some hobserved]
    refine ⟨?_, ?_, Nat.succ_le_succ houtPos, ?_⟩
    · rw [observe_take_succ hposition, ← hprocess]
    · have hset :
          (s.raw.set s.outPos byte).take (s.outPos + 1) = s.raw.take s.outPos ++ [byte] := by
        have hlt : s.outPos < (s.raw.set s.outPos byte).length := by
          rw [length_set]
          omega
        rw [take_succ_eq_append_getElem hlt, take_set_of_le (Nat.le_refl _), getElem_set_self]
      rw [observe_take_succ hposition, dataBytes_append, hdata, hset, h.output_eq]
      rfl
    · rw [drop_set_of_lt (by omega), hunread]

theorem filterInboundData_compacted (handler : ProtocolHandler) (raw : List UInt8) :
    Compacted handler raw raw.length (filterInboundData handler raw) := by
  have hrun (position : ℕ) (hle : position ≤ raw.length) :
      Compacted handler raw position ((range position).foldl filterPass { handler, raw }) := by
    induction position with
    | zero => exact initial_compacted
    | succ position ih =>
      rw [range_succ, foldl_append]
      exact filterPass_compacted hle (ih (by omega))
  exact hrun raw.length (Nat.le_refl _)

/-- Filtering a read in place is feeding it to the byte processor. -/
theorem filterInboundData_eq (handler : ProtocolHandler) (raw : List UInt8) :
    (filterInboundData handler raw).handler = (handler.observe raw).1 ∧
      (filterInboundData handler raw).raw.take (filterInboundData handler raw).outPos =
        dataBytes (handler.observe raw).2 := by
  have h := filterInboundData_compacted handler raw
  have hhandler := h.handler_eq
  have houtput := h.output_eq
  rw [take_length] at hhandler houtput
  exact ⟨hhandler, houtput⟩

theorem filterReads_eq (handler : ProtocolHandler) (reads : List (List UInt8)) :
    filterReads handler reads =
      ((handler.observe reads.flatten).1, dataBytes (handler.observe reads.flatten).2) := by
  rw [ProtocolHandler.observe, ← feedChunks_eq]
  induction reads generalizing handler with
  | nil => rfl
  | cons raw reads ih =>
    obtain ⟨hhandler, houtput⟩ := filterInboundData_eq handler raw
    simp only [filterReads, ih, hhandler, houtput, feedChunks, dataBytes_append,
      ProtocolHandler.observe]

end

/-! ## Well-formed telnet streams -/

open ProtocolHandler

/-- `FF` is sent doubled. -/
def escape (bytes : List UInt8) : List UInt8 :=
  bytes.flatMap fun b => if b = iacByte then [iacByte, iacByte] else [b]

/-- A part of a well-formed telnet stream. -/
inductive TelnetItem where
  | data (byte : UInt8)
  | command (byte : UInt8) (h : byte ∉ iacByte :: sbByte :: negotiationBytes)
  | negotiation (verb : UInt8) (h : verb ∈ negotiationBytes) (option : UInt8)
  | subnegotiation (content : List UInt8)

namespace TelnetItem

def wire : TelnetItem → List UInt8
  | data byte => escape [byte]
  | command byte _ => [iacByte, byte]
  | negotiation verb _ option => [iacByte, verb, option]
  | subnegotiation content => [iacByte, sbByte] ++ escape content ++ [iacByte, seByte]

/-- The data that an item carries. -/
def payload : TelnetItem → List UInt8
  | data byte => [byte]
  | _ => []

/-- What comes out of an item although it is not data. -/
def leaked : TelnetItem → List UInt8
  | subnegotiation content => content.drop (maxCommandBufferSize + 1)
  | _ => []

def observed : TelnetItem → List Observed
  | data byte => [.data byte]
  | command byte _ => [.unknownCommand byte]
  | negotiation _ _ option => [.option option]
  | subnegotiation content =>
    if content.length ≤ maxCommandBufferSize then [.subnegotiation content]
    else .overflow :: (content.drop (maxCommandBufferSize + 1)).map .data ++
      [.unknownCommand seByte]

theorem dataBytes_observed (item : TelnetItem) :
    dataBytes item.observed = item.payload ++ item.leaked := by
  cases item with
  | data byte => rfl
  | command byte h => rfl
  | negotiation verb h option => rfl
  | subnegotiation content =>
    rw [observed, leaked]
    by_cases hfits : content.length ≤ maxCommandBufferSize
    · rw [if_pos hfits, drop_eq_nil_of_le (by omega)]
      rfl
    · rw [if_neg hfits, cons_append, dataBytes_cons, dataBytes_append, dataBytes_map_data]
      exact append_nil _

end TelnetItem

/-- The bytes of a stream. -/
def telnetStream (items : List TelnetItem) : List UInt8 := items.flatMap TelnetItem.wire

/-! ## Reading one item -/

section

variable {h : ProtocolHandler}

theorem observe_append (h : ProtocolHandler) (xs ys : List UInt8) :
    h.observe (xs ++ ys) =
      (((h.observe xs).1.observe ys).1, (h.observe xs).2 ++ ((h.observe xs).1.observe ys).2) :=
  feed_append step h xs ys

theorem observe_nil (h : ProtocolHandler) : h.observe [] = (h, []) := rfl

theorem observe_cons (h : ProtocolHandler) (b : UInt8) (bytes : List UInt8) :
    h.observe (b :: bytes) =
      (((h.processByte b).1.observe bytes).1,
        (h.processByte b).2.toList ++ ((h.processByte b).1.observe bytes).2) := rfl

theorem escape_cons (b : UInt8) (bytes : List UInt8) :
    escape (b :: bytes) = escape [b] ++ escape bytes := by
  simp [escape]

theorem escape_cons_of_ne {b : UInt8} (hb : b ≠ iacByte) (bytes : List UInt8) :
    escape (b :: bytes) = b :: escape bytes := by
  simp [escape, hb]

theorem observe_escape_of_data (hdata : h.state = .data) (bytes : List UInt8) :
    h.observe (escape bytes) = (h, bytes.map .data) := by
  induction bytes with
  | nil => rfl
  | cons b bytes ih =>
    have hone : h.observe (escape [b]) = (h, [.data b]) := by
      have hback : { h with state := .data } = h := by
        rw [← hdata]
      by_cases hb : b = iacByte
      · subst hb
        simp [escape, observe_cons, observe_nil, processByte, processIac, hdata, hback]
      · simp [escape, observe_cons, observe_nil, processByte, hdata, hb]
    rw [escape_cons, observe_append, hone, ih]
    rfl

theorem observe_escape_of_subneg (hstate : h.state = .subneg) (b : UInt8) :
    h.observe (escape [b]) = ((h.bufferCommandByte b).1, (h.bufferCommandByte b).2.toList) := by
  by_cases hb : b = iacByte
  · subst hb
    have hne : iacByte ≠ seByte := by decide
    simp [escape, observe_cons, observe_nil, processByte, hstate, processSubnegIac, hne,
      bufferCommandByte]
  · simp [escape, observe_cons, observe_nil, processByte, hstate, hb]

theorem bufferCommandByte_of_room (hroom : h.commandBuffer.length < maxCommandBufferSize)
    (b : UInt8) :
    (h.bufferCommandByte b).1.state = .subneg ∧
      (h.bufferCommandByte b).1.commandBuffer = h.commandBuffer ++ [b] ∧
      (h.bufferCommandByte b).2 = none := by
  simp [bufferCommandByte, hroom]

theorem bufferCommandByte_of_full (hfull : ¬ h.commandBuffer.length < maxCommandBufferSize)
    (b : UInt8) : h.bufferCommandByte b = ({ state := .data }, some .overflow) := by
  simp only [bufferCommandByte, dif_neg hfull]

theorem observe_content_of_fits (hstate : h.state = .subneg) (content : List UInt8)
    (hfits : h.commandBuffer.length + content.length ≤ maxCommandBufferSize) :
    ∃ h' : ProtocolHandler, h.observe (escape content) = (h', []) ∧ h'.state = .subneg ∧
      h'.commandBuffer = h.commandBuffer ++ content := by
  induction content generalizing h with
  | nil => exact ⟨h, rfl, hstate, (append_nil _).symm⟩
  | cons b content ih =>
    rw [length_cons] at hfits
    obtain ⟨hstate', hbuffer, hsilent⟩ :=
      bufferCommandByte_of_room (h := h) (by omega) b
    obtain ⟨h', hobserve, hstate'', hbuffer'⟩ := ih hstate' (by
      rw [hbuffer, length_append, length_singleton]
      omega)
    refine ⟨h', ?_, hstate'', ?_⟩
    · rw [escape_cons, observe_append, observe_escape_of_subneg hstate, hsilent, hobserve]
      rfl
    · rw [hbuffer', hbuffer, append_assoc]
      rfl

theorem observe_content_of_overrun (hstate : h.state = .subneg) (content : List UInt8)
    (hover : ¬ h.commandBuffer.length + content.length ≤ maxCommandBufferSize) :
    h.observe (escape content) = ({ state := .data }, .overflow ::
        (content.drop (maxCommandBufferSize - h.commandBuffer.length + 1)).map .data) := by
  have hbounded := h.bounded
  obtain ⟨b, rest, hrest⟩ : ∃ b rest,
      content.drop (maxCommandBufferSize - h.commandBuffer.length) = b :: rest := by
    refine exists_cons_of_ne_nil fun hnil => ?_
    have := List.drop_eq_nil_iff.mp hnil
    omega
  have hdrop : content.drop (maxCommandBufferSize - h.commandBuffer.length + 1) = rest := by
    rw [← tail_drop, hrest, tail_cons]
  have hsplit := take_append_drop (maxCommandBufferSize - h.commandBuffer.length) content
  have hlength : (content.take (maxCommandBufferSize - h.commandBuffer.length)).length =
      maxCommandBufferSize - h.commandBuffer.length := by
    rw [length_take]
    omega
  obtain ⟨h', hobserve, hstate', hbuffer⟩ := observe_content_of_fits hstate
    (content.take (maxCommandBufferSize - h.commandBuffer.length)) (by omega)
  have hfull : ¬ h'.commandBuffer.length < maxCommandBufferSize := by
    rw [hbuffer, length_append]
    omega
  have hescape : escape content =
      escape (content.take (maxCommandBufferSize - h.commandBuffer.length)) ++
        (escape [b] ++ escape rest) := by
    rw [← escape_cons, ← hrest, escape, escape, escape, ← flatMap_append, hsplit]
  rw [hescape, observe_append, hobserve, observe_append, observe_escape_of_subneg hstate',
    bufferCommandByte_of_full hfull, observe_escape_of_data rfl, hdrop]
  rfl

theorem observe_command_of_data (hdata : h.state = .data) {byte : UInt8}
    (hbyte : byte ∉ iacByte :: sbByte :: negotiationBytes) :
    h.observe [iacByte, byte] = ({ h with state := .data }, [.unknownCommand byte]) := by
  rw [mem_cons, mem_cons, not_or, not_or] at hbyte
  obtain ⟨hiac, hsb, hnegotiation⟩ := hbyte
  simp only [observe_cons, observe_nil, processByte, hdata, processIac, if_neg hiac, if_neg hsb,
    if_neg hnegotiation]
  rfl

theorem observe_end_of_subneg (hstate : h.state = .subneg) :
    h.observe [iacByte, seByte] =
      ({ h with state := .data }, [.subnegotiation h.commandBuffer]) := by
  simp only [observe_cons, observe_nil, processByte, hstate, processSubnegIac]
  rfl

theorem observe_item (hdata : h.state = .data) (item : TelnetItem) :
    ∃ h' : ProtocolHandler, h.observe item.wire = (h', item.observed) ∧ h'.state = .data := by
  cases item with
  | data byte => exact ⟨h, observe_escape_of_data hdata [byte], hdata⟩
  | command byte hbyte => exact ⟨_, observe_command_of_data hdata hbyte, rfl⟩
  | negotiation verb hverb option =>
    have hiac : verb ≠ iacByte := by
      rintro rfl
      revert hverb
      decide
    have hsb : verb ≠ sbByte := by
      rintro rfl
      revert hverb
      decide
    refine ⟨{ h with state := .data }, ?_, rfl⟩
    simp only [TelnetItem.wire, TelnetItem.observed, observe_cons, observe_nil, processByte,
      hdata, processIac, if_neg hiac, if_neg hsb, if_pos hverb, processCommand]
    rfl
  | subnegotiation content =>
    have hstart : h.observe [iacByte, sbByte] = ({ state := .subneg }, []) := by
      have hne : sbByte ≠ iacByte := by decide
      simp only [observe_cons, observe_nil, processByte, hdata, processIac, if_neg hne]
      rfl
    rw [TelnetItem.wire, TelnetItem.observed, observe_append, observe_append, hstart]
    by_cases hfits : content.length ≤ maxCommandBufferSize
    · obtain ⟨h', hobserve, hstate, hbuffer⟩ := observe_content_of_fits
        (h := { state := .subneg }) rfl content (by simpa using hfits)
      refine ⟨{ h' with state := .data }, ?_, rfl⟩
      rw [if_pos hfits, hobserve, observe_end_of_subneg hstate]
      have hcontent : h'.commandBuffer = content := hbuffer
      simp [hcontent]
    · have hobserve := observe_content_of_overrun (h := { state := .subneg }) rfl content
        (by simpa using hfits)
      refine ⟨{ state := .data }, ?_, rfl⟩
      rw [if_neg hfits, hobserve, observe_command_of_data rfl (by decide)]
      rfl

end

theorem observe_telnetStream {h : ProtocolHandler} (hdata : h.state = .data)
    (items : List TelnetItem) :
    ∃ h' : ProtocolHandler,
      h.observe (telnetStream items) = (h', items.flatMap TelnetItem.observed) ∧
        h'.state = .data := by
  induction items generalizing h with
  | nil => exact ⟨h, rfl, hdata⟩
  | cons item items ih =>
    obtain ⟨h', hitem, hdata'⟩ := observe_item hdata item
    obtain ⟨h'', hitems, hdata''⟩ := ih hdata'
    refine ⟨h'', ?_, hdata''⟩
    rw [telnetStream, flatMap_cons, observe_append, hitem, ← telnetStream, hitems, flatMap_cons]

/-! ## Leaks -/

theorem dataBytes_flatMap_observed (items : List TelnetItem) :
    dataBytes (items.flatMap TelnetItem.observed) =
      items.flatMap fun item => item.payload ++ item.leaked := by
  induction items with
  | nil => rfl
  | cons item items ih =>
    rw [flatMap_cons, dataBytes_append, item.dataBytes_observed, ih, flatMap_cons]

theorem flatMap_payload_leaked_eq_iff (items : List TelnetItem) :
    (items.flatMap fun item => item.payload ++ item.leaked) = items.flatMap TelnetItem.payload ↔
      ∀ item ∈ items, item.leaked = [] := by
  constructor
  · intro heq
    have hlength := congrArg List.length heq
    simp only [length_flatMap, length_append, sum_map_add] at hlength
    have hzero : (items.map fun item => item.leaked.length).sum = 0 := by omega
    intro item hitem
    have hmem := mem_map_of_mem (f := fun item : TelnetItem => item.leaked.length) hitem
    exact List.length_eq_zero_iff.mp (List.sum_eq_zero_iff_forall_eq_nat.mp hzero _ hmem)
  · intro hnone
    exact flatMap_congr fun item hitem => by rw [hnone item hitem, append_nil]

/-- **The inbound filter.**  However a well-formed stream is cut into reads, the filter
delivers exactly its data bytes if, and only if, no sub-negotiation is longer than the
command buffer by more than one byte. -/
theorem filterReads_telnetStream_iff {items : List TelnetItem} {reads : List (List UInt8)}
    (hreads : reads.flatten = telnetStream items) :
    (filterReads {} reads).2 = items.flatMap TelnetItem.payload ↔
      ∀ content, .subnegotiation content ∈ items → content.length ≤ maxCommandBufferSize + 1 := by
  obtain ⟨h', hobserve, -⟩ := observe_telnetStream (h := {}) rfl items
  rw [filterReads_eq, hreads, hobserve, dataBytes_flatMap_observed, flatMap_payload_leaked_eq_iff]
  constructor
  · intro hnone content hcontent
    exact List.drop_eq_nil_iff.mp (hnone _ hcontent)
  · intro hshort item hitem
    cases item with
    | subnegotiation content => exact List.drop_eq_nil_iff.mpr (hshort content hitem)
    | data _ => rfl
    | command _ _ => rfl
    | negotiation _ _ _ => rfl

/-- Data on both sides of a negotiation and a sub-negotiation, cut inside each. -/
theorem filterReads_telnetStream_cut :
    (filterReads {} [[0xFF], [0xFF, 0xFF, 0xFB], [44, 0xFF, 0xFA, 44, 0xFF],
        [0xFF, 101, 0xFF, 0xF0, 7]]).2 = [0xFF, 7] := by
  have hreads : [[0xFF], [0xFF, 0xFF, 0xFB], [44, 0xFF, 0xFA, 44, 0xFF],
      [0xFF, 101, 0xFF, 0xF0, 7]].flatten =
      telnetStream [.data 0xFF, .negotiation willByte (by decide) 44,
        .subnegotiation [44, 0xFF, 101], .data 7] := by decide
  exact (filterReads_telnetStream_iff hreads).mpr (by simp)

/-- Of a sub-negotiation of 4098 bytes the last one comes out as data. -/
theorem filterReads_telnetStream_overrun :
    (filterReads {} [telnetStream [.subnegotiation (replicate 4098 0x55)]]).2 = [0x55] ∧
      [TelnetItem.subnegotiation (replicate 4098 0x55)].flatMap TelnetItem.payload = [] := by
  refine ⟨?_, rfl⟩
  obtain ⟨h', hobserve, -⟩ := observe_telnetStream (h := {}) rfl
    [.subnegotiation (replicate 4098 0x55)]
  rw [filterReads_eq, flatten_singleton, hobserve, dataBytes_flatMap_observed]
  simp only [flatMap_cons, flatMap_nil, TelnetItem.payload, TelnetItem.leaked, drop_replicate]
  rfl

end AqualinkAutomate.Serial
