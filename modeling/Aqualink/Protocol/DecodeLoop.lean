import Aqualink.General.Iteration
import Aqualink.Jandy.Generator
import Aqualink.Pentair.Generator

/-!
# The decode loop

The registry offers the serial buffer to the generators in order; the loop calls
the registry until a generator waits for more data or reports an error that is
not worth another try.

Every call either leaves the loop or takes bytes out of the buffer
(`generateMessage_consumes`), so the loop ends on every content and with every
order of the generators.  That makes `processMessages` a total function, and
`Decodes` describes what it does one call at a time.
-/

namespace AqualinkAutomate.Protocol

open General List

/-! ## The registry -/

/-- The generators that the protocols register. -/
inductive GeneratorKind where
  | pentair
  | jandy
  deriving DecidableEq

inductive ProtocolMessage where
  | jandy (message : Jandy.JandyMessage)
  | pentair (message : Pentair.PentairMessage)
  deriving DecidableEq

def GeneratorKind.generator : GeneratorKind → List UInt8 →
    Except ErrorCode ProtocolMessage × List UInt8
  | .jandy, buffer =>
    let (message, rest) := Jandy.generateMessageFromRawData buffer
    (message.map .jandy, rest)
  | .pentair, buffer =>
    let (message, rest) := Pentair.generateMessageFromRawData buffer
    (message.map .pentair, rest)

def tryGenerators : List GeneratorKind → List UInt8 →
    Except ErrorCode ProtocolMessage × List UInt8
  | [], buffer => (.error .waitingForMoreData, buffer)
  | entry :: entries, buffer =>
    match entry.generator buffer with
    | (.ok message, rest) => (.ok message, rest)
    | (.error code, rest) =>
      if code = .waitingForMoreData then tryGenerators entries rest
      else (.error code, rest)

/-- `MessageGeneratorRegistry::GenerateMessage`. -/
def generateMessage (generators : List GeneratorKind) (buffer : List UInt8) :
    Except ErrorCode ProtocolMessage × List UInt8 :=
  if generators = [] then (.error .cannotFindGenerator, buffer)
  else tryGenerators generators buffer

/-- The order in which the application registers its two generators. -/
def mixedBus : List GeneratorKind := [.pentair, .jandy]

/-! ## The loop -/

/-- The loop goes on after these codes, provided that the buffer shrank. -/
def keepProcessing (error : ErrorCode) : Bool :=
  error == .dataAvailableToProcess || error == .checksumFailure || error == .overlappingPackets

def handleGenerationError (error : ErrorCode) (size sizeBefore : ℕ) : Bool :=
  keepProcessing error && size < sizeBefore

structure DecodeState where
  buffer : List UInt8
  dispatched : List ProtocolMessage := []
  deriving DecidableEq

/-- One pass of the loop in `ProcessMessages`. -/
def processMessagesPass (generators : List GeneratorKind) (s : DecodeState) :
    Pass DecodeState DecodeState :=
  if s.buffer = [] then .done s
  else
    match generateMessage generators s.buffer with
    | (.ok message, buffer) =>
      .again { buffer := buffer, dispatched := s.dispatched ++ [message] }
    | (.error error, buffer) =>
      if handleGenerationError error buffer.length s.buffer.length then
        .again { s with buffer := buffer }
      else .done { s with buffer := buffer }

theorem generateMessage_singleton (kind : GeneratorKind) (buffer : List UInt8) :
    generateMessage [kind] buffer = kind.generator buffer := by
  rcases hgenerate : kind.generator buffer with ⟨result, rest⟩
  cases result with
  | ok message => simp [generateMessage, tryGenerators, hgenerate]
  | error code =>
    by_cases hwait : code = .waitingForMoreData <;>
      simp [generateMessage, tryGenerators, hgenerate, hwait]

theorem generateMessage_of_preamble {buffer : List UInt8} (h : Pentair.framePreamble <:+: buffer) :
    generateMessage mixedBus buffer = GeneratorKind.pentair.generator buffer := by
  have hclaim := Pentair.generateMessageFromRawData_ne_waiting h
  rcases hgenerate : Pentair.generateMessageFromRawData buffer with ⟨result, rest⟩
  rw [hgenerate] at hclaim
  cases result with
  | ok message =>
    simp [generateMessage, mixedBus, tryGenerators, GeneratorKind.generator, hgenerate, Except.map]
  | error code =>
    have hne : code ≠ .waitingForMoreData := fun h => hclaim (congrArg Except.error h)
    simp [generateMessage, mixedBus, tryGenerators, GeneratorKind.generator, hgenerate,
      Except.map, hne]

theorem generateMessage_of_no_preamble {buffer : List UInt8}
    (h : ¬ Pentair.framePreamble <:+: buffer) :
    generateMessage mixedBus buffer = GeneratorKind.jandy.generator buffer := by
  have hdecline :
      GeneratorKind.pentair.generator buffer = (.error .waitingForMoreData, buffer) := by
    simp [GeneratorKind.generator, Pentair.generateMessageFromRawData_of_no_preamble h, Except.map]
  rw [← generateMessage_singleton]
  simp [generateMessage, mixedBus, tryGenerators, hdecline]

/-! ## What a call consumes -/

/-- The outcomes that may leave the buffer as it is. -/
def Idle (outcome : Except ErrorCode ProtocolMessage) : Prop :=
  outcome = .error .waitingForMoreData ∨ outcome = .error .dataAvailableToProcess ∨
    outcome = .error .cannotFindGenerator

theorem generator_consumes (kind : GeneratorKind) (buffer : List UInt8) :
    (kind.generator buffer).2.Sublist buffer ∧
      (Idle (kind.generator buffer).1 ∨ (kind.generator buffer).2.length < buffer.length) := by
  cases kind with
  | jandy =>
    obtain ⟨hsuffix, hwait | hlt⟩ := Jandy.generateMessageFromRawData_consumes buffer
    · exact ⟨hsuffix.sublist, .inl (.inl (congrArg (Except.map ProtocolMessage.jandy) hwait))⟩
    · exact ⟨hsuffix.sublist, .inr hlt⟩
  | pentair =>
    obtain ⟨hsublist, hwait | hdefer | hlt⟩ :=
      Pentair.generateMessageFromRawData_consumes buffer
    · exact ⟨hsublist, .inl (.inl (congrArg (Except.map ProtocolMessage.pentair) hwait))⟩
    · exact ⟨hsublist, .inl (.inr (.inl (congrArg (Except.map ProtocolMessage.pentair) hdefer)))⟩
    · exact ⟨hsublist, .inr hlt⟩

private theorem tryGenerators_consumes (generators : List GeneratorKind) (buffer : List UInt8) :
    (tryGenerators generators buffer).2.Sublist buffer ∧
      (Idle (tryGenerators generators buffer).1 ∨
        (tryGenerators generators buffer).2.length < buffer.length) := by
  induction generators generalizing buffer with
  | nil => exact ⟨List.Sublist.refl _, .inl (.inl rfl)⟩
  | cons entry entries ih =>
    obtain ⟨hsublist, hresult⟩ := generator_consumes entry buffer
    rw [tryGenerators]
    split
    next message rest heq =>
      rw [heq] at hsublist hresult
      exact ⟨hsublist, hresult⟩
    next code rest heq =>
      rw [heq] at hsublist hresult
      split
      · -- the next generator works on what this one has left
        obtain ⟨hnext, hidle | hlt⟩ := ih rest
        · exact ⟨hnext.trans hsublist, .inl hidle⟩
        · exact ⟨hnext.trans hsublist, .inr (hlt.trans_le hsublist.length_le)⟩
      · exact ⟨hsublist, hresult⟩

/-- **Consume or stop.**  A call of the registry only removes bytes, and it
removes some unless its outcome is one of those that stop the loop. -/
theorem generateMessage_consumes (generators : List GeneratorKind) (buffer : List UInt8) :
    (generateMessage generators buffer).2.Sublist buffer ∧
      (Idle (generateMessage generators buffer).1 ∨
        (generateMessage generators buffer).2.length < buffer.length) := by
  unfold generateMessage
  split
  · exact ⟨List.Sublist.refl _, .inl (.inr (.inr rfl))⟩
  · exact tryGenerators_consumes generators buffer

variable {generators : List GeneratorKind}

theorem length_lt_of_again {s next : DecodeState}
    (h : processMessagesPass generators s = .again next) :
    next.buffer.length < s.buffer.length := by
  have hconsumes := generateMessage_consumes generators s.buffer
  unfold processMessagesPass at h
  split at h
  · cases h
  · split at h
    · next message buffer heq =>
      rw [heq] at hconsumes
      cases h
      exact hconsumes.2.resolve_left (by rintro (h | h | h) <;> cases h)
    · split at h
      · next hagain =>
        cases h
        simp only [handleGenerationError, Bool.and_eq_true, decide_eq_true_eq] at hagain
        exact hagain.2
      · cases h

theorem isSome_iterate_processMessagesPass (generators : List GeneratorKind) (s : DecodeState) :
    (iterate (processMessagesPass generators) (s.buffer.length + 1) s).isSome :=
  isSome_iterate_of_measure (fun _ => True) (fun s : DecodeState => s.buffer.length)
    (fun _ _ _ h => ⟨trivial, length_lt_of_again h⟩) trivial

/-- `ProcessMessages`: what is left in the buffer, and the dispatched messages. -/
def processMessages (generators : List GeneratorKind) (buffer : List UInt8) : DecodeState :=
  (iterate (processMessagesPass generators) (buffer.length + 1) { buffer := buffer }).get
    (isSome_iterate_processMessagesPass generators { buffer := buffer })

theorem processMessagesPass_sublist (generators : List GeneratorKind) (s : DecodeState) :
    (∀ next, processMessagesPass generators s = .again next → next.buffer.Sublist s.buffer) ∧
      (∀ result, processMessagesPass generators s = .done result →
        result.buffer.Sublist s.buffer) := by
  have hconsumes := (generateMessage_consumes generators s.buffer).1
  unfold processMessagesPass
  split
  · refine ⟨nofun, fun _ h => ?_⟩
    cases h
    exact List.Sublist.refl _
  · split
    next message buffer heq =>
      rw [heq] at hconsumes
      refine ⟨fun _ h => ?_, nofun⟩
      cases h
      exact hconsumes
    next error buffer heq =>
      rw [heq] at hconsumes
      split
      · refine ⟨fun _ h => ?_, nofun⟩
        cases h
        exact hconsumes
      · refine ⟨nofun, fun _ h => ?_⟩
        cases h
        exact hconsumes

/-- The loop only removes bytes. -/
theorem sublist_of_returns {s result : DecodeState}
    (h : Returns (processMessagesPass generators) s result) : result.buffer.Sublist s.buffer :=
  h.of_invariant (fun t => t.buffer.Sublist s.buffer) (fun t => t.buffer.Sublist s.buffer)
    (fun t next hinv hpass => ((processMessagesPass_sublist generators t).1 next hpass).trans hinv)
    (fun t result hinv hpass =>
      ((processMessagesPass_sublist generators t).2 result hpass).trans hinv)
    (List.Sublist.refl _)

/-- **The decode loop consumes or stops.**  For every buffer and every order of
the generators, a call of the registry never grows the buffer; a decoded message
and a rejected packet have shrunk it, as has every pass that goes round again;
and the loop ends. -/
theorem processMessages_consumesOrStops (generators : List GeneratorKind) (buffer : List UInt8)
    (dispatched : List ProtocolMessage) :
    (generateMessage generators buffer).2.length ≤ buffer.length ∧
      (∀ message, (generateMessage generators buffer).1 = .ok message →
        (generateMessage generators buffer).2.length < buffer.length) ∧
      (∀ error, (generateMessage generators buffer).1 = .error error →
        error = .checksumFailure ∨ error = .overlappingPackets →
        (generateMessage generators buffer).2.length < buffer.length) ∧
      (∀ next, processMessagesPass generators ⟨buffer, dispatched⟩ = .again next →
        next.buffer.length < buffer.length) ∧
      Terminates (processMessagesPass generators) ⟨buffer, dispatched⟩ := by
  obtain ⟨hsublist, hresult⟩ := generateMessage_consumes generators buffer
  refine ⟨hsublist.length_le, fun message hok => ?_, fun error herror hcode => ?_,
    fun next => length_lt_of_again, ?_⟩
  · refine hresult.resolve_left ?_
    rw [hok]
    rintro (h | h | h) <;> cases h
  · refine hresult.resolve_left ?_
    rw [herror]
    rcases hcode with rfl | rfl <;> rintro (h | h | h) <;> cases h
  · obtain ⟨result, hresult⟩ := Option.isSome_iff_exists.mp
      (isSome_iterate_processMessagesPass generators ⟨buffer, dispatched⟩)
    exact ⟨result, _, hresult⟩

/-! ## Running the loop one call at a time -/

/-- Run on `buffer`, the loop dispatches `messages` in this order and leaves `rest`. -/
def Decodes (generators : List GeneratorKind) (buffer : List UInt8)
    (messages : List ProtocolMessage) (rest : List UInt8) : Prop :=
  ∀ dispatched, Returns (processMessagesPass generators) ⟨buffer, dispatched⟩
    ⟨rest, dispatched ++ messages⟩

section

variable {buffer next rest : List UInt8} {messages : List ProtocolMessage}
  {message : ProtocolMessage} {error : ErrorCode}

theorem decodes_nil : Decodes generators [] [] [] := by
  intro dispatched
  rw [append_nil]
  exact returns_of_done (by simp [processMessagesPass])

theorem decodes_of_message (hbuffer : buffer ≠ [])
    (h : generateMessage generators buffer = (.ok message, next))
    (hnext : Decodes generators next messages rest) :
    Decodes generators buffer (message :: messages) rest := by
  intro dispatched
  have hpass : processMessagesPass generators ⟨buffer, dispatched⟩ =
      .again ⟨next, dispatched ++ [message]⟩ := by
    simp [processMessagesPass, hbuffer, h]
  rw [returns_iff_of_again hpass, append_cons dispatched message messages]
  exact hnext _

theorem decodes_of_retry (hbuffer : buffer ≠ [])
    (h : generateMessage generators buffer = (.error error, next))
    (hkeep : keepProcessing error) (hshort : next.length < buffer.length)
    (hnext : Decodes generators next messages rest) : Decodes generators buffer messages rest := by
  intro dispatched
  have hpass : processMessagesPass generators ⟨buffer, dispatched⟩ = .again ⟨next, dispatched⟩ := by
    simp [processMessagesPass, hbuffer, h, handleGenerationError, hkeep, hshort]
  rw [returns_iff_of_again hpass]
  exact hnext _

theorem decodes_of_stop (h : generateMessage generators buffer = (.error error, rest))
    (hstop : keepProcessing error = false ∨ buffer.length ≤ rest.length) :
    Decodes generators buffer [] rest := by
  intro dispatched
  rw [append_nil]
  refine returns_of_done ?_
  by_cases hbuffer : buffer = []
  · have hrest : rest = [] := by
      have := (generateMessage_consumes generators buffer).1
      rw [h, hbuffer] at this
      exact List.sublist_nil.mp this
    simp [processMessagesPass, hbuffer, hrest]
  · have hhandle : handleGenerationError error rest.length buffer.length = false := by
      rcases hstop with hkeep | hlong
      · simp [handleGenerationError, hkeep]
      · simp [handleGenerationError, hlong]
    simp [processMessagesPass, hbuffer, h, hhandle]

theorem returns_processMessages (generators : List GeneratorKind) (buffer : List UInt8) :
    Returns (processMessagesPass generators) ⟨buffer, []⟩ (processMessages generators buffer) :=
  ⟨buffer.length + 1, (Option.some_get _).symm⟩

/-- The relation is the function. -/
theorem processMessages_eq (h : Decodes generators buffer messages rest) :
    processMessages generators buffer = ⟨rest, messages⟩ :=
  (returns_processMessages generators buffer).unique (h [])

theorem processMessages_sublist (generators : List GeneratorKind) (buffer : List UInt8) :
    (processMessages generators buffer).buffer.Sublist buffer :=
  sublist_of_returns (returns_processMessages generators buffer)

/-- The loop removes something exactly when its first call does. -/
theorem length_processMessages_lt_iff (hbuffer : buffer ≠ []) :
    (processMessages generators buffer).buffer.length < buffer.length ↔
      (generateMessage generators buffer).2.length < buffer.length := by
  obtain ⟨hsublist, hresult⟩ := generateMessage_consumes generators buffer
  constructor
  · intro hlt
    by_contra hge
    -- a first call that removes nothing reports an idle outcome, and the loop stops
    have hsame : (generateMessage generators buffer).2 = buffer :=
      hsublist.eq_of_length_le (not_lt.mp hge)
    obtain ⟨error, herror⟩ :
        ∃ error, generateMessage generators buffer = (.error error, buffer) := by
      rcases hresult.resolve_right hge with h | h | h <;> exact ⟨_, Prod.ext h hsame⟩
    rw [processMessages_eq (decodes_of_stop herror (.inr le_rfl))] at hlt
    exact lt_irrefl _ hlt
  · intro hlt
    have hrun := returns_processMessages generators buffer
    cases hpass : processMessagesPass generators ⟨buffer, []⟩ with
    | again next =>
      rw [returns_iff_of_again hpass] at hrun
      exact (sublist_of_returns hrun).length_le.trans_lt (length_lt_of_again hpass)
    | done result =>
      rw [← (returns_of_done hpass).unique hrun]
      unfold processMessagesPass at hpass
      rw [if_neg hbuffer] at hpass
      split at hpass
      · cases hpass
      · next error rest heq =>
        rw [heq] at hlt
        split at hpass
        · cases hpass
        · cases hpass
          exact hlt

end

end AqualinkAutomate.Protocol
