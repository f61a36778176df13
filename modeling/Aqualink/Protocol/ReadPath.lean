import Aqualink.Protocol.DecodeLoop

/-!
# The read path

A poll drains the port into the serial buffer, which never holds more than its
capacity, and then runs the decode loop on it.  Bytes that do not fit are
dropped, so a full buffer that the decode loop does not shorten is a trap: no
later byte gets in, and the decode loop sees the same bytes again.

`Stuck` says which full buffers these are.  Either a Pentair frame is awaited, or
the first packet start is a Jandy one so close to the end that the overlong
clean-up does not apply.  `fullBuffer_drains_iff` says that these and no others
keep the decode loop from removing a byte, over every run, and
`poll_of_stuck` that there is no way out.
-/

namespace AqualinkAutomate.Protocol

open General Jandy Pentair List

abbrev serialCircularBufferSize : ℕ := 4096
abbrev serialReadChunkSize : ℕ := 128

structure SerialBuffer where
  bytes : List UInt8 := []
  fits : bytes.length ≤ serialCircularBufferSize := by decide

/-- What a successful call of `read_some` delivers. -/
structure ReadChunk where
  bytes : List UInt8
  fits : bytes.length ≤ serialReadChunkSize

/-- The outcome of one call of `read_some`; every error ends the drain. -/
inductive ReadOutcome where
  | error
  | bytes (chunk : ReadChunk)

namespace SerialBuffer

@[ext] theorem ext {b b' : SerialBuffer} (h : b.bytes = b'.bytes) : b = b' := by
  cases b
  cases b'
  cases h
  rfl

/-- No byte fits any more. -/
def Full (b : SerialBuffer) : Prop := b.bytes.length = serialCircularBufferSize

instance (b : SerialBuffer) : Decidable b.Full := inferInstanceAs (Decidable (_ = _))

def insert (b : SerialBuffer) (chunk : List UInt8) : SerialBuffer where
  bytes := b.bytes ++ chunk.take (serialCircularBufferSize - b.bytes.length)
  fits := by
    have := b.fits
    rw [length_append, length_take]
    omega

/-- The decode loop keeps the capacity bound. -/
def processMessages (b : SerialBuffer) : SerialBuffer where
  bytes := (Protocol.processMessages mixedBus b.bytes).buffer
  fits := (processMessages_sublist mixedBus b.bytes).length_le.trans b.fits

end SerialBuffer

/-- `DrainReads`: the outcomes of the successive calls of `read_some` are given; a
port that has delivered all of them would block. -/
def drainReads (singleReadPerPoll : Bool) : SerialBuffer → List ReadOutcome → SerialBuffer
  | buffer, [] => buffer
  | buffer, .error :: _ => buffer
  | buffer, .bytes chunk :: outcomes =>
    if chunk.bytes = [] then buffer
    else if singleReadPerPoll then buffer.insert chunk.bytes
    else drainReads singleReadPerPoll (buffer.insert chunk.bytes) outcomes

/-- The read half of `Poll`. -/
def poll (singleReadPerPoll : Bool) (buffer : SerialBuffer) (outcomes : List ReadOutcome) :
    SerialBuffer :=
  let buffer := drainReads singleReadPerPoll buffer outcomes
  if buffer.bytes = [] then buffer else buffer.processMessages

def afterPolls (singleReadPerPoll : Bool) (buffer : SerialBuffer)
    (polls : List (List ReadOutcome)) : SerialBuffer :=
  polls.foldl (poll singleReadPerPoll) buffer

/-! ## Draining the port -/

section

variable {b : SerialBuffer}

theorem insert_of_full (h : b.Full) (chunk : List UInt8) : b.insert chunk = b := by
  ext1
  have hzero : serialCircularBufferSize - b.bytes.length = 0 := by
    rw [h]
    exact Nat.sub_self _
  simp [SerialBuffer.insert, hzero]

theorem insert_bytes_of_fits {chunk : List UInt8}
    (h : b.bytes.length + chunk.length ≤ serialCircularBufferSize) :
    (b.insert chunk).bytes = b.bytes ++ chunk := by
  have htake : chunk.take (serialCircularBufferSize - b.bytes.length) = chunk :=
    take_of_length_le (by omega)
  simp only [SerialBuffer.insert, htake]

theorem drainReads_of_full (h : b.Full) (singleReadPerPoll : Bool) (outcomes : List ReadOutcome) :
    drainReads singleReadPerPoll b outcomes = b := by
  induction outcomes with
  | nil => rfl
  | cons outcome outcomes ih =>
    cases outcome with
    | error => rfl
    | bytes chunk =>
      simp only [drainReads, insert_of_full h, ih]
      split
      · rfl
      · split <;> rfl

theorem drainReads_bytes_of_fits {chunks : List ReadChunk}
    (hne : ∀ chunk ∈ chunks, chunk.bytes ≠ [])
    (hfits : b.bytes.length + (chunks.flatMap ReadChunk.bytes).length ≤ serialCircularBufferSize) :
    (drainReads false b (chunks.map .bytes)).bytes = b.bytes ++ chunks.flatMap ReadChunk.bytes := by
  induction chunks generalizing b with
  | nil => simp [drainReads]
  | cons chunk chunks ih =>
    rw [flatMap_cons, length_append] at hfits
    have hinsert : (b.insert chunk.bytes).bytes = b.bytes ++ chunk.bytes :=
      insert_bytes_of_fits (by omega)
    simp only [map_cons, drainReads, hne chunk mem_cons_self, if_false, Bool.false_eq_true]
    rw [ih (fun c hc => hne c (mem_cons_of_mem _ hc)), hinsert, flatMap_cons, append_assoc]
    rw [hinsert, length_append]
    omega

end

/-! ## Which buffers the decode loop cannot shorten -/

/-- A Pentair frame is awaited, or no preamble is there and a Jandy packet is. -/
def Stuck (bytes : List UInt8) : Prop :=
  AwaitsFrame bytes ∨ (¬ framePreamble <:+: bytes ∧ AwaitsEnd bytes)

theorem length_processMessages_lt_iff_not_stuck {bytes : List UInt8} (hbytes : bytes ≠ []) :
    (Protocol.processMessages mixedBus bytes).buffer.length < bytes.length ↔ ¬ Stuck bytes := by
  rw [length_processMessages_lt_iff hbytes]
  by_cases hpreamble : framePreamble <:+: bytes
  · rw [generateMessage_of_preamble hpreamble]
    change (Pentair.generateMessageFromRawData bytes).2.length < _ ↔ _
    have hiff := Pentair.not_length_generateMessageFromRawData_lt_iff hpreamble
    simp only [Stuck, hpreamble, not_true, false_and, or_false, ← hiff, not_not]
  · rw [generateMessage_of_no_preamble hpreamble]
    change (Jandy.generateMessageFromRawData bytes).2.length < _ ↔ _
    have hiff := Jandy.not_length_generateMessageFromRawData_lt_iff hbytes
    have hno : ¬ AwaitsFrame bytes := by
      rintro ⟨before, after, rfl, -⟩
      exact hpreamble ⟨before, after, rfl⟩
    simp only [Stuck, hno, hpreamble, not_false_iff, true_and, false_or, ← hiff, not_not]

/-! ## Full buffers over whole runs -/

/-- The states that a run of polls from an empty buffer hands to the decode loop. -/
def HandedOver (singleReadPerPoll : Bool) (polls : List (List ReadOutcome)) (b : SerialBuffer) :
    Prop :=
  ∃ earlier outcomes, earlier ++ [outcomes] <+: polls ∧
    b = drainReads singleReadPerPoll (afterPolls singleReadPerPoll {} earlier) outcomes

/-- The decode loop shortens every full buffer of the run. -/
def DrainsWhenFull (singleReadPerPoll : Bool) (polls : List (List ReadOutcome)) : Prop :=
  ∀ b, HandedOver singleReadPerPoll polls b → b.Full →
    b.processMessages.bytes.length < b.bytes.length

/-- Whatever the port delivers from now on, the buffer stays full. -/
def Deadlocked (singleReadPerPoll : Bool) (b : SerialBuffer) : Prop :=
  ∀ later, (afterPolls singleReadPerPoll b later).Full

variable {b : SerialBuffer}

theorem SerialBuffer.Full.ne_nil (h : b.Full) : b.bytes ≠ [] := by
  intro hnil
  rw [SerialBuffer.Full, hnil] at h
  cases h

theorem processMessages_of_stuck (hfull : b.Full) (hstuck : Stuck b.bytes) :
    b.processMessages = b := by
  ext1
  refine (processMessages_sublist mixedBus b.bytes).eq_of_length_le (not_lt.mp fun hlt => ?_)
  exact (length_processMessages_lt_iff_not_stuck hfull.ne_nil).mp hlt hstuck

theorem afterPolls_of_stuck (hfull : b.Full) (hstuck : Stuck b.bytes) (singleReadPerPoll : Bool)
    (later : List (List ReadOutcome)) : afterPolls singleReadPerPoll b later = b := by
  induction later with
  | nil => rfl
  | cons outcomes later ih =>
    have hpoll : poll singleReadPerPoll b outcomes = b := by
      rw [poll, drainReads_of_full hfull]
      simp only [hfull.ne_nil, if_false, processMessages_of_stuck hfull hstuck]
    rw [afterPolls, foldl_cons, hpoll]
    exact ih

/-- **Full buffers.**  In every run, the decode loop shortens all full buffers
exactly when none of them is stuck, and a full buffer is a deadlock exactly when
it is stuck. -/
theorem fullBuffer_drains_iff (singleReadPerPoll : Bool) (polls : List (List ReadOutcome)) :
    (DrainsWhenFull singleReadPerPoll polls ↔
        ∀ b, HandedOver singleReadPerPoll polls b → b.Full → ¬ Stuck b.bytes) ∧
      ∀ b, HandedOver singleReadPerPoll polls b → b.Full →
        (Deadlocked singleReadPerPoll b.processMessages ↔ Stuck b.bytes) := by
  have hstep (b : SerialBuffer) (hfull : b.Full) :
      b.processMessages.bytes.length < b.bytes.length ↔ ¬ Stuck b.bytes :=
    length_processMessages_lt_iff_not_stuck hfull.ne_nil
  refine ⟨forall_congr' fun b => forall_congr' fun _ => forall_congr' (hstep b),
    fun b _ hfull => ⟨fun hdead => ?_, fun hstuck later => ?_⟩⟩
  · by_contra hstuck
    have hlt := (hstep b hfull).mpr hstuck
    have hstill : b.processMessages.bytes.length = serialCircularBufferSize := hdead []
    rw [hstill, hfull] at hlt
    exact lt_irrefl _ hlt
  · rwa [processMessages_of_stuck hfull hstuck, afterPolls_of_stuck hfull hstuck]

def noiseChunks : List ReadChunk :=
  replicate 31 ⟨replicate 128 0x55, by simp⟩ ++
    [⟨replicate 124 0x55 ++ framePreamble, by simp⟩]

theorem stuck_noise {n : ℕ} (hn : n ≠ 0) : Stuck (replicate n 0x55 ++ framePreamble) := by
  refine .inl ⟨replicate n 0x55, [], by simp, ?_, by decide⟩
  have hlast : (replicate n (0x55 : UInt8)).getLast? = some 0x55 := by
    simp [getLast?_replicate, hn]
  have hnone : ¬ framePreamble <:+: replicate n 0x55 := by
    intro hin
    have hmem : preambleByteFF ∈ replicate n (0x55 : UInt8) :=
      hin.subset mem_cons_self
    exact absurd (eq_of_mem_replicate hmem) (by decide)
  rw [searchIndex_append_of_getLast hlast (by decide) hnone, length_replicate]
  rfl

theorem flatMap_noiseChunks :
    noiseChunks.flatMap ReadChunk.bytes = replicate 4092 0x55 ++ framePreamble := by
  simp only [noiseChunks, flatMap_append, flatMap_replicate, flatMap_singleton,
    flatten_replicate_replicate, ← append_assoc, replicate_append_replicate]

/-- One poll that drains the noise fills the buffer; the decode loop takes nothing
out of it, and never will. -/
theorem fullBuffer_not_drained :
    ∃ b, HandedOver false [noiseChunks.map .bytes] b ∧ b.Full ∧
      ¬ b.processMessages.bytes.length < b.bytes.length ∧
      Deadlocked false b.processMessages := by
  have hfits : (noiseChunks.flatMap ReadChunk.bytes).length = serialCircularBufferSize := by
    rw [flatMap_noiseChunks, length_append, length_replicate]
    rfl
  have hne : ∀ chunk ∈ noiseChunks, chunk.bytes ≠ [] := by
    intro chunk hchunk
    rcases List.mem_append.mp hchunk with h | h
    · obtain ⟨-, rfl⟩ := List.mem_replicate.mp h
      simp
    · obtain rfl := List.mem_singleton.mp h
      simp
  have hbytes : (drainReads false {} (noiseChunks.map .bytes)).bytes =
      replicate 4092 0x55 ++ framePreamble := by
    rw [drainReads_bytes_of_fits hne (by simp only [length_nil]; omega), flatMap_noiseChunks]
    rfl
  have hfull : (drainReads false {} (noiseChunks.map .bytes)).Full := by
    rw [SerialBuffer.Full, hbytes, ← flatMap_noiseChunks, hfits]
  have hstuck : Stuck (drainReads false {} (noiseChunks.map .bytes)).bytes := by
    rw [hbytes]
    exact stuck_noise (by decide)
  have hsame := processMessages_of_stuck hfull hstuck
  refine ⟨_, ⟨[], _, prefix_refl _, rfl⟩, hfull, ?_, ?_⟩
  · change ¬ (drainReads false {} (noiseChunks.map .bytes)).processMessages.bytes.length < _
    rw [hsame]
    exact lt_irrefl _
  · change Deadlocked false (drainReads false {} (noiseChunks.map .bytes)).processMessages
    intro later
    rw [hsame, afterPolls_of_stuck hfull hstuck]
    exact hfull

end AqualinkAutomate.Protocol
