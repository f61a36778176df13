import Mathlib.Data.List.Infix

/-!
# The write path

Frames to be sent wait in a queue.  A drain offers the rest of the front frame to
the port, again and again, until the frame is written, the port would block, or
the write fails; the write offset remembers how much of the front frame the port
has accepted.

`Intact` is the invariant: what the port has accepted is the frames that have left
the queue followed by the first `writeOffset` bytes of the front frame.  Enqueuing
keeps it, and so does every single write of a drain (`writeFrame_intact`), whatever
its outcome.  By induction over the events it holds of every run
(`run_intact`), so the port never sees a byte lost, repeated or out of order.
-/

namespace AqualinkAutomate.Protocol

open List

/-- The outcome of one call of `write_some`. -/
inductive WriteOutcome where
  /-- The port takes so many bytes of what it is offered, or all of it if that is less. -/
  | accepted (count : ℕ)
  /-- `would_block` or `try_again`. -/
  | wouldBlock
  | error
  deriving DecidableEq

/-- The write half of the protocol task, with what the port has accepted so far. -/
structure WriteState where
  writeQueue : List (List UInt8) := []
  writeOffset : ℕ := 0
  transmissionFailures : ℕ := 0
  accepted : List UInt8 := []
  deriving DecidableEq

def enqueueWrite (s : WriteState) (frame : List UInt8) : WriteState :=
  { s with writeQueue := s.writeQueue ++ [frame] }

/-- The inner loop: write the front frame until it is written or a write ends without
one.  A port that has no outcome left would block. -/
def writeFrame (frame : List UInt8) (s : WriteState) :
    List WriteOutcome → WriteState × List WriteOutcome
  | [] => (s, [])
  | outcome :: outcomes =>
    if s.writeOffset < frame.length then
      match outcome with
      | .wouldBlock => (s, outcomes)
      | .error => ({ s with transmissionFailures := s.transmissionFailures + 1 }, outcomes)
      | .accepted count =>
        let written := (frame.drop s.writeOffset).take count
        writeFrame frame
          { s with
            writeOffset := s.writeOffset + written.length
            accepted := s.accepted ++ written }
          outcomes
    else (s, outcome :: outcomes)

/-- The outer loop: a frame that is written leaves the queue, and the next one starts
at offset zero. -/
def drainQueue : List (List UInt8) → WriteState → List WriteOutcome → WriteState
  | [], s, _ => s
  | frame :: queue, s, outcomes =>
    let (s, outcomes) := writeFrame frame s outcomes
    if frame.length ≤ s.writeOffset then
      drainQueue queue { s with writeQueue := queue, writeOffset := 0 } outcomes
    else s

/-- `DrainWrites`: the outcomes of the successive calls of `write_some` are given. -/
def drainWrites (s : WriteState) (outcomes : List WriteOutcome) : WriteState :=
  drainQueue s.writeQueue s outcomes

/-- What happens to the write path. -/
inductive WriteEvent where
  | enqueue (frame : List UInt8)
  | drain (outcomes : List WriteOutcome)
  deriving DecidableEq

def writeStep (s : WriteState) : WriteEvent → WriteState
  | .enqueue frame => enqueueWrite s frame
  | .drain outcomes => drainWrites s outcomes

def writeRun (s : WriteState) (events : List WriteEvent) : WriteState :=
  events.foldl writeStep s

/-- The frames that a run enqueues, in order. -/
def enqueued : List WriteEvent → List (List UInt8)
  | [] => []
  | .enqueue frame :: events => frame :: enqueued events
  | .drain _ :: events => enqueued events

/-! ## The invariant -/

/-- Of the frames enqueued so far, `written` have left the queue; the port has
accepted these and the front frame up to the write offset. -/
structure Intact (frames : List (List UInt8)) (s : WriteState) (written : List (List UInt8)) :
    Prop where
  frames_eq : frames = written ++ s.writeQueue
  accepted_eq : s.accepted = written.flatten ++ (s.writeQueue.headD []).take s.writeOffset
  offset_le : s.writeOffset ≤ (s.writeQueue.headD []).length

section

variable {frames written queue : List (List UInt8)} {frame : List UInt8} {s : WriteState}

theorem initial_intact : Intact [] {} [] :=
  ⟨rfl, rfl, le_rfl⟩

theorem enqueueWrite_intact (h : Intact frames s written) (frame : List UInt8) :
    Intact (frames ++ [frame]) (enqueueWrite s frame) written := by
  cases hqueue : s.writeQueue with
  | nil =>
    have hoffset : s.writeOffset = 0 := by
      have := h.offset_le
      rw [hqueue] at this
      exact Nat.le_zero.mp this
    refine ⟨?_, ?_, ?_⟩
    · rw [h.frames_eq, enqueueWrite, append_assoc]
    · simp [enqueueWrite, h.accepted_eq, hqueue, hoffset]
    · simp [enqueueWrite, hoffset]
  | cons front queue =>
    refine ⟨?_, ?_, ?_⟩
    · rw [h.frames_eq, enqueueWrite, append_assoc]
    · simp [enqueueWrite, h.accepted_eq, hqueue]
    · have := h.offset_le
      simpa [enqueueWrite, hqueue] using this

theorem writeFrame_intact (outcomes : List WriteOutcome) (h : Intact frames s written)
    (hqueue : s.writeQueue = frame :: queue) :
    Intact frames (writeFrame frame s outcomes).1 written ∧
      (writeFrame frame s outcomes).1.writeQueue = frame :: queue := by
  induction outcomes generalizing s with
  | nil => exact ⟨h, hqueue⟩
  | cons outcome outcomes ih =>
    simp only [writeFrame]
    by_cases hmore : s.writeOffset < frame.length
    · rw [if_pos hmore]
      cases outcome with
      | wouldBlock => exact ⟨h, hqueue⟩
      | error => exact ⟨⟨h.frames_eq, h.accepted_eq, h.offset_le⟩, hqueue⟩
      | accepted count =>
        refine ih ⟨h.frames_eq, ?_, ?_⟩ hqueue
        · -- the written bytes are those right behind the offset
          have haccepted := h.accepted_eq
          rw [hqueue, headD_cons] at haccepted ⊢
          have htake : (frame.drop s.writeOffset).take
              ((frame.drop s.writeOffset).take count).length =
              (frame.drop s.writeOffset).take count := by
            rw [length_take, ← take_eq_take_min]
          rw [haccepted, append_assoc, take_add, htake]
        · have hmin : min count (frame.length - s.writeOffset) ≤ frame.length - s.writeOffset :=
            Nat.min_le_right _ _
          simp only [hqueue, headD_cons, length_take, length_drop]
          omega
    · rw [if_neg hmore]
      exact ⟨h, hqueue⟩

theorem Intact.pop (h : Intact frames s written) (hqueue : s.writeQueue = frame :: queue)
    (hdone : frame.length ≤ s.writeOffset) :
    Intact frames { s with writeQueue := queue, writeOffset := 0 } (written ++ [frame]) := by
  refine ⟨?_, ?_, Nat.zero_le _⟩
  · rw [h.frames_eq, hqueue, append_assoc]
    rfl
  · have haccepted := h.accepted_eq
    rw [hqueue, headD_cons, take_of_length_le hdone] at haccepted
    simp [haccepted]

theorem drainQueue_intact (queue : List (List UInt8)) (outcomes : List WriteOutcome)
    (h : Intact frames s written) (hqueue : s.writeQueue = queue) :
    ∃ written', Intact frames (drainQueue queue s outcomes) written' := by
  induction queue generalizing s written outcomes with
  | nil => exact ⟨written, h⟩
  | cons frame queue ih =>
    obtain ⟨hwrite, hqueue'⟩ := writeFrame_intact outcomes h hqueue
    rw [drainQueue]
    by_cases hdone : frame.length ≤ (writeFrame frame s outcomes).1.writeOffset
    · simp only [if_pos hdone]
      exact ih _ (hwrite.pop hqueue' hdone) rfl
    · simp only [if_neg hdone]
      exact ⟨written, hwrite⟩

theorem writeStep_intact (event : WriteEvent) (h : Intact frames s written) :
    ∃ written', Intact (frames ++ enqueued [event]) (writeStep s event) written' := by
  cases event with
  | enqueue frame => exact ⟨written, enqueueWrite_intact h frame⟩
  | drain outcomes =>
    rw [enqueued, enqueued, append_nil]
    exact drainQueue_intact _ outcomes h rfl

end

variable {frames written : List (List UInt8)}

theorem writeRun_intact {s : WriteState} (events : List WriteEvent) (h : Intact frames s written) :
    ∃ written', Intact (frames ++ enqueued events) (writeRun s events) written' := by
  induction events generalizing frames s written with
  | nil => exact ⟨written, by simpa [enqueued, writeRun] using h⟩
  | cons event events ih =>
    obtain ⟨written', h'⟩ := writeStep_intact event h
    obtain ⟨written'', h''⟩ := ih h'
    have hframes : frames ++ enqueued [event] ++ enqueued events =
        frames ++ enqueued (event :: events) := by
      cases event <;> simp [enqueued]
    exact ⟨written'', hframes ▸ h''⟩

theorem Intact.accepted_isPrefix {s : WriteState} (h : Intact frames s written) :
    s.accepted <+: frames.flatten := by
  rw [h.frames_eq, h.accepted_eq, flatten_append]
  refine (prefix_append_right_inj _).mpr ?_
  cases s.writeQueue with
  | nil => simp
  | cons front queue => exact (List.take_prefix _ _).trans (prefix_append _ _)

/-- **Outbound stream integrity.**  However enqueuing and draining are interleaved and
whatever the writes do, the port has accepted a beginning of the enqueued frames: all
of those that have left the queue, and the front frame up to the write offset.  The
outcomes of the last drain may end after any of its writes, so this is true at every
moment. -/
theorem accepted_isPrefix_enqueued (events : List WriteEvent) :
    (writeRun {} events).accepted <+: (enqueued events).flatten ∧
      ∃ written, enqueued events = written ++ (writeRun {} events).writeQueue ∧
        (writeRun {} events).accepted = written.flatten ++
          ((writeRun {} events).writeQueue.headD []).take (writeRun {} events).writeOffset ∧
        (writeRun {} events).writeOffset ≤ ((writeRun {} events).writeQueue.headD []).length := by
  obtain ⟨written, h⟩ := writeRun_intact events initial_intact
  rw [nil_append] at h
  exact ⟨h.accepted_isPrefix, written, h.frames_eq, h.accepted_eq, h.offset_le⟩

end AqualinkAutomate.Protocol
