import Mathlib.Algebra.GroupWithZero.Nat
import Aqualink.General.Iteration
import Aqualink.Serial.NetworkPort

/-!
# Draining the queue into a port that does not move

`DrainWrites` leaves a frame when a write ends in an error, would-block among them.  It goes on when
a write ends without one, however little was written.  A device that takes bytes takes at least one,
but two of the ports report a write of no bytes that is not an error: the network port when its
socket would block, and the mock port when it replays a file.

`Stalls` is the state before such a write.  Every other pass of the loops advances or leaves, so
the drain advances in every pass if it never stalls, and it returns if it does not stall for ever
(`drain_advances_iff`).  A mock port that replays a file stalls for ever on the first byte there is
to write (`mock_terminates_iff`).

When a drain returns, the queue is as `drainWrites` leaves it for the outcomes that the port has
reported (`returns_drainWrites`).
-/

namespace AqualinkAutomate.Protocol

open General Serial List

/-! ## The ports -/

/-- What the device behind a port makes of the bytes it is offered. -/
inductive DeviceOutcome where
  /-- It takes the first byte and so many more, or all of them if there are less. -/
  | wrote (more : ℕ)
  | wouldBlock
  | error
  deriving DecidableEq

def DeviceOutcome.toWriteOutcome : DeviceOutcome → WriteOutcome
  | .wrote more => .accepted (more + 1)
  | .wouldBlock => .wouldBlock
  | .error => .error

/-- The implementations of a port. -/
inductive SerialPortImpl where
  | physical
  | network (port : NetworkSerialPort)
  | mock (isOpen mockData : Bool)
  deriving DecidableEq

/-- `write_some`.  The physical port hands on what its device says.  The mock port has no device: it
takes everything, or nothing at all if it replays a file. -/
def SerialPortImpl.writeSome (port : SerialPortImpl) (payload : List UInt8)
    (outcome : DeviceOutcome) : SerialPortImpl × WriteOutcome :=
  match port with
  | .physical => (.physical, outcome.toWriteOutcome)
  | .network port =>
    let (port, reported) := Serial.writeSome port payload outcome.toWriteOutcome
    (.network port, reported)
  | .mock isOpen mockData =>
    (.mock isOpen mockData,
      if isOpen then .accepted (if mockData then payload.length else 0) else .error)

/-- The port reports a write of no bytes that is not an error. -/
def SerialPortImpl.WritesNothing (outcome : DeviceOutcome) : SerialPortImpl → Prop
  | .physical => False
  | .network port => port.isOpen = true ∧ outcome = .wouldBlock
  | .mock isOpen mockData => isOpen = true ∧ mockData = false

theorem SerialPortImpl.writeSome_accepted {port : SerialPortImpl} {payload : List UInt8}
    {outcome : DeviceOutcome} {count : ℕ} (hpayload : payload ≠ [])
    (h : (port.writeSome payload outcome).2 = .accepted count) :
    port.WritesNothing outcome ↔ count = 0 := by
  have hlength : 0 < payload.length := List.length_pos_iff.mpr hpayload
  cases port with
  | physical =>
    cases outcome with
    | wrote more =>
      obtain rfl : more + 1 = count := WriteOutcome.accepted.inj h
      simp [WritesNothing]
    | wouldBlock => cases h
    | error => cases h
  | network port =>
    cases hopen : port.isOpen with
    | false => simp [writeSome, Serial.writeSome, hopen] at h
    | true =>
      cases outcome with
      | wrote more =>
        simp only [writeSome, Serial.writeSome, hopen, DeviceOutcome.toWriteOutcome,
          if_true, WriteOutcome.accepted.injEq, length_take] at h
        simp only [WritesNothing, reduceCtorEq, and_false, false_iff]
        omega
      | wouldBlock =>
        simp only [writeSome, Serial.writeSome, hopen, DeviceOutcome.toWriteOutcome,
          if_true, WriteOutcome.accepted.injEq] at h
        simp [WritesNothing, hopen, h.symm]
      | error => simp [writeSome, Serial.writeSome, hopen, DeviceOutcome.toWriteOutcome] at h
  | mock isOpen mockData =>
    cases isOpen with
    | false => simp [writeSome] at h
    | true =>
      simp only [writeSome, if_true, WriteOutcome.accepted.injEq] at h
      cases mockData with
      | false => simp_all [WritesNothing]
      | true =>
        simp only [if_true] at h
        simp only [WritesNothing, reduceCtorEq, and_false, false_iff]
        omega

/-! ## The loops -/

/-- The write half of the protocol task, and a port. -/
structure DrainState (P : Type) where
  write : WriteState := {}
  port : P
  /-- How often the port was called. -/
  calls : ℕ := 0
  deriving DecidableEq

/-- One iteration of the loops of `DrainWrites`: of the inner one while there is something left of
the front frame, else of the outer one.  The device is asked once in each call. -/
def drainPass {P : Type} (writeSome : P → List UInt8 → DeviceOutcome → P × WriteOutcome)
    (device : ℕ → DeviceOutcome) (s : DrainState P) : Pass (DrainState P) (DrainState P) :=
  match s.write.writeQueue with
  | [] => .done s
  | frame :: queue =>
    if s.write.writeOffset < frame.length then
      let (port, outcome) := writeSome s.port (frame.drop s.write.writeOffset) (device s.calls)
      match outcome with
      | .accepted count =>
        let written := (frame.drop s.write.writeOffset).take count
        .again
          { write :=
              { s.write with
                writeOffset := s.write.writeOffset + written.length
                accepted := s.write.accepted ++ written }
            port := port
            calls := s.calls + 1 }
      | .wouldBlock => .done { s with port := port, calls := s.calls + 1 }
      | .error =>
        .done
          { write :=
              { s.write with transmissionFailures := s.write.transmissionFailures + 1 }
            port := port
            calls := s.calls + 1 }
    else .again { s with write := { s.write with writeQueue := queue, writeOffset := 0 } }

/-- The pass moves the write offset forward, or the front frame is written and leaves the queue. -/
def Advances {P : Type} (s next : DrainState P) : Prop :=
  (next.write.writeQueue = s.write.writeQueue ∧ s.write.writeOffset < next.write.writeOffset) ∨
    ∃ frame, s.write.writeQueue = frame :: next.write.writeQueue ∧
      frame.length ≤ s.write.writeOffset ∧ next.write.writeOffset = 0

/-- There is something left of the front frame, and the port writes nothing of it. -/
def Stalls (device : ℕ → DeviceOutcome) (s : DrainState SerialPortImpl) : Prop :=
  s.write.writeOffset < (s.write.writeQueue.headD []).length ∧
    s.port.WritesNothing (device s.calls)

/-- What is left to do: the bytes of the frames, and taking each of them off the queue. -/
def unwritten {P : Type} (s : DrainState P) : ℕ :=
  (s.write.writeQueue.map fun frame => frame.length + 1).sum -
    min s.write.writeOffset (s.write.writeQueue.headD []).length

section

variable {P : Type} {writeSome : P → List UInt8 → DeviceOutcome → P × WriteOutcome}
variable {device : ℕ → DeviceOutcome} {s next : DrainState P}

section

variable (h : drainPass writeSome device s = .again next)

include h

theorem drainPass_again :
    (∃ frame queue count, s.write.writeQueue = frame :: queue ∧
        next.write.writeQueue = frame :: queue ∧ s.write.writeOffset < frame.length ∧
        (writeSome s.port (frame.drop s.write.writeOffset) (device s.calls)).2 = .accepted count ∧
        next.write.writeOffset =
          s.write.writeOffset + min count (frame.length - s.write.writeOffset)) ∨
      ∃ frame, s.write.writeQueue = frame :: next.write.writeQueue ∧
        frame.length ≤ s.write.writeOffset ∧ next.write.writeOffset = 0 := by
  unfold drainPass at h
  cases hqueue : s.write.writeQueue with
  | nil => simp [hqueue] at h
  | cons frame queue =>
    simp only [hqueue] at h
    by_cases hmore : s.write.writeOffset < frame.length
    · rw [if_pos hmore] at h
      cases hout : (writeSome s.port (frame.drop s.write.writeOffset) (device s.calls)).2 with
      | accepted count =>
        simp only [hout, Pass.again.injEq] at h
        subst h
        exact .inl ⟨frame, queue, count, rfl, rfl, hmore, hout, by simp⟩
      | wouldBlock => simp [hout] at h
      | error => simp [hout] at h
    · rw [if_neg hmore, Pass.again.injEq] at h
      subst h
      exact .inr ⟨frame, rfl, Nat.le_of_not_lt hmore, rfl⟩

theorem unwritten_lt_of_advances (hadv : Advances s next) : unwritten next < unwritten s := by
  obtain ⟨frame, queue, count, hqueue, hnext, hmore, -, hoffset⟩ |
    ⟨frame, hqueue, hdone, hzero⟩ := drainPass_again h
  · obtain ⟨-, hlt⟩ | ⟨frame', hpop, hle, -⟩ := hadv
    · simp only [unwritten, hqueue, hnext, map_cons, sum_cons, headD_cons]
      omega
    · rw [hqueue, hnext, List.cons.injEq] at hpop
      rw [← hpop.1] at hle
      omega
  · simp only [unwritten, hqueue, hzero, map_cons, sum_cons, headD_cons]
    omega

theorem unwritten_le : unwritten next ≤ unwritten s := by
  obtain ⟨frame, queue, count, hqueue, hnext, hmore, -, hoffset⟩ |
    ⟨frame, hqueue, hdone, hzero⟩ := drainPass_again h
  · simp only [unwritten, hqueue, hnext, map_cons, sum_cons, headD_cons]
    omega
  · exact (unwritten_lt_of_advances h (.inr ⟨frame, hqueue, hdone, hzero⟩)).le

end

end

section

variable {device : ℕ → DeviceOutcome} {s next : DrainState SerialPortImpl}

theorem advances_iff_not_stalls (h : drainPass SerialPortImpl.writeSome device s = .again next) :
    Advances s next ↔ ¬ Stalls device s := by
  obtain ⟨frame, queue, count, hqueue, hnext, hmore, hout, hoffset⟩ |
    ⟨frame, hqueue, hdone, hzero⟩ := drainPass_again h
  · have hpayload : frame.drop s.write.writeOffset ≠ [] := by
      simpa [drop_eq_nil_iff] using hmore
    have hnothing := SerialPortImpl.writeSome_accepted hpayload hout
    have hstalls : Stalls device s ↔ count = 0 := by
      rw [← hnothing, Stalls, hqueue, headD_cons]
      exact and_iff_right hmore
    rw [hstalls, Advances, hqueue, hnext, hoffset]
    constructor
    · rintro (⟨-, hlt⟩ | ⟨_, hpop, -, -⟩) rfl
      · simp at hlt
      · exact absurd (congrArg List.length hpop) (by simp)
    · intro hcount
      exact .inl ⟨rfl, by omega⟩
  · refine iff_of_true (.inr ⟨frame, hqueue, hdone, hzero⟩) fun hstalls => ?_
    have hmore := hstalls.1
    rw [hqueue, headD_cons] at hmore
    omega

theorem exists_again_of_stalls (h : Stalls device s) :
    ∃ next, drainPass SerialPortImpl.writeSome device s = .again next := by
  obtain ⟨hmore, hnothing⟩ := h
  cases hqueue : s.write.writeQueue with
  | nil => simp [hqueue] at hmore
  | cons frame queue =>
    rw [hqueue, headD_cons] at hmore
    simp only [drainPass, hqueue, if_pos hmore]
    cases hport : s.port with
    | physical => simp [hport, SerialPortImpl.WritesNothing] at hnothing
    | network port =>
      rw [hport] at hnothing
      simp [SerialPortImpl.writeSome, Serial.writeSome, hnothing.1, hnothing.2,
        DeviceOutcome.toWriteOutcome]
    | mock isOpen mockData =>
      rw [hport] at hnothing
      simp [SerialPortImpl.writeSome, hnothing.1]

end

/-- **A drain stalls on a port that writes nothing without an error.**  Each pass of the loops
advances or leaves exactly if none of them starts where the port writes nothing, and the drain
returns exactly if it is not there in every pass from some pass on. -/
theorem drain_advances_iff (device : ℕ → DeviceOutcome) (s : DrainState SerialPortImpl) :
    ((∀ passes t next, stateAfter (drainPass SerialPortImpl.writeSome device) passes s = some t →
        drainPass SerialPortImpl.writeSome device t = .again next → Advances t next) ↔
      ∀ passes t, stateAfter (drainPass SerialPortImpl.writeSome device) passes s = some t →
        ¬ Stalls device t) ∧
    (Terminates (drainPass SerialPortImpl.writeSome device) s ↔
      ¬ ∃ first, ∀ passes, first ≤ passes →
        ∃ t, stateAfter (drainPass SerialPortImpl.writeSome device) passes s = some t ∧
          Stalls device t) := by
  refine ⟨⟨fun hadvances passes t ht hstalls => ?_, fun hnever passes t next ht hagain => ?_⟩, ?_⟩
  · obtain ⟨next, hagain⟩ := exists_again_of_stalls hstalls
    exact (advances_iff_not_stalls hagain).mp (hadvances passes t next ht hagain) hstalls
  · exact (advances_iff_not_stalls hagain).mpr (hnever passes t ht)
  · refine terminates_iff_not_stalls_forever (Stalls device) unwritten
      (fun t next hagain hnot => ?_) fun t next hagain _ => unwritten_le hagain
    exact unwritten_lt_of_advances hagain ((advances_iff_not_stalls hagain).mpr hnot)

/-! ## Ports that never move -/

/-- A network port whose peer has stopped reading, and a frame to be sent. -/
def stalledPeer : DrainState SerialPortImpl :=
  { write := { writeQueue := [[0x10]] }, port := .network {} }

theorem stalledPeer_not_terminates :
    ¬ Terminates (drainPass SerialPortImpl.writeSome fun _ => .wouldBlock) stalledPeer := by
  refine not_terminates_of_invariant
    (fun s => s.port = .network {} ∧ s.write.writeQueue = [[0x10]] ∧ s.write.writeOffset = 0)
    ?_ ⟨rfl, rfl, rfl⟩
  rintro s ⟨hport, hqueue, hoffset⟩
  simp [drainPass, hport, hqueue, hoffset, SerialPortImpl.writeSome, Serial.writeSome,
    DeviceOutcome.toWriteOutcome]

theorem mock_terminates_iff (device : ℕ → DeviceOutcome) {s : DrainState SerialPortImpl}
    (hport : s.port = .mock true false) :
    Terminates (drainPass SerialPortImpl.writeSome device) s ↔
      (s.write.writeQueue.headD []).length ≤ s.write.writeOffset ∧
        ∀ frame ∈ s.write.writeQueue.tail, frame = [] := by
  induction hqueue : s.write.writeQueue generalizing s with
  | nil =>
    refine iff_of_true ⟨s, returns_of_done ?_⟩ (by simp)
    simp [drainPass, hqueue]
  | cons frame queue ih =>
    rw [headD_cons, tail_cons]
    by_cases hmore : s.write.writeOffset < frame.length
    · refine iff_of_false ?_ fun hdone => absurd hdone.1 (Nat.not_le_of_lt hmore)
      refine not_terminates_of_invariant
        (fun t => t.port = .mock true false ∧ t.write.writeQueue = frame :: queue ∧
          t.write.writeOffset < frame.length) ?_ ⟨hport, hqueue, hmore⟩
      rintro t ⟨hport, hqueue, hmore⟩
      simp [drainPass, hport, hqueue, hmore, SerialPortImpl.writeSome]
    · rw [terminates_iff_ends]
      simp only [drainPass, hqueue, if_neg hmore, Pass.Ends]
      refine (ih (s := { s with write := { s.write with writeQueue := queue, writeOffset := 0 } })
        hport rfl).trans ?_
      cases queue with
      | nil => simp [Nat.le_of_not_lt hmore]
      | cons front rest => simp [Nat.le_of_not_lt hmore, length_eq_zero_iff]

theorem mock_not_terminates :
    ¬ Terminates (drainPass SerialPortImpl.writeSome fun _ => .error)
      { write := { writeQueue := [[], [0x10]] }, port := .mock true false } := by
  rw [mock_terminates_iff _ rfl]
  decide

/-! ## The queue after a drain -/

section

variable {frame : List UInt8} {queue : List (List UInt8)} {w : WriteState}

theorem drainWrites_write (hqueue : w.writeQueue = frame :: queue)
    (hmore : w.writeOffset < frame.length) (count : ℕ) (outcomes : List WriteOutcome) :
    drainWrites w (.accepted count :: outcomes) =
      drainWrites
        { w with
          writeOffset := w.writeOffset + ((frame.drop w.writeOffset).take count).length
          accepted := w.accepted ++ (frame.drop w.writeOffset).take count }
        outcomes := by
  simp only [drainWrites, hqueue, drainQueue, writeFrame, if_pos hmore]

theorem drainWrites_pop (hqueue : w.writeQueue = frame :: queue)
    (hdone : ¬ w.writeOffset < frame.length) (outcomes : List WriteOutcome) :
    drainWrites w outcomes =
      drainWrites { w with writeQueue := queue, writeOffset := 0 } outcomes := by
  have hframe : writeFrame frame w outcomes = (w, outcomes) := by
    cases outcomes with
    | nil => rfl
    | cons outcome outcomes => simp only [writeFrame, if_neg hdone]
  simp only [drainWrites, hqueue, drainQueue, hframe, if_pos (Nat.le_of_not_lt hdone)]

/-- A drain that returns leaves what `drainWrites` leaves for the outcomes that were reported. -/
theorem returns_drainWrites {P : Type}
    {writeSome : P → List UInt8 → DeviceOutcome → P × WriteOutcome} {device : ℕ → DeviceOutcome}
    {s r : DrainState P} (h : Returns (drainPass writeSome device) s r) :
    ∃ outcomes, r.write = drainWrites s.write outcomes := by
  refine Returns.of_invariant
    (fun t => ∃ made, ∀ outcomes, drainWrites s.write (made ++ outcomes) =
      drainWrites t.write outcomes)
    (fun r => ∃ outcomes, r.write = drainWrites s.write outcomes) ?_ ?_ ⟨[], fun _ => rfl⟩ h
  · rintro t next ⟨made, hmade⟩ hagain
    cases hqueue : t.write.writeQueue with
    | nil => simp [drainPass, hqueue] at hagain
    | cons frame queue =>
      simp only [drainPass, hqueue] at hagain
      by_cases hmore : t.write.writeOffset < frame.length
      · rw [if_pos hmore] at hagain
        cases hout : (writeSome t.port (frame.drop t.write.writeOffset) (device t.calls)).2 with
        | accepted count =>
          simp only [hout, Pass.again.injEq] at hagain
          subst hagain
          refine ⟨made ++ [.accepted count], fun outcomes => ?_⟩
          rw [append_assoc, hmade, singleton_append, drainWrites_write hqueue hmore]
          simp only [hqueue]
        | wouldBlock => simp [hout] at hagain
        | error => simp [hout] at hagain
      · rw [if_neg hmore, Pass.again.injEq] at hagain
        subst hagain
        exact ⟨made, fun outcomes =>
          (hmade outcomes).trans (drainWrites_pop hqueue hmore outcomes)⟩
  · rintro t r ⟨made, hmade⟩ hdone
    cases hqueue : t.write.writeQueue with
    | nil =>
      simp only [drainPass, hqueue, Pass.done.injEq] at hdone
      refine ⟨made ++ [], ?_⟩
      rw [hmade, ← hdone, drainWrites, hqueue, drainQueue]
    | cons frame queue =>
      simp only [drainPass, hqueue] at hdone
      by_cases hmore : t.write.writeOffset < frame.length
      · rw [if_pos hmore] at hdone
        cases hout : (writeSome t.port (frame.drop t.write.writeOffset) (device t.calls)).2 with
        | accepted count => simp [hout] at hdone
        | wouldBlock =>
          simp only [hout, Pass.done.injEq] at hdone
          refine ⟨made ++ [.wouldBlock], ?_⟩
          rw [hmade, ← hdone]
          simp [drainWrites, hqueue, drainQueue, writeFrame, hmore]
        | error =>
          simp only [hout, Pass.done.injEq] at hdone
          refine ⟨made ++ [.error], ?_⟩
          rw [hmade, ← hdone]
          simp [drainWrites, hqueue, drainQueue, writeFrame, hmore]
      · simp [if_neg hmore] at hdone

/-- Two bytes are written before the port would block. -/
theorem physical_drainWrites :
    ∃ outcomes, { writeQueue := [[0x10, 0x02, 0x33]], writeOffset := 2, accepted := [0x10, 0x02] } =
      drainWrites { writeQueue := [[0x10, 0x02, 0x33]] } outcomes :=
  @returns_drainWrites _ SerialPortImpl.writeSome
    (fun calls => if calls = 0 then .wrote 1 else .wouldBlock)
    { write := { writeQueue := [[0x10, 0x02, 0x33]] }, port := .physical }
    ⟨_, .physical, 2⟩ ⟨2, rfl⟩

end

end AqualinkAutomate.Protocol
