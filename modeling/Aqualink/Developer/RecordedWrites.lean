import Aqualink.Developer.RecordingPort
import Aqualink.General.Runs
import Aqualink.Protocol.WriteLoop

/-!
# What a recording shows of the writes

A write is written down before the wrapped port is called, with all the bytes that are offered to
it.  If the port takes less, the drain offers the rest again, and the rest is written down once
more.  So the lines of a recording have the bytes that the port has accepted exactly as long as the
port accepts all that it is offered while the recording goes on, and nothing when it has come to its
limit (`recording_shows_iff`).

A run goes from one pass of the loops of `DrainWrites` to the next (`drainPass`).
-/

namespace AqualinkAutomate.Developer

open General Protocol List

structure RecordingSerialPort where
  wrapped : SerialPortImpl
  recorder : Recorder
  /-- The milliseconds since the start of the recording -/
  elapsed : ℕ := 0

/-- `write_some` of the recording port. -/
def RecordingSerialPort.writeSome (port : RecordingSerialPort) (payload : List UInt8)
    (outcome : DeviceOutcome) : RecordingSerialPort × WriteOutcome :=
  let recorder := port.recorder.writeSome port.elapsed payload
  let (wrapped, reported) := port.wrapped.writeSome payload outcome
  ({ port with wrapped, recorder }, reported)

def RecordedLine.writtenBytes : RecordedLine → List UInt8
  | .data _ .write bytes => bytes
  | _ => []

def writtenBytes (file : List RecordedLine) : List UInt8 :=
  file.flatMap RecordedLine.writtenBytes

inductive RecordedEvent where
  | enqueue (frame : List UInt8)
  /-- One iteration of the loops of `DrainWrites`, with what the device makes of a call -/
  | pass (outcome : DeviceOutcome)
  | read (bytes : List UInt8) (failed : Bool)
  | deviceCall (note : DeviceComment) (failed : Bool)
  | clock (elapsed : ℕ)

abbrev RecordedState : Type := DrainState RecordingSerialPort

namespace RecordedState

def withRecorder (s : RecordedState) (recorder : Recorder) : RecordedState :=
  { s with port := { s.port with recorder } }

def step (s : RecordedState) : RecordedEvent → RecordedState
  | .enqueue frame => { s with write := enqueueWrite s.write frame }
  | .pass outcome =>
    match drainPass RecordingSerialPort.writeSome (fun _ => outcome) s with
    | .again next => next
    | .done result => result
  | .read bytes failed => s.withRecorder (s.port.recorder.readSome s.port.elapsed bytes failed)
  | .deviceCall note failed =>
    s.withRecorder (s.port.recorder.deviceCall s.port.elapsed note failed)
  | .clock elapsed => { s with port := { s.port with elapsed } }

/-- A recording has been started, and nothing has been written. -/
def boot (wrapped : SerialPortImpl) (time : Option TimeText) : RecordedState where
  port := { wrapped, recorder := ({} : Recorder).startRecording time }

def Shows (s : RecordedState) : Prop :=
  writtenBytes s.port.recorder.file = s.write.accepted

end RecordedState

def Recorder.writesDown (recorder : Recorder) : Bool :=
  recorder.enabled && decide (recorder.bytesWritten < maxRecordingBytes)

def takenOf (payload : List UInt8) : WriteOutcome → ℕ
  | .accepted count => min count payload.length
  | .wouldBlock | .error => 0

namespace RecordedState

/-- In a pass that calls the port, the wrapped port takes the whole payload if it is written down,
and nothing of it if it is not. -/
def Faithful (s : RecordedState) : RecordedEvent → Prop
  | .pass outcome =>
    let payload := (s.write.writeQueue.headD []).drop s.write.writeOffset
    takenOf payload (s.port.wrapped.writeSome payload outcome).2 =
      if s.port.recorder.writesDown then payload.length else 0
  | _ => True

end RecordedState

/-! ## The lines of the writes -/

section

variable {recorder : Recorder} {elapsed : ℕ}

theorem writtenBytes_append (file : List RecordedLine) (line : RecordedLine) :
    writtenBytes (file ++ [line]) = writtenBytes file ++ line.writtenBytes := by
  simp [writtenBytes]

theorem writtenBytes_stopRecording :
    writtenBytes recorder.stopRecording.file = writtenBytes recorder.file := by
  unfold Recorder.stopRecording
  split
  · rw [writtenBytes_append]
    exact append_nil _
  · rfl

theorem writtenBytes_recordDataLine (direction : Direction) (data : List UInt8) :
    writtenBytes (recorder.recordDataLine direction elapsed data).file =
      writtenBytes recorder.file ++
        if recorder.writesDown then (RecordedLine.data ⟨elapsed, recorder.zeroFill⟩ direction
          data).writtenBytes else [] := by
  unfold Recorder.recordDataLine Recorder.writesDown
  by_cases henabled : recorder.enabled
  · by_cases hfull : maxRecordingBytes ≤ recorder.bytesWritten
    · simp [henabled, hfull, writtenBytes_stopRecording, Nat.not_lt.mpr hfull]
    · simp [henabled, hfull, writtenBytes_append, Nat.lt_of_not_le hfull]
  · simp [henabled]

theorem writtenBytes_readSome (bytes : List UInt8) (failed : Bool) :
    writtenBytes (recorder.readSome elapsed bytes failed).file = writtenBytes recorder.file := by
  unfold Recorder.readSome
  split
  · rw [writtenBytes_recordDataLine]
    simp [RecordedLine.writtenBytes]
  · rfl

theorem writtenBytes_deviceCall (note : DeviceComment) (failed : Bool) :
    writtenBytes (recorder.deviceCall elapsed note failed).file = writtenBytes recorder.file := by
  unfold Recorder.deviceCall Recorder.writeComment
  split
  · rfl
  · split
    · rw [writtenBytes_append]
      exact append_nil _
    · rfl

theorem writtenBytes_writeSome {payload : List UInt8} (hpayload : payload ≠ []) :
    writtenBytes (recorder.writeSome elapsed payload).file =
      writtenBytes recorder.file ++ if recorder.writesDown then payload else [] := by
  rw [Recorder.writeSome, if_pos hpayload, writtenBytes_recordDataLine]
  rfl

end

/-! ## Passes -/

theorem takenOf_le (payload : List UInt8) (reported : WriteOutcome) :
    takenOf payload reported ≤ payload.length := by
  cases reported with
  | accepted count => exact Nat.min_le_right _ _
  | wouldBlock => exact Nat.zero_le _
  | error => exact Nat.zero_le _

theorem take_eq_iff {payload : List UInt8} {taken : ℕ} (h : taken ≤ payload.length) {whole : Bool} :
    (if whole then payload else []) = payload.take taken ↔
      taken = if whole then payload.length else 0 := by
  have hlength : (payload.take taken).length = taken := length_take_of_le h
  cases whole with
  | true =>
    simp only [if_true]
    refine ⟨fun heq => by rw [← hlength, ← heq], fun heq => ?_⟩
    rw [heq, take_length]
  | false =>
    simp only [Bool.false_eq_true, if_false]
    refine ⟨fun heq => by rw [← hlength, ← heq]; rfl, fun heq => ?_⟩
    rw [heq, take_zero]

namespace RecordedState

section

variable {s : RecordedState} {event : RecordedEvent}

theorem step_pass_of_call {frame : List UInt8} {queue : List (List UInt8)}
    (hqueue : s.write.writeQueue = frame :: queue) (hmore : s.write.writeOffset < frame.length)
    (outcome : DeviceOutcome) :
    let payload := frame.drop s.write.writeOffset
    (s.step (.pass outcome)).write.accepted = s.write.accepted ++
        payload.take (takenOf payload (s.port.wrapped.writeSome payload outcome).2) ∧
      (s.step (.pass outcome)).port.recorder =
        s.port.recorder.writeSome s.port.elapsed payload := by
  intro payload
  have hreported : (RecordingSerialPort.writeSome s.port payload outcome).2 =
      (s.port.wrapped.writeSome payload outcome).2 := rfl
  simp only [step, drainPass, hqueue, if_pos hmore]
  cases hout : (s.port.wrapped.writeSome payload outcome).2 with
  | accepted count =>
    rw [hout] at hreported
    simp only [payload] at hreported
    simp only [hreported]
    refine ⟨?_, rfl⟩
    rw [takenOf, ← take_eq_take_min]
  | wouldBlock =>
    rw [hout] at hreported
    simp only [payload] at hreported
    simp only [hreported]
    exact ⟨by simp [takenOf], rfl⟩
  | error =>
    rw [hout] at hreported
    simp only [payload] at hreported
    simp only [hreported]
    exact ⟨by simp [takenOf], rfl⟩

theorem step_pass_of_no_call
    (h : ¬ s.write.writeOffset < (s.write.writeQueue.headD []).length) (outcome : DeviceOutcome) :
    (s.step (.pass outcome)).write.accepted = s.write.accepted ∧
      (s.step (.pass outcome)).port.recorder = s.port.recorder := by
  cases hqueue : s.write.writeQueue with
  | nil => simp [step, drainPass, hqueue]
  | cons frame queue =>
    rw [hqueue, headD_cons] at h
    simp [step, drainPass, hqueue, if_neg h]

theorem shows_step_iff (hs : s.Shows) : (s.step event).Shows ↔ s.Faithful event := by
  cases event with
  | enqueue frame => exact iff_of_true hs trivial
  | read bytes failed =>
    refine iff_of_true ?_ trivial
    exact (writtenBytes_readSome bytes failed).trans hs
  | deviceCall note failed =>
    refine iff_of_true ?_ trivial
    exact (writtenBytes_deviceCall note failed).trans hs
  | clock elapsed => exact iff_of_true hs trivial
  | pass outcome =>
    unfold Shows Faithful
    by_cases hmore : s.write.writeOffset < (s.write.writeQueue.headD []).length
    · cases hqueue : s.write.writeQueue with
      | nil => simp [hqueue] at hmore
      | cons frame queue =>
        rw [hqueue, headD_cons] at hmore
        rw [headD_cons]
        have hpayload : frame.drop s.write.writeOffset ≠ [] := by
          simpa [drop_eq_nil_iff] using hmore
        obtain ⟨haccepted, hrecorder⟩ := step_pass_of_call hqueue hmore outcome
        rw [haccepted, hrecorder, writtenBytes_writeSome hpayload, hs, append_cancel_left_eq]
        exact take_eq_iff (takenOf_le _ _)
    · obtain ⟨haccepted, hrecorder⟩ := step_pass_of_no_call hmore outcome
      rw [haccepted, hrecorder]
      have hnone : (s.write.writeQueue.headD []).drop s.write.writeOffset = [] :=
        drop_eq_nil_of_le (Nat.le_of_not_lt hmore)
      have hnothing := Nat.le_zero.mp (takenOf_le [] (s.port.wrapped.writeSome [] outcome).2)
      simp only [hnone, hnothing, length_nil, ite_self]
      exact iff_of_true hs trivial

end

/-- **The recording shows what was transmitted.**  In every state of a run the lines of the writes
have the bytes that the wrapped port has accepted, exactly if the port takes, in each call, all that
is written down and nothing that is not. -/
theorem recording_shows_iff (wrapped : SerialPortImpl) (time : Option TimeText)
    (events : List RecordedEvent) :
    EachState step Shows (boot wrapped time) events ↔
      EachStep step Faithful (boot wrapped time) events :=
  eachState_iff_eachStep (fun _ _ hs => shows_step_iff hs) rfl

/-- A frame of two bytes of which a port takes one at first is written down with three. -/
theorem partial_write_not_shown :
    ¬ EachState step Shows (boot .physical none)
      [.enqueue [0x10, 0x02], .pass (.wrote 0), .pass (.wrote 0)] := by
  refine mt EachState.last ?_
  rw [Shows]
  decide

end RecordedState

end AqualinkAutomate.Developer
