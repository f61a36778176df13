import Aqualink.General.Texts

/-!
# The recording port

A port that is wrapped around another one and writes down what goes through it while a recording is
open: each read and each write on a line with its bytes, and what is done to the device as comments.
A read is written down after it was made, with the bytes that it has brought, and a write before it
is made.

A recording that has come to 256 MiB is closed by the next line of bytes.
-/

namespace AqualinkAutomate.Developer

/-! ## The lines -/

inductive Direction where
  | read | write
  deriving DecidableEq

def Direction.char : Direction → Char
  | .read => 'R'
  | .write => 'W'

inductive DeviceComment where
  | opened (deviceName : List Char)
  | closed
  | baudRate (rate : UInt32)
  | characterSize (bits : UInt8)
  deriving DecidableEq

/-- When a line is written: the milliseconds since the start, and whether the stream fills with
zeros by now. -/
structure Timestamp where
  elapsed : ℕ
  zeroFill : Bool
  deriving DecidableEq

/-- A time as `SafeCtime` writes it, without the line break that ends it. -/
abbrev TimeText : Type := { text : List Char // '\n' ∉ text }

/-- What is written to the file at once. -/
inductive RecordedLine where
  /-- The header; the time may be missing. -/
  | header (time : Option TimeText)
  | data (stamp : Timestamp) (direction : Direction) (bytes : List UInt8)
  | comment (stamp : Timestamp) (note : DeviceComment)
  | ended
  deriving DecidableEq

/-- `std::setw` -/
def padLeft (width : ℕ) (fill : Char) (text : List Char) : List Char :=
  List.replicate (width - text.length) fill ++ text

/-- `WriteTimestamp` -/
def Timestamp.text (stamp : Timestamp) : List Char :=
  '[' :: padLeft 10 (if stamp.zeroFill then '0' else ' ') (Nat.toDigits 10 stamp.elapsed) ++
    [']', ' ']

/-- A byte as `0x##`. -/
def byteToken (byte : UInt8) : List Char :=
  '0' :: 'x' :: padLeft 2 '0' (Nat.toDigits 16 byte.toNat)

def DeviceComment.text : DeviceComment → List Char
  | .opened deviceName => "# Opened device: ".toList ++ deviceName
  | .closed => "# Device closed".toList
  | .baudRate rate => "# Set baud rate: ".toList ++ Nat.toDigits 10 rate.toNat
  | .characterSize bits => "# Set character size: ".toList ++ Nat.toDigits 10 bits.toNat

/-- The header that `OpenRecordingFile` writes. -/
def headerText (time : Option TimeText) : List Char :=
  "# Serial recording started at: ".toList ++ (time.elim [] fun time => time.val ++ ['\n']) ++
    "# Format: [timestamp_ms] direction byte|byte|byte|...\n".toList ++
    "# Direction: R=read (from device), W=write (to device)\n".toList ++ "#\n".toList

/-- What `CloseRecordingFile` writes. -/
def endText : List Char := "# Recording ended\n".toList

def RecordedLine.text : RecordedLine → List Char
  | .header time => headerText time
  | .data stamp direction bytes =>
    stamp.text ++ [direction.char, ' '] ++ ['|'].intercalate (bytes.map byteToken) ++ ['\n']
  | .comment stamp note => stamp.text ++ note.text ++ ['\n']
  | .ended => endText

def fileText (file : List RecordedLine) : List Char := file.flatMap RecordedLine.text

/-! ## The recorder -/

def maxRecordingBytes : ℕ := 256 * 1024 * 1024

structure Recorder where
  enabled : Bool := false
  zeroFill : Bool := false
  bytesWritten : ℕ := 0
  file : List RecordedLine := []
  deriving DecidableEq

namespace Recorder

variable (recorder : Recorder)

/-- `StartRecording`, of a path that can be opened.  The stream keeps its fill character. -/
def startRecording (time : Option TimeText) : Recorder :=
  if recorder.enabled then recorder
  else { recorder with enabled := true, bytesWritten := 0, file := [.header time] }

/-- `StopRecording`, and `CloseRecordingFile` -/
def stopRecording : Recorder :=
  if recorder.enabled then
    { recorder with enabled := false, file := recorder.file ++ [.ended] }
  else recorder

def writeComment (elapsed : ℕ) (note : DeviceComment) : Recorder :=
  if recorder.enabled then
    { recorder with
      file := recorder.file ++ [.comment ⟨elapsed, recorder.zeroFill⟩ note] }
  else recorder

def recordDataLine (direction : Direction) (elapsed : ℕ) (data : List UInt8) : Recorder :=
  if recorder.enabled then
    if maxRecordingBytes ≤ recorder.bytesWritten then recorder.stopRecording
    else
      { recorder with
        zeroFill := true
        bytesWritten := recorder.bytesWritten + data.length
        file := recorder.file ++ [.data ⟨elapsed, recorder.zeroFill⟩ direction data] }
  else recorder

/-- A call of `read_some` that has brought so many bytes, or has failed. -/
def readSome (elapsed : ℕ) (bytes : List UInt8) (failed : Bool) : Recorder :=
  if bytes ≠ [] ∧ failed = false then recorder.recordDataLine .read elapsed bytes else recorder

/-- A call of `write_some`, up to the call of the wrapped port. -/
def writeSome (elapsed : ℕ) (payload : List UInt8) : Recorder :=
  if payload ≠ [] then recorder.recordDataLine .write elapsed payload else recorder

/-- A call that a comment is written about unless it fails. -/
def deviceCall (elapsed : ℕ) (note : DeviceComment) (failed : Bool) : Recorder :=
  if failed then recorder else recorder.writeComment elapsed note

end Recorder

end AqualinkAutomate.Developer
