import Aqualink.Developer.RecordingPort
import Aqualink.General.Readers
import Aqualink.General.Runs

/-!
# Recording and replay

The mock port reads a file line by line.  A line has bytes if it is a list of tokens, on its own or
behind a header of a read; comments, writes and what cannot be read have none, and the next line is
taken.

`replayBytes_eq_nil_iff` says in terms of its text which line has no bytes.

A recording is written while a port is read, written to and set up, and is replayed by the mock
port.  Of the lines of a recording that of a read has the bytes that were read, and the others have
none: the header and the end are comments, the line of a write is passed over, and a comment about
the device stands behind a time, with a direction that is neither a read nor a write.

The name of a device is written as it is, though.  If it has a line break, what follows is read as
lines of their own.  So a replay gives what was read exactly if no device has been opened under a
name that goes on with bytes (`replay_iff`).
-/

namespace AqualinkAutomate.Developer

open General List

/-! ## A line -/

structure DecodedLine where
  understood : Bool
  bytes : List UInt8
  deriving DecidableEq

def isBlank (char : Char) : Bool := char = ' ' || char = '\t'

def isSpace (char : Char) : Bool := isBlank char || char = '\r' || char = '\n'

inductive ReplayHeaderResult where
  /-- `Continue`, with what is left of the line -/
  | tokens (text : List Char)
  | skip
  | error
  deriving DecidableEq

def stripReplayHeader (line : List Char) : ReplayHeaderResult :=
  match line.dropWhile (· ≠ ']') with
  | [] => .error
  | _ :: rest =>
    match rest.dropWhile isBlank with
    | [] => .skip
    | 'W' :: _ => .skip
    | 'R' :: text => .tokens (text.dropWhile isBlank)
    | _ :: _ => .error

def hexDigitValue (char : Char) : Option ℕ :=
  if '0' ≤ char ∧ char ≤ '9' then some (char.toNat - '0'.toNat)
  else if 'a' ≤ char ∧ char ≤ 'f' then some (char.toNat - 'a'.toNat + 10)
  else if 'A' ≤ char ∧ char ≤ 'F' then some (char.toNat - 'A'.toNat + 10)
  else none

/-- `std::from_chars` in base 16 on two characters.  It reads digits as long as there are any, and
fails if the first character is none. -/
def fromChars (first second : Char) : Option UInt8 :=
  match hexDigitValue first, hexDigitValue second with
  | none, _ => none
  | some high, none => some (UInt8.ofNat high)
  | some high, some low => some (UInt8.ofNat (16 * high + low))

def decodeToken : List Char → DecodedLine
  | [] => { understood := true, bytes := [] }
  | ['0', x, first, second] =>
    if x = 'x' ∨ x = 'X' then
      match fromChars first second with
      | some byte => { understood := true, bytes := [byte] }
      | none => { understood := false, bytes := [] }
    else { understood := false, bytes := [] }
  | _ => { understood := false, bytes := [] }

def decodeTokenList (text : List Char) : DecodedLine where
  understood := (text.splitOn '|').all fun token => (decodeToken token).understood
  bytes := (text.splitOn '|').flatMap fun token => (decodeToken token).bytes

/-- The end of `DecodeReplayLine`: what is left of the line is a list of tokens, or empty. -/
def decodePayload (text : List Char) : DecodedLine :=
  match text.rdropWhile isSpace with
  | [] => { understood := true, bytes := [] }
  | char :: rest => decodeTokenList (char :: rest)

def decodeReplayLine (line : List Char) : DecodedLine :=
  match line.dropWhile isSpace with
  | [] => { understood := true, bytes := [] }
  | '#' :: _ => { understood := true, bytes := [] }
  | '[' :: rest =>
    match stripReplayHeader ('[' :: rest) with
    | .skip => { understood := true, bytes := [] }
    | .error => { understood := false, bytes := [] }
    | .tokens text => decodePayload text
  | char :: rest => decodePayload (char :: rest)

/-! ## The file -/

/-- The file of a mock port: the lines that have not been read, and the bytes of the last one that
have not been handed out. -/
abbrev ReplayFile : Type := BufferedSource (List Char) UInt8

def replayBytes (line : List Char) : List UInt8 := (decodeReplayLine line).bytes

/-- `HandleFileRead`, for one read after the other; no bytes are the end of the file. -/
def ReplayFile.handleFileReads (file : ReplayFile) (sizes : List ℕ) :
    List (Option (List UInt8)) :=
  file.reads replayBytes sizes

/-- The file of a mock port that has just been opened. -/
def ReplayFile.ofText (text : List Char) : ReplayFile where
  items := linesOf text

/-! ## Lines with bytes -/

def IsByteToken (token : List Char) : Prop :=
  ∃ x first second, token = ['0', x, first, second] ∧ (x = 'x' ∨ x = 'X') ∧
    hexDigitValue first ≠ none

def HasPayload (line payload : List Char) : Prop :=
  match line.dropWhile isSpace with
  | '#' :: _ => False
  | '[' :: rest => stripReplayHeader ('[' :: rest) = .tokens payload
  | text => payload = text

def BringsBytes (line : List Char) : Prop :=
  ∃ payload, HasPayload line payload ∧
    ∃ token ∈ (payload.rdropWhile isSpace).splitOn '|', IsByteToken token

section

variable {line payload token : List Char}

theorem fromChars_eq_none_iff (first second : Char) :
    fromChars first second = none ↔ hexDigitValue first = none := by
  unfold fromChars
  cases hexDigitValue first <;> cases hexDigitValue second <;> simp

theorem bytes_decodeToken_eq_nil_iff : (decodeToken token).bytes = [] ↔ ¬ IsByteToken token := by
  unfold decodeToken
  split
  · simp [IsByteToken]
  · next x first second =>
      by_cases hx : x = 'x' ∨ x = 'X'
      · rw [if_pos hx]
        cases hbyte : fromChars first second with
        | none =>
          refine iff_of_true rfl ?_
          rintro ⟨x', first', second', htoken, -, hdigit⟩
          simp only [List.cons.injEq, and_true] at htoken
          exact hdigit (htoken.2.2.1 ▸ (fromChars_eq_none_iff first second).mp hbyte)
        | some byte =>
          refine iff_of_false (by simp) (not_not_intro ⟨x, first, second, rfl, hx, ?_⟩)
          exact fun hdigit =>
            Option.some_ne_none byte (hbyte ▸ (fromChars_eq_none_iff first second).mpr hdigit)
      · rw [if_neg hx]
        refine iff_of_true rfl ?_
        rintro ⟨x', first', second', htoken, hx', -⟩
        simp only [List.cons.injEq, and_true] at htoken
        exact hx (htoken.2.1 ▸ hx')
  · next hother =>
      refine iff_of_true rfl ?_
      rintro ⟨x, first, second, rfl, -⟩
      exact hother _ _ _ rfl

theorem bytes_decodePayload_eq_nil_iff :
    (decodePayload payload).bytes = [] ↔
      ∀ token ∈ (payload.rdropWhile isSpace).splitOn '|', ¬ IsByteToken token := by
  unfold decodePayload
  split
  next hnil =>
    rw [hnil]
    simp [IsByteToken]
  next hcons =>
    rw [hcons]
    simp only [decodeTokenList, flatMap_eq_nil_iff, bytes_decodeToken_eq_nil_iff]

theorem replayBytes_eq_nil_iff : replayBytes line = [] ↔ ¬ BringsBytes line := by
  unfold replayBytes decodeReplayLine BringsBytes HasPayload
  split
  next hline =>
    rw [hline]
    simp [IsByteToken]
  next hline =>
    rw [hline]
    simp
  next rest hline =>
    rw [hline]
    simp only
    cases stripReplayHeader ('[' :: rest) with
    | skip => simp
    | error => simp
    | tokens text =>
      simp only [ReplayHeaderResult.tokens.injEq, bytes_decodePayload_eq_nil_iff]
      grind
  next hline =>
    rw [hline]
    simp only [bytes_decodePayload_eq_nil_iff]
    split <;> grind

end

/-! ## A recording -/

/-- What is done with a recording port. -/
inductive PortCall where
  | readSome (bytes : List UInt8) (failed : Bool)
  | writeSome (payload : List UInt8)
  /-- An open, a close, or an option that a comment is written about -/
  | deviceCall (note : DeviceComment) (failed : Bool)
  /-- What is only passed on: a cancel, or another option -/
  | passedOn
  deriving DecidableEq

/-- A call, at so many milliseconds. -/
def Recorder.call (recorder : Recorder) : ℕ × PortCall → Recorder
  | (elapsed, .readSome bytes failed) => recorder.readSome elapsed bytes failed
  | (elapsed, .writeSome payload) => recorder.writeSome elapsed payload
  | (elapsed, .deviceCall note failed) => recorder.deviceCall elapsed note failed
  | (_, .passedOn) => recorder

/-- A recording that is started, with a stream that has been used for another one or not. -/
def Recorder.started (zeroFill : Bool) (time : Option TimeText) : Recorder :=
  ({ zeroFill } : Recorder).startRecording time

/-- The file of a recording that is started, goes on through the calls and is stopped. -/
def recordedFile (zeroFill : Bool) (time : Option TimeText) (calls : List (ℕ × PortCall)) :
    List RecordedLine :=
  (calls.foldl Recorder.call (.started zeroFill time)).stopRecording.file

def PortCall.bytesRead : PortCall → List UInt8
  | .readSome bytes false => bytes
  | _ => []

def PortCall.openedNames : PortCall → List (List Char)
  | .deviceCall (.opened deviceName) false => [deviceName]
  | _ => []

/-- A name whose lines behind the first have no bytes. -/
def PlainName (deviceName : List Char) : Prop :=
  ∀ line ∈ laterLines deviceName, ¬ BringsBytes line

def strayBytes (deviceName : List Char) : List UInt8 :=
  (laterLines deviceName).flatMap replayBytes

/-! ## The lines of a recording -/

section

variable {char : Char}

theorem notMem_padLeft {fill : Char} {width : ℕ} {text : List Char} (hfill : char ≠ fill)
    (htext : char ∉ text) : char ∉ padLeft width fill text := by
  simp [padLeft, hfill, htext]

theorem notMem_digits (char : Char) (hchar : char.isDigit = false) (n : ℕ) :
    char ∉ Nat.toDigits 10 n := by
  intro hmem
  have hdigit := Nat.isDigit_of_mem_toDigits (by decide) (by decide) hmem
  rw [hchar] at hdigit
  cases hdigit

/-- The text of a time between the brackets. -/
def Timestamp.inner (stamp : Timestamp) : List Char :=
  padLeft 10 (if stamp.zeroFill then '0' else ' ') (Nat.toDigits 10 stamp.elapsed)

theorem Timestamp.notMem_inner (stamp : Timestamp) (char : Char) (hchar : char.isDigit = false)
    (hspace : char ≠ ' ') : char ∉ stamp.inner := by
  refine notMem_padLeft ?_ (notMem_digits char hchar stamp.elapsed)
  split
  · rintro rfl
    cases hchar
  · exact hspace

theorem Timestamp.text_eq (stamp : Timestamp) : stamp.text = '[' :: stamp.inner ++ [']', ' '] := rfl

theorem Timestamp.no_break (stamp : Timestamp) : '\n' ∉ stamp.text := by
  rw [stamp.text_eq]
  simp [stamp.notMem_inner '\n' rfl (by decide)]

theorem dropWhile_ne_append {front : List Char} (hfront : char ∉ front) (rest : List Char) :
    (front ++ char :: rest).dropWhile (· ≠ char) = char :: rest := by
  rw [dropWhile_append_of_pos, dropWhile_cons_of_neg (by simp)]
  intro other hother
  simpa using ne_of_mem_of_not_mem hother hfront

theorem stripReplayHeader_stamped (stamp : Timestamp) (direction : Char) (rest : List Char)
    (hdirection : isBlank direction = false) :
    stripReplayHeader (stamp.text ++ direction :: rest) =
      match direction :: rest with
      | 'W' :: _ => .skip
      | 'R' :: text => .tokens (text.dropWhile isBlank)
      | _ => .error := by
  have hinner : ']' ∉ '[' :: stamp.inner := by
    simp [stamp.notMem_inner ']' rfl (by decide)]
  have htext : stamp.text ++ direction :: rest =
      ('[' :: stamp.inner) ++ ']' :: ' ' :: direction :: rest := by
    simp [stamp.text_eq]
  rw [htext, stripReplayHeader, dropWhile_ne_append hinner]
  simp only [dropWhile_cons_of_pos (show isBlank ' ' = true from rfl),
    dropWhile_cons_of_neg (Bool.eq_false_iff.mp hdirection)]
  split <;> simp_all

theorem decodeReplayLine_stamped (stamp : Timestamp) (rest : List Char) :
    decodeReplayLine (stamp.text ++ rest) =
      match stripReplayHeader (stamp.text ++ rest) with
      | .skip => { understood := true, bytes := [] }
      | .error => { understood := false, bytes := [] }
      | .tokens text => decodePayload text := by
  rw [stamp.text_eq, decodeReplayLine]
  simp only [cons_append]
  rw [dropWhile_cons_of_neg (by decide)]
  rfl

theorem replayBytes_comment (rest : List Char) : replayBytes ('#' :: rest) = [] := by
  rw [replayBytes, decodeReplayLine, dropWhile_cons_of_neg (by decide)]
  rfl

theorem byteToken_eq (byte : UInt8) :
    byteToken byte =
      ['0', 'x', (byte.toNat / 16).digitChar, (byte.toNat % 16).digitChar] := by
  have hlt := byte.toNat_lt
  unfold byteToken
  by_cases hsmall : byte.toNat < 16
  · rw [Nat.toDigits_of_lt_base hsmall, Nat.div_eq_of_lt hsmall, Nat.mod_eq_of_lt hsmall]
    rfl
  · rw [Nat.toDigits_of_base_le (by decide) (by omega),
      Nat.toDigits_of_lt_base (show byte.toNat / 16 < 16 by omega)]
    rfl

theorem digitChar_facts (digit : Fin 16) :
    hexDigitValue (digit : ℕ).digitChar = some (digit : ℕ) ∧ (digit : ℕ).digitChar ≠ '|' ∧
      (digit : ℕ).digitChar ≠ '\n' ∧ isSpace (digit : ℕ).digitChar = false := by
  revert digit
  decide

theorem fromChars_digitChar (byte : UInt8) :
    fromChars (byte.toNat / 16).digitChar (byte.toNat % 16).digitChar = some byte := by
  have hlt := byte.toNat_lt
  have hhigh := (digitChar_facts ⟨byte.toNat / 16, by omega⟩).1
  have hlow := (digitChar_facts ⟨byte.toNat % 16, by omega⟩).1
  simp only at hhigh hlow
  rw [fromChars, hhigh, hlow]
  simp only
  rw [Nat.div_add_mod, UInt8.ofNat_toNat]

theorem bytes_decodeToken_byteToken (byte : UInt8) :
    (decodeToken (byteToken byte)).bytes = [byte] := by
  rw [byteToken_eq, decodeToken, if_pos (.inl rfl), fromChars_digitChar]

theorem notMem_byteToken (hchar : char = '|' ∨ char = '\n') (byte : UInt8) :
    char ∉ byteToken byte := by
  have hlt := byte.toNat_lt
  have hhigh := (digitChar_facts ⟨byte.toNat / 16, by omega⟩).2
  have hlow := (digitChar_facts ⟨byte.toNat % 16, by omega⟩).2
  rw [byteToken_eq]
  rcases hchar with rfl | rfl
  · simp [Ne.symm hhigh.1, Ne.symm hlow.1]
  · simp [Ne.symm hhigh.2.1, Ne.symm hlow.2.1]

def tokensText (bytes : List UInt8) : List Char := ['|'].intercalate (bytes.map byteToken)

variable {bytes : List UInt8}

theorem tokensText_cons (first : UInt8) (hbytes : bytes ≠ []) :
    tokensText (first :: bytes) = byteToken first ++ '|' :: tokensText bytes := by
  cases bytes with
  | nil => exact absurd rfl hbytes
  | cons byte bytes => simp [tokensText, intercalate]

theorem tokensText_append (front : List UInt8) (byte : UInt8) :
    ∃ text, tokensText (front ++ [byte]) = text ++ byteToken byte := by
  induction front with
  | nil => exact ⟨[], by simp [tokensText, intercalate]⟩
  | cons first front ih =>
    obtain ⟨text, htext⟩ := ih
    refine ⟨byteToken first ++ '|' :: text, ?_⟩
    rw [cons_append, tokensText_cons first (by simp), htext]
    simp

theorem no_break_tokensText (bytes : List UInt8) : '\n' ∉ tokensText bytes := by
  induction bytes with
  | nil => simp [tokensText, intercalate]
  | cons byte bytes ih =>
    have hbyte := notMem_byteToken (.inr rfl) byte
    cases bytes with
    | nil => simpa [tokensText, intercalate] using hbyte
    | cons next bytes =>
      rw [tokensText_cons byte (by simp)]
      simp [hbyte, ih]

theorem splitOn_tokensText (hbytes : bytes ≠ []) :
    (tokensText bytes).splitOn '|' = bytes.map byteToken := by
  refine splitOn_intercalate '|' ?_ (by simpa using hbytes)
  intro token htoken
  obtain ⟨byte, -, rfl⟩ := List.mem_map.mp htoken
  exact notMem_byteToken (.inl rfl) byte

theorem bytes_decodePayload_tokensText (hbytes : bytes ≠ []) :
    (decodePayload (tokensText bytes)).bytes = bytes := by
  have htrim : (tokensText bytes).rdropWhile isSpace = tokensText bytes := by
    obtain ⟨front, byte, rfl⟩ := (eq_nil_or_concat' bytes).resolve_left hbytes
    obtain ⟨text, htext⟩ := tokensText_append front byte
    have hlt := byte.toNat_lt
    have hspace := (digitChar_facts ⟨byte.toNat % 16, by omega⟩).2.2.2
    rw [htext, byteToken_eq, append_cons, append_cons, append_cons,
      rdropWhile_concat, if_neg (by simpa using hspace)]
  have hsplit : (decodeTokenList (tokensText bytes)).bytes = bytes := by
    simp [decodeTokenList, splitOn_tokensText hbytes, flatMap_map, bytes_decodeToken_byteToken]
  unfold decodePayload
  rw [htrim]
  split
  next hnil => rw [← hsplit, hnil]; rfl
  next hcons => rw [← hcons, hsplit]

/-! ## The text of a recording -/

def RecordedLine.replayed : RecordedLine → List UInt8
  | .data _ .read bytes => bytes
  | .comment _ (.opened deviceName) => strayBytes deviceName
  | _ => []

section

variable (stamp : Timestamp)

theorem replayBytes_read (bytes : List UInt8) :
    replayBytes (stamp.text ++ 'R' :: ' ' :: tokensText bytes) = bytes := by
  rw [replayBytes, decodeReplayLine_stamped, stripReplayHeader_stamped stamp 'R' _ rfl]
  simp only [dropWhile_cons_of_pos (show isBlank ' ' = true from rfl)]
  by_cases hbytes : bytes = []
  · subst hbytes
    rfl
  · obtain ⟨first, bytes, rfl⟩ := exists_cons_of_ne_nil hbytes
    have hfirst : ∃ rest, tokensText (first :: bytes) = '0' :: rest := by
      cases bytes with
      | nil => exact ⟨_, by simp [tokensText, intercalate, byteToken_eq]; rfl⟩
      | cons next bytes => exact ⟨_, by rw [tokensText_cons first (by simp), byteToken_eq]; rfl⟩
    obtain ⟨rest, hrest⟩ := hfirst
    rw [hrest, dropWhile_cons_of_neg (by decide), ← hrest, bytes_decodePayload_tokensText hbytes]

theorem replayBytes_write (rest : List Char) : replayBytes (stamp.text ++ 'W' :: rest) = [] := by
  rw [replayBytes, decodeReplayLine_stamped, stripReplayHeader_stamped stamp 'W' _ rfl]
  rfl

theorem replayBytes_stamped_comment (rest : List Char) :
    replayBytes (stamp.text ++ '#' :: rest) = [] := by
  rw [replayBytes, decodeReplayLine_stamped, stripReplayHeader_stamped stamp '#' _ rfl]
  rfl

theorem replay_comment {front text : List Char} (hfront : '\n' ∉ front) :
    (linesOf (stamp.text ++ ('#' :: front ++ text) ++ ['\n'])).flatMap replayBytes =
      strayBytes text := by
  have hbreak : '\n' ∉ stamp.text ++ '#' :: front := by
    simp [stamp.no_break, hfront]
  obtain ⟨first, hlines⟩ := linesOf_front hbreak text
  have hsame : stamp.text ++ ('#' :: front ++ text) ++ ['\n'] =
      (stamp.text ++ '#' :: front) ++ (text ++ ['\n']) := by
    simp
  rw [hsame, hlines, flatMap_cons, append_assoc, cons_append, replayBytes_stamped_comment]
  rfl

end

theorem replay_comment_line {content : List Char} (hcontent : '\n' ∉ content) (rest : List Char) :
    (linesOf ('#' :: content ++ '\n' :: rest)).flatMap replayBytes =
      (linesOf rest).flatMap replayBytes := by
  have hline : '\n' ∉ '#' :: content := by simpa using hcontent
  rw [linesOf_append, linesOf_line hline, flatMap_append, flatMap_singleton,
    replayBytes_comment, nil_append]

theorem header_format :
    "# Format: [timestamp_ms] direction byte|byte|byte|...\n".toList =
      '#' :: " Format: [timestamp_ms] direction byte|byte|byte|...".toList ++ ['\n'] := by
  simp

theorem header_directions :
    "# Direction: R=read (from device), W=write (to device)\n".toList =
      '#' :: " Direction: R=read (from device), W=write (to device)".toList ++ ['\n'] := by
  simp

theorem header_ends (time : Option TimeText) : ∃ content, headerText time = content ++ ['\n'] := by
  have hlast : "#\n".toList = ['#'] ++ ['\n'] := by simp
  unfold headerText
  rw [hlast, ← append_assoc]
  exact ⟨_, rfl⟩

theorem replay_header (time : Option TimeText) :
    (linesOf (headerText time)).flatMap replayBytes = [] := by
  have hstart : "# Serial recording started at: ".toList =
      '#' :: " Serial recording started at: ".toList := by simp
  have hlast : "#\n".toList = ['#', '\n'] := by simp
  have hdirections : '\n' ∉ " Direction: R=read (from device), W=write (to device)".toList := by
    simp
  have hformat : '\n' ∉ " Format: [timestamp_ms] direction byte|byte|byte|...".toList := by simp
  have hfirst : '\n' ∉ " Serial recording started at: ".toList := by simp
  unfold headerText
  rw [hstart, header_format, header_directions, hlast]
  generalize " Direction: R=read (from device), W=write (to device)".toList = directions at *
  generalize " Format: [timestamp_ms] direction byte|byte|byte|...".toList = format at *
  generalize " Serial recording started at: ".toList = start at *
  have hrest : (linesOf ('#' :: directions ++ '\n' :: ['#', '\n'])).flatMap replayBytes = [] := by
    rw [replay_comment_line hdirections]
    rfl
  cases time with
  | none =>
    have hmerged : '\n' ∉ start ++ '#' :: format := by simp [hfirst, hformat]
    have hline := replay_comment_line hmerged ('#' :: directions ++ '\n' :: ['#', '\n'])
    rw [hrest] at hline
    simpa using hline
  | some time =>
    have htime : '\n' ∉ start ++ time.val := by simp [hfirst, time.property]
    have hline := replay_comment_line htime
      ('#' :: format ++ '\n' :: ('#' :: directions ++ '\n' :: ['#', '\n']))
    rw [replay_comment_line hformat, hrest] at hline
    simpa using hline

theorem end_eq : endText = '#' :: " Recording ended".toList ++ ['\n'] := by
  unfold endText
  simp

theorem replay_end : (linesOf endText).flatMap replayBytes = [] := by
  rw [end_eq, replay_comment_line (by simp)]
  rfl

theorem replay_line (line : RecordedLine) :
    (linesOf line.text).flatMap replayBytes = line.replayed := by
  cases line with
  | header time => exact replay_header time
  | data stamp direction bytes =>
    have hbreak : '\n' ∉ stamp.text ++ direction.char :: ' ' :: tokensText bytes := by
      have hchar : '\n' ≠ direction.char := by cases direction <;> decide
      simp [stamp.no_break, no_break_tokensText, hchar]
    have htext : (RecordedLine.data stamp direction bytes).text =
        (stamp.text ++ direction.char :: ' ' :: tokensText bytes) ++ ['\n'] := by
      simp [RecordedLine.text, tokensText]
    rw [htext, linesOf_line hbreak, flatMap_singleton]
    cases direction with
    | read => exact replayBytes_read stamp bytes
    | write => exact replayBytes_write stamp _
  | comment stamp note =>
    cases note with
    | opened deviceName =>
      exact @replay_comment stamp " Opened device: ".toList deviceName (by decide)
    | closed => exact @replay_comment stamp " Device closed".toList [] (by decide)
    | baudRate rate =>
      have hdigits := notMem_digits '\n' rfl rate.toNat
      have hnone := @replay_comment stamp
        (" Set baud rate: ".toList ++ Nat.toDigits 10 rate.toNat) [] (by simp [hdigits])
      rwa [append_nil] at hnone
    | characterSize bits =>
      have hdigits := notMem_digits '\n' rfl bits.toNat
      have hnone := @replay_comment stamp
        (" Set character size: ".toList ++ Nat.toDigits 10 bits.toNat) [] (by simp [hdigits])
      rwa [append_nil] at hnone
  | ended => exact replay_end

end

/-! ## A file of a recording -/

def replayedBytes (file : List RecordedLine) : List UInt8 := file.flatMap RecordedLine.replayed

section

theorem RecordedLine.text_ends (line : RecordedLine) :
    ∃ content, line.text = content ++ ['\n'] := by
  cases line with
  | header time => exact header_ends time
  | data stamp direction bytes => exact ⟨_, rfl⟩
  | comment stamp note => exact ⟨_, rfl⟩
  | ended => exact ⟨_, end_eq⟩

theorem replay_fileText (file : List RecordedLine) :
    (linesOf (fileText file)).flatMap replayBytes = replayedBytes file := by
  induction file with
  | nil => rfl
  | cons line file ih =>
    obtain ⟨content, hcontent⟩ := line.text_ends
    have hcut : fileText (line :: file) = content ++ '\n' :: fileText file := by
      rw [fileText, flatMap_cons, hcontent, append_assoc]
      rfl
    rw [hcut, linesOf_append, flatMap_append, ih, ← hcontent, replay_line]
    rfl

theorem replayedBytes_append (file : List RecordedLine) (line : RecordedLine) :
    replayedBytes (file ++ [line]) = replayedBytes file ++ line.replayed := by
  simp [replayedBytes]

end

/-! ## A run of a recording -/

def PortCall.strayBytes (call : PortCall) : List UInt8 :=
  call.openedNames.flatMap Developer.strayBytes

section

variable {recorder : Recorder}

theorem replayedBytes_stopRecording :
    replayedBytes recorder.stopRecording.file = replayedBytes recorder.file := by
  unfold Recorder.stopRecording
  split
  · rw [replayedBytes_append]
    exact append_nil _
  · rfl

theorem replayedBytes_recordDataLine (henabled : recorder.enabled) {direction : Direction}
    {elapsed : ℕ} {data : List UInt8}
    (hopen : (recorder.recordDataLine direction elapsed data).enabled) :
    replayedBytes (recorder.recordDataLine direction elapsed data).file =
      replayedBytes recorder.file ++
        (RecordedLine.data ⟨elapsed, recorder.zeroFill⟩ direction data).replayed := by
  unfold Recorder.recordDataLine at hopen ⊢
  rw [if_pos henabled] at hopen ⊢
  split
  · next hfull =>
      -- the limit would have ended the recording
      rw [if_pos hfull, Recorder.stopRecording, if_pos henabled] at hopen
      cases hopen
  · exact replayedBytes_append _ _

theorem replayedBytes_call (henabled : recorder.enabled) {call : ℕ × PortCall}
    (hopen : (recorder.call call).enabled) :
    replayedBytes (recorder.call call).file =
      replayedBytes recorder.file ++ (call.2.bytesRead ++ call.2.strayBytes) := by
  obtain ⟨elapsed, call⟩ := call
  cases call with
  | readSome bytes failed =>
    cases failed with
    | true =>
      simp [Recorder.call, Recorder.readSome, PortCall.bytesRead, PortCall.strayBytes,
        PortCall.openedNames]
    | false =>
      by_cases hbytes : bytes = []
      · simp [hbytes, Recorder.call, Recorder.readSome, PortCall.bytesRead,
          PortCall.strayBytes, PortCall.openedNames]
      · rw [Recorder.call, Recorder.readSome, if_pos ⟨hbytes, rfl⟩] at hopen ⊢
        rw [replayedBytes_recordDataLine henabled hopen]
        simp [RecordedLine.replayed, PortCall.bytesRead, PortCall.strayBytes, PortCall.openedNames]
  | writeSome payload =>
    have hnothing : PortCall.bytesRead (.writeSome payload) ++
        PortCall.strayBytes (.writeSome payload) = [] := rfl
    rw [hnothing, append_nil]
    rw [Recorder.call, Recorder.writeSome] at hopen ⊢
    split
    · next hpayload =>
        rw [if_pos hpayload] at hopen
        rw [replayedBytes_recordDataLine henabled hopen]
        exact append_nil _
    · rfl
  | deviceCall note failed =>
    cases failed with
    | true =>
      simp [Recorder.call, Recorder.deviceCall, PortCall.bytesRead, PortCall.strayBytes,
        PortCall.openedNames]
    | false =>
      rw [Recorder.call, Recorder.deviceCall, Recorder.writeComment, if_neg (by decide),
        if_pos henabled, replayedBytes_append]
      cases note <;>
        simp [RecordedLine.replayed, PortCall.bytesRead, PortCall.strayBytes, PortCall.openedNames]
  | passedOn =>
    simp [Recorder.call, PortCall.bytesRead, PortCall.strayBytes, PortCall.openedNames]

variable {calls : List (ℕ × PortCall)}

theorem replayedBytes_calls
    (hopen : EachState Recorder.call (fun recorder => recorder.enabled) recorder calls) :
    replayedBytes (calls.foldl Recorder.call recorder).file =
      replayedBytes recorder.file ++
        calls.flatMap fun call => call.2.bytesRead ++ call.2.strayBytes := by
  induction calls generalizing recorder with
  | nil => exact (append_nil _).symm
  | cons call calls ih =>
    rw [eachState_cons] at hopen
    rw [foldl_cons, ih hopen.2, replayedBytes_call hopen.1 hopen.2.first,
      flatMap_cons, append_assoc]

theorem contents_recordedFile {zeroFill : Bool} {time : Option TimeText}
    (hopen : EachState Recorder.call (fun recorder => recorder.enabled) (.started zeroFill time)
      calls) :
    (ReplayFile.ofText (fileText (recordedFile zeroFill time calls))).contents replayBytes =
      calls.flatMap fun call => call.2.bytesRead ++ call.2.strayBytes := by
  have hheader : replayedBytes (Recorder.started zeroFill time).file = [] := rfl
  rw [BufferedSource.contents, ReplayFile.ofText, nil_append, replay_fileText, recordedFile,
    replayedBytes_stopRecording, replayedBytes_calls hopen, hheader, nil_append]

theorem length_flatMap_le_append {α β : Type*} (items : List α) (f g : α → List β) :
    (items.flatMap f).length ≤ (items.flatMap fun item => f item ++ g item).length := by
  induction items with
  | nil => exact le_rfl
  | cons item items ih =>
    simp only [flatMap_cons, length_append]
    omega

theorem flatMap_append_eq_iff {α β : Type*} {items : List α} {f g : α → List β} :
    (items.flatMap fun item => f item ++ g item) = items.flatMap f ↔
      ∀ item ∈ items, g item = [] := by
  induction items with
  | nil => simp
  | cons item items ih =>
    rw [flatMap_cons, flatMap_cons, append_assoc, append_cancel_left_eq, forall_mem_cons, ← ih]
    constructor
    · intro heq
      -- what is added can only make the list longer
      have hlength := congrArg List.length heq
      have hle := length_flatMap_le_append items f g
      rw [length_append] at hlength
      have hnone : g item = [] := List.length_eq_zero_iff.mp (by omega)
      rw [hnone, nil_append] at heq
      exact ⟨hnone, heq⟩
    · rintro ⟨hnone, heq⟩
      rw [hnone, heq, nil_append]

theorem strayBytes_eq_nil_iff (deviceName : List Char) :
    strayBytes deviceName = [] ↔ PlainName deviceName := by
  simp only [strayBytes, flatMap_eq_nil_iff, replayBytes_eq_nil_iff, PlainName]

/-- **Record and replay.**  A recording that stays open through its calls is replayed as the bytes
that were read and then the end of the file, for all sizes of the reads, exactly if no device has
been opened under a name that goes on, behind a line break, with a line of bytes. -/
theorem replay_iff (zeroFill : Bool) (time : Option TimeText) (calls : List (ℕ × PortCall))
    (hopen : EachState Recorder.call (fun recorder => recorder.enabled)
      (.started zeroFill time) calls) :
    (∀ sizes : List ℕ, (∀ size ∈ sizes, 0 < size) →
      (ReplayFile.ofText (fileText (recordedFile zeroFill time calls))).handleFileReads sizes =
        cut (calls.flatMap fun call => call.2.bytesRead) sizes) ↔
      ∀ call ∈ calls, ∀ deviceName ∈ call.2.openedNames, PlainName deviceName := by
  have hplain : (∀ call ∈ calls, ∀ deviceName ∈ call.2.openedNames, PlainName deviceName) ↔
      ∀ call ∈ calls, call.2.strayBytes = [] := by
    simp only [PortCall.strayBytes, flatMap_eq_nil_iff, strayBytes_eq_nil_iff]
  rw [hplain, ← @flatMap_append_eq_iff _ _ calls fun call => call.2.bytesRead,
    ← contents_recordedFile hopen]
  constructor
  · intro hreads
    refine cut_inj fun sizes hsizes => ?_
    rw [← hreads sizes hsizes]
    exact (BufferedSource.reads_eq _ hsizes).symm
  · intro hcontents sizes hsizes
    rw [← hcontents]
    exact BufferedSource.reads_eq _ hsizes

/-- A read, a write and a close, replayed one byte at a time. -/
theorem replay_read_write_close :
    (ReplayFile.ofText (fileText (recordedFile false none
      [(3, .readSome [0x10, 0x02] false), (7, .writeSome [0x10]),
        (9, .deviceCall .closed false)]))).handleFileReads [1, 4, 1] =
      [some [0x10], some [0x02], none] :=
  (replay_iff false none
    [(3, .readSome [0x10, 0x02] false), (7, .writeSome [0x10]), (9, .deviceCall .closed false)]
    ⟨rfl, rfl, rfl, rfl⟩).mpr (by simp [PortCall.openedNames]) [1, 4, 1] (by decide)

/-- A device whose name goes on with a byte on another line. -/
def splitName : List Char := ['x', '\n', '0', 'x', '1', '0']

/-- Nothing is read from the device, and a byte is replayed. -/
theorem splitName_replayed :
    EachState Recorder.call (fun recorder => recorder.enabled) (.started false none)
        [(0, .deviceCall (.opened splitName) false)] ∧
      ¬ ∀ sizes : List ℕ, (∀ size ∈ sizes, 0 < size) →
        (ReplayFile.ofText (fileText (recordedFile false none
          [(0, .deviceCall (.opened splitName) false)]))).handleFileReads sizes =
          cut ([(0, PortCall.deviceCall (.opened splitName) false)].flatMap
            fun call => call.2.bytesRead) sizes := by
  have hopen : EachState Recorder.call (fun recorder => recorder.enabled)
      (.started false none) [(0, .deviceCall (.opened splitName) false)] := ⟨rfl, rfl⟩
  refine ⟨hopen, fun hreads => ?_⟩
  have hone := hreads [1] (by decide)
  rw [ReplayFile.handleFileReads, BufferedSource.reads_eq _ (by decide),
    contents_recordedFile hopen] at hone
  revert hone
  decide

end

end AqualinkAutomate.Developer
