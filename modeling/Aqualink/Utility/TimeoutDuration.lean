import Aqualink.Scheduling.Schedule

/-!
# Timeout durations

A timeout is written `HH:MM:SS`.  The converter checks the length and the two colons, and reads
each field with `std::from_chars`, which stops at the first character that is no digit; that it has
stopped at the end of the field is not checked.

So a field is also read when only its first character is a digit, and when it is `-0`
(`leadingNumber`).  What is read is rejected only by its range, and a text that is read although
it is no timeout shows unless the duration is zero anyway.
-/

namespace AqualinkAutomate.Utility

open List

open Scheduling (fromChars twoDigits)

/-- `std::from_chars` for an `int8_t`. -/
def fromCharsInt8 (text : List Char) : Option ℤ :=
  (fromChars text).filter fun value => decide (-2 ^ 7 ≤ value ∧ value < 2 ^ 7)

structure TimeoutDurationStringConverter where
  /-- In seconds. -/
  timeoutDuration : ℤ := 0

namespace TimeoutDurationStringConverter

/-- The assignment of a text, and for a new converter its construction from one. -/
def convertStringToTimeoutDuration (_ : TimeoutDurationStringConverter)
    (timeoutString : List Char) : TimeoutDurationStringConverter :=
  -- a failure leaves the duration at zero, whatever it was
  if timeoutString.length ≠ 8 then {}
  else if timeoutString[2]? ≠ some ':' then {}
  else if timeoutString[5]? ≠ some ':' then {}
  else
    match fromCharsInt8 (timeoutString.take 2), fromCharsInt8 ((timeoutString.drop 3).take 2),
      fromCharsInt8 ((timeoutString.drop 6).take 2) with
    | some hours, some minutes, some seconds =>
      if (hours < 0 ∨ hours > 99) ∨ (minutes < 0 ∨ minutes > 59) ∨ (seconds < 0 ∨ seconds > 59)
      then {}
      else { timeoutDuration := hours * 3600 + minutes * 60 + seconds }
    | _, _, _ => {}

end TimeoutDurationStringConverter

/-! ## Timeouts -/

def timeoutText (hours minutes seconds : ℕ) : List Char :=
  twoDigits hours ++ ':' :: (twoDigits minutes ++ ':' :: twoDigits seconds)

structure IsTimeout (text : List Char) (hours minutes seconds : ℕ) : Prop where
  hours_le : hours ≤ 99
  minutes_le : minutes ≤ 59
  seconds_le : seconds ≤ 59
  text_eq : text = timeoutText hours minutes seconds

/-- A timeout has its duration, and any other text none, whatever was assigned before. -/
structure TimeoutDurationStringConverter.FollowsGrammar
    (converter : TimeoutDurationStringConverter) (text : List Char) : Prop where
  accepted : ∀ hours minutes seconds, IsTimeout text hours minutes seconds →
    (converter.convertStringToTimeoutDuration text).timeoutDuration =
      (hours * 3600 + minutes * 60 + seconds : ℕ)
  rejected : (¬ ∃ hours minutes seconds, IsTimeout text hours minutes seconds) →
    (converter.convertStringToTimeoutDuration text).timeoutDuration = 0

/-! ## Fields -/

def digitValue (c : Char) : ℕ := c.toNat - '0'.toNat

def leadingNumber (first second : Char) : Option ℕ :=
  if first.isDigit then
    some (if second.isDigit then 10 * digitValue first + digitValue second else digitValue first)
  else if first = '-' ∧ second = '0' then some 0
  else none

/-- A text that is read, is no timeout, and has a number other than zero. -/
def IsMisread (text : List Char) : Prop :=
  ∃ h h' m m' s s' hours minutes seconds, text = [h, h', ':', m, m', ':', s, s'] ∧
    leadingNumber h h' = some hours ∧ leadingNumber m m' = some minutes ∧
    leadingNumber s s' = some seconds ∧ minutes ≤ 59 ∧ seconds ≤ 59 ∧
    ¬ [h, h', m, m', s, s'].all Char.isDigit ∧ ¬ (hours = 0 ∧ minutes = 0 ∧ seconds = 0)

section

variable {c first second : Char} {n : ℕ}

theorem toNat_of_isDigit (h : c.isDigit) : 48 ≤ c.toNat ∧ c.toNat ≤ 57 := by
  simp only [Char.isDigit, Bool.and_eq_true, decide_eq_true_eq, ge_iff_le,
    UInt32.le_iff_toNat_le] at h
  exact h

theorem digitValue_le (h : c.isDigit) : digitValue c ≤ 9 := by
  have hrange := toNat_of_isDigit h
  have hzero : '0'.toNat = 48 := rfl
  rw [digitValue, hzero]
  omega

theorem digitChar_digitValue (h : c.isDigit) : (digitValue c).digitChar = c := by
  have hrange := toNat_of_isDigit h
  have hall : ∀ n : Fin 10, (n : ℕ).digitChar = Char.ofNat (n + 48) := by decide
  have hvalue : digitValue c + 48 = c.toNat := by
    have hzero : '0'.toNat = 48 := rfl
    rw [digitValue, hzero]
    omega
  have hchar := hall ⟨digitValue c, by have := digitValue_le h; omega⟩
  rwa [hvalue, Char.ofNat_toNat] at hchar

theorem fromCharsInt8_pair (first second : Char) :
    fromCharsInt8 [first, second] =
      if first.isDigit then
        some ((if second.isDigit then 10 * digitValue first + digitValue second
          else digitValue first : ℕ) : ℤ)
      else if first = '-' ∧ second.isDigit then some (-(digitValue second : ℤ))
      else none := by
  have hvalue : ∀ {c : Char}, c.isDigit → (c.toNat : ℤ) - 48 = digitValue c := by
    intro c hc
    have hrange := toNat_of_isDigit hc
    have hzero : '0'.toNat = 48 := rfl
    rw [digitValue, hzero]
    omega
  cases hfirst : first.isDigit with
  | true =>
    have hsign : (first == '-') = false := by
      rw [beq_eq_false_iff_ne]
      rintro rfl
      exact absurd hfirst (by decide)
    have hle := digitValue_le hfirst
    cases hsecond : second.isDigit with
    | true =>
      have hle' := digitValue_le hsecond
      simp [fromCharsInt8, fromChars, hsign, hfirst, hsecond, hvalue]
      omega
    | false =>
      simp [fromCharsInt8, fromChars, hsign, hfirst, hsecond, hvalue]
      omega
  | false =>
    by_cases hsign : first = '-'
    · subst hsign
      cases hsecond : second.isDigit with
      | true =>
        have hle' := digitValue_le hsecond
        simp [fromCharsInt8, fromChars, hsecond, hvalue]
        omega
      | false => simp [fromCharsInt8, fromChars, hsecond]
    · simp [fromCharsInt8, fromChars, hsign, hfirst]

theorem leadingNumber_le (h : leadingNumber first second = some n) : n ≤ 99 := by
  unfold leadingNumber at h
  split at h
  · next hfirst =>
    have hle := digitValue_le hfirst
    split at h
    · next hsecond =>
      have hle' := digitValue_le hsecond
      cases h
      omega
    · cases h
      omega
  · split at h
    · cases h
      omega
    · cases h

theorem fromCharsInt8_of_leadingNumber (h : leadingNumber first second = some n) :
    fromCharsInt8 [first, second] = some (n : ℤ) := by
  rw [fromCharsInt8_pair]
  unfold leadingNumber at h
  split at h
  next hfirst => rw [if_pos hfirst, ← Option.some.inj h]
  next hfirst =>
    rw [if_neg hfirst]
    split at h
    · next hzero =>
      obtain ⟨rfl, rfl⟩ := hzero
      rw [if_pos ⟨rfl, by decide⟩, ← Option.some.inj h]
      rfl
    · cases h

theorem leadingNumber_of_fromCharsInt8 {value : ℤ}
    (h : fromCharsInt8 [first, second] = some value) (hpos : 0 ≤ value) :
    leadingNumber first second = some value.toNat := by
  rw [fromCharsInt8_pair] at h
  unfold leadingNumber
  split at h
  next hfirst => rw [if_pos hfirst, ← Option.some.inj h, Int.toNat_natCast]
  next hfirst =>
    rw [if_neg hfirst]
    split at h
    · next hsign =>
      have hvalue : -(digitValue second : ℤ) = value := Option.some.inj h
      have hzero : digitValue second = 0 := by omega
      have hsecond : second = '0' := by
        have hchar := digitChar_digitValue hsign.2
        rw [hzero] at hchar
        exact hchar.symm
      rw [if_pos ⟨hsign.1, hsecond⟩, ← hvalue, hzero]
      rfl
    · cases h

theorem leadingNumber_twoDigits : ∀ n : Fin 100,
    leadingNumber (n / 10 : ℕ).digitChar (n % 10 : ℕ).digitChar = some n := by
  decide

theorem twoDigits_of_isDigit (hfirst : first.isDigit) (hsecond : second.isDigit)
    (h : leadingNumber first second = some n) : twoDigits n = [first, second] := by
  rw [leadingNumber, if_pos hfirst, if_pos hsecond] at h
  cases h
  have hle := digitValue_le hsecond
  have hdiv : (10 * digitValue first + digitValue second) / 10 = digitValue first := by omega
  have hmod : (10 * digitValue first + digitValue second) % 10 = digitValue second := by omega
  rw [twoDigits, hdiv, hmod, digitChar_digitValue hfirst, digitChar_digitValue hsecond]

theorem isDigit_twoDigits : ∀ n : Fin 100,
    (n / 10 : ℕ).digitChar.isDigit ∧ (n % 10 : ℕ).digitChar.isDigit := by
  decide

end

/-! ## The converter -/

namespace TimeoutDurationStringConverter

variable {converter : TimeoutDurationStringConverter} {text : List Char}
  {h h' m m' s s' : Char} {hours minutes seconds : ℕ}

theorem timeoutDuration_of_fields (hh : leadingNumber h h' = some hours)
    (hm : leadingNumber m m' = some minutes) (hs : leadingNumber s s' = some seconds)
    (hminutes : minutes ≤ 59) (hseconds : seconds ≤ 59) :
    (converter.convertStringToTimeoutDuration [h, h', ':', m, m', ':', s, s']).timeoutDuration =
      (hours * 3600 + minutes * 60 + seconds : ℕ) := by
  have hhours := leadingNumber_le hh
  have hrange : ¬ (((hours : ℤ) < 0 ∨ (hours : ℤ) > 99) ∨
      ((minutes : ℤ) < 0 ∨ (minutes : ℤ) > 59) ∨ (seconds : ℤ) < 0 ∨ (seconds : ℤ) > 59) := by
    omega
  have htake : [h, h', ':', m, m', ':', s, s'].take 2 = [h, h'] := rfl
  have hmiddle : ([h, h', ':', m, m', ':', s, s'].drop 3).take 2 = [m, m'] := rfl
  have hend : ([h, h', ':', m, m', ':', s, s'].drop 6).take 2 = [s, s'] := rfl
  rw [convertStringToTimeoutDuration, if_neg fun hne => hne rfl, if_neg fun hne => hne rfl,
    if_neg fun hne => hne rfl, htake, hmiddle, hend, fromCharsInt8_of_leadingNumber hh,
    fromCharsInt8_of_leadingNumber hm, fromCharsInt8_of_leadingNumber hs]
  dsimp only
  rw [if_neg hrange]
  show (hours : ℤ) * 3600 + minutes * 60 + seconds = _
  omega

theorem eq_of_checks (hlength : text.length = 8) (hfirst : text[2]? = some ':')
    (hsecond : text[5]? = some ':') : ∃ h h' m m' s s', text = [h, h', ':', m, m', ':', s, s'] := by
  match text, hlength with
  | [h, h', c, m, m', c', s, s'], _ =>
    cases hfirst
    cases hsecond
    exact ⟨h, h', m, m', s, s', rfl⟩

theorem fields_of_timeoutDuration
    (hne : (converter.convertStringToTimeoutDuration text).timeoutDuration ≠ 0) :
    ∃ h h' m m' s s' hours minutes seconds, text = [h, h', ':', m, m', ':', s, s'] ∧
      leadingNumber h h' = some hours ∧ leadingNumber m m' = some minutes ∧
      leadingNumber s s' = some seconds ∧ minutes ≤ 59 ∧ seconds ≤ 59 := by
  unfold convertStringToTimeoutDuration at hne
  split at hne
  · exact absurd rfl hne
  · next hlength =>
    split at hne
    · exact absurd rfl hne
    · next hfirst =>
      split at hne
      · exact absurd rfl hne
      · next hsecond =>
        obtain ⟨h, h', m, m', s, s', rfl⟩ :=
          eq_of_checks (not_not.mp hlength) (not_not.mp hfirst) (not_not.mp hsecond)
        split at hne
        · next hours minutes seconds hh hm hs =>
          split at hne
          · exact absurd rfl hne
          · next hrange =>
            refine ⟨h, h', m, m', s, s', hours.toNat, minutes.toNat, seconds.toNat, rfl,
              leadingNumber_of_fromCharsInt8 hh (by omega),
              leadingNumber_of_fromCharsInt8 hm (by omega),
              leadingNumber_of_fromCharsInt8 hs (by omega), by omega, by omega⟩
        · exact absurd rfl hne

theorem isTimeout_of_isDigit (hdigits : [h, h', m, m', s, s'].all Char.isDigit)
    (hh : leadingNumber h h' = some hours) (hm : leadingNumber m m' = some minutes)
    (hs : leadingNumber s s' = some seconds) (hminutes : minutes ≤ 59) (hseconds : seconds ≤ 59) :
    IsTimeout [h, h', ':', m, m', ':', s, s'] hours minutes seconds := by
  have hall := List.all_eq_true.mp hdigits
  have hh' := twoDigits_of_isDigit (hall h (by simp)) (hall h' (by simp)) hh
  have hm' := twoDigits_of_isDigit (hall m (by simp)) (hall m' (by simp)) hm
  have hs' := twoDigits_of_isDigit (hall s (by simp)) (hall s' (by simp)) hs
  exact
    { hours_le := leadingNumber_le hh
      minutes_le := hminutes
      seconds_le := hseconds
      text_eq := by rw [timeoutText, hh', hm', hs']; rfl }

theorem timeoutDuration_of_isTimeout (htext : IsTimeout text hours minutes seconds) :
    (converter.convertStringToTimeoutDuration text).timeoutDuration =
      (hours * 3600 + minutes * 60 + seconds : ℕ) := by
  have hminutes := htext.minutes_le
  have hseconds := htext.seconds_le
  have hhours := htext.hours_le
  rw [htext.text_eq]
  exact timeoutDuration_of_fields (leadingNumber_twoDigits ⟨hours, by omega⟩)
    (leadingNumber_twoDigits ⟨minutes, by omega⟩) (leadingNumber_twoDigits ⟨seconds, by omega⟩)
    hminutes hseconds

theorem isDigit_of_isTimeout
    (htext : IsTimeout [h, h', ':', m, m', ':', s, s'] hours minutes seconds) :
    [h, h', m, m', s, s'].all Char.isDigit := by
  have hminutes := htext.minutes_le
  have hseconds := htext.seconds_le
  have hhours := htext.hours_le
  have htwo := isDigit_twoDigits ⟨hours, by omega⟩
  have htwo' := isDigit_twoDigits ⟨minutes, by omega⟩
  have htwo'' := isDigit_twoDigits ⟨seconds, by omega⟩
  have heq := htext.text_eq
  simp only [timeoutText, twoDigits, cons_append, nil_append, List.cons.injEq,
    and_true, true_and] at heq
  obtain ⟨rfl, rfl, rfl, rfl, rfl, rfl⟩ := heq
  simp only [all_cons, all_nil, htwo.1, htwo.2, htwo'.1, htwo'.2, htwo''.1, htwo''.2,
    Bool.and_self]

/-- The converter follows the grammar exactly on the texts that are not misread, whatever was
assigned before. -/
theorem followsGrammar_iff (converter : TimeoutDurationStringConverter) (text : List Char) :
    converter.FollowsGrammar text ↔ ¬ IsMisread text := by
  constructor
  · rintro hfollows ⟨h, h', m, m', s, s', hours, minutes, seconds, rfl, hh, hm, hs, hminutes,
      hseconds, hdigits, hne⟩
    have hnone : ¬ ∃ hours minutes seconds,
        IsTimeout [h, h', ':', m, m', ':', s, s'] hours minutes seconds := by
      rintro ⟨hours, minutes, seconds, htext⟩
      exact hdigits (isDigit_of_isTimeout htext)
    have hzero := hfollows.rejected hnone
    rw [timeoutDuration_of_fields hh hm hs hminutes hseconds] at hzero
    exact hne (by omega)
  · intro hread
    refine ⟨fun hours minutes seconds htext => timeoutDuration_of_isTimeout htext, fun hnone => ?_⟩
    by_contra hne
    obtain ⟨h, h', m, m', s, s', hours, minutes, seconds, rfl, hh, hm, hs, hminutes, hseconds⟩ :=
      fields_of_timeoutDuration hne
    rw [timeoutDuration_of_fields hh hm hs hminutes hseconds] at hne
    refine hread ⟨h, h', m, m', s, s', hours, minutes, seconds, rfl, hh, hm, hs, hminutes,
      hseconds, fun hdigits => hnone ⟨hours, minutes, seconds, ?_⟩, by omega⟩
    exact isTimeout_of_isDigit hdigits hh hm hs hminutes hseconds

/-- `1a:00:00` is read as an hour. -/
theorem not_followsGrammar_letter :
    ¬ ({} : TimeoutDurationStringConverter).FollowsGrammar "1a:00:00".toList := by
  intro hfollows
  have hnone : ¬ ∃ hours minutes seconds, IsTimeout "1a:00:00".toList hours minutes seconds := by
    rintro ⟨hours, minutes, seconds, htext⟩
    exact absurd (isDigit_of_isTimeout htext) (by decide)
  exact absurd (hfollows.rejected hnone) (by decide)

end TimeoutDurationStringConverter

end AqualinkAutomate.Utility
