import Aqualink.General.Search

/-!
# Jandy bytes on the wire

The framing bytes, the one-byte checksum, and the null handling that keeps the
framing bytes unambiguous: on the wire a `0x10` in the body of a packet is
followed by an inserted `0x00`, and a reader drops a `0x00` behind a `0x10`.

Three facts carry everything that is proved about frames later on.

* Dropping undoes inserting, in any context (`dropNullAfterDLE_insertNullAfterDLE`).
* A stuffed body contains no `0x10` followed by anything but `0x00`
  (`avoids_insertNullAfterDLE`), and it does not end in a `0x10`.
* Inserted zeros do not change the checksum (`calculateChecksum_insertNullAfterDLE`).
-/

namespace AqualinkAutomate.Jandy

open General List

/-! ## Framing bytes -/

abbrev headerByteDLE : UInt8 := 0x10
abbrev headerByteSTX : UInt8 := 0x02
abbrev headerByteETX : UInt8 := 0x03

abbrev packetStartSequence : List UInt8 := [headerByteDLE, headerByteSTX]
abbrev packetEndSequence : List UInt8 := [headerByteDLE, headerByteETX]

@[simp] theorem headerByteDLE_ne_STX : headerByteDLE ≠ headerByteSTX := by decide

@[simp] theorem headerByteDLE_ne_ETX : headerByteDLE ≠ headerByteETX := by decide

@[simp] theorem headerByteDLE_ne_zero : headerByteDLE ≠ 0x00 := by decide

abbrev packetHeaderLength : ℕ := 4
abbrev packetFooterLength : ℕ := 3
abbrev maximumPacketLength : ℕ := 128
abbrev minimumPacketLength : ℕ := packetHeaderLength + packetFooterLength

/-! ## The checksum -/

/-- The running 32-bit sum of the bytes. -/
def checksumFrom (checksum : UInt32) (bytes : List UInt8) : UInt32 :=
  bytes.foldl (fun checksum elem => checksum + elem.toUInt32) checksum

/-- The low byte of the sum. -/
def calculateChecksum (bytes : List UInt8) : UInt8 :=
  (checksumFrom 0 bytes &&& 0xFF).toUInt8

@[simp] theorem checksumFrom_nil (c : UInt32) : checksumFrom c [] = c := rfl

@[simp] theorem checksumFrom_cons (c : UInt32) (b : UInt8) (bs : List UInt8) :
    checksumFrom c (b :: bs) = checksumFrom (c + b.toUInt32) bs := rfl

@[simp] theorem checksumFrom_append (c : UInt32) (xs ys : List UInt8) :
    checksumFrom c (xs ++ ys) = checksumFrom (checksumFrom c xs) ys :=
  foldl_append

/-! ## Null handling -/

/-- Insert a `0x00` after every `0x10`. -/
def insertNullAfterDLE : List UInt8 → List UInt8
  | [] => []
  | b :: bs =>
    if b = headerByteDLE then b :: 0x00 :: insertNullAfterDLE bs
    else b :: insertNullAfterDLE bs

/-- The escape scan of an outgoing packet: everything between the first two bytes
and the last two is stuffed, the checksum byte included. -/
def nullCharHandlerSerialization (messageBytes : List UInt8) : List UInt8 :=
  if messageBytes.length < minimumPacketLength then messageBytes
  else
    messageBytes.take 2 ++
      insertNullAfterDLE ((messageBytes.take (messageBytes.length - 2)).drop 2) ++
      messageBytes.drop (messageBytes.length - 2)

/-- Does some `0x10` have a `0x00` right behind it? -/
def needsNullCharHandling : List UInt8 → Bool
  | b :: c :: rest => (b == 0x10 && c == 0x00) || needsNullCharHandling (c :: rest)
  | _ => false

/-- Drop every `0x00` whose predecessor on the wire is a `0x10`. -/
def dropNullAfterDLE (lastByteWas0x10 : Bool) : List UInt8 → List UInt8
  | [] => []
  | byte :: rest =>
    if lastByteWas0x10 && byte == 0x00 then dropNullAfterDLE (byte == 0x10) rest
    else byte :: dropNullAfterDLE (byte == 0x10) rest

/-- De-stuffing into an output of a fixed size; writing stops when it is full. -/
def nullCharHandlerDeserializationToSpan (input : List UInt8) (outputSize : ℕ) : List UInt8 :=
  (dropNullAfterDLE false input).take outputSize

section

@[simp] theorem insertNullAfterDLE_nil : insertNullAfterDLE [] = [] := rfl

theorem insertNullAfterDLE_cons (b : UInt8) (bs : List UInt8) :
    insertNullAfterDLE (b :: bs) =
      (if b = headerByteDLE then [b, 0x00] else [b]) ++ insertNullAfterDLE bs := by
  by_cases h : b = headerByteDLE <;> simp [insertNullAfterDLE, h]

theorem insertNullAfterDLE_append (xs ys : List UInt8) :
    insertNullAfterDLE (xs ++ ys) = insertNullAfterDLE xs ++ insertNullAfterDLE ys := by
  induction xs with
  | nil => rfl
  | cons x xs ih => simp only [cons_append, insertNullAfterDLE_cons, ih, append_assoc]

theorem length_le_length_insertNullAfterDLE (bs : List UInt8) :
    bs.length ≤ (insertNullAfterDLE bs).length := by
  induction bs with
  | nil => simp
  | cons b bs ih =>
    rw [insertNullAfterDLE_cons]
    split <;> simp only [length_append, length_cons, length_nil] <;> omega

/-- A stuffed body never ends in a bare `0x10`. -/
theorem getLast?_insertNullAfterDLE_ne (bs : List UInt8) :
    (insertNullAfterDLE bs).getLast? ≠ some headerByteDLE := by
  induction bs with
  | nil => simp
  | cons b bs ih =>
    rw [insertNullAfterDLE_cons]
    cases hrest : insertNullAfterDLE bs with
    | nil =>
      split
      · simp only [append_nil, getLast?_cons_cons, getLast?_singleton]
        decide
      · simpa using ‹¬ b = headerByteDLE›
    | cons c cs =>
      rw [hrest] at ih
      rw [getLast?_append_of_ne_nil _ (by simp)]
      exact ih

/-- In a stuffed body a `0x10` is followed by `0x00` only. -/
theorem avoids_insertNullAfterDLE {z : UInt8} (hz : z ≠ 0x00) (bs : List UInt8) :
    Avoids headerByteDLE z (insertNullAfterDLE bs) := by
  induction bs with
  | nil => exact avoids_nil _ _
  | cons b bs ih =>
    rw [insertNullAfterDLE_cons]
    refine avoids_append.mpr ⟨?_, ih, ?_⟩
    · split
      · exact avoids_cons_cons.mpr ⟨fun h => hz h.2.symm, avoids_singleton _ _ _⟩
      · exact avoids_singleton _ _ _
    · have hzero : (0x00 : UInt8) ≠ headerByteDLE := by decide
      split <;> simp_all

theorem checksumFrom_insertNullAfterDLE (c : UInt32) (bs : List UInt8) :
    checksumFrom c (insertNullAfterDLE bs) = checksumFrom c bs := by
  induction bs generalizing c with
  | nil => rfl
  | cons b bs ih =>
    rw [insertNullAfterDLE_cons, checksumFrom_append, ih]
    split <;> simp

end

section

@[simp] theorem dropNullAfterDLE_nil (last : Bool) : dropNullAfterDLE last [] = [] := rfl

theorem dropNullAfterDLE_false_cons (b : UInt8) (bs : List UInt8) :
    dropNullAfterDLE false (b :: bs) = b :: dropNullAfterDLE (b == 0x10) bs := by
  simp [dropNullAfterDLE]

/-- De-stuffing undoes stuffing, whatever follows the stuffed part. -/
theorem dropNullAfterDLE_insertNullAfterDLE (bs rest : List UInt8) :
    dropNullAfterDLE false (insertNullAfterDLE bs ++ rest) =
      bs ++ dropNullAfterDLE false rest := by
  induction bs with
  | nil => rfl
  | cons b bs ih =>
    by_cases h : b = headerByteDLE
    · simp only [insertNullAfterDLE, h, if_true, cons_append]
      rw [dropNullAfterDLE_false_cons, dropNullAfterDLE]
      simpa using ih
    · simp only [insertNullAfterDLE, h, if_false, cons_append]
      rw [dropNullAfterDLE_false_cons, beq_eq_false_iff_ne.mpr h, ih]

theorem length_dropNullAfterDLE_le (last : Bool) (bs : List UInt8) :
    (dropNullAfterDLE last bs).length ≤ bs.length := by
  induction bs generalizing last with
  | nil => simp
  | cons b bs ih =>
    have := ih (b == 0x10)
    rw [dropNullAfterDLE]
    split <;> simp only [length_cons] <;> omega

theorem dropNullAfterDLE_append (last : Bool) (xs ys : List UInt8) :
    dropNullAfterDLE last (xs ++ ys) =
      dropNullAfterDLE last xs ++
        dropNullAfterDLE ((xs.getLast?.map (· == 0x10)).getD last) ys := by
  induction xs generalizing last with
  | nil => rfl
  | cons b bs ih =>
    have hlast : (((b :: bs).getLast?).map (· == 0x10)).getD last =
        ((bs.getLast?).map (· == 0x10)).getD (b == 0x10) := by
      cases bs with
      | nil => rfl
      | cons c cs => rw [getLast?_cons_cons]; simp [getLast?_cons]
    rw [cons_append, dropNullAfterDLE, dropNullAfterDLE, hlast]
    split
    · exact ih _
    · rw [ih, cons_append]

/-- The zeros that are dropped are invisible to the sum. -/
theorem checksumFrom_dropNullAfterDLE (c : UInt32) (last : Bool) (bs : List UInt8) :
    checksumFrom c (dropNullAfterDLE last bs) = checksumFrom c bs := by
  induction bs generalizing c last with
  | nil => rfl
  | cons b bs ih =>
    rw [dropNullAfterDLE]
    split
    · next hdrop =>
        have hzero : b = 0x00 := by
          simp only [Bool.and_eq_true, beq_iff_eq] at hdrop
          exact hdrop.2
        rw [ih, checksumFrom_cons, hzero]
        simp
    · rw [checksumFrom_cons, checksumFrom_cons, ih]

/-- Bytes without an escape pair are left alone. -/
theorem dropNullAfterDLE_of_not_needs {last : Bool} {bs : List UInt8}
    (hlast : last → bs.head? ≠ some 0x00) (h : needsNullCharHandling bs = false) :
    dropNullAfterDLE last bs = bs := by
  induction bs generalizing last with
  | nil => rfl
  | cons b bs ih =>
    have hkeep : (last && b == 0x00) = false := by
      cases last <;> simp_all
    have hrest : dropNullAfterDLE (b == 0x10) bs = bs := by
      cases bs with
      | nil => rfl
      | cons c cs =>
        simp only [needsNullCharHandling, Bool.or_eq_false_iff] at h
        refine ih (fun hb hc => ?_) h.2
        simp_all
    simp [dropNullAfterDLE, hkeep, hrest]

end

/-- The span that a packet is decoded from: the data itself when it holds no
escape pair, its de-stuffed copy otherwise. -/
def unescapedPacket (contiguousData : List UInt8) : List UInt8 :=
  if needsNullCharHandling contiguousData then
    nullCharHandlerDeserializationToSpan contiguousData maximumPacketLength
  else contiguousData

theorem unescapedPacket_eq {data : List UInt8} (h : data.length ≤ maximumPacketLength) :
    unescapedPacket data = dropNullAfterDLE false data := by
  unfold unescapedPacket
  split
  · exact take_of_length_le ((length_dropNullAfterDLE_le _ _).trans h)
  · rename_i hneeds
    exact (dropNullAfterDLE_of_not_needs (by simp) (by simpa using hneeds)).symm

end AqualinkAutomate.Jandy
