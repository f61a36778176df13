import Mathlib.Data.List.GetD
import Mathlib.Data.List.Sort

/-!
# Readers

Reads and writes that stay inside of a list, and reads from a source that is decoded item by
item.
-/

/-!
## Reads that are checked

A decoder of a list ends with a value, because it has rejected the list, or because it has read
outside of it.  The last is what must not happen: it is an outcome of its own, and a decoder whose
outcome is always one of the others has checked the length before each of its reads.

`readAt_eq` and `readRange_eq` are the two reads under such a check.
-/

namespace AqualinkAutomate.General

open List

/-- Why a decoder ends without a value. -/
inductive ReadError where
  | rejected
  | outOfBounds
  deriving DecidableEq

abbrev Decoding (Value : Type*) : Type _ := Except ReadError Value

section

variable {Item : Type*}

def readAt (items : List Item) (pos : ℕ) : Decoding Item :=
  match items[pos]? with
  | some item => .ok item
  | none => .error .outOfBounds

def readRange (items : List Item) (pos count : ℕ) : Decoding (List Item) :=
  if pos + count ≤ items.length then .ok ((items.drop pos).take count) else .error .outOfBounds

variable {items : List Item} {pos count : ℕ}

theorem readAt_eq (fallback : Item) (h : pos < items.length) :
    readAt items pos = .ok (items.getD pos fallback) := by
  rw [readAt, getElem?_eq_getElem h, getD_eq_getElem _ _ h]

theorem readRange_eq (h : pos + count ≤ items.length) :
    readRange items pos count = .ok ((items.drop pos).take count) :=
  if_pos h

theorem take_drop_eq_map (fallback : Item) (h : pos + count ≤ items.length) :
    (items.drop pos).take count =
      (range count).map fun i => items.getD (pos + i) fallback := by
  refine ext_getElem (by simp; omega) fun i hleft hright => ?_
  have hi : i < count := by simpa using hright
  rw [getElem_take, getElem_drop, getElem_map, getElem_range, getD_eq_getElem _ _ (by omega)]

end

/-!
## Writes that are checked

The writes of a program that keeps its items in a vector: to one item, to a range, and the turn
of a range that brings the item in its middle to the front.  The positions of a range are the
results of signed arithmetic; a range that does not lie inside of the items is out of bounds.
-/

section

variable {Item : Type*}

def modifyAt (f : Item → Item) (items : List Item) (pos : ℕ) : Decoding (List Item) :=
  if pos < items.length then .ok (items.modify pos f) else .error .outOfBounds

def filled (item : Item) (items : List Item) (first last : ℕ) : List Item :=
  items.take first ++ replicate (last - first) item ++ items.drop last

def fillRange (item : Item) (items : List Item) (first last : ℤ) : Decoding (List Item) :=
  if 0 ≤ first ∧ first ≤ last ∧ last ≤ items.length then
    .ok (filled item items first.toNat last.toNat)
  else
    .error .outOfBounds

def rotated (items : List Item) (first middle last : ℕ) : List Item :=
  items.take first ++ (items.drop middle).take (last - middle) ++
    (items.drop first).take (middle - first) ++ items.drop last

def rotateRange (items : List Item) (first middle last : ℤ) : Decoding (List Item) :=
  if 0 ≤ first ∧ first ≤ middle ∧ middle ≤ last ∧ last ≤ items.length then
    .ok (rotated items first.toNat middle.toNat last.toNat)
  else
    .error .outOfBounds

variable {items : List Item} {first middle last : ℕ}

theorem modifyAt_eq (f : Item → Item) {pos : ℕ} (h : pos < items.length) :
    modifyAt f items pos = .ok (items.modify pos f) :=
  if_pos h

theorem fillRange_eq (item : Item) (hfirst : first ≤ last) (hlast : last ≤ items.length) :
    fillRange item items first last = .ok (filled item items first last) := by
  rw [fillRange, if_pos (by omega), Int.toNat_natCast, Int.toNat_natCast]

section

variable (hfirst : first ≤ middle) (hmiddle : middle ≤ last) (hlast : last ≤ items.length)

include hfirst hmiddle hlast

theorem rotateRange_eq :
    rotateRange items first middle last = .ok (rotated items first middle last) := by
  rw [rotateRange, if_pos (by omega), Int.toNat_natCast, Int.toNat_natCast, Int.toNat_natCast]

theorem length_rotated : (rotated items first middle last).length = items.length := by
  simp only [rotated, length_append, length_take, length_drop]
  omega

end

theorem getElem?_filled (item : Item) (hfirst : first ≤ last) (hlast : last ≤ items.length)
    (i : ℕ) :
    (filled item items first last)[i]? =
      if first ≤ i ∧ i < last then some item else items[i]? := by
  have htake : (items.take first).length = first := length_take_of_le (by omega)
  rw [filled, append_assoc]
  rcases Nat.lt_or_ge i first with hbefore | hfrom
  · rw [getElem?_append_left (by omega), getElem?_take, if_pos hbefore, if_neg (by omega)]
  · rw [getElem?_append_right (by omega), htake]
    rcases Nat.lt_or_ge i last with hinside | hafter
    · rw [getElem?_append_left (by rw [length_replicate]; omega),
        getElem?_replicate, if_pos (by omega), if_pos ⟨hfrom, hinside⟩]
    · rw [getElem?_append_right (by rw [length_replicate]; omega),
        length_replicate, getElem?_drop, if_neg (by omega)]
      congr 1
      omega

theorem getElem?_rotated (hfirst : first ≤ middle) (hmiddle : middle ≤ last)
    (hlast : last ≤ items.length) (i : ℕ) :
    (rotated items first middle last)[i]? =
      if i < first ∨ last ≤ i then items[i]?
      else if i + (middle - first) < last then items[i + (middle - first)]?
      else items[i - (last - middle)]? := by
  have htake : (items.take first).length = first := length_take_of_le (by omega)
  have hback : ((items.drop middle).take (last - middle)).length = last - middle := by
    rw [length_take, length_drop]
    omega
  have hfront : ((items.drop first).take (middle - first)).length = middle - first := by
    rw [length_take, length_drop]
    omega
  rw [rotated, append_assoc, append_assoc]
  rcases Nat.lt_or_ge i first with hbefore | hfrom
  · rw [getElem?_append_left (by omega), getElem?_take, if_pos hbefore, if_pos (.inl hbefore)]
  rw [getElem?_append_right (by omega), htake]
  rcases Nat.lt_or_ge (i - first) (last - middle) with hmoved | hpast
  · rw [getElem?_append_left (by omega), getElem?_take, if_pos hmoved,
      getElem?_drop, if_neg (by omega), if_pos (by omega)]
    congr 1
    omega
  rw [getElem?_append_right (by omega), hback]
  rcases Nat.lt_or_ge i last with hinside | hafter
  · rw [getElem?_append_left (by omega), getElem?_take, if_pos (by omega),
      getElem?_drop, if_neg (by omega), if_neg (by omega)]
    congr 1
    omega
  · rw [getElem?_append_right (by omega), hfront, getElem?_drop, if_pos (.inr hafter)]
    congr 1
    omega

theorem rotated_perm (hfirst : first ≤ middle) (hmiddle : middle ≤ last) :
    (rotated items first middle last).Perm items := by
  have hsplit : items = items.take first ++ ((items.drop first).take (middle - first) ++
      ((items.drop middle).take (last - middle) ++ items.drop last)) := by
    have hrest : (items.drop middle).take (last - middle) ++ items.drop last =
        items.drop middle := by
      conv_rhs => rw [← take_append_drop (last - middle) (items.drop middle)]
      rw [drop_drop, Nat.add_sub_cancel' hmiddle]
    have hrange : (items.drop first).take (middle - first) ++ items.drop middle =
        items.drop first := by
      conv_rhs => rw [← take_append_drop (middle - first) (items.drop first)]
      rw [drop_drop, Nat.add_sub_cancel' hfirst]
    rw [hrest, hrange, take_append_drop]
  conv_rhs => rw [hsplit]
  rw [rotated, append_assoc, append_assoc]
  refine List.Perm.append_left _ ?_
  rw [← append_assoc, ← append_assoc]
  exact List.Perm.append_right _ perm_append_comm

theorem countP_filled_le {p : Item → Bool} {item : Item} (hitem : p item = false)
    (hfirst : first ≤ last) : (filled item items first last).countP p ≤ items.countP p := by
  have hblank : (replicate (last - first) item).countP p = 0 :=
    List.countP_eq_zero.mpr fun other hother => by
      rw [eq_of_mem_replicate hother, hitem]
      exact Bool.false_ne_true
  have hdrop : (items.drop last).countP p ≤ (items.drop first).countP p := by
    rw [show last = first + (last - first) by omega, ← drop_drop]
    exact (drop_sublist _ _).countP_le
  calc (filled item items first last).countP p
      = (items.take first).countP p + (items.drop last).countP p := by
        rw [filled, countP_append, countP_append, hblank, Nat.add_zero]
    _ ≤ (items.take first).countP p + (items.drop first).countP p :=
        Nat.add_le_add_left hdrop _
    _ = items.countP p := by rw [← countP_append, take_append_drop]

end

/-!
## A source that is decoded item by item

A reader fetches one item after the other, decodes it and hands its pieces out one at a time; what
is left of an item waits in a buffer, and an item may have no pieces at all.

For whoever reads, the buffer and the borders of the items are not there: a read takes as many
pieces as it asks for from the front of all that is left (`block_eq`), and a sequence of reads cuts
the whole into pieces of the sizes asked for (`reads_eq`).
-/

structure BufferedSource (Item Piece : Type*) where
  items : List Item
  pending : List Piece := []
  deriving DecidableEq

namespace BufferedSource

variable {Item Piece : Type*} (decode : Item → List Piece)

def fetch : List Piece → List Item → Option Piece × BufferedSource Item Piece
  | piece :: pending, items => (some piece, { items, pending })
  | [], [] => (none, { items := [] })
  | [], item :: items => fetch (decode item) items

def next (source : BufferedSource Item Piece) : Option Piece × BufferedSource Item Piece :=
  fetch decode source.pending source.items

def block (source : BufferedSource Item Piece) : ℕ → List Piece × BufferedSource Item Piece
  | size + 2 =>
    match source.next decode with
    | (none, rest) => ([], rest)
    | (some piece, rest) =>
      let (pieces, rest) := rest.block (size + 1)
      (piece :: pieces, rest)
  | 0 | 1 =>
    let (piece, rest) := source.next decode
    (piece.toList, rest)

def read (source : BufferedSource Item Piece) (size : ℕ) :
    Option (List Piece) × BufferedSource Item Piece :=
  match source.block decode size with
  | ([], rest) => (none, rest)
  | (pieces, rest) => (some pieces, rest)

def reads (source : BufferedSource Item Piece) : List ℕ → List (Option (List Piece))
  | [] => []
  | size :: sizes => (source.read decode size).1 :: (source.read decode size).2.reads sizes

/-- All that is left. -/
def contents (source : BufferedSource Item Piece) : List Piece :=
  source.pending ++ source.items.flatMap decode

end BufferedSource

/-- What reads of the given sizes take from a list: so many pieces each, and then its end. -/
def cut {Piece : Type*} : List Piece → List ℕ → List (Option (List Piece))
  | _, [] => []
  | [], _ :: sizes => none :: cut [] sizes
  | piece :: pieces, size :: sizes =>
    some ((piece :: pieces).take size) :: cut ((piece :: pieces).drop size) sizes

namespace BufferedSource

section

variable {Item Piece : Type*} {decode : Item → List Piece}

theorem fetch_eq (pending : List Piece) (items : List Item) :
    (fetch decode pending items).1 = (pending ++ items.flatMap decode).head? ∧
      (fetch decode pending items).2.contents decode =
        (pending ++ items.flatMap decode).tail := by
  induction items generalizing pending with
  | nil =>
    cases pending with
    | nil => exact ⟨rfl, rfl⟩
    | cons piece pending => exact ⟨rfl, rfl⟩
  | cons item items ih =>
    cases pending with
    | nil =>
      rw [fetch, nil_append, flatMap_cons]
      exact ih (decode item)
    | cons piece pending => exact ⟨rfl, rfl⟩

section

variable (source : BufferedSource Item Piece)

theorem next_eq :
    (source.next decode).1 = (source.contents decode).head? ∧
      (source.next decode).2.contents decode = (source.contents decode).tail :=
  fetch_eq source.pending source.items

theorem block_eq (size : ℕ) :
    (source.block decode (size + 1)).1 = (source.contents decode).take (size + 1) ∧
      (source.block decode (size + 1)).2.contents decode =
        (source.contents decode).drop (size + 1) := by
  induction size generalizing source with
  | zero =>
    obtain ⟨hpiece, hrest⟩ := @next_eq _ _ decode source
    change (source.next decode).1.toList = _ ∧ (source.next decode).2.contents decode = _
    rw [hpiece, hrest]
    cases source.contents decode <;> exact ⟨rfl, rfl⟩
  | succ size ih =>
    obtain ⟨hpiece, hrest⟩ := @next_eq _ _ decode source
    cases hnext : source.next decode with
    | mk piece rest =>
      rw [hnext] at hpiece hrest
      simp only at hpiece hrest
      cases hcontents : source.contents decode with
      | nil =>
        rw [hcontents, head?_nil] at hpiece
        rw [hcontents, tail_nil] at hrest
        subst hpiece
        rw [block, hnext]
        exact ⟨rfl, hrest⟩
      | cons first pieces =>
        rw [hcontents, head?_cons] at hpiece
        rw [hcontents, tail_cons] at hrest
        subst hpiece
        obtain ⟨hpieces, hlater⟩ := ih rest
        simp only [block, hnext, take_succ_cons, drop_succ_cons]
        exact ⟨by rw [hpieces, hrest], by rw [hlater, hrest]⟩

theorem reads_eq {sizes : List ℕ} (hsizes : ∀ size ∈ sizes, 0 < size) :
    source.reads decode sizes = cut (source.contents decode) sizes := by
  induction sizes generalizing source with
  | nil => cases source.contents decode <;> rfl
  | cons size sizes ih =>
    obtain ⟨size, rfl⟩ := Nat.exists_eq_add_of_lt (hsizes size mem_cons_self)
    rw [Nat.zero_add] at hsizes ⊢
    obtain ⟨hpieces, hlater⟩ := @block_eq _ _ decode source size
    have hread : source.read decode (size + 1) =
        (if (source.contents decode).take (size + 1) = [] then none
          else some ((source.contents decode).take (size + 1)),
          (source.block decode (size + 1)).2) := by
      rw [← hpieces, read]
      cases source.block decode (size + 1) with
      | mk pieces rest => cases pieces <;> rfl
    rw [reads, hread, ih _ fun later hlaterMem => hsizes later (mem_cons_of_mem _ hlaterMem),
      hlater]
    cases source.contents decode with
    | nil => rfl
    | cons piece pieces => rfl

end

end

end BufferedSource

section

variable {Piece : Type*}

theorem cut_inj {pieces others : List Piece}
    (h : ∀ sizes : List ℕ, (∀ size ∈ sizes, 0 < size) → cut pieces sizes = cut others sizes) :
    pieces = others := by
  have hone := h [pieces.length + others.length + 1] (by simp)
  cases pieces with
  | nil =>
    cases others with
    | nil => rfl
    | cons other others => cases hone
  | cons piece pieces =>
    cases others with
    | nil => cases hone
    | cons other others =>
      have htake := Option.some.inj (head_eq_of_cons_eq hone)
      rwa [take_of_length_le (by omega), take_of_length_le (by omega)] at htake

end

end AqualinkAutomate.General
