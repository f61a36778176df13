import Mathlib.Data.List.Cycle

/-!
# Tables with a byte for the key

A `ByteTable` says what stands under each byte, if anything does.  It is searched in the
order of the keys, as an ordered map is: `find?` gives the least key whose value has a
property (`find?_eq_some_iff`).
-/

namespace AqualinkAutomate.General

open List Option

abbrev ByteTable (α : Type*) : Type _ := UInt8 → Option α

def allBytes : List UInt8 := (range 256).map UInt8.ofNat

theorem mem_allBytes (byte : UInt8) : byte ∈ allBytes :=
  List.mem_map.mpr ⟨byte.toNat, List.mem_range.mpr byte.toNat_lt, UInt8.ofNat_toNat⟩

/-- What holds of all bytes can be checked. -/
instance decidableForallByte {p : UInt8 → Prop} [DecidablePred p] : Decidable (∀ byte, p byte) :=
  decidable_of_iff (allBytes.all (fun byte => decide (p byte)) = true) (by simp [mem_allBytes])

instance decidableExistsByte {p : UInt8 → Prop} [DecidablePred p] : Decidable (∃ byte, p byte) :=
  decidable_of_iff (allBytes.any (fun byte => decide (p byte)) = true) (by simp [mem_allBytes])

theorem pairwise_allBytes : allBytes.Pairwise (· < ·) := by
  refine List.pairwise_map.mpr (List.pairwise_lt_range.imp_of_mem ?_)
  intro first second hfirst hsecond hlt
  rwa [UInt8.lt_iff_toNat_lt, UInt8.toNat_ofNat_of_lt' (List.mem_range.mp hfirst),
    UInt8.toNat_ofNat_of_lt' (List.mem_range.mp hsecond)]

theorem find?_eq_some_iff_of_pairwise {bytes : List UInt8} (hsorted : bytes.Pairwise (· < ·))
    {p : UInt8 → Bool} {byte : UInt8} :
    bytes.find? p = some byte ↔
      byte ∈ bytes ∧ p byte ∧ ∀ lower ∈ bytes, lower < byte → p lower = false := by
  induction bytes with
  | nil => simp
  | cons first bytes ih =>
    obtain ⟨hfirst, hrest⟩ := List.pairwise_cons.mp hsorted
    by_cases hp : p first
    · rw [find?_cons_of_pos hp, some_inj]
      constructor
      · rintro rfl
        refine ⟨mem_cons_self, hp, fun lower hlower hlt => ?_⟩
        rcases List.mem_cons.mp hlower with rfl | hlower
        · exact absurd hlt (UInt8.lt_irrefl _)
        · exact absurd hlt (UInt8.lt_asymm (hfirst lower hlower))
      · rintro ⟨hmem, -, hlower⟩
        rcases List.mem_cons.mp hmem with rfl | hmem
        · rfl
        · have hnot := hlower first mem_cons_self (hfirst byte hmem)
          rw [hp] at hnot
          cases hnot
    · rw [find?_cons_of_neg hp, ih hrest]
      have hfalse : p first = false := (Bool.not_eq_true _).mp hp
      constructor
      · rintro ⟨hmem, hbyte, hlower⟩
        refine ⟨mem_cons_of_mem _ hmem, hbyte, fun lower hmem' hlt => ?_⟩
        rcases List.mem_cons.mp hmem' with rfl | hmem'
        · exact hfalse
        · exact hlower lower hmem' hlt
      · rintro ⟨hmem, hbyte, hlower⟩
        refine ⟨?_, hbyte, fun lower hmem' => hlower lower (mem_cons_of_mem _ hmem')⟩
        rcases List.mem_cons.mp hmem with rfl | hmem
        · exact absurd hbyte hp
        · exact hmem

namespace ByteTable

variable {α : Type*} {table : ByteTable α} {key key' : UInt8} {value : α} {p : α → Bool}

def empty : ByteTable α := fun _ => none

def insert (table : ByteTable α) (key : UInt8) (value : α) : ByteTable α :=
  Function.update table key (some value)

def erase (table : ByteTable α) (key : UInt8) : ByteTable α := Function.update table key none

def isEmpty (table : ByteTable α) : Bool := allBytes.all fun key => (table key).isNone

/-- The least key whose value has the property. -/
def find? (p : α → Bool) (table : ByteTable α) : Option UInt8 :=
  allBytes.find? fun key => (table key).any p

/-- The value under the least key. -/
def first? (table : ByteTable α) : Option α := allBytes.findSome? table

@[simp] theorem empty_apply : (empty : ByteTable α) key = none := rfl

theorem insert_apply :
    table.insert key value key' = if key' = key then some value else table key' :=
  Function.update_apply table key (some value) key'

@[simp] theorem insert_self : table.insert key value key = some value := by
  rw [insert_apply, if_pos rfl]

theorem find?_eq_some_iff :
    table.find? p = some key ↔
      (∃ value, table key = some value ∧ p value) ∧
        ∀ lower < key, ∀ value, table lower = some value → p value = false := by
  rw [find?, find?_eq_some_iff_of_pairwise pairwise_allBytes]
  simp only [mem_allBytes, true_and, Option.any_eq_true, true_imp_iff]
  refine and_congr_right fun _ => forall₂_congr fun lower _ => ?_
  cases table lower <;> simp

theorem find?_eq_none_iff :
    table.find? p = none ↔ ∀ key value, table key = some value → p value = false := by
  simp only [find?, find?_eq_none, mem_allBytes, true_imp_iff, Option.any_eq_true,
    not_exists, not_and, Bool.not_eq_true]

theorem exists_of_find?_eq_some (h : table.find? p = some key) :
    ∃ value, table key = some value ∧ p value :=
  (find?_eq_some_iff.mp h).1

/-! ### What the search is for -/

theorem find?_finds_iff {own : α → Prop} :
    ((∀ key, table.find? p = some key → ∃ value, table key = some value ∧ own value) ∧
        ((∃ key value, table key = some value ∧ own value) → (table.find? p).isSome)) ↔
      (∀ key value, table key = some value → p value → ¬ own value →
          ∃ lower < key, ∃ value', table lower = some value' ∧ p value' ∧ own value') ∧
        ((∃ key value, table key = some value ∧ own value) →
          ∃ key value, table key = some value ∧ own value ∧ p value) := by
  constructor
  · rintro ⟨hfinds, hfound⟩
    refine ⟨fun key value hvalue hp hnot => ?_, fun hexists => ?_⟩
    · obtain ⟨first, hfirst⟩ : ∃ first, table.find? p = some first := by
        refine Option.ne_none_iff_exists'.mp fun hnone => ?_
        rw [find?_eq_none_iff.mp hnone key value hvalue] at hp
        cases hp
      obtain ⟨value', hvalue', hown⟩ := hfinds first hfirst
      obtain ⟨⟨found, hfound', hp'⟩, hlower⟩ := find?_eq_some_iff.mp hfirst
      obtain rfl : value' = found := Option.some_inj.mp (hvalue'.symm.trans hfound')
      refine ⟨first, ?_, value', hvalue', hp', hown⟩
      -- the first match stands below any other, and is not this one
      have hle : first ≤ key := UInt8.not_lt.mp fun hlt => by
        rw [hlower key hlt value hvalue] at hp
        cases hp
      rcases UInt8.lt_or_eq_of_le hle with hlt | rfl
      · exact hlt
      · obtain rfl : value = value' := Option.some_inj.mp (hvalue.symm.trans hvalue')
        exact absurd hown hnot
    · obtain ⟨key, hkey⟩ := Option.isSome_iff_exists.mp (hfound hexists)
      obtain ⟨value, hvalue, hown⟩ := hfinds key hkey
      obtain ⟨value', hvalue', hp⟩ := exists_of_find?_eq_some hkey
      obtain rfl : value = value' := Option.some_inj.mp (hvalue.symm.trans hvalue')
      exact ⟨key, value, hvalue, hown, hp⟩
  · rintro ⟨hbehind, hseen⟩
    refine ⟨fun key hkey => ?_, fun hexists => ?_⟩
    · obtain ⟨⟨value, hvalue, hp⟩, hlower⟩ := find?_eq_some_iff.mp hkey
      refine ⟨value, hvalue, by_contra fun hnot => ?_⟩
      obtain ⟨lower, hlt, value', hvalue', hp', -⟩ := hbehind key value hvalue hp hnot
      rw [hlower lower hlt value' hvalue'] at hp'
      cases hp'
    · obtain ⟨key, value, hvalue, -, hp⟩ := hseen hexists
      refine Option.isSome_iff_ne_none.mpr fun hnone => ?_
      rw [find?_eq_none_iff.mp hnone key value hvalue] at hp
      cases hp

/-! ### Numbered lines -/

def ofLines (lines : List α) : ByteTable α := fun key => lines[key.toNat]?

/-- The line number that a search from the top gives, cut to a byte. -/
theorem map_findIdx?_eq_find? {lines : List α} (h : lines.length ≤ 256) :
    (lines.findIdx? p).map UInt8.ofNat = (ofLines lines).find? p := by
  rcases hfind : lines.findIdx? p with _ | line
  · rw [map_none, eq_comm, find?_eq_none_iff]
    intro key value hvalue
    exact List.findIdx?_eq_none_iff.mp hfind value (mem_of_getElem? hvalue)
  · obtain ⟨hline, hp, hlower⟩ := List.findIdx?_eq_some_iff_getElem.mp hfind
    have htoNat : (UInt8.ofNat line).toNat = line :=
      UInt8.toNat_ofNat_of_lt' (Nat.lt_of_lt_of_le hline h)
    rw [map_some, eq_comm, find?_eq_some_iff]
    refine ⟨⟨lines[line], ?_, hp⟩, fun lower hlt value hvalue => ?_⟩
    · rw [ofLines, htoNat]
      exact getElem?_eq_getElem hline
    · rw [UInt8.lt_iff_toNat_lt, htoNat] at hlt
      obtain ⟨hbound, rfl⟩ := List.getElem?_eq_some_iff.mp hvalue
      exact (Bool.not_eq_true _).mp (hlower lower.toNat hlt)

end ByteTable

end AqualinkAutomate.General
