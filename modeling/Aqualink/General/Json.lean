import Mathlib.Data.List.TakeWhile
import Mathlib.Data.Rat.Floor

/-!
# JSON documents

A document as a parser of the text form delivers it.  The signed and the unsigned
integers of a library that keeps the two apart are one constructor here: reading a
number converts it, and comparing two compares their values.  A floating-point number
is kept as its 64 bits.  The fields of an object come in the order of their keys, each
key once.

`toInt32` and `toInt64` are the conversions to a signed integer of that width, which keep
the low bits.
-/

namespace AqualinkAutomate.General

open List Option

inductive Json where
  | null
  | bool (value : Bool)
  | integer (value : ℤ)
  | float (bits : UInt64)
  | string (text : String)
  | array (items : List Json)
  | object (fields : List (String × Json))

namespace Json

def member (key : String) : Json → Option Json
  | object fields => (fields.find? fun field => field.1 == key).map Prod.snd
  | _ => none

/-- A text under a key; a value of another type counts as absent. -/
def stringOr (json : Json) (key fallback : String) : String :=
  match json.member key with
  | some (string text) => text
  | _ => fallback

def boolOr (json : Json) (key : String) (fallback : Bool) : Bool :=
  match json.member key with
  | some (bool value) => value
  | _ => fallback

def integer? (json : Json) (key : String) : Option ℤ :=
  match json.member key with
  | some (integer value) => some value
  | _ => none

def text? (json : Json) (key : String) : Option String :=
  match json.member key with
  | some (string text) => some text
  | _ => none

def ofPresent (fields : List (String × Option Json)) : Json :=
  object (fields.filterMap fun field => field.2.map fun value => (field.1, value))

def setField (key : String) (value : Json) (fields : List (String × Json)) :
    List (String × Json) :=
  fields.takeWhile (fun field => field.1 < key) ++
    (key, value) :: (fields.dropWhile fun field => field.1 < key).filter fun field =>
      field.1 != key

@[simp] theorem member_object_cons_self (key : String) (value : Json)
    (fields : List (String × Json)) :
    (object ((key, value) :: fields)).member key = some value := by
  simp [member]

variable {key other : String}

@[simp] theorem member_object_cons_of_ne (h : other ≠ key) (value : Json)
    (fields : List (String × Json)) :
    (object ((other, value) :: fields)).member key = (object fields).member key := by
  have hkey : (other == key) = false := by simpa using h
  simp [member, hkey]

theorem member_setField_self (key : String) (value : Json) (fields : List (String × Json)) :
    (object (setField key value fields)).member key = some value := by
  have hsmaller : (fields.takeWhile fun field => decide (field.1 < key)).find?
      (fun field => field.1 == key) = none := by
    rw [find?_eq_none]
    intro field hfield hkey
    have hlt := mem_takeWhile_imp hfield
    rw [beq_iff_eq] at hkey
    rw [hkey, decide_eq_true_eq] at hlt
    exact String.lt_irrefl key hlt
  simp only [member, setField, find?_append, hsmaller, none_or, find?_cons,
    BEq.rfl, map_some]

theorem member_setField_of_ne (h : other ≠ key) (value : Json) (fields : List (String × Json)) :
    (object (setField key value fields)).member other = (object fields).member other := by
  have hne : (key == other) = false := beq_eq_false_iff_ne.mpr h.symm
  have hfilter (rest : List (String × Json)) :
      (rest.filter fun field => field.1 != key).find? (fun field => field.1 == other) =
        rest.find? fun field => field.1 == other := by
    rw [find?_filter]
    congr 1
    funext field
    by_cases hother : field.1 = other
    · simp [hother, h]
    · simp [hother]
  have hsplit := takeWhile_append_dropWhile (p := fun field => decide (field.1 < key))
    (l := fields)
  simp only [member, setField, find?_append, find?_cons, hne, hfilter]
  rw [← find?_append, hsplit]

theorem stringOr_of_member {json : Json} {fallback text : String}
    (h : json.member key = some (string text)) : json.stringOr key fallback = text := by
  simp [stringOr, h]

section

variable {json : Json}

theorem boolOr_of_member {fallback value : Bool} (h : json.member key = some (bool value)) :
    json.boolOr key fallback = value := by
  simp [boolOr, h]

theorem integer?_of_member {value : ℤ} (h : json.member key = some (integer value)) :
    json.integer? key = some value := by
  simp [integer?, h]

theorem text?_of_member {text : Option String} (h : json.member key = text.map string) :
    json.text? key = text := by
  unfold text?
  rw [h]
  cases text <;> rfl

end

section

variable {fields : List (String × Option Json)}

theorem member_ofPresent_of_not_mem (h : key ∉ fields.map Prod.fst) :
    (ofPresent fields).member key = none := by
  unfold member ofPresent
  rw [map_eq_none_iff, find?_eq_none]
  intro field hfield hkey
  obtain ⟨source, hsource, hvalue⟩ := List.mem_filterMap.mp hfield
  obtain ⟨value, -, rfl⟩ := Option.map_eq_some_iff.mp hvalue
  exact h (List.mem_map.mpr ⟨source, hsource, eq_of_beq hkey⟩)

theorem member_ofPresent {value : Option Json} (hkeys : (fields.map Prod.fst).Nodup)
    (h : (key, value) ∈ fields) : (ofPresent fields).member key = value := by
  induction fields with
  | nil => cases h
  | cons field fields ih =>
    rw [map_cons, nodup_cons] at hkeys
    unfold ofPresent at ih ⊢
    rw [filterMap_cons]
    obtain rfl | hmem := List.mem_cons.mp h
    · cases value with
      | some value => simp
      | none =>
        exact member_ofPresent_of_not_mem hkeys.1
    · have hne : field.1 ≠ key := by
        rintro rfl
        exact hkeys.1 (List.mem_map.mpr ⟨(field.1, value), hmem, rfl⟩)
      cases hvalue : field.2 with
      | none => simpa [hvalue] using ih hkeys.2 hmem
      | some found => simpa [hvalue, hne] using ih hkeys.2 hmem

end

/-! ## Fields in the order of their keys -/

section

/-- The fields come in the order of their keys, each key once. -/
def Sorted (fields : List (String × Json)) : Prop := fields.Pairwise fun a b => a.1 < b.1

variable {fields : List (String × Json)} {value : Json} {field : String × Json}

theorem mem_of_mem_setField (h : field ∈ setField key value fields) :
    field = (key, value) ∨ field ∈ fields := by
  rcases List.mem_append.mp h with h | h
  · exact .inr ((takeWhile_sublist _).subset h)
  rcases List.mem_cons.mp h with h | h
  · exact .inl h
  · exact .inr ((dropWhile_sublist _).subset (List.mem_filter.mp h).1)

theorem lt_of_mem_dropWhile (h : Sorted fields)
    (hmem : field ∈ fields.dropWhile fun field => decide (field.1 < key)) (hne : field.1 ≠ key) :
    key < field.1 := by
  have hle : ¬ field.1 < key := by
    induction fields with
    | nil => cases hmem
    | cons first fields ih =>
      obtain ⟨hfirst, hrest⟩ := List.pairwise_cons.mp h
      by_cases hlt : first.1 < key
      · rw [dropWhile_cons_of_pos (by rw [decide_eq_true_eq]; exact hlt)] at hmem
        exact ih hrest hmem
      · rw [dropWhile_cons_of_neg (by rw [decide_eq_true_eq]; exact hlt)] at hmem
        rcases List.mem_cons.mp hmem with rfl | hmem
        · exact hlt
        · exact fun hsmaller => hlt (String.lt_trans (hfirst field hmem) hsmaller)
  by_contra hlarger
  exact hne (String.le_antisymm (String.not_lt.mp hlarger) (String.not_lt.mp hle))

theorem sorted_setField (h : Sorted fields) : Sorted (setField key value fields) := by
  have hsmaller : ∀ field ∈ fields.takeWhile fun field => decide (field.1 < key),
      field.1 < key := by
    intro field hfield
    have hlt := mem_takeWhile_imp hfield
    rwa [decide_eq_true_eq] at hlt
  have hlarger : ∀ field ∈ (fields.dropWhile fun field => decide (field.1 < key)).filter
      (fun field => field.1 != key), key < field.1 := by
    intro field hfield
    obtain ⟨hmem, hne⟩ := List.mem_filter.mp hfield
    exact lt_of_mem_dropWhile h hmem (bne_iff_ne.mp hne)
  refine List.pairwise_append.mpr ⟨h.sublist (takeWhile_sublist _),
    List.pairwise_cons.mpr ⟨hlarger, ?_⟩, fun a ha b hb => ?_⟩
  · exact h.sublist ((filter_sublist).trans (dropWhile_sublist _))
  rcases List.mem_cons.mp hb with rfl | hb
  · exact hsmaller a ha
  · exact String.lt_trans (hsmaller a ha) (hlarger b hb)

theorem setField_of_lt (h : ∀ field ∈ fields, field.1 < key) :
    setField key value fields = fields ++ [(key, value)] := by
  have htake : fields.takeWhile (fun field => decide (field.1 < key)) = fields :=
    List.takeWhile_eq_self_iff.mpr fun field hfield => decide_eq_true (h field hfield)
  have hdrop : fields.dropWhile (fun field => decide (field.1 < key)) = [] :=
    List.dropWhile_eq_nil_iff.mpr fun field hfield => decide_eq_true (h field hfield)
  rw [setField, htake, hdrop]
  rfl

theorem foldl_setField_of_sorted {done : List (String × Json)} (h : Sorted (done ++ fields)) :
    fields.foldl (fun done field => setField field.1 field.2 done) done = done ++ fields := by
  induction fields generalizing done with
  | nil => rw [foldl_nil, append_nil]
  | cons first fields ih =>
    have hlast : ∀ field ∈ done, field.1 < first.1 := fun field hfield =>
      (List.pairwise_append.mp h).2.2 field hfield first mem_cons_self
    rw [foldl_cons, setField_of_lt hlast, ih (by rwa [append_assoc]), append_assoc]
    rfl

end

end Json

/-- The text form of documents: what a library renders and parses, on bytes.  Rendering
fails on a text that is not valid in the encoding, parsing on a malformed document. -/
structure JsonText where
  dump : Json → Option (List UInt8)
  parse : List UInt8 → Option Json

/-! ## Results of a parser -/

/-- A parse in two parts succeeds when both do. -/
theorem bind_eq_ok_iff {ε α β : Type} {first : Except ε α} {rest : α → Except ε β} {b : β} :
    first >>= rest = .ok b ↔ ∃ a, first = .ok a ∧ rest a = .ok b := by
  cases first with
  | error e => simp [bind, Except.bind]
  | ok a => simp [bind, Except.bind]

/-! ## Integers of a fixed width -/

def toInt32 (n : ℤ) : ℤ := n.bmod (2 ^ 32)

def toInt64 (n : ℤ) : ℤ := n.bmod (2 ^ 64)

/-- A number of the range is not changed. -/
theorem toInt32_eq_self {n : ℤ} (hlow : -2 ^ 31 ≤ n) (hhigh : n < 2 ^ 31) : toInt32 n = n :=
  Int.bmod_eq_of_le (by omega) (by omega)

theorem toInt64_eq_self {n : ℤ} (hlow : -2 ^ 63 ≤ n) (hhigh : n < 2 ^ 63) : toInt64 n = n :=
  Int.bmod_eq_of_le (by omega) (by omega)

end AqualinkAutomate.General
