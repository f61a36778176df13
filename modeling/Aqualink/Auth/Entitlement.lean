import Mathlib.Data.List.Sort
import Mathlib.Data.List.TakeWhile
import Mathlib.Data.String.Basic

/-!
# Entitlements

An entitlement is a structured authorization scope `<domain>.<action>[:<selector>]`.
The action path is matched exactly; only the selector carries wildcard semantics.
Entitlements come into the system in textual form only (the admin API, the store
files), or are the vocabulary's own, so an `Entitlement` here carries the facts that
`Entitlement.parse` establishes: a value whose text would not parse cannot be built.

The text form is what the stores write and what a token embeds.  `parse_toString` and
its lift `mem_parse_toStrings` say that nothing is lost on the way through it, except
the order.
-/

namespace AqualinkAutomate.Auth

open List

/-! ## The action path -/

def isValidActionChar (ch : Char) : Bool :=
  ('a' ≤ ch && ch ≤ 'z') || ('0' ≤ ch && ch ≤ '9') || ch == '_' || ch == '-'

/-- The loop of `isValidActionPath`, with the segments closed so far and the length
of the current one. -/
def scanActionPath : List Char → ℕ → ℕ → Bool
  | [], segmentCount, segmentLen =>
    if segmentLen = 0 then
      false -- trailing dot
    else
      decide (2 ≤ segmentCount + 1)
  | ch :: rest, segmentCount, segmentLen =>
    if ch = '.' then
      if segmentLen = 0 then
        false -- empty segment
      else
        scanActionPath rest (segmentCount + 1) 0
    else if isValidActionChar ch then
      scanActionPath rest segmentCount (segmentLen + 1)
    else
      false

/-- At least two non-empty segments of `[a-z0-9_-]`, separated by single dots. -/
def isValidActionPath (action : String) : Bool :=
  if action.isEmpty then false else scanActionPath action.toList 0 0

theorem colon_not_mem_of_scanActionPath {chars : List Char} {segmentCount segmentLen : ℕ}
    (h : scanActionPath chars segmentCount segmentLen) : ':' ∉ chars := by
  induction chars generalizing segmentCount segmentLen with
  | nil => simp
  | cons ch rest ih =>
    rw [scanActionPath] at h
    split at h
    · next hdot =>
        split at h
        · simp at h
        · simp [hdot, ih h]
    · split at h
      · next hvalid =>
          have hcolon : ':' ≠ ch := by
            rintro rfl
            exact absurd hvalid (by decide)
          simp [hcolon, ih h]
      · simp at h

theorem colon_not_mem_of_isValidActionPath {action : String}
    (h : isValidActionPath action) : ':' ∉ action.toList := by
  rw [isValidActionPath] at h
  split at h
  · simp at h
  · exact colon_not_mem_of_scanActionPath h

/-! ## One entitlement -/

structure Entitlement where
  action : String
  selector : Option String
  action_valid : isValidActionPath action = true
  selector_ne_empty : selector ≠ some ""
  deriving DecidableEq

namespace Entitlement

/-- The two checks of `parse`: the action path, and a selector that is not empty when
there is a colon. -/
def checked (action : String) (selector : Option String) : Option Entitlement :=
  if h : isValidActionPath action = true ∧ selector ≠ some "" then
    some ⟨action, selector, h.1, h.2⟩
  else
    none

/-- Parse `<domain>.<action>[:<selector>]`, splitting at the first colon. -/
def parse (text : String) : Option Entitlement :=
  let action := String.ofList (text.toList.takeWhile (· != ':'))
  match text.toList.dropWhile (· != ':') with
  | [] => checked action none
  | _ :: selector => checked action (some (String.ofList selector))

/-- Whether the entitlement satisfies a request for `action` on a resource, the empty
resource id standing for a request that targets none. -/
def matchesRequest (entitlement : Entitlement) (action resourceId : String) : Bool :=
  if entitlement.action ≠ action then
    false
  else
    match entitlement.selector with
    | none => resourceId.isEmpty
    | some selector => selector == "*" || selector == resourceId

def toString (entitlement : Entitlement) : String :=
  match entitlement.selector with
  | some selector => entitlement.action ++ ":" ++ selector
  | none => entitlement.action

theorem checked_self (entitlement : Entitlement) :
    checked entitlement.action entitlement.selector = some entitlement := by
  simp [checked, entitlement.action_valid, entitlement.selector_ne_empty]

theorem parse_toString (entitlement : Entitlement) :
    parse entitlement.toString = some entitlement := by
  have hself := checked_self entitlement
  obtain ⟨action, selector, haction, hselector⟩ := entitlement
  have hcolon := colon_not_mem_of_isValidActionPath haction
  have hpass : ∀ ch ∈ action.toList, (ch != ':') := by
    intro ch hch
    simp only [bne_iff_ne, ne_eq]
    rintro rfl
    exact hcolon hch
  cases selector with
  | none =>
    have htake : action.toList.takeWhile (· != ':') = action.toList :=
      List.takeWhile_eq_self_iff.mpr hpass
    have hdrop : action.toList.dropWhile (· != ':') = [] :=
      List.dropWhile_eq_nil_iff.mpr hpass
    simpa only [parse, toString, htake, hdrop, String.ofList_toList] using hself
  | some selector =>
    have hchars : (action ++ ":" ++ selector).toList = action.toList ++ ':' :: selector.toList := by
      simp [String.toList_append]
    have htake : (action ++ ":" ++ selector).toList.takeWhile (· != ':') = action.toList := by
      rw [hchars, takeWhile_append_of_pos hpass]
      simp
    have hdrop : (action ++ ":" ++ selector).toList.dropWhile (· != ':') =
        ':' :: selector.toList := by
      rw [hchars, dropWhile_append_of_pos hpass]
      simp
    simpa only [parse, toString, htake, hdrop, String.ofList_toList] using hself

end Entitlement

/-! ## Sets of entitlements -/

structure EntitlementSet where
  entitlements : List Entitlement
  nodup : entitlements.Nodup
  deriving DecidableEq

namespace EntitlementSet

instance : Membership Entitlement EntitlementSet where
  mem set entitlement := entitlement ∈ set.entitlements

variable {entitlement : Entitlement} {set : EntitlementSet}

theorem mem_def : entitlement ∈ set ↔ entitlement ∈ set.entitlements := Iff.rfl

instance (set : EntitlementSet) (entitlement : Entitlement) : Decidable (entitlement ∈ set) :=
  inferInstanceAs (Decidable (entitlement ∈ set.entitlements))

def empty : EntitlementSet := ⟨[], nodup_nil⟩

def contains (set : EntitlementSet) (entitlement : Entitlement) : Bool :=
  decide (entitlement ∈ set)

def add (set : EntitlementSet) (entitlement : Entitlement) : EntitlementSet :=
  if h : entitlement ∈ set.entitlements then
    set
  else
    ⟨set.entitlements ++ [entitlement], by
      rw [← concat_eq_append]
      exact set.nodup.concat h⟩

def merge (set other : EntitlementSet) : EntitlementSet :=
  other.entitlements.foldl add set

/-- Parse a list of textual entitlements, skipping the malformed ones. -/
def parse (texts : List String) : EntitlementSet :=
  (texts.filterMap Entitlement.parse).foldl add empty

/-- Whether any member satisfies the request. -/
def permits (set : EntitlementSet) (action resourceId : String) : Bool :=
  set.entitlements.any fun entitlement => entitlement.matchesRequest action resourceId

/-- The sorted text form. -/
def toStrings (set : EntitlementSet) : List String :=
  (set.entitlements.map Entitlement.toString).insertionSort (· ≤ ·)

@[simp] theorem not_mem_empty (entitlement : Entitlement) : entitlement ∉ empty := by
  simp [mem_def, empty]

@[simp] theorem mem_add {added : Entitlement} :
    entitlement ∈ set.add added ↔ entitlement ∈ set ∨ entitlement = added := by
  by_cases h : added ∈ set.entitlements
  · simp only [add, h, dite_true, mem_def]
    constructor
    · exact .inl
    · rintro (hmem | rfl) <;> assumption
  · simp [add, h, mem_def]

theorem mem_foldl_add {added : List Entitlement} :
    entitlement ∈ added.foldl add set ↔ entitlement ∈ set ∨ entitlement ∈ added := by
  induction added generalizing set with
  | nil => simp
  | cons first added ih => simp [ih, or_assoc]

@[simp] theorem mem_merge {other : EntitlementSet} :
    entitlement ∈ set.merge other ↔ entitlement ∈ set ∨ entitlement ∈ other :=
  mem_foldl_add

theorem mem_parse {texts : List String} :
    entitlement ∈ parse texts ↔ ∃ text ∈ texts, Entitlement.parse text = some entitlement := by
  simp [parse, mem_foldl_add]

@[simp] theorem mem_parse_toStrings : entitlement ∈ parse set.toStrings ↔ entitlement ∈ set := by
  simp only [mem_parse, toStrings, mem_insertionSort, mem_map]
  constructor
  · rintro ⟨text, ⟨member, hmember, rfl⟩, hparse⟩
    obtain rfl : member = entitlement := by
      simpa [Entitlement.parse_toString] using hparse
    exact hmember
  · intro hmember
    exact ⟨_, ⟨entitlement, hmember, rfl⟩, entitlement.parse_toString⟩

theorem permits_iff {action resourceId : String} :
    set.permits action resourceId ↔
      ∃ entitlement ∈ set, entitlement.matchesRequest action resourceId := by
  simp [permits, mem_def]

end EntitlementSet

/-! ## The vocabulary -/

namespace Vocabulary

def systemAdmin : String := "system.admin"
def equipmentView : String := "equipment.view"
def prefsSelf : String := "prefs.self"

/-- The vocabulary that the stores accept. -/
def allActions : List String :=
  [systemAdmin, equipmentView, "equipment.control.aux", "equipment.control.heater",
    "equipment.control.setpoints", "equipment.control.circulation",
    "equipment.control.chlorinator", "equipment.control.iaq", "equipment.control.spaside",
    "schedules.view", "schedules.edit", "diagnostics.view", prefsSelf]

def isKnownAction (action : String) : Bool := decide (action ∈ allActions)

def systemAdminEntitlement : Entitlement := ⟨systemAdmin, none, by decide, by simp⟩

/-- The entitlement implicit for every authenticated human subject. -/
def prefsSelfEntitlement : Entitlement := ⟨prefsSelf, none, by decide, by simp⟩

end Vocabulary

end AqualinkAutomate.Auth
