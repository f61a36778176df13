import Mathlib.Data.List.Basic

/-!
# Values that are retained under keys

A publisher writes values under keys into a map that keeps the last value of each key; writing
`none` removes the value.  A sweep writes what there is now and then removes what the sweep
before it had written and this one has not.
-/

namespace AqualinkAutomate.General

open List Function

variable {κ α : Type*} [DecidableEq κ]

def publishAll (held : κ → Option α) (entries : List (κ × Option α)) : κ → Option α :=
  entries.foldl (fun held entry => Function.update held entry.1 entry.2) held

/-- Write the entries, and remove what is not among them of the keys written before. -/
def retainedSweep (held : κ → Option α) (published : List κ) (entries : List (κ × Option α)) :
    κ → Option α :=
  publishAll (publishAll held entries)
    ((published.filter (· ∉ entries.map Prod.fst)).map fun key => (key, none))

variable {held : κ → Option α} {published : List κ} {entries : List (κ × Option α)} {key : κ}
  {value : Option α}

theorem publishAll_of_notMem (h : key ∉ entries.map Prod.fst) : publishAll held entries key =
    held key := by
  induction entries generalizing held with
  | nil => rfl
  | cons entry entries ih =>
    rw [map_cons, mem_cons, not_or] at h
    calc publishAll held (entry :: entries) key
        = publishAll (Function.update held entry.1 entry.2) entries key := rfl
      _ = Function.update held entry.1 entry.2 key := ih h.2
      _ = held key := update_of_ne h.1 _ _

section

variable (hmem : key ∈ entries.map Prod.fst)
  (hagree : ∀ entry ∈ entries, entry.1 = key → entry.2 = value)

include hmem hagree

theorem publishAll_of_mem : publishAll held entries key = value := by
  induction entries generalizing held with
  | nil => cases hmem
  | cons entry entries ih =>
    have hagree' : ∀ other ∈ entries, other.1 = key → other.2 = value :=
      fun other hother => hagree other (mem_cons_of_mem _ hother)
    by_cases hlater : key ∈ entries.map Prod.fst
    · exact @ih (Function.update held entry.1 entry.2) hlater hagree'
    · have hhere : key = entry.1 := by
        rw [map_cons, mem_cons] at hmem
        exact hmem.resolve_right hlater
      calc publishAll held (entry :: entries) key
          = Function.update held entry.1 entry.2 key := publishAll_of_notMem hlater
        _ = entry.2 := by rw [hhere, update_self]
        _ = value := hagree entry mem_cons_self hhere.symm

theorem retainedSweep_of_mem : retainedSweep held published entries key = value := by
  rw [retainedSweep, publishAll_of_notMem, publishAll_of_mem hmem hagree]
  intro hstale
  simp only [map_map, mem_map, mem_filter, decide_eq_true_eq, comp_apply] at hstale
  obtain ⟨stale, ⟨-, hgone⟩, rfl⟩ := hstale
  exact hgone (by simpa using hmem)

end

/-- What was written before and is not written now is removed. -/
theorem retainedSweep_of_stale (hpublished : key ∈ published)
    (hgone : key ∉ entries.map Prod.fst) : retainedSweep held published entries key = none := by
  refine publishAll_of_mem (List.mem_map.mpr ⟨(key, none), List.mem_map.mpr ⟨key, ?_, rfl⟩, rfl⟩) ?_
  · exact List.mem_filter.mpr ⟨hpublished, decide_eq_true hgone⟩
  · intro entry hentry _
    obtain ⟨stale, -, rfl⟩ := List.mem_map.mp hentry
    rfl

/-- Everything else stays as it is. -/
theorem retainedSweep_of_foreign (hpublished : key ∉ published)
    (hgone : key ∉ entries.map Prod.fst) : retainedSweep held published entries key = held key := by
  rw [retainedSweep, publishAll_of_notMem, publishAll_of_notMem hgone]
  intro hstale
  simp only [map_map, mem_map, mem_filter, comp_apply] at hstale
  obtain ⟨stale, ⟨hmem, -⟩, rfl⟩ := hstale
  exact hpublished hmem

theorem of_retainedSweep_ne_none (h : retainedSweep held published entries key ≠ none) :
    key ∈ entries.map Prod.fst ∨ key ∉ published ∧ held key ≠ none := by
  by_cases hgone : key ∈ entries.map Prod.fst
  · exact .inl hgone
  · refine .inr ?_
    by_cases hpublished : key ∈ published
    · exact absurd (retainedSweep_of_stale hpublished hgone) h
    · exact ⟨hpublished, by rwa [retainedSweep_of_foreign hpublished hgone] at h⟩

/-- Removing brings nothing back. -/
theorem of_publishAll_none_ne_none {keys : List κ}
    (h : publishAll held (keys.map fun key => (key, none)) key ≠ none) : held key ≠ none := by
  by_cases hmem : key ∈ (keys.map fun key => (key, (none : Option α))).map Prod.fst
  · refine absurd (publishAll_of_mem hmem fun entry hentry _ => ?_) h
    obtain ⟨removed, -, rfl⟩ := List.mem_map.mp hentry
    rfl
  · rwa [publishAll_of_notMem hmem] at h

end AqualinkAutomate.General
