import Mathlib.Data.List.Cycle

/-!
# Names

Enumerations whose values have names, and names that are made with suffixes.
-/

/-!
## Enumerations with names

Values of an enumeration that are written by their names, and read back from them.
-/

namespace AqualinkAutomate.General

open List

section

/-- An enumeration, its values and their names, no two of which are the same. -/
class EnumNames (α : Type) where
  values : List α
  enumName : α → String
  mem_values : ∀ a, a ∈ values
  nodup_names : (values.map enumName).Nodup

export EnumNames (enumName)

variable {α : Type} [EnumNames α]

def enumCast (text : String) : Option α :=
  EnumNames.values.find? fun value => enumName value == text

theorem enumName_injective : Function.Injective (enumName : α → String) := by
  intro first second h
  exact inj_on_of_nodup_map EnumNames.nodup_names (EnumNames.mem_values first)
    (EnumNames.mem_values second) h

@[simp] theorem enumCast_enumName (value : α) : enumCast (enumName value) = some value := by
  have hfound : (enumCast (enumName value) : Option α).isSome := by
    rw [enumCast, find?_isSome]
    exact ⟨value, EnumNames.mem_values value, beq_self_eq_true _⟩
  obtain ⟨found, hfound⟩ := Option.isSome_iff_exists.mp hfound
  have hname := find?_some hfound
  rw [hfound, enumName_injective (eq_of_beq hname)]

end

/-!
## Names with suffixes

Each of several stems is given the same suffixes, and the names that come of it stand side by
side.  Two names of different stems are the same only if one stem is the other one and what a
suffix has in front of another one.

* `extensions suffixes`: what the suffixes have in front of one another.
* `suffixed suffixes stems`: the names.
* `nodup_suffixed_iff`: the names are all different exactly if no stem is another stem with an
  extension.
-/

variable {α : Type*} [DecidableEq α]
variable {suffixes stems : List (List α)} {stem other extension : List α}

/-- What the suffixes have in front of one another. -/
def extensions (suffixes : List (List α)) : List (List α) :=
  suffixes.flatMap fun long =>
    suffixes.filterMap fun short =>
      if short <:+ long ∧ short ≠ long then some (long.take (long.length - short.length)) else none

def suffixed (suffixes stems : List (List α)) : List (List α) :=
  stems.flatMap fun stem => suffixes.map (stem ++ ·)

theorem mem_extensions :
    extension ∈ extensions suffixes ↔
      extension ≠ [] ∧ ∃ long ∈ suffixes, ∃ short ∈ suffixes, long = extension ++ short := by
  simp only [extensions, mem_flatMap, mem_filterMap, Option.ite_none_right_eq_some,
    Option.some.injEq]
  constructor
  · rintro ⟨long, hlong, short, hshort, ⟨⟨front, rfl⟩, hne⟩, rfl⟩
    have htake : (front ++ short).take ((front ++ short).length - short.length) = front := by
      simp
    rw [htake]
    refine ⟨?_, front ++ short, hlong, short, hshort, rfl⟩
    rintro rfl
    exact hne rfl
  · rintro ⟨hne, long, hlong, short, hshort, rfl⟩
    refine ⟨_, hlong, short, hshort, ⟨suffix_append extension short, ?_⟩, by simp⟩
    intro heq
    exact hne (List.append_left_eq_self.mp heq.symm)

theorem extends_of_append_eq {suffix otherSuffix : List α} (hsuffix : suffix ∈ suffixes)
    (hother : otherSuffix ∈ suffixes) (hne : stem ≠ other)
    (h : stem ++ suffix = other ++ otherSuffix) :
    ∃ extension ∈ extensions suffixes, other = stem ++ extension ∨ stem = other ++ extension := by
  obtain ⟨front, hstem, hfront⟩ | ⟨front, hstem, hfront⟩ := List.append_eq_append_iff.mp h
  · refine ⟨front, mem_extensions.mpr ⟨?_, suffix, hsuffix, otherSuffix, hother, hfront⟩,
      .inl hstem⟩
    rintro rfl
    exact hne (by rw [hstem, append_nil])
  · refine ⟨front, mem_extensions.mpr ⟨?_, otherSuffix, hother, suffix, hsuffix, hfront⟩,
      .inr hstem⟩
    rintro rfl
    exact hne (by rw [hstem, append_nil])

theorem nodup_suffixed_iff (hstems : stems.Nodup) (hsuffixes : suffixes.Nodup) :
    (suffixed suffixes stems).Nodup ↔
      ∀ stem ∈ stems, ∀ other ∈ stems, ∀ extension ∈ extensions suffixes,
        other ≠ stem ++ extension := by
  unfold suffixed
  rw [nodup_flatMap]
  constructor
  · rintro ⟨-, hdisjoint⟩ stem hstem other hother extension hextension rfl
    obtain ⟨hne, long, hlong, short, hshort, rfl⟩ := mem_extensions.mp hextension
    have hstems : stem ≠ stem ++ extension := by
      intro heq
      exact hne (List.append_right_eq_self.mp heq.symm)
    have hsymm : Std.Symm (Function.onFun List.Disjoint fun stem => suffixes.map (stem ++ ·)) :=
      ⟨fun _ _ hdisjoint => disjoint_symm hdisjoint⟩
    -- the shorter stem with the longer suffix is the longer stem with the shorter one
    refine hdisjoint.forall hstem hother hstems (mem_map_of_mem hlong) ?_
    rw [← append_assoc]
    exact mem_map_of_mem hshort
  · intro hextends
    refine ⟨fun stem _ => hsuffixes.map (append_right_injective stem), ?_⟩
    refine hstems.pairwise_of_forall_ne fun stem hstem other hother hne => ?_
    intro name hname hotherName
    obtain ⟨suffix, hsuffix, rfl⟩ := List.mem_map.mp hname
    obtain ⟨otherSuffix, hotherSuffix, heq⟩ := List.mem_map.mp hotherName
    obtain ⟨extension, hextension, hlonger | hlonger⟩ :=
      extends_of_append_eq hsuffix hotherSuffix hne heq.symm
    · exact hextends stem hstem other hother extension hextension hlonger
    · exact hextends other hother stem hstem extension hextension hlonger

end AqualinkAutomate.General
