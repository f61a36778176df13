import Mathlib
import Aqualink.Mqtt.Commands

/-!
# Canonical slugs

A slug is meant to be its own slug: lower-case letters, digits and underscores, no underscore at
the front that a separator has become, and none at the end.  The loop keeps all of it but the last:
behind the loop one underscore is dropped from the end, and there can be two.

The loop sees a label as its letters and digits, its underscores and its separators
(`foldl_slugStep_slugPart`), and what comes out of it ends with the underscores that stand for
everything behind the last letter or digit (`slug_decomposition`).  `tracedSlug` also keeps the
character of the label that each character of the slug was made from.
-/

namespace AqualinkAutomate.Mqtt

open List Bool

/-! ## What a slug should be -/

/-- `a`-`z`, `0`-`9` and the underscore. -/
def isSlugChar (c : Char) : Bool := c.isLower || c.isDigit || c == '_'

def isSeparator (c : Char) : Bool := c == ' ' || c == '-' || c == '.'

/-- `slugStep`, with the character of the label beside the one of the slug. -/
def tracedStep (result : List (Char × Char)) (c : Char) : List (Char × Char) :=
  if c.isAlphanum || c == '_' then result ++ [(c.toLower, c)]
  else if c == ' ' || c == '-' || c == '.' then
    if result ≠ [] ∧ (result.map Prod.fst).getLast? ≠ some '_' then result ++ [('_', c)] else result
  else result

def tracedSlug (label : String) : List (Char × Char) :=
  let result := label.toList.foldl tracedStep []
  if (result.map Prod.fst).getLast? = some '_' then result.dropLast else result

structure CanonicalSlug (label : String) : Prop where
  chars : ∀ c ∈ (slugify label).toList, isSlugChar c
  /-- An underscore at the front was one in the label. -/
  front : ∀ origin, (tracedSlug label).head? = some ('_', origin) → isSeparator origin = false
  back : (slugify label).toList.getLast? ≠ some '_'
  stable : slugify (slugify label) = slugify label

/-! ## The labels that have one -/

def slugPart (label : String) : List Char :=
  label.toList.filter fun c => c.isAlphanum || c == '_' || isSeparator c

/-- Those of them that are behind the last letter or digit. -/
def slugTail (label : String) : List Char := (slugPart label).rtakeWhile fun c => !c.isAlphanum

def EndsInUnderscores (label : String) : Prop :=
  if (slugPart label).any Char.isAlphanum then '_' ∈ (slugTail label).tail
  else 2 ≤ (slugTail label).count '_'

instance (label : String) : Decidable (EndsInUnderscores label) := by
  unfold EndsInUnderscores
  infer_instance

/-! ## Characters -/

section

variable {c : Char}

/-- A capital letter becomes the small one. -/
theorem toLower_of_isUpper (h : c.isUpper) : c.toLower.isLower := by
  simp only [Char.isUpper, decide_eq_true_eq] at h
  have hval : c.toLower.val = c.val + ('a'.val - 'A'.val) := by
    rw [Char.toLower, dif_pos h]
  have hsum : (c.val + ('a'.val - 'A'.val)).toNat = c.val.toNat + 32 := by
    rw [UInt32.toNat_add]
    have hsmall : c.val.toNat ≤ 90 := UInt32.le_iff_toNat_le.mp h.2
    have hshift : ('a'.val - 'A'.val).toNat = 32 := rfl
    omega
  have hlow : 65 ≤ c.val.toNat := UInt32.le_iff_toNat_le.mp h.1
  have hhigh : c.val.toNat ≤ 90 := UInt32.le_iff_toNat_le.mp h.2
  have ha : 'a'.val.toNat = 97 := rfl
  have hz : 'z'.val.toNat = 122 := rfl
  simp only [Char.isLower, and_eq_true, decide_eq_true_eq, ge_iff_le, hval,
    UInt32.le_iff_toNat_le, hsum]
  omega

theorem toLower_of_not_isUpper (h : c.isUpper = false) : c.toLower = c := by
  rw [Char.toLower, dif_neg (of_decide_eq_false h)]

theorem toLower_of_isAlphanum (h : c.isAlphanum) : (c.toLower.isLower || c.toLower.isDigit) := by
  cases hupper : c.isUpper with
  | true => rw [toLower_of_isUpper hupper, Bool.true_or]
  | false =>
    rw [toLower_of_not_isUpper hupper]
    simpa [Char.isAlphanum, Char.isAlpha, hupper] using h

theorem not_isUpper_of_isSlugChar (h : isSlugChar c) : c.isUpper = false := by
  rw [eq_false_iff]
  intro hupper
  simp only [isSlugChar, Char.isLower, Char.isDigit, Char.isUpper, or_eq_true,
    and_eq_true, decide_eq_true_eq, beq_iff_eq, ge_iff_le, UInt32.le_iff_toNat_le] at h hupper
  have ha : 'a'.val.toNat = 97 := rfl
  have hA : 'A'.val.toNat = 65 := rfl
  have hZ : 'Z'.val.toNat = 90 := rfl
  have h9 : '9'.val.toNat = 57 := rfl
  obtain (hlower | hdigit) | rfl := h
  · omega
  · omega
  · exact absurd hupper (by decide)

theorem isAlphanum_of_isSlugChar (h : isSlugChar c) : (c.isAlphanum || c == '_') := by
  simp only [isSlugChar, Char.isAlphanum, Char.isAlpha, or_eq_true] at h ⊢
  tauto

theorem not_isSeparator_of_kept (h : (c.isAlphanum || c == '_')) : isSeparator c = false := by
  rw [eq_false_iff]
  intro hsep
  simp only [isSeparator, or_eq_true, beq_iff_eq] at hsep
  obtain (rfl | rfl) | rfl := hsep <;> exact absurd h (by decide)

end

/-! ## The loop -/

section

variable {result text : List Char} {c : Char} {label : String}

theorem slugStep_of_kept (h : (c.isAlphanum || c == '_')) :
    slugStep result c = result ++ [c.toLower] := by
  rw [slugStep, if_pos h]

theorem slugStep_of_isSeparator (h : isSeparator c) :
    slugStep result c =
      if result ≠ [] ∧ result.getLast? ≠ some '_' then result ++ ['_'] else result := by
  have hkept : ¬ (c.isAlphanum || c == '_') := by
    intro hkept
    rw [not_isSeparator_of_kept hkept] at h
    cases h
  rw [slugStep, if_neg hkept]
  exact if_pos h

theorem slugStep_of_stripped (h : (c.isAlphanum || c == '_' || isSeparator c) = false) :
    slugStep result c = result := by
  rw [or_eq_false_iff] at h
  rw [slugStep, if_neg (Bool.eq_false_iff.mp h.1)]
  exact if_neg (Bool.eq_false_iff.mp h.2)

theorem foldl_slugStep_slugPart (label : String) :
    (slugPart label).foldl slugStep [] = label.toList.foldl slugStep [] := by
  rw [slugPart, foldl_filter]
  congr 1
  funext result c
  split
  · rfl
  · next h => rw [slugStep_of_stripped (Bool.eq_false_iff.mpr h)]

theorem foldl_slugStep_of_isSlugChar (h : ∀ c ∈ text, isSlugChar c) :
    text.foldl slugStep result = result ++ text := by
  induction text generalizing result with
  | nil => simp
  | cons c text ih =>
    have hc := h c mem_cons_self
    rw [foldl_cons, slugStep_of_kept (isAlphanum_of_isSlugChar hc),
      toLower_of_not_isUpper (not_isUpper_of_isSlugChar hc),
      ih fun d hd => h d (mem_cons_of_mem _ hd), append_assoc, singleton_append]

theorem foldl_slugStep_underscores (hresult : result = [] ∨ result.getLast? = some '_')
    (htext : ∀ c ∈ text, c = '_' ∨ isSeparator c) :
    text.foldl slugStep result = result ++ replicate (text.count '_') '_' := by
  induction text generalizing result with
  | nil => simp
  | cons c text ih =>
    have hlater : ∀ c ∈ text, c = '_' ∨ isSeparator c :=
      fun d hd => htext d (mem_cons_of_mem _ hd)
    obtain rfl | hsep := htext c mem_cons_self
    · have hstep : slugStep result '_' = result ++ ['_'] := slugStep_of_kept (by decide)
      rw [foldl_cons, hstep, ih (.inr (getLast?_concat ..)) hlater,
        count_cons_self, append_assoc, singleton_append, replicate_succ]
    · have hne : c ≠ '_' := by
        rintro rfl
        exact absurd hsep (by decide)
      have hstep : slugStep result c = result := by
        rw [slugStep_of_isSeparator hsep, if_neg]
        rintro ⟨hnil, hlast⟩
        obtain h | h := hresult
        · exact hnil h
        · exact hlast h
      rw [foldl_cons, hstep, ih hresult hlater, count_cons_of_ne hne]

/-- Behind a letter or digit, the first character is an underscore, and then each of the
label's own. -/
theorem foldl_slugStep_tail (hresult : result ≠ []) (hlast : result.getLast? ≠ some '_')
    (hc : c = '_' ∨ isSeparator c) (htext : ∀ c ∈ text, c = '_' ∨ isSeparator c) :
    (c :: text).foldl slugStep result =
      result ++ replicate (text.count '_' + 1) '_' := by
  have hstep : slugStep result c = result ++ ['_'] := by
    obtain rfl | hsep := hc
    · exact slugStep_of_kept (by decide)
    · rw [slugStep_of_isSeparator hsep, if_pos ⟨hresult, hlast⟩]
  rw [foldl_cons, hstep, foldl_slugStep_underscores (.inr (getLast?_concat ..)) htext,
    append_assoc, singleton_append, replicate_succ]

theorem slug_decomposition (label : String) :
    ∃ base n, label.toList.foldl slugStep [] = base ++ replicate n '_' ∧
      base.getLast? ≠ some '_' ∧ (2 ≤ n ↔ EndsInUnderscores label) := by
  rw [← foldl_slugStep_slugPart, EndsInUnderscores]
  have htail : ∀ c ∈ slugTail label, c = '_' ∨ isSeparator c := by
    intro c hc
    have hkept : c ∈ slugPart label := rtakeWhile_suffix _ _ |>.subset hc
    have hplain : c.isAlphanum = false := by simpa using mem_rtakeWhile_imp hc
    rw [slugPart, mem_filter, hplain] at hkept
    simpa using hkept.2
  have hsplit : (slugPart label).rdropWhile (fun c => !c.isAlphanum) ++ slugTail label =
      slugPart label := rdropWhile_append_rtakeWhile
  by_cases hnone : (slugPart label).rdropWhile (fun c => !c.isAlphanum) = []
  · -- no letter or digit at all
    have hany : ¬ (slugPart label).any Char.isAlphanum := by
      rw [rdropWhile_eq_nil_iff] at hnone
      rw [any_eq_true]
      rintro ⟨c, hc, halnum⟩
      simpa [halnum] using hnone c hc
    rw [hnone, nil_append] at hsplit
    rw [if_neg hany, ← hsplit, foldl_slugStep_underscores (.inl rfl) htail]
    exact ⟨[], _, rfl, by simp, Iff.rfl⟩
  · obtain ⟨init, last, hfront⟩ := eq_nil_or_concat _ |>.resolve_left hnone
    have halnum : last.isAlphanum := by
      have hlast := rdropWhile_last_not _ _ hnone
      simpa [hfront] using hlast
    have hany : (slugPart label).any Char.isAlphanum := by
      rw [← hsplit, hfront, any_eq_true]
      exact ⟨last, by simp, halnum⟩
    have hbase : (init ++ [last]).foldl slugStep [] = init.foldl slugStep [] ++ [last.toLower] := by
      rw [foldl_append, foldl_cons, foldl_nil, slugStep_of_kept (by rw [halnum, Bool.true_or])]
    have hend : (init.foldl slugStep [] ++ [last.toLower]).getLast? ≠ some '_' := by
      rw [getLast?_concat]
      intro heq
      have hlower := toLower_of_isAlphanum halnum
      rw [Option.some.inj heq] at hlower
      exact absurd hlower (by decide)
    rw [if_pos hany, ← hsplit, hfront, concat_eq_append, foldl_append, hbase]
    cases htailEq : slugTail label with
    | nil => exact ⟨_, 0, by simp, hend, by simp⟩
    | cons c rest =>
      rw [htailEq] at htail
      refine ⟨_, _, foldl_slugStep_tail (by simp) hend (htail c mem_cons_self)
        fun d hd => htail d (mem_cons_of_mem _ hd), hend, ?_⟩
      rw [tail_cons, ← count_pos_iff]
      omega

end

/-! ## The traced loop -/

section

variable {result : List (Char × Char)} {c : Char}

theorem map_fst_tracedStep :
    (tracedStep result c).map Prod.fst = slugStep (result.map Prod.fst) c := by
  have hnil : result.map Prod.fst ≠ [] ↔ result ≠ [] := List.map_eq_nil_iff.not
  simp only [tracedStep, slugStep, hnil]
  split_ifs <;> simp

theorem map_fst_foldl_tracedStep (text : List Char) :
    (text.foldl tracedStep result).map Prod.fst = text.foldl slugStep (result.map Prod.fst) := by
  induction text generalizing result with
  | nil => rfl
  | cons c text ih => rw [foldl_cons, foldl_cons, ih, map_fst_tracedStep]

theorem map_fst_tracedSlug (label : String) :
    (tracedSlug label).map Prod.fst = (slugify label).toList := by
  simp only [tracedSlug, slugify, String.toList_ofList, map_fst_foldl_tracedStep, map_nil]
  split
  · rw [map_dropLast, map_fst_foldl_tracedStep, map_nil]
  · rw [map_fst_foldl_tracedStep, map_nil]

/-- The first character of a slug was no separator. -/
def StartsOwn (result : List (Char × Char)) : Prop :=
  ∀ pair ∈ result.head?, isSeparator pair.2 = false

theorem StartsOwn.tracedStep (h : StartsOwn result) : StartsOwn (tracedStep result c) := by
  unfold Mqtt.tracedStep
  split
  · next hkept =>
    cases result with
    | nil =>
      intro pair hpair
      cases hpair
      exact not_isSeparator_of_kept hkept
    | cons first rest => exact h
  · split
    · split
      · next hbehind =>
        cases result with
        | nil => exact absurd rfl hbehind.1
        | cons first rest => exact h
      · exact h
    · exact h

theorem startsOwn_tracedSlug (label : String) : StartsOwn (tracedSlug label) := by
  have hloop : ∀ (text : List Char) (result : List (Char × Char)), StartsOwn result →
      StartsOwn (text.foldl Mqtt.tracedStep result) := by
    intro text
    induction text with
    | nil => exact fun _ h => h
    | cons c text ih => exact fun result h => ih _ h.tracedStep
  have hnil : StartsOwn [] := fun pair hpair => by cases hpair
  have hraw := hloop label.toList [] hnil
  unfold tracedSlug
  dsimp only
  split
  · cases hresult : label.toList.foldl Mqtt.tracedStep [] with
    | nil => exact hnil
    | cons first rest =>
      rw [hresult] at hraw
      cases rest with
      | nil => exact hnil
      | cons second rest => exact hraw
  · exact hraw

end

/-! ## Slugs of slugs -/

theorem isSlugChar_foldl_slugStep {text result : List Char}
    (h : ∀ c ∈ result, isSlugChar c) :
    ∀ c ∈ text.foldl slugStep result, isSlugChar c := by
  induction text generalizing result with
  | nil => exact h
  | cons c text ih =>
    have hunderscore : isSlugChar '_' := by decide
    refine ih fun d hd => ?_
    unfold slugStep at hd
    split at hd
    · next hkept =>
      obtain hd | hd := List.mem_append.mp hd
      · exact h d hd
      · rw [List.mem_singleton.mp hd]
        rw [or_eq_true, beq_iff_eq] at hkept
        obtain halnum | rfl := hkept
        · rw [isSlugChar, toLower_of_isAlphanum halnum, Bool.true_or]
        · exact hunderscore
    · split at hd
      · split at hd
        · obtain hd | hd := List.mem_append.mp hd
          · exact h d hd
          · rwa [List.mem_singleton.mp hd]
        · exact h d hd
      · exact h d hd

theorem isSlugChar_slugify (label : String) : ∀ c ∈ (slugify label).toList, isSlugChar c := by
  have hraw := @isSlugChar_foldl_slugStep label.toList [] (by simp)
  intro c hc
  simp only [slugify, String.toList_ofList] at hc
  split at hc
  · exact hraw c (mem_of_mem_dropLast hc)
  · exact hraw c hc

theorem slugify_of_isSlugChar {slug : String} (hchars : ∀ c ∈ slug.toList, isSlugChar c)
    (hback : slug.toList.getLast? ≠ some '_') : slugify slug = slug := by
  rw [slugify, foldl_slugStep_of_isSlugChar hchars, nil_append, if_neg hback, String.ofList_toList]

/-- One of the underscores at the end is dropped. -/
theorem toList_slugify {label : String} {base : List Char} {n : ℕ}
    (hraw : label.toList.foldl slugStep [] = base ++ replicate n '_')
    (hbase : base.getLast? ≠ some '_') :
    (slugify label).toList = base ++ replicate (n - 1) '_' := by
  simp only [slugify, String.toList_ofList, hraw]
  cases n with
  | zero => rw [replicate_zero, append_nil, if_neg hbase]
  | succ n =>
    have hend : base ++ replicate (n + 1) '_' = (base ++ replicate n '_') ++ ['_'] := by
      rw [replicate_succ', append_assoc]
    rw [hend, if_pos (getLast?_concat ..), dropLast_concat, Nat.add_sub_cancel]

theorem getLast?_slugify_iff (label : String) :
    (slugify label).toList.getLast? = some '_' ↔ EndsInUnderscores label := by
  obtain ⟨base, n, hraw, hbase, hends⟩ := slug_decomposition label
  rw [← hends, toList_slugify hraw hbase]
  constructor
  · intro hlast
    by_contra hle
    have hzero : n - 1 = 0 := by omega
    rw [hzero, replicate_zero, append_nil] at hlast
    exact hbase hlast
  · intro hle
    obtain ⟨m, rfl⟩ := Nat.exists_eq_add_of_le hle
    have hm : 2 + m - 1 = m + 1 := by omega
    rw [hm, replicate_succ', ← append_assoc, getLast?_concat]

/-- A slug is canonical exactly if the label does not leave two underscores at the end: behind the
last letter or digit only the first character that counts may be an underscore, and in a label
without letters and digits there may be one. -/
theorem canonicalSlug_iff (label : String) : CanonicalSlug label ↔ ¬ EndsInUnderscores label := by
  rw [← getLast?_slugify_iff]
  constructor
  · exact CanonicalSlug.back
  · intro hback
    exact
      { chars := isSlugChar_slugify label
        front := fun origin horigin => startsOwn_tracedSlug label ('_', origin) horigin
        back := hback
        stable := slugify_of_isSlugChar (isSlugChar_slugify label) hback }

/-- The slug of `Pump _` is `pump_`, and the slug of that is `pump`. -/
theorem not_canonicalSlug_pump : ¬ CanonicalSlug "Pump _" :=
  fun h => absurd h.stable (by decide)

end AqualinkAutomate.Mqtt
