import Aqualink.Auxillaries.Reconciliation

/-!
# Which placeholders go, and when their order matters

Whatever the order of the placeholders, those that name the relay go, and the live device
and every device with an identity stay.  The others go if they share the label of the live device
when their turn comes.  This label is rewritten by the first placeholder with a custom label, so
what goes for its label alone can depend on the order, and so can the label itself.

* `Prunes`: what pruning takes away and what it leaves, in every order.
* `OrderFree`: at most one custom label is on offer, no placeholder goes for its label alone while
  one is on offer, and the bodies on offer agree.
* `prunes_and_sameOutcome_iff`: pruning has the same outcome in every order just then.
-/

namespace AqualinkAutomate.Auxillaries

open Equipment hiding AuxillaryDevice DevicesGraph
open General AuxillaryDevice List Option

/-! ## The label and the body on offer -/

/-- The first value on offer is the same in two lists of the same elements, if all that have one
have the same. -/
theorem findSome?_eq_of_agree {α β : Type*} {f : α → Option β} {l l' : List α}
    (hmem : ∀ a, a ∈ l ↔ a ∈ l')
    (hagree : ∀ a ∈ l, ∀ b ∈ l, (f a).isSome → (f b).isSome → f a = f b) :
    l.findSome? f = l'.findSome? f := by
  cases hl : l.findSome? f with
  | none =>
    have hnone := List.findSome?_eq_none_iff.mp hl
    exact (List.findSome?_eq_none_iff.mpr fun a ha => hnone a ((hmem a).mpr ha)).symm
  | some b =>
    obtain ⟨a, ha, hfa⟩ := exists_of_findSome?_eq_some hl
    cases hl' : l'.findSome? f with
    | none =>
      have hnone := List.findSome?_eq_none_iff.mp hl' a ((hmem a).mp ha)
      rw [hfa] at hnone
      cases hnone
    | some b' =>
      obtain ⟨a', ha', hfa'⟩ := exists_of_findSome?_eq_some hl'
      have hsame := hagree a ha a' ((hmem a').mpr ha') (by rw [hfa]; rfl) (by rw [hfa']; rfl)
      rwa [hfa, hfa'] at hsame

section

variable {Ref : Type*} {auxId : JandyAuxillaryIds} {deref : Ref → AuxillaryDevice}
variable {keep : AuxillaryDevice} {orphan ref : Ref} {orphans others : List Ref}

def offersLabel (auxId : JandyAuxillaryIds) (orphan : AuxillaryDevice) : Prop :=
  orphan.identifies auxId = true ∧ isCustomLabel orphan.label = true

/-- If the live device looks for a label, one is on offer at most, and then no placeholder goes
for its label alone. -/
def LabelSettled (auxId : JandyAuxillaryIds) (deref : Ref → AuxillaryDevice)
    (keep : AuxillaryDevice) (orphans : List Ref) : Prop :=
  isCustomLabel keep.label = false → ∀ p ∈ orphans, offersLabel auxId (deref p) → ∀ q ∈ orphans,
    (offersLabel auxId (deref q) → (deref q).label = (deref p).label) ∧
      ((deref q).label = (deref p).label ∨ (deref q).sharesLabel keep = true →
        (deref q).identifies auxId = true)

def BodySettled (auxId : JandyAuxillaryIds) (deref : Ref → AuxillaryDevice)
    (keep : AuxillaryDevice) (orphans : List Ref) : Prop :=
  keep.bodyOfWater = none → ∀ p ∈ orphans, ∀ q ∈ orphans,
    (deref p).belongs keep auxId = true → (deref q).belongs keep auxId = true →
      (deref p).bodyOfWater.isSome → (deref q).bodyOfWater.isSome →
        (deref p).bodyOfWater = (deref q).bodyOfWater

theorem inherit_cases {orphan : AuxillaryDevice} (hbelongs : orphan.belongs keep auxId) :
    isCustomLabel keep.label = false ∧ offersLabel auxId orphan ∧
        (keep.inherit orphan).label = orphan.label ∨
      (isCustomLabel keep.label = false → ¬ offersLabel auxId orphan) ∧
        (keep.inherit orphan).label = keep.label := by
  cases hkeep : isCustomLabel keep.label with
  | true => exact .inr ⟨fun hnot => (Bool.true_eq_false.mp hnot).elim,
      label_inherit_of_custom hkeep⟩
  | false =>
    cases horphan : isCustomLabel orphan.label with
    | true =>
      have hself := identifies_of_transfer hbelongs hkeep horphan
      exact .inl ⟨rfl, ⟨hself, horphan⟩, label_inherit_of_transfer hkeep horphan⟩
    | false =>
      refine .inr ⟨fun _ hoffers => ?_, label_inherit_of_not_custom horphan⟩
      rw [hoffers.2] at horphan
      cases horphan

theorem LabelSettled.of_custom (h : isCustomLabel keep.label) :
    LabelSettled auxId deref keep orphans := by
  intro hkeep
  rw [h] at hkeep
  cases hkeep

theorem LabelSettled.mono (h : LabelSettled auxId deref keep orphans)
    (hsub : ∀ ref ∈ others, ref ∈ orphans) : LabelSettled auxId deref keep others :=
  fun hkeep p hp hoffers q hq => h hkeep p (hsub p hp) hoffers q (hsub q hq)

theorem LabelSettled.congr {live : AuxillaryDevice} (h : LabelSettled auxId deref keep orphans)
    (hlabel : live.label = keep.label) : LabelSettled auxId deref live orphans := by
  intro hlive p hp hoffers q hq
  rw [hlabel] at hlive
  obtain ⟨honce, halone⟩ := h hlive p hp hoffers q hq
  refine ⟨honce, fun hq => halone ?_⟩
  rwa [sharesLabel, hlabel] at hq

theorem LabelSettled.belongs_inherit (h : LabelSettled auxId deref keep (orphan :: orphans))
    (hkeep : isCustomLabel keep.label = false) (hoffers : offersLabel auxId (deref orphan))
    (hmem : ref ∈ orphans) :
    (deref ref).belongs (keep.inherit (deref orphan)) auxId = (deref ref).belongs keep auxId := by
  obtain ⟨-, halone⟩ :=
    h hkeep orphan mem_cons_self hoffers ref (mem_cons_of_mem orphan hmem)
  have hlabel := label_inherit_of_transfer hkeep hoffers.2
  cases hself : (deref ref).identifies auxId with
  | true => simp [belongs, hself]
  | false =>
    have hbefore : (deref ref).sharesLabel keep = false := by
      refine Bool.eq_false_iff.mpr fun hshares => ?_
      rw [halone (.inr hshares)] at hself
      cases hself
    have hafter : (deref ref).sharesLabel (keep.inherit (deref orphan)) = false := by
      refine Bool.eq_false_iff.mpr fun hshares => ?_
      obtain ⟨text, hnow, hsame⟩ := sharesLabel_iff.mp hshares
      rw [halone (.inl (hsame.trans (hnow.symm.trans hlabel)))] at hself
      cases hself
    rw [belongs, belongs, hbefore, hafter]

/-- With one label on offer at most, the placeholders that go are those that belong to the relay
from the start. -/
theorem mem_collapse_iff (h : LabelSettled auxId deref keep orphans) :
    ref ∈ (collapse auxId deref keep orphans).2 ↔
      ref ∈ orphans ∧ (deref ref).belongs keep auxId := by
  induction orphans generalizing keep with
  | nil => simp [collapse]
  | cons orphan orphans ih =>
    have htail : LabelSettled auxId deref keep orphans :=
      h.mono fun _ => mem_cons_of_mem orphan
    cases hbelongs : (deref orphan).belongs keep auxId with
    | false =>
      rw [collapse_cons_of_not_belongs hbelongs, ih htail, mem_cons]
      constructor
      · rintro ⟨hmem, href⟩
        exact ⟨.inr hmem, href⟩
      · rintro ⟨rfl | hmem, href⟩
        · rw [hbelongs] at href
          cases href
        · exact ⟨hmem, href⟩
    | true =>
      have hrest : ref ∈ (collapse auxId deref (keep.inherit (deref orphan)) orphans).2 ↔
          ref ∈ orphans ∧ (deref ref).belongs keep auxId := by
        obtain ⟨hkeep, hoffers, hlabel⟩ | ⟨-, hlabel⟩ := inherit_cases hbelongs
        · have hcustom : isCustomLabel (keep.inherit (deref orphan)).label := by
            rw [hlabel]
            exact hoffers.2
          rw [ih (LabelSettled.of_custom hcustom)]
          refine and_congr_right fun hmem => ?_
          rw [h.belongs_inherit hkeep hoffers hmem]
        · rw [ih (htail.congr hlabel), belongs_congr hlabel]
      rw [collapse_cons_of_belongs hbelongs, mem_cons, mem_cons, hrest]
      constructor
      · rintro (rfl | ⟨hmem, href⟩)
        · exact ⟨.inl rfl, hbelongs⟩
        · exact ⟨.inr hmem, href⟩
      · rintro ⟨rfl | hmem, href⟩
        · exact .inl rfl
        · exact .inr ⟨hmem, href⟩

theorem label_collapse (auxId : JandyAuxillaryIds) (deref : Ref → AuxillaryDevice)
    (keep : AuxillaryDevice) (orphans : List Ref) :
    (collapse auxId deref keep orphans).1.label = keep.label ∧
        (isCustomLabel keep.label = false → ∀ p ∈ orphans, ¬ offersLabel auxId (deref p)) ∨
      isCustomLabel keep.label = false ∧ ∃ p ∈ orphans, offersLabel auxId (deref p) ∧
        (collapse auxId deref keep orphans).1.label = (deref p).label := by
  induction orphans generalizing keep with
  | nil => exact .inl ⟨rfl, by simp⟩
  | cons orphan orphans ih =>
    cases hbelongs : (deref orphan).belongs keep auxId with
    | false =>
      have hnot : ¬ offersLabel auxId (deref orphan) := by
        rintro ⟨hself, -⟩
        rw [belongs, hself, Bool.true_or] at hbelongs
        cases hbelongs
      rw [collapse_cons_of_not_belongs hbelongs]
      obtain ⟨hlabel, hnone⟩ | ⟨hkeep, p, hp, hoffers, hlabel⟩ := ih keep
      · exact .inl ⟨hlabel, fun hkeep => List.forall_mem_cons.mpr ⟨hnot, hnone hkeep⟩⟩
      · exact .inr ⟨hkeep, p, mem_cons_of_mem orphan hp, hoffers, hlabel⟩
    | true =>
      rw [collapse_cons_of_belongs hbelongs]
      obtain ⟨hkeep, hoffers, hlabel⟩ | ⟨hnot, hlabel⟩ := inherit_cases hbelongs
      · -- the label is found, and stays
        have hcustom : isCustomLabel (keep.inherit (deref orphan)).label := by
          rw [hlabel]
          exact hoffers.2
        exact .inr ⟨hkeep, orphan, mem_cons_self, hoffers,
          (label_collapse_of_custom hcustom).trans hlabel⟩
      · obtain ⟨hfinal, hnone⟩ | ⟨hkeep, p, hp, hoffers, hfinal⟩ :=
          ih (keep.inherit (deref orphan))
        · rw [hlabel] at hfinal hnone
          exact .inl ⟨hfinal, fun hkeep =>
            List.forall_mem_cons.mpr ⟨hnot hkeep, hnone hkeep⟩⟩
        · rw [hlabel] at hkeep
          exact .inr ⟨hkeep, p, mem_cons_of_mem orphan hp, hoffers, hfinal⟩

theorem bodyOfWater_collapse : (collapse auxId deref keep orphans).1.bodyOfWater =
    keep.bodyOfWater.or
      ((collapse auxId deref keep orphans).2.findSome? fun ref => (deref ref).bodyOfWater) := by
  induction orphans generalizing keep with
  | nil => exact (or_none).symm
  | cons orphan orphans ih =>
    cases hbelongs : (deref orphan).belongs keep auxId with
    | false =>
      rw [collapse_cons_of_not_belongs hbelongs]
      exact ih
    | true =>
      rw [collapse_cons_of_belongs hbelongs, findSome?_cons]
      refine ih.trans ?_
      show (keep.bodyOfWater.or (deref orphan).bodyOfWater).or _ = _
      rw [Option.or_assoc]
      cases (deref orphan).bodyOfWater <;> rfl

/-- Two orders of the same placeholders make the same of the live device, if the labels and the
bodies on offer are settled. -/
theorem fst_collapse_eq_of_settled (hmem : ∀ ref, ref ∈ orphans ↔ ref ∈ others)
    (hlabel : LabelSettled auxId deref keep orphans)
    (hbody : BodySettled auxId deref keep orphans) :
    (collapse auxId deref keep orphans).1 = (collapse auxId deref keep others).1 := by
  have hother : LabelSettled auxId deref keep others := hlabel.mono fun ref => (hmem ref).mpr
  have hgone (ref : Ref) : ref ∈ (collapse auxId deref keep orphans).2 ↔
      ref ∈ (collapse auxId deref keep others).2 := by
    rw [mem_collapse_iff hlabel, mem_collapse_iff hother, hmem]
  have hsameBody : (collapse auxId deref keep orphans).1.bodyOfWater =
      (collapse auxId deref keep others).1.bodyOfWater := by
    rw [bodyOfWater_collapse, bodyOfWater_collapse]
    cases hkeep : keep.bodyOfWater with
    | some body => rfl
    | none =>
      refine congrArg (or none) (findSome?_eq_of_agree hgone fun p hp q hq => ?_)
      obtain ⟨hp, hpbelongs⟩ := (mem_collapse_iff hlabel).mp hp
      obtain ⟨hq, hqbelongs⟩ := (mem_collapse_iff hlabel).mp hq
      exact hbody hkeep p hp q hq hpbelongs hqbelongs
  have hsameLabel : (collapse auxId deref keep orphans).1.label =
      (collapse auxId deref keep others).1.label := by
    obtain ⟨hfirst, hnone⟩ | ⟨hkeep, p, hp, hoffers, hfirst⟩ :=
      label_collapse auxId deref keep orphans
    · obtain ⟨hsecond, -⟩ | ⟨hkeep, q, hq, hoffers, -⟩ := label_collapse auxId deref keep others
      · exact hfirst.trans hsecond.symm
      · exact absurd hoffers (hnone hkeep q ((hmem q).mpr hq))
    · obtain ⟨-, hnone⟩ | ⟨-, q, hq, hqoffers, hsecond⟩ := label_collapse auxId deref keep others
      · exact absurd hoffers (hnone hkeep p ((hmem p).mp hp))
      · have hsame := (hlabel hkeep p hp hoffers q ((hmem q).mpr hq)).1 hqoffers
        rw [hfirst, hsecond, hsame]
  rw [fst_collapse, hsameLabel, hsameBody, ← fst_collapse]

theorem label_collapse_cons_of_offersLabel (hkeep : isCustomLabel keep.label = false)
    (hoffers : offersLabel auxId (deref orphan)) :
    (collapse auxId deref keep (orphan :: orphans)).1.label = (deref orphan).label := by
  have hbelongs : (deref orphan).belongs keep auxId := by
    rw [belongs, hoffers.1, Bool.true_or]
  have hlabel := label_inherit_of_transfer hkeep hoffers.2
  rw [collapse_cons_of_belongs hbelongs]
  refine (label_collapse_of_custom ?_).trans hlabel
  rw [hlabel]
  exact hoffers.2

theorem mem_collapse_cons_of_offersLabel {other : Ref} (hkeep : isCustomLabel keep.label = false)
    (hoffers : offersLabel auxId (deref orphan)) (hmem : other ∈ orphans) (hne : other ≠ orphan)
    (hself : (deref other).identifies auxId = false) :
    other ∈ (collapse auxId deref keep (orphan :: orphans)).2 ↔
      (deref other).label = (deref orphan).label := by
  have hbelongs : (deref orphan).belongs keep auxId := by
    rw [belongs, hoffers.1, Bool.true_or]
  have hlabel := label_inherit_of_transfer hkeep hoffers.2
  have hcustom : isCustomLabel (keep.inherit (deref orphan)).label := by
    rw [hlabel]
    exact hoffers.2
  have hsome : (deref orphan).label.isSome := by
    cases htext : (deref orphan).label with
    | some text => rfl
    | none =>
      have hoffered := hoffers.2
      rw [htext] at hoffered
      cases hoffered
  rw [collapse_cons_of_belongs hbelongs, mem_cons, or_iff_right hne,
    mem_collapse_iff (LabelSettled.of_custom hcustom), and_iff_right hmem, belongs, hself,
    Bool.false_or, sharesLabel, hlabel, hsome, Bool.true_and, beq_iff_eq]

end

/-! ## The graph in every order -/

section

variable {Ref : Type*} [DecidableEq Ref]

/-- What pruning takes away and what it leaves. -/
structure Prunes (auxId : JandyAuxillaryIds) (keep : Ref) (before after : SharedDevices Ref) :
    Prop where
  /-- What is left is in the order it was in. -/
  sublist : after.vertices.Sublist before.vertices
  keep_mem : keep ∈ before.vertices → keep ∈ after.vertices
  identity_mem : ∀ ref ∈ before.vertices,
    (before.deref ref).jandyAuxillaryId.isSome → ref ∈ after.vertices
  /-- What goes is an auxillary without an identity, and either it names the relay or it is of the
  label that the live device had before or has after. -/
  removed : ∀ ref ∈ before.vertices, ref ∉ after.vertices → ref ∈ placeholders before keep ∧
    ((before.deref ref).identifies auxId ∨ (before.deref ref).sharesLabel (before.deref keep) ∨
      (before.deref ref).sharesLabel (after.deref keep))
  complete : ∀ ref ∈ placeholders before keep, (before.deref ref).identifies auxId →
    ref ∉ after.vertices
  /-- Nothing but the label and the body of the live device changes. -/
  deref_keep : after.deref keep =
    { before.deref keep with
      label := (after.deref keep).label
      bodyOfWater := (after.deref keep).bodyOfWater }
  deref_other : ∀ ref, ref ≠ keep → after.deref ref = before.deref ref

/-- The same devices are in the graph, and each of them is the same. -/
structure SameOutcome (first second : SharedDevices Ref) : Prop where
  vertices : first.vertices.Perm second.vertices
  deref : first.deref = second.deref

/-- The labels and the bodies on offer are settled from the start. -/
structure OrderFree (auxId : JandyAuxillaryIds) (keep : Ref) (devices : SharedDevices Ref) :
    Prop where
  label : LabelSettled auxId devices.deref (devices.deref keep) (placeholders devices keep)
  body : BodySettled auxId devices.deref (devices.deref keep) (placeholders devices keep)

variable {auxId : JandyAuxillaryIds} {keep ref : Ref} {devices other : SharedDevices Ref}

theorem mem_placeholders : ref ∈ placeholders devices keep ↔
    ref ∈ devices.vertices ∧ (devices.deref ref).type = some .auxillary ∧ ref ≠ keep ∧
      (devices.deref ref).jandyAuxillaryId = none := by
  simp only [placeholders, SharedDevices.findByType, isPlaceholder, mem_filter, beq_iff_eq,
    Bool.and_eq_true, decide_eq_true_eq, isNone_iff_eq_none, and_assoc]

theorem mem_vertices_removeOrphanAuxPlaceholders :
    ref ∈ (removeOrphanAuxPlaceholders devices auxId (some keep)).vertices ↔
      ref ∈ devices.vertices ∧ ref ∉
        (collapse auxId devices.deref (devices.deref keep) (placeholders devices keep)).2 := by
  rw [vertices_removeOrphanAuxPlaceholders, mem_filter, decide_eq_true_iff]

theorem deref_keep_removeOrphanAuxPlaceholders :
    (removeOrphanAuxPlaceholders devices auxId (some keep)).deref keep =
      (collapse auxId devices.deref (devices.deref keep) (placeholders devices keep)).1 := by
  rw [deref_removeOrphanAuxPlaceholders, Function.update_self]

theorem prunes (auxId : JandyAuxillaryIds) (keep : Ref) (devices : SharedDevices Ref) :
    Prunes auxId keep devices (removeOrphanAuxPlaceholders devices auxId (some keep)) where
  sublist := by
    rw [vertices_removeOrphanAuxPlaceholders]
    exact filter_sublist
  keep_mem := by
    intro hmem
    refine mem_vertices_removeOrphanAuxPlaceholders.mpr ⟨hmem, fun hgone => ?_⟩
    exact (mem_placeholders.mp (sublist_collapse.subset hgone)).2.2.1 rfl
  identity_mem := by
    intro ref hmem hidentity
    refine mem_vertices_removeOrphanAuxPlaceholders.mpr ⟨hmem, fun hgone => ?_⟩
    rw [(mem_placeholders.mp (sublist_collapse.subset hgone)).2.2.2] at hidentity
    cases hidentity
  removed := by
    intro ref hmem hleft
    have hgone : ref ∈
        (collapse auxId devices.deref (devices.deref keep) (placeholders devices keep)).2 := by
      by_contra hstays
      exact hleft (mem_vertices_removeOrphanAuxPlaceholders.mpr ⟨hmem, hstays⟩)
    refine ⟨sublist_collapse.subset hgone, ?_⟩
    rw [deref_keep_removeOrphanAuxPlaceholders]
    obtain hbelongs | hafter := belongs_of_mem_collapse hgone
    · rw [belongs, Bool.or_eq_true] at hbelongs
      exact hbelongs.imp_right .inl
    · exact .inr (.inr hafter)
  complete := by
    intro ref hplace hself hleft
    exact (mem_vertices_removeOrphanAuxPlaceholders.mp hleft).2
      (mem_collapse_of_identifies hplace hself)
  deref_keep := by
    rw [deref_keep_removeOrphanAuxPlaceholders]
    exact fst_collapse
  deref_other := by
    intro ref hne
    rw [deref_removeOrphanAuxPlaceholders, Function.update_of_ne hne]

/-- **Sufficient.**  Settled offers have the same outcome in every order. -/
theorem sameOutcome_of_orderFree (h : OrderFree auxId keep devices)
    (hderef : other.deref = devices.deref) (hperm : other.vertices.Perm devices.vertices) :
    SameOutcome (removeOrphanAuxPlaceholders other auxId (some keep))
      (removeOrphanAuxPlaceholders devices auxId (some keep)) := by
  have hmem (ref : Ref) : ref ∈ placeholders devices keep ↔ ref ∈ placeholders other keep := by
    rw [mem_placeholders, mem_placeholders, hderef, hperm.mem_iff]
  have hother := h.label.mono fun ref => (hmem ref).mpr
  constructor
  · rw [vertices_removeOrphanAuxPlaceholders, vertices_removeOrphanAuxPlaceholders, hderef]
    refine (hperm.filter _).trans (List.Perm.of_eq (filter_congr fun ref _ => ?_))
    rw [decide_eq_decide, mem_collapse_iff h.label, mem_collapse_iff hother, hmem]
  · rw [deref_removeOrphanAuxPlaceholders, deref_removeOrphanAuxPlaceholders, hderef,
      fst_collapse_eq_of_settled hmem h.label h.body]

def SharedDevices.inFront (devices : SharedDevices Ref) (ref : Ref)
    (hmem : ref ∈ devices.vertices) : SharedDevices Ref where
  deref := devices.deref
  vertices := ref :: devices.vertices.erase ref
  nodup := (perm_cons_erase hmem).nodup devices.nodup

/-- Pruning has the same outcome in every order of the graph. -/
def OrderIndependent (auxId : JandyAuxillaryIds) (keep : Ref) (devices : SharedDevices Ref) :
    Prop :=
  ∀ other : SharedDevices Ref, other.deref = devices.deref →
    other.vertices.Perm devices.vertices →
      SameOutcome (removeOrphanAuxPlaceholders other auxId (some keep))
        (removeOrphanAuxPlaceholders devices auxId (some keep))

theorem OrderIndependent.inFront (h : OrderIndependent auxId keep devices)
    (hplace : ref ∈ placeholders devices keep) : ∃ rest, ref ∉ rest ∧
      (∀ other ∈ placeholders devices keep, other ≠ ref → other ∈ rest) ∧
      (collapse auxId devices.deref (devices.deref keep) (ref :: rest)).1 =
        (collapse auxId devices.deref (devices.deref keep) (placeholders devices keep)).1 ∧
      ∀ other ∈ placeholders devices keep,
        (other ∈ (collapse auxId devices.deref (devices.deref keep) (ref :: rest)).2 ↔
          other ∈
            (collapse auxId devices.deref (devices.deref keep) (placeholders devices keep)).2) := by
  have hmem := (mem_placeholders.mp hplace).1
  have hperm : (devices.inFront ref hmem).vertices.Perm devices.vertices :=
    (perm_cons_erase hmem).symm
  obtain ⟨rest, hrest⟩ : ∃ rest, placeholders (devices.inFront ref hmem) keep = ref :: rest := by
    obtain ⟨-, htype, hne, hidentity⟩ := mem_placeholders.mp hplace
    refine ⟨((devices.vertices.erase ref).filter fun ref =>
      (devices.deref ref).type == some .auxillary).filter (isPlaceholder devices.deref keep), ?_⟩
    show ((ref :: devices.vertices.erase ref).filter _).filter _ = _
    rw [filter_cons_of_pos (by rw [beq_iff_eq]; exact htype), filter_cons_of_pos]
    · rfl
    · rw [isPlaceholder, Bool.and_eq_true, decide_eq_true_iff, isNone_iff_eq_none]
      exact ⟨hne, hidentity⟩
  have hnodup : (ref :: rest).Nodup := by
    rw [← hrest]
    exact ((devices.inFront ref hmem).nodup.filter _).filter _
  obtain ⟨hvertices, hderef⟩ := h (devices.inFront ref hmem) rfl hperm
  refine ⟨rest, (List.nodup_cons.mp hnodup).1, fun other hother hne => ?_, ?_, ?_⟩
  · have hfront : other ∈ placeholders (devices.inFront ref hmem) keep := by
      rw [mem_placeholders, hperm.mem_iff]
      exact mem_placeholders.mp hother
    rw [hrest] at hfront
    exact (List.mem_cons.mp hfront).resolve_left hne
  · have hkeep := congrFun hderef keep
    rw [deref_keep_removeOrphanAuxPlaceholders, deref_keep_removeOrphanAuxPlaceholders, hrest]
      at hkeep
    exact hkeep
  · intro other hother
    have hvertex := (mem_placeholders.mp hother).1
    have hsame := hvertices.mem_iff (a := other)
    rw [mem_vertices_removeOrphanAuxPlaceholders, mem_vertices_removeOrphanAuxPlaceholders, hrest,
      hperm.mem_iff, and_iff_right hvertex, and_iff_right hvertex] at hsame
    exact not_iff_not.mp hsame

/-- **Necessary.**  With the same outcome in every order, the offers are settled. -/
theorem OrderIndependent.orderFree (h : OrderIndependent auxId keep devices) :
    OrderFree auxId keep devices := by
  constructor
  · intro hkeep p hp hpoffers q hq
    obtain ⟨prest, hpnot, hprest, hplive, hpgone⟩ := h.inFront hp
    obtain ⟨qrest, hqnot, -, hqlive, hqgone⟩ := h.inFront hq
    constructor
    · intro hqoffers
      calc (devices.deref q).label
          = _ := (label_collapse_cons_of_offersLabel hkeep hqoffers).symm
        _ = _ := congrArg (fun live : AuxillaryDevice => live.label) (hqlive.trans hplive.symm)
        _ = (devices.deref p).label := label_collapse_cons_of_offersLabel hkeep hpoffers
    · intro hshares
      by_contra hself
      rw [Bool.not_eq_true] at hself
      have hne : q ≠ p := by
        rintro rfl
        rw [hpoffers.1] at hself
        cases hself
      -- behind the label on offer, and in front of all
      have hbehind := mem_collapse_cons_of_offersLabel hkeep hpoffers (hprest q hq hne) hne hself
      rw [hpgone q hq, ← hqgone q hq] at hbehind
      cases hnow : (devices.deref q).sharesLabel (devices.deref keep) with
      | true =>
        have hbelongs : (devices.deref q).belongs (devices.deref keep) auxId := by
          rw [belongs, hnow, Bool.or_true]
        rw [collapse_cons_of_belongs hbelongs] at hbehind
        have hlabel := hbehind.mp mem_cons_self
        obtain ⟨text, hkeeps, hqs⟩ := sharesLabel_iff.mp hnow
        have hcustom := hpoffers.2
        rw [← hlabel, hqs, ← hkeeps, hkeep] at hcustom
        cases hcustom
      | false =>
        have hbelongs : (devices.deref q).belongs (devices.deref keep) auxId = false := by
          rw [belongs, hself, hnow, Bool.or_false]
        have hlabel := hshares.resolve_right (by rw [hnow]; exact Bool.false_ne_true)
        rw [collapse_cons_of_not_belongs hbelongs] at hbehind
        exact hqnot (sublist_collapse.subset (hbehind.mpr hlabel))
  · intro hkeep p hp q hq hpbelongs hqbelongs hpbody hqbody
    have hfinal (ref : Ref) (hplace : ref ∈ placeholders devices keep)
        (hbelongs : (devices.deref ref).belongs (devices.deref keep) auxId)
        (hbody : (devices.deref ref).bodyOfWater.isSome) :
        (devices.deref ref).bodyOfWater = (collapse auxId devices.deref (devices.deref keep)
          (placeholders devices keep)).1.bodyOfWater := by
      obtain ⟨rest, -, -, hlive, -⟩ := h.inFront hplace
      obtain ⟨body, hbody⟩ := Option.isSome_iff_exists.mp hbody
      rw [← hlive, bodyOfWater_collapse, hkeep, collapse_cons_of_belongs hbelongs,
        findSome?_cons, hbody]
      rfl
    exact (hfinal p hp hpbelongs hpbody).trans (hfinal q hq hqbelongs hqbody).symm

/-- **Orphan pruning.**  Without a live device nothing happens.  Otherwise the live device and
every device with an identity stay, every placeholder that names the relay goes, and any
other goes only if it has the label that the live device had before or has after; and the outcome
is the same in every order of the graph if and only if the offers are settled. -/
theorem prunes_and_orderIndependent_iff (devices : SharedDevices Ref)
    (auxId : JandyAuxillaryIds) :
    removeOrphanAuxPlaceholders devices auxId none = devices ∧
      ∀ keep, Prunes auxId keep devices (removeOrphanAuxPlaceholders devices auxId (some keep)) ∧
        (OrderIndependent auxId keep devices ↔ OrderFree auxId keep devices) :=
  ⟨rfl, fun keep => ⟨prunes auxId keep devices, OrderIndependent.orderFree,
    fun h _ hderef hperm => sameOutcome_of_orderFree h hderef hperm⟩⟩

end

/-! ### Devices that share a label -/

/-- A device that the cache has brought back. -/
def cached (label hardwareLabel : String) : AuxillaryDevice where
  id := Vector.replicate 16 0
  label := some label
  type := some .auxillary
  hardwareLabel := some hardwareLabel

def liveAux5 (label : String) : AuxillaryDevice :=
  (cached label "Aux5").ensureAuxIdentity .aux5

/-- A placeholder of Aux6, and the live device of Aux5 that was given the same label. -/
def relabelled : SharedDevices String where
  deref ref := if ref = "live" then liveAux5 "Pool Light" else cached "Pool Light" "Aux6"
  vertices := ["other", "live"]
  nodup := by decide

/-- Two placeholders of Aux5 with a label each, in an order. -/
def twiceCached (first second : String) (hne : first ≠ second) : SharedDevices String where
  deref ref := if ref = "live" then liveAux5 "Aux5" else cached ref "Aux5"
  vertices := [first, second]
  nodup := by simpa using hne

/-- The placeholder of Aux6 goes with the pruning of Aux5, and of the two labels of Aux5 the first
one is kept. -/
theorem not_removes_only_same_relay :
    (names ((relabelled.deref "other").hardwareLabel) .aux6 ∧
      "other" ∉ (removeOrphanAuxPlaceholders relabelled .aux5 (some "live")).vertices) ∧
    ((removeOrphanAuxPlaceholders (twiceCached "Pool Light" "Spa Light" (by decide)) .aux5
        (some "live")).deref "live").label ≠
      ((removeOrphanAuxPlaceholders (twiceCached "Spa Light" "Pool Light" (by decide)) .aux5
        (some "live")).deref "live").label := by
  decide +kernel

end AqualinkAutomate.Auxillaries
