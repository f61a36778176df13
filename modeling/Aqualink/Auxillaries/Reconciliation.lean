import Aqualink.Auxillaries.Devices

/-!
# Pruning the placeholders of a relay

A restart brings devices back that have no identity of their own.  When the live device of a
relay is seen, `removeOrphanAuxPlaceholders` takes those of them out of the graph that belong to
the relay, and what they know of label and body goes to the live device, `keep`.  A placeholder
belongs to the relay if its label or its hardware label is a name of the relay, or if it has the
label that `keep` has when its turn comes.

`collapse` says what becomes of `keep` over a list of placeholders, and which of them go; `Tracks`
that the loop collapses the placeholders of the graph, in the order of the vertices.
-/

namespace AqualinkAutomate.Auxillaries

open Equipment hiding AuxillaryDevice DevicesGraph
open General List Function Option

variable {Ref : Type*}

/-! ## The devices behind the pointers -/

/-- The devices behind the pointers, and the pointers of the graph in the order of its
vertices. -/
structure SharedDevices (Ref : Type*) where
  deref : Ref → AuxillaryDevice
  vertices : List Ref
  nodup : vertices.Nodup

namespace SharedDevices

/-- Change a device, for all who point to it. -/
def set [DecidableEq Ref] (devices : SharedDevices Ref) (ref : Ref) (device : AuxillaryDevice) :
    SharedDevices Ref :=
  { devices with deref := Function.update devices.deref ref device }

/-- Remove the pointer itself, whatever the devices of others equal. -/
def remove [DecidableEq Ref] (devices : SharedDevices Ref) (ref : Ref) : SharedDevices Ref where
  deref := devices.deref
  vertices := devices.vertices.erase ref
  nodup := devices.nodup.erase ref

def findByType (devices : SharedDevices Ref) (type : AuxillaryTypes) : List Ref :=
  devices.vertices.filter fun ref => (devices.deref ref).type == some type

end SharedDevices

/-! ## The placeholders of a relay -/

namespace AuxillaryDevice

/-- `EnsureAuxIdentity`: what is there already is not set again. -/
def ensureAuxIdentity (device : AuxillaryDevice) (id : JandyAuxillaryIds) : AuxillaryDevice :=
  { device with
    jandyAuxillaryId := device.jandyAuxillaryId.or (some id)
    hardwareLabel := device.hardwareLabel.or (some (enumName id)) }

end AuxillaryDevice

/-- A label that somebody chose is no name of a relay. -/
def isCustomLabel (label : Option String) : Bool :=
  label.any fun text => (parseAuxId text).isNone

/-- A label is a name of the relay. -/
def names (label : Option String) (auxId : JandyAuxillaryIds) : Bool :=
  label.any fun text => decide (parseAuxId text = some auxId)

def orphanBelongsToAux (orphan : AuxillaryDevice) (orphanLabel keepLabel : Option String)
    (auxId : JandyAuxillaryIds) : Bool :=
  if names orphanLabel auxId then true
  else if names orphan.hardwareLabel auxId then true
  else keepLabel.isSome && orphanLabel == keepLabel

section

variable [DecidableEq Ref]

/-- What the loop carries from one placeholder to the next. -/
structure Pruning (Ref : Type*) where
  devices : SharedDevices Ref
  keepLabel : Option String
  keepHasCustomLabel : Bool

namespace Pruning

def transferLabel (loop : Pruning Ref) (keep : Ref) (orphanLabel : Option String) : Pruning Ref :=
  if !loop.keepHasCustomLabel && isCustomLabel orphanLabel then
    { devices := loop.devices.set keep { loop.devices.deref keep with label := orphanLabel }
      keepLabel := orphanLabel
      keepHasCustomLabel := true }
  else
    loop

def transferBody (loop : Pruning Ref) (keep orphan : Ref) : Pruning Ref :=
  match (loop.devices.deref keep).bodyOfWater, (loop.devices.deref orphan).bodyOfWater with
  | none, some body =>
    { loop with
      devices :=
        loop.devices.set keep { loop.devices.deref keep with bodyOfWater := some body } }
  | _, _ => loop

/-- Take the placeholder out of the graph. -/
def remove (loop : Pruning Ref) (orphan : Ref) : Pruning Ref :=
  { loop with devices := loop.devices.remove orphan }

def pruneOrphan (auxId : JandyAuxillaryIds) (keep : Ref) (loop : Pruning Ref) (orphan : Ref) :
    Pruning Ref :=
  if orphan = keep then loop
  else if (loop.devices.deref orphan).jandyAuxillaryId.isSome then loop
  else if !orphanBelongsToAux (loop.devices.deref orphan) (loop.devices.deref orphan).label
      loop.keepLabel auxId then loop
  else
    ((loop.transferLabel keep (loop.devices.deref orphan).label).transferBody keep orphan).remove
      orphan

end Pruning

def removeOrphanAuxPlaceholders (devices : SharedDevices Ref) (auxId : JandyAuxillaryIds)
    (keep : Option Ref) : SharedDevices Ref :=
  match keep with
  | none => devices
  | some keep =>
    let keepLabel := (devices.deref keep).label
    ((devices.findByType .auxillary).foldl (Pruning.pruneOrphan auxId keep)
      ⟨devices, keepLabel, isCustomLabel keepLabel⟩).devices

end

/-! ## What becomes of the live device -/

namespace AuxillaryDevice

def identifies (device : AuxillaryDevice) (auxId : JandyAuxillaryIds) : Bool :=
  names device.label auxId || names device.hardwareLabel auxId

/-- The device has a label, and `keep` has the same. -/
def sharesLabel (device keep : AuxillaryDevice) : Bool :=
  keep.label.isSome && device.label == keep.label

/-- The placeholder belongs to the relay, as long as `keep` is what it is. -/
def belongs (device keep : AuxillaryDevice) (auxId : JandyAuxillaryIds) : Bool :=
  device.identifies auxId || device.sharesLabel keep

/-- `keep` takes over the label and the body that it does not have. -/
def inherit (keep orphan : AuxillaryDevice) : AuxillaryDevice :=
  { keep with
    label :=
      if !isCustomLabel keep.label && isCustomLabel orphan.label then orphan.label else keep.label
    bodyOfWater := keep.bodyOfWater.or orphan.bodyOfWater }

variable {keep orphan : AuxillaryDevice} {auxId : JandyAuxillaryIds}

theorem orphanBelongsToAux_eq_belongs :
    orphanBelongsToAux orphan orphan.label keep.label auxId = orphan.belongs keep auxId := by
  unfold orphanBelongsToAux belongs identifies sharesLabel
  cases names orphan.label auxId with
  | true => simp
  | false =>
    cases names orphan.hardwareLabel auxId with
    | true => simp
    | false => simp

theorem sharesLabel_iff : orphan.sharesLabel keep ↔
    ∃ text, keep.label = some text ∧ orphan.label = some text := by
  rw [sharesLabel, Bool.and_eq_true, isSome_iff_exists, beq_iff_eq]
  constructor
  · rintro ⟨⟨text, hkeep⟩, hsame⟩
    exact ⟨text, hkeep, hsame.trans hkeep⟩
  · rintro ⟨text, hkeep, horphan⟩
    exact ⟨⟨text, hkeep⟩, horphan.trans hkeep.symm⟩

theorem label_inherit_of_custom (h : isCustomLabel keep.label) :
    (keep.inherit orphan).label = keep.label := by
  simp [inherit, h]

theorem label_inherit_of_not_custom (h : isCustomLabel orphan.label = false) :
    (keep.inherit orphan).label = keep.label := by
  simp [inherit, h]

theorem label_inherit_of_transfer (hkeep : isCustomLabel keep.label = false)
    (horphan : isCustomLabel orphan.label) : (keep.inherit orphan).label = orphan.label := by
  simp [inherit, hkeep, horphan]

theorem identifies_of_transfer (hbelongs : orphan.belongs keep auxId)
    (hkeep : isCustomLabel keep.label = false) (horphan : isCustomLabel orphan.label) :
    orphan.identifies auxId := by
  cases hself : orphan.identifies auxId with
  | true => rfl
  | false =>
    rw [belongs, hself, Bool.false_or] at hbelongs
    obtain ⟨text, hlabel, hshared⟩ := sharesLabel_iff.mp hbelongs
    rw [hshared, ← hlabel, hkeep] at horphan
    cases horphan

theorem belongs_congr {other : AuxillaryDevice} (h : other.label = keep.label) :
    orphan.belongs other auxId = orphan.belongs keep auxId := by
  simp only [belongs, sharesLabel, h]

end AuxillaryDevice

open AuxillaryDevice

section

variable (auxId : JandyAuxillaryIds) (deref : Ref → AuxillaryDevice)

/-- The live device after the placeholders, and the placeholders that go. -/
def collapse : AuxillaryDevice → List Ref → AuxillaryDevice × List Ref
  | keep, [] => (keep, [])
  | keep, orphan :: orphans =>
    if (deref orphan).belongs keep auxId then
      let rest := collapse (keep.inherit (deref orphan)) orphans
      (rest.1, orphan :: rest.2)
    else
      collapse keep orphans

variable {auxId deref} {keep : AuxillaryDevice} {orphan ref : Ref} {orphans : List Ref}

theorem collapse_cons_of_belongs (h : (deref orphan).belongs keep auxId) :
    collapse auxId deref keep (orphan :: orphans) =
      ((collapse auxId deref (keep.inherit (deref orphan)) orphans).1,
        orphan :: (collapse auxId deref (keep.inherit (deref orphan)) orphans).2) := by
  rw [collapse, if_pos h]

theorem collapse_cons_of_not_belongs (h : (deref orphan).belongs keep auxId = false) :
    collapse auxId deref keep (orphan :: orphans) = collapse auxId deref keep orphans := by
  rw [collapse, if_neg (Bool.eq_false_iff.mp h)]

theorem sublist_collapse : (collapse auxId deref keep orphans).2.Sublist orphans := by
  induction orphans generalizing keep with
  | nil => exact List.Sublist.refl []
  | cons orphan orphans ih =>
    cases h : (deref orphan).belongs keep auxId with
    | true =>
      rw [collapse_cons_of_belongs h]
      exact ih.cons_cons orphan
    | false =>
      rw [collapse_cons_of_not_belongs h]
      exact ih.cons orphan

theorem fst_collapse : (collapse auxId deref keep orphans).1 =
    { keep with
      label := (collapse auxId deref keep orphans).1.label
      bodyOfWater := (collapse auxId deref keep orphans).1.bodyOfWater } := by
  induction orphans generalizing keep with
  | nil => rfl
  | cons orphan orphans ih =>
    cases h : (deref orphan).belongs keep auxId with
    | true =>
      rw [collapse_cons_of_belongs h]
      exact @ih (keep.inherit (deref orphan))
    | false =>
      rw [collapse_cons_of_not_belongs h]
      exact ih

/-- A placeholder that names the relay goes. -/
theorem mem_collapse_of_identifies (hmem : ref ∈ orphans)
    (hself : (deref ref).identifies auxId) :
    ref ∈ (collapse auxId deref keep orphans).2 := by
  induction orphans generalizing keep with
  | nil => cases hmem
  | cons orphan orphans ih =>
    cases h : (deref orphan).belongs keep auxId with
    | true =>
      rw [collapse_cons_of_belongs h]
      obtain rfl | hmem := List.mem_cons.mp hmem
      · exact mem_cons_self
      · exact mem_cons_of_mem orphan (ih hmem)
    | false =>
      rw [collapse_cons_of_not_belongs h]
      obtain rfl | hmem := List.mem_cons.mp hmem
      · rw [belongs, hself, Bool.true_or] at h
        cases h
      · exact ih hmem

theorem label_collapse_of_custom (h : isCustomLabel keep.label) :
    (collapse auxId deref keep orphans).1.label = keep.label := by
  induction orphans generalizing keep with
  | nil => rfl
  | cons orphan orphans ih =>
    cases hbelongs : (deref orphan).belongs keep auxId with
    | true =>
      rw [collapse_cons_of_belongs hbelongs]
      have hlabel : (keep.inherit (deref orphan)).label = keep.label :=
        label_inherit_of_custom h
      exact (ih (by rwa [hlabel])).trans hlabel
    | false =>
      rw [collapse_cons_of_not_belongs hbelongs]
      exact ih h

/-- The label of `keep` changes once at most: while it is looked for, or after it was found. -/
theorem label_inherit_cases (auxId : JandyAuxillaryIds) (deref : Ref → AuxillaryDevice)
    (keep : AuxillaryDevice) (orphan : Ref) (orphans : List Ref) :
    (keep.inherit (deref orphan)).label = keep.label ∨
      (collapse auxId deref (keep.inherit (deref orphan)) orphans).1.label =
        (keep.inherit (deref orphan)).label := by
  cases hkeep : isCustomLabel keep.label with
  | true => exact .inl (label_inherit_of_custom hkeep)
  | false =>
    cases horphan : isCustomLabel (deref orphan).label with
    | false => exact .inl (label_inherit_of_not_custom horphan)
    | true =>
      have hlabel := label_inherit_of_transfer hkeep horphan
      exact .inr (label_collapse_of_custom (by rwa [hlabel]))

/-- A placeholder that goes names the relay, or it has the label that `keep` had before or
has after. -/
theorem belongs_of_mem_collapse (h : ref ∈ (collapse auxId deref keep orphans).2) :
    (deref ref).belongs keep auxId ∨
      (deref ref).sharesLabel (collapse auxId deref keep orphans).1 := by
  induction orphans generalizing keep with
  | nil => cases h
  | cons orphan orphans ih =>
    cases hbelongs : (deref orphan).belongs keep auxId with
    | false =>
      rw [collapse_cons_of_not_belongs hbelongs] at h ⊢
      exact ih h
    | true =>
      rw [collapse_cons_of_belongs hbelongs] at h ⊢
      obtain rfl | h := List.mem_cons.mp h
      · exact .inl hbelongs
      obtain hnow | hafter := ih h
      · obtain hsame | hfinal := label_inherit_cases auxId deref keep orphan orphans
        · exact .inl (by rwa [belongs_congr hsame] at hnow)
        · rw [belongs, Bool.or_eq_true] at hnow
          obtain hself | hshares := hnow
          · exact .inl (by rw [belongs, hself, Bool.true_or])
          · rw [sharesLabel, ← hfinal] at hshares
            exact .inr hshares
      · exact .inr hafter

end

/-! ## The loop collapses the placeholders -/

section

variable [DecidableEq Ref]

/-- The device can be pruned: it is not the live one, and it has no identity of its own. -/
def isPlaceholder (deref : Ref → AuxillaryDevice) (keep ref : Ref) : Bool :=
  decide (ref ≠ keep) && (deref ref).jandyAuxillaryId.isNone

/-- The placeholders of a graph in the order of its vertices. -/
def placeholders (devices : SharedDevices Ref) (keep : Ref) : List Ref :=
  (devices.findByType .auxillary).filter (isPlaceholder devices.deref keep)

structure Tracks (deref : Ref → AuxillaryDevice) (keep : Ref) (live : AuxillaryDevice)
    (loop : Pruning Ref) : Prop where
  deref_eq : loop.devices.deref = Function.update deref keep live
  keepLabel_eq : loop.keepLabel = live.label
  keepHasCustomLabel_eq : loop.keepHasCustomLabel = isCustomLabel live.label

variable {deref : Ref → AuxillaryDevice} {keep orphan : Ref} {live : AuxillaryDevice}
variable {loop : Pruning Ref} {auxId : JandyAuxillaryIds}

namespace Tracks

section

variable (h : Tracks deref keep live loop)

include h

theorem deref_keep : loop.devices.deref keep = live := by
  rw [h.deref_eq, update_self]

theorem deref_orphan (hne : orphan ≠ keep) : loop.devices.deref orphan = deref orphan := by
  rw [h.deref_eq, update_of_ne hne]

theorem set_keep (device : AuxillaryDevice) :
    (loop.devices.set keep device).deref = Function.update deref keep device := by
  rw [SharedDevices.set, h.deref_eq, update_idem]

theorem transferLabel (label : Option String) :
    Tracks deref keep
      { live with
        label := if !isCustomLabel live.label && isCustomLabel label then label else live.label }
      (loop.transferLabel keep label) := by
  unfold Pruning.transferLabel
  rw [h.keepHasCustomLabel_eq]
  split
  next hnew =>
    refine ⟨?_, rfl, ?_⟩
    · rw [h.deref_keep]
      exact h.set_keep _
    · rw [Bool.and_eq_true] at hnew
      exact hnew.2.symm
  next => exact h

theorem transferBody (hne : orphan ≠ keep) :
    Tracks deref keep
      { live with bodyOfWater := live.bodyOfWater.or (deref orphan).bodyOfWater }
      (loop.transferBody keep orphan) := by
  unfold Pruning.transferBody
  rw [h.deref_keep, h.deref_orphan hne]
  cases hlive : live.bodyOfWater with
  | some body =>
    have hsame : live = { live with bodyOfWater := some body } := by rw [← hlive]
    rwa [some_or, ← hsame]
  | none =>
    cases horphan : (deref orphan).bodyOfWater with
    | none =>
      have hsame : live = { live with bodyOfWater := none } := by rw [← hlive]
      rwa [or_none, ← hsame]
    | some body => exact ⟨h.set_keep _, h.keepLabel_eq, h.keepHasCustomLabel_eq⟩

theorem pruneOrphan_of_not_placeholder (hplace : isPlaceholder deref keep orphan = false) :
    loop.pruneOrphan auxId keep orphan = loop := by
  unfold Pruning.pruneOrphan
  by_cases hkeep : orphan = keep
  · rw [if_pos hkeep]
  · have hidentity : (deref orphan).jandyAuxillaryId.isSome := by
      simpa [isPlaceholder, hkeep] using hplace
    rw [if_neg hkeep, h.deref_orphan hkeep, if_pos hidentity]

theorem pruneOrphan_of_not_belongs (hbelongs : (deref orphan).belongs live auxId = false) :
    loop.pruneOrphan auxId keep orphan = loop := by
  unfold Pruning.pruneOrphan
  split
  next => rfl
  next hne =>
    rw [h.deref_orphan hne, h.keepLabel_eq, orphanBelongsToAux_eq_belongs, hbelongs]
    simp

theorem pruneOrphan_of_belongs (hplace : isPlaceholder deref keep orphan)
    (hbelongs : (deref orphan).belongs live auxId) :
    Tracks deref keep (live.inherit (deref orphan)) (loop.pruneOrphan auxId keep orphan) ∧
      (loop.pruneOrphan auxId keep orphan).devices.vertices =
        loop.devices.vertices.erase orphan := by
  obtain ⟨hne, hidentity⟩ : orphan ≠ keep ∧ (deref orphan).jandyAuxillaryId = none := by
    simpa [isPlaceholder] using hplace
  have hstep : loop.pruneOrphan auxId keep orphan =
      ((loop.transferLabel keep (deref orphan).label).transferBody keep orphan).remove orphan := by
    unfold Pruning.pruneOrphan
    rw [if_neg hne, h.deref_orphan hne, hidentity, h.keepLabel_eq, orphanBelongsToAux_eq_belongs,
      hbelongs]
    rfl
  rw [hstep]
  have hafter := (h.transferLabel (deref orphan).label).transferBody hne
  refine ⟨⟨hafter.deref_eq, hafter.keepLabel_eq, hafter.keepHasCustomLabel_eq⟩, ?_⟩
  have hvertices : ((loop.transferLabel keep (deref orphan).label).transferBody keep
      orphan).devices.vertices = loop.devices.vertices := by
    unfold Pruning.transferBody Pruning.transferLabel
    split <;> split <;> rfl
  exact congrArg (List.erase · orphan) hvertices

/-- The loop makes of the live device what the placeholders make of it, and takes out those that
go. -/
theorem foldl_pruneOrphan (auxId : JandyAuxillaryIds) (snapshot : List Ref) :
    let orphans := snapshot.filter (isPlaceholder deref keep)
    let after := snapshot.foldl (Pruning.pruneOrphan auxId keep) loop
    Tracks deref keep (collapse auxId deref live orphans).1 after ∧
      after.devices.vertices =
        loop.devices.vertices.diff (collapse auxId deref live orphans).2 := by
  intro orphans after
  subst orphans after
  induction snapshot generalizing loop live with
  | nil => exact ⟨h, rfl⟩
  | cons orphan snapshot ih =>
    rw [foldl_cons]
    cases hplace : isPlaceholder deref keep orphan with
    | false =>
      rw [h.pruneOrphan_of_not_placeholder hplace, filter_cons_of_neg (by simp [hplace])]
      exact ih h
    | true =>
      rw [filter_cons_of_pos hplace]
      cases hbelongs : (deref orphan).belongs live auxId with
      | false =>
        rw [h.pruneOrphan_of_not_belongs hbelongs, collapse_cons_of_not_belongs hbelongs]
        exact ih h
      | true =>
        obtain ⟨hnext, hvertices⟩ := h.pruneOrphan_of_belongs hplace hbelongs
        obtain ⟨htracks, hdiff⟩ := ih hnext
        rw [collapse_cons_of_belongs hbelongs]
        refine ⟨htracks, ?_⟩
        rw [hdiff, hvertices, diff_cons]

end

end Tracks

variable (devices : SharedDevices Ref) (auxId) (keep)

theorem deref_removeOrphanAuxPlaceholders :
    (removeOrphanAuxPlaceholders devices auxId (some keep)).deref =
      Function.update devices.deref keep
        (collapse auxId devices.deref (devices.deref keep) (placeholders devices keep)).1 := by
  have hstart : Tracks devices.deref keep (devices.deref keep)
      ⟨devices, (devices.deref keep).label, isCustomLabel (devices.deref keep).label⟩ :=
    ⟨(update_eq_self keep devices.deref).symm, rfl, rfl⟩
  exact (hstart.foldl_pruneOrphan auxId (devices.findByType .auxillary)).1.deref_eq

theorem vertices_removeOrphanAuxPlaceholders :
    (removeOrphanAuxPlaceholders devices auxId (some keep)).vertices =
      devices.vertices.filter fun ref => decide (ref ∉
        (collapse auxId devices.deref (devices.deref keep) (placeholders devices keep)).2) := by
  have hstart : Tracks devices.deref keep (devices.deref keep)
      ⟨devices, (devices.deref keep).label, isCustomLabel (devices.deref keep).label⟩ :=
    ⟨(update_eq_self keep devices.deref).symm, rfl, rfl⟩
  have hdiff := (hstart.foldl_pruneOrphan auxId (devices.findByType .auxillary)).2
  exact hdiff.trans devices.nodup.sdiff_eq_filter

end

end AqualinkAutomate.Auxillaries
