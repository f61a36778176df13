import Aqualink.Auxillaries.Devices

/-!
# Overrides of the presence

An operator can say that a relay is there or is not there.  `getPresenceOverride` looks a relay
up by its name, and `applyPresenceOverrides` goes through the entries and takes each key for a
relay that is spelled so.  It makes a device for a relay that has none, and removes the device of
a relay that has one.

Each entry that names a relay is an action on it (`actionsOf`).  What a relay ends up with is
worked out relay by relay: an action leaves the devices of the other relays alone, taking away
shortens the list of the devices of the relay, and making a device works as long as no device
stands in its way (`withId_applyAction`).  A device stands in the way if it has the name of the
relay for its label, and only taking away helps against that (`leftover_append_extras`).

`agrees_iff` says for which overrides and devices the two functions agree.
-/

namespace AqualinkAutomate.Auxillaries

open Equipment hiding AuxillaryDevice DevicesGraph
open General List Option

/-! ## The functions -/

inductive AuxPresenceOverride where
  | auto | present | absent
  deriving DecidableEq

def getPresenceOverride (id : JandyAuxillaryIds) (overrides : Json) : AuxPresenceOverride :=
  match overrides.text? (enumName id) with
  | some value =>
    if value = "present" then .present else if value = "absent" then .absent else .auto
  | none => .auto

section

variable (deriveStableUuid : String → Uuid)

def applyEntry (state : DevicesGraph × ℕ) (entry : String × Json) : DevicesGraph × ℕ :=
  match entry.2 with
  | .string value =>
    match parseAuxId entry.1 with
    | some auxId =>
      if value = "present" then
        match state.1.findById (auxStableId deriveStableUuid auxId) with
        | some _ => state
        | none =>
          let device :=
            { AuxillaryDevice.create deriveStableUuid auxId with synthesized := true }
          (state.1.add device, state.2 + 1)
      else if value = "absent" then
        match state.1.findById (auxStableId deriveStableUuid auxId) with
        | some _ => (state.1.removeById (auxStableId deriveStableUuid auxId), state.2 + 1)
        | none => state
      else state
    | none => state
  | _ => state

def applyPresenceOverrides (graph : DevicesGraph) (overrides : Json) : DevicesGraph × ℕ :=
  match overrides with
  | .object entries => entries.foldl (applyEntry deriveStableUuid) (graph, 0)
  | _ => (graph, 0)

end

/-! ## Actions -/

/-- A relay, and whether it is to be there. -/
structure Action where
  auxId : JandyAuxillaryIds
  wanted : Bool
  deriving DecidableEq

def actionOf (entry : String × Json) : Option Action :=
  match entry.2 with
  | .string value =>
    (parseAuxId entry.1).bind fun auxId =>
      if value = "present" then some ⟨auxId, true⟩
      else if value = "absent" then some ⟨auxId, false⟩
      else none
  | _ => none

def actionsOf : Json → List Action
  | .object entries => entries.filterMap actionOf
  | _ => []

/-- What is to be done with a relay, in the order of the entries. -/
def wantedOf (id : JandyAuxillaryIds) (actions : List Action) : List Bool :=
  (actions.filter fun action => action.auxId == id).map Action.wanted

section

variable (deriveStableUuid : String → Uuid)

def synthesizedDevice (id : JandyAuxillaryIds) : AuxillaryDevice :=
  { AuxillaryDevice.create deriveStableUuid id with synthesized := true }

def devicesOf (id : JandyAuxillaryIds) (graph : DevicesGraph) : List AuxillaryDevice :=
  graph.withId (auxStableId deriveStableUuid id)

def applyAction (state : DevicesGraph × ℕ) (action : Action) : DevicesGraph × ℕ :=
  match action.wanted, devicesOf deriveStableUuid action.auxId state.1 with
  | true, [] => (state.1.add (synthesizedDevice deriveStableUuid action.auxId), state.2 + 1)
  | false, _ :: _ =>
    (state.1.removeById (auxStableId deriveStableUuid action.auxId), state.2 + 1)
  | _, _ => state

theorem applyEntry_eq (state : DevicesGraph × ℕ) (entry : String × Json) :
    applyEntry deriveStableUuid state entry =
      ((actionOf entry).map (applyAction deriveStableUuid state)).getD state := by
  obtain ⟨key, value⟩ := entry
  cases value with
  | string value =>
    simp only [applyEntry, actionOf]
    cases parseAuxId key with
    | none => rfl
    | some auxId =>
      simp only [DevicesGraph.findById_eq_head?, bind_some]
      by_cases hpresent : value = "present"
      · rw [if_pos hpresent, if_pos hpresent, map_some, getD_some, applyAction]
        cases hdevices : devicesOf deriveStableUuid auxId state.1 with
        | nil =>
          unfold devicesOf at hdevices
          rw [hdevices]
          rfl
        | cons device devices =>
          unfold devicesOf at hdevices
          rw [hdevices]
          rfl
      · rw [if_neg hpresent, if_neg hpresent]
        by_cases habsent : value = "absent"
        · rw [if_pos habsent, if_pos habsent, map_some, getD_some, applyAction]
          cases hdevices : devicesOf deriveStableUuid auxId state.1 with
          | nil =>
            unfold devicesOf at hdevices
            rw [hdevices]
            rfl
          | cons device devices =>
            unfold devicesOf at hdevices
            rw [hdevices]
            rfl
        · rw [if_neg habsent, if_neg habsent]
          rfl
  | null | bool | integer | float | array | object => rfl

/-- The entries that name no relay, or say something else of it, are passed over. -/
theorem applyPresenceOverrides_eq (graph : DevicesGraph) (overrides : Json) :
    applyPresenceOverrides deriveStableUuid graph overrides =
      (actionsOf overrides).foldl (applyAction deriveStableUuid) (graph, 0) := by
  cases overrides with
  | object entries =>
    unfold applyPresenceOverrides actionsOf
    dsimp only
    generalize (graph, 0) = state
    induction entries generalizing state with
    | nil => rfl
    | cons entry entries ih =>
      rw [foldl_cons, ih, applyEntry_eq]
      cases haction : actionOf entry with
      | none => rw [filterMap_cons_none haction]; rfl
      | some action => rw [filterMap_cons_some haction]; rfl
  | null | bool | integer | float | string | array => rfl

end

/-! ## What stands in the way -/

section

variable {deriveStableUuid : String → Uuid} {id other : JandyAuxillaryIds} {graph : DevicesGraph}
variable {actions : List Action} {action : Action} {state : DevicesGraph × ℕ}
variable (hstable : Function.Injective (auxStableId deriveStableUuid))

def IsNamesake (id : JandyAuxillaryIds) (device : AuxillaryDevice) : Prop :=
  device.type = some .auxillary ∧ device.label = some (enumName id)

instance (id : JandyAuxillaryIds) (device : AuxillaryDevice) : Decidable (IsNamesake id device) :=
  inferInstanceAs (Decidable (_ ∧ _))

theorem devicesOf_synthesizedDevice (deriveStableUuid : String → Uuid) (id : JandyAuxillaryIds) :
    devicesOf deriveStableUuid id [synthesizedDevice deriveStableUuid id] =
      [synthesizedDevice deriveStableUuid id] := by
  simp [devicesOf, DevicesGraph.withId, synthesizedDevice, AuxillaryDevice.create]

theorem isNamesake_synthesizedDevice :
    IsNamesake id (synthesizedDevice deriveStableUuid other) ↔ other = id := by
  constructor
  · rintro ⟨-, hlabel⟩
    exact enumName_injective (Option.some.inj hlabel)
  · rintro rfl
    exact ⟨rfl, rfl⟩

theorem equals_synthesizedDevice {device : AuxillaryDevice}
    (hid : device.id ≠ auxStableId deriveStableUuid id) :
    device.equals (synthesizedDevice deriveStableUuid id) ↔ IsNamesake id device := by
  have hne : (device.id == auxStableId deriveStableUuid id) = false :=
    beq_eq_false_iff_ne.mpr hid
  unfold AuxillaryDevice.equals EquipmentCache.AuxillaryDevice.equals IsNamesake
  cases htype : device.type with
  | none => simp [synthesizedDevice, AuxillaryDevice.create, hne]
  | some type =>
    cases hlabel : device.label with
    | none => simp [synthesizedDevice, AuxillaryDevice.create, hne]
    | some label => simp [synthesizedDevice, AuxillaryDevice.create]

theorem add_synthesizedDevice (hnone : devicesOf deriveStableUuid id graph = []) :
    graph.add (synthesizedDevice deriveStableUuid id) =
      if ∃ device ∈ graph, IsNamesake id device then graph
      else graph ++ [synthesizedDevice deriveStableUuid id] := by
  have hid : ∀ device ∈ graph, device.id ≠ auxStableId deriveStableUuid id := by
    intro device hmem heq
    exact (List.filter_eq_nil_iff.mp hnone) device hmem (beq_iff_eq.mpr heq)
  unfold DevicesGraph.add
  split_ifs with hnamesake
  · obtain ⟨device, hmem, hdevice⟩ := hnamesake
    exact insertAbsent_of_clash (List.any_eq_true.mpr
      ⟨device, hmem, (equals_synthesizedDevice (hid device hmem)).mpr hdevice⟩)
  · refine insertAbsent_of_forall fun device hmem => Bool.eq_false_iff.mpr fun hequals => ?_
    exact hnamesake ⟨device, hmem, (equals_synthesizedDevice (hid device hmem)).mp hequals⟩

/-! ## One action -/

theorem applyAction_cases (deriveStableUuid : String → Uuid) (state : DevicesGraph × ℕ)
    (action : Action) :
    (action.wanted ∧ devicesOf deriveStableUuid action.auxId state.1 = [] ∧
        applyAction deriveStableUuid state action =
          (state.1.add (synthesizedDevice deriveStableUuid action.auxId), state.2 + 1)) ∨
      (action.wanted = false ∧ devicesOf deriveStableUuid action.auxId state.1 ≠ [] ∧
        applyAction deriveStableUuid state action =
          (state.1.removeById (auxStableId deriveStableUuid action.auxId), state.2 + 1)) ∨
      ((action.wanted ↔ devicesOf deriveStableUuid action.auxId state.1 ≠ []) ∧
        applyAction deriveStableUuid state action = state) := by
  unfold applyAction
  cases action.wanted <;> cases devicesOf deriveStableUuid action.auxId state.1 <;> simp

theorem devicesOf_append_of_ne (hne : auxStableId deriveStableUuid other ≠
    auxStableId deriveStableUuid id) :
    devicesOf deriveStableUuid id (graph ++ [synthesizedDevice deriveStableUuid other]) =
      devicesOf deriveStableUuid id graph := by
  have hid : (auxStableId deriveStableUuid other == auxStableId deriveStableUuid id) = false :=
    beq_eq_false_iff_ne.mpr hne
  unfold devicesOf
  rw [DevicesGraph.withId_append]
  simp [DevicesGraph.withId, synthesizedDevice, AuxillaryDevice.create, hid]

include hstable in
theorem devicesOf_applyAction_of_ne (hne : action.auxId ≠ id) (state : DevicesGraph × ℕ) :
    devicesOf deriveStableUuid id (applyAction deriveStableUuid state action).1 =
      devicesOf deriveStableUuid id state.1 := by
  have hid : auxStableId deriveStableUuid action.auxId ≠ auxStableId deriveStableUuid id :=
    fun heq => hne (hstable heq)
  obtain ⟨-, hnone, happly⟩ | ⟨-, -, happly⟩ | ⟨-, happly⟩ :=
    applyAction_cases deriveStableUuid state action <;> rw [happly]
  · rw [add_synthesizedDevice hnone]
    split_ifs
    · rfl
    · exact devicesOf_append_of_ne hid
  · exact DevicesGraph.withId_removeById_of_ne hid state.1

theorem devicesOf_applyAction_absent (state : DevicesGraph × ℕ) :
    devicesOf deriveStableUuid id (applyAction deriveStableUuid state ⟨id, false⟩).1 =
      (devicesOf deriveStableUuid id state.1).tail := by
  obtain ⟨hwanted, -⟩ | ⟨-, -, happly⟩ | ⟨hquiet, happly⟩ :=
    applyAction_cases deriveStableUuid state ⟨id, false⟩
  · cases hwanted
  · rw [happly]
    exact DevicesGraph.withId_removeById state.1 _
  · rw [happly]
    have hnone : devicesOf deriveStableUuid id state.1 = [] := by
      by_contra hsome
      exact Bool.false_ne_true (hquiet.mpr hsome)
    rw [hnone]
    rfl

theorem devicesOf_applyAction_present (state : DevicesGraph × ℕ) :
    devicesOf deriveStableUuid id (applyAction deriveStableUuid state ⟨id, true⟩).1 =
      if devicesOf deriveStableUuid id state.1 = [] then
        if ∃ device ∈ state.1, IsNamesake id device then []
        else [synthesizedDevice deriveStableUuid id]
      else devicesOf deriveStableUuid id state.1 := by
  obtain ⟨-, hnone, happly⟩ | ⟨hwanted, -⟩ | ⟨hquiet, happly⟩ :=
    applyAction_cases deriveStableUuid state ⟨id, true⟩
  · rw [happly, if_pos hnone, add_synthesizedDevice hnone]
    split_ifs
    · exact hnone
    · have hdevices := DevicesGraph.withId_append state.1
        [synthesizedDevice deriveStableUuid id] (auxStableId deriveStableUuid id)
      have hadded := devicesOf_synthesizedDevice deriveStableUuid id
      unfold devicesOf at hnone hadded ⊢
      rw [hdevices, hnone, hadded, nil_append]
  · cases hwanted
  · rw [happly, if_neg (hquiet.mp rfl)]

/-! ## Runs -/

def after (deriveStableUuid : String → Uuid) (actions : List Action) (graph : DevicesGraph) :
    DevicesGraph :=
  (actions.foldl (applyAction deriveStableUuid) (graph, 0)).1

/-- What is left of the devices if only taking away is done. -/
def leftover (deriveStableUuid : String → Uuid) (actions : List Action) (graph : DevicesGraph) :
    DevicesGraph :=
  actions.foldl (fun graph action =>
    if action.wanted then graph
    else graph.removeById (auxStableId deriveStableUuid action.auxId)) graph

theorem after_concat (actions : List Action) (action : Action) (graph : DevicesGraph) :
    after deriveStableUuid (actions ++ [action]) graph =
      (applyAction deriveStableUuid (actions.foldl (applyAction deriveStableUuid) (graph, 0))
        action).1 := by
  rw [after, foldl_append]
  rfl

theorem wantedOf_concat_of_ne (hne : action.auxId ≠ id) (actions : List Action) :
    wantedOf id (actions ++ [action]) = wantedOf id actions := by
  have hid : (action.auxId == id) = false := beq_eq_false_iff_ne.mpr hne
  simp [wantedOf, hid]

theorem wantedOf_concat (actions : List Action) (wanted : Bool) :
    wantedOf id (actions ++ [⟨id, wanted⟩]) = wantedOf id actions ++ [wanted] := by
  simp [wantedOf]

include hstable in
theorem devicesOf_after_of_absent (h : ∀ wanted ∈ wantedOf id actions, wanted = false)
    (graph : DevicesGraph) :
    devicesOf deriveStableUuid id (after deriveStableUuid actions graph) =
      (devicesOf deriveStableUuid id graph).drop (wantedOf id actions).length := by
  induction actions using reverseRecOn with
  | nil => rfl
  | append_singleton actions action ih =>
    rw [after_concat]
    by_cases hid : action.auxId = id
    · obtain ⟨auxId, wanted⟩ := action
      obtain rfl : auxId = id := hid
      rw [wantedOf_concat] at h ⊢
      obtain rfl : wanted = false := h wanted (mem_append_right _ mem_cons_self)
      rw [devicesOf_applyAction_absent, length_append, length_singleton, ← tail_drop]
      exact congrArg List.tail (ih fun wanted hmem => h wanted (mem_append_left _ hmem))
    · rw [wantedOf_concat_of_ne hid] at h ⊢
      rw [devicesOf_applyAction_of_ne hstable hid]
      exact ih h

include hstable in
theorem devicesOf_after_of_present (h : ∀ wanted ∈ wantedOf id actions, wanted = true)
    (hsome : devicesOf deriveStableUuid id graph ≠ []) :
    devicesOf deriveStableUuid id (after deriveStableUuid actions graph) =
      devicesOf deriveStableUuid id graph := by
  induction actions using reverseRecOn with
  | nil => rfl
  | append_singleton actions action ih =>
    rw [after_concat]
    by_cases hid : action.auxId = id
    · obtain ⟨auxId, wanted⟩ := action
      obtain rfl : auxId = id := hid
      rw [wantedOf_concat] at h
      obtain rfl : wanted = true := h wanted (mem_append_right _ mem_cons_self)
      have hbefore := ih fun wanted hmem => h wanted (mem_append_left _ hmem)
      unfold after at hbefore
      rw [devicesOf_applyAction_present, hbefore, if_neg hsome]
    · rw [wantedOf_concat_of_ne hid] at h
      rw [devicesOf_applyAction_of_ne hstable hid]
      exact ih h

theorem leftover_concat (actions : List Action) (action : Action) (graph : DevicesGraph) :
    leftover deriveStableUuid (actions ++ [action]) graph =
      if action.wanted then leftover deriveStableUuid actions graph
      else (leftover deriveStableUuid actions graph).removeById
        (auxStableId deriveStableUuid action.auxId) := by
  rw [leftover, foldl_append]
  rfl

theorem devicesOf_removeById_eq_nil (uuid : Uuid) (h : devicesOf deriveStableUuid id graph = []) :
    devicesOf deriveStableUuid id (graph.removeById uuid) = [] := by
  have hsub : (devicesOf deriveStableUuid id (graph.removeById uuid)).Sublist
      (devicesOf deriveStableUuid id graph) := List.eraseP_sublist.filter _
  rw [h] at hsub
  exact List.sublist_nil.mp hsub

/-- The run leaves what taking away leaves, and behind it devices that were made for relays that
have none left. -/
theorem leftover_append_extras (deriveStableUuid : String → Uuid) (actions : List Action)
    (graph : DevicesGraph) :
    ∃ extras : DevicesGraph,
      after deriveStableUuid actions graph = leftover deriveStableUuid actions graph ++ extras ∧
        ∀ device ∈ extras, ∃ made, device = synthesizedDevice deriveStableUuid made ∧
          devicesOf deriveStableUuid made (leftover deriveStableUuid actions graph) = [] := by
  induction actions using reverseRecOn with
  | nil => exact ⟨[], (append_nil graph).symm, fun _ hmem => absurd hmem not_mem_nil⟩
  | append_singleton actions action ih =>
    obtain ⟨extras, hafter, hextras⟩ := ih
    rw [after_concat, leftover_concat]
    obtain ⟨hwanted, hnone, happly⟩ | ⟨hwanted, -, happly⟩ | ⟨hquiet, happly⟩ :=
      applyAction_cases deriveStableUuid (actions.foldl (applyAction deriveStableUuid) (graph, 0))
        action
    -- a device is made, if nothing stands in its way
    · change devicesOf deriveStableUuid action.auxId (after deriveStableUuid actions graph) = []
        at hnone
      rw [happly, if_pos hwanted]
      change ∃ extras, (after deriveStableUuid actions graph).add _ = _ ∧ _
      rw [add_synthesizedDevice hnone, hafter]
      split_ifs
      · exact ⟨extras, rfl, hextras⟩
      · refine ⟨extras ++ [synthesizedDevice deriveStableUuid action.auxId], append_assoc .., ?_⟩
        intro device hmem
        rcases List.mem_append.mp hmem with hmem | hmem
        · exact hextras device hmem
        · refine ⟨action.auxId, List.mem_singleton.mp hmem, ?_⟩
          rw [hafter, devicesOf, DevicesGraph.withId_append] at hnone
          exact (List.append_eq_nil_iff.mp hnone).1
    -- the first device is taken away, which is left from before if one is
    · rw [happly, if_neg (by rw [hwanted]; exact Bool.false_ne_true)]
      change ∃ extras, (after deriveStableUuid actions graph).removeById _ = _ ∧ _
      rw [hafter]
      have hkept : ∀ device ∈ extras, ∃ made,
          device = synthesizedDevice deriveStableUuid made ∧
            devicesOf deriveStableUuid made ((leftover deriveStableUuid actions graph).removeById
              (auxStableId deriveStableUuid action.auxId)) = [] := by
        intro device hmem
        obtain ⟨made, hmade, hgone⟩ := hextras device hmem
        exact ⟨made, hmade, devicesOf_removeById_eq_nil _ hgone⟩
      by_cases hleft : devicesOf deriveStableUuid action.auxId
          (leftover deriveStableUuid actions graph) = []
      · refine ⟨extras.removeById (auxStableId deriveStableUuid action.auxId), ?_, ?_⟩
        · rw [DevicesGraph.removeById_of_withId_eq_nil hleft]
          exact eraseP_append_right _ fun device hmem hid =>
            (List.filter_eq_nil_iff.mp hleft) device hmem hid
        · exact fun device hmem => hkept device (List.eraseP_sublist.subset hmem)
      · refine ⟨extras, ?_, hkept⟩
        obtain ⟨device, hdevice⟩ := exists_mem_of_ne_nil _ hleft
        obtain ⟨hmem, hid⟩ := List.mem_filter.mp hdevice
        exact eraseP_append_left (p := fun device : AuxillaryDevice =>
          device.id == auxStableId deriveStableUuid action.auxId) hid _ hmem
    -- nothing is done
    · rw [happly]
      change ∃ extras, after deriveStableUuid actions graph = _ ∧ _
      cases hwanted : action.wanted with
      | true => exact ⟨extras, hafter, hextras⟩
      | false =>
        have hnone : devicesOf deriveStableUuid action.auxId
            (after deriveStableUuid actions graph) = [] := by
          by_contra hsome
          rw [hwanted] at hquiet
          exact Bool.false_ne_true (hquiet.mpr hsome)
        rw [hafter, devicesOf, DevicesGraph.withId_append] at hnone
        have hleft := (List.append_eq_nil_iff.mp hnone).1
        rw [if_neg Bool.false_ne_true, DevicesGraph.removeById_of_withId_eq_nil hleft]
        exact ⟨extras, hafter, hextras⟩

/-- A relay that is wanted has no namesake left when one of its actions comes. -/
def HasRoom (deriveStableUuid : String → Uuid) (id : JandyAuxillaryIds) (actions : List Action)
    (graph : DevicesGraph) : Prop :=
  ∃ before rest, actions = before ++ ⟨id, true⟩ :: rest ∧
    ∀ device ∈ leftover deriveStableUuid before graph, ¬ IsNamesake id device

theorem exists_namesake_after (hnone : devicesOf deriveStableUuid id
    (after deriveStableUuid actions graph) = []) :
    (∃ device ∈ after deriveStableUuid actions graph, IsNamesake id device) ↔
      ∃ device ∈ leftover deriveStableUuid actions graph, IsNamesake id device := by
  obtain ⟨extras, hafter, hextras⟩ := leftover_append_extras deriveStableUuid actions graph
  rw [hafter] at hnone ⊢
  constructor
  · rintro ⟨device, hmem, hnamesake⟩
    rcases List.mem_append.mp hmem with hmem | hmem
    · exact ⟨device, hmem, hnamesake⟩
    · obtain ⟨made, rfl, -⟩ := hextras device hmem
      obtain rfl := isNamesake_synthesizedDevice.mp hnamesake
      have hmade : synthesizedDevice deriveStableUuid made ∈
          devicesOf deriveStableUuid made (leftover deriveStableUuid actions graph ++ extras) :=
        List.mem_filter.mpr ⟨mem_append_right _ hmem, beq_self_eq_true _⟩
      rw [hnone] at hmade
      exact absurd hmade not_mem_nil
  · rintro ⟨device, hmem, hnamesake⟩
    exact ⟨device, mem_append_left _ hmem, hnamesake⟩

include hstable in
theorem devicesOf_after_ne_nil_iff (h : ∀ wanted ∈ wantedOf id actions, wanted = true)
    (hnone : devicesOf deriveStableUuid id graph = []) :
    devicesOf deriveStableUuid id (after deriveStableUuid actions graph) ≠ [] ↔
      HasRoom deriveStableUuid id actions graph := by
  induction actions using reverseRecOn with
  | nil =>
    refine iff_of_false (fun hsome => hsome hnone) ?_
    rintro ⟨before, rest, hcut, -⟩
    simp at hcut
  | append_singleton actions action ih =>
    rw [after_concat]
    by_cases hid : action.auxId = id
    · obtain ⟨auxId, wanted⟩ := action
      obtain rfl : auxId = id := hid
      rw [wantedOf_concat] at h
      obtain rfl : wanted = true := h wanted (mem_append_right _ mem_cons_self)
      have hih := ih fun wanted hmem => h wanted (mem_append_left _ hmem)
      rw [devicesOf_applyAction_present]
      change (if devicesOf deriveStableUuid auxId (after deriveStableUuid actions graph) = [] then
        if ∃ device ∈ after deriveStableUuid actions graph, IsNamesake auxId device then []
        else [synthesizedDevice deriveStableUuid auxId]
        else devicesOf deriveStableUuid auxId (after deriveStableUuid actions graph)) ≠ [] ↔ _
      by_cases hbefore : devicesOf deriveStableUuid auxId
          (after deriveStableUuid actions graph) = []
      · have hroom : ¬ HasRoom deriveStableUuid auxId actions graph := fun hroom =>
          hih.mpr hroom hbefore
        rw [if_pos hbefore]
        split_ifs with hnamesake <;> rw [exists_namesake_after hbefore] at hnamesake
        · refine iff_of_false (fun hsome => hsome rfl) ?_
          rintro ⟨before, rest, hcut, hfree⟩
          obtain ⟨rfl, -, -⟩ | ⟨rest, rfl, hshort⟩ := concat_eq_append_cons_iff.mp hcut
          · obtain ⟨device, hmem, hdevice⟩ := hnamesake
            exact hfree device hmem hdevice
          · exact hroom ⟨before, rest, hshort, hfree⟩
        · refine iff_of_true (cons_ne_nil _ _) ⟨actions, [], rfl, ?_⟩
          intro device hmem hdevice
          exact hnamesake ⟨device, hmem, hdevice⟩
      · rw [if_neg hbefore]
        refine iff_of_true hbefore ?_
        obtain ⟨before, rest, rfl, hfree⟩ := hih.mp hbefore
        exact ⟨before, rest ++ [⟨auxId, true⟩], by simp, hfree⟩
    · rw [wantedOf_concat_of_ne hid] at h
      rw [devicesOf_applyAction_of_ne hstable hid]
      refine (ih h).trans ⟨?_, ?_⟩
      · rintro ⟨before, rest, rfl, hfree⟩
        exact ⟨before, rest ++ [action], by simp, hfree⟩
      · rintro ⟨before, rest, hcut, hfree⟩
        obtain ⟨-, rfl, -⟩ | ⟨rest, rfl, hshort⟩ := concat_eq_append_cons_iff.mp hcut
        · exact absurd rfl hid
        · exact ⟨before, rest, hshort, hfree⟩

/-! ## A second time -/

theorem count_le_foldl (deriveStableUuid : String → Uuid) (actions : List Action)
    (state : DevicesGraph × ℕ) :
    state.2 ≤ (actions.foldl (applyAction deriveStableUuid) state).2 := by
  induction actions generalizing state with
  | nil => exact le_rfl
  | cons action actions ih =>
    refine le_trans ?_ (ih (applyAction deriveStableUuid state action))
    obtain ⟨-, -, happly⟩ | ⟨-, -, happly⟩ | ⟨-, happly⟩ :=
      applyAction_cases deriveStableUuid state action <;> rw [happly]
    · exact Nat.le_succ _
    · exact Nat.le_succ _

/-- A run changes nothing if each relay that it wants is there and each other one that it names is
not. -/
theorem foldl_applyAction_eq_self_iff (actions : List Action) (state : DevicesGraph × ℕ) :
    actions.foldl (applyAction deriveStableUuid) state = state ↔
      ∀ action ∈ actions,
        (action.wanted ↔ devicesOf deriveStableUuid action.auxId state.1 ≠ []) := by
  induction actions generalizing state with
  | nil => exact iff_of_true rfl nofun
  | cons action actions ih =>
    have hcount := count_le_foldl deriveStableUuid actions
      (applyAction deriveStableUuid state action)
    rw [foldl_cons, forall_mem_cons]
    obtain ⟨hwanted, hnone, happly⟩ | ⟨hwanted, hsome, happly⟩ | ⟨hquiet, happly⟩ :=
      applyAction_cases deriveStableUuid state action
    · refine iff_of_false (fun heq => ?_) fun hall => hall.1.mp hwanted hnone
      rw [heq, happly] at hcount
      exact absurd hcount (Nat.not_succ_le_self state.2)
    · refine iff_of_false (fun heq => ?_) fun hall => ?_
      · rw [heq, happly] at hcount
        exact absurd hcount (Nat.not_succ_le_self state.2)
      · rw [hall.1.mpr hsome] at hwanted
        cases hwanted
    · rw [happly, ih state]
      exact ⟨fun hrest => ⟨hquiet, hrest⟩, fun hall => hall.2⟩

/-! ## Agreement -/

theorem mem_wantedOf {wanted : Bool} : wanted ∈ wantedOf id actions ↔ ⟨id, wanted⟩ ∈ actions := by
  unfold wantedOf
  constructor
  · intro hmem
    obtain ⟨action, haction, rfl⟩ := List.mem_map.mp hmem
    obtain ⟨haction, hid⟩ := List.mem_filter.mp haction
    rwa [← eq_of_beq hid]
  · intro hmem
    exact mem_map_of_mem (List.mem_filter.mpr ⟨hmem, beq_self_eq_true id⟩)

theorem mem_of_text? {json : Json} {key value : String} (h : json.text? key = some value) :
    ∃ entries, json = .object entries ∧ (key, Json.string value) ∈ entries := by
  cases json with
  | object entries =>
    refine ⟨entries, rfl, ?_⟩
    unfold Json.text? at h
    cases hmember : (Json.object entries).member key with
    | none =>
      rw [hmember] at h
      cases h
    | some found =>
      rw [hmember] at h
      obtain rfl : found = .string value := by
        cases found with
        | string text => exact congrArg Json.string (Option.some.inj h)
        | null | bool | integer | float | array | object => cases h
      obtain ⟨entry, hentry, hfound⟩ := Option.map_eq_some_iff.mp hmember
      have hkey := find?_some hentry
      have hsame : entry = (key, .string value) := Prod.ext (eq_of_beq hkey) hfound
      rw [← hsame]
      exact mem_of_find?_eq_some hentry
  | null | bool | integer | float | string | array => cases h

variable {overrides : Json}

theorem mem_wantedOf_of_text {value : String} {wanted : Bool}
    (h : overrides.text? (enumName id) = some value)
    (haction : actionOf (enumName id, .string value) = some ⟨id, wanted⟩) :
    wanted ∈ wantedOf id (actionsOf overrides) := by
  obtain ⟨entries, rfl, hmem⟩ := mem_of_text? h
  rw [mem_wantedOf]
  exact List.mem_filterMap.mpr ⟨_, hmem, haction⟩

theorem text_of_getPresenceOverride {override : AuxPresenceOverride}
    (h : getPresenceOverride id overrides = override) (hne : override ≠ .auto) :
    overrides.text? (enumName id) = some (if override = .present then "present" else "absent") := by
  unfold getPresenceOverride at h
  subst h
  cases htext : overrides.text? (enumName id) with
  | none =>
    rw [htext] at hne
    exact absurd rfl hne
  | some value =>
    rw [htext] at hne
    dsimp only at hne ⊢
    split_ifs at hne ⊢ <;> simp_all

theorem mem_wantedOf_of_present (h : getPresenceOverride id overrides = .present) :
    true ∈ wantedOf id (actionsOf overrides) :=
  mem_wantedOf_of_text (text_of_getPresenceOverride h nofun)
    (by simp [actionOf, parseAuxId_enumName])

theorem mem_wantedOf_of_absent (h : getPresenceOverride id overrides = .absent) :
    false ∈ wantedOf id (actionsOf overrides) :=
  mem_wantedOf_of_text (text_of_getPresenceOverride h nofun)
    (by simp [actionOf, parseAuxId_enumName])

end

/-- What the two functions are to do with each other. -/
structure Agrees (deriveStableUuid : String → Uuid) (overrides : Json) (graph : DevicesGraph) :
    Prop where
  absent : ∀ id, getPresenceOverride id overrides = .absent →
    devicesOf deriveStableUuid id
      (applyPresenceOverrides deriveStableUuid graph overrides).1 = []
  present : ∀ id, getPresenceOverride id overrides = .present →
    devicesOf deriveStableUuid id
      (applyPresenceOverrides deriveStableUuid graph overrides).1 ≠ []
  auto : ∀ id, getPresenceOverride id overrides = .auto →
    devicesOf deriveStableUuid id
        (applyPresenceOverrides deriveStableUuid graph overrides).1 =
      devicesOf deriveStableUuid id graph
  again : applyPresenceOverrides deriveStableUuid
      (applyPresenceOverrides deriveStableUuid graph overrides).1 overrides =
    ((applyPresenceOverrides deriveStableUuid graph overrides).1, 0)

/-- What is said of a relay, in any spelling: nothing; or only that it is absent, as often as it
has devices and, if it has one, under its name; or only that it is present, with a device there,
or under its name and with room for one. -/
def Settled (deriveStableUuid : String → Uuid) (overrides : Json) (graph : DevicesGraph)
    (id : JandyAuxillaryIds) : Prop :=
  let wanted := wantedOf id (actionsOf overrides)
  let devices := devicesOf deriveStableUuid id graph
  wanted = [] ∨
    ((∀ present ∈ wanted, present = false) ∧ devices.length ≤ wanted.length ∧
      (devices = [] ∨ getPresenceOverride id overrides = .absent)) ∨
    ((∀ present ∈ wanted, present = true) ∧
      (devices ≠ [] ∨ (getPresenceOverride id overrides = .present ∧
        HasRoom deriveStableUuid id (actionsOf overrides) graph)))

section

variable {deriveStableUuid : String → Uuid} {overrides : Json} {graph : DevicesGraph}

theorem applyPresenceOverrides_fst (graph : DevicesGraph) (overrides : Json) :
    (applyPresenceOverrides deriveStableUuid graph overrides).1 =
      after deriveStableUuid (actionsOf overrides) graph := by
  rw [applyPresenceOverrides_eq]
  rfl

theorem settled_of_agrees (hstable : Function.Injective (auxStableId deriveStableUuid))
    (h : Agrees deriveStableUuid overrides graph) (id : JandyAuxillaryIds) :
    Settled deriveStableUuid overrides graph id := by
  obtain ⟨habsent, hpresent, hauto, hagain⟩ := h
  simp only [applyPresenceOverrides_fst] at habsent hpresent hauto hagain
  rw [applyPresenceOverrides_eq, foldl_applyAction_eq_self_iff] at hagain
  by_cases hnone : wantedOf id (actionsOf overrides) = []
  · exact .inl hnone
  obtain ⟨first, hfirst⟩ := exists_mem_of_ne_nil _ hnone
  have hall : ∀ present ∈ wantedOf id (actionsOf overrides), (present ↔
      devicesOf deriveStableUuid id (after deriveStableUuid (actionsOf overrides) graph) ≠ []) :=
    fun present hmem => hagain _ (mem_wantedOf.mp hmem)
  right
  by_cases hgone : devicesOf deriveStableUuid id
      (after deriveStableUuid (actionsOf overrides) graph) = []
  -- the relay has no device in the end, so nothing that is said of it wants one
  · left
    have hfalse : ∀ present ∈ wantedOf id (actionsOf overrides), present = false := by
      intro present hmem
      exact Bool.eq_false_iff.mpr fun htrue => (hall present hmem).mp htrue hgone
    have hdrop := devicesOf_after_of_absent hstable hfalse graph
    rw [hgone] at hdrop
    refine ⟨hfalse, List.drop_eq_nil_iff.mp hdrop.symm, ?_⟩
    cases hget : getPresenceOverride id overrides with
    | absent => exact .inr rfl
    | present => exact absurd hgone (hpresent id hget)
    | auto => exact .inl ((hauto id hget).symm.trans hgone)
  -- the relay has a device in the end, so everything that is said of it wants one
  · right
    have htrue : ∀ present ∈ wantedOf id (actionsOf overrides), present :=
      fun present hmem => (hall present hmem).mpr hgone
    refine ⟨htrue, ?_⟩
    by_cases hnew : devicesOf deriveStableUuid id graph = []
    · right
      refine ⟨?_, (devicesOf_after_ne_nil_iff hstable htrue hnew).mp hgone⟩
      cases hget : getPresenceOverride id overrides with
      | present => rfl
      | absent => exact absurd (habsent id hget) hgone
      | auto => exact absurd ((hauto id hget).trans hnew) hgone
    · exact .inl hnew

theorem agrees_of_settled (hstable : Function.Injective (auxStableId deriveStableUuid))
    (h : ∀ id, Settled deriveStableUuid overrides graph id) :
    Agrees deriveStableUuid overrides graph := by
  -- what is said of a relay determines the devices that it ends up with
  have hcases : ∀ id, wantedOf id (actionsOf overrides) = [] ∧
        devicesOf deriveStableUuid id (after deriveStableUuid (actionsOf overrides) graph) =
          devicesOf deriveStableUuid id graph ∨
      (∀ present ∈ wantedOf id (actionsOf overrides), present = false) ∧
        devicesOf deriveStableUuid id (after deriveStableUuid (actionsOf overrides) graph) = [] ∧
        (devicesOf deriveStableUuid id graph = [] ∨ getPresenceOverride id overrides = .absent) ∨
      (∀ present ∈ wantedOf id (actionsOf overrides), present) ∧
        devicesOf deriveStableUuid id (after deriveStableUuid (actionsOf overrides) graph) ≠ [] ∧
        (devicesOf deriveStableUuid id (after deriveStableUuid (actionsOf overrides) graph) =
            devicesOf deriveStableUuid id graph ∨
          getPresenceOverride id overrides = .present) := by
    intro id
    obtain hnone | ⟨hfalse, hlength, hsaid⟩ | ⟨htrue, hsome | ⟨hget, hroom⟩⟩ := h id
    · left
      have hfalse : ∀ present ∈ wantedOf id (actionsOf overrides), present = false := by
        rw [hnone]
        exact fun present hmem => absurd hmem not_mem_nil
      have hkept := devicesOf_after_of_absent hstable hfalse graph
      rw [hnone] at hkept
      exact ⟨hnone, hkept⟩
    · right; left
      refine ⟨hfalse, ?_, hsaid⟩
      rw [devicesOf_after_of_absent hstable hfalse]
      exact drop_eq_nil_of_le hlength
    · right; right
      have hkept := devicesOf_after_of_present hstable htrue hsome
      exact ⟨htrue, by rw [hkept]; exact hsome, .inl hkept⟩
    · right; right
      by_cases hnew : devicesOf deriveStableUuid id graph = []
      · exact ⟨htrue, (devicesOf_after_ne_nil_iff hstable htrue hnew).mpr hroom, .inr hget⟩
      · have hkept := devicesOf_after_of_present hstable htrue hnew
        exact ⟨htrue, by rw [hkept]; exact hnew, .inl hkept⟩
  constructor
  · intro id hget
    have hmem := mem_wantedOf_of_absent hget
    rw [applyPresenceOverrides_fst]
    obtain ⟨hnone, -⟩ | ⟨-, hgone, -⟩ | ⟨htrue, -⟩ := hcases id
    · rw [hnone] at hmem
      cases hmem
    · exact hgone
    · exact absurd (htrue false hmem) Bool.false_ne_true
  · intro id hget
    have hmem := mem_wantedOf_of_present hget
    rw [applyPresenceOverrides_fst]
    obtain ⟨hnone, -⟩ | ⟨hfalse, -⟩ | ⟨-, hthere, -⟩ := hcases id
    · rw [hnone] at hmem
      cases hmem
    · exact absurd (hfalse true hmem).symm Bool.false_ne_true
    · exact hthere
  · intro id hget
    rw [applyPresenceOverrides_fst]
    obtain ⟨-, hkept⟩ | ⟨-, hgone, hnew | hsaid⟩ | ⟨-, -, hkept | hsaid⟩ := hcases id
    · exact hkept
    · rw [hgone, hnew]
    · rw [hget] at hsaid
      cases hsaid
    · exact hkept
    · rw [hget] at hsaid
      cases hsaid
  · rw [applyPresenceOverrides_fst, applyPresenceOverrides_eq, foldl_applyAction_eq_self_iff]
    rintro ⟨id, wanted⟩ haction
    have hmem := mem_wantedOf.mpr haction
    obtain ⟨hnone, -⟩ | ⟨hfalse, hgone, -⟩ | ⟨htrue, hthere, -⟩ := hcases id
    · rw [hnone] at hmem
      cases hmem
    · exact iff_of_false (by rw [hfalse wanted hmem]; exact Bool.false_ne_true)
        fun hsome => hsome hgone
    · exact iff_of_true (htrue wanted hmem) hthere

/-- **Overrides of the presence.**  Whatever the overrides and the devices are: after the
overrides are applied the relays that are looked up as absent have no device, the ones that are
looked up as present have one, the devices of the others are as before, and applying the
overrides again changes nothing, exactly if what is said of each relay, in any spelling, settles
it. -/
theorem agrees_iff (deriveStableUuid : String → Uuid)
    (hstable : Function.Injective (auxStableId deriveStableUuid)) (overrides : Json)
    (graph : DevicesGraph) :
    Agrees deriveStableUuid overrides graph ↔
      ∀ id, Settled deriveStableUuid overrides graph id :=
  ⟨settled_of_agrees hstable, agrees_of_settled hstable⟩

end

/-! ### The relay Aux5 -/

def aux5Uuid : Uuid :=
  #v[0xc4, 0x97, 0x67, 0x27, 0x91, 0xf6, 0x56, 0xff, 0x93, 0x7e, 0x07, 0x34, 0x32, 0x65, 0xff, 0x2f]

/-- The derivation on the key of Aux5, and the text of the key itself for the other relays. -/
def aux5Derivation (nativeKey : String) : Uuid :=
  if nativeKey = auxNativeKey .aux5 then aux5Uuid
  else Vector.ofFn fun i => UInt8.ofNat (nativeKey.toList.getD i.val ' ').toNat

theorem toList_auxNativeKey (id : JandyAuxillaryIds) :
    (auxNativeKey id).toList = "jandy:aux:".toList ++ Nat.toDigits 10 id.value := by
  rw [auxNativeKey, String.toList_append]
  exact congrArg _ Nat.toList_repr

def digitBytes (uuid : Uuid) : UInt8 × UInt8 := (uuid[10], uuid[11])

theorem digitBytes_auxStableId (id : JandyAuxillaryIds) :
    digitBytes (auxStableId aux5Derivation id) =
      if Nat.toDigits 10 id.value = Nat.toDigits 10 JandyAuxillaryIds.aux5.value then (0x07, 0x34)
      else
        (UInt8.ofNat ((Nat.toDigits 10 id.value).getD 0 ' ').toNat,
          UInt8.ofNat ((Nat.toDigits 10 id.value).getD 1 ' ').toNat) := by
  unfold auxStableId aux5Derivation
  simp only [← String.toList_inj, toList_auxNativeKey, append_cancel_left_eq]
  split
  · rfl
  · simp [digitBytes]

theorem aux5Derivation_injective : Function.Injective (auxStableId aux5Derivation) := by
  have hnodup : (JandyAuxillaryIds.all.map fun id =>
      digitBytes (auxStableId aux5Derivation id)).Nodup := by
    simp only [digitBytes_auxStableId]
    decide +kernel
  intro first second heq
  exact inj_on_of_nodup_map hnodup (EnumNames.mem_values first) (EnumNames.mem_values second)
    (congrArg digitBytes heq)

/-- Aux5 is taken away under its name. -/
theorem agrees_aux5_absent :
    Agrees aux5Derivation (.object [("Aux5", .string "absent")])
      [AuxillaryDevice.create aux5Derivation .aux5] := by
  refine (agrees_iff aux5Derivation aux5Derivation_injective _ _).mpr fun id => ?_
  by_cases hid : id = .aux5
  · subst hid
    exact .inr (.inl ⟨by decide +kernel, by decide +kernel, .inr (by decide +kernel)⟩)
  · left
    have hactions : actionsOf (.object [("Aux5", .string "absent")]) = [⟨.aux5, false⟩] := by
      rfl
    rw [hactions]
    simp [wantedOf, Ne.symm hid]

/-- Under another spelling Aux5 is taken away too, and yet nothing is said of it by its name. -/
theorem not_agrees_aux5_spelled :
    ¬ Agrees aux5Derivation (.object [("Aux 5", .string "absent")])
      [AuxillaryDevice.create aux5Derivation .aux5] := by
  intro h
  have hauto := h.auto .aux5 (by decide)
  exact absurd hauto (by decide +kernel)

end AqualinkAutomate.Auxillaries
