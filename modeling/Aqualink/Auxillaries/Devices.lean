import Aqualink.EquipmentCache.Snapshot

/-!
# The devices of the relays

A relay has one identity under all spellings of its name, and the device of the relay has the
UUID that is derived from it.  Two devices count as equal by their type and label, or else by
their UUID, and a graph takes no device that it has an equal one of.
-/

namespace AqualinkAutomate.Auxillaries

open Equipment hiding AuxillaryDevice DevicesGraph
open General List

/-- The names of the relays, which are also their hardware labels. -/
instance : EnumNames JandyAuxillaryIds where
  values := JandyAuxillaryIds.all
  enumName
    | .extraAux => "Extra Aux"
    | .aux1 => "Aux1"
    | .aux2 => "Aux2"
    | .aux3 => "Aux3"
    | .aux4 => "Aux4"
    | .aux5 => "Aux5"
    | .aux6 => "Aux6"
    | .aux7 => "Aux7"
    | .auxB1 => "Aux B1"
    | .auxB2 => "Aux B2"
    | .auxB3 => "Aux B3"
    | .auxB4 => "Aux B4"
    | .auxB5 => "Aux B5"
    | .auxB6 => "Aux B6"
    | .auxB7 => "Aux B7"
    | .auxB8 => "Aux B8"
    | .auxC1 => "Aux C1"
    | .auxC2 => "Aux C2"
    | .auxC3 => "Aux C3"
    | .auxC4 => "Aux C4"
    | .auxC5 => "Aux C5"
    | .auxC6 => "Aux C6"
    | .auxC7 => "Aux C7"
    | .auxC8 => "Aux C8"
    | .auxD1 => "Aux D1"
    | .auxD2 => "Aux D2"
    | .auxD3 => "Aux D3"
    | .auxD4 => "Aux D4"
    | .auxD5 => "Aux D5"
    | .auxD6 => "Aux D6"
    | .auxD7 => "Aux D7"
    | .auxD8 => "Aux D8"
  mem_values id := by cases id <;> decide
  nodup_names := by decide +kernel

theorem parseAuxId_enumName (id : JandyAuxillaryIds) : parseAuxId (enumName id) = some id := by
  cases id <;> decide +kernel

/-- The UUID of the device of a relay. -/
def auxStableId (deriveStableUuid : String → Uuid) (id : JandyAuxillaryIds) : Uuid :=
  deriveStableUuid (auxNativeKey id)

structure AuxillaryDevice extends EquipmentCache.AuxillaryDevice where
  /-- The identity that only a device has that was seen on the wire or made for a relay. -/
  jandyAuxillaryId : Option JandyAuxillaryIds := none
  status : Option AuxillaryStatuses := none
  /-- It is there because it was asked for, and nothing on the wire has confirmed it. -/
  synthesized : Bool := false
  deriving DecidableEq

namespace AuxillaryDevice

/-- `operator==` -/
def equals (device other : AuxillaryDevice) : Bool :=
  device.toAuxillaryDevice.equals other.toAuxillaryDevice

/-- `SerialAdapterDevice_CreateDevice`: a device that nothing is known of but its relay. -/
def create (deriveStableUuid : String → Uuid) (id : JandyAuxillaryIds) : AuxillaryDevice where
  id := auxStableId deriveStableUuid id
  type := some .auxillary
  label := some (enumName id)
  jandyAuxillaryId := some id
  hardwareLabel := some (enumName id)
  status := some .unknown

end AuxillaryDevice

/-! ## The graph -/

section

variable {α : Type*} {p q : α → Bool}

theorem filter_eraseP_self (p : α → Bool) (l : List α) :
    (l.eraseP p).filter p = (l.filter p).tail := by
  induction l with
  | nil => rfl
  | cons a l ih =>
    cases hp : p a with
    | true => simp [hp]
    | false => simpa [hp] using ih

theorem filter_eraseP_of_disjoint (h : ∀ a, q a → p a = false) (l : List α) :
    (l.eraseP q).filter p = l.filter p := by
  induction l with
  | nil => rfl
  | cons a l ih =>
    cases hq : q a with
    | true => simp [hq, h a hq]
    | false => simp [hq, filter_cons, ih]

end

/-- The devices in the order of the vertices. -/
abbrev DevicesGraph : Type := List AuxillaryDevice

namespace DevicesGraph

def findById (graph : DevicesGraph) (id : Uuid) : Option AuxillaryDevice :=
  List.find? (fun device => device.id == id) graph

def add (graph : DevicesGraph) (device : AuxillaryDevice) : DevicesGraph :=
  insertAbsent AuxillaryDevice.equals graph device

/-- Remove the device that `findById` finds. -/
def removeById (graph : DevicesGraph) (id : Uuid) : DevicesGraph :=
  eraseP (fun device => device.id == id) graph

def withId (graph : DevicesGraph) (id : Uuid) : DevicesGraph :=
  filter (fun device => device.id == id) graph

variable {graph other : DevicesGraph} {id : Uuid}

theorem findById_eq_head? (graph : DevicesGraph) (id : Uuid) :
    graph.findById id = (graph.withId id).head? := by
  rw [findById, withId, head?_filter]

theorem withId_append (graph other : DevicesGraph) (id : Uuid) :
    withId (graph ++ other) id = graph.withId id ++ other.withId id :=
  filter_append ..

theorem withId_removeById (graph : DevicesGraph) (id : Uuid) :
    (graph.removeById id).withId id = (graph.withId id).tail :=
  filter_eraseP_self (fun device : AuxillaryDevice => device.id == id) graph

theorem withId_removeById_of_ne {removed : Uuid} (hne : removed ≠ id) (graph : DevicesGraph) :
    (graph.removeById removed).withId id = graph.withId id := by
  refine filter_eraseP_of_disjoint (fun device hremoved => ?_) graph
  rw [beq_iff_eq] at hremoved
  rw [hremoved]
  exact beq_eq_false_iff_ne.mpr hne

theorem removeById_of_withId_eq_nil (h : graph.withId id = []) : graph.removeById id = graph := by
  refine eraseP_of_forall_not fun device hmem hid => ?_
  exact (List.filter_eq_nil_iff.mp h) device hmem hid

end DevicesGraph

end AqualinkAutomate.Auxillaries
