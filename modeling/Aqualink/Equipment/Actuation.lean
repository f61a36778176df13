import Mathlib.Data.List.Sort
import Aqualink.General.Texts
import Aqualink.Navigation.MenuModel

/-!
# Asking a controller to act

The words in which the panels are asked to act on the equipment, and in which they answer,
and the traits of a device that tell whether it is on.
-/

namespace AqualinkAutomate.Equipment

open General Navigation

inductive ActuationAction where
  | on | off | toggle
  deriving DecidableEq

inductive ActuationResult where
  | accepted | notSupported | invalidValue | mappingFailed | busy
  deriving DecidableEq

inductive BodyOfWaterIds where
  | pool | spa | shared | unknown
  deriving DecidableEq

inductive AuxillaryTypes where
  | auxillary | chlorinator | cleaner | heater | light | pump | spillover | sprinkler | unknown
  deriving DecidableEq

inductive AuxillaryStatuses where
  | on | off | enabled | pending | unknown
  deriving DecidableEq

inductive PumpStatuses where
  | off | running | notInstalled | unknown
  deriving DecidableEq

/-- What is known about a device. -/
structure AuxillaryTraits where
  label : Option Text := none
  type : Option AuxillaryTypes := none
  pumpStatus : Option PumpStatuses := none
  status : Option AuxillaryStatuses := none
  deriving DecidableEq

/-- Whether the device was on when it was last heard of, if it was. -/
def AuxillaryTraits.currentOnState (traits : AuxillaryTraits) : Option Bool :=
  traits.type.bind fun type =>
    if type = .pump then traits.pumpStatus.map fun status => decide (status = .running)
    else traits.status.map fun status => decide (status = .on)

/-- The state that an explicit request asks for. -/
def ActuationAction.wanted : ActuationAction → Option Bool
  | .on => some true
  | .off => some false
  | .toggle => none

theorem known_other {known : Option Bool} {on : Bool} (h : known ≠ some on)
    (hknown : known.isSome) : known = some (!on) := by
  obtain ⟨state, rfl⟩ := Option.isSome_iff_exists.mp hknown
  exact congrArg some (Bool.eq_not_of_ne fun heq => h (congrArg some heq))

/-!
## Dispatching a command

A command goes to the controllers that can carry it out, the most direct one first.  A
controller that accepts the command ends the search, and so does one that finds the value
invalid.  One that is not able to, or is busy, leaves the command to the next.
-/

inductive CommandResult where
  | success | deviceNotFound | noSerialAdapter | unknownEquipmentType | invalidValue | busy
  deriving DecidableEq

inductive ControllerKind where
  | serialAdapter | iaq | oneTouch
  deriving DecidableEq

/-- `ControllerPriority`: the lower, the sooner. -/
def ControllerKind.priority : ControllerKind → ℕ
  | .serialAdapter => 0
  | .iaq => 1
  | .oneTouch => 2

/-- A controller, by its place among those that were discovered. -/
structure Candidate where
  index : ℕ
  kind : ControllerKind
  deriving DecidableEq

def candidates (capable : ControllerKind → Bool) (kinds : List ControllerKind) : List Candidate :=
  ((kinds.zipIdx.map fun entry => Candidate.mk entry.2 entry.1).filter fun candidate =>
    capable candidate.kind).insertionSort fun first second =>
      first.kind.priority ≤ second.kind.priority

/-- What no candidate has accepted comes to. -/
def refusal (whenNone : CommandResult) (anyMappingFailed anyBusy : Bool) : CommandResult :=
  if anyBusy then .busy else if anyMappingFailed then .unknownEquipmentType else whenNone

def tryCandidates (answer : Candidate → ActuationResult) (whenNone : CommandResult) :
    Bool → Bool → List Candidate → CommandResult × Option Candidate
  | anyMappingFailed, anyBusy, [] => (refusal whenNone anyMappingFailed anyBusy, none)
  | anyMappingFailed, anyBusy, candidate :: rest =>
    match answer candidate with
    | .accepted => (.success, some candidate)
    | .invalidValue => (.invalidValue, none)
    | .mappingFailed => tryCandidates answer whenNone true anyBusy rest
    | .busy => tryCandidates answer whenNone anyMappingFailed true rest
    | .notSupported => tryCandidates answer whenNone anyMappingFailed anyBusy rest

def dispatchToCapable (capable : ControllerKind → Bool) (kinds : List ControllerKind)
    (answer : Candidate → ActuationResult) (whenNone : CommandResult) :
    CommandResult × Option Candidate :=
  tryCandidates answer whenNone false false (candidates capable kinds)

end AqualinkAutomate.Equipment
