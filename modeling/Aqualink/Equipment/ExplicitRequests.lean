import Aqualink.Iaq.ExplicitPress
import Aqualink.OneTouch.ExplicitToggle

/-!
# Asking for on or off where there is only a toggle

Neither panel can do more for a device than toggle it.  So both ask, before they take an
explicit request on, whether the device is known to be as it is wanted already.  A device of
which nothing is known is toggled, and neither panel asks again when the toggle goes out.

So the toggle goes out only for a device that was not known to be as it is wanted when the
request was taken on.  Had its state been known then, and were it the same still, the device
would be other than it is wanted; a light that has been switched on in between is switched off.
-/

namespace AqualinkAutomate.Equipment

open General Navigation

def equipmentModel : MenuModel where
  pages :=
    [{ id := .equipmentOnOff, detectors := [{ line := 0, pattern := "Filter Pump".toList }] }]

def poolLight (status : Option AuxillaryStatuses) : AuxillaryTraits where
  label := some "Pool Light".toList
  type := some .auxillary
  status := status

def lightHub (status : Option AuxillaryStatuses) : OneTouch.DataHub where
  devices := [0]
  traits := fun _ => poolLight status

/-- The keypad comes into normal operation with its cursor on the light, and is asked to switch
it on. -/
def keypadAsked : List OneTouch.OperatingEvent :=
  [.watchdogTimeout, .message (.messageLong 0 "Filter Pump".toList) {},
    .message (.messageLong 1 "Pool Light".toList) {}, .message (.highlight 1) {},
    .message .status {}, .message .status {}, .message .status {},
    .request (.actuateDevice (some 0) .on)]

/-- The panel shows the light, and is asked to switch it on. -/
def panelAsked (status : Iaq.ButtonStatuses) : List Iaq.PanelEvent :=
  [.panel (.message (.page (.pageStart Iaq.pageHome))),
    .panel (.message (.page (.pageButton 4 "Pool Light".toList status))),
    .panel (.request (.actuateDevice (some (poolLight none)) .on))]

/-- With a status message, a Select goes out for a device that is not known to be other than it
is wanted. -/
def inverts (watch : OneTouch.ToggleWatch) : Bool :=
  watch.device.emulationActive &&
    (watch.device.receive equipmentModel 9 {} .status).any fun next =>
      decide (∃ wish ∈ watch.waits equipmentModel 9 .status next, ¬ wish.Differs watch.device.hub)

theorem not_togglesOnly_of_inverts {hub : OneTouch.DataHub} {events : List OneTouch.OperatingEvent}
    (h : (events.foldlM (OneTouch.ToggleWatch.attempt equipmentModel 9)
      { device := .initial true hub }).map inverts = some true) :
    ¬ EachStepTaken (OneTouch.ToggleWatch.attempt equipmentModel 9)
        (OneTouch.ToggleWatch.TogglesOnly (fun hub wish => wish.Differs hub) equipmentModel 9)
        { device := .initial true hub } (events ++ [.message .status {}]) := by
  intro hlaw
  obtain ⟨watch, hrun, hinverts⟩ := Option.map_eq_some_iff.mp h
  obtain ⟨hactive, hany⟩ := Bool.and_eq_true_iff.mp hinverts
  cases hnext : watch.device.receive equipmentModel 9 {} .status with
  | none =>
    rw [hnext] at hany
    cases hany
  | some next =>
    rw [hnext, Option.any_some, decide_eq_true_eq] at hany
    obtain ⟨wish, hwish, hother⟩ := hany
    have hattempt : watch.attempt equipmentModel 9 (.message .status {}) =
        some (watch.follow equipmentModel 9 (.message .status {}) next) := by
      rw [OneTouch.ToggleWatch.attempt, OneTouch.OperatingDevice.attempt, hnext]
      rfl
    exact hother (hlaw.last hrun hattempt rfl hactive next hnext wish hwish)

end AqualinkAutomate.Equipment
