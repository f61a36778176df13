import Aqualink.Iaq.Channel

/-!
# Switching a device on or off with the touch panel

A press of a button toggles its device, whatever is wanted.  Whether an explicit request is to
press is decided when it comes, by the status that the page shows, and the press goes out with
a later poll.  So the notes follow which request the pending command is for, and what was last
reported of each device, by a button of a page or in another way.

By then the device need not be other than it is wanted; but the page did not show it to be as
it is wanted when the request was taken on (`pressesOnly_justified`).
-/

namespace AqualinkAutomate.Iaq

open Equipment General Navigation List Option

/-! ## Following a request -/

/-- Something happens to the panel, or the state of a device is reported past it. -/
inductive PanelEvent where
  | panel (event : IaqEvent)
  | report (label : Text) (on : Bool)
  deriving DecidableEq

structure TakenWish where
  wish : ExplicitWish
  known : Option Bool
  deriving DecidableEq

structure ExplicitPress where
  taken : TakenWish
  reported : Option Bool
  deriving DecidableEq

namespace ExplicitPress

/-- The device was last reported to be other than it is wanted. -/
def Differs (press : ExplicitPress) : Prop := press.reported = some (!press.taken.wish.on)

instance (press : ExplicitPress) : Decidable press.Differs :=
  inferInstanceAs (Decidable (press.reported = some (!press.taken.wish.on)))

/-- The device was not shown to be as it is wanted.  If its state was known, and is what it was,
it is other than it is wanted. -/
structure Justified (press : ExplicitPress) : Prop where
  taken : press.taken.known ≠ some press.taken.wish.on
  unchanged : press.taken.known.isSome → press.reported = press.taken.known → press.Differs

theorem justified_iff {press : ExplicitPress} :
    press.Justified ↔ press.taken.known ≠ some press.taken.wish.on :=
  ⟨Justified.taken, fun h => ⟨h, fun hknown hsame => hsame.trans (known_other h hknown)⟩⟩

end ExplicitPress

structure ExplicitNotes where
  reported : Text → Option Bool := fun _ => none
  /-- The request that the pending command is for. -/
  waiting : Option TakenWish := none
  pressed : List ExplicitPress := []

namespace ExplicitNotes

/-- A button that is shown reports the devices that are found by it, if its status tells
anything. -/
def see (notes : ExplicitNotes) (shown : IaqDevice) : IaqEvent → ExplicitNotes
  | .message (.page (.pageButton index _ _)) =>
    { notes with
      reported := fun label =>
        if shown.pageModel.findButtonByLabel label = some index then
          (shown.reportedState label).or (notes.reported label)
        else notes.reported label }
  | _ => notes

def report (notes : ExplicitNotes) (label : Text) (on : Bool) : ExplicitNotes :=
  { notes with reported := Function.update notes.reported label (some on) }

/-- What the device does, whose page shows the devices so. -/
def note (shown : Text → Option Bool) (notes : ExplicitNotes) : Effect → ExplicitNotes
  | .pressed _ _ wish => { notes with waiting := wish.map fun wish => ⟨wish, shown wish.label⟩ }
  | .served _ calls _ => if calls.command.isSome then { notes with waiting := none } else notes
  | .sentPending _ =>
    { notes with
      waiting := none
      pressed := notes.pressed ++ notes.waiting.toList.map fun taken =>
        ⟨taken, notes.reported taken.wish.label⟩ }
  | _ => notes

end ExplicitNotes

structure ExplicitWatch where
  device : IaqDevice
  notes : ExplicitNotes := {}

namespace ExplicitWatch

def start (emulated : Bool) : ExplicitWatch where
  device := { emulated := emulated }

def step (watch : ExplicitWatch) : PanelEvent → ExplicitWatch
  | .panel event =>
    { device := (watch.device.react event).1
      notes := (watch.device.react event).2.foldl
        (ExplicitNotes.note watch.device.reportedState)
        (watch.notes.see (watch.device.react event).1 event) }
  | .report label on => { watch with notes := watch.notes.report label on }

end ExplicitWatch

/-- The presses that went out for explicit requests are as `P` says. -/
def PressesOnly (P : ExplicitPress → Prop) (watch : ExplicitWatch) : Prop :=
  ∀ press ∈ watch.notes.pressed, P press

instance (P : ExplicitPress → Prop) [DecidablePred P] (watch : ExplicitWatch) :
    Decidable (PressesOnly P watch) :=
  inferInstanceAs (Decidable (∀ press ∈ watch.notes.pressed, P press))

/-! ## What was shown when the request was taken on -/

namespace IaqDevice

variable {device : IaqDevice}

theorem reportedState_eq {label : Text} {index : UInt8}
    (hindex : device.pageModel.findButtonByLabel label = some index) :
    device.reportedState label = (device.statusOf index).known := by
  rw [reportedState, hindex, bind_some, statusOf]
  cases device.pageModel.buttons index with
  | none => rfl
  | some info => rfl

theorem taken_of_pressed_mem_react {event : IaqEvent} {command : UInt8}
    {button : Option ResolvedButton} {wish : ExplicitWish}
    (h : .pressed command button (some wish) ∈ (device.react event).2) :
    device.reportedState wish.label ≠ some wish.on := by
  cases event with
  | message message =>
    by_cases hpoll : message = .poll
    · subst hpoll
      rcases mem_receive_poll h with heq | ⟨name, finished, -, heq⟩ | ⟨command, heq | heq⟩
      all_goals cases heq
    · rcases mem_receive_of_ne_poll hpoll h with ⟨commands, heq⟩ | ⟨value, heq⟩
      · cases heq
      · cases heq
  | request request =>
    cases request with
    | actuateDevice target action =>
      change _ ∈ (device.actuateDevice target action).1.2 at h
      rcases device.actuateDevice_cases target action with
        heq | ⟨traits, label, index, -, rfl, -, hindex, hpress, heq⟩
      · rw [heq] at h
        cases h
      · rw [heq] at h
        obtain ⟨-, -, hwish⟩ := Effect.pressed.inj (List.mem_singleton.mp h)
        obtain ⟨on, hwanted, rfl⟩ := Option.map_eq_some_iff.mp hwish.symm
        rw [hwanted] at hpress
        rw [reportedState_eq hindex]
        exact fun hknown => hpress ⟨rfl, hknown⟩
    | poolSetpoint | spaSetpoint =>
      simp only [react, IaqDevice.request, queueSetpoint] at h
      split at h
      · cases h
      · cases List.mem_singleton.mp h
    | actuatePageButton index => cases List.mem_singleton.mp h
    | _ =>
      simp only [react, IaqDevice.request, queueAquaPure, queueSpaSwitch, queueSchedule,
        takeGoal] at h
      split at h
      · cases List.mem_singleton.mp h
      · cases h
  | enablePageSurvey registry => cases h
  | suppressEmulation => cases List.mem_singleton.mp h

end IaqDevice

/-- Neither the request that waits nor one that was served was for a device that was shown to be
as it is wanted. -/
structure AllTaken (notes : ExplicitNotes) : Prop where
  waiting : ∀ taken ∈ notes.waiting, taken.known ≠ some taken.wish.on
  pressed : ∀ press ∈ notes.pressed, press.taken.known ≠ some press.taken.wish.on

namespace AllTaken

variable {notes : ExplicitNotes} {shown : Text → Option Bool}

theorem see (h : AllTaken notes) (device : IaqDevice) (event : IaqEvent) :
    AllTaken (notes.see device event) := by
  unfold ExplicitNotes.see
  split <;> exact ⟨h.waiting, h.pressed⟩

/-- A press is for a device that the page does not show to be as it is wanted. -/
theorem note (h : AllTaken notes) {effect : Effect}
    (hpress : ∀ command button wish, effect = .pressed command button (some wish) →
      shown wish.label ≠ some wish.on) : AllTaken (notes.note shown effect) := by
  cases effect with
  | pressed command button wish =>
    refine ⟨fun taken htaken => ?_, h.pressed⟩
    obtain ⟨explicit, rfl, rfl⟩ := Option.mem_map.mp htaken
    exact hpress command button explicit rfl
  | served name calls finished =>
    rw [ExplicitNotes.note]
    split
    · exact ⟨fun taken htaken => (not_mem_none taken htaken).elim, h.pressed⟩
    · exact h
  | sentPending command =>
    refine ⟨fun taken htaken => (not_mem_none taken htaken).elim, fun press hpress => ?_⟩
    rcases List.mem_append.mp hpress with hold | hnew
    · exact h.pressed press hold
    · obtain ⟨taken, htaken, rfl⟩ := List.mem_map.mp hnew
      exact h.waiting taken (Option.mem_toList.mp htaken)
  | queued | goalTaken | polled | sentQueued | answered | suppressed => exact h

theorem foldl_note {effects : List Effect} (h : AllTaken notes)
    (hpress : ∀ command button wish, .pressed command button (some wish) ∈ effects →
      shown wish.label ≠ some wish.on) :
    AllTaken (effects.foldl (ExplicitNotes.note shown) notes) := by
  induction effects generalizing notes with
  | nil => exact h
  | cons effect effects ih =>
    have hnoted : AllTaken (notes.note shown effect) :=
      h.note fun command button wish heq =>
        hpress command button wish (heq ▸ mem_cons_self)
    exact ih hnoted fun command button wish hmem =>
      hpress command button wish (mem_cons_of_mem _ hmem)

theorem step {watch : ExplicitWatch} (h : AllTaken watch.notes) (event : PanelEvent) :
    AllTaken (watch.step event).notes := by
  cases event with
  | panel event =>
    exact (h.see _ event).foldl_note fun command button wish hmem =>
      IaqDevice.taken_of_pressed_mem_react hmem
  | report label on => exact ⟨h.waiting, h.pressed⟩

end AllTaken

/-- Whatever happens in whatever order: a press goes out for an explicit request only if the page
did not show the device to be as it is wanted when the request was taken on. -/
theorem pressesOnly_justified (emulated : Bool) (events : List PanelEvent) :
    EachState ExplicitWatch.step (PressesOnly ExplicitPress.Justified) (.start emulated)
      events := by
  have hstart : AllTaken (ExplicitWatch.start emulated).notes :=
    ⟨fun _ htaken => (not_mem_none _ htaken).elim,
      fun _ hpress => (not_mem_nil hpress).elim⟩
  have hrun : EachState ExplicitWatch.step (fun watch => AllTaken watch.notes)
      (.start emulated) events :=
    eachStep_true.eachState_of_step (fun _ event h _ => h.step event) hstart
  exact hrun.mono fun _ h press hpress => ExplicitPress.justified_iff.mpr (h.pressed press hpress)

end AqualinkAutomate.Iaq
