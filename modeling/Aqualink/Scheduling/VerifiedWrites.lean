import Aqualink.Iaq.ProgramVerification
import Aqualink.OneTouch.ProgramChoice
import Aqualink.OneTouch.ProgramVerification

/-!
# Whether a program was really written

The keypad and the touch panel both write programs without being told how it went: they look
at the screen afterwards.  Both find a program that was written, and both take too much for
the absence of one that was deleted.
-/

namespace AqualinkAutomate.Scheduling

open General Navigation

/-- Both report success only on a page that confirms it, exactly as long as no page misleads
them. -/
theorem writes_verified_iff (model : MenuModel) (fuel : ℕ) (op : OneTouch.ScheduleWriteOp)
    (program : ControllerSchedule) (navigator : Navigator) (screens : List OneTouch.ShownScreen)
    (statusPage : ScreenDataPage) (events : List Iaq.ListEvent) :
    (EachStepTaken (OneTouch.WriteWatch.attempt model fuel)
          (OneTouch.WriteWatch.Confirms model fuel)
          { run := { goal := some { op := op, program := program }, navigator := navigator } }
          screens ↔
        EachStepTaken (OneTouch.WriteWatch.attempt model fuel) OneTouch.WriteWatch.NotMisled
          { run := { goal := some { op := op, program := program }, navigator := navigator } }
          screens) ∧
      (EachStep Iaq.ListWatch.step Iaq.ListWatch.Confirms { statusPage := statusPage } events ↔
        EachStep Iaq.ListWatch.step Iaq.ListWatch.NotMisled { statusPage := statusPage }
          events) := by
  constructor
  · exact OneTouch.WriteWatch.eachStep_confirms_iff
      (OneTouch.WriteWatch.coherent_start op program navigator) screens
  · exact Iaq.ListWatch.eachStep_confirms_iff (Iaq.ListWatch.coherent_start statusPage) events

/-! ### A deletion that is not confirmed -/

def pumpProgram : ControllerSchedule where
  target := "Filter Pump".toList
  daysOfWeek := DayMask.weekdays
  onHour := 8
  offHour := 22
  offMinute := 30

/-- The page of the pump is drawn anew behind the deletion, and its second time is not there
yet. -/
def deletionScreens : List OneTouch.ShownScreen :=
  [⟨OneTouch.programList, 2, true, true⟩, ⟨OneTouch.programList, 2, true, true⟩,
    ⟨OneTouch.firstOfTwo, 10, true, true⟩,
    ⟨OneTouch.BusMessage.draw OneTouch.firstOfTwo (.messageLong 4 []), 10, false, false⟩]

/-- The list is started anew behind the deletion, and its rows are not there yet. -/
def deletionEvents : List Iaq.ListEvent :=
  [.page (.pageStart 0x28),
      .page (.tableMessage 0 0 "Filter Pump?8:00 AM?10:30 PM?Wkdays?".toList), .page .pageEnd,
      .delete pumpProgram true false] ++
    List.replicate 16 .poll ++ [.page (.pageStart 0x28), .poll]

/-- On both panels a page that is being drawn is taken for the absence of the program. -/
theorem not_verified_of_page_being_drawn :
    ¬ EachStepTaken (OneTouch.WriteWatch.attempt OneTouch.programModel 9)
        (OneTouch.WriteWatch.Confirms OneTouch.programModel 9)
        { run := { goal := some { op := .delete, program := pumpProgram } } } deletionScreens ∧
      ¬ EachStep Iaq.ListWatch.step Iaq.ListWatch.Confirms {} deletionEvents := by
  constructor
  · rw [OneTouch.WriteWatch.eachStep_confirms_iff (OneTouch.WriteWatch.coherent_start ..)]
    decide +kernel
  · rw [Iaq.ListWatch.eachStep_confirms_iff (Iaq.ListWatch.coherent_start ⟨[]⟩)]
    decide +kernel

end AqualinkAutomate.Scheduling
