import Aqualink.Http.PathParameter
import Aqualink.Http.RejectedRequests
import Aqualink.Scheduling.Promotion

/-!
# The promotion of a schedule

A request names a schedule, the service finds the one that completes it to a span, and the program
of the two is handed to the controller.

The complement is the first in the list with the right action, target and days.  It can be disabled,
so that the program ends a span where no schedule did, and there can be others of the target between
the two.  `promotion_preserves_iff` says when the program does what the schedules did.
-/

namespace AqualinkAutomate.Http

open General
open Scheduling hiding DispatcherCall
open Equipment (CommandResult)

/-- The answers of the route.  The pages for 503 and 405 are not looked into. -/
inductive PromoteReply where
  | serviceUnavailable (text : String)
  | methodNotAllowed
  | badRequest (text : String)
  | notFound (text : String)
  | unprocessableEntity (text : String)
  /-- A bad request with the codes of the blockers. -/
  | blocked (error : String) (blockers : List String)
  | acknowledged (status : HttpStatus) (state : String) (program : ControllerSchedule)
  deriving DecidableEq

/-- `WebRoute_SchedulePromote::OnRequest`; the dispatcher answers to the creation of a program. -/
def schedulePromote (service : Option SchedulerService)
    (dispatcher : Option (ControllerSchedule → CommandResult)) (request : HttpRequest) :
    PromoteReply :=
  match service with
  | none => .serviceUnavailable ""
  | some service =>
    if request.verb ≠ .post then .methodNotAllowed
    else
      match dispatcher with
      | none => .serviceUnavailable "Command dispatcher not available"
      | some createControllerProgram =>
        match request.target.uuidSegment with
        | none => .badRequest "missing schedule uuid"
        | some uuid =>
          match service.get uuid with
          | none => .notFound "unknown schedule"
          | some primary =>
            if isControllerRepresentableAction primary.action.type = false then
              .unprocessableEntity
                "only button_on / button_off schedules can be promoted to the controller"
            else
              match complementOf service.schedules primary with
              | none =>
                .unprocessableEntity
                  "no complementary on/off schedule on the same target and days to form a span"
              | some complement =>
                let (onSchedule, offSchedule) := spanHalves primary complement
                match buildPromotionCandidate onSchedule offSchedule with
                | .error error => .badRequest error
                | .ok candidate =>
                  if candidate.blockers ≠ [] then
                    .blocked "the paired span is not representable on the controller"
                      (candidate.blockers.map promotionBlockerToString)
                  else
                    let result := createControllerProgram candidate
                    .acknowledged (statusForCommandResult result)
                      (if result = .success then "queued" else "rejected") candidate

structure Promoted (service : SchedulerService) (request : HttpRequest)
    (primary complement : Schedule) (program : ControllerSchedule) : Prop where
  named : request.target.uuidSegment.bind service.get = some primary
  paired : complementOf service.schedules primary = some complement
  built : buildPromotionCandidate (spanHalves primary complement).1
    (spanHalves primary complement).2 = .ok program
  representable : program.blockers = []

theorem promoted_of_acknowledged {service : SchedulerService}
    {dispatcher : Option (ControllerSchedule → CommandResult)} {request : HttpRequest}
    {status : HttpStatus} {state : String} {program : ControllerSchedule}
    (h : schedulePromote (some service) dispatcher request = .acknowledged status state program) :
    ∃ primary complement, Promoted service request primary complement program := by
  unfold schedulePromote at h
  dsimp only at h
  split_ifs at h
  split at h
  · cases h
  split at h
  · cases h
  next uuid huuid =>
  split at h
  · cases h
  next primary hprimary =>
  split_ifs at h
  split at h
  · cases h
  next complement hcomplement =>
  split at h
  · cases h
  next candidate hbuilt =>
  split at h
  · cases h
  next hblockers =>
  obtain ⟨-, -, rfl⟩ := PromoteReply.acknowledged.inj h
  refine ⟨primary, complement, ?_, hcomplement, hbuilt, not_not.mp hblockers⟩
  rw [huuid, Option.bind_some, hprimary]

theorem spanHalves_complement (primary complement : Schedule) :
    complement = (spanHalves primary complement).1 ∨
      complement = (spanHalves primary complement).2 := by
  unfold spanHalves
  split_ifs
  · exact .inr rfl
  · exact .inl rfl

/-- **When a promotion preserves what the schedules of the target did.**  Both schedules have to be
enabled, a span over midnight has to be on every day, and the list has to send the target on at the
start of each span, off at its end, nothing inside, and no on command outside. -/
theorem promotion_preserves_iff {service : SchedulerService}
    {dispatcher : Option (ControllerSchedule → CommandResult)} {request : HttpRequest}
    {program : ControllerSchedule}
    (h : schedulePromote (some service) dispatcher request =
      .acknowledged .ok "queued" program) :
    ∃ primary complement, Promoted service request primary complement program ∧
      (PreservesMeaning service.schedules (spanHalves primary complement).1
          (spanHalves primary complement).2 complement program ↔
        KeepsTimes service.schedules (spanHalves primary complement).1
          (spanHalves primary complement).2) := by
  obtain ⟨primary, complement, hpromoted⟩ := promoted_of_acknowledged h
  refine ⟨primary, complement, hpromoted, ?_⟩
  exact preserves_iff_keepsTimes (formsSpan_of_build hpromoted.built) hpromoted.representable
    (spanHalves_complement primary complement)

/-! ### The hours of a pump -/

def pumpAt (uuid : String) (type : ActionType) (hour : Fin 24) (enabled : Bool) : Schedule where
  uuid := uuid
  enabled := enabled
  daysOfWeek := DayMask.allDays
  hour := hour
  minute := ⟨0, by decide⟩
  action := { type := type, target := "Filter Pump" }

def pumpOn : Schedule := pumpAt "on" .buttonOn ⟨9, by decide⟩ true

def pumpOff : Schedule := pumpAt "off" .buttonOff ⟨17, by decide⟩ true

/-- The pump was to stop at noon in winter. -/
def pumpOffAtNoon : Schedule := pumpAt "noon" .buttonOff ⟨12, by decide⟩ false

def promoteOn : HttpRequest where
  verb := .post
  target := { segments := ["api", "schedules", "on", "promote"] }

def pumpProgram (offHour : ℤ) : ControllerSchedule where
  target := "Filter Pump".toList
  daysOfWeek := DayMask.allDays
  onHour := 9
  offHour := offHour

theorem schedulePromote_pumpOn :
    schedulePromote (some { schedules := [pumpOn, pumpOff] }) (some fun _ => .success)
      promoteOn = .acknowledged .ok "queued" (pumpProgram 17) := by
  decide +kernel

theorem promotion_preserves_pumpHours :
    PreservesMeaning [pumpOn, pumpOff] pumpOn pumpOff pumpOff (pumpProgram 17) := by
  obtain ⟨primary, complement, hpromoted, hiff⟩ := promotion_preserves_iff schedulePromote_pumpOn
  obtain rfl : pumpOn = primary := Option.some.inj
    (((show _ = some pumpOn by decide +kernel).symm).trans hpromoted.named)
  obtain rfl : pumpOff = complement := Option.some.inj
    (((show _ = some pumpOff by decide +kernel).symm).trans hpromoted.paired)
  exact hiff.mpr (keepsTimes_pair (formsSpan_of_build hpromoted.built) (by decide) rfl rfl
    (by decide))

/-- The schedule that is disabled comes first in the list, and the program stops the pump at noon.
At one in the afternoon the schedules have it on. -/
theorem promotion_ends_at_disabled :
    schedulePromote (some { schedules := [pumpOffAtNoon, pumpOn, pumpOff] })
        (some fun _ => .success) promoteOn = .acknowledged .ok "queued" (pumpProgram 12) ∧
      complementOf [pumpOffAtNoon, pumpOn, pumpOff] pumpOn = some pumpOffAtNoon ∧
      pumpOffAtNoon.enabled = false ∧ ¬ (pumpProgram 12).KeepsOn 780 ∧
      OnAt (commandAt [pumpOffAtNoon, pumpOn, pumpOff] "Filter Pump") 780 := by
  refine ⟨by decide +kernel, by decide +kernel, rfl, ?_, ?_⟩
  · rintro ⟨start, hle, ⟨-, hstart⟩, hnone⟩
    have hbefore : start % 1440 = 540 := hstart
    exact hnone 720 (by omega) (by omega) rfl
  · refine ⟨540, by omega, by decide +kernel, fun later hlater hlast => ?_⟩
    rw [commandAt_eq_none_iff.mpr fun schedule hmem => ?_]
    · exact (Option.some_ne_none false).symm
    · obtain ⟨hlisted, hdue⟩ := mem_firedIn hmem
      obtain ⟨henabled, -, htime⟩ := (due_weeklyMinute schedule later).mp hdue
      -- nothing that is enabled is due between nine and one
      simp only [List.mem_cons, List.not_mem_nil, or_false] at hlisted
      rcases hlisted with rfl | rfl | rfl
      · cases henabled
      · have hnine : (540 : ℤ) = later % 1440 := htime
        omega
      · have hfive : (1020 : ℤ) = later % 1440 := htime
        omega

end AqualinkAutomate.Http
