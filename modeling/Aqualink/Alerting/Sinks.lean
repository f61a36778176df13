import Aqualink.Alerting.AlertMonitor

/-!
# The sinks of the alert monitor

The monitor evaluates its conditions whenever a hub reports something and whenever its timer ticks,
and hands each transition to the sinks one after another.  A sink may cause another evaluation,
which runs inside the call, and it can throw, which ends the evaluation that called it.

A sink that throws keeps the transition from the sinks after it, and a transition that is made in
the call of a sink comes to the sinks after it before the one that they still wait for.
`transitions_alternate` says that in all other runs the sinks agree with each other and with the
latches.
-/

namespace AqualinkAutomate.Alerting

open General List

structure SinkCall where
  transition : AlertTransition
  sink : ℕ
  rest : List Evaluator

structure AlertService where
  monitor : AlertMonitor
  hubs : HubReadings
  calls : List SinkCall := []
  seen : ℕ → List AlertTransition := fun _ => []

inductive AlertEvent where
  | start | stop
  /-- One of the two signals that the monitor is connected to -/
  | hubEvent
  | commsTimer
  /-- The hubs and the clock change, at any time. -/
  | hubsChange (hubs : HubReadings)
  | sinkReturns
  | sinkThrows

namespace AlertService

variable (service : AlertService)

def callSink (transition : AlertTransition) (sink : ℕ) (rest : List Evaluator) : AlertService :=
  { service with
    calls := ⟨transition, sink, rest⟩ :: service.calls
    seen := Function.update service.seen sink (service.seen sink ++ [transition]) }

def runEvaluators : List Evaluator → AlertService → AlertService
  | [], service => service
  | evaluator :: rest, service =>
    match service.monitor.evaluate service.hubs evaluator with
    | (monitor, none) => runEvaluators rest { service with monitor }
    | (monitor, some transition) =>
      if 0 < monitor.sinks then
        { service with monitor }.callSink transition 0 rest
      else runEvaluators rest { service with monitor }

def begin (service : AlertService) : AlertEvent → AlertService × List Evaluator
  | .start =>
    if service.monitor.running then (service, [])
    else ({ service with monitor := service.monitor.start service.hubs }, evaluateAll)
  | .stop => ({ service with monitor := { service.monitor with running := false } }, [])
  | .hubEvent | .commsTimer =>
    if service.monitor.running then (service, evaluateAll) else (service, [])
  | .hubsChange hubs => ({ service with hubs }, [])
  | .sinkReturns =>
    match service.calls with
    | [] => (service, [])
    | call :: outer =>
      let service := { service with calls := outer }
      if call.sink + 1 < service.monitor.sinks then
        (service.callSink call.transition (call.sink + 1) call.rest, [])
      else (service, call.rest)
  | .sinkThrows =>
    -- the exception ends the evaluation that made the call
    ({ service with calls := service.calls.tail }, [])

def step (service : AlertService) (event : AlertEvent) : AlertService :=
  let (service, evaluators) := service.begin event
  service.runEvaluators evaluators

/-- The monitor with its sinks, before it is started. -/
def boot (settings : AlertPreferences) (sinks : ℕ) (hubs : HubReadings) : AlertService :=
  { monitor := { settings, sinks }, hubs }

def seenOf (condition : String) (sink : ℕ) : List AlertTransition :=
  (service.seen sink).filter fun transition => transition.condition = condition

def Waited (condition : String) : Prop :=
  ∃ call ∈ service.calls, call.transition.condition = condition ∧
    call.sink + 1 < service.monitor.sinks

instance (condition : String) : Decidable (service.Waited condition) :=
  inferInstanceAs (Decidable (∃ call ∈ service.calls, call.transition.condition = condition ∧
    call.sink + 1 < service.monitor.sinks))

/-- Only the last sink throws, and no transition is made of a condition of which one is waited
for. -/
def Harmless (service : AlertService) (event : AlertEvent) : Prop :=
  (match event with
    | .sinkThrows => ∀ call ∈ service.calls.head?, ¬ call.sink + 1 < service.monitor.sinks
    | _ => True) ∧
  ∀ transition ∈ (service.begin event).1.monitor.nextTransition (service.begin event).1.hubs
      (service.begin event).2, ¬ (service.begin event).1.Waited transition.condition

instance (event : AlertEvent) : Decidable (service.Harmless event) := by
  unfold Harmless
  cases event <;> infer_instance

end AlertService

/-- `raised` and `cleared` in turn, beginning with the given one. -/
def Alternates : Bool → List Bool → Prop
  | _, [] => True
  | first, raised :: rest => raised = first ∧ Alternates (!first) rest

/-- The sinks agree with each other and with the latches: of each condition a sink sees transitions
that alternate, the last one delivered is the latch, and when no sink is called, all sinks have
seen the same. -/
structure AlertService.Consistent (service : AlertService) : Prop where
  alternates : ∀ sink < service.monitor.sinks, ∀ condition,
    Alternates true ((service.seenOf condition sink).map AlertTransition.raised)
  delivered : 0 < service.monitor.sinks → ∀ condition,
    service.monitor.isRaised condition =
      ((service.seenOf condition 0).getLast?.map AlertTransition.raised).getD false
  agree : service.calls = [] → ∀ sink < service.monitor.sinks, ∀ condition,
    service.seenOf condition sink = service.seenOf condition 0

/-! ## Alternation -/

section

variable {first raised : Bool} {transitions rest : List Bool}

theorem Alternates.concat (h : Alternates first transitions)
    (hchange : transitions.getLast?.getD (!first) ≠ raised) :
    Alternates first (transitions ++ [raised]) := by
  induction transitions generalizing first with
  | nil =>
    refine ⟨?_, trivial⟩
    have hne : (!first) ≠ raised := hchange
    cases first <;> cases raised <;> simp_all
  | cons head transitions ih =>
    obtain ⟨rfl, hrest⟩ := h
    refine ⟨rfl, ih hrest ?_⟩
    rw [getLast?_cons, Option.getD_some] at hchange
    rwa [Bool.not_not]

theorem Alternates.of_append (h : Alternates first (transitions ++ rest)) :
    Alternates first transitions := by
  induction transitions generalizing first with
  | nil => trivial
  | cons head transitions ih => exact ⟨h.1, ih h.2⟩

end

def LatchedBy (latched : String → Bool) (made : List AlertTransition) : Prop :=
  ∀ condition,
    Alternates true ((made.filter fun t => t.condition = condition).map AlertTransition.raised) ∧
      latched condition = ((made.filter fun t => t.condition = condition).map
        AlertTransition.raised).getLast?.getD false

theorem LatchedBy.concat {latched : String → Bool} {made : List AlertTransition}
    {transition : AlertTransition} (h : LatchedBy latched made)
    (hchange : latched transition.condition ≠ transition.raised) :
    LatchedBy (Function.update latched transition.condition transition.raised)
      (made ++ [transition]) := by
  intro condition
  obtain ⟨halternates, hlast⟩ := h condition
  by_cases hcondition : condition = transition.condition
  · subst hcondition
    rw [filter_append, filter_cons_of_pos (by simp), filter_nil, map_append, Function.update_self]
    refine ⟨halternates.concat ?_, ?_⟩
    · rwa [Bool.not_true, ← hlast]
    · rw [map_singleton, getLast?_concat, Option.getD_some]
  · rw [filter_append, filter_cons_of_neg (by simpa using Ne.symm hcondition),
      filter_nil, append_nil, Function.update_of_ne hcondition]
    exact ⟨halternates, hlast⟩

/-! ## The service refines the rounds -/

namespace AlertService

variable {service : AlertService} {r : Rounds AlertTransition} {event : AlertEvent}

structure Refines (service : AlertService) (r : Rounds AlertTransition) : Prop where
  seen : r.seen = service.seen
  rounds : r.rounds = service.calls.map fun call => (call.transition, call.sink)

structure Agrees (service : AlertService) (r : Rounds AlertTransition) : Prop where
  refines : service.Refines r
  fair : r.Fair AlertTransition.condition service.monitor.sinks
  latched : LatchedBy service.monitor.latched r.made

theorem Refines.waited_iff (h : service.Refines r) {condition : String} :
    r.Waited AlertTransition.condition service.monitor.sinks condition ↔
      service.Waited condition := by
  unfold Rounds.Waited Waited
  rw [h.rounds]
  simp only [mem_map, exists_exists_and_eq_and]

theorem Refines.callSink (h : service.Refines r) (transition : AlertTransition) (sink : ℕ)
    (rest : List Evaluator) :
    (service.callSink transition sink rest).Refines (r.call transition sink r.rounds) where
  seen := by
    show Function.update r.seen _ _ = Function.update service.seen _ _
    rw [h.seen]
  rounds := by
    show (transition, sink) :: r.rounds = _
    rw [h.rounds]
    rfl

variable {monitor : AlertMonitor}

theorem Agrees.withMonitor (h : service.Agrees r) (hsinks : monitor.sinks = service.monitor.sinks)
    (hlatched : monitor.latched = service.monitor.latched) : Agrees { service with monitor } r :=
  ⟨⟨h.refines.seen, h.refines.rounds⟩, hsinks ▸ h.fair, hlatched ▸ h.latched⟩

theorem Agrees.notify {transition : AlertTransition} (h : service.Agrees r)
    (hlatches : service.monitor.Latches monitor (some transition))
    (hfree : ¬ service.Waited transition.condition) (rest : List Evaluator) :
    Agrees (if 0 < monitor.sinks then { service with monitor }.callSink transition 0 rest
      else { service with monitor }) (r.make service.monitor.sinks transition) := by
  cases hlatches with
  | changed hsinks hlatched hchange =>
    have hfair := h.fair.make (mt h.refines.waited_iff.mp hfree)
    have hnewest : LatchedBy monitor.latched (r.made ++ [transition]) :=
      hlatched ▸ h.latched.concat hchange
    have hrefines : Refines { service with monitor } { r with made := r.made ++ [transition] } :=
      ⟨h.refines.seen, h.refines.rounds⟩
    rw [← hsinks] at hfair ⊢
    unfold Rounds.make at hfair ⊢
    split_ifs at hfair ⊢ with hpos
    · exact ⟨hrefines.callSink transition 0 rest, hfair, hnewest⟩
    · exact ⟨hrefines, hfair, hnewest⟩

theorem not_waited_of_not_pos {condition : String} (h : ¬ 0 < service.monitor.sinks) :
    ¬ service.Waited condition := by
  rintro ⟨call, _, _, hwaits⟩
  omega

theorem agrees_runEvaluators (evaluators : List Evaluator) (h : service.Agrees r)
    (hfree : ∀ transition ∈ service.monitor.nextTransition service.hubs evaluators,
      ¬ service.Waited transition.condition) :
    ∃ r, (service.runEvaluators evaluators).Agrees r := by
  induction evaluators generalizing service r with
  | nil => exact ⟨r, h⟩
  | cons evaluator rest ih =>
    have hlatches := @AlertMonitor.latches_evaluate service.monitor service.hubs evaluator
    unfold runEvaluators
    unfold AlertMonitor.nextTransition at hfree
    cases hpair : service.monitor.evaluate service.hubs evaluator with
    | mk monitor made =>
      rw [hpair] at hlatches hfree
      cases made with
      | none =>
        obtain ⟨hsinks, hlatched⟩ := hlatches
        refine ih (h.withMonitor hsinks hlatched) fun transition hnext hwaited => ?_
        obtain ⟨call, hcall, hcondition, hwaits⟩ := hwaited
        exact hfree transition hnext ⟨call, hcall, hcondition, hsinks ▸ hwaits⟩
      | some transition =>
        have hnotify := h.notify hlatches (hfree transition rfl) rest
        dsimp only
        split_ifs at hnotify ⊢ with hpos
        · exact ⟨_, hnotify⟩
        · exact ih hnotify fun _ _ => not_waited_of_not_pos hpos

section

variable (h : service.Agrees r)

include h

theorem Agrees.sinkReturns :
    (service.begin .sinkReturns).1.Agrees (r.next service.monitor.sinks) := by
  have hfair := h.fair.next
  have hrounds := h.refines.rounds
  unfold begin
  unfold Rounds.next at hfair ⊢
  cases hcalls : service.calls with
  | nil =>
    rw [hcalls, map_nil] at hrounds
    rwa [hrounds]
  | cons call outer =>
    rw [hcalls, map_cons] at hrounds
    have hrefines : Refines { service with calls := outer }
        { r with rounds := outer.map fun call => (call.transition, call.sink) } :=
      ⟨h.refines.seen, rfl⟩
    rw [hrounds] at hfair ⊢
    dsimp only at hfair ⊢
    split_ifs at hfair ⊢ with hmore
    · exact ⟨hrefines.callSink call.transition (call.sink + 1) call.rest, hfair, h.latched⟩
    · exact ⟨hrefines, hfair, h.latched⟩

theorem Agrees.sinkThrows
    (hlast : ∀ call ∈ service.calls.head?, ¬ call.sink + 1 < service.monitor.sinks) :
    (service.begin .sinkThrows).1.Agrees r.giveUp := by
  refine ⟨⟨h.refines.seen, ?_⟩, h.fair.giveUp ?_, h.latched⟩
  · show r.rounds.tail = service.calls.tail.map _
    rw [h.refines.rounds, map_tail]
  · intro round hround
    rw [h.refines.rounds, head?_map, Option.mem_def, Option.map_eq_some_iff] at hround
    obtain ⟨call, hcall, rfl⟩ := hround
    exact hlast call hcall

theorem Agrees.begin (hharmless : service.Harmless event) :
    ∃ r, (service.begin event).1.Agrees r := by
  cases event with
  | start =>
    unfold AlertService.begin
    split_ifs
    · exact ⟨r, h⟩
    · exact ⟨r, h.withMonitor rfl rfl⟩
  | stop => exact ⟨r, h.withMonitor rfl rfl⟩
  | hubEvent | commsTimer =>
    unfold AlertService.begin
    split_ifs <;> exact ⟨r, h⟩
  | hubsChange hubs => exact ⟨r, ⟨h.refines.seen, h.refines.rounds⟩, h.fair, h.latched⟩
  | sinkReturns => exact ⟨_, h.sinkReturns⟩
  | sinkThrows => exact ⟨_, h.sinkThrows hharmless.1⟩

theorem Agrees.step (hharmless : service.Harmless event) : ∃ r, (service.step event).Agrees r := by
  obtain ⟨r, hbegun⟩ := h.begin hharmless
  exact agrees_runEvaluators _ hbegun hharmless.2

end

theorem agrees_boot (settings : AlertPreferences) (sinks : ℕ) (hubs : HubReadings) :
    (boot settings sinks hubs).Agrees {} :=
  ⟨⟨rfl, rfl⟩, Rounds.fair_empty, fun _ => ⟨trivial, rfl⟩⟩

/-- What the invariant gives. -/
theorem Agrees.consistent (h : service.Agrees r) : service.Consistent := by
  have hseen : ∀ condition sink, service.seenOf condition sink =
      r.seenOf AlertTransition.condition condition sink := by
    intro condition sink
    rw [seenOf, Rounds.seenOf, h.refines.seen]
  -- the first sink has seen all that was made
  have hfirst : 0 < service.monitor.sinks → ∀ condition,
      service.seenOf condition 0 = r.madeOf AlertTransition.condition condition := by
    intro hpos condition
    rw [hseen]
    exact h.fair.seenOf_zero condition hpos
  refine ⟨fun sink hsink condition => ?_, fun hpos condition => ?_, fun hidle sink hsink condition
    => ?_⟩
  · obtain ⟨rest, hrest⟩ := h.fair.seenOf_prefix condition hsink
    have hmade := (h.latched condition).1
    have hmatched : r.made.filter (fun t => t.condition = condition) =
        r.seenOf AlertTransition.condition condition sink ++ rest := hrest.symm
    rw [hmatched, map_append] at hmade
    rw [hseen]
    exact hmade.of_append
  · rw [hfirst hpos, ← getLast?_map]
    exact (h.latched condition).2
  · have hrounds : r.rounds = [] := by rw [h.refines.rounds, hidle, map_nil]
    rw [hfirst (Nat.zero_lt_of_lt hsink), hseen]
    exact h.fair.seenOf_eq condition hsink hrounds

end AlertService

open AlertService in
/-- **The transitions alternate.**  In a run in which only the last sink throws, and in which no
transition of a condition is made while a sink still waits for another one of it, the sinks agree
at all times with each other and with the latches. -/
theorem transitions_alternate (settings : AlertPreferences) (sinks : ℕ) (hubs : HubReadings)
    (events : List AlertEvent)
    (h : EachStep step Harmless (boot settings sinks hubs) events) :
    EachState step Consistent (boot settings sinks hubs) events := by
  have hagrees : EachState step (fun service => ∃ r, service.Agrees r)
      (boot settings sinks hubs) events := by
    refine h.eachState_of_step ?_ ⟨_, agrees_boot settings sinks hubs⟩
    rintro service event ⟨r, hagrees⟩ hharmless
    exact hagrees.step hharmless
  exact hagrees.mono fun service ⟨r, hagrees⟩ => hagrees.consistent

/-! Two sinks, and a controller that goes into service mode and comes back -/

def controllerIn (mode : Scheduling.EquipmentMode) : HubReadings where
  dataHub := some { mode }
  statisticsHub := none
  preferencesHub := none
  clock n := n

def enterService : List AlertEvent := [.start, .hubsChange (controllerIn .service), .hubEvent]

open AlertService in
/-- The first sink causes an evaluation when the condition is cleared again, and the last one
throws. -/
theorem transitions_alternate_service_mode :
    EachState step Consistent (boot {} 2 (controllerIn .normal))
      (enterService ++ [.sinkReturns, .sinkReturns, .hubsChange (controllerIn .normal), .hubEvent,
        .hubEvent, .sinkReturns, .sinkThrows]) :=
  transitions_alternate _ _ _ _ (by decide)

open AlertService in
/-- Of two sinks the second one misses what the first one throws at; and it is called with the
transition that is made in the call of the first before the one that it waits for. -/
theorem sinks_disagree :
    ¬ EachState step Consistent (boot {} 2 (controllerIn .normal)) (enterService ++ [.sinkThrows]) ∧
      ¬ EachState step Consistent (boot {} 2 (controllerIn .normal))
        (enterService ++ [.hubsChange (controllerIn .normal), .hubEvent, .sinkReturns, .sinkReturns,
          .sinkReturns, .sinkReturns]) := by
  constructor
  · intro h
    have hagree := h.last.agree rfl 1 (by decide) ConditionKeys.serviceMode
    have hlength := congrArg List.length hagree
    revert hlength
    decide
  · intro h
    have hfirst := (h.last.alternates 1 (by decide) ConditionKeys.serviceMode).1
    revert hfirst
    decide

end AqualinkAutomate.Alerting
