import Aqualink.Iaq.ChannelLedger

/-!
# Releasing the command channel

An armed value keeps the channel busy until the controller asks for it.  Nothing else takes it
back: neither the end of the goal that armed it, nor the end of its sequence.  `ReleaseLaw`
says that the channel is free when there is no goal and nothing in the queue, and that no value
goes out whose goal has ended.  The law holds in every run in which the controller asks for
each value in time (`releaseLaw_of_timely`).
-/

namespace AqualinkAutomate.Iaq

open General Navigation Equipment List Function

structure ReleaseLaw (channel : Channel) (ledger : Ledger) : Prop where
  released : channel.NoGoal → channel.queue = [] → channel.busy = false
  entries_live : ∀ entry ∈ ledger.entries, entry.ended = false

def Effect.ends (name : WriterName) : Effect → Bool
  | .served server _ finished => decide (server = name) && finished.isSome
  | _ => false

def Ends (name : WriterName) (effects : List Effect) : Prop :=
  ∃ effect ∈ effects, effect.ends name = true

instance (name : WriterName) (effects : List Effect) : Decidable (Ends name effects) :=
  inferInstanceAs (Decidable (∃ effect ∈ effects, effect.ends name = true))

/-- A value that is armed is asked for in time: before the goal that armed it ends, and before
the last command is sent, unless there is a goal that goes on.  A sequence without commands
does not replace the queue while a value is armed. -/
structure Ledger.Timely (ledger : Ledger) (channel : Channel) (effects : List Effect) : Prop where
  goal : channel.awaiting → ∀ name, Ends name effects →
    ledger.armedTicket ≠ some (ledger.goalTicket name)
  queue : channel.awaiting → .polled ∈ effects → channel.queue.length ≤ 1 →
    ∃ name, channel.hasGoal name ∧ ¬ Ends name effects
  survey : channel.awaiting → .queued .survey [] ∈ effects → ¬ channel.NoGoal

instance (ledger : Ledger) (channel : Channel) (effects : List Effect) :
    Decidable (ledger.Timely channel effects) :=
  decidable_of_iff
    ((channel.awaiting = true → ∀ name, Ends name effects →
        ledger.armedTicket ≠ some (ledger.goalTicket name)) ∧
      (channel.awaiting = true → .polled ∈ effects → channel.queue.length ≤ 1 →
        ∃ name, channel.hasGoal name = true ∧ ¬ Ends name effects) ∧
      (channel.awaiting = true → .queued .survey [] ∈ effects → ¬ channel.NoGoal))
    ⟨fun ⟨hgoal, hqueue, hsurvey⟩ => ⟨hgoal, hqueue, hsurvey⟩, fun h => ⟨h.goal, h.queue, h.survey⟩⟩

def Watched.Timely (watched : Watched) (event : IaqEvent) : Prop :=
  watched.ledger.Timely watched.device.channel (watched.device.react event).2

instance (watched : Watched) (event : IaqEvent) : Decidable (watched.Timely event) :=
  inferInstanceAs (Decidable (watched.ledger.Timely watched.device.channel _))

structure ReleaseInvariant (channel : Channel) (ledger : Ledger) : Prop extends
    ReleaseLaw channel ledger where
  oneGoal : channel.OneGoal
  awaiting_iff : channel.awaiting = ledger.armedTicket.isSome
  awaiting_emulated : channel.awaiting = true → channel.emulated = true
  goal_emulated : ¬ channel.NoGoal → channel.emulated = true
  armed_live : ∀ ticket ∈ ledger.armedTicket, ticket ∉ ledger.ended
  goal_live : ∀ name, channel.hasGoal name = true → ledger.goalTicket name ∉ ledger.ended
  ended_numbered : ∀ ticket ∈ ledger.ended, ticket.number ≤ ledger.taken
  goal_numbered : ∀ name, (ledger.goalTicket name).number ≤ ledger.taken

theorem Ledger.serve_frame (ledger : Ledger) (ticket : Ticket) (calls : SinkCalls)
    (finished : Option Bool) :
    (ledger.serve ticket calls finished).entries = ledger.entries ∧
      (ledger.serve ticket calls finished).ended =
        (if finished.isSome then ledger.ended ++ [ticket] else ledger.ended) ∧
      (ledger.serve ticket calls finished).taken = ledger.taken ∧
      (ledger.serve ticket calls finished).goalTicket = ledger.goalTicket ∧
      (ledger.serve ticket calls finished).armedTicket =
        if calls.controlValue.isSome then some ticket else ledger.armedTicket := by
  obtain ⟨command, controlValue, press⟩ := calls
  cases command <;> cases controlValue <;> cases finished <;> exact ⟨rfl, rfl, rfl, rfl, rfl⟩

namespace ReleaseInvariant

variable {channel : Channel} {ledger : Ledger} (h : ReleaseInvariant channel ledger)

include h

theorem next_notMem_ended (kind : RequestKind) : ledger.next kind ∉ ledger.ended := fun hmem =>
  absurd (h.ended_numbered _ hmem) (Nat.not_succ_le_self _)

theorem setpoint (field : UInt8) (hactive : channel.active) :
    ReleaseInvariant
      { channel with queue := IaqDevice.setpointCommands field, awaiting := true }
      (ledger.note (.queued .setpoint (IaqDevice.setpointCommands field))) where
  released _ hqueue := by cases hqueue
  entries_live := h.entries_live
  oneGoal := h.oneGoal
  awaiting_iff := rfl
  awaiting_emulated _ := (Bool.and_eq_true_iff.mp hactive).1
  goal_emulated := h.goal_emulated
  armed_live ticket hticket := by
    cases hticket
    exact h.next_notMem_ended _
  goal_live := h.goal_live
  ended_numbered ticket hticket := Nat.le_succ_of_le (h.ended_numbered ticket hticket)
  goal_numbered name := Nat.le_succ_of_le (h.goal_numbered name)

theorem survey {commands : List UInt8}
    (htimely : ledger.Timely channel [.queued .survey commands]) :
    ReleaseInvariant { channel with queue := commands } (ledger.note (.queued .survey commands)) :=
  { h with
    released := by
      intro hnone hqueue
      obtain rfl : commands = [] := hqueue
      refine Channel.busy_eq_false_iff.mpr ⟨hnone, rfl, ?_⟩
      refine (Bool.not_eq_true _).mp fun hawaiting => ?_
      exact htimely.survey hawaiting (mem_singleton_self _) hnone
    ended_numbered := fun ticket hticket => Nat.le_succ_of_le (h.ended_numbered ticket hticket)
    goal_numbered := fun name => Nat.le_succ_of_le (h.goal_numbered name) }

theorem takeGoal {name : WriterName} (hemulated : channel.emulated)
    (honeGoal : Channel.OneGoal
      { channel with hasGoal := Function.update channel.hasGoal name true }) :
    ReleaseInvariant { channel with hasGoal := Function.update channel.hasGoal name true }
      (ledger.note (.goalTaken name)) where
  released hnone := by
    have hgoal : Function.update channel.hasGoal name true name = false := hnone name
    rw [update_self] at hgoal
    cases hgoal
  entries_live := h.entries_live
  oneGoal := honeGoal
  awaiting_iff := h.awaiting_iff
  awaiting_emulated := h.awaiting_emulated
  goal_emulated _ := hemulated
  armed_live := h.armed_live
  goal_live := by
    intro other hother
    change Function.update ledger.goalTicket name (ledger.next .goal) other ∉ ledger.ended
    have heq : other = name := by
      refine honeGoal other name hother ?_
      exact update_self ..
    rw [heq, update_self]
    exact h.next_notMem_ended _
  ended_numbered ticket hticket := Nat.le_succ_of_le (h.ended_numbered ticket hticket)
  goal_numbered := ledger.number_update_le name h.goal_numbered

/-- The answer to a poll, after the step of a writer if there was one. -/
theorem send (hasked : channel.awaiting → channel.queue.length ≤ 1 → ¬ channel.NoGoal) :
    ReleaseInvariant channel.send (channel.sending.foldl Ledger.note ledger) := by
  have hchannel : ReleaseInvariant channel.send ledger := by
    refine ⟨⟨?_, h.entries_live⟩, ?_, ?_, ?_, ?_, h.armed_live, ?_, h.ended_numbered,
      h.goal_numbered⟩
    · intro hnone hqueue
      rw [Channel.NoGoal, Channel.hasGoal_send] at hnone
      refine Channel.busy_eq_false_iff.mpr
        ⟨by rwa [Channel.NoGoal, Channel.hasGoal_send], hqueue, ?_⟩
      rw [Channel.queue_send] at hqueue
      rw [Channel.awaiting_send]
      have hlength : channel.queue.length ≤ 1 := by
        have := congrArg List.length hqueue
        rw [length_tail, length_nil] at this
        omega
      exact (Bool.not_eq_true _).mp fun hawaiting => hasked hawaiting hlength hnone
    · rw [Channel.OneGoal, Channel.hasGoal_send]
      exact h.oneGoal
    · rw [Channel.awaiting_send, h.awaiting_iff]
    · rw [Channel.awaiting_send, Channel.emulated_send]
      exact h.awaiting_emulated
    · rw [Channel.NoGoal, Channel.hasGoal_send, Channel.emulated_send]
      exact h.goal_emulated
    · rw [Channel.hasGoal_send]
      exact h.goal_live
  unfold Channel.sending
  split
  · exact hchannel
  · split
    · exact { hchannel with }
    · split
      · exact hchannel
      · exact { hchannel with }

section

variable {name : WriterName} {calls : SinkCalls}

theorem serveOn (hgoal : channel.hasGoal name) :
    ReleaseInvariant (channel.serve name calls none)
      (ledger.serve (ledger.goalTicket name) calls none) := by
  obtain ⟨hentries, hended, htaken, hgoalTicket, harmed⟩ :=
    ledger.serve_frame (ledger.goalTicket name) calls none
  rw [if_neg (by decide)] at hended
  have hgoals : (channel.serve name calls none).hasGoal = channel.hasGoal := by
    refine Eq.trans ?_ (update_eq_self name channel.hasGoal)
    rw [hgoal]
    rfl
  have hsome : ¬ channel.NoGoal := fun hnone => by
    rw [hnone name] at hgoal
    cases hgoal
  refine ⟨⟨?_, ?_⟩, ?_, ?_, fun _ => h.goal_emulated hsome, fun _ => h.goal_emulated hsome, ?_, ?_,
    ?_, ?_⟩
  · intro hnone
    rw [Channel.NoGoal, hgoals] at hnone
    exact absurd hnone hsome
  · rw [hentries]
    exact h.entries_live
  · rw [Channel.OneGoal, hgoals]
    exact h.oneGoal
  · rw [harmed]
    change (calls.controlValue.isSome || channel.awaiting) = _
    split
    next hvalue => rw [hvalue]; rfl
    next hvalue => rw [(Bool.not_eq_true _).mp hvalue, Bool.false_or, h.awaiting_iff]
  · rw [harmed, hended]
    intro ticket hticket
    split at hticket
    · cases hticket
      exact h.goal_live name hgoal
    · exact h.armed_live ticket hticket
  · rw [hgoals, hgoalTicket, hended]
    exact h.goal_live
  · rw [hended, htaken]
    exact h.ended_numbered
  · rw [hgoalTicket, htaken]
    exact h.goal_numbered

theorem serveEnd (hgoal : channel.hasGoal name) (ok : Bool)
    (hown : channel.awaiting → ledger.armedTicket ≠ some (ledger.goalTicket name))
    (hasked : channel.queue = [] → channel.awaiting = false) :
    ReleaseInvariant (channel.serve name (.issue cmdDwell) (some ok))
      (ledger.serve (ledger.goalTicket name) (.issue cmdDwell) (some ok)) := by
  have hnone := h.oneGoal.noGoal_end hgoal
  have hnot : ∀ other, Function.update channel.hasGoal name false other ≠ true :=
    fun other => (Bool.not_eq_true _).mpr (hnone other)
  have hsome : ¬ channel.NoGoal := fun hnone => by
    rw [hnone name] at hgoal
    cases hgoal
  exact
    { entries_live := h.entries_live
      awaiting_iff := h.awaiting_iff
      awaiting_emulated := h.awaiting_emulated
      goal_numbered := h.goal_numbered
      released := fun _ hqueue => Channel.busy_eq_false_iff.mpr ⟨hnone, hqueue, hasked hqueue⟩
      oneGoal := fun other _ hother => absurd hother (hnot other)
      goal_emulated := fun _ => h.goal_emulated hsome
      armed_live := by
        intro ticket hticket hmem
        rcases List.mem_append.mp hmem with hold | hnew
        · exact h.armed_live ticket hticket hold
        · obtain rfl := List.mem_singleton.mp hnew
          exact hown (h.awaiting_iff.trans (Option.isSome_iff_exists.mpr ⟨_, hticket⟩)) hticket
      goal_live := fun other hother => absurd hother (hnot other)
      ended_numbered := by
        intro ticket hticket
        rcases List.mem_append.mp hticket with hold | hnew
        · exact h.ended_numbered ticket hold
        · rw [List.mem_singleton.mp hnew]
          exact h.goal_numbered name }

end

theorem answer (value : Text) :
    ReleaseInvariant { channel with awaiting := false } (ledger.note (.answered value)) :=
  { h with
    released := fun hnone hqueue => Channel.busy_eq_false_iff.mpr ⟨hnone, hqueue, rfl⟩
    entries_live := by
      intro entry hentry
      rcases List.mem_append.mp hentry with hold | hnew
      · exact h.entries_live entry hold
      · rw [List.mem_singleton.mp hnew]
        refine (Bool.not_eq_true _).mp fun hended => ?_
        obtain ⟨ticket, hticket, hmem⟩ := (Option.any_eq_true _ _).mp hended
        exact h.armed_live ticket hticket (of_decide_eq_true hmem)
    awaiting_iff := rfl
    awaiting_emulated := nofun
    armed_live := fun _ h => by cases h }

theorem step {channel' : Channel} {effects : List Effect}
    (hstep : ChannelStep channel effects channel') (htimely : ledger.Timely channel effects) :
    ReleaseInvariant channel' (effects.foldl Ledger.note ledger) := by
  have honeGoal : channel'.OneGoal := hstep.oneGoal h.oneGoal
  cases hstep with
  | quiet => exact h
  | setpoint field hactive => exact h.setpoint field hactive
  | survey commands hemulated => exact h.survey htimely
  | press command button wish =>
    exact
      { h with
        ended_numbered := fun ticket hticket =>
          Nat.le_succ_of_le (h.ended_numbered ticket hticket)
        goal_numbered := fun name => Nat.le_succ_of_le (h.goal_numbered name) }
  | takeGoal name hemulated hfree => exact h.takeGoal hemulated honeGoal
  | poll hnone =>
    refine h.send fun hawaiting hlength => ?_
    obtain ⟨name, hgoal, -⟩ := htimely.queue hawaiting mem_cons_self hlength
    rw [hnone name] at hgoal
    cases hgoal
  | pollServing name calls finished hgoal hdwells hsubmits =>
    have hserved : Effect.served name calls finished ∈
        .polled :: .served name calls finished :: (channel.serve name calls finished).sending :=
      mem_cons_of_mem _ mem_cons_self
    cases finished with
    | none =>
      refine (h.serveOn hgoal).send fun _ _ hnone => ?_
      have hgone : Function.update channel.hasGoal name true name = false := hnone name
      rw [update_self] at hgone
      cases hgone
    | some ok =>
      obtain rfl := hdwells rfl
      have hends : Ends name _ := ⟨_, hserved, by simp [Effect.ends]⟩
      -- the only goal ends, so none is left that goes on
      have hasked : channel.awaiting → ¬ channel.queue.length ≤ 1 := by
        intro hawaiting hlength
        obtain ⟨other, hother, hon⟩ := htimely.queue hawaiting mem_cons_self hlength
        rw [h.oneGoal other name hother hgoal] at hon
        exact hon hends
      have hend := h.serveEnd hgoal ok (fun hawaiting => htimely.goal hawaiting name hends)
        fun hqueue => (Bool.not_eq_true _).mp fun hawaiting =>
          hasked hawaiting (by rw [hqueue]; decide)
      exact hend.send fun hawaiting hlength => absurd hlength (hasked hawaiting)
  | answer value hawaiting =>
    rw [if_pos (h.awaiting_emulated hawaiting)]
    exact h.answer value
  | suppress => exact { h with }

omit h in
theorem start (emulated : Bool) : ReleaseInvariant (Watched.start emulated).device.channel {} where
  released _ _ := rfl
  entries_live := fun _ h => by cases h
  oneGoal name _ h := by cases name <;> cases h
  awaiting_iff := rfl
  awaiting_emulated h := by cases h
  goal_emulated h := absurd (fun name => by cases name <;> rfl) h
  armed_live := fun _ h => by cases h
  goal_live name h := by cases name <;> cases h
  ended_numbered := fun _ h => by cases h
  goal_numbered _ := Nat.le_refl _

end ReleaseInvariant

/-- In a run in which the controller asks for each value in time the channel is released. -/
theorem releaseLaw_of_timely (emulated : Bool) (events : List IaqEvent)
    (h : EachStep Watched.step Watched.Timely (Watched.start emulated) events) :
    EachState Watched.step (fun watched => ReleaseLaw watched.device.channel watched.ledger)
      (Watched.start emulated) events := by
  have hrun : EachState Watched.step
      (fun watched => ReleaseInvariant watched.device.channel watched.ledger)
      (Watched.start emulated) events :=
    h.eachState_of_step (fun watched event hinv htimely =>
        hinv.step (IaqDevice.channelStep_react hinv.oneGoal event) htimely)
      (ReleaseInvariant.start emulated)
  exact hrun.mono fun _ hinv => hinv.toReleaseLaw

def setOutput (controlReady late : List IaqEvent) : List IaqEvent :=
  [.message (.page (.pageStart AquaPureWriter.pageSetSwg)),
    .message (.page (.pageButton 0 "Set Pool to: 20%".toList .off)),
    .request (.chlorinatorPercentage 50 .pool)] ++
    replicate 7 (.message .poll) ++ controlReady ++
    [.message (.page (.pageStart pageHome))] ++ replicate 5 (.message .poll) ++ late

/-- The controller asks for the value right after the submit. -/
theorem releaseLaw_of_setOutput :
    EachState Watched.step (fun watched => ReleaseLaw watched.device.channel watched.ledger)
      (Watched.start true) (setOutput [.message .controlReady] []) :=
  releaseLaw_of_timely true _ (by decide +kernel)

/-- The controller asks for the value only after the goal has ended. -/
theorem not_releaseLaw_of_late_controlReady :
    ¬ EachState Watched.step (fun watched => ReleaseLaw watched.device.channel watched.ledger)
        (Watched.start true) (setOutput [] [.message .controlReady]) := by
  intro h
  have hlive := h.last.entries_live
  revert hlive
  decide +kernel

end AqualinkAutomate.Iaq
