import Aqualink.General.TaggedLog
import Aqualink.Iaq.Channel

/-!
# Who owns the command channel

The ledger follows the effects of the device.  Every request that is accepted gets a ticket, and
the ledger notes which commands are owed under it, which went out, and whose value was entered.
`ChannelLaw` says that the channel has one owner at a time.

A setpoint, a press and the survey do not look whether the channel is free, and replace what they
find there.  If they come only when it is (`Orderly`), the law holds in every run
(`channelLaw_of_orderly`).
-/

namespace AqualinkAutomate.Iaq

open General Navigation Equipment List Function

inductive RequestKind where
  | sequence (kind : SequenceKind)
  | press
  | goal
  deriving DecidableEq

structure Ticket where
  number : ℕ
  kind : RequestKind
  deriving DecidableEq

/-- A value that went out: whose it was, after which command, and whether the goal of its
owner had ended by then. -/
structure ValueEntry where
  owner : Option Ticket
  lastSent : Option (Tagged Ticket UInt8)
  ended : Bool
  deriving DecidableEq

def RequestKind.entersValue : RequestKind → Bool
  | .sequence .setpoint | .goal => true
  | .sequence .survey | .press => false

structure Ledger where
  taken : ℕ := 0
  owed : List (Tagged Ticket UInt8) := []
  sent : List (Tagged Ticket UInt8) := []
  queueTicket : Ticket := ⟨0, .press⟩
  pendingTicket : Ticket := ⟨0, .press⟩
  goalTicket : WriterName → Ticket := fun _ => ⟨0, .goal⟩
  armedTicket : Option Ticket := none
  goals : List Ticket := []
  ended : List Ticket := []
  /-- The owners of values that were replaced, with those who replaced them. -/
  replaced : List (Ticket × Ticket) := []
  entries : List ValueEntry := []

namespace Ledger

def next (ledger : Ledger) (kind : RequestKind) : Ticket := ⟨ledger.taken + 1, kind⟩

def accept (ledger : Ledger) (kind : RequestKind) (commands : List UInt8) : Ledger :=
  { ledger with
    taken := ledger.taken + 1
    owed := ledger.owed ++ commands.map (Tagged.mk (ledger.next kind)) }

def arm (ledger : Ledger) (ticket : Ticket) : Ledger :=
  { ledger with
    armedTicket := some ticket
    replaced := ledger.replaced ++ ledger.armedTicket.toList.map fun owner => (owner, ticket) }

/-- A step of a goal puts a command into the channel.  To let a poll pass is no command. -/
def issue (ledger : Ledger) (ticket : Ticket) : Option UInt8 → Ledger
  | none => ledger
  | some command =>
    { ledger with
      pendingTicket := ticket
      owed := if command = cmdDwell then ledger.owed else ledger.owed ++ [⟨ticket, command⟩] }

def send (ledger : Ledger) (ticket : Ticket) (command : UInt8) : Ledger :=
  { ledger with sent := ledger.sent ++ [⟨ticket, command⟩] }

def serve (ledger : Ledger) (ticket : Ticket) (calls : SinkCalls) (finished : Option Bool) :
    Ledger :=
  let issued := ledger.issue ticket calls.command
  let armed := if calls.controlValue.isSome then issued.arm ticket else issued
  if finished.isSome then { armed with ended := armed.ended ++ [ticket] } else armed

def note (ledger : Ledger) : Effect → Ledger
  | .queued kind commands =>
    let ticket := ledger.next (.sequence kind)
    let queued := { ledger.accept (.sequence kind) commands with queueTicket := ticket }
    if kind = .setpoint then queued.arm ticket else queued
  | .pressed command _ _ =>
    { ledger.accept .press [command] with pendingTicket := ledger.next .press }
  | .goalTaken name =>
    { ledger.accept .goal [] with
      goals := ledger.goals ++ [ledger.next .goal]
      goalTicket := Function.update ledger.goalTicket name (ledger.next .goal) }
  | .served name calls finished => ledger.serve (ledger.goalTicket name) calls finished
  | .sentQueued command => ledger.send ledger.queueTicket command
  | .sentPending command => ledger.send ledger.pendingTicket command
  | .answered _ =>
    { ledger with
      armedTicket := none
      entries := ledger.entries ++
        [⟨ledger.armedTicket, ledger.sent.getLast?,
          ledger.armedTicket.any fun owner => owner ∈ ledger.ended⟩] }
  | .polled | .suppressed => ledger

theorem number_update_le (ledger : Ledger) (name : WriterName)
    (hnumbered : ∀ other, (ledger.goalTicket other).number ≤ ledger.taken) (other : WriterName) :
    (Function.update ledger.goalTicket name (ledger.next .goal) other).number ≤
      ledger.taken + 1 := by
  by_cases heq : other = name
  · rw [heq, update_self]
    exact Nat.le_refl _
  · rw [update_of_ne heq]
    exact Nat.le_succ_of_le (hnumbered other)

end Ledger

def heldFor (queueTicket pendingTicket : Ticket) (queue : List UInt8) (pending : UInt8)
    (ticket : Ticket) : List UInt8 :=
  (if queueTicket = ticket then queue else []) ++
    if pendingTicket = ticket ∧ pending ≠ 0x00 then [pending] else []

def Ledger.waiting (ledger : Ledger) (channel : Channel) : Ticket → List UInt8 :=
  heldFor ledger.queueTicket ledger.pendingTicket channel.queue channel.pending

structure Watched where
  device : IaqDevice
  ledger : Ledger := {}

namespace Watched

def start (emulated : Bool) : Watched where
  device := { emulated := emulated }

def step (watched : Watched) (event : IaqEvent) : Watched where
  device := (watched.device.react event).1
  ledger := (watched.device.react event).2.foldl Ledger.note watched.ledger

end Watched

/-! ## The law -/

/-- The channel has one owner at a time. -/
structure ChannelLaw (channel : Channel) (ledger : Ledger) : Prop where
  /-- Nothing that is owed is lost, and nothing else is sent. -/
  complete : Accounted ledger.owed ledger.sent (ledger.waiting channel)
  contiguous : Grouped (ledger.sent.map Tagged.tag)
  goals_kept : ∀ ticket ∈ ledger.goals,
    (∃ name, channel.hasGoal name ∧ ledger.goalTicket name = ticket) ∨
      ticket ∈ ledger.ended
  values_kept : ∀ pair ∈ ledger.replaced, pair.1 = pair.2
  entries_own : ∀ entry ∈ ledger.entries, ∃ ticket,
    entry.owner = some ticket ∧ entry.lastSent = some ⟨ticket, cmdSubmitValue⟩

/-- The effect comes when it does not get in the way of another request. -/
def Ledger.Orderly (ledger : Ledger) (channel : Channel) : Effect → Prop
  | .queued .setpoint _ => channel.busy = false
  | .queued .survey _ => channel.NoGoal ∧ channel.queue = [] ∧ channel.active = true
  | .pressed command _ _ =>
    channel.NoGoal ∧ channel.pending = 0x00 ∧ channel.active = true ∧ command ≠ 0x00
  | .goalTaken _ => channel.pending = 0x00 ∧ channel.active = true
  | .answered _ =>
    channel.queue = [] ∧ ∃ last ∈ ledger.sent.getLast?,
      last.item = cmdSubmitValue ∧ last.tag.kind.entersValue = true
  | .suppressed => channel.NoGoal ∧ channel.queue = [] ∧ channel.pending = 0x00
  | .polled | .served _ _ _ | .sentQueued _ | .sentPending _ => True

instance (ledger : Ledger) (channel : Channel) :
    ∀ effect, Decidable (ledger.Orderly channel effect)
  | .queued .setpoint _ => inferInstanceAs (Decidable (channel.busy = false))
  | .queued .survey _ =>
    inferInstanceAs (Decidable (channel.NoGoal ∧ channel.queue = [] ∧ channel.active = true))
  | .pressed command _ _ => inferInstanceAs (Decidable
      (channel.NoGoal ∧ channel.pending = 0x00 ∧ channel.active = true ∧ command ≠ 0x00))
  | .goalTaken _ => inferInstanceAs (Decidable (channel.pending = 0x00 ∧ channel.active = true))
  | .answered _ => inferInstanceAs (Decidable (channel.queue = [] ∧
      ∃ last ∈ ledger.sent.getLast?,
        last.item = cmdSubmitValue ∧ last.tag.kind.entersValue = true))
  | .suppressed =>
    inferInstanceAs (Decidable (channel.NoGoal ∧ channel.queue = [] ∧ channel.pending = 0x00))
  | .polled | .served _ _ _ | .sentQueued _ | .sentPending _ => .isTrue trivial

/-- Whatever the event sets off comes when it does not get in the way. -/
def Watched.Orderly (watched : Watched) (event : IaqEvent) : Prop :=
  ∀ effect ∈ (watched.device.react event).2,
    watched.ledger.Orderly watched.device.channel effect

instance (watched : Watched) (event : IaqEvent) : Decidable (watched.Orderly event) :=
  inferInstanceAs (Decidable (∀ effect ∈ (watched.device.react event).2,
    watched.ledger.Orderly watched.device.channel effect))

/-! ## What is held -/

section

variable {queueTicket pendingTicket ticket : Ticket} {queue rest : List UInt8}
  {pending command : UInt8}

theorem heldFor_newQueue {new : Ticket} (hne : new ≠ pendingTicket) :
    heldFor new pendingTicket queue pending ticket =
      if new = ticket then queue else heldFor queueTicket pendingTicket [] pending ticket := by
  unfold heldFor
  rw [ite_self, nil_append]
  by_cases hticket : new = ticket
  · rw [if_pos hticket, if_pos hticket, if_neg fun h => hne (hticket.trans h.1.symm), append_nil]
  · rw [if_neg hticket, if_neg hticket, nil_append]

theorem heldFor_newPending {new : Ticket} (hne : new ≠ queueTicket) (hpending : pending ≠ 0x00) :
    heldFor queueTicket new queue pending ticket =
      if new = ticket then [pending] else heldFor queueTicket pendingTicket queue 0x00 ticket := by
  unfold heldFor
  rw [if_neg fun h : pendingTicket = ticket ∧ (0x00 : UInt8) ≠ 0x00 => h.2 rfl, append_nil]
  by_cases hticket : new = ticket
  · have hqueue : queueTicket ≠ ticket := fun h => hne (hticket.trans h.symm)
    rw [if_neg hqueue, if_pos ⟨hticket, hpending⟩, if_pos hticket, nil_append]
  · have hnothing : ¬ (new = ticket ∧ pending ≠ 0x00) := fun h => hticket h.1
    rw [if_neg hnothing, if_neg hticket, append_nil]

theorem heldFor_cons :
    heldFor queueTicket pendingTicket (command :: rest) pending ticket =
      if queueTicket = ticket then
        command :: heldFor queueTicket pendingTicket rest pending ticket
      else heldFor queueTicket pendingTicket rest pending ticket := by
  unfold heldFor
  split
  · rfl
  · rfl

theorem heldFor_pending (hpending : pending ≠ 0x00) :
    heldFor queueTicket pendingTicket [] pending ticket =
      if pendingTicket = ticket then
        pending :: heldFor queueTicket pendingTicket [] 0x00 ticket
      else heldFor queueTicket pendingTicket [] 0x00 ticket := by
  unfold heldFor
  rw [ite_self, nil_append, nil_append,
    if_neg fun h : pendingTicket = ticket ∧ (0x00 : UInt8) ≠ 0x00 => h.2 rfl]
  by_cases hticket : pendingTicket = ticket
  · rw [if_pos ⟨hticket, hpending⟩, if_pos hticket]
  · rw [if_neg fun h => hticket h.1, if_neg hticket]

theorem heldFor_nothing : heldFor queueTicket pendingTicket [] 0x00 ticket = [] := by
  unfold heldFor
  rw [ite_self, nil_append, if_neg fun h => h.2 rfl]

end

/-! ## The invariant -/

/-- What holds besides the law between two events. -/
structure ChannelInvariant (channel : Channel) (ledger : Ledger) : Prop extends
    ChannelLaw channel ledger where
  sent_numbered : ∀ ticket ∈ ledger.sent.map Tagged.tag, ticket.number ≤ ledger.taken
  owed_numbered : ∀ ticket ∈ ledger.owed.map Tagged.tag, ticket.number ≤ ledger.taken
  queue_numbered : ledger.queueTicket.number ≤ ledger.taken
  pending_numbered : ledger.pendingTicket.number ≤ ledger.taken
  goal_numbered : ∀ name, (ledger.goalTicket name).number ≤ ledger.taken
  /-- Who has commands to send either sent the last one, or did not send any. -/
  queue_next : channel.queue ≠ [] → ledger.queueTicket ∈ ledger.sent.map Tagged.tag →
    (ledger.sent.map Tagged.tag).getLast? = some ledger.queueTicket
  pending_press : channel.pending ≠ 0x00 → ledger.pendingTicket.kind = .press
  pending_unsent : channel.pending ≠ 0x00 → ledger.pendingTicket ∉ ledger.sent.map Tagged.tag
  goal_next : ∀ name, channel.hasGoal name = true →
    ledger.goalTicket name ∈ ledger.sent.map Tagged.tag →
    (ledger.sent.map Tagged.tag).getLast? = some (ledger.goalTicket name)
  distinct : channel.queue ≠ [] → channel.pending ≠ 0x00 →
    ledger.queueTicket ≠ ledger.pendingTicket
  goal_alone : ∀ name, channel.hasGoal name = true → channel.queue = [] ∧ channel.pending = 0x00
  goal_armed : ∀ name, channel.hasGoal name = true →
    ∀ ticket ∈ ledger.armedTicket, ticket = ledger.goalTicket name
  oneGoal : channel.OneGoal
  awaiting_iff : channel.awaiting = ledger.armedTicket.isSome
  awaiting_emulated : channel.awaiting = true → channel.emulated = true
  armed_queue : ∀ ticket ∈ ledger.armedTicket, channel.queue ≠ [] →
    ledger.queueTicket = ticket ∨ ledger.queueTicket.kind.entersValue = false
  armed_last : ∀ ticket ∈ ledger.armedTicket, channel.queue = [] →
    ∃ last, ledger.sent.getLast? = some last ∧
      (last.tag = ticket ∨ last.tag.kind.entersValue = false)
  active : channel.queue ≠ [] ∨ channel.pending ≠ 0x00 ∨ ¬ channel.NoGoal →
    channel.active = true

namespace ChannelInvariant

variable {channel : Channel} {ledger : Ledger} (h : ChannelInvariant channel ledger)

include h

section

variable (kind : RequestKind)

theorem next_notMem_sent : ledger.next kind ∉ ledger.sent.map Tagged.tag := fun hmem =>
  absurd (h.sent_numbered _ hmem) (Nat.not_succ_le_self _)

theorem next_notMem_owed : ledger.next kind ∉ ledger.owed.map Tagged.tag := fun hmem =>
  absurd (h.owed_numbered _ hmem) (Nat.not_succ_le_self _)

theorem next_ne_queueTicket : ledger.next kind ≠ ledger.queueTicket := fun heq =>
  absurd (heq ▸ h.queue_numbered) (Nat.not_succ_le_self _)

theorem next_ne_pendingTicket : ledger.next kind ≠ ledger.pendingTicket := fun heq =>
  absurd (heq ▸ h.pending_numbered) (Nat.not_succ_le_self _)

theorem owed_accept (commands : List UInt8) :
    ∀ ticket ∈ (ledger.accept kind commands).owed.map Tagged.tag,
      ticket.number ≤ ledger.taken + 1 := by
  intro ticket hticket
  rw [Ledger.accept, map_append, mem_append] at hticket
  rcases hticket with hold | hnew
  · exact Nat.le_succ_of_le (h.owed_numbered ticket hold)
  · simp only [map_map, mem_map, comp_apply] at hnew
    obtain ⟨-, -, rfl⟩ := hnew
    exact Nat.le_refl _

end

theorem queue (kind : SequenceKind) (commands : List UInt8) (hnone : channel.NoGoal)
    (hqueue : channel.queue = []) (hactive : channel.active)
    (harmed : ledger.armedTicket.isSome → (RequestKind.sequence kind).entersValue = false) :
    ChannelInvariant { channel with queue := commands }
      { ledger.accept (.sequence kind) commands with
        queueTicket := ledger.next (.sequence kind) } :=
  { h with
    complete := by
      refine h.complete.accept (h.next_notMem_owed _) fun ticket => ?_
      rw [Ledger.waiting, Ledger.waiting, hqueue]
      exact heldFor_newQueue (h.next_ne_pendingTicket _)
    sent_numbered := fun ticket hticket => Nat.le_succ_of_le (h.sent_numbered ticket hticket)
    owed_numbered := h.owed_accept _ _
    queue_numbered := Nat.le_refl _
    pending_numbered := Nat.le_succ_of_le h.pending_numbered
    goal_numbered := fun name => Nat.le_succ_of_le (h.goal_numbered name)
    queue_next := fun _ hmem => absurd hmem (h.next_notMem_sent _)
    distinct := fun _ _ => h.next_ne_pendingTicket _
    goal_alone := fun name hgoal => absurd hgoal (by rw [hnone name]; decide)
    armed_queue := fun ticket hticket _ =>
      .inr (harmed (Option.isSome_iff_exists.mpr ⟨ticket, hticket⟩))
    armed_last := fun ticket hticket _ => h.armed_last ticket hticket hqueue
    active := fun _ => hactive }

theorem armQueue (hnone : channel.NoGoal) (hawaiting : channel.awaiting = false)
    (hqueue : channel.queue ≠ []) (hemulated : channel.emulated) :
    ChannelInvariant { channel with awaiting := true } (ledger.arm ledger.queueTicket) := by
  have hunarmed : ledger.armedTicket = none := by
    rw [← Option.not_isSome_iff_eq_none, ← h.awaiting_iff, hawaiting]
    decide
  exact
    { h with
      values_kept := by
        rw [Ledger.arm, hunarmed, Option.toList_none, map_nil, append_nil]
        exact h.values_kept
      goal_armed := fun name hgoal => absurd hgoal (by rw [hnone name]; decide)
      awaiting_iff := rfl
      awaiting_emulated := fun _ => hemulated
      armed_queue := fun ticket hticket _ => .inl (Option.some_inj.mp hticket)
      armed_last := fun ticket hticket hempty => absurd hempty hqueue }

theorem press {command : UInt8} (hnone : channel.NoGoal) (hpending : channel.pending = 0x00)
    (hactive : channel.active) (hcommand : command ≠ 0x00) :
    ChannelInvariant { channel with pending := command }
      { ledger.accept .press [command] with pendingTicket := ledger.next .press } :=
  { h with
    complete := by
      refine h.complete.accept (h.next_notMem_owed _) fun ticket => ?_
      rw [Ledger.waiting, Ledger.waiting, hpending]
      exact heldFor_newPending (h.next_ne_queueTicket _) hcommand
    sent_numbered := fun ticket hticket => Nat.le_succ_of_le (h.sent_numbered ticket hticket)
    owed_numbered := h.owed_accept _ _
    queue_numbered := Nat.le_succ_of_le h.queue_numbered
    pending_numbered := Nat.le_refl _
    goal_numbered := fun name => Nat.le_succ_of_le (h.goal_numbered name)
    pending_press := fun _ => rfl
    pending_unsent := fun _ => h.next_notMem_sent _
    distinct := fun _ _ => (h.next_ne_queueTicket _).symm
    goal_alone := fun name hgoal => absurd hgoal (by rw [hnone name]; decide)
    active := fun _ => hactive }

theorem takeGoal (name : WriterName) (hfree : channel.busy = false)
    (hpending : channel.pending = 0x00) (hactive : channel.active)
    (honeGoal : Channel.OneGoal
      { channel with hasGoal := Function.update channel.hasGoal name true }) :
    ChannelInvariant { channel with hasGoal := Function.update channel.hasGoal name true }
      { ledger.accept .goal [] with
        goals := ledger.goals ++ [ledger.next .goal]
        goalTicket := Function.update ledger.goalTicket name (ledger.next .goal) } := by
  obtain ⟨hnone, hqueue, hawaiting⟩ := Channel.busy_eq_false_iff.mp hfree
  have hunarmed : ledger.armedTicket = none := by
    rw [← Option.not_isSome_iff_eq_none, ← h.awaiting_iff, hawaiting]
    decide
  -- the writer that has taken the goal is the only one with a goal
  have honly : ∀ other, Function.update channel.hasGoal name true other → other = name := by
    intro other hother
    by_contra hne
    rw [update_of_ne hne, hnone other] at hother
    cases hother
  exact
    { h with
      complete := by
        have howed : (ledger.accept .goal []).owed = ledger.owed := append_nil _
        rw [howed]
        exact h.complete
      goals_kept := by
        intro ticket hticket
        rcases List.mem_append.mp hticket with hold | hnew
        · rcases h.goals_kept ticket hold with ⟨other, hother, -⟩ | hended
          · rw [hnone other] at hother
            cases hother
          · exact .inr hended
        · rw [List.mem_singleton.mp hnew]
          exact .inl ⟨name, update_self .., update_self ..⟩
      sent_numbered := fun ticket hticket => Nat.le_succ_of_le (h.sent_numbered ticket hticket)
      owed_numbered := h.owed_accept _ _
      queue_numbered := Nat.le_succ_of_le h.queue_numbered
      pending_numbered := Nat.le_succ_of_le h.pending_numbered
      goal_numbered := ledger.number_update_le name h.goal_numbered
      goal_next := by
        intro other hother hmem
        change Function.update ledger.goalTicket name (ledger.next .goal) other ∈ _ at hmem
        rw [honly other hother, update_self] at hmem
        exact absurd hmem (h.next_notMem_sent _)
      goal_alone := fun _ _ => ⟨hqueue, hpending⟩
      goal_armed := by
        intro other _ ticket hticket
        cases hunarmed.symm.trans hticket
      oneGoal := honeGoal
      active := fun _ => hactive }

theorem sendQueued {command : UInt8} {rest : List UInt8}
    (hqueue : channel.queue = command :: rest) :
    ChannelInvariant { channel with queue := rest } (ledger.send ledger.queueTicket command) := by
  have hwaits : channel.queue ≠ [] := by
    rw [hqueue]
    exact cons_ne_nil _ _
  have hnone : channel.NoGoal := fun name => (Bool.not_eq_true _).mp fun hgoal =>
    hwaits (h.goal_alone name hgoal).1
  have htags : (ledger.send ledger.queueTicket command).sent.map Tagged.tag =
      ledger.sent.map Tagged.tag ++ [ledger.queueTicket] := map_append
  exact
    { h with
      complete := by
        refine h.complete.send fun ticket => ?_
        rw [Ledger.waiting, Ledger.waiting, hqueue]
        exact heldFor_cons
      contiguous := by
        rw [htags]
        exact h.contiguous.append_singleton (h.queue_next hwaits)
      sent_numbered := by
        rw [htags]
        intro ticket hticket
        rcases List.mem_append.mp hticket with hold | hnew
        · exact h.sent_numbered ticket hold
        · rw [List.mem_singleton.mp hnew]
          exact h.queue_numbered
      queue_next := by
        rw [htags]
        exact fun _ _ => getLast?_concat
      pending_unsent := by
        rw [htags]
        intro hpending hmem
        rcases List.mem_append.mp hmem with hold | hnew
        · exact h.pending_unsent hpending hold
        · exact h.distinct hwaits hpending (List.mem_singleton.mp hnew).symm
      goal_next := fun name hgoal => absurd hgoal (by rw [hnone name]; decide)
      distinct := fun _ => h.distinct hwaits
      goal_alone := fun name hgoal => absurd hgoal (by rw [hnone name]; decide)
      armed_queue := fun ticket hticket _ => h.armed_queue ticket hticket hwaits
      armed_last := fun ticket hticket _ =>
        ⟨_, getLast?_concat, h.armed_queue ticket hticket hwaits⟩
      active := fun _ => h.active (.inl hwaits) }

theorem sendPending (hqueue : channel.queue = []) (hpending : channel.pending ≠ 0x00) :
    ChannelInvariant { channel with pending := 0x00 }
      (ledger.send ledger.pendingTicket channel.pending) := by
  have hnone : channel.NoGoal := fun name => (Bool.not_eq_true _).mp fun hgoal =>
    hpending (h.goal_alone name hgoal).2
  have htags : (ledger.send ledger.pendingTicket channel.pending).sent.map Tagged.tag =
      ledger.sent.map Tagged.tag ++ [ledger.pendingTicket] := map_append
  exact
    { h with
      complete := by
        refine h.complete.send fun ticket => ?_
        rw [Ledger.waiting, Ledger.waiting, hqueue]
        exact heldFor_pending hpending
      contiguous := by
        rw [htags]
        exact h.contiguous.append_singleton fun hmem => absurd hmem (h.pending_unsent hpending)
      sent_numbered := by
        rw [htags]
        intro ticket hticket
        rcases List.mem_append.mp hticket with hold | hnew
        · exact h.sent_numbered ticket hold
        · rw [List.mem_singleton.mp hnew]
          exact h.pending_numbered
      queue_next := fun hwaits => absurd hqueue hwaits
      pending_press := fun h => absurd rfl h
      pending_unsent := fun h => absurd rfl h
      goal_next := fun name hgoal => absurd hgoal (by rw [hnone name]; decide)
      distinct := fun _ h => absurd rfl h
      goal_alone := fun name hgoal => absurd hgoal (by rw [hnone name]; decide)
      armed_last := by
        intro ticket _ _
        refine ⟨_, getLast?_concat, .inr ?_⟩
        rw [h.pending_press hpending]
        rfl
      active := fun _ => h.active (.inr (.inl hpending)) }

/-! ### The step of a goal -/

section

variable {name : WriterName}

section

variable (hgoal : channel.hasGoal name = true)

include hgoal

theorem waiting_of_goal (ticket ticket' : Ticket) :
    heldFor ledger.queueTicket ticket channel.queue channel.pending ticket' = [] := by
  obtain ⟨hqueue, hpending⟩ := h.goal_alone name hgoal
  rw [hqueue, hpending]
  exact heldFor_nothing

/-- The step issues nothing that is owed. -/
theorem goalDwell :
    ChannelInvariant channel { ledger with pendingTicket := ledger.goalTicket name } := by
  have hpending : channel.pending = 0x00 := (h.goal_alone name hgoal).2
  exact
    { h with
      complete := by
        intro ticket
        have hcomplete := h.complete ticket
        rw [Ledger.waiting, h.waiting_of_goal hgoal] at hcomplete ⊢
        exact hcomplete
      pending_numbered := h.goal_numbered name
      pending_press := fun hne => absurd hpending hne
      pending_unsent := fun hne => absurd hpending hne
      distinct := fun _ hne => absurd hpending hne }

theorem goalCommand (command : UInt8) :
    ChannelInvariant channel
      { ledger with
        pendingTicket := ledger.goalTicket name
        owed := ledger.owed ++ [⟨ledger.goalTicket name, command⟩]
        sent := ledger.sent ++ [⟨ledger.goalTicket name, command⟩] } := by
  obtain ⟨hqueue, hpending⟩ := h.goal_alone name hgoal
  have htags : ∀ log : List (Tagged Ticket UInt8),
      (log ++ [Tagged.mk (ledger.goalTicket name) command]).map Tagged.tag =
        log.map Tagged.tag ++ [ledger.goalTicket name] := fun log => map_append
  have hnumbered : ∀ log : List (Tagged Ticket UInt8),
      (∀ ticket ∈ log.map Tagged.tag, ticket.number ≤ ledger.taken) →
        ∀ ticket ∈ (log ++ [Tagged.mk (ledger.goalTicket name) command]).map Tagged.tag,
          ticket.number ≤ ledger.taken := by
    intro log hlog ticket hticket
    rw [htags] at hticket
    rcases List.mem_append.mp hticket with hold | hnew
    · exact hlog ticket hold
    · rw [List.mem_singleton.mp hnew]
      exact h.goal_numbered name
  exact
    { h.goalDwell hgoal with
      complete := (h.goalDwell hgoal).complete.accept_send (h.waiting_of_goal hgoal _ _)
      contiguous := by
        rw [htags]
        exact h.contiguous.append_singleton (h.goal_next name hgoal)
      sent_numbered := hnumbered _ h.sent_numbered
      owed_numbered := hnumbered _ h.owed_numbered
      queue_next := fun hwaits => absurd hqueue hwaits
      pending_unsent := fun hne => absurd hpending hne
      goal_next := by
        intro other hother _
        rw [htags, h.oneGoal other name hother hgoal]
        exact getLast?_concat
      armed_last := by
        intro ticket hticket _
        have howner : ticket = ledger.goalTicket name := h.goal_armed name hgoal ticket hticket
        exact ⟨⟨ledger.goalTicket name, command⟩, getLast?_concat, .inl howner.symm⟩ }

theorem goalArm {last : Tagged Ticket UInt8} (hsent : ledger.sent.getLast? = some last)
    (hlast : last.tag = ledger.goalTicket name) :
    ChannelInvariant { channel with awaiting := true } (ledger.arm (ledger.goalTicket name)) := by
  have hactive : channel.active := by
    refine h.active (.inr (.inr fun hnone => ?_))
    rw [hnone name] at hgoal
    cases hgoal
  exact
    { h with
      values_kept := by
        intro pair hpair
        rcases List.mem_append.mp hpair with hold | hnew
        · exact h.values_kept pair hold
        · obtain ⟨owner, howner, rfl⟩ := List.mem_map.mp hnew
          exact h.goal_armed name hgoal owner (Option.mem_toList.mp howner)
      goal_armed := by
        intro other hother ticket hticket
        obtain rfl : ledger.goalTicket name = ticket := Option.some_inj.mp hticket
        exact congrArg ledger.goalTicket (h.oneGoal name other hgoal hother)
      awaiting_iff := rfl
      awaiting_emulated := fun _ => (Bool.and_eq_true_iff.mp hactive).1
      armed_queue := fun _ _ hwaits => absurd (h.goal_alone name hgoal).1 hwaits
      armed_last := by
        intro ticket hticket _
        exact ⟨last, hsent, .inl (hlast.trans (Option.some_inj.mp hticket))⟩ }

theorem goalEnd :
    ChannelInvariant { channel with hasGoal := Function.update channel.hasGoal name false }
      { ledger with ended := ledger.ended ++ [ledger.goalTicket name] } := by
  have hnone := h.oneGoal.noGoal_end hgoal
  have hnot : ∀ other, Function.update channel.hasGoal name false other ≠ true :=
    fun other => (Bool.not_eq_true _).mpr (hnone other)
  exact
    { h with
      goals_kept := by
        intro ticket hticket
        rcases h.goals_kept ticket hticket with ⟨other, hother, rfl⟩ | hended
        · rw [h.oneGoal other name hother hgoal]
          exact .inr (mem_append_right _ (mem_singleton_self _))
        · exact .inr (mem_append_left _ hended)
      goal_next := fun other hother => absurd hother (hnot other)
      goal_alone := fun other hother => absurd hother (hnot other)
      goal_armed := fun other hother => absurd hother (hnot other)
      oneGoal := fun other _ hother => absurd hother (hnot other)
      active := by
        rintro (hqueue | hpending | hgoals)
        · exact h.active (.inl hqueue)
        · exact h.active (.inr (.inl hpending))
        · exact absurd hnone hgoals }

end

end

theorem poll : ChannelInvariant channel.send (channel.sending.foldl Ledger.note ledger) := by
  unfold Channel.send Channel.sending
  cases hqueue : channel.queue with
  | cons command rest =>
    have hactive : channel.active :=
      h.active (.inl (by rw [hqueue]; exact cons_ne_nil _ _))
    rw [if_neg (by rw [hactive]; decide)]
    exact h.sendQueued hqueue
  | nil =>
    by_cases hpending : channel.pending = 0x00
    · have hsame : { channel with queue := [], pending := 0x00 } = channel :=
        Channel.ext hqueue.symm hpending.symm rfl rfl rfl rfl
      rwa [if_pos hpending, ite_self, hsame]
    · have hactive : channel.active := h.active (.inr (.inl hpending))
      rw [if_neg (by rw [hactive]; decide), if_neg hpending]
      have hsent := h.sendPending hqueue hpending
      rwa [hqueue] at hsent

theorem pollServing {name : WriterName} {calls : SinkCalls} {finished : Option Bool}
    (hgoal : channel.hasGoal name)
    (hdwells : finished.isSome → calls = .issue cmdDwell)
    (hsubmits : calls.controlValue.isSome → calls.command = some cmdSubmitValue) :
    ChannelInvariant (channel.serve name calls finished).send
      ((.served name calls finished :: (channel.serve name calls finished).sending).foldl
        Ledger.note ledger) := by
  obtain ⟨hqueue, hpending⟩ := h.goal_alone name hgoal
  have hactive : channel.active := by
    refine h.active (.inr (.inr fun hnone => ?_))
    rw [hnone name] at hgoal
    cases hgoal
  -- the goal stays unless it is reported
  have hkeeps : Function.update channel.hasGoal name true = channel.hasGoal := by
    rw [← hgoal, update_eq_self]
  have hsame : { channel with queue := [], pending := 0x00 } = channel :=
    Channel.ext hqueue.symm hpending.symm rfl rfl rfl rfl
  have htransmits : ¬ (channel.serve name calls finished).active = false :=
    (Bool.not_eq_false _).mpr hactive
  rw [Channel.sending, if_neg htransmits, Channel.send]
  simp only [Channel.serve, hqueue, hpending]
  cases finished with
  | some ok =>
    obtain rfl := hdwells rfl
    have hend := (h.goalDwell hgoal).goalEnd hgoal
    rwa [← hsame] at hend
  | none =>
    rw [Option.isNone_none, hkeeps]
    obtain ⟨command, controlValue, press⟩ := calls
    cases controlValue with
    | some value =>
      obtain rfl : command = some cmdSubmitValue := hsubmits rfl
      have harm := (h.goalCommand hgoal cmdSubmitValue).goalArm hgoal getLast?_concat rfl
      rwa [← hsame] at harm
    | none =>
      cases command with
      | none => exact hsame ▸ h
      | some command =>
        by_cases hcommand : command = 0x00
        · subst hcommand
          have hdwell := h.goalDwell hgoal
          rwa [← hsame] at hdwell
        · have hsent := h.goalCommand hgoal command
          rw [← hsame] at hsent
          simp only [Option.getD_some, if_neg hcommand, foldl_cons, foldl_nil,
            Ledger.note, Ledger.serve, Ledger.issue]
          exact hsent

theorem answer (value : Text) (hawaiting : channel.awaiting)
    (horderly : ledger.Orderly channel (.answered value)) :
    ChannelInvariant { channel with awaiting := false } (ledger.note (.answered value)) := by
  obtain ⟨hqueue, last, hlast, hsubmit, henters⟩ := horderly
  obtain ⟨ticket, hticket⟩ : ∃ ticket, ledger.armedTicket = some ticket :=
    Option.isSome_iff_exists.mp (h.awaiting_iff.symm.trans hawaiting)
  have hown : last = ⟨ticket, cmdSubmitValue⟩ := by
    obtain ⟨last', hlast', howner⟩ := h.armed_last ticket hticket hqueue
    obtain rfl : last = last' := Option.some_inj.mp (hlast.symm.trans hlast')
    obtain ⟨tag, item⟩ := last
    obtain rfl : item = cmdSubmitValue := hsubmit
    rcases howner with rfl | hnot
    · rfl
    · cases henters.symm.trans hnot
  exact
    { h with
      entries_own := by
        intro entry hentry
        rcases List.mem_append.mp hentry with hold | hnew
        · exact h.entries_own entry hold
        · rw [List.mem_singleton.mp hnew]
          exact ⟨ticket, hticket, hlast.trans (congrArg some hown)⟩
      goal_armed := nofun
      awaiting_iff := rfl
      awaiting_emulated := nofun
      armed_queue := nofun
      armed_last := fun _ h => by cases h }

theorem suppress (horderly : ledger.Orderly channel .suppressed) :
    ChannelInvariant { channel with suppressed := true } ledger := by
  obtain ⟨hnone, hqueue, hpending⟩ := horderly
  exact
    { h with
      active := by
        rintro (hwaits | hwaits | hwaits)
        · exact absurd hqueue hwaits
        · exact absurd hpending hwaits
        · exact absurd hnone hwaits }

theorem step {channel' : Channel} {effects : List Effect}
    (hstep : ChannelStep channel effects channel')
    (horderly : ∀ effect ∈ effects, ledger.Orderly channel effect) :
    ChannelInvariant channel' (effects.foldl Ledger.note ledger) := by
  have honeGoal : channel'.OneGoal := hstep.oneGoal h.oneGoal
  cases hstep with
  | quiet => exact h
  | setpoint field hactive =>
    have hfree : channel.busy = false := horderly _ (mem_singleton_self _)
    obtain ⟨hnone, hqueue, hawaiting⟩ := Channel.busy_eq_false_iff.mp hfree
    have hqueued := h.queue .setpoint (IaqDevice.setpointCommands field) hnone hqueue hactive
      fun harmed => by rw [← h.awaiting_iff, hawaiting] at harmed; cases harmed
    exact hqueued.armQueue hnone hawaiting (cons_ne_nil _ _) (Bool.and_eq_true_iff.mp hactive).1
  | survey commands hemulated =>
    obtain ⟨hnone, hqueue, hactive⟩ := horderly _ (mem_singleton_self _)
    exact h.queue .survey commands hnone hqueue hactive fun _ => rfl
  | press command button wish =>
    obtain ⟨hnone, hpending, hactive, hcommand⟩ := horderly _ (mem_singleton_self _)
    exact h.press hnone hpending hactive hcommand
  | takeGoal name hemulated hfree =>
    obtain ⟨hpending, hactive⟩ := horderly _ (mem_singleton_self _)
    exact h.takeGoal name hfree hpending hactive honeGoal
  | poll hnone => exact h.poll
  | pollServing name calls finished hgoal hdwells hsubmits =>
    exact h.pollServing hgoal hdwells hsubmits
  | answer value hawaiting =>
    rw [if_pos (h.awaiting_emulated hawaiting)] at horderly ⊢
    exact h.answer value hawaiting (horderly _ (mem_singleton_self _))
  | suppress => exact h.suppress (horderly _ (mem_singleton_self _))

omit h in
theorem start (emulated : Bool) : ChannelInvariant (Watched.start emulated).device.channel {} where
  complete _ := heldFor_nothing
  contiguous := grouped_nil
  goals_kept := fun _ h => by cases h
  values_kept := fun _ h => by cases h
  entries_own := fun _ h => by cases h
  sent_numbered := fun _ h => by cases h
  owed_numbered := fun _ h => by cases h
  queue_numbered := Nat.le_refl _
  pending_numbered := Nat.le_refl _
  goal_numbered _ := Nat.le_refl _
  queue_next h := absurd rfl h
  pending_press h := absurd rfl h
  pending_unsent h := absurd rfl h
  goal_next name h := by cases name <;> cases h
  distinct h := absurd rfl h
  goal_alone name h := by cases name <;> cases h
  goal_armed name h := by cases name <;> cases h
  oneGoal name _ h := by cases name <;> cases h
  awaiting_iff := rfl
  awaiting_emulated h := by cases h
  armed_queue := fun _ h => by cases h
  armed_last := fun _ h => by cases h
  active := by
    rintro (h | h | h)
    · exact absurd rfl h
    · exact absurd rfl h
    · exact absurd (fun name => by cases name <;> rfl) h

end ChannelInvariant

/-! ## The law in every run -/

namespace Watched

variable {watched : Watched} {event : IaqEvent}

def Invariant (watched : Watched) : Prop :=
  ChannelInvariant watched.device.channel watched.ledger

theorem Invariant.step (h : watched.Invariant) (horderly : watched.Orderly event) :
    (watched.step event).Invariant :=
  ChannelInvariant.step h (IaqDevice.channelStep_react h.oneGoal event) horderly

theorem commandQueue_step_poll :
    (watched.step (.message .poll)).device.commandQueue = watched.device.commandQueue.tail :=
  watched.device.commandQueue_receive_poll

theorem commandQueue_polls (n : ℕ) (watched : Watched) :
    ((replicate n (.message .poll)).foldl step watched).device.commandQueue =
      watched.device.commandQueue.drop n := by
  induction n generalizing watched with
  | zero => rfl
  | succ n ih =>
    rw [replicate_succ, foldl_cons, ih, commandQueue_step_poll, List.drop_tail]

end Watched

/-- In a run in which nothing gets in the way of another request the channel has one owner at a
time, and what waits in the queue goes out with the polls that follow. -/
theorem channelLaw_of_orderly (emulated : Bool) (events : List IaqEvent)
    (h : EachStep Watched.step Watched.Orderly (Watched.start emulated) events) :
    EachState Watched.step (fun watched => ChannelLaw watched.device.channel watched.ledger)
        (Watched.start emulated) events ∧
      ∀ n, ((replicate n (.message .poll)).foldl Watched.step
          (events.foldl Watched.step (Watched.start emulated))).device.commandQueue =
        (events.foldl Watched.step (Watched.start emulated)).device.commandQueue.drop n := by
  refine ⟨?_, fun n => Watched.commandQueue_polls n _⟩
  have hrun : EachState Watched.step Watched.Invariant (Watched.start emulated) events :=
    h.eachState_of_step (fun _ _ hinv horderly => hinv.step horderly)
      (ChannelInvariant.start emulated)
  exact hrun.mono fun _ hinv => hinv.toChannelLaw

/-- A setpoint that is entered undisturbed, and a boost after it. -/
theorem channelLaw_of_setpoint_then_boost :
    EachState Watched.step (fun watched => ChannelLaw watched.device.channel watched.ledger)
      (Watched.start true)
      [.request (.spaSetpoint 38), .message .poll, .message .poll, .message .poll, .message .poll,
        .message .controlReady, .request (.chlorinatorBoost true), .message .poll] :=
  (channelLaw_of_orderly true _ (by decide)).1

/-- Two setpoints, one after the other. -/
theorem not_channelLaw_of_two_setpoints :
    ¬ EachState Watched.step (fun watched => ChannelLaw watched.device.channel watched.ledger)
        (Watched.start true)
        [.request (.poolSetpoint 30), .message .poll, .request (.spaSetpoint 38)] := by
  intro h
  have hlost := h.last.complete ⟨1, .sequence .setpoint⟩
  revert hlost
  decide

end AqualinkAutomate.Iaq
