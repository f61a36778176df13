import Aqualink.Alerting.AlertMonitor
import Aqualink.EquipmentCache.Snapshot
import Aqualink.General.BoundedFeed

/-!
# The live view

What the hubs report is broadcast to the clients that are connected to the socket of the equipment.
Each connection has a queue of a hundred messages, which drops its oldest message for a new one.
The session of the connection polls the queue, and has one write in flight at a time.

A message is the document that its text is dumped from.  The queues are kept by the ids of the
connections, which are not used twice.  A session that was accepted has a stream for as long as it
lives, and so its writes are always dispatched.

`client_follows_broadcasts` says of every connection, in every run, what its client receives.
-/

namespace AqualinkAutomate.Http

open Alerting EquipmentCache General Hub Scheduling List Function Option

/-! ## Messages -/

inductive WebSocketEventTypes where
  | chemistryUpdate | statisticsUpdate | temperatureUpdate | circulationUpdate
  | systemStatusChange | systemStateUpdate | buttonStateChange
  | alertTransition
  | unknown
  deriving DecidableEq

instance : EnumNames WebSocketEventTypes where
  values := [.chemistryUpdate, .statisticsUpdate, .temperatureUpdate, .circulationUpdate,
    .systemStatusChange, .systemStateUpdate, .buttonStateChange, .alertTransition, .unknown]
  enumName
    | .chemistryUpdate => "ChemistryUpdate"
    | .statisticsUpdate => "StatisticsUpdate"
    | .temperatureUpdate => "TemperatureUpdate"
    | .circulationUpdate => "CirculationUpdate"
    | .systemStatusChange => "SystemStatusChange"
    | .systemStateUpdate => "SystemStateUpdate"
    | .buttonStateChange => "ButtonStateChange"
    | .alertTransition => "AlertTransition"
    | .unknown => "Unknown"
  mem_values type := by cases type <;> decide
  nodup_names := by decide

instance : EnumNames EquipmentMode where
  values := [.normal, .service, .timeOut]
  enumName
    | .normal => "Normal"
    | .service => "Service"
    | .timeOut => "TimeOut"
  mem_values mode := by cases mode <;> decide
  nodup_names := by decide

inductive HubEventTypes where
  | chemistry | temperature | serviceStatus | buttonStateChange | circulation
  deriving DecidableEq

/-- An event of a hub: its type, of which each class has its own, and what `ToJSON` gives. -/
structure HubEvent where
  type : HubEventTypes
  json : Json

/-- `WebSocket_Event` of a type and a payload -/
def webSocketEvent (eventType : WebSocketEventTypes) (payload : Json) : Json :=
  .object [("payload", payload), ("type", .string (enumName eventType))]

/-- `WebSocket_Event` of a `DataHub_ConfigEvent`; of a type that is not known it stays empty. -/
def webSocketEventOfConfig : Option HubEvent → Json
  | some ⟨.buttonStateChange, json⟩ => webSocketEvent .buttonStateChange json
  | some ⟨.chemistry, json⟩ => webSocketEvent .chemistryUpdate json
  | some ⟨.temperature, json⟩ => webSocketEvent .temperatureUpdate json
  | some ⟨.circulation, json⟩ => webSocketEvent .circulationUpdate json
  | _ => .null

/-- `WebSocket_Event` of an `EquipmentHub_SystemEvent` -/
def webSocketEventOfSystem : Option HubEvent → Json
  | some ⟨.serviceStatus, json⟩ => webSocketEvent .systemStatusChange json
  | _ => .null

/-- The message of `BroadcastAlert` -/
def alertEvent (alert : AlertTransition) : Json :=
  let params : List (String × Json) := match alert.params with
    | .object (field :: fields) => [("params", .object (field :: fields))]
    | _ => []
  webSocketEvent .alertTransition (.object
    ([("condition", .string alert.condition), ("detail", .string alert.detail)] ++ params ++
      [("state", .string (if alert.raised then "raised" else "cleared")),
        ("ts", .integer alert.ts)]))

def hasType (eventType : WebSocketEventTypes) (message : Json) : Bool :=
  message.text? "type" == some (enumName eventType)

/-- What the data hub knows of the state of the system. -/
structure SystemState where
  emulationDisabled : Bool
  poolConfiguration : PoolConfigurations
  mode : EquipmentMode

/-- The message that a new connection begins with. -/
def stateMessage (hub : SystemState) : Json :=
  let state := "ready"
  let state := if !hub.emulationDisabled && hub.poolConfiguration == .unknown then "starting"
    else state
  let state := if hub.mode = .service then "service_mode" else state
  webSocketEvent .systemStateUpdate (.object
    [("equipment_mode", .string (enumName hub.mode)),
      ("pool_configuration", .string (enumName hub.poolConfiguration)),
      ("state", .string state)])

/-! ## The queues -/

abbrev ConnectionId : Type := ℕ

def maxMessageQueueSize : ℕ := 100

structure WebSocketEquipment where
  connections : ConnectionId → Option (List Json) := fun _ => none
  nextConnectionId : ConnectionId := 1

namespace WebSocketEquipment

variable (equipment : WebSocketEquipment) (connId : ConnectionId)

def broadcast (payload : Json) : WebSocketEquipment :=
  { equipment with
    connections := fun id =>
      (equipment.connections id).map fun queue => pushBounded maxMessageQueueSize queue payload }

def dequeueMessage : Option Json × WebSocketEquipment :=
  match equipment.connections connId with
  | some (msg :: rest) =>
    (some msg, { equipment with
      connections := Function.update equipment.connections connId (some rest) })
  | _ => (none, equipment)

/-- `OnOpen`, with what the data hub knows, if there is one. -/
def onOpen (hub : Option SystemState) : ConnectionId × WebSocketEquipment :=
  let connId := equipment.nextConnectionId
  let queue := match hub with
    | none => []
    | some hub => pushBounded maxMessageQueueSize [] (stateMessage hub)
  (connId, ⟨Function.update equipment.connections connId (some queue), connId + 1⟩)

/-- `OnClose` and `OnError` -/
def onClose : WebSocketEquipment :=
  { equipment with connections := Function.update equipment.connections connId none }

end WebSocketEquipment

/-! ## The sessions -/

structure SocketSession where
  done : Bool := false
  wsActive : Bool := true
  wsWriting : Bool := false
  wsWriteBuffer : Json := .null
  received : List Json := []

namespace SocketSession

def markDone (session : SocketSession) : SocketSession :=
  if session.done then session else { session with done := true, wsActive := false }

/-- The message that is being written. -/
def inFlight (session : SocketSession) : List Json :=
  if session.wsWriting then [session.wsWriteBuffer] else []

end SocketSession

/-- How an operation on the stream ended. -/
inductive Completion where
  | ok | closed | operationAborted | failed
  deriving DecidableEq

inductive ViewEvent where
  /-- A handshake was completed. -/
  | accepted (hub : Option SystemState)
  | configUpdate (event : Option HubEvent)
  | equipmentStatusChange (event : Option HubEvent)
  | alertTransition (alert : AlertTransition)
  /-- The session is polled; its credential may have been revoked. -/
  | poll (id : ConnectionId) (revoked : Bool)
  | read (id : ConnectionId) (result : Completion)
  | written (id : ConnectionId) (result : Completion)

def ViewEvent.published : ViewEvent → Option Json
  | .configUpdate event => some (webSocketEventOfConfig event)
  | .equipmentStatusChange event => some (webSocketEventOfSystem event)
  | .alertTransition alert => some (alertEvent alert)
  | _ => none

def ViewEvent.target : ViewEvent → Option ConnectionId
  | .poll id _ | .read id _ | .written id _ => some id
  | _ => none

structure EquipmentSocket where
  equipment : WebSocketEquipment := {}
  sessions : ConnectionId → Option SocketSession := fun _ => none

namespace EquipmentSocket

variable (socket : EquipmentSocket) (id : ConnectionId)

def withSession (session : SocketSession) : EquipmentSocket :=
  { socket with sessions := Function.update socket.sessions id (some session) }

def onWsAccept (hub : Option SystemState) : EquipmentSocket :=
  let (id, equipment) := socket.equipment.onOpen hub
  { socket with equipment }.withSession id {}

/-- `OnClose` or `OnError`, and then `MarkDone` -/
def close (session : SocketSession) : EquipmentSocket :=
  { socket with equipment := socket.equipment.onClose id }.withSession id session.markDone

def tryWsWrite (session : SocketSession) : EquipmentSocket :=
  if session.done || session.wsWriting then socket.withSession id session
  else
    match socket.equipment.dequeueMessage id with
    | (none, _) => socket.withSession id session
    | (some msg, equipment) =>
      { socket with equipment }.withSession id
        { session with wsWriting := true, wsWriteBuffer := msg }

def poll (session : SocketSession) (revoked : Bool) : EquipmentSocket :=
  if session.done then socket
  else if session.wsActive && revoked then socket.close id session
  else if session.wsActive && !session.wsWriting then socket.tryWsWrite id session
  else socket

/-- `OnWsRead`; what a client sends is ignored. -/
def onWsRead (session : SocketSession) (result : Completion) : EquipmentSocket :=
  if session.done then socket
  else
    match result with
    | .ok => socket
    | .closed | .failed => socket.close id session
    | .operationAborted => socket.withSession id session.markDone

def onWsWrite (session : SocketSession) (result : Completion) : EquipmentSocket :=
  -- a write that succeeded is what the client receives
  let received := match result with
    | .ok => session.received ++ session.inFlight
    | _ => session.received
  let session := { session with wsWriting := false, received }
  if session.done then socket.withSession id session
  else
    match result with
    | .ok => socket.tryWsWrite id session
    | .closed | .failed => socket.close id session
    | .operationAborted => socket.withSession id session.markDone

def step (socket : EquipmentSocket) : ViewEvent → EquipmentSocket
  | .accepted hub => socket.onWsAccept hub
  | .configUpdate event =>
    { socket with equipment := socket.equipment.broadcast (webSocketEventOfConfig event) }
  | .equipmentStatusChange event =>
    { socket with equipment := socket.equipment.broadcast (webSocketEventOfSystem event) }
  | .alertTransition alert =>
    { socket with equipment := socket.equipment.broadcast (alertEvent alert) }
  | .poll id revoked =>
    match socket.sessions id with
    | none => socket
    | some session => socket.poll id session revoked
  | .read id result =>
    match socket.sessions id with
    | none => socket
    | some session => socket.onWsRead id session result
  | .written id result =>
    match socket.sessions id with
    | none => socket
    | some session =>
      -- only a write that is in flight ends
      if session.wsWriting then socket.onWsWrite id session result else socket

/-! ## A step, as one connection sees it -/

structure Live (socket : EquipmentSocket) (id : ConnectionId) (feed : Feed Json) : Prop where
  known : id < socket.equipment.nextConnectionId
  session : ∃ session, socket.sessions id = some session ∧ session.done = false ∧
    feed.taken = session.received ++ session.inFlight
  queue : socket.equipment.connections id = some feed.waiting

structure Ended (socket : EquipmentSocket) (id : ConnectionId) (taken : List Json) : Prop where
  known : id < socket.equipment.nextConnectionId
  session : ∃ session, socket.sessions id = some session ∧ session.done ∧
    taken = session.received ++ session.inFlight

/-- What an event does to a live session. -/
inductive Follows (socket : EquipmentSocket) (id : ConnectionId) (feed : Feed Json) :
    Option Json → Prop
  | pushed (message : Json) (hlive : Live socket id (feed.push maxMessageQueueSize message)) :
      Follows socket id feed (some message)
  | kept (hlive : Live socket id feed) : Follows socket id feed none
  | taken (hlive : Live socket id feed.take) : Follows socket id feed none
  | ended (taken : List Json) (hended : Ended socket id taken)
      (htaken : taken.Sublist feed.kept) : Follows socket id feed none

section

variable {socket : EquipmentSocket} {id other : ConnectionId} {feed : Feed Json}
variable {session : SocketSession} {event : ViewEvent} {message : Json} {taken : List Json}

@[simp] theorem equipment_withSession :
    (socket.withSession id session).equipment = socket.equipment := rfl

@[simp] theorem sessions_withSession : (socket.withSession id session).sessions id = some session :=
  update_self ..

theorem sessions_withSession_of_ne (hne : id ≠ other) :
    (socket.withSession other session).sessions id = socket.sessions id :=
  update_of_ne hne ..

/-- Nothing has changed but what belongs to the connection. -/
structure OnlyAt (id : ConnectionId) (socket socket' : EquipmentSocket) : Prop where
  next : socket'.equipment.nextConnectionId = socket.equipment.nextConnectionId
  queues : ∀ other, other ≠ id →
    socket'.equipment.connections other = socket.equipment.connections other
  sessions : ∀ other, other ≠ id → socket'.sessions other = socket.sessions other

theorem onlyAt_refl : OnlyAt id socket socket := ⟨rfl, fun _ _ => rfl, fun _ _ => rfl⟩

theorem onlyAt_withSession : OnlyAt id socket (socket.withSession id session) :=
  ⟨rfl, fun _ _ => rfl, fun _ hne => sessions_withSession_of_ne hne⟩

theorem onlyAt_close : OnlyAt id socket (socket.close id session) :=
  ⟨rfl, fun _ hne => update_of_ne hne .., fun _ hne => sessions_withSession_of_ne hne⟩

theorem onlyAt_tryWsWrite : OnlyAt id socket (socket.tryWsWrite id session) := by
  unfold tryWsWrite WebSocketEquipment.dequeueMessage
  split_ifs
  · exact onlyAt_withSession
  · rcases hqueue : socket.equipment.connections id with _ | _ | ⟨msg, rest⟩
    · exact onlyAt_withSession
    · exact onlyAt_withSession
    · exact ⟨rfl, fun _ hne => update_of_ne hne .., fun _ hne => sessions_withSession_of_ne hne⟩

theorem onlyAt_poll {revoked : Bool} : OnlyAt id socket (socket.poll id session revoked) := by
  unfold poll
  split_ifs
  exacts [onlyAt_refl, onlyAt_close, onlyAt_tryWsWrite, onlyAt_refl]

theorem onlyAt_onWsRead {result : Completion} :
    OnlyAt id socket (socket.onWsRead id session result) := by
  unfold onWsRead
  split_ifs
  · exact onlyAt_refl
  · cases result
    exacts [onlyAt_refl, onlyAt_close, onlyAt_withSession, onlyAt_close]

theorem onlyAt_onWsWrite {result : Completion} :
    OnlyAt id socket (socket.onWsWrite id session result) := by
  unfold onWsWrite
  dsimp only
  split_ifs
  · exact onlyAt_withSession
  · cases result
    exacts [onlyAt_tryWsWrite, onlyAt_close, onlyAt_withSession, onlyAt_close]

theorem onlyAt_step (h : event.target = some id) : OnlyAt id socket (socket.step event) := by
  cases event <;> simp only [ViewEvent.target, Option.some.injEq, reduceCtorEq] at h <;>
    subst h <;> simp only [step]
  case poll =>
    split
    exacts [onlyAt_refl, onlyAt_poll]
  case read =>
    split
    exacts [onlyAt_refl, onlyAt_onWsRead]
  case written =>
    split
    · exact onlyAt_refl
    · split_ifs
      exacts [onlyAt_onWsWrite, onlyAt_refl]

variable {socket' : EquipmentSocket}

theorem Live.of_onlyAt (h : Live socket id feed) (honly : OnlyAt other socket socket')
    (hne : id ≠ other) : Live socket' id feed where
  known := honly.next ▸ h.known
  session := honly.sessions id hne ▸ h.session
  queue := (honly.queues id hne).trans h.queue

theorem Ended.of_onlyAt (h : Ended socket id taken) (honly : OnlyAt other socket socket')
    (hne : id ≠ other) : Ended socket' id taken where
  known := honly.next ▸ h.known
  session := honly.sessions id hne ▸ h.session

variable {hub : Option SystemState}

/-- Opening another connection changes nothing for this one. -/
theorem Live.onWsAccept (h : Live socket id feed) : Live (socket.onWsAccept hub) id feed where
  known := Nat.lt_succ_of_lt h.known
  session := by
    obtain ⟨session, hsession, hrest⟩ := h.session
    exact ⟨session, (sessions_withSession_of_ne h.known.ne).trans hsession, hrest⟩
  queue := (update_of_ne h.known.ne ..).trans h.queue

theorem Ended.onWsAccept (h : Ended socket id taken) : Ended (socket.onWsAccept hub) id taken where
  known := Nat.lt_succ_of_lt h.known
  session := by
    obtain ⟨session, hsession, hrest⟩ := h.session
    exact ⟨session, (sessions_withSession_of_ne h.known.ne).trans hsession, hrest⟩

theorem Live.broadcast (h : Live socket id feed) :
    Live { socket with equipment := socket.equipment.broadcast message } id
      (feed.push maxMessageQueueSize message) where
  known := h.known
  session := h.session
  queue := by
    show (socket.equipment.connections id).map _ = _
    rw [h.queue]
    rfl

theorem Ended.broadcast (h : Ended socket id taken) :
    Ended { socket with equipment := socket.equipment.broadcast message } id taken :=
  ⟨h.known, h.session⟩

/-! A session that goes on, and one that ends -/

section

variable (hknown : id < socket.equipment.nextConnectionId)

include hknown

theorem tryWsWrite_follows (hqueue : socket.equipment.connections id = some feed.waiting)
    (hdone : session.done = false) (htaken : feed.taken = session.received ++ session.inFlight) :
    Follows (socket.tryWsWrite id session) id feed none := by
  unfold tryWsWrite
  rw [hdone, Bool.false_or]
  split_ifs with hwriting
  · exact .kept ⟨hknown, ⟨session, sessions_withSession, hdone, htaken⟩, hqueue⟩
  · have hidle : session.inFlight = [] := if_neg hwriting
    rw [hidle, append_nil] at htaken
    cases hwaiting : feed.waiting with
    | nil =>
      rw [hwaiting] at hqueue
      simp only [WebSocketEquipment.dequeueMessage, hqueue]
      refine .kept ⟨hknown, ⟨session, sessions_withSession, hdone, ?_⟩, ?_⟩
      · rw [hidle, append_nil, htaken]
      · rw [equipment_withSession, hqueue, hwaiting]
    | cons msg rest =>
      rw [hwaiting] at hqueue
      have htake : feed.take = ⟨rest, feed.taken ++ [msg]⟩ := by
        simp only [Feed.take, hwaiting]
      simp only [WebSocketEquipment.dequeueMessage, hqueue]
      refine .taken ⟨hknown, ⟨_, sessions_withSession, rfl, ?_⟩, ?_⟩
      · rw [htake, htaken]
        rfl
      · rw [htake]
        exact update_self ..

theorem ended_of_markDone :
    Ended (socket.withSession id session.markDone) id (session.received ++ session.inFlight) := by
  refine ⟨hknown, session.markDone, sessions_withSession, ?_⟩
  unfold SocketSession.markDone
  split_ifs with hdone
  · exact ⟨hdone, rfl⟩
  · exact ⟨rfl, rfl⟩

theorem close_ended : Ended (socket.close id session) id (session.received ++ session.inFlight) :=
  ended_of_markDone hknown

end

section

variable (h : Live socket id feed) (hsession : socket.sessions id = some session)

include h hsession

theorem Live.ends : (session.received ++ session.inFlight).Sublist feed.kept := by
  obtain ⟨_, hsome, _, htaken⟩ := h.session
  cases hsession.symm.trans hsome
  rw [← htaken]
  exact sublist_append_left ..

theorem Live.poll (revoked : Bool) : Follows (socket.poll id session revoked) id feed none := by
  obtain ⟨_, hsome, hdone, htaken⟩ := h.session
  cases hsession.symm.trans hsome
  unfold EquipmentSocket.poll
  split_ifs
  · exact .kept h
  · exact .ended _ (close_ended h.known) (h.ends hsession)
  · exact tryWsWrite_follows h.known h.queue hdone htaken
  · exact .kept h

theorem Live.onWsRead (result : Completion) :
    Follows (socket.onWsRead id session result) id feed none := by
  unfold EquipmentSocket.onWsRead
  split_ifs
  · exact .kept h
  · cases result with
    | ok => exact .kept h
    | closed => exact .ended _ (close_ended h.known) (h.ends hsession)
    | failed => exact .ended _ (close_ended h.known) (h.ends hsession)
    | operationAborted => exact .ended _ (ended_of_markDone h.known) (h.ends hsession)

theorem Live.onWsWrite (result : Completion) :
    Follows (socket.onWsWrite id session result) id feed none := by
  have hends := h.ends hsession
  obtain ⟨_, hsome, hdone, htaken⟩ := h.session
  cases hsession.symm.trans hsome
  have hlost : (session.received ++ []).Sublist feed.kept :=
    ((nil_sublist session.inFlight).append_left session.received).trans hends
  unfold EquipmentSocket.onWsWrite
  rw [if_neg (by rw [hdone]; exact Bool.false_ne_true)]
  cases result with
  | ok =>
    refine tryWsWrite_follows h.known h.queue hdone ?_
    rw [htaken]
    exact (append_nil _).symm
  | closed => exact .ended _ (close_ended h.known) hlost
  | failed => exact .ended _ (close_ended h.known) hlost
  | operationAborted => exact .ended _ (ended_of_markDone h.known) hlost

end

theorem Live.step (h : Live socket id feed) (event : ViewEvent) :
    Follows (socket.step event) id feed event.published := by
  have hother : ∀ other, event.target = some other → id ≠ other → event.published = none →
      Follows (socket.step event) id feed event.published := by
    intro other htarget hne hnone
    rw [hnone]
    exact .kept (h.of_onlyAt (onlyAt_step htarget) hne)
  obtain ⟨session, hsession, _⟩ := h.session
  cases event with
  | accepted hub => exact .kept h.onWsAccept
  | configUpdate event => exact .pushed _ h.broadcast
  | equipmentStatusChange event => exact .pushed _ h.broadcast
  | alertTransition alert => exact .pushed _ h.broadcast
  | poll other revoked =>
    by_cases hid : id = other
    · subst hid
      simp only [EquipmentSocket.step, hsession]
      exact h.poll hsession revoked
    · exact hother other rfl hid rfl
  | read other result =>
    by_cases hid : id = other
    · subst hid
      simp only [EquipmentSocket.step, hsession]
      exact h.onWsRead hsession result
    · exact hother other rfl hid rfl
  | written other result =>
    by_cases hid : id = other
    · subst hid
      simp only [EquipmentSocket.step, hsession]
      split_ifs
      · exact h.onWsWrite hsession result
      · exact .kept h
    · exact hother other rfl hid rfl

theorem Ended.onWsWrite (h : Ended socket id taken) (hsession : socket.sessions id = some session)
    (result : Completion) :
    ∃ taken', Ended (socket.onWsWrite id session result) id taken' ∧ taken'.Sublist taken := by
  obtain ⟨_, hsome, hdone, htaken⟩ := h.session
  cases hsession.symm.trans hsome
  unfold EquipmentSocket.onWsWrite
  rw [if_pos hdone]
  refine ⟨_, ⟨h.known, _, sessions_withSession, hdone, rfl⟩, ?_⟩
  rw [htaken]
  cases result
  case ok =>
    show (session.received ++ session.inFlight ++ []).Sublist _
    rw [append_nil]
  all_goals exact (nil_sublist session.inFlight).append_left session.received

/-- A session that is over takes nothing more. -/
theorem Ended.step (h : Ended socket id taken) (event : ViewEvent) :
    ∃ taken', Ended (socket.step event) id taken' ∧ taken'.Sublist taken := by
  have hsame : ∀ {socket'}, Ended socket' id taken →
      ∃ taken', Ended socket' id taken' ∧ taken'.Sublist taken :=
    fun h => ⟨taken, h, List.Sublist.refl _⟩
  obtain ⟨session, hsession, hdone, _⟩ := h.session
  cases event with
  | accepted hub => exact hsame h.onWsAccept
  | configUpdate event => exact hsame h.broadcast
  | equipmentStatusChange event => exact hsame h.broadcast
  | alertTransition alert => exact hsame h.broadcast
  | poll other revoked =>
    by_cases hid : id = other
    · subst hid
      simp only [EquipmentSocket.step, hsession, EquipmentSocket.poll, hdone, if_true]
      exact hsame h
    · exact hsame (h.of_onlyAt (onlyAt_step rfl) hid)
  | read other result =>
    by_cases hid : id = other
    · subst hid
      simp only [EquipmentSocket.step, hsession, EquipmentSocket.onWsRead, hdone, if_true]
      exact hsame h
    · exact hsame (h.of_onlyAt (onlyAt_step rfl) hid)
  | written other result =>
    by_cases hid : id = other
    · subst hid
      simp only [EquipmentSocket.step, hsession]
      split_ifs
      · exact h.onWsWrite hsession result
      · exact hsame h
    · exact hsame (h.of_onlyAt (onlyAt_step rfl) hid)

end

/-! ## Runs -/

section

variable {socket : EquipmentSocket} {id : ConnectionId} {feed : Feed Json} {taken log : List Json}
variable {message : Json} {later : List Json} {event : ViewEvent} {events : List ViewEvent}

def run (socket : EquipmentSocket) (events : List ViewEvent) : EquipmentSocket :=
  events.foldl step socket

def broadcasts (events : List ViewEvent) : List Json := events.filterMap ViewEvent.published

theorem maxMessageQueueSize_pos : 0 < maxMessageQueueSize := by decide

theorem broadcasts_cons :
    broadcasts (event :: events) = event.published.toList ++ broadcasts events := by
  unfold broadcasts
  cases hpublished : event.published with
  | none => rw [filterMap_cons_none hpublished]; rfl
  | some message => rw [filterMap_cons_some hpublished]; rfl

theorem Ended.run (h : Ended socket id taken) (events : List ViewEvent) :
    ∃ taken', Ended (socket.run events) id taken' ∧ taken'.Sublist taken := by
  induction events generalizing socket taken with
  | nil => exact ⟨taken, h, List.Sublist.refl _⟩
  | cons event events ih =>
    obtain ⟨taken₁, h₁, hsub₁⟩ := h.step event
    obtain ⟨taken₂, h₂, hsub₂⟩ := ih h₁
    exact ⟨taken₂, h₂, hsub₂.trans hsub₁⟩

theorem Live.run (h : Live socket id feed) (hserves : feed.Serves maxMessageQueueSize log)
    (events : List ViewEvent) :
    (∃ feed', Live (socket.run events) id feed' ∧
        feed'.Serves maxMessageQueueSize (log ++ broadcasts events)) ∨
      ∃ taken, Ended (socket.run events) id taken ∧ taken.Sublist (log ++ broadcasts events) := by
  induction events generalizing socket feed log with
  | nil => exact .inl ⟨feed, h, by simpa [broadcasts] using hserves⟩
  | cons event events ih =>
    rw [broadcasts_cons, ← append_assoc]
    have hfollows := h.step event
    cases hpublished : event.published with
    | none =>
      rw [hpublished] at hfollows
      rw [toList_none, append_nil]
      cases hfollows with
      | kept hlive => exact ih hlive hserves
      | taken hlive => exact ih hlive hserves.take
      | ended taken hended htaken =>
        obtain ⟨taken', hended', hsub⟩ := hended.run events
        have hlog := (hsub.trans htaken).trans hserves.ordered
        exact .inr ⟨taken', hended', hlog.trans (sublist_append_left ..)⟩
    | some message =>
      rw [hpublished] at hfollows
      obtain ⟨_, hlive⟩ := hfollows
      exact ih hlive (hserves.push maxMessageQueueSize_pos)

/-- The hundredth broadcast after a message, of which there were some before the run, finds the
queue of the connection full. -/
def Overtaken (socket : EquipmentSocket) (id : ConnectionId) (since : ℕ)
    (events : List ViewEvent) : Prop :=
  ∃ before event after queue, events = before ++ event :: after ∧ event.published.isSome ∧
    since + (broadcasts before).length + 1 = maxMessageQueueSize ∧
    (socket.run before).equipment.connections id = some queue ∧
    queue.length = maxMessageQueueSize

variable {since : ℕ}

theorem overtaken_now (h : Live socket id feed) (hpublished : event.published = some message)
    (hsince : since + 1 = maxMessageQueueSize) (hfull : feed.waiting.length = maxMessageQueueSize) :
    Overtaken socket id since (event :: events) := by
  refine ⟨[], event, events, feed.waiting, rfl, ?_, hsince, h.queue, hfull⟩
  rw [hpublished, isSome_some]

theorem overtaken_later
    (h : Overtaken (socket.step event) id (since + event.published.toList.length) events) :
    Overtaken socket id since (event :: events) := by
  obtain ⟨before, last, after, queue, rfl, hsome, hsince, hqueue, hfull⟩ := h
  refine ⟨event :: before, last, after, queue, rfl, hsome, ?_, hqueue, hfull⟩
  rw [broadcasts_cons, length_append]
  omega

theorem Live.holds_run (h : Live socket id feed)
    (hbounded : feed.waiting.length ≤ maxMessageQueueSize) (hholds : feed.Holds message later)
    (hnot : ¬ Overtaken socket id later.length events) :
    (∃ feed', Live (socket.run events) id feed' ∧
        feed'.Holds message (later ++ broadcasts events)) ∨
      ∃ taken, Ended (socket.run events) id taken := by
  induction events generalizing socket feed later with
  | nil => exact .inl ⟨feed, h, by simpa [broadcasts] using hholds⟩
  | cons event events ih =>
    rw [broadcasts_cons, ← append_assoc]
    have hrest : ¬ Overtaken (socket.step event) id
        (later ++ event.published.toList).length events := by
      rw [length_append]
      exact fun hlater => hnot (overtaken_later hlater)
    have hfollows := h.step event
    cases hpublished : event.published with
    | none =>
      rw [hpublished, toList_none, append_nil] at hrest
      rw [hpublished] at hfollows
      rw [toList_none, append_nil]
      cases hfollows with
      | kept hlive => exact ih hlive hbounded hholds hrest
      | taken hlive =>
        have hshorter : feed.take.waiting.length ≤ maxMessageQueueSize := by
          rw [Feed.waiting_take, length_tail]
          omega
        exact ih hlive hshorter hholds.take hrest
      | ended taken hended =>
        obtain ⟨taken', hended', _⟩ := hended.run events
        exact .inr ⟨taken', hended'⟩
    | some pushed =>
      rw [hpublished] at hrest hfollows
      obtain ⟨_, hlive⟩ := hfollows
      have hroom : later.length + 1 = maxMessageQueueSize →
          feed.waiting.length < maxMessageQueueSize := by
        intro hsince
        refine lt_of_le_of_ne hbounded fun hfull => hnot ?_
        exact overtaken_now h hpublished hsince hfull
      exact ih hlive (length_pushBounded_le maxMessageQueueSize_pos hbounded)
        (hholds.push hbounded hroom) hrest

variable {before after : List ViewEvent}

theorem run_append : socket.run (before ++ after) = (socket.run before).run after :=
  foldl_append

variable {session : SocketSession}

theorem Ended.not_live (h : Ended socket id taken) (hsession : socket.sessions id = some session) :
    session.done ≠ false := by
  obtain ⟨_, hsome, hdone, _⟩ := h.session
  cases hsession.symm.trans hsome
  rw [hdone]
  exact Bool.noConfusion

theorem Live.latest {eventType : WebSocketEventTypes} (h : Live socket id feed)
    (hserves : feed.Serves maxMessageQueueSize log)
    (hsession : (socket.run (before ++ event :: after)).sessions id = some session)
    (hdone : session.done = false)
    (hdrained : (socket.run (before ++ event :: after)).equipment.connections id = some [])
    (hpublished : event.published = some message) (htype : hasType eventType message)
    (hlast : ∀ other ∈ broadcasts after, hasType eventType other = false)
    (hnot : ¬ Overtaken (socket.run (before ++ [event])) id 0 after) :
    ((session.received ++ session.inFlight).filter (hasType eventType)).getLast? =
      some message := by
  have hcut : socket.run (before ++ event :: after) =
      ((socket.run before).step event).run after := run_append
  rw [hcut] at hsession hdrained
  rw [run_append] at hnot
  obtain ⟨feed₁, hlive₁, hserves₁⟩ | ⟨taken, hended, _⟩ := h.run hserves before
  · have hfollows := hlive₁.step event
    rw [hpublished] at hfollows
    obtain ⟨_, hlive₂⟩ := hfollows
    have hbounded : (feed₁.push maxMessageQueueSize message).waiting.length ≤ maxMessageQueueSize :=
      length_pushBounded_le maxMessageQueueSize_pos hserves₁.bounded
    obtain ⟨feed₃, hlive₃, hholds⟩ | ⟨taken, hended⟩ :=
      hlive₂.holds_run hbounded Feed.holds_push hnot
    · -- the queue of the feed is the drained one
      have hwaiting : feed₃.waiting = [] := Option.some.inj (hlive₃.queue.symm.trans hdrained)
      obtain ⟨_, hsome, _, htaken⟩ := hlive₃.session
      cases hsession.symm.trans hsome
      rw [← htaken]
      exact hholds.getLast?_filter hwaiting htype hlast
    · exact absurd hdone (hended.not_live hsession)
  · obtain ⟨taken₁, hended₁, _⟩ := hended.step event
    obtain ⟨taken₂, hended₂, _⟩ := hended₁.run after
    exact absurd hdone (hended₂.not_live hsession)

/-! ## What a client receives -/

def initialMessages (hub : Option SystemState) : List Json := hub.toList.map stateMessage

theorem live_onWsAccept (hub : Option SystemState) :
    Live (socket.step (.accepted hub)) socket.equipment.nextConnectionId
      ⟨initialMessages hub, []⟩ where
  known := Nat.lt_succ_self _
  session := ⟨{}, sessions_withSession, rfl, rfl⟩
  queue := by
    refine (update_self ..).trans ?_
    cases hub <;> rfl

theorem serves_initialMessages (hub : Option SystemState) :
    Feed.Serves maxMessageQueueSize (initialMessages hub) ⟨initialMessages hub, []⟩ := by
  cases hub with
  | none => exact Feed.serves_empty
  | some hub => exact Feed.serves_empty.push maxMessageQueueSize_pos

/-- What the client of a connection receives, which is opened at the socket with what the data hub
knows, and is followed by the events. -/
structure ClientFollows (socket : EquipmentSocket) (id : ConnectionId) (session : SocketSession)
    (hub : Option SystemState) (events : List ViewEvent) : Prop where
  /-- It receives the messages in order, and none of them twice. -/
  ordered : session.received.Sublist (initialMessages hub ++ broadcasts events)
  /-- When its queue is drained, the last message of a type that was written to it is the last one
  of the type that was broadcast, if that was not overtaken by a hundred others. -/
  converges : session.done = false →
    ((socket.step (.accepted hub)).run events).equipment.connections id = some [] →
    ∀ before event after message eventType, events = before ++ event :: after →
      event.published = some message → hasType eventType message →
      (∀ other ∈ broadcasts after, hasType eventType other = false) →
      ¬ Overtaken ((socket.step (.accepted hub)).run (before ++ [event])) id 0 after →
      ((session.received ++ session.inFlight).filter (hasType eventType)).getLast? = some message

end

end EquipmentSocket

open EquipmentSocket in
/-- **A client follows the broadcasts.**  Whatever happened before, and whatever happens after a
connection is opened: its client receives the first message of the connection and then some of the
broadcasts, in order and without duplicates, and when its queue is drained it has, of each type,
the last one that was broadcast, unless that one was dropped from the full queue. -/
theorem client_follows_broadcasts (history events : List ViewEvent) (hub : Option SystemState) :
    ∃ session,
      (((run {} history).step (.accepted hub)).run events).sessions
        (run {} history).equipment.nextConnectionId = some session ∧
      ClientFollows (run {} history) (run {} history).equipment.nextConnectionId session hub
        events := by
  generalize hsocket : run {} history = socket
  have hopened : Live (socket.step (.accepted hub)) socket.equipment.nextConnectionId
      ⟨initialMessages hub, []⟩ := live_onWsAccept hub
  have hserves := serves_initialMessages hub
  obtain ⟨feed, hlive, hfed⟩ | ⟨taken, hended, htaken⟩ := hopened.run hserves events
  · obtain ⟨session, hsession, hdone, hfeed⟩ := hlive.session
    refine ⟨session, hsession, ?_, ?_⟩
    · have hkept : feed.taken.Sublist (initialMessages hub ++ broadcasts events) :=
        (sublist_append_left ..).trans hfed.ordered
      rw [hfeed] at hkept
      exact (sublist_append_left ..).trans hkept
    · intro _ hdrained before event after message eventType hevents hpublished htype hlast hnot
      subst hevents
      exact hopened.latest hserves hsession hdone hdrained hpublished htype hlast hnot
  · obtain ⟨session, hsession, hdone, hfeed⟩ := hended.session
    refine ⟨session, hsession, ?_, ?_⟩
    · rw [hfeed] at htaken
      exact (sublist_append_left ..).trans htaken
    · intro hlive
      rw [hdone] at hlive
      cases hlive

/-! A client that does not read for a while -/

namespace EquipmentSocket

/-- The client receives nothing but what is broadcast after its connection was opened. -/
def ReceivesOnlyBroadcasts (hub : Option SystemState) (events : List ViewEvent) : Prop :=
  ∀ session, ((step {} (.accepted hub)).run events).sessions 1 = some session →
    session.received.Sublist (broadcasts events)

/-- When all that waited for it was written, the client has the last broadcast of each type. -/
def HasLatestWhenDrained (hub : Option SystemState) (events : List ViewEvent) : Prop :=
  ∀ session, ((step {} (.accepted hub)).run events).sessions 1 = some session →
    session.done = false → session.inFlight = [] →
    ((step {} (.accepted hub)).run events).equipment.connections 1 = some [] →
    ∀ before event after message eventType, events = before ++ event :: after →
      event.published = some message → hasType eventType message = true →
      (∀ other ∈ broadcasts after, hasType eventType other = false) →
      (session.received.filter (hasType eventType)).getLast? = some message

def buttonOn : ViewEvent :=
  .configUpdate (some ⟨.buttonStateChange, .object [("status", .string "On")]⟩)

/-- A hundred temperatures, before the connection is polled and all that waits is written. -/
def temperaturesThenWrites : List ViewEvent :=
  replicate 100 (.configUpdate (some ⟨.temperature, .object []⟩)) ++
    .poll 1 false :: replicate 100 (.written 1 .ok)

private theorem lateClient_facts :
    (((step {} (.accepted none)).run (buttonOn :: temperaturesThenWrites)).sessions 1).map
      (fun session => (session.done, session.inFlight.isEmpty,
        (session.received.filter (hasType .buttonStateChange)).isEmpty)) =
      some (false, true, true) := by
  decide +kernel

private theorem lateClient_queue :
    (((step {} (.accepted none)).run (buttonOn :: temperaturesThenWrites)).equipment.connections
      1).map List.isEmpty = some true := by
  decide +kernel

end EquipmentSocket

open EquipmentSocket in
/-- The first message is no broadcast, and of a hundred and one messages the first is dropped. -/
theorem late_client_misses_button_state :
    ¬ ReceivesOnlyBroadcasts (some ⟨true, .singleBody, .normal⟩) [.poll 1 false, .written 1 .ok] ∧
      ¬ HasLatestWhenDrained none (buttonOn :: temperaturesThenWrites) := by
  constructor
  · intro h
    have hsub := (h _ rfl).length_le
    revert hsub
    decide
  · intro h
    obtain ⟨session, hsession, hfacts⟩ := Option.map_eq_some_iff.mp lateClient_facts
    obtain ⟨queue, hqueue, hempty⟩ := Option.map_eq_some_iff.mp lateClient_queue
    obtain ⟨hdone, hidle, hnone⟩ : session.done = false ∧ session.inFlight.isEmpty = true ∧
        (session.received.filter (hasType .buttonStateChange)).isEmpty = true := by
      simpa only [Prod.mk.injEq] using hfacts
    rw [List.isEmpty_iff.mp hempty] at hqueue
    have hothers : ∀ other ∈ broadcasts temperaturesThenWrites,
        hasType .buttonStateChange other = false := by
      decide +kernel
    have hlast := h session hsession hdone (List.isEmpty_iff.mp hidle) hqueue [] buttonOn
      temperaturesThenWrites
      (webSocketEvent .buttonStateChange (.object [("status", .string "On")])) .buttonStateChange
      (nil_append _).symm rfl (by decide) hothers
    rw [List.isEmpty_iff.mp hnone] at hlast
    cases hlast

end AqualinkAutomate.Http
