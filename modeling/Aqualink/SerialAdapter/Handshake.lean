import Aqualink.SerialAdapter.PendingCommands

/-!
# The handshake of a setpoint

A setpoint is sent in two steps: what is to be set in answer to a poll for the status, and the
value in answer to the poll after it that the device is ready.  The value alone is what a
question for an auxiliary looks like.

A poll takes the first of the pending commands, whatever it is.  So the handshake is kept as long
as the panel asks for the status before the device is ready, and then for nothing else.
-/

namespace AqualinkAutomate.SerialAdapter

open Equipment General Hub List

inductive FrameRole where
  | single | readySP | setSP
  deriving DecidableEq

/-- The place of the frame among the frames of its request. -/
def FrameRole.index : FrameRole → ℕ
  | .single | .readySP => 0
  | .setSP => 1

def Request.isSetpoint : Request → Bool
  | .setPoolSetpoint _ | .setSpaSetpoint _ => true
  | _ => false

def Request.firstRole (request : Request) : FrameRole :=
  if request.isSetpoint then .readySP else .single

/-- A command frame that was sent: in answer to which message, for which of the accepted
requests, and as what. -/
structure SentFrame where
  message : Message
  number : ℕ
  request : Request
  role : FrameRole
  frame : PendingCommand

/-- How far the last accepted request is. -/
inductive Stage where
  | idle
  | first (number : ℕ) (request : Request)
  | second (number : ℕ) (request : Request)

structure HandshakeWatch where
  device : SerialAdapterDevice
  /-- How many requests were accepted. -/
  accepted : ℕ := 0
  stage : Stage := .idle
  sent : List SentFrame := []

namespace HandshakeWatch

open SerialAdapterDevice

def sends (watch : HandshakeWatch) : AdapterEvent → Option SentFrame
  | .message hub message =>
    (watch.device.taken (.message hub message)).bind fun frame =>
      match watch.stage with
      | .idle => none
      | .first number request => some ⟨message, number, request, request.firstRole, frame⟩
      | .second number request => some ⟨message, number, request, .setSP, frame⟩
  | _ => none

def polled : Stage → Stage
  | .first number request => if request.isSetpoint then .second number request else .idle
  | _ => .idle

def step (watch : HandshakeWatch) (event : AdapterEvent) : HandshakeWatch where
  device := watch.device.step event
  accepted := if watch.device.accepts event then watch.accepted + 1 else watch.accepted
  stage :=
    if watch.device.suppresses event then .idle
    else
      match event with
      | .request hub request =>
        if (watch.device.request hub request).2 = .accepted then .first watch.accepted request
        else watch.stage
      | .message _ .status | .message _ .devReady => polled watch.stage
      | _ => watch.stage
  sent := watch.sent ++ (watch.sends event).toList

/-- A frame is one of its request.  The value of a setpoint is sent when the device is asked to
be ready, right after the first step of the same request; everything else is sent when the
status is asked for. -/
def InTurn (sent : List SentFrame) (entry : SentFrame) : Prop :=
  entry.request.frames[entry.role.index]? = some entry.frame ∧
    if entry.role = .setSP then
      entry.message = .devReady ∧
        ∃ ready, sent.getLast? = some ready ∧ ready.role = .readySP ∧
          ready.number = entry.number
    else entry.message = .status

def Handshaken (watch : HandshakeWatch) (event : AdapterEvent) : Prop :=
  ∀ entry, watch.sends event = some entry → InTurn watch.sent entry

/-- The panel asks for the status first and then whether the device is ready, unless the device
falls silent. -/
def Follows (watch : HandshakeWatch) : AdapterEvent → Prop
  | .message _ .status => ∀ number request, watch.stage ≠ .second number request
  | .message hub .devReady =>
    (∀ number request, watch.stage ≠ .first number request) ∨
      watch.device.suppresses (.message hub .devReady) = true
  | _ => True

/-! ## One event -/

def Staged (watch : HandshakeWatch) : Prop :=
  match watch.stage with
  | .idle => watch.device.pendingCommands = []
  | .first _ request =>
    watch.device.pendingCommands = request.frames ∧
      request.frames.length = if request.isSetpoint then 2 else 1
  | .second number request =>
    watch.device.pendingCommands = request.frames.tail ∧ request.frames.length = 2 ∧
      ∃ ready, watch.sent.getLast? = some ready ∧ ready.role = .readySP ∧
        ready.number = number

structure Tracked (watch : HandshakeWatch) : Prop where
  settled : watch.device.Settled
  staged : watch.Staged

variable {watch : HandshakeWatch} {event : AdapterEvent}

theorem length_frames_of_accepted {hub : HubView} {device : SerialAdapterDevice} {request : Request}
    (h : (device.request hub request).2 = .accepted) :
    request.frames.length = if request.isSetpoint then 2 else 1 := by
  cases request with
  | setPoolSetpoint temperature => rfl
  | setSpaSetpoint temperature => rfl
  | actuateDevice actuated action =>
    unfold SerialAdapterDevice.request actuateDevice at h
    dsimp only at h
    cases hid : actuated.auxId with
    | some auxId => simp [Request.frames, Request.isSetpoint, hid]
    | none =>
      cases hpump : systemPumpFor actuated.traits with
      | some command => simp [Request.frames, Request.isSetpoint, hid, hpump]
      | none =>
        rw [hid, hpump] at h
        split_ifs at h
  | setCirculationMode mode =>
    cases mode with
    | pool | spa | spillover => rfl
    | spaFill | spaDrain => simp [SerialAdapterDevice.request, setCirculationMode] at h
  | setHeaterMode heaterBody enable =>
    cases heaterBody with
    | pool | spa | shared => rfl
    | unknown =>
      unfold SerialAdapterDevice.request setHeaterMode at h
      split_ifs at h

theorem taken_of_isPoll (hpoll : isPoll event)
    (hsuppress : watch.device.suppresses event = false) :
    watch.device.taken event = watch.device.pendingCommands.head? := by
  simp [taken, hpoll, hsuppress]

theorem sends_of_not_isPoll (hpoll : isPoll event = false) : watch.sends event = none := by
  cases event with
  | message hub message => simp [sends, taken, hpoll]
  | request hub request => rfl
  | watchdogTimeout => rfl

theorem Staged.poll (h : watch.Staged) {hub : HubView} {message : Message}
    (hpoll : isPoll (.message hub message))
    (hsuppress : watch.device.suppresses (.message hub message) = false)
    (hpending : (watch.step (.message hub message)).device.pendingCommands =
      watch.device.pendingCommands.tail)
    (hstage : (watch.step (.message hub message)).stage = polled watch.stage) :
    (watch.step (.message hub message)).Staged := by
  have htaken := taken_of_isPoll hpoll hsuppress
  unfold Staged at h ⊢
  rw [hstage, hpending]
  cases hbefore : watch.stage with
  | idle =>
    rw [hbefore] at h
    dsimp only [polled] at h ⊢
    rw [h]
    rfl
  | second number request =>
    rw [hbefore] at h
    obtain ⟨hframes, hlength, -⟩ := h
    dsimp only [polled]
    rw [hframes, ← length_eq_zero_iff, length_tail, length_tail, hlength]
  | first number request =>
    rw [hbefore] at h
    obtain ⟨hframes, hlength⟩ := h
    unfold polled
    dsimp only
    by_cases htwo : request.isSetpoint
    · rw [if_pos htwo] at hlength ⊢
      obtain ⟨frame, rest, hcons⟩ : ∃ frame rest, request.frames = frame :: rest :=
        exists_cons_of_length_pos (by omega)
      refine ⟨by rw [hframes], hlength, ⟨message, number, request, request.firstRole, frame⟩,
        ?_, if_pos htwo, rfl⟩
      rw [hframes, hcons] at htaken
      have hsends : watch.sends (.message hub message) =
          some ⟨message, number, request, request.firstRole, frame⟩ := by
        simp [sends, htaken, hbefore]
      change (watch.sent ++ (watch.sends (.message hub message)).toList).getLast? = _
      rw [hsends]
      simp
    · rw [if_neg htwo] at hlength ⊢
      dsimp only
      rw [hframes, ← length_eq_zero_iff, length_tail, hlength]

theorem Staged.of_eq (h : watch.Staged) {next : HandshakeWatch}
    (hpending : next.device.pendingCommands = watch.device.pendingCommands)
    (hstage : next.stage = watch.stage) (hsent : next.sent = watch.sent) : next.Staged := by
  unfold Staged at h ⊢
  rwa [hstage, hpending, hsent]

theorem Tracked.step (h : watch.Tracked) (event : AdapterEvent) : (watch.step event).Tracked := by
  refine ⟨h.settled.step event, ?_⟩
  have hpending := (pendingCommands_step h.settled.statusMessageReceived_eq event).2
  cases event with
  | watchdogTimeout => exact h.staged.of_eq rfl rfl (append_nil _)
  | request hub request =>
    by_cases haccepted : (watch.device.request hub request).2 = .accepted
    · have hstage : (watch.step (.request hub request)).stage = .first watch.accepted request :=
        if_pos haccepted
      have haccepts : watch.device.accepts (.request hub request) :=
        decide_eq_true haccepted
      rw [if_pos haccepts, offered, if_pos haccepted] at hpending
      unfold Staged
      rw [hstage]
      exact ⟨hpending, length_frames_of_accepted haccepted⟩
    · have haccepts : watch.device.accepts (.request hub request) = false :=
        decide_eq_false haccepted
      rw [haccepts] at hpending
      exact h.staged.of_eq hpending (if_neg haccepted) (append_nil _)
  | message hub message =>
    by_cases hsuppress : watch.device.suppresses (.message hub message)
    · have hstage : (watch.step (.message hub message)).stage = .idle := if_pos hsuppress
      unfold Staged
      rw [hstage]
      exact hpending.trans (if_pos hsuppress)
    · have hkept : watch.device.suppresses (.message hub message) = false :=
        Bool.eq_false_iff.mpr hsuppress
      rw [hkept] at hpending
      cases message with
      | status | devReady =>
        refine h.staged.poll rfl hkept hpending ?_
        unfold HandshakeWatch.step
        rw [hkept]
        rfl
      | probe | devStatus | unknown | ack =>
        refine h.staged.of_eq hpending ?_ ?_
        · unfold HandshakeWatch.step
          rw [hkept]
          rfl
        · change watch.sent ++ (watch.sends _).toList = _
          rw [sends_of_not_isPoll rfl]
          exact append_nil _

/-! ## The frames of a poll -/

section

variable {hub : HubView} {message : Message} {number : ℕ} {request : Request}

theorem sends_of_idle (h : watch.Staged) (hstage : watch.stage = .idle) :
    watch.sends (.message hub message) = none := by
  have hpending : watch.device.pendingCommands = [] := by
    unfold Staged at h
    rwa [hstage] at h
  simp [sends, taken, hpending]

theorem sends_of_first (hub : HubView) (message : Message) (h : watch.Staged)
    (hstage : watch.stage = .first number request) (hpoll : isPoll (.message hub message))
    (hsuppress : watch.device.suppresses (.message hub message) = false) :
    ∃ frame, request.frames[0]? = some frame ∧ watch.sends (.message hub message) =
      some ⟨message, number, request, request.firstRole, frame⟩ := by
  unfold Staged at h
  rw [hstage] at h
  obtain ⟨hpending, hlength⟩ := h
  have hpos : 0 < request.frames.length := by
    rw [hlength]
    split <;> omega
  obtain ⟨frame, rest, hframes⟩ := exists_cons_of_length_pos hpos
  have htaken := taken_of_isPoll hpoll hsuppress
  rw [hpending, hframes] at htaken
  exact ⟨frame, by rw [hframes]; rfl, by simp [sends, htaken, hstage]⟩

theorem sends_of_second (hub : HubView) (message : Message) (h : watch.Staged)
    (hstage : watch.stage = .second number request) (hpoll : isPoll (.message hub message))
    (hsuppress : watch.device.suppresses (.message hub message) = false) :
    ∃ frame, request.frames[1]? = some frame ∧ watch.sends (.message hub message) =
      some ⟨message, number, request, .setSP, frame⟩ := by
  unfold Staged at h
  rw [hstage] at h
  obtain ⟨hpending, hlength, -⟩ := h
  obtain ⟨first, frame, hframes⟩ := List.length_eq_two.mp hlength
  have htaken := taken_of_isPoll hpoll hsuppress
  rw [hpending, hframes] at htaken
  exact ⟨frame, by rw [hframes]; rfl, by simp [sends, htaken, hstage]⟩

theorem firstRole_ne_setSP : request.firstRole ≠ .setSP := by
  unfold Request.firstRole
  split <;> decide

theorem index_firstRole : request.firstRole.index = 0 := by
  unfold Request.firstRole
  split <;> rfl

theorem handshaken_of_sends {entry : SentFrame} (h : watch.sends event = some entry) :
    watch.Handshaken event ↔ InTurn watch.sent entry := by
  unfold Handshaken
  rw [h]
  exact ⟨fun hturn => hturn entry rfl, fun hturn _ hentry => Option.some_inj.mp hentry ▸ hturn⟩

theorem handshaken_of_sends_none (h : watch.sends event = none) : watch.Handshaken event := by
  intro entry hentry
  rw [h] at hentry
  cases hentry

theorem handshaken_status_iff (h : watch.Staged) :
    watch.Handshaken (.message hub .status) ↔ watch.Follows (.message hub .status) := by
  cases hstage : watch.stage with
  | idle =>
    refine iff_of_true (handshaken_of_sends_none (sends_of_idle h hstage)) ?_
    intro number request hsecond
    rw [hstage] at hsecond
    cases hsecond
  | first number request =>
    obtain ⟨frame, hframe, hsends⟩ := sends_of_first hub .status h hstage rfl rfl
    rw [handshaken_of_sends hsends]
    refine iff_of_true ⟨?_, ?_⟩ ?_
    · rwa [index_firstRole]
    · rw [if_neg firstRole_ne_setSP]
    · intro number' request' hsecond
      rw [hstage] at hsecond
      cases hsecond
  | second number request =>
    obtain ⟨frame, -, hsends⟩ := sends_of_second hub .status h hstage rfl rfl
    rw [handshaken_of_sends hsends]
    refine iff_of_false ?_ fun hfollows => hfollows number request hstage
    rintro ⟨-, hturn⟩
    rw [if_pos rfl] at hturn
    cases hturn.1

theorem handshaken_devReady_iff (h : watch.Staged) :
    watch.Handshaken (.message hub .devReady) ↔ watch.Follows (.message hub .devReady) := by
  by_cases hsuppress : watch.device.suppresses (.message hub .devReady)
  · refine iff_of_true (handshaken_of_sends_none ?_) (.inr hsuppress)
    simp [sends, taken, hsuppress]
  have hkept : watch.device.suppresses (.message hub .devReady) = false :=
    Bool.eq_false_iff.mpr hsuppress
  cases hstage : watch.stage with
  | idle =>
    refine iff_of_true (handshaken_of_sends_none (sends_of_idle h hstage)) (.inl ?_)
    intro number request hfirst
    rw [hstage] at hfirst
    cases hfirst
  | first number request =>
    obtain ⟨frame, -, hsends⟩ := sends_of_first _ _ h hstage rfl hkept
    rw [handshaken_of_sends hsends]
    refine iff_of_false ?_ ?_
    · rintro ⟨-, hturn⟩
      rw [if_neg firstRole_ne_setSP] at hturn
      cases hturn
    · rintro (hfollows | hsuppressed)
      · exact hfollows number request hstage
      · exact hsuppress hsuppressed
  | second number request =>
    obtain ⟨frame, hframe, hsends⟩ := sends_of_second _ _ h hstage rfl hkept
    rw [handshaken_of_sends hsends]
    refine iff_of_true ⟨hframe, ?_⟩ (.inl ?_)
    · unfold Staged at h
      rw [hstage] at h
      obtain ⟨-, -, ready, hlast, hrole, hnumber⟩ := h
      rw [if_pos rfl]
      exact ⟨rfl, ready, hlast, hrole, hnumber⟩
    · intro number' request' hfirst
      rw [hstage] at hfirst
      cases hfirst

end

theorem handshaken_iff (h : watch.Tracked) : watch.Handshaken event ↔ watch.Follows event := by
  cases event with
  | request hub request => exact iff_of_true (handshaken_of_sends_none rfl) trivial
  | watchdogTimeout => exact iff_of_true (handshaken_of_sends_none rfl) trivial
  | message hub message =>
    cases message with
    | status => exact handshaken_status_iff h.staged
    | devReady => exact handshaken_devReady_iff h.staged
    | probe | devStatus | unknown | ack =>
      exact iff_of_true (handshaken_of_sends_none (sends_of_not_isPoll rfl)) trivial

/-! ## All the events -/

/-- The frames of a run go out as the handshake has it in exactly the runs in which the panel
follows it. -/
theorem handshake_kept_iff (emulated : Bool) (events : List AdapterEvent) :
    EachStep HandshakeWatch.step Handshaken { device := { emulated } } events ↔
      EachStep HandshakeWatch.step Follows { device := { emulated } } events := by
  have htracked : Tracked { device := { emulated } } := ⟨settled_of_emulated emulated, rfl⟩
  exact eachStep_congr (fun watch event h => h.step event) (fun watch event h => handshaken_iff h)
    htracked

/-- The panel asks for the status twice: the value of the setpoint answers the second question,
where it is taken for a question. -/
theorem setSP_on_status :
    ¬ EachStep HandshakeWatch.step Handshaken { device := { emulated := true } }
      [.request {} (.setPoolSetpoint 28), .message {} .status, .message {} .status] := by
  rintro ⟨-, -, hturn, -⟩
  obtain ⟨-, hmessage⟩ := hturn ⟨.status, 0, .setPoolSetpoint 28, .setSP, ⟨0x00, 28⟩⟩ rfl
  rw [if_pos rfl] at hmessage
  cases hmessage.1

end HandshakeWatch

end AqualinkAutomate.SerialAdapter
