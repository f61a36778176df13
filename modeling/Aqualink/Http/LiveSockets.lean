import Aqualink.Http.RouteTree
import Aqualink.Http.SubjectResolver

/-!
# Live sockets

An upgrade to a WebSocket is authorised once, and then the connection stays open.  So that it does
not outlive its authority, the upgrade builds a revalidator, which has the credential of the
request and what its route requires, and every 500th poll of the connection asks it.  It is handed
over through a variable of the router that all connections share.

`liveSockets_followAuthority` says for every run that a live connection has the revalidator of its
own upgrade, and that it stays open at a revalidation exactly if an upgrade with its credential, on
its route, would be granted.  What other requests do to the stores and to the rate limiter is any
change of them, and the clocks can read anything.  Saves succeed.
-/

namespace AqualinkAutomate.Http

open Auth General Scheduling List

/-! ## The security policy -/

structure AccessRequirement where
  action : String := ""
  resourceKind : String := ""

def AccessRequirement.isSpecified (required : AccessRequirement) : Bool := required.action != ""

structure SecurityConfig where
  authToken : Option String := none
  allowedOrigins : List String := []
  authModeEnabled : Bool := false

/-- A request for an upgrade: the address of the client, the headers, and the segments of the
target if it can be parsed. -/
structure UpgradeRequest where
  peerIp : String
  headers : Headers
  target : Option (List String)

structure ClockReading where
  unix : ℤ
  steady : ℤ

structure Rejection where
  status : ℕ
  text : String

structure LimiterEntry where
  failures : ℕ := 0
  bannedUntil : ℤ := 0

/-- The failures of each address to present the token. -/
abbrev AuthRateLimiter : Type := List (String × LimiterEntry)

namespace AuthRateLimiter

def maxFailures : ℕ := 10
def banWindow : ℤ := 60
def maxTrackedIps : ℕ := 8192

variable (limiter : AuthRateLimiter) (ip : String) (now : ℤ)

def isBanned : Bool :=
  ip != "" && match limiter.lookup ip with
    | none => false
    | some entry => decide (now < entry.bannedUntil)

def pruneIfLarge : AuthRateLimiter :=
  if limiter.length < maxTrackedIps then limiter
  else
    limiter.filter fun tracked =>
      !(tracked.2.failures == 0 && decide (tracked.2.bannedUntil ≤ now))

def recordFailure : AuthRateLimiter :=
  if ip = "" then limiter
  else
    let limiter := limiter.pruneIfLarge now
    let entry := (limiter.lookup ip).getD {}
    let entry := if maxFailures ≤ entry.failures + 1 then ⟨0, now + banWindow⟩
      else { entry with failures := entry.failures + 1 }
    (ip, entry) :: limiter.filter fun tracked => tracked.1 != ip

def recordSuccess : AuthRateLimiter :=
  if ip = "" then limiter else limiter.filter fun tracked => tracked.1 != ip

end AuthRateLimiter

def webSocketSubprotocolTokenMatches (headers : Headers) (expected : String) : Bool :=
  (splitEntries ((headerValue headers "Sec-WebSocket-Protocol").getD "").toList).any fun entry =>
    let entry := trimBy isBlank entry
    bearerPrefix.isPrefixOf entry && entry.drop bearerPrefix.length == expected.toList

/-- The check of the token of the older configuration. -/
def evaluateBearerToken (expected : String) (limiter : AuthRateLimiter) (request : UpgradeRequest)
    (now : ℤ) : AuthRateLimiter × Option Rejection :=
  if limiter.isBanned request.peerIp now then
    (limiter, some ⟨429, "Too many failed authentication attempts; try again later."⟩)
  else if headerValue request.headers "Authorization" = some ("Bearer " ++ expected) ∨
      webSocketSubprotocolTokenMatches request.headers expected then
    (limiter.recordSuccess request.peerIp, none)
  else
    (limiter.recordFailure request.peerIp now, some ⟨401, "Unauthorized."⟩)

/-- `EvaluateSecurity` of an upgrade, which changes nothing and so needs no CSRF header. -/
def evaluateSecurity (config : SecurityConfig) (limiter : AuthRateLimiter)
    (request : UpgradeRequest) (now : ℤ) : AuthRateLimiter × Option Rejection :=
  let origin := (headerValue request.headers "Origin").getD ""
  if config.allowedOrigins ≠ [] ∧ ¬ (origin ≠ "" ∧ origin ∈ config.allowedOrigins) then
    (limiter, some ⟨403, "Forbidden: origin not allowed."⟩)
  else
    match config.authToken with
    | some expected =>
      if config.authModeEnabled then (limiter, none)
      else evaluateBearerToken expected limiter request now
    | none => (limiter, none)

def evaluateAccess (config : SecurityConfig) (subject : Subject) (required : AccessRequirement) :
    Option Rejection :=
  if !config.authModeEnabled || !required.isSpecified then none
  else if PolicyEngine.decide subject required.action "" true = .permit then none
  else if subject.authenticated then some ⟨403, "Forbidden: not entitled."⟩
  else some ⟨401, "Unauthorized."⟩

/-! ## Upgrades -/

structure WebSocketRevalidator where
  bearer : String
  action : String
  resourceKind : String

/-- How the server is set up, with the requirement of each route for sockets. -/
structure SocketEnv where
  config : SecurityConfig
  credentials : Credentials
  wsRoutes : List (RouteTemplate × AccessRequirement)

namespace SocketEnv

variable (env : SocketEnv)

/-- `WS_OnAccept`, which finds the handler of a target. -/
def wsOnAccept (target : Option (List String)) : Option AccessRequirement :=
  target.bind fun segments => (findImpl (some 20) (.ofRoutes env.wsRoutes) segments).1

/-- A request with nothing but the credential, offered as an upgrade does. -/
def synthesised (bearer : String) : Headers :=
  if bearer = "" then [] else [("Sec-WebSocket-Protocol", "bearer." ++ bearer)]

def revalidate (revalidator : WebSocketRevalidator) (stores : SubjectStores) (now : ℤ) :
    Bool × SubjectStores :=
  if !env.config.authModeEnabled then (true, stores)
  else
    let (subject, stores) :=
      stores.resolveSubject env.credentials now (synthesised revalidator.bearer) true
    (decide (PolicyEngine.decide subject revalidator.action "" true = .permit), stores)

end SocketEnv

def webSocketRevalidator (required : AccessRequirement) (headers : Headers) :
    Option WebSocketRevalidator :=
  if required.isSpecified then
    some ⟨webSocketSubprotocolBearerToken headers, required.action, required.resourceKind⟩
  else none

inductive SessionPhase where
  | http
  | accepting (request : UpgradeRequest)
  | live (request : UpgradeRequest)
  | done

/-- `HttpSessionState` -/
structure HttpSession where
  phase : SessionPhase := .http
  wsRevalidator : Option WebSocketRevalidator := none
  wsRevalidateTick : ℕ := 0

/-- The stores, the variables of the router, and the sessions. -/
structure SocketServer where
  stores : SubjectStores
  limiter : AuthRateLimiter
  currentWsRevalidator : Option WebSocketRevalidator
  session : ℕ → HttpSession

namespace SocketServer

def wsRevalidateInterval : ℕ := 500

def boot (stores : SubjectStores) : SocketServer := ⟨stores, [], none, fun _ => {}⟩

section

variable (env : SocketEnv) (s : SocketServer)

def withSession (id : ℕ) (session : HttpSession) : SocketServer :=
  { s with session := Function.update s.session id session }

def authorizeWebSocketUpgrade (request : UpgradeRequest) (reading : ClockReading) :
    SocketServer × Option Rejection :=
  let (limiter, rejection) := evaluateSecurity env.config s.limiter request reading.steady
  -- no revalidator is left from the upgrade before
  let s := { s with limiter, currentWsRevalidator := none }
  match rejection with
  | some rejection => (s, some rejection)
  | none =>
    if env.config.authModeEnabled then
      let (subject, stores) :=
        s.stores.resolveSubject env.credentials reading.unix request.headers true
      let s := { s with stores }
      match env.wsOnAccept request.target with
      | none => (s, none)
      | some required =>
        match evaluateAccess env.config subject required with
        | some rejection => (s, some rejection)
        | none =>
          ({ s with
              currentWsRevalidator := webSocketRevalidator required request.headers }, none)
    else (s, none)

/-- `ProcessRequest`, for an upgrade.  What is not granted is answered, and the session reads on. -/
def processUpgrade (id : ℕ) (request : UpgradeRequest) (reading : ClockReading) : SocketServer :=
  match (s.session id).phase with
  | .http =>
    match s.authorizeWebSocketUpgrade env request reading with
    | (s, some _) => s
    | (s, none) =>
      -- nothing runs between the authorisation and this copy
      let session := { s.session id with wsRevalidator := s.currentWsRevalidator }
      match env.wsOnAccept request.target with
      | none => s.withSession id session
      | some _ => s.withSession id { session with phase := .accepting request }
  | _ => s

def onWsAccept (id : ℕ) (accepted : Bool) : SocketServer :=
  match (s.session id).phase with
  | .accepting request =>
    s.withSession id { s.session id with phase := if accepted then .live request else .done }
  | _ => s

def markDone (id : ℕ) : SocketServer := s.withSession id { s.session id with phase := .done }

def poll (id : ℕ) (reading : ClockReading) : SocketServer :=
  match (s.session id).phase, (s.session id).wsRevalidator with
  | .live _, some revalidator =>
    let tick := (s.session id).wsRevalidateTick + 1
    if wsRevalidateInterval ≤ tick then
      let (authorised, stores) := env.revalidate revalidator s.stores reading.unix
      -- the count starts again, and with it the time until the next revalidation
      let s := { s with stores }.withSession id { s.session id with wsRevalidateTick := 0 }
      if authorised then s else s.markDone id
    else s.withSession id { s.session id with wsRevalidateTick := tick }
  | _, _ => s

end

end SocketServer

inductive SocketEvent where
  | upgrade (id : ℕ) (request : UpgradeRequest) (reading : ClockReading)
  | accepted (id : ℕ) (success : Bool)
  | poll (id : ℕ) (reading : ClockReading)
  /-- The connection is closed, or fails. -/
  | ended (id : ℕ)
  /-- What other requests do. -/
  | others (stores : SubjectStores) (limiter : AuthRateLimiter)

namespace SocketServer

def step (env : SocketEnv) (s : SocketServer) : SocketEvent → SocketServer
  | .upgrade id request reading => s.processUpgrade env id request reading
  | .accepted id success => s.onWsAccept id success
  | .poll id reading => s.poll env id reading
  | .ended id => s.markDone id
  | .others stores limiter => { s with stores, limiter }

abbrev run (env : SocketEnv) (stores : SubjectStores) (events : List SocketEvent) : SocketServer :=
  events.foldl (step env) (boot stores)

end SocketServer

/-! ## What authority is -/

def SocketEnv.ownRevalidator (env : SocketEnv) (request : UpgradeRequest) :
    Option WebSocketRevalidator :=
  if env.config.authModeEnabled then
    (env.wsOnAccept request.target).bind fun required =>
      webSocketRevalidator required request.headers
  else none

/-- The next poll asks the revalidator. -/
def HttpSession.Revalidates (session : HttpSession) : Prop :=
  session.wsRevalidator.isSome = true ∧
    SocketServer.wsRevalidateInterval ≤ session.wsRevalidateTick + 1

structure SameAuthority (env : SocketEnv) (request fresh : UpgradeRequest) : Prop where
  credential : webSocketSubprotocolBearerToken fresh.headers =
    webSocketSubprotocolBearerToken request.headers
  route : env.wsOnAccept fresh.target = env.wsOnAccept request.target

section

variable (env : SocketEnv) (stores : SubjectStores) (events : List SocketEvent)

def BuiltFor (id : ℕ) (request : UpgradeRequest) : Prop :=
  ∃ before reading after, events = before ++ .upgrade id request reading :: after ∧
    ((SocketServer.run env stores before).authorizeWebSocketUpgrade env request reading).2 =
      none ∧
    ((SocketServer.run env stores events).session id).wsRevalidator =
      ((SocketServer.run env stores before).authorizeWebSocketUpgrade env request
        reading).1.currentWsRevalidator

/-- A live socket has the revalidator of its own upgrade, and stays open at a revalidation exactly
if an upgrade that is like it, and passes the checks of every request, would be granted. -/
structure FollowsAuthority (id : ℕ) (request : UpgradeRequest) : Prop where
  own : BuiltFor env stores events id request
  kept : ((SocketServer.run env stores events).session id).Revalidates →
    ∀ reading fresh, SameAuthority env request fresh →
      (evaluateSecurity env.config (SocketServer.run env stores events).limiter fresh
        reading.steady).2 = none →
      ((((SocketServer.run env stores events).poll env id reading).session id).phase =
          .live request ↔
        ((SocketServer.run env stores events).authorizeWebSocketUpgrade env fresh reading).2 =
          none)

def LiveSocketsFollowAuthority : Prop :=
  ∀ id request, ((SocketServer.run env stores events).session id).phase = .live request →
    FollowsAuthority env stores events id request

end

/-! ## One credential, two requests -/

section

variable {env : SocketEnv} {stores : SubjectStores} {s : SocketServer} {now : ℤ}
variable {request fresh : UpgradeRequest} {reading : ClockReading} {required : AccessRequirement}
variable {revalidator : WebSocketRevalidator}

theorem headerValue_self (name value : String) : headerValue [(name, value)] name = some value := by
  simp [headerValue]

/-- The request that is made up offers the credential of the request that was made. -/
theorem bearerToken_synthesised (headers : Headers) :
    bearerToken (SocketEnv.synthesised (webSocketSubprotocolBearerToken headers)) true =
      webSocketSubprotocolBearerToken headers := by
  rw [SocketEnv.synthesised]
  split
  next hempty => rw [hempty]; rfl
  next hoffered =>
    rw [webSocketSubprotocolBearerToken] at hoffered ⊢
    split at hoffered
    next => exact absurd rfl hoffered
    next header hheader =>
      have htoList : ("bearer." ++ String.ofList (bearerEntry header.toList)).toList =
          bearerPrefix ++ bearerEntry header.toList :=
        String.toList_append.trans (congrArg (bearerPrefix ++ ·) String.toList_ofList)
      rw [bearerToken, if_pos rfl, webSocketSubprotocolBearerToken, headerValue_self]
      simp only
      rw [htoList, bearerEntry_bearerPrefix_append]

theorem resolveSubject_congr {credentials : Credentials} {headers headers' : Headers}
    (h : bearerToken headers true = bearerToken headers' true) :
    stores.resolveSubject credentials now headers true =
      stores.resolveSubject credentials now headers' true := by
  rw [SubjectStores.resolveSubject, SubjectStores.resolveSubject, h]

theorem evaluateAccess_eq_none_iff {config : SecurityConfig} {subject : Subject}
    (hauth : config.authModeEnabled) (hspecified : required.isSpecified) :
    evaluateAccess config subject required = none ↔
      PolicyEngine.decide subject required.action "" true = .permit := by
  rw [evaluateAccess, hauth, hspecified]
  simp only [Bool.not_true, Bool.or_self, Bool.false_eq_true, if_false]
  split
  next hpermit => simp [hpermit]
  next hdeny => split <;> simp [hdeny]

theorem revalidate_fst_iff (hbuilt : webSocketRevalidator required request.headers =
    some revalidator) (hauth : env.config.authModeEnabled)
    (hsame : webSocketSubprotocolBearerToken fresh.headers =
      webSocketSubprotocolBearerToken request.headers) :
    (env.revalidate revalidator stores now).1 ↔
      evaluateAccess env.config
        (stores.resolveSubject env.credentials now fresh.headers true).1 required = none := by
  rw [webSocketRevalidator] at hbuilt
  split at hbuilt
  next hspecified =>
    cases hbuilt
    have hcredential : bearerToken (SocketEnv.synthesised
        (webSocketSubprotocolBearerToken request.headers)) true = bearerToken fresh.headers true :=
      (bearerToken_synthesised request.headers).trans hsame.symm
    rw [evaluateAccess_eq_none_iff hauth hspecified, SocketEnv.revalidate, hauth,
      ← resolveSubject_congr hcredential]
    simp
  next => cases hbuilt

theorem authorizeWebSocketUpgrade_eq_none_iff (hauth : env.config.authModeEnabled)
    (hsecurity : (evaluateSecurity env.config s.limiter request reading.steady).2 = none)
    (hroute : env.wsOnAccept request.target = some required) :
    (s.authorizeWebSocketUpgrade env request reading).2 = none ↔
      evaluateAccess env.config (s.stores.resolveSubject env.credentials reading.unix
        request.headers true).1 required = none := by
  simp only [SocketServer.authorizeWebSocketUpgrade, hsecurity, hauth, if_true, hroute]
  cases evaluateAccess env.config (s.stores.resolveSubject env.credentials reading.unix
    request.headers true).1 required <;> simp

theorem currentWsRevalidator_of_granted
    (hgranted : (s.authorizeWebSocketUpgrade env request reading).2 = none) :
    (s.authorizeWebSocketUpgrade env request reading).1.currentWsRevalidator =
      env.ownRevalidator request := by
  rw [SocketServer.authorizeWebSocketUpgrade] at hgranted ⊢
  rw [SocketEnv.ownRevalidator]
  dsimp only at hgranted ⊢
  split at hgranted
  next => cases hgranted
  next =>
    split at hgranted
    next hauth =>
      split at hgranted
      next hroute => simp [hauth, hroute]
      next required hroute =>
        split at hgranted
        next => cases hgranted
        next => simp [hauth, hroute]
    next hauth => simp [hauth]

end

/-! ## Whose revalidator a session has -/

def HttpSession.UpgradedBy (session : HttpSession) (request : UpgradeRequest) : Prop :=
  session.phase = .accepting request ∨ session.phase = .live request

def SocketEvent.about : SocketEvent → Option ℕ
  | .upgrade id _ _ => some id
  | .accepted id _ => some id
  | .poll id _ => some id
  | .ended id => some id
  | .others _ _ => none

section

variable {env : SocketEnv} {stores : SubjectStores} {s : SocketServer} {id other : ℕ}
variable {session : HttpSession} {request : UpgradeRequest} {reading : ClockReading}
variable {event : SocketEvent} {events : List SocketEvent}

namespace SocketServer

@[simp] theorem session_withSession_self : (s.withSession id session).session id = session := by
  simp [withSession]

@[simp] theorem session_withSession_of_ne (h : other ≠ id) :
    (s.withSession id session).session other = s.session other := by
  simp [withSession, h]

@[simp] theorem session_authorizeWebSocketUpgrade :
    (s.authorizeWebSocketUpgrade env request reading).1.session = s.session := by
  rw [authorizeWebSocketUpgrade]
  dsimp only
  split
  · rfl
  · split
    · split
      · rfl
      · split <;> rfl
    · rfl

theorem session_step_of_ne (h : event.about ≠ some id) :
    (s.step env event).session id = s.session id := by
  cases event with
  | upgrade id' request reading =>
    have hid : id ≠ id' := fun heq => h (congrArg some heq.symm)
    have hauthorized := @session_authorizeWebSocketUpgrade env s request reading
    rw [step, processUpgrade]
    split
    next =>
      split
      next hresult =>
        rw [hresult] at hauthorized
        rw [hauthorized]
      next hresult =>
        rw [hresult] at hauthorized
        dsimp only
        split
        · rw [session_withSession_of_ne hid, hauthorized]
        · rw [session_withSession_of_ne hid, hauthorized]
    next => rfl
  | accepted id' success =>
    have hid : id ≠ id' := fun heq => h (congrArg some heq.symm)
    rw [step, onWsAccept]
    split
    · exact session_withSession_of_ne hid
    · rfl
  | poll id' reading =>
    have hid : id ≠ id' := fun heq => h (congrArg some heq.symm)
    rw [step, poll]
    dsimp only
    split
    · split
      · split
        · exact session_withSession_of_ne hid
        · exact (session_withSession_of_ne hid).trans (session_withSession_of_ne hid)
      · exact session_withSession_of_ne hid
    · rfl
  | ended id' =>
    have hid : id ≠ id' := fun heq => h (congrArg some heq.symm)
    exact session_withSession_of_ne hid
  | others stores limiter => rfl

theorem session_poll :
    (((s.poll env id reading).session id).phase = .done ∨
        ((s.poll env id reading).session id).phase = (s.session id).phase) ∧
      ((s.poll env id reading).session id).wsRevalidator = (s.session id).wsRevalidator := by
  rw [poll]
  split
  next hphase hrevalidator =>
    dsimp only
    split
    next =>
      split
      · simp
      · simp [markDone]
    next => simp
  next => exact ⟨.inr rfl, rfl⟩

theorem phase_poll_iff {revalidator : WebSocketRevalidator}
    (hlive : (s.session id).phase = .live request)
    (hrevalidator : (s.session id).wsRevalidator = some revalidator)
    (htick : wsRevalidateInterval ≤ (s.session id).wsRevalidateTick + 1) :
    ((s.poll env id reading).session id).phase = .live request ↔
      (env.revalidate revalidator s.stores reading.unix).1 := by
  simp only [poll, hlive, hrevalidator, if_pos htick]
  split
  next hauthorised => simp [hauthorised]
  next hrefused => simp [hrefused, markDone]

theorem upgradedBy_processUpgrade {request' : UpgradeRequest}
    (h : ((s.processUpgrade env id request' reading).session id).UpgradedBy request) :
    ((s.session id).UpgradedBy request ∧
        ((s.processUpgrade env id request' reading).session id).wsRevalidator =
          (s.session id).wsRevalidator) ∨
      request' = request ∧ (s.authorizeWebSocketUpgrade env request reading).2 = none ∧
        ((s.processUpgrade env id request' reading).session id).wsRevalidator =
          (s.authorizeWebSocketUpgrade env request reading).1.currentWsRevalidator := by
  have hauthorized := @session_authorizeWebSocketUpgrade env s request' reading
  rw [processUpgrade] at h ⊢
  split at h
  next hphase =>
    cases hresult : s.authorizeWebSocketUpgrade env request' reading with
    | mk s' rejection =>
      have hsession : s'.session = s.session := by rw [← hauthorized, hresult]
      cases rejection with
      | some rejection =>
        simp only [hresult, hsession] at h ⊢
        exact .inl ⟨h, trivial⟩
      | none =>
        cases hroute : env.wsOnAccept request'.target with
        | none =>
          -- there is no handler, and the session reads on
          simp only [hresult, hroute, session_withSession_self, hsession, hphase] at h
          obtain h | h := h <;> cases h
        | some required =>
          simp only [hresult, hroute, session_withSession_self] at h ⊢
          obtain h | h := h
          · cases h
            exact .inr ⟨rfl, by rw [hresult], by rw [hresult]⟩
          · cases h
  next => exact .inl ⟨h, rfl⟩

theorem upgradedBy_onWsAccept {success : Bool}
    (h : ((s.onWsAccept id success).session id).UpgradedBy request) :
    (s.session id).UpgradedBy request ∧
      ((s.onWsAccept id success).session id).wsRevalidator = (s.session id).wsRevalidator := by
  rw [onWsAccept] at h ⊢
  split at h
  next accepting hphase =>
    rw [session_withSession_self] at h ⊢
    cases success with
    | false => obtain h | h := h <;> cases h
    | true =>
      obtain h | h := h
      · cases h
      · cases h
        exact ⟨.inl hphase, rfl⟩
  next => exact ⟨h, rfl⟩

theorem upgradedBy_step (h : ((s.step env event).session id).UpgradedBy request) :
    ((s.session id).UpgradedBy request ∧
        ((s.step env event).session id).wsRevalidator = (s.session id).wsRevalidator) ∨
      ∃ reading, event = .upgrade id request reading ∧
        (s.authorizeWebSocketUpgrade env request reading).2 = none ∧
        ((s.step env event).session id).wsRevalidator =
          (s.authorizeWebSocketUpgrade env request reading).1.currentWsRevalidator := by
  by_cases habout : event.about = some id
  · cases event with
    | upgrade id' request' reading =>
      obtain rfl := Option.some_inj.mp habout
      obtain hbefore | ⟨rfl, hgranted⟩ := upgradedBy_processUpgrade h
      · exact .inl hbefore
      · exact .inr ⟨reading, rfl, hgranted⟩
    | accepted id' success =>
      obtain rfl := Option.some_inj.mp habout
      exact .inl (upgradedBy_onWsAccept h)
    | poll id' reading =>
      obtain rfl := Option.some_inj.mp habout
      obtain ⟨hphase, hrevalidator⟩ := @session_poll env s id' reading
      refine .inl ⟨?_, hrevalidator⟩
      obtain hdone | hsame := hphase
      · obtain h | h := h <;> exact absurd (hdone.symm.trans h) nofun
      · exact h.imp hsame.symm.trans hsame.symm.trans
    | ended id' =>
      obtain rfl := Option.some_inj.mp habout
      obtain h | h := h <;> simp [step, markDone] at h
    | others stores limiter => cases habout
  · rw [session_step_of_ne habout] at h ⊢
    exact .inl ⟨h, rfl⟩

end SocketServer

theorem builtFor_of_upgradedBy
    (h : ((SocketServer.run env stores events).session id).UpgradedBy request) :
    BuiltFor env stores events id request := by
  -- by induction on the run from its end: the last step has kept the revalidator or built it
  induction events using reverseRecOn with
  | nil => obtain h | h := h <;> cases h
  | append_singleton events event ih =>
    rw [SocketServer.run, foldl_concat] at h
    obtain ⟨hbefore, hsame⟩ | ⟨reading, rfl, hgranted, hbuilt⟩ := SocketServer.upgradedBy_step h
    · obtain ⟨before, reading, after, hcut, hgranted, hbuilt⟩ := ih hbefore
      refine ⟨before, reading, after ++ [event], ?_, hgranted, ?_⟩
      · rw [hcut, append_assoc, cons_append]
      · rwa [SocketServer.run, foldl_concat, hsame]
    · refine ⟨events, reading, [], rfl, hgranted, ?_⟩
      rwa [SocketServer.run, foldl_concat]

theorem wsRevalidator_of_builtFor (h : BuiltFor env stores events id request) :
    ((SocketServer.run env stores events).session id).wsRevalidator =
      env.ownRevalidator request := by
  obtain ⟨before, reading, after, -, hgranted, hbuilt⟩ := h
  rw [hbuilt]
  exact currentWsRevalidator_of_granted hgranted

end

/-- **A live socket never outlives its authority**: in every run the revalidator that a live socket
has is the one of its own upgrade, and at a revalidation it stays open exactly if an upgrade with
its credential, on its route, would be granted. -/
theorem liveSockets_followAuthority (env : SocketEnv) (stores : SubjectStores)
    (events : List SocketEvent) : LiveSocketsFollowAuthority env stores events := by
  intro id request hlive
  have hbuilt : BuiltFor env stores events id request := builtFor_of_upgradedBy (.inr hlive)
  refine ⟨hbuilt, ?_⟩
  rintro ⟨hsome, htick⟩ reading fresh hsame hsecurity
  obtain ⟨revalidator, hrevalidator⟩ := Option.isSome_iff_exists.mp hsome
  have hown := (wsRevalidator_of_builtFor hbuilt).symm.trans hrevalidator
  rw [SocketEnv.ownRevalidator] at hown
  split at hown
  next hauth =>
    obtain ⟨required, hroute, hcaptured⟩ := Option.bind_eq_some_iff.mp hown
    -- both sides are what the gate says of the credential, with the stores of this moment
    calc _ ↔ _ := SocketServer.phase_poll_iff hlive hrevalidator htick
      _ ↔ _ := revalidate_fst_iff hcaptured hauth hsame.credential
      _ ↔ _ :=
        (authorizeWebSocketUpgrade_eq_none_iff hauth hsecurity (hsame.route.trans hroute)).symm
  next => cases hown

end AqualinkAutomate.Http
