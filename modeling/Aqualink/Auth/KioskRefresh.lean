import Aqualink.Auth.Login

/-!
# Refreshing a kiosk session

An elevation with the PIN opens an ordinary session, with a refresh secret and a lifetime
of its own (`KioskServiceConfig.refreshTtl`), under the subject id of the kiosk.  The
refresh, though, is the session service's: it exchanges the secret and then looks the
session's user up among the local accounts.  The kiosk is not an account, so the exchange
ends in a refusal, and takes the session with it.

No refresh ever mints a token of the kiosk (`refresh_accessToken`).  Hence a kiosk session
does not live until it expires, whatever happens before the refresh
(`kiosk_session_not_refreshed`).
-/

namespace AqualinkAutomate.Auth

/-! ## The refresh -/

structure RefreshResult where
  success : Bool := false
  error : String := ""
  accessToken : Option Token := none
  refreshToken : String := ""
  deriving DecidableEq

namespace LoginService

variable {env : LoginEnvironment} {service : LoginService}

def withSessions (service : LoginService) (sessions : SessionStore) : LoginService :=
  { service with stores := { service.stores with sessions := sessions } }

/-- `SessionService::Refresh`. -/
def refresh (env : LoginEnvironment) (service : LoginService) (refreshToken : String) (now : ℤ)
    (random : Bytes32) : LoginService × RefreshResult :=
  let (sessions, rotation) := service.stores.sessions.rotate env.sha256 refreshToken (nowUnix now)
    random
  let service := service.withSessions sessions
  if rotation.reuseDetected then
    (service, { error := "Session revoked" })
  else if !rotation.success then
    (service, { error := "Invalid or expired session" })
  else
    match (service.stores.users.findById rotation.userId).filter fun user => !user.disabled with
    | none =>
      -- the account went away or was disabled while the session lived on
      (service.withSessions (sessions.revokeById rotation.sessionId).1,
        { error := "Invalid or expired session" })
    | some user =>
      (service,
        { success := true
          accessToken := some (service.stores.mintAccessToken env.codec user (nowUnix now))
          refreshToken := rotation.newRefreshSecret })

def logout (env : LoginEnvironment) (service : LoginService) (refreshToken : String) :
    LoginService :=
  service.withSessions (service.stores.sessions.revokeByRefresh env.sha256 refreshToken).1

theorem refresh_accessToken {refreshToken : String} {now : ℤ} {random : Bytes32} {token : Token}
    (h : (service.refresh env refreshToken now random).2.accessToken = some token) :
    token.provider = .localAccount := by
  simp only [refresh] at h
  split at h
  · simp at h
  · split at h
    · simp at h
    · split at h
      · simp at h
      · rw [← Option.some_inj.mp h]
        rfl

end LoginService

namespace AuthStores

variable {stores : AuthStores}

theorem resolveClaims_provider {claims : TokenClaims} {subject : Subject}
    (h : stores.resolveClaims claims = some subject) : subject.provider = claims.provider := by
  simp only [resolveClaims] at h
  split at h
  · split at h
    · simp at h
    · rw [← Option.some_inj.mp h]
  · split at h
    · simp at h
    · split at h
      · simp at h
      · rw [← Option.some_inj.mp h]
        rfl

theorem resolveJwt_provider {codec : JwtCodec} {token : Token} {now : ℤ} {subject : Subject}
    (h : stores.resolveJwt codec token now = some subject) : subject.provider = token.provider := by
  rw [resolveJwt, Option.bind_eq_some_iff] at h
  obtain ⟨claims, hverify, hresolve⟩ := h
  rw [resolveClaims_provider hresolve, JwtCodec.verify_eq_some hverify]

end AuthStores

/-! ## Runs -/

/-- What happens to the services, the refreshes and logouts included. -/
inductive SessionEvent where
  | service (event : LoginEvent)
  | refresh (refreshToken : String) (now : ℤ) (random : Bytes32)
  | logout (refreshToken : String)
  deriving DecidableEq

structure KioskTerminal where
  service : LoginService
  secret : String

namespace KioskTerminal

/-- The terminal after an event; a refresh with its secret hands it the next one. -/
def after (env : LoginEnvironment) (terminal : KioskTerminal) : SessionEvent → KioskTerminal
  | .service event => { terminal with service := terminal.service.after env event }
  | .refresh refreshToken now random =>
    let (service, result) := terminal.service.refresh env refreshToken now random
    { service := service
      secret :=
        if refreshToken = terminal.secret ∧ result.success = true then result.refreshToken
        else terminal.secret }
  | .logout refreshToken => { terminal with service := terminal.service.logout env refreshToken }

/-- A refresh at this time succeeds, and its token resolves to the subject that is given,
with the same entitlements. -/
def RefreshesAs (env : LoginEnvironment) (terminal : KioskTerminal) (subject : Subject) (now : ℤ)
    (random : Bytes32) : Prop :=
  let (service, result) := terminal.service.refresh env terminal.secret now random
  ∃ token refreshed, result.accessToken = some token ∧
    service.stores.resolveJwt env.codec token (nowUnix now) = some refreshed ∧
    refreshed.id = subject.id ∧ refreshed.provider = subject.provider ∧
    refreshed.entitlements = subject.entitlements

/-- What a login promises: after the run, at every time before the session's expiry, the
session can be refreshed, and as the subject that the login's own token resolves to. -/
def LivesUntilExpiry (env : LoginEnvironment) (service : LoginService) (opened : LoginResult)
    (openedAt : ℤ) (run : List SessionEvent) : Prop :=
  ∃ token subject, opened.accessToken = some token ∧
    service.stores.resolveJwt env.codec token (nowUnix openedAt) = some subject ∧
    ∀ now random, nowUnix now < nowUnix openedAt + env.kiosk.refreshTtl →
      (run.foldl (after env) ⟨service, opened.refreshToken⟩).RefreshesAs env subject now random

theorem not_refreshesAs {env : LoginEnvironment} {terminal : KioskTerminal} {subject : Subject}
    {now : ℤ} {random : Bytes32} (hkiosk : subject.provider = .kioskPin) :
    ¬ terminal.RefreshesAs env subject now random := by
  rintro ⟨token, refreshed, htoken, hresolve, -, hprovider, -⟩
  have hlocal : refreshed.provider = .localAccount := by
    calc refreshed.provider
      _ = token.provider := AuthStores.resolveJwt_provider hresolve
      _ = .localAccount := LoginService.refresh_accessToken htoken
  simp [hlocal, hkiosk] at hprovider

end KioskTerminal

namespace LoginService

variable {env : LoginEnvironment} {service : LoginService}

theorem nowUnix_mul (seconds : ℤ) : nowUnix (seconds * ticksPerSecond) = seconds :=
  Int.mul_tdiv_cancel seconds (by decide)

theorem handlePinVerified_accessToken {index : ℕ} {now : ℤ} {random : Bytes32} {uuid : String}
    {opened : LoginResult} {token : Token}
    (hopened : (service.handlePinVerified env index now random uuid).2 = .login .kiosk opened)
    (htoken : opened.accessToken = some token) : token.provider = .kioskPin := by
  rw [handlePinVerified] at hopened
  split at hopened
  · simp at hopened
  · dsimp only at hopened
    split at hopened
    · simp only [LoginReply.login.injEq, true_and] at hopened
      rw [← hopened] at htoken
      rw [← Option.some_inj.mp htoken]
      rfl
    · simp only [LoginReply.login.injEq, true_and] at hopened
      simp [← hopened] at htoken

/-- No session that the PIN opens lives until it expires, whatever happens after the login:
a moment before the expiry at the latest, the refresh fails to give the kiosk its token. -/
theorem kiosk_session_not_refreshed {index : ℕ} {now : ℤ} {random : Bytes32} {uuid : String}
    {opened : LoginResult}
    (hopened : (service.handlePinVerified env index now random uuid).2 = .login .kiosk opened)
    (run : List SessionEvent) :
    ¬ KioskTerminal.LivesUntilExpiry env (service.handlePinVerified env index now random uuid).1
      opened now run := by
  rintro ⟨token, subject, htoken, hresolve, hlives⟩
  have hkiosk : subject.provider = .kioskPin := by
    calc subject.provider
      _ = token.provider := AuthStores.resolveJwt_provider hresolve
      _ = .kioskPin := handlePinVerified_accessToken hopened htoken
  -- the last second before the expiry, as a reading of the clock
  let lastSecond : ℤ := nowUnix now + env.kiosk.refreshTtl - 1
  have hbefore : nowUnix (lastSecond * ticksPerSecond) < nowUnix now + env.kiosk.refreshTtl := by
    rw [nowUnix_mul]
    omega
  exact KioskTerminal.not_refreshesAs hkiosk (hlives _ random hbefore)

def houseElevating : LoginService := ((boot houseStores).loginWithPin "2468" "" "" 0).1

def houseElevated : LoginService × LoginReply :=
  houseElevating.handlePinVerified plainEnvironment 0 0 houseRandom "session-1"

/-- The session that the elevation opens. -/
def houseSession : LoginResult where
  success := true
  accessToken := some (houseStores.mintKioskToken plainEnvironment.codec 0)
  refreshToken := generateSecret houseRandom
  sessionId := "session-1"

theorem kiosk_session_not_refreshed_house :
    ¬ KioskTerminal.LivesUntilExpiry plainEnvironment houseElevated.1 houseSession 0 [] := by
  have hopened : (houseElevating.handlePinVerified plainEnvironment 0 0 houseRandom
      "session-1").2 = .login .kiosk houseSession := by decide +kernel
  exact kiosk_session_not_refreshed hopened []

/-- One second after the login, with the kiosk as it was, the refresh of the only session is
refused, and the session is gone. -/
theorem kiosk_refresh_refused :
    let refreshed := refresh plainEnvironment houseElevated.1 houseSession.refreshToken
      ticksPerSecond houseRandom
    houseElevated.2 = .login .kiosk houseSession ∧
      houseElevated.1.stores.kiosk = houseStores.kiosk ∧
      refreshed.2 = { error := "Invalid or expired session" } ∧
      refreshed.1.stores.sessions.sessions = [] ∧
      ¬ KioskTerminal.LivesUntilExpiry plainEnvironment houseElevated.1 houseSession 0 [] := by
  refine ⟨by decide +kernel, by decide +kernel, by decide +kernel, by decide +kernel, ?_⟩
  rintro ⟨_, _, -, -, hlives⟩
  obtain ⟨token, _, htoken, -⟩ := hlives ticksPerSecond houseRandom (by decide)
  have hnone : (refresh plainEnvironment houseElevated.1 houseSession.refreshToken
      ticksPerSecond houseRandom).2.accessToken = none := by decide +kernel
  exact absurd (hnone.symm.trans htoken) (by simp)

end LoginService

end AqualinkAutomate.Auth
