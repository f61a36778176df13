import Aqualink.Auth.AccessToken

/-!
# Logins

The login of a local user and the elevation with the kiosk PIN.  A secret is verified on
the offload pool while the kernel thread goes on, so a login has two halves: the start
takes a copy of the record and offloads the verification, and the completion, back on
the kernel thread, counts a failure or opens a session.  A new PIN is hashed there, too.

A job is named by its place among those of its kind, and they complete in any order.  Each
event carries the reading of the clock that its handler takes, and the random bytes and the
UUID that it draws.  The audit trail is left out.
-/

namespace AqualinkAutomate.Auth

/-! ## Counting failures -/

/-- The ticks of the system clock. -/
def ticksPerSecond : ℤ := 1000000000

/-- `NowUnix`: the seconds of a reading, towards zero. -/
def nowUnix (now : ℤ) : ℤ := now.tdiv ticksPerSecond

/-- The failures in a row, and the end of the last lockout. -/
structure FailureEntry where
  count : ℕ := 0
  lockedUntil : ℤ := 0
  deriving DecidableEq

structure SessionServiceConfig where
  refreshTtl : ℤ := 14 * 24 * 60 * 60
  maxFailuresPerAccount : ℕ := 5
  accountLockout : ℤ := 15 * 60
  deriving DecidableEq

/-- `SessionService::RecordFailure` on the entry of an account: the count starts again
with the lockout. -/
def SessionServiceConfig.recordFailure (config : SessionServiceConfig) (entry : FailureEntry)
    (now : ℤ) : FailureEntry :=
  if config.maxFailuresPerAccount ≤ entry.count + 1 then
    { count := 0, lockedUntil := now + config.accountLockout * ticksPerSecond }
  else
    { entry with count := entry.count + 1 }

structure KioskServiceConfig where
  refreshTtl : ℤ := 14 * 24 * 60 * 60
  maxFailures : ℕ := 5
  lockout : ℤ := 15 * 60
  minPinLength : ℕ := 4
  deriving DecidableEq

/-- `KioskService::RecordFailure`: the count goes on through the lockout. -/
def KioskServiceConfig.recordFailure (config : KioskServiceConfig) (entry : FailureEntry)
    (now : ℤ) : FailureEntry where
  count := entry.count + 1
  lockedUntil :=
    if config.maxFailures ≤ entry.count + 1 then
      now + config.lockout * ticksPerSecond
    else
      entry.lockedUntil

/-- `KioskService::IsLockedOut`: the entry it leaves, and its answer. -/
def FailureEntry.isKioskLockedOut (entry : FailureEntry) (now : ℤ) : FailureEntry × Bool :=
  if entry.lockedUntil = 0 then
    (entry, false)
  else if entry.lockedUntil ≤ now then
    ({}, false) -- the window elapsed
  else
    (entry, true)

/-! ## The services -/

/-- What the services are constructed with. -/
structure LoginEnvironment where
  verify : String → String → Bool -- a secret and a hash
  sha256 : String → Bytes32
  codec : JwtCodec
  decoyHash : String
  decoyPinHash : String
  session : SessionServiceConfig := {}
  kiosk : KioskServiceConfig := {}

structure LoginAttempt where
  usernameKey : String
  password : String
  user : Option UserRecord
  peerIp : String
  userAgent : String
  deriving DecidableEq

namespace LoginAttempt

/-- The record, if the account could be used. -/
def usableUser (attempt : LoginAttempt) : Option UserRecord :=
  attempt.user.filter fun user => !user.disabled

def hash (attempt : LoginAttempt) (decoyHash : String) : String :=
  match attempt.usableUser with
  | some user => user.passwordHash
  | none => decoyHash

end LoginAttempt

structure PinAttempt where
  rawPin : String
  kiosk : KioskStore
  peerIp : String
  userAgent : String
  deriving DecidableEq

namespace PinAttempt

def usable (attempt : PinAttempt) : Bool :=
  attempt.kiosk.enabled && !(attempt.kiosk.pinHash == "")

def hash (attempt : PinAttempt) (decoyPinHash : String) : String :=
  if attempt.usable then attempt.kiosk.pinHash else decoyPinHash

end PinAttempt

/-- A new PIN being hashed. -/
structure PinChange where
  rawPin : String
  targetGroup : String
  deriving DecidableEq

structure LoginService where
  stores : AuthStores
  failures : String → Option FailureEntry
  kioskFailure : FailureEntry
  logins : List LoginAttempt
  pinLogins : List PinAttempt
  pinChanges : List PinChange

/-- What a login is counted for: an account, by the key of its user name, or the PIN. -/
inductive Gate where
  | account (usernameKey : String)
  | kiosk
  deriving DecidableEq

structure LoginResult where
  success : Bool := false
  lockedOut : Bool := false
  error : String := ""
  accessToken : Option Token := none
  refreshToken : String := ""
  sessionId : String := ""
  deriving DecidableEq

structure SetPinResult where
  success : Bool := false
  error : String := ""
  deriving DecidableEq

inductive LoginReply where
  | offloaded (gate : Gate)
  | login (gate : Gate) (result : LoginResult)
  | setPin (result : SetPinResult)
  | admin (response : Response)
  | done
  deriving DecidableEq

def LoginReply.opensSession : LoginReply → Bool
  | .login _ result => result.success
  | _ => false

namespace LoginService

/-- The services as they are constructed over the stores. -/
def boot (stores : AuthStores) : LoginService := ⟨stores, fun _ => none, {}, [], [], []⟩

def kioskSubjectId : String := "kiosk"

def lockedOutResult : LoginResult :=
  { lockedOut := true, error := "Too many failed attempts; try again later" }

/-- `SessionService::IsLockedOut`. -/
def isLockedOut (service : LoginService) (usernameKey : String) (now : ℤ) : Bool :=
  (service.failures usernameKey).any fun entry => decide (now < entry.lockedUntil)

def recordFailure (env : LoginEnvironment) (service : LoginService) (usernameKey : String)
    (now : ℤ) : LoginService :=
  { service with
    failures := Function.update service.failures usernameKey
      (some (env.session.recordFailure ((service.failures usernameKey).getD {}) now)) }

/-! ### Local users -/

def login (service : LoginService) (username password peerIp userAgent : String) (now : ℤ) :
    LoginService × LoginReply :=
  let usernameKey := lowercase username
  if service.isLockedOut usernameKey now then
    (service, .login (.account usernameKey) lockedOutResult)
  else
    let attempt : LoginAttempt :=
      { usernameKey := usernameKey
        password := password
        user := service.stores.users.findByUsername username
        peerIp := peerIp
        userAgent := userAgent }
    ({ service with logins := service.logins ++ [attempt] }, .offloaded (.account usernameKey))

def finishLogin (env : LoginEnvironment) (service : LoginService) (user : UserRecord)
    (attempt : LoginAttempt) (now : ℤ) (random : Bytes32) (uuid : String) :
    LoginService × LoginReply :=
  let (sessions, refreshSecret, sessionId) := service.stores.sessions.create env.sha256 user.id
    (nowUnix now + env.session.refreshTtl) attempt.userAgent attempt.peerIp (nowUnix now) random
    uuid
  ({ service with stores := { service.stores with sessions := sessions } },
    .login (.account attempt.usernameKey)
      { success := true
        accessToken := some (service.stores.mintAccessToken env.codec user (nowUnix now))
        refreshToken := refreshSecret
        sessionId := sessionId })

/-- The completion of a login. -/
def loginVerified (env : LoginEnvironment) (service : LoginService) (index : ℕ) (now : ℤ)
    (random : Bytes32) (uuid : String) : LoginService × LoginReply :=
  match service.logins[index]? with
  | none => (service, .done)
  | some attempt =>
    let service := { service with logins := service.logins.eraseIdx index }
    match attempt.usableUser, env.verify attempt.password (attempt.hash env.decoyHash) with
    | some user, true =>
      finishLogin env
        { service with failures := Function.update service.failures attempt.usernameKey none }
        user attempt now random uuid
    | _, _ =>
      (service.recordFailure env attempt.usernameKey now,
        .login (.account attempt.usernameKey) { error := "Invalid username or password" })

/-! ### The kiosk -/

def loginWithPin (service : LoginService) (rawPin peerIp userAgent : String) (now : ℤ) :
    LoginService × LoginReply :=
  let (entry, lockedOut) := service.kioskFailure.isKioskLockedOut now
  let service := { service with kioskFailure := entry }
  if lockedOut then
    (service, .login .kiosk lockedOutResult)
  else
    let attempt : PinAttempt :=
      { rawPin := rawPin, kiosk := service.stores.kiosk, peerIp := peerIp, userAgent := userAgent }
    ({ service with pinLogins := service.pinLogins ++ [attempt] }, .offloaded .kiosk)

/-- The completion of an elevation. -/
def handlePinVerified (env : LoginEnvironment) (service : LoginService) (index : ℕ) (now : ℤ)
    (random : Bytes32) (uuid : String) : LoginService × LoginReply :=
  match service.pinLogins[index]? with
  | none => (service, .done)
  | some attempt =>
    let service := { service with pinLogins := service.pinLogins.eraseIdx index }
    if attempt.usable && env.verify attempt.rawPin (attempt.hash env.decoyPinHash) then
      let (sessions, refreshSecret, sessionId) := service.stores.sessions.create env.sha256
        kioskSubjectId (nowUnix now + env.kiosk.refreshTtl) attempt.userAgent attempt.peerIp
        (nowUnix now) random uuid
      ({ service with
          kioskFailure := {}
          stores := { service.stores with sessions := sessions } },
        .login .kiosk
          { success := true
            accessToken := some (service.stores.mintKioskToken env.codec (nowUnix now))
            refreshToken := refreshSecret
            sessionId := sessionId })
    else
      ({ service with kioskFailure := env.kiosk.recordFailure service.kioskFailure now },
        .login .kiosk { error := "Incorrect PIN" })

def setPin (env : LoginEnvironment) (service : LoginService) (rawPin targetGroup : String) :
    LoginService × LoginReply :=
  if rawPin.utf8ByteSize < env.kiosk.minPinLength then
    let error := "PIN must be at least " ++ toString env.kiosk.minPinLength ++ " characters"
    (service, .setPin { error := error })
  else if (service.stores.registry.find targetGroup).isNone then
    (service, .setPin { error := "Unknown target group" })
  else
    ({ service with pinChanges := service.pinChanges ++ [⟨rawPin, targetGroup⟩] }, .done)

def replaceKiosk (service : LoginService) (kiosk : KioskStore) : LoginService :=
  { service with
    stores := { service.stores with
      kiosk := kiosk
      sessions := (service.stores.sessions.revokeAllForUser kioskSubjectId).1 } }

/-- The completion of `setPin`, with the hash from the pool. -/
def pinHashed (service : LoginService) (index : ℕ) (pinHash : String) :
    LoginService × LoginReply :=
  match service.pinChanges[index]? with
  | none => (service, .done)
  | some change =>
    let service := { service with pinChanges := service.pinChanges.eraseIdx index }
    (service.replaceKiosk (service.stores.kiosk.configure pinHash change.targetGroup),
      .setPin { success := true })

def clearPin (service : LoginService) : LoginService × LoginReply :=
  (service.replaceKiosk service.stores.kiosk.disable, .done)

end LoginService

/-! ## What a completion does -/

def LoginAttempt.verifiedUser (attempt : LoginAttempt) (verify : String → String → Bool) :
    Option UserRecord :=
  attempt.usableUser.filter fun user => verify attempt.password user.passwordHash

/-- The attempt is going to open a session. -/
def PinAttempt.verified (attempt : PinAttempt) (verify : String → String → Bool) : Bool :=
  attempt.usable && verify attempt.rawPin attempt.kiosk.pinHash

namespace LoginService

variable {service : LoginService}

theorem loginVerified_cases (env : LoginEnvironment) {index : ℕ} {attempt : LoginAttempt}
    (hattempt : service.logins[index]? = some attempt) (now : ℤ) (random : Bytes32)
    (uuid : String) :
    (∃ user, attempt.verifiedUser env.verify = some user ∧
        service.loginVerified env index now random uuid =
          finishLogin env
            { service with
              logins := service.logins.eraseIdx index
              failures := Function.update service.failures attempt.usernameKey none }
            user attempt now random uuid) ∨
      attempt.verifiedUser env.verify = none ∧
        service.loginVerified env index now random uuid =
          (recordFailure env { service with logins := service.logins.eraseIdx index }
              attempt.usernameKey now,
            .login (.account attempt.usernameKey) { error := "Invalid username or password" }) := by
  simp only [loginVerified, hattempt, LoginAttempt.verifiedUser, LoginAttempt.hash]
  cases husable : attempt.usableUser with
  | none => exact .inr ⟨rfl, rfl⟩
  | some user =>
    cases hverify : env.verify attempt.password user.passwordHash with
    | true => exact .inl ⟨user, by simp [hverify], rfl⟩
    | false => exact .inr ⟨by simp [hverify], rfl⟩

theorem handlePinVerified_cases (env : LoginEnvironment) {index : ℕ} {attempt : PinAttempt}
    (hattempt : service.pinLogins[index]? = some attempt) (now : ℤ) (random : Bytes32)
    (uuid : String) :
    (attempt.verified env.verify ∧ ∃ sessions result, result.success ∧
        service.handlePinVerified env index now random uuid =
          ({ service with
              pinLogins := service.pinLogins.eraseIdx index
              kioskFailure := {}
              stores := { service.stores with sessions := sessions } }, .login .kiosk result)) ∨
      attempt.verified env.verify = false ∧
        service.handlePinVerified env index now random uuid =
          ({ service with
              pinLogins := service.pinLogins.eraseIdx index
              kioskFailure := env.kiosk.recordFailure service.kioskFailure now },
            .login .kiosk { error := "Incorrect PIN" }) := by
  -- the decoy is only verified against when the outcome is not used
  have hguard : (attempt.usable && env.verify attempt.rawPin (attempt.hash env.decoyPinHash)) =
      attempt.verified env.verify := by
    cases husable : attempt.usable <;> simp [PinAttempt.verified, PinAttempt.hash, husable]
  simp only [handlePinVerified, hattempt, hguard]
  cases hverified : attempt.verified env.verify with
  | true => exact .inl ⟨rfl, _, _, rfl, rfl⟩
  | false => exact .inr ⟨rfl, rfl⟩

end LoginService

/-! ## Runs -/

/-- The halves of the logins, and everything else that happens to the accounts. -/
inductive LoginEvent where
  | login (username password peerIp userAgent : String) (now : ℤ)
  | loginVerified (index : ℕ) (now : ℤ) (random : Bytes32) (uuid : String)
  | loginWithPin (rawPin peerIp userAgent : String) (now : ℤ)
  | pinVerified (index : ℕ) (now : ℤ) (random : Bytes32) (uuid : String)
  | setPin (rawPin targetGroup : String)
  | pinHashed (index : ℕ) (pinHash : String)
  | clearPin
  | admin (request : AdminRequest)
  deriving DecidableEq

namespace LoginEvent

/-- The reading of the clock that the event carries. -/
def clock : LoginEvent → Option ℤ
  | login _ _ _ _ now => some now
  | loginVerified _ now _ _ => some now
  | loginWithPin _ _ _ now => some now
  | pinVerified _ now _ _ => some now
  | _ => none

/-- The id that the event draws for a new user. -/
def drawnId : LoginEvent → Option String
  | admin request => request.drawnId
  | _ => none

end LoginEvent

namespace LoginService

def perform (env : LoginEnvironment) (service : LoginService) :
    LoginEvent → LoginService × LoginReply
  | .login username password peerIp userAgent now =>
    service.login username password peerIp userAgent now
  | .loginVerified index now random uuid => service.loginVerified env index now random uuid
  | .loginWithPin rawPin peerIp userAgent now => service.loginWithPin rawPin peerIp userAgent now
  | .pinVerified index now random uuid => service.handlePinVerified env index now random uuid
  | .setPin rawPin targetGroup => service.setPin env rawPin targetGroup
  | .pinHashed index pinHash => service.pinHashed index pinHash
  | .clearPin => service.clearPin
  | .admin request =>
    ({ service with stores := service.stores.afterRequest request },
      .admin (service.stores.handle request).2)

def after (env : LoginEnvironment) (service : LoginService) (event : LoginEvent) : LoginService :=
  (service.perform env event).1

end LoginService

/-! ## A small system -/

/-- An environment whose hashes show what they are the hash of. -/
def plainEnvironment : LoginEnvironment where
  verify secret hash := hash == "argon2id-" ++ secret
  sha256 := fun _ => Vector.replicate 32 0
  codec := { keys := ⟨⟨"key-1", [0x2a]⟩, []⟩ }
  decoyHash := "argon2id-decoy-password-for-timing-equalisation"
  decoyPinHash := "argon2id-decoy-pin-for-timing-equalisation"

def houseStores : AuthStores :=
  { AuthStores.initial with
    users := ⟨[{ id := "user-1", username := "owner", passwordHash := "argon2id-terrace",
                 groups := [BuiltInGroups.administrators], directEntitlements := .empty },
               { id := "user-2", username := "guest", passwordHash := "argon2id-lagoon",
                 groups := [], directEntitlements := .empty }]⟩
    kiosk := KioskStore.configure {} "argon2id-2468" BuiltInGroups.guest }

/-- The draw of a session in the house. -/
def houseRandom : Bytes32 := Vector.replicate 32 7

end AqualinkAutomate.Auth
