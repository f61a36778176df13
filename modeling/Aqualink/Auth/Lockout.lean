import Aqualink.Auth.Login
import Aqualink.General.Throttle

/-!
# Lockouts

The failed logins of an account are counted under its user name, those with the PIN in
one count.  Both counters are throttles: the account's starts again when it locks, the
kiosk's goes on until a login after the end of the lockout resets it.  A success clears
either.

`account_step` and `kiosk_step` say that whatever happens to the services is a step of
the throttle, so what holds of all throttles holds of the two (`lockout_run`).  It holds
of a lockout with no attempt in flight: an attempt that was let in before the lockout
was set completes as any other, and when it succeeds the lockout is gone
(`nine_wrong_guesses_and_a_cleared_lockout`).
-/

namespace AqualinkAutomate.Auth

open General List Function

/-! ## The two throttles -/

def SessionServiceConfig.policy (config : SessionServiceConfig) :
    LockoutPolicy (Option FailureEntry) ℤ where
  limit := config.maxFailuresPerAccount
  locked entry now := entry.any fun entry => decide (now < entry.lockedUntil)
  check entry _ := entry
  fail entry now := some (config.recordFailure (entry.getD {}) now)
  clear := none
  failures entry := (entry.getD {}).count
  spent _ := false
  valid _ := True
  valid_check _ _ h := h
  valid_fail _ _ _ := trivial
  valid_clear := trivial
  check_of_locked _ _ _ := rfl
  check_cases _ _ := Or.inl rfl
  fail_counts := by
    intro entry now _ hcount
    rw [← not_le] at hcount
    simp [SessionServiceConfig.recordFailure, hcount]

/-- The throttle of the kiosk: while the end of a lockout is remembered the count is at
least the limit. -/
def KioskServiceConfig.policy (config : KioskServiceConfig) : LockoutPolicy FailureEntry ℤ where
  limit := config.maxFailures
  locked entry now := (entry.isKioskLockedOut now).2
  check entry now := (entry.isKioskLockedOut now).1
  fail := config.recordFailure
  clear := {}
  failures := FailureEntry.count
  spent entry := !(entry.lockedUntil == 0)
  valid entry := entry.lockedUntil ≠ 0 → config.maxFailures ≤ entry.count
  valid_check := by
    intro entry now h
    rw [FailureEntry.isKioskLockedOut]
    split
    · exact h
    · split
      · simp
      · exact h
  valid_fail := by
    intro entry now h
    rw [KioskServiceConfig.recordFailure]
    split
    · next hlimit => exact fun _ => hlimit
    · exact fun hlocked => (h hlocked).trans (Nat.le_succ _)
  valid_clear := by simp
  check_of_locked := by
    intro entry now h
    rw [FailureEntry.isKioskLockedOut] at h ⊢
    split
    · rfl
    · split
      · simp_all
      · rfl
  check_cases := by
    intro entry now
    rw [FailureEntry.isKioskLockedOut]
    split
    · exact Or.inl rfl
    · next hlocked =>
        split
        · exact Or.inr ⟨by simpa using hlocked, rfl, rfl⟩
        · exact Or.inl rfl
  fail_counts := by
    intro entry now h hcount
    have hnever : entry.lockedUntil = 0 := by
      by_contra hlocked
      have hlimit := h hlocked
      omega
    rw [← not_le] at hcount
    simp [KioskServiceConfig.recordFailure, hcount, hnever]

/-! ## The services as throttles -/

def LoginReply.outcome (gate : Gate) : LoginReply → Outcome
  | .offloaded gate' => if gate' = gate then .started else .unrelated
  | .login gate' result =>
    if gate' = gate then
      if result.success then .succeeded else if result.lockedOut then .refused else .failed
    else
      .unrelated
  | _ => .unrelated

def FailureEntry.kioskLockedUntil (entry : FailureEntry) : Option ℤ :=
  if entry.lockedUntil = 0 then none else some entry.lockedUntil

theorem FailureEntry.isKioskLockedOut_of_lt {entry : FailureEntry} {expiry now : ℤ}
    (h : entry.kioskLockedUntil = some expiry) (hnow : now < expiry) :
    (entry.isKioskLockedOut now).2 := by
  rw [kioskLockedUntil] at h
  split at h
  · simp at h
  · next hlocked =>
      have hlater : ¬ entry.lockedUntil ≤ now := by
        rw [Option.some_inj.mp h]
        exact not_le.mpr hnow
      rw [isKioskLockedOut, if_neg hlocked, if_neg hlater]

namespace LoginService

variable {env : LoginEnvironment} {service : LoginService}

def outcome (env : LoginEnvironment) (gate : Gate) (service : LoginService) (event : LoginEvent) :
    Outcome :=
  (service.perform env event).2.outcome gate

def accountThrottle (usernameKey : String) (service : LoginService) :
    ThrottleState (Option FailureEntry) where
  throttle := service.failures usernameKey
  inFlight := service.logins.countP fun attempt => attempt.usernameKey == usernameKey

def kioskThrottle (service : LoginService) : ThrottleState FailureEntry where
  throttle := service.kioskFailure
  inFlight := service.pinLogins.length

theorem countP_eraseIdx {index : ℕ} {attempt : LoginAttempt}
    (hattempt : service.logins[index]? = some attempt) (usernameKey : String) :
    service.logins.countP (fun attempt => attempt.usernameKey == usernameKey) =
      (service.logins.eraseIdx index).countP (fun attempt => attempt.usernameKey == usernameKey) +
        if attempt.usernameKey = usernameKey then 1 else 0 := by
  obtain ⟨hindex, hget⟩ := List.getElem?_eq_some_iff.mp hattempt
  have hsplit : service.logins =
      service.logins.take index ++ attempt :: service.logins.drop (index + 1) := by
    rw [← hget, getElem_cons_drop, take_append_drop]
  rw [eraseIdx_eq_take_drop_succ, countP_append]
  nth_rewrite 1 [hsplit]
  rw [countP_append, countP_cons, ← Nat.add_assoc]
  simp only [beq_iff_eq]

theorem account_login {event : LoginEvent} {username password peerIp userAgent : String} {now : ℤ}
    (hevent : event = .login username password peerIp userAgent now) (usernameKey : String) :
    env.session.policy.Step event.clock (service.accountThrottle usernameKey)
      (outcome env (.account usernameKey) service event)
      ((service.after env event).accountThrottle usernameKey) := by
  subst hevent
  rw [outcome, after, perform, login]
  by_cases hkey : lowercase username = usernameKey
  · subst hkey
    split
    next hlocked =>
      rw [LoginReply.outcome, if_pos rfl]
      exact .refused rfl hlocked rfl rfl
    next hopen =>
      rw [LoginReply.outcome, if_pos rfl]
      refine .started rfl ((Bool.not_eq_true _).mp hopen) rfl ?_
      simp [accountThrottle]
  · have hother : Gate.account (lowercase username) ≠ .account usernameKey := by
      simpa using hkey
    split
    · rw [LoginReply.outcome, if_neg hother]
      exact .unrelated rfl
    · rw [LoginReply.outcome, if_neg hother]
      exact .unrelated (by simp [accountThrottle, hkey])

theorem account_loginVerified {event : LoginEvent} {index : ℕ} {now : ℤ} {random : Bytes32}
    {uuid : String} (hevent : event = .loginVerified index now random uuid) (usernameKey : String) :
    env.session.policy.Step event.clock (service.accountThrottle usernameKey)
      (outcome env (.account usernameKey) service event)
      ((service.after env event).accountThrottle usernameKey) := by
  subst hevent
  cases hattempt : service.logins[index]? with
  | none =>
    rw [outcome, after, perform, loginVerified, hattempt]
    exact .unrelated rfl
  | some attempt =>
    have hcount := countP_eraseIdx hattempt usernameKey
    by_cases hkey : attempt.usernameKey = usernameKey
    · rw [if_pos hkey] at hcount
      rcases loginVerified_cases env hattempt now random uuid with ⟨user, -, heq⟩ | ⟨-, heq⟩
      · rw [outcome, after, perform, heq, finishLogin]
        simp only [LoginReply.outcome, hkey, if_true]
        exact .succeeded (update_self ..) hcount
      · rw [outcome, after, perform, heq, recordFailure]
        simp only [LoginReply.outcome, hkey, if_true, Bool.false_eq_true, if_false]
        exact .failed now (update_self ..) hcount
    · rw [if_neg hkey] at hcount
      have hother : Gate.account attempt.usernameKey ≠ .account usernameKey := by
        simpa using hkey
      rcases loginVerified_cases env hattempt now random uuid with ⟨user, -, heq⟩ | ⟨-, heq⟩
      · rw [outcome, after, perform, heq, finishLogin]
        simp only [LoginReply.outcome, if_neg hother]
        exact .unrelated (ThrottleState.ext (update_of_ne (Ne.symm hkey) ..) hcount.symm)
      · rw [outcome, after, perform, heq, recordFailure]
        simp only [LoginReply.outcome, if_neg hother]
        exact .unrelated (ThrottleState.ext (update_of_ne (Ne.symm hkey) ..) hcount.symm)

theorem account_step (env : LoginEnvironment) (usernameKey : String) (service : LoginService)
    (event : LoginEvent) :
    env.session.policy.Step event.clock (service.accountThrottle usernameKey)
      (outcome env (.account usernameKey) service event)
      ((service.after env event).accountThrottle usernameKey) := by
  cases event with
  | login username password peerIp userAgent now => exact account_login rfl usernameKey
  | loginVerified index now random uuid => exact account_loginVerified rfl usernameKey
  | loginWithPin rawPin peerIp userAgent now =>
    simp only [outcome, after, perform, loginWithPin]
    split <;> exact .unrelated rfl
  | pinVerified index now random uuid =>
    cases hattempt : service.pinLogins[index]? with
    | none =>
      rw [outcome, after, perform, handlePinVerified, hattempt]
      exact .unrelated rfl
    | some attempt =>
      rcases handlePinVerified_cases env hattempt now random uuid with
        ⟨-, sessions, result, -, heq⟩ | ⟨-, heq⟩ <;>
      · rw [outcome, after, perform, heq]
        exact .unrelated rfl
  | setPin rawPin targetGroup =>
    rw [outcome, after, perform, setPin]
    split
    · exact .unrelated rfl
    · split <;> exact .unrelated rfl
  | pinHashed index pinHash =>
    rw [outcome, after, perform, pinHashed]
    split <;> exact .unrelated rfl
  | clearPin => exact .unrelated rfl
  | admin request => exact .unrelated rfl

theorem kiosk_step (env : LoginEnvironment) (service : LoginService) (event : LoginEvent) :
    env.kiosk.policy.Step event.clock service.kioskThrottle (outcome env .kiosk service event)
      (service.after env event).kioskThrottle := by
  cases event with
  | loginWithPin rawPin peerIp userAgent now =>
    simp only [outcome, after, perform, loginWithPin]
    cases hlocked : (service.kioskFailure.isKioskLockedOut now).2 with
    | true => exact .refused rfl hlocked rfl rfl
    | false =>
      refine .started rfl hlocked rfl ?_
      simp [kioskThrottle]
  | pinVerified index now random uuid =>
    cases hattempt : service.pinLogins[index]? with
    | none =>
      rw [outcome, after, perform, handlePinVerified, hattempt]
      exact .unrelated rfl
    | some attempt =>
      obtain ⟨hindex, -⟩ := List.getElem?_eq_some_iff.mp hattempt
      have hlength := (length_eraseIdx_add_one hindex).symm
      rcases handlePinVerified_cases env hattempt now random uuid with
        ⟨-, sessions, result, hsuccess, heq⟩ | ⟨-, heq⟩
      · rw [outcome, after, perform, heq]
        simp only [LoginReply.outcome, hsuccess, if_true]
        exact .succeeded rfl hlength
      · rw [outcome, after, perform, heq]
        exact .failed now rfl hlength
  | login username password peerIp userAgent now =>
    rw [outcome, after, perform, login]
    split <;> exact .unrelated rfl
  | loginVerified index now random uuid =>
    cases hattempt : service.logins[index]? with
    | none =>
      rw [outcome, after, perform, loginVerified, hattempt]
      exact .unrelated rfl
    | some attempt =>
      rcases loginVerified_cases env hattempt now random uuid with ⟨user, -, heq⟩ | ⟨-, heq⟩ <;>
      · rw [outcome, after, perform, heq]
        exact .unrelated rfl
  | setPin rawPin targetGroup =>
    rw [outcome, after, perform, setPin]
    split
    · exact .unrelated rfl
    · split <;> exact .unrelated rfl
  | pinHashed index pinHash =>
    rw [outcome, after, perform, pinHashed]
    split <;> exact .unrelated rfl
  | clearPin => exact .unrelated rfl
  | admin request => exact .unrelated rfl

/-! ## Lockouts -/

/-- The end of the lockout that is remembered at a gate. -/
def lockedUntil (service : LoginService) : Gate → Option ℤ
  | .account usernameKey => (service.failures usernameKey).map FailureEntry.lockedUntil
  | .kiosk => service.kioskFailure.kioskLockedUntil

def inFlight (service : LoginService) : Gate → ℕ
  | .account usernameKey => (service.accountThrottle usernameKey).inFlight
  | .kiosk => service.kioskThrottle.inFlight

def failureCount (service : LoginService) : Gate → ℕ
  | .account usernameKey => ((service.failures usernameKey).getD {}).count
  | .kiosk => service.kioskFailure.count

end LoginService

def LoginEnvironment.maxFailures (env : LoginEnvironment) : Gate → ℕ
  | .account _ => env.session.maxFailuresPerAccount
  | .kiosk => env.kiosk.maxFailures

namespace LoginService

variable {env : LoginEnvironment} {service : LoginService}

def SetsLockout (env : LoginEnvironment) (gate : Gate) (service : LoginService)
    (event : LoginEvent) : Prop :=
  outcome env gate service event = .failed ∧ env.maxFailures gate ≤ service.failureCount gate + 1

instance (env : LoginEnvironment) (gate : Gate) (service : LoginService) (event : LoginEvent) :
    Decidable (SetsLockout env gate service event) :=
  inferInstanceAs (Decidable (_ ∧ _))

abbrev run (env : LoginEnvironment) (stores : AuthStores) (events : List LoginEvent) :
    LoginService :=
  events.foldl (after env) (boot stores)

section

variable {β : Type*} {policy : LockoutPolicy β ℤ} {project : LoginService → ThrottleState β}
  {gate : Gate} {during : List LoginEvent}

theorem lockout_stays_of_step (read : β → Option ℤ)
    (hstep : ∀ service event, policy.Step (LoginEvent.clock event) (project service)
      (outcome env gate service event) (project (service.after env event)))
    (hinFlight : ∀ service, service.inFlight gate = (project service).inFlight)
    (hread : ∀ service, service.lockedUntil gate = read (project service).throttle)
    (hlocked : ∀ b expiry now, read b = some expiry → now < expiry → policy.locked b now)
    {expiry : ℤ} (hexpiry : service.lockedUntil gate = some expiry)
    (hidle : service.inFlight gate = 0)
    (hclock : ∀ event ∈ during, ∀ now ∈ event.clock, now < expiry) :
    EachState (after env) (fun service => service.lockedUntil gate = some expiry ∧
        service.inFlight gate = 0) service during ∧
      EachStep (after env) (fun service event => outcome env gate service event = .unrelated ∨
        outcome env gate service event = .refused) service during := by
  rw [hread] at hexpiry
  rw [hinFlight] at hidle
  obtain ⟨hstates, hsteps⟩ := LockoutPolicy.locked_run hstep
    (fun event hevent now hnow => hlocked _ _ _ hexpiry (hclock event hevent now hnow)) hidle
  refine ⟨hstates.mono ?_, hsteps⟩
  intro service' hsame
  rw [hread, hinFlight, hsame]
  exact ⟨hexpiry, hidle⟩

end

/-- Of every run of the services and every gate, cut at any event.

* If a lockout is set with no attempt in flight, then as long as the clock reads less
  than its end no login is let in, so none succeeds, and the lockout stays as it is.
* As long as no login is let in, only those in flight are completed.
* As long as no login succeeds, the failures up to the one that sets the next lockout are
  at most the limit. -/
theorem lockout_run (env : LoginEnvironment) (stores : AuthStores) (gate : Gate)
    (before during : List LoginEvent) :
    let service := run env stores before
    (∀ expiry, service.lockedUntil gate = some expiry → service.inFlight gate = 0 →
      (∀ event ∈ during, ∀ now ∈ event.clock, now < expiry) →
        EachState (after env) (fun service => service.lockedUntil gate = some expiry ∧
          service.inFlight gate = 0) service during ∧
        EachStep (after env) (fun service event => outcome env gate service event = .unrelated ∨
          outcome env gate service event = .refused) service during) ∧
      (EachStep (after env) (fun service event => outcome env gate service event ≠ .started)
          service during →
        LockoutPolicy.countOf (after env) (outcome env gate) Outcome.isCompletion service during +
          (run env stores (before ++ during)).inFlight gate = service.inFlight gate) ∧
      (EachStep (after env) (fun service event => outcome env gate service event ≠ .succeeded)
          service during →
        EachStep (after env) (fun service event => ¬ SetsLockout env gate service event) service
          during.dropLast →
        LockoutPolicy.countOf (after env) (outcome env gate) Outcome.isFailure service during ≤
          max 1 (env.maxFailures gate)) := by
  intro service
  rw [run, foldl_append]
  cases gate with
  | account usernameKey =>
    have hstep := account_step env usernameKey
    refine ⟨?_, LockoutPolicy.completions_run hstep, LockoutPolicy.failures_run hstep trivial⟩
    intro expiry hexpiry hidle hclock
    refine lockout_stays_of_step (Option.map FailureEntry.lockedUntil) hstep
      (fun _ => rfl) (fun _ => rfl) ?_ hexpiry hidle hclock
    intro entry expiry now hread hnow
    obtain ⟨entry, rfl, rfl⟩ := Option.map_eq_some_iff.mp hread
    exact decide_eq_true hnow
  | kiosk =>
    have hstep := kiosk_step env
    refine ⟨?_, LockoutPolicy.completions_run hstep, LockoutPolicy.failures_run hstep ?_⟩
    · intro expiry hexpiry hidle hclock
      refine lockout_stays_of_step FailureEntry.kioskLockedUntil hstep (fun _ => rfl)
        (fun _ => rfl) ?_ hexpiry hidle hclock
      exact fun _ _ _ hread hnow => FailureEntry.isKioskLockedOut_of_lt hread hnow
    · exact LockoutPolicy.valid_run hstep env.kiosk.policy.valid_clear

/-- The guest tries a password, and the verification completes before anything else
happens to the guest's account but the first `index` attempts, which stay in flight. -/
def guestTries (password : String) (seconds : ℤ) (index : ℕ) : List LoginEvent :=
  [.login "guest" password "10.0.0.9" "tablet" (seconds * ticksPerSecond),
    .loginVerified index (seconds * ticksPerSecond) houseRandom "session-1"]

def guestGuesses (count : ℕ) (seconds : ℤ) (index : ℕ) : List LoginEvent :=
  (replicate count (guestTries "puddle" seconds index)).flatten

/-- The house after five wrong guesses. -/
def guestLockedOut : LoginService := run plainEnvironment houseStores (guestGuesses 5 0 0)

abbrev guestOutcome : LoginService → LoginEvent → Outcome :=
  outcome plainEnvironment (.account "guest")

/-- The fifth guess locks the guest out, and the right password is refused. -/
theorem lockout_run_house :
    EachState (after plainEnvironment) (fun service =>
        service.lockedUntil (.account "guest") = some (900 * ticksPerSecond) ∧
          service.inFlight (.account "guest") = 0) guestLockedOut (guestTries "lagoon" 60 0) ∧
      EachStep (after plainEnvironment) (fun service event =>
        guestOutcome service event = .unrelated ∨ guestOutcome service event = .refused)
        guestLockedOut (guestTries "lagoon" 60 0) ∧
      LockoutPolicy.countOf (after plainEnvironment) guestOutcome Outcome.isFailure
        (boot houseStores) (guestGuesses 5 0 0) ≤ max 1 5 := by
  have hlocked := lockout_run plainEnvironment houseStores (.account "guest")
    (guestGuesses 5 0 0) (guestTries "lagoon" 60 0)
  have hcounted := lockout_run plainEnvironment houseStores (.account "guest") []
    (guestGuesses 5 0 0)
  obtain ⟨hstates, hsteps⟩ := hlocked.1 (900 * ticksPerSecond) (by decide +kernel)
    (by decide +kernel) (by decide +kernel)
  exact ⟨hstates, hsteps, hcounted.2.2 (by decide +kernel) (by decide +kernel)⟩

/-- Between two lockouts the guest makes nine wrong guesses, since the right password
clears the count in between. -/
def betweenLockouts : List LoginEvent :=
  guestGuesses 4 901 0 ++ guestTries "lagoon" 901 0 ++ guestGuesses 5 902 0

/-- A login with the right password is in flight when five wrong guesses lock the guest out. -/
def guestOvertaken : LoginService :=
  run plainEnvironment houseStores
    (.login "guest" "lagoon" "10.0.0.9" "tablet" 0 :: guestGuesses 5 0 1)

/-- More wrong guesses than the limit fit between two lockouts, and a login that was in
flight when a lockout was set succeeds and clears the lockout. -/
theorem nine_wrong_guesses_and_a_cleared_lockout :
    (plainEnvironment.maxFailures (.account "guest") = 5 ∧
        guestLockedOut.lockedUntil (.account "guest") = some (900 * ticksPerSecond) ∧
        (betweenLockouts.foldl (after plainEnvironment) guestLockedOut).lockedUntil
          (.account "guest") = some (1802 * ticksPerSecond) ∧
        LockoutPolicy.countOf (after plainEnvironment) guestOutcome Outcome.isFailure
          guestLockedOut betweenLockouts = 9) ∧
      guestOvertaken.lockedUntil (.account "guest") = some (900 * ticksPerSecond) ∧
      guestOutcome guestOvertaken (.loginVerified 0 ticksPerSecond houseRandom "session-1") =
        .succeeded ∧
      (guestOvertaken.after plainEnvironment
        (.loginVerified 0 ticksPerSecond houseRandom "session-1")).lockedUntil
          (.account "guest") = none := by
  decide +kernel

end LoginService

end AqualinkAutomate.Auth
