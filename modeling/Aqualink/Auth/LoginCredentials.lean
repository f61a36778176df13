import Aqualink.Auth.Login

/-!
# Logins and changes of the account

A login is decided by the record as it was at its start: the completion opens a session
without looking at the account again.  So a credential that is revoked while it is being
verified still opens one (`revoked_credential_opens_session`).

`RevokesInFlight` says of an event that it revokes a credential of an attempt in flight
that is going to succeed: an accepted request that deletes or disables the account or
replaces its password, or a change of the PIN.  In a run without such an event each
session is opened for an enabled account with its current credential
(`session_for_current_credential`).
-/

namespace AqualinkAutomate.Auth

open General List Option

/-! ## The credentials in force -/

namespace AuthStores

variable {stores : AuthStores} {verify : String → String → Bool} {id password : String}

/-- The account is there and enabled, and the password is the one it has. -/
def AcceptsPassword (stores : AuthStores) (verify : String → String → Bool)
    (id password : String) : Prop :=
  ∃ user, stores.users.findById id = some user ∧ user.disabled = false ∧
    verify password user.passwordHash = true

instance (stores : AuthStores) (verify : String → String → Bool) (id password : String) :
    Decidable (stores.AcceptsPassword verify id password) :=
  decidable_of_iff ((stores.users.findById id).any fun user =>
    !user.disabled && verify password user.passwordHash) (by
      simp [AcceptsPassword, Option.any_eq_true])

/-- Elevation is enabled, and the PIN is the one that is set. -/
def AcceptsPin (stores : AuthStores) (verify : String → String → Bool) (rawPin : String) : Prop :=
  stores.kiosk.enabled = true ∧ verify rawPin stores.kiosk.pinHash = true

instance (stores : AuthStores) (verify : String → String → Bool) (rawPin : String) :
    Decidable (stores.AcceptsPin verify rawPin) :=
  inferInstanceAs (Decidable (_ ∧ _))

end AuthStores

/-- The request takes the account from whoever has the password. -/
def AdminRequest.Revokes (verify : String → String → Bool) (id password : String) :
    AdminRequest → Prop
  | .deleteUser userId => userId = id
  | .disableUser userId => userId = id
  | .putUser userId change => userId = id ∧ change.disabled = some true
  | .changePassword userId passwordHash => userId = id ∧ verify password passwordHash = false
  | _ => False

instance (verify : String → String → Bool) (id password : String) :
    ∀ request : AdminRequest, Decidable (request.Revokes verify id password)
  | .deleteUser _ => inferInstanceAs (Decidable (_ = _))
  | .disableUser _ => inferInstanceAs (Decidable (_ = _))
  | .putUser _ _ => inferInstanceAs (Decidable (_ ∧ _))
  | .changePassword _ _ => inferInstanceAs (Decidable (_ ∧ _))
  | .createUser .. | .bootstrapAdmin .. | .logoutAll _ | .putGroup _ _ | .deleteGroup _ =>
    inferInstanceAs (Decidable False)

namespace AuthStores

variable {stores : AuthStores} {verify : String → String → Bool} {id password : String}
  {request : AdminRequest}

theorem acceptsPassword_afterRequest (hnodup : stores.userIds.Nodup)
    (hdrawn : ∀ drawn, request.drawnId = some drawn → drawn ∉ stores.userIds)
    (hsafe : (stores.handle request).2.error = "" → ¬ request.Revokes verify id password)
    (h : stores.AcceptsPassword verify id password) :
    (stores.afterRequest request).AcceptsPassword verify id password := by
  obtain ⟨user, hfind, henabled, hverify⟩ := h
  have hid := UserStore.id_of_findById hfind
  by_cases haccepted : (stores.handle request).2.error = ""
  · have hrevokes := hsafe haccepted
    have hne : request.drawnId ≠ some id := by
      intro hdraw
      refine hdrawn id hdraw ?_
      rw [← hid]
      exact mem_map_of_mem (UserStore.mem_of_findById hfind)
    have hfate := recordFate_afterRequest hnodup hne
    rw [hfind] at hfate
    generalize hafter : (stores.afterRequest request).users.findById id = found at hfate
    cases hfate with
    | deleted _ hdelete =>
      rw [hdelete] at hrevokes
      exact absurd rfl hrevokes
    | @edited _ user' hedit =>
      refine ⟨user', hafter, ?_, ?_⟩
      · rw [← Bool.not_eq_true]
        intro hdisabled
        rcases hedit.disabled hdisabled with hbefore | hdisable | ⟨change, hput, hchange⟩
        · exact absurd (henabled.symm.trans hbefore) (by simp)
        · rw [hdisable] at hrevokes
          exact hrevokes hid
        · rw [hput] at hrevokes
          exact hrevokes ⟨hid, hchange⟩
      · rcases hedit.passwordHash with hsame | hchange
        · rw [hsame, hverify]
        · rw [hchange] at hrevokes
          by_contra hnew
          exact hrevokes ⟨hid, by simpa using hnew⟩
  · obtain ⟨user', hfind', hhash, hdisabled⟩ := findById_of_refused hfind haccepted
    refine ⟨user', hfind', ?_, by rw [hhash, hverify]⟩
    rw [← Bool.not_eq_true]
    exact fun h => absurd (henabled.symm.trans (hdisabled h)) (by simp)

end AuthStores

/-! ## The attempts in flight -/

namespace LoginService

variable {env : LoginEnvironment} {service : LoginService} {event : LoginEvent}

/-- The event revokes a credential while it is being verified. -/
def RevokesInFlight (env : LoginEnvironment) (service : LoginService) : LoginEvent → Prop
  | .admin request => (service.stores.handle request).2.error = "" ∧
      ∃ attempt ∈ service.logins, ∃ user ∈ attempt.verifiedUser env.verify,
        request.Revokes env.verify user.id attempt.password
  | .pinHashed index pinHash => service.pinChanges[index]? ≠ none ∧
      ∃ attempt ∈ service.pinLogins, attempt.verified env.verify = true ∧
        env.verify attempt.rawPin pinHash = false
  | .clearPin => ∃ attempt ∈ service.pinLogins, attempt.verified env.verify = true
  | _ => False

instance (env : LoginEnvironment) (service : LoginService) :
    ∀ event, Decidable (RevokesInFlight env service event)
  | .admin _ => inferInstanceAs (Decidable (_ ∧ _))
  | .pinHashed _ _ => inferInstanceAs (Decidable (_ ∧ _))
  | .clearPin => inferInstanceAs (Decidable (∃ attempt ∈ service.pinLogins, _))
  | .login .. | .loginVerified .. | .loginWithPin .. | .pinVerified .. | .setPin .. =>
    inferInstanceAs (Decidable False)

/-- If the event opens a session, then for an account that is enabled, with the credential
that it has. -/
def OpensForCurrent (env : LoginEnvironment) (service : LoginService) (event : LoginEvent) : Prop :=
  (service.perform env event).2.opensSession = true →
    match event with
    | .loginVerified index _ _ _ =>
      ∃ attempt user, service.logins[index]? = some attempt ∧ attempt.user = some user ∧
        service.stores.AcceptsPassword env.verify user.id attempt.password
    | .pinVerified index _ _ _ =>
      ∃ attempt, service.pinLogins[index]? = some attempt ∧
        service.stores.AcceptsPin env.verify attempt.rawPin
    | _ => False

structure CredentialsInForce (env : LoginEnvironment) (service : LoginService) : Prop where
  ids_nodup : service.stores.userIds.Nodup
  passwords : ∀ attempt ∈ service.logins, ∀ user ∈ attempt.verifiedUser env.verify,
    service.stores.AcceptsPassword env.verify user.id attempt.password
  pins : ∀ attempt ∈ service.pinLogins, attempt.verified env.verify →
    service.stores.AcceptsPin env.verify attempt.rawPin

/-- Attempts may end, and the sessions may change. -/
theorem CredentialsInForce.mono {service' : LoginService} (h : CredentialsInForce env service)
    (husers : service'.stores.users = service.stores.users)
    (hkiosk : service'.stores.kiosk = service.stores.kiosk)
    (hlogins : service'.logins ⊆ service.logins)
    (hpinLogins : service'.pinLogins ⊆ service.pinLogins) : CredentialsInForce env service' := by
  constructor
  · rw [AuthStores.userIds, husers]
    exact h.ids_nodup
  · intro attempt hattempt user huser
    rw [AuthStores.AcceptsPassword, husers]
    exact h.passwords attempt (hlogins hattempt) user huser
  · intro attempt hattempt hverified
    rw [AuthStores.AcceptsPin, hkiosk]
    exact h.pins attempt (hpinLogins hattempt) hverified

section

variable (h : CredentialsInForce env service)

include h

theorem CredentialsInForce.login (username password peerIp userAgent : String) (now : ℤ) :
    CredentialsInForce env (service.login username password peerIp userAgent now).1 := by
  rw [LoginService.login]
  split
  · exact h
  · refine ⟨h.ids_nodup, ?_, h.pins⟩
    intro attempt hattempt user huser
    rcases List.mem_append.mp hattempt with hbefore | hnew
    · exact h.passwords attempt hbefore user huser
    · rw [List.mem_singleton.mp hnew, LoginAttempt.verifiedUser, LoginAttempt.usableUser,
        Option.mem_def, filter_eq_some_iff, filter_eq_some_iff] at huser
      obtain ⟨⟨hfound, henabled⟩, hverify⟩ := huser
      rw [List.mem_singleton.mp hnew]
      refine ⟨user, ?_, by simpa using henabled, hverify⟩
      exact UserStore.findById_of_mem h.ids_nodup (mem_of_find?_eq_some hfound)

theorem CredentialsInForce.loginWithPin (rawPin peerIp userAgent : String) (now : ℤ) :
    CredentialsInForce env (service.loginWithPin rawPin peerIp userAgent now).1 := by
  simp only [LoginService.loginWithPin]
  split
  · exact ⟨h.ids_nodup, h.passwords, h.pins⟩
  · refine ⟨h.ids_nodup, h.passwords, ?_⟩
    intro attempt hattempt hverified
    rcases List.mem_append.mp hattempt with hbefore | hnew
    · exact h.pins attempt hbefore hverified
    · rw [List.mem_singleton.mp hnew] at hverified ⊢
      simp only [PinAttempt.verified, PinAttempt.usable, Bool.and_eq_true] at hverified
      exact ⟨hverified.1.1, hverified.2⟩

section

variable (index : ℕ) (now : ℤ) (random : Bytes32) (uuid : String)

theorem CredentialsInForce.loginVerified :
    CredentialsInForce env (service.loginVerified env index now random uuid).1 := by
  cases hattempt : service.logins[index]? with
  | none =>
    rwa [LoginService.loginVerified, hattempt]
  | some attempt =>
    rcases loginVerified_cases env hattempt now random uuid with ⟨user, -, heq⟩ | ⟨-, heq⟩ <;>
    · rw [heq]
      exact h.mono rfl rfl eraseIdx_subset (List.Subset.refl _)

theorem CredentialsInForce.handlePinVerified :
    CredentialsInForce env (service.handlePinVerified env index now random uuid).1 := by
  cases hattempt : service.pinLogins[index]? with
  | none =>
    rwa [LoginService.handlePinVerified, hattempt]
  | some attempt =>
    rcases handlePinVerified_cases env hattempt now random uuid with
      ⟨-, sessions, result, -, heq⟩ | ⟨-, heq⟩ <;>
    · rw [heq]
      exact h.mono rfl rfl (List.Subset.refl _) eraseIdx_subset

end

theorem CredentialsInForce.after
    (hdrawn : ∀ drawn, event.drawnId = some drawn → drawn ∉ service.stores.userIds)
    (hsafe : ¬ RevokesInFlight env service event) :
    CredentialsInForce env (service.after env event) := by
  cases event with
  | login username password peerIp userAgent now => exact h.login ..
  | loginVerified index now random uuid => exact h.loginVerified ..
  | loginWithPin rawPin peerIp userAgent now => exact h.loginWithPin ..
  | pinVerified index now random uuid => exact h.handlePinVerified ..
  | setPin rawPin targetGroup =>
    rw [LoginService.after, perform, LoginService.setPin]
    split
    · exact h
    · split
      · exact h
      · exact ⟨h.ids_nodup, h.passwords, h.pins⟩
  | pinHashed index pinHash =>
    rw [LoginService.after, perform, LoginService.pinHashed]
    split
    · exact h
    · next change hchange =>
        refine ⟨h.ids_nodup, h.passwords, ?_⟩
        intro attempt hattempt hverified
        refine ⟨rfl, ?_⟩
        by_contra hnew
        exact hsafe ⟨by simp [hchange], attempt, hattempt, hverified, (Bool.not_eq_true _).mp hnew⟩
  | clearPin =>
    refine ⟨h.ids_nodup, h.passwords, ?_⟩
    intro attempt hattempt hverified
    exact absurd ⟨attempt, hattempt, hverified⟩ hsafe
  | admin request =>
    refine ⟨AuthStores.nodup_userIds_afterRequest h.ids_nodup hdrawn, ?_, ?_⟩
    · intro attempt hattempt user huser
      refine AuthStores.acceptsPassword_afterRequest h.ids_nodup hdrawn ?_
        (h.passwords attempt hattempt user huser)
      exact fun haccepted hrevokes => hsafe ⟨haccepted, attempt, hattempt, user, huser, hrevokes⟩
    · intro attempt hattempt hverified
      rw [AuthStores.AcceptsPin, LoginService.after, perform, AuthStores.kiosk_afterRequest]
      exact h.pins attempt hattempt hverified

theorem CredentialsInForce.opensForCurrent : OpensForCurrent env service event := by
  intro hopens
  cases event with
  | loginVerified index now random uuid =>
    cases hattempt : service.logins[index]? with
    | none =>
      simp [perform, LoginService.loginVerified, hattempt, LoginReply.opensSession] at hopens
    | some attempt =>
      rcases loginVerified_cases env hattempt now random uuid with ⟨user, huser, -⟩ | ⟨-, heq⟩
      · have hsnapshot : attempt.user = some user := by
          rw [LoginAttempt.verifiedUser, LoginAttempt.usableUser, filter_eq_some_iff,
            filter_eq_some_iff] at huser
          exact huser.1.1
        exact ⟨attempt, user, hattempt, hsnapshot,
          h.passwords attempt (mem_of_getElem? hattempt) user huser⟩
      · simp [perform, heq, LoginReply.opensSession] at hopens
  | pinVerified index now random uuid =>
    cases hattempt : service.pinLogins[index]? with
    | none =>
      simp [perform, LoginService.handlePinVerified, hattempt, LoginReply.opensSession] at hopens
    | some attempt =>
      rcases handlePinVerified_cases env hattempt now random uuid with ⟨hverified, -⟩ | ⟨-, heq⟩
      · exact ⟨attempt, hattempt, h.pins attempt (mem_of_getElem? hattempt) hverified⟩
      · simp [perform, heq, LoginReply.opensSession] at hopens
  | login username password peerIp userAgent now =>
    rw [perform, LoginService.login] at hopens
    split at hopens <;> simp [LoginReply.opensSession, lockedOutResult] at hopens
  | loginWithPin rawPin peerIp userAgent now =>
    simp only [perform, LoginService.loginWithPin] at hopens
    split at hopens <;> simp [LoginReply.opensSession, lockedOutResult] at hopens
  | setPin rawPin targetGroup =>
    rw [perform, LoginService.setPin] at hopens
    split at hopens
    · simp [LoginReply.opensSession] at hopens
    · split at hopens <;> simp [LoginReply.opensSession] at hopens
  | pinHashed index pinHash =>
    rw [perform, LoginService.pinHashed] at hopens
    split at hopens <;> simp [LoginReply.opensSession] at hopens
  | clearPin => simp [perform, LoginService.clearPin, LoginReply.opensSession] at hopens
  | admin request => simp [perform, LoginReply.opensSession] at hopens

end

/-- A run of the services, from any stores with unique ids: if no step revokes a credential
in flight, each session is opened for an enabled account with its current credential. -/
theorem session_for_current_credential (env : LoginEnvironment) {stores : AuthStores}
    {events : List LoginEvent} (hnodup : stores.userIds.Nodup)
    (hfresh : EachStep (after env) (fun service event => ∀ drawn ∈ event.drawnId,
      drawn ∉ service.stores.userIds) (boot stores) events)
    (hsafe : EachStep (after env) (fun service event => ¬ RevokesInFlight env service event)
      (boot stores) events) :
    EachStep (after env) (OpensForCurrent env) (boot stores) events := by
  refine EachStep.of_invariant (Q := CredentialsInForce env) ?_ ?_ ?_ (hfresh.and hsafe)
  · rintro service event h ⟨hdrawn, hrevokes⟩
    exact h.after hdrawn hrevokes
  · intro service event h _
    exact h.opensForCurrent
  · exact ⟨hnodup, by simp [boot], by simp [boot]⟩

/-- The guest's login while the owner changes the password, and before and after. -/
theorem session_for_current_credential_house :
    EachStep (after plainEnvironment) (OpensForCurrent plainEnvironment) (boot houseStores)
      [.login "guest" "lagoon" "10.0.0.9" "tablet" 0,
        .admin (.changePassword "user-1" "argon2id-cabana"),
        .admin (.logoutAll "user-2"),
        .loginVerified 0 ticksPerSecond houseRandom "session-1",
        .admin (.changePassword "user-2" "argon2id-shallows")] :=
  session_for_current_credential plainEnvironment (by decide) (by decide +kernel)
    (by decide +kernel)

/-- A guest's login is in flight when the guest's password is replaced, or the account is
disabled or deleted, or the PIN is cleared: it opens a session all the same. -/
theorem revoked_credential_opens_session :
    (∀ request ∈ [AdminRequest.changePassword "user-2" "argon2id-cabana", .disableUser "user-2",
        .deleteUser "user-2"],
      let service := ([.login "guest" "lagoon" "10.0.0.9" "tablet" 0, .admin request].foldl
        (after plainEnvironment) (boot houseStores))
      (service.perform plainEnvironment
          (.loginVerified 0 ticksPerSecond houseRandom "session-1")).2.opensSession ∧
        ¬ service.stores.AcceptsPassword plainEnvironment.verify "user-2" "lagoon") ∧
      let service := [.loginWithPin "2468" "10.0.0.9" "tablet" 0, .clearPin].foldl
        (after plainEnvironment) (boot houseStores)
      (service.perform plainEnvironment
          (.pinVerified 0 ticksPerSecond houseRandom "session-1")).2.opensSession ∧
        ¬ service.stores.AcceptsPin plainEnvironment.verify "2468" := by
  decide +kernel

end LoginService

end AqualinkAutomate.Auth
