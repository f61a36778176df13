import Aqualink.Auth.Accounts
import Aqualink.Auth.ApiKeyStore

/-!
# Saves that fail

Every operation of the five stores that changes something changes the memory first and
saves then, and saving throws when the file cannot be written.  None of them takes its
change back, so what the caller is told has failed is in force until the next restart, or
is on file with the next save that succeeds.

`memory_failed_iff` lists, operation by operation, when a failed save does no harm: the
operation has nothing to save, because it is refused or finds nothing to change, or saves
what is in memory already.
-/

namespace AqualinkAutomate.Auth

open General Mutation List

/-! ## The operations -/

namespace UserStore

variable (store : UserStore) (registry : GroupRegistry)

def createSaving (user : UserRecord) (freshId : String) : Mutation UserStore (Except String Unit) :=
  ofExcept (store.create user freshId)

def updateSaving (user : UserRecord) : Mutation UserStore (Except String Unit) :=
  ofExcept (store.update user registry)

def removeSaving (id : String) : Mutation UserStore (Except String Unit) :=
  ofExcept (store.remove id registry)

def bumpTokenVersionSaving (id : String) : Mutation UserStore UInt32 :=
  match store.findById id with
  | none => .reply 0
  | some user => .change (store.bumpTokenVersion id) (user.tokenVersion + 1)

end UserStore

namespace GroupStore

def upsertSaving (registry : GroupRegistry) (group : Group) :
    Mutation GroupRegistry (Except String Unit) :=
  ofExcept (upsert registry group)

def removeSaving (registry : GroupRegistry) (name : String) :
    Mutation GroupRegistry (Except String Unit) :=
  ofExcept (remove registry name)

end GroupStore

namespace SessionStore

variable (sha256 : String → Bytes32) (sessions : List SessionRecord)

/-- An operation on a store that comes without a file: there is one afterwards exactly if the
operation saves. -/
def ofSaved {ρ : Type} : SessionStore × ρ → Mutation (List SessionRecord) ρ
  | (⟨_, none⟩, result) => .reply result
  | (⟨sessions, some _⟩, result) => .change sessions result

/-- The reply is the refresh secret and the session id. -/
def createSaving (userId : String) (expiryUnix : ℤ) (userAgent peerIp : String) (nowUnix : ℤ)
    (random : Bytes32) (uuid : String) : Mutation (List SessionRecord) (String × String) :=
  ofSaved (create sha256 ⟨sessions, none⟩ userId expiryUnix userAgent peerIp nowUnix random uuid)

def rotateSaving (presentedSecret : String) (nowUnix : ℤ) (random : Bytes32) :
    Mutation (List SessionRecord) RotateResult :=
  ofSaved (rotate sha256 ⟨sessions, none⟩ presentedSecret nowUnix random)

/-- Erase the sessions that satisfy `p`; the reply is how many there were. -/
def eraseIfSaving (p : SessionRecord → Bool) : Mutation (List SessionRecord) ℕ :=
  ofSaved (eraseIf ⟨sessions, none⟩ p)

def revokeByRefreshSaving (presentedSecret : String) : Mutation (List SessionRecord) ℕ :=
  eraseIfSaving sessions fun session => session.refreshDigest == sha256Hex sha256 presentedSecret

def revokeByIdSaving (sessionId : String) : Mutation (List SessionRecord) ℕ :=
  eraseIfSaving sessions fun session => session.id == sessionId

def revokeAllForUserSaving (userId : String) : Mutation (List SessionRecord) ℕ :=
  eraseIfSaving sessions fun session => session.userId == userId

def pruneExpiredSaving (nowUnix : ℤ) : Mutation (List SessionRecord) ℕ :=
  eraseIfSaving sessions fun session => decide (session.expiryUnix ≤ nowUnix)

end SessionStore

namespace KioskStore

def configureSaving (store : KioskStore) (pinHash targetGroup : String) :
    Mutation KioskStore Unit :=
  .change (store.configure pinHash targetGroup) ()

def disableSaving (store : KioskStore) : Mutation KioskStore Unit := .change store.disable ()

end KioskStore

/-- The memories of the five stores. -/
structure StoreMemory where
  users : UserStore
  registry : GroupRegistry
  sessions : List SessionRecord
  keys : List ApiKeyRecord
  kiosk : KioskStore

inductive StoreOperation where
  | createUser (user : UserRecord) (freshId : String)
  | updateUser (user : UserRecord)
  | removeUser (id : String)
  | bumpTokenVersion (id : String)
  | upsertGroup (group : Group)
  | removeGroup (name : String)
  | createSession (userId : String) (expiryUnix : ℤ) (userAgent peerIp : String) (nowUnix : ℤ)
      (random : Bytes32) (uuid : String)
  | rotate (presentedSecret : String) (nowUnix : ℤ) (random : Bytes32)
  | revokeByRefresh (presentedSecret : String)
  | revokeById (sessionId : String)
  | revokeAllForUser (userId : String)
  | pruneExpired (nowUnix : ℤ)
  | createKey (label : String) (entitlements : EntitlementSet) (expiryUnix : ℤ) (random : Bytes32)
      (uuid : String)
  | seedBootstrapKey (legacyToken : String)
  | authenticateKey (presentedSecret : String) (nowUnix : ℤ)
  | revokeKey (id : String)
  | configureKiosk (pinHash targetGroup : String)
  | disableKiosk

namespace StoreMemory

/-! The memory with one part replaced. -/

def withUsers (memory : StoreMemory) (users : UserStore) : StoreMemory := { memory with users }

def withRegistry (memory : StoreMemory) (registry : GroupRegistry) : StoreMemory :=
  { memory with registry }

def withSessions (memory : StoreMemory) (sessions : List SessionRecord) : StoreMemory :=
  { memory with sessions }

def withKeys (memory : StoreMemory) (keys : List ApiKeyRecord) : StoreMemory := { memory with keys }

def withKiosk (memory : StoreMemory) (kiosk : KioskStore) : StoreMemory := { memory with kiosk }

section

variable (memory : StoreMemory)

theorem withUsers_injective : Function.Injective memory.withUsers :=
  fun _ _ h => congrArg users h

theorem withRegistry_injective : Function.Injective memory.withRegistry :=
  fun _ _ h => congrArg registry h

theorem withSessions_injective : Function.Injective memory.withSessions :=
  fun _ _ h => congrArg sessions h

theorem withKeys_injective : Function.Injective memory.withKeys :=
  fun _ _ h => congrArg keys h

theorem withKiosk_injective : Function.Injective memory.withKiosk :=
  fun _ _ h => congrArg kiosk h

end

end StoreMemory

namespace StoreOperation

/-- The operation of one store, its reply left out. -/
def ofStore {τ ρ : Type} (whole : τ → StoreMemory) (part : Mutation τ ρ) :
    Mutation StoreMemory Unit :=
  (part.within whole).quiet

variable (sha256 : String → Bytes32) (memory : StoreMemory)

/-- The change that an operation makes, whatever it replies. -/
def mutation : StoreOperation → Mutation StoreMemory Unit
  | createUser user freshId => ofStore memory.withUsers (memory.users.createSaving user freshId)
  | updateUser user => ofStore memory.withUsers (memory.users.updateSaving memory.registry user)
  | removeUser id => ofStore memory.withUsers (memory.users.removeSaving memory.registry id)
  | bumpTokenVersion id => ofStore memory.withUsers (memory.users.bumpTokenVersionSaving id)
  | upsertGroup group => ofStore memory.withRegistry (GroupStore.upsertSaving memory.registry group)
  | removeGroup name => ofStore memory.withRegistry (GroupStore.removeSaving memory.registry name)
  | createSession userId expiryUnix userAgent peerIp nowUnix random uuid =>
    ofStore memory.withSessions (SessionStore.createSaving sha256 memory.sessions userId
      expiryUnix userAgent peerIp nowUnix random uuid)
  | rotate presentedSecret nowUnix random =>
    ofStore memory.withSessions
      (SessionStore.rotateSaving sha256 memory.sessions presentedSecret nowUnix random)
  | revokeByRefresh presentedSecret =>
    ofStore memory.withSessions
      (SessionStore.revokeByRefreshSaving sha256 memory.sessions presentedSecret)
  | revokeById sessionId =>
    ofStore memory.withSessions (SessionStore.revokeByIdSaving memory.sessions sessionId)
  | revokeAllForUser userId =>
    ofStore memory.withSessions (SessionStore.revokeAllForUserSaving memory.sessions userId)
  | pruneExpired nowUnix =>
    ofStore memory.withSessions (SessionStore.pruneExpiredSaving memory.sessions nowUnix)
  | createKey label entitlements expiryUnix random uuid =>
    ofStore memory.withKeys
      (ApiKeyStore.create sha256 memory.keys label entitlements expiryUnix random uuid)
  | seedBootstrapKey legacyToken =>
    ofStore memory.withKeys (ApiKeyStore.seedBootstrapKey sha256 memory.keys legacyToken)
  | authenticateKey presentedSecret nowUnix =>
    ofStore memory.withKeys (ApiKeyStore.authenticate sha256 memory.keys presentedSecret nowUnix)
  | revokeKey id => ofStore memory.withKeys (ApiKeyStore.revoke memory.keys id)
  | configureKiosk pinHash targetGroup =>
    ofStore memory.withKiosk (memory.kiosk.configureSaving pinHash targetGroup)
  | disableKiosk => ofStore memory.withKiosk memory.kiosk.disableSaving

/-- The operation has nothing to save: it is refused, or finds nothing to change, or would
save what is in memory already. -/
def NothingToSave : StoreOperation → Prop
  | createUser user _ =>
    user.username = "" ∨ user.passwordHash = "" ∨
      (memory.users.findByUsername user.username).isSome
  | updateUser user =>
    (memory.users.findById user.id).isNone ∨
      (memory.users.findByUsername user.username).any (fun duplicate => duplicate.id != user.id) ∨
        memory.users.wouldLoseLastAdmin user.id (some user) memory.registry ∨
          memory.users.findById user.id = some user
  | removeUser id =>
    (memory.users.findById id).isNone ∨
      memory.users.wouldLoseLastAdmin id none memory.registry
  | bumpTokenVersion id => (memory.users.findById id).isNone
  | upsertGroup group =>
    group.name = "" ∨ memory.registry.find group.name =
      some { group with builtIn := BuiltInGroups.isBuiltInName group.name }
  | removeGroup name =>
    BuiltInGroups.isBuiltInName name ∨ (memory.registry.find name).isNone
  | createSession .. => False
  | rotate presentedSecret _ _ =>
    presentedSecret = "" ∨ ∀ session ∈ memory.sessions,
      session.previousDigest ≠ sha256Hex sha256 presentedSecret ∧
        session.refreshDigest ≠ sha256Hex sha256 presentedSecret
  | revokeByRefresh presentedSecret =>
    ∀ session ∈ memory.sessions, session.refreshDigest ≠ sha256Hex sha256 presentedSecret
  | revokeById sessionId => ∀ session ∈ memory.sessions, session.id ≠ sessionId
  | revokeAllForUser userId => ∀ session ∈ memory.sessions, session.userId ≠ userId
  | pruneExpired nowUnix => ∀ session ∈ memory.sessions, nowUnix < session.expiryUnix
  | createKey .. => False
  | seedBootstrapKey legacyToken =>
    legacyToken = "" ∨ ∃ seeded, ApiKeyStore.findById memory.keys ApiKeyStore.bootstrapKeyId =
      some seeded ∧ seeded.secretSha256Hex = sha256Hex sha256 legacyToken
  | authenticateKey presentedSecret nowUnix =>
    presentedSecret = "" ∨ ∀ key,
      (memory.keys.find? fun key => key.secretSha256Hex == sha256Hex sha256 presentedSecret) =
        some key → ApiKeyStore.active key nowUnix = false ∨ key.lastUsedUnix = nowUnix
  | revokeKey id =>
    ∀ key, ApiKeyStore.findById memory.keys id = some key → key.revoked = true
  | configureKiosk .. => False
  | disableKiosk => False

end StoreOperation

/-! ## When an operation keeps the memory -/

section

variable {sha256 : String → Bytes32}

theorem append_singleton_ne {α : Type} (l : List α) (a : α) : l ++ [a] ≠ l := by
  simp

theorem eraseP_ne_of_find? {α : Type} {p : α → Bool} {l : List α} {a : α}
    (h : l.find? p = some a) : l.eraseP p ≠ l := by
  obtain ⟨left, right, hsplit, -, herase⟩ := exists_append_of_find? h
  intro heq
  have hlength := congrArg List.length (herase.symm.trans (heq.trans hsplit))
  simp at hlength

variable {id presentedSecret : String}

theorem modifyById_eq_self_iff {store : UserStore} {change : UserRecord → UserRecord} :
    store.modifyById id change = store ↔ ∀ user, store.findById id = some user →
      change user = user := by
  obtain ⟨users⟩ := store
  simp only [UserStore.modifyById, UserStore.mk.injEq, modifyFirst_eq_self_iff, UserStore.findById]

theorem version_succ_ne (version : UInt32) : version + 1 ≠ version := by
  intro h
  have := congrArg UInt32.toNat h
  simp [UInt32.toNat_add] at this
  omega

section

variable {store : UserStore}

theorem keeps_createUser {user : UserRecord} {freshId : String} :
    (store.createSaving user freshId).Keeps store ↔
      user.username = "" ∨ user.passwordHash = "" ∨
        (store.findByUsername user.username).isSome := by
  rw [UserStore.createSaving, keeps_ofExcept, UserStore.create, ← or_assoc]
  by_cases hmissing : user.username = "" ∨ user.passwordHash = ""
  · simp [hmissing]
  · by_cases hduplicate : (store.findByUsername user.username).isSome
    · simp [hmissing, hduplicate]
    · -- the new user is appended
      simp only [hmissing, hduplicate, Bool.false_eq_true, if_false, Except.ok.injEq, forall_eq',
        or_self, iff_false]
      exact fun h => append_singleton_ne _ _ (congrArg UserStore.users h)

variable {registry : GroupRegistry}

theorem keeps_updateUser {user : UserRecord} :
    (store.updateSaving registry user).Keeps store ↔
      (store.findById user.id).isNone ∨
        (store.findByUsername user.username).any (fun duplicate => duplicate.id != user.id) ∨
          store.wouldLoseLastAdmin user.id (some user) registry ∨
            store.findById user.id = some user := by
  rw [UserStore.updateSaving, keeps_ofExcept, UserStore.update]
  split_ifs with hnone hduplicate hguard
  · simp [hnone]
  · simp [hduplicate]
  · simp [hguard]
  · simp only [Except.ok.injEq, forall_eq', modifyById_eq_self_iff, hnone, hduplicate, hguard,
      Bool.false_eq_true, false_or]
    constructor
    · intro h
      obtain ⟨found, hfound⟩ := Option.ne_none_iff_exists'.mp (by simpa using hnone)
      rw [hfound, h found hfound]
    · intro h found hfound
      exact Option.some_inj.mp (h.symm.trans hfound)

theorem keeps_removeUser :
    (store.removeSaving registry id).Keeps store ↔
      (store.findById id).isNone ∨ store.wouldLoseLastAdmin id none registry := by
  rw [UserStore.removeSaving, keeps_ofExcept, UserStore.remove]
  split_ifs with hnone hguard
  · simp [hnone]
  · simp [hguard]
  · obtain ⟨found, hfound⟩ := Option.ne_none_iff_exists'.mp (by simpa using hnone)
    simp only [Except.ok.injEq, forall_eq', hnone, hguard, Bool.false_eq_true, or_self, iff_false]
    exact fun h => eraseP_ne_of_find? hfound (congrArg UserStore.users h)

theorem keeps_bumpTokenVersion :
    (store.bumpTokenVersionSaving id).Keeps store ↔ (store.findById id).isNone := by
  rw [UserStore.bumpTokenVersionSaving]
  cases hfind : store.findById id with
  | none => simp
  | some user =>
    simp only [keeps_change, UserStore.bumpTokenVersion, modifyById_eq_self_iff, hfind,
      Option.some.injEq, forall_eq', Option.isNone_some, Bool.false_eq_true, iff_false]
    exact fun h => version_succ_ne _ (congrArg UserRecord.tokenVersion h)

end

theorem upsertList_eq_self_iff {group : Group} {groups : List Group} :
    GroupRegistry.upsertList group groups = groups ↔
      (groups.find? fun existing => existing.name == group.name) = some group := by
  induction groups with
  | nil => simp [GroupRegistry.upsertList]
  | cons existing groups ih =>
    by_cases hname : existing.name = group.name
    · simp [GroupRegistry.upsertList, hname, eq_comm]
    · simp [GroupRegistry.upsertList, hname, ih]

variable {registry : GroupRegistry}

theorem keeps_upsertGroup {group : Group} :
    (GroupStore.upsertSaving registry group).Keeps registry ↔
      group.name = "" ∨ registry.find group.name =
        some { group with builtIn := BuiltInGroups.isBuiltInName group.name } := by
  rw [GroupStore.upsertSaving, keeps_ofExcept, GroupStore.upsert]
  split_ifs with hname
  · simp [hname]
  · obtain ⟨groups, hnodup⟩ := registry
    simp only [Except.ok.injEq, forall_eq', hname, false_or, GroupRegistry.upsert,
      GroupRegistry.mk.injEq, upsertList_eq_self_iff, GroupRegistry.find]

theorem keeps_removeGroup {name : String} :
    (GroupStore.removeSaving registry name).Keeps registry ↔
      BuiltInGroups.isBuiltInName name ∨ (registry.find name).isNone := by
  rw [GroupStore.removeSaving, keeps_ofExcept, GroupStore.remove]
  split_ifs with hbuiltIn hnone
  · simp [hbuiltIn]
  · simp [hnone]
  · simp only [Except.ok.injEq, forall_eq', hbuiltIn, hnone, Bool.false_eq_true, or_self, iff_false]
    intro h
    have hlost := GroupStore.find_rebuildWithout registry name name
    rw [if_pos rfl, h] at hlost
    exact hnone (by simp [hlost])

variable {sessions : List SessionRecord}

theorem keeps_save {ρ : Type} {saved : List SessionRecord} {result : ρ} :
    (SessionStore.ofSaved (SessionStore.save saved, result)).Keeps sessions ↔ saved = sessions :=
  keeps_change

theorem keeps_unsaved {ρ : Type} {result : ρ} :
    (SessionStore.ofSaved (⟨sessions, none⟩, result)).Keeps sessions :=
  keeps_reply

theorem keeps_eraseIf {p : SessionRecord → Bool} :
    (SessionStore.eraseIfSaving sessions p).Keeps sessions ↔
      ∀ session ∈ sessions, p session = false := by
  rw [SessionStore.eraseIfSaving, SessionStore.eraseIf]
  by_cases hremoved : sessions.countP p > 0
  · rw [if_pos hremoved, keeps_save, filter_eq_self]
    simp
  · have hnone : sessions.countP p = 0 := by omega
    rw [if_neg hremoved]
    exact iff_of_true keeps_unsaved (by simpa [countP_eq_zero] using hnone)

theorem keeps_rotate {nowUnix : ℤ} {random : Bytes32} :
    (SessionStore.rotateSaving sha256 sessions presentedSecret nowUnix random).Keeps sessions ↔
      presentedSecret = "" ∨ ∀ session ∈ sessions,
        session.previousDigest ≠ sha256Hex sha256 presentedSecret ∧
          session.refreshDigest ≠ sha256Hex sha256 presentedSecret := by
  rw [SessionStore.rotateSaving, SessionStore.rotate]
  by_cases hempty : presentedSecret = ""
  · simp [hempty, keeps_unsaved]
  · simp only [hempty, if_false, false_or]
    cases hprevious : sessions.find? fun session =>
        session.previousDigest == sha256Hex sha256 presentedSecret with
    | some reused =>
      have hdigest : reused.previousDigest = sha256Hex sha256 presentedSecret := by
        simpa using find?_some hprevious
      simp only [keeps_save, eraseP_ne_of_find? hprevious, false_iff]
      exact fun h => (h reused (mem_of_find?_eq_some hprevious)).1 hdigest
    | none =>
      simp only [find?_eq_none, beq_iff_eq] at hprevious
      cases hcurrent : sessions.find? fun session =>
          session.refreshDigest == sha256Hex sha256 presentedSecret with
      | none =>
        simp only [find?_eq_none, beq_iff_eq] at hcurrent
        simp only [keeps_unsaved, true_iff]
        exact fun session hmem => ⟨hprevious session hmem, hcurrent session hmem⟩
      | some session =>
        have hmem := mem_of_find?_eq_some hcurrent
        have hdigest : session.refreshDigest = sha256Hex sha256 presentedSecret := by
          simpa using find?_some hcurrent
        have hpresent : ¬ ∀ session ∈ sessions,
            session.previousDigest ≠ sha256Hex sha256 presentedSecret ∧
              session.refreshDigest ≠ sha256Hex sha256 presentedSecret :=
          fun h => (h session hmem).2 hdigest
        by_cases hexpired : session.expiryUnix ≤ nowUnix
        · simp only [hexpired, if_true, keeps_save, eraseP_ne_of_find? hcurrent, hpresent]
        · simp only [hexpired, if_false, keeps_save, modifyFirst_eq_self_iff, hcurrent,
            Option.some.injEq, forall_eq', hpresent, iff_false]
          -- the digest becomes a previous one, which it was of no session
          intro h
          have hrotated := congrArg SessionRecord.previousDigest h
          exact hprevious session hmem (hrotated.symm.trans hdigest)

variable {keys : List ApiKeyRecord}

theorem keeps_seedBootstrapKey {legacyToken : String} :
    (ApiKeyStore.seedBootstrapKey sha256 keys legacyToken).Keeps keys ↔
      legacyToken = "" ∨ ∃ seeded, ApiKeyStore.findById keys ApiKeyStore.bootstrapKeyId =
        some seeded ∧ seeded.secretSha256Hex = sha256Hex sha256 legacyToken := by
  rw [ApiKeyStore.seedBootstrapKey]
  by_cases hempty : legacyToken = ""
  · simp [hempty]
  · simp only [hempty, if_false, false_or]
    cases hfind : ApiKeyStore.findById keys ApiKeyStore.bootstrapKeyId with
    | none => simp
    | some seeded =>
      simp only [Option.some.injEq, exists_eq_left']
      split
      next hdigest => simp [hdigest]
      next hdigest =>
        rw [ApiKeyStore.findById] at hfind
        simp only [keeps_change, modifyFirst_eq_self_iff, hfind, Option.some.injEq, forall_eq',
          hdigest, iff_false]
        exact fun h => hdigest (by rw [← h, ApiKeyStore.bootstrapKey])

theorem keeps_authenticateKey {nowUnix : ℤ} :
    (ApiKeyStore.authenticate sha256 keys presentedSecret nowUnix).Keeps keys ↔
      presentedSecret = "" ∨ ∀ key,
        (keys.find? fun key => key.secretSha256Hex == sha256Hex sha256 presentedSecret) =
          some key → ApiKeyStore.active key nowUnix = false ∨ key.lastUsedUnix = nowUnix := by
  rw [ApiKeyStore.authenticate]
  by_cases hempty : presentedSecret = ""
  · simp [hempty]
  · simp only [hempty, if_false, false_or]
    cases hfind : keys.find? fun key =>
        key.secretSha256Hex == sha256Hex sha256 presentedSecret with
    | none => simp
    | some key =>
      simp only [Option.some.injEq, forall_eq']
      split
      next hactive =>
        simp only [keeps_change, modifyFirst_eq_self_iff, hfind, Option.some.injEq, forall_eq',
          hactive, Bool.true_eq_false, false_or]
        constructor
        · exact fun h => (congrArg ApiKeyRecord.lastUsedUnix h).symm
        · rintro rfl
          rfl
      next hactive => simp [hactive]

theorem keeps_revokeKey :
    (ApiKeyStore.revoke keys id).Keeps keys ↔
      ∀ key, ApiKeyStore.findById keys id = some key → key.revoked := by
  rw [ApiKeyStore.revoke]
  cases hfind : ApiKeyStore.findById keys id with
  | none => simp
  | some key =>
    have hfirst := hfind
    rw [ApiKeyStore.findById] at hfirst
    simp only [Option.isNone_some, Bool.false_eq_true, if_false, keeps_change,
      modifyFirst_eq_self_iff, hfirst, Option.some.injEq, forall_eq']
    constructor
    · exact fun h => (congrArg ApiKeyRecord.revoked h).symm
    · intro h
      rw [← h]

end

/-- A failed save leaves the memory of an operation as it was exactly when the operation
had nothing to save. -/
theorem memory_failed_iff (sha256 : String → Bytes32) (store : Persisted StoreMemory)
    (operation : StoreOperation) (error : String) :
    ((operation.mutation sha256 store.memory).attempt (.error error) store).2.memory =
        store.memory ↔
      operation.NothingToSave sha256 store.memory := by
  rw [memory_attempt_error_iff]
  obtain ⟨memory, file⟩ := store
  cases operation <;>
    simp only [StoreOperation.mutation, StoreOperation.ofStore, StoreOperation.NothingToSave,
      keeps_quiet]
  case createUser => exact (keeps_within memory.withUsers_injective).trans keeps_createUser
  case updateUser => exact (keeps_within memory.withUsers_injective).trans keeps_updateUser
  case removeUser => exact (keeps_within memory.withUsers_injective).trans keeps_removeUser
  case bumpTokenVersion =>
    exact (keeps_within memory.withUsers_injective).trans keeps_bumpTokenVersion
  case upsertGroup => exact (keeps_within memory.withRegistry_injective).trans keeps_upsertGroup
  case removeGroup => exact (keeps_within memory.withRegistry_injective).trans keeps_removeGroup
  case createSession =>
    refine (keeps_within memory.withSessions_injective).trans ?_
    simp [SessionStore.createSaving, SessionStore.create, keeps_save]
  case rotate => exact (keeps_within memory.withSessions_injective).trans keeps_rotate
  case revokeByRefresh | revokeById | revokeAllForUser | pruneExpired =>
    refine (keeps_within memory.withSessions_injective).trans (keeps_eraseIf.trans ?_)
    simp
  case createKey =>
    refine (keeps_within memory.withKeys_injective).trans ?_
    simp [ApiKeyStore.create]
  case seedBootstrapKey =>
    exact (keeps_within memory.withKeys_injective).trans keeps_seedBootstrapKey
  case authenticateKey =>
    exact (keeps_within memory.withKeys_injective).trans keeps_authenticateKey
  case revokeKey => exact (keeps_within memory.withKeys_injective).trans keeps_revokeKey
  case configureKiosk | disableKiosk =>
    -- both move the version of the kiosk, so there is always something to save
    refine (keeps_within memory.withKiosk_injective).trans (keeps_change.trans ?_)
    exact iff_false_intro fun h => version_succ_ne _ (congrArg KioskStore.tokenVersion h)

/-! ### Two operations whose failure does harm -/

def phoneSession : SessionRecord where
  id := "s1"
  userId := "u1"
  refreshDigest := "d1"
  issuedUnix := 0
  expiryUnix := 3600
  lastSeenUnix := 0
  userAgent := "phone"
  peerIp := "192.168.0.7"

def phoneMemory : StoreMemory := ⟨.empty, .withBuiltIns, [phoneSession], [], {}⟩

/-- The revocation that is reported as failed is in force. -/
theorem failed_revocation_in_force :
    ¬ ∀ (sha256 : String → Bytes32) (store : Persisted StoreMemory) (operation : StoreOperation)
        (error : String),
      ((operation.mutation sha256 store.memory).attempt (.error error) store).2.memory =
        store.memory := by
  intro h
  have hmemory := h (fun _ => Vector.replicate 32 0) ⟨phoneMemory, some phoneMemory⟩
    (.revokeById "s1") "Could not write auth store sessions.json.tmp"
  have hsessions := congrArg StoreMemory.sessions hmemory
  exact absurd hsessions (by decide)

end AqualinkAutomate.Auth
