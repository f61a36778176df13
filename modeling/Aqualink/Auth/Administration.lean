import Aqualink.Auth.Accounts
import Aqualink.Auth.SessionStore
import Aqualink.General.Runs

/-!
# Administration of users and groups

The stores that the running system shares, and the admin API over them: the handlers of
the user and group routes and the session service's account operations.  A request is
what its handler reads from the URL and the parsed body; a handler that hashes a
password off the kernel thread is modelled by its completion, which is what touches the
stores.  Who may send a request was decided before the handler runs.

A change of rights is propagated by bumping token versions: `putUser` bumps the user it
edits, `putGroup` and `deleteGroup` bump the users that list the group.
-/

namespace AqualinkAutomate.Auth

open General List Option

/-- The stores of the running system. -/
structure AuthStores where
  users : UserStore
  registry : GroupRegistry
  sessions : SessionStore
  kiosk : KioskStore
  deriving DecidableEq

inductive Status where
  | ok
  | created
  | noContent
  | badRequest
  | forbidden
  | notFound
  | conflict
  deriving DecidableEq

structure Response where
  status : Status
  error : String := ""
  deriving DecidableEq

def statusForStoreError (error : String) : Status :=
  if error = "User not found" ∨ error = "Group not found" then
    .notFound
  else if error = "Username already exists" ∨ error = "Built-in groups cannot be removed" ∨
      "Refused".toList.isPrefixOf error.toList then
    .conflict
  else
    .badRequest

def refusal (error : String) : Response := ⟨statusForStoreError error, error⟩

/-- One entry of `parseEntitlementsField`: well formed and of a known action. -/
def parseKnownEntitlement (text : String) : Option Entitlement :=
  (Entitlement.parse text).filter fun entitlement =>
    Vocabulary.isKnownAction entitlement.action

/-- One pass of the loop of `parseEntitlementsField`: the entitlements so far, and the
rejected entries joined with commas. -/
def parseEntitlementsEntry (soFar : EntitlementSet × String) (text : String) :
    EntitlementSet × String :=
  match parseKnownEntitlement text with
  | some entitlement => (soFar.1.add entitlement, soFar.2)
  | none => (soFar.1, soFar.2 ++ (if soFar.2 = "" then "" else ", ") ++ text)

/-- Validate a list of entitlement texts; the error lists every rejected one.  An empty
entry leaves no trace in that list, so on its own it is passed over. -/
def parseEntitlementsField (texts : List String) : Except String EntitlementSet :=
  let (entitlements, rejected) := texts.foldl parseEntitlementsEntry (.empty, "")
  if rejected = "" then
    .ok entitlements
  else
    .error ("Unknown or malformed entitlements: " ++ rejected)

/-- The body of a user update: every field is optional. -/
structure UserChange where
  username : Option String := none
  groups : Option (List String) := none
  directEntitlements : Option (List String) := none
  disabled : Option Bool := none
  deriving DecidableEq

/-- The fields of the body applied to the current record.  Disabling is not among them:
it goes through `disableUser` afterwards. -/
def UserChange.apply (change : UserChange) (current : UserRecord) : Except String UserRecord :=
  if change.username = some "" then
    .error "Username must be a non-empty string"
  else
    let updated := { current with
      username := change.username.getD current.username
      groups := change.groups.getD current.groups
      disabled := if change.disabled = some false then false else current.disabled }
    match change.directEntitlements with
    | none => .ok updated
    | some texts =>
      match parseEntitlementsField texts with
      | .ok entitlements => .ok { updated with directEntitlements := entitlements }
      | .error error => .error error

namespace AuthStores

/-- The stores of a first boot. -/
def initial : AuthStores := ⟨.empty, .withBuiltIns, .empty, {}⟩

/-- `LogoutAll`: drop every session and bump the token version. -/
def logoutAll (stores : AuthStores) (userId : String) : AuthStores :=
  { stores with
    sessions := (stores.sessions.revokeAllForUser userId).1
    users := stores.users.bumpTokenVersion userId }

/-- `DisableUser`: disable and revoke everything in one step. -/
def disableUser (stores : AuthStores) (userId : String) : Except String AuthStores :=
  match stores.users.findById userId with
  | none => .error "User not found"
  | some user =>
    match stores.users.update { user with disabled := true } stores.registry with
    | .error error => .error error -- last-admin protection
    | .ok users =>
      .ok { stores with
        users := users.bumpTokenVersion userId
        sessions := (stores.sessions.revokeAllForUser userId).1 }

def createUser (stores : AuthStores) (username passwordHash : String) (groups : List String)
    (directEntitlements : EntitlementSet) (freshId : String) : AuthStores × Response :=
  let user : UserRecord :=
    { username := username, passwordHash := passwordHash, groups := groups,
      directEntitlements := directEntitlements }
  match stores.users.create user freshId with
  | .ok users => ({ stores with users := users }, ⟨.created, ""⟩)
  | .error error => (stores, refusal error)

def bootstrapAdmin (stores : AuthStores) (username passwordHash freshId : String) :
    AuthStores × Response :=
  if stores.users.users ≠ [] then
    (stores, ⟨.forbidden, "Setup has already been completed"⟩)
  else if username = "" then
    (stores, ⟨.badRequest, "Username is required"⟩)
  else
    let admin : UserRecord :=
      { username := username, passwordHash := passwordHash,
        groups := [BuiltInGroups.administrators], directEntitlements := .empty }
    match stores.users.create admin freshId with
    | .ok users => ({ stores with users := users }, ⟨.created, ""⟩)
    | .error error => (stores, ⟨.badRequest, error⟩)

def putUser (stores : AuthStores) (userId : String) (change : UserChange) :
    AuthStores × Response :=
  match stores.users.findById userId with
  | none => (stores, ⟨.notFound, "User not found"⟩)
  | some current =>
    match change.apply current with
    | .error error => (stores, ⟨.badRequest, error⟩)
    | .ok updated =>
      match stores.users.update updated stores.registry with
      | .error error => (stores, refusal error)
      | .ok users =>
        -- outstanding access tokens go stale; the sessions stay
        let users :=
          if updated.groups ≠ current.groups ∨
              updated.directEntitlements ≠ current.directEntitlements then
            users.bumpTokenVersion userId
          else
            users
        let updatedStores := { stores with users := users }
        if change.disabled = some true ∧ current.disabled = false then
          match updatedStores.disableUser userId with
          | .ok disabledStores => (disabledStores, ⟨.ok, ""⟩)
          | .error error => (updatedStores, refusal error)
        else
          (updatedStores, ⟨.ok, ""⟩)

def deleteUser (stores : AuthStores) (userId : String) : AuthStores × Response :=
  match stores.users.remove userId stores.registry with
  | .error error => (stores, refusal error)
  | .ok users =>
    ({ stores with users := users, sessions := (stores.sessions.revokeAllForUser userId).1 },
      ⟨.noContent, ""⟩)

/-- The completion of a password change; the record is read again, since it may have
changed during the hash. -/
def applyPasswordChange (stores : AuthStores) (userId passwordHash : String) :
    AuthStores × Response :=
  match stores.users.findById userId with
  | none => (stores, ⟨.notFound, "User not found"⟩)
  | some user =>
    match stores.users.update { user with passwordHash := passwordHash } stores.registry with
    | .error error => (stores, refusal error)
    | .ok users =>
      ({ stores with
          users := users.bumpTokenVersion userId
          sessions := (stores.sessions.revokeAllForUser userId).1 },
        ⟨.noContent, ""⟩)

end AuthStores

def UserStore.bumpMembers (store : UserStore) (name : String) : UserStore :=
  (store.users.filter fun user => name ∈ user.groups).foldl
    (fun store user => store.bumpTokenVersion user.id) store

namespace AuthStores

def putGroup (stores : AuthStores) (name : String) (entitlements : List String) :
    AuthStores × Response :=
  match parseEntitlementsField entitlements with
  | .error error => (stores, ⟨.badRequest, error⟩)
  | .ok entitlements =>
    match GroupStore.upsert stores.registry ⟨name, entitlements, false⟩ with
    | .error error => (stores, refusal error)
    | .ok registry =>
      -- read before the upsert; a new name can have members, too
      let previous := stores.registry.find name
      let users :=
        if previous.map Group.entitlements ≠ some entitlements then
          stores.users.bumpMembers name
        else
          stores.users
      ({ stores with registry := registry, users := users }, ⟨.ok, ""⟩)

def deleteGroup (stores : AuthStores) (name : String) : AuthStores × Response :=
  match GroupStore.remove stores.registry name with
  | .error error => (stores, refusal error)
  | .ok registry =>
    ({ stores with registry := registry, users := stores.users.bumpMembers name }, ⟨.noContent, ""⟩)

end AuthStores

/-- The operations of the admin API. -/
inductive AdminRequest where
  | createUser (username passwordHash : String) (groups : List String)
      (directEntitlements : EntitlementSet) (freshId : String)
  | bootstrapAdmin (username passwordHash freshId : String)
  | putUser (userId : String) (change : UserChange)
  | deleteUser (userId : String)
  | disableUser (userId : String)
  | changePassword (userId passwordHash : String)
  | logoutAll (userId : String)
  | putGroup (name : String) (entitlements : List String)
  | deleteGroup (name : String)
  deriving DecidableEq

namespace AuthStores

def handle (stores : AuthStores) : AdminRequest → AuthStores × Response
  | .createUser username passwordHash groups directEntitlements freshId =>
    stores.createUser username passwordHash groups directEntitlements freshId
  | .bootstrapAdmin username passwordHash freshId =>
    stores.bootstrapAdmin username passwordHash freshId
  | .putUser userId change => stores.putUser userId change
  | .deleteUser userId => stores.deleteUser userId
  | .disableUser userId =>
    match stores.disableUser userId with
    | .ok stores' => (stores', ⟨.ok, ""⟩)
    | .error error => (stores, refusal error)
  | .changePassword userId passwordHash => stores.applyPasswordChange userId passwordHash
  | .logoutAll userId => (stores.logoutAll userId, ⟨.ok, ""⟩)
  | .putGroup name entitlements => stores.putGroup name entitlements
  | .deleteGroup name => stores.deleteGroup name

def afterRequest (stores : AuthStores) (request : AdminRequest) : AuthStores :=
  (stores.handle request).1

end AuthStores

/-- The id that a request draws for a new user. -/
def AdminRequest.drawnId : AdminRequest → Option String
  | .createUser _ _ _ _ freshId => some freshId
  | .bootstrapAdmin _ _ freshId => some freshId
  | _ => none

namespace AuthStores

/-! ## The branches of the handlers -/

/-- What a handler does to the stores, branch by branch.  A refusal leaves them as they
are, but for a user update whose last step, the disabling, is refused. -/
inductive Handled (stores : AuthStores) : AdminRequest → AuthStores → Response → Prop
  | refused (request : AdminRequest) (response : Response) :
      Handled stores request stores response
  | userCreated {request : AdminRequest} {user : UserRecord} {freshId : String} {users : UserStore}
      (hdrawn : request.drawnId = some freshId) (hid : user.id = "")
      (hcreate : stores.users.create user freshId = .ok users) :
      Handled stores request { stores with users := users } ⟨.created, ""⟩
  | userPut {userId : String} {change : UserChange} {current updated : UserRecord}
      {users bumped : UserStore} {stores' : AuthStores} {response : Response}
      (hfind : stores.users.findById userId = some current)
      (happly : change.apply current = .ok updated)
      (hupdate : stores.users.update updated stores.registry = .ok users)
      (hbumped : bumped = if updated.groups ≠ current.groups ∨
        updated.directEntitlements ≠ current.directEntitlements then
          users.bumpTokenVersion userId else users)
      (hdisable : stores' = { stores with users := bumped } ∨ change.disabled = some true ∧
        { stores with users := bumped }.disableUser userId = .ok stores' ∧ response = ⟨.ok, ""⟩) :
      Handled stores (.putUser userId change) stores' response
  | userDeleted {userId : String} {users : UserStore}
      (hremove : stores.users.remove userId stores.registry = .ok users) :
      Handled stores (.deleteUser userId)
        { stores with users := users, sessions := (stores.sessions.revokeAllForUser userId).1 }
        ⟨.noContent, ""⟩
  | userDisabled {userId : String} {stores' : AuthStores}
      (hdisable : stores.disableUser userId = .ok stores') :
      Handled stores (.disableUser userId) stores' ⟨.ok, ""⟩
  | passwordChanged {userId passwordHash : String} {user : UserRecord} {users : UserStore}
      (hfind : stores.users.findById userId = some user)
      (hupdate : stores.users.update { user with passwordHash := passwordHash } stores.registry =
        .ok users) :
      Handled stores (.changePassword userId passwordHash)
        { stores with
          users := users.bumpTokenVersion userId
          sessions := (stores.sessions.revokeAllForUser userId).1 }
        ⟨.noContent, ""⟩
  | loggedOut {userId : String} :
      Handled stores (.logoutAll userId) (stores.logoutAll userId) ⟨.ok, ""⟩
  | groupPut {name : String} {texts : List String} {entitlements : EntitlementSet}
      {registry : GroupRegistry} {users : UserStore}
      (hparse : parseEntitlementsField texts = .ok entitlements)
      (hupsert : GroupStore.upsert stores.registry ⟨name, entitlements, false⟩ = .ok registry)
      (husers : users =
        if (stores.registry.find name).map Group.entitlements ≠ some entitlements then
          stores.users.bumpMembers name else stores.users) :
      Handled stores (.putGroup name texts) { stores with registry := registry, users := users }
        ⟨.ok, ""⟩
  | groupDeleted {name : String} {registry : GroupRegistry}
      (hremove : GroupStore.remove stores.registry name = .ok registry) :
      Handled stores (.deleteGroup name)
        { stores with registry := registry, users := stores.users.bumpMembers name }
        ⟨.noContent, ""⟩

theorem handled (stores : AuthStores) (request : AdminRequest) :
    Handled stores request (stores.afterRequest request) (stores.handle request).2 := by
  rw [afterRequest]
  cases request with
  | createUser username passwordHash groups directEntitlements freshId =>
    rw [handle, createUser]
    split
    · next users hcreate => exact .userCreated rfl rfl hcreate
    · exact .refused _ _
  | bootstrapAdmin username passwordHash freshId =>
    rw [handle, bootstrapAdmin]
    split
    · exact .refused _ _
    · split
      · exact .refused _ _
      · dsimp only
        split
        · next users hcreate => exact .userCreated rfl rfl hcreate
        · exact .refused _ _
  | putUser userId change =>
    rw [handle, putUser]
    split
    · exact .refused _ _
    · next current hfind =>
        split
        · exact .refused _ _
        · next updated happly =>
            split
            · exact .refused _ _
            · next users hupdate =>
                dsimp only
                split
                · next hrequested =>
                    split
                    · next stores' hdisable =>
                        exact .userPut hfind happly hupdate rfl (.inr ⟨hrequested.1, hdisable, rfl⟩)
                    · exact .userPut hfind happly hupdate rfl (.inl rfl)
                · exact .userPut hfind happly hupdate rfl (.inl rfl)
  | deleteUser userId =>
    rw [handle, deleteUser]
    split
    · exact .refused _ _
    · next users hremove => exact .userDeleted hremove
  | disableUser userId =>
    rw [handle]
    split
    · next stores' hdisable => exact .userDisabled hdisable
    · exact .refused _ _
  | changePassword userId passwordHash =>
    rw [handle, applyPasswordChange]
    split
    · exact .refused _ _
    · next user hfind =>
        split
        · exact .refused _ _
        · next users hupdate => exact .passwordChanged hfind hupdate
  | logoutAll userId => exact .loggedOut
  | putGroup name texts =>
    rw [handle, putGroup]
    split
    · exact .refused _ _
    · next entitlements hparse =>
        split
        · exact .refused _ _
        · next registry hupsert => exact .groupPut hparse hupsert rfl
  | deleteGroup name =>
    rw [handle, deleteGroup]
    split
    · exact .refused _ _
    · next registry hremove => exact .groupDeleted hremove

end AuthStores

/-! ## What a request does to a record -/

structure RecordEdit (request : AdminRequest) (user user' : UserRecord) : Prop where
  id_eq : user'.id = user.id
  passwordHash : user'.passwordHash = user.passwordHash ∨
    request = .changePassword user.id user'.passwordHash
  disabled : user'.disabled → user.disabled ∨ request = .disableUser user.id ∨
    ∃ change : UserChange, request = .putUser user.id change ∧ change.disabled = some true
  grants : user'.tokenVersion = user.tokenVersion →
    user'.groups = user.groups ∧ user'.directEntitlements = user.directEntitlements

theorem RecordEdit.refl (request : AdminRequest) (user : UserRecord) :
    RecordEdit request user user :=
  ⟨rfl, .inl rfl, .inl, fun _ => ⟨rfl, rfl⟩⟩

/-- A counter that was bumped once or twice has another value. -/
theorem tokenVersion_add_ne (version : UInt32) :
    version + 1 ≠ version ∧ version + 1 + 1 ≠ version := by
  constructor <;>
  · intro h
    have hvalue := congrArg UInt32.toNat h
    have hlt := version.toNat_lt
    simp only [UInt32.toNat_add, UInt32.reduceToNat] at hvalue
    omega

theorem UserStore.findById_bumpMembers {store : UserStore}
    (hnodup : (store.users.map UserRecord.id).Nodup) (name id : String) :
    (store.bumpMembers name).findById id = (store.findById id).map fun user =>
      if name ∈ user.groups then { user with tokenVersion := user.tokenVersion + 1 } else user := by
  have hmembers : ((store.users.filter fun user => name ∈ user.groups).map UserRecord.id).Nodup :=
    hnodup.sublist (List.filter_sublist.map _)
  rw [bumpMembers, findById_foldl_bumpTokenVersion hmembers]
  cases hfind : store.findById id with
  | none => simp
  | some user =>
    have huser := id_of_findById hfind
    -- the ids of the members are those of the records that list the group
    have hiff : id ∈ (store.users.filter fun user => name ∈ user.groups).map UserRecord.id ↔
        name ∈ user.groups := by
      simp only [List.mem_map, mem_filter, decide_eq_true_eq]
      constructor
      · rintro ⟨member, ⟨hmem, hlists⟩, rfl⟩
        have hsame := (findById_of_mem hnodup hmem).symm.trans hfind
        rwa [← Option.some_inj.mp hsame]
      · intro hlists
        exact ⟨user, ⟨mem_of_findById hfind, hlists⟩, huser⟩
    by_cases hlists : name ∈ user.groups <;> simp [hiff, hlists]

inductive RecordFate (request : AdminRequest) (id : String) :
    Option UserRecord → Option UserRecord → Prop
  | absent : RecordFate request id none none
  | deleted (before : Option UserRecord) (hdelete : request = .deleteUser id) :
      RecordFate request id before none
  | edited {user user' : UserRecord} (hedit : RecordEdit request user user') :
      RecordFate request id (some user) (some user')

namespace RecordFate

variable {request : AdminRequest} {id : String}

theorem refl (before : Option UserRecord) : RecordFate request id before before := by
  cases before with
  | none => exact .absent
  | some user => exact .edited (.refl request user)

variable {f : UserRecord → UserRecord}

theorem map (before : Option UserRecord)
    (h : ∀ user, before = some user → RecordEdit request user (f user)) :
    RecordFate request id before (before.map f) := by
  cases before with
  | none => exact .absent
  | some user => exact .edited (h user rfl)

theorem map_at (store : UserStore) {userId : String}
    (h : ∀ user, store.findById id = some user → id = userId → RecordEdit request user (f user)) :
    RecordFate request id (store.findById id)
      (if id = userId then (store.findById userId).map f else store.findById id) := by
  split
  · next hsame =>
      rw [← hsame]
      exact map _ fun user hfind => h user hfind hsame
  · exact refl _

theorem bumpMembers {store : UserStore} (hnodup : (store.users.map UserRecord.id).Nodup)
    (name : String) :
    RecordFate request id (store.findById id) ((store.bumpMembers name).findById id) := by
  rw [UserStore.findById_bumpMembers hnodup]
  refine map _ fun user _ => ?_
  split
  · exact ⟨rfl, .inl rfl, .inl, fun h => absurd h (tokenVersion_add_ne _).1⟩
  · exact .refl request user

end RecordFate

namespace AuthStores

variable {stores stores' : AuthStores} {userId id : String} {request : AdminRequest}

theorem disableUser_eq_ok (h : stores.disableUser userId = .ok stores') :
    ∃ user users, stores.users.findById userId = some user ∧
      stores.users.update { user with disabled := true } stores.registry = .ok users ∧
      stores' = { stores with
        users := users.bumpTokenVersion userId
        sessions := (stores.sessions.revokeAllForUser userId).1 } := by
  rw [disableUser] at h
  split at h
  · simp at h
  · next user hfind =>
      split at h
      · simp at h
      · next users hupdate => exact ⟨user, users, hfind, hupdate, (Except.ok.inj h).symm⟩

theorem findById_disableUser (h : stores.disableUser userId = .ok stores') (id : String) :
    stores'.users.findById id =
      if id = userId then
        (stores.users.findById userId).map fun user =>
          { user with disabled := true, tokenVersion := user.tokenVersion + 1 }
      else stores.users.findById id := by
  obtain ⟨user, users, hfind, hupdate, rfl⟩ := disableUser_eq_ok h
  have huser := UserStore.id_of_findById hfind
  simp only [UserStore.findById_bumpTokenVersion, UserStore.findById_update hupdate, huser,
    hfind, map_some, if_true]
  split <;> rfl

variable {current updated : UserRecord}

theorem UserChange.apply_fields {change : UserChange} (h : change.apply current = .ok updated) :
    updated.id = current.id ∧ updated.passwordHash = current.passwordHash ∧
      updated.tokenVersion = current.tokenVersion ∧
      (updated.disabled = true → current.disabled = true) := by
  have hdisabled : ∀ disabled : Bool,
      (if change.disabled = some false then false else disabled) = true → disabled = true := by
    intro disabled
    split <;> simp
  by_cases husername : change.username = some ""
  · simp [UserChange.apply, husername] at h
  · rw [UserChange.apply, if_neg husername] at h
    cases hdirect : change.directEntitlements with
    | none =>
      simp only [hdirect] at h
      rw [← Except.ok.inj h]
      exact ⟨rfl, rfl, rfl, hdisabled _⟩
    | some texts =>
      cases hparse : parseEntitlementsField texts with
      | error error => simp [hdirect, hparse] at h
      | ok entitlements =>
        simp only [hdirect, hparse] at h
        rw [← Except.ok.inj h]
        exact ⟨rfl, rfl, rfl, hdisabled _⟩

theorem findById_update_bump {store store' bumped : UserStore} {registry : GroupRegistry}
    (hupdate : store.update updated registry = .ok store') (hid : updated.id = userId)
    (hversion : updated.tokenVersion = current.tokenVersion)
    (hbumped : bumped =
      if updated.groups ≠ current.groups ∨
          updated.directEntitlements ≠ current.directEntitlements then
        store'.bumpTokenVersion userId
      else store') :
    ∃ record : UserRecord,
      (∀ id, bumped.findById id = if id = userId then some record else store.findById id) ∧
      record.passwordHash = updated.passwordHash ∧ record.disabled = updated.disabled ∧
      record.id = updated.id ∧
      (record = updated ∧ updated.groups = current.groups ∧
          updated.directEntitlements = current.directEntitlements ∨
        record.tokenVersion = current.tokenVersion + 1) := by
  have hupdated : ∀ id, store'.findById id =
      if id = userId then some updated else store.findById id := by
    intro id
    rw [UserStore.findById_update hupdate, hid]
  rw [hbumped]
  split
  · refine ⟨{ updated with tokenVersion := updated.tokenVersion + 1 }, ?_, rfl, rfl, rfl,
      .inr (by rw [hversion])⟩
    intro id
    rw [UserStore.findById_bumpTokenVersion, hupdated, hupdated]
    split <;> simp
  · next hsame =>
      simp only [not_or, not_not] at hsame
      exact ⟨updated, hupdated, rfl, rfl, rfl, .inl ⟨rfl, hsame⟩⟩

theorem findById_userPut {change : UserChange} {users bumped : UserStore} {response : Response}
    (hfind : stores.users.findById userId = some current)
    (happly : change.apply current = .ok updated)
    (hupdate : stores.users.update updated stores.registry = .ok users)
    (hbumped : bumped =
      if updated.groups ≠ current.groups ∨
          updated.directEntitlements ≠ current.directEntitlements then
        users.bumpTokenVersion userId
      else users)
    (hdisable : stores' = { stores with users := bumped } ∨
      change.disabled = some true ∧
        { stores with users := bumped }.disableUser userId = .ok stores' ∧
        response = ⟨.ok, ""⟩) :
    ∃ final, RecordEdit (.putUser userId change) current final ∧
      ∀ id, stores'.users.findById id =
        if id = userId then some final else stores.users.findById id := by
  have hid := UserStore.id_of_findById hfind
  obtain ⟨hupdatedId, hhash, hversion, hdisabled⟩ := UserChange.apply_fields happly
  obtain ⟨record, hrecord, hrecordHash, hrecordDisabled, hrecordId, hgrants⟩ :=
    findById_update_bump hupdate (hupdatedId.trans hid) hversion hbumped
  rcases hdisable with rfl | ⟨hrequested, hdisable, -⟩
  · refine ⟨record, ⟨hrecordId.trans hupdatedId, .inl (hrecordHash.trans hhash),
      fun h => .inl (hdisabled (hrecordDisabled ▸ h)), ?_⟩, hrecord⟩
    intro h
    rcases hgrants with ⟨rfl, hgroups, hdirect⟩ | hnext
    · exact ⟨hgroups, hdirect⟩
    · exact absurd (hnext.symm.trans h) (tokenVersion_add_ne _).1
  · -- bumped once more with the disabling, so the version has moved in any case
    refine ⟨{ record with disabled := true, tokenVersion := record.tokenVersion + 1 },
      ⟨hrecordId.trans hupdatedId, .inl (hrecordHash.trans hhash), ?_, ?_⟩, ?_⟩
    · exact fun _ => .inr (.inr ⟨change, by rw [hid], hrequested⟩)
    · intro h
      rcases hgrants with ⟨rfl, -⟩ | hnext
      · exact absurd (hversion ▸ h) (tokenVersion_add_ne _).1
      · exact absurd (hnext ▸ h) (tokenVersion_add_ne _).2
    · intro id
      rw [findById_disableUser hdisable]
      simp only [hrecord]
      split <;> simp

theorem findById_of_refused {user : UserRecord} (hfind : stores.users.findById id = some user)
    (hrefused : (stores.handle request).2.error ≠ "") :
    ∃ user', (stores.afterRequest request).users.findById id = some user' ∧
      user'.passwordHash = user.passwordHash ∧
      (user'.disabled → user.disabled) := by
  have h := handled stores request
  generalize stores.afterRequest request = stores' at h ⊢
  generalize (stores.handle request).2 = response at h hrefused
  cases h with
  | refused => exact ⟨user, hfind, rfl, fun h => h⟩
  | userPut hcurrent happly hupdate hbumped hdisable =>
    rcases hdisable with rfl | ⟨-, -, rfl⟩
    · -- the last administrator is not disabled, but the rest is done
      obtain ⟨hid, hhash, hversion, hdisabled⟩ := UserChange.apply_fields happly
      obtain ⟨record, hrecord, hrecordHash, hrecordDisabled, -⟩ :=
        findById_update_bump hupdate (hid.trans (UserStore.id_of_findById hcurrent)) hversion
          hbumped
      simp only [hrecord id]
      split
      · next hsame =>
          rw [hsame, hcurrent, some_inj] at hfind
          rw [← hfind]
          exact ⟨record, rfl, hrecordHash.trans hhash, fun h => hdisabled (hrecordDisabled ▸ h)⟩
      · exact ⟨user, hfind, rfl, fun h => h⟩
    · exact absurd rfl hrefused
  | _ => exact absurd rfl hrefused

/-! ## What a request keeps -/

theorem users_afterRequest {Q : UserStore → Prop}
    (hcreate : ∀ store' user freshId, request.drawnId = some freshId → user.id = "" →
      stores.users.create user freshId = .ok store' → Q store')
    (hupdate : ∀ store store' user, Q store → store.update user stores.registry = .ok store' →
      Q store')
    (hremove : ∀ store store' id, Q store → store.remove id stores.registry = .ok store' → Q store')
    (hbump : ∀ store id, Q store → Q (store.bumpTokenVersion id)) (h : Q stores.users) :
    Q (stores.afterRequest request).users := by
  have hdisabled : ∀ (earlier later : AuthStores) userId, earlier.registry = stores.registry →
      Q earlier.users → earlier.disableUser userId = .ok later → Q later.users := by
    intro earlier later userId hregistry hearlier hlater
    obtain ⟨user, users, -, hok, rfl⟩ := disableUser_eq_ok hlater
    exact hbump _ _ (hupdate _ _ _ hearlier (hregistry ▸ hok))
  have hmembers : ∀ name, Q (stores.users.bumpMembers name) := fun name =>
    foldl_of_step (fun store user hstore => hbump store user.id hstore) h
  have hhandled := handled stores request
  generalize stores.afterRequest request = stores' at hhandled ⊢
  generalize (stores.handle request).2 = response at hhandled
  cases hhandled with
  | refused => exact h
  | userCreated hdrawn hid hok => exact hcreate _ _ _ hdrawn hid hok
  | @userPut userId _ _ _ users bumped _ _ hfind happly hok hbumped hdisable =>
    have hupdated := hupdate _ _ _ h hok
    have hfirst : Q bumped := by
      rw [hbumped]
      split
      · exact hbump _ _ hupdated
      · exact hupdated
    rcases hdisable with rfl | ⟨-, hlater, -⟩
    · exact hfirst
    · exact hdisabled { stores with users := bumped } _ userId rfl hfirst hlater
  | userDeleted hok => exact hremove _ _ _ h hok
  | userDisabled hlater => exact hdisabled _ _ _ rfl h hlater
  | passwordChanged hfind hok => exact hbump _ _ (hupdate _ _ _ h hok)
  | loggedOut => exact hbump _ _ h
  | @groupPut name _ _ _ _ hparse hupsert husers =>
    rw [husers]
    split
    · exact hmembers name
    · exact h
  | @groupDeleted name _ hremove => exact hmembers name

def IsUserRequest : AdminRequest → Prop
  | .putGroup _ _ => False
  | .deleteGroup _ => False
  | _ => True

theorem afterRequest_frame (stores : AuthStores) (request : AdminRequest) :
    (IsUserRequest request → (stores.afterRequest request).registry = stores.registry) ∧
      (stores.afterRequest request).kiosk = stores.kiosk := by
  have h := handled stores request
  generalize stores.afterRequest request = stores' at h ⊢
  generalize (stores.handle request).2 = response at h
  cases h with
  | userPut hfind happly hupdate hbumped hdisable =>
    rcases hdisable with rfl | ⟨-, hdisable, -⟩
    · exact ⟨fun _ => rfl, rfl⟩
    · obtain ⟨user, users, -, -, rfl⟩ := disableUser_eq_ok hdisable
      exact ⟨fun _ => rfl, rfl⟩
  | userDisabled hdisable =>
    obtain ⟨user, users, -, -, rfl⟩ := disableUser_eq_ok hdisable
    exact ⟨fun _ => rfl, rfl⟩
  | groupPut hparse hupsert husers => exact ⟨fun h => h.elim, rfl⟩
  | groupDeleted hremove => exact ⟨fun h => h.elim, rfl⟩
  | _ => exact ⟨fun _ => rfl, rfl⟩

theorem registry_afterRequest (h : IsUserRequest request) :
    (stores.afterRequest request).registry = stores.registry :=
  (afterRequest_frame stores request).1 h

theorem kiosk_afterRequest (stores : AuthStores) (request : AdminRequest) :
    (stores.afterRequest request).kiosk = stores.kiosk :=
  (afterRequest_frame stores request).2

/-! ### The ids in use -/

def userIds (stores : AuthStores) : List String := stores.users.users.map UserRecord.id

theorem userIds_afterRequest (stores : AuthStores) (request : AdminRequest) :
    (stores.afterRequest request).userIds.Sublist
      (stores.userIds ++ request.drawnId.toList) := by
  have hmodify : ∀ (store : UserStore) id change,
      (∀ user : UserRecord, user.id = id → (change user).id = id) →
      (store.users.map UserRecord.id).Sublist (stores.userIds ++ request.drawnId.toList) →
      ((store.modifyById id change).users.map UserRecord.id).Sublist
        (stores.userIds ++ request.drawnId.toList) := by
    intro store id change hchange h
    rwa [UserStore.ids_modifyById hchange]
  refine users_afterRequest (Q := fun store => (store.users.map UserRecord.id).Sublist
    (stores.userIds ++ request.drawnId.toList)) ?_ ?_ ?_ ?_ (sublist_append_left _ _)
  · intro store' user freshId hdrawn hid hok
    rw [UserStore.create_eq_ok hok, hdrawn, map_append]
    simp [hid, userIds]
  · intro store store' user h hok
    obtain ⟨-, -, rfl⟩ := UserStore.update_eq_ok hok
    exact hmodify store user.id _ (fun _ _ => rfl) h
  · intro store store' id h hok
    rw [(UserStore.remove_eq_ok hok).2]
    exact (List.eraseP_sublist.map _).trans h
  · intro store id h
    exact hmodify store id _ (fun _ hid => hid) h

theorem nodup_userIds_afterRequest (hnodup : stores.userIds.Nodup)
    (hfresh : ∀ id, request.drawnId = some id → id ∉ stores.userIds) :
    (stores.afterRequest request).userIds.Nodup := by
  refine List.Nodup.sublist (userIds_afterRequest stores request) ?_
  cases hdrawn : request.drawnId with
  | none => simpa using hnodup
  | some id =>
    have hnew : ∀ other ∈ stores.userIds, other ≠ id := by
      rintro other hother rfl
      exact hfresh other hdrawn hother
    simpa [nodup_append, hnodup] using hnew

theorem recordFate_afterRequest (hnodup : stores.userIds.Nodup) (hid : request.drawnId ≠ some id) :
    RecordFate request id (stores.users.findById id)
      ((stores.afterRequest request).users.findById id) := by
  have h := handled stores request
  generalize stores.afterRequest request = stores' at h ⊢
  generalize (stores.handle request).2 = response at h
  cases h with
  | refused => exact .refl _
  | @userCreated _ user freshId users hdrawn huser hcreate =>
    have hne : id ≠ freshId := by
      rintro rfl
      exact hid hdrawn
    rw [UserStore.findById_create huser hcreate hne]
    exact .refl _
  | userPut hfind happly hupdate hbumped hdisable =>
    obtain ⟨final, hedit, hfinal⟩ := findById_userPut hfind happly hupdate hbumped hdisable
    rw [hfinal id]
    split
    · next hsame =>
        rw [hsame, hfind]
        exact .edited hedit
    · exact .refl _
  | userDeleted hremove =>
    simp only [UserStore.findById_remove hnodup hremove]
    split
    · next hsame => exact .deleted _ (by rw [hsame])
    · exact .refl _
  | userDisabled hdisable =>
    rw [findById_disableUser hdisable]
    refine .map_at _ fun user hfind hsame => ⟨rfl, .inl rfl, ?_, ?_⟩
    · rw [UserStore.id_of_findById hfind, hsame]
      exact fun _ => .inr (.inl rfl)
    · exact fun h => absurd h (tokenVersion_add_ne _).1
  | @passwordChanged userId passwordHash current users hfind hupdate =>
    have hcurrent := UserStore.id_of_findById hfind
    have hmap : (users.bumpTokenVersion userId).findById id =
        if id = userId then
          (stores.users.findById userId).map fun user => { user with
            passwordHash := passwordHash, tokenVersion := user.tokenVersion + 1 }
        else stores.users.findById id := by
      simp only [UserStore.findById_bumpTokenVersion, UserStore.findById_update hupdate,
        hcurrent, hfind, map_some, if_true]
      split <;> rfl
    rw [hmap]
    refine .map_at _ fun user hfind hsame => ⟨rfl, ?_, .inl, ?_⟩
    · rw [UserStore.id_of_findById hfind, hsame]
      exact .inr rfl
    · exact fun h => absurd h (tokenVersion_add_ne _).1
  | @loggedOut userId =>
    rw [logoutAll, UserStore.findById_bumpTokenVersion]
    exact .map_at _ fun user _ _ =>
      ⟨rfl, .inl rfl, .inl, fun h => absurd h (tokenVersion_add_ne _).1⟩
  | @groupPut name _ _ _ _ hparse hupsert husers =>
    rw [husers]
    split
    · exact .bumpMembers hnodup name
    · exact .refl _
  | @groupDeleted name _ hremove => exact .bumpMembers hnodup name

end AuthStores

end AqualinkAutomate.Auth
