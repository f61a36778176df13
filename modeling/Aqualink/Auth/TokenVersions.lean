import Aqualink.Auth.Propagation

/-!
# Token versions

Every operation that is to make outstanding tokens stale bumps the user's token version.
The routes read a record, change the copy and write it back, on the kernel thread without a
break, so a stale copy cannot write an old version.

One event moves a version by the bumps it makes, at most two (`bumpedBy_afterEvent`), and one
that is to revoke tokens does move it.  The version is 32 bits wide and wraps.  As long as the
counter has room (`HasRoom`), it never goes back, and a token that it made stale stays stale
(`token_versions_advance`); with enough bumps stale tokens come back.
-/

namespace AqualinkAutomate.Auth

open General List Option

/-! ## The bumps of an event -/

def AdminRequest.bumps : AdminRequest → ℕ
  | .putUser _ _ => 2
  | .disableUser _ => 1
  | .changePassword _ _ => 1
  | .logoutAll _ => 1
  | .putGroup _ _ => 1
  | .deleteGroup _ => 1
  | _ => 0

def StoreEvent.bumps : StoreEvent → ℕ
  | .admin request => request.bumps
  | .restart => 0

def BumpedBy (limit : ℕ) (user user' : UserRecord) : Prop :=
  ∃ bumps ≤ limit, user'.tokenVersion = user.tokenVersion + UInt32.ofNat bumps

namespace BumpedBy

variable {limit : ℕ} {user user' : UserRecord}

theorem of_eq (h : user'.tokenVersion = user.tokenVersion) : BumpedBy limit user user' :=
  ⟨0, by omega, by simpa using h⟩

theorem one (hlimit : 1 ≤ limit) (h : user'.tokenVersion = user.tokenVersion + 1) :
    BumpedBy limit user user' :=
  ⟨1, hlimit, h⟩

theorem le (h : BumpedBy limit user user') (hroom : user.tokenVersion.toNat + limit < 2 ^ 32) :
    user.tokenVersion ≤ user'.tokenVersion := by
  obtain ⟨bumps, hbumps, hversion⟩ := h
  have hsmall : bumps < UInt32.size := Nat.lt_of_le_of_lt (by omega) hroom
  have hvalue : user'.tokenVersion.toNat = user.tokenVersion.toNat + bumps := by
    rw [hversion, UInt32.toNat_add, UInt32.toNat_ofNat_of_lt' hsmall]
    omega
  rw [UInt32.le_iff_toNat_le]
  omega

variable {store store' : UserStore}

/-- The id has the same record in both stores. -/
theorem of_findById_eq {id : String} (hfind : store.findById id = some user)
    (hfind' : store'.findById id = some user') (h : store'.findById id = store.findById id) :
    BumpedBy limit user user' := by
  rw [hfind, hfind', some_inj] at h
  exact of_eq (by rw [h])

theorem of_map_at {userId id : String} {f : UserRecord → UserRecord}
    (hf : ∀ user, BumpedBy limit user (f user)) (hfind : store.findById id = some user)
    (hfind' : store'.findById id = some user')
    (h : store'.findById id = if id = userId then (store.findById userId).map f
      else store.findById id) :
    BumpedBy limit user user' := by
  rw [hfind'] at h
  split at h
  · next hid =>
      rw [← hid, hfind, map_some, some_inj] at h
      rw [h]
      exact hf user
  · exact of_findById_eq hfind hfind' (hfind'.trans h)

end BumpedBy

namespace AuthStores

variable {stores : AuthStores} {request : AdminRequest} {event : StoreEvent} {id : String}
  {user user' : UserRecord}

theorem findById_bumped_members {store : UserStore} {name : String} {limit : ℕ}
    (hlimit : 1 ≤ limit) (hnodup : (store.users.map UserRecord.id).Nodup)
    (hfind : store.findById id = some user)
    (hfind' : (store.bumpMembers name).findById id = some user') : BumpedBy limit user user' := by
  rw [UserStore.findById_bumpMembers hnodup, hfind, map_some, some_inj] at hfind'
  rw [← hfind']
  split
  · exact .one hlimit rfl
  · exact .of_eq rfl

theorem bumpedBy_userPut {stores' : AuthStores} {userId : String} {change : UserChange}
    {current updated : UserRecord} {users bumped : UserStore} {response : Response}
    (hcurrent : stores.users.findById userId = some current)
    (happly : change.apply current = .ok updated)
    (hupdate : stores.users.update updated stores.registry = .ok users)
    (hbumped : bumped = if updated.groups ≠ current.groups ∨
      updated.directEntitlements ≠ current.directEntitlements then
        users.bumpTokenVersion userId else users)
    (hdisable : stores' = { stores with users := bumped } ∨ change.disabled = some true ∧
      { stores with users := bumped }.disableUser userId = .ok stores' ∧ response = ⟨.ok, ""⟩) :
    ∃ final, BumpedBy 2 current final ∧
      ∀ id, stores'.users.findById id =
        if id = userId then some final else stores.users.findById id := by
  obtain ⟨hid, -, hversion, -⟩ := UserChange.apply_fields happly
  obtain ⟨record, hrecord, -, -, -, hgrants⟩ := findById_update_bump hupdate
    (hid.trans (UserStore.id_of_findById hcurrent)) hversion hbumped
  have hfirst : BumpedBy 1 current record := by
    rcases hgrants with ⟨rfl, -⟩ | hnext
    · exact .of_eq hversion
    · exact .one le_rfl hnext
  obtain ⟨bumps, hbumps, hmoved⟩ := hfirst
  rcases hdisable with rfl | ⟨-, hdisable, -⟩
  · exact ⟨record, ⟨bumps, by omega, hmoved⟩, hrecord⟩
  · refine ⟨{ record with disabled := true, tokenVersion := record.tokenVersion + 1 },
      ⟨bumps + 1, by omega, ?_⟩, fun id => ?_⟩
    · calc record.tokenVersion + 1
        _ = current.tokenVersion + UInt32.ofNat bumps + 1 := by rw [hmoved]
        _ = current.tokenVersion + UInt32.ofNat (bumps + 1) := by
            rw [UInt32.ofNat_add, UInt32.add_assoc]
            rfl
    · rw [findById_disableUser hdisable]
      simp only [hrecord]
      split <;> simp

theorem bumpedBy_afterRequest (hnodup : stores.userIds.Nodup) (hdrawn : request.drawnId ≠ some id)
    (hfind : stores.users.findById id = some user)
    (hfind' : (stores.afterRequest request).users.findById id = some user') :
    BumpedBy request.bumps user user' := by
  have h := handled stores request
  generalize stores.afterRequest request = stores' at h hfind'
  generalize (stores.handle request).2 = response at h
  cases h with
  | refused => exact .of_findById_eq hfind hfind' rfl
  | @userCreated _ _ freshId users hid huser hcreate =>
    have hne : id ≠ freshId := by
      rintro rfl
      exact hdrawn hid
    exact .of_findById_eq hfind hfind' (UserStore.findById_create huser hcreate hne)
  | @userPut userId change current updated users bumped _ _ hcurrent happly hupdate hbumped
      hdisable =>
      obtain ⟨final, hbumpedBy, hfinal⟩ :=
        bumpedBy_userPut hcurrent happly hupdate hbumped hdisable
      rw [hfinal] at hfind'
      by_cases hsame : id = userId
      · rw [hsame, hcurrent, some_inj] at hfind
        rw [if_pos hsame, some_inj] at hfind'
        rwa [← hfind, ← hfind']
      · rw [if_neg hsame] at hfind'
        exact .of_findById_eq hfind hfind' rfl
  | userDeleted hremove =>
    have hremoved := UserStore.findById_remove hnodup hremove id
    split at hremoved
    · simp [hremoved] at hfind'
    · exact .of_findById_eq hfind hfind' hremoved
  | userDisabled hdisable =>
    exact .of_map_at (fun _ => .one le_rfl rfl) hfind hfind' (findById_disableUser hdisable id)
  | @passwordChanged userId passwordHash current users hcurrent hupdate =>
    let change (user : UserRecord) : UserRecord :=
      { user with passwordHash := passwordHash, tokenVersion := user.tokenVersion + 1 }
    have hone (user : UserRecord) : BumpedBy 1 user (change user) := .one le_rfl rfl
    refine .of_map_at hone hfind hfind' (?_ : _ = if id = userId then _ else _)
    simp only [UserStore.findById_bumpTokenVersion, UserStore.findById_update hupdate,
      UserStore.id_of_findById hcurrent, hcurrent, map_some, if_true]
    split
    · simp [change, UserStore.id_of_findById hcurrent]
    · rfl
  | loggedOut =>
    exact .of_map_at (fun _ => .one le_rfl rfl) hfind hfind'
      (UserStore.findById_bumpTokenVersion _ _ id)
  | groupPut hparse hupsert husers =>
    rw [husers] at hfind'
    dsimp only at hfind'
    split at hfind'
    · exact findById_bumped_members le_rfl hnodup hfind hfind'
    · exact .of_findById_eq hfind hfind' rfl
  | groupDeleted hremove => exact findById_bumped_members le_rfl hnodup hfind hfind'

theorem bumpedBy_afterEvent (hnodup : stores.userIds.Nodup) (hdrawn : event.drawnId ≠ some id)
    (hfind : stores.users.findById id = some user)
    (hfind' : (stores.afterEvent event).users.findById id = some user') :
    BumpedBy event.bumps user user' := by
  cases event with
  | admin request => exact bumpedBy_afterRequest hnodup hdrawn hfind hfind'
  | restart =>
    have hreloaded : stores.restart.users.findById id =
        (stores.users.findById id).map UserRecord.reloaded := by
      simp only [restart, UserStore.findById, find?_map]
      rfl
    rw [afterEvent, hreloaded, hfind, map_some, some_inj] at hfind'
    exact .of_eq (by rw [← hfind']; rfl)

end AuthStores

/-! ## The events that revoke -/

/-- The request is carried out, and is to make the outstanding tokens of the user stale. -/
def AdminRequest.RevokesTokens (id : String) (stores : AuthStores) (user : UserRecord) :
    AdminRequest → Prop
  | .logoutAll userId => userId = id
  | .disableUser userId => userId = id ∧ ∃ stores', stores.disableUser userId = .ok stores'
  | .changePassword userId passwordHash => userId = id ∧
      ∃ users, stores.users.update { user with passwordHash := passwordHash } stores.registry =
        .ok users
  | .putUser userId change => userId = id ∧
      ∃ updated users, change.apply user = .ok updated ∧
        stores.users.update updated stores.registry = .ok users ∧
        (updated.groups ≠ user.groups ∨ updated.directEntitlements ≠ user.directEntitlements ∨
          change.disabled = some true ∧ user.disabled = false ∧
            (stores.putUser userId change).2.status = .ok)
  | .putGroup name texts => name ∈ user.groups ∧
      ∃ set registry, parseEntitlementsField texts = .ok set ∧
        GroupStore.upsert stores.registry ⟨name, set, false⟩ = .ok registry ∧
        (stores.registry.find name).map Group.entitlements ≠ some set
  | .deleteGroup name => name ∈ user.groups ∧
      ∃ registry, GroupStore.remove stores.registry name = .ok registry
  | _ => False

/-- The event is to make the outstanding tokens of the user of the id stale. -/
def StoreEvent.RevokesTokens (id : String) (stores : AuthStores) : StoreEvent → Prop
  | .admin request => ∃ user, stores.users.findById id = some user ∧
      request.RevokesTokens id stores user
  | .restart => False

theorem statusForStoreError_ne_ok (error : String) : statusForStoreError error ≠ .ok := by
  rw [statusForStoreError]
  split
  · simp
  · split <;> simp

namespace AuthStores

variable {stores : AuthStores} {request : AdminRequest} {event : StoreEvent} {id : String}
  {user user' : UserRecord}

theorem tokenVersion_ne_of_putUser {userId : String} {change : UserChange}
    (hfind : stores.users.findById userId = some user)
    (hrevokes : (AdminRequest.putUser userId change).RevokesTokens userId stores user)
    (hfind' : (stores.putUser userId change).1.users.findById userId = some user') :
    user'.tokenVersion ≠ user.tokenVersion := by
  obtain ⟨-, updated, users, happly, hupdate, hwhy⟩ := hrevokes
  obtain ⟨hid, -, hversion, -⟩ := UserChange.apply_fields happly
  simp only [putUser, hfind, happly, hupdate] at hwhy hfind'
  generalize hbumped : (if updated.groups ≠ user.groups ∨
    updated.directEntitlements ≠ user.directEntitlements then users.bumpTokenVersion userId
    else users) = bumped at hwhy hfind'
  obtain ⟨record, hlookup, -, -, -, hfirst⟩ := findById_update_bump hupdate
    (hid.trans (UserStore.id_of_findById hfind)) hversion hbumped.symm
  have hrecord : bumped.findById userId = some record := by rw [hlookup, if_pos rfl]
  -- the grants that changed have moved it already
  have hgrants : updated.groups ≠ user.groups ∨
      updated.directEntitlements ≠ user.directEntitlements →
        record.tokenVersion ≠ user.tokenVersion := by
    intro hchanged
    rcases hfirst with ⟨-, hgroups, hdirect⟩ | hnext
    · exact absurd hchanged (by simp [hgroups, hdirect])
    · rw [hnext]
      exact (tokenVersion_add_ne _).1
  split at hfind'
  next hrequested =>
    split at hfind'
    next stores' hdisable =>
      -- the disabling bumps once more
      simp only [findById_disableUser hdisable, if_true, hrecord, map_some, some_inj] at hfind'
      rw [← hfind']
      rcases hfirst with ⟨rfl, -⟩ | hnext
      · rw [hversion]
        exact (tokenVersion_add_ne _).1
      · rw [hnext]
        exact (tokenVersion_add_ne _).2
    next error hdisable =>
      obtain rfl : record = user' := Option.some_inj.mp (hrecord.symm.trans hfind')
      rw [if_pos hrequested, hdisable] at hwhy
      rcases hwhy with hne | hne | ⟨-, -, hok⟩
      · exact hgrants (.inl hne)
      · exact hgrants (.inr hne)
      · exact absurd hok (statusForStoreError_ne_ok error)
  next hrequested =>
    obtain rfl : record = user' := Option.some_inj.mp (hrecord.symm.trans hfind')
    rcases hwhy with hne | hne | ⟨hdisabled, henabled, -⟩
    · exact hgrants (.inl hne)
    · exact hgrants (.inr hne)
    · exact absurd ⟨hdisabled, henabled⟩ hrequested

theorem tokenVersion_ne_of_bumpMembers {store : UserStore} {name : String}
    (hnodup : (store.users.map UserRecord.id).Nodup) (hlists : name ∈ user.groups)
    (hfind : store.findById id = some user)
    (hfind' : (store.bumpMembers name).findById id = some user') :
    user'.tokenVersion ≠ user.tokenVersion := by
  rw [UserStore.findById_bumpMembers hnodup, hfind, map_some, if_pos hlists, some_inj] at hfind'
  rw [← hfind']
  exact (tokenVersion_add_ne _).1

theorem tokenVersion_ne_of_bumpTokenVersion {store : UserStore}
    (hfind : store.findById id = some user)
    (hfind' : (store.bumpTokenVersion id).findById id = some user') :
    user'.tokenVersion ≠ user.tokenVersion := by
  rw [UserStore.findById_bumpTokenVersion, if_pos rfl, hfind, map_some, some_inj] at hfind'
  rw [← hfind']
  exact (tokenVersion_add_ne _).1

theorem tokenVersion_ne_of_revokes (hnodup : stores.userIds.Nodup)
    (hfind : stores.users.findById id = some user) (hrevokes : event.RevokesTokens id stores)
    (hfind' : (stores.afterEvent event).users.findById id = some user') :
    user'.tokenVersion ≠ user.tokenVersion := by
  cases event with
  | restart => exact absurd hrevokes (by simp [StoreEvent.RevokesTokens])
  | admin request =>
    obtain ⟨found, hfound, hrevokes⟩ := hrevokes
    obtain rfl : found = user := Option.some_inj.mp (hfound.symm.trans hfind)
    rw [afterEvent, afterRequest] at hfind'
    cases request with
    | logoutAll userId =>
      obtain rfl : userId = id := hrevokes
      exact tokenVersion_ne_of_bumpTokenVersion hfind hfind'
    | disableUser userId =>
      obtain ⟨rfl, stores', hdisable⟩ := hrevokes
      simp only [handle, hdisable, findById_disableUser hdisable, if_true, hfind,
        map_some, some_inj] at hfind'
      rw [← hfind']
      exact (tokenVersion_add_ne _).1
    | changePassword userId passwordHash =>
      obtain ⟨rfl, users, hupdate⟩ := hrevokes
      simp only [handle, applyPasswordChange, hfind, hupdate] at hfind'
      have hupdated : users.findById userId = some { found with passwordHash := passwordHash } := by
        rw [UserStore.findById_update hupdate, if_pos (UserStore.id_of_findById hfind).symm]
      have hmoved := tokenVersion_ne_of_bumpTokenVersion hupdated hfind'
      exact hmoved
    | putUser userId change =>
      obtain rfl : userId = id := hrevokes.1
      exact tokenVersion_ne_of_putUser hfind hrevokes hfind'
    | putGroup name texts =>
      obtain ⟨hlists, set, registry, hparse, hupsert, hchange⟩ := hrevokes
      simp only [handle, putGroup, hparse, hupsert] at hfind'
      rw [if_pos hchange] at hfind'
      exact tokenVersion_ne_of_bumpMembers hnodup hlists hfind hfind'
    | deleteGroup name =>
      obtain ⟨hlists, registry, hremove⟩ := hrevokes
      simp only [handle, deleteGroup, hremove] at hfind'
      exact tokenVersion_ne_of_bumpMembers hnodup hlists hfind hfind'
    | _ => exact absurd hrevokes (by simp [AdminRequest.RevokesTokens])

/-! ## Runs of the stores -/

/-- The user's counter can take the bumps of the event. -/
def HasRoom (id : String) (stores : AuthStores) (event : StoreEvent) : Prop :=
  ∀ user, stores.users.findById id = some user → user.tokenVersion.toNat + event.bumps < 2 ^ 32

instance (id : String) (stores : AuthStores) (event : StoreEvent) :
    Decidable (HasRoom id stores event) :=
  inferInstanceAs (Decidable (∀ user ∈ stores.users.findById id,
    user.tokenVersion.toNat + event.bumps < 2 ^ 32))

variable {before after : List StoreEvent}

theorem id_mem_drawnIds_of_findById (hfind : (afterEvents before).users.findById id = some user) :
    id ∈ drawnIds before := by
  refine (userIds_afterEvents before).subset ?_
  rw [← UserStore.id_of_findById hfind]
  exact List.mem_map_of_mem (UserStore.mem_of_findById hfind)

theorem tokenVersion_run (hids : (drawnIds (before ++ after)).Nodup)
    (hroom : EachStep afterEvent (HasRoom id) (afterEvents before) after)
    (hfind : (afterEvents before).users.findById id = some user)
    (hfind' : (afterEvents (before ++ after)).users.findById id = some user') :
    user.tokenVersion ≤ user'.tokenVersion ∧
      ((∃ earlier event later, after = earlier ++ event :: later ∧
          event.RevokesTokens id (afterEvents (before ++ earlier))) →
        user.tokenVersion < user'.tokenVersion) := by
  induction after generalizing before user with
  | nil =>
    rw [append_nil, hfind, some_inj] at hfind'
    refine ⟨by simp [hfind'], ?_⟩
    rintro ⟨earlier, event, later, hsplit, -⟩
    simp at hsplit
  | cons event after ih =>
    have hid := id_mem_drawnIds_of_findById hfind
    have hnodup := nodup_userIds_afterEvents hids
    have hdrawn := drawnId_ne hids hid
    have hcut : before ++ event :: after = (before ++ [event]) ++ after := by simp
    rw [hcut] at hids hfind'
    cases hnext : (afterEvents (before ++ [event])).users.findById id with
    | none =>
      -- a user that is gone is not there at the end
      have hid' : id ∈ drawnIds (before ++ [event]) := by
        rw [drawnIds_append]
        exact mem_append_left _ hid
      rw [findById_lost_run hids hid' hnext] at hfind'
      simp at hfind'
    | some next =>
      obtain ⟨hle, hlt⟩ := ih hids (by rw [afterEvents_concat]; exact hroom.2) hnext hfind'
      rw [afterEvents_concat] at hnext
      have hstep := (bumpedBy_afterEvent hnodup hdrawn hfind hnext).le (hroom.1 user hfind)
      refine ⟨UInt32.le_trans hstep hle, ?_⟩
      rintro ⟨earlier, revoking, later, hsplit, hrevokes⟩
      cases earlier with
      | nil =>
        -- the revoking event is this one
        cases hsplit
        rw [append_nil] at hrevokes
        have hne := tokenVersion_ne_of_revokes hnodup hfind hrevokes hnext
        exact UInt32.lt_of_lt_of_le (UInt32.lt_of_le_of_ne hstep (Ne.symm hne)) hle
      | cons first earlier =>
        cases hsplit
        refine UInt32.lt_of_le_of_lt hstep (hlt ⟨earlier, revoking, later, rfl, ?_⟩)
        rwa [append_assoc]

end AuthStores

/-! ## Password changes in flight -/

/-- The stores, and the users whose new passwords are being hashed. -/
structure AccountService where
  stores : AuthStores
  passwordChanges : List String

inductive AccountEvent where
  | admin (request : AdminRequest)
  | changePassword (userId : String)
  | passwordHashed (index : ℕ) (passwordHash : String)
  | restart
  deriving DecidableEq

def AccountEvent.drawnId : AccountEvent → Option String
  | .admin request => request.drawnId
  | _ => none

namespace AccountService

open AuthStores

def boot : AccountService := ⟨.initial, []⟩

/-- The start of a password change, by somebody who may make it. -/
def changePassword (service : AccountService) (userId : String) : AccountService :=
  if (service.stores.users.findById userId).isSome then
    { service with passwordChanges := service.passwordChanges ++ [userId] }
  else
    service

def passwordHashed (service : AccountService) (index : ℕ) (passwordHash : String) :
    AccountService :=
  match service.passwordChanges[index]? with
  | none => service
  | some userId =>
    { stores := (service.stores.applyPasswordChange userId passwordHash).1
      passwordChanges := service.passwordChanges.eraseIdx index }

def after (service : AccountService) : AccountEvent → AccountService
  | .admin request => { service with stores := service.stores.afterRequest request }
  | .changePassword userId => service.changePassword userId
  | .passwordHashed index passwordHash => service.passwordHashed index passwordHash
  | .restart => ⟨service.stores.restart, []⟩

/-- The service after a run since its first boot. -/
abbrev afterRun (events : List AccountEvent) : AccountService := events.foldl after boot

def storeEvent (service : AccountService) : AccountEvent → Option StoreEvent
  | .admin request => some (.admin request)
  | .changePassword _ => none
  | .passwordHashed index passwordHash =>
    service.passwordChanges[index]?.map fun userId => .admin (.changePassword userId passwordHash)
  | .restart => some .restart

def storeEvents : AccountService → List AccountEvent → List StoreEvent
  | _, [] => []
  | service, event :: events =>
    (service.storeEvent event).toList ++ storeEvents (service.after event) events

/-- The event is to make the outstanding tokens of the user stale. -/
def RevokesTokens (id : String) (service : AccountService) (event : AccountEvent) : Prop :=
  ∃ change, service.storeEvent event = some change ∧ change.RevokesTokens id service.stores

/-- The user's counter can take the bumps of the event. -/
def HasRoom (id : String) (service : AccountService) (event : AccountEvent) : Prop :=
  ∀ change, service.storeEvent event = some change → AuthStores.HasRoom id service.stores change

instance (id : String) (service : AccountService) (event : AccountEvent) :
    Decidable (HasRoom id service event) :=
  inferInstanceAs (Decidable (∀ change ∈ service.storeEvent event,
    AuthStores.HasRoom id service.stores change))

variable {service : AccountService} {event : AccountEvent} {events : List AccountEvent}
  {id : String}

section

variable (service : AccountService)

theorem stores_after (event : AccountEvent) :
    (service.after event).stores =
      (service.storeEvent event).toList.foldl afterEvent service.stores := by
  cases event with
  | admin request => rfl
  | changePassword userId =>
    simp only [after, changePassword]
    split <;> rfl
  | passwordHashed index passwordHash =>
    simp only [after, passwordHashed, storeEvent]
    cases service.passwordChanges[index]? <;> rfl
  | restart => rfl

theorem stores_run (events : List AccountEvent) :
    (events.foldl after service).stores =
      (storeEvents service events).foldl afterEvent service.stores := by
  induction events generalizing service with
  | nil => rfl
  | cons event events ih =>
    rw [foldl_cons, ih, stores_after, storeEvents, foldl_append]

theorem storeEvents_append (events later : List AccountEvent) :
    storeEvents service (events ++ later) =
      storeEvents service events ++ storeEvents (events.foldl after service) later := by
  induction events generalizing service with
  | nil => rfl
  | cons event events ih => simp [storeEvents, ih, append_assoc]

theorem drawnIds_storeEvents (events : List AccountEvent) :
    drawnIds (storeEvents service events) = events.filterMap AccountEvent.drawnId := by
  induction events generalizing service with
  | nil => rfl
  | cons event events ih =>
    have hevent : drawnIds (service.storeEvent event).toList = event.drawnId.toList := by
      cases event with
      | admin request => cases h : request.drawnId <;>
          simp [storeEvent, drawnIds, StoreEvent.drawnId, AccountEvent.drawnId, h]
      | changePassword userId => rfl
      | passwordHashed index passwordHash =>
        cases h : service.passwordChanges[index]? <;>
          simp [storeEvent, drawnIds, StoreEvent.drawnId, AdminRequest.drawnId,
            AccountEvent.drawnId, h]
      | restart => rfl
    rw [storeEvents, drawnIds_append, hevent, ih]
    cases h : event.drawnId <;> simp [h]

end

theorem hasRoom_storeEvents (h : EachStep after (HasRoom id) service events) :
    EachStep afterEvent (AuthStores.HasRoom id) service.stores (storeEvents service events) := by
  induction events generalizing service with
  | nil => trivial
  | cons event events ih =>
    have hrest := ih h.2
    rw [stores_after] at hrest
    rw [storeEvents, eachStep_append]
    refine ⟨?_, hrest⟩
    cases hchange : service.storeEvent event with
    | none => trivial
    | some change => exact ⟨h.1 change hchange, trivial⟩

/-- Over any stretch of a run, as long as the counter has room: the version of a user that
is still there does not go back; it goes up if the stretch has an event that is to revoke
the user's tokens; and a token from before the stretch that its end rejects for the
version is rejected ever after. -/
theorem token_versions_advance {before middle later : List AccountEvent} {user user' : UserRecord}
    (hids : ((before ++ middle ++ later).filterMap AccountEvent.drawnId).Nodup)
    (hroom : EachStep after (HasRoom id) (afterRun before) (middle ++ later))
    (hfind : (afterRun before).stores.users.findById id = some user)
    (hfind' : (afterRun (before ++ middle)).stores.users.findById id = some user') :
    user.tokenVersion ≤ user'.tokenVersion ∧
      ((∃ earlier event rest, middle = earlier ++ event :: rest ∧
          RevokesTokens id (afterRun (before ++ earlier)) event) →
        user.tokenVersion < user'.tokenVersion) ∧
      (user'.tokenVersion ≠ user.tokenVersion →
        ∀ snapshot : UserRecord, snapshot.id = id → ∀ codec codec' mintedAt now,
          (afterRun (before ++ middle ++ later)).stores.resolveJwt codec'
            ((afterRun before).stores.mintAccessToken codec snapshot mintedAt) now = none) := by
  -- the same run, as the stores see it
  have hstores : ∀ events, (afterRun events).stores = afterEvents (storeEvents boot events) :=
    fun events => stores_run boot events
  have hsplit : ∀ first second, storeEvents boot (first ++ second) =
      storeEvents boot first ++ storeEvents (afterRun first) second :=
    fun first second => storeEvents_append boot first second
  rw [eachStep_append] at hroom
  rw [← drawnIds_storeEvents boot, hsplit, hsplit] at hids
  have hroomMiddle := hasRoom_storeEvents hroom.1
  have hroomLater := hasRoom_storeEvents hroom.2
  rw [← foldl_append] at hroomLater
  rw [hstores] at hfind hroomMiddle
  rw [hstores, hsplit] at hfind' hroomLater
  have hidsMiddle : (drawnIds (storeEvents boot before ++
      storeEvents (afterRun before) middle)).Nodup := by
    rw [drawnIds_append] at hids
    exact hids.of_append_left
  obtain ⟨hle, hlt⟩ := tokenVersion_run hidsMiddle hroomMiddle hfind hfind'
  refine ⟨hle, ?_, ?_⟩
  · rintro ⟨earlier, event, rest, rfl, change, hchange, hrevokes⟩
    refine hlt ⟨storeEvents (afterRun before) earlier, change,
      storeEvents ((afterRun (before ++ earlier)).after event) rest, ?_, ?_⟩
    · rw [storeEvents_append, storeEvents, ← foldl_append, hchange]
      rfl
    · rwa [hstores, hsplit] at hrevokes
  · rintro hne snapshot hsnapshot codec codec' mintedAt now
    rw [eq_none_iff_forall_ne_some]
    intro subject hresolve
    rw [mintAccessToken, hsnapshot, hstores before, hfind, getD_some] at hresolve
    obtain ⟨last, hlast, hversion, -⟩ := resolveJwt_sign hresolve
    rw [UserStore.id_of_findById hfind, hstores, hsplit, hsplit] at hlast
    -- the version has gone up and stays up, so it is not the token's
    have hup := (tokenVersion_run hids hroomLater hfind' hlast).1
    rw [hversion] at hup
    exact hne (UInt32.le_antisymm hup hle)

/-! ### A small system -/

def owner : UserRecord :=
  { id := "user-1", username := "owner", passwordHash := "argon2id-owner",
    groups := [BuiltInGroups.administrators], directEntitlements := .empty }

def ownerRun : List AccountEvent := [.admin (.bootstrapAdmin "owner" "argon2id-owner" "user-1")]

def ownerCodec : JwtCodec := { keys := ⟨⟨"key-1", [0x2a]⟩, []⟩ }

def ownerToken : Token := (afterRun ownerRun).stores.mintAccessToken ownerCodec owner 0

def ownerChanges : List AccountEvent :=
  [.changePassword "user-1", .admin (.logoutAll "user-1"), .passwordHashed 0 "argon2id-terrace"]

theorem token_versions_advance_owner :
    owner.tokenVersion < (3 : UInt32) ∧
      (afterRun (ownerRun ++ ownerChanges ++ [.restart])).stores.resolveJwt ownerCodec ownerToken
        60 = none := by
  have hfind : (afterRun ownerRun).stores.users.findById "user-1" = some owner := by
    decide +kernel
  have hfind' : (afterRun (ownerRun ++ ownerChanges)).stores.users.findById "user-1" =
      some { owner with passwordHash := "argon2id-terrace", tokenVersion := 3 } := by
    decide +kernel
  have hroom : EachStep after (HasRoom "user-1") (afterRun ownerRun)
      (ownerChanges ++ [.restart]) := by decide +kernel
  obtain ⟨-, hlt, hstale⟩ := token_versions_advance (by decide +kernel) hroom hfind hfind'
  refine ⟨hlt ⟨[.changePassword "user-1"], .admin (.logoutAll "user-1"),
    [.passwordHashed 0 "argon2id-terrace"], rfl, .admin (.logoutAll "user-1"), rfl, ?_⟩, ?_⟩
  · exact ⟨owner, by decide +kernel, rfl⟩
  · exact hstale (by decide) owner rfl ownerCodec ownerCodec 0 60

/-- The owner logs out everywhere so many times. -/
def ownerLogouts (count : ℕ) : List AccountEvent :=
  ownerRun ++ replicate count (.admin (.logoutAll "user-1"))

theorem stores_ownerLogouts (count : ℕ) :
    (afterRun (ownerLogouts count)).stores =
      { AuthStores.initial with
        users := ⟨[{ owner with tokenVersion := 1 + UInt32.ofNat count }]⟩ } := by
  induction count with
  | zero => decide +kernel
  | succ count ih =>
    have hlast : (afterRun (ownerLogouts (count + 1))).stores =
        (afterRun (ownerLogouts count)).stores.logoutAll "user-1" := by
      rw [ownerLogouts, replicate_succ', ← append_assoc, ← ownerLogouts, afterRun, foldl_append]
      rfl
    rw [hlast, ih, UInt32.ofNat_add, ← UInt32.add_assoc]
    rfl

/-- With 2 ^ 32 logouts, the last of them takes the version from 0 back to 1, and the
owner's first token, which the first of them made stale, is accepted again. -/
theorem stale_token_accepted :
    ((afterRun (ownerLogouts (2 ^ 32 - 2))).stores.users.findById "user-1").map
        UserRecord.tokenVersion = some 4294967295 ∧
      ((afterRun (ownerLogouts (2 ^ 32 - 1))).stores.users.findById "user-1").map
        UserRecord.tokenVersion = some 0 ∧
      (afterRun (ownerLogouts 1)).stores.resolveJwt ownerCodec ownerToken 60 = none ∧
      ((afterRun (ownerLogouts (2 ^ 32))).stores.resolveJwt ownerCodec ownerToken 60).isSome =
        true := by
  rw [stores_ownerLogouts, stores_ownerLogouts, stores_ownerLogouts, stores_ownerLogouts]
  refine ⟨by decide +kernel, by decide +kernel, by decide +kernel, by decide +kernel⟩

end AccountService

end AqualinkAutomate.Auth
