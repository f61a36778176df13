import Aqualink.Auth.Entitlement
import Aqualink.General.FirstMatch

/-!
# The groups and the account stores

A group is a named set of entitlements, and people acquire entitlements through the
groups they list, on top of their direct grants.  Lookup is by name and a name that no
group has resolves to nothing.  The group `Everyone` applies to every subject, whether
or not it is listed.

`mem_resolveEffectiveEntitlements` is the meaning of group resolution: an entitlement
is effective if it is granted directly or held by a registered group that `AppliesTo`
the memberships.  `find_upsert` and `find_remove` say what an edit does to a lookup,
and nothing else about the registry is used afterwards.

`UserStore` holds the local user accounts, `KioskStore` the single kiosk PIN.  An
account's `tokenVersion` is the revocation counter: a bump makes every access token
minted before it stale.  It is 32 bits wide and wraps.

The store's lookups are by id.  `findById_modifyById` and `findById_remove` say what a
change to one record does to them, and every later statement about an operation of the
store goes through these two.
-/

namespace AqualinkAutomate.Auth

open List

namespace BuiltInGroups

def everyone : String := "Everyone"
def guest : String := "Guest"
def administrators : String := "Administrators"

/-- `IsBuiltInName` of the group store. -/
def isBuiltInName (name : String) : Bool :=
  name == everyone || name == guest || name == administrators

end BuiltInGroups

structure Group where
  name : String
  entitlements : EntitlementSet
  builtIn : Bool
  deriving DecidableEq

/-- The in-memory group collection, with one group for a name. -/
structure GroupRegistry where
  groups : List Group
  names_nodup : (groups.map Group.name).Nodup
  deriving DecidableEq

namespace GroupRegistry

def empty : GroupRegistry := ⟨[], nodup_nil⟩

/-- The registry's list after `Upsert`: the group replaces the one of its name, or
comes last. -/
def upsertList (group : Group) : List Group → List Group
  | [] => [group]
  | existing :: rest =>
    if existing.name = group.name then group :: rest else existing :: upsertList group rest

theorem mem_map_name_upsertList {group : Group} {groups : List Group} {name : String} :
    name ∈ (upsertList group groups).map Group.name ↔
      name = group.name ∨ name ∈ groups.map Group.name := by
  induction groups with
  | nil => simp [upsertList]
  | cons existing rest ih =>
    by_cases h : existing.name = group.name
    · simp [upsertList, h]
    · simp only [upsertList, h, if_false, map_cons, mem_cons, ih]
      tauto

theorem nodup_upsertList {group : Group} {groups : List Group}
    (h : (groups.map Group.name).Nodup) : ((upsertList group groups).map Group.name).Nodup := by
  induction groups with
  | nil => simp [upsertList]
  | cons existing rest ih =>
    rw [map_cons, nodup_cons] at h
    by_cases hname : existing.name = group.name
    · simpa [upsertList, hname] using ⟨by simpa [hname] using h.1, h.2⟩
    · simp only [upsertList, hname, if_false, map_cons, nodup_cons]
      refine ⟨?_, ih h.2⟩
      rw [mem_map_name_upsertList]
      rintro (heq | hmem)
      · exact hname heq
      · exact h.1 hmem

def upsert (registry : GroupRegistry) (group : Group) : GroupRegistry :=
  ⟨upsertList group registry.groups, nodup_upsertList registry.names_nodup⟩

def find (registry : GroupRegistry) (name : String) : Option Group :=
  registry.groups.find? fun group => group.name == name

def withBuiltIns : GroupRegistry :=
  let administrators := EntitlementSet.empty.add Vocabulary.systemAdminEntitlement
  ((empty.upsert ⟨BuiltInGroups.everyone, .empty, true⟩).upsert
    ⟨BuiltInGroups.guest, .empty, true⟩).upsert
      ⟨BuiltInGroups.administrators, administrators, true⟩

/-- One membership of `ResolveEffectiveEntitlements`. -/
def mergeMembership (registry : GroupRegistry) (effective : EntitlementSet)
    (membership : String) : EntitlementSet :=
  if membership = BuiltInGroups.everyone then
    effective -- already applied
  else
    match registry.find membership with
    | some group => effective.merge group.entitlements
    | none => effective

def resolveEffectiveEntitlements (registry : GroupRegistry) (direct : EntitlementSet)
    (memberships : List String) : EntitlementSet :=
  let effective :=
    match registry.find BuiltInGroups.everyone with
    | some group => direct.merge group.entitlements
    | none => direct
  memberships.foldl registry.mergeMembership effective

/-! ### Lookup after an edit -/

theorem find_upsert (registry : GroupRegistry) (group : Group) (name : String) :
    (registry.upsert group).find name =
      if name = group.name then some group else registry.find name := by
  obtain ⟨groups, hnodup⟩ := registry
  simp only [find, upsert]
  clear hnodup
  induction groups with
  | nil =>
    by_cases h : group.name = name
    · simp [upsertList, h]
    · simp [upsertList, h, Ne.symm h]
  | cons existing rest ih =>
    by_cases hsame : existing.name = group.name
    · by_cases h : group.name = name
      · simp [upsertList, hsame, h]
      · have hexisting : existing.name ≠ name := by rwa [hsame]
        simp [upsertList, hsame, h, Ne.symm h]
    · by_cases h : existing.name = name
      · have hname : name ≠ group.name := by rwa [← h]
        simp [upsertList, h, hname]
      · simp [upsertList, hsame, h, ih]

variable {registry : GroupRegistry}

theorem find_eq_none_iff {name : String} :
    registry.find name = none ↔ ∀ group ∈ registry.groups, group.name ≠ name := by
  simp [find]

/-! ### What resolution gives -/

def AppliesTo (name : String) (memberships : List String) : Prop :=
  name = BuiltInGroups.everyone ∨ name ∈ memberships

instance (name : String) (memberships : List String) : Decidable (AppliesTo name memberships) :=
  inferInstanceAs (Decidable (_ ∨ _))

def Holds (registry : GroupRegistry) (name : String) (entitlement : Entitlement) : Prop :=
  ∃ group, registry.find name = some group ∧ entitlement ∈ group.entitlements

variable {entitlement : Entitlement} {effective : EntitlementSet}

theorem mem_mergeMembership {membership : String} :
    entitlement ∈ registry.mergeMembership effective membership ↔
      entitlement ∈ effective ∨
        membership ≠ BuiltInGroups.everyone ∧ registry.Holds membership entitlement := by
  by_cases h : membership = BuiltInGroups.everyone
  · simp [mergeMembership, h]
  · cases hfind : registry.find membership <;> simp [mergeMembership, Holds, h, hfind]

variable {memberships : List String}

theorem mem_foldl_mergeMembership :
    entitlement ∈ memberships.foldl registry.mergeMembership effective ↔
      entitlement ∈ effective ∨
        ∃ name ∈ memberships, name ≠ BuiltInGroups.everyone ∧ registry.Holds name entitlement := by
  induction memberships generalizing effective with
  | nil => simp
  | cons membership memberships ih =>
    rw [foldl_cons, ih, mem_mergeMembership]
    simp only [mem_cons, exists_eq_or_imp, or_assoc]

theorem mem_resolveEffectiveEntitlements {direct : EntitlementSet} :
    entitlement ∈ registry.resolveEffectiveEntitlements direct memberships ↔
      entitlement ∈ direct ∨
        ∃ name, AppliesTo name memberships ∧ registry.Holds name entitlement := by
  have hbase : entitlement ∈ (match registry.find BuiltInGroups.everyone with
      | some group => direct.merge group.entitlements
      | none => direct) ↔
      entitlement ∈ direct ∨ registry.Holds BuiltInGroups.everyone entitlement := by
    cases hfind : registry.find BuiltInGroups.everyone <;> simp [Holds, hfind]
  rw [resolveEffectiveEntitlements, mem_foldl_mergeMembership, hbase]
  constructor
  · rintro ((hdirect | heveryone) | ⟨name, hmem, -, hholds⟩)
    · exact .inl hdirect
    · exact .inr ⟨_, .inl rfl, heveryone⟩
    · exact .inr ⟨name, .inr hmem, hholds⟩
  · rintro (hdirect | ⟨name, happlies, hholds⟩)
    · exact .inl (.inl hdirect)
    · by_cases hname : name = BuiltInGroups.everyone
      · subst hname
        exact .inl (.inr hholds)
      · exact .inr ⟨name, happlies.resolve_left hname, hname, hholds⟩

end GroupRegistry

/-! ## The group store -/

namespace GroupStore

/-- Create or replace a group. -/
def upsert (registry : GroupRegistry) (group : Group) : Except String GroupRegistry :=
  if group.name = "" then
    .error "Group name is required"
  else
    .ok (registry.upsert { group with builtIn := BuiltInGroups.isBuiltInName group.name })

/-- The rebuild of `Remove`: every group but those of the name. -/
def rebuildWithout (registry : GroupRegistry) (name : String) : GroupRegistry :=
  (registry.groups.filter fun group => group.name != name).foldl GroupRegistry.upsert .empty

def remove (registry : GroupRegistry) (name : String) : Except String GroupRegistry :=
  if BuiltInGroups.isBuiltInName name then
    .error "Built-in groups cannot be removed"
  else if (registry.find name).isNone then
    .error "Group not found"
  else
    .ok (rebuildWithout registry name)

theorem find_foldl_upsert {groups : List Group} (hnodup : (groups.map Group.name).Nodup)
    (registry : GroupRegistry) (name : String) :
    (groups.foldl GroupRegistry.upsert registry).find name =
      ((groups.find? fun group => group.name == name).or (registry.find name)) := by
  induction groups generalizing registry with
  | nil => simp
  | cons group groups ih =>
    rw [map_cons, nodup_cons] at hnodup
    rw [foldl_cons, ih hnodup.2, GroupRegistry.find_upsert, find?_cons]
    by_cases h : name = group.name
    · -- no later group has the name, so the lookup passes to the one just put in
      have hlater : (groups.find? fun later => later.name == name) = none := by
        rw [find?_eq_none]
        intro later hlater
        simp only [beq_iff_eq]
        intro heq
        exact hnodup.1 (List.mem_map.mpr ⟨later, hlater, heq.trans h⟩)
      subst h
      simp [hlater]
    · have hne : (group.name == name) = false := by simpa using Ne.symm h
      simp [h, hne]

theorem find_rebuildWithout (registry : GroupRegistry) (removed name : String) :
    (rebuildWithout registry removed).find name =
      if name = removed then none else registry.find name := by
  have hsublist : ((registry.groups.filter fun group => group.name != removed).map
      Group.name).Nodup :=
    registry.names_nodup.sublist (List.filter_sublist.map _)
  rw [rebuildWithout, find_foldl_upsert hsublist]
  by_cases h : name = removed
  · subst h
    simp [GroupRegistry.empty, GroupRegistry.find]
  · have hkept : ((registry.groups.filter fun group => group.name != removed).find?
        fun group => group.name == name) =
          registry.groups.find? fun group => group.name == name := by
      rw [find?_filter]
      congr 1
      funext group
      by_cases hname : group.name = name <;> simp [hname, h]
    simp [hkept, h, GroupRegistry.empty, GroupRegistry.find]

section

variable {registry registry' : GroupRegistry}

theorem upsert_eq_ok {group : Group} (h : upsert registry group = .ok registry') :
    group.name ≠ "" ∧
      registry' =
        registry.upsert { group with builtIn := BuiltInGroups.isBuiltInName group.name } := by
  rw [upsert] at h
  split at h
  · simp at h
  · next hname => exact ⟨hname, (Except.ok.inj h).symm⟩

theorem find_remove {removed : String} (h : remove registry removed = .ok registry')
    (name : String) :
    registry'.find name = if name = removed then none else registry.find name := by
  rw [remove] at h
  split at h
  · simp at h
  · split at h
    · simp at h
    · cases h
      exact find_rebuildWithout registry removed name

theorem ne_everyone_of_remove {removed : String} (h : remove registry removed = .ok registry') :
    removed ≠ BuiltInGroups.everyone := by
  rintro rfl
  rw [remove, if_pos (by decide)] at h
  simp at h

end

end GroupStore

/-! ## The account stores -/

open General

structure UserRecord where
  id : String := ""
  username : String
  passwordHash : String
  groups : List String
  directEntitlements : EntitlementSet
  tokenVersion : UInt32 := 1
  disabled : Bool := false
  deriving DecidableEq

/-- The lowercase form of a user name, over the ASCII letters. -/
def lowercase (username : String) : String :=
  String.ofList (username.toList.map Char.toLower)

def usernameEquals (lhs rhs : String) : Bool := lowercase lhs == lowercase rhs

namespace UserRecord

def effectiveEntitlements (user : UserRecord) (registry : GroupRegistry) : EntitlementSet :=
  registry.resolveEffectiveEntitlements user.directEntitlements user.groups

def resolvesSystemAdmin (user : UserRecord) (registry : GroupRegistry) : Bool :=
  (user.effectiveEntitlements registry).permits Vocabulary.systemAdmin ""

def isEnabledAdmin (user : UserRecord) (registry : GroupRegistry) : Bool :=
  !user.disabled && user.resolvesSystemAdmin registry

end UserRecord

structure UserStore where
  users : List UserRecord
  deriving DecidableEq

namespace UserStore

def empty : UserStore := ⟨[]⟩

def findById (store : UserStore) (id : String) : Option UserRecord :=
  store.users.find? fun user => user.id == id

def findByUsername (store : UserStore) (username : String) : Option UserRecord :=
  store.users.find? fun user => usernameEquals user.username username

def hasEnabledAdmin (store : UserStore) (registry : GroupRegistry) : Bool :=
  store.users.any fun user => user.isEnabledAdmin registry

/-- The number of enabled admins as it would be if the record of an id were replaced,
or removed when there is no replacement. -/
def adminsAfter (store : UserStore) (id : String) (replacement : Option UserRecord)
    (registry : GroupRegistry) : ℕ :=
  store.users.countP fun user =>
    match if user.id == id then replacement else some user with
    | some effective => effective.isEnabledAdmin registry
    | none => false

def wouldLoseLastAdmin (store : UserStore) (id : String) (replacement : Option UserRecord)
    (registry : GroupRegistry) : Bool :=
  store.hasEnabledAdmin registry && store.adminsAfter id replacement registry == 0

def modifyById (store : UserStore) (id : String) (change : UserRecord → UserRecord) : UserStore :=
  ⟨modifyFirst (fun user => user.id == id) change store.users⟩

/-- Create a user.  `freshId` is the UUID drawn when the record has no id yet. -/
def create (store : UserStore) (user : UserRecord) (freshId : String) : Except String UserStore :=
  if user.username = "" ∨ user.passwordHash = "" then
    .error "Username and password are required"
  else if (store.findByUsername user.username).isSome then
    .error "Username already exists"
  else
    .ok ⟨store.users ++ [{ user with id := if user.id = "" then freshId else user.id }]⟩

def lastAdminError : String :=
  "Refused: this change would remove the last enabled administrator"

/-- Replace the record with the id of `user`. -/
def update (store : UserStore) (user : UserRecord) (registry : GroupRegistry) :
    Except String UserStore :=
  if (store.findById user.id).isNone then
    .error "User not found"
  else if (store.findByUsername user.username).any (fun duplicate => duplicate.id != user.id) then
    .error "Username already exists"
  else if store.wouldLoseLastAdmin user.id (some user) registry then
    .error lastAdminError
  else
    .ok (store.modifyById user.id fun _ => user)

def remove (store : UserStore) (id : String) (registry : GroupRegistry) :
    Except String UserStore :=
  if (store.findById id).isNone then
    .error "User not found"
  else if store.wouldLoseLastAdmin id none registry then
    .error lastAdminError
  else
    .ok ⟨store.users.eraseP fun user => user.id == id⟩

def bumpTokenVersion (store : UserStore) (id : String) : UserStore :=
  store.modifyById id fun user => { user with tokenVersion := user.tokenVersion + 1 }

/-! ### Lookup by id -/

section

variable {store : UserStore} {id : String}

theorem id_of_findById {user : UserRecord} (h : store.findById id = some user) : user.id = id := by
  simpa using find?_some h

theorem mem_of_findById {user : UserRecord} (h : store.findById id = some user) :
    user ∈ store.users :=
  mem_of_find?_eq_some h

theorem findById_eq_none_iff : store.findById id = none ↔ ∀ user ∈ store.users, user.id ≠ id := by
  simp [findById]

theorem findById_modifyById {change : UserRecord → UserRecord}
    (hchange : ∀ user, user.id = id → (change user).id = id) (other : String) :
    (store.modifyById id change).findById other =
      if other = id then (store.findById id).map change else store.findById other := by
  by_cases h : other = id
  · subst h
    rw [if_pos rfl]
    exact find?_modifyFirst (by simpa using hchange)
  · rw [if_neg h]
    refine find?_modifyFirst_of_disjoint ?_
    intro user huser
    rw [beq_iff_eq] at huser
    simp only [beq_eq_false_iff_ne, huser, hchange user huser]
    exact ⟨Ne.symm h, Ne.symm h⟩

end

theorem findById_bumpTokenVersion (store : UserStore) (id other : String) :
    (store.bumpTokenVersion id).findById other =
      if other = id then
        (store.findById id).map fun user => { user with tokenVersion := user.tokenVersion + 1 }
      else store.findById other :=
  findById_modifyById (by simp) other

variable {store store' : UserStore} {id : String}

theorem ids_modifyById {change : UserRecord → UserRecord}
    (hchange : ∀ user, user.id = id → (change user).id = id) :
    (store.modifyById id change).users.map UserRecord.id = store.users.map UserRecord.id := by
  refine map_modifyFirst ?_
  intro user huser
  rw [beq_iff_eq] at huser
  rw [hchange user huser, huser]

variable {user : UserRecord}

theorem findById_of_mem (hnodup : (store.users.map UserRecord.id).Nodup)
    (hmem : user ∈ store.users) : store.findById user.id = some user := by
  cases hfind : store.findById user.id with
  | none => exact absurd rfl (findById_eq_none_iff.mp hfind user hmem)
  | some found =>
    have hid := id_of_findById hfind
    rw [inj_on_of_nodup_map hnodup (mem_of_findById hfind) hmem hid]

theorem findById_foldl_bumpTokenVersion {members : List UserRecord}
    (hnodup : (members.map UserRecord.id).Nodup) (store : UserStore) (id : String) :
    (members.foldl (fun store user => store.bumpTokenVersion user.id) store).findById id =
      if id ∈ members.map UserRecord.id then
        (store.findById id).map fun user => { user with tokenVersion := user.tokenVersion + 1 }
      else store.findById id := by
  induction members generalizing store with
  | nil => simp
  | cons member members ih =>
    rw [map_cons, nodup_cons] at hnodup
    rw [foldl_cons, ih hnodup.2, findById_bumpTokenVersion]
    by_cases hid : id = member.id
    · subst hid
      simp [hnodup.1]
    · simp [hid]

/-! ### What the accepted operations do -/

section

theorem create_eq_ok {freshId : String} (h : store.create user freshId = .ok store') :
    store'.users =
      store.users ++ [{ user with id := if user.id = "" then freshId else user.id }] := by
  rw [create] at h
  split at h
  · simp at h
  · split at h
    · simp at h
    · rw [← Except.ok.inj h]

variable {registry : GroupRegistry}

theorem update_eq_ok (h : store.update user registry = .ok store') :
    store.wouldLoseLastAdmin user.id (some user) registry = false ∧
      (∃ found, store.findById user.id = some found) ∧
        store' = store.modifyById user.id fun _ => user := by
  rw [update] at h
  split at h
  · simp at h
  · next hfound =>
      split at h
      · simp at h
      · split at h
        · simp at h
        · next hguard =>
            refine ⟨by simpa using hguard, ?_, (Except.ok.inj h).symm⟩
            rwa [Option.isNone_iff_eq_none, ← ne_eq, Option.ne_none_iff_exists'] at hfound

theorem remove_eq_ok (h : store.remove id registry = .ok store') :
    store.wouldLoseLastAdmin id none registry = false ∧
      store'.users = store.users.eraseP fun user => user.id == id := by
  rw [remove] at h
  split at h
  · simp at h
  · split at h
    · simp at h
    · next hguard => exact ⟨by simpa using hguard, by rw [← Except.ok.inj h]⟩

theorem findById_remove {removed : String} (hnodup : (store.users.map UserRecord.id).Nodup)
    (h : store.remove removed registry = .ok store') (id : String) :
    store'.findById id = if id = removed then none else store.findById id := by
  obtain ⟨-, husers⟩ := remove_eq_ok h
  rw [findById, husers]
  cases hfind : store.users.find? fun user => user.id == removed with
  | none =>
    rw [eraseP_of_forall_not (by simpa using hfind)]
    split
    · next hid => rw [hid, hfind]
    · rfl
  | some user =>
    obtain ⟨left, right, hsplit, -, herase⟩ := exists_append_of_find? hfind
    have huser : user.id = removed := by simpa using find?_some hfind
    rw [herase, findById, hsplit]
    rw [hsplit, map_append, map_cons, nodup_middle, nodup_cons] at hnodup
    split
    next hid =>
      rw [find?_eq_none]
      intro other hother
      simp only [beq_iff_eq, hid, ← huser]
      intro heq
      exact hnodup.1 (heq ▸ by simpa using mem_map_of_mem (f := UserRecord.id) hother)
    next hid =>
      have hne : (user.id == id) = false := by simpa [huser] using Ne.symm hid
      simp [find?_append, hne]

theorem findById_create {freshId : String} (hid : user.id = "")
    (h : store.create user freshId = .ok store') (hne : id ≠ freshId) :
    store'.findById id = store.findById id := by
  have hlast : (freshId == id) = false := by simpa using Ne.symm hne
  rw [findById, create_eq_ok h, find?_append]
  simp [hid, hlast, findById]

theorem findById_update (h : store.update user registry = .ok store') (id : String) :
    store'.findById id = if id = user.id then some user else store.findById id := by
  obtain ⟨-, ⟨found, hfound⟩, rfl⟩ := update_eq_ok h
  rw [findById_modifyById (by simp) id, hfound]
  rfl

end

/-! ### The last administrator -/

variable {registry : GroupRegistry}

theorem hasEnabledAdmin_iff :
    store.hasEnabledAdmin registry ↔
      ∃ user ∈ store.users, user.isEnabledAdmin registry := by
  simp [hasEnabledAdmin]

theorem adminsAfter_pos {replacement : Option UserRecord}
    (hadmin : store.hasEnabledAdmin registry)
    (hguard : store.wouldLoseLastAdmin id replacement registry = false) :
    (∃ user ∈ store.users, user.id ≠ id ∧ user.isEnabledAdmin registry) ∨
      ∃ user, replacement = some user ∧ user.isEnabledAdmin registry := by
  have hpos : store.adminsAfter id replacement registry ≠ 0 := by
    simpa [wouldLoseLastAdmin, hadmin] using hguard
  obtain ⟨user, hmem, hcounted⟩ := List.countP_pos_iff.mp (Nat.pos_of_ne_zero hpos)
  by_cases hid : user.id = id
  · right
    cases replacement with
    | none => simp [hid] at hcounted
    | some effective => exact ⟨effective, rfl, by simpa [hid] using hcounted⟩
  · exact .inl ⟨user, hmem, hid, by simpa [hid] using hcounted⟩

theorem hasEnabledAdmin_update (hadmin : store.hasEnabledAdmin registry)
    (h : store.update user registry = .ok store') : store'.hasEnabledAdmin registry := by
  obtain ⟨hguard, ⟨found, hfound⟩, rfl⟩ := update_eq_ok h
  rw [hasEnabledAdmin_iff]
  rcases adminsAfter_pos hadmin hguard with ⟨other, hmem, hid, hother⟩ | ⟨_, heq, huser⟩
  · exact ⟨other, mem_modifyFirst_of_mem hmem (by simpa using hid), hother⟩
  · cases heq
    exact ⟨user, mem_modifyFirst_of_find? hfound, huser⟩

theorem hasEnabledAdmin_remove (hadmin : store.hasEnabledAdmin registry)
    (h : store.remove id registry = .ok store') : store'.hasEnabledAdmin registry := by
  obtain ⟨hguard, husers⟩ := remove_eq_ok h
  rw [hasEnabledAdmin_iff, husers]
  rcases adminsAfter_pos hadmin hguard with ⟨user, hmem, hid, huser⟩ | ⟨_, heq, -⟩
  · exact ⟨user, (mem_eraseP_of_neg (by simpa using hid)).mpr hmem, huser⟩
  · simp at heq

theorem hasEnabledAdmin_create {freshId : String} (hadmin : store.hasEnabledAdmin registry)
    (h : store.create user freshId = .ok store') : store'.hasEnabledAdmin registry := by
  rw [hasEnabledAdmin_iff] at hadmin ⊢
  obtain ⟨admin, hmem, hadmin⟩ := hadmin
  rw [create_eq_ok h]
  exact ⟨admin, mem_append_left _ hmem, hadmin⟩

theorem hasEnabledAdmin_bumpTokenVersion (store : UserStore) (id : String)
    (registry : GroupRegistry) :
    (store.bumpTokenVersion id).hasEnabledAdmin registry = store.hasEnabledAdmin registry := by
  have hmap := map_modifyFirst (l := store.users) (p := fun user => user.id == id)
    (f := fun user => { user with tokenVersion := user.tokenVersion + 1 })
    (g := fun user => user.isEnabledAdmin registry) (fun _ _ => rfl)
  have hany := congrArg (fun flags => flags.any fun flag => flag) hmap
  simpa [hasEnabledAdmin, bumpTokenVersion, modifyById, any_map, Function.comp_def] using hany

end UserStore

/-! ## The kiosk PIN -/

structure KioskStore where
  enabled : Bool := false
  pinHash : String := ""
  targetGroup : String := ""
  tokenVersion : UInt32 := 1
  deriving DecidableEq

namespace KioskStore

def configure (store : KioskStore) (pinHash targetGroup : String) : KioskStore where
  enabled := true
  pinHash := pinHash
  targetGroup := targetGroup
  tokenVersion := store.tokenVersion + 1

def disable (store : KioskStore) : KioskStore where
  enabled := false
  pinHash := ""
  targetGroup := ""
  tokenVersion := store.tokenVersion + 1

end KioskStore

end AqualinkAutomate.Auth
