import Mathlib.Data.List.Induction
import Aqualink.Auth.AccessToken

/-!
# Propagation of edits to access tokens

A token embeds the entitlements that its user had when it was minted, so an edit of the
user or of a group must make the tokens of everybody concerned stale.  This file follows
one user from the minting of a token through the administration of the system to a
request that carries the token.

* Along the run the user's record either disappears for good (`findById_lost_run`) or
  keeps its effective entitlements as long as its token version does not move
  (`findById_kept_run`).
* The group Everyone applies to all users, but an edit of it bumps those only that list
  it.  `EveryoneEditSafe` says of such an edit that it makes no difference to the user.
* The version is 32 bits wide, so `counterAdvances` counts how far it moved.

Restarts are part of a run: they keep the tokens valid, and pass the stores through
their files.
-/

namespace AqualinkAutomate.Auth

open General List Option

/-- Two sets with the same entitlements, whatever their order. -/
def EntitlementSet.SameGrants (set other : EntitlementSet) : Prop :=
  ∀ entitlement, entitlement ∈ set ↔ entitlement ∈ other

/-! ## Restarts -/

/-- The record as it is read back from the file. -/
def UserRecord.reloaded (user : UserRecord) : UserRecord :=
  { user with directEntitlements := .parse user.directEntitlements.toStrings }

namespace GroupStore

/-- The groups as they are written to the file. -/
def save (registry : GroupRegistry) : List (String × List String) :=
  registry.groups.map fun group => (group.name, group.entitlements.toStrings)

def loadEntry (registry : GroupRegistry) (entry : String × List String) : GroupRegistry :=
  if entry.1 = "" then
    registry
  else
    registry.upsert ⟨entry.1, .parse entry.2, BuiltInGroups.isBuiltInName entry.1⟩

/-- The file's groups override the built-in ones that are there from the start. -/
def load (file : List (String × List String)) : GroupRegistry :=
  file.foldl loadEntry .withBuiltIns

structure Seeded (registry : GroupRegistry) : Prop where
  built_ins : ∀ name, BuiltInGroups.isBuiltInName name → registry.find name ≠ none
  named : registry.find "" = none

theorem seeded_withBuiltIns : Seeded .withBuiltIns where
  built_ins := by
    intro name hname
    simp only [BuiltInGroups.isBuiltInName, Bool.or_eq_true, beq_iff_eq] at hname
    rcases hname with (rfl | rfl) | rfl <;> decide
  named := by decide

theorem find_withBuiltIns {name : String} (h : BuiltInGroups.isBuiltInName name = false) :
    GroupRegistry.withBuiltIns.find name = none := by
  simp only [BuiltInGroups.isBuiltInName, Bool.or_eq_false_iff, beq_eq_false_iff_ne] at h
  obtain ⟨⟨heveryone, hguest⟩, hadministrators⟩ := h
  simp only [GroupRegistry.withBuiltIns, GroupRegistry.find_upsert, heveryone, hguest,
    hadministrators, if_false]
  rfl

variable {registry registry' : GroupRegistry}

theorem Seeded.upsert {group : Group} (h : Seeded registry)
    (hok : upsert registry group = .ok registry') : Seeded registry' := by
  obtain ⟨hname, rfl⟩ := upsert_eq_ok hok
  constructor
  · intro name hbuiltIn
    rw [GroupRegistry.find_upsert]
    split
    · simp
    · exact h.built_ins name hbuiltIn
  · rw [GroupRegistry.find_upsert, if_neg (Ne.symm hname)]
    exact h.named

theorem Seeded.remove {removed : String} (h : Seeded registry)
    (hok : remove registry removed = .ok registry') : Seeded registry' := by
  have hremoved : BuiltInGroups.isBuiltInName removed = false := by
    rw [← Bool.not_eq_true]
    intro htrue
    simp [GroupStore.remove, htrue] at hok
  constructor
  · intro name hbuiltIn
    have hne : name ≠ removed := by
      rintro rfl
      simp [hremoved] at hbuiltIn
    rw [find_remove hok, if_neg hne]
    exact h.built_ins name hbuiltIn
  · rw [find_remove hok]
    split
    · rfl
    · exact h.named

/-- A group as it comes back from the file. -/
def reloadedGroup (group : Group) : Group :=
  ⟨group.name, .parse group.entitlements.toStrings, BuiltInGroups.isBuiltInName group.name⟩

section

variable (h : Seeded registry)

include h

theorem load_save :
    load (save registry) =
      (registry.groups.map reloadedGroup).foldl GroupRegistry.upsert .withBuiltIns := by
  have hnamed : ∀ group ∈ registry.groups, group.name ≠ "" :=
    GroupRegistry.find_eq_none_iff.mp h.named
  rw [load, save, foldl_map, foldl_map]
  refine foldl_ext _ _ _ ?_
  intro loaded group hgroup
  simp [loadEntry, hnamed group hgroup, reloadedGroup]

theorem find_load_save (name : String) :
    (load (save registry)).find name = (registry.find name).map reloadedGroup := by
  have hnodup : ((registry.groups.map reloadedGroup).map Group.name).Nodup := by
    simpa [reloadedGroup, Function.comp_def] using registry.names_nodup
  rw [load_save h, find_foldl_upsert hnodup, find?_map]
  cases hfind : registry.groups.find? ((fun group => group.name == name) ∘ reloadedGroup) with
  | some group =>
    have hfind' : registry.find name = some group := hfind
    simp [hfind']
  | none =>
    have hfind' : registry.find name = none := hfind
    have hbuiltIn : BuiltInGroups.isBuiltInName name = false := by
      rw [← Bool.not_eq_true]
      exact fun htrue => h.built_ins name htrue hfind'
    simp [hfind', find_withBuiltIns hbuiltIn]

theorem holds_load_save (name : String) (entitlement : Entitlement) :
    (load (save registry)).Holds name entitlement ↔ registry.Holds name entitlement := by
  rw [GroupRegistry.Holds, GroupRegistry.Holds, find_load_save h]
  cases registry.find name <;> simp [reloadedGroup]

end

end GroupStore

namespace AuthStores

def restart (stores : AuthStores) : AuthStores where
  users := ⟨stores.users.users.map UserRecord.reloaded⟩
  registry := GroupStore.load (GroupStore.save stores.registry)
  sessions := .load stores.sessions.file
  kiosk := stores.kiosk

end AuthStores

/-- What happens to the stores of the system. -/
inductive StoreEvent where
  | admin (request : AdminRequest)
  | restart
  deriving DecidableEq

def StoreEvent.drawnId : StoreEvent → Option String
  | .admin request => request.drawnId
  | .restart => none

namespace AuthStores

variable {stores : AuthStores} {event : StoreEvent} {id : String}
  {before after events : List StoreEvent}

def afterEvent (stores : AuthStores) : StoreEvent → AuthStores
  | .admin request => stores.afterRequest request
  | .restart => stores.restart

/-- The stores of a system that has run since its first boot. -/
abbrev afterEvents (events : List StoreEvent) : AuthStores := events.foldl afterEvent initial

/-- The ids drawn for users in a run. -/
def drawnIds (events : List StoreEvent) : List String := events.filterMap StoreEvent.drawnId

theorem afterEvents_concat (events : List StoreEvent) (event : StoreEvent) :
    afterEvents (events ++ [event]) = (afterEvents events).afterEvent event := by
  simp [afterEvents, foldl_append]

theorem userIds_afterEvent (stores : AuthStores) (event : StoreEvent) :
    (stores.afterEvent event).userIds.Sublist (stores.userIds ++ event.drawnId.toList) := by
  cases event with
  | admin request => exact userIds_afterRequest stores request
  | restart =>
    have hids : stores.restart.userIds = stores.userIds := by
      simp [restart, userIds, UserRecord.reloaded, Function.comp_def]
    simp [afterEvent, hids]

theorem userIds_afterEvents (events : List StoreEvent) :
    (afterEvents events).userIds.Sublist (drawnIds events) := by
  induction events using reverseRecOn with
  | nil => exact List.Sublist.refl _
  | append_singleton before event ih =>
    have hdrawn : drawnIds (before ++ [event]) = drawnIds before ++ event.drawnId.toList := by
      cases h : event.drawnId <;> simp [drawnIds, h]
    rw [afterEvents_concat, hdrawn]
    exact (userIds_afterEvent _ event).trans (ih.append_right _)

theorem seeded_afterEvents (events : List StoreEvent) :
    GroupStore.Seeded (afterEvents events).registry := by
  refine foldl_of_step (Q := fun stores : AuthStores => GroupStore.Seeded stores.registry) ?_
    GroupStore.seeded_withBuiltIns
  intro stores event h
  cases event with
  | restart =>
    constructor
    · intro name hbuiltIn
      rw [afterEvent, restart, GroupStore.find_load_save h, ne_eq, map_eq_none_iff]
      exact h.built_ins name hbuiltIn
    · rw [afterEvent, restart, GroupStore.find_load_save h, h.named]
      rfl
  | admin request =>
    by_cases huser : IsUserRequest request
    · rwa [afterEvent, registry_afterRequest huser]
    · cases request with
      | putGroup name entitlements =>
        simp only [afterEvent, afterRequest, handle, putGroup]
        split
        · exact h
        · split
          · exact h
          · next hok => exact h.upsert hok
      | deleteGroup name =>
        simp only [afterEvent, afterRequest, handle, deleteGroup]
        split
        · exact h
        · next hok => exact h.remove hok
      | _ => exact absurd trivial huser

/-! ## One event -/

variable {registry registry' : GroupRegistry} {user : UserRecord} {entitlement : Entitlement}

theorem mem_effectiveEntitlements :
    entitlement ∈ user.effectiveEntitlements registry ↔
      entitlement ∈ user.directEntitlements ∨
        ∃ name, GroupRegistry.AppliesTo name user.groups ∧ registry.Holds name entitlement :=
  GroupRegistry.mem_resolveEffectiveEntitlements

theorem sameGrants_of_holds
    (h : ∀ name, GroupRegistry.AppliesTo name user.groups →
      ∀ entitlement, registry'.Holds name entitlement ↔ registry.Holds name entitlement) :
    (user.effectiveEntitlements registry').SameGrants (user.effectiveEntitlements registry) := by
  intro entitlement
  rw [mem_effectiveEntitlements, mem_effectiveEntitlements]
  exact or_congr_right (exists_congr fun name => and_congr_right fun happlies =>
    h name happlies entitlement)

/-- An edit of Everyone makes no difference to the user of the id: the user lists the
group, or has whatever the edit gives or takes from elsewhere. -/
def EveryoneEditSafe (id : String) (stores : AuthStores) : StoreEvent → Prop
  | .admin (.putGroup name texts) => name = BuiltInGroups.everyone →
      ∀ set, parseEntitlementsField texts = .ok set →
      ∀ user, stores.users.findById id = some user → name ∉ user.groups →
      ∀ entitlement, (entitlement ∈ set ↔ stores.registry.Holds name entitlement) ∨
        entitlement ∈ user.directEntitlements ∨
          ∃ other ∈ user.groups, stores.registry.Holds other entitlement
  | _ => True

theorem holds_upsert {group : Group} {name : String} :
    (registry.upsert group).Holds name entitlement ↔
      if name = group.name then entitlement ∈ group.entitlements
      else registry.Holds name entitlement := by
  rw [GroupRegistry.Holds, GroupRegistry.find_upsert]
  split
  · simp
  · rfl

theorem sameGrants_of_not_appliesTo {name : String}
    (happlies : ¬ GroupRegistry.AppliesTo name user.groups)
    (h : ∀ other, other ≠ name → registry'.find other = registry.find other) :
    (user.effectiveEntitlements registry').SameGrants (user.effectiveEntitlements registry) := by
  refine sameGrants_of_holds fun other hother entitlement => ?_
  have hne : other ≠ name := by
    rintro rfl
    exact happlies hother
  rw [GroupRegistry.Holds, GroupRegistry.Holds, h other hne]

theorem sameGrants_upsert_of_covered {group : Group}
    (h : ∀ entitlement, (entitlement ∈ group.entitlements ↔ registry.Holds group.name entitlement) ∨
      entitlement ∈ user.directEntitlements ∨ ∃ other ∈ user.groups, other ≠ group.name ∧
      registry.Holds other entitlement) :
    (user.effectiveEntitlements (registry.upsert group)).SameGrants
      (user.effectiveEntitlements registry) := by
  intro entitlement
  rw [mem_effectiveEntitlements, mem_effectiveEntitlements]
  simp only [holds_upsert]
  rcases h entitlement with hsame | hdirect | ⟨other, hother, hne, hholds⟩
  · refine or_congr_right (exists_congr fun other => and_congr_right fun _ => ?_)
    split
    · next hother => rw [hother, hsame]
    · rfl
  · exact iff_of_true (.inl hdirect) (.inl hdirect)
  · exact iff_of_true (.inr ⟨other, .inr hother, by rwa [if_neg hne]⟩)
      (.inr ⟨other, .inr hother, hholds⟩)

section

variable (hnodup : stores.userIds.Nodup) {name : String}

include hnodup

variable {user' : UserRecord}

theorem not_mem_groups_of_bumpMembers (hfind : stores.users.findById id = some user)
    (hfind' : (stores.users.bumpMembers name).findById id = some user')
    (hversion : user'.tokenVersion = user.tokenVersion) : name ∉ user.groups := by
  intro hlists
  rw [UserStore.findById_bumpMembers hnodup, hfind, map_some, if_pos hlists, some_inj] at hfind'
  rw [← hfind'] at hversion
  exact (tokenVersion_add_ne _).1 hversion

theorem sameGrants_putGroup {texts : List String}
    (hsafe : EveryoneEditSafe id stores (.admin (.putGroup name texts)))
    (hfind : stores.users.findById id = some user)
    (hfind' : (stores.putGroup name texts).1.users.findById id = some user')
    (hversion : user'.tokenVersion = user.tokenVersion) :
    (user.effectiveEntitlements (stores.putGroup name texts).1.registry).SameGrants
      (user.effectiveEntitlements stores.registry) := by
  rw [putGroup] at hfind' ⊢
  cases hparse : parseEntitlementsField texts with
  | error error => exact fun _ => Iff.rfl
  | ok set =>
    cases hupsert : GroupStore.upsert stores.registry ⟨name, set, false⟩ with
    | error error =>
      dsimp only
      rw [hupsert]
      exact fun _ => Iff.rfl
    | ok registry =>
      simp only [hparse, hupsert] at hfind' ⊢
      obtain ⟨-, rfl⟩ := GroupStore.upsert_eq_ok hupsert
      by_cases hchange : (stores.registry.find name).map Group.entitlements = some set
      · -- the same entitlements in the same order: nothing to propagate
        obtain ⟨group, hgroup, hset⟩ := Option.map_eq_some_iff.mp hchange
        refine sameGrants_upsert_of_covered fun entitlement => .inl ?_
        simp [GroupRegistry.Holds, hgroup, hset]
      · rw [if_pos (by simpa using hchange)] at hfind'
        have hlists := not_mem_groups_of_bumpMembers hnodup hfind hfind' hversion
        by_cases heveryone : name = BuiltInGroups.everyone
        · refine sameGrants_upsert_of_covered fun entitlement => ?_
          rcases hsafe heveryone set hparse user hfind hlists entitlement with
            hsame | hdirect | ⟨other, hother, hholds⟩
          · exact .inl hsame
          · exact .inr (.inl hdirect)
          · have hne : other ≠ name := by
              rintro rfl
              exact hlists hother
            exact .inr (.inr ⟨other, hother, hne, hholds⟩)
        · refine sameGrants_of_not_appliesTo
            (fun happlies => happlies.elim heveryone hlists) fun other hother => ?_
          rw [GroupRegistry.find_upsert, if_neg hother]

theorem sameGrants_deleteGroup (hfind : stores.users.findById id = some user)
    (hfind' : (stores.deleteGroup name).1.users.findById id = some user')
    (hversion : user'.tokenVersion = user.tokenVersion) :
    (user.effectiveEntitlements (stores.deleteGroup name).1.registry).SameGrants
      (user.effectiveEntitlements stores.registry) := by
  rw [deleteGroup] at hfind' ⊢
  cases hremove : GroupStore.remove stores.registry name with
  | error error => exact fun _ => Iff.rfl
  | ok registry =>
    simp only [hremove] at hfind' ⊢
    have hlists := not_mem_groups_of_bumpMembers hnodup hfind hfind' hversion
    have hne := GroupStore.ne_everyone_of_remove hremove
    refine sameGrants_of_not_appliesTo (fun happlies => happlies.elim hne hlists)
      fun other hother => ?_
    rw [GroupStore.find_remove hremove, if_neg hother]

end

theorem sameGrants_afterEvent (hnodup : stores.userIds.Nodup)
    (hseeded : GroupStore.Seeded stores.registry) (hdrawn : event.drawnId ≠ some id)
    (hsafe : EveryoneEditSafe id stores event) {user' : UserRecord}
    (hfind' : (stores.afterEvent event).users.findById id = some user') :
    ∃ user, stores.users.findById id = some user ∧
      (user'.tokenVersion = user.tokenVersion →
        (user'.effectiveEntitlements (stores.afterEvent event).registry).SameGrants
          (user.effectiveEntitlements stores.registry)) := by
  cases event with
  | restart =>
    have hreloaded : (stores.afterEvent .restart).users.findById id =
        (stores.users.findById id).map UserRecord.reloaded := by
      simp only [afterEvent, restart, UserStore.findById, find?_map]
      rfl
    rw [hreloaded, map_eq_some_iff] at hfind'
    obtain ⟨user, hfind, rfl⟩ := hfind'
    refine ⟨user, hfind, fun _ entitlement => ?_⟩
    rw [mem_effectiveEntitlements, mem_effectiveEntitlements]
    simp only [afterEvent, restart, UserRecord.reloaded, EntitlementSet.mem_parse_toStrings,
      GroupStore.holds_load_save hseeded]
  | admin request =>
    have hfate := recordFate_afterRequest hnodup hdrawn
    rw [afterEvent] at hfind'
    rw [hfind'] at hfate
    generalize hfind : stores.users.findById id = found at hfate
    cases hfate with
    | @edited user _ hedit =>
      refine ⟨user, rfl, fun hversion => ?_⟩
      -- the record has its grants, so only the registry can make a difference
      obtain ⟨hgroups, hdirect⟩ := hedit.grants hversion
      rw [UserRecord.effectiveEntitlements, hgroups, hdirect]
      by_cases huser : IsUserRequest request
      · rw [afterEvent, registry_afterRequest huser]
        exact fun _ => Iff.rfl
      · cases request with
        | putGroup name texts => exact sameGrants_putGroup hnodup hsafe hfind hfind' hversion
        | deleteGroup name => exact sameGrants_deleteGroup hnodup hfind hfind' hversion
        | _ => exact absurd trivial huser

/-! ## A run -/

def counterAdvance (id : String) (stores stores' : AuthStores) : ℕ :=
  match stores.users.findById id, stores'.users.findById id with
  | some user, some user' => (user'.tokenVersion - user.tokenVersion).toNat
  | _, _ => 0

/-- How far the version of the user moves in a run. -/
def counterAdvances (id : String) : AuthStores → List StoreEvent → ℕ
  | _, [] => 0
  | stores, event :: events =>
    counterAdvance id stores (stores.afterEvent event) +
      counterAdvances id (stores.afterEvent event) events

theorem drawnIds_append (before after : List StoreEvent) :
    drawnIds (before ++ after) = drawnIds before ++ drawnIds after :=
  filterMap_append

theorem drawnId_ne (hids : (drawnIds (before ++ event :: after)).Nodup)
    (hid : id ∈ drawnIds before) : event.drawnId ≠ some id := by
  intro hdrawn
  rw [drawnIds_append] at hids
  refine (List.nodup_append.mp hids).2.2 id hid id ?_ rfl
  simp [drawnIds, hdrawn]

section

variable (hids : (drawnIds (before ++ after)).Nodup)

include hids

theorem nodup_userIds_afterEvents : (afterEvents before).userIds.Nodup := by
  rw [drawnIds_append] at hids
  exact hids.of_append_left.sublist (userIds_afterEvents before)

theorem findById_lost_run (hid : id ∈ drawnIds before)
    (h : (afterEvents before).users.findById id = none) :
    (afterEvents (before ++ after)).users.findById id = none := by
  induction after generalizing before with
  | nil => simpa using h
  | cons event after ih =>
    have hdrawn := drawnId_ne hids hid
    have hnodup := nodup_userIds_afterEvents hids
    have hcut : before ++ event :: after = (before ++ [event]) ++ after := by simp
    rw [hcut] at hids ⊢
    refine ih hids (by rw [drawnIds_append]; exact mem_append_left _ hid) ?_
    rw [afterEvents_concat]
    cases event with
    | restart =>
      simp only [afterEvent, restart, UserStore.findById, find?_map]
      rwa [map_eq_none_iff]
    | admin request =>
      have hfate := recordFate_afterRequest hnodup hdrawn
      rw [h] at hfate
      rw [afterEvent]
      generalize ((afterEvents before).afterRequest request).users.findById id = found
        at hfate ⊢
      cases hfate <;> rfl

theorem findById_kept_run (hid : id ∈ drawnIds before)
    (hsafe : EachStep afterEvent (EveryoneEditSafe id) (afterEvents before) after)
    {user' : UserRecord} (hfind' : (afterEvents (before ++ after)).users.findById id = some user') :
    ∃ user, (afterEvents before).users.findById id = some user ∧
      user'.tokenVersion =
        user.tokenVersion + UInt32.ofNat (counterAdvances id (afterEvents before) after) ∧
      (counterAdvances id (afterEvents before) after = 0 →
        (user'.effectiveEntitlements (afterEvents (before ++ after)).registry).SameGrants
          (user.effectiveEntitlements (afterEvents before).registry)) := by
  induction after generalizing before with
  | nil =>
    rw [append_nil] at hfind' ⊢
    exact ⟨user', hfind', by simp [counterAdvances], fun _ _ => Iff.rfl⟩
  | cons event after ih =>
    have hdrawn := drawnId_ne hids hid
    have hnodup := nodup_userIds_afterEvents hids
    have hcut : before ++ event :: after = (before ++ [event]) ++ after := by simp
    rw [hcut] at hids hfind' ⊢
    have hid' : id ∈ drawnIds (before ++ [event]) := by
      rw [drawnIds_append]
      exact mem_append_left _ hid
    obtain ⟨next, hnext, hversion, hgrants⟩ := ih hids hid'
      (by rw [afterEvents_concat]; exact hsafe.2) hfind'
    rw [afterEvents_concat] at hnext hversion hgrants
    obtain ⟨user, huser, hstep⟩ :=
      sameGrants_afterEvent hnodup (seeded_afterEvents before) hdrawn hsafe.1 hnext
    have hadvance :
        counterAdvance id (afterEvents before) ((afterEvents before).afterEvent event) =
          (next.tokenVersion - user.tokenVersion).toNat := by
      simp [counterAdvance, huser, hnext]
    refine ⟨user, huser, ?_, fun hzero => ?_⟩
    · rw [hversion, counterAdvances, hadvance, UInt32.ofNat_add, UInt32.ofNat_toNat,
        ← UInt32.add_assoc, UInt32.add_comm user.tokenVersion, UInt32.sub_add_cancel]
    · rw [counterAdvances, hadvance] at hzero
      have hsame : next.tokenVersion = user.tokenVersion := by
        have hnothing : next.tokenVersion - user.tokenVersion = 0 :=
          UInt32.toNat_inj.mp (by simpa using (Nat.add_eq_zero_iff.mp hzero).1)
        calc
          next.tokenVersion = next.tokenVersion - user.tokenVersion + user.tokenVersion :=
            (UInt32.sub_add_cancel _ _).symm
          _ = user.tokenVersion := by rw [hnothing, UInt32.zero_add]
      intro entitlement
      exact (hgrants (Nat.add_eq_zero_iff.mp hzero).2 entitlement).trans (hstep hsame entitlement)

end

theorem id_mem_drawnIds {snapshot : UserRecord}
    (h : ∃ earlier later, before = earlier ++ later ∧
      snapshot ∈ (afterEvents earlier).users.users) : snapshot.id ∈ drawnIds before := by
  obtain ⟨earlier, later, rfl, hmem⟩ := h
  rw [drawnIds_append]
  refine mem_append_left _ ((userIds_afterEvents earlier).subset ?_)
  exact List.mem_map_of_mem hmem

/-! ## A request with a token -/

theorem resolveJwt_sign {codec codec' : JwtCodec} {minted : UserRecord} {mintedAt now : ℤ}
    {subject : Subject}
    (h : stores.resolveJwt codec' (codec.sign (accessClaims minted registry) mintedAt) now =
      some subject) :
    ∃ user, stores.users.findById minted.id = some user ∧
      user.tokenVersion = minted.tokenVersion ∧
      (subject.entitlements.SameGrants
          ((minted.effectiveEntitlements registry).add Vocabulary.prefsSelfEntitlement) ∨
        subject.entitlements.SameGrants
          ((user.effectiveEntitlements stores.registry).add Vocabulary.prefsSelfEntitlement)) := by
  rw [resolveJwt, bind_eq_some_iff] at h
  obtain ⟨claims, hverify, hresolve⟩ := h
  have hclaims := JwtCodec.verify_eq_some hverify
  have hprovider : claims.provider = .localAccount := by rw [hclaims]; rfl
  obtain ⟨user, hfind, hversion, hentitlements⟩ :=
    resolveClaims_local (by simp [hprovider]) hresolve
  rw [hclaims] at hfind hversion hentitlements
  refine ⟨user, hfind, hversion, ?_⟩
  by_cases hbudget : jsonArraySize (minted.effectiveEntitlements registry).toStrings ≤
      codec.entClaimBudgetBytes
  · left
    intro entitlement
    simp [hentitlements, JwtCodec.sign, accessClaims, hbudget]
  · right
    intro entitlement
    simp [hentitlements, JwtCodec.sign, accessClaims, hbudget]

/-- A token minted for a record that the store held at some point of the run, used after
any further events: it is rejected, or it gives exactly what the user's current record
and the current groups give, and the right to one's own preferences. -/
theorem resolveJwt_current {codec codec' : JwtCodec} {snapshot : UserRecord} {mintedAt now : ℤ}
    {subject : Subject} (hids : (drawnIds (before ++ after)).Nodup)
    (hsnapshot : ∃ earlier later, before = earlier ++ later ∧
      snapshot ∈ (afterEvents earlier).users.users)
    (hsafe : EachStep afterEvent (EveryoneEditSafe snapshot.id) (afterEvents before) after)
    (hadvances : counterAdvances snapshot.id (afterEvents before) after < 2 ^ 32)
    (hresolve : (afterEvents (before ++ after)).resolveJwt codec'
      ((afterEvents before).mintAccessToken codec snapshot mintedAt) now = some subject) :
    ∃ user, (afterEvents (before ++ after)).users.findById snapshot.id = some user ∧
      subject.entitlements.SameGrants
        ((user.effectiveEntitlements (afterEvents (before ++ after)).registry).add
          Vocabulary.prefsSelfEntitlement) := by
  have hid := id_mem_drawnIds hsnapshot
  rw [mintAccessToken] at hresolve
  cases hminted : (afterEvents before).users.findById snapshot.id with
  | none =>
    -- minted for a user that was gone: nobody ever has the id again
    rw [hminted, getD_none] at hresolve
    obtain ⟨user, hfind, -⟩ := resolveJwt_sign hresolve
    rw [findById_lost_run hids hid hminted] at hfind
    simp at hfind
  | some minted =>
    rw [hminted, getD_some] at hresolve
    obtain ⟨user, hfind, hversion, hgrants⟩ := resolveJwt_sign hresolve
    rw [UserStore.id_of_findById hminted] at hfind
    refine ⟨user, hfind, ?_⟩
    rcases hgrants with hcarried | hcurrent
    · obtain ⟨minted', hminted', hadvanced, hkept⟩ := findById_kept_run hids hid hsafe hfind
      obtain rfl : minted = minted' := Option.some_inj.mp (hminted.symm.trans hminted')
      -- the version is the one in the token, so it did not move
      have hstill : UInt32.ofNat (counterAdvances snapshot.id (afterEvents before) after) = 0 := by
        rw [hversion] at hadvanced
        calc
          UInt32.ofNat (counterAdvances snapshot.id (afterEvents before) after) =
              minted.tokenVersion +
                UInt32.ofNat (counterAdvances snapshot.id (afterEvents before) after) -
                minted.tokenVersion := by rw [UInt32.add_comm, UInt32.add_sub_cancel]
          _ = minted.tokenVersion - minted.tokenVersion := by rw [← hadvanced]
          _ = 0 := UInt32.sub_self _
      have hzero : counterAdvances snapshot.id (afterEvents before) after = 0 := by
        have hvalue := congrArg UInt32.toNat hstill
        rwa [UInt32.toNat_ofNat_of_lt' hadvances] at hvalue
      intro entitlement
      rw [hcarried entitlement, EntitlementSet.mem_add, EntitlementSet.mem_add,
        hkept hzero entitlement]
    · exact hcurrent

def viewerRun : List StoreEvent :=
  [.admin (.bootstrapAdmin "owner" "argon2id-owner" "user-1"),
    .admin (.createUser "viewer" "argon2id-viewer" [] .empty "user-2"),
    .admin (.putGroup BuiltInGroups.everyone ["equipment.view"])]

def viewer : UserRecord :=
  { id := "user-2", username := "viewer", passwordHash := "argon2id-viewer", groups := [],
    directEntitlements := .empty }

def viewerCodec : JwtCodec := { keys := ⟨⟨"key-1", [0x2a]⟩, []⟩ }

def viewerToken : Token := (afterEvents viewerRun).mintAccessToken viewerCodec viewer 0

def viewerUnconcerned : List StoreEvent :=
  [.restart, .admin (.putGroup "Operators" ["equipment.control.aux"])]

theorem resolveJwt_current_viewer :
    ∃ subject user,
      (afterEvents (viewerRun ++ viewerUnconcerned)).resolveJwt viewerCodec viewerToken 60 =
          some subject ∧
        (afterEvents (viewerRun ++ viewerUnconcerned)).users.findById "user-2" = some user ∧
        subject.entitlements.SameGrants ((user.effectiveEntitlements
          (afterEvents (viewerRun ++ viewerUnconcerned)).registry).add
            Vocabulary.prefsSelfEntitlement) := by
  have haccepted : ((afterEvents (viewerRun ++ viewerUnconcerned)).resolveJwt viewerCodec
      viewerToken 60).isSome := by decide +kernel
  obtain ⟨subject, hsubject⟩ := Option.isSome_iff_exists.mp haccepted
  have hids : (drawnIds (viewerRun ++ viewerUnconcerned)).Nodup := by decide +kernel
  have hsnapshot : ∃ earlier later, viewerRun = earlier ++ later ∧
      viewer ∈ (afterEvents earlier).users.users := ⟨viewerRun, [], rfl, by decide +kernel⟩
  have hsafe : EachStep afterEvent (EveryoneEditSafe viewer.id) (afterEvents viewerRun)
      viewerUnconcerned := ⟨trivial, fun hname => absurd hname (by decide), trivial⟩
  obtain ⟨user, huser⟩ :=
    resolveJwt_current hids hsnapshot hsafe (by decide +kernel) hsubject
  exact ⟨subject, user, hsubject, huser⟩

/-- Everyone is taken its entitlement, and the viewer's token keeps it. -/
theorem viewer_keeps_entitlement :
    let stores := afterEvents (viewerRun ++ [.admin (.putGroup BuiltInGroups.everyone [])])
    (stores.resolveJwt viewerCodec viewerToken 60).map
        (fun subject => subject.entitlements.toStrings) = some ["equipment.view", "prefs.self"] ∧
      (stores.users.findById "user-2").map (fun user =>
        ((user.effectiveEntitlements stores.registry).add
          Vocabulary.prefsSelfEntitlement).toStrings) = some ["prefs.self"] := by
  decide +kernel

end AuthStores

end AqualinkAutomate.Auth
