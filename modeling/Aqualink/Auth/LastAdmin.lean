import Aqualink.Auth.Administration

/-!
# Keeping an administrator

The user store refuses a change after which no enabled user would resolve
`system.admin`, so no operation on users takes the last administrator away
(`hasEnabledAdmin_afterRequest_of_isUserRequest`).  The group store has no such guard.
An edit of a group changes what its members resolve to, and whether it leaves an
administrator depends on the users that have the right without that group, or through
its new entitlements: that is `GroupEditSafe`, and a run keeps an administrator exactly
when each of its group edits is safe.
-/

namespace AqualinkAutomate.Auth

open General

/-! ## Where admin rights come from -/

def EntitlementSet.PermitsAdmin (set : EntitlementSet) : Prop :=
  set.permits Vocabulary.systemAdmin "" = true

instance (set : EntitlementSet) : Decidable set.PermitsAdmin :=
  inferInstanceAs (Decidable (_ = true))

def UserRecord.AdminWithout (registry : GroupRegistry) (name : String) (user : UserRecord) : Prop :=
  user.directEntitlements.PermitsAdmin ∨
    ∃ other, other ≠ name ∧ GroupRegistry.AppliesTo other user.groups ∧
      ∃ group, registry.find other = some group ∧ group.entitlements.PermitsAdmin

variable {registry : GroupRegistry} {user : UserRecord}

theorem UserRecord.resolvesSystemAdmin_iff :
    user.resolvesSystemAdmin registry ↔
      user.directEntitlements.PermitsAdmin ∨
        ∃ name, GroupRegistry.AppliesTo name user.groups ∧
          ∃ group, registry.find name = some group ∧ group.entitlements.PermitsAdmin := by
  simp only [resolvesSystemAdmin, effectiveEntitlements, EntitlementSet.permits_iff,
    GroupRegistry.mem_resolveEffectiveEntitlements, EntitlementSet.PermitsAdmin,
    GroupRegistry.Holds]
  constructor
  · rintro ⟨entitlement, hdirect | ⟨name, happlies, group, hfind, hmem⟩, hmatches⟩
    · exact .inl ⟨entitlement, hdirect, hmatches⟩
    · exact .inr ⟨name, happlies, group, hfind, entitlement, hmem, hmatches⟩
  · rintro (⟨entitlement, hdirect, hmatches⟩ |
      ⟨name, happlies, group, hfind, entitlement, hmem, hmatches⟩)
    · exact ⟨entitlement, .inl hdirect, hmatches⟩
    · exact ⟨entitlement, .inr ⟨name, happlies, group, hfind, hmem⟩, hmatches⟩

theorem UserRecord.resolvesSystemAdmin_upsert {group : Group} :
    user.resolvesSystemAdmin (registry.upsert group) ↔
      user.AdminWithout registry group.name ∨
        GroupRegistry.AppliesTo group.name user.groups ∧ group.entitlements.PermitsAdmin := by
  rw [resolvesSystemAdmin_iff, AdminWithout]
  simp only [GroupRegistry.find_upsert]
  constructor
  · rintro (hdirect | ⟨name, happlies, found, hfind, hpermits⟩)
    · exact .inl (.inl hdirect)
    · by_cases hname : name = group.name
      · obtain rfl : group = found := by simpa [hname] using hfind
        exact .inr ⟨hname ▸ happlies, hpermits⟩
      · rw [if_neg hname] at hfind
        exact .inl (.inr ⟨name, hname, happlies, found, hfind, hpermits⟩)
  · rintro ((hdirect | ⟨name, hname, happlies, found, hfind, hpermits⟩) | ⟨happlies, hpermits⟩)
    · exact .inl hdirect
    · exact .inr ⟨name, happlies, found, by rwa [if_neg hname], hpermits⟩
    · exact .inr ⟨group.name, happlies, group, if_pos rfl, hpermits⟩

theorem UserRecord.resolvesSystemAdmin_without {registry' : GroupRegistry} {removed : String}
    (h : ∀ name, registry'.find name = if name = removed then none else registry.find name) :
    user.resolvesSystemAdmin registry' ↔ user.AdminWithout registry removed := by
  rw [resolvesSystemAdmin_iff, AdminWithout]
  refine or_congr_right (exists_congr fun name => ?_)
  rw [h name]
  by_cases hname : name = removed <;> simp [hname]

namespace AuthStores

variable {stores : AuthStores}

/-- Some enabled user resolves `system.admin` with the registry in force. -/
def HasEnabledAdmin (stores : AuthStores) : Prop :=
  stores.users.hasEnabledAdmin stores.registry = true

instance (stores : AuthStores) : Decidable stores.HasEnabledAdmin :=
  inferInstanceAs (Decidable (_ = true))

/-! ## The operations on users -/

theorem hasEnabledAdmin_afterRequest_of_isUserRequest (hadmin : stores.HasEnabledAdmin)
    {request : AdminRequest} (hrequest : IsUserRequest request) :
    (stores.afterRequest request).HasEnabledAdmin := by
  rw [HasEnabledAdmin, registry_afterRequest hrequest]
  refine users_afterRequest (Q := fun store => store.hasEnabledAdmin stores.registry)
    ?_ ?_ ?_ ?_ hadmin
  · exact fun store' user freshId _ _ hok => UserStore.hasEnabledAdmin_create hadmin hok
  · exact fun store store' user h hok => UserStore.hasEnabledAdmin_update h hok
  · exact fun store store' id h hok => UserStore.hasEnabledAdmin_remove h hok
  · intro store id h
    rwa [UserStore.hasEnabledAdmin_bumpTokenVersion]

/-! ## The operations on groups -/

/-- An accepted edit of the group leaves an enabled user with admin rights: without the
group, or through its new entitlements. -/
def GroupEditSafe (stores : AuthStores) : AdminRequest → Prop
  | .putGroup name texts => ∀ set, parseEntitlementsField texts = .ok set → name ≠ "" →
      ∃ user ∈ stores.users.users, user.disabled = false ∧
        (user.AdminWithout stores.registry name ∨
          GroupRegistry.AppliesTo name user.groups ∧ set.PermitsAdmin)
  | .deleteGroup name => BuiltInGroups.isBuiltInName name = false →
      ∃ user ∈ stores.users.users, user.disabled = false ∧
        user.AdminWithout stores.registry name
  | _ => True

theorem hasEnabledAdmin_bumpMembers (store : UserStore) (name : String) (registry : GroupRegistry) :
    (store.bumpMembers name).hasEnabledAdmin registry = store.hasEnabledAdmin registry :=
  foldl_of_step
    (Q := fun bumped => bumped.hasEnabledAdmin registry = store.hasEnabledAdmin registry)
    (fun bumped user h =>
      (UserStore.hasEnabledAdmin_bumpTokenVersion bumped user.id registry).trans h)
    rfl

theorem hasEnabledAdmin_iff_exists {store : UserStore} :
    store.hasEnabledAdmin registry ↔
      ∃ user ∈ store.users, user.disabled = false ∧ user.resolvesSystemAdmin registry := by
  simp [UserStore.hasEnabledAdmin_iff, UserRecord.isEnabledAdmin]

theorem hasEnabledAdmin_putGroup_iff (hadmin : stores.HasEnabledAdmin) (name : String)
    (texts : List String) :
    (stores.putGroup name texts).1.HasEnabledAdmin ↔
      stores.GroupEditSafe (.putGroup name texts) := by
  rw [putGroup, GroupEditSafe]
  cases hparse : parseEntitlementsField texts with
  | error error => simpa using hadmin
  | ok set =>
    by_cases hname : name = ""
    · simpa [GroupStore.upsert, hname] using hadmin
    · have hupsert : GroupStore.upsert stores.registry ⟨name, set, false⟩ =
          .ok (stores.registry.upsert ⟨name, set, BuiltInGroups.isBuiltInName name⟩) := by
        simp [GroupStore.upsert, hname]
      have husers : ∀ change : Prop, [Decidable change] → ∀ registry,
          (if change then stores.users.bumpMembers name else stores.users).hasEnabledAdmin
            registry = stores.users.hasEnabledAdmin registry := by
        intro change _ registry
        split
        · exact hasEnabledAdmin_bumpMembers _ _ _
        · rfl
      simp only [hupsert, HasEnabledAdmin, husers, hasEnabledAdmin_iff_exists,
        UserRecord.resolvesSystemAdmin_upsert, Except.ok.injEq, forall_eq', ne_eq, hname,
        not_false_eq_true, forall_const]

theorem hasEnabledAdmin_deleteGroup_iff (hadmin : stores.HasEnabledAdmin) (name : String) :
    (stores.deleteGroup name).1.HasEnabledAdmin ↔ stores.GroupEditSafe (.deleteGroup name) := by
  rw [deleteGroup, GroupEditSafe]
  cases hremove : GroupStore.remove stores.registry name with
  | error error =>
    -- refused: a built-in group, or a name that gives nobody anything
    refine iff_of_true hadmin fun hbuiltIn => ?_
    have hnone : stores.registry.find name = none := by
      by_contra hsome
      simp [GroupStore.remove, hbuiltIn, hsome] at hremove
    obtain ⟨user, hmem, henabled, hresolves⟩ := hasEnabledAdmin_iff_exists.mp hadmin
    refine ⟨user, hmem, henabled, (UserRecord.resolvesSystemAdmin_without ?_).mp hresolves⟩
    intro other
    split
    · next hother => rw [hother, hnone]
    · rfl
  | ok registry =>
    have hbuiltIn : BuiltInGroups.isBuiltInName name = false := by
      rw [← Bool.not_eq_true]
      intro htrue
      simp [GroupStore.remove, htrue] at hremove
    simp only [HasEnabledAdmin, hasEnabledAdmin_bumpMembers, hasEnabledAdmin_iff_exists,
      UserRecord.resolvesSystemAdmin_without (GroupStore.find_remove hremove), hbuiltIn,
      forall_const]

/-- A run of the admin API keeps an enabled administrator exactly when each of its group
edits is safe. -/
theorem hasEnabledAdmin_run_iff (hadmin : stores.HasEnabledAdmin) (requests : List AdminRequest) :
    EachState afterRequest HasEnabledAdmin stores requests ↔
      EachStep afterRequest GroupEditSafe stores requests := by
  refine eachState_iff_eachStep ?_ hadmin
  intro stores request hadmin
  cases request with
  | putGroup name entitlements => exact hasEnabledAdmin_putGroup_iff hadmin name entitlements
  | deleteGroup name => exact hasEnabledAdmin_deleteGroup_iff hadmin name
  | _ => exact iff_of_true (hasEnabledAdmin_afterRequest_of_isUserRequest hadmin trivial) trivial

def soleAdminStores : AuthStores :=
  { initial with
    users := ⟨[{ id := "user-1", username := "owner", passwordHash := "argon2id-owner",
                 groups := [BuiltInGroups.administrators], directEntitlements := .empty }]⟩ }

/-- Taking the group Administrators its entitlement leaves nobody with it. -/
theorem sole_admin_lost :
    soleAdminStores.HasEnabledAdmin ∧
      (soleAdminStores.handle (.putGroup BuiltInGroups.administrators [])).2 = ⟨.ok, ""⟩ ∧
      ¬ (soleAdminStores.afterRequest
        (.putGroup BuiltInGroups.administrators [])).HasEnabledAdmin := by
  decide

/-- Deleting the only user is refused, so the run keeps its administrator. -/
theorem hasEnabledAdmin_run_sole :
    EachState afterRequest HasEnabledAdmin soleAdminStores
        [.deleteUser "user-1", .disableUser "user-1"] ↔
      EachStep afterRequest GroupEditSafe soleAdminStores
        [.deleteUser "user-1", .disableUser "user-1"] :=
  hasEnabledAdmin_run_iff (by decide) _

end AuthStores

end AqualinkAutomate.Auth
