import Aqualink.Auth.ApiKeyStore
import Aqualink.Scheduling.Authority
import Aqualink.Storage.Saves

/-!
# Rights in text

Entitlements leave the program as text and come back from it in four places: the files of the
groups, of the users and of the API keys, and the `ent` claim of a token.

The groups are loaded over the built-in ones, which the file can change but not remove, and are
edited in memory.  `rights_survive_text` says that a reload of the file written then decides as the
memory does.

A document that is parsed is the one whose text was written.  What a floating-point number is as an
integer is a parameter.
-/

namespace AqualinkAutomate.General.Json

/-! ## Reading a document

A reader gives nothing where the library throws. -/

/-- `value`: what is read of the key, or the fallback if it is not there. -/
def valueOr {α : Type*} (json : Json) (key : String) (fallback : α) (read : Json → Option α) :
    Option α :=
  match json with
  | object _ =>
    match json.member key with
    | none => some fallback
    | some value => read value
  | _ => none

theorem valueOr_of_member {α : Type*} {json value : Json} {key : String} {fallback : α}
    {read : Json → Option α} (h : json.member key = some value) :
    json.valueOr key fallback read = read value := by
  cases json with
  | object fields => simp only [valueOr, h]
  | _ => cases h

def readText : Json → Option String
  | string text => some text
  | _ => none

def readTexts : Json → Option (List String)
  | array items => items.mapM readText
  | _ => none

def readBool : Json → Option Bool
  | bool value => some value
  | _ => none

/-- A number of the widest type -/
def readInteger (ofDouble : UInt64 → ℤ) : Json → Option ℤ
  | integer value => some value
  | float bits => some (ofDouble bits)
  | _ => none

/-- A number of a narrower type, for which a boolean is one too -/
def readUInt32 (ofDouble : UInt64 → ℤ) : Json → Option UInt32
  | bool value => some (UInt32.ofNat value.toNat)
  | json => (json.readInteger ofDouble).map UInt32.ofInt

/-- What a loop over a document goes through. -/
def elements : Json → List Json
  | null => []
  | array items => items
  | object fields => fields.map Prod.snd
  | json => [json]

@[simp] theorem readTexts_array (texts : List String) :
    readTexts (.array (texts.map .string)) = some texts := by
  show (texts.map Json.string).mapM readText = some texts
  induction texts with
  | nil => rfl
  | cons text texts ih =>
    rw [List.map_cons, List.mapM_cons, ih]
    rfl

end AqualinkAutomate.General.Json

namespace AqualinkAutomate.Auth

open General Scheduling Storage

variable (ofDouble : UInt64 → ℤ)

/-! ## The files -/

/-- `LoadAuthStoreFile`, of a file that is there and can be parsed. -/
def loadAuthStoreFile (document : Json) : Option Json := do
  let version ← document.valueOr "schema_version" 0 (Json.readUInt32 ofDouble)
  if version = UInt32.ofInt authStoreSchemaVersion then some document else none

namespace Group

/-- A group as `Save` writes it. -/
def toJson (group : Group) : Json :=
  .object [("entitlements", .array (group.entitlements.toStrings.map .string)),
    ("name", .string group.name)]

/-- A group as `Load` reads it. -/
def fromJson (json : Json) : Option Group := do
  let name ← json.valueOr "name" "" Json.readText
  let entitlements ← json.valueOr "entitlements" [] Json.readTexts
  some ⟨name, EntitlementSet.parse entitlements, BuiltInGroups.isBuiltInName name⟩

end Group

namespace GroupStore

/-- An entry of the file; one without a name is passed over. -/
def loadGroup (registry : GroupRegistry) (json : Json) : Option GroupRegistry := do
  let group ← Group.fromJson json
  some (if group.name = "" then registry else registry.upsert group)

/-- The registry after `Load`, if the file is there or not. -/
def loadFile : Option Json → Option GroupRegistry
  | none => some GroupRegistry.withBuiltIns
  | some document => do
    let document ← loadAuthStoreFile ofDouble document
    let groups ← document.valueOr "groups" (.array []) some
    groups.elements.foldlM loadGroup GroupRegistry.withBuiltIns

/-- The document of `Save` -/
def saveFile (registry : GroupRegistry) : Json :=
  .object (Json.setField "schema_version" (.integer authStoreSchemaVersion)
    [("groups", .array (registry.groups.map Group.toJson))])

end GroupStore

/-- A call of `Upsert` or `Remove`. -/
inductive GroupEdit where
  | upsert (group : Group)
  | remove (name : String)

def GroupEdit.apply (registry : GroupRegistry) : GroupEdit → Except String GroupRegistry
  | .upsert group => GroupStore.upsert registry group
  | .remove name => GroupStore.remove registry name

/-- The registry after the call, which is as it was when the call is refused. -/
def GroupRegistry.edit (registry : GroupRegistry) (edit : GroupEdit) : GroupRegistry :=
  match edit.apply registry with
  | .ok edited => edited
  | .error _ => registry

namespace UserRecord

def toJson (user : UserRecord) : Json :=
  .object [("direct_entitlements", .array (user.directEntitlements.toStrings.map .string)),
    ("disabled", .bool user.disabled), ("groups", .array (user.groups.map .string)),
    ("id", .string user.id), ("password_hash", .string user.passwordHash),
    ("tokver", .integer user.tokenVersion.toNat), ("username", .string user.username)]

def fromJson (json : Json) : Option UserRecord := do
  let id ← json.valueOr "id" "" Json.readText
  let username ← json.valueOr "username" "" Json.readText
  let passwordHash ← json.valueOr "password_hash" "" Json.readText
  let groups ← json.valueOr "groups" [] Json.readTexts
  let entitlements ← json.valueOr "direct_entitlements" [] Json.readTexts
  let tokenVersion ← json.valueOr "tokver" 1 (Json.readUInt32 ofDouble)
  let disabled ← json.valueOr "disabled" false Json.readBool
  some { id, username, passwordHash, groups, tokenVersion, disabled
         directEntitlements := EntitlementSet.parse entitlements }

end UserRecord

namespace ApiKeyRecord

def toJson (key : ApiKeyRecord) : Json :=
  .object [("entitlements", .array (key.entitlements.toStrings.map .string)),
    ("expiry", .integer key.expiryUnix), ("id", .string key.id), ("label", .string key.label),
    ("last_used", .integer key.lastUsedUnix), ("revoked", .bool key.revoked),
    ("secret_sha256", .string key.secretSha256Hex)]

def fromJson (json : Json) : Option ApiKeyRecord := do
  let id ← json.valueOr "id" "" Json.readText
  let label ← json.valueOr "label" "" Json.readText
  let secretSha256Hex ← json.valueOr "secret_sha256" "" Json.readText
  let entitlements ← json.valueOr "entitlements" [] Json.readTexts
  let expiryUnix ← json.valueOr "expiry" 0 fun json => (json.readInteger ofDouble).map toInt64
  let lastUsedUnix ← json.valueOr "last_used" 0 fun json =>
    (json.readInteger ofDouble).map toInt64
  let revoked ← json.valueOr "revoked" false Json.readBool
  some { id, label, secretSha256Hex, expiryUnix, lastUsedUnix, revoked
         entitlements := EntitlementSet.parse entitlements }

end ApiKeyRecord

/-! ## Sets that decide alike -/

def SameEntitlements (set other : EntitlementSet) : Prop :=
  ∀ entitlement, entitlement ∈ set ↔ entitlement ∈ other

def DecidesAlike (set other : EntitlementSet) : Prop :=
  ∀ (subject : Subject) (action resourceId : String) (authEnabled : Bool),
    PolicyEngine.decide { subject with entitlements := set } action resourceId authEnabled =
      PolicyEngine.decide { subject with entitlements := other } action resourceId authEnabled

variable {set other : EntitlementSet}

theorem SameEntitlements.permits (h : SameEntitlements set other) (action resourceId : String) :
    set.permits action resourceId = other.permits action resourceId := by
  rw [Bool.eq_iff_iff, EntitlementSet.permits_iff, EntitlementSet.permits_iff]
  exact exists_congr fun entitlement => and_congr_left fun _ => h entitlement

theorem SameEntitlements.decidesAlike (h : SameEntitlements set other) :
    DecidesAlike set other := by
  intro subject action resourceId authEnabled
  simp only [PolicyEngine.decide, h.permits]

theorem sameEntitlements_parse (set : EntitlementSet) :
    SameEntitlements (EntitlementSet.parse set.toStrings) set :=
  fun _ => EntitlementSet.mem_parse_toStrings

/-! ## The records in their files -/

theorem Group.fromJson_toJson (group : Group) :
    Group.fromJson group.toJson = some ⟨group.name,
      EntitlementSet.parse group.entitlements.toStrings,
      BuiltInGroups.isBuiltInName group.name⟩ := by
  have htexts := Json.readTexts_array group.entitlements.toStrings
  simp only [Group.fromJson, Group.toJson, Json.valueOr, Json.member, List.find?, String.reduceBEq,
    Option.map_some, htexts, Json.readText, Option.bind_eq_bind, Option.bind_some]

theorem UserRecord.fromJson_toJson (user : UserRecord) :
    UserRecord.fromJson ofDouble user.toJson = some { user with
      directEntitlements := EntitlementSet.parse user.directEntitlements.toStrings } := by
  have hversion : Json.readUInt32 ofDouble (.integer user.tokenVersion.toNat) =
      some user.tokenVersion := by
    have hlt : (user.tokenVersion.toNat : ℤ) < 2 ^ 32 := by
      have := user.tokenVersion.toNat_lt
      omega
    show some (UInt32.ofInt (user.tokenVersion.toNat : ℤ)) = some user.tokenVersion
    rw [UInt32.ofInt, Int.emod_eq_of_lt (Int.natCast_nonneg _) hlt, Int.toNat_natCast,
      UInt32.ofNat_toNat]
  simp only [UserRecord.fromJson, UserRecord.toJson, Json.valueOr, Json.member, List.find?,
    String.reduceBEq, Option.map_some, Json.readTexts_array, Json.readText, Json.readBool, hversion,
    Option.bind_eq_bind, Option.bind_some]

/-- The times come back as 64-bit integers. -/
theorem ApiKeyRecord.fromJson_toJson (key : ApiKeyRecord) :
    ApiKeyRecord.fromJson ofDouble key.toJson = some { key with
      entitlements := EntitlementSet.parse key.entitlements.toStrings
      expiryUnix := toInt64 key.expiryUnix
      lastUsedUnix := toInt64 key.lastUsedUnix } := by
  simp only [ApiKeyRecord.fromJson, ApiKeyRecord.toJson, Json.valueOr, Json.member, List.find?,
    String.reduceBEq, Option.map_some, Json.readTexts_array, Json.readText, Json.readBool,
    Json.readInteger, Option.bind_eq_bind, Option.bind_some]

theorem verify_sign {codec : JwtCodec} {claims verified : TokenClaims} {now later : ℤ}
    (h : codec.verify (codec.sign claims now) later = some verified)
    (hcarried : verified.entitlementsInToken) :
    verified.entitlements = claims.entitlements := by
  have hverified := JwtCodec.verify_eq_some h
  rw [hverified] at hcarried ⊢
  obtain ⟨texts, htexts⟩ := Option.isSome_iff_exists.mp hcarried
  show (codec.sign claims now).ent.getD [] = claims.entitlements
  rw [htexts, Option.getD_some]
  unfold JwtCodec.sign at htexts
  dsimp only at htexts
  split_ifs at htexts
  exact (Option.some.inj htexts).symm

/-! ## The registry -/

namespace GroupRegistry

variable {registry : GroupRegistry} {group : Group} {name : String}

/-- What the store keeps of its registry, which has one group for each name: every group has a
name, is flagged as built in exactly if its name is, and the built-in groups are there. -/
structure Kept (registry : GroupRegistry) : Prop where
  named : ∀ group ∈ registry.groups, group.name ≠ ""
  flagged : ∀ group ∈ registry.groups, group.builtIn = BuiltInGroups.isBuiltInName group.name
  builtIns : ∀ name, BuiltInGroups.isBuiltInName name → (registry.find name).isSome

theorem mem_upsertList {groups : List Group} {member : Group}
    (h : member ∈ upsertList group groups) : member = group ∨ member ∈ groups := by
  induction groups with
  | nil => exact .inl (List.mem_singleton.mp h)
  | cons existing rest ih =>
    unfold upsertList at h
    split_ifs at h with hname
    · exact (List.mem_cons.mp h).imp_right (List.mem_cons_of_mem _)
    · rcases List.mem_cons.mp h with rfl | hrest
      · exact .inr List.mem_cons_self
      · exact (ih hrest).imp_right (List.mem_cons_of_mem _)

theorem Kept.upsert (h : registry.Kept) (hnamed : group.name ≠ "")
    (hflagged : group.builtIn = BuiltInGroups.isBuiltInName group.name) :
    (registry.upsert group).Kept where
  named member hmember := by
    rcases mem_upsertList hmember with rfl | hold
    exacts [hnamed, h.named member hold]
  flagged member hmember := by
    rcases mem_upsertList hmember with rfl | hold
    exacts [hflagged, h.flagged member hold]
  builtIns name hname := by
    rw [find_upsert]
    split_ifs
    · rfl
    · exact h.builtIns name hname

theorem kept_withBuiltIns : withBuiltIns.Kept where
  named := by decide
  flagged := by decide
  builtIns name hname := by
    simp only [BuiltInGroups.isBuiltInName, Bool.or_eq_true, beq_iff_eq] at hname
    rcases hname with (rfl | rfl) | rfl <;> decide

theorem mem_foldl_upsert {groups : List Group} {member : Group}
    (h : member ∈ (groups.foldl GroupRegistry.upsert registry).groups) :
    member ∈ groups ∨ member ∈ registry.groups := by
  induction groups generalizing registry with
  | nil => exact .inr h
  | cons group groups ih =>
    rcases ih h with hlater | hearlier
    · exact .inl (List.mem_cons_of_mem _ hlater)
    · rcases mem_upsertList hearlier with rfl | hold
      exacts [.inl List.mem_cons_self, .inr hold]

theorem Kept.of_remove {edited : GroupRegistry} (h : registry.Kept)
    (hedited : GroupStore.remove registry name = .ok edited) : edited.Kept := by
  have hmem : ∀ member ∈ edited.groups, member ∈ registry.groups := by
    intro member hmember
    unfold GroupStore.remove at hedited
    split_ifs at hedited
    cases hedited
    rcases mem_foldl_upsert hmember with hkept | hnone
    · exact List.mem_of_mem_filter hkept
    · cases hnone
  refine ⟨fun member hmember => h.named member (hmem member hmember),
    fun member hmember => h.flagged member (hmem member hmember), fun builtIn hname => ?_⟩
  -- a built-in group is not removed
  have hne : builtIn ≠ name := by
    rintro rfl
    unfold GroupStore.remove at hedited
    rw [if_pos hname] at hedited
    cases hedited
  rw [GroupStore.find_remove hedited, if_neg hne]
  exact h.builtIns builtIn hname

theorem Kept.edit (h : registry.Kept) (edit : GroupEdit) : (registry.edit edit).Kept := by
  unfold GroupRegistry.edit
  cases hedited : edit.apply registry with
  | error message => exact h
  | ok edited =>
    cases edit with
    | upsert group =>
      obtain ⟨hnamed, rfl⟩ := GroupStore.upsert_eq_ok hedited
      have hflagged : ({ group with
          builtIn := BuiltInGroups.isBuiltInName group.name } : Group).builtIn =
          BuiltInGroups.isBuiltInName group.name := rfl
      exact h.upsert hnamed hflagged
    | remove name => exact h.of_remove hedited

theorem Kept.edits (h : registry.Kept) (edits : List GroupEdit) :
    (edits.foldl GroupRegistry.edit registry).Kept :=
  foldl_of_step (fun _ edit h => h.edit edit) h

end GroupRegistry

namespace GroupStore

variable {ofDouble} {registry loaded : GroupRegistry} {document : Option Json}

theorem kept_loadGroup {json : Json} (h : registry.Kept)
    (hload : loadGroup registry json = some loaded) : loaded.Kept := by
  obtain ⟨group, hgroup, hloaded⟩ := Option.bind_eq_some_iff.mp hload
  cases hloaded
  split_ifs with hname
  · exact h
  · refine h.upsert hname ?_
    obtain ⟨name, _, hgroup⟩ := Option.bind_eq_some_iff.mp hgroup
    obtain ⟨texts, _, hgroup⟩ := Option.bind_eq_some_iff.mp hgroup
    cases hgroup
    rfl

theorem kept_foldlM_loadGroup {entries : List Json} (h : registry.Kept)
    (hload : entries.foldlM loadGroup registry = some loaded) : loaded.Kept := by
  induction entries generalizing registry with
  | nil =>
    cases hload
    exact h
  | cons entry entries ih =>
    rw [List.foldlM_cons] at hload
    obtain ⟨next, hnext, hload⟩ := Option.bind_eq_some_iff.mp hload
    exact ih (kept_loadGroup h hnext) hload

theorem kept_loadFile (h : loadFile ofDouble document = some loaded) : loaded.Kept := by
  cases document with
  | none =>
    cases h
    exact GroupRegistry.kept_withBuiltIns
  | some document =>
    obtain ⟨document, _, h⟩ := Option.bind_eq_some_iff.mp h
    obtain ⟨groups, _, h⟩ := Option.bind_eq_some_iff.mp h
    exact kept_foldlM_loadGroup GroupRegistry.kept_withBuiltIns h

/-! ## A reload -/

/-- A group as it comes back from the file. -/
def reread (group : Group) : Group :=
  { group with entitlements := EntitlementSet.parse group.entitlements.toStrings }

theorem foldlM_loadGroup_toJson {groups : List Group} (hnamed : ∀ group ∈ groups, group.name ≠ "")
    (hflagged : ∀ group ∈ groups, group.builtIn = BuiltInGroups.isBuiltInName group.name) :
    (groups.map Group.toJson).foldlM loadGroup registry =
      some ((groups.map reread).foldl GroupRegistry.upsert registry) := by
  induction groups generalizing registry with
  | nil => rfl
  | cons group groups ih =>
    have hload : loadGroup registry group.toJson = some (registry.upsert (reread group)) := by
      have hread : Group.fromJson group.toJson = some (reread group) := by
        rw [Group.fromJson_toJson, reread, hflagged group List.mem_cons_self]
      have hname : (reread group).name ≠ "" := hnamed group List.mem_cons_self
      unfold loadGroup
      rw [hread]
      exact congrArg some (if_neg hname)
    rw [List.map_cons, List.foldlM_cons, hload]
    exact ih (fun later hlater => hnamed later (List.mem_cons_of_mem _ hlater))
      (fun later hlater => hflagged later (List.mem_cons_of_mem _ hlater))

theorem loadFile_saveFile (h : registry.Kept) :
    loadFile ofDouble (some (saveFile registry)) =
      some ((registry.groups.map reread).foldl GroupRegistry.upsert
        GroupRegistry.withBuiltIns) := by
  have hgroups : (registry.groups.map Group.toJson).foldlM loadGroup GroupRegistry.withBuiltIns =
      some ((registry.groups.map reread).foldl GroupRegistry.upsert GroupRegistry.withBuiltIns) :=
    foldlM_loadGroup_toJson h.named h.flagged
  have hversion : (saveFile registry).member "schema_version" =
      some (.integer authStoreSchemaVersion) :=
    Json.member_setField_self ..
  have hentries : (saveFile registry).member "groups" =
      some (.array (registry.groups.map Group.toJson)) := by
    unfold saveFile
    rw [Json.member_setField_of_ne (by decide)]
    exact Json.member_object_cons_self ..
  have hfile : loadAuthStoreFile ofDouble (saveFile registry) = some (saveFile registry) := by
    have hread : (saveFile registry).valueOr "schema_version" 0 (Json.readUInt32 ofDouble) =
        some (UInt32.ofInt authStoreSchemaVersion) := Json.valueOr_of_member hversion
    unfold loadAuthStoreFile
    rw [hread, Option.bind_eq_bind, Option.bind_some, if_pos rfl]
  have hvalue : (saveFile registry).valueOr "groups" (.array []) some =
      some (.array (registry.groups.map Group.toJson)) := Json.valueOr_of_member hentries
  show (loadAuthStoreFile ofDouble (saveFile registry)).bind _ = _
  rwa [hfile, Option.bind_some, hvalue]

theorem find?_map_reread {groups : List Group} {name : String} :
    ((groups.map reread).find? fun group => group.name == name) =
      (groups.find? fun group => group.name == name).map reread := by
  rw [List.find?_map]
  rfl

theorem find_reload (h : registry.Kept) (name : String) :
    ((registry.groups.map reread).foldl GroupRegistry.upsert GroupRegistry.withBuiltIns).find
      name = (registry.find name).map reread := by
  have hnodup : ((registry.groups.map reread).map Group.name).Nodup := by
    rw [List.map_map]
    exact registry.names_nodup
  rw [find_foldl_upsert hnodup, find?_map_reread]
  show ((registry.find name).map reread).or _ = _
  cases hfind : registry.find name with
  | some group => rfl
  | none =>
    -- then the name is none of the built-in groups
    have hother : BuiltInGroups.isBuiltInName name = false := by
      rw [Bool.eq_false_iff]
      intro hname
      have hthere := h.builtIns name hname
      rw [hfind] at hthere
      cases hthere
    have hnone : GroupRegistry.withBuiltIns.find name = none := by
      rw [GroupRegistry.find_eq_none_iff]
      intro group hgroup hname
      have hflagged := GroupRegistry.kept_withBuiltIns.flagged group hgroup
      have hbuiltIn : ∀ group ∈ GroupRegistry.withBuiltIns.groups, group.builtIn := by
        decide
      rw [hbuiltIn group hgroup, hname, hother] at hflagged
      cases hflagged
    rw [hnone]
    rfl

theorem sameEntitlements_of_find {reloaded : GroupRegistry}
    (hfind : ∀ name, reloaded.find name = (registry.find name).map reread)
    (direct : EntitlementSet) (memberships : List String) :
    SameEntitlements (reloaded.resolveEffectiveEntitlements direct memberships)
      (registry.resolveEffectiveEntitlements direct memberships) := by
  have hholds : ∀ name entitlement,
      reloaded.Holds name entitlement ↔ registry.Holds name entitlement := by
    intro name entitlement
    unfold GroupRegistry.Holds
    rw [hfind name]
    cases registry.find name with
    | none => simp
    | some group => simp [reread]
  intro entitlement
  simp only [GroupRegistry.mem_resolveEffectiveEntitlements, hholds]

end GroupStore

/-! ## Nothing is lost in text -/

/-- The entitlements decide as before when they come back from a group, a user or an API key that
was written to its file, and from a token that carries them. -/
structure SurvivesText (ofDouble : UInt64 → ℤ) (set : EntitlementSet) : Prop where
  text : DecidesAlike (EntitlementSet.parse set.toStrings) set
  group : ∀ name builtIn, ∃ group,
    Group.fromJson (Group.toJson ⟨name, set, builtIn⟩) = some group ∧
      DecidesAlike group.entitlements set
  user : ∀ record : UserRecord, ∃ user,
    UserRecord.fromJson ofDouble { record with directEntitlements := set }.toJson = some user ∧
      DecidesAlike user.directEntitlements set
  apiKey : ∀ record : ApiKeyRecord, ∃ key,
    ApiKeyRecord.fromJson ofDouble { record with entitlements := set }.toJson = some key ∧
      DecidesAlike key.entitlements set
  token : ∀ (codec : JwtCodec) (claims verified : TokenClaims) (now later : ℤ),
    codec.verify (codec.sign { claims with entitlements := set.toStrings } now) later =
      some verified → verified.entitlementsInToken →
    DecidesAlike (EntitlementSet.parse verified.entitlements) set

theorem survivesText (set : EntitlementSet) : SurvivesText ofDouble set where
  text := (sameEntitlements_parse set).decidesAlike
  group name builtIn := ⟨_, Group.fromJson_toJson _, (sameEntitlements_parse set).decidesAlike⟩
  user record :=
    ⟨_, UserRecord.fromJson_toJson ofDouble _, (sameEntitlements_parse set).decidesAlike⟩
  apiKey record :=
    ⟨_, ApiKeyRecord.fromJson_toJson ofDouble _, (sameEntitlements_parse set).decidesAlike⟩
  token codec claims verified now later hverified hcarried := by
    rw [verify_sign hverified hcarried]
    exact (sameEntitlements_parse set).decidesAlike

/-- **Rights survive their text.**  Whatever groups are loaded and however they are edited, the
registry has each group once, with the built-in ones among them and flagged; and the file that is
written then is loaded as a registry under which every subject has the same entitlements, and every
request is decided the same.  So are the entitlements that pass through text anywhere else. -/
theorem rights_survive_text {document : Option Json} {registry : GroupRegistry}
    (h : GroupStore.loadFile ofDouble document = some registry) (edits : List GroupEdit) :
    let edited := edits.foldl GroupRegistry.edit registry
    ((edited.groups.map Group.name).Nodup ∧ edited.Kept) ∧
      (∃ reloaded,
        GroupStore.loadFile ofDouble (some (GroupStore.saveFile edited)) = some reloaded ∧
        ∀ direct memberships,
          SameEntitlements (reloaded.resolveEffectiveEntitlements direct memberships)
            (edited.resolveEffectiveEntitlements direct memberships) ∧
          DecidesAlike (reloaded.resolveEffectiveEntitlements direct memberships)
            (edited.resolveEffectiveEntitlements direct memberships)) ∧
      ∀ set, SurvivesText ofDouble set := by
  intro edited
  have hkept : edited.Kept := (GroupStore.kept_loadFile h).edits edits
  refine ⟨⟨edited.names_nodup, hkept⟩, ⟨_, GroupStore.loadFile_saveFile hkept, ?_⟩,
    survivesText ofDouble⟩
  intro direct memberships
  have hsame := GroupStore.sameEntitlements_of_find (GroupStore.find_reload hkept) direct
    memberships
  exact ⟨hsame, hsame.decidesAlike⟩

def guestFile : Json :=
  .object
    [("groups", .array
      [.object [("entitlements", .array [.string "equipment.view"]), ("name", .string "Guest")],
        .object [("entitlements", .array [.string "schedules.view:*"]), ("name", .string "")],
        .object [("entitlements", .array [.string "equipment.control.aux:a:b", .string "view"]),
          ("name", .string "Guest")],
        .object [("name", .string "Pool boys")]]),
      ("schema_version", .integer 1)]

def guestRegistry : GroupRegistry :=
  (GroupStore.loadFile (fun _ => 0) (some guestFile)).getD .withBuiltIns

theorem rights_survive_text_guest :
    (([.remove "Guest", .remove "Pool boys"].foldl GroupRegistry.edit guestRegistry).groups.map
      Group.name).Nodup :=
  (@rights_survive_text (fun _ => 0) (some guestFile) guestRegistry rfl
    [.remove "Guest", .remove "Pool boys"]).1.1

end AqualinkAutomate.Auth
