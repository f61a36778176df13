import Aqualink.Auth.Entitlement
import Aqualink.Auth.SessionStore
import Aqualink.General.FileWrites

/-!
# The API key store

Machine credentials.  As for sessions, a key's secret is handed out once and only its
SHA-256 digest is stored; a presented secret is looked up by its digest.  The token of the
older configuration is seeded as a key of its own, which administers the system.

Each operation says what it does to the keys in memory (`General.Persisted`).  The random
bytes, the UUID and the clock reading are its inputs.
-/

namespace AqualinkAutomate.Auth

open General

structure ApiKeyRecord where
  id : String := ""
  label : String := ""
  secretSha256Hex : String := ""
  entitlements : EntitlementSet := .empty
  /-- Zero for a key that never expires. -/
  expiryUnix : ℤ := 0
  /-- Zero for a key that was never used. -/
  lastUsedUnix : ℤ := 0
  revoked : Bool := false
  deriving DecidableEq

namespace ApiKeyStore

def bootstrapKeyId : String := "bootstrap-legacy-token"

def bootstrapKey (digest : String) : ApiKeyRecord where
  id := bootstrapKeyId
  label := "Legacy --api-auth-token (bootstrap)"
  secretSha256Hex := digest
  entitlements := EntitlementSet.empty.add Vocabulary.systemAdminEntitlement

variable (sha256 : String → Bytes32) (keys : List ApiKeyRecord)

def findById (id : String) : Option ApiKeyRecord := keys.find? fun key => key.id == id

def create (label : String) (entitlements : EntitlementSet) (expiryUnix : ℤ) (random : Bytes32)
    (uuid : String) : Mutation (List ApiKeyRecord) String :=
  let secret := "aak_" ++ hex random.toList
  let key : ApiKeyRecord :=
    { id := uuid
      label := label
      secretSha256Hex := sha256Hex sha256 secret
      entitlements := entitlements
      expiryUnix := expiryUnix }
  .change (keys ++ [key]) secret

def seedBootstrapKey (legacyToken : String) : Mutation (List ApiKeyRecord) Unit :=
  if legacyToken = "" then
    .reply ()
  else
    let digest := sha256Hex sha256 legacyToken
    match findById keys bootstrapKeyId with
    | none => .change (keys ++ [bootstrapKey digest]) ()
    | some seeded =>
      if seeded.secretSha256Hex = digest then
        .reply ()
      else
        .change (modifyFirst (fun key => key.id == bootstrapKeyId)
          (fun _ => bootstrapKey digest) keys) ()

/-- Neither revoked nor expired. -/
def active (key : ApiKeyRecord) (nowUnix : ℤ) : Bool :=
  !(key.revoked || (key.expiryUnix != 0 && decide (key.expiryUnix ≤ nowUnix)))

def authenticate (presentedSecret : String) (nowUnix : ℤ) :
    Mutation (List ApiKeyRecord) (Option ApiKeyRecord) :=
  if presentedSecret = "" then
    .reply none
  else
    let digest := sha256Hex sha256 presentedSecret
    match keys.find? fun key => key.secretSha256Hex == digest with
    | none => .reply none
    | some key =>
      if active key nowUnix then
        let used := { key with lastUsedUnix := nowUnix }
        .change (modifyFirst (fun key => key.secretSha256Hex == digest) (fun _ => used) keys)
          (some used)
      else
        .reply none

def revoke (id : String) : Mutation (List ApiKeyRecord) (Except String Unit) :=
  if (findById keys id).isNone then
    .reply (.error "API key not found")
  else
    .change (modifyFirst (fun key => key.id == id) (fun key => { key with revoked := true }) keys)
      (.ok ())

end ApiKeyStore

end AqualinkAutomate.Auth
