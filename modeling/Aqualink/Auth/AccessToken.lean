import Aqualink.Auth.Administration

/-!
# Access tokens

The signed tokens that requests carry.  A token embeds the effective entitlements its
user had when it was minted, unless their text is too large; it also embeds the user's
token version, and resolution rejects a token whose version is not the current one.

A token is modelled by its decoded payload together with the secret it was signed with:
a signature verifies under a key exactly when that key made it.  Times are in seconds.
-/

namespace AqualinkAutomate.Auth

inductive SubjectProvider where
  | anonymous
  | localAccount
  | apiKey
  | oidc
  | proxy
  | kioskPin
  deriving DecidableEq

structure TokenClaims where
  subject : String
  provider : SubjectProvider
  tokenVersion : UInt32
  groups : List String
  entitlements : List String
  entitlementsInToken : Bool := true
  deriving DecidableEq

/-- Who a request is made by. -/
structure Subject where
  id : String
  username : String := ""
  authenticated : Bool
  provider : SubjectProvider
  groups : List String
  entitlements : EntitlementSet
  tokenVersion : UInt32
  deriving DecidableEq

/-! ## Signing and verifying -/

structure SigningKey where
  kid : String
  secret : List UInt8
  deriving DecidableEq

structure JwtKeyStore where
  active : SigningKey
  grace : List SigningKey
  deriving DecidableEq

def JwtKeyStore.find (keys : JwtKeyStore) (kid : String) : Option SigningKey :=
  (keys.active :: keys.grace).find? fun key => key.kid == kid

structure JwtCodec where
  keys : JwtKeyStore
  issuer : String := "aqualink-automate"
  audience : String := "aqualink-automate"
  accessTokenTtl : ℤ := 15 * 60
  leewaySeconds : ℤ := 60
  entClaimBudgetBytes : ℕ := 2048
  deriving DecidableEq

/-- The payload of a signed token; without `ent` the entitlements were elided. -/
structure Token where
  kid : String
  signedWith : List UInt8
  issuer : String
  audience : String
  issuedAt : ℤ
  expiresAt : ℤ
  subject : String
  provider : SubjectProvider
  tokenVersion : UInt32
  groups : List String
  ent : Option (List String)
  deriving DecidableEq

/-- The bytes a character takes in a JSON string. -/
def jsonCharSize (ch : Char) : ℕ :=
  if ch ∈ ['"', '\\', '\x08', '\x0c', '\n', '\r', '\t'] then
    2
  else if ch.toNat < 0x20 then
    6 -- \u00XX
  else
    ch.utf8Size

def jsonStringSize (text : String) : ℕ := 2 + (text.toList.map jsonCharSize).foldl (· + ·) 0

def jsonArraySize : List String → ℕ
  | [] => 2
  | first :: rest =>
    2 + jsonStringSize first + (rest.map fun text => 1 + jsonStringSize text).foldl (· + ·) 0

namespace JwtCodec

def sign (codec : JwtCodec) (claims : TokenClaims) (now : ℤ) : Token where
  kid := codec.keys.active.kid
  signedWith := codec.keys.active.secret
  issuer := codec.issuer
  audience := codec.audience
  issuedAt := now
  expiresAt := now + codec.accessTokenTtl
  subject := claims.subject
  provider := claims.provider
  tokenVersion := claims.tokenVersion
  groups := claims.groups
  ent :=
    if jsonArraySize claims.entitlements ≤ codec.entClaimBudgetBytes then
      some claims.entitlements
    else
      none

def verify (codec : JwtCodec) (token : Token) (now : ℤ) : Option TokenClaims :=
  match codec.keys.find token.kid with
  | none => none
  | some key =>
    if key.secret = token.signedWith ∧ token.issuer = codec.issuer ∧
        token.audience = codec.audience ∧ token.issuedAt - codec.leewaySeconds ≤ now ∧
        now ≤ token.expiresAt + codec.leewaySeconds then
      some
        { subject := token.subject
          provider := token.provider
          tokenVersion := token.tokenVersion
          groups := token.groups
          entitlements := token.ent.getD []
          entitlementsInToken := token.ent.isSome }
    else
      none

theorem verify_eq_some {codec : JwtCodec} {token : Token} {now : ℤ} {claims : TokenClaims}
    (h : codec.verify token now = some claims) :
    claims = { subject := token.subject, provider := token.provider,
               tokenVersion := token.tokenVersion, groups := token.groups,
               entitlements := token.ent.getD [], entitlementsInToken := token.ent.isSome } := by
  rw [verify] at h
  split at h
  · simp at h
  · split at h
    · exact (Option.some_inj.mp h).symm
    · simp at h

end JwtCodec

/-! ## Minting and resolving -/

namespace AuthStores

def accessClaims (user : UserRecord) (registry : GroupRegistry) : TokenClaims where
  subject := user.id
  provider := .localAccount
  tokenVersion := user.tokenVersion
  groups := user.groups
  entitlements := (user.effectiveEntitlements registry).toStrings

/-- Mint an access token for a user.  The record is read again, so that the version is
the current one; a record that is gone stands for itself. -/
def mintAccessToken (codec : JwtCodec) (stores : AuthStores) (user : UserRecord) (now : ℤ) :
    Token :=
  codec.sign (accessClaims ((stores.users.findById user.id).getD user) stores.registry) now

def mintKioskToken (codec : JwtCodec) (stores : AuthStores) (now : ℤ) : Token :=
  let groups := [stores.kiosk.targetGroup]
  codec.sign
    { subject := "kiosk"
      provider := .kioskPin
      tokenVersion := stores.kiosk.tokenVersion
      groups := groups
      entitlements := (stores.registry.resolveEffectiveEntitlements .empty groups).toStrings } now

/-- Every logged-in user may manage what is their own. -/
def grantImplicitSelfEntitlements (subject : Subject) : Subject :=
  { subject with entitlements := subject.entitlements.add Vocabulary.prefsSelfEntitlement }

def resolveClaims (stores : AuthStores) (claims : TokenClaims) : Option Subject :=
  let subject (groups : List String) (direct : EntitlementSet) : Subject :=
    { id := claims.subject
      authenticated := true
      provider := claims.provider
      groups := groups
      entitlements :=
        if claims.entitlementsInToken then
          EntitlementSet.parse claims.entitlements
        else
          stores.registry.resolveEffectiveEntitlements direct groups
      tokenVersion := claims.tokenVersion }
  if claims.provider = .kioskPin then
    if stores.kiosk.enabled = false ∨ stores.kiosk.tokenVersion ≠ claims.tokenVersion then
      none
    else
      some (subject claims.groups .empty)
  else
    match stores.users.findById claims.subject with
    | none => none
    | some user =>
      if user.disabled = true ∨ user.tokenVersion ≠ claims.tokenVersion then
        none -- stale: the store's version was bumped
      else
        some (grantImplicitSelfEntitlements
          { subject user.groups user.directEntitlements with username := user.username })

/-- The subject of a request that carries the token, if the token is accepted. -/
def resolveJwt (codec : JwtCodec) (stores : AuthStores) (token : Token) (now : ℤ) :
    Option Subject :=
  (codec.verify token now).bind stores.resolveClaims

theorem resolveClaims_local {stores : AuthStores} {claims : TokenClaims} {subject : Subject}
    (hprovider : claims.provider ≠ .kioskPin) (h : stores.resolveClaims claims = some subject) :
    ∃ user, stores.users.findById claims.subject = some user ∧
      user.tokenVersion = claims.tokenVersion ∧
      subject.entitlements =
        (if claims.entitlementsInToken then EntitlementSet.parse claims.entitlements
          else user.effectiveEntitlements stores.registry).add
            Vocabulary.prefsSelfEntitlement := by
  simp only [resolveClaims, if_neg hprovider] at h
  split at h
  · simp at h
  · next user hfind =>
      split at h
      · simp at h
      · next hcurrent =>
          simp only [not_or, not_not] at hcurrent
          exact ⟨user, hfind, hcurrent.2, by rw [← Option.some_inj.mp h]; rfl⟩

end AuthStores

end AqualinkAutomate.Auth
