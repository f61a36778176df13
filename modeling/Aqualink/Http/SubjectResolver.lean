import Aqualink.Auth.ApiKeyStore
import Aqualink.General.Texts
import Aqualink.Scheduling.Authority

/-!
# Who a request is made by

A request carries its credential in a header: in `Authorization`, or for a WebSocket upgrade,
where a browser cannot set that one, as an entry `bearer.<token>` of the subprotocols that it
offers.  The credential is tried as a token of a session and then as the secret of an API key.  A
request without one that is accepted is the anonymous guest's, who has what the groups `Guest` and
`Everyone` were given.

What a text is as a signed token, and the digest of a secret, are parameters.
-/

namespace AqualinkAutomate.Http

open Auth General List Option

/-! ## Headers -/

abbrev Headers : Type := List (String × String)

def headerValue (headers : Headers) (name : String) : Option String :=
  (headers.find? fun header => lowercase header.1 == lowercase name).map Prod.snd

def splitEntries : List Char → List (List Char)
  | [] => [[]]
  | ',' :: rest => [] :: splitEntries rest
  | char :: rest =>
    match splitEntries rest with
    | entry :: entries => (char :: entry) :: entries
    | [] => [[char]]

def isBlank (char : Char) : Bool := char == ' ' || char == '\t'

def bearerPrefix : List Char := "bearer.".toList

/-- The token of the first entry that offers one. -/
def bearerEntry (header : List Char) : List Char :=
  (((splitEntries header).map (trimBy isBlank)).findSome? fun entry =>
    if bearerPrefix.isPrefixOf entry then some (entry.drop bearerPrefix.length) else none).getD []

/-- `WebSocketSubprotocolBearerToken`, which the router and the resolver each have. -/
def webSocketSubprotocolBearerToken (headers : Headers) : String :=
  match headerValue headers "Sec-WebSocket-Protocol" with
  | none => ""
  | some header => String.ofList (bearerEntry header.toList)

def bearerToken (headers : Headers) (isWebSocketUpgrade : Bool) : String :=
  if isWebSocketUpgrade then
    webSocketSubprotocolBearerToken headers
  else
    match headerValue headers "Authorization" with
    | none => ""
    | some header =>
      if "Bearer ".toList.isPrefixOf header.toList then
        String.ofList (header.toList.drop "Bearer ".toList.length)
      else ""

/-! ## The resolver -/

/-- What credentials are checked with. -/
structure Credentials where
  codec : JwtCodec
  /-- What a text is as a token. -/
  readToken : String → Option Token
  sha256 : String → Bytes32

/-- The stores that decide about a request. -/
structure SubjectStores where
  auth : AuthStores
  apiKeys : List ApiKeyRecord

namespace SubjectStores

variable (credentials : Credentials) (stores : SubjectStores) (now : ℤ)

def anonymousGuest : Subject where
  id := "anonymous"
  authenticated := false
  provider := .anonymous
  groups := [BuiltInGroups.guest]
  entitlements :=
    stores.auth.registry.resolveEffectiveEntitlements .empty [BuiltInGroups.guest]
  tokenVersion := 0

def apiKeySubject (key : ApiKeyRecord) : Subject where
  id := key.id
  username := key.label
  authenticated := true
  provider := .apiKey
  groups := []
  entitlements := key.entitlements
  tokenVersion := 0

def authenticateApiKey (secret : String) : Option ApiKeyRecord × List ApiKeyRecord :=
  match ApiKeyStore.authenticate credentials.sha256 stores.apiKeys secret now with
  | .reply result => (result, stores.apiKeys)
  | .change keys result => (result, keys)

def resolveCredential (token : String) : Option Subject × SubjectStores :=
  if token = "" then (none, stores)
  else
    -- a session first, and what is no session's token may be a key
    match (credentials.readToken token).bind fun signed =>
        stores.auth.resolveJwt credentials.codec signed now with
    | some subject => (some subject, stores)
    | none =>
      let (key, apiKeys) := stores.authenticateApiKey credentials now token
      (key.map apiKeySubject, { stores with apiKeys := apiKeys })

def resolveSubject (headers : Headers) (isWebSocketUpgrade : Bool) : Subject × SubjectStores :=
  let (subject, stores) :=
    stores.resolveCredential credentials now (bearerToken headers isWebSocketUpgrade)
  (subject.getD stores.anonymousGuest, stores)

end SubjectStores

/-! ## The offer of a token -/

section

variable {char : Char} {header rest entry token : List Char} {entries : List (List Char)}

theorem splitEntries_cons (hchar : char ≠ ',') (h : splitEntries rest = entry :: entries) :
    splitEntries (char :: rest) = (char :: entry) :: entries := by
  rw [splitEntries.eq_3 _ _ (fun heq => hchar heq), h]

theorem splitEntries_ne_nil : splitEntries header ≠ [] := by
  induction header with
  | nil => exact cons_ne_nil _ _
  | cons char rest ih =>
    obtain ⟨entry, entries, hrest⟩ := exists_cons_of_ne_nil ih
    by_cases hchar : char = ','
    · subst hchar
      exact cons_ne_nil _ _
    · rw [splitEntries_cons hchar hrest]
      exact cons_ne_nil _ _

theorem comma_notMem_of_mem_splitEntries (h : entry ∈ splitEntries header) : ',' ∉ entry := by
  induction header generalizing entry with
  | nil =>
    obtain rfl := List.mem_singleton.mp h
    exact not_mem_nil
  | cons char rest ih =>
    by_cases hchar : char = ','
    · subst hchar
      obtain rfl | hrest := List.mem_cons.mp h
      · exact not_mem_nil
      · exact ih hrest
    · obtain ⟨first, entries, hrest⟩ := exists_cons_of_ne_nil (@splitEntries_ne_nil rest)
      rw [hrest] at ih
      rw [splitEntries_cons hchar hrest] at h
      obtain rfl | hlater := List.mem_cons.mp h
      · rw [mem_cons, not_or]
        exact ⟨Ne.symm hchar, ih mem_cons_self⟩
      · exact ih (mem_cons_of_mem _ hlater)

theorem splitEntries_of_comma_notMem (h : ',' ∉ entry) : splitEntries entry = [entry] := by
  induction entry with
  | nil => rfl
  | cons char rest ih =>
    rw [mem_cons, not_or] at h
    exact splitEntries_cons (Ne.symm h.1) (ih h.2)

theorem bearerEntry_bearerPrefix_append :
    bearerEntry (bearerPrefix ++ bearerEntry header) = bearerEntry header := by
  cases hfound : ((splitEntries header).map (trimBy isBlank)).findSome? fun entry =>
      if bearerPrefix.isPrefixOf entry then some (entry.drop bearerPrefix.length) else none with
  | none =>
    rw [bearerEntry.eq_def header, hfound]
    decide
  | some token =>
    have htoken : bearerEntry header = token := by rw [bearerEntry, hfound, getD_some]
    obtain ⟨entry, hentry, hoffer⟩ := exists_of_findSome?_eq_some hfound
    obtain ⟨written, hwritten, rfl⟩ := List.mem_map.mp hentry
    split at hoffer
    next hprefix =>
      obtain ⟨token', happend⟩ := List.isPrefixOf_iff_prefix.mp hprefix
      have hsame : token' = token := by
        rw [← happend] at hoffer
        simpa using hoffer
      subst hsame
      -- without a comma, or a blank at its end, the entry is the one entry of its own header
      have hcomma : ',' ∉ bearerPrefix ++ token' := by
        rw [happend]
        intro hmem
        exact comma_notMem_of_mem_splitEntries hwritten (mem_of_mem_trimBy hmem)
      have htrimmed : trimBy isBlank (bearerPrefix ++ token') = bearerPrefix ++ token' := by
        have hfront : (bearerPrefix ++ token').dropWhile isBlank = bearerPrefix ++ token' := rfl
        rw [trimBy, hfront, happend, trimBy, rdropWhile_idempotent]
      rw [htoken, bearerEntry, splitEntries_of_comma_notMem hcomma, map_singleton, htrimmed]
      simp
    next => cases hoffer

end

/-! ## What is known of the subject -/

section

variable {credentials : Credentials} {stores : SubjectStores} {now : ℤ} {token : String}
variable {subject : Subject}

theorem authenticated_of_resolveClaims {auth : AuthStores} {claims : TokenClaims}
    (h : auth.resolveClaims claims = some subject) : subject.authenticated := by
  simp only [AuthStores.resolveClaims] at h
  split at h
  next =>
    split at h
    next => cases h
    next =>
      cases h
      rfl
  next =>
    split at h
    next => cases h
    next =>
      split at h
      next => cases h
      next =>
        cases h
        rfl

theorem authenticated_of_resolveCredential
    (h : (stores.resolveCredential credentials now token).1 = some subject) :
    subject.authenticated := by
  rw [SubjectStores.resolveCredential] at h
  split at h
  next => cases h
  next =>
    split at h
    next found hfound =>
      cases h
      obtain ⟨signed, -, hresolved⟩ := Option.bind_eq_some_iff.mp hfound
      obtain ⟨claims, -, hclaims⟩ := Option.bind_eq_some_iff.mp hresolved
      exact authenticated_of_resolveClaims hclaims
    next =>
      obtain ⟨key, -, rfl⟩ := Option.map_eq_some_iff.mp h
      rfl

theorem auth_resolveCredential :
    (stores.resolveCredential credentials now token).2.auth = stores.auth := by
  rw [SubjectStores.resolveCredential]
  split
  · rfl
  · split <;> rfl

variable {isWebSocketUpgrade : Bool}

theorem resolveSubject_of_none {headers : Headers}
    (h : (stores.resolveCredential credentials now (bearerToken headers isWebSocketUpgrade)).1 =
      none) :
    (stores.resolveSubject credentials now headers isWebSocketUpgrade).1 =
      stores.anonymousGuest := by
  simp only [SubjectStores.resolveSubject, h, getD_none]
  rw [SubjectStores.anonymousGuest, auth_resolveCredential]
  rfl

theorem resolveSubject_of_some {headers : Headers}
    (h : (stores.resolveCredential credentials now (bearerToken headers isWebSocketUpgrade)).1 =
      some subject) :
    (stores.resolveSubject credentials now headers isWebSocketUpgrade).1 = subject := by
  simp only [SubjectStores.resolveSubject, h, getD_some]

end

end AqualinkAutomate.Http
