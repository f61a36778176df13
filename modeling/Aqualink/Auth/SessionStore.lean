import Mathlib.Data.String.Basic
import Aqualink.General.FirstMatch

/-!
# The session store

One record per login session, persisted to a file so that sessions survive a restart.
The refresh secret is handed out once, when the session is opened or rotated, and only
its SHA-256 digest is stored.  A rotation replaces the digest and remembers the one
before it: a secret that matches a *previous* digest was rotated out and is being
replayed, so its session is revoked.

The random bytes and the UUID that an operation draws, and the clock reading it takes,
are its inputs; SHA-256 is a parameter.  A file is kept as the list of its JSON objects,
that is up to the text form; every mutation saves it.
-/

namespace AqualinkAutomate.Auth

open General

/-! ## Secrets and digests -/

def hexDigit (nibble : UInt8) : Char := "0123456789abcdef".toList.getD nibble.toNat '0'

def byteHex (byte : UInt8) : List Char := [hexDigit (byte >>> 4), hexDigit (byte &&& 0x0F)]

def hex (bytes : List UInt8) : String := String.ofList (bytes.flatMap byteHex)

/-- The 32 bytes of a digest, or of a random draw. -/
abbrev Bytes32 : Type := Vector UInt8 32

def sha256Hex (sha256 : String → Bytes32) (data : String) : String := hex (sha256 data).toList

/-- `GenerateSecret`, from the random bytes drawn. -/
def generateSecret (random : Bytes32) : String := "art_" ++ hex random.toList

def byteOfHex : List Char → UInt8
  | [high, low] =>
    let nibble (digit : Char) := UInt8.ofNat ("0123456789abcdef".toList.idxOf digit)
    nibble high <<< 4 ||| nibble low
  | _ => 0

theorem byteHex_injective : Function.Injective byteHex := by
  have hleft : ∀ n : Fin 256, byteOfHex (byteHex (UInt8.ofNat n)) = UInt8.ofNat n := by
    decide +kernel
  refine Function.LeftInverse.injective (g := byteOfHex) ?_
  intro byte
  have hbyte := hleft ⟨byte.toNat, byte.toNat_lt⟩
  simpa using hbyte

theorem hex_injective : Function.Injective hex := by
  intro first second h
  rw [hex, hex, String.ofList_inj] at h
  induction first generalizing second with
  | nil => cases second <;> simp_all [byteHex]
  | cons byte first ih =>
    cases second with
    | nil => simp [byteHex] at h
    | cons byte' second =>
      simp only [List.flatMap_cons] at h
      obtain ⟨hhead, htail⟩ := List.append_inj h rfl
      rw [byteHex_injective hhead, ih htail]

theorem sha256Hex_eq_iff {sha256 : String → Bytes32} {first second : String} :
    sha256Hex sha256 first = sha256Hex sha256 second ↔ sha256 first = sha256 second := by
  refine ⟨fun h => ?_, fun h => by rw [sha256Hex, sha256Hex, h]⟩
  exact Vector.toList_inj.mp (hex_injective h)

theorem sha256Hex_ne_empty (sha256 : String → Bytes32) (data : String) :
    sha256Hex sha256 data ≠ "" := by
  intro h
  have hempty : (sha256 data).toList = [] := hex_injective (h.trans (by decide))
  have hlength := congrArg List.length hempty
  simp at hlength

/-! ## The records and their file -/

structure SessionRecord where
  id : String
  userId : String
  refreshDigest : String
  previousDigest : String := ""
  issuedUnix : ℤ
  expiryUnix : ℤ
  lastSeenUnix : ℤ
  userAgent : String
  peerIp : String
  deriving DecidableEq

/-- The values that the store writes into a JSON object. -/
inductive JsonValue where
  | string (text : String)
  | integer (number : ℤ)
  deriving DecidableEq

abbrev JsonObject : Type := List (String × JsonValue)

namespace JsonObject

/-- `json.value(key, fallback)` for a text. -/
def textAt (json : JsonObject) (key fallback : String) : String :=
  match json.lookup key with
  | some (.string text) => text
  | _ => fallback

/-- `json.value(key, fallback)` for a number. -/
def numberAt (json : JsonObject) (key : String) (fallback : ℤ) : ℤ :=
  match json.lookup key with
  | some (.integer number) => number
  | _ => fallback

end JsonObject

namespace SessionRecord

def toJson (session : SessionRecord) : JsonObject :=
  [("id", .string session.id), ("user_id", .string session.userId),
    ("refresh_sha256", .string session.refreshDigest),
    ("previous_sha256", .string session.previousDigest),
    ("issued", .integer session.issuedUnix),
    ("expiry", .integer session.expiryUnix),
    ("last_seen", .integer session.lastSeenUnix),
    ("user_agent", .string session.userAgent),
    ("peer_ip", .string session.peerIp)]

def fromJson (json : JsonObject) : SessionRecord where
  id := json.textAt "id" ""
  userId := json.textAt "user_id" ""
  refreshDigest := json.textAt "refresh_sha256" ""
  previousDigest := json.textAt "previous_sha256" ""
  issuedUnix := json.numberAt "issued" 0
  expiryUnix := json.numberAt "expiry" 0
  lastSeenUnix := json.numberAt "last_seen" 0
  userAgent := json.textAt "user_agent" ""
  peerIp := json.textAt "peer_ip" ""

@[simp] theorem fromJson_toJson (session : SessionRecord) :
    fromJson session.toJson = session := rfl

end SessionRecord

structure SessionStore where
  sessions : List SessionRecord
  file : Option (List JsonObject)
  deriving DecidableEq

structure RotateResult where
  success : Bool := false
  reuseDetected : Bool := false
  newRefreshSecret : String := ""
  sessionId : String := ""
  userId : String := ""
  deriving DecidableEq

namespace SessionStore

/-- Before the first session was ever opened there is no file. -/
def empty : SessionStore := ⟨[], none⟩

def save (sessions : List SessionRecord) : SessionStore :=
  ⟨sessions, some (sessions.map SessionRecord.toJson)⟩

def load (file : Option (List JsonObject)) : SessionStore :=
  ⟨(file.getD []).map SessionRecord.fromJson, file⟩

def create (sha256 : String → Bytes32) (store : SessionStore) (userId : String) (expiryUnix : ℤ)
    (userAgent peerIp : String) (nowUnix : ℤ) (random : Bytes32) (uuid : String) :
    SessionStore × String × String :=
  let secret := generateSecret random
  let session : SessionRecord :=
    { id := uuid
      userId := userId
      refreshDigest := sha256Hex sha256 secret
      issuedUnix := nowUnix
      expiryUnix := expiryUnix
      lastSeenUnix := nowUnix
      userAgent := userAgent
      peerIp := peerIp }
  (save (store.sessions ++ [session]), secret, uuid)

def rotateRecord (newDigest : String) (nowUnix : ℤ) (session : SessionRecord) : SessionRecord :=
  { session with
    previousDigest := session.refreshDigest
    refreshDigest := newDigest
    lastSeenUnix := nowUnix }

/-- Exchange a presented secret for a fresh one. -/
def rotate (sha256 : String → Bytes32) (store : SessionStore) (presentedSecret : String)
    (nowUnix : ℤ) (random : Bytes32) : SessionStore × RotateResult :=
  if presentedSecret = "" then
    (store, {})
  else
    let digest := sha256Hex sha256 presentedSecret
    match store.sessions.find? fun session => session.previousDigest == digest with
    | some reused =>
      -- a rotated-out secret is replayed: revoke the whole session
      (save (store.sessions.eraseP fun session => session.previousDigest == digest),
        { reuseDetected := true, sessionId := reused.id, userId := reused.userId })
    | none =>
      match store.sessions.find? fun session => session.refreshDigest == digest with
      | none => (store, {})
      | some session =>
        if session.expiryUnix ≤ nowUnix then
          (save (store.sessions.eraseP fun session => session.refreshDigest == digest), {})
        else
          let newSecret := generateSecret random
          (save (modifyFirst (fun session => session.refreshDigest == digest)
              (rotateRecord (sha256Hex sha256 newSecret) nowUnix) store.sessions),
            { success := true, newRefreshSecret := newSecret, sessionId := session.id,
              userId := session.userId })

/-- Erase the sessions that satisfy `p`, saving when there was one; how many there were. -/
def eraseIf (store : SessionStore) (p : SessionRecord → Bool) : SessionStore × ℕ :=
  let removed := store.sessions.countP p
  (if removed > 0 then save (store.sessions.filter fun session => !p session) else store, removed)

def revokeByRefresh (sha256 : String → Bytes32) (store : SessionStore)
    (presentedSecret : String) : SessionStore × Bool :=
  let (store, removed) := store.eraseIf fun session =>
    session.refreshDigest == sha256Hex sha256 presentedSecret
  (store, removed > 0)

def revokeById (store : SessionStore) (sessionId : String) : SessionStore × Bool :=
  let (store, removed) := store.eraseIf fun session => session.id == sessionId
  (store, removed > 0)

def revokeAllForUser (store : SessionStore) (userId : String) : SessionStore × ℕ :=
  store.eraseIf fun session => session.userId == userId

def pruneExpired (store : SessionStore) (nowUnix : ℤ) : SessionStore :=
  (store.eraseIf fun session => decide (session.expiryUnix ≤ nowUnix)).1

/-! ## Runs of the store -/

/-- An operation on the store with the inputs it takes and the draws it makes. -/
inductive Operation where
  | create (userId : String) (expiryUnix : ℤ) (userAgent peerIp : String) (nowUnix : ℤ)
      (random : Bytes32) (uuid : String)
  | rotate (presentedSecret : String) (nowUnix : ℤ) (random : Bytes32)
  | revokeByRefresh (presentedSecret : String)
  | revokeById (sessionId : String)
  | revokeAllForUser (userId : String)
  | pruneExpired (nowUnix : ℤ)
  | reload
  deriving DecidableEq

inductive Reply where
  | opened (secret sessionId : String)
  | rotated (result : RotateResult)
  | revoked (any : Bool)
  | dropped (count : ℕ)
  | done
  deriving DecidableEq

def perform (sha256 : String → Bytes32) (store : SessionStore) : Operation → SessionStore × Reply
  | .create userId expiryUnix userAgent peerIp nowUnix random uuid =>
    let (store, secret, sessionId) :=
      store.create sha256 userId expiryUnix userAgent peerIp nowUnix random uuid
    (store, .opened secret sessionId)
  | .rotate presentedSecret nowUnix random =>
    let (store, result) := store.rotate sha256 presentedSecret nowUnix random
    (store, .rotated result)
  | .revokeByRefresh presentedSecret =>
    let (store, any) := store.revokeByRefresh sha256 presentedSecret
    (store, .revoked any)
  | .revokeById sessionId =>
    let (store, any) := store.revokeById sessionId
    (store, .revoked any)
  | .revokeAllForUser userId =>
    let (store, count) := store.revokeAllForUser userId
    (store, .dropped count)
  | .pruneExpired nowUnix => (store.pruneExpired nowUnix, .done)
  | .reload => (load store.file, .done)

end SessionStore

end AqualinkAutomate.Auth
