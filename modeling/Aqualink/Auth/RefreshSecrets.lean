import Mathlib.Data.List.Cycle
import Aqualink.Auth.SessionStore
import Aqualink.General.Runs

/-!
# Refresh secrets over a run of the session store

The store keeps two digests of a session, that of its current secret and that of the
one before it.  Over a run these digests form a `Ledger`: each is the digest of a
secret that was handed out for that very session, and no digest stands in two places.
A digest that has left the store never comes back, since a new digest is always that
of a fresh secret.  So a secret works once, and one that was rotated out is recognised
until its session is rotated again.

What is assumed of the code that is not modelled is collected in `Fresh`.
-/

namespace AqualinkAutomate.Auth.SessionStore

open General List

variable {sha256 : String → Bytes32} {store store' : SessionStore} {operation : Operation}
  {operations before after : List Operation} {secret sessionId : String}

/-! ## What a run hands out -/

def step (sha256 : String → Bytes32) (store : SessionStore) (operation : Operation) :
    SessionStore :=
  (store.perform sha256 operation).1

def replies (sha256 : String → Bytes32) : SessionStore → List Operation → List Reply
  | _, [] => []
  | store, operation :: rest =>
    (store.perform sha256 operation).2 :: replies sha256 (step sha256 store operation) rest

def Reply.issued : Reply → Option (String × String)
  | .opened secret sessionId => some (secret, sessionId)
  | .rotated result =>
    if result.success then some (result.newRefreshSecret, result.sessionId) else none
  | _ => none

def Reply.reused : Reply → Option String
  | .rotated result => if result.reuseDetected then some result.sessionId else none
  | _ => none

def Reply.rotatedSession : Reply → Option String
  | .rotated result => if result.success then some result.sessionId else none
  | _ => none

/-- The secrets handed out by a run from the empty store, with their sessions. -/
def issued (sha256 : String → Bytes32) (operations : List Operation) : List (String × String) :=
  (replies sha256 empty operations).filterMap Reply.issued

def Operation.opened : Operation → Option (String × ℤ)
  | .create _ expiryUnix _ _ _ _ uuid => some (uuid, expiryUnix)
  | _ => none

/-- The sessions opened by a run, with their expiry. -/
def opened (operations : List Operation) : List (String × ℤ) :=
  operations.filterMap Operation.opened

/-- The state a run from the empty store leads to. -/
abbrev stateAfter (sha256 : String → Bytes32) (operations : List Operation) : SessionStore :=
  operations.foldl (step sha256) empty

def Live (store : SessionStore) (sessionId : String) : Prop :=
  ∃ session ∈ store.sessions, session.id = sessionId

instance (store : SessionStore) (sessionId : String) : Decidable (Live store sessionId) :=
  inferInstanceAs (Decidable (∃ session ∈ store.sessions, session.id = sessionId))

/-- The draws of a run: no two secrets are the same, SHA-256 separates them, and no two
sessions get the same UUID. -/
structure Fresh (sha256 : String → Bytes32) (operations : List Operation) : Prop where
  secrets_nodup : ((issued sha256 operations).map Prod.fst).Nodup
  sha256_injOn : Set.InjOn sha256 {secret | secret ∈ (issued sha256 operations).map Prod.fst}
  uuids_nodup : ((opened operations).map Prod.fst).Nodup

theorem replies_append (store : SessionStore) (before after : List Operation) :
    replies sha256 store (before ++ after) =
      replies sha256 store before ++ replies sha256 (before.foldl (step sha256) store) after := by
  induction before generalizing store with
  | nil => rfl
  | cons operation before ih => simp only [cons_append, replies, ih, foldl_cons]

theorem issued_append (before after : List Operation) :
    issued sha256 (before ++ after) = issued sha256 before ++
      (replies sha256 (stateAfter sha256 before) after).filterMap Reply.issued := by
  simp only [issued, replies_append, filterMap_append]

theorem issued_concat (before : List Operation) (operation : Operation) :
    issued sha256 (before ++ [operation]) = issued sha256 before ++
      (((stateAfter sha256 before).perform sha256 operation).2.issued).toList := by
  rw [issued_append]
  cases h : ((stateAfter sha256 before).perform sha256 operation).2.issued <;>
    simp [replies, h]

theorem opened_append (before after : List Operation) :
    opened (before ++ after) = opened before ++ opened after :=
  filterMap_append

theorem stateAfter_concat (before : List Operation) (operation : Operation) :
    stateAfter sha256 (before ++ [operation]) =
      step sha256 (stateAfter sha256 before) operation := by
  simp [stateAfter, foldl_append]

theorem Fresh.of_append (h : Fresh sha256 (before ++ after)) : Fresh sha256 before where
  secrets_nodup := by
    have hnodup := h.secrets_nodup
    rw [issued_append, map_append] at hnodup
    exact hnodup.of_append_left
  sha256_injOn := by
    refine h.sha256_injOn.mono ?_
    intro secret hsecret
    rw [Set.mem_ofPred_eq] at hsecret ⊢
    rw [issued_append, map_append]
    exact mem_append_left _ hsecret
  uuids_nodup := by
    have hnodup := h.uuids_nodup
    rw [opened_append, map_append] at hnodup
    exact hnodup.of_append_left

theorem Fresh.digest_ne (h : Fresh sha256 (before ++ [operation])) {newSecret id : String}
    (hnew : ((stateAfter sha256 before).perform sha256 operation).2.issued = some (newSecret, id))
    {old : String × String} (hold : old ∈ issued sha256 before) :
    sha256Hex sha256 old.1 ≠ sha256Hex sha256 newSecret := by
  have hsecrets := h.secrets_nodup
  have hinj := h.sha256_injOn
  rw [issued_concat, hnew] at hsecrets hinj
  simp only [Option.toList_some, map_append, map_cons, map_nil] at hsecrets hinj
  have hmem : old.1 ∈ (issued sha256 before).map Prod.fst := mem_map_of_mem hold
  intro heq
  have hsame : old.1 = newSecret :=
    hinj (by simp only [Set.mem_ofPred_eq, mem_append]; exact .inl hmem)
      (by simp) (sha256Hex_eq_iff.mp heq)
  have hdisjoint := (List.nodup_append.mp hsecrets).2.2
  exact hdisjoint old.1 hmem newSecret (by simp) hsame

theorem Fresh.uuid_ne (h : Fresh sha256 (before ++ [operation])) {uuid : String} {expiryUnix : ℤ}
    (hnew : operation.opened = some (uuid, expiryUnix)) {old : String × ℤ}
    (hold : old ∈ opened before) : old.1 ≠ uuid := by
  have huuids := h.uuids_nodup
  rw [opened_append, map_append] at huuids
  have hmem : old.1 ∈ (opened before).map Prod.fst := mem_map_of_mem hold
  exact (List.nodup_append.mp huuids).2.2 old.1 hmem uuid (by simp [opened, hnew])

/-! ## What an operation does to the records -/

/-- An operation opens a session, rotates one, revokes one over a replayed secret, or
hands nothing out and at most drops sessions. -/
inductive Effect (sha256 : String → Bytes32) (store : SessionStore) :
    Operation → List SessionRecord → Reply → Prop
  | opened {userId userAgent peerIp uuid : String} {expiryUnix nowUnix : ℤ} {random : Bytes32}
      {session : SessionRecord} (hid : session.id = uuid)
      (hexpiry : session.expiryUnix = expiryUnix)
      (hrefresh : session.refreshDigest = sha256Hex sha256 (generateSecret random))
      (hprevious : session.previousDigest = "") :
      Effect sha256 store (.create userId expiryUnix userAgent peerIp nowUnix random uuid)
        (store.sessions ++ [session]) (.opened (generateSecret random) uuid)
  | rotated {presented : String} {nowUnix : ℤ} {random : Bytes32} {session : SessionRecord}
      (hprevious : (store.sessions.find? fun session =>
        session.previousDigest == sha256Hex sha256 presented) = none)
      (hrefresh : (store.sessions.find? fun session =>
        session.refreshDigest == sha256Hex sha256 presented) = some session)
      (hexpiry : nowUnix < session.expiryUnix) :
      Effect sha256 store (.rotate presented nowUnix random)
        (modifyFirst (fun session => session.refreshDigest == sha256Hex sha256 presented)
          (rotateRecord (sha256Hex sha256 (generateSecret random)) nowUnix) store.sessions)
        (.rotated { success := true, newRefreshSecret := generateSecret random,
                    sessionId := session.id, userId := session.userId })
  | reused {presented : String} {nowUnix : ℤ} {random : Bytes32} {session : SessionRecord}
      (hprevious : (store.sessions.find? fun session =>
        session.previousDigest == sha256Hex sha256 presented) = some session) :
      Effect sha256 store (.rotate presented nowUnix random)
        (store.sessions.eraseP fun session =>
          session.previousDigest == sha256Hex sha256 presented)
        (.rotated { reuseDetected := true, sessionId := session.id, userId := session.userId })
  | dropped {operation : Operation} {sessions : List SessionRecord} {reply : Reply}
      (hsublist : sessions.Sublist store.sessions) (hopened : operation.opened = none)
      (hissued : reply.issued = none) (hreused : reply.reused = none)
      (hrotated : reply.rotatedSession = none) :
      Effect sha256 store operation sessions reply

/-- The file holds what is in memory. -/
def Saved (store : SessionStore) : Prop :=
  (load store.file).sessions = store.sessions

theorem saved_save (sessions : List SessionRecord) : Saved (save sessions) := by
  simp [Saved, load, save, Function.comp_def]

theorem sessions_eraseIf (store : SessionStore) (p : SessionRecord → Bool) :
    (store.eraseIf p).1.sessions.Sublist store.sessions := by
  simp only [eraseIf]
  split
  · exact filter_sublist
  · exact List.Sublist.refl _

theorem saved_eraseIf (h : Saved store) (p : SessionRecord → Bool) : Saved (store.eraseIf p).1 := by
  simp only [eraseIf]
  split
  · exact saved_save _
  · exact h

theorem effect_rotate (store : SessionStore) (presented : String) (nowUnix : ℤ) (random : Bytes32) :
    Effect sha256 store (.rotate presented nowUnix random)
      (store.rotate sha256 presented nowUnix random).1.sessions
      (.rotated (store.rotate sha256 presented nowUnix random).2) := by
  by_cases hempty : presented = ""
  · simp only [rotate, hempty, if_true]
    exact .dropped (List.Sublist.refl _) rfl rfl rfl rfl
  · simp only [rotate, hempty, if_false]
    split
    next session hprevious => exact .reused hprevious
    next hprevious =>
      split
      · exact .dropped (List.Sublist.refl _) rfl rfl rfl rfl
      · next session hrefresh =>
          split
          · exact .dropped (eraseP_sublist ..) rfl rfl rfl rfl
          · next hexpiry => exact .rotated hprevious hrefresh (by omega)

theorem effect_step (hsaved : Saved store) (operation : Operation) :
    Effect sha256 store operation (step sha256 store operation).sessions
      (store.perform sha256 operation).2 := by
  cases operation with
  | create userId expiryUnix userAgent peerIp nowUnix random uuid => exact .opened rfl rfl rfl rfl
  | rotate presented nowUnix random => exact effect_rotate store presented nowUnix random
  | revokeByRefresh presented => exact .dropped (sessions_eraseIf store _) rfl rfl rfl rfl
  | revokeById sessionId => exact .dropped (sessions_eraseIf store _) rfl rfl rfl rfl
  | revokeAllForUser userId => exact .dropped (sessions_eraseIf store _) rfl rfl rfl rfl
  | pruneExpired nowUnix => exact .dropped (sessions_eraseIf store _) rfl rfl rfl rfl
  | reload =>
    refine .dropped ?_ rfl rfl rfl rfl
    rw [step, perform, hsaved]

theorem saved_step (hsaved : Saved store) (operation : Operation) :
    Saved (step sha256 store operation) := by
  cases operation with
  | create userId expiryUnix userAgent peerIp nowUnix random uuid => exact saved_save _
  | rotate presented nowUnix random =>
    simp only [step, perform, rotate]
    split
    · exact hsaved
    · split
      · exact saved_save _
      · split
        · exact hsaved
        · split <;> exact saved_save _
  | revokeByRefresh presented => exact saved_eraseIf hsaved _
  | revokeById sessionId => exact saved_eraseIf hsaved _
  | revokeAllForUser userId => exact saved_eraseIf hsaved _
  | pruneExpired nowUnix => exact saved_eraseIf hsaved _
  | reload =>
    rw [step, perform]
    exact rfl

/-! ## The ledger -/

def digests (session : SessionRecord) : List String :=
  session.refreshDigest :: if session.previousDigest = "" then [] else [session.previousDigest]

def storedDigests (store : SessionStore) : List String := store.sessions.flatMap digests

/-- Where the digests of the store come from, and that none stands in two places. -/
structure Ledger (sha256 : String → Bytes32) (handedOut : List (String × String))
    (opened : List (String × ℤ)) (store : SessionStore) : Prop where
  handed_out : ∀ session ∈ store.sessions, ∀ digest ∈ digests session,
    ∃ secret, (secret, session.id) ∈ handedOut ∧ digest = sha256Hex sha256 secret
  opened : ∀ session ∈ store.sessions, (session.id, session.expiryUnix) ∈ opened
  digests_nodup : (storedDigests store).Nodup
  ids_nodup : (store.sessions.map SessionRecord.id).Nodup
  saved : Saved store

theorem refreshDigests_sublist (sessions : List SessionRecord) :
    (sessions.map SessionRecord.refreshDigest).Sublist (sessions.flatMap digests) := by
  induction sessions with
  | nil => exact List.Sublist.slnil
  | cons session sessions ih =>
    rw [map_cons, flatMap_cons, digests, cons_append]
    exact (ih.trans (sublist_append_right _ _)).cons_cons _

theorem Ledger.current_nodup {handedOut : List (String × String)} {opened : List (String × ℤ)}
    (h : Ledger sha256 handedOut opened store) :
    (store.sessions.map SessionRecord.refreshDigest).Nodup :=
  h.digests_nodup.sublist (refreshDigests_sublist store.sessions)

variable {session : SessionRecord} {nowUnix : ℤ}

theorem digests_rotateRecord {newDigest : String} (h : session.refreshDigest ≠ "") :
    digests (rotateRecord newDigest nowUnix session) = [newDigest, session.refreshDigest] := by
  simp [digests, rotateRecord, h]

section

variable {handedOut : List (String × String)} {openedSoFar : List (String × ℤ)} {reply : Reply}

theorem Ledger.digest_ne_empty (h : Ledger sha256 handedOut openedSoFar store)
    (hmem : session ∈ store.sessions) : session.refreshDigest ≠ "" := by
  obtain ⟨secret, -, hdigest⟩ := h.handed_out session hmem session.refreshDigest (by simp [digests])
  rw [hdigest]
  exact sha256Hex_ne_empty sha256 secret

theorem Ledger.mono {handedOut' : List (String × String)} {openedSoFar' : List (String × ℤ)}
    (h : Ledger sha256 handedOut openedSoFar store) (hsub : handedOut ⊆ handedOut')
    (hsub' : openedSoFar ⊆ openedSoFar') (hsessions : store'.sessions.Sublist store.sessions)
    (hsaved : Saved store') : Ledger sha256 handedOut' openedSoFar' store' where
  handed_out := by
    intro session hmem digest hdigest
    obtain ⟨secret, hsecret, heq⟩ := h.handed_out session (hsessions.subset hmem) digest hdigest
    exact ⟨secret, hsub hsecret, heq⟩
  opened session hmem := hsub' (h.opened session (hsessions.subset hmem))
  digests_nodup := h.digests_nodup.sublist (hsessions.flatMap _)
  ids_nodup := h.ids_nodup.sublist (hsessions.map _)
  saved := hsaved

section

variable (h : Ledger sha256 handedOut openedSoFar store)

include h

variable {newSecret : String}

theorem Ledger.not_mem_storedDigests
    (hdigest : ∀ old ∈ handedOut, sha256Hex sha256 old.1 ≠ sha256Hex sha256 newSecret) :
    sha256Hex sha256 newSecret ∉ storedDigests store := by
  intro hmem
  obtain ⟨session, hsession, hstored⟩ := List.mem_flatMap.mp hmem
  obtain ⟨secret, hsecret, heq⟩ := h.handed_out session hsession _ hstored
  exact hdigest _ hsecret heq.symm

theorem Ledger.open_session {uuid : String} (hid : session.id = uuid)
    (hdigests : digests session = [sha256Hex sha256 newSecret])
    (hsessions : store'.sessions = store.sessions ++ [session]) (hsaved : Saved store')
    (hdigest : ∀ old ∈ handedOut, sha256Hex sha256 old.1 ≠ sha256Hex sha256 newSecret)
    (huuid : ∀ old ∈ openedSoFar, old.1 ≠ uuid) :
    Ledger sha256 (handedOut ++ [(newSecret, uuid)]) (openedSoFar ++ [(uuid, session.expiryUnix)])
      store' where
  handed_out := by
    intro other hmem digest hother
    rw [hsessions, mem_append, mem_singleton] at hmem
    rcases hmem with hmem | rfl
    · obtain ⟨secret, hsecret, heq⟩ := h.handed_out other hmem digest hother
      exact ⟨secret, mem_append_left _ hsecret, heq⟩
    · rw [hdigests, mem_singleton] at hother
      exact ⟨newSecret, by simp [hid], hother⟩
  opened := by
    intro other hmem
    rw [hsessions, mem_append, mem_singleton] at hmem
    rcases hmem with hmem | rfl
    · exact mem_append_left _ (h.opened other hmem)
    · simp [hid]
  digests_nodup := by
    have hfresh := h.not_mem_storedDigests hdigest
    rw [storedDigests, hsessions, flatMap_append, flatMap_singleton, hdigests,
      nodup_append_comm, singleton_append, nodup_cons]
    exact ⟨hfresh, h.digests_nodup⟩
  ids_nodup := by
    rw [hsessions, map_append, nodup_append]
    refine ⟨h.ids_nodup, by simp, ?_⟩
    intro id hmem newId hnew
    obtain ⟨other, hother, rfl⟩ := List.mem_map.mp hmem
    obtain rfl : newId = uuid := by simpa [hid] using hnew
    exact huuid _ (h.opened other hother)
  saved := hsaved

theorem Ledger.rotate_session {p : SessionRecord → Bool}
    (hfind : store.sessions.find? p = some session)
    (hsessions : store'.sessions =
      modifyFirst p (rotateRecord (sha256Hex sha256 newSecret) nowUnix) store.sessions)
    (hsaved : Saved store')
    (hdigest : ∀ old ∈ handedOut, sha256Hex sha256 old.1 ≠ sha256Hex sha256 newSecret) :
    Ledger sha256 (handedOut ++ [(newSecret, session.id)]) openedSoFar store' := by
  obtain ⟨left, right, hsplit, hmodify, -⟩ := exists_append_of_find? hfind
  have hsession : session ∈ store.sessions := mem_of_find?_eq_some hfind
  have hrotated : digests (rotateRecord (sha256Hex sha256 newSecret) nowUnix session) =
      [sha256Hex sha256 newSecret, session.refreshDigest] :=
    digests_rotateRecord (h.digest_ne_empty hsession)
  rw [hmodify] at hsessions
  have hold : ∀ other ∈ store'.sessions, other ∈ store.sessions ∨
      other = rotateRecord (sha256Hex sha256 newSecret) nowUnix session := by
    intro other hmem
    rw [hsplit]
    rw [hsessions] at hmem
    rcases List.mem_append.mp hmem with hleft | hrest
    · exact .inl (mem_append_left _ hleft)
    · rcases List.mem_cons.mp hrest with hnew | hright
      · exact .inr hnew
      · exact .inl (mem_append_right _ (mem_cons_of_mem _ hright))
  refine ⟨?_, ?_, ?_, ?_, hsaved⟩
  · intro other hmem digest hother
    rcases hold other hmem with hmem | rfl
    · obtain ⟨secret, hsecret, heq⟩ := h.handed_out other hmem digest hother
      exact ⟨secret, mem_append_left _ hsecret, heq⟩
    · rw [hrotated] at hother
      rcases List.mem_cons.mp hother with rfl | hother
      · exact ⟨newSecret, by simp [rotateRecord], rfl⟩
      · obtain ⟨secret, hsecret, heq⟩ :=
          h.handed_out session hsession session.refreshDigest (by simp [digests])
        exact ⟨secret, mem_append_left _ hsecret, (List.mem_singleton.mp hother).trans heq⟩
  · intro other hmem
    rcases hold other hmem with hmem | rfl
    · exact h.opened other hmem
    · exact h.opened session hsession
  · -- the old current digest stays in its place, the new one is that of a fresh secret
    have hnodup := h.digests_nodup
    have hfresh := h.not_mem_storedDigests hdigest
    rw [storedDigests, hsplit, flatMap_append, flatMap_cons] at hnodup hfresh
    rw [storedDigests, hsessions, flatMap_append, flatMap_cons, hrotated]
    have hsublist : (left.flatMap digests ++ session.refreshDigest :: right.flatMap digests).Sublist
        (left.flatMap digests ++ (digests session ++ right.flatMap digests)) := by
      refine (List.Sublist.refl _).append ?_
      rw [digests, cons_append]
      exact (sublist_append_right _ _).cons_cons _
    rw [cons_append, nodup_middle, nodup_cons]
    exact ⟨fun hmem => hfresh (hsublist.subset hmem), hnodup.sublist hsublist⟩
  · have hids : store'.sessions.map SessionRecord.id = store.sessions.map SessionRecord.id := by
      rw [hsessions, hsplit]
      simp [rotateRecord]
    rw [hids]
    exact h.ids_nodup

theorem Ledger.step
    (hdigest : ∀ newSecret id, (store.perform sha256 operation).2.issued = some (newSecret, id) →
      ∀ old ∈ handedOut, sha256Hex sha256 old.1 ≠ sha256Hex sha256 newSecret)
    (huuid : ∀ uuid expiryUnix, operation.opened = some (uuid, expiryUnix) →
      ∀ old ∈ openedSoFar, old.1 ≠ uuid) :
    Ledger sha256 (handedOut ++ (store.perform sha256 operation).2.issued.toList)
      (openedSoFar ++ operation.opened.toList) (SessionStore.step sha256 store operation) := by
  have heffect : Effect sha256 store operation (SessionStore.step sha256 store operation).sessions
      (store.perform sha256 operation).2 := effect_step h.saved operation
  have hsaved : Saved (SessionStore.step sha256 store operation) := saved_step h.saved operation
  generalize hstore : SessionStore.step sha256 store operation = store' at heffect hsaved ⊢
  generalize (store.perform sha256 operation).2 = reply at heffect hdigest ⊢
  generalize hsessions : store'.sessions = sessions at heffect
  cases heffect with
  | opened hid hexpiry hrefresh hprevious =>
    subst hexpiry
    exact h.open_session hid (by simp [digests, hrefresh, hprevious]) hsessions hsaved
      (hdigest _ _ rfl) (huuid _ _ rfl)
  | rotated hprevious hrefresh hexpiry =>
    simpa [Reply.issued, Operation.opened] using
      h.rotate_session hrefresh hsessions hsaved (hdigest _ _ rfl)
  | reused hprevious =>
    exact h.mono (subset_append_left _ _) (subset_append_left _ _)
      (hsessions ▸ eraseP_sublist) hsaved
  | dropped hsublist hopened hissued hreused hrotated =>
    exact h.mono (subset_append_left _ _) (subset_append_left _ _) (hsessions ▸ hsublist) hsaved

end

end

theorem ledger_stateAfter (hfresh : Fresh sha256 operations) :
    Ledger sha256 (issued sha256 operations) (opened operations)
      (stateAfter sha256 operations) := by
  induction operations using reverseRecOn with
  | nil =>
    exact ⟨by simp [empty], by simp [empty], by simp [storedDigests, empty], by simp [empty], rfl⟩
  | append_singleton before operation ih =>
    have hopened : opened (before ++ [operation]) = opened before ++ operation.opened.toList := by
      rw [opened_append]
      cases h : operation.opened <;> simp [opened, h]
    rw [issued_concat, hopened, stateAfter_concat]
    exact (ih hfresh.of_append).step (fun newSecret id hnew old hold => hfresh.digest_ne hnew hold)
      (fun uuid expiryUnix hnew old hold => hfresh.uuid_ne hnew hold)

/-! ## What leaves the store stays out -/

variable {digest presented : String}

theorem mem_flatMap_step {view : SessionRecord → List String}
    (hopened : ∀ session : SessionRecord, session.previousDigest = "" →
      view session ⊆ [session.refreshDigest])
    (hrotated : ∀ newDigest nowUnix session,
      view (rotateRecord newDigest nowUnix session) ⊆ newDigest :: view session)
    (hsaved : Saved store) (hmem : digest ∈ (step sha256 store operation).sessions.flatMap view) :
    digest ∈ store.sessions.flatMap view ∨
      ∃ secret id, (store.perform sha256 operation).2.issued = some (secret, id) ∧
        digest = sha256Hex sha256 secret := by
  have heffect : Effect sha256 store operation (step sha256 store operation).sessions
      (store.perform sha256 operation).2 := effect_step hsaved operation
  generalize (step sha256 store operation).sessions = sessions at heffect hmem
  generalize (store.perform sha256 operation).2 = reply at heffect ⊢
  cases heffect with
  | @opened _ _ _ _ _ _ _ session hid hexpiry hrefresh hprevious =>
    rw [flatMap_append, mem_append] at hmem
    refine hmem.imp id fun hnew => ⟨_, _, rfl, ?_⟩
    rw [flatMap_singleton] at hnew
    exact (List.mem_singleton.mp (hopened session hprevious hnew)).trans hrefresh
  | @rotated presented nowUnix random session hprevious hrefresh hexpiry =>
    obtain ⟨left, right, hsplit, hmodify, -⟩ := exists_append_of_find? hrefresh
    rw [hmodify, flatMap_append, flatMap_cons] at hmem
    rw [hsplit, flatMap_append, flatMap_cons]
    rcases List.mem_append.mp hmem with hleft | hrest
    · exact .inl (mem_append_left _ hleft)
    · rcases List.mem_append.mp hrest with hsession | hright
      · rcases List.mem_cons.mp (hrotated _ _ _ hsession) with hnew | hold
        · exact .inr ⟨_, _, rfl, hnew⟩
        · exact .inl (mem_append_right _ (mem_append_left _ hold))
      · exact .inl (mem_append_right _ (mem_append_right _ hright))
  | reused hprevious => exact .inl ((List.eraseP_sublist.flatMap _).subset hmem)
  | dropped hsublist hopened hissued hreused hrotated =>
    exact .inl ((hsublist.flatMap _).subset hmem)

theorem mem_storedDigests_step (hsaved : Saved store)
    (hmem : digest ∈ storedDigests (step sha256 store operation)) :
    digest ∈ storedDigests store ∨
      ∃ secret id, (store.perform sha256 operation).2.issued = some (secret, id) ∧
        digest = sha256Hex sha256 secret := by
  refine mem_flatMap_step ?_ ?_ hsaved hmem
  · intro session hprevious
    simp [digests, hprevious]
  · intro newDigest nowUnix session
    by_cases h : session.refreshDigest = ""
    · simp [digests, rotateRecord, h]
    · rw [digests_rotateRecord h, digests]
      simp

def currentDigests (store : SessionStore) : List String :=
  store.sessions.map SessionRecord.refreshDigest

theorem mem_currentDigests_step (hsaved : Saved store)
    (hmem : digest ∈ currentDigests (step sha256 store operation)) :
    digest ∈ currentDigests store ∨
      ∃ secret id, (store.perform sha256 operation).2.issued = some (secret, id) ∧
        digest = sha256Hex sha256 secret := by
  rw [currentDigests, map_eq_flatMap] at hmem ⊢
  refine mem_flatMap_step ?_ ?_ hsaved hmem
  · exact fun session _ => List.Subset.refl _
  · intro newDigest nowUnix session
    simp [rotateRecord]

theorem gone_run {kept : SessionStore → List String}
    (hkept : ∀ store operation, Saved store → digest ∈ kept (step sha256 store operation) →
      digest ∈ kept store ∨ ∃ secret id,
        (store.perform sha256 operation).2.issued = some (secret, id) ∧
          digest = sha256Hex sha256 secret)
    (hfresh : Fresh sha256 (before ++ after))
    (hold : ∃ old ∈ issued sha256 before, digest = sha256Hex sha256 old.1)
    (hgone : digest ∉ kept (stateAfter sha256 before)) :
    EachState (step sha256) (fun store => digest ∉ kept store) (stateAfter sha256 before)
      after := by
  induction after generalizing before with
  | nil => exact hgone
  | cons operation after ih =>
    have hfresh' : Fresh sha256 ((before ++ [operation]) ++ after) := by
      simpa [append_assoc] using hfresh
    obtain ⟨old, hmem, hdigest⟩ := hold
    refine ⟨hgone, ?_⟩
    rw [← stateAfter_concat]
    refine ih hfresh' ⟨old, ?_, hdigest⟩ ?_
    · rw [issued_concat]
      exact mem_append_left _ hmem
    · rw [stateAfter_concat]
      intro hback
      rcases hkept _ operation (ledger_stateAfter hfresh.of_append).saved hback with
        hback | ⟨newSecret, id, hnew, heq⟩
      · exact hgone hback
      · exact hfresh'.of_append.digest_ne hnew hmem (hdigest.symm.trans heq)

/-! ## A secret works once -/

/-- The operation does not have the secret accepted. -/
def Refused (sha256 : String → Bytes32) (secret : String) (store : SessionStore)
    (operation : Operation) : Prop :=
  ∀ nowUnix random, operation = .rotate secret nowUnix random →
    (store.rotate sha256 secret nowUnix random).2.success = false

section

variable {random : Bytes32}

theorem rotate_of_success (h : (store.rotate sha256 presented nowUnix random).2.success) :
    ∃ session,
      (store.sessions.find? fun session =>
        session.refreshDigest == sha256Hex sha256 presented) = some session ∧
      nowUnix < session.expiryUnix ∧
      (store.rotate sha256 presented nowUnix random).2.sessionId = session.id ∧
      (store.rotate sha256 presented nowUnix random).2.newRefreshSecret = generateSecret random ∧
      (store.rotate sha256 presented nowUnix random).1.sessions =
        modifyFirst (fun session => session.refreshDigest == sha256Hex sha256 presented)
          (rotateRecord (sha256Hex sha256 (generateSecret random)) nowUnix) store.sessions := by
  have heffect : Effect sha256 store (.rotate presented nowUnix random) _ _ :=
    effect_rotate store presented nowUnix random
  generalize (store.rotate sha256 presented nowUnix random).1.sessions = sessions at heffect ⊢
  generalize (store.rotate sha256 presented nowUnix random).2 = result at h heffect ⊢
  cases heffect with
  | @rotated _ _ _ session hprevious hrefresh hexpiry =>
    exact ⟨session, hrefresh, hexpiry, rfl, rfl, rfl⟩
  | reused hprevious => simp at h
  | dropped hsublist hopened hissued hreused hrotated => simp [Reply.rotatedSession, h] at hrotated

theorem rotate_of_reuse
    (h : (store.rotate sha256 presented nowUnix random).2.reuseDetected) :
    ∃ session,
      (store.sessions.find? fun session =>
        session.previousDigest == sha256Hex sha256 presented) = some session ∧
      (store.rotate sha256 presented nowUnix random).2.sessionId = session.id ∧
      (store.rotate sha256 presented nowUnix random).1.sessions =
        store.sessions.eraseP fun session =>
          session.previousDigest == sha256Hex sha256 presented := by
  have heffect : Effect sha256 store (.rotate presented nowUnix random) _ _ :=
    effect_rotate store presented nowUnix random
  generalize (store.rotate sha256 presented nowUnix random).1.sessions = sessions at heffect ⊢
  generalize (store.rotate sha256 presented nowUnix random).2 = result at h heffect ⊢
  cases heffect with
  | rotated hprevious hrefresh hexpiry => simp at h
  | @reused _ _ _ session hprevious => exact ⟨session, hprevious, rfl, rfl⟩
  | dropped hsublist hopened hissued hreused hrotated => simp [Reply.reused, h] at hreused

section

variable (h : (store.rotate sha256 presented nowUnix random).2.success = true)

include h

theorem issued_of_success :
    (store.perform sha256 (.rotate presented nowUnix random)).2.issued =
      some (generateSecret random, (store.rotate sha256 presented nowUnix random).2.sessionId) := by
  obtain ⟨session, -, -, -, hnew, -⟩ := rotate_of_success h
  simp only [perform, Reply.issued, h, if_true, hnew]

theorem mem_currentDigests_of_success : sha256Hex sha256 presented ∈ currentDigests store := by
  obtain ⟨session, hrefresh, -⟩ := rotate_of_success h
  have hdigest : session.refreshDigest = sha256Hex sha256 presented := by
    simpa using find?_some hrefresh
  rw [← hdigest]
  exact mem_map_of_mem (mem_of_find?_eq_some hrefresh)

end

end

theorem not_mem_currentDigests_of_success (hnodup : (currentDigests store).Nodup) {random : Bytes32}
    (hne : sha256Hex sha256 presented ≠ sha256Hex sha256 (generateSecret random))
    (h : (store.rotate sha256 presented nowUnix random).2.success) :
    sha256Hex sha256 presented ∉
      currentDigests (store.rotate sha256 presented nowUnix random).1 := by
  obtain ⟨session, hrefresh, -, -, -, hsessions⟩ := rotate_of_success h
  have hdigest : session.refreshDigest = sha256Hex sha256 presented := by
    simpa using find?_some hrefresh
  obtain ⟨left, right, hsplit, hmodify, -⟩ := exists_append_of_find? hrefresh
  rw [currentDigests, hsplit, map_append, map_cons, nodup_middle, nodup_cons, hdigest] at hnodup
  rw [currentDigests, hsessions, hmodify, map_append, map_cons]
  intro hmem
  rcases List.mem_append.mp hmem with hleft | hright
  · exact hnodup.1 (mem_append_left _ hleft)
  · rcases List.mem_cons.mp hright with hnew | hright
    · exact hne hnew
    · exact hnodup.1 (mem_append_right _ hright)

theorem refused_of_spent (hfresh : Fresh sha256 (before ++ after))
    (hold : ∃ old ∈ issued sha256 before, sha256Hex sha256 secret = sha256Hex sha256 old.1)
    (hspent : sha256Hex sha256 secret ∉ currentDigests (stateAfter sha256 before)) :
    EachStep (step sha256) (Refused sha256 secret) (stateAfter sha256 before) after := by
  have hgone := gone_run (fun _ _ hsaved => mem_currentDigests_step hsaved) hfresh hold hspent
  rw [eachState_iff] at hgone
  rw [eachStep_iff]
  rintro middle operation rest rfl nowUnix random rfl
  cases hresult : ((middle.foldl (step sha256) (stateAfter sha256 before)).rotate sha256 secret
      nowUnix random).2.success with
  | false => rfl
  | true => exact absurd (mem_currentDigests_of_success hresult) (hgone middle _ rfl)

theorem exists_issued_of_mem_currentDigests (hfresh : Fresh sha256 operations)
    (hmem : digest ∈ currentDigests (stateAfter sha256 operations)) :
    ∃ session ∈ (stateAfter sha256 operations).sessions, session.refreshDigest = digest ∧
      ∃ secret, (secret, session.id) ∈ issued sha256 operations ∧
        digest = sha256Hex sha256 secret := by
  obtain ⟨session, hsession, rfl⟩ := List.mem_map.mp hmem
  obtain ⟨secret, hsecret, heq⟩ :=
    (ledger_stateAfter hfresh).handed_out session hsession session.refreshDigest (by simp [digests])
  exact ⟨session, hsession, rfl, secret, hsecret, heq⟩

theorem refused_of_not_live (hfresh : Fresh sha256 (before ++ after))
    (hsecret : (secret, sessionId) ∈ issued sha256 before)
    (hlive : ¬ Live (stateAfter sha256 before) sessionId) :
    EachStep (step sha256) (Refused sha256 secret) (stateAfter sha256 before) after := by
  refine refused_of_spent hfresh ⟨_, hsecret, rfl⟩ ?_
  intro hcurrent
  obtain ⟨session, hsession, -, holder, hholder, heq⟩ :=
    exists_issued_of_mem_currentDigests hfresh.of_append hcurrent
  have hsame : secret = holder :=
    hfresh.of_append.sha256_injOn (mem_map_of_mem (f := Prod.fst) hsecret)
      (mem_map_of_mem (f := Prod.fst) hholder) (sha256Hex_eq_iff.mp heq)
  have hpair := inj_on_of_nodup_map hfresh.of_append.secrets_nodup hsecret hholder hsame
  exact hlive ⟨session, hsession, (congrArg Prod.snd hpair).symm⟩

theorem not_live_of_erased (hids : (store.sessions.map SessionRecord.id).Nodup)
    (hmem : session ∈ store.sessions) (hsub : ∀ other ∈ store'.sessions, other ∈ store.sessions)
    (hgone : session ∉ store'.sessions) : ¬ Live store' session.id := by
  rintro ⟨other, hother, hid⟩
  obtain rfl := inj_on_of_nodup_map hids (hsub other hother) hmem hid
  exact hgone hother

def Revokes (sha256 : String → Bytes32) : Operation → SessionRecord → Prop
  | .revokeByRefresh presented, session => session.refreshDigest = sha256Hex sha256 presented
  | .revokeById sessionId, session => session.id = sessionId
  | .revokeAllForUser userId, session => session.userId = userId
  | .pruneExpired nowUnix, session => session.expiryUnix ≤ nowUnix
  | _, _ => False

theorem not_mem_eraseIf {p : SessionRecord → Bool} (h : p session) :
    session ∉ (store.eraseIf p).1.sessions := by
  simp only [eraseIf]
  split
  · simp [save, h]
  · next hcount =>
      intro hmem
      exact hcount (List.countP_pos_iff.mpr ⟨session, hmem, h⟩)

theorem not_live_of_revokes (hids : (store.sessions.map SessionRecord.id).Nodup)
    (hmem : session ∈ store.sessions) (hrevokes : Revokes sha256 operation session) :
    ¬ Live (step sha256 store operation) session.id := by
  have herase : ∀ p : SessionRecord → Bool, p session →
      ¬ Live (store.eraseIf p).1 session.id := fun p hp =>
    not_live_of_erased hids hmem (fun _ hother => (sessions_eraseIf store p).subset hother)
      (not_mem_eraseIf hp)
  cases operation with
  | create userId expiryUnix userAgent peerIp nowUnix random uuid => exact hrevokes.elim
  | rotate presented nowUnix random => exact hrevokes.elim
  | revokeByRefresh presented => exact herase _ (beq_iff_eq.mpr hrevokes)
  | revokeById sessionId => exact herase _ (beq_iff_eq.mpr hrevokes)
  | revokeAllForUser userId => exact herase _ (beq_iff_eq.mpr hrevokes)
  | pruneExpired nowUnix => exact herase _ (decide_eq_true hrevokes)
  | reload => exact hrevokes.elim

theorem not_live_of_reuse (hids : (store.sessions.map SessionRecord.id).Nodup) {random : Bytes32}
    (h : (store.rotate sha256 presented nowUnix random).2.reuseDetected) :
    ¬ Live (store.rotate sha256 presented nowUnix random).1
      (store.rotate sha256 presented nowUnix random).2.sessionId := by
  obtain ⟨session, hprevious, hid, hsessions⟩ := rotate_of_reuse h
  rw [hid]
  obtain ⟨left, right, hsplit, -, herase⟩ := exists_append_of_find? hprevious
  refine not_live_of_erased hids (mem_of_find?_eq_some hprevious) ?_ ?_
  · rw [hsessions]
    exact fun other hother => mem_of_mem_eraseP hother
  · rw [hsessions, herase]
    have hsessionsNodup : store.sessions.Nodup := List.Nodup.of_map _ hids
    rw [hsplit, nodup_middle, nodup_cons] at hsessionsNodup
    exact hsessionsNodup.1

/-- Refresh secrets are single-use.  In every run whose draws are fresh:

* the live sessions always have pairwise distinct current digests;
* a secret that was accepted was presented before the expiry given to its session when
  that was opened, and is refused from then on;
* once a reuse is reported for a session, or an operation revokes it, or it is not live
  for any other reason, every secret handed out for it is refused from then on. -/
theorem refresh_secrets_single_use (hfresh : Fresh sha256 operations) :
    EachState (step sha256) (fun store => (currentDigests store).Nodup) empty operations ∧
    (∀ before secret nowUnix random after,
      operations = before ++ .rotate secret nowUnix random :: after →
      ((stateAfter sha256 before).rotate sha256 secret nowUnix random).2.success = true →
      (∃ expiryUnix, nowUnix < expiryUnix ∧
        (((stateAfter sha256 before).rotate sha256 secret nowUnix random).2.sessionId,
          expiryUnix) ∈ opened before) ∧
      EachStep (step sha256) (Refused sha256 secret)
        (stateAfter sha256 (before ++ [.rotate secret nowUnix random])) after) ∧
    (∀ before presented nowUnix random after,
      operations = before ++ .rotate presented nowUnix random :: after →
      ((stateAfter sha256 before).rotate sha256 presented nowUnix random).2.reuseDetected = true →
      ∀ secret, (secret, ((stateAfter sha256 before).rotate sha256 presented nowUnix
          random).2.sessionId) ∈ issued sha256 before →
        EachStep (step sha256) (Refused sha256 secret)
          (stateAfter sha256 (before ++ [.rotate presented nowUnix random])) after) ∧
    (∀ before operation after session, operations = before ++ operation :: after →
      session ∈ (stateAfter sha256 before).sessions → Revokes sha256 operation session →
      ∀ secret, (secret, session.id) ∈ issued sha256 before →
        EachStep (step sha256) (Refused sha256 secret)
          (stateAfter sha256 (before ++ [operation])) after) ∧
    (∀ before after secret sessionId, operations = before ++ after →
      (secret, sessionId) ∈ issued sha256 before → ¬ Live (stateAfter sha256 before) sessionId →
      EachStep (step sha256) (Refused sha256 secret) (stateAfter sha256 before) after) := by
  -- each statement about a step cuts the run behind it
  have hcut : ∀ before operation after, operations = before ++ operation :: after →
      Fresh sha256 ((before ++ [operation]) ++ after) := by
    rintro before operation after rfl
    simpa [append_assoc] using hfresh
  have hearlier : ∀ before (operation : Operation) secret sessionId,
      (secret, sessionId) ∈ issued sha256 before →
      (secret, sessionId) ∈ issued sha256 (before ++ [operation]) := by
    intro before operation secret sessionId hsecret
    rw [issued_concat]
    exact mem_append_left _ hsecret
  refine ⟨?_, ?_, ?_, ?_, ?_⟩
  · rw [eachState_iff]
    rintro before after rfl
    exact (ledger_stateAfter hfresh.of_append).current_nodup
  · intro before secret nowUnix random after hsplit hsuccess
    have hrun := hcut before _ after hsplit
    have hledger := ledger_stateAfter hrun.of_append.of_append
    obtain ⟨session, hrefresh, hexpiry, hid, -, -⟩ := rotate_of_success hsuccess
    have hmem := mem_of_find?_eq_some hrefresh
    have hdigest : session.refreshDigest = sha256Hex sha256 secret := by
      simpa using find?_some hrefresh
    refine ⟨⟨session.expiryUnix, hexpiry, hid ▸ hledger.opened session hmem⟩, ?_⟩
    obtain ⟨holder, hholder, heq⟩ :=
      hledger.handed_out session hmem session.refreshDigest (by simp [digests])
    refine refused_of_spent hrun ⟨_, hearlier _ _ _ _ hholder, hdigest.symm.trans heq⟩ ?_
    rw [stateAfter_concat]
    refine not_mem_currentDigests_of_success hledger.current_nodup ?_ hsuccess
    rw [← hdigest, heq]
    exact hrun.of_append.digest_ne (issued_of_success hsuccess) hholder
  · intro before presented nowUnix random after hsplit hreuse secret hsecret
    have hrun := hcut before _ after hsplit
    have hledger := ledger_stateAfter hrun.of_append.of_append
    refine refused_of_not_live hrun (hearlier _ _ _ _ hsecret) ?_
    rw [stateAfter_concat]
    exact not_live_of_reuse hledger.ids_nodup hreuse
  · intro before operation after session hsplit hmem hrevokes secret hsecret
    have hrun := hcut before _ after hsplit
    have hledger := ledger_stateAfter hrun.of_append.of_append
    refine refused_of_not_live hrun (hearlier _ _ _ _ hsecret) ?_
    rw [stateAfter_concat]
    exact not_live_of_revokes hledger.ids_nodup hmem hrevokes
  · rintro before after secret sessionId rfl hsecret hlive
    exact refused_of_not_live hfresh hsecret hlive

/-! ### A sample run -/

def sampleDraw (byte : UInt8) : Bytes32 := Vector.replicate 32 byte

def sampleSha256 (data : String) : Bytes32 :=
  if data = generateSecret (sampleDraw 0) then
    #v[189, 18, 190, 146, 180, 174, 208, 140, 173, 89, 49, 24, 165, 38, 105, 251, 177, 179, 159,
      165, 37, 80, 202, 33, 223, 35, 98, 184, 15, 228, 215, 156]
  else if data = generateSecret (sampleDraw 1) then
    #v[193, 190, 207, 14, 28, 67, 190, 6, 113, 57, 128, 188, 212, 132, 103, 136, 18, 233, 175,
      187, 22, 68, 212, 109, 238, 168, 63, 207, 29, 170, 52, 61]
  else if data = generateSecret (sampleDraw 2) then
    #v[124, 151, 17, 185, 180, 138, 122, 188, 42, 201, 250, 161, 25, 6, 112, 104, 242, 98, 170,
      166, 85, 176, 102, 68, 143, 17, 183, 69, 72, 55, 177, 63]
  else
    Vector.replicate 32 0

/-- A session is opened, and its first and second secrets are used in turn. -/
def sampleRun : List Operation :=
  [.create "user-1" 1000 "browser" "10.0.0.7" 10 (sampleDraw 0) "session-1",
    .rotate (generateSecret (sampleDraw 0)) 20 (sampleDraw 1),
    .rotate (generateSecret (sampleDraw 1)) 30 (sampleDraw 2)]

theorem sampleRun_fresh : Fresh sampleSha256 sampleRun where
  secrets_nodup := by decide +kernel
  sha256_injOn := by
    have hinj : ∀ a ∈ (issued sampleSha256 sampleRun).map Prod.fst,
        ∀ b ∈ (issued sampleSha256 sampleRun).map Prod.fst,
          sampleSha256 a = sampleSha256 b → a = b := by decide +kernel
    exact fun a ha b hb => hinj a ha b hb
  uuids_nodup := by decide +kernel

/-- In the sample run the first secret is refused once it was used. -/
theorem refresh_secrets_single_use_sample :
    EachStep (step sampleSha256) (Refused sampleSha256 (generateSecret (sampleDraw 0)))
      (stateAfter sampleSha256 (sampleRun.take 2)) (sampleRun.drop 2) :=
  ((refresh_secrets_single_use sampleRun_fresh).2.1 (sampleRun.take 1)
    (generateSecret (sampleDraw 0)) 20 (sampleDraw 1) (sampleRun.drop 2) rfl
    (by decide +kernel)).2

end AqualinkAutomate.Auth.SessionStore
