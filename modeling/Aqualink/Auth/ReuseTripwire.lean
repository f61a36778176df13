import Aqualink.Auth.RefreshSecrets

/-!
# The stolen-token tripwire

A secret that was rotated out and is presented again reveals that it was copied.  The
store can tell as long as the secret's digest is the *previous* one of its session, so
from the rotation that takes it out to the next rotation of the session: until then the
digest is `Remembered`.  The next rotation overwrites it, and with it gone from the
store (`not_mem_storedDigests_of_rotation`) the secret is like any unknown one: it is
refused, and nothing else happens.

`replay_of_rotated_out` follows a secret from its rotation through the rest of the run
and says which of the two it is.
-/

namespace AqualinkAutomate.Auth.SessionStore

open General List

variable {sha256 : String → Bytes32} {store : SessionStore} {operation : Operation}
  {operations before after : List Operation} {digest sessionId : String}

def NotRotated (sha256 : String → Bytes32) (sessionId : String) (store : SessionStore)
    (operation : Operation) : Prop :=
  (store.perform sha256 operation).2.rotatedSession ≠ some sessionId

instance (sessionId : String) (store : SessionStore) (operation : Operation) :
    Decidable (NotRotated sha256 sessionId store operation) :=
  inferInstanceAs (Decidable (_ ≠ _))

def Remembered (digest sessionId : String) (store : SessionStore) : Prop :=
  ∀ session ∈ store.sessions, session.id = sessionId → session.previousDigest = digest

theorem Remembered.step (h : Remembered digest sessionId store) (hsaved : Saved store)
    (huuid : ∀ uuid expiryUnix, operation.opened = some (uuid, expiryUnix) → uuid ≠ sessionId)
    (hnot : NotRotated sha256 sessionId store operation) :
    Remembered digest sessionId (SessionStore.step sha256 store operation) := by
  have heffect : Effect sha256 store operation (SessionStore.step sha256 store operation).sessions
      (store.perform sha256 operation).2 := effect_step hsaved operation
  rw [NotRotated] at hnot
  rw [Remembered]
  generalize (SessionStore.step sha256 store operation).sessions = sessions at heffect ⊢
  generalize (store.perform sha256 operation).2 = reply at heffect hnot
  intro session hmem hid
  cases heffect with
  | opened hnewId hexpiry hrefresh hprevious =>
    rcases List.mem_append.mp hmem with hold | hnew
    · exact h session hold hid
    · obtain rfl := List.mem_singleton.mp hnew
      exact absurd (hnewId.symm.trans hid) (huuid _ _ rfl)
  | rotated hprevious hrefresh hexpiry =>
    rcases mem_of_mem_modifyFirst hmem with hold | ⟨found, hfound, rfl⟩
    · exact h session hold hid
    · -- the rotated session is another one
      cases hrefresh.symm.trans hfound
      exact absurd (congrArg some hid) hnot
  | reused hprevious => exact h session (mem_of_mem_eraseP hmem) hid
  | dropped hsublist hopened hissued hreused hrotated => exact h session (hsublist.subset hmem) hid

theorem eq_of_mem_digests {sessions : List SessionRecord}
    (hnodup : (sessions.flatMap digests).Nodup) {first second : SessionRecord}
    (hfirst : first ∈ sessions) (hsecond : second ∈ sessions)
    (hmem : digest ∈ digests first) (hmem' : digest ∈ digests second) : first = second := by
  induction sessions with
  | nil => exact absurd hfirst (by simp)
  | cons session sessions ih =>
    rw [flatMap_cons, nodup_append] at hnodup
    obtain ⟨-, hrest, hdisjoint⟩ := hnodup
    have happart : ∀ other ∈ sessions, digest ∈ digests other → digest ∉ digests session := by
      intro other hother hdigest hhead
      exact hdisjoint digest hhead digest (List.mem_flatMap.mpr ⟨other, hother, hdigest⟩) rfl
    rcases List.mem_cons.mp hfirst with rfl | hfirst'
    · rcases List.mem_cons.mp hsecond with rfl | hsecond'
      · rfl
      · exact absurd hmem (happart second hsecond' hmem')
    · rcases List.mem_cons.mp hsecond with rfl | hsecond'
      · exact absurd hmem' (happart first hfirst' hmem)
      · exact ih hrest hfirst' hsecond'

variable {session : SessionRecord}

theorem eq_or_eq_of_mem_digests_rotateRecord {newDigest : String} {nowUnix : ℤ}
    (h : digest ∈ digests (rotateRecord newDigest nowUnix session)) :
    digest = newDigest ∨ digest = session.refreshDigest := by
  rcases List.mem_cons.mp h with hnew | hprevious
  · exact .inl hnew
  · by_cases hempty : session.refreshDigest = "" <;> simp_all [rotateRecord]

theorem not_mem_storedDigests_of_rotation (h : Remembered digest sessionId store)
    (hdigest : digest ≠ "") (hsaved : Saved store) (hnodup : (storedDigests store).Nodup)
    (hfresh : ∀ newSecret id, (store.perform sha256 operation).2.issued = some (newSecret, id) →
      digest ≠ sha256Hex sha256 newSecret)
    (hrotated : (store.perform sha256 operation).2.rotatedSession = some sessionId) :
    digest ∉ storedDigests (SessionStore.step sha256 store operation) := by
  have heffect : Effect sha256 store operation (SessionStore.step sha256 store operation).sessions
      (store.perform sha256 operation).2 := effect_step hsaved operation
  rw [storedDigests]
  generalize (SessionStore.step sha256 store operation).sessions = sessions at heffect ⊢
  generalize (store.perform sha256 operation).2 = reply at heffect hrotated hfresh
  cases heffect with
  | opened hnewId hexpiry hrefresh hprevious => simp [Reply.rotatedSession] at hrotated
  | reused hprevious => simp [Reply.rotatedSession] at hrotated
  | dropped hsublist hopened hissued hreused hnone => rw [hnone] at hrotated; simp at hrotated
  | @rotated presented nowUnix random session hprevious hrefresh hexpiry =>
    have hid : session.id = sessionId := by simpa [Reply.rotatedSession] using hrotated
    have hremembered := h session (mem_of_find?_eq_some hrefresh) hid
    have hnew := hfresh _ _ rfl
    obtain ⟨left, right, hsplit, hmodify, -⟩ := exists_append_of_find? hrefresh
    -- of all the places in the store the digest stood in this one only
    rw [storedDigests, hsplit, flatMap_append, flatMap_cons, digests, hremembered,
      if_neg hdigest] at hnodup
    have hperm : (left.flatMap digests ++ ([session.refreshDigest, digest] ++
        right.flatMap digests)).Perm
        (digest :: session.refreshDigest :: (left.flatMap digests ++ right.flatMap digests)) := by
      calc
        _ = left.flatMap digests ++
              session.refreshDigest :: digest :: right.flatMap digests := rfl
        List.Perm _ (session.refreshDigest ::
            (left.flatMap digests ++ digest :: right.flatMap digests)) := perm_middle
        List.Perm _ (session.refreshDigest :: digest ::
            (left.flatMap digests ++ right.flatMap digests)) := List.perm_middle.cons _
        List.Perm _ _ := List.Perm.swap _ _ _
    have hunique := (List.nodup_cons.mp (hperm.nodup_iff.mp hnodup)).1
    rw [hmodify, flatMap_append, flatMap_cons]
    simp only [mem_append, mem_cons, not_or] at hunique ⊢
    refine ⟨hunique.2.1, fun hmem => ?_, hunique.2.2⟩
    rcases eq_or_eq_of_mem_digests_rotateRecord hmem with heq | heq
    · exact hnew heq
    · exact hunique.1 heq

theorem remembered_run (hfresh : Fresh sha256 (before ++ after))
    (hold : ∃ old ∈ issued sha256 before, digest = sha256Hex sha256 old.1)
    (hopened : ∃ expiryUnix, (sessionId, expiryUnix) ∈ opened before)
    (h : Remembered digest sessionId (stateAfter sha256 before)) :
    (EachStep (step sha256) (NotRotated sha256 sessionId) (stateAfter sha256 before) after →
      Remembered digest sessionId (stateAfter sha256 (before ++ after))) ∧
    (¬ EachStep (step sha256) (NotRotated sha256 sessionId) (stateAfter sha256 before) after →
      digest ∉ storedDigests (stateAfter sha256 (before ++ after))) := by
  induction after generalizing before with
  | nil => simpa using h
  | cons operation after ih =>
    have hcut : before ++ operation :: after = (before ++ [operation]) ++ after := by simp
    rw [hcut] at hfresh ⊢
    have hledger := ledger_stateAfter hfresh.of_append.of_append
    obtain ⟨old, hmem, hdigest⟩ := hold
    obtain ⟨expiryUnix, hmem'⟩ := hopened
    have hold' : ∃ old ∈ issued sha256 (before ++ [operation]),
        digest = sha256Hex sha256 old.1 := by
      rw [issued_concat]
      exact ⟨old, mem_append_left _ hmem, hdigest⟩
    have hopened' : ∃ expiryUnix, (sessionId, expiryUnix) ∈ opened (before ++ [operation]) := by
      rw [opened_append]
      exact ⟨expiryUnix, mem_append_left _ hmem'⟩
    rw [eachStep_cons, ← stateAfter_concat]
    by_cases hnot : NotRotated sha256 sessionId (stateAfter sha256 before) operation
    · have hnext : Remembered digest sessionId (stateAfter sha256 (before ++ [operation])) := by
        rw [stateAfter_concat]
        refine h.step hledger.saved ?_ hnot
        intro uuid expiryUnix' hnew
        exact (hfresh.of_append.uuid_ne hnew hmem').symm
      obtain ⟨hkept, hlost⟩ := ih hfresh hold' hopened' hnext
      exact ⟨fun hrun => hkept hrun.2, fun hrun => hlost fun hrest => hrun ⟨hnot, hrest⟩⟩
    · refine ⟨fun hrun => absurd hrun.1 hnot, fun _ => ?_⟩
      have hgone : digest ∉ storedDigests (stateAfter sha256 (before ++ [operation])) := by
        rw [stateAfter_concat]
        refine not_mem_storedDigests_of_rotation h ?_ hledger.saved hledger.digests_nodup ?_
          (not_not.mp hnot)
        · rw [hdigest]
          exact sha256Hex_ne_empty sha256 old.1
        · intro newSecret id hnew
          rw [hdigest]
          exact hfresh.of_append.digest_ne hnew hmem
      have hrun := gone_run (fun _ _ hsaved => mem_storedDigests_step hsaved) hfresh hold' hgone
      simpa [stateAfter, foldl_append] using hrun.last

variable {presented : String}

theorem rotate_of_unknown (h : sha256Hex sha256 presented ∉ storedDigests store) (nowUnix : ℤ)
    (random : Bytes32) : store.rotate sha256 presented nowUnix random = (store, {}) := by
  have hstored : ∀ session ∈ store.sessions, sha256Hex sha256 presented ∉ digests session :=
    fun session hsession hmem => h (List.mem_flatMap.mpr ⟨session, hsession, hmem⟩)
  have hprevious : (store.sessions.find? fun session =>
      session.previousDigest == sha256Hex sha256 presented) = none := by
    rw [find?_eq_none]
    intro session hsession heq
    rw [beq_iff_eq] at heq
    refine hstored session hsession ?_
    simp [digests, heq, sha256Hex_ne_empty sha256 presented]
  have hrefresh : (store.sessions.find? fun session =>
      session.refreshDigest == sha256Hex sha256 presented) = none := by
    rw [find?_eq_none]
    intro session hsession heq
    rw [beq_iff_eq] at heq
    exact hstored session hsession (by simp [digests, heq])
  simp [rotate, hprevious, hrefresh]

theorem rotate_of_remembered (hpresented : presented ≠ "") (hnodup : (storedDigests store).Nodup)
    (hmem : session ∈ store.sessions)
    (hprevious : session.previousDigest = sha256Hex sha256 presented) (nowUnix : ℤ)
    (random : Bytes32) :
    (store.rotate sha256 presented nowUnix random).2 =
      { reuseDetected := true, sessionId := session.id, userId := session.userId } := by
  have hdigests : ∀ other : SessionRecord, other.previousDigest = sha256Hex sha256 presented →
      sha256Hex sha256 presented ∈ digests other := by
    intro other hother
    simp [digests, hother, sha256Hex_ne_empty sha256 presented]
  cases hfind : store.sessions.find? fun session =>
      session.previousDigest == sha256Hex sha256 presented with
  | none =>
    have habsent := List.find?_eq_none.mp hfind session hmem
    exact absurd (beq_iff_eq.mpr hprevious) habsent
  | some found =>
    have hfound : found.previousDigest = sha256Hex sha256 presented := by
      simpa using find?_some hfind
    obtain rfl := eq_of_mem_digests hnodup (mem_of_find?_eq_some hfind) hmem
      (hdigests _ hfound) (hdigests _ hprevious)
    simp [rotate, hpresented, hfind]

/-- A rotation puts the digest of the secret that it accepts into the place of the previous
one. -/
theorem remembered_of_success {nowUnix : ℤ} {random : Bytes32}
    (hids : ((store.rotate sha256 presented nowUnix random).1.sessions.map SessionRecord.id).Nodup)
    (h : (store.rotate sha256 presented nowUnix random).2.success) :
    Remembered (sha256Hex sha256 presented)
      (store.rotate sha256 presented nowUnix random).2.sessionId
      (store.rotate sha256 presented nowUnix random).1 := by
  obtain ⟨session, hrefresh, -, hid, -, hsessions⟩ := rotate_of_success h
  have hdigest : session.refreshDigest = sha256Hex sha256 presented := by
    simpa using find?_some hrefresh
  have hrotated := mem_modifyFirst_of_find? (f := rotateRecord
    (sha256Hex sha256 (generateSecret random)) nowUnix) hrefresh
  rw [← hsessions] at hrotated
  intro other hother hotherId
  obtain rfl := inj_on_of_nodup_map hids hother hrotated (hotherId.trans hid)
  exact hdigest

/-- Replaying a secret that a rotation took out of a session which is still live.  Until
the session is rotated once more the replay revokes it and is reported as reuse; from
then on the replay is refused like an unknown secret and the store stays as it is. -/
theorem replay_of_rotated_out (hfresh : Fresh sha256 operations) :
    ∀ before presented nowUnix random after sessionId,
      operations = before ++ .rotate presented nowUnix random :: after →
      ((stateAfter sha256 before).rotate sha256 presented nowUnix random).2.success →
      ((stateAfter sha256 before).rotate sha256 presented nowUnix random).2.sessionId = sessionId →
      Live (stateAfter sha256 operations) sessionId →
      ∀ replayedUnix random',
        (EachStep (step sha256) (NotRotated sha256 sessionId)
            (stateAfter sha256 (before ++ [.rotate presented nowUnix random])) after →
          ((stateAfter sha256 operations).rotate sha256 presented replayedUnix
              random').2.reuseDetected ∧
            ((stateAfter sha256 operations).rotate sha256 presented replayedUnix
              random').2.sessionId = sessionId ∧
            ¬ Live ((stateAfter sha256 operations).rotate sha256 presented replayedUnix
              random').1 sessionId) ∧
        (¬ EachStep (step sha256) (NotRotated sha256 sessionId)
            (stateAfter sha256 (before ++ [.rotate presented nowUnix random])) after →
          (stateAfter sha256 operations).rotate sha256 presented replayedUnix random' =
            (stateAfter sha256 operations, {})) := by
  rintro before presented nowUnix random after sessionId rfl hsuccess rfl hlive replayedUnix random'
  have hcut : before ++ .rotate presented nowUnix random :: after =
      (before ++ [.rotate presented nowUnix random]) ++ after := by simp
  rw [hcut] at hfresh hlive ⊢
  have hbefore := ledger_stateAfter hfresh.of_append.of_append
  have hledger := ledger_stateAfter hfresh
  obtain ⟨session, hrefresh, -, hid, -, -⟩ := rotate_of_success hsuccess
  have hmem := mem_of_find?_eq_some hrefresh
  have hdigest : session.refreshDigest = sha256Hex sha256 presented := by
    simpa using find?_some hrefresh
  have hpresented : presented ≠ "" := by
    rintro rfl
    simp [rotate] at hsuccess
  have hremembered : Remembered (sha256Hex sha256 presented) session.id
      (stateAfter sha256 (before ++ [.rotate presented nowUnix random])) := by
    have hids := (ledger_stateAfter hfresh.of_append).ids_nodup
    rw [stateAfter_concat] at hids ⊢
    rw [← hid]
    exact remembered_of_success hids hsuccess
  obtain ⟨holder, hholder, heq⟩ :=
    hbefore.handed_out session hmem session.refreshDigest (by simp [digests])
  have hold : ∃ old ∈ issued sha256 (before ++ [.rotate presented nowUnix random]),
      sha256Hex sha256 presented = sha256Hex sha256 old.1 := by
    rw [issued_concat]
    exact ⟨_, mem_append_left _ hholder, hdigest.symm.trans heq⟩
  have hopened : ∃ expiryUnix, (session.id, expiryUnix) ∈
      opened (before ++ [.rotate presented nowUnix random]) := by
    rw [opened_append]
    exact ⟨_, mem_append_left _ (hbefore.opened session hmem)⟩
  obtain ⟨hkept, hlost⟩ := remembered_run hfresh hold hopened hremembered
  rw [hid] at hlive ⊢
  constructor
  · intro hrun
    obtain ⟨live, hliveMem, hliveId⟩ := hlive
    have hresult := rotate_of_remembered hpresented hledger.digests_nodup hliveMem
      (hkept hrun live hliveMem hliveId) replayedUnix random'
    have hreuse := congrArg RotateResult.reuseDetected hresult
    have hreported := (congrArg RotateResult.sessionId hresult).trans hliveId
    have hgone := not_live_of_reuse hledger.ids_nodup hreuse
    rw [hreported] at hgone
    exact ⟨hreuse, hreported, hgone⟩
  · intro hrun
    exact rotate_of_unknown (hlost hrun) replayedUnix random'

/-- In the sample run the second secret is still remembered: its replay revokes the
session. -/
theorem replay_of_rotated_out_sample :
    ((stateAfter sampleSha256 sampleRun).rotate sampleSha256 (generateSecret (sampleDraw 1)) 40
      (sampleDraw 3)).2.reuseDetected :=
  ((replay_of_rotated_out sampleRun_fresh (sampleRun.take 2) (generateSecret (sampleDraw 1)) 30
    (sampleDraw 2) [] "session-1" rfl (by decide +kernel) (by decide +kernel) (by decide +kernel) 40
    (sampleDraw 3)).1 eachStep_nil).1

/-- The first secret of the sample run was rotated out of a session that is still live,
and its replay neither revokes the session nor is reported. -/
theorem replay_of_older_secret :
    ((stateAfter sampleSha256 (sampleRun.take 1)).rotate sampleSha256
      (generateSecret (sampleDraw 0)) 20 (sampleDraw 1)).2.success ∧
    ((stateAfter sampleSha256 sampleRun).rotate sampleSha256 (generateSecret (sampleDraw 0)) 40
      (sampleDraw 3)).2.reuseDetected = false ∧
    Live ((stateAfter sampleSha256 sampleRun).rotate sampleSha256 (generateSecret (sampleDraw 0)) 40
      (sampleDraw 3)).1 "session-1" := by
  decide +kernel

end AqualinkAutomate.Auth.SessionStore
