import Aqualink.General.KeyedTable
import Aqualink.Http.LiveSockets

/-!
# Sources that fail to present the token

The rate limiter has an entry for each source that has failed since it last succeeded.  The tenth
failure bans the source for a minute, in which its token is not looked at, and starts the count
anew (`eachStep_respectsBan`).

Before a failure is recorded in a table of 8192 entries, those that neither count failures nor are
banned are dropped.  Nothing else is ever dropped, so the table stays within its bound in the runs
in which every failure finds `Room` (`throttle_iff`).
-/

namespace AqualinkAutomate.Http

open General List

/-! ## The check -/

/-- A request whose bearer token is checked. -/
structure BearerCheck where
  request : UpgradeRequest
  isWebsocketUpgrade : Bool := false
  now : ℤ

namespace BearerCheck

variable (expected : String) (check : BearerCheck)

abbrev source : String := check.request.peerIp

def authorised : Bool :=
  headerValue check.request.headers "Authorization" == some ("Bearer " ++ expected) ||
    check.isWebsocketUpgrade &&
      webSocketSubprotocolTokenMatches check.request.headers expected

/-- `EvaluateBearerToken` of any request. -/
def evaluate (limiter : AuthRateLimiter) : AuthRateLimiter × Option Rejection :=
  if limiter.isBanned check.source check.now then
    (limiter, some ⟨429, "Too many failed authentication attempts; try again later."⟩)
  else if check.authorised expected then (limiter.recordSuccess check.source, none)
  else (limiter.recordFailure check.source check.now, some ⟨401, "Unauthorized."⟩)

end BearerCheck

/-! ## The run -/

/-- What a source has done: its failures since it last succeeded, and when their number last came
to a multiple of ten. -/
structure SourceHistory where
  failures : ℕ := 0
  tenthAt : Option ℤ := none

def SourceHistory.fail (history : SourceHistory) (now : ℤ) : SourceHistory where
  failures := history.failures + 1
  tenthAt := if (history.failures + 1) % 10 = 0 then some now else history.tenthAt

structure ThrottledServer where
  limiter : AuthRateLimiter := []
  history : String → SourceHistory := fun _ => {}

namespace ThrottledServer

variable (expected : String)

/-- The history goes by the answers: 401 to a failure, and none to a success. -/
def step (s : ThrottledServer) (check : BearerCheck) : ThrottledServer :=
  let (limiter, answer) := check.evaluate expected s.limiter
  let history := s.history check.source
  { limiter := limiter
    history :=
      match answer with
      | none => Function.update s.history check.source { history with failures := 0 }
      | some rejection =>
        if rejection.status = 401 then
          Function.update s.history check.source (history.fail check.now)
        else s.history }

/-- In the minute after a tenth failure the source is turned away without a look at its token. -/
def RespectsBan (s : ThrottledServer) (check : BearerCheck) : Prop :=
  check.source ≠ "" → ∀ tenth, (s.history check.source).tenthAt = some tenth →
    check.now < tenth + 60 →
      check.evaluate expected s.limiter = (s.limiter,
        some ⟨429, "Too many failed authentication attempts; try again later."⟩)

def Bounded (s : ThrottledServer) : Prop := s.limiter.length ≤ 8192

def othersHeld (s : ThrottledServer) (check : BearerCheck) : AuthRateLimiter :=
  s.limiter.filter fun tracked =>
    tracked.1 != check.source &&
      (tracked.2.failures != 0 || decide (check.now < tracked.2.bannedUntil))

/-- A check that fails finds fewer than 8192 other sources that count failures or are banned. -/
def Room (s : ThrottledServer) (check : BearerCheck) : Prop :=
  check.source ≠ "" → s.limiter.isBanned check.source check.now = false →
    check.authorised expected = false → (s.othersHeld check).length < 8192

instance (s : ThrottledServer) (check : BearerCheck) : Decidable (s.Room expected check) :=
  inferInstanceAs (Decidable (_ → _ → _ → _))

/-! ## One check -/

section

variable {expected : String} {s : ThrottledServer} {check : BearerCheck}

theorem step_of_banned (h : s.limiter.isBanned check.source check.now) :
    s.step expected check = s := by
  simp [step, BearerCheck.evaluate, h]

theorem step_of_authorised (hban : s.limiter.isBanned check.source check.now = false)
    (h : check.authorised expected) :
    s.step expected check =
      { limiter := s.limiter.recordSuccess check.source
        history := Function.update s.history check.source
          { s.history check.source with failures := 0 } } := by
  simp [step, BearerCheck.evaluate, hban, h]

theorem step_of_failure (hban : s.limiter.isBanned check.source check.now = false)
    (h : check.authorised expected = false) :
    s.step expected check =
      { limiter := s.limiter.recordFailure check.source check.now
        history := Function.update s.history check.source
          ((s.history check.source).fail check.now) } := by
  simp [step, BearerCheck.evaluate, hban, h]

end

/-! ## The size of the table -/

section

variable {expected : String} {s : ThrottledServer} {check : BearerCheck}

theorem others_pruned (limiter : AuthRateLimiter) (ip : String) (now : ℤ) :
    (limiter.pruneIfLarge now).filter (fun tracked => tracked.1 != ip) =
      if limiter.length < 8192 then limiter.filter fun tracked => tracked.1 != ip
      else limiter.filter fun tracked =>
        tracked.1 != ip && (tracked.2.failures != 0 || decide (now < tracked.2.bannedUntil)) := by
  unfold AuthRateLimiter.pruneIfLarge AuthRateLimiter.maxTrackedIps
  split
  · rfl
  · rw [filter_filter]
    refine filter_congr fun tracked _ => ?_
    rw [Bool.not_and, ← decide_not]
    simp only [Int.not_le, bne]

theorem bounded_step_iff (hs : s.Bounded) :
    (s.step expected check).Bounded ↔ s.Room expected check := by
  cases hban : s.limiter.isBanned check.source check.now with
  | true =>
    rw [step_of_banned hban]
    exact iff_of_true hs fun _ hnot => by simp [hban] at hnot
  | false =>
    cases hauth : check.authorised expected with
    | true =>
      rw [step_of_authorised hban hauth]
      refine iff_of_true ?_ fun _ _ hnot => by simp [hauth] at hnot
      unfold Bounded AuthRateLimiter.recordSuccess
      split
      · exact hs
      · exact (length_filter_le _ _).trans hs
    | false =>
      rw [step_of_failure hban hauth]
      by_cases hsource : check.source = ""
      · refine iff_of_true ?_ fun hnot => absurd hsource hnot
        simpa [Bounded, AuthRateLimiter.recordFailure, hsource] using hs
      · have hroom : s.Room expected check ↔ (s.othersHeld check).length < 8192 :=
          ⟨fun h => h hsource hban hauth, fun h _ _ _ => h⟩
        simp only [Bounded, AuthRateLimiter.recordFailure, if_neg hsource, length_cons,
          others_pruned, hroom]
        split
        · -- a table that is not full has room, whatever is in it
          have hall :=
            length_filter_le (fun tracked => tracked.1 != check.source) s.limiter
          have hheld := length_filter_le (fun tracked => tracked.1 != check.source &&
            (tracked.2.failures != 0 || decide (check.now < tracked.2.bannedUntil))) s.limiter
          exact iff_of_true (by omega) (by unfold othersHeld; omega)
        · exact Nat.succ_le_iff

end

/-! ## What the table remembers -/

structure Recalls (entry : Option LimiterEntry) (history : SourceHistory) (last : ℤ) : Prop where
  failures : (entry.getD {}).failures = history.failures % 10
  ban : ∀ tenth, history.tenthAt = some tenth → last < tenth + 60 →
    ∃ banned, entry = some banned ∧ banned.bannedUntil = tenth + 60

structure Remembers (s : ThrottledServer) (last : ℤ) : Prop where
  nodup : (s.limiter.map Prod.fst).Nodup
  recalls : ∀ source, source ≠ "" → Recalls (s.limiter.lookup source) (s.history source) last

section

variable {expected : String} {s : ThrottledServer} {check : BearerCheck} {last : ℤ}

theorem initial_remembers (last : ℤ) : Remembers {} last :=
  ⟨nodup_nil, fun _ _ => ⟨rfl, nofun⟩⟩

theorem Remembers.mono (h : s.Remembers last) {now : ℤ} (hle : last ≤ now) : s.Remembers now :=
  ⟨h.nodup, fun source hsource => ⟨(h.recalls source hsource).failures,
    fun tenth htenth hlt => (h.recalls source hsource).ban tenth htenth (by omega)⟩⟩

theorem Remembers.isBanned (h : s.Remembers check.now) (hsource : check.source ≠ "") {tenth : ℤ}
    (htenth : (s.history check.source).tenthAt = some tenth) (hlt : check.now < tenth + 60) :
    s.limiter.isBanned check.source check.now := by
  obtain ⟨banned, hentry, huntil⟩ := (h.recalls _ hsource).ban _ htenth hlt
  simp [AuthRateLimiter.isBanned, hsource, hentry, huntil, hlt]

variable {history : SourceHistory}

theorem Remembers.update (h : s.Remembers last) {limiter : AuthRateLimiter} {source : String}
    (hnodup : (limiter.map Prod.fst).Nodup)
    (hothers : ∀ other, other ≠ source → limiter.lookup other = s.limiter.lookup other)
    (hself : source ≠ "" → Recalls (limiter.lookup source) history last) :
    Remembers ⟨limiter, Function.update s.history source history⟩ last := by
  refine ⟨hnodup, fun other hother => ?_⟩
  by_cases heq : other = source
  · subst heq
    simpa only [Function.update_self] using hself hother
  · simp only [hothers other heq, Function.update_of_ne heq]
    exact h.recalls other hother

theorem Remembers.prune (h : s.Remembers last) :
    Remembers { s with limiter := s.limiter.pruneIfLarge last } last := by
  unfold AuthRateLimiter.pruneIfLarge
  split
  · exact h
  · refine ⟨nodup_keys_filter _ h.nodup, fun source hsource => ?_⟩
    obtain ⟨hfailures, hban⟩ := h.recalls source hsource
    rw [lookup_filter_of_nodup _ h.nodup]
    refine ⟨?_, fun tenth htenth hlt => ?_⟩
    · rw [← hfailures]
      cases s.limiter.lookup source with
      | none => rfl
      | some entry =>
        by_cases hidle : entry.failures = 0 ∧ entry.bannedUntil ≤ last
        · simp [Option.filter, hidle.1, hidle.2]
        · have hkept : ¬ entry.failures = 0 ∨ last < entry.bannedUntil := by omega
          simp [Option.filter, hkept]
    · obtain ⟨banned, hentry, huntil⟩ := hban tenth htenth hlt
      refine ⟨banned, ?_, huntil⟩
      rw [hentry]
      simp [Option.filter, huntil, hlt]

theorem Recalls.fail {entry : Option LimiterEntry} {now : ℤ} (h : Recalls entry history now)
    (hover : ∀ tenth, history.tenthAt = some tenth → ¬ now < tenth + 60) :
    Recalls
      (some (if AuthRateLimiter.maxFailures ≤ (entry.getD {}).failures + 1
        then ⟨0, now + AuthRateLimiter.banWindow⟩
        else { entry.getD {} with failures := (entry.getD {}).failures + 1 }))
      (history.fail now) now := by
  have hcount := h.failures
  unfold AuthRateLimiter.maxFailures AuthRateLimiter.banWindow
  by_cases hten : (history.failures + 1) % 10 = 0
  · rw [if_pos (by omega)]
    refine ⟨hten.symm, fun tenth htenth _ => ⟨_, rfl, ?_⟩⟩
    rw [SourceHistory.fail, if_pos hten] at htenth
    rw [← Option.some_inj.mp htenth]
  · rw [if_neg (by omega)]
    refine ⟨?_, fun tenth htenth hlt => ?_⟩
    · simp only [Option.getD_some, SourceHistory.fail]
      omega
    · rw [SourceHistory.fail, if_neg hten] at htenth
      exact absurd hlt (hover tenth htenth)

theorem Remembers.step (h : s.Remembers check.now) :
    (s.step expected check).Remembers check.now := by
  cases hban : s.limiter.isBanned check.source check.now with
  | true => rwa [step_of_banned hban]
  | false =>
    -- a source whose token is looked at has no ban that still runs
    have hover : check.source ≠ "" → ∀ tenth,
        (s.history check.source).tenthAt = some tenth → ¬ check.now < tenth + 60 := by
      intro hsource tenth htenth hlt
      simp [h.isBanned hsource htenth hlt] at hban
    cases hauth : check.authorised expected with
    | true =>
      rw [step_of_authorised hban hauth]
      unfold AuthRateLimiter.recordSuccess
      split
      case isTrue hempty => exact h.update h.nodup (fun _ _ => rfl) fun hne => absurd hempty hne
      case isFalse =>
        refine h.update (nodup_keys_filter _ h.nodup) (fun _ => lookup_filter_ne) fun hne => ?_
        rw [lookup_filter_self]
        exact ⟨rfl, fun tenth htenth hlt => absurd hlt (hover hne tenth htenth)⟩
    | false =>
      rw [step_of_failure hban hauth]
      unfold AuthRateLimiter.recordFailure
      split
      case isTrue hempty => exact h.update h.nodup (fun _ _ => rfl) fun hne => absurd hempty hne
      case isFalse =>
        have hprune := h.prune
        refine hprune.update (nodup_keys_write _ hprune.nodup) (fun other hother => ?_)
          fun hne => ?_
        · rw [lookup_cons, beq_false_of_ne hother]
          exact lookup_filter_ne hother
        · rw [List.lookup_cons_self]
          exact (hprune.recalls _ hne).fail (hover hne)

end

/-- **A ban is respected.**  Whatever the other sources do, no source has its token looked at in the
minute after its tenth failure. -/
theorem eachStep_respectsBan (expected : String) (checks : List BearerCheck)
    (htimes : (checks.map BearerCheck.now).Pairwise (· ≤ ·)) :
    EachStep (step expected) (RespectsBan expected) {} checks := by
  have hrun : ∀ (s : ThrottledServer) (last : ℤ), s.Remembers last →
      ((last :: checks.map BearerCheck.now).Pairwise (· ≤ ·)) →
      EachStep (step expected) (RespectsBan expected) s checks := by
    clear htimes
    induction checks with
    | nil => exact fun _ _ _ _ => trivial
    | cons check checks ih =>
      intro s last h htimes
      obtain ⟨hfirst, hrest⟩ := List.pairwise_cons.mp htimes
      have hnow : s.Remembers check.now := h.mono (hfirst _ mem_cons_self)
      refine ⟨fun hsource tenth htenth hlt => ?_, ih _ check.now hnow.step hrest⟩
      simp [BearerCheck.evaluate, hnow.isBanned hsource htenth hlt]
  cases checks with
  | nil => trivial
  | cons check checks =>
    refine hrun {} check.now (initial_remembers _) ?_
    rw [pairwise_cons]
    refine ⟨fun now hmem => ?_, htimes⟩
    rcases List.mem_cons.mp hmem with rfl | hmem
    · exact le_rfl
    · exact (List.pairwise_cons.mp htimes).1 _ hmem

/-- **The throttle.**  In a run of checks at times that do not go back, the table stays within its
bound and every ban is respected, exactly if every failure finds room. -/
theorem throttle_iff (expected : String) (checks : List BearerCheck)
    (htimes : (checks.map BearerCheck.now).Pairwise (· ≤ ·)) :
    (EachState (step expected) Bounded {} checks ∧
        EachStep (step expected) (RespectsBan expected) {} checks) ↔
      EachStep (step expected) (Room expected) {} checks := by
  rw [and_iff_left (eachStep_respectsBan expected checks htimes)]
  exact eachState_iff_eachStep (fun s check hs => bounded_step_iff hs) (Nat.zero_le _)

/-- A client that guesses the token once a second. -/
def guesses : List BearerCheck := (range 11).map fun (second : ℕ) =>
  { request := { peerIp := "10.0.0.7", headers := [], target := none }, now := second }

/-- The eleventh guess finds the client banned. -/
theorem throttle_guesses :
    EachState (step "secret") Bounded {} guesses ∧
      EachStep (step "secret") (RespectsBan "secret") {} guesses ∧
        ((guesses.take 10).foldl (step "secret") {}).limiter.isBanned "10.0.0.7" 10 :=
  and_assoc.mp ⟨(throttle_iff "secret" guesses (by decide)).mpr (by decide +kernel), by decide⟩

/-! ## Sources that fail once -/

/-- The address of a client on a local network of its own choosing. -/
def probeSource (n : ℕ) : String := "fd00::" ++ Nat.repr n

theorem probeSource_injective : Function.Injective probeSource := by
  intro m n h
  have hdigits : Nat.toDigits 10 m = Nat.toDigits 10 n := by
    have hlist := congrArg String.toList h
    rwa [probeSource, probeSource, String.toList_append, String.toList_append,
      append_cancel_left_eq, Nat.toList_repr, Nat.toList_repr] at hlist
  have hof := congrArg (fun digits => Nat.ofDigitChars 10 digits 0) hdigits
  simpa only [Nat.ofDigitChars_toDigits (by omega : 1 < 10) (by omega : 10 ≤ 10)] using hof

theorem probeSource_ne_empty (n : ℕ) : probeSource n ≠ "" := by
  intro h
  have hlength := congrArg String.length h
  simp [probeSource] at hlength

/-- A request without a token. -/
def probe (n : ℕ) : BearerCheck where
  request := { peerIp := probeSource n, headers := [], target := none }
  now := 0

section

variable (expected : String) (n : ℕ)

theorem probe_not_authorised : (probe n).authorised expected = false := by
  simp [BearerCheck.authorised, probe, headerValue]

theorem limiter_of_probes :
    (((range n).map probe).foldl (step expected) {}).limiter =
      ((range n).map fun i => (probeSource i, (⟨1, 0⟩ : LimiterEntry))).reverse := by
  induction n with
  | zero => rfl
  | succ n ih =>
    rw [range_succ, map_append, foldl_append, map_append, reverse_append, ← ih]
    generalize hs : ((range n).map probe).foldl (step expected) {} = s at ih ⊢
    have hfresh : ∀ entry ∈ s.limiter, entry.1 ≠ probeSource n ∧ entry.2 = ⟨1, 0⟩ := by
      intro entry hentry
      rw [ih, mem_reverse] at hentry
      obtain ⟨i, hi, rfl⟩ := List.mem_map.mp hentry
      exact ⟨fun heq => (List.mem_range.mp hi).ne (probeSource_injective heq), rfl⟩
    have hlookup : s.limiter.lookup (probeSource n) = none := by
      rw [lookup_eq_none_iff]
      intro entry hentry
      simpa using (hfresh entry hentry).1.symm
    have hprune : s.limiter.pruneIfLarge 0 = s.limiter := by
      unfold AuthRateLimiter.pruneIfLarge
      split
      · rfl
      · exact List.filter_eq_self.mpr fun entry hentry => by simp [(hfresh entry hentry).2]
    have hban : s.limiter.isBanned (probe n).source (probe n).now = false := by
      simp [AuthRateLimiter.isBanned, probe, hlookup]
    have hothers : (s.limiter.filter fun tracked => tracked.1 != probeSource n) = s.limiter :=
      List.filter_eq_self.mpr fun entry hentry => by simpa using (hfresh entry hentry).1
    rw [map_singleton, foldl_cons, foldl_nil,
      step_of_failure hban (probe_not_authorised expected n)]
    have hsource : (probe n).source ≠ "" := probeSource_ne_empty n
    simp [AuthRateLimiter.recordFailure, AuthRateLimiter.maxFailures, hsource]
    simp [probe, hprune, hlookup, hothers]

theorem bounded_of_probes_iff :
    Bounded (((range n).map probe).foldl (step expected) {}) ↔ n ≤ 8192 := by
  rw [Bounded, limiter_of_probes, length_reverse, length_map, length_range]

end

/-- 8193 sources, each of which fails once. -/
theorem probes_not_bounded : ¬ EachState (step "secret") Bounded {} ((range 8193).map probe) :=
  mt EachState.last ((bounded_of_probes_iff "secret" 8193).not.mpr (by decide))

end ThrottledServer

end AqualinkAutomate.Http
