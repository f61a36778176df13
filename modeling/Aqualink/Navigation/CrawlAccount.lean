import Aqualink.Navigation.SpiderEngine

/-!
# The account of a crawl

A crawl chooses one target after the other, and the engine keeps two records of the
targets that are done: the pages visited, and for each page with many instances the keys
of the edges visited.  They are written when a page is captured, when a navigation
fails and when an instance turns out to be absent.

`Accounted` ties the records to what the crawl has reported.  At any time at most one of
the targets chosen so far is pending, and all others are done.  A target that is done is
no candidate any more, so no target is chosen twice (`choices_nodup`), and a crawl is
no longer than there are targets (`length_choices_le`).
-/

namespace AqualinkAutomate.Navigation

open General List Option

abbrev Target : Type := PageId × Option MultiEdgeKey

def Target.Valid (model : MenuModel) (target : Target) : Prop :=
  ∃ page ∈ model.pages, page.id = target.1 ∧
    match target.2 with
    | none => page.multiInstance = false
    | some key => page.multiInstance = true ∧
        ∃ edge ∈ model.getIncomingSelectEdges page.id, edge.key = key

theorem Target.Valid.eq_none {model : MenuModel} {target : Target} (h : target.Valid model)
    (hsingle : (model.getPage target.1).any MenuPage.multiInstance = false) : target.2 = none := by
  obtain ⟨page, hpage, hid, hkind⟩ := h
  cases hkey : target.2 with
  | none => rfl
  | some key =>
    rw [hkey] at hkind
    rw [← hid, model.getPage_of_mem hpage, any_some, hkind.1] at hsingle
    cases hsingle

def MenuModel.multiEdgeTargets (model : MenuModel) : Finset (PageId × MultiEdgeKey) :=
  ((model.pages.filter MenuPage.multiInstance).flatMap fun page =>
    (model.getIncomingSelectEdges page.id).map fun edge => (page.id, edge.key)).toFinset

namespace CrawlReport

def choice? : CrawlReport → Option Target
  | .targetChosen page edge => some (page, edge.map MenuEdge.key)
  | .navigationFailed _ _ | .pageReached _ _ | .crawlComplete => none

def capture? : CrawlReport → Option PageId
  | .pageReached page _ => some page
  | .targetChosen _ _ | .navigationFailed _ _ | .crawlComplete => none

def failure? : CrawlReport → Option PageId
  | .navigationFailed page none => some page
  | .navigationFailed _ (some _) | .targetChosen _ _ | .pageReached _ _ | .crawlComplete => none

end CrawlReport

namespace SpiderEngine

variable {model : MenuModel} {engine engine' : SpiderEngine} {pending : Option Target}

def choices (engine : SpiderEngine) : List Target := engine.reports.filterMap CrawlReport.choice?

/-- The pages that were handed to the policy. -/
def captures (engine : SpiderEngine) : List PageId :=
  engine.reports.filterMap CrawlReport.capture?

def failures (engine : SpiderEngine) : List PageId :=
  engine.reports.filterMap CrawlReport.failure?

def IsDone (engine : SpiderEngine) : Target → Prop
  | (page, none) => page ∈ engine.visited
  | (page, some key) => key ∈ engine.visitedMultiEdges page

def pendingTarget (engine : SpiderEngine) : Option Target :=
  match engine.state with
  | .navigatingToNext | .capturingPage | .failed =>
    some (engine.currentTarget, engine.currentMultiEdge.map MenuEdge.key)
  | .idle | .syncing | .complete => none

/-- The records of the engine agree with what its crawl has reported. -/
structure Accounted (model : MenuModel) (engine : SpiderEngine) (pending : Option Target) :
    Prop where
  nodup : engine.choices.Nodup
  valid : ∀ target ∈ engine.choices, target.Valid model
  done : ∀ target ∈ engine.choices, engine.IsDone target ∨ pending = some target
  pending_open : ∀ target, pending = some target →
    target ∈ engine.choices ∧ ¬ engine.IsDone target ∧ engine.policy.isSome = true
  captured_chosen : ∀ page ∈ engine.captures, ∃ key, (page, key) ∈ engine.choices
  captured : ∀ page ∈ engine.captures, (model.getPage page).any MenuPage.multiInstance = false →
    page ∈ engine.visited
  captured_once : ∀ page, (model.getPage page).any MenuPage.multiInstance = false →
    engine.captures.count page ≤ 1
  failed_chosen : ∀ page ∈ engine.failed, (page, none) ∈ engine.choices ∧ page ∈ engine.visited
  failed : ∀ page ∈ engine.failures, page ∈ engine.visited ∧ page ∈ engine.failed ∨
    engine.state = .failed ∧ page = engine.currentTarget
  visited : ∀ page ∈ engine.visited,
    page ∈ engine.captures ∨ page ∈ engine.failed ∨ ∃ key, (page, some key) ∈ engine.choices
  edges : ∀ page, ∀ key ∈ engine.visitedMultiEdges page, (page, some key) ∈ engine.choices

/-! ## The choice of a target -/

variable {edge : MenuEdge}

theorem getNextUnvisitedMultiEdge_spec {page : PageId}
    (h : engine.getNextUnvisitedMultiEdge model page = some edge) :
    edge ∈ model.getIncomingSelectEdges page ∧ edge.key ∉ engine.visitedMultiEdges page :=
  ⟨mem_of_find?_eq_some h, by simpa using find?_some h⟩

theorem isSome_getNextUnvisitedMultiEdge {page : PageId} :
    (engine.getNextUnvisitedMultiEdge model page).isSome =
      engine.hasUnvisitedMultiEdges model page :=
  isSome_find? ..

theorem nearestTarget_mem {current target : PageId} {pages : List MenuPage}
    {nearest : Option (PageId × ℕ)}
    (h : engine.nearestTarget model current pages nearest = some target) :
    (∃ page ∈ pages, page.id = target) ∨ nearest.map Prod.fst = some target := by
  induction pages generalizing nearest with
  | nil => exact .inr h
  | cons page pages ih =>
    have hlater : ∀ {nearest}, engine.nearestTarget model current pages nearest = some target →
        nearest.map Prod.fst = some target ∨ ∃ page' ∈ page :: pages, page'.id = target := by
      intro nearest hnearest
      rcases ih hnearest with ⟨page', hmem, hid⟩ | hfound
      · exact .inr ⟨page', mem_cons_of_mem _ hmem, hid⟩
      · exact .inl hfound
    have hhere : some page.id = some target → ∃ page' ∈ page :: pages, page'.id = target :=
      fun heq => ⟨page, mem_cons_self, Option.some_inj.mp heq⟩
    unfold nearestTarget at h
    split at h
    · exact .inl (hhere h)
    split at h
    · exact (hlater h).symm
    split at h
    · exact .inl ((hlater h).elim hhere id)
    · exact (hlater h).symm

theorem chooseNextTarget_spec {target : PageId} (h : engine.chooseNextTarget model = some target) :
    ∃ page ∈ model.pages, page.id = target ∧ engine.isCandidate model page := by
  unfold chooseNextTarget at h
  split at h
  · cases h
  rcases nearestTarget_mem h with ⟨page, hpage, hid⟩ | hnone
  · obtain ⟨hmem, hcandidate⟩ := List.mem_filter.mp hpage
    exact ⟨page, hmem, hid, hcandidate⟩
  · cases hnone

theorem wants_of_isCandidate {page : MenuPage} (h : engine.isCandidate model page) :
    engine.wants page := by
  unfold isCandidate at h
  rw [Bool.and_eq_true, Bool.and_eq_true] at h
  exact h.1.2

theorem isSome_policy_of_wants {page : MenuPage} (h : engine.wants page) :
    engine.policy.isSome := by
  unfold wants at h
  cases hpolicy : engine.policy with
  | none =>
    rw [hpolicy] at h
    cases h
  | some policy => rfl

theorem entryEdge_of_isCandidate {page : MenuPage} (hpage : page ∈ model.pages)
    (h : engine.isCandidate model page) :
    Target.Valid model (page.id, (engine.entryEdge model page.id).map MenuEdge.key) ∧
      ¬ engine.IsDone (page.id, (engine.entryEdge model page.id).map MenuEdge.key) := by
  unfold isCandidate at h
  rw [Bool.and_eq_true] at h
  have hopen := h.2
  unfold entryEdge
  rw [model.getPage_of_mem hpage, any_some]
  by_cases hmulti : page.multiInstance
  · rw [if_pos hmulti] at hopen ⊢
    rw [← isSome_getNextUnvisitedMultiEdge] at hopen
    obtain ⟨edge, hedge⟩ := Option.isSome_iff_exists.mp hopen
    obtain ⟨hmem, hkey⟩ := getNextUnvisitedMultiEdge_spec hedge
    rw [hedge]
    exact ⟨⟨page, hpage, rfl, hmulti, edge, hmem, rfl⟩, hkey⟩
  · rw [if_neg hmulti] at hopen ⊢
    exact ⟨⟨page, hpage, rfl, by simpa using hmulti⟩, by simpa [IsDone] using hopen⟩

/-! ## One step of the account -/

theorem isDone_congr (hvisited : engine'.visited = engine.visited)
    (hedges : engine'.visitedMultiEdges = engine.visitedMultiEdges) (target : Target) :
    engine'.IsDone target ↔ engine.IsDone target := by
  obtain ⟨page, _ | key⟩ := target
  · exact iff_of_eq (congrArg (page ∈ ·) hvisited)
  · exact iff_of_eq (congrArg (fun edges => key ∈ edges page) hedges)

theorem Accounted.choose (h : Accounted model engine none) {target : Target}
    (hvalid : target.Valid model) (hopen : ¬ engine.IsDone target)
    (hpolicy : engine.policy.isSome) (hchoices : engine'.choices = target :: engine.choices)
    (hcaptures : engine'.captures = engine.captures)
    (hfailures : engine'.failures = engine.failures) (hvisited : engine'.visited = engine.visited)
    (hfailed : engine'.failed = engine.failed)
    (hedges : engine'.visitedMultiEdges = engine.visitedMultiEdges)
    (hpolicy' : engine'.policy = engine.policy) (hstate : engine.state ≠ .failed) :
    Accounted model engine' (some target) := by
  have hdone := isDone_congr hvisited hedges
  have hfresh : target ∉ engine.choices := by
    intro hmem
    rcases h.done target hmem with hdone' | hnone
    · exact hopen hdone'
    · cases hnone
  constructor
  case nodup =>
    rw [hchoices]
    exact List.nodup_cons.mpr ⟨hfresh, h.nodup⟩
  case valid =>
    rw [hchoices]
    exact List.forall_mem_cons.mpr ⟨hvalid, h.valid⟩
  case done =>
    rw [hchoices]
    refine List.forall_mem_cons.mpr ⟨.inr rfl, fun t ht => ?_⟩
    rcases h.done t ht with hdone' | hnone
    · exact .inl ((hdone t).mpr hdone')
    · cases hnone
  case pending_open =>
    intro t ht
    cases ht
    rw [hchoices, hpolicy']
    exact ⟨mem_cons_self, fun hdone' => hopen ((hdone target).mp hdone'), hpolicy⟩
  case captured_chosen =>
    rw [hcaptures, hchoices]
    intro page hpage
    obtain ⟨key, hkey⟩ := h.captured_chosen page hpage
    exact ⟨key, mem_cons_of_mem _ hkey⟩
  case captured =>
    rw [hcaptures, hvisited]
    exact h.captured
  case captured_once =>
    rw [hcaptures]
    exact h.captured_once
  case failed_chosen =>
    rw [hfailed, hchoices, hvisited]
    intro page hpage
    obtain ⟨hchosen, hdone'⟩ := h.failed_chosen page hpage
    exact ⟨mem_cons_of_mem _ hchosen, hdone'⟩
  case failed =>
    rw [hfailures, hvisited, hfailed]
    intro page hpage
    rcases h.failed page hpage with hboth | ⟨hfailed', -⟩
    · exact .inl hboth
    · exact absurd hfailed' hstate
  case visited =>
    rw [hvisited, hcaptures, hfailed, hchoices]
    intro page hpage
    rcases h.visited page hpage with hcaptured | hfailed' | ⟨key, hkey⟩
    · exact .inl hcaptured
    · exact .inr (.inl hfailed')
    · exact .inr (.inr ⟨key, mem_cons_of_mem _ hkey⟩)
  case edges =>
    rw [hedges, hchoices]
    exact fun page key hkey => mem_cons_of_mem _ (h.edges page key hkey)

theorem Accounted.tickOff {target : Target} (h : Accounted model engine (some target))
    (hstate : engine.state ≠ .failed) (hchoices : engine'.choices = engine.choices)
    (hvisited : ∀ page, page ∈ engine'.visited → page ∈ engine.visited ∨ page = target.1)
    (hvisited' : engine.visited ⊆ engine'.visited)
    (hedges : ∀ page key, key ∈ engine'.visitedMultiEdges page ↔
      key ∈ engine.visitedMultiEdges page ∨ (page, some key) = target)
    (hdone : engine'.IsDone target) (hfailed : engine.failed ⊆ engine'.failed)
    (hfailed' : ∀ page ∈ engine'.failed, page ∈ engine.failed ∨ (page, none) = target)
    (hcaptures : engine'.captures = engine.captures ∨
      engine'.captures = target.1 :: engine.captures)
    (hfailures : ∀ page ∈ engine'.failures, page ∈ engine.failures ∨
      page ∈ engine'.visited ∧ page ∈ engine'.failed)
    (htried : target.2 = none → target.1 ∈ engine'.captures ∨ target.1 ∈ engine'.failed) :
    Accounted model engine' none := by
  obtain ⟨hmem, hopen, -⟩ := h.pending_open target rfl
  have hvalid := h.valid target hmem
  have hmono : ∀ t, engine.IsDone t → engine'.IsDone t := by
    rintro ⟨page, _ | key⟩ ht
    · exact hvisited' ht
    · exact (hedges page key).mpr (.inl ht)
  -- a page that is a target by itself was not captured while it was pending
  have hsingle : (model.getPage target.1).any MenuPage.multiInstance = false →
      target.1 ∈ engine'.visited ∧ target.1 ∉ engine.captures := by
    intro hsingle
    have heq : target = (target.1, none) := Prod.ext rfl (hvalid.eq_none hsingle)
    rw [heq] at hdone hopen
    exact ⟨hdone, fun hcaptured => hopen (h.captured _ hcaptured hsingle)⟩
  have hcaptures' : ∀ page, page ∈ engine.captures → page ∈ engine'.captures := by
    intro page hpage
    rcases hcaptures with heq | heq <;> rw [heq]
    · exact hpage
    · exact mem_cons_of_mem _ hpage
  constructor
  case nodup =>
    rw [hchoices]
    exact h.nodup
  case valid =>
    rw [hchoices]
    exact h.valid
  case done =>
    rw [hchoices]
    intro t ht
    rcases h.done t ht with ht' | ht'
    · exact .inl (hmono t ht')
    · rw [← Option.some_inj.mp ht']
      exact .inl hdone
  case pending_open =>
    intro t ht
    cases ht
  case captured_chosen =>
    rw [hchoices]
    intro page hpage
    rcases hcaptures with heq | heq <;> rw [heq] at hpage
    · exact h.captured_chosen page hpage
    rcases List.mem_cons.mp hpage with rfl | hpage
    · exact ⟨target.2, hmem⟩
    · exact h.captured_chosen page hpage
  case captured =>
    intro page hpage hpageSingle
    rcases hcaptures with heq | heq
    · rw [heq] at hpage
      exact hvisited' (h.captured page hpage hpageSingle)
    · rw [heq] at hpage
      rcases List.mem_cons.mp hpage with rfl | hpage
      · exact (hsingle hpageSingle).1
      · exact hvisited' (h.captured page hpage hpageSingle)
  case captured_once =>
    intro page hpageSingle
    rcases hcaptures with heq | heq
    · rw [heq]
      exact h.captured_once page hpageSingle
    · rw [heq, count_cons]
      by_cases hpage : target.1 = page
      · subst hpage
        rw [count_eq_zero_of_not_mem (hsingle hpageSingle).2, beq_self_eq_true, if_pos rfl]
      · rw [beq_false_of_ne hpage, if_neg Bool.false_ne_true]
        exact h.captured_once page hpageSingle
  case failed_chosen =>
    rw [hchoices]
    intro page hpage
    rcases hfailed' page hpage with hold | heq
    · obtain ⟨hchosen, hdone'⟩ := h.failed_chosen page hold
      exact ⟨hchosen, hvisited' hdone'⟩
    · rw [← heq] at hmem hdone
      exact ⟨hmem, hdone⟩
  case failed =>
    intro page hpage
    rcases hfailures page hpage with hold | hboth
    · rcases h.failed page hold with ⟨hv, hf⟩ | ⟨hstate', -⟩
      · exact .inl ⟨hvisited' hv, hfailed hf⟩
      · exact absurd hstate' hstate
    · exact .inl hboth
  case visited =>
    intro page hpage
    rcases hvisited page hpage with hold | rfl
    · rcases h.visited page hold with hcaptured | hfailed' | hchosen
      · exact .inl (hcaptures' page hcaptured)
      · exact .inr (.inl (hfailed hfailed'))
      · rw [hchoices]
        exact .inr (.inr hchosen)
    · cases hkey : target.2 with
      | none =>
        rcases htried hkey with hcaptured | hfailedNow
        · exact .inl hcaptured
        · exact .inr (.inl hfailedNow)
      | some key =>
        rw [hchoices]
        refine .inr (.inr ⟨key, ?_⟩)
        rwa [← hkey]
  case edges =>
    intro page key hkey
    rw [hchoices]
    rcases (hedges page key).mp hkey with hold | rfl
    · exact h.edges page key hold
    · exact hmem

theorem Accounted.tickOffPage {page : PageId} (h : Accounted model engine (some (page, none)))
    (hstate : engine.state ≠ .failed) (hchoices : engine'.choices = engine.choices)
    (hvisited : engine'.visited = insert page engine.visited)
    (hedges : engine'.visitedMultiEdges = engine.visitedMultiEdges)
    (hfailed : engine.failed ⊆ engine'.failed)
    (hfailed' : engine'.failed ⊆ insert page engine.failed)
    (hcaptures : engine'.captures = engine.captures ∨ engine'.captures = page :: engine.captures)
    (hfailures : ∀ other ∈ engine'.failures, other ∈ engine.failures ∨
      other = page ∧ page ∈ engine'.failed)
    (htried : page ∈ engine'.captures ∨ page ∈ engine'.failed) : Accounted model engine' none := by
  have hvisitedPage : page ∈ engine'.visited := hvisited ▸ Finset.mem_insert_self _ _
  refine h.tickOff hstate hchoices ?_ (hvisited ▸ Finset.subset_insert _ _) ?_ hvisitedPage hfailed
    ?_ hcaptures ?_ fun _ => htried
  · intro other hother
    rw [hvisited] at hother
    exact (Finset.mem_insert.mp hother).symm
  · intro other key
    rw [hedges]
    exact ⟨.inl, fun hkey => hkey.resolve_right (by simp)⟩
  · intro other hother
    rcases Finset.mem_insert.mp (hfailed' hother) with rfl | hold
    · exact .inr rfl
    · exact .inl hold
  · intro other hother
    rcases hfailures other hother with hold | ⟨rfl, hfailedPage⟩
    · exact .inl hold
    · exact .inr ⟨hvisitedPage, hfailedPage⟩

theorem Accounted.frame (h : Accounted model engine pending)
    (hchoices : engine'.choices = engine.choices) (hcaptures : engine'.captures = engine.captures)
    (hfailures : engine'.failures = engine.failures) (hpolicy : engine'.policy = engine.policy)
    (hvisited : engine'.visited = engine.visited) (hfailed : engine'.failed = engine.failed)
    (hedges : engine'.visitedMultiEdges = engine.visitedMultiEdges)
    (hstate : engine.state ≠ .failed ∨
      engine'.state = engine.state ∧ engine'.currentTarget = engine.currentTarget) :
    Accounted model engine' pending := by
  have hdone := isDone_congr hvisited hedges
  constructor
  case nodup =>
    exact hchoices ▸ h.nodup
  case valid =>
    exact hchoices ▸ h.valid
  case done =>
    rw [hchoices]
    exact fun t ht => (h.done t ht).imp_left (hdone t).mpr
  case pending_open =>
    rw [hchoices, hpolicy]
    intro t ht
    obtain ⟨hmem, hopen, hsome⟩ := h.pending_open t ht
    exact ⟨hmem, fun hdone' => hopen ((hdone t).mp hdone'), hsome⟩
  case captured_chosen =>
    rw [hcaptures, hchoices]
    exact h.captured_chosen
  case captured =>
    rw [hcaptures, hvisited]
    exact h.captured
  case captured_once =>
    exact hcaptures ▸ h.captured_once
  case failed_chosen =>
    rw [hfailed, hchoices, hvisited]
    exact h.failed_chosen
  case failed =>
    rw [hfailures, hvisited, hfailed]
    intro page hpage
    rcases h.failed page hpage with hboth | ⟨hfailed', htarget⟩
    · exact .inl hboth
    rcases hstate with hne | ⟨hsame, hsameTarget⟩
    · exact absurd hfailed' hne
    · exact .inr ⟨hsame.trans hfailed', htarget.trans hsameTarget.symm⟩
  case visited =>
    rw [hvisited, hcaptures, hfailed, hchoices]
    exact h.visited
  case edges =>
    rw [hedges, hchoices]
    exact h.edges

/-- Nothing is pending when a crawl begins. -/
theorem accounted_of_fresh (hreports : engine.reports = []) (hvisited : engine.visited = ∅)
    (hfailed : engine.failed = ∅) (hedges : engine.visitedMultiEdges = fun _ => ∅) :
    Accounted model engine none where
  nodup := by simp [choices, hreports]
  valid := by simp [choices, hreports]
  done := by simp [choices, hreports]
  pending_open := by simp
  captured_chosen := by simp [captures, hreports]
  captured := by simp [captures, hreports]
  captured_once := by simp [captures, hreports]
  failed_chosen := by simp [hfailed]
  failed := by simp [failures, hreports]
  visited := by simp [hvisited]
  edges := by simp [hedges]

/-! ## The steps of a crawl -/

/-- The target that the fields of the engine describe. -/
def target (engine : SpiderEngine) : Target :=
  (engine.currentTarget, engine.currentMultiEdge.map MenuEdge.key)

/-- Between two events. -/
structure Resting (model : MenuModel) (engine : SpiderEngine) : Prop where
  accounted : Accounted model engine engine.pendingTarget
  no_edge : engine.state = .syncing → engine.currentMultiEdge = none
  ended : engine.state = .failed → maxNavigationFailures ≤ engine.navigationFailures

/-- While a target is chosen. -/
structure Choosing (model : MenuModel) (engine : SpiderEngine) : Prop where
  accounted : Accounted model engine none
  no_edge : engine.currentMultiEdge = none
  active : engine.state = .navigatingToNext ∨ engine.state = .capturingPage

theorem Choosing.ne_failed (h : Choosing model engine) : engine.state ≠ .failed := by
  intro hfailed
  rcases h.active with hstate | hstate <;> rw [hfailed] at hstate <;> cases hstate

theorem finishMultiEdge_eq (model : MenuModel) (engine : SpiderEngine) (edge : MenuEdge) :
    ∃ visited, engine.finishMultiEdge model edge =
        { engine with
          visitedMultiEdges := Function.update engine.visitedMultiEdges engine.currentTarget
            (insert edge.key (engine.visitedMultiEdges engine.currentTarget))
          currentMultiEdge := none
          visited := visited } ∧
      (visited = engine.visited ∨ visited = insert engine.currentTarget engine.visited) := by
  unfold finishMultiEdge
  dsimp only
  split_ifs
  · exact ⟨_, rfl, .inl rfl⟩
  · exact ⟨_, rfl, .inr rfl⟩

theorem mem_update_insert {edges : PageId → Finset MultiEdgeKey} {page page' : PageId}
    {key key' : MultiEdgeKey} :
    key' ∈ Function.update edges page (insert key (edges page)) page' ↔
      key' ∈ edges page' ∨ ((page', some key') : Target) = (page, some key) := by
  by_cases hpage : page' = page
  · subst hpage
    rw [Function.update_self, Finset.mem_insert, or_comm, Prod.mk_right_inj, some_inj]
  · rw [Function.update_of_ne hpage]
    simp [hpage]

/-- The pending instance is ticked off after the reports have been extended. -/
theorem Accounted.finishMultiEdge
    (h : Accounted model engine (some (engine'.currentTarget, some edge.key)))
    (hstate : engine.state ≠ .failed) (hchoices : engine'.choices = engine.choices)
    (hcaptures : engine'.captures = engine.captures ∨
      engine'.captures = engine'.currentTarget :: engine.captures)
    (hfailures : engine'.failures = engine.failures) (hvisited : engine'.visited = engine.visited)
    (hfailed : engine'.failed = engine.failed)
    (hedges : engine'.visitedMultiEdges = engine.visitedMultiEdges) :
    Accounted model (engine'.finishMultiEdge model edge) none := by
  obtain ⟨visited, heq, hcase⟩ := finishMultiEdge_eq model engine' edge
  rw [hvisited] at hcase
  rw [heq]
  refine h.tickOff hstate hchoices ?_ ?_ ?_ ?_ hfailed.ge (fun page hpage => .inl ?_) hcaptures ?_
    (by simp)
  · intro page hpage
    rcases hcase with rfl | rfl
    · exact .inl hpage
    · exact (Finset.mem_insert.mp hpage).symm
  · rcases hcase with rfl | rfl
    · exact Finset.Subset.refl _
    · exact Finset.subset_insert _ _
  · intro page key
    rw [← hedges]
    exact mem_update_insert
  · exact mem_update_insert.mpr (.inr rfl)
  · exact hfailed.le hpage
  · intro page hpage
    exact .inl (hfailures ▸ hpage)

theorem multiInstance_of_valid (hvalid : Target.Valid model (engine.currentTarget, some edge.key)) :
    (model.getPage engine.currentTarget).any MenuPage.multiInstance := by
  obtain ⟨page, hpage, hid, hmulti, -⟩ := hvalid
  rwa [show engine.currentTarget = page.id from hid.symm, model.getPage_of_mem hpage]

theorem capturePage_of_none (hpolicy : engine.policy.isSome)
    (hedge : engine.currentMultiEdge = none) (content : ScreenDataPage) :
    engine.capturePage model content =
      { engine.report (.pageReached engine.currentTarget content) with
        visited := insert engine.currentTarget engine.visited } := by
  unfold capturePage
  dsimp only
  rw [tellPolicy, if_pos hpolicy]
  have hfilter : (engine.report (.pageReached engine.currentTarget content)).currentMultiEdge =
    none := hedge
  rw [hfilter]
  rfl

theorem capturePage_of_some (hpolicy : engine.policy.isSome)
    (hedge : engine.currentMultiEdge = some edge)
    (hmulti : (model.getPage engine.currentTarget).any MenuPage.multiInstance)
    (content : ScreenDataPage) :
    engine.capturePage model content =
      (engine.report (.pageReached engine.currentTarget content)).finishMultiEdge model edge := by
  unfold capturePage
  dsimp only
  rw [tellPolicy, if_pos hpolicy]
  have hfilter : (engine.report (.pageReached engine.currentTarget content)).currentMultiEdge =
    some edge := hedge
  have htarget : (engine.report (.pageReached engine.currentTarget content)).currentTarget =
    engine.currentTarget := rfl
  rw [hfilter, htarget, filter_some, if_pos hmulti]

theorem Accounted.capturePage (h : Accounted model engine (some engine.target))
    (hstate : engine.state = .navigatingToNext ∨ engine.state = .capturingPage)
    (content : ScreenDataPage) : Choosing model (engine.capturePage model content) := by
  obtain ⟨hmem, -, hpolicy⟩ := h.pending_open _ rfl
  have hne : engine.state ≠ .failed := by
    intro hfailed
    rcases hstate with hstate | hstate <;> rw [hfailed] at hstate <;> cases hstate
  cases hedge : engine.currentMultiEdge with
  | none =>
    rw [target, hedge] at h
    rw [capturePage_of_none hpolicy hedge]
    exact ⟨h.tickOffPage hne rfl rfl rfl (Finset.Subset.refl _) (Finset.subset_insert _ _)
      (.inr rfl) (fun page hpage => .inl hpage) (.inl mem_cons_self), hedge, hstate⟩
  | some edge =>
    have hvalid := h.valid _ hmem
    rw [target, hedge] at h hvalid
    rw [capturePage_of_some hpolicy hedge (multiInstance_of_valid hvalid)]
    refine ⟨Accounted.finishMultiEdge h hne rfl (.inr rfl) rfl rfl rfl rfl, ?_, ?_⟩
    · obtain ⟨visited, heq, -⟩ := finishMultiEdge_eq model _ edge
      rw [heq]
    · obtain ⟨visited, heq, -⟩ := finishMultiEdge_eq model _ edge
      rwa [heq]

theorem Accounted.giveUp (h : Accounted model engine (some (engine.currentTarget, none)))
    (hstate : engine.state ≠ .failed) (navigationFailures : UInt32) :
    Accounted model { engine.report (.navigationFailed engine.currentTarget none) with
      navigationFailures := navigationFailures, state := .failed }
      (some (engine.currentTarget, none)) where
  nodup := h.nodup
  valid := h.valid
  done := h.done
  pending_open := h.pending_open
  captured_chosen := h.captured_chosen
  captured := h.captured
  captured_once := h.captured_once
  failed_chosen := h.failed_chosen
  failed := by
    intro page hpage
    rcases List.mem_cons.mp hpage with rfl | hold
    · exact .inr ⟨rfl, rfl⟩
    rcases h.failed page hold with hboth | ⟨hfailed, -⟩
    · exact .inl hboth
    · exact absurd hfailed hstate
  visited := h.visited
  edges := h.edges

theorem Accounted.abandonPage (h : Accounted model engine (some (engine.currentTarget, none)))
    (hedge : engine.currentMultiEdge = none) (hstate : engine.state = .navigatingToNext) :
    engine.abandonPage.Holds (Resting model) (Choosing model) := by
  have hne : engine.state ≠ .failed := by
    rw [hstate]
    decide
  unfold SpiderEngine.abandonPage
  dsimp only
  split_ifs with hmax
  · refine ⟨?_, nofun, fun _ => hmax⟩
    have hpending : pendingTarget
        { engine.report (.navigationFailed engine.currentTarget none) with
          navigationFailures := engine.navigationFailures + 1, state := .failed } =
        some (engine.currentTarget, none) := by
      show some (engine.currentTarget, engine.currentMultiEdge.map MenuEdge.key) = _
      rw [hedge]
      rfl
    rw [hpending]
    exact h.giveUp hne _
  · refine ⟨h.tickOffPage hne rfl rfl rfl (Finset.subset_insert _ _) (Finset.Subset.refl _)
      (.inl rfl) ?_ (.inr (Finset.mem_insert_self _ _)), hedge, .inl hstate⟩
    intro page hpage
    rcases List.mem_cons.mp hpage with rfl | hold
    · exact .inr ⟨rfl, Finset.mem_insert_self _ _⟩
    · exact .inl hold

theorem Accounted.abandonTarget (h : Accounted model engine (some engine.target))
    (hstate : engine.state = .navigatingToNext) :
    (engine.abandonTarget model).Holds (Resting model) (Choosing model) := by
  unfold SpiderEngine.abandonTarget
  cases hedge : engine.currentMultiEdge with
  | some edge =>
    have hne : engine.state ≠ .failed := by
      rw [hstate]
      decide
    rw [target, hedge] at h
    have hreport : Accounted model
        ((engine.report (.navigationFailed engine.currentTarget (some edge))).finishMultiEdge
          model edge) none :=
      Accounted.finishMultiEdge h hne rfl (.inl rfl) rfl rfl rfl rfl
    obtain ⟨visited, heq, -⟩ := finishMultiEdge_eq model
      (engine.report (.navigationFailed engine.currentTarget (some edge))) edge
    rw [heq] at hreport
    show Choosing model _
    rw [heq]
    exact ⟨hreport, rfl, .inl hstate⟩
  | none =>
    rw [target, hedge] at h
    exact h.abandonPage hedge hstate

theorem Choosing.complete (h : Choosing model engine) :
    Resting model { engine.tellPolicy .crawlComplete with state := .complete } := by
  refine ⟨?_, nofun, nofun⟩
  show Accounted model { engine.tellPolicy .crawlComplete with state := .complete } none
  unfold tellPolicy
  split_ifs
  · exact h.accounted.frame rfl rfl rfl rfl rfl rfl rfl (.inl h.ne_failed)
  · exact h.accounted.frame rfl rfl rfl rfl rfl rfl rfl (.inl h.ne_failed)

theorem Choosing.navigateToNextTarget (h : Choosing model engine) :
    Resting model (engine.navigateToNextTarget model) := by
  unfold SpiderEngine.navigateToNextTarget
  cases hchoice : engine.chooseNextTarget model with
  | none => exact h.complete
  | some target =>
    obtain ⟨page, hpage, rfl, hcandidate⟩ := chooseNextTarget_spec hchoice
    obtain ⟨hvalid, hopen⟩ := entryEdge_of_isCandidate hpage hcandidate
    have hpolicy := isSome_policy_of_wants (wants_of_isCandidate hcandidate)
    dsimp only
    cases hentry : engine.entryEdge model page.id with
    | some edge =>
      rw [hentry] at hvalid hopen
      rw [pursue_of_edge hentry]
      exact ⟨h.accounted.choose hvalid hopen hpolicy rfl rfl rfl rfl rfl rfl rfl h.ne_failed,
        nofun, nofun⟩
    | none =>
      rw [hentry] at hvalid hopen
      have hedge : (page.id, engine.currentMultiEdge.map MenuEdge.key) = (page.id, none) := by
        rw [h.no_edge]
        rfl
      by_cases hcurrent : engine.navigator.currentPage = page.id
      · rw [pursue_here hentry hcurrent]
        refine ⟨?_, nofun, nofun⟩
        show Accounted model _ (some (page.id, engine.currentMultiEdge.map MenuEdge.key))
        rw [hedge]
        exact h.accounted.choose hvalid hopen hpolicy rfl rfl rfl rfl rfl rfl rfl h.ne_failed
      · rw [pursue_away hentry hcurrent]
        refine ⟨?_, nofun, nofun⟩
        show Accounted model _ (some (page.id, engine.currentMultiEdge.map MenuEdge.key))
        rw [hedge]
        exact h.accounted.choose hvalid hopen hpolicy rfl rfl rfl rfl rfl rfl rfl h.ne_failed

theorem invariant_accounted (model : MenuModel) :
    Invariant model (Resting model) (Choosing model) where
  navigator engine nav h :=
    ⟨h.accounted.frame rfl rfl rfl rfl rfl rfl rfl (.inr ⟨rfl, rfl⟩), h.no_edge, h.ended⟩
  sync engine policy nav :=
    ⟨accounted_of_fresh rfl rfl rfl rfl, fun _ => rfl, nofun⟩
  begin engine policy :=
    ⟨accounted_of_fresh rfl rfl rfl rfl, rfl, .inl rfl⟩
  synced engine h hstate := by
    have haccounted := h.accounted
    rw [pendingTarget, hstate] at haccounted
    refine ⟨haccounted.frame rfl rfl rfl rfl rfl rfl rfl (.inl ?_), h.no_edge hstate, .inl rfl⟩
    rw [hstate]
    decide
  arrive engine content h hstate := by
    have haccounted := h.accounted
    rw [pendingTarget, hstate] at haccounted
    have hne : engine.state ≠ .failed := by
      rw [hstate]
      decide
    have harrived : Accounted model
        { engine with state := .capturingPage, navigationFailures := 0 } (some engine.target) :=
      haccounted.frame rfl rfl rfl rfl rfl rfl rfl (.inl hne)
    exact harrived.capturePage (.inr rfl) content
  capture engine content h hstate := by
    have haccounted := h.accounted
    rw [pendingTarget, hstate] at haccounted
    exact haccounted.capturePage (.inr hstate) content
  abandon engine h hstate := by
    have haccounted := h.accounted
    rw [pendingTarget, hstate] at haccounted
    exact haccounted.abandonTarget hstate
  choose engine h := h.navigateToNextTarget

theorem resting_default (model : MenuModel) : Resting model {} :=
  ⟨accounted_of_fresh rfl rfl rfl rfl, fun _ => rfl, nofun⟩

theorem Run.resting {events : List Event} (hrun : Run model {} events engine) :
    Resting model engine :=
  (invariant_accounted model).run (resting_default model) hrun

/-! ## The length of a crawl -/

theorem mem_multiEdgeTargets {page : PageId} {key : MultiEdgeKey}
    (hvalid : Target.Valid model (page, some key)) : (page, key) ∈ model.multiEdgeTargets := by
  obtain ⟨found, hfound, rfl, hmulti, edge, hedge, rfl⟩ := hvalid
  refine List.mem_toFinset.mpr (List.mem_flatMap.mpr ⟨found, ?_, ?_⟩)
  · exact List.mem_filter.mpr ⟨hfound, hmulti⟩
  · exact mem_map_of_mem hedge

theorem Accounted.length_choices_le (h : Accounted model engine pending) :
    engine.choices.length ≤ model.pages.length + model.multiEdgeTargets.card := by
  let singles : Finset Target := (model.pages.map fun page => (page.id, none)).toFinset
  let instances : Finset Target :=
    model.multiEdgeTargets.image fun pageKey => (pageKey.1, some pageKey.2)
  have hsubset : engine.choices.toFinset ⊆ singles ∪ instances := by
    rintro ⟨page, _ | key⟩ htarget
    · obtain ⟨found, hfound, hid, -⟩ := h.valid _ (List.mem_toFinset.mp htarget)
      refine Finset.mem_union_left _ (List.mem_toFinset.mpr (List.mem_map.mpr ⟨found, hfound, ?_⟩))
      rw [hid]
    · have hvalid := h.valid _ (List.mem_toFinset.mp htarget)
      exact Finset.mem_union_right _
        (Finset.mem_image.mpr ⟨(page, key), mem_multiEdgeTargets hvalid, rfl⟩)
  calc
    engine.choices.length = engine.choices.toFinset.card :=
      (toFinset_card_of_nodup h.nodup).symm
    _ ≤ (singles ∪ instances).card := Finset.card_le_card hsubset
    _ ≤ singles.card + instances.card := Finset.card_union_le _ _
    _ ≤ model.pages.length + model.multiEdgeTargets.card := by
      refine Nat.add_le_add ?_ Finset.card_image_le
      calc
        singles.card ≤ (model.pages.map fun page => ((page.id, none) : Target)).length :=
          toFinset_card_le _
        _ = model.pages.length := length_map _

/-- What is bounded in a crawl: no target is chosen twice, so there are no more choices
than pages and instances; a page without instances that could not be reached is recorded
as visited and failed, unless its failure ended the crawl; and it is captured at most once. -/
structure Bounded (model : MenuModel) (engine : SpiderEngine) : Prop where
  choices_nodup : engine.choices.Nodup
  choices_valid : ∀ target ∈ engine.choices, target.Valid model
  length_choices_le : engine.choices.length ≤ model.pages.length + model.multiEdgeTargets.card
  failures_recorded : ∀ page ∈ engine.failures, page ∈ engine.visited ∧ page ∈ engine.failed ∨
    engine.state = .failed ∧ maxNavigationFailures ≤ engine.navigationFailures ∧
      page = engine.currentTarget
  captured_once : ∀ page ∈ model.pages, page.multiInstance = false →
    engine.captures.count page.id ≤ 1

/-- **Bounded coverage.**  For every menu, every policy and every run, whatever the
navigations come to. -/
theorem crawl_bounded {events : List Event} (hrun : Run model {} events engine) :
    Bounded model engine where
  choices_nodup := hrun.resting.accounted.nodup
  choices_valid := hrun.resting.accounted.valid
  length_choices_le := hrun.resting.accounted.length_choices_le
  failures_recorded := by
    intro page hpage
    rcases hrun.resting.accounted.failed page hpage with hboth | ⟨hfailed, htarget⟩
    · exact .inl hboth
    · exact .inr ⟨hfailed, hrun.resting.ended hfailed, htarget⟩
  captured_once := by
    intro page hpage hsingle
    refine hrun.resting.accounted.captured_once page.id ?_
    rwa [model.getPage_of_mem hpage]

/-! ## A crawl that a service call ends -/

def homeText : Text := ['H', 'o', 'm', 'e']

def serviceText : Text := ['S', 'e', 'r', 'v', 'i', 'c', 'e']

def homePageScreen : ScreenDataPage where
  rows := [{ text := homeText }]

def servicePageScreen : ScreenDataPage where
  rows := [{ text := serviceText }]

def leafPage (id : PageId) (multiInstance : Bool) : MenuPage where
  id := id
  multiInstance := multiInstance
  source_eq := by simp

/-- A home page that leads to three pages and, on one line, to the instances of two more;
the service page only leads back home. -/
def serviceModel : MenuModel where
  pages :=
    [{ id := .system
       detectors := [{ line := 0, pattern := homeText }]
       edges :=
         [{ trigger := .select, source := .system, target := .labelAux, triggerLine := 1 },
          { trigger := .select, source := .system, target := .programGroup, triggerLine := 1 },
          { trigger := .select, source := .system, target := .helpKeys, triggerLine := 2 },
          { trigger := .select, source := .system, target := .boost, triggerLine := 3 },
          { trigger := .select, source := .system, target := .lockouts, triggerLine := 4 }] },
     { id := .service
       detectors := [{ line := 0, pattern := serviceText }]
       edges := [{ trigger := .back, source := .service, target := .system }] },
     leafPage .labelAux true,
     leafPage .programGroup true,
     leafPage .helpKeys false,
     leafPage .boost false,
     leafPage .lockouts false]

def serviceEvents : List Event :=
  .startCrawl (some
      (targetedVisitPolicy {.labelAux, .programGroup, .helpKeys, .boost, .lockouts})) ::
    (replicate 3 (.processStep homePageScreen 0) ++
      replicate 5 (.processStep servicePageScreen 0))

theorem exists_of_runAll {fuel : ℕ} {events : List Event} {check : SpiderEngine → Bool}
    (h : (({} : SpiderEngine).runAll model fuel events).any check) :
    ∃ engine, Run model {} events engine ∧ check engine := by
  obtain ⟨engine, hengine, hcheck⟩ := any_eq_true _ _ |>.mp h
  exact ⟨engine, Run.nil.runAll hengine, hcheck⟩

/-- The service crawl chooses each of its five targets once. -/
theorem crawl_bounded_service :
    ∃ engine, engine.choices.length = 5 ∧ Bounded serviceModel engine := by
  have hcheck : (({} : SpiderEngine).runAll serviceModel 5 serviceEvents).any
      (fun engine => decide (engine.choices.length = 5)) := by decide
  obtain ⟨engine, hrun, hengine⟩ := exists_of_runAll hcheck
  exact ⟨engine, of_decide_eq_true hengine, crawl_bounded hrun⟩

/-- The third page in a row that is not reached is not recorded, and two instances that are
selected on the same line are two targets with one key. -/
theorem service_crawl_unrecorded :
    (¬ ∀ events engine, Run serviceModel {} events engine → ∀ page ∈ engine.failures,
        page ∈ engine.visited ∧ page ∈ engine.failed) ∧
      ¬ ∀ events engine, Run serviceModel {} events engine →
        (engine.choices.filterMap Prod.snd).Nodup := by
  have hcheck : (({} : SpiderEngine).runAll serviceModel 5 serviceEvents).any (fun engine =>
      decide (.lockouts ∈ engine.failures ∧ .lockouts ∉ engine.failed ∧
        ¬ (engine.choices.filterMap Prod.snd).Nodup)) := by decide
  obtain ⟨engine, hrun, hengine⟩ := exists_of_runAll hcheck
  obtain ⟨hfailure, hfailed, hkeys⟩ := of_decide_eq_true hengine
  constructor
  · intro h
    exact hfailed (h _ engine hrun _ hfailure).2
  · intro h
    exact hkeys (h _ engine hrun)

end SpiderEngine

end AqualinkAutomate.Navigation
