import Aqualink.Navigation.CrawlAccount

/-!
# When a complete crawl is complete

A crawl is complete when no target is chosen any more.  That is so if nothing is left to
be done, but also if nothing that is left can be reached from where the last navigation
ended.  Of a page with many instances only the first edge not yet visited counts.

`covered_iff_not_outstanding` says in the records of the engine what the claim of a complete
crawl comes to.  A run only ever reports a completion that is one exactly if at each of its
choices, as long as something is outstanding, something can be entered (`complete_covers_iff`).
-/

namespace AqualinkAutomate.Navigation

open General List Option

namespace SpiderEngine

variable {model : MenuModel} {engine engine' choosing : SpiderEngine} {pending : Option Target}

def Tried (engine : SpiderEngine) (page : PageId) : Prop :=
  page ∈ engine.captures ∨ page ∈ engine.failed ∨ ∃ key, (page, some key) ∈ engine.choices

/-- Every wanted page that can be reached from the home page was tried, and so was every
edge by which a wanted page of many instances is entered. -/
structure Covered (model : MenuModel) (engine : SpiderEngine) : Prop where
  pages : ∀ page ∈ model.pages, engine.wants page → model.Reaches .system page.id →
    engine.Tried page.id
  instances : ∀ page ∈ model.pages, engine.wants page → page.multiInstance →
    ∀ edge ∈ model.getIncomingSelectEdges page.id, (page.id, some edge.key) ∈ engine.choices

/-- The page from which a candidate is entered; one of many instances is entered from the
page where its first edge not yet visited starts. -/
def entrance (model : MenuModel) (engine : SpiderEngine) (page : MenuPage) : Option PageId :=
  if page.multiInstance then
    (engine.getNextUnvisitedMultiEdge model page.id).map MenuEdge.source
  else some page.id

def CanContinue (model : MenuModel) (engine : SpiderEngine) : Prop :=
  engine.navigator.currentPage ≠ .unknown ∧
    ∃ page ∈ model.pages, engine.isCandidate model page = true ∧
      ∃ start, engine.entrance model page = some start ∧
        model.Reaches engine.navigator.currentPage start

/-- A wanted page that is left: it can be reached from the home page and was not visited,
or some edge to an instance of it was not, or it cannot be entered at all. -/
def Outstanding (model : MenuModel) (engine : SpiderEngine) (page : MenuPage) : Prop :=
  page ∈ model.pages ∧ engine.wants page = true ∧
    if page.multiInstance then
      (∃ edge ∈ model.getIncomingSelectEdges page.id, edge.key ∉ engine.visitedMultiEdges page.id) ∨
        model.Reaches .system page.id ∧ model.getIncomingSelectEdges page.id = []
    else model.Reaches .system page.id ∧ page.id ∉ engine.visited

/-- If anything is outstanding, the crawl can go on. -/
def Guided (model : MenuModel) (engine : SpiderEngine) : Prop :=
  (∃ page, engine.Outstanding model page) → engine.CanContinue model

/-! ## When a target is chosen -/

variable {current : PageId}

theorem reaches_iff_findPath {target : PageId} :
    model.Reaches current target ↔ current = target ∨ model.findPath current target ≠ [] := by
  rw [model.findPath_ne_nil_iff]
  constructor
  · intro hreaches
    by_cases heq : current = target
    · exact .inl heq
    · exact .inr ⟨heq, hreaches⟩
  · rintro (rfl | ⟨-, hreaches⟩)
    · exact .refl
    · exact hreaches

/-- The selection takes the page when it comes to it, or keeps its distance in mind. -/
def InReach (model : MenuModel) (engine : SpiderEngine) (current : PageId) (page : MenuPage) :
    Prop :=
  page.multiInstance = false ∧ current = page.id ∨ engine.distance model current page ≠ none

theorem nearestTarget_ne_none_iff {pages : List MenuPage} {nearest : Option (PageId × ℕ)} :
    engine.nearestTarget model current pages nearest ≠ none ↔
      nearest ≠ none ∨ ∃ page ∈ pages, engine.InReach model current page := by
  induction pages generalizing nearest with
  | nil => simp [nearestTarget]
  | cons page pages ih =>
    unfold nearestTarget
    by_cases hhere : page.multiInstance = false ∧ current = page.id
    · rw [if_pos hhere]
      exact iff_of_true (some_ne_none _) (.inr ⟨page, mem_cons_self, .inl hhere⟩)
    rw [if_neg hhere]
    cases hdistance : engine.distance model current page with
    | none =>
      dsimp only
      rw [ih]
      refine or_congr_right ⟨?_, ?_⟩
      · rintro ⟨found, hfound, hreach⟩
        exact ⟨found, mem_cons_of_mem _ hfound, hreach⟩
      · rintro ⟨found, hfound, hreach⟩
        rcases List.mem_cons.mp hfound with rfl | hfound
        · exact absurd hreach (by simp [InReach, hhere, hdistance])
        · exact ⟨found, hfound, hreach⟩
    | some steps =>
      have hreach : engine.InReach model current page := by
        refine .inr ?_
        rw [hdistance]
        exact some_ne_none _
      dsimp only
      refine iff_of_true ?_ (.inr ⟨page, mem_cons_self, hreach⟩)
      split_ifs with hnearer
      · exact ih.mpr (.inl (some_ne_none _))
      · refine ih.mpr (.inl fun hnone => hnearer ?_)
        rw [hnone]
        rfl

theorem inReach_iff {page : MenuPage} :
    engine.InReach model current page ↔
      ∃ start, engine.entrance model page = some start ∧ model.Reaches current start := by
  unfold InReach distance entrance
  by_cases hmulti : page.multiInstance
  · rw [if_pos hmulti, if_pos hmulti]
    cases hedge : engine.getNextUnvisitedMultiEdge model page.id with
    | none => simp [hmulti]
    | some edge =>
      rw [bind_some, map_some]
      simp only [hmulti, some_inj, exists_eq_left', reaches_iff_findPath]
      cases hpath : model.findPath current edge.source with
      | nil => simp
      | cons first rest => simp
  · rw [if_neg hmulti, if_neg hmulti]
    simp only [Bool.not_eq_true] at hmulti
    simp only [hmulti, some_inj, exists_eq_left', reaches_iff_findPath, true_and]
    refine or_congr_right ?_
    cases hpath : model.findPath current page.id with
    | nil => simp
    | cons first rest => simp

theorem chooseNextTarget_ne_none_iff :
    engine.chooseNextTarget model ≠ none ↔ engine.CanContinue model := by
  unfold chooseNextTarget CanContinue
  by_cases hunknown : engine.navigator.currentPage = .unknown
  · rw [if_pos hunknown]
    exact iff_of_false (fun h => h rfl) fun h => h.1 hunknown
  rw [if_neg hunknown, nearestTarget_ne_none_iff]
  simp only [inReach_iff, mem_filter, and_assoc]
  exact ⟨fun h => ⟨hunknown, h.resolve_left (fun hne => hne rfl)⟩, fun h => .inr h.2⟩

/-! ## What the records say -/

theorem Accounted.not_mem_choices_of_no_edge (h : Accounted model engine pending) {page : MenuPage}
    (hpage : page ∈ model.pages) (hmulti : page.multiInstance)
    (hnone : model.getIncomingSelectEdges page.id = []) (key : Option MultiEdgeKey) :
    (page.id, key) ∉ engine.choices := by
  intro hmem
  obtain ⟨found, hfound, hid, hkind⟩ := h.valid _ hmem
  have heq : found = page := by
    have hget := model.getPage_of_mem hfound
    rw [hid, model.getPage_of_mem hpage] at hget
    exact (Option.some_inj.mp hget).symm
  subst heq
  cases key with
  | none =>
    rw [hmulti] at hkind
    cases hkind
  | some key =>
    obtain ⟨-, edge, hedge, -⟩ := hkind
    rw [hnone] at hedge
    cases hedge

theorem Accounted.not_outstanding_of_covered (h : Accounted model engine none)
    (hcovered : Covered model engine) (page : MenuPage) : ¬ engine.Outstanding model page := by
  obtain ⟨hpages, hinstances⟩ := hcovered
  rintro ⟨hpage, hwants, hleft⟩
  by_cases hmulti : page.multiInstance
  · rw [if_pos hmulti] at hleft
    rcases hleft with ⟨edge, hedge, hkey⟩ | ⟨hreaches, hnone⟩
    · refine hkey ((h.done _ (hinstances page hpage hwants hmulti edge hedge)).resolve_right ?_)
      exact nofun
    have hchosen := h.not_mem_choices_of_no_edge hpage hmulti hnone
    rcases hpages page hpage hwants hreaches with hcaptured | hfailed | ⟨key, hkey⟩
    · obtain ⟨key, hkey⟩ := h.captured_chosen page.id hcaptured
      exact hchosen key hkey
    · exact hchosen none (h.failed_chosen page.id hfailed).1
    · exact hchosen _ hkey
  · rw [if_neg hmulti] at hleft
    obtain ⟨hreaches, hvisited⟩ := hleft
    have hsingle : (model.getPage page.id).any MenuPage.multiInstance = false := by
      rw [model.getPage_of_mem hpage]
      simpa using hmulti
    rcases hpages page hpage hwants hreaches with hcaptured | hfailed | ⟨key, hkey⟩
    · exact hvisited (h.captured page.id hcaptured hsingle)
    · exact hvisited (h.failed_chosen page.id hfailed).2
    · have hnone := (h.valid _ hkey).eq_none hsingle
      cases hnone

theorem Accounted.covered_of_not_outstanding (h : Accounted model engine pending)
    (hnone : ∀ page, ¬ engine.Outstanding model page) : Covered model engine := by
  have hinstances : ∀ page ∈ model.pages, engine.wants page →
      page.multiInstance → ∀ edge ∈ model.getIncomingSelectEdges page.id,
      (page.id, some edge.key) ∈ engine.choices := by
    intro page hpage hwants hmulti edge hedge
    by_contra hchosen
    refine hnone page ⟨hpage, hwants, ?_⟩
    rw [if_pos hmulti]
    exact .inl ⟨edge, hedge, fun hkey => hchosen (h.edges page.id edge.key hkey)⟩
  refine ⟨fun page hpage hwants hreaches => ?_, hinstances⟩
  by_cases hmulti : page.multiInstance
  · cases hedges : model.getIncomingSelectEdges page.id with
    | nil =>
      refine absurd ?_ (hnone page)
      refine ⟨hpage, hwants, ?_⟩
      rw [if_pos hmulti]
      exact .inr ⟨hreaches, hedges⟩
    | cons edge edges =>
      have hedge : edge ∈ model.getIncomingSelectEdges page.id := by
        rw [hedges]
        exact mem_cons_self
      exact .inr (.inr ⟨edge.key, hinstances page hpage hwants hmulti edge hedge⟩)
  · refine h.visited page.id ?_
    by_contra hvisited
    refine hnone page ⟨hpage, hwants, ?_⟩
    rw [if_neg hmulti]
    exact ⟨hreaches, hvisited⟩

theorem Accounted.covered_iff (h : Accounted model engine none) :
    Covered model engine ↔ ∀ page, ¬ engine.Outstanding model page :=
  ⟨h.not_outstanding_of_covered, h.covered_of_not_outstanding⟩

theorem Covered.congr (h : Covered model engine) (hchoices : engine'.choices = engine.choices)
    (hcaptures : engine'.captures = engine.captures) (hfailed : engine'.failed = engine.failed)
    (hpolicy : engine'.policy = engine.policy) : Covered model engine' := by
  have hwants : ∀ page, engine'.wants page = engine.wants page := fun page => by
    rw [wants, hpolicy]
    rfl
  constructor
  · intro page hpage hwanted hreaches
    rw [Tried, hchoices, hcaptures, hfailed]
    exact h.pages page hpage (hwants page ▸ hwanted) hreaches
  · intro page hpage hwanted
    rw [hchoices]
    exact h.instances page hpage (hwants page ▸ hwanted)

/-! ## Runs -/

theorem navigateToNextTarget_of_none (hnone : engine.chooseNextTarget model = none) :
    engine.navigateToNextTarget model =
      { engine.tellPolicy .crawlComplete with state := .complete } := by
  rw [navigateToNextTarget, hnone]

theorem state_pursue_ne_complete (target : PageId) :
    (engine.pursue model target).state ≠ .complete := by
  cases hentry : engine.entryEdge model target with
  | some edge =>
    rw [pursue_of_edge hentry]
    exact SpiderState.noConfusion
  | none =>
    by_cases hcurrent : engine.navigator.currentPage = target
    · rw [pursue_here hentry hcurrent]
      exact SpiderState.noConfusion
    · rw [pursue_away hentry hcurrent]
      exact SpiderState.noConfusion

theorem chooseNextTarget_of_complete
    (hcomplete : (engine.navigateToNextTarget model).state = .complete) :
    engine.chooseNextTarget model = none := by
  unfold navigateToNextTarget at hcomplete
  cases hchoice : engine.chooseNextTarget model with
  | none => rfl
  | some target =>
    rw [hchoice] at hcomplete
    exact absurd hcomplete (state_pursue_ne_complete target)

/-- The announcement of the completion changes no record. -/
theorem covered_navigateToNextTarget_iff (hnone : engine.chooseNextTarget model = none) :
    Covered model (engine.navigateToNextTarget model) ↔ Covered model engine := by
  rw [navigateToNextTarget_of_none hnone]
  unfold tellPolicy
  split_ifs
  · exact ⟨fun h => h.congr rfl rfl rfl rfl, fun h => h.congr rfl rfl rfl rfl⟩
  · exact ⟨fun h => h.congr rfl rfl rfl rfl, fun h => h.congr rfl rfl rfl rfl⟩

variable {event : Event}

theorem Chooses.handles (h : Chooses model engine event choosing)
    (hnone : choosing.chooseNextTarget model = none) :
    engine.Handles model event (choosing.navigateToNextTarget model) := by
  cases h with
  | @startCrawl policy hsynced =>
    refine ⟨0, none, ?_⟩
    have hsynced' : ¬ (engine.beginCrawl policy).navigator.currentPage = .unknown := hsynced
    show some (engine.startCrawl model policy, none) = _
    rw [SpiderEngine.startCrawl]
    rw [if_neg hsynced']
  | @processStep content line fuel _ key hreact =>
    refine ⟨fuel, key, ?_⟩
    have hstate : ¬ (choosing.navigateToNextTarget model).state = .navigatingToNext := by
      rw [navigateToNextTarget_of_none hnone]
      exact SpiderState.noConfusion
    show engine.processStep model fuel content line = _
    rw [SpiderEngine.processStep, hreact, bind_some]
    exact if_neg hstate

theorem reports_of_settle {fuel : ℕ} {content : ScreenDataPage} {line : UInt8}
    {key : Option NavKeyCommand}
    (h : engine.react model fuel content line = some (.settle engine' key))
    (hcomplete : engine'.state = .complete) : engine' = engine := by
  rcases react_cases h with heq | ⟨-, heq⟩ | ⟨nav, key', -, ⟨hstate, heq⟩ | ⟨hstate, heq⟩⟩
  · exact (Reaction.settle.inj heq).1
  · cases heq
  · unfold followSync at heq
    split_ifs at heq
    obtain ⟨rfl, -⟩ := Reaction.settle.inj heq
    rw [show engine.state = .complete from hcomplete] at hstate
    cases hstate
  · unfold followNavigation at heq
    dsimp only at heq
    split at heq
    · cases heq
    · unfold abandonTarget abandonPage at heq
      dsimp only at heq
      split at heq
      · cases heq
      split_ifs at heq
      obtain ⟨rfl, -⟩ := Reaction.settle.inj heq
      cases hcomplete
    · obtain ⟨rfl, -⟩ := Reaction.settle.inj heq
      rw [show engine.state = .complete from hcomplete] at hstate
      cases hstate

theorem Handles.complete_cases (h : engine.Handles model event engine')
    (hcomplete : engine'.state = .complete) :
    engine.state = .complete ∧ (∃ nav, engine' = { engine with navigator := nav }) ∨
      ∃ choosing, Chooses model engine event choosing ∧ choosing.chooseNextTarget model = none ∧
        engine' = choosing.navigateToNextTarget model := by
  obtain ⟨fuel, key, h⟩ := h
  cases event with
  | startCrawl policy =>
    cases Option.some_inj.mp h
    unfold startCrawl at hcomplete ⊢
    dsimp only at hcomplete ⊢
    split_ifs at hcomplete ⊢ with hsynced
    exact .inr ⟨_, .startCrawl hsynced, chooseNextTarget_of_complete hcomplete, rfl⟩
  | navigator event =>
    obtain ⟨⟨nav, key'⟩, -, heq⟩ := Option.map_eq_some_iff.mp h
    cases heq
    exact .inl ⟨hcomplete, nav, rfl⟩
  | processStep content line =>
    rcases processStep_cases h with hreact | ⟨choosing, key', hreact, hnext⟩
    · obtain rfl := reports_of_settle hreact hcomplete
      exact .inl ⟨hcomplete, engine'.navigator, rfl⟩
    refine .inr ⟨choosing, .processStep hreact, ?_⟩
    rcases hnext with ⟨-, rfl⟩ | ⟨hstate, nav, rfl, -⟩
    · exact ⟨chooseNextTarget_of_complete hcomplete, rfl⟩
    · rw [show (choosing.navigateToNextTarget model).state = .complete from hcomplete] at hstate
      cases hstate

theorem Run.exists_choice {events : List Event} (hrun : Run model {} events engine)
    (hcomplete : engine.state = .complete) :
    ∃ before event after earlier choosing, events = before ++ event :: after ∧
      Run model {} before earlier ∧ Chooses model earlier event choosing ∧
      choosing.chooseNextTarget model = none ∧ (Covered model choosing → Covered model engine) := by
  induction hrun with
  | nil => cases hcomplete
  | @snoc last _ events event hrun hhandles ih =>
    rcases hhandles.complete_cases hcomplete with
      ⟨hlast, nav, rfl⟩ | ⟨choosing, hchooses, hnone, rfl⟩
    · obtain ⟨before, first, after, earlier, choosing, rfl, hearlier, hchooses, hnone,
        hcovered⟩ := ih hlast
      refine ⟨before, first, after ++ [event], earlier, choosing, ?_, hearlier, hchooses, hnone,
        fun h => (hcovered h).congr rfl rfl rfl rfl⟩
      rw [append_assoc, cons_append]
    · exact ⟨events, event, [], last, choosing, rfl, hrun, hchooses, hnone,
        (covered_navigateToNextTarget_iff hnone).mpr⟩

theorem Run.accounted_choosing {events : List Event} (hrun : Run model {} events engine)
    (hchooses : Chooses model engine event choosing) : Accounted model choosing none :=
  ((invariant_accounted model).choosing_of_chooses hrun.resting hchooses).accounted

/-- **Completeness of a crawl.**  Over a run, every completion is one exactly if at every
choice the crawl can go on as long as anything is outstanding. -/
theorem complete_covers_iff (model : MenuModel) (events : List Event) :
    (∀ before after engine, events = before ++ after → Run model {} before engine →
        engine.state = .complete → Covered model engine) ↔
      ∀ before event after engine choosing, events = before ++ event :: after →
        Run model {} before engine → Chooses model engine event choosing →
          Guided model choosing := by
  constructor
  · intro hcovers before event after engine choosing hevents hrun hchooses hleft
    by_contra hstuck
    -- a choice of none completes the crawl, although something is left
    have hnone : choosing.chooseNextTarget model = none := by
      by_contra hsome
      exact hstuck (chooseNextTarget_ne_none_iff.mp hsome)
    have hrun' := hrun.snoc (hchooses.handles hnone)
    have hcovered := hcovers (before ++ [event]) after _
      (by rw [hevents, append_assoc, singleton_append]) hrun'
      (by rw [navigateToNextTarget_of_none hnone])
    obtain ⟨page, hpage⟩ := hleft
    exact (hrun.accounted_choosing hchooses).covered_iff.mp
      ((covered_navigateToNextTarget_iff hnone).mp hcovered) page hpage
  · intro hguided before after engine hevents hrun hcomplete
    obtain ⟨start, event, rest, earlier, choosing, hbefore, hearlier, hchooses, hnone, hcovered⟩ :=
      hrun.exists_choice hcomplete
    have hguide := hguided start event (rest ++ after) earlier choosing
      (by rw [hevents, hbefore, append_assoc, cons_append]) hearlier hchooses
    refine hcovered ((hearlier.accounted_choosing hchooses).covered_iff.mpr ?_)
    intro page hpage
    exact chooseNextTarget_ne_none_iff.mpr (hguide ⟨page, hpage⟩) hnone

/-! ## A crawl that ends on the service page -/

/-- As on the controller, no key leads away from the service page. -/
def deadEndModel : MenuModel where
  pages :=
    [{ id := .system
       detectors := [{ line := 0, pattern := homeText }]
       edges :=
         [{ trigger := .select, source := .system, target := .helpKeys, triggerLine := 1 },
          { trigger := .select, source := .system, target := .boost, triggerLine := 2 }] },
     { id := .service
       detectors := [{ line := 0, pattern := serviceText }] },
     leafPage .helpKeys false,
     leafPage .boost false]

def deadEndEvents : List Event :=
  .startCrawl (some (targetedVisitPolicy {.helpKeys, .boost})) ::
    (replicate 3 (.processStep homePageScreen 0) ++ [.processStep servicePageScreen 0])

/-- The crawl reports its completion with a page that was never tried. -/
theorem deadEnd_not_covered :
    ¬ ∀ events engine, Run deadEndModel {} events engine → engine.state = .complete →
      Covered deadEndModel engine := by
  intro h
  have hcheck : (({} : SpiderEngine).runAll deadEndModel 5 deadEndEvents).any (fun engine =>
      decide (engine.state = .complete ∧ engine.wants (leafPage .boost false) ∧
        .boost ∉ engine.captures ∧ .boost ∉ engine.failed ∧
        engine.choices = [(.helpKeys, none)])) := by decide
  obtain ⟨engine, hrun, hengine⟩ := exists_of_runAll hcheck
  obtain ⟨hcomplete, hwants, hcaptured, hfailed, hchoices⟩ := of_decide_eq_true hengine
  have hreaches : deadEndModel.Reaches .system .boost :=
    Relation.ReflTransGen.single ⟨_, mem_cons_of_mem _ mem_cons_self, rfl⟩
  rcases (h _ engine hrun hcomplete).pages (leafPage .boost false)
    (by simp [deadEndModel]) hwants hreaches with htried | htried | ⟨key, htried⟩
  · exact hcaptured htried
  · exact hfailed htried
  · rw [hchoices] at htried
    simp at htried

end SpiderEngine

end AqualinkAutomate.Navigation
