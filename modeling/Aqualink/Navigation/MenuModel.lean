import Mathlib.Data.List.Cycle
import Mathlib.Data.List.DropRight
import Aqualink.General.BreadthFirst

/-!
# Screens and the menu model

A screen is a list of rows of text.  The menu model knows the pages that a screen can
show: how to recognise each of them, and which key leads from it to which other page.
Pages and their edges form a graph; a path through the menu is a path in this graph.

The edges listed at a page lead away from it.  A page carries this as a field, and it
is what makes the reconstruction of a path end (`findPath_adequate`).  What the search
returns is a shortest way through the menu (`findPath_shortest`).
-/

namespace AqualinkAutomate.Navigation

open General List

/-! ## Screens -/

/-- A text of the controller, one byte a character. -/
abbrev Text : Type := List Char

inductive HighlightState where
  | normal | highlighted | partiallyHighlighted
  deriving DecidableEq

structure ScreenRow where
  text : Text := []
  highlightState : HighlightState := .normal
  highlightRange : Option (UInt8 × UInt8) := none
  deriving DecidableEq

structure ScreenDataPage where
  rows : List ScreenRow
  deriving DecidableEq

def isBlank (c : Char) : Bool := c = ' ' || c = '\t'

def trim (text : Text) : Text := (text.dropWhile isBlank).rdropWhile isBlank

/-- The trimmed row starts with the label, case aside, and the label does not end inside
a word. -/
def ScreenRow.matchesLabel (label : Text) (row : ScreenRow) : Bool :=
  let trimmed := trim row.text
  !trimmed.isEmpty && (label.map Char.toLower).isPrefixOf (trimmed.map Char.toLower) &&
    !((trimmed.drop label.length).head?.any Char.isAlphanum)

/-- `FindLineByLabel`: the first row that the label matches.  The row number is cut to a
byte. -/
def ScreenDataPage.findLineByLabel (content : ScreenDataPage) (label : Text) : Option UInt8 :=
  if label.isEmpty then none
  else (content.rows.findIdx? (ScreenRow.matchesLabel label)).map UInt8.ofNat

/-! ## Pages -/

inductive PageId where
  | unknown
  | system | oneTouch | moreOneTouch
  | menuHelp | helpSubmenu
  | helpKeys | helpService
  | diagnosticsSensors | diagnosticsRemotes | diagnosticsErrors | diagnosticsIaqStatus
  | diagnosticsIaqRssi
  | systemSetup | labelAuxList | labelAux
  | generalLabels | lightLabels | waterfallLabels | customLabel
  | equipmentOnOff | equipmentStatus
  | setTemperature | setPoolHeat | setSpaHeat | setTime | freezeProtect | boost | setAquapure
  | selectSpeed
  | program | displayLight | lockouts | passwordSettings | programGroup
  | startUp | service | timeOut | version | enterPassword
  deriving DecidableEq

/-- A text to be found in a row. -/
structure Detector where
  line : UInt8
  pattern : Text
  deriving DecidableEq

inductive EdgeTrigger where
  | select | back | lineUp | lineDown | pageUp | pageDown | systemTimeout | systemService
  deriving DecidableEq

structure MenuEdge where
  trigger : EdgeTrigger
  source : PageId
  target : PageId
  triggerLine : UInt8 := 0
  label : Text := []
  deriving DecidableEq

def MenuEdge.isPageTransition (edge : MenuEdge) : Bool := edge.source ≠ edge.target

structure MenuPage where
  id : PageId
  detectors : List Detector := []
  edges : List MenuEdge := []
  maxContentLines : Option UInt8 := none
  multiInstance : Bool := false
  isTransient : Bool := false
  source_eq : ∀ edge ∈ edges, edge.isPageTransition → edge.source = id := by decide

def MenuPage.supportsKey (page : MenuPage) (trigger : EdgeTrigger) : Bool :=
  page.edges.any fun edge => edge.trigger = trigger

/-- The registered pages, in the order in which the container lists them; a page is
registered under its id. -/
structure MenuModel where
  pages : List MenuPage := []
  nodup : (pages.map MenuPage.id).Nodup := by decide

namespace MenuModel

variable (model : MenuModel)

def getPage (id : PageId) : Option MenuPage := model.pages.find? fun page => page.id = id

/-! ## Detection -/

def matchesPage (content : ScreenDataPage) (page : MenuPage) : Bool :=
  !page.detectors.isEmpty &&
    (page.detectors.all fun detector =>
      (content.rows[detector.line.toNat]?).any fun row => detector.pattern <:+: row.text) &&
    page.maxContentLines.all fun limit =>
      UInt8.ofNat (content.rows.countP fun row => !row.text.isEmpty) ≤ limit

structure BestMatch where
  id : PageId := .unknown
  detectorCount : ℕ := 0
  patternLength : ℕ := 0

def BestMatch.improve (best : BestMatch) (page : MenuPage) : BestMatch :=
  let patternLength :=
    page.detectors.foldl (fun total detector => total + detector.pattern.length) 0
  if best.detectorCount < page.detectors.length ∨
      page.detectors.length = best.detectorCount ∧ best.patternLength < patternLength then
    { id := page.id, detectorCount := page.detectors.length, patternLength }
  else best

def detectPage (content : ScreenDataPage) : PageId :=
  (model.pages.foldl
    (fun best page => if matchesPage content page then best.improve page else best)
    ({} : BestMatch)).id

/-! ## Paths -/

/-- The edges that the search follows from a page; self-loops are skipped. -/
def transitionsFrom (id : PageId) : List MenuEdge :=
  match model.getPage id with
  | none => []
  | some page => page.edges.filter MenuEdge.isPageTransition

def targets : List PageId := model.pages.flatMap fun page => page.edges.map MenuEdge.target

/-- `FindPath`: the edges of a path, or none. -/
def findPath (source target : PageId) : List MenuEdge :=
  BreadthFirst.findPath MenuEdge.source MenuEdge.target model.transitionsFrom model.targets source
    target

def getIncomingSelectEdges (target : PageId) : List MenuEdge :=
  model.pages.flatMap fun page => page.edges.filter fun edge =>
    edge.trigger = .select && edge.isPageTransition && edge.target = target

theorem getPage_of_mem {page : MenuPage} (hpage : page ∈ model.pages) :
    model.getPage page.id = some page := by
  obtain ⟨found, hfound⟩ : ∃ found, model.getPage page.id = some found :=
    Option.isSome_iff_exists.mp (List.find?_isSome.mpr ⟨page, hpage, by simp⟩)
  have hid : found.id = page.id := by simpa using find?_some hfound
  -- the ids are distinct, so there is only one page with this one
  have heq := inj_on_of_nodup_map model.nodup (mem_of_find?_eq_some hfound) hpage hid
  rw [hfound, heq]

theorem mem_transitionsFrom_iff {id : PageId} {edge : MenuEdge} :
    edge ∈ model.transitionsFrom id ↔
      (∃ page ∈ model.pages, page.id = id ∧ edge ∈ page.edges) ∧ edge.isPageTransition := by
  unfold transitionsFrom
  constructor
  · intro hedge
    cases hpage : model.getPage id with
    | none =>
      rw [hpage] at hedge
      cases hedge
    | some page =>
      rw [hpage] at hedge
      obtain ⟨hmem, htransition⟩ := List.mem_filter.mp hedge
      have hid : page.id = id := by simpa using find?_some hpage
      exact ⟨⟨page, mem_of_find?_eq_some hpage, hid, hmem⟩, htransition⟩
  · rintro ⟨⟨page, hpage, rfl, hmem⟩, htransition⟩
    rw [model.getPage_of_mem hpage]
    exact List.mem_filter.mpr ⟨hmem, htransition⟩

theorem source_eq_of_mem_transitionsFrom (id : PageId) :
    ∀ edge ∈ model.transitionsFrom id, edge.source = id := by
  intro edge hedge
  obtain ⟨⟨page, _, hid, hmem⟩, htransition⟩ := model.mem_transitionsFrom_iff.mp hedge
  rw [page.source_eq edge hmem htransition, hid]

theorem target_mem_of_mem_transitionsFrom (id : PageId) :
    ∀ edge ∈ model.transitionsFrom id, edge.target ∈ model.targets := by
  intro edge hedge
  obtain ⟨⟨page, hpage, _, hmem⟩, _⟩ := model.mem_transitionsFrom_iff.mp hedge
  exact List.mem_flatMap.mpr ⟨page, hpage, mem_map_of_mem hmem⟩

variable {source target : PageId}

/-- The search for a path and its reconstruction end, with the path of `findPath`. -/
theorem findPath_adequate (hne : source ≠ target) :
    ∃ found, Returns (BreadthFirst.searchPass MenuEdge.target model.transitionsFrom target)
        (BreadthFirst.start source) found ∧
      (found = none → model.findPath source target = []) ∧
      ∀ edge predecessor, found = some (edge, predecessor) →
        Returns (BreadthFirst.reconstructPass MenuEdge.source predecessor) (edge, [])
          (some (model.findPath source target)) :=
  BreadthFirst.findPath_adequate model.target_mem_of_mem_transitionsFrom
    model.source_eq_of_mem_transitionsFrom hne

def Reaches (source target : PageId) : Prop :=
  BreadthFirst.Reaches MenuEdge.target model.transitionsFrom source target

theorem findPath_ne_nil_iff :
    model.findPath source target ≠ [] ↔ source ≠ target ∧ model.Reaches source target :=
  BreadthFirst.findPath_ne_nil_iff model.target_mem_of_mem_transitionsFrom
    model.source_eq_of_mem_transitionsFrom

/-! ## Shortest paths -/

/-- The edges are page transitions, and each is listed at the page that the one before it
leads to. -/
def Leads : PageId → List MenuEdge → PageId → Prop
  | source, [], target => source = target
  | source, edge :: path, target =>
    (∃ page ∈ model.pages, page.id = source ∧ edge ∈ page.edges) ∧ edge.isPageTransition ∧
      edge.source = source ∧ Leads edge.target path target

def LeadsShortest (source : PageId) (path : List MenuEdge) (target : PageId) : Prop :=
  model.Leads source path target ∧
    IsLeast {n | ∃ path, model.Leads source path target ∧ path.length = n} path.length

/-- Both loops of `FindPath` end, and it returns what `findPath` does. -/
def SearchEnds (source target : PageId) : Prop :=
  ∃ found, Returns (BreadthFirst.searchPass MenuEdge.target model.transitionsFrom target)
      (BreadthFirst.start source) found ∧
    (found = none → model.findPath source target = []) ∧
    ∀ edge predecessor, found = some (edge, predecessor) →
      Returns (BreadthFirst.reconstructPass MenuEdge.source predecessor) (edge, [])
        (some (model.findPath source target))

theorem leads_iff_chains {path : List MenuEdge} :
    model.Leads source path target ↔
      BreadthFirst.Chains MenuEdge.target model.transitionsFrom source path target := by
  induction path generalizing source with
  | nil =>
    constructor
    · rintro rfl
      exact .nil
    · rintro ⟨⟩
      rfl
  | cons edge path ih =>
    constructor
    · rintro ⟨hlisted, htransition, _, hpath⟩
      exact .cons (model.mem_transitionsFrom_iff.mpr ⟨hlisted, htransition⟩) (ih.mp hpath)
    · rintro (_ | ⟨hedge, hpath⟩)
      obtain ⟨hlisted, htransition⟩ := model.mem_transitionsFrom_iff.mp hedge
      exact ⟨hlisted, htransition, model.source_eq_of_mem_transitionsFrom source edge hedge,
        ih.mpr hpath⟩

theorem exists_leads_iff :
    (∃ path, model.Leads source path target) ↔ model.Reaches source target := by
  calc (∃ path, model.Leads source path target)
      ↔ ∃ path, BreadthFirst.Chains MenuEdge.target model.transitionsFrom source path target :=
        exists_congr fun _ => model.leads_iff_chains
    _ ↔ model.Reaches source target := BreadthFirst.exists_chains_iff

/-- **Shortest menu path.**  `FindPath` ends.  It returns no edges exactly for the page
itself and for a page to which no edges lead; the edges it returns lead from the one page
to the other, and no fewer edges do. -/
theorem findPath_shortest (source target : PageId) :
    (source = target ∨ model.SearchEnds source target) ∧
      (model.findPath source target = [] ↔
        source = target ∨ ¬∃ path, model.Leads source path target) ∧
      (model.findPath source target = [] ∨
        model.LeadsShortest source (model.findPath source target) target) := by
  have hne := @findPath_ne_nil_iff model source target
  refine ⟨or_iff_not_imp_left.mpr model.findPath_adequate, ?_, ?_⟩
  · rwa [← not_iff_not, exists_leads_iff, not_or, not_not]
  refine or_iff_not_imp_left.mpr fun hpath => ?_
  obtain ⟨hchains, hleast⟩ := BreadthFirst.findPath_isLeast
    model.target_mem_of_mem_transitionsFrom model.source_eq_of_mem_transitionsFrom
    (hne.mp hpath).2
  refine ⟨model.leads_iff_chains.mpr hchains, ?_⟩
  simp only [leads_iff_chains]
  exact hleast

end MenuModel

end AqualinkAutomate.Navigation
