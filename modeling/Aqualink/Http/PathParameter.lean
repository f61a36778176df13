import Aqualink.Http.RouteWalk
import Aqualink.Scheduling.Authority

/-!
# One request, one resource

The router finds a route by the segments of the path, and what it matched to the parameter of the
route is what a permission for a single device is asked for.  The handlers do not get it: each
reads the target once more and takes a segment by its place, the last one, the third, the one
before the last, and for a button a query parameter if there is none.

`oneResource_iff` says for which requests this is the segment that was routed, and permitted,
whoever makes them.

A target is given by what it is parsed to.  The checks of a request as a whole (its origin, the
CSRF header) do not look at the target, and the services behind the routes are there.
-/

namespace AqualinkAutomate.Http

open Auth Equipment Scheduling List Option

/-! ## Requests -/

inductive Verb where
  | get
  | head
  | post
  | put
  | delete
  | other
  deriving DecidableEq

structure Target where
  segments : List String
  params : List (String × String) := []

structure HttpRequest where
  verb : Verb
  target : Target

namespace Target

variable (target : Target)

def nonEmpty (text : String) : Option String := if text = "" then none else some text

/-- `ParseQueryString`, which does not mind the case of the name. -/
def parseQueryString (name : String) : Option String :=
  (target.params.find? fun param => lowercase param.1 == lowercase name).map Prod.snd

def lastPathSegment : Option String :=
  target.segments.getLast?.bind fun last => nonEmpty (decodeSegment last)

/-- `UuidSegment`: the segment before the last. -/
def uuidSegment : Option String :=
  if target.segments.length < 2 then none
  else target.segments[target.segments.length - 2]?.bind fun segment =>
    nonEmpty (decodeSegment segment)

/-- `AdminRoutePathParam`: the third segment. -/
def adminRoutePathParam : Option String :=
  target.segments[2]?.bind fun segment => nonEmpty (decodeSegment segment)

def captureNameFromTarget : Option String :=
  ((target.segments.map decodeSegment).filter (· ≠ "")).getLast?

def extractAuxId : Option String :=
  if 4 ≤ target.segments.length then target.lastPathSegment else none

def extractButtonId : Option String :=
  (if 4 ≤ target.segments.length then target.lastPathSegment else none).or
    (target.parseQueryString "button_id")

end Target

/-! ## Routes -/

/-- The routes with a parameter. -/
inductive ItemRoute where
  | controllerSchedule
  | apiKey
  | session
  | capture
  | user
  | userPassword
  | schedule
  | promote
  | group
  | button
  | auxSlot
  deriving DecidableEq

inductive Route where
  | item (route : ItemRoute)
  | plain (path : List String) (named : ∀ text ∈ path, text ≠ "." ∧ text ≠ ".." := by decide)
  deriving DecidableEq

def ItemRoute.template : ItemRoute → List SegmentTemplate
  | controllerSchedule =>
    [.literal "api", .literal "controller", .literal "schedules", .parameter]
  | apiKey => [.literal "api", .literal "apikeys", .parameter]
  | session => [.literal "api", .literal "sessions", .parameter]
  | capture =>
    [.literal "api", .literal "diagnostics", .literal "recording", .literal "captures", .parameter]
  | user => [.literal "api", .literal "users", .parameter]
  | userPassword => [.literal "api", .literal "users", .parameter, .literal "password"]
  | schedule => [.literal "api", .literal "schedules", .parameter]
  | promote => [.literal "api", .literal "schedules", .parameter, .literal "promote"]
  | group => [.literal "api", .literal "groups", .parameter]
  | button => [.literal "api", .literal "equipment", .literal "buttons", .parameter]
  | auxSlot => [.literal "api", .literal "equipment", .literal "aux-slots", .parameter]

def Route.template : Route → RouteTemplate
  | item route => ⟨route.template, by cases route <;> simp +contextual [ItemRoute.template]⟩
  | plain path named => ⟨path.map .literal, by simpa using named⟩

def ItemRoute.read : ItemRoute → Target → Option String
  | controllerSchedule | schedule => Target.lastPathSegment
  | apiKey | session | user | userPassword | group => Target.adminRoutePathParam
  | capture => Target.captureNameFromTarget
  | promote => Target.uuidSegment
  | button => Target.extractButtonId
  | auxSlot => Target.extractAuxId

/-- `RequiredAccess` -/
def ItemRoute.requiredAction : ItemRoute → Verb → String
  | controllerSchedule, .get | controllerSchedule, .head => "schedules.view"
  | controllerSchedule, _ => "schedules.edit"
  | schedule, .get | schedule, .head => "schedules.view"
  | schedule, _ => "schedules.edit"
  | promote, _ => "schedules.edit"
  | session, _ | userPassword, _ => Vocabulary.prefsSelf
  | capture, .get | capture, .head => "diagnostics.view"
  | capture, _ => Vocabulary.systemAdmin
  | button, .get | button, .head => Vocabulary.equipmentView
  | button, _ => "equipment.control.aux"
  | apiKey, _ | user, _ | group, _ | auxSlot, _ => Vocabulary.systemAdmin

/-- Whether the access is to the one resource that the parameter names. -/
def ItemRoute.hasResourceKind : ItemRoute → Verb → Bool
  | button, .get | button, .head => false
  | button, _ => true
  | _, _ => false

/-! ## The server -/

structure HttpEnv where
  registered : List Route
  devices : DevicesGraph
  poolConfigurationKnown : Bool
  hasDispatcher : Bool
  authEnabled : Bool

/-- The handler of the route looks the identifier up in a request of this kind. -/
def ItemRoute.serves (env : HttpEnv) : ItemRoute → Verb → Bool
  | controllerSchedule, .delete | controllerSchedule, .put => env.hasDispatcher
  | apiKey, .delete | session, .delete | group, .delete => true
  | capture, .get => true
  | user, .get | user, .put | user, .delete => true
  | userPassword, .put => true
  | schedule, .get | schedule, .put | schedule, .delete => true
  | promote, .post => env.hasDispatcher
  | button, .get | button, .post => env.poolConfigurationKnown
  | auxSlot, .put => true
  | _, _ => false

/-! ### The UUID of a button -/

def uuidByte (high low : Char) : Option UInt8 :=
  (hexDigitValue high).bind fun highValue =>
    (hexDigitValue low).map fun lowValue => UInt8.ofNat (16 * highValue + lowValue)

/-- The bytes from the `index`th on, with what is behind them.  If there is a dash before the
fifth byte there has to be one before the seventh, the ninth and the eleventh. -/
def uuidBytes : ℕ → ℕ → Bool → List Char → Option (List UInt8 × List Char)
  | 0, _, _, chars => some ([], chars)
  | count + 1, index, hasDashes, chars =>
    let hasDashes := if index = 4 then chars.head? = some '-' else hasDashes
    let separated := hasDashes && index ∈ [4, 6, 8, 10]
    if separated && chars.head? ≠ some '-' then
      none
    else
      match if separated then chars.tail else chars with
      | high :: low :: rest =>
        (uuidByte high low).bind fun byte =>
          (uuidBytes count (index + 1) hasDashes rest).map fun parsed =>
            (byte :: parsed.1, parsed.2)
      | _ => none

/-- The Boost UUID generator, for which an opened brace has to be closed and nothing may follow.
It throws where there is no result. -/
def stringGenerator (text : String) : Option Uuid :=
  let opened := text.toList.head? = some '\x7b'
  (uuidBytes 16 0 false (if opened then text.toList.tail else text.toList)).bind fun parsed =>
    if h : parsed.1.length = 16 ∧ parsed.2 = (if opened then ['\x7d'] else []) then
      some ⟨parsed.1.toArray, h.1⟩
    else none

namespace HttpEnv

variable (env : HttpEnv) (subject : Subject) (request : HttpRequest)

/-- `http_routes` -/
def httpRoutes : RouteTree Route :=
  .ofRoutes (env.registered.map fun route => (route.template, route))

/-- The route that is found, with what is in the first slot of the captures. -/
def routed : Option (ItemRoute × String) :=
  match findWay (some 20) env.httpRoutes request.target.segments with
  | some (.item route, captures) => some (route, (captures.head?.map Prod.fst).getD "")
  | _ => none

/-- `EvaluateAccess` of the router. -/
def evaluateAccess (route : ItemRoute) (segment : String) : Decision :=
  PolicyEngine.decide subject (route.requiredAction request.verb)
    (if route.hasResourceKind request.verb then segment else "") env.authEnabled

def identifier (route : ItemRoute) : Option String :=
  if route.serves env request.verb then route.read request.target else none

/-- What `ButtonIndividual_PostHandler` calls `ToggleByUuid` with. -/
def toggleByUuid : Option Uuid :=
  if env.poolConfigurationKnown then
    (request.target.extractButtonId.bind stringGenerator).bind fun uuid =>
      if (env.devices.findById uuid).isSome ∧ env.hasDispatcher then some uuid else none
  else none

/-- What a `POST` on the button route toggles. -/
def toggled : Option Uuid :=
  match env.routed request with
  | some (.button, segment) =>
    if request.verb = .post ∧ env.evaluateAccess subject request .button segment = .permit then
      env.toggleByUuid request
    else none
  | _ => none

/-- The handler acts on what was routed, and a device is toggled only for those who may do that
to it. -/
structure OneResource (env : HttpEnv) (subject : Subject) (request : HttpRequest) : Prop where
  acts : ∀ route segment, env.routed request = some (route, segment) →
    env.evaluateAccess subject request route segment = .permit →
      ∀ id, env.identifier request route = some id → id = decodeSegment segment
  authorised : env.authEnabled → ∀ uuid, env.toggled subject request = some uuid →
    PolicyEngine.decide subject "equipment.control.aux" uuid.toText true = .permit

end HttpEnv

/-! ## The unmistakable requests -/

/-- The path has no dot segment. -/
def Target.Plain (target : Target) : Prop := ∀ segment ∈ target.segments, ¬ IsDotSegment segment

/-- What stands at the place where the handler looks is what was routed.  It is, without a dot
segment; with one, the last segment has to be no dot segment, or another place has to have the text
of what was routed. -/
def ItemRoute.Reads (route : ItemRoute) (target : Target) (segment : String) : Prop :=
  match route with
  | controllerSchedule | schedule | auxSlot =>
    ∀ last, target.segments.getLast? = some last → ¬ IsDotSegment last
  | button =>
    ∀ last, target.segments.getLast? = some last → ¬ IsDotSegment last ∧
      (last = "" → ∀ id, target.parseQueryString "button_id" = some id → id = "")
  | capture =>
    ∀ last, target.segments.getLast? = some last → ¬ IsDotSegment last ∧ last ≠ ""
  | apiKey | session | user | userPassword | group => target.Plain ∨
    ∀ third, target.segments[2]? = some third → third = "" ∨
      decodeSegment third = decodeSegment segment
  | promote => target.Plain ∨
    ∀ before, target.segments[target.segments.length - 2]? = some before → before = "" ∨
      decodeSegment before = decodeSegment segment

/-- The handler reads what was routed, and the text of a button that can be toggled is the
canonical one. -/
structure HttpEnv.Unmistakable (env : HttpEnv) (request : HttpRequest) : Prop where
  reads : ∀ route segment, env.routed request = some (route, segment) →
    route.serves env request.verb → route.Reads request.target segment
  canonical : env.authEnabled → request.verb = .post →
    ∀ segment, env.routed request = some (.button, segment) →
      ∀ uuid, env.toggleByUuid request = some uuid → segment = uuid.toText

/-! ## What is routed -/

section

variable {env : HttpEnv} {request : HttpRequest} {route : ItemRoute} {segment last : String}

theorem ItemRoute.api_mem_template (route : ItemRoute) : .literal "api" ∈ route.template := by
  cases route <;> simp [template]

theorem ItemRoute.countP_template (route : ItemRoute) :
    route.template.countP (fun template => !template.isLiteral) = 1 := by
  cases route <;> rfl

theorem viewStep_eq_down {view : View} : viewStep view = .down ↔ ¬ IsDotSegment view.1 := by
  rw [viewStep, IsDotSegment]
  split_ifs <;> simp_all

theorem exists_api_segment {path : List View} {final : Position Route}
    (hleads : Leads env.httpRoutes path final.trail final.tree)
    (hnode : (final.trail.map Step.template).reverse = route.template) :
    ∃ view ∈ path, decodeSegment view.1 = "api" := by
  have hapi : .literal "api" ∈ final.trail.map Step.template := by
    have hmem := route.api_mem_template
    rwa [← hnode, mem_reverse] at hmem
  obtain ⟨passed, hpassed, hliteral⟩ := List.mem_map.mp hapi
  obtain ⟨hmem, -, hmatch⟩ := hleads.matched hpassed
  rw [hliteral, SegmentTemplate.match, beq_iff_eq] at hmatch
  exact ⟨passed.view, hmem, hmatch⟩

section

variable (h : env.routed request = some (route, segment))

include h

theorem exists_way_of_routed :
    ∃ final : Position Route,
      Walk request.target.segments.zipIdx { tree := env.httpRoutes } final ∧ final.level = 0 ∧
        Leads env.httpRoutes request.target.segments.zipIdx final.trail final.tree ∧
        (final.trail.map Step.template).reverse = route.template ∧
        final.captures.map Prod.fst = [segment] := by
  rw [HttpEnv.routed] at h
  split at h
  next found captures hfind =>
    cases h
    obtain ⟨final, hfinal, hresource⟩ := Option.bind_eq_some_iff.mp hfind
    obtain ⟨handler, hhandler, hpair⟩ := Option.map_eq_some_iff.mp hresource
    cases hpair
    obtain ⟨hwalk, hlevel⟩ := walk_of_tryMatchFrom hfinal
    have hleads := hwalk.leads (List.Subset.refl _) rfl
    have hnode : (final.trail.map Step.template).reverse = route.template := by
      have hlast := (hleads.resourceAt (RouteTree.wellFormed_ofRoutes _) []).2
      rw [append_nil, HttpEnv.httpRoutes, RouteTree.resourceAt_ofRoutes,
        RouteTree.resourceAt, hhandler] at hlast
      obtain ⟨registered, hfirst, hitem⟩ := Option.map_eq_some_iff.mp hlast
      obtain ⟨known, -, rfl⟩ := List.mem_map.mp (List.mem_reverse.mp (mem_of_find?_eq_some hfirst))
      obtain rfl : known = .item route := hitem
      exact (of_decide_eq_true (List.find?_eq_some_iff_append.mp hfirst).1).symm
    have hpath : requestViews request.target.segments = request.target.segments.zipIdx := by
      rw [requestViews, searchPath, if_neg]
      intro hempty
      -- the path `./` has no such segment
      obtain ⟨first, hmem, hapi⟩ := exists_api_segment hleads hnode
      rw [hempty] at hmem
      obtain rfl | rfl := List.mem_pair.mp hmem
      · exact absurd hapi (by decide)
      · exact absurd hapi (by decide)
    have hlength : final.captures.length = 1 := by
      rw [← route.countP_template, ← hnode, Position.captures, length_reverse,
        length_filterMap_eq_countP, countP_reverse, countP_map]
      refine countP_congr fun step _ => ?_
      cases hliteral : step.template.isLiteral <;> simp [hliteral]
    obtain ⟨captured, hcaptured⟩ := List.length_eq_one_iff.mp hlength
    rw [hpath] at hwalk hleads
    refine ⟨final, hwalk, hlevel, hleads, hnode, ?_⟩
    rw [hcaptured]
    rfl
  next => cases h

theorem not_isDotSegment_of_routed : ¬ IsDotSegment segment := by
  obtain ⟨final, -, -, hleads, -, hcaptures⟩ := exists_way_of_routed h
  obtain ⟨view, hview, rfl⟩ := List.mem_map.mp (hcaptures ▸ mem_singleton_self segment)
  obtain ⟨step, hstep, hcaptured⟩ := List.mem_filterMap.mp (List.mem_reverse.mp hview)
  cases (Option.ite_none_left_eq_some.mp hcaptured).2
  exact viewStep_eq_down.mp (hleads.matched hstep).2.1

theorem length_template_le : route.template.length ≤ request.target.segments.length := by
  obtain ⟨final, hwalk, -, -, hnode, -⟩ := exists_way_of_routed h
  rw [← hnode, length_reverse, length_map]
  simpa using hwalk.length_trail

theorem exists_last_of_routed : ∃ last, request.target.segments.getLast? = some last := by
  have hlength := length_template_le h
  have hpositive : 0 < route.template.length := by
    cases route <;> exact Nat.succ_pos _
  refine ⟨_, getLast?_eq_some_getLast ?_⟩
  rintro hempty
  rw [hempty, length_nil] at hlength
  omega

theorem eq_of_last (hend : route.template.getLast? = some .parameter)
    (hlast : request.target.segments.getLast? = some last) (hplain : ¬ IsDotSegment last) :
    last = segment := by
  obtain ⟨final, hwalk, hlevel, -, hnode, hcaptures⟩ := exists_way_of_routed h
  obtain ⟨before, hsegments⟩ := List.getLast?_eq_some_iff.mp hlast
  have hinside : final.trail ≠ [] := by
    intro hempty
    rw [← hnode, hempty] at hend
    cases hend
  rw [hsegments, zipIdx_append, zipIdx_singleton] at hwalk
  obtain ⟨step, hhead, hview⟩ := hwalk.last
    (Position.valid_root (RouteTree.wellFormed_ofRoutes _)) hlevel hinside
    (viewStep_eq_down.mpr hplain)
  obtain ⟨rest, htrail⟩ := List.head?_eq_some_iff.mp hhead
  have htemplate : step.template = .parameter := by
    rw [← hnode, getLast?_reverse, htrail] at hend
    simpa using hend
  rw [Position.captures, htrail, filterMap_cons, htemplate] at hcaptures
  have hboth := congrArg getLast? hcaptures
  simpa [SegmentTemplate.isLiteral, hview] using hboth

/-- Without a dot segment the path is as long as the template, and the routed segment stands where
the template has its parameter. -/
theorem eq_of_plain (hplain : request.target.Plain) :
    request.target.segments.length = route.template.length ∧
      ∀ place : ℕ, route.template[place]? = some SegmentTemplate.parameter →
        request.target.segments[place]? = some segment := by
  obtain ⟨final, hwalk, hlevel, -, hnode, hcaptures⟩ := exists_way_of_routed h
  have hviews : final.trail.reverse.map Step.view = request.target.segments.zipIdx := by
    rw [map_reverse, (hwalk.plain (fun view hmem => viewStep_eq_down.mpr
      (hplain _ (fst_mem_of_mem_zipIdx hmem))) le_rfl).2 hlevel]
    simp
  constructor
  · have hlength := congrArg List.length hviews
    rw [← hnode]
    simpa using hlength.symm
  · intro place hplace
    rw [← hnode, ← map_reverse, getElem?_map, map_eq_some_iff] at hplace
    obtain ⟨step, hstep, htemplate⟩ := hplace
    have hview := congrArg (·[place]?) hviews
    simp only [getElem?_map, hstep, map_some, getElem?_zipIdx] at hview
    obtain ⟨other, hother, hpair⟩ := Option.map_eq_some_iff.mp hview.symm
    have hcaptured : step.view ∈ final.captures := List.mem_reverse.mpr (List.mem_filterMap.mpr
      ⟨step, List.mem_reverse.mp (mem_of_getElem? hstep),
        by simp [htemplate, SegmentTemplate.isLiteral]⟩)
    have hsegment := mem_map_of_mem (f := Prod.fst) hcaptured
    rw [hcaptures, ← hpair] at hsegment
    rw [hother, ← List.mem_singleton.mp hsegment]

end

/-! ## What the handlers read -/

theorem nonEmpty_eq_some {text id : String} :
    Target.nonEmpty text = some id ↔ text ≠ "" ∧ text = id := by
  rw [Target.nonEmpty]
  split
  next hempty => simp [hempty]
  next hfull => simp [hfull]

theorem lastPathSegment_eq_some {target : Target} {id : String}
    (hlast : target.segments.getLast? = some last) :
    target.lastPathSegment = some id ↔ last ≠ "" ∧ decodeSegment last = id := by
  rw [Target.lastPathSegment, hlast, bind_some, nonEmpty_eq_some, ne_eq,
    decodeSegment_eq_empty]

theorem IsDotSegment.ne_empty (h : IsDotSegment last) : last ≠ "" := by
  rintro rfl
  obtain hdot | hback := h
  · exact absurd hdot (by decide)
  · exact absurd hback (by decide)

theorem not_decode_eq (h : env.routed request = some (route, segment)) (hdot : IsDotSegment last) :
    decodeSegment last ≠ decodeSegment segment := by
  intro hsame
  refine not_isDotSegment_of_routed h ?_
  rwa [IsDotSegment, ← hsame]

theorem lastPathSegment_iff (h : env.routed request = some (route, segment))
    (hend : route.template.getLast? = some .parameter)
    (hlast : request.target.segments.getLast? = some last) :
    (∀ id, request.target.lastPathSegment = some id → id = decodeSegment segment) ↔
      ¬ IsDotSegment last := by
  constructor
  · intro hread hdot
    exact not_decode_eq h hdot (hread _ ((lastPathSegment_eq_some hlast).mpr ⟨hdot.ne_empty, rfl⟩))
  · intro hplain id hid
    obtain ⟨-, rfl⟩ := (lastPathSegment_eq_some hlast).mp hid
    rw [eq_of_last h hend hlast hplain]

theorem placed_iff {found : Option String}
    (h : request.target.Plain → found = some segment) :
    (∀ id, (found.bind fun other => Target.nonEmpty (decodeSegment other)) = some id →
        id = decodeSegment segment) ↔
      request.target.Plain ∨ ∀ other, found = some other → other = "" ∨
        decodeSegment other = decodeSegment segment := by
  have hsame : (request.target.Plain ∨ ∀ other, found = some other → other = "" ∨
      decodeSegment other = decodeSegment segment) ↔ ∀ other, found = some other → other = "" ∨
        decodeSegment other = decodeSegment segment := by
    refine or_iff_right_of_imp fun hplain other hother => .inr ?_
    rw [Option.some.inj (hother.symm.trans (h hplain))]
  rw [hsame]
  cases found with
  | none => simp
  | some other =>
    simp only [bind_some, nonEmpty_eq_some, Option.some.injEq, ne_eq, decodeSegment_eq_empty]
    constructor
    · rintro hread _ rfl
      rw [or_iff_not_imp_left]
      exact fun hfull => hread _ ⟨hfull, rfl⟩
    · rintro hsame _ ⟨hfull, rfl⟩
      exact (hsame other rfl).resolve_left hfull

theorem extractButtonId_iff (h : env.routed request = some (.button, segment))
    (hlast : request.target.segments.getLast? = some last) :
    (∀ id, request.target.extractButtonId = some id → id = decodeSegment segment) ↔
      ¬ IsDotSegment last ∧ (last = "" →
        ∀ id, request.target.parseQueryString "button_id" = some id → id = "") := by
  have hlength : 4 ≤ request.target.segments.length := length_template_le h
  have hpath := lastPathSegment_iff h rfl hlast
  rw [Target.extractButtonId, if_pos hlength]
  by_cases hempty : last = ""
  · -- the query is asked, and what was routed is empty
    have hnone : request.target.lastPathSegment = none := by
      rw [eq_none_iff_forall_ne_some]
      intro id hid
      exact ((lastPathSegment_eq_some hlast).mp hid).1 hempty
    have hplain : ¬ IsDotSegment last := fun hdot => hdot.ne_empty hempty
    have hsegment : decodeSegment segment = "" := by
      rw [← eq_of_last h rfl hlast hplain, hempty]
      rfl
    rw [hempty] at hplain
    simp [hnone, hplain, hempty, hsegment]
  · have hsome : request.target.lastPathSegment = some (decodeSegment last) :=
      (lastPathSegment_eq_some hlast).mpr ⟨hempty, rfl⟩
    rw [hsome] at hpath
    simpa [hsome, hempty] using hpath

theorem captureNameFromTarget_iff (h : env.routed request = some (route, segment))
    (hend : route.template.getLast? = some .parameter)
    (hlast : request.target.segments.getLast? = some last) :
    (∀ id, request.target.captureNameFromTarget = some id → id = decodeSegment segment) ↔
      ¬ IsDotSegment last ∧ last ≠ "" := by
  obtain ⟨before, hsegments⟩ := List.getLast?_eq_some_iff.mp hlast
  have hfull : last ≠ "" → request.target.captureNameFromTarget = some (decodeSegment last) := by
    intro hne
    rw [Target.captureNameFromTarget, hsegments, map_append, filter_append]
    simp [hne]
  constructor
  · intro hread
    have hplain : ¬ IsDotSegment last := by
      intro hdot
      exact not_decode_eq h hdot (hread _ (hfull hdot.ne_empty))
    refine ⟨hplain, ?_⟩
    rintro rfl
    -- what is read is not empty, as there is a segment that is not, and what was routed is
    obtain ⟨final, -, -, hleads, hnode, -⟩ := exists_way_of_routed h
    obtain ⟨first, hmem, hapi⟩ := exists_api_segment hleads hnode
    have hfirst := mem_map_of_mem (f := decodeSegment) (fst_mem_of_mem_zipIdx hmem)
    have hfilter : (request.target.segments.map decodeSegment).filter (· ≠ "") ≠ [] :=
      ne_nil_of_mem (List.mem_filter.mpr ⟨hfirst, by simp [hapi]⟩)
    have hname := hread _ (getLast?_eq_some_getLast hfilter)
    have hnonempty := (List.mem_filter.mp (getLast_mem hfilter)).2
    rw [hname, ← eq_of_last h hend hlast hplain] at hnonempty
    revert hnonempty
    decide
  · rintro ⟨hplain, hne⟩ id hid
    rw [hfull hne] at hid
    cases hid
    rw [eq_of_last h hend hlast hplain]

theorem ItemRoute.read_iff (h : env.routed request = some (route, segment)) :
    (∀ id, route.read request.target = some id → id = decodeSegment segment) ↔
      route.Reads request.target segment := by
  obtain ⟨last, hlast⟩ := exists_last_of_routed h
  have hends : (∀ other, request.target.segments.getLast? = some other → ¬ IsDotSegment other) ↔
      ¬ IsDotSegment last := by
    simp [hlast]
  have hlength := length_template_le h
  cases route with
  | controllerSchedule | schedule => exact (lastPathSegment_iff h rfl hlast).trans hends.symm
  | auxSlot =>
    have hfour : 4 ≤ request.target.segments.length := hlength
    rw [read, Target.extractAuxId, if_pos hfour]
    exact (lastPathSegment_iff h rfl hlast).trans hends.symm
  | apiKey | session | user | userPassword | group =>
    exact placed_iff fun hplain => (eq_of_plain h hplain).2 2 rfl
  | promote =>
    have hfour : 4 ≤ request.target.segments.length := hlength
    rw [read, Target.uuidSegment, if_neg (by omega)]
    refine placed_iff fun hplain => ?_
    obtain ⟨hsame, hplace⟩ := eq_of_plain h hplain
    rw [hsame]
    exact hplace 2 rfl
  | button =>
    rw [read, Reads, extractButtonId_iff h hlast]
    simp [hlast]
  | capture =>
    rw [read, Reads, captureNameFromTarget_iff h rfl hlast]
    simp [hlast]

end

/-! ## Who may toggle -/

section

def holderOf (entitlement : Entitlement) : Subject where
  id := "user-1"
  authenticated := true
  provider := .localAccount
  groups := []
  entitlements := EntitlementSet.empty.add entitlement
  tokenVersion := 1

variable {resourceId segment : String}

theorem decide_holderOf {entitlement : Entitlement} {action : String}
    (hadmin : entitlement.action ≠ Vocabulary.systemAdmin) :
    PolicyEngine.decide (holderOf entitlement) action resourceId true = .permit ↔
      entitlement.matchesRequest action resourceId := by
  have hpermits : ∀ action resourceId,
      (holderOf entitlement).entitlements.permits action resourceId ↔
        entitlement.matchesRequest action resourceId := by
    intro action resourceId
    simp [EntitlementSet.permits_iff, holderOf]
  have hsystem : ¬ (holderOf entitlement).entitlements.permits Vocabulary.systemAdmin "" := by
    rw [hpermits, Entitlement.matchesRequest, if_pos hadmin]
    exact Bool.false_ne_true
  rw [PolicyEngine.decide, if_neg (by decide), if_neg hsystem, ← hpermits]
  split
  next hpermit => simp [hpermit]
  next hdeny => simp [hdeny]

theorem decide_systemAdmin (action resourceId : String) (authEnabled : Bool) :
    PolicyEngine.decide (holderOf Vocabulary.systemAdminEntitlement) action resourceId authEnabled =
      .permit := by
  rw [PolicyEngine.decide]
  split
  · rfl
  · rw [if_pos (by decide +kernel)]

theorem auxAction_valid : isValidActionPath "equipment.control.aux" := by decide

theorem nonEmpty_ne_empty (segment : String) :
    (if segment = "" then none else some segment) ≠ some "" := by
  split
  · simp
  · next hfull => simpa using hfull

def auxEntitlement (segment : String) : Entitlement where
  action := "equipment.control.aux"
  selector := if segment = "" then none else some segment
  action_valid := auxAction_valid
  selector_ne_empty := nonEmpty_ne_empty segment

theorem matchesRequest_auxEntitlement :
    (auxEntitlement segment).matchesRequest "equipment.control.aux" resourceId ↔
      segment = resourceId ∨ segment = "*" := by
  rw [Entitlement.matchesRequest, if_neg (by simp [auxEntitlement])]
  by_cases hempty : segment = ""
  · subst hempty
    have hselector : (auxEntitlement "").selector = none := rfl
    rw [hselector]
    constructor
    · intro hid
      exact .inl (String.isEmpty_iff.mp hid).symm
    · rintro (rfl | hwildcard)
      · rfl
      · exact absurd hwildcard (by decide)
  · have hselector : (auxEntitlement segment).selector = some segment := if_neg hempty
    rw [hselector]
    simp [or_comm]

theorem decide_auxEntitlement :
    PolicyEngine.decide (holderOf (auxEntitlement segment)) "equipment.control.aux" resourceId
        true = .permit ↔ segment = resourceId ∨ segment = "*" := by
  have hadmin : (auxEntitlement segment).action ≠ Vocabulary.systemAdmin := by
    show "equipment.control.aux" ≠ "system.admin"
    decide
  rw [decide_holderOf hadmin, matchesRequest_auxEntitlement]

end

/-! ## One request, one resource -/

namespace HttpEnv

variable {env : HttpEnv} {request : HttpRequest} {segment : String}

theorem exists_id_of_toggleByUuid {uuid : Uuid} (h : env.toggleByUuid request = some uuid) :
    env.poolConfigurationKnown ∧
      ∃ id, request.target.extractButtonId = some id ∧ stringGenerator id = some uuid := by
  rw [toggleByUuid] at h
  split at h
  next hknown =>
    obtain ⟨found, hfound, hdevice⟩ := Option.bind_eq_some_iff.mp h
    obtain ⟨id, hid, huuid⟩ := Option.bind_eq_some_iff.mp hfound
    split at hdevice
    next =>
      cases hdevice
      exact ⟨hknown, id, hid, huuid⟩
    next => cases hdevice
  next => cases h

theorem toggled_eq_some {subject : Subject} {uuid : Uuid} :
    env.toggled subject request = some uuid ↔
      request.verb = .post ∧ env.toggleByUuid request = some uuid ∧ ∃ segment,
        env.routed request = some (.button, segment) ∧
          env.evaluateAccess subject request .button segment = .permit := by
  rw [toggled]
  constructor
  · intro h
    split at h
    next segment hrouted =>
      split at h
      next hpermit => exact ⟨hpermit.1, h, segment, hrouted, hpermit.2⟩
      next => cases h
    next => cases h
  · rintro ⟨hpost, htoggle, segment, hrouted, hpermit⟩
    rw [hrouted]
    simp only [hpost, hpermit, and_self, if_true]
    exact htoggle

theorem evaluateAccess_post {subject : Subject} (hpost : request.verb = .post) :
    env.evaluateAccess subject request .button segment =
      PolicyEngine.decide subject "equipment.control.aux" segment env.authEnabled := by
  rw [evaluateAccess, hpost]
  rfl

/-- **One request, one resource**, whoever makes the request, if and only if it is unmistakable. -/
theorem oneResource_iff (env : HttpEnv) (request : HttpRequest) :
    (∀ subject, OneResource env subject request) ↔ Unmistakable env request := by
  constructor
  · intro hone
    have hacts : ∀ route segment, env.routed request = some (route, segment) →
        ∀ id, env.identifier request route = some id → id = decodeSegment segment := by
      intro route segment hrouted
      exact (hone (holderOf Vocabulary.systemAdminEntitlement)).acts route segment hrouted
        (decide_systemAdmin _ _ _)
    constructor
    · intro route segment hrouted hserves
      refine (ItemRoute.read_iff hrouted).mp fun id hid => hacts route segment hrouted id ?_
      rwa [identifier, if_pos hserves]
    · intro hauth hpost segment hrouted uuid htoggle
      -- whoever may control what is written in the path, and nothing else
      have hpermit : env.evaluateAccess (holderOf (auxEntitlement segment)) request .button
          segment = .permit := by
        rw [evaluateAccess_post hpost, hauth, decide_auxEntitlement]
        exact .inl rfl
      have hown := (hone (holderOf (auxEntitlement segment))).authorised hauth uuid
        (toggled_eq_some.mpr ⟨hpost, htoggle, segment, hrouted, hpermit⟩)
      refine (decide_auxEntitlement.mp hown).resolve_right ?_
      -- the wildcard is the identifier of no device
      rintro rfl
      obtain ⟨hknown, id, hid, huuid⟩ := exists_id_of_toggleByUuid htoggle
      have hread : env.identifier request .button = some id := by
        have hserves : ItemRoute.serves env .button request.verb := by
          rwa [hpost]
        rwa [identifier, if_pos hserves]
      rw [hacts .button "*" hrouted id hread] at huuid
      revert huuid
      rw [show stringGenerator (decodeSegment "*") = none by decide +kernel]
      exact nofun
  · intro hplain subject
    constructor
    · intro route segment hrouted _ id hid
      rw [identifier] at hid
      split at hid
      next hserves =>
        exact (ItemRoute.read_iff hrouted).mpr (hplain.reads route segment hrouted hserves) id hid
      next => cases hid
    · intro hauth uuid htoggled
      obtain ⟨hpost, htoggle, segment, hrouted, hpermit⟩ := toggled_eq_some.mp htoggled
      obtain rfl := hplain.canonical hauth hpost segment hrouted uuid htoggle
      rwa [evaluateAccess_post hpost, hauth] at hpermit

end HttpEnv

/-! ## Two users in one path -/

def allRoutes : List Route :=
  [.plain ["api", "auth", "check"], .plain ["api", "auth", "me"], .plain ["api", "auth", "login"],
    .plain ["api", "auth", "refresh"], .plain ["api", "auth", "logout"],
    .plain ["api", "auth", "setup"], .plain ["api", "auth", "pin"], .plain ["api", "kiosk"],
    .plain ["api", "users"], .item .user, .item .userPassword, .plain ["api", "groups"],
    .item .group, .plain ["api", "entitlements"], .plain ["api", "apikeys"], .item .apiKey,
    .plain ["api", "sessions"], .item .session,
    .plain ["api", "diagnostics", "emulated-devices"], .plain ["api", "diagnostics", "mqtt"],
    .plain ["api", "diagnostics", "matter"], .plain ["api", "diagnostics", "actual-devices"],
    .plain ["api", "diagnostics", "logging"], .plain ["api", "diagnostics", "options"],
    .plain ["api", "diagnostics", "profiling"], .plain ["api", "diagnostics", "recording"],
    .plain ["api", "diagnostics", "recording", "captures"], .item .capture,
    .plain ["api", "diagnostics", "aux-rediscovery"], .plain ["api", "equipment"],
    .item .button, .plain ["api", "equipment", "buttons"],
    .plain ["api", "equipment", "aux-slots"], .item .auxSlot,
    .plain ["api", "equipment", "chlorinator"], .plain ["api", "equipment", "iaq"],
    .plain ["api", "equipment", "heater"], .plain ["api", "equipment", "circulation"],
    .plain ["api", "equipment", "devices"], .plain ["api", "equipment", "setpoints"],
    .plain ["api", "equipment", "spaside-remotes"], .plain ["api", "equipment", "version"],
    .plain ["api", "health"], .plain ["api", "health", "detailed"],
    .plain ["api", "history", "series"], .plain ["metrics"], .plain ["api", "preferences"],
    .item .schedule, .plain ["api", "schedules"], .item .promote,
    .plain ["api", "controller", "schedules"], .item .controllerSchedule,
    .plain ["api", "version"]]

def poolServer : HttpEnv := ⟨allRoutes, ⟨[]⟩, true, true, true⟩

def detour : HttpRequest := ⟨.delete, { segments := ["api", "users", "alice", "..", "bob"] }⟩

/-- Bob is routed, and the handler deletes Alice. -/
theorem detour_not_oneResource :
    ¬ ∀ (env : HttpEnv) (subject : Subject) (request : HttpRequest),
      env.OneResource subject request := by
  intro hall
  have hrouted : poolServer.routed detour = some (.user, "bob") := by decide +kernel
  have hread : poolServer.identifier detour .user = some "alice" := by decide +kernel
  have hsame := (hall poolServer (holderOf Vocabulary.systemAdminEntitlement) detour).acts
    .user "bob" hrouted (decide_systemAdmin _ _ _) "alice" hread
  revert hsame
  decide +kernel

end AqualinkAutomate.Http
