import Aqualink.Mqtt.RetainedTopics

/-!
# The discovery config

One retained document tells Home Assistant the components of the installation.  A component that
was in it before and is not there any more is put into the next one as a tombstone, which has a
platform and nothing else, so that its entity is removed.

A process that has just connected does not know what is in the document on the broker.  It asks
for it and holds its own config back until the document has come, or until a grace period is
over (`seedPending`).  A change of the display units does not wait.

`noGhosts_iff` says in which runs no config goes out while the document is awaited and every
component that vanishes gets its tombstone.
-/

namespace AqualinkAutomate.Mqtt

open General List

/-! ## Components -/

/-- The components of a config, by their keys. -/
structure Components where
  fields : List (String × Json)
  nodup : (fields.map Prod.fst).Nodup

/-- What is left of a component that is to be removed. -/
def tombstone (platform : String) : Json := .object [("p", .string platform)]

def platforms (fields : List (String × Json)) : List (String × String) :=
  fields.filterMap fun field => (field.2.text? "p").map fun platform => (field.1, platform)

def componentAt (document : Json) (key : String) : Option Json :=
  (document.member "cmps").bind (Json.member key)

def retainedComponents (document : Json) : List (String × String) :=
  match document.member "cmps" with
  | some (.object fields) => platforms fields
  | _ => []

def withTombstones (published : List (String × String)) (components : Components) :
    List (String × Json) :=
  let gone := published.filter fun entry => entry.1 ∉ (platforms components.fields).map Prod.fst
  gone.foldl (fun fields entry => Json.setField entry.1 (tombstone entry.2) fields)
    components.fields

structure DiscoverySettings where
  availability : Json
  device : Json
  origin : Json
  seedGrace : ℕ := 3

def DiscoverySettings.configDocument (settings : DiscoverySettings)
    (components : List (String × Json)) : Json :=
  .object [("availability", settings.availability), ("cmps", .object components),
    ("dev", settings.device), ("o", settings.origin)]

/-! ## The process and the broker -/

structure SeedState where
  connected : Bool := false
  seedPending : Bool := false
  seedDeadline : ℕ := 0
  publishedComponentKeys : List (String × String) := []
  /-- What there is to be discovered now. -/
  components : Components
  /-- The configs that the client has not sent yet. -/
  queue : List Json := []
  /-- The document on the broker, a malformed one being `null`. -/
  retained : Option Json := none
  /-- The answer to the subscription that is still to come. -/
  awaited : Option Json := none
  /-- The configs that were handed to the client, and those that it has sent. -/
  published : List Json := []
  sent : List Json := []
  /-- The components of the documents found at a connect and of the configs published since. -/
  known : List String := []
  /-- The components of the documents found at a connect that were not adopted yet. -/
  unread : List String := []

namespace SeedState

section

variable (settings : DiscoverySettings) (writer : JsonWriter) (s : SeedState)

def config : Json :=
  settings.configDocument (withTombstones s.publishedComponentKeys s.components)

def liveKeys : List String := (platforms s.components.fields).map Prod.fst

/-- `PublishDiscoveryConfigs`.  A config that cannot be written changes nothing. -/
def publishDiscoveryConfigs : SeedState :=
  match writer.dump (s.config settings) with
  | none => s
  | some _ =>
    { s with
      queue := s.queue ++ [s.config settings]
      publishedComponentKeys := platforms s.components.fields
      published := s.published ++ [s.config settings]
      -- the tombstones are out, so that only what is live is known
      known := s.liveKeys
      unread := [] }

/-- The client sends what is waiting. -/
def flush : SeedState :=
  { s with
    queue := []
    retained := s.queue.getLast?.or s.retained
    sent := s.sent ++ s.queue }

/-- `AdoptRetainedComponents`: a key that is there already is kept. -/
def adoptRetainedComponents (document : Json) : SeedState :=
  { s with
    publishedComponentKeys := (retainedComponents document).foldl
      (insertAbsent fun existing added => existing.1 == added.1) s.publishedComponentKeys
    unread := s.unread.filter (· ∉ (retainedComponents document).map Prod.fst) }

def onConnected (now : ℕ) : SeedState :=
  let found := (s.retained.map retainedComponents).getD []
  flush { s with
    connected := true
    seedPending := true
    seedDeadline := now + settings.seedGrace
    awaited := s.retained
    known := s.known ++ found.map Prod.fst
    unread := s.unread ++ found.map Prod.fst }

end

end SeedState

inductive SeedEvent where
  | connected (now : ℕ)
  | disconnected
  | retainedDelivered
  | devicesPublished
  | displayUnitsChanged
  | poll (now : ℕ)
  | componentsChanged (components : Components)

namespace SeedState

section

variable (settings : DiscoverySettings) (writer : JsonWriter) (s : SeedState)

/-- What a step does before it publishes a config, and whether it does that. -/
def prepare : SeedEvent → SeedState × Bool
  | .connected now => (if s.connected then s else s.onConnected settings now, false)
  | .disconnected => ({ s with connected := false, awaited := none }, false)
  | .retainedDelivered =>
    match s.connected, s.awaited with
    | true, some document =>
      if s.seedPending then
        ({ s.adoptRetainedComponents document with
            seedPending := false, awaited := none }, true)
      else ({ s with awaited := none }, false)
    | _, _ => (s, false)
  -- the devices are published while the client is connected only
  | .devicesPublished => (s, s.connected && !s.seedPending)
  | .displayUnitsChanged => (s, true)
  | .poll now =>
    -- the client sends before the deadline of the seeding is looked at
    let s := if s.connected then s.flush else s
    if s.seedPending ∧ s.seedDeadline ≤ now then ({ s with seedPending := false }, true)
    else (s, false)
  | .componentsChanged components => ({ s with components := components }, false)

def step (event : SeedEvent) : SeedState :=
  let (s, publishes) := s.prepare settings event
  if publishes then s.publishDiscoveryConfigs settings writer else s

/-- Nothing is published or sent while the document is awaited, and what has vanished gets its
tombstone in the first config after that. -/
structure NoGhosts (settings : DiscoverySettings) (writer : JsonWriter) (s : SeedState)
    (event : SeedEvent) : Prop where
  quiet : (s.step settings writer event).published ≠ s.published ∨
      (s.step settings writer event).sent ≠ s.sent →
    (s.step settings writer event).seedPending = false
  buried : ∀ document, (s.step settings writer event).published = s.published ++ [document] →
    ∀ key ∈ s.known, key ∉ s.liveKeys →
      ∃ platform, componentAt document key = some (tombstone platform)

/-- The display units do not change during the seeding, every component that was found on the
broker is read or still there when a config is published, and no config waits for a connection. -/
structure Orderly (settings : DiscoverySettings) (writer : JsonWriter) (s : SeedState)
    (event : SeedEvent) : Prop where
  changes : event = .displayUnitsChanged → writer.dump (s.config settings) ≠ none →
    s.seedPending = false
  publishes : (s.prepare settings event).2 →
    writer.dump ((s.prepare settings event).1.config settings) ≠ none →
      ∀ key ∈ (s.prepare settings event).1.unread, key ∈ s.liveKeys ∨
        key ∈ (s.prepare settings event).1.publishedComponentKeys.map Prod.fst
  connects : ∀ now, event = .connected now → s.connected = false → s.queue = []

end

end SeedState

/-! ## Tombstones -/

section

variable {published : List (String × String)} {components : Components} {key : String}

theorem member_foldl_tombstone {gone : List (String × String)} {fields : List (String × Json)} :
    (key ∈ gone.map Prod.fst → ∃ platform, (Json.object (gone.foldl (fun fields entry =>
        Json.setField entry.1 (tombstone entry.2) fields) fields)).member key =
          some (tombstone platform)) ∧
    (key ∉ gone.map Prod.fst →
      (Json.object (gone.foldl (fun fields entry =>
        Json.setField entry.1 (tombstone entry.2) fields) fields)).member key =
          (Json.object fields).member key) := by
  induction gone generalizing fields with
  | nil => simp
  | cons entry gone ih =>
    obtain ⟨hburied, hkept⟩ := @ih (Json.setField entry.1 (tombstone entry.2) fields)
    constructor
    · intro hkey
      by_cases hlater : key ∈ gone.map Prod.fst
      · exact hburied hlater
      · obtain rfl : key = entry.1 := by
          rw [map_cons, mem_cons] at hkey
          exact hkey.resolve_right hlater
        exact ⟨entry.2, (hkept hlater).trans (Json.member_setField_self _ _ _)⟩
    · intro hkey
      rw [map_cons, mem_cons, not_or] at hkey
      exact (hkept hkey.2).trans (Json.member_setField_of_ne hkey.1 _ _)

theorem exists_tombstone (hpublished : key ∈ published.map Prod.fst)
    (hgone : key ∉ (platforms components.fields).map Prod.fst) :
    ∃ platform, (Json.object (withTombstones published components)).member key =
      some (tombstone platform) := by
  refine member_foldl_tombstone.1 ?_
  obtain ⟨entry, hentry, rfl⟩ := List.mem_map.mp hpublished
  exact mem_map_of_mem (List.mem_filter.mpr ⟨hentry, decide_eq_true hgone⟩)

theorem of_tombstone {platform : String}
    (h : (Json.object (withTombstones published components)).member key =
      some (tombstone platform)) :
    key ∈ published.map Prod.fst ∨ key ∈ (platforms components.fields).map Prod.fst := by
  by_cases hpublished : key ∈ published.map Prod.fst
  · exact .inl hpublished
  · rw [withTombstones, member_foldl_tombstone.2] at h
    · -- what has the form of a tombstone has a platform
      obtain ⟨field, hfield, hvalue⟩ := Option.map_eq_some_iff.mp h
      refine .inr (List.mem_map.mpr ⟨(field.1, platform), List.mem_filterMap.mpr
        ⟨field, mem_of_find?_eq_some hfield, ?_⟩, by simpa using find?_some hfield⟩)
      rw [hvalue]
      rfl
    · intro hgone
      obtain ⟨entry, hentry, rfl⟩ := List.mem_map.mp hgone
      exact hpublished (mem_map_of_mem (List.mem_filter.mp hentry).1)

theorem componentAt_configDocument (settings : DiscoverySettings)
    (components : List (String × Json)) (key : String) :
    componentAt (settings.configDocument components) key = (Json.object components).member key := by
  simp [componentAt, DiscoverySettings.configDocument]

end

/-! ## One step -/

namespace SeedState

section

variable {settings : DiscoverySettings} {writer : JsonWriter} {s : SeedState} {event : SeedEvent}

/-- The process has read what it knows of, but for what it still has to read, and while the
document is awaited the client has no config to send. -/
structure Seeding (s : SeedState) : Prop where
  waiting : s.seedPending → s.queue = []
  read : ∀ key ∈ s.known, key ∈ s.publishedComponentKeys.map Prod.fst ∨ key ∈ s.unread
  unread : ∀ key ∈ s.unread, key ∈ s.known

@[simp] theorem sent_publishDiscoveryConfigs :
    (s.publishDiscoveryConfigs settings writer).sent = s.sent := by
  rw [publishDiscoveryConfigs]
  split <;> rfl

@[simp] theorem seedPending_publishDiscoveryConfigs :
    (s.publishDiscoveryConfigs settings writer).seedPending = s.seedPending := by
  rw [publishDiscoveryConfigs]
  split <;> rfl

theorem sent_step : (s.step settings writer event).sent = (s.prepare settings event).1.sent := by
  rw [step]
  dsimp only
  split
  · exact sent_publishDiscoveryConfigs
  · rfl

theorem seedPending_step :
    (s.step settings writer event).seedPending = (s.prepare settings event).1.seedPending := by
  rw [step]
  dsimp only
  split
  · exact seedPending_publishDiscoveryConfigs
  · rfl

theorem published_prepare : (s.prepare settings event).1.published = s.published := by
  cases event with
  | connected now =>
    simp only [prepare]
    split <;> rfl
  | retainedDelivered =>
    simp only [prepare]
    split
    · split <;> rfl
    · rfl
  | poll now =>
    simp only [prepare]
    split <;> split <;> rfl
  | _ => rfl

theorem published_step :
    (s.step settings writer event).published =
      if (s.prepare settings event).2 ∧
          writer.dump ((s.prepare settings event).1.config settings) ≠ none then
        s.published ++ [(s.prepare settings event).1.config settings]
      else s.published := by
  rw [step]
  dsimp only
  split
  next hpublishes =>
    rw [publishDiscoveryConfigs]
    split
    next hdump => rw [published_prepare, if_neg (fun h => h.2 hdump)]
    next hdump => rw [published_prepare, if_pos ⟨hpublishes, by simp [hdump]⟩]
  next hquiet => rw [published_prepare, if_neg (fun h => hquiet h.1)]

theorem mem_adopted_iff (document : Json) (key : String) :
    key ∈ (s.adoptRetainedComponents document).publishedComponentKeys.map Prod.fst ↔
      key ∈ s.publishedComponentKeys.map Prod.fst ∨
        key ∈ (retainedComponents document).map Prod.fst :=
  mem_map_foldl_insertAbsent Prod.fst key

theorem Seeding.flush (h : Seeding s) : Seeding s.flush :=
  ⟨fun _ => rfl, h.read, h.unread⟩

theorem Seeding.onConnected (h : Seeding s) (now : ℕ) : Seeding (s.onConnected settings now) := by
  refine ⟨fun _ => rfl, fun key hknown => ?_, fun key hunread => ?_⟩
  · obtain hknown | hfound := List.mem_append.mp hknown
    · exact (h.read key hknown).imp_right fun hunread => mem_append_left _ hunread
    · exact .inr (mem_append_right _ hfound)
  · obtain hunread | hfound := List.mem_append.mp hunread
    · exact mem_append_left _ (h.unread key hunread)
    · exact mem_append_right _ hfound

theorem Seeding.adoptRetainedComponents (h : Seeding s) (document : Json) :
    Seeding (s.adoptRetainedComponents document) := by
  refine ⟨h.waiting, fun key hknown => ?_, fun key hunread => ?_⟩
  · obtain hread | hunread := h.read key hknown
    · exact .inl ((mem_adopted_iff document key).mpr (.inl hread))
    -- what the document does not have is still to be read
    · by_cases hfound : key ∈ (retainedComponents document).map Prod.fst
      · exact .inl ((mem_adopted_iff document key).mpr (.inr hfound))
      · exact .inr (List.mem_filter.mpr ⟨hunread, decide_eq_true hfound⟩)
  · exact h.unread key (List.mem_filter.mp hunread).1

theorem Seeding.endSeed (h : Seeding s) : Seeding { s with seedPending := false } :=
  ⟨nofun, h.read, h.unread⟩

theorem Seeding.prepare (h : Seeding s) : Seeding (s.prepare settings event).1 := by
  cases event with
  | connected now =>
    simp only [SeedState.prepare]
    split
    · exact h
    · exact h.onConnected now
  | retainedDelivered =>
    simp only [SeedState.prepare]
    split
    next document _ _ =>
      split
      · have hread := (h.adoptRetainedComponents document).endSeed
        exact ⟨hread.waiting, hread.read, hread.unread⟩
      · exact ⟨h.waiting, h.read, h.unread⟩
    next => exact h
  | poll now =>
    have hflushed : Seeding (if s.connected then s.flush else s) := by
      split
      · exact h.flush
      · exact h
    simp only [SeedState.prepare]
    split
    · split
      · exact h.flush.endSeed
      · exact h.flush
    · split
      · exact h.endSeed
      · exact h
  | devicesPublished | displayUnitsChanged => exact h
  | disconnected | componentsChanged components => exact ⟨h.waiting, h.read, h.unread⟩

theorem prepare_publishes (hpublishes : (s.prepare settings event).2) :
    (s.prepare settings event).1.components = s.components ∧
      (s.prepare settings event).1.known = s.known := by
  cases event with
  | connected now => cases hpublishes
  | disconnected => cases hpublishes
  | componentsChanged components => cases hpublishes
  | devicesPublished | displayUnitsChanged => exact ⟨rfl, rfl⟩
  | retainedDelivered =>
    simp only [prepare]
    split
    · split <;> exact ⟨rfl, rfl⟩
    · exact ⟨rfl, rfl⟩
  | poll now =>
    simp only [prepare]
    split <;> split <;> exact ⟨rfl, rfl⟩

/-- Only a change of the display units does not look whether the seeding is over. -/
theorem Orderly.over (h : Orderly settings writer s event)
    (hpublishes : (s.prepare settings event).2)
    (hwritable : writer.dump ((s.prepare settings event).1.config settings) ≠ none) :
    (s.prepare settings event).1.seedPending = false := by
  cases event with
  | connected now => cases hpublishes
  | disconnected => cases hpublishes
  | componentsChanged components => cases hpublishes
  | devicesPublished => exact (by simpa [prepare] using hpublishes : _ ∧ _).2
  | displayUnitsChanged => exact h.changes rfl hwritable
  | retainedDelivered =>
    simp only [prepare] at hpublishes ⊢
    split at hpublishes
    · split_ifs at hpublishes ⊢
      rfl
    · cases hpublishes
  | poll now =>
    simp only [prepare] at hpublishes ⊢
    split_ifs at hpublishes ⊢ <;> rfl

theorem Seeding.sent_prepare (h : Seeding s) (hsent : (s.prepare settings event).1.sent ≠ s.sent) :
    (s.prepare settings event).1.seedPending = false ∨
      ∃ now, event = .connected now ∧ s.connected = false ∧ s.queue ≠ [] := by
  have hflush : s.flush.sent ≠ s.sent → s.queue ≠ [] := by
    intro hflushed hempty
    exact hflushed (by rw [SeedState.flush, hempty, append_nil])
  cases event with
  | connected now =>
    simp only [SeedState.prepare] at hsent ⊢
    split at hsent
    next => exact absurd rfl hsent
    next hoff =>
      exact .inr ⟨now, rfl, by simpa using hoff, hflush hsent⟩
  | poll now =>
    have hpending : s.seedPending = false := by
      by_contra hpending
      -- while the document is awaited nothing waits to be sent
      have hempty := h.waiting (by simpa using hpending)
      refine hsent ?_
      simp only [SeedState.prepare, SeedState.flush, hempty, append_nil]
      split <;> split <;> rfl
    refine .inl ?_
    simp only [SeedState.prepare]
    split <;> split
    all_goals first | rfl | exact hpending
  | retainedDelivered =>
    refine absurd ?_ hsent
    simp only [SeedState.prepare]
    split
    · split <;> rfl
    · rfl
  | _ => exact absurd rfl hsent

/-- A step that makes no ghosts publishes no key that is unread and not live, and connects to an
empty queue. -/
theorem Seeding.orderly_of_noGhosts (h : Seeding s)
    (hnoGhosts : NoGhosts settings writer s event) : Orderly settings writer s event := by
  have hpublished : (s.prepare settings event).2 →
      writer.dump ((s.prepare settings event).1.config settings) ≠ none →
        (s.step settings writer event).published =
          s.published ++ [(s.prepare settings event).1.config settings] :=
    fun hpublishes hwritable => by rw [published_step, if_pos ⟨hpublishes, hwritable⟩]
  refine ⟨?_, fun hpublishes hwritable key hkey => ?_, ?_⟩
  · rintro rfl hwritable
    have hpending := hnoGhosts.quiet (.inl (by rw [hpublished rfl hwritable]; simp))
    rwa [seedPending_step] at hpending
  · obtain ⟨hcomponents, hknown⟩ := prepare_publishes hpublishes
    by_cases hlive : key ∈ s.liveKeys
    · exact .inl hlive
    · obtain ⟨platform, htombstone⟩ := hnoGhosts.buried _ (hpublished hpublishes hwritable) key
        (hknown ▸ h.prepare.unread key hkey) hlive
      rw [config, componentAt_configDocument] at htombstone
      refine .inr ((of_tombstone htombstone).resolve_right ?_)
      rwa [hcomponents]
  · rintro now rfl hoff
    by_contra hwaiting
    have hsent : (s.step settings writer (.connected now)).sent ≠ s.sent := by
      rw [sent_step]
      simp only [SeedState.prepare, hoff, Bool.false_eq_true, if_false,
        SeedState.onConnected, SeedState.flush]
      simpa using hwaiting
    have hpending := hnoGhosts.quiet (.inr hsent)
    rw [seedPending_step] at hpending
    simp only [SeedState.prepare, hoff, Bool.false_eq_true, if_false,
        SeedState.onConnected, SeedState.flush] at hpending
    cases hpending

theorem Seeding.noGhosts_of_orderly (h : Seeding s)
    (horderly : Orderly settings writer s event) : NoGhosts settings writer s event := by
  constructor
  · rintro (hpublished | hsent)
    · rw [published_step] at hpublished
      split at hpublished
      next hboth =>
        rw [seedPending_step]
        exact horderly.over hboth.1 hboth.2
      next => exact absurd rfl hpublished
    · rw [sent_step] at hsent
      rw [seedPending_step]
      obtain hover | ⟨now, hevent, hoff, hwaiting⟩ := h.sent_prepare hsent
      · exact hover
      · exact absurd (horderly.connects now hevent hoff) hwaiting
  · intro document hdocument key hknown hgone
    rw [published_step] at hdocument
    split at hdocument
    next hboth =>
      obtain rfl : (s.prepare settings event).1.config settings = document := by
        simpa using hdocument
      obtain ⟨hcomponents, hsame⟩ := prepare_publishes hboth.1
      rw [config, componentAt_configDocument]
      refine exists_tombstone ?_ (by rwa [hcomponents])
      obtain hpublished | hunread := h.prepare.read key (hsame ▸ hknown)
      · exact hpublished
      · exact (horderly.publishes hboth.1 hboth.2 key hunread).resolve_left hgone
    next =>
      have hlength := congrArg List.length hdocument
      simp at hlength

theorem Seeding.noGhosts_step_iff (h : Seeding s) :
    NoGhosts settings writer s event ↔ Orderly settings writer s event :=
  ⟨h.orderly_of_noGhosts, h.noGhosts_of_orderly⟩

theorem Seeding.step (h : Seeding s) (horderly : Orderly settings writer s event) :
    Seeding (s.step settings writer event) := by
  have hprepared : Seeding (s.prepare settings event).1 := h.prepare
  rw [SeedState.step]
  dsimp only
  split
  next hpublishes =>
    rw [publishDiscoveryConfigs]
    split
    next hdump => exact hprepared
    next hdump =>
      have hwritable : writer.dump ((s.prepare settings event).1.config settings) ≠ none := by
        simp [hdump]
      have hover := horderly.over hpublishes hwritable
      refine ⟨fun hpending => ?_, fun key hknown => .inl hknown, fun key hunread => ?_⟩
      · rw [hover] at hpending
        cases hpending
      · cases hunread
  next => exact hprepared

end

end SeedState

/-- **No ghosts** in a run if and only if all its steps are orderly. -/
theorem noGhosts_iff (settings : DiscoverySettings) (writer : JsonWriter)
    (components : Components) (retained : Option Json) (events : List SeedEvent) :
    EachStep (SeedState.step settings writer) (SeedState.NoGhosts settings writer)
        { components := components, retained := retained } events ↔
      EachStep (SeedState.step settings writer) (SeedState.Orderly settings writer)
        { components := components, retained := retained } events := by
  have hstart : SeedState.Seeding { components := components, retained := retained } :=
    { waiting := fun _ => rfl
      read := nofun
      unread := nofun }
  refine eachStep_congr_of_step (Q := SeedState.Seeding) ?_ ?_ hstart
  · intro s event h hstep
    exact h.step (h.noGhosts_step_iff.mp hstep)
  · intro s event h
    exact h.noGhosts_step_iff

/-! ## A change of the display units -/

def noComponents : Components := ⟨[], nodup_nil⟩

def earlyChange : List SeedEvent := [.connected 0, .displayUnitsChanged]

/-- The document that is published then overwrites the one that is awaited. -/
theorem earlyChange_ghosts :
    ¬ ∀ (settings : DiscoverySettings) (writer : JsonWriter) (components : Components)
      (retained : Option Json) (events : List SeedEvent),
      EachStep (SeedState.step settings writer) (SeedState.NoGhosts settings writer)
        { components := components, retained := retained } events := by
  intro hall
  obtain ⟨-, hchange, -⟩ := hall ⟨.null, .null, .null, 3⟩ plainWriter noComponents
    (some (.object [("cmps", .object [("sensor_1", .object [("p", .string "sensor")])])]))
    earlyChange
  have hover := hchange.quiet (.inl fun hsame => by
    have hlength := congrArg List.length hsame
    revert hlength
    decide +kernel)
  revert hover
  decide +kernel

end AqualinkAutomate.Mqtt
