import Aqualink.General.Runs
import Aqualink.General.Texts

/-!
# Which addresses are emulated

The start-up emulates a serial adapter, listens to what the master addresses, and then emulates
the controller that the master looks for, at an address where no device has acknowledged a probe.  A
serial adapter that meets a real one moves to the other address of its class.

Whatever is heard in whatever order, an address is emulated once, no device had acknowledged a probe
there, and there is at most one controller, of a kind that is looked for and that the revision of
the panel permits (`emulates_apart`).  With the fifth tick the start-up is over
(`running_of_ticks`).
-/

namespace AqualinkAutomate.Jandy

open General List

inductive EmulatedDeviceTypes where
  | rsKeypad | oneTouch | iaq | pda | serialAdapter | spasideRemote
  deriving DecidableEq

/-! ## The planner -/

/-- `ParseRevisionLetter`: the first letter, behind a leading "REV". -/
def parseRevisionLetter (revision : List Char) : Option Char :=
  let upper := (revision.map Char.toUpper).dropWhile isWhitespace
  (if ['R', 'E', 'V'].isPrefixOf upper then upper.drop 3 else upper).find? Char.isAlpha

def minRevisionForEmulatedType : EmulatedDeviceTypes → Option Char
  | .serialAdapter | .oneTouch => some 'I'
  | .iaq => some 'Q'
  | .spasideRemote => some 'G'
  | .rsKeypad => some 'C'
  | .pda => none

/-- A type is only ruled out by a revision that is known. -/
def revisionGatesOutEmulation (revision : Option Char) (type : EmulatedDeviceTypes) : Bool :=
  match revision, minRevisionForEmulatedType type with
  | some letter, some min => letter < min
  | _, _ => false

/-- What is known of the panel. -/
structure PanelProfile where
  probesAqualinktouch : Bool
  probesOnetouch : Bool
  probesPda : Bool
  /-- `none` unless `is_known` -/
  revisionLetter : Option Char

def PanelProfile.aqualinkTouch (profile : PanelProfile) : Bool :=
  profile.revisionLetter.any ('Q' ≤ ·)

def anyInRange (ids : List UInt8) (lo hi : UInt8) : Bool :=
  ids.any fun id => lo ≤ id && id ≤ hi

def deriveProfile (probed : List UInt8) (revision : List Char) : PanelProfile where
  probesAqualinktouch := anyInRange probed 0x30 0x33
  probesOnetouch := anyInRange probed 0x40 0x43
  probesPda := anyInRange probed 0x60 0x63
  revisionLetter := parseRevisionLetter revision

structure PlannedDevice where
  type : EmulatedDeviceTypes
  candidateIds : List UInt8
  /-- `none` unless `resolved` -/
  selectedId : Option UInt8 := none

/-- The fourth OneTouch is the place of an AquaLink PC. -/
def candidateIds : EmulatedDeviceTypes → List UInt8
  | .iaq => [0x33, 0x32, 0x31, 0x30]
  | .oneTouch => [0x41, 0x40, 0x42]
  | .pda => [0x60, 0x61, 0x62, 0x63]
  | .serialAdapter => [0x48, 0x49]
  | .rsKeypad | .spasideRemote => []

def planned (profile : PanelProfile) (type : EmulatedDeviceTypes) : Option PlannedDevice :=
  if revisionGatesOutEmulation profile.revisionLetter type then none
  else some { type, candidateIds := candidateIds type }

def selectControllerEmulation (profile : PanelProfile) : Option PlannedDevice :=
  let noControllerProbed :=
    !profile.probesAqualinktouch && !profile.probesOnetouch && !profile.probesPda
  if profile.probesAqualinktouch || (noControllerProbed && profile.aqualinkTouch) then
    planned profile .iaq
  else if profile.probesOnetouch then
    planned profile .oneTouch
  else if profile.probesPda then
    some { type := .pda, candidateIds := candidateIds .pda }
  else none

/-- A serial adapter, where the revision has one, and at most one controller. -/
def plan (profile : PanelProfile) : List PlannedDevice :=
  (planned profile .serialAdapter).toList ++
    (selectControllerEmulation profile).toList

/-- The first candidate that no device has answered at. -/
def selectFreeAddress (candidates occupied : List UInt8) : Option UInt8 :=
  candidates.find? fun id => !occupied.contains id

/-- An address that is selected is taken for the devices behind. -/
def resolveAddresses : List PlannedDevice → List UInt8 → List PlannedDevice
  | [], _ => []
  | device :: devices, taken =>
    let selectedId := selectFreeAddress device.candidateIds taken
    { device with selectedId } :: resolveAddresses devices (selectedId.toList ++ taken)

/-! ## The start-up -/

/-- The addresses of each class of devices. -/
def knownDeviceIdsList : List (List UInt8) :=
  [[0x00, 0x01, 0x02, 0x03], [0x08, 0x09, 0x0a, 0x0b], [0x10, 0x11, 0x12, 0x13],
    [0x20, 0x21, 0x22, 0x23], [0x40, 0x41, 0x42, 0x43], [0x38, 0x39, 0x3a, 0x3b],
    [0x30, 0x31, 0x32, 0x33], [0xa0, 0xa1, 0xa2, 0xa3], [0x48, 0x49], [0x68, 0x69, 0x6a, 0x6b],
    [0x70, 0x71, 0x72, 0x73], [0x50, 0x51, 0x52, 0x53], [0x58, 0x59, 0x5a, 0x5b],
    [0x60, 0x61, 0x62, 0x63], [0x28, 0x29, 0x2a, 0x2b], [0x78, 0x79, 0x7a, 0x7b],
    [0x80, 0x81, 0x82, 0x83], [0x84, 0x85, 0x86, 0x87], [0xe0, 0xe1, 0xe2, 0xe3],
    [0xf0, 0xf1, 0xf2, 0xf3, 0xf4], [0xff]]

def instanceAddressesForClassOf (id : UInt8) : List UInt8 :=
  (knownDeviceIdsList.find? fun ids => ids.contains id).getD [0xff]

inductive StartupPhase where
  | idle | detecting | engaging | running
  deriving DecidableEq

/-- The environment, the coordinator and the service. -/
structure Startup where
  probedIds : List UInt8 := []
  respondedIds : List UInt8 := []
  lastProbedId : UInt8 := 0x00
  /-- In the order in which they were put up -/
  emulations : List (EmulatedDeviceTypes × UInt8) := []
  suppressedIds : List UInt8 := []
  panelRevision : List Char := []
  phase : StartupPhase := .idle
  ticksElapsed : ℕ := 0

inductive MessageKind where
  | probe | iaqPoll | status | ack | other
  deriving DecidableEq

inductive StartupEvent where
  | message (kind : MessageKind) (destination : UInt8)
  | identified (panelRevision : List Char)
  | timer
  /-- An emulated serial adapter hears of a real one at its address. -/
  | collision (id : UInt8)
  deriving DecidableEq

namespace Startup

variable (s : Startup)

/-- Ids that are asked are noted; an answer to the master comes from the id probed last. -/
def observe (kind : MessageKind) (destination : UInt8) : Startup :=
  { s with
    probedIds :=
      if kind ∈ [.probe, .iaqPoll, .status] then destination :: s.probedIds else s.probedIds
    lastProbedId := if kind = .probe then destination else s.lastProbedId
    respondedIds :=
      if kind = .ack ∧ destination = 0x00 ∧ s.lastProbedId ≠ 0x00 then
        s.lastProbedId :: s.respondedIds
      else s.respondedIds }

def emulatedIds : List UInt8 := s.emulations.map Prod.snd

def occupiedAddresses : List UInt8 := s.respondedIds.filter fun id => !s.emulatedIds.contains id

/-- Where an emulation moves that meets a device at its address. -/
def relocateEmulation (collidingId : UInt8) : Option UInt8 :=
  selectFreeAddress (instanceAddressesForClassOf collidingId)
    (s.emulatedIds ++ collidingId :: s.occupiedAddresses)

/-- The emulation at the address is put up once more where it can move, and is silent then. -/
def handleEmulationCollision (id : UInt8) : Startup :=
  if (.serialAdapter, id) ∈ s.emulations ∧ id ∉ s.suppressedIds then
    { s with
      emulations := s.emulations ++
        ((s.relocateEmulation id).map (Prod.mk .serialAdapter)).toList
      suppressedIds := id :: s.suppressedIds }
  else s

def profile : PanelProfile := deriveProfile s.probedIds s.panelRevision

def haveControllerSignal : Bool :=
  s.profile.probesAqualinktouch || s.profile.probesOnetouch || s.profile.probesPda ||
    s.profile.aqualinkTouch

/-- What `Advance` puts up of a plan; the serial adapter is there already. -/
def engaged (device : PlannedDevice) : Option (EmulatedDeviceTypes × UInt8) :=
  if device.type = .serialAdapter then none else device.selectedId.map (Prod.mk device.type)

/-- A plan is carried out as soon as it is there. -/
def advance (detectionWindowElapsed : Bool) : Startup :=
  if s.phase ≠ .detecting ∨ (!s.haveControllerSignal && !detectionWindowElapsed) then s
  else
    { s with
      phase := .running
      emulations := s.emulations ++
        (resolveAddresses (plan s.profile) s.occupiedAddresses).filterMap engaged }

def countTick : Startup := { s with ticksElapsed := s.ticksElapsed + 1 }

/-- The fifth tick ends the detection. -/
def tick : Startup := s.countTick.advance (5 ≤ s.countTick.ticksElapsed)

/-- `Begin`.  The first tick follows at once. -/
def begin (panelRevision : List Char) : Startup :=
  { panelRevision, phase := .detecting, emulations := [(.serialAdapter, 0x48)] }

def step (s : Startup) : StartupEvent → Startup
  | .message kind destination => s.observe kind destination
  | .identified panelRevision => { s with panelRevision }
  | .timer => s.tick
  | .collision id => s.handleEmulationCollision id

/-! ## What is put up -/

/-- The master addresses devices of the kind, or the panel has pages for it. -/
def Seeks : EmulatedDeviceTypes → Prop
  | .iaq => s.profile.probesAqualinktouch ∨ s.profile.aqualinkTouch
  | .oneTouch => s.profile.probesOnetouch ∧ ¬ s.profile.probesAqualinktouch
  | .pda => s.profile.probesPda ∧ ¬ s.profile.probesOnetouch ∧ ¬ s.profile.probesAqualinktouch
  | _ => False

/-- The emulation can be put up. -/
structure Permits (entry : EmulatedDeviceTypes × UInt8) : Prop where
  mem_candidateIds : entry.2 ∈ candidateIds entry.1
  not_emulated : entry.2 ∉ s.emulatedIds
  not_responded : entry.2 ∉ s.respondedIds
  controller : entry.1 ≠ .serialAdapter → s.phase = .detecting ∧ s.Seeks entry.1 ∧
    revisionGatesOutEmulation s.profile.revisionLetter entry.1 = false

/-- Every address is one of its type and used once, there is at most one controller, and the
start-up listens for less than five ticks. -/
structure Apart : Prop where
  nodup : s.emulatedIds.Nodup
  mem_candidateIds : ∀ entry ∈ s.emulations, entry.2 ∈ candidateIds entry.1
  controllers : (s.emulations.filter fun entry => entry.1 ≠ .serialAdapter).length ≤ 1
  adapters : s.phase = .detecting → ∀ entry ∈ s.emulations, entry.1 = .serialAdapter
  window : s.phase = .detecting → s.ticksElapsed < 5

variable {s} {type : EmulatedDeviceTypes} {id : UInt8}

theorem selectFreeAddress_spec {candidates occupied : List UInt8}
    (h : selectFreeAddress candidates occupied = some id) : id ∈ candidates ∧ id ∉ occupied := by
  have hfree := find?_some h
  exact ⟨mem_of_find?_eq_some h, by simpa using hfree⟩

theorem selectControllerEmulation_spec {device : PlannedDevice}
    (h : selectControllerEmulation s.profile = some device) :
    device.type ≠ .serialAdapter ∧ device.candidateIds = candidateIds device.type ∧
      s.Seeks device.type ∧
      revisionGatesOutEmulation s.profile.revisionLetter device.type = false := by
  simp only [selectControllerEmulation, planned] at h
  have hpda : revisionGatesOutEmulation s.profile.revisionLetter .pda = false := by
    cases s.profile.revisionLetter <;> rfl
  split_ifs at h <;> cases h <;> grind [Seeks]

/-- Of the devices of a plan only the controller is put up. -/
theorem engaged_plan (occupied : List UInt8) :
    (resolveAddresses (plan s.profile) occupied).filterMap engaged = [] ∨
      ∃ device id, selectControllerEmulation s.profile = some device ∧
        id ∈ device.candidateIds ∧ id ∉ occupied ∧
        (resolveAddresses (plan s.profile) occupied).filterMap engaged = [(device.type, id)] := by
  obtain ⟨taken, htaken, hskip⟩ : ∃ taken, (∀ id ∈ occupied, id ∈ taken) ∧
      (resolveAddresses (plan s.profile) occupied).filterMap engaged =
        (resolveAddresses (selectControllerEmulation s.profile).toList
          taken).filterMap engaged := by
    rw [plan, planned]
    split_ifs
    · exact ⟨occupied, fun _ h => h, rfl⟩
    · exact ⟨_, fun id => mem_append_right _, rfl⟩
  rw [hskip]
  cases hdevice : selectControllerEmulation s.profile with
  | none => exact .inl rfl
  | some device =>
    have hcontroller := (selectControllerEmulation_spec hdevice).1
    cases hid : selectFreeAddress device.candidateIds taken with
    | none => simp [resolveAddresses, engaged, hid]
    | some id =>
      obtain ⟨hmem, hfree⟩ := selectFreeAddress_spec hid
      refine .inr ⟨device, id, rfl, hmem, fun h => hfree (htaken id h), ?_⟩
      simp [resolveAddresses, engaged, hid, hcontroller]

theorem not_mem_adapters (h : type ≠ .serialAdapter) :
    ∀ id ∈ candidateIds type, id ∉ candidateIds .serialAdapter := by
  cases type <;> first | exact absurd rfl h | simp [candidateIds]

theorem instanceAddressesForClassOf_adapter : ∀ id ∈ candidateIds .serialAdapter,
    instanceAddressesForClassOf id = candidateIds .serialAdapter :=
  List.forall_mem_cons.mpr ⟨rfl, List.forall_mem_singleton.mpr rfl⟩

/-- A step puts up one emulation at most. -/
theorem emulations_step (h : s.Apart) (event : StartupEvent) :
    (s.step event).emulations = s.emulations ∨
      ∃ entry, s.Permits entry ∧ (s.step event).emulations = s.emulations ++ [entry] ∧
        (entry.1 = .serialAdapter ∨ (s.step event).phase = .running) := by
  have hfree : ∀ id ∉ s.occupiedAddresses, id ∉ s.emulatedIds → id ∉ s.respondedIds :=
    fun id hid hnew hresponded => hid (List.mem_filter.mpr ⟨hresponded, by simpa using hnew⟩)
  cases event with
  | message kind destination => exact .inl rfl
  | identified panelRevision => exact .inl rfl
  | timer =>
    rw [step, tick, advance]
    split_ifs with hwaits
    · exact .inl rfl
    · obtain hnone | ⟨device, id, hdevice, hid, hoccupied, hput⟩ :=
        s.countTick.engaged_plan s.countTick.occupiedAddresses
      · rw [hnone]
        exact .inl (append_nil _)
      · have hphase : s.phase = .detecting := not_not.mp fun h => hwaits (.inl h)
        obtain ⟨htype, hids, hseeks, hgate⟩ := selectControllerEmulation_spec hdevice
        rw [hids] at hid
        have hnew : id ∉ s.emulatedIds := by
          intro hmem
          obtain ⟨entry, hentry, rfl⟩ := List.mem_map.mp hmem
          have hadapter := h.mem_candidateIds entry hentry
          rw [h.adapters hphase entry hentry] at hadapter
          exact not_mem_adapters htype entry.2 hid hadapter
        rw [hput]
        exact .inr ⟨(device.type, id), ⟨hid, hnew, hfree id hoccupied hnew,
          fun _ => ⟨hphase, hseeks, hgate⟩⟩, rfl, .inr rfl⟩
  | collision found =>
    rw [step, handleEmulationCollision]
    split_ifs with hfound
    · cases hselected : s.relocateEmulation found with
      | none => exact .inl (append_nil _)
      | some id =>
        obtain ⟨hid, htaken⟩ := selectFreeAddress_spec hselected
        rw [mem_append, mem_cons, not_or, not_or] at htaken
        rw [instanceAddressesForClassOf_adapter found (h.mem_candidateIds _ hfound.1)] at hid
        exact .inr ⟨(.serialAdapter, id), ⟨hid, htaken.1, hfree id htaken.2.2 htaken.1,
          fun h => absurd rfl h⟩, rfl, .inl rfl⟩
    · exact .inl rfl

theorem detecting_step {event : StartupEvent} (h : (s.step event).phase = .detecting) :
    s.phase = .detecting ∧
      (s.step event).ticksElapsed = s.ticksElapsed + [event].count .timer ∧
      (s.ticksElapsed < 5 → (s.step event).ticksElapsed < 5) := by
  cases event with
  | timer =>
    rw [step, tick, advance] at h ⊢
    split_ifs at h ⊢ with hwaits
    · refine ⟨h, rfl, fun _ => ?_⟩
      obtain hphase | hwindow := hwaits
      · exact absurd h hphase
      · simpa using (Bool.and_eq_true_iff.mp hwindow).2
  | collision found =>
    rw [step, handleEmulationCollision] at h ⊢
    split_ifs at h ⊢ <;> exact ⟨h, rfl, fun hticks => hticks⟩
  | _ => exact ⟨h, rfl, fun hticks => hticks⟩

theorem Apart.step (h : s.Apart) (event : StartupEvent) : (s.step event).Apart := by
  have hwindow : (s.step event).phase = .detecting → (s.step event).ticksElapsed < 5 :=
    fun hphase => (detecting_step hphase).2.2 (h.window (detecting_step hphase).1)
  obtain hsame | ⟨entry, hpermits, hput, hrunning⟩ := emulations_step h event
  · refine ⟨?_, hsame ▸ h.mem_candidateIds, hsame ▸ h.controllers,
      fun hphase => hsame ▸ h.adapters (detecting_step hphase).1, hwindow⟩
    rw [emulatedIds, hsame]
    exact h.nodup
  · refine ⟨?_, ?_, ?_, fun hphase => ?_, hwindow⟩
    · rw [emulatedIds, hput, map_append]
      exact List.nodup_append.mpr ⟨h.nodup, List.nodup_cons.mpr ⟨not_mem_nil, nodup_nil⟩,
        fun id hid other hother heq => hpermits.not_emulated
          (List.mem_singleton.mp hother ▸ heq ▸ hid)⟩
    · rw [hput]
      exact List.forall_mem_append.mpr ⟨h.mem_candidateIds,
        List.forall_mem_singleton.mpr hpermits.mem_candidateIds⟩
    · rw [hput, filter_append, length_append]
      by_cases hentry : entry.1 = .serialAdapter
      · simpa [hentry] using h.controllers
      · simpa [hentry] using h.adapters (hpermits.controller hentry).1
    · rw [hphase] at hrunning
      rw [hput]
      exact List.forall_mem_append.mpr ⟨h.adapters (detecting_step hphase).1,
        List.forall_mem_singleton.mpr (hrunning.resolve_right nofun)⟩

theorem phase_step (event : StartupEvent) :
    (s.step event).phase = s.phase ∨ (s.step event).phase = .running := by
  cases event with
  | timer =>
    rw [step, tick, advance]
    split_ifs
    · exact .inl rfl
    · exact .inr rfl
  | collision found =>
    rw [step, handleEmulationCollision]
    split_ifs <;> exact .inl rfl
  | _ => exact .inl rfl

theorem phase_run {events : List StartupEvent} (h : s.phase = .detecting ∨ s.phase = .running) :
    (events.foldl step s).phase = .running ∨
      s.phase = .detecting ∧ (events.foldl step s).phase = .detecting ∧
        (events.foldl step s).ticksElapsed = s.ticksElapsed + events.count .timer := by
  induction events generalizing s with
  | nil => exact h.symm.imp id fun h => ⟨h, h, rfl⟩
  | cons event events ih =>
    have hphase : (s.step event).phase = .detecting ∨ (s.step event).phase = .running := by
      obtain hsame | hrunning := phase_step (s := s) event
      · rwa [hsame]
      · exact .inr hrunning
    obtain hrunning | ⟨hfirst, hlast, hticks⟩ := ih hphase
    · exact .inl hrunning
    · obtain ⟨hdetecting, htick, -⟩ := detecting_step hfirst
      refine .inr ⟨hdetecting, hlast, hticks.trans ?_⟩
      rw [htick, Nat.add_assoc, ← count_append, singleton_append]

theorem apart_begin (panelRevision : List Char) : (begin panelRevision).Apart :=
  ⟨List.nodup_cons.mpr ⟨not_mem_nil, nodup_nil⟩,
    List.forall_mem_singleton.mpr mem_cons_self, Nat.zero_le 1,
    fun _ => List.forall_mem_singleton.mpr rfl, fun _ => Nat.zero_lt_succ 4⟩

theorem eachState_apart (panelRevision : List Char) (events : List StartupEvent) :
    EachState step Apart (begin panelRevision) events :=
  eachStep_true.eachState_of_step (fun _ event h _ => h.step event) (apart_begin panelRevision)

/-- **Emulations keep apart.**  In every state an address is emulated once, by what belongs there,
and one controller at most; and whatever is put up was permitted. -/
theorem emulates_apart (panelRevision : List Char) (events : List StartupEvent) :
    EachState step Apart (begin panelRevision) events ∧
      EachStep step (fun s event => ∀ entry ∈ (s.step event).emulations,
        entry ∈ s.emulations ∨ s.Permits entry) (begin panelRevision) events := by
  refine ⟨eachState_apart panelRevision events, eachStep_true.of_invariant
    (fun s event h _ => h.step event) ?_ (apart_begin panelRevision)⟩
  intro s event h _ entry hentry
  obtain hsame | ⟨added, hpermits, hput, -⟩ := emulations_step h event
  · exact .inl (hsame ▸ hentry)
  · rw [hput, mem_append, mem_singleton] at hentry
    obtain hold | rfl := hentry
    · exact .inl hold
    · exact .inr hpermits

/-- **The start-up ends.**  With the fifth tick at the latest it has decided, whatever was heard. -/
theorem running_of_ticks {panelRevision : List Char} {events : List StartupEvent}
    (h : 5 ≤ events.count .timer) : (events.foldl step (begin panelRevision)).phase = .running := by
  refine (phase_run (.inl rfl)).resolve_right fun ⟨_, hdetecting, hticks⟩ => ?_
  have hwindow := (eachState_apart panelRevision events).last.window hdetecting
  rw [hticks] at hwindow
  exact absurd hwindow (Nat.not_lt.mpr (h.trans (Nat.le_add_left ..)))

/-- Nothing is heard. -/
theorem running_of_five_ticks :
    ([.timer, .timer, .timer, .timer, .timer].foldl step (begin [])).phase = .running :=
  running_of_ticks (by decide)

end Startup

end AqualinkAutomate.Jandy
