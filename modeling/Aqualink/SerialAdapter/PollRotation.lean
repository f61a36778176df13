import Aqualink.General.Rotation
import Aqualink.SerialAdapter.PendingCommands

/-!
# The rotation of the questions

While no command is pending, each status message is answered with the next question.  The cursor
goes round the collection, which the options of the panel change in place: the entry of an
auxiliary is rewritten, and the one of the options is taken out.

`StatusTypes.place` undoes the rewriting.  Seen through it, the collection is the one that the
device starts with, or that one without the options (`Places`).  `queries_of_quiet` is the run:
the questions that go out are the entries that can be asked, in turn from the cursor on.
-/

namespace AqualinkAutomate.SerialAdapter

open Equipment General Hub List Option

/-! ## The collection -/

/-- The entry that stands where this one does before the options are read. -/
def StatusTypes.place : StatusTypes → StatusTypes
  | .pump .cleanr => .auxillary .aux1
  | .pump .spillover => .auxillary .aux3
  | type => type

/-- What can come to be asked for. -/
def askable : List StatusTypes :=
  .pump .cleanr :: .pump .spillover :: statusTypesCollection

theorem nodup_statusTypesCollection : statusTypesCollection.Nodup := by decide

theorem place_statusTypesCollection :
    statusTypesCollection.map StatusTypes.place = statusTypesCollection := by decide

/-- No two entries ask for the same. -/
theorem nodup_question_askable : (askable.map StatusTypes.question).Nodup := by decide +kernel

theorem mem_askable_of_place {type : StatusTypes} (h : type.place ∈ statusTypesCollection) :
    type ∈ askable := by
  cases type with
  | pump command =>
    cases command with
    | cleanr => exact mem_cons_self
    | spillover => exact mem_cons_of_mem _ mem_cons_self
    | pumpLo | pump | spa => exact absurd h (by decide)
  | configuration status => exact mem_cons_of_mem _ (mem_cons_of_mem _ h)
  | temperature command => exact mem_cons_of_mem _ (mem_cons_of_mem _ h)
  | auxillary id => exact mem_cons_of_mem _ (mem_cons_of_mem _ h)

theorem question_ne_none {type : StatusTypes} (h : type ∈ askable) : type.question ≠ .none := by
  revert type
  decide +kernel

theorem map_replace_of_eq {α β : Type*} [BEq α] [LawfulBEq α] {f : α → β} {a b : α} (h : f b = f a)
    (l : List α) : (l.replace a b).map f = l.map f := by
  induction l with
  | nil => rfl
  | cons x l ih =>
    rw [replace_cons]
    split
    · next hx =>
        obtain rfl := eq_of_beq hx
        rw [map_cons, map_cons, h]
    · rw [map_cons, map_cons, ih]

/-- The entries that can be asked on a panel of the model. -/
def pollable (span : JandyAuxillaryIds → Bool) (types : List StatusTypes) : List StatusTypes :=
  types.filter (SerialAdapterDevice.isPollableStatusType span)

/-- Each entry has its place, and the options are the only one that can be missing. -/
def Places (types : List StatusTypes) : Prop :=
  types.map StatusTypes.place = statusTypesCollection ∨
    types.map StatusTypes.place = statusTypesCollection.tail

section

variable {types : List StatusTypes} {span : JandyAuxillaryIds → Bool}

section

variable (h : Places types)

include h

theorem Places.nodup_place : (types.map StatusTypes.place).Nodup := by
  obtain h | h := h <;> rw [h]
  · exact nodup_statusTypesCollection
  · exact nodup_statusTypesCollection.tail

theorem Places.mem_askable {type : StatusTypes} (hmem : type ∈ types) : type ∈ askable := by
  have hplace : type.place ∈ types.map StatusTypes.place := List.mem_map_of_mem hmem
  refine mem_askable_of_place ?_
  obtain h | h := h <;> rw [h] at hplace
  · exact hplace
  · exact mem_of_mem_tail hplace

/-- The LEDs are asked for on each panel. -/
theorem Places.exists_pollable (span : JandyAuxillaryIds → Bool) :
    ∃ type ∈ types, SerialAdapterDevice.isPollableStatusType span type := by
  have hleds : StatusTypes.configuration .leds ∈ types.map StatusTypes.place := by
    obtain h | h := h <;> rw [h] <;> decide
  obtain ⟨type, hmem, hplace⟩ := List.mem_map.mp hleds
  refine ⟨type, hmem, ?_⟩
  cases type with
  | auxillary id => cases hplace
  | configuration | temperature | pump => rfl

theorem Places.pollable_ne_nil : pollable span types ≠ [] := by
  obtain ⟨type, hmem, hpoll⟩ := h.exists_pollable span
  exact ne_nil_of_mem (List.mem_filter.mpr ⟨hmem, hpoll⟩)

theorem Places.nodup_question : ((pollable span types).map StatusTypes.question).Nodup := by
  have hinj := inj_on_of_nodup_map nodup_question_askable
  have hmem : ∀ type ∈ pollable span types, type ∈ askable := fun type hmem =>
    h.mem_askable (mem_of_mem_filter hmem)
  refine List.Nodup.map_on (fun a ha b hb heq => hinj (hmem a ha) (hmem b hb) heq) ?_
  exact (List.Nodup.of_map _ h.nodup_place).filter _

end

end

namespace SerialAdapterDevice

variable {device : SerialAdapterDevice} {hub : HubView} {span : JandyAuxillaryIds → Bool}

/-- The cursor designates an entry. -/
structure Rotates (device : SerialAdapterDevice) : Prop where
  places : Places device.statusTypes
  cursor : device.statusTypesIter < device.statusTypes.length

theorem rotates_of_emulated (emulated : Bool) : Rotates { emulated } :=
  ⟨.inl place_statusTypesCollection, (by decide : 0 < statusTypesCollection.length)⟩

theorem readOptions_cases (device : SerialAdapterDevice) (options : Options) :
    ∃ types, types.map StatusTypes.place = device.statusTypes.map StatusTypes.place ∧
      ((∃ rest, types = .configuration .options :: rest ∧
          device.readOptions options = { device with statusTypes := rest, statusTypesIter := 0 }) ∨
        device.readOptions options = { device with statusTypes := types }) := by
  unfold SerialAdapterDevice.readOptions
  extract_lets types cleaned spilled
  have hcleaned : cleaned.map StatusTypes.place = types.map StatusTypes.place := by
    have hplace : StatusTypes.place (.pump .cleanr) = StatusTypes.place (.auxillary .aux1) := rfl
    simp only [cleaned]
    split_ifs
    · exact map_replace_of_eq hplace types
    · rfl
  have hspilled : spilled.map StatusTypes.place = types.map StatusTypes.place := by
    have hplace : StatusTypes.place (.pump .spillover) = StatusTypes.place (.auxillary .aux3) := rfl
    simp only [spilled]
    split_ifs
    · exact (map_replace_of_eq hplace cleaned).trans hcleaned
    · exact hcleaned
  clear_value spilled
  refine ⟨spilled, hspilled, ?_⟩
  split
  · exact .inl ⟨_, rfl, rfl⟩
  · exact .inr rfl

theorem Rotates.readOptions (h : device.Rotates) (options : Options) :
    (device.readOptions options).Rotates := by
  obtain ⟨types, hplace, hread⟩ := readOptions_cases device options
  have hplaces : Places types := by
    unfold Places
    rw [hplace]
    exact h.places
  have hlength : types.length = device.statusTypes.length := by
    simpa using congrArg List.length hplace
  obtain ⟨rest, rfl, hread⟩ | hread := hread <;> rw [hread]
  -- the options are in front, so they have not been read before
  · obtain hall | htail := hplaces
    · have hrest : rest.map StatusTypes.place = statusTypesCollection.tail :=
        congrArg List.tail hall
      refine ⟨.inr hrest, ?_⟩
      have hlength : rest.length = statusTypesCollection.tail.length := by
        rw [← hrest, length_map]
      show 0 < rest.length
      rw [hlength]
      decide
    · have hhead : some (StatusTypes.configuration .options) = statusTypesCollection.tail.head? :=
        congrArg head? htail
      exact absurd hhead (by decide)
  · exact ⟨hplaces, by rw [hlength]; exact h.cursor⟩

/-- The cursor is moved only together with the collection. -/
theorem statusTypesIter_readOptions {options : Options}
    (h : (device.readOptions options).statusTypes = device.statusTypes) :
    (device.readOptions options).statusTypesIter = device.statusTypesIter := by
  obtain ⟨types, hplace, ⟨rest, rfl, hread⟩ | hread⟩ := readOptions_cases device options
  · rw [hread] at h
    have hlength : rest.length + 1 = device.statusTypes.length := by
      simpa using congrArg List.length hplace
    have hrest : rest.length = device.statusTypes.length := congrArg List.length h
    omega
  · rw [hread]

/-! ## Answers -/

theorem skipUnpollableStatusTypes_eq_seek (span : JandyAuxillaryIds → Bool) (guard : ℕ)
    (device : SerialAdapterDevice) :
    skipUnpollableStatusTypes span guard device =
      { device with
        statusTypesIter :=
          Rotation.seek (isPollableStatusType span) device.statusTypes guard
            device.statusTypesIter } := by
  induction guard generalizing device with
  | zero => rfl
  | succ guard ih =>
    rw [skipUnpollableStatusTypes, Rotation.seek]
    cases device.statusTypes[device.statusTypesIter]? with
    | none => rfl
    | some type =>
      dsimp only
      split_ifs
      · rfl
      · rw [ih]
        rfl

theorem queryStatus_eq_turn (h : device.Rotates) :
    device.queryStatus span =
      ({ device with
          statusTypesIter :=
            Rotation.turn (isPollableStatusType span) device.statusTypes device.statusTypesIter },
        (((pollable span device.statusTypes)[Rotation.rank (isPollableStatusType span)
          device.statusTypes device.statusTypesIter]?).map StatusTypes.question).getD .none) := by
  obtain ⟨hentry, -⟩ := Rotation.entry_seek h.cursor (h.places.exists_pollable span)
  unfold queryStatus
  rw [skipUnpollableStatusTypes_eq_seek]
  dsimp only
  rw [hentry]
  rfl

theorem processControllerUpdates_quiet (h : device.statusMessageReceived = false) :
    device.processControllerUpdates span = (device.claimAddress, .none) := by
  unfold processControllerUpdates
  rw [if_neg (Bool.eq_false_iff.mp h)]

theorem processControllerUpdates_query (span : JandyAuxillaryIds → Bool)
    (device : SerialAdapterDevice) (hstatus : device.statusMessageReceived)
    (hpending : device.pendingCommands = []) :
    device.processControllerUpdates span =
      (claimAddress { (device.queryStatus span).1 with statusMessageReceived := false },
        (device.queryStatus span).2) := by
  unfold processControllerUpdates takePending
  rw [if_pos hstatus, hpending]

theorem drainPendingCommandForDevReady_quiet (h : device.pendingCommands = []) :
    device.drainPendingCommandForDevReady = (device.claimAddress, .none) := by
  unfold drainPendingCommandForDevReady takePending
  rw [h]

/-! ## Events -/

theorem receive_status (hub : HubView) (hrotates : device.Rotates)
    (hpending : device.pendingCommands = []) :
    device.receive hub .status =
      ({ device with
          statusTypesIter :=
            Rotation.turn (isPollableStatusType hub.span) device.statusTypes
              device.statusTypesIter
          statusMessageReceived := false
          hasClaimedAddress := device.hasClaimedAddress || device.isEmulationActive },
        if device.isEmulationActive then
          some ((((pollable hub.span device.statusTypes)[Rotation.rank
            (isPollableStatusType hub.span) device.statusTypes
            device.statusTypesIter]?).map StatusTypes.question).getD .none)
        else none) := by
  have hreceived : Rotates { device with statusMessageReceived := true } :=
    ⟨hrotates.places, hrotates.cursor⟩
  have hanswer := processControllerUpdates_query hub.span
    { device with statusMessageReceived := true } rfl hpending
  rw [queryStatus_eq_turn hreceived] at hanswer
  unfold receive
  dsimp only
  rw [hanswer]
  rfl

theorem cursor_processControllerUpdates (hrotates : device.Rotates) :
    ((device.processControllerUpdates span).1).Rotates := by
  unfold processControllerUpdates takePending
  split_ifs
  · cases device.pendingCommands with
    | cons pending rest => exact ⟨hrotates.places, hrotates.cursor⟩
    | nil =>
      rw [queryStatus_eq_turn hrotates]
      exact ⟨hrotates.places, Rotation.turn_lt hrotates.cursor⟩
  · exact ⟨hrotates.places, hrotates.cursor⟩

theorem cursor_drainPendingCommandForDevReady (hrotates : device.Rotates) :
    device.drainPendingCommandForDevReady.1.Rotates := by
  unfold drainPendingCommandForDevReady takePending
  cases device.pendingCommands with
  | cons pending rest => exact ⟨hrotates.places, hrotates.cursor⟩
  | nil => exact ⟨hrotates.places, hrotates.cursor⟩

theorem cursor_detectRealAdapter (hrotates : device.Rotates) :
    (device.detectRealAdapterAndSuppressEmulation hub).Rotates := by
  unfold detectRealAdapterAndSuppressEmulation
  split_ifs <;> exact ⟨hrotates.places, hrotates.cursor⟩

/-- Whatever happens, the cursor designates an entry. -/
theorem Rotates.step (h : device.Rotates) (event : AdapterEvent) : (device.step event).Rotates := by
  cases event with
  | watchdogTimeout => exact ⟨h.places, h.cursor⟩
  | request hub request =>
    obtain ⟨-, -, hdevice⟩ | ⟨-, hdevice⟩ := request_cases hub device request
    · rw [SerialAdapterDevice.step, hdevice]
      exact ⟨h.places, h.cursor⟩
    · rwa [SerialAdapterDevice.step, hdevice]
  | message hub message =>
    cases message with
    | ack => exact h
    | probe | unknown => exact cursor_processControllerUpdates h
    | status =>
      have hreceived : Rotates { device with statusMessageReceived := true } :=
        ⟨h.places, h.cursor⟩
      exact cursor_processControllerUpdates hreceived
    | devReady => exact cursor_drainPendingCommandForDevReady (cursor_detectRealAdapter h)
    | devStatus options =>
      refine cursor_processControllerUpdates ?_
      cases options with
      | none => exact cursor_detectRealAdapter h
      | some options => exact (cursor_detectRealAdapter h).readOptions options

theorem rotates_foldl (h : device.Rotates) (events : List AdapterEvent) :
    (events.foldl SerialAdapterDevice.step device).Rotates := by
  induction events generalizing device with
  | nil => exact h
  | cons event events ih => exact ih (h.step event)

theorem settled_foldl (h : device.Settled) (events : List AdapterEvent) :
    (events.foldl SerialAdapterDevice.step device).Settled := by
  induction events generalizing device with
  | nil => exact h
  | cons event events ih => exact ih (h.step event)

/-! ## A window without commands -/

def wire (device : SerialAdapterDevice) : AdapterEvent → Option PendingCommand
  | .message hub message => (device.receive hub message).2
  | _ => none

/-- The questions that go out: what is put on the wire less the answers that say nothing. -/
def queries (device : SerialAdapterDevice) : List AdapterEvent → List PendingCommand
  | [] => []
  | event :: events =>
    ((device.wire event).filter (· ≠ .none)).toList ++ queries (device.step event) events

def isStatus : AdapterEvent → Bool
  | .message _ .status => true
  | _ => false

def HasSpan (span : JandyAuxillaryIds → Bool) : AdapterEvent → Prop
  | .message hub _ => hub.span = span
  | _ => True

/-- No command is pending, and the collection is the given one. -/
structure Quiet (types : List StatusTypes) (device : SerialAdapterDevice) : Prop where
  pendingCommands_eq : device.pendingCommands = []
  statusTypes_eq : device.statusTypes = types

theorem filter_signalAck_none (next : SerialAdapterDevice) :
    ((signalAckMessage (next, .none)).2).filter (· ≠ .none) = none := by
  unfold signalAckMessage
  split_ifs <;> rfl

theorem pendingCommands_detectRealAdapter (hub : HubView) (h : device.pendingCommands = []) :
    (device.detectRealAdapterAndSuppressEmulation hub).pendingCommands = [] ∧
      (device.detectRealAdapterAndSuppressEmulation hub).statusMessageReceived =
        device.statusMessageReceived ∧
      (device.detectRealAdapterAndSuppressEmulation hub).statusTypes = device.statusTypes ∧
      (device.detectRealAdapterAndSuppressEmulation hub).statusTypesIter =
        device.statusTypesIter := by
  unfold detectRealAdapterAndSuppressEmulation
  split_ifs <;> exact ⟨by first | exact h | rfl, rfl, rfl, rfl⟩

variable {event : AdapterEvent} {types : List StatusTypes}

theorem step_of_quiet (hstatus : device.statusMessageReceived = false)
    (hquiet : device.Quiet types) (hnext : (device.step event).Quiet types)
    (hevent : isStatus event = false) :
    (device.step event).statusTypesIter = device.statusTypesIter ∧
      (device.wire event).filter (· ≠ .none) = none := by
  cases event with
  | watchdogTimeout => exact ⟨rfl, rfl⟩
  | request hub request =>
    refine ⟨?_, rfl⟩
    obtain ⟨-, -, hdevice⟩ | ⟨-, hdevice⟩ := request_cases hub device request <;> rw [step, hdevice]
  | message hub message =>
    obtain ⟨hpending, hreceived, htypes, hiter⟩ :=
      pendingCommands_detectRealAdapter hub hquiet.pendingCommands_eq
    cases message with
    | status => cases hevent
    | ack => exact ⟨rfl, rfl⟩
    | probe | unknown =>
      simp only [step, wire, receive, processControllerUpdates_quiet hstatus]
      exact ⟨rfl, filter_signalAck_none _⟩
    | devReady =>
      simp only [step, wire, receive, drainPendingCommandForDevReady_quiet hpending]
      exact ⟨hiter, filter_signalAck_none _⟩
    | devStatus options =>
      have htypes' := hnext.statusTypes_eq.trans hquiet.statusTypes_eq.symm
      cases options with
      | none =>
        simp only [step, wire, receive, elim_none,
          processControllerUpdates_quiet (hreceived.trans hstatus)]
        exact ⟨hiter, filter_signalAck_none _⟩
      | some options =>
        have hread := (pendingCommands_readOptions
          (device.detectRealAdapterAndSuppressEmulation hub) (some options)).2.trans
            (hreceived.trans hstatus)
        simp only [elim_some] at hread
        simp only [step, wire, receive, elim_some,
          processControllerUpdates_quiet hread] at htypes' ⊢
        exact ⟨(statusTypesIter_readOptions (htypes'.trans htypes.symm)).trans hiter,
          filter_signalAck_none _⟩

/-! ## Activity -/

theorem hasClaimedAddress_processControllerUpdates (h : device.hasClaimedAddress) :
    (device.processControllerUpdates span).1.hasClaimedAddress := by
  unfold processControllerUpdates takePending claimAddress
  split_ifs
  · cases device.pendingCommands with
    | cons pending rest => simp [h]
    | nil =>
      obtain ⟨iter, hiter⟩ := queryStatus_eq span device
      simp [hiter, h]
  · simp [h]

theorem hasClaimedAddress_readOptions (device : SerialAdapterDevice) (options : Option Options) :
    (options.elim device fun options => device.readOptions options).hasClaimedAddress =
      device.hasClaimedAddress := by
  cases options with
  | none => rfl
  | some options =>
    obtain ⟨types, -, ⟨rest, -, hread⟩ | hread⟩ := readOptions_cases device options <;>
      rw [elim_some, hread]

theorem hasClaimedAddress_detectRealAdapter (hub : HubView) (device : SerialAdapterDevice) :
    (device.detectRealAdapterAndSuppressEmulation hub).hasClaimedAddress =
      device.hasClaimedAddress := by
  unfold detectRealAdapterAndSuppressEmulation
  split_ifs <;> rfl

theorem hasClaimedAddress_step (h : device.hasClaimedAddress) (event : AdapterEvent) :
    (device.step event).hasClaimedAddress := by
  cases event with
  | watchdogTimeout => exact h
  | request hub request =>
    obtain ⟨-, -, hdevice⟩ | ⟨-, hdevice⟩ := request_cases hub device request <;>
      rw [step, hdevice] <;> exact h
  | message hub message =>
    have hdetected := (hasClaimedAddress_detectRealAdapter hub device).trans h
    cases message with
    | ack => exact h
    | probe | unknown => exact hasClaimedAddress_processControllerUpdates h
    | status =>
      have hreceived : ({ device with statusMessageReceived := true } :
          SerialAdapterDevice).hasClaimedAddress := h
      exact hasClaimedAddress_processControllerUpdates hreceived
    | devReady =>
      simp only [step, receive, signalAckMessage, drainPendingCommandForDevReady, claimAddress,
        takePending]
      cases (device.detectRealAdapterAndSuppressEmulation hub).pendingCommands <;>
        simp [hdetected]
    | devStatus options =>
      exact hasClaimedAddress_processControllerUpdates
        ((hasClaimedAddress_readOptions _ options).trans hdetected)

theorem not_suppresses_of_claimed (h : device.hasClaimedAddress) (event : AdapterEvent) :
    device.suppresses event = false := by
  cases event with
  | watchdogTimeout | request => rfl
  | message hub message => cases message <;> simp [suppresses, h]

theorem active_of_suppresses (h : device.suppresses event) : device.isEmulationActive := by
  unfold isEmulationActive
  cases event with
  | watchdogTimeout | request => cases h
  | message hub message => cases message <;> simp_all [suppresses]

theorem active_of_active_step (hstatus : device.statusMessageReceived = false)
    (h : (device.step event).isEmulationActive) : device.isEmulationActive := by
  by_cases hsuppress : device.suppresses event
  · exact active_of_suppresses hsuppress
  · rwa [isEmulationActive_step hstatus (Bool.eq_false_iff.mpr hsuppress)] at h

theorem active_of_active_foldl (hsettled : device.Settled) {events : List AdapterEvent}
    (h : (events.foldl SerialAdapterDevice.step device).isEmulationActive) :
    device.isEmulationActive := by
  induction events generalizing device with
  | nil => exact h
  | cons event events ih =>
    exact active_of_active_step hsettled.statusMessageReceived_eq (ih (hsettled.step event) h)

theorem active_foldl_of_claimed (hsettled : device.Settled)
    (hclaimed : device.hasClaimedAddress)
    (hactive : device.isEmulationActive) (events : List AdapterEvent) :
    (events.foldl SerialAdapterDevice.step device).isEmulationActive := by
  induction events generalizing device with
  | nil => exact hactive
  | cons event events ih =>
    refine ih (hsettled.step event) (hasClaimedAddress_step hclaimed event) ?_
    rwa [isEmulationActive_step hsettled.statusMessageReceived_eq
      (not_suppresses_of_claimed hclaimed event)]

/-! ## The run -/

/-- Over a window without commands, a device that is active at the end asks for the entries that
can be asked, in turn from the cursor on; one that is not has asked for nothing. -/
theorem queries_of_quiet {window : List AdapterEvent} (hrotates : device.Rotates)
    (hsettled : device.Settled) (hspan : ∀ event ∈ window, HasSpan span event)
    (hquiet : EachState SerialAdapterDevice.step (Quiet types) device window) :
    device.queries window =
      if (window.foldl SerialAdapterDevice.step device).isEmulationActive then
        (Rotation.cycled (pollable span types)
          (Rotation.rank (isPollableStatusType span) types device.statusTypesIter)
          (window.countP isStatus)).map StatusTypes.question
      else [] := by
  induction window generalizing device with
  | nil => simp [queries]
  | cons event window ih =>
    obtain ⟨hfirst, hrest⟩ := hquiet
    have hih := ih (hrotates.step event) (hsettled.step event)
      (fun event hmem => hspan event (mem_cons_of_mem _ hmem)) hrest
    rw [queries, foldl_cons, hih]
    cases hevent : isStatus event with
    | false =>
      obtain ⟨hiter, hwire⟩ :=
        step_of_quiet hsettled.statusMessageReceived_eq hfirst hrest.first hevent
      rw [hwire, hiter, countP_cons_of_neg (by simp [hevent])]
      rfl
    | true =>
      obtain ⟨hub, rfl⟩ : ∃ hub, event = .message hub .status := by
        cases event with
        | message hub message => cases message <;> first | exact ⟨hub, rfl⟩ | cases hevent
        | request | watchdogTimeout => cases hevent
      obtain rfl : hub.span = span := hspan _ mem_cons_self
      obtain rfl := hfirst.statusTypes_eq
      have hanswer := receive_status hub hrotates hfirst.pendingCommands_eq
      have hsome := hrotates.places.exists_pollable hub.span
      obtain ⟨-, hrank⟩ := Rotation.entry_seek hrotates.cursor hsome
      have hlt := Rotation.rank_lt (i := device.statusTypesIter) hsome
      have hentry := getElem?_eq_getElem hlt
      change (pollable hub.span device.statusTypes)[_]? = some _ at hentry
      set entry := (filter (isPollableStatusType hub.span) device.statusTypes)[
        Rotation.rank (isPollableStatusType hub.span) device.statusTypes
          device.statusTypesIter]
      have hquestion : entry.question ≠ .none :=
        question_ne_none (hrotates.places.mem_askable
          (mem_of_mem_filter (getElem_mem hlt)))
      rw [hentry] at hanswer
      have hstep := congrArg Prod.fst hanswer
      have hwire := congrArg Prod.snd hanswer
      by_cases hactive : device.isEmulationActive
      -- the question goes out, and with it the address is claimed for good
      · have hfinal := active_foldl_of_claimed (hsettled.step (.message hub .status))
          (by rw [step, hstep]; simp [hactive]) (by rw [step, hstep]; exact hactive) window
        rw [if_pos hfinal, if_pos hfinal, countP_cons_of_pos rfl,
          Rotation.cycled_succ hentry, map_cons, wire, hwire, if_pos hactive]
        have hfilter : (some entry.question).filter (· ≠ .none) = some entry.question := by
          simpa [Option.filter] using hquestion
        rw [map_some, getD_some, hfilter, step, hstep]
        rw [hrank]
        rfl
      · have hfinal : ¬ (window.foldl SerialAdapterDevice.step (device.step
            (.message hub .status))).isEmulationActive := by
          intro hfinal
          exact hactive (active_of_active_step hsettled.statusMessageReceived_eq
            (active_of_active_foldl (hsettled.step _) hfinal))
        rw [if_neg hfinal, if_neg hfinal, wire, hwire, if_neg hactive]
        rfl

/-- **The questions go round.**  Whatever has happened to the device, its cursor designates an
entry of the collection.  Over a window in which no command is pending and neither the collection
nor the auxiliaries that the panel can have change, the questions that an active device sends,
one a status message, are the entries that can be asked, in order and time and again, from the
one on that the cursor has come to.  These entries ask for different things, and there is one. -/
theorem queries_cycle (emulated : Bool) (history : List AdapterEvent) :
    let device := history.foldl SerialAdapterDevice.step { emulated }
    device.statusTypesIter < device.statusTypes.length ∧
      ∀ (span : JandyAuxillaryIds → Bool) (window : List AdapterEvent),
        (∀ event ∈ window, HasSpan span event) →
        EachState SerialAdapterDevice.step (Quiet device.statusTypes) device window →
          let asked := pollable span device.statusTypes
          asked ≠ [] ∧ (asked.map StatusTypes.question).Nodup ∧
            ∃ k < asked.length, device.queries window =
              if (window.foldl SerialAdapterDevice.step device).isEmulationActive then
                (Rotation.cycled asked k (window.countP isStatus)).map StatusTypes.question
              else [] := by
  intro device
  have hrotates : device.Rotates := rotates_foldl (rotates_of_emulated emulated) history
  have hsettled : device.Settled := settled_foldl (settled_of_emulated emulated) history
  refine ⟨hrotates.cursor, ?_⟩
  intro span window hspan hquiet asked
  exact ⟨hrotates.places.pollable_ne_nil, hrotates.places.nodup_question, _,
    Rotation.rank_lt (hrotates.places.exists_pollable span),
    queries_of_quiet hrotates hsettled hspan hquiet⟩

/-- Two polls and an acknowledgement, after the first question of a panel with the full span. -/
theorem queries_cycle_of_polls :
    let device := SerialAdapterDevice.step { emulated := true } (.message {} .status)
    device.statusTypesIter < device.statusTypes.length ∧
      ∃ k < (pollable (fun _ => true) device.statusTypes).length,
        device.queries [.message {} .status, .message {} .ack, .message {} .status] =
          (Rotation.cycled (pollable (fun _ => true) device.statusTypes) k 2).map
            StatusTypes.question := by
  obtain ⟨hcursor, hcycle⟩ := queries_cycle true [.message {} .status]
  refine ⟨hcursor, ?_⟩
  obtain ⟨-, -, hqueries⟩ := hcycle (fun _ => true)
    [.message {} .status, .message {} .ack, .message {} .status]
    (by
      intro event hmem
      simp only [mem_cons, not_mem_nil, or_false] at hmem
      obtain rfl | rfl | rfl := hmem <;> rfl)
    ⟨⟨rfl, rfl⟩, ⟨rfl, rfl⟩, ⟨rfl, rfl⟩, ⟨rfl, rfl⟩⟩
  exact hqueries

end SerialAdapterDevice

end AqualinkAutomate.SerialAdapter
