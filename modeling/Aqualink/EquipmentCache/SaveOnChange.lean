import Mathlib.Data.Multiset.Sort
import Aqualink.EquipmentCache.Snapshot

/-!
# Saving the cache when it changes

Once a minute the labels, the types and the hardware labels of the devices are put together to a
text with the configuration and the board, and the file is written if the text is another one
than the last time.  What else is written of a device is not in the text.
-/

namespace AqualinkAutomate.EquipmentCache

open General Hub List
open Equipment (AuxillaryTypes)

variable {τ : Type*} {hub other : EquipmentHub τ} {device : AuxillaryDevice}

/-! ## The fingerprint -/

/-- What the fingerprint tells of a device.  A text that is not there counts as empty. -/
def devicePart (device : AuxillaryDevice) : String :=
  device.label.getD "" ++ "/" ++ (device.type.map enumName).getD "" ++ "/" ++
    device.hardwareLabel.getD ""

/-- `FindByTrait(AuxillaryTypeTrait{})` -/
def EquipmentHub.typedDevices (hub : EquipmentHub τ) : List AuxillaryDevice :=
  hub.devices.filter fun device => device.type.isSome

/-- The texts of the devices are put into order, so that the order of the devices is not told. -/
def fingerprint (hub : EquipmentHub τ) : String :=
  "|".intercalate (enumName hub.poolConfiguration :: enumName hub.systemBoard ::
    (hub.typedDevices.map devicePart).mergeSort (· ≤ ·))

structure Description where
  poolConfiguration : PoolConfigurations
  systemBoard : SystemBoards
  devices : Multiset (String × Option AuxillaryTypes × String)
  deriving DecidableEq

def AuxillaryDevice.described (device : AuxillaryDevice) :
    String × Option AuxillaryTypes × String :=
  (device.label.getD "", device.type, device.hardwareLabel.getD "")

def described (hub : EquipmentHub τ) : Description where
  poolConfiguration := hub.poolConfiguration
  systemBoard := hub.systemBoard
  devices := hub.typedDevices.map AuxillaryDevice.described

/-- The texts of the devices do not have the separators. -/
def Plain (hub : EquipmentHub τ) : Prop :=
  ∀ device ∈ hub.typedDevices, '/' ∉ (device.label.getD "").toList ∧
    '|' ∉ (device.label.getD "").toList ∧ '|' ∉ (device.hardwareLabel.getD "").toList

theorem separator_not_mem_enumName (type : AuxillaryTypes) :
    '/' ∉ (enumName type).toList ∧ '|' ∉ (enumName type).toList := by
  cases type <;> decide

theorem bar_not_mem_poolConfiguration (config : PoolConfigurations) :
    '|' ∉ (enumName config).toList := by
  cases config <;> decide

theorem bar_not_mem_systemBoard (board : SystemBoards) : '|' ∉ (enumName board).toList := by
  cases board <;> decide

def partText (parts : String × Option AuxillaryTypes × String) : String :=
  parts.1 ++ "/" ++ (parts.2.1.map enumName).getD "" ++ "/" ++ parts.2.2

theorem devicePart_eq : devicePart = partText ∘ AuxillaryDevice.described := rfl

theorem partText_injOn : Set.InjOn partText {parts | '/' ∉ parts.1.toList ∧ parts.2.1.isSome} := by
  rintro ⟨label, type, hardware⟩ ⟨hlabel, htype⟩ ⟨label', type', hardware'⟩ ⟨hlabel', htype'⟩ h
  obtain ⟨type, rfl⟩ := Option.isSome_iff_exists.mp htype
  obtain ⟨type', rfl⟩ := Option.isSome_iff_exists.mp htype'
  have hchars : label.toList ++ '/' :: ((enumName type).toList ++ '/' :: hardware.toList) =
      label'.toList ++ '/' :: ((enumName type').toList ++ '/' :: hardware'.toList) := by
    simpa [partText] using congrArg String.toList h
  obtain ⟨hlabels, hrest⟩ := append_separator_inj hlabel hlabel' hchars
  obtain ⟨htypes, hhardware⟩ := append_separator_inj (separator_not_mem_enumName type).1
    (separator_not_mem_enumName type').1 hrest
  obtain rfl : label = label' := String.toList_inj.mp hlabels
  obtain rfl : hardware = hardware' := String.toList_inj.mp hhardware
  rw [enumName_injective (String.toList_inj.mp htypes)]

theorem perm_described (hhub : Plain hub) (hother : Plain other)
    (h : (hub.typedDevices.map devicePart).Perm (other.typedDevices.map devicePart)) :
    (hub.typedDevices.map AuxillaryDevice.described).Perm
      (other.typedDevices.map AuxillaryDevice.described) := by
  -- reading a part back gives the described device it was made of
  obtain ⟨read, hleft⟩ : ∃ read : String → String × Option AuxillaryTypes × String,
      Set.LeftInvOn read partText {parts | '/' ∉ parts.1.toList ∧ parts.2.1.isSome} :=
    ⟨_, partText_injOn.leftInvOn_invFunOn⟩
  have hread : ∀ {hub : EquipmentHub τ}, Plain hub →
      (hub.typedDevices.map devicePart).map read =
        hub.typedDevices.map AuxillaryDevice.described := by
    intro hub hplain
    rw [map_map]
    refine map_congr_left fun device hdevice => ?_
    have hmem : device.described ∈
        {parts : String × Option AuxillaryTypes × String |
          '/' ∉ parts.1.toList ∧ parts.2.1.isSome} :=
      ⟨(hplain device hdevice).1, (List.mem_filter.mp hdevice).2⟩
    rw [devicePart_eq, Function.comp_apply, Function.comp_apply]
    exact hleft hmem
  rw [← hread hhub, ← hread hother]
  exact h.map read

theorem separator_not_mem_fingerprint (h : Plain hub) :
    ∀ text ∈ enumName hub.poolConfiguration :: enumName hub.systemBoard ::
      (hub.typedDevices.map devicePart).mergeSort (· ≤ ·), '|' ∉ text.toList := by
  intro text htext
  obtain rfl | htext := List.mem_cons.mp htext
  · exact bar_not_mem_poolConfiguration _
  obtain rfl | htext := List.mem_cons.mp htext
  · exact bar_not_mem_systemBoard _
  obtain ⟨device, hdevice, rfl⟩ := List.mem_map.mp (List.mem_mergeSort.mp htext)
  obtain ⟨-, hlabel, hhardware⟩ := h device hdevice
  obtain ⟨type, htype⟩ := Option.isSome_iff_exists.mp (List.mem_filter.mp hdevice).2
  have hname := (separator_not_mem_enumName type).2
  simp [devicePart, htype, hlabel, hhardware, hname]

/-- The fingerprints of two hubs are equal exactly when they have the same configuration, board,
labels, types and hardware labels. -/
theorem fingerprint_eq_iff (hhub : Plain hub) (hother : Plain other) :
    fingerprint hub = fingerprint other ↔ described hub = described other := by
  constructor
  · intro h
    have hparts := intercalate_injective '|' (cons_ne_nil _ _)
      (cons_ne_nil _ _) (separator_not_mem_fingerprint hhub)
      (separator_not_mem_fingerprint hother) h
    obtain ⟨hpool, hrest⟩ := List.cons.inj hparts
    obtain ⟨hboard, hsorted⟩ := List.cons.inj hrest
    have hperm := (mergeSort_perm (hub.typedDevices.map devicePart) (· ≤ ·)).symm
    rw [hsorted] at hperm
    have hdescribed := perm_described hhub hother (hperm.trans (mergeSort_perm _ _))
    unfold described
    rw [enumName_injective hpool, enumName_injective hboard, Multiset.coe_eq_coe.mpr hdescribed]
  · intro h
    obtain ⟨hpool, hboard, hdevices⟩ := Description.mk.inj h
    have hperm : (hub.typedDevices.map devicePart).Perm (other.typedDevices.map devicePart) := by
      rw [devicePart_eq, ← map_map, ← map_map]
      exact (Multiset.coe_eq_coe.mp hdevices).map partText
    have hsorted : (hub.typedDevices.map devicePart).mergeSort (· ≤ ·) =
        (other.typedDevices.map devicePart).mergeSort (· ≤ ·) := by
      have hsortedPerm := ((mergeSort_perm (hub.typedDevices.map devicePart) (· ≤ ·)).trans
        hperm).trans (mergeSort_perm (other.typedDevices.map devicePart) (· ≤ ·)).symm
      exact hsortedPerm.eq_of_pairwise' (pairwise_mergeSort' (· ≤ ·) _)
        (pairwise_mergeSort' (· ≤ ·) _)
    unfold fingerprint
    rw [hpool, hboard, hsorted]

/-! ## The service -/

inductive WriteResult where
  | written
  | failed (left : Option Json)

structure CacheService (τ : Type*) where
  hub : EquipmentHub τ
  lastFingerprint : String
  file : Option Json
  stopped : Bool := false

inductive ServiceEvent (τ : Type*) where
  /-- The rest of the program changes the hub. -/
  | change (hub : EquipmentHub τ)
  /-- The timer of `ScheduleSave`. -/
  | check (result : WriteResult)
  | stop (result : WriteResult)

namespace CacheService

def start (hub : EquipmentHub τ) (file : Option Json) : CacheService τ where
  hub := hub
  lastFingerprint := fingerprint hub
  file := file

def saveNow (service : CacheService τ) (result : WriteResult) : CacheService τ :=
  { service with
    file :=
      match result with
      | .written => some (snapshot service.hub)
      | .failed left => left }

def check (service : CacheService τ) (result : WriteResult) : CacheService τ :=
  if service.stopped then service
  else if fingerprint service.hub ≠ service.lastFingerprint then
    { service.saveNow result with lastFingerprint := fingerprint service.hub }
  else service

def step (service : CacheService τ) : ServiceEvent τ → CacheService τ
  | .change hub => { service with hub := hub }
  | .check result => service.check result
  | .stop result => { service.saveNow result with stopped := true }

end CacheService

structure CacheWatch (τ : Type*) where
  service : CacheService τ
  checked : EquipmentHub τ

namespace CacheWatch

def start (hub : EquipmentHub τ) (file : Option Json) : CacheWatch τ where
  service := .start hub file
  checked := hub

def step (watch : CacheWatch τ) (event : ServiceEvent τ) : CacheWatch τ where
  service := watch.service.step event
  checked :=
    match event with
    | .change _ => watch.checked
    | .check _ => if watch.service.stopped then watch.checked else watch.service.hub
    | .stop _ => watch.service.hub

/-- The texts are plain, and the file can be written. -/
def Ordinary (_watch : CacheWatch τ) : ServiceEvent τ → Prop
  | .change hub => Plain hub
  | .check result | .stop result => result = .written

/-- The file describes the hub as it was when it was last looked at, unless nothing of that
changed since the start. -/
def FileDescribes (hub : EquipmentHub τ) (file : Option Json) (watch : CacheWatch τ) : Prop :=
  (∃ saved : EquipmentHub τ, watch.service.file = some (snapshot saved) ∧
      described saved = described watch.checked) ∨
    (watch.service.file = file ∧ described watch.checked = described hub)

/-- A check looks at the hub, and writes it if what the fingerprint tells has changed. -/
def WritesChange (watch : CacheWatch τ) (event : ServiceEvent τ) : Prop :=
  ∀ result, event = .check result → watch.service.stopped = false →
    (watch.step event).checked = watch.service.hub ∧
      ((described watch.service.hub = described watch.checked ∧
          (watch.step event).service.file = watch.service.file) ∨
        (described watch.service.hub ≠ described watch.checked ∧
          (watch.step event).service.file = some (snapshot watch.service.hub)))

structure Tracked (watch : CacheWatch τ) : Prop where
  hub_plain : Plain watch.service.hub
  checked_plain : Plain watch.checked
  lastFingerprint_eq : watch.service.stopped = false →
    watch.service.lastFingerprint = fingerprint watch.checked

variable {watch : CacheWatch τ} {event : ServiceEvent τ} {initial : EquipmentHub τ}
variable {file : Option Json}

theorem lastFingerprint_check (service : CacheService τ) (result : WriteResult)
    (h : service.stopped = false) :
    (service.check result).lastFingerprint = fingerprint service.hub := by
  unfold CacheService.check
  rw [if_neg (Bool.eq_false_iff.mp h)]
  split
  next => rfl
  next hsame => exact (not_not.mp hsame).symm

theorem hub_check (service : CacheService τ) (result : WriteResult) :
    (service.check result).hub = service.hub := by
  unfold CacheService.check
  split
  · rfl
  · split <;> rfl

theorem step_check_of_stopped (h : watch.service.stopped) (result : WriteResult) :
    watch.step (.check result) = watch := by
  have hcheck : watch.service.check result = watch.service := if_pos h
  simp [CacheWatch.step, CacheService.step, hcheck, h]

theorem Tracked.step (h : watch.Tracked) (hevent : watch.Ordinary event) :
    (watch.step event).Tracked := by
  cases event with
  | change hub => exact ⟨hevent, h.checked_plain, h.lastFingerprint_eq⟩
  | stop result => exact ⟨h.hub_plain, h.hub_plain, Bool.noConfusion⟩
  | check result =>
    have hhub : (watch.step (.check result)).service.hub = watch.service.hub :=
      hub_check watch.service result
    by_cases hstopped : watch.service.stopped
    · rwa [step_check_of_stopped hstopped]
    · have hchecked : (watch.step (.check result)).checked = watch.service.hub :=
        if_neg hstopped
      refine ⟨?_, ?_, fun _ => ?_⟩
      · rw [hhub]
        exact h.hub_plain
      · rw [hchecked]
        exact h.hub_plain
      · rw [hchecked]
        exact lastFingerprint_check watch.service result (Bool.eq_false_iff.mpr hstopped)

theorem writesChange_of_tracked (h : watch.Tracked) (hevent : watch.Ordinary event) :
    watch.WritesChange event := by
  rintro result rfl hstopped
  obtain rfl : result = .written := hevent
  have hrunning : ¬ watch.service.stopped := Bool.eq_false_iff.mp hstopped
  have hchanged : fingerprint watch.service.hub = watch.service.lastFingerprint ↔
      described watch.service.hub = described watch.checked := by
    rw [h.lastFingerprint_eq hstopped]
    exact fingerprint_eq_iff h.hub_plain h.checked_plain
  have hcheck : watch.service.check .written =
      if fingerprint watch.service.hub ≠ watch.service.lastFingerprint then
        { watch.service.saveNow .written with lastFingerprint := fingerprint watch.service.hub }
      else watch.service := if_neg hrunning
  refine ⟨if_neg hrunning, ?_⟩
  change (_ ∧ (watch.service.check .written).file = _) ∨
    (_ ∧ (watch.service.check .written).file = _)
  rw [hcheck]
  by_cases hsame : described watch.service.hub = described watch.checked
  · left
    refine ⟨hsame, ?_⟩
    rw [if_neg (not_not.mpr (hchanged.mpr hsame))]
  · right
    refine ⟨hsame, ?_⟩
    rw [if_pos (mt hchanged.mp hsame)]
    rfl

theorem FileDescribes.step (hfile : watch.FileDescribes initial file) (h : watch.Tracked)
    (hevent : watch.Ordinary event) : (watch.step event).FileDescribes initial file := by
  cases event with
  | change hub => exact hfile
  | stop result =>
    obtain rfl : result = .written := hevent
    exact .inl ⟨watch.service.hub, rfl, rfl⟩
  | check result =>
    by_cases hstopped : watch.service.stopped
    · rwa [step_check_of_stopped hstopped]
    · obtain ⟨hchecked, hwritten⟩ := writesChange_of_tracked h hevent result rfl
        (Bool.eq_false_iff.mpr hstopped)
      unfold FileDescribes
      rw [hchecked]
      obtain ⟨hsame, hleft⟩ | ⟨-, hsaved⟩ := hwritten
      · rwa [hleft, hsame]
      · exact .inl ⟨watch.service.hub, hsaved, rfl⟩

theorem file_describes (hplain : Plain hub) {events : List (ServiceEvent τ)}
    (h : EachStep CacheWatch.step Ordinary (start hub file) events) :
    EachState CacheWatch.step (FileDescribes hub file) (start hub file) events ∧
      EachStep CacheWatch.step WritesChange (start hub file) events := by
  have htracked : (start hub file).Tracked := ⟨hplain, hplain, fun _ => rfl⟩
  constructor
  · have hstates := EachStep.eachState_of_step
      (Q := fun watch => Tracked watch ∧ watch.FileDescribes hub file)
      (fun watch event hinv hevent => ⟨hinv.1.step hevent, hinv.2.step hinv.1 hevent⟩)
      ⟨htracked, .inr ⟨rfl, rfl⟩⟩ h
    exact hstates.mono fun watch hinv => hinv.2
  · exact h.of_invariant (fun watch event hinv hevent => hinv.step hevent)
      (fun watch event hinv hevent => writesChange_of_tracked hinv hevent) htracked

end CacheWatch

def withLight : EquipmentHub ℕ where
  poolConfiguration := .singleBody
  devices := [{ id := Vector.replicate 16 1, label := some "Pool Light", type := some .light }]

def filterPump (pumpType : Option PumpTypes) : AuxillaryDevice where
  id := Vector.replicate 16 1
  label := some "Filter Pump"
  type := some .pump
  pumpType := pumpType

end AqualinkAutomate.EquipmentCache
