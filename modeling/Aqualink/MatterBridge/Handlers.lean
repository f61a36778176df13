import Mathlib.Data.List.Cycle
import Aqualink.General.Runs
import Aqualink.MatterBridge.Bridge

/-!
# What the handlers of the endpoints know

A handler keeps quiet while its flag is up, and otherwise compares what is written with the state
that it was shown last.  The flag and the state are shared by all refreshes, so whether a write is
taken for what it is depends on the order of the steps.  `Behaves` says which orders go well: an
application ends when no other one of that endpoint waits that the handler would mistake, no two
refreshes add a device at a time, and between two writes of the commissioner a refresh comes by.

`Sound` is what then holds between the steps.  A device has no endpoint other than the one of its
handle or the one that is being added (`Registered`), the flag of a handler that would mistake what
waits to be written is up, and it is down when nothing is being applied (`Aware`).
-/

namespace AqualinkAutomate.MatterBridge

open General List Option

/-! ## Tasks and endpoints -/

/-- There is an endpoint with that index, of which it holds. -/
def HoldsAt (endpoints : List BridgedEndpoint) (index : ℕ) (P : BridgedEndpoint → Prop) : Prop :=
  ∃ endpoint, endpoints[index]? = some endpoint ∧ P endpoint

namespace Task

/-- The device for which an endpoint is being added. -/
def addition : Task → Option String
  | adding device _ _ => some device.uuid
  | _ => none

/-- The endpoint to which a state is being applied. -/
def application : Task → Option ℕ
  | applying _ index _ _ => some index
  | _ => none

/-- The state that has yet to be written to an endpoint. -/
def unwritten (index : ℕ) : Task → Option BridgedDevice
  | applying device applied false _ => if applied = index then some device else none
  | _ => none

/-- The endpoints are as they were when the task began to wait. -/
def Ready (endpoints : List BridgedEndpoint) : Task → Prop
  | applying _ index _ _ => HoldsAt endpoints index fun endpoint => endpoint.handle.isSome = true
  | adding device (some index) _ => HoldsAt endpoints index fun endpoint =>
    endpoint.uuid = device.uuid ∧ endpoint.handle.isSome = false
  | adding device none _ => device.uuid ∉ endpoints.map BridgedEndpoint.uuid
  | _ => True

end Task

/-! ## What has been asked for, and what has been seen -/

/-- The endpoint whose handler is shown a state by a step, and the state. -/
def World.shown (world : World) : Event → Option (ℕ × BridgedDevice)
  | .resume task =>
    match world.tasks[task]? with
    | some (.syncing (device :: _)) => (world.handles device.uuid).map (·, device)
    | some (.adding device (some index) _) => some (index, device)
    | _ => none
  | .applyButtonState uuid on => do
    let index ← world.handles uuid
    let handle ← world.endpoints[index]?.bind BridgedEndpoint.handle
    return (index, { handle.device with on := on })
  | _ => none

/-- The endpoint with which a step ends an application; there is no wait with a thermostat. -/
def World.released (world : World) (event : Event) : Option ℕ :=
  match world.shown event with
  | some (index, device) => if device.kind = .thermostat then some index else none
  | none =>
    match event with
    | .resume task =>
      match world.tasks[task]? with
      | some (.applying _ index true _) => some index
      | _ => none
    | .throwIn task =>
      match world.tasks[task]? with
      | some (.applying _ index false _) => some index
      | _ => none
    | _ => none

/-- The device for which a step starts to add an endpoint. -/
def World.begun (world : World) : Event → Option String
  | .resume task =>
    match world.tasks[task]? with
    | some (.syncing (device :: _)) =>
      if world.handles device.uuid = none then some device.uuid else none
    | _ => none
  | _ => none

/-- Whether the state that the handler of an endpoint was shown last was that of its device. -/
def World.see (world : World) (equipment : RawDevices) (seen : ℕ → Bool) (event : Event) :
    ℕ → Bool :=
  match world.shown event with
  | none => seen
  | some (index, device) => Function.update seen index
      ((world.endpoints[index]?.bind fun endpoint => equipment.isOn endpoint.uuid) ==
        some device.on)

/-- The bridge, and what there is to say about the run so far. -/
structure Watched where
  world : World
  /-- The state that the commissioner wants a device to be in.  It wants nothing any more when the
  device has been changed elsewhere. -/
  wanted : String → Option Bool := fun _ => none
  /-- The state that the handler of an endpoint was shown last was that of its device, which has not
  changed since. -/
  seen : ℕ → Bool := fun _ => false

namespace Watched

variable (watched : Watched)

def want : Event → String → Option Bool
  | .commissioner index (.onOff value) =>
    match watched.world.endpoints[index]? with
    | none => watched.wanted
    | some endpoint =>
      if endpoint.IsOnOff then Function.update watched.wanted endpoint.uuid (some value)
      else watched.wanted
  | .equipmentChanged devices => fun uuid =>
    if devices.isOn uuid = watched.world.equipment.isOn uuid then watched.wanted uuid else none
  | _ => watched.wanted

def step (event : Event) : Watched where
  world := watched.world.step event
  wanted := watched.want event
  seen := fun index => watched.world.see watched.world.equipment watched.seen event index &&
    (watched.world.step event).endpoints[index]?.all fun endpoint =>
      (watched.world.step event).equipment.isOn endpoint.uuid ==
        watched.world.equipment.isOn endpoint.uuid

/-- Nothing has been added. -/
def start (equipment : RawDevices) : Watched where
  world := { equipment := equipment }

end Watched

/-! ## Which orders go well -/

/-- The handler would send what is written of a state, if it did not keep quiet. -/
def BridgedEndpoint.Mistakes (endpoint : BridgedEndpoint) (device : BridgedDevice) : Prop :=
  match endpoint.kind with
  | .thermostat => False
  | .onOffLevelChlorinator => device.kind = .onOffLevelChlorinator
  | .onOffPlugInUnit | .temperatureSensor =>
    device.kind ≠ .thermostat ∧ ∃ handle ∈ endpoint.handle, device.on ≠ handle.device.on

instance (endpoint : BridgedEndpoint) (device : BridgedDevice) :
    Decidable (endpoint.Mistakes device) := by
  unfold BridgedEndpoint.Mistakes
  exact match endpoint.kind with
  | .thermostat => .isFalse id
  | .onOffLevelChlorinator => inferInstanceAs (Decidable (_ = _))
  | .onOffPlugInUnit | .temperatureSensor => inferInstanceAs (Decidable (_ ∧ _))

/-- No state that waits to be written to an endpoint is mistaken. -/
def Unmistaken (tasks : List Task) (index : ℕ) (endpoint : BridgedEndpoint) : Prop :=
  ∀ task ∈ tasks, ∀ device ∈ task.unwritten index, ¬ endpoint.Mistakes device

/-- The handler of an endpoint is subscribed, and no state is being applied. -/
def World.Listens (world : World) (index : ℕ) (endpoint : BridgedEndpoint) : Prop :=
  endpoint.handle.isSome = true ∧ ∀ task ∈ world.tasks, task.application ≠ some index

/-- The last change of the device has been seen, and no other is under way. -/
def Watched.Informed (watched : Watched) (index : ℕ) (uuid : String) : Prop :=
  watched.seen index = true ∧ .toggleButton uuid ∉ watched.world.inFlight

/-- An order of the steps that goes well. -/
def Behaves (watched : Watched) (event : Event) : Prop :=
  -- an application ends when no other one waits that its handler would mistake
  (∀ index ∈ watched.world.released event,
    ∀ endpoint ∈ (watched.world.step event).endpoints[index]?,
      Unmistaken (watched.world.step event).tasks index endpoint) ∧
  -- nobody else is adding the device
  (∀ uuid ∈ watched.world.begun event, uuid ∉ watched.world.tasks.filterMap Task.addition) ∧
  match event with
  | .commissioner index (.onOff value) =>
    -- a refresh comes before the next write, and not at the same time
    ∀ endpoint ∈ watched.world.endpoints[index]?, endpoint.IsOnOff →
      ∀ on ∈ watched.world.equipment.isOn endpoint.uuid,
        watched.Informed index endpoint.uuid ∧ (value = on ∨ watched.world.Listens index endpoint)
  | .response command carriedOut =>
    -- a toggle is carried out
    carriedOut = true ∨ ∀ sent ∈ watched.world.inFlight[command]?, sent.isToggle = false
  | _ => True

instance (watched : Watched) (event : Event) : Decidable (Behaves watched event) := by
  unfold Behaves Unmistaken World.Listens Watched.Informed
  refine @instDecidableAnd _ _ _ (@instDecidableAnd _ _ _ ?_)
  exact match event with
  | .commissioner _ (.onOff _) => inferInstanceAs (Decidable (∀ endpoint ∈ _, _))
  | .response _ _ => inferInstanceAs (Decidable (_ ∨ _))
  | .commissioner _ (.currentLevel _) | .commissioner _ (.occupiedHeatingSetpoint _)
  | .startRefresh | .applyButtonState _ _ | .answer _ | .perform _ | .resume _ | .throwIn _
  | .equipmentChanged _ => .isTrue trivial

/-! ## The endpoints and the handles -/

/-- A device has one endpoint at most, with a handle or in the hands of one task. -/
structure Registered (world : World) : Prop where
  oneEndpoint : (world.endpoints.map BridgedEndpoint.uuid).Nodup
  oneAddition : (world.tasks.filterMap Task.addition).Nodup
  owned : ∀ uuid ∈ world.endpoints.map BridgedEndpoint.uuid,
    (world.handles uuid).isSome ∨ uuid ∈ world.tasks.filterMap Task.addition
  handled : ∀ uuid index, world.handles uuid = some index → HoldsAt world.endpoints index
    fun endpoint => endpoint.handle.isSome
  ready : ∀ task ∈ world.tasks, task.Ready world.endpoints

theorem map_uuid_modify (endpoints : List BridgedEndpoint) (index : ℕ)
    {f : BridgedEndpoint → BridgedEndpoint}
    (hf : ∀ endpoint, (f endpoint).uuid = endpoint.uuid) :
    (endpoints.modify index f).map BridgedEndpoint.uuid = endpoints.map BridgedEndpoint.uuid := by
  induction endpoints generalizing index with
  | nil => simp
  | cons endpoint endpoints ih =>
    cases index with
    | zero => simp [hf]
    | succ index => simp [ih]

section

variable {world : World} {index k : ℕ} {old new : Task}

/-- A task among the others, and what takes its place. -/
theorem exists_set {tasks : List Task} (hold : tasks[k]? = some old) :
    ∃ others, tasks.Perm (old :: others) ∧ ∀ new, (tasks.set k new).Perm (new :: others) := by
  obtain ⟨hlt, rfl⟩ := List.getElem?_eq_some_iff.mp hold
  refine ⟨tasks.eraseIdx k, (getElem_cons_eraseIdx_perm hlt).symm, fun new => ?_⟩
  have hset := (getElem_cons_eraseIdx_perm (l := tasks.set k new) (by simpa using hlt)).symm
  simpa [eraseIdx_set_eq] using hset

theorem Registered.setTask (h : Registered world) (hold : world.tasks[k]? = some old)
    (hready : new.Ready world.endpoints)
    (hnew : ∀ uuid, new.addition = some uuid →
      old.addition = some uuid ∨ uuid ∉ world.tasks.filterMap Task.addition)
    (hgone : ∀ uuid, old.addition = some uuid → new.addition = some uuid ∨
      (uuid ∈ world.endpoints.map BridgedEndpoint.uuid → (world.handles uuid).isSome)) :
    Registered (world.setTask k new) := by
  obtain ⟨others, htasks, hset⟩ := exists_set hold
  have hone := (htasks.filterMap Task.addition).nodup_iff.mp h.oneAddition
  have hmem := fun uuid => (htasks.filterMap Task.addition).mem_iff (a := uuid)
  refine ⟨h.oneEndpoint, ?_, fun uuid huuid => ?_, h.handled, fun task htask => ?_⟩
  · refine ((hset new).filterMap Task.addition).nodup_iff.mpr ?_
    cases hn : new.addition <;> cases ho : old.addition <;> simp_all
    all_goals grind
  · have howned := h.owned uuid huuid
    have hgone' : uuid ∈ world.endpoints.map BridgedEndpoint.uuid := huuid
    rw [World.setTask, ((hset new).filterMap Task.addition).mem_iff]
    rw [hmem, filterMap_cons] at howned
    rw [filterMap_cons]
    cases hn : new.addition <;> cases ho : old.addition <;> grind
  · rcases List.mem_cons.mp ((hset new).mem_iff.mp htask) with rfl | hother
    · exact hready
    · exact h.ready task (htasks.mem_iff.mpr (mem_cons_of_mem _ hother))

variable {f : BridgedEndpoint → BridgedEndpoint} {endpoint : BridgedEndpoint}
  {device : BridgedDevice} {rest : List BridgedDevice}

/-- What is done to an endpoint leaves it what it is, and its handler subscribed or not. -/
def KeepsHandler (f : BridgedEndpoint → BridgedEndpoint) : Prop :=
  ∀ endpoint, (f endpoint).uuid = endpoint.uuid ∧
    ((f endpoint).handle.isSome = endpoint.handle.isSome)

theorem HoldsAt.modify {endpoints : List BridgedEndpoint} {P : BridgedEndpoint → Prop} {i : ℕ}
    (h : HoldsAt endpoints i P) (hf : ∀ endpoint, i = index → P endpoint → P (f endpoint)) :
    HoldsAt (endpoints.modify index f) i P := by
  obtain ⟨endpoint, hendpoint, hholds⟩ := h
  rw [HoldsAt, getElem?_modify, hendpoint]
  by_cases hindex : index = i
  · exact ⟨f endpoint, by simp [hindex], hf endpoint hindex.symm hholds⟩
  · exact ⟨endpoint, by simp [hindex], hholds⟩

theorem HoldsAt.append {endpoints more : List BridgedEndpoint} {P : BridgedEndpoint → Prop}
    (h : HoldsAt endpoints index P) : HoldsAt (endpoints ++ more) index P := by
  obtain ⟨endpoint, hendpoint, hholds⟩ := h
  exact ⟨endpoint, getElem?_append_left (List.getElem?_eq_some_iff.mp hendpoint).1 ▸ hendpoint,
    hholds⟩

theorem Registered.modify (h : Registered world) (hf : KeepsHandler f) :
    Registered (world.modifyEndpoint index f) := by
  have huuids := map_uuid_modify world.endpoints index fun endpoint => (hf endpoint).1
  refine ⟨huuids ▸ h.oneEndpoint, h.oneAddition, huuids ▸ h.owned,
    fun uuid i hi => (h.handled uuid i hi).modify fun endpoint _ => (hf endpoint).2.trans,
    fun task htask => ?_⟩
  have hready := h.ready task htask
  unfold Task.Ready at hready ⊢
  split at hready
  · exact hready.modify fun endpoint _ => (hf endpoint).2.trans
  · exact hready.modify fun endpoint _ hold =>
      ⟨(hf endpoint).1.trans hold.1, (hf endpoint).2.trans hold.2⟩
  · exact huuids ▸ hready
  · trivial

theorem Registered.startTask (h : Registered world) (hnew : new.addition = none)
    (hready : new.Ready world.endpoints) :
    Registered { world with tasks := world.tasks ++ [new] } := by
  have hadditions : (world.tasks ++ [new]).filterMap Task.addition =
      world.tasks.filterMap Task.addition := by
    simp [hnew]
  refine ⟨h.oneEndpoint, hadditions ▸ h.oneAddition, hadditions ▸ h.owned, h.handled, ?_⟩
  intro task htask
  rcases List.mem_append.mp htask with hold | hlast
  · exact h.ready task hold
  · exact List.mem_singleton.mp hlast ▸ hready

theorem HoldsAt.and {endpoints : List BridgedEndpoint} {P P' : BridgedEndpoint → Prop}
    (h : HoldsAt endpoints index P) (h' : HoldsAt endpoints index P') :
    ∃ endpoint, P endpoint ∧ P' endpoint := by
  obtain ⟨endpoint, hendpoint, hholds⟩ := h
  obtain ⟨endpoint', hendpoint', hholds'⟩ := h'
  cases hendpoint.symm.trans hendpoint'
  exact ⟨endpoint, hholds, hholds'⟩

/-- No two tasks add the same device. -/
theorem ne_of_addition {others : List Task} {task : Task} {uuid uuid' : String}
    (hone : (uuid :: others.filterMap Task.addition).Nodup) (htask : task ∈ others)
    (hadds : task.addition = some uuid') : uuid' ≠ uuid := by
  rintro rfl
  exact (List.nodup_cons.mp hone).1 (List.mem_filterMap.mpr ⟨task, htask, hadds⟩)

theorem Registered.addEndpoint (h : Registered world)
    (hold : world.tasks[k]? = some (.adding device none rest)) :
    Registered (world.perform k (.adding device none rest)) := by
  obtain ⟨others, htasks, hset⟩ := exists_set hold
  have hfree := h.ready _ (mem_of_getElem? hold)
  have hone := (htasks.filterMap Task.addition).nodup_iff.mp h.oneAddition
  have hadditions : ∀ uuid, uuid ∈ (world.tasks.set k (.adding device (some world.endpoints.length)
      rest)).filterMap Task.addition ↔ uuid ∈ world.tasks.filterMap Task.addition := by
    intro uuid
    rw [((hset _).filterMap Task.addition).mem_iff, (htasks.filterMap Task.addition).mem_iff]
    rfl
  constructor
  · simp only [World.perform, World.setTask, map_append, map_singleton]
    rw [← concat_eq_append]
    exact h.oneEndpoint.concat hfree
  · exact ((hset _).filterMap Task.addition).nodup_iff.mpr hone
  · intro uuid huuid
    simp only [World.perform, World.setTask, map_append, map_singleton] at huuid ⊢
    rw [hadditions]
    rcases List.mem_append.mp huuid with hbefore | hlast
    · exact h.owned uuid hbefore
    · obtain rfl := List.mem_singleton.mp hlast
      exact .inr ((htasks.filterMap Task.addition).mem_iff.mpr (mem_cons_self ..))
  · intro uuid i hi
    exact (h.handled uuid i hi).append
  · intro task htask
    rcases List.mem_cons.mp ((hset _).mem_iff.mp htask) with rfl | hother
    · exact ⟨device.newEndpoint, by simp [World.perform, World.setTask], rfl, rfl⟩
    · have hready := h.ready task (htasks.mem_iff.mpr (mem_cons_of_mem _ hother))
      unfold Task.Ready at hready ⊢
      split at hready
      · exact hready.append
      · exact hready.append
      · next other rest' =>
          have hne : other.uuid ≠ device.uuid := ne_of_addition hone hother rfl
          simpa [World.perform, World.setTask, BridgedDevice.newEndpoint, hne] using hready
      · trivial

theorem Registered.finishAdd (h : Registered world)
    (hold : world.tasks[k]? = some (.adding device (some index) rest)) :
    Registered (world.resume k (.adding device (some index) rest)) := by
  obtain ⟨others, htasks, hset⟩ := exists_set hold
  have hadded := h.ready _ (mem_of_getElem? hold)
  have hone : (device.uuid :: others.filterMap Task.addition).Nodup :=
    (htasks.filterMap Task.addition).nodup_iff.mp h.oneAddition
  have huuids := map_uuid_modify world.endpoints index
    (f := fun endpoint => { endpoint with handle := some ⟨device, false⟩ }) fun _ => rfl
  constructor
  · exact huuids ▸ h.oneEndpoint
  · exact ((hset _).filterMap Task.addition).nodup_iff.mpr (List.nodup_cons.mp hone).2
  · intro uuid huuid
    by_cases heq : uuid = device.uuid
    · simp [World.resume, World.setTask, World.finishAdd, heq]
    · have howned := h.owned uuid (huuids ▸ huuid)
      rw [(htasks.filterMap Task.addition).mem_iff] at howned
      refine (howned.imp ?_ ?_)
      · simp [World.resume, World.setTask, World.finishAdd, heq]
      · intro hmem
        exact ((hset _).filterMap Task.addition).mem_iff.mpr (mem_of_ne_of_mem heq hmem)
  · intro uuid i hi
    simp only [World.resume, World.setTask, World.finishAdd, Function.update_apply] at hi ⊢
    split_ifs at hi with heq
    · cases hi
      obtain ⟨endpoint, hendpoint, -⟩ := hadded
      exact ⟨{ endpoint with handle := some ⟨device, false⟩ },
        by simp [World.modifyEndpoint, hendpoint], rfl⟩
    · exact (h.handled uuid i hi).modify fun _ _ _ => rfl
  · intro task htask
    rcases List.mem_cons.mp ((hset _).mem_iff.mp htask) with rfl | hother
    · trivial
    have hready := h.ready task (htasks.mem_iff.mpr (mem_cons_of_mem _ hother))
    unfold Task.Ready at hready ⊢
    split at hready
    · exact hready.modify fun _ _ _ => rfl
    · next other i rest' =>
        -- it is not the endpoint that gets its handle
        have hi : i ≠ index := by
          rintro rfl
          obtain ⟨_, hadded, hready⟩ := hadded.and hready
          exact ne_of_addition hone hother rfl (hready.1.symm.trans hadded.1)
        exact hready.modify fun _ heq => absurd heq hi
    · exact huuids ▸ hready
    · trivial

theorem exists_foldl_write (writes : List AttributeWrite) (endpoint : BridgedEndpoint) :
    ∃ onOff level setpoint, writes.foldl BridgedEndpoint.write endpoint = { endpoint with
      onOff := onOff, currentLevel := level, occupiedHeatingSetpoint := setpoint } := by
  induction writes generalizing endpoint with
  | nil => exact ⟨_, _, _, rfl⟩
  | cons write writes ih =>
    obtain ⟨onOff, level, setpoint, heq⟩ := ih (endpoint.write write)
    rw [foldl_cons, heq]
    cases write <;> exact ⟨_, _, _, rfl⟩

/-! ## What the handlers know -/

/-- Only tasks that have to do with an endpoint are others than before. -/
structure SameElsewhere (index : ℕ) (tasks tasks' : List Task) : Prop where
  unwritten : ∀ task ∈ tasks', task ∈ tasks ∨ ∀ i ≠ index, task.unwritten i = none
  applied : ∀ task ∈ tasks, ∀ i, task.application = some i →
    i = index ∨ ∃ task' ∈ tasks', task'.application = some i

variable {tasks tasks' : List Task}

theorem Task.unwritten_of_application {task : Task} {i : ℕ} (h : task.application ≠ some i) :
    task.unwritten i = none := by
  unfold unwritten
  split
  · exact if_neg fun heq => h (congrArg some heq)
  · rfl

theorem sameElsewhere_set (hold : tasks[k]? = some old)
    (hnew : ∀ i, new.application = some i → i = index)
    (hkept : ∀ i, old.application = some i → i = index) :
    SameElsewhere index tasks (tasks.set k new) := by
  obtain ⟨others, hbefore, hset⟩ := exists_set hold
  refine ⟨fun task htask => ?_, fun task htask i happlies => ?_⟩
  · rcases List.mem_cons.mp ((hset new).mem_iff.mp htask) with rfl | hother
    · exact .inr fun i hi => Task.unwritten_of_application fun heq => hi (hnew i heq)
    · exact .inl (hbefore.mem_iff.mpr (mem_cons_of_mem _ hother))
  · rcases List.mem_cons.mp (hbefore.mem_iff.mp htask) with rfl | hother
    · exact .inl (hkept i happlies)
    · exact .inr ⟨task, (hset new).mem_iff.mpr (mem_cons_of_mem _ hother), happlies⟩

theorem sameElsewhere_append (hnew : ∀ i, new.application = some i → i = index) :
    SameElsewhere index tasks (tasks ++ [new]) := by
  refine ⟨fun task htask => ?_, fun task htask i happlies =>
    .inr ⟨task, mem_append_left _ htask, happlies⟩⟩
  rcases List.mem_append.mp htask with hold | hlast
  · exact .inl hold
  · obtain rfl := List.mem_singleton.mp hlast
    exact .inr fun i hi => Task.unwritten_of_application fun heq => hi (hnew i heq)

theorem SameElsewhere.refl (tasks : List Task) : SameElsewhere index tasks tasks :=
  ⟨fun _ htask => .inl htask, fun task htask _ happlies => .inr ⟨task, htask, happlies⟩⟩

/-- The flag of a handler, and the state that it was shown last. -/
structure Aware (tasks : List Task) (equipment : RawDevices) (seen : ℕ → Bool) (index : ℕ)
    (endpoint : BridgedEndpoint) (handle : DeviceHandle) : Prop where
  quiet : handle.applyingRemote ∨ Unmistaken tasks index endpoint
  raised : handle.applyingRemote → ∃ task ∈ tasks, task.application = some index
  seen : seen index → equipment.isOn endpoint.uuid = some handle.device.on

def AllAware (endpoints : List BridgedEndpoint) (tasks : List Task) (equipment : RawDevices)
    (seen : ℕ → Bool) : Prop :=
  ∀ index endpoint, endpoints[index]? = some endpoint → ∀ handle ∈ endpoint.handle,
    Aware tasks equipment seen index endpoint handle

variable {endpoints : List BridgedEndpoint} {equipment : RawDevices} {seen seen' : ℕ → Bool}

/-- One endpoint changes. -/
theorem AllAware.modify (h : AllAware endpoints tasks equipment seen)
    (htasks : SameElsewhere index tasks tasks') (hseen : ∀ i ≠ index, seen' i = seen i)
    (hf : ∀ endpoint, endpoints[index]? = some endpoint → ∀ handle ∈ (f endpoint).handle,
      Aware tasks' equipment seen' index (f endpoint) handle) :
    AllAware (endpoints.modify index f) tasks' equipment seen' := by
  intro i endpoint hendpoint handle hhandle
  rw [getElem?_modify] at hendpoint
  obtain ⟨before, hbefore, rfl⟩ := Option.map_eq_some_iff.mp hendpoint
  by_cases hi : index = i
  · subst hi
    rw [if_pos rfl] at hhandle ⊢
    exact hf before hbefore handle hhandle
  · rw [if_neg hi] at hhandle ⊢
    obtain ⟨hquiet, hraised, hright⟩ := h i before hbefore handle hhandle
    refine ⟨hquiet.imp_right fun hquiet task htask device hdevice => ?_, fun hflag => ?_, ?_⟩
    · rcases htasks.unwritten task htask with hold | hnone
      · exact hquiet task hold device hdevice
      · rw [hnone i (Ne.symm hi)] at hdevice
        cases hdevice
    · obtain ⟨task, htask, happlies⟩ := hraised hflag
      exact (htasks.applied task htask i happlies).resolve_left (Ne.symm hi)
    · rwa [hseen i (Ne.symm hi)]

/-- Neither an endpoint nor an application has to do with it. -/
theorem AllAware.setTasks (h : AllAware endpoints tasks equipment seen)
    (htasks : ∀ index, SameElsewhere index tasks tasks') :
    AllAware endpoints tasks' equipment seen := by
  have hmodify := h.modify (f := id) (htasks endpoints.length) (fun _ _ => rfl) (by simp)
  rwa [modify_id] at hmodify

theorem AllAware.setTask (h : AllAware endpoints tasks equipment seen)
    (hold : tasks[k]? = some old) (hnew : new.application = none) (hkept : old.application = none) :
    AllAware endpoints (tasks.set k new) equipment seen :=
  h.setTasks fun _ => sameElsewhere_set hold (by simp [hnew]) (by simp [hkept])

theorem AllAware.append (h : AllAware endpoints tasks equipment seen)
    (hnone : endpoint.handle = none) : AllAware (endpoints ++ [endpoint]) tasks equipment seen := by
  intro i endpoint' hendpoint handle hhandle
  rw [getElem?_append] at hendpoint
  split_ifs at hendpoint
  · exact h i endpoint' hendpoint handle hhandle
  · rw [List.mem_singleton.mp (mem_of_getElem? hendpoint), hnone] at hhandle
    cases hhandle

/-- An application ends when nothing waits that the handler would mistake. -/
theorem AllAware.finishApply (h : AllAware world.endpoints world.tasks equipment seen)
    (hold : world.tasks[k]? = some old) (hkept : old.application = some index)
    (hnew : new.application = none)
    (hquiet : ∀ endpoint ∈ (world.finishApply index).endpoints[index]?,
      Unmistaken (world.tasks.set k new) index endpoint) :
    AllAware (world.finishApply index).endpoints (world.tasks.set k new) equipment seen := by
  refine h.modify (sameElsewhere_set hold (by simp [hnew]) (by simp [hkept])) (fun _ _ => rfl)
    fun endpoint hendpoint handle hhandle => ?_
  obtain ⟨before, hbefore, rfl⟩ := Option.map_eq_some_iff.mp hhandle
  refine ⟨.inr (hquiet _ ?_), nofun, (h index endpoint hendpoint before hbefore).seen⟩
  simp [World.finishApply, World.modifyEndpoint, hendpoint]

/-- A handler is shown a state, with the flag up as long as it has to be written. -/
theorem AllAware.show (h : AllAware endpoints tasks equipment seen)
    (htasks : SameElsewhere index tasks tasks') (flag : Bool)
    (hf : ∀ endpoint, (f endpoint).uuid = endpoint.uuid ∧
      ∀ handle ∈ (f endpoint).handle, handle = ⟨device, flag⟩)
    (hflag : flag → ∃ task ∈ tasks', task.application = some index)
    (hquiet : flag = false → ∀ endpoint ∈ (endpoints.modify index f)[index]?,
      Unmistaken tasks' index endpoint) :
    AllAware (endpoints.modify index f) tasks' equipment (Function.update seen index
      ((endpoints[index]?.bind fun endpoint => equipment.isOn endpoint.uuid) ==
        some device.on)) := by
  refine h.modify htasks (fun i hi => Function.update_of_ne hi _ _)
    fun endpoint hendpoint handle hhandle => ?_
  obtain ⟨huuid, hhandles⟩ := hf endpoint
  obtain rfl := hhandles handle hhandle
  refine ⟨?_, hflag, fun hseen => ?_⟩
  · cases flag with
    | true => exact .inl rfl
    | false => exact .inr (hquiet rfl (f endpoint) (by simp [hendpoint]))
  · rw [Function.update_self, hendpoint] at hseen
    rw [huuid]
    exact eq_of_beq hseen

theorem AllAware.applyDeviceState (h : AllAware world.endpoints world.tasks equipment seen)
    (htasks : SameElsewhere index world.tasks tasks')
    (hmem : World.afterApply index device rest ∈ tasks')
    (hquiet : device.kind = .thermostat →
      ∀ endpoint ∈ (world.applyDeviceState index device).endpoints[index]?,
        Unmistaken tasks' index endpoint) :
    AllAware (world.applyDeviceState index device).endpoints tasks' equipment
      (Function.update seen index ((world.endpoints[index]?.bind fun endpoint =>
        equipment.isOn endpoint.uuid) == some device.on)) := by
  refine h.show htasks (decide (device.kind ≠ .thermostat))
    (fun endpoint => ⟨rfl, fun handle hhandle => ?_⟩) (fun hkind => ?_)
    fun hkind => hquiet (by simpa using hkind)
  · obtain ⟨-, -, rfl⟩ := Option.map_eq_some_iff.mp hhandle
    rfl
  · exact ⟨_, hmem, by simp [World.afterApply, of_decide_eq_true hkind, Task.application]⟩

/-- What is written does not change what the handler knows. -/
theorem AllAware.write (h : AllAware endpoints tasks equipment seen) (writes : List AttributeWrite)
    (htasks : SameElsewhere index tasks tasks')
    (hunwritten : ∀ task ∈ tasks', task.unwritten index = none ∨ task ∈ tasks)
    (hkept : ∀ task ∈ tasks, task.application = some index →
      ∃ task' ∈ tasks', task'.application = some index) :
    AllAware (endpoints.modify index (writes.foldl BridgedEndpoint.write)) tasks' equipment
      seen := by
  refine h.modify htasks (fun _ _ => rfl) fun endpoint hendpoint handle hhandle => ?_
  obtain ⟨onOff, level, setpoint, heq⟩ := exists_foldl_write writes endpoint
  rw [heq] at hhandle ⊢
  obtain ⟨hquiet, hraised, hright⟩ := h index endpoint hendpoint handle hhandle
  refine ⟨hquiet.imp_right fun hquiet task htask device hdevice => ?_, fun hflag => ?_, hright⟩
  · rcases hunwritten task htask with hnone | hold
    · rw [hnone] at hdevice
      cases hdevice
    · exact hquiet task hold device hdevice
  · obtain ⟨task, htask, happlies⟩ := hraised hflag
    exact hkept task htask happlies

theorem application_afterApply {i : ℕ}
    (h : (World.afterApply index device rest).application = some i) : i = index := by
  unfold World.afterApply at h
  split_ifs at h
  · cases h
  · exact (Option.some.inj h).symm

/-- No state is applied to an endpoint that has no handle yet. -/
theorem Registered.application_ne (h : Registered world) {task : Task}
    (hadding : .adding device (some index) rest ∈ world.tasks) (htask : task ∈ world.tasks) :
    task.application ≠ some index := by
  intro happlies
  have hready := h.ready task htask
  unfold Task.application at happlies
  split at happlies
  · cases happlies
    obtain ⟨endpoint, hadded, hsome⟩ := HoldsAt.and (h.ready _ hadding) hready
    rw [hadded.2] at hsome
    cases hsome
  · cases happlies

/-- What holds of the endpoints and the tasks between the steps. -/
structure Sound (world : World) (equipment : RawDevices) (seen : ℕ → Bool) : Prop where
  registered : Registered world
  aware : AllAware world.endpoints world.tasks equipment seen

theorem keepsHandler_modifyHandle (f : DeviceHandle → DeviceHandle) :
    KeepsHandler (BridgedEndpoint.modifyHandle · f) :=
  fun _ => ⟨rfl, isSome_map⟩

theorem mem_set (hold : tasks[k]? = some old) : new ∈ tasks.set k new :=
  List.mem_set (List.getElem?_eq_some_iff.mp hold).1 new

theorem ready_afterApply (device : BridgedDevice) (rest : List BridgedDevice)
    (hsome : HoldsAt world.endpoints index fun endpoint => endpoint.handle.isSome) :
    (World.afterApply index device rest).Ready (world.applyDeviceState index device).endpoints ∧
      (World.afterApply index device rest).addition = none := by
  unfold World.afterApply
  split_ifs
  · exact ⟨trivial, rfl⟩
  · exact ⟨hsome.modify fun endpoint _ => (keepsHandler_modifyHandle _ endpoint).2.trans, rfl⟩

theorem Sound.resume (h : Sound world equipment seen) {task : Task}
    (hold : world.tasks[k]? = some task)
    (hbegun : ∀ uuid ∈ world.begun (.resume k), uuid ∉ world.tasks.filterMap Task.addition)
    (hquiet : ∀ index ∈ world.released (.resume k),
      ∀ endpoint ∈ (world.resume k task).endpoints[index]?,
        Unmistaken (world.resume k task).tasks index endpoint) :
    Sound (world.resume k task) equipment (world.see equipment seen (.resume k)) := by
  simp only [World.see, World.shown, World.released, World.begun, hold] at hbegun hquiet ⊢
  cases task with
  | fetching | done => exact h
  | answered devices =>
    exact ⟨h.registered.setTask hold trivial nofun nofun, h.aware.setTask hold rfl rfl⟩
  | syncing devices =>
    cases devices with
    | nil => exact ⟨h.registered.setTask hold trivial nofun nofun, h.aware.setTask hold rfl rfl⟩
    | cons device rest =>
      simp only [World.resume] at hquiet ⊢
      cases hhandle : world.handles device.uuid with
      | none =>
        have hfree := hbegun device.uuid (by simp [hhandle])
        refine ⟨h.registered.setTask hold (fun hmem => ?_) (fun uuid huuid => .inr ?_) nofun,
          h.aware.setTask hold rfl rfl⟩
        · exact hfree ((h.registered.owned _ hmem).resolve_left (by simp [hhandle]))
        · exact Option.some.inj huuid ▸ hfree
      | some index =>
        simp only [hhandle, map_some] at hquiet ⊢
        obtain ⟨hready, hnone⟩ :=
          ready_afterApply device rest (h.registered.handled _ _ hhandle)
        refine ⟨(h.registered.modify (keepsHandler_modifyHandle _)).setTask hold hready
          (by simp [hnone]) nofun, h.aware.applyDeviceState (sameElsewhere_set hold
            (fun _ => application_afterApply) nofun) (mem_set hold) fun hkind => ?_⟩
        exact hquiet index (by simp [hkind])
  | applying device index written rest =>
    cases written with
    | false => exact h
    | true =>
      exact ⟨(h.registered.modify (keepsHandler_modifyHandle _)).setTask hold trivial nofun nofun,
        h.aware.finishApply hold rfl rfl (hquiet index rfl)⟩
  | adding device index rest =>
    cases index with
    | none => exact h
    | some index =>
      refine ⟨h.registered.finishAdd hold, h.aware.show (sameElsewhere_set hold nofun nofun)
        false (fun _ => ⟨rfl, by simp⟩) nofun ?_⟩
      intro _ endpoint _ task htask waiting hwaiting
      have hne : task.application ≠ some index := by
        rcases mem_or_eq_of_mem_set htask with hbefore | rfl
        · exact h.registered.application_ne (mem_of_getElem? hold) hbefore
        · nofun
      rw [Task.unwritten_of_application hne] at hwaiting
      cases hwaiting

theorem write_fields (world : World) (index : ℕ) (writes : List AttributeWrite) :
    (world.write index writes).endpoints =
      world.endpoints.modify index (writes.foldl BridgedEndpoint.write) ∧
    (world.write index writes).handles = world.handles ∧
      (world.write index writes).tasks = world.tasks := by
  unfold World.write
  split
  · next hnone => exact ⟨(modify_eq_self (List.getElem?_eq_none_iff.mp hnone)).symm, rfl, rfl⟩
  · exact ⟨rfl, rfl, rfl⟩

theorem Registered.congr {world' : World} (h : Registered world)
    (hendpoints : world'.endpoints = world.endpoints) (hhandles : world'.handles = world.handles)
    (htasks : world'.tasks = world.tasks) : Registered world' := by
  obtain ⟨hone, hadditions, howned, hhandled, hready⟩ := h
  rw [← hendpoints] at hone howned hhandled hready
  rw [← hhandles] at howned hhandled
  rw [← htasks] at hadditions howned hready
  exact ⟨hone, hadditions, howned, hhandled, hready⟩

theorem Registered.write (h : Registered world) (index : ℕ) (writes : List AttributeWrite) :
    Registered (world.write index writes) := by
  obtain ⟨hendpoints, hhandles, htasks⟩ := write_fields world index writes
  refine (h.modify fun endpoint => ?_).congr hendpoints hhandles htasks
  obtain ⟨onOff, level, setpoint, heq⟩ := exists_foldl_write writes endpoint
  rw [heq]
  exact ⟨rfl, rfl⟩

theorem Sound.perform (h : Sound world equipment seen) {task : Task}
    (hold : world.tasks[k]? = some task) : Sound (world.perform k task) equipment seen := by
  unfold World.perform
  split
  · next device index rest =>
      have hwritten := h.registered.write index device.patch
      obtain ⟨hendpoints, -, htasks⟩ := write_fields world index device.patch
      have hold' : (world.write index device.patch).tasks[k]? = _ := htasks ▸ hold
      have hready : Task.Ready _ _ := hwritten.ready _ (mem_of_getElem? hold')
      refine ⟨hwritten.setTask hold' hready nofun nofun, ?_⟩
      simp only [World.setTask, hendpoints, htasks]
      refine h.aware.write device.patch (sameElsewhere_set hold (by simp [Task.application])
        (by simp [Task.application])) (fun task htask => ?_) fun _ _ _ => ⟨_, mem_set hold, rfl⟩
      exact (mem_or_eq_of_mem_set htask).elim .inr fun heq => .inl (heq ▸ rfl)
  · exact ⟨h.registered.addEndpoint hold, (h.aware.setTask hold rfl rfl).append rfl⟩
  · exact h

theorem Sound.throwIn (h : Sound world equipment seen) {task : Task}
    (hold : world.tasks[k]? = some task)
    (hquiet : ∀ index ∈ world.released (.throwIn k),
      ∀ endpoint ∈ (world.throwIn k task).endpoints[index]?,
        Unmistaken (world.throwIn k task).tasks index endpoint) :
    Sound (world.throwIn k task) equipment seen := by
  simp only [World.released, World.shown, hold] at hquiet
  unfold World.throwIn at hquiet ⊢
  split
  · exact ⟨h.registered.setTask hold trivial nofun nofun, h.aware.setTask hold rfl rfl⟩
  · exact ⟨h.registered.setTask hold trivial nofun nofun, h.aware.setTask hold rfl rfl⟩
  · refine ⟨h.registered.setTask hold trivial nofun fun uuid huuid => .inr fun hmem => ?_,
      h.aware.setTask hold rfl rfl⟩
    cases huuid
    exact absurd hmem (h.registered.ready _ (mem_of_getElem? hold))
  · exact ⟨(h.registered.modify (keepsHandler_modifyHandle _)).setTask hold trivial nofun nofun,
      h.aware.finishApply hold rfl rfl (hquiet _ rfl)⟩
  · exact h

theorem applyButtonState_cases (world : World) (uuid : String) (on : Bool) :
    world.shown (.applyButtonState uuid on) = none ∧ world.applyButtonState uuid on = world ∨
      ∃ index device, world.shown (.applyButtonState uuid on) = some (index, device) ∧
        world.handles uuid = some index ∧
        world.applyButtonState uuid on = { world.applyDeviceState index device with
          tasks := world.tasks ++ [World.afterApply index device []] } := by
  simp only [World.shown, World.applyButtonState]
  cases hindex : world.handles uuid with
  | none => exact .inl ⟨rfl, rfl⟩
  | some index =>
    cases hhandle : world.endpoints[index]?.bind BridgedEndpoint.handle with
    | none => exact .inl ⟨by simp [hhandle], by simp only [hhandle]⟩
    | some handle =>
      exact .inr ⟨index, { handle.device with on := on }, by simp [hhandle], rfl,
        by simp only [hhandle]⟩

theorem of_task {P : World → Prop} {f : Task → World} {task : ℕ} (hnone : P world)
    (hsome : ∀ state, world.tasks[task]? = some state → P (f state)) :
    P ((world.tasks[task]?.map f).getD world) := by
  cases htask : world.tasks[task]? with
  | none => exact hnone
  | some state => exact hsome state htask

theorem Sound.step (h : Sound world equipment seen) {event : Event}
    (hbegun : ∀ uuid ∈ world.begun event, uuid ∉ world.tasks.filterMap Task.addition)
    (hquiet : ∀ index ∈ world.released event, ∀ endpoint ∈ (world.step event).endpoints[index]?,
      Unmistaken (world.step event).tasks index endpoint) :
    Sound (world.step event) equipment (world.see equipment seen event) := by
  cases event with
  | startRefresh =>
    exact ⟨h.registered.startTask rfl trivial, h.aware.setTasks fun _ => sameElsewhere_append nofun⟩
  | applyButtonState uuid on =>
    simp only [World.step, World.see, World.released] at hquiet ⊢
    rcases applyButtonState_cases world uuid on with
      ⟨hnone, hsame⟩ | ⟨index, device, hshown, hindex, heq⟩
    · rwa [hnone, hsame]
    · simp only [hshown, heq] at hquiet ⊢
      obtain ⟨hready, hnone⟩ := ready_afterApply device [] (h.registered.handled _ _ hindex)
      have hmem : World.afterApply index device [] ∈
          world.tasks ++ [World.afterApply index device []] := by simp
      exact ⟨(h.registered.modify (keepsHandler_modifyHandle _)).startTask hnone hready,
        h.aware.applyDeviceState (sameElsewhere_append fun _ => application_afterApply) hmem
          fun hkind => hquiet index (by simp [hkind])⟩
  | answer task =>
    rw [World.step]
    split
    · next hold =>
        exact ⟨h.registered.setTask hold trivial nofun nofun, h.aware.setTask hold rfl rfl⟩
    · exact h
  | perform task => exact of_task (P := (Sound · equipment seen)) h fun _ hold => h.perform hold
  | resume task =>
    simp only [World.step] at hquiet ⊢
    cases hold : world.tasks[task]? with
    | none => simpa [World.see, World.shown, hold] using h
    | some state => exact h.resume hold hbegun (by simpa [hold] using hquiet)
  | throwIn task =>
    simp only [World.step] at hquiet ⊢
    exact of_task (P := (Sound · equipment seen)) h fun state hold =>
      h.throwIn hold (by simpa [hold] using hquiet)
  | commissioner index write =>
    obtain ⟨hendpoints, -, htasks⟩ := write_fields world index [write]
    refine ⟨h.registered.write index [write], ?_⟩
    simp only [World.step, hendpoints, htasks]
    exact h.aware.write [write] (.refl _) (fun _ => .inr) fun task htask happlies =>
      ⟨task, htask, happlies⟩
  | response command carriedOut =>
    simp only [World.step, World.respond]
    split
    · exact h
    · exact ⟨h.registered.congr rfl rfl rfl, h.aware⟩
  | equipmentChanged devices => exact ⟨h.registered.congr rfl rfl rfl, h.aware⟩

/-- The handlers stay aware of what goes on, as long as the steps behave. -/
theorem Watched.sound_step {watched : Watched}
    (h : Sound watched.world watched.world.equipment watched.seen) {event : Event}
    (hbehaves : Behaves watched event) : Sound (watched.step event).world
      (watched.step event).world.equipment (watched.step event).seen := by
  have hsound := h.step hbehaves.2.1 hbehaves.1
  refine ⟨hsound.registered, fun index endpoint hendpoint handle hhandle => ?_⟩
  obtain ⟨hquiet, hraised, hseen⟩ := hsound.aware index endpoint hendpoint handle hhandle
  refine ⟨hquiet, hraised, fun hright => ?_⟩
  obtain ⟨hsaw, hsame⟩ := Bool.and_eq_true_iff.mp hright
  exact (eq_of_beq ((all_eq_true _ _).mp hsame endpoint hendpoint)).trans (hseen hsaw)

end

end AqualinkAutomate.MatterBridge
