import Aqualink.MatterBridge.Handlers

/-!
# Commands that are lost or invented

The state that a device is going to be in is the one that it has, the other way round for each
toggle that is in flight.  A handler cannot see it, it knows the state that it was shown last.  So
an off that follows an on before the next refresh is lost, and a level that waits to be written when
another refresh ends with the device goes back to the API as a command.

`correct_of_behaves`: when the steps come in an order that behaves, only the commissioner causes
commands, a device has one endpoint at most, and it ends up in the state that was asked for last.
-/

namespace AqualinkAutomate.MatterBridge

open General List

def World.settled (world : World) (uuid : String) : Option Bool :=
  (world.equipment.isOn uuid).map (not^[world.inFlight.count (.toggleButton uuid)])

/-- Each device has one endpoint at most, and when no toggle of it is in flight it is in the state
that is wanted. -/
structure Correct (watched : Watched) : Prop where
  oneEndpoint : (watched.world.endpoints.map BridgedEndpoint.uuid).Nodup
  obeys : ∀ uuid value, watched.wanted uuid = some value →
    .toggleButton uuid ∉ watched.world.inFlight → ∀ on,
      watched.world.equipment.isOn uuid = some on → on = value

/-- Only a write of the commissioner sends a command. -/
def SentForCommissioner (watched : Watched) : Event → Prop
  | .commissioner _ _ => True
  | event => (watched.step event).world.sent = watched.world.sent

/-! ## What a step does to the commands -/

section

variable {world : World} {index : ℕ} {uuid : String}

/-- The toggles in flight carry a device to the state that is wanted. -/
def OnCourse (watched : Watched) : Prop :=
  ∀ uuid value, watched.wanted uuid = some value → ∀ on,
    watched.world.settled uuid = some on → on = value

structure SameCommands (world world' : World) : Prop where
  equipment : world'.equipment = world.equipment
  inFlight : world'.inFlight = world.inFlight
  sent : world'.sent = world.sent

theorem SameCommands.refl (world : World) : SameCommands world world := ⟨rfl, rfl, rfl⟩

/-- The bridge sends nothing of its own accord between two waits. -/
theorem sameCommands_resume (world : World) (index : ℕ) (task : Task) :
    SameCommands world (world.resume index task) := by
  unfold World.resume
  split
  · exact ⟨rfl, rfl, rfl⟩
  · exact ⟨rfl, rfl, rfl⟩
  · split <;> exact ⟨rfl, rfl, rfl⟩
  · exact ⟨rfl, rfl, rfl⟩
  · exact ⟨rfl, rfl, rfl⟩
  · exact .refl world

theorem sameCommands_throwIn (world : World) (index : ℕ) (task : Task) :
    SameCommands world (world.throwIn index task) := by
  unfold World.throwIn
  split <;> exact ⟨rfl, rfl, rfl⟩

theorem sameCommands_applyButtonState (world : World) (uuid : String) (on : Bool) :
    SameCommands world (world.applyButtonState uuid on) := by
  rcases applyButtonState_cases world uuid on with ⟨-, hsame⟩ | ⟨_, _, -, -, heq⟩
  · rw [hsame]
    exact .refl world
  · rw [heq]
    exact ⟨rfl, rfl, rfl⟩

variable {writes : List AttributeWrite} {equipment : RawDevices} {seen : ℕ → Bool}

/-- A handler sends nothing of a state when its flag is up or it does not mistake the state. -/
theorem notify_eq_none {endpoint : BridgedEndpoint} {device : BridgedDevice}
    {write : AttributeWrite} (hwrite : write ∈ device.patch)
    (h : ∀ handle ∈ endpoint.handle, handle.applyingRemote ∨ ¬ endpoint.Mistakes device) :
    endpoint.notify write = none := by
  unfold BridgedEndpoint.Mistakes at h
  unfold BridgedDevice.patch at hwrite
  unfold BridgedEndpoint.notify
  cases hkind : endpoint.kind <;> cases hdevice : device.kind <;>
    cases hhandle : endpoint.handle <;> simp_all
  all_goals grind

/-- What the bridge writes or adds sends nothing. -/
theorem sameCommands_perform
    (h : AllAware world.endpoints world.tasks equipment seen) {task : Task}
    (htask : world.tasks[index]? = some task) : SameCommands world (world.perform index task) := by
  unfold World.perform
  split
  · next device applied rest =>
      unfold World.write
      split
      · exact ⟨rfl, rfl, rfl⟩
      · next endpoint hendpoint =>
          have hnone : device.patch.filterMap endpoint.notify = [] :=
            List.filterMap_eq_nil_iff.mpr fun write hwrite => notify_eq_none hwrite
              fun handle hhandle => (h applied endpoint hendpoint handle hhandle).quiet.imp_right
                fun hquiet => hquiet _ (mem_of_getElem? htask) device (by simp [Task.unwritten])
          exact ⟨rfl, (congrArg (world.inFlight ++ ·) hnone).trans (append_nil _),
            (congrArg (world.sent ++ ·) hnone).trans (append_nil _)⟩
  · exact ⟨rfl, rfl, rfl⟩
  · exact .refl world

/-! ## One step -/

variable {watched : Watched}

theorem settled_of_not_mem {uuid : String} (h : .toggleButton uuid ∉ world.inFlight) :
    world.settled uuid = world.equipment.isOn uuid := by
  rw [World.settled, count_eq_zero_of_not_mem h, Function.iterate_zero, Option.map_id, id]

theorem settled_congr {world' : World} (h : SameCommands world world') (uuid : String) :
    world'.settled uuid = world.settled uuid := by
  rw [World.settled, World.settled, h.equipment, h.inFlight]

theorem OnCourse.same {watched' : Watched} (h : OnCourse watched)
    (hsame : SameCommands watched.world watched'.world)
    (hwanted : watched'.wanted = watched.wanted) : OnCourse watched' := by
  intro uuid value hvalue on hon
  rw [settled_congr hsame] at hon
  exact h uuid value (hwanted ▸ hvalue) on hon

variable {carriedOut value : Bool}

theorem settled_respond {command : Command} (hcommand : world.inFlight[index]? = some command)
    (hdone : carriedOut ∨ command.isToggle = false) (uuid : String) :
    (world.respond index carriedOut).settled uuid = world.settled uuid := by
  have hlt : index < world.inFlight.length := (List.getElem?_eq_some_iff.mp hcommand).1
  have hcount : ∀ counted, world.inFlight.count counted =
      (world.inFlight.eraseIdx index).count counted + if command = counted then 1 else 0 := by
    intro counted
    have hperm := (getElem_cons_eraseIdx_perm hlt).count_eq counted
    rw [(List.getElem?_eq_some_iff.mp hcommand).2] at hperm
    rw [← hperm, count_cons]
    simp
  unfold World.respond
  rw [hcommand]
  by_cases htoggle : command = .toggleButton uuid
  · subst htoggle
    obtain rfl : carriedOut := hdone.resolve_right (by simp [Command.isToggle])
    simp only [World.settled, Command.carryOut, RawDevices.isOn_toggle, if_true, hcount,
      Option.map_map]
    rfl
  · have hequipment : (if carriedOut then command.carryOut world.equipment
        else world.equipment).isOn uuid = world.equipment.isOn uuid := by
      split_ifs
      · cases command with
        | toggleButton other =>
          have hne : uuid ≠ other := fun heq => htoggle (heq ▸ rfl)
          rw [Command.carryOut, RawDevices.isOn_toggle, if_neg hne]
        | setChlorinator percentage => rfl
        | setSetpoints isSpa celsius => rfl
      · rfl
    simp only [World.settled, hequipment, hcount, if_neg htoggle, Nat.add_zero]

theorem OnCourse.respond (h : OnCourse watched)
    (hdone : carriedOut ∨ ∀ sent ∈ watched.world.inFlight[index]?, sent.isToggle = false) :
    OnCourse (watched.step (.response index carriedOut)) := by
  intro uuid value hvalue on hon
  refine h uuid value hvalue on (Eq.trans ?_ hon)
  change _ = (watched.world.respond index carriedOut).settled uuid
  cases hcommand : watched.world.inFlight[index]? with
  | none => simp only [World.respond, hcommand]
  | some command =>
    exact (settled_respond hcommand (hdone.imp_right fun hother => hother command hcommand) _).symm

theorem OnCourse.equipmentChanged (h : OnCourse watched) (devices : RawDevices) :
    OnCourse (watched.step (.equipmentChanged devices)) := by
  intro uuid value hvalue on hon
  have hvalue' : (if devices.isOn uuid = watched.world.equipment.isOn uuid then watched.wanted uuid
      else none) = some value := hvalue
  split_ifs at hvalue' with hsame
  refine h uuid value hvalue' on ?_
  rwa [World.settled, ← hsame]

theorem notify_of_isOnOff {endpoint : BridgedEndpoint} (hkind : endpoint.IsOnOff)
    {handle : DeviceHandle} (hhandle : endpoint.handle = some handle) (value : Bool) :
    endpoint.notify (.onOff value) =
      if handle.applyingRemote ∨ value = handle.device.on then none
      else some (.toggleButton endpoint.uuid) := by
  unfold BridgedEndpoint.notify
  rw [hhandle]
  obtain ⟨hthermostat, hchlorinator⟩ := hkind
  cases hendpoint : endpoint.kind <;> simp_all [ite_or]

theorem notify_onOff (endpoint : BridgedEndpoint) (value : Bool) :
    endpoint.notify (.onOff value) = none ∨
      endpoint.IsOnOff ∧ endpoint.notify (.onOff value) = some (.toggleButton endpoint.uuid) := by
  unfold BridgedEndpoint.notify BridgedEndpoint.IsOnOff
  cases endpoint.handle with
  | none => exact .inl rfl
  | some handle =>
    dsimp only
    split_ifs
    · exact .inl rfl
    cases hkind : endpoint.kind <;> dsimp only <;> try exact .inl rfl
    all_goals
      split_ifs
      · exact .inl rfl
      · exact .inr ⟨⟨by decide, by decide⟩, rfl⟩

variable {endpoint : BridgedEndpoint} {write : AttributeWrite}

theorem notify_ne_toggle (hwrite : ∀ value, write ≠ .onOff value) (uuid : String) :
    endpoint.notify write ≠ some (.toggleButton uuid) := by
  unfold BridgedEndpoint.notify
  cases endpoint.handle with
  | none => simp
  | some handle =>
    dsimp only
    split_ifs
    · simp
    cases write with
    | onOff value => exact absurd rfl (hwrite value)
    | currentLevel value => cases endpoint.kind <;> cases value <;> simp
    | occupiedHeatingSetpoint value => cases endpoint.kind <;> simp

theorem settled_write (hendpoint : world.endpoints[index]? = some endpoint) (uuid : String) :
    (world.write index writes).settled uuid =
      (world.equipment.isOn uuid).map (not^[world.inFlight.count (.toggleButton uuid) +
        (writes.filterMap endpoint.notify).count (.toggleButton uuid)]) := by
  unfold World.write
  rw [hendpoint]
  simp only [World.settled, World.modifyEndpoint, count_append]

theorem settled_write_of_not_mem
    (hnone : ∀ endpoint, world.endpoints[index]? = some endpoint →
      endpoint.notify write ≠ some (.toggleButton uuid)) :
    (world.write index [write]).settled uuid = world.settled uuid := by
  cases hendpoint : world.endpoints[index]? with
  | none => rw [World.write, hendpoint]
  | some endpoint =>
    rw [settled_write hendpoint, World.settled]
    cases hsent : endpoint.notify write with
    | none => simp [hsent]
    | some command =>
      have hne : (command == .toggleButton uuid) = false := by
        simpa using fun heq : command = .toggleButton uuid =>
          hnone endpoint hendpoint (heq ▸ hsent)
      simp [hsent, count_cons, hne]

theorem settled_write_toggle (hendpoint : world.endpoints[index]? = some endpoint)
    (hsent : endpoint.notify write = some (.toggleButton uuid)) :
    (world.write index [write]).settled uuid = (world.settled uuid).map not := by
  rw [settled_write hendpoint, World.settled, Option.map_map]
  simp only [filterMap_cons, hsent, filterMap_nil, count_singleton_self, Function.iterate_succ']

/-- The device of an on/off endpoint goes where a write asks it to if the handler acts just when
the device has to be turned. -/
theorem eq_of_settled_onOff {on : Bool} (hendpoint : world.endpoints[index]? = some endpoint)
    (hacts : ∀ before, world.settled endpoint.uuid = some before →
      ((endpoint.notify (.onOff value)).isSome ↔ value ≠ before))
    (hon : (world.write index [.onOff value]).settled endpoint.uuid = some on) : on = value := by
  rcases notify_onOff endpoint value with hquiet | ⟨-, hsent⟩
  · have hnone : ∀ other, world.endpoints[index]? = some other →
        other.notify (.onOff value) ≠ some (.toggleButton endpoint.uuid) := by
      intro other hother
      rw [hendpoint] at hother
      cases hother
      rw [hquiet]
      exact (Option.some_ne_none _).symm
    rw [settled_write_of_not_mem hnone] at hon
    have hiff := hacts on hon
    rw [hquiet] at hiff
    by_contra hne
    exact absurd (hiff.mpr (Ne.symm hne)) (by decide)
  · rw [settled_write_toggle hendpoint hsent] at hon
    obtain ⟨before, hbefore, rfl⟩ := Option.map_eq_some_iff.mp hon
    have hne := (hacts before hbefore).mp (by rw [hsent]; rfl)
    exact (Bool.eq_not.mpr hne).symm

/-- It is another device, or no write to its switch. -/
theorem notify_ne_toggle_of_other (hother : ¬ (endpoint.IsOnOff ∧ uuid = endpoint.uuid)) :
    endpoint.notify (.onOff value) ≠ some (.toggleButton uuid) := by
  intro hsent
  rcases notify_onOff endpoint value with hquiet | ⟨hkind, htoggle⟩
  · rw [hquiet] at hsent
    cases hsent
  · rw [htoggle] at hsent
    exact hother ⟨hkind, (Command.toggleButton.inj (Option.some.inj hsent)).symm⟩

theorem want_commissioner_cases (h : watched.want (.commissioner index write) uuid = some value) :
    (watched.wanted uuid = some value ∧
      ∀ endpoint, watched.world.endpoints[index]? = some endpoint →
        endpoint.notify write ≠ some (.toggleButton uuid)) ∨
      ∃ endpoint, watched.world.endpoints[index]? = some endpoint ∧ endpoint.IsOnOff ∧
        uuid = endpoint.uuid ∧ write = .onOff value := by
  cases write with
  | currentLevel level => exact .inl ⟨h, fun _ _ => notify_ne_toggle (by simp) uuid⟩
  | occupiedHeatingSetpoint celsius => exact .inl ⟨h, fun _ _ => notify_ne_toggle (by simp) uuid⟩
  | onOff written =>
    cases hendpoint : watched.world.endpoints[index]? with
    | none =>
      refine .inl ⟨?_, by simp⟩
      simpa only [Watched.want, hendpoint] using h
    | some endpoint =>
      simp only [Watched.want, hendpoint] at h
      by_cases hswitch : endpoint.IsOnOff ∧ uuid = endpoint.uuid
      · obtain ⟨hkind, rfl⟩ := hswitch
        rw [if_pos hkind, Function.update_self] at h
        cases h
        exact .inr ⟨endpoint, rfl, hkind, rfl, rfl⟩
      · refine .inl ⟨?_, fun other hother => ?_⟩
        swap
        · exact Option.some.inj hother ▸ notify_ne_toggle_of_other hswitch
        split_ifs at h with hkind
        · rwa [Function.update_of_ne fun heq => hswitch ⟨hkind, heq⟩] at h
        · exact h

/-- What holds between the steps. -/
structure Orderly (watched : Watched) : Prop where
  sound : Sound watched.world watched.world.equipment watched.seen
  course : OnCourse watched

/-- The handler takes a write for what it is when it has been shown the device as it is, and acts
when nothing is being applied. -/
theorem Orderly.notify_iff (h : Orderly watched)
    (hendpoint : watched.world.endpoints[index]? = some endpoint) (hkind : endpoint.IsOnOff)
    (hseen : watched.seen index) {before : Bool}
    (hbefore : watched.world.equipment.isOn endpoint.uuid = some before)
    (hlistens : value = before ∨ watched.world.Listens index endpoint) :
    (endpoint.notify (.onOff value)).isSome ↔ value ≠ before := by
  cases hhandle : endpoint.handle with
  | none =>
    have hsame := hlistens.resolve_right fun hlistens => by simpa [hhandle] using hlistens.1
    simp [BridgedEndpoint.notify, hhandle, hsame]
  | some handle =>
    have haware := h.sound.aware index endpoint hendpoint handle hhandle
    have hon : handle.device.on = before :=
      Option.some.inj ((haware.seen hseen).symm.trans hbefore)
    rw [notify_of_isOnOff hkind hhandle, hon]
    by_cases hflag : handle.applyingRemote
    · obtain ⟨task, htask, happlies⟩ := haware.raised hflag
      have hsame := hlistens.resolve_right fun hlistens => hlistens.2 task htask happlies
      simp [hsame]
    · simp [hflag]

theorem OnCourse.commissioner (h : Orderly watched) (write : AttributeWrite)
    (hbehaves : Behaves watched (.commissioner index write)) :
    OnCourse (watched.step (.commissioner index write)) := by
  intro uuid value hwanted on hon
  change (watched.world.write index [write]).settled uuid = some on at hon
  rcases want_commissioner_cases hwanted with
    ⟨hsame, hquiet⟩ | ⟨endpoint, hendpoint, hkind, rfl, rfl⟩
  · rw [settled_write_of_not_mem hquiet] at hon
    exact h.course uuid value hsame on hon
  · refine eq_of_settled_onOff hendpoint (fun before hbefore => ?_) hon
    -- a toggle may be in flight as far as the state goes, but not when the bridge is informed
    obtain ⟨on', hon', -⟩ := Option.map_eq_some_iff.mp hbefore
    obtain ⟨⟨hseen, hnone⟩, hlistens⟩ := hbehaves.2.2 endpoint hendpoint hkind on' hon'
    rw [settled_of_not_mem hnone, hon'] at hbefore
    cases hbefore
    exact h.notify_iff hendpoint hkind hseen hon' hlistens

theorem Orderly.onCourse_step (h : Orderly watched) {event : Event}
    (hbehaves : Behaves watched event) :
    OnCourse (watched.step event) ∧ SentForCommissioner watched event := by
  have hquiet : SameCommands watched.world (watched.world.step event) →
      watched.want event = watched.wanted → OnCourse (watched.step event) ∧
        (watched.step event).world.sent = watched.world.sent :=
    fun hsame hwanted => ⟨h.course.same hsame hwanted, hsame.sent⟩
  cases event with
  | startRefresh => exact hquiet ⟨rfl, rfl, rfl⟩ rfl
  | applyButtonState uuid on => exact hquiet (sameCommands_applyButtonState _ uuid on) rfl
  | answer task =>
    refine hquiet ?_ rfl
    rw [World.step]
    split <;> exact ⟨rfl, rfl, rfl⟩
  | perform task =>
    exact hquiet (of_task (.refl _) fun state hstate => sameCommands_perform h.sound.aware hstate)
      rfl
  | resume task => exact hquiet (of_task (.refl _) fun state _ => sameCommands_resume _ _ state) rfl
  | throwIn task =>
    exact hquiet (of_task (.refl _) fun state _ => sameCommands_throwIn _ _ state) rfl
  | commissioner index write => exact ⟨.commissioner h write hbehaves, trivial⟩
  | response command carriedOut =>
    refine ⟨h.course.respond hbehaves.2.2, ?_⟩
    change (watched.world.respond command carriedOut).sent = watched.world.sent
    unfold World.respond
    split <;> rfl
  | equipmentChanged devices => exact ⟨h.course.equipmentChanged devices, rfl⟩

theorem Orderly.step (h : Orderly watched) {event : Event} (hbehaves : Behaves watched event) :
    Orderly (watched.step event) :=
  ⟨watched.sound_step h.sound hbehaves, (h.onCourse_step hbehaves).1⟩

theorem Orderly.correct (h : Orderly watched) : Correct watched := by
  refine ⟨h.sound.registered.oneEndpoint, fun uuid value hwanted hnone on hon => ?_⟩
  exact h.course uuid value hwanted on ((settled_of_not_mem hnone).trans hon)

theorem orderly_start (equipment : RawDevices) : Orderly (Watched.start equipment) where
  sound := ⟨⟨.nil, .nil, by simp [Watched.start], by simp [Watched.start],
    by simp [Watched.start]⟩, by simp [AllAware, Watched.start]⟩
  course := by simp [OnCourse, Watched.start]

end

/-- **When the bridge neither loses nor invents commands.**  In every interleaving in which no
application ends while a state waits that the handler would mistake, no two refreshes add one
device, and the bridge has seen how the device is before the next write, a device has one endpoint
at most, only the commissioner causes commands, and each device ends up in the state that was asked
for last. -/
theorem correct_of_behaves (equipment : RawDevices) (events : List Event)
    (h : EachStep Watched.step Behaves (Watched.start equipment) events) :
    EachState Watched.step Correct (Watched.start equipment) events ∧
      EachStep Watched.step SentForCommissioner (Watched.start equipment) events := by
  constructor
  · have horderly : EachState Watched.step Orderly (Watched.start equipment) events :=
      h.eachState_of_step (fun _ _ hs hbehaves => hs.step hbehaves) (orderly_start equipment)
    exact horderly.mono fun _ => Orderly.correct
  · exact h.of_invariant (fun _ _ hs hbehaves => Orderly.step hs hbehaves)
      (fun _ _ hs hbehaves => (Orderly.onCourse_step hs hbehaves).2) (orderly_start equipment)

/-! ### A pump that is switched off again, and a level that comes back -/

def pumpOnly : RawDevices where
  pumps := [{ id := some "pump", label := some "Filter Pump", state := some "Off" }]

/-- A refresh with nothing in between, which adds a device or applies its state. -/
def refreshAlone (task : ℕ) : List Event :=
  [.startRefresh, .answer task, .resume task, .resume task, .perform task, .resume task,
    .resume task]

def offAfterRefresh : List Event :=
  refreshAlone 0 ++ [.commissioner 0 (.onOff true), .response 0 true] ++ refreshAlone 1 ++
    [.commissioner 0 (.onOff false), .response 0 true]

theorem correct_offAfterRefresh :
    EachState Watched.step Correct (Watched.start pumpOnly) offAfterRefresh ∧
      EachStep Watched.step SentForCommissioner (Watched.start pumpOnly) offAfterRefresh :=
  correct_of_behaves pumpOnly offAfterRefresh (by decide +kernel)

def offBeforeRefresh : List Event :=
  refreshAlone 0 ++ [.commissioner 0 (.onOff true), .response 0 true,
    .commissioner 0 (.onOff false)] ++ refreshAlone 1

def chlorinatorOnly : RawDevices where
  auxillaries := [{ id := some "swg", state := some "On", generatingPercentage := some 40 }]

/-- Two refreshes that apply the state of the device at a time. -/
def twoRefreshes : List Event :=
  refreshAlone 0 ++ [.startRefresh, .startRefresh, .answer 1, .answer 2, .resume 1, .resume 2,
    .resume 1, .resume 2, .perform 1, .resume 1, .perform 2]

/-- The pump goes on running, and the level that the API has given goes back to it. -/
theorem off_lost_and_level_echoed :
    let pump := offBeforeRefresh.foldl Watched.step (Watched.start pumpOnly)
    let chlorinator := twoRefreshes.foldl Watched.step (Watched.start chlorinatorOnly)
    pump.world.tasks = [.done, .done] ∧ pump.world.inFlight = [] ∧
      pump.wanted "pump" = some false ∧ pump.world.equipment.isOn "pump" = some true ∧
      ¬ Correct pump ∧ chlorinator.world.sent = [.setChlorinator 40] ∧
      ∀ index write, .commissioner index write ∉ twoRefreshes := by
  intro pump chlorinator
  have htasks : pump.world.tasks = [.done, .done] := by decide +kernel
  have hflight : pump.world.inFlight = [] := by decide +kernel
  have hwanted : pump.wanted "pump" = some false := by decide +kernel
  have hon : pump.world.equipment.isOn "pump" = some true := by decide +kernel
  refine ⟨htasks, hflight, hwanted, hon, fun hcorrect => ?_, by decide +kernel, ?_⟩
  · have hfalse := hcorrect.obeys "pump" false hwanted (by rw [hflight]; exact not_mem_nil) true hon
    cases hfalse
  · intro index write
    simp [twoRefreshes, refreshAlone]

end AqualinkAutomate.MatterBridge
