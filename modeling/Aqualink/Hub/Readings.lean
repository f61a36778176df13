import Aqualink.Hub.Bodies

/-!
# Temperatures read are temperatures written

A temperature is kept in the hub and in its body.  A body that is there is asked first, and
what was reported before it joined stays in the hub alone: the body answers that nothing was
reported, and the next report is announced only if it differs from the one in the hub.

So what is read is what was last written as long as every body that joins brings with it what
was last written of its readings.
-/

namespace AqualinkAutomate.Hub

open Equipment General List

variable {τ : Type*} [DecidableEq τ]

/-- What happens at the hub. -/
inductive HubEvent (τ : Type*) where
  | write (reading : Reading) (value : τ)
  | applyPoolConfiguration (config : PoolConfigurations) (source : ConfigurationSource)
      (singleBodyKind : BodyOfWaterIds)
  | addBody (body : BodyOfWater τ)
  | setCirculationMode (mode : CirculationModes)

namespace DataHub

def react (hub : DataHub τ) : HubEvent τ → DataHub τ × List (ConfigEvent τ)
  | .write reading value => hub.write reading value
  | .applyPoolConfiguration config source singleBodyKind =>
    (hub.applyPoolConfiguration config source singleBodyKind, [])
  | .addBody body => (hub.addBody body, [])
  | .setCirculationMode mode => hub.setCirculationMode mode

def joining (hub : DataHub τ) : HubEvent τ → List (BodyOfWater τ)
  | .applyPoolConfiguration config _ singleBodyKind =>
    if hub.bodies = [] then configuredBodies config singleBodyKind else []
  | .addBody body => if hub.getBody body.id = none then [body] else []
  | _ => []

end DataHub

structure HubWatch (τ : Type*) where
  hub : DataHub τ := {}
  written : Reading → Option τ := fun _ => none

namespace HubWatch

def note (written : Reading → Option τ) : HubEvent τ → Reading → Option τ
  | .write reading value => Function.update written reading (some value)
  | _ => written

def step (watch : HubWatch τ) (event : HubEvent τ) : HubWatch τ where
  hub := (watch.hub.react event).1
  written := note watch.written event

def ReadsLastWritten (watch : HubWatch τ) : Prop :=
  ∀ reading, watch.hub.read reading = watch.written reading

/-- A reading that changes is announced with its new value. -/
def Announces (watch : HubWatch τ) (event : HubEvent τ) : Prop :=
  ∀ reading, (watch.step event).hub.read reading ≠ watch.hub.read reading →
    ∃ value, (watch.step event).hub.read reading = some value ∧
      .temperature reading value ∈ (watch.hub.react event).2

def JoinsAsWritten (watch : HubWatch τ) (event : HubEvent τ) : Prop :=
  ∀ body ∈ watch.hub.joining event, ∀ reading : Reading, reading.body = body.id →
    body.get reading = watch.written reading

/-! ## One event -/

def KeepsWritten (watch : HubWatch τ) : Prop :=
  ∀ reading, watch.hub.reported reading = watch.written reading

variable {watch : HubWatch τ} {event : HubEvent τ}

theorem KeepsWritten.step (h : watch.KeepsWritten) (event : HubEvent τ) :
    (watch.step event).KeepsWritten := by
  intro reading
  cases event with
  | write written value =>
    change Function.update watch.hub.reported written (some value) reading =
      Function.update watch.written written (some value) reading
    rw [funext h]
  | applyPoolConfiguration config source singleBodyKind =>
    exact (congrFun (DataHub.reported_applyPoolConfiguration config source singleBodyKind)
      reading).trans (h reading)
  | addBody body => exact (congrFun (DataHub.reported_addBody body) reading).trans (h reading)
  | setCirculationMode mode =>
    exact (congrFun (DataHub.reported_followMode mode) reading).trans (h reading)

theorem readsLastWritten_addBody_iff (hread : watch.ReadsLastWritten) (body : BodyOfWater τ) :
    (watch.step (.addBody body)).ReadsLastWritten ↔ watch.JoinsAsWritten (.addBody body) := by
  change (∀ reading, (watch.hub.addBody body).read reading = watch.written reading) ↔
    ∀ joined ∈ if watch.hub.getBody body.id = none then [body] else [], _
  by_cases hnew : watch.hub.getBody body.id = none
  · rw [if_pos hnew, forall_mem_singleton]
    refine forall_congr' fun reading => ?_
    rw [DataHub.read_addBody]
    by_cases hbody : reading.body = body.id
    · rw [if_pos ⟨hnew, hbody⟩]
      exact ⟨fun h _ => h, fun h => h hbody⟩
    · rw [if_neg fun h => hbody h.2]
      exact iff_of_true (hread reading) fun h => absurd h hbody
  · rw [if_neg hnew]
    refine iff_of_true (fun reading => ?_) (fun joined h => absurd h not_mem_nil)
    rw [DataHub.read_addBody, if_neg fun h => hnew h.1]
    exact hread reading

section

variable (hkept : watch.KeepsWritten) (hread : watch.ReadsLastWritten)

include hkept hread

theorem readsLastWritten_applyPoolConfiguration_iff (config : PoolConfigurations)
    (source : ConfigurationSource) (singleBodyKind : BodyOfWaterIds) :
    (watch.step (.applyPoolConfiguration config source singleBodyKind)).ReadsLastWritten ↔
      watch.JoinsAsWritten (.applyPoolConfiguration config source singleBodyKind) := by
  change (∀ reading, (watch.hub.applyPoolConfiguration config source singleBodyKind).read reading =
      watch.written reading) ↔
    ∀ joined ∈ if watch.hub.bodies = [] then _ else [], _
  by_cases hempty : watch.hub.bodies = []
  · rw [if_pos hempty]
    constructor
    · intro h body hbody reading hreading
      rw [DataHub.get_of_mem_configuredBodies hbody, ← h reading,
        DataHub.read_applyPoolConfiguration hempty, if_pos ⟨body, hbody, hreading.symm⟩]
    · intro h reading
      rw [DataHub.read_applyPoolConfiguration hempty]
      split
      next hbody =>
        obtain ⟨body, hmem, hid⟩ := hbody
        rw [← h body hmem reading hid.symm, DataHub.get_of_mem_configuredBodies hmem]
      next => exact hkept reading
  · rw [if_neg hempty]
    refine iff_of_true (fun reading => ?_) (fun joined h => absurd h not_mem_nil)
    rw [DataHub.read_applyPoolConfiguration_of_ne_nil hempty]
    exact hread reading

theorem readsLastWritten_step_iff :
    (watch.step event).ReadsLastWritten ↔ watch.JoinsAsWritten event := by
  cases event with
  | write written value =>
    refine iff_of_true (fun reading => ?_) (fun body hbody => absurd hbody not_mem_nil)
    calc (watch.hub.write written value).1.read reading
        = if reading = written then some value else watch.hub.read reading :=
          DataHub.read_write written reading value
      _ = if reading = written then some value else watch.written reading := by
          rw [hread reading]
      _ = Function.update watch.written written (some value) reading :=
          (Function.update_apply watch.written written (some value) reading).symm
  | setCirculationMode mode =>
    refine iff_of_true (fun reading => ?_) (fun body hbody => absurd hbody not_mem_nil)
    exact (DataHub.read_setCirculationMode mode reading).trans (hread reading)
  | addBody body => exact readsLastWritten_addBody_iff hread body
  | applyPoolConfiguration config source singleBodyKind =>
    exact readsLastWritten_applyPoolConfiguration_iff hkept hread config source singleBodyKind

theorem announces_of_joinsAsWritten (h : watch.JoinsAsWritten event) : watch.Announces event := by
  have hnext := (readsLastWritten_step_iff hkept hread).mpr h
  intro reading hchange
  rw [hnext reading, hread reading] at hchange
  cases event with
  | write written value =>
    have hwritten : (watch.step (.write written value)).written reading =
        if reading = written then some value else watch.written reading :=
      Function.update_apply watch.written written (some value) reading
    by_cases hreading : reading = written
    · rw [hwritten, if_pos hreading] at hchange
      rw [hreading] at hchange hwritten ⊢
      rw [if_pos rfl] at hwritten
      refine ⟨value, (hnext written).trans hwritten, ?_⟩
      have hreported : watch.hub.reported written ≠ some value := by
        rw [hkept written]
        exact hchange.symm
      have hchanged : DataHub.temperatureChanged (watch.hub.reported written) value :=
        decide_eq_true hreported
      change _ ∈ if DataHub.temperatureChanged (watch.hub.reported written) value then _ else []
      rw [if_pos hchanged]
      exact List.mem_singleton.mpr rfl
    · rw [hwritten, if_neg hreading] at hchange
      exact absurd rfl hchange
  | applyPoolConfiguration | addBody | setCirculationMode => exact absurd rfl hchange

end

/-! ## All the events -/

/-- What is read is what was last written, and every change is announced, in exactly the runs in
which every body that joins brings what was last written. -/
theorem reads_last_written_iff (events : List (HubEvent τ)) :
    EachState HubWatch.step ReadsLastWritten {} events ∧
        EachStep HubWatch.step Announces {} events ↔
      EachStep HubWatch.step JoinsAsWritten ({} : HubWatch τ) events := by
  have hkept : EachStep HubWatch.step (fun watch _ => KeepsWritten watch) ({} : HubWatch τ)
      events := by
    refine eachStep_true.of_invariant (fun watch event h _ => h.step event)
      (fun watch event h _ => h) (fun _ => rfl)
  have hstates : EachState HubWatch.step ReadsLastWritten ({} : HubWatch τ) events ↔
      EachStep HubWatch.step JoinsAsWritten {} events := by
    refine hkept.eachState_iff (fun watch event hread hkept => ?_) (fun _ => rfl)
    exact readsLastWritten_step_iff hkept hread
  refine ⟨fun h => hstates.mp h.1, fun h => ⟨hstates.mpr h, ?_⟩⟩
  refine EachStep.of_invariant (Q := fun watch => KeepsWritten watch ∧ ReadsLastWritten watch)
    (fun watch event hinv hjoin => ?_) (fun watch event hinv hjoin => ?_)
    ⟨fun _ => rfl, fun _ => rfl⟩ h
  · exact ⟨hinv.1.step event, (readsLastWritten_step_iff hinv.1 hinv.2).mpr hjoin⟩
  · exact announces_of_joinsAsWritten hinv.1 hinv.2 hjoin

/-- The pool temperature is reported before the configuration is known.  It is lost when the body
joins, and the same temperature is not announced when it is reported again. -/
theorem reading_lost :
    ¬ EachState HubWatch.step ReadsLastWritten ({} : HubWatch ℕ)
        [.write .poolTemp 28, .applyPoolConfiguration .singleBody .auto .pool] ∧
      ¬ EachStep HubWatch.step Announces ({} : HubWatch ℕ)
        [.write .poolTemp 28, .applyPoolConfiguration .singleBody .auto .pool,
          .write .poolTemp 28] := by
  constructor
  · intro h
    have hlast := h.last .poolTemp
    cases hlast
  · intro h
    obtain ⟨value, -, hevent⟩ := h.2.2.1 .poolTemp (Option.some_ne_none 28)
    cases hevent

end HubWatch

end AqualinkAutomate.Hub
