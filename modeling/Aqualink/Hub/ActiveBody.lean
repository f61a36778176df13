import Aqualink.Hub.Bodies

/-!
# The active body

The bodies are built by the first known configuration that is applied.  A later one is noted,
and leaves the bodies as they are.  Of the bodies exactly one is active: the only one, or of two
the one of the circulation mode.
-/

namespace AqualinkAutomate.Hub

open Equipment General List

inductive ConfigurationCall where
  | applyPoolConfiguration (config : PoolConfigurations) (source : ConfigurationSource)
      (singleBodyKind : BodyOfWaterIds)
  | setCirculationMode (mode : CirculationModes)
  deriving DecidableEq

namespace DataHub

variable {τ : Type*} {hub : DataHub τ}

def configure (hub : DataHub τ) : ConfigurationCall → DataHub τ
  | .applyPoolConfiguration config source singleBodyKind =>
    hub.applyPoolConfiguration config source singleBodyKind
  | .setCirculationMode mode => (hub.setCirculationMode mode).1

def configured (τ : Type*) (calls : List ConfigurationCall) : DataHub τ :=
  calls.foldl configure {}

def firstKnown (calls : List ConfigurationCall) : Option (PoolConfigurations × BodyOfWaterIds) :=
  calls.findSome? fun
    | .applyPoolConfiguration config _ singleBodyKind =>
      if config = .unknown then none else some (config, singleBodyKind)
    | .setCirculationMode _ => none

theorem configured_append_singleton (calls : List ConfigurationCall) (call : ConfigurationCall) :
    configured τ (calls ++ [call]) = (configured τ calls).configure call :=
  foldl_append

/-! ## The bodies after one call -/

variable {config : PoolConfigurations}

theorem impliedBodies_ne_nil (h : config ≠ .unknown) (singleBodyKind : BodyOfWaterIds)
    (mode : CirculationModes) : impliedBodies (τ := τ) config singleBodyKind mode ≠ [] := by
  cases config with
  | unknown => exact absurd rfl h
  | singleBody =>
    by_cases hkind : singleBodyKind = .spa <;> simp [impliedBodies, configuredBodies, hkind]
  | dualBodySharedEquipment | dualBodyDualEquipment => simp [impliedBodies, configuredBodies]

variable {singleBodyKind : BodyOfWaterIds}

theorem bodies_setCirculationMode {before : CirculationModes}
    (h : hub.bodies = impliedBodies config singleBodyKind before) (mode : CirculationModes) :
    (hub.setCirculationMode mode).1.bodies = impliedBodies config singleBodyKind mode := by
  cases config with
  | unknown | dualBodySharedEquipment | dualBodyDualEquipment =>
    simp [setCirculationMode, followMode, getBody, modifyBody, modifyFirst, impliedBodies,
      configuredBodies, BodyOfWater.setActive, h]
  | singleBody =>
    by_cases hkind : singleBodyKind = .spa <;>
      simp [setCirculationMode, followMode, getBody, impliedBodies, configuredBodies,
        BodyOfWater.setActive, h, hkind]

theorem circulationMode_setCirculationMode (mode : CirculationModes) :
    (hub.setCirculationMode mode).1.circulationMode = mode := by
  unfold setCirculationMode followMode
  split <;> rfl

theorem circulationMode_applyPoolConfiguration (config : PoolConfigurations)
    (source : ConfigurationSource) (singleBodyKind : BodyOfWaterIds) :
    (hub.applyPoolConfiguration config source singleBodyKind).circulationMode =
      hub.circulationMode := by
  obtain ⟨bodies, hbodies⟩ := hub.applyPoolConfiguration_eq config source singleBodyKind
  rw [hbodies]

theorem poolConfiguration_setCirculationMode (mode : CirculationModes) :
    (hub.setCirculationMode mode).1.poolConfiguration = hub.poolConfiguration := by
  unfold setCirculationMode followMode
  split <;> rfl

/-! ## The bodies after all the calls -/

theorem firstKnown_append (calls : List ConfigurationCall) (call : ConfigurationCall) :
    firstKnown (calls ++ [call]) = (firstKnown calls).or (firstKnown [call]) :=
  findSome?_append

variable {calls : List ConfigurationCall}

theorem firstKnown_ne_unknown {first : PoolConfigurations × BodyOfWaterIds}
    (h : firstKnown calls = some first) : first.1 ≠ .unknown := by
  obtain ⟨call, -, hcall⟩ := exists_of_findSome?_eq_some h
  cases call with
  | setCirculationMode mode => cases hcall
  | applyPoolConfiguration config source singleBodyKind =>
    dsimp only at hcall
    split at hcall
    next => cases hcall
    next hknown =>
      cases hcall
      exact hknown

theorem bodies_configured (calls : List ConfigurationCall) :
    (configured τ calls).bodies =
      match firstKnown calls with
      | some (config, singleBodyKind) =>
        impliedBodies config singleBodyKind (configured τ calls).circulationMode
      | none => [] := by
  induction calls using reverseRecOn with
  | nil => rfl
  | append_singleton calls call ih =>
    rw [configured_append_singleton, firstKnown_append]
    cases hfirst : firstKnown calls with
    | none =>
      rw [hfirst] at ih
      cases call with
      | applyPoolConfiguration config source singleBodyKind =>
        rw [configure, bodies_applyPoolConfiguration ih, circulationMode_applyPoolConfiguration]
        by_cases hknown : config = .unknown <;>
          simp [firstKnown, hknown, impliedBodies, configuredBodies]
      | setCirculationMode mode =>
        simp [configure, setCirculationMode, followMode, getBody, ih, firstKnown]
    | some first =>
      rw [hfirst] at ih
      cases call with
      | applyPoolConfiguration config source singleBodyKind =>
        have hbuilt : (configured τ calls).bodies ≠ [] := by
          rw [ih]
          exact impliedBodies_ne_nil (firstKnown_ne_unknown hfirst) first.2 _
        rw [configure, bodies_applyPoolConfiguration_of_ne_nil hbuilt,
          circulationMode_applyPoolConfiguration]
        exact ih
      | setCirculationMode mode =>
        rw [configure, bodies_setCirculationMode ih, circulationMode_setCirculationMode]
        rfl

theorem firstKnown_isSome (h : (configured τ calls).poolConfiguration ≠ .unknown) :
    (firstKnown calls).isSome := by
  induction calls using reverseRecOn with
  | nil => exact absurd rfl h
  | append_singleton calls call ih =>
    rw [firstKnown_append, Option.isSome_or, Bool.or_eq_true]
    rw [configured_append_singleton] at h
    cases call with
    | applyPoolConfiguration config source singleBodyKind =>
      rw [configure, poolConfiguration_applyPoolConfiguration] at h
      right
      simp [firstKnown, h]
    | setCirculationMode mode =>
      rw [configure, poolConfiguration_setCirculationMode] at h
      exact .inl (ih h)

theorem map_id_impliedBodies (config : PoolConfigurations) (singleBodyKind : BodyOfWaterIds)
    (mode : CirculationModes) :
    (impliedBodies (τ := τ) config singleBodyKind mode).map BodyOfWater.id =
      (configuredBodies (τ := τ) config singleBodyKind).map BodyOfWater.id := by
  unfold impliedBodies
  rw [map_map]
  rfl

theorem countP_impliedBodies (h : config ≠ .unknown) (singleBodyKind : BodyOfWaterIds)
    (mode : CirculationModes) :
    (impliedBodies (τ := τ) config singleBodyKind mode).countP BodyOfWater.isActive = 1 := by
  cases config with
  | unknown => exact absurd rfl h
  | singleBody =>
    by_cases hkind : singleBodyKind = .spa <;> simp [impliedBodies, configuredBodies, hkind]
  | dualBodySharedEquipment | dualBodyDualEquipment =>
    cases hspa : mode.isSpa <;>
      simp [impliedBodies, configuredBodies, countP_cons, hspa]

theorem activity_spa_of_impliedBodies (h : config ≠ .unknown) (hdual : config ≠ .singleBody)
    {mode : CirculationModes} (hbodies : hub.bodies = impliedBodies config singleBodyKind mode) :
    hub.activity .spa = some mode.isSpa := by
  cases config with
  | unknown => exact absurd rfl h
  | singleBody => exact absurd rfl hdual
  | dualBodySharedEquipment | dualBodyDualEquipment =>
    simp [activity, getBody, hbodies, impliedBodies, configuredBodies]

/-- Once the configuration is known, the bodies are those of the first known configuration, and
exactly one of them is active: of two, the one of the circulation mode. -/
theorem one_body_active (calls : List ConfigurationCall)
    (h : (configured τ calls).poolConfiguration ≠ .unknown) :
    ∃ config singleBodyKind, firstKnown calls = some (config, singleBodyKind) ∧
      (configured τ calls).bodies.map BodyOfWater.id =
        (configuredBodies (τ := τ) config singleBodyKind).map BodyOfWater.id ∧
      (configured τ calls).bodies.countP BodyOfWater.isActive = 1 ∧
      (config ≠ .singleBody →
        (configured τ calls).activity .spa = some (configured τ calls).circulationMode.isSpa) := by
  obtain ⟨⟨config, singleBodyKind⟩, hfirst⟩ := Option.isSome_iff_exists.mp (firstKnown_isSome h)
  have hknown : config ≠ .unknown := firstKnown_ne_unknown hfirst
  have hbodies := bodies_configured (τ := τ) calls
  rw [hfirst] at hbodies
  refine ⟨config, singleBodyKind, hfirst, ?_, ?_, fun hdual => ?_⟩
  · rw [hbodies]
    exact map_id_impliedBodies config singleBodyKind _
  · rw [hbodies]
    exact countP_impliedBodies hknown singleBodyKind _
  · exact activity_spa_of_impliedBodies hknown hdual hbodies

theorem one_body_active_spa_mode :
    ∃ config singleBodyKind,
      firstKnown [.applyPoolConfiguration .dualBodySharedEquipment .auto .pool,
        .setCirculationMode .spaFill] = some (config, singleBodyKind) ∧
      (configured ℕ [.applyPoolConfiguration .dualBodySharedEquipment .auto .pool,
        .setCirculationMode .spaFill]).activity .spa = some true := by
  obtain ⟨config, singleBodyKind, hfirst, -, -, hdual⟩ := one_body_active (τ := ℕ)
    [.applyPoolConfiguration .dualBodySharedEquipment .auto .pool, .setCirculationMode .spaFill]
    PoolConfigurations.noConfusion
  cases hfirst
  exact ⟨_, _, rfl, hdual PoolConfigurations.noConfusion⟩

/-- A system is taken for one with two bodies and found to have one: it keeps both. -/
theorem corrected_guess_keeps_bodies :
    ¬ ∀ calls : List ConfigurationCall, (configured ℕ calls).poolConfiguration ≠ .unknown →
      ∃ singleBodyKind, (configured ℕ calls).bodies.map BodyOfWater.id =
        (configuredBodies (τ := ℕ) (configured ℕ calls).poolConfiguration singleBodyKind).map
          BodyOfWater.id := by
  intro h
  obtain ⟨singleBodyKind, hbodies⟩ := h
    [.applyPoolConfiguration .dualBodySharedEquipment .auto .pool,
      .applyPoolConfiguration .singleBody .userSpecified .pool] PoolConfigurations.noConfusion
  cases singleBodyKind <;> cases hbodies

end DataHub

end AqualinkAutomate.Hub
