import Mathlib.Order.Monotone.Basic

/-!
# Loops and chains of tail calls

A loop body, or a group of functions that only ever call each other in tail position, is a
function `body : σ → Pass σ ρ`: from a state it either goes round `again` or is `done` with a
result.  `iterate body fuel` runs it for at most `fuel` passes; what is said about the program is
said for every amount of fuel.

* `Returns body s r`: some number of passes leads from `s` to the result `r`.
* `Terminates body s`: there is such a result.  A measure that every further pass lowers gives
  termination (`isSome_iterate_of_measure`); a set of states that the loop never leaves rules it
  out (`not_terminates_of_invariant`).
* `Returns.of_invariant` carries an invariant to the result, and `iterate_related` carries a
  relation through two loops run side by side.
-/

namespace AqualinkAutomate.General

variable {σ τ ρ κ : Type*}

inductive Pass (σ ρ : Type*) where
  | again (next : σ)
  | done (result : ρ)

/-- At most `fuel` passes of the loop. -/
def iterate (body : σ → Pass σ ρ) : ℕ → σ → Option ρ
  | 0, _ => none
  | fuel + 1, s =>
    match body s with
    | .again next => iterate body fuel next
    | .done result => some result

/-- The loop started in `s` ends with `r`. -/
def Returns (body : σ → Pass σ ρ) (s : σ) (r : ρ) : Prop :=
  ∃ fuel, iterate body fuel s = some r

/-- The loop started in `s` ends. -/
def Terminates (body : σ → Pass σ ρ) (s : σ) : Prop :=
  ∃ r, Returns body s r

section

variable {body : σ → Pass σ ρ} {s next : σ} {r r' : ρ}

theorem iterate_succ_of_again (h : body s = .again next) (fuel : ℕ) :
    iterate body (fuel + 1) s = iterate body fuel next := by
  simp [iterate, h]

theorem iterate_succ_of_done (h : body s = .done r) (fuel : ℕ) :
    iterate body (fuel + 1) s = some r := by
  simp [iterate, h]

theorem iterate_mono {fuel more : ℕ} (hle : fuel ≤ more) (h : iterate body fuel s = some r) :
    iterate body more s = some r := by
  induction fuel generalizing s more with
  | zero => simp [iterate] at h
  | succ fuel ih =>
    obtain ⟨more, rfl⟩ : ∃ m, more = m + 1 := ⟨more - 1, by omega⟩
    cases hbody : body s with
    | again next =>
      rw [iterate_succ_of_again hbody] at h ⊢
      exact ih (by omega) h
    | done result =>
      rw [iterate_succ_of_done hbody] at h ⊢
      exact h

theorem Returns.unique (h : Returns body s r) (h' : Returns body s r') : r = r' := by
  obtain ⟨fuel, hfuel⟩ := h
  obtain ⟨fuel', hfuel'⟩ := h'
  have hmax := iterate_mono (Nat.le_max_left fuel fuel') hfuel
  have hmax' := iterate_mono (Nat.le_max_right fuel fuel') hfuel'
  exact Option.some_inj.mp (hmax.symm.trans hmax')

theorem returns_of_done (h : body s = .done r) : Returns body s r :=
  ⟨1, iterate_succ_of_done h 0⟩

theorem returns_iff_of_again (h : body s = .again next) :
    Returns body s r ↔ Returns body next r := by
  constructor
  · rintro ⟨fuel, hfuel⟩
    cases fuel with
    | zero => simp [iterate] at hfuel
    | succ fuel => exact ⟨fuel, by rwa [iterate_succ_of_again h] at hfuel⟩
  · rintro ⟨fuel, hfuel⟩
    exact ⟨fuel + 1, by rwa [iterate_succ_of_again h]⟩

def Pass.Ends (body : σ → Pass σ ρ) : Pass σ ρ → Prop
  | .again next => Terminates body next
  | .done _ => True

theorem terminates_iff_ends (body : σ → Pass σ ρ) (s : σ) :
    Terminates body s ↔ (body s).Ends body := by
  cases hbody : body s with
  | again next =>
    unfold Terminates
    simp only [returns_iff_of_again hbody]
    rfl
  | done r => exact iff_of_true ⟨r, returns_of_done hbody⟩ trivial

theorem Returns.of_invariant (inv : σ → Prop) (post : ρ → Prop)
    (hagain : ∀ s next, inv s → body s = .again next → inv next)
    (hdone : ∀ s r, inv s → body s = .done r → post r)
    (hs : inv s) (h : Returns body s r) : post r := by
  obtain ⟨fuel, hfuel⟩ := h
  induction fuel generalizing s with
  | zero => simp [iterate] at hfuel
  | succ fuel ih =>
    cases hbody : body s with
    | again next =>
      rw [iterate_succ_of_again hbody] at hfuel
      exact ih (hagain s next hs hbody) hfuel
    | done result =>
      rw [iterate_succ_of_done hbody] at hfuel
      obtain rfl : result = r := Option.some_inj.mp hfuel
      exact hdone s _ hs hbody

def Pass.Holds (states : σ → Prop) (results : ρ → Prop) : Pass σ ρ → Prop
  | .again next => states next
  | .done result => results result

theorem Returns.of_holds (states : σ → Prop) (results : ρ → Prop)
    (hpass : ∀ s, states s → (body s).Holds states results)
    (hfirst : (body s).Holds states results) (h : Returns body s r) : results r := by
  cases hbody : body s with
  | done result =>
    rw [hbody] at hfirst
    rwa [h.unique (returns_of_done hbody)]
  | again next =>
    rw [hbody] at hfirst
    refine Returns.of_invariant states results ?_ ?_ hfirst ((returns_iff_of_again hbody).mp h)
    · intro s next hstate hagain
      have hholds := hpass s hstate
      rwa [hagain] at hholds
    · intro s r hstate hdone
      have hholds := hpass s hstate
      rwa [hdone] at hholds

theorem isSome_iterate_of_measure (inv : σ → Prop) (measure : σ → ℕ)
    (hagain : ∀ s next, inv s → body s = .again next → inv next ∧ measure next < measure s)
    (hs : inv s) : (iterate body (measure s + 1) s).isSome := by
  induction hm : measure s using Nat.strong_induction_on generalizing s with
  | _ m ih =>
    cases hbody : body s with
    | done result => rw [iterate_succ_of_done hbody]; rfl
    | again next =>
      obtain ⟨hinv, hlt⟩ := hagain s next hs hbody
      rw [iterate_succ_of_again hbody]
      obtain ⟨result, hresult⟩ := Option.isSome_iff_exists.mp (ih _ (hm ▸ hlt) hinv rfl)
      rw [iterate_mono (by omega) hresult]
      rfl

/-- A loop that stays inside a set of states without ending never ends. -/
theorem not_terminates_of_invariant (inv : σ → Prop)
    (hstay : ∀ s, inv s → ∃ next, body s = .again next ∧ inv next) (hs : inv s) :
    ¬ Terminates body s := by
  rintro ⟨r, fuel, hfuel⟩
  induction fuel generalizing s with
  | zero => simp [iterate] at hfuel
  | succ fuel ih =>
    obtain ⟨next, hbody, hnext⟩ := hstay s hs
    rw [iterate_succ_of_again hbody] at hfuel
    exact ih hnext hfuel

/-! ### The states of a loop -/

/-- The state after so many passes, if the loop has not ended by then. -/
def stateAfter (body : σ → Pass σ ρ) : ℕ → σ → Option σ
  | 0, s => some s
  | passes + 1, s =>
    match body s with
    | .again next => stateAfter body passes next
    | .done _ => none

@[simp] theorem stateAfter_zero : stateAfter body 0 s = some s := rfl

theorem stateAfter_succ_of_again (h : body s = .again next) (passes : ℕ) :
    stateAfter body (passes + 1) s = stateAfter body passes next := by
  simp [stateAfter, h]

theorem Terminates.exists_stateAfter_eq_none (h : Terminates body s) :
    ∃ last, ∀ passes, last ≤ passes → stateAfter body passes s = none := by
  obtain ⟨r, fuel, hfuel⟩ := h
  induction fuel generalizing s with
  | zero => simp [iterate] at hfuel
  | succ fuel ih =>
    cases hbody : body s with
    | done result =>
      refine ⟨1, fun passes hle => ?_⟩
      obtain ⟨passes, rfl⟩ : ∃ m, passes = m + 1 := ⟨passes - 1, by omega⟩
      simp [stateAfter, hbody]
    | again next =>
      rw [iterate_succ_of_again hbody] at hfuel
      obtain ⟨last, hlast⟩ := ih hfuel
      refine ⟨last + 1, fun passes hle => ?_⟩
      obtain ⟨passes, rfl⟩ : ∃ m, passes = m + 1 := ⟨passes - 1, by omega⟩
      rw [stateAfter_succ_of_again hbody]
      exact hlast passes (by omega)

theorem exists_stateAfter_of_not_terminates (h : ¬ Terminates body s) (passes : ℕ) :
    ∃ t, stateAfter body passes s = some t ∧ ¬ Terminates body t := by
  induction passes generalizing s with
  | zero => exact ⟨s, rfl, h⟩
  | succ passes ih =>
    rw [terminates_iff_ends] at h
    cases hbody : body s with
    | done result =>
      rw [hbody] at h
      exact absurd trivial h
    | again next =>
      rw [hbody] at h
      rw [stateAfter_succ_of_again hbody]
      exact ih h

theorem exists_again_of_not_terminates (h : ¬ Terminates body s) :
    ∃ next, body s = .again next := by
  cases hbody : body s with
  | again next => exact ⟨next, rfl⟩
  | done result => exact absurd ⟨result, returns_of_done hbody⟩ h

theorem stateAfter_succ {passes : ℕ} {t : σ} (h : stateAfter body passes s = some t)
    (hbody : body t = .again next) : stateAfter body (passes + 1) s = some next := by
  induction passes generalizing s with
  | zero =>
    obtain rfl : s = t := Option.some_inj.mp h
    rw [stateAfter_succ_of_again hbody, stateAfter_zero]
  | succ passes ih =>
    cases hfirst : body s with
    | again second =>
      rw [stateAfter_succ_of_again hfirst] at h ⊢
      exact ih h
    | done result =>
      rw [stateAfter, hfirst] at h
      cases h

/-- A sequence that does not rise, and falls where `P` does not hold, comes to where `P` holds for
ever. -/
theorem exists_forall_of_falls {f : ℕ → ℕ} {P : ℕ → Prop} (hle : ∀ n, f (n + 1) ≤ f n)
    (hlt : ∀ n, ¬ P n → f (n + 1) < f n) : ∃ first, ∀ n, first ≤ n → P n := by
  induction hm : f 0 using Nat.strong_induction_on generalizing f P with
  | _ m ih =>
    by_cases hall : ∀ n, P n
    · exact ⟨0, fun n _ => hall n⟩
    · obtain ⟨n, hn⟩ := not_forall.mp hall
      have hfirst : f n ≤ f 0 := antitone_nat_of_succ_le hle (Nat.zero_le n)
      have hlower : f (n + 1) < m := by
        have hfalls := hlt n hn
        omega
      obtain ⟨first, hforever⟩ := @ih (f (n + 1)) hlower (fun k => f (n + 1 + k))
        (fun k => P (n + 1 + k)) (fun k => hle (n + 1 + k)) (fun k => hlt (n + 1 + k)) rfl
      refine ⟨n + 1 + first, fun k hk => ?_⟩
      obtain ⟨more, rfl⟩ : ∃ more, k = n + 1 + more := ⟨k - (n + 1), by omega⟩
      exact hforever more (by omega)

theorem terminates_iff_not_stalls_forever (stalls : σ → Prop) (measure : σ → ℕ)
    (hadvances : ∀ s next, body s = .again next → ¬ stalls s → measure next < measure s)
    (hstalls : ∀ s next, body s = .again next → stalls s → measure next ≤ measure s) :
    Terminates body s ↔
      ¬ ∃ first, ∀ passes, first ≤ passes → ∃ t, stateAfter body passes s = some t ∧ stalls t := by
  constructor
  · rintro hends ⟨first, hforever⟩
    obtain ⟨last, hlast⟩ := hends.exists_stateAfter_eq_none
    obtain ⟨t, ht, -⟩ := hforever (max first last) (Nat.le_max_left _ _)
    rw [hlast _ (Nat.le_max_right _ _)] at ht
    cases ht
  · refine fun hnot => by_contra fun hends => hnot ?_
    choose t ht hrunning using exists_stateAfter_of_not_terminates hends
    have hnext (n : ℕ) : body (t n) = .again (t (n + 1)) := by
      obtain ⟨next, hbody⟩ := exists_again_of_not_terminates (hrunning n)
      rw [hbody, Option.some_inj.mp ((stateAfter_succ (ht n) hbody).symm.trans (ht (n + 1)))]
    obtain ⟨first, hforever⟩ : ∃ first, ∀ n, first ≤ n → stalls (t n) := by
      refine exists_forall_of_falls (f := fun n => measure (t n)) (fun n => ?_) fun n =>
        hadvances _ _ (hnext n)
      by_cases hstall : stalls (t n)
      · exact hstalls _ _ (hnext n) hstall
      · exact (hadvances _ _ (hnext n) hstall).le
    exact ⟨first, fun passes hle => ⟨t passes, ht passes, hforever passes hle⟩⟩

end

section

inductive Pass.Related (states : σ → τ → Prop) (results : ρ → κ → Prop) :
    Pass σ ρ → Pass τ κ → Prop where
  | again {s t} (h : states s t) : Related states results (.again s) (.again t)
  | done {r k} (h : results r k) : Related states results (.done r) (.done k)

variable {body : σ → Pass σ ρ} {body' : τ → Pass τ κ}
  {states : σ → τ → Prop} {results : ρ → κ → Prop}

section

variable (hstep : ∀ s t, states s t → Pass.Related states results (body s) (body' t))

include hstep

/-- Two loops whose passes keep a relation return related results after the same
number of passes, or both are still running. -/
theorem iterate_related (fuel : ℕ) {s : σ} {t : τ} (h : states s t) :
    Option.Rel results (iterate body fuel s) (iterate body' fuel t) := by
  induction fuel generalizing s t with
  | zero => exact .none
  | succ fuel ih =>
    have hpass := hstep s t h
    cases hbody : body s with
    | again next =>
      cases hbody' : body' t with
      | again next' =>
        rw [hbody, hbody'] at hpass
        rw [iterate_succ_of_again hbody, iterate_succ_of_again hbody']
        cases hpass with
        | again hnext => exact ih hnext
      | done result' => rw [hbody, hbody'] at hpass; cases hpass
    | done result =>
      cases hbody' : body' t with
      | again next' => rw [hbody, hbody'] at hpass; cases hpass
      | done result' =>
        rw [hbody, hbody'] at hpass
        rw [iterate_succ_of_done hbody, iterate_succ_of_done hbody']
        cases hpass with
        | done hresult => exact .some hresult

theorem returns_related {s : σ} {t : τ} (h : states s t) :
    (∀ r, Returns body s r → ∃ k, Returns body' t k ∧ results r k) ∧
      ∀ k, Returns body' t k → ∃ r, Returns body s r ∧ results r k := by
  constructor
  · rintro r ⟨fuel, hfuel⟩
    have hrel := iterate_related hstep fuel h
    rw [hfuel] at hrel
    generalize hfuel' : iterate body' fuel t = result at hrel
    cases hrel with
    | some hresult => exact ⟨_, ⟨fuel, hfuel'⟩, hresult⟩
  · rintro k ⟨fuel, hfuel⟩
    have hrel := iterate_related hstep fuel h
    rw [hfuel] at hrel
    generalize hfuel' : iterate body fuel s = result at hrel
    cases hrel with
    | some hresult => exact ⟨_, ⟨fuel, hfuel'⟩, hresult⟩

end

end

end AqualinkAutomate.General
