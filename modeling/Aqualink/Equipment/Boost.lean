import Aqualink.Iaq.BoostPress
import Aqualink.OneTouch.Boost

/-!
# Asking for a boost

A request for the boost says whether it is to run.  The touch panel and the OneTouch both take
such requests, and both have a control for it that only toggles.  The OneTouch looks first
whether a boost runs; the touch panel presses its button.

So a request comes to what it says if it goes to a OneTouch, or if the boost is not as it was
asked for to begin with; and a touch panel undoes a request when it is repeated
(`meansRequested_iff`).
-/

namespace AqualinkAutomate.Equipment

open General Iaq Navigation OneTouch

/-- A request that a controller has accepted is brought to its end with success, and its last key
has left.  The boost was as it is before, and is then as it is after. -/
def BoostCompletes (enable before after : Bool) : ControllerKind → Prop
  | .serialAdapter => False
  | .iaq =>
    ∃ writer : AquaPureWriter, ∃ page emulationActive channelBusy events,
      (writer.queueBoost enable emulationActive channelBusy).2 = .accepted ∧
        let last := List.foldl BoostPanel.step
          ⟨(writer.queueBoost enable emulationActive channelBusy).1, page, before, none⟩ events
        last.finished = some true ∧ last.boost = after
  | .oneTouch =>
    ∃ model fuel navigator waiting screens last,
      LeavesBoostByBack model ∧
        EachStepTaken (BoostWatch.attempt model fuel) (BoostWatch.Honest model)
          (BoostWatch.begin enable navigator waiting before) screens ∧
        screens.foldlM (BoostWatch.attempt model fuel)
          (BoostWatch.begin enable navigator waiting before) = some last ∧
        last.outcome = some .done ∧ last.pressWaits = false ∧ last.boost = after

variable {enable before after : Bool} {kind : ControllerKind}

theorem BoostCompletes.cases (h : BoostCompletes enable before after kind) :
    kind = .iaq ∧ after = !before ∨ kind = .oneTouch ∧ after = enable := by
  cases kind with
  | serialAdapter => exact absurd h id
  | iaq =>
    obtain ⟨writer, page, emulationActive, channelBusy, events, haccepted, hdone, rfl⟩ := h
    exact .inl ⟨rfl, BoostPanel.boost_of_done haccepted page rfl hdone⟩
  | oneTouch =>
    obtain ⟨model, fuel, navigator, waiting, screens, last, hback, honest, hlast, hdone, hleft,
      rfl⟩ := h
    exact .inr ⟨rfl, BoostWatch.boost_of_done hback honest hlast hdone hleft⟩

/-- The request finds a control that does as it is asked: one that is looked at first, or one of
a boost that is not as it was asked for. -/
def FindsControl (kind : ControllerKind) (enable before : Bool) : Prop :=
  kind = .oneTouch ∨ before ≠ enable

theorem BoostCompletes.eq_enable_iff (h : BoostCompletes enable before after kind) :
    after = enable ↔ FindsControl kind enable before := by
  unfold FindsControl
  rcases h.cases with ⟨rfl, rfl⟩ | ⟨rfl, rfl⟩
  · cases before <;> cases enable <;> decide
  · exact iff_of_true rfl (.inl rfl)

/-- What a request for the boost is to come to: the boost is as it was asked for, the same
request does not change it again, and it would be the same with another controller. -/
structure MeansRequested (enable after repeated other : Bool) : Prop where
  asked : after = enable
  repeated : repeated = after
  alike : other = after

/-- **Requests for a boost.**  A request means what it says exactly if it finds a control that
does as it is asked, through whichever controller, and is repeated on a OneTouch. -/
theorem meansRequested_iff {enable before after repeated other : Bool}
    {kind again instead : ControllerKind} (h : BoostCompletes enable before after kind)
    (hagain : BoostCompletes enable after repeated again)
    (hinstead : BoostCompletes enable before other instead) :
    MeansRequested enable after repeated other ↔
      FindsControl kind enable before ∧ again = .oneTouch ∧ FindsControl instead enable before := by
  constructor
  · rintro ⟨hasked, hrepeated, halike⟩
    refine ⟨h.eq_enable_iff.mp hasked, ?_, hinstead.eq_enable_iff.mp (halike.trans hasked)⟩
    rcases hagain.eq_enable_iff.mp (hrepeated.trans hasked) with hone | hother
    · exact hone
    · exact absurd hasked hother
  · rintro ⟨hkind, hone, hother⟩
    have hasked : after = enable := h.eq_enable_iff.mpr hkind
    have hrepeated : repeated = enable := hagain.eq_enable_iff.mpr (.inl hone)
    have halike : other = enable := hinstead.eq_enable_iff.mpr hother
    exact ⟨hasked, hrepeated.trans hasked.symm, halike.trans hasked.symm⟩

/-! ### A request that does the opposite -/

def chlorinatorVisit : List BoostEvent :=
  [.page (.pageStart 0x30), .page (.pageButton 2 "Quick Boost".toList .off), .poll, .poll,
    .page (.pageStart 0x01), .poll, .poll, .poll, .poll, .poll]

theorem boostCompletes_iaq (enable before : Bool) :
    BoostCompletes enable before (!before) .iaq := by
  refine ⟨{}, {}, true, false, chlorinatorVisit, rfl, ?_, ?_⟩
  · cases enable <;> cases before <;> decide +kernel
  · cases enable <;> cases before <;> decide +kernel

/-- The touch panel starts a boost that is to be off, and off already. -/
theorem boost_off_starts :
    ¬ ∀ (kind : ControllerKind) (enable before after : Bool),
      BoostCompletes enable before after kind → after = enable :=
  fun h => absurd (h .iaq false false true (boostCompletes_iaq false false)) (by decide)

/-- A page of the boost that can be left. -/
def boostModel : MenuModel where
  pages := [{
    id := .boost
    detectors := [{ line := 0, pattern := "Boost Pool".toList }]
    edges := [{ trigger := .back, source := .boost, target := .menuHelp }] }]

def boostPage (running : Bool) : ScreenDataPage where
  rows := [{ text := "Boost Pool".toList },
    { text := if running then "Time Remaining".toList else "Operate".toList }]

/-- The page as the goal finds it, and as it is once the key has left. -/
def boostVisit (before : Bool) : List ShownScreen :=
  [{ page := boostPage before, highlightedLine := 1, atStatus := true },
    { page := boostPage true, highlightedLine := 1, atStatus := true }]

theorem boostCompletes_oneTouch (before : Bool) : BoostCompletes true before true .oneTouch := by
  have hback : LeavesBoostByBack boostModel := by
    intro page hpage
    cases hpage
    decide
  have honest : EachStepTaken (BoostWatch.attempt boostModel 9) (BoostWatch.Honest boostModel)
      (.begin true {} none before) (boostVisit before) := by
    cases before <;> decide +kernel
  have hend : (((boostVisit before).foldlM (BoostWatch.attempt boostModel 9)
      (.begin true {} none before)).any fun last =>
        last.outcome = some .done && !last.pressWaits && last.boost) := by
    cases before <;> decide +kernel
  obtain ⟨last, hlast, hend⟩ := (Option.any_eq_true _ _).mp hend
  simp only [Bool.and_eq_true, Bool.not_eq_true', decide_eq_true_eq] at hend
  exact ⟨boostModel, 9, {}, none, boostVisit before, last, hback, honest, hlast, hend.1.1,
    hend.1.2, hend.2⟩

/-- A boost that is asked for on the touch panel while none runs, and again on a OneTouch. -/
theorem meansRequested_true : MeansRequested true true true true :=
  (meansRequested_iff (boostCompletes_iaq true false) (boostCompletes_oneTouch true)
    (boostCompletes_oneTouch false)).mpr ⟨.inr (by decide), rfl, .inl rfl⟩

end AqualinkAutomate.Equipment
