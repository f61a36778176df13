import Aqualink.Iaq.PageModel
import Aqualink.Navigation.Navigator
import Aqualink.OneTouch.Screen

/-!
# Looking a label up on a screen

A device is known by its label, and is found on a screen by it.  Three functions do that: one
for the links of the menu, one for the lists of the keypad, and one for the buttons of the
touch panel.  What a line says is its own label and, behind it, a status or a value, and none
of the functions knows where the label ends.  So each takes the first line that begins with
the label it looks for.

`Resolves` is what a lookup is for: it gives a line with that label if there is one, and no
other line.  A lookup does so exactly if the label is not mistaken for another
(`Unmistakable`), where each lookup reads lines in its own way.
-/

namespace AqualinkAutomate.Equipment

open General Navigation List Option

/-! ## Lines with a label -/

structure LabelledLine where
  indent : Text := []
  label : Text
  suffix : Text := []
  blank_indent : ∀ c ∈ indent, c = ' ' := by simp
  trim_label : trimWhitespace label = label := by decide

namespace LabelledLine

def text (line : LabelledLine) : Text := line.indent ++ line.label ++ line.suffix

def IsLabelled (label : Text) (line : LabelledLine) : Prop :=
  equalsCaseInsensitive line.label label = true

end LabelledLine

/-- A screen of which it is known what its lines mean.  Lines are numbered by a byte. -/
structure LabelledScreen where
  page : ScreenDataPage
  lines : List LabelledLine
  text_eq : page.rows.map ScreenRow.text = lines.map LabelledLine.text := by decide
  length_le : lines.length ≤ 256 := by decide

/-- A page of the touch panel of which it is known what its buttons mean. -/
structure LabelledButtons where
  page : Iaq.PageModel
  labels : ByteTable LabelledLine
  name_eq : ∀ index,
    (page.buttons index).map Iaq.PageButtonInfo.name = (labels index).map LabelledLine.text

def LabelledScreen.labels (screen : LabelledScreen) : ByteTable LabelledLine :=
  .ofLines screen.lines

/-- What a lookup is for. -/
def Resolves (labels : ByteTable LabelledLine) (label : Text) (result : Option UInt8) : Prop :=
  (∀ index, result = some index → ∃ line, labels index = some line ∧ line.IsLabelled label) ∧
    ((∃ index line, labels index = some line ∧ line.IsLabelled label) → result.isSome = true)

/-! ## How the lookups read a line -/

/-- `FindLineByLabel`: a word that is longer than the last one of the label does not count. -/
def readsAsLink (label text : Text) : Bool :=
  !label.isEmpty && ScreenRow.matchesLabel label { text := text }

/-- `FindLineStartingWith` -/
def readsAsListed (label text : Text) : Bool :=
  startsWithCaseInsensitive (OneTouch.sanitiseFunctionText text) label

/-- `FindButtonByLabel`, which does not disregard case. -/
def readsAsButton (label text : Text) : Bool :=
  trimWhitespace label ≠ [] && (trimWhitespace label).isPrefixOf (trimWhitespace text)

/-- A line of another label that reads like this one stands behind one of this label, and a
line of this label, if there is one, can be read. -/
def Unmistakable (reads : Text → Text → Bool) (labels : ByteTable LabelledLine) (label : Text) :
    Prop :=
  (∀ index line, labels index = some line → reads label line.text = true →
      ¬ line.IsLabelled label → ∃ before < index, ∃ line', labels before = some line' ∧
        reads label line'.text = true ∧ line'.IsLabelled label) ∧
    ((∃ index line, labels index = some line ∧ line.IsLabelled label) →
      ∃ index line, labels index = some line ∧ line.IsLabelled label ∧
        reads label line.text = true)

theorem resolves_find?_iff {labels : ByteTable LabelledLine} {label : Text}
    {reads : Text → Text → Bool} :
    Resolves labels label (labels.find? fun line => reads label line.text) ↔
      Unmistakable reads labels label :=
  ByteTable.find?_finds_iff

/-! ## The lookups -/

theorem findIdx?_eq_find? (screen : LabelledScreen) (p : Text → Bool) :
    (screen.page.rows.findIdx? fun row => p row.text).map UInt8.ofNat =
      screen.labels.find? fun line => p line.text := by
  calc (screen.page.rows.findIdx? fun row => p row.text).map UInt8.ofNat
    _ = ((screen.page.rows.map ScreenRow.text).findIdx? p).map UInt8.ofNat := by
        rw [findIdx?_map]
        rfl
    _ = (screen.lines.findIdx? fun line => p line.text).map UInt8.ofNat := by
        rw [screen.text_eq, findIdx?_map]
        rfl
    _ = _ := ByteTable.map_findIdx?_eq_find? screen.length_le

theorem findLineByLabel_eq_find? (screen : LabelledScreen) (label : Text) :
    screen.page.findLineByLabel label =
      screen.labels.find? fun line => readsAsLink label line.text := by
  rw [← findIdx?_eq_find? screen (readsAsLink label), ScreenDataPage.findLineByLabel]
  cases label with
  | nil =>
    rw [if_pos isEmpty_nil, eq_comm, map_eq_none_iff, findIdx?_eq_none_iff]
    intro row hrow
    rfl
  | cons first rest => rfl

theorem findLineStartingWith_eq_find? (screen : LabelledScreen) (label : Text) :
    OneTouch.findLineStartingWith screen.page label =
      screen.labels.find? fun line => readsAsListed label line.text :=
  findIdx?_eq_find? screen (readsAsListed label)

theorem findButtonByLabel_eq_find? (buttons : LabelledButtons) (label : Text) :
    buttons.page.findButtonByLabel label =
      buttons.labels.find? fun line => readsAsButton label line.text := by
  have hname : ∀ index, (buttons.page.buttons index).any (Iaq.PageButtonInfo.matchesLabel label) =
      (buttons.labels index).any fun line =>
        (trimWhitespace label).isPrefixOf (trimWhitespace line.text) := by
    intro index
    have heq := buttons.name_eq index
    rcases hbutton : buttons.page.buttons index with _ | info <;>
      rcases hlabel : buttons.labels index with _ | line <;> rw [hbutton, hlabel] at heq
    · rfl
    · cases heq
    · cases heq
    · rw [map_some, map_some, some_inj] at heq
      simp [Iaq.PageButtonInfo.matchesLabel, heq]
  rw [Iaq.PageModel.findButtonByLabel]
  split
  next hblank =>
    rw [eq_comm, ByteTable.find?_eq_none_iff]
    intro index line hline
    simp [readsAsButton, hblank]
  next hnonblank => simp [ByteTable.find?, hname, readsAsButton, hnonblank]

/-- When the lookups give the line with the label, and no other: if no line of another label
that reads like this one comes first, and a line with the label can be read. -/
theorem lookups_resolve_iff (nav : Navigator) (screen : LabelledScreen) (buttons : LabelledButtons)
    (label : Text) :
    (Resolves screen.labels label
          ({ nav with currentContent := some screen.page }.findLineByLabel label) ↔
        Unmistakable readsAsLink screen.labels label) ∧
      (Resolves screen.labels label (OneTouch.findLineStartingWith screen.page label) ↔
        Unmistakable readsAsListed screen.labels label) ∧
      (Resolves buttons.labels label (buttons.page.findButtonByLabel label) ↔
        Unmistakable readsAsButton buttons.labels label) := by
  refine ⟨?_, ?_, ?_⟩
  · rw [← resolves_find?_iff, ← findLineByLabel_eq_find?]
    rfl
  · rw [← resolves_find?_iff, ← findLineStartingWith_eq_find?]
  · rw [← resolves_find?_iff, ← findButtonByLabel_eq_find?]

def spaHeatAboveSpa : List LabelledLine :=
  [{ label := "Spa Heat".toList, suffix := "   ENA".toList },
    { label := "Spa".toList, suffix := "        OFF".toList }]

def spaScreen : LabelledScreen where
  page := ⟨spaHeatAboveSpa.map fun line => { text := line.text }⟩
  lines := spaHeatAboveSpa

def spaButtons : LabelledButtons where
  page := { buttons := fun index => (spaScreen.labels index).map fun line => { name := line.text } }
  labels := spaScreen.labels
  name_eq := fun _ => Option.map_map _ _ _

/-- The first line is none of the label, and it is what all three lookups give. -/
theorem lookups_give_spaHeat_for_spa :
    ¬ Resolves spaScreen.labels "Spa".toList
        (({ currentContent := some spaScreen.page } : Navigator).findLineByLabel "Spa".toList) ∧
      ¬ Resolves spaScreen.labels "Spa".toList
        (OneTouch.findLineStartingWith spaScreen.page "Spa".toList) ∧
      ¬ Resolves spaButtons.labels "Spa".toList
        (spaButtons.page.findButtonByLabel "Spa".toList) := by
  have hwrong : ∀ result, result = some (0 : UInt8) →
      ¬ Resolves spaScreen.labels "Spa".toList result := by
    rintro result rfl ⟨hfinds, -⟩
    obtain ⟨line, hline, hlabel⟩ := hfinds 0 rfl
    obtain rfl : spaHeatAboveSpa[0] = line := Option.some_inj.mp hline
    exact absurd hlabel (by unfold LabelledLine.IsLabelled; decide)
  exact ⟨hwrong _ (by decide), hwrong _ (by decide), hwrong _ (by decide +kernel)⟩

end AqualinkAutomate.Equipment
