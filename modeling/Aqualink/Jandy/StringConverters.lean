import Aqualink.Equipment.Actuation
import Aqualink.Scheduling.Schedule

/-!
# String converters

Three classes read a row of the panel: a temperature, the chemistry, the state of an auxiliary.  A
converter is made from a text or has one assigned, keeps what it has read and whether that failed,
and is asked for the result.

The converters of the chemistry and of the auxiliaries clear the error first, so the result of an
assignment is that of the text alone.  The converter of the temperature clears nothing: once a text
was malformed, it fails for every text that follows.

The expressions are searched by a library, `search`, which gives the groups of a match, and the
numbers of the chemistry are floating-point; both are parameters.
-/

namespace AqualinkAutomate.Jandy

open List

open Equipment (AuxillaryStatuses)
open General (trimWhitespace)
open Scheduling (fromChars)

inductive StringConversionErrorCodes where
  | malformedInput
  | unknownStringConversionFailure
  deriving DecidableEq

/-- The groups of the first match of an expression, the whole match in front. -/
abbrev RegexSearch : Type := String → List Char → Option (List (List Char))

def group (matchResults : List (List Char)) (index : ℕ) : List Char := matchResults.getD index []

/-- What has been read, unless there was an error. -/
def resultOf {α : Type*} (errorOccurred : Option StringConversionErrorCodes) (value : α) :
    Except StringConversionErrorCodes α :=
  match errorOccurred with
  | some error => .error error
  | none => .ok value

/-! ## Temperatures -/

inductive Temperature where
  | celsius (degrees : ℤ)
  | fahrenheit (degrees : ℤ)
  deriving DecidableEq

structure TemperatureStringConverter where
  temperature : Temperature := .celsius 0
  temperatureArea : List Char := []
  errorOccurred : Option StringConversionErrorCodes := none

namespace TemperatureStringConverter

def regexPattern : String :=
  "^([A-Za-z0-9][A-Za-z0-9 ]\x7b0,14\x7d?)\\s\x7b1,10\x7d(-?\\d\x7b1,3\x7d)`([CF])$"

def validateAndExtractData (search : RegexSearch) (text : List Char) :
    Option (List Char × List Char × List Char) :=
  if 7 > text.length ∨ 16 < text.length then none
  else
    match search regexPattern text with
    | some matchResults =>
      if 3 > matchResults.length then none
      else some (group matchResults 1, group matchResults 2, group matchResults 3)
    | none => none

def convertStringToTemperature (search : RegexSearch) (converter : TemperatureStringConverter)
    (text : List Char) : TemperatureStringConverter :=
  match validateAndExtractData search text with
  | some (area, temperature, units) =>
    match fromChars temperature with
    | some degrees =>
      let converted :=
        match units.head? with
        | some 'C' => { converter with temperature := .celsius degrees }
        | some 'F' => { converter with temperature := .fahrenheit degrees }
        | _ => { converter with errorOccurred := some .malformedInput }
      { converted with temperatureArea := trimWhitespace area }
    | none => { converter with errorOccurred := some .malformedInput }
  | none => { converter with errorOccurred := some .malformedInput }

def assign (search : RegexSearch) (converter : TemperatureStringConverter) (text : List Char) :
    TemperatureStringConverter :=
  convertStringToTemperature search converter (trimWhitespace text)

def construct (search : RegexSearch) (text : List Char) : TemperatureStringConverter :=
  assign search {} text

def results (converter : TemperatureStringConverter) :
    Except StringConversionErrorCodes Temperature × Except StringConversionErrorCodes (List Char) :=
  (resultOf converter.errorOccurred converter.temperature,
    resultOf converter.errorOccurred converter.temperatureArea)

/-- A row that can be read: the expression matches, with a number and a unit. -/
def WellFormed (search : RegexSearch) (text : List Char) : Prop :=
  ∃ area temperature units, validateAndExtractData search (trimWhitespace text) =
      some (area, temperature, units) ∧
    fromChars temperature ≠ none ∧ (units.head? = some 'C' ∨ units.head? = some 'F')

end TemperatureStringConverter

/-! ## Chemistry -/

structure ChemistryStringConverter (Double Float : Type*) where
  orp : Double
  ph : Float
  errorOccurred : Option StringConversionErrorCodes

/-- `std::from_chars` for the two floating-point types. -/
structure FloatReading (Double Float : Type*) where
  fromCharsDouble : List Char → Option Double
  fromCharsFloat : List Char → Option Float

namespace ChemistryStringConverter

variable {Double Float : Type*}

def regexPattern : String :=
  "(ORP\\/([0-9]\x7b1,4\x7d))\\s+(PH\\/([6-7]\\.[0-9]|8\\.([0-1][0-9]|2)))"

def validateAndExtractData (search : RegexSearch) (text : List Char) :
    Option (List Char × List Char) :=
  if 14 > text.length ∨ 14 < text.length then none
  else
    match search regexPattern text with
    | some matchResults =>
      if 4 > matchResults.length then none
      else some (group matchResults 2, group matchResults 4)
    | none => none

def convertStringToChemistry (search : RegexSearch) (reading : FloatReading Double Float)
    (converter : ChemistryStringConverter Double Float) (text : List Char) :
    ChemistryStringConverter Double Float :=
  let converter := { converter with errorOccurred := none }
  match validateAndExtractData search text with
  | some (orp, ph) =>
    match reading.fromCharsDouble orp with
    | some convertedOrp =>
      match reading.fromCharsFloat ph with
      | some convertedPh => { converter with orp := convertedOrp, ph := convertedPh }
      | none => { converter with errorOccurred := some .malformedInput }
    | none => { converter with errorOccurred := some .malformedInput }
  | none => { converter with errorOccurred := some .malformedInput }

def assign (search : RegexSearch) (reading : FloatReading Double Float)
    (converter : ChemistryStringConverter Double Float) (text : List Char) :
    ChemistryStringConverter Double Float :=
  convertStringToChemistry search reading converter (trimWhitespace text)

def construct [Zero Double] [Zero Float] (search : RegexSearch)
    (reading : FloatReading Double Float) (text : List Char) :
    ChemistryStringConverter Double Float :=
  assign search reading { orp := 0, ph := 0, errorOccurred := none } text

def results (converter : ChemistryStringConverter Double Float) :
    Except StringConversionErrorCodes Double × Except StringConversionErrorCodes Float :=
  (resultOf converter.errorOccurred converter.orp, resultOf converter.errorOccurred converter.ph)

end ChemistryStringConverter

/-! ## Auxiliaries -/

structure AuxillaryStateStringConverter where
  label : List Char := []
  state : AuxillaryStatuses := .unknown
  errorOccurred : Option StringConversionErrorCodes := none

namespace AuxillaryStateStringConverter

def regexPattern : String := "(.\x7b1,13\x7d)\\s+(ON|OFF|ENA|\\*\\*\\*)"

def validateAndExtractData (search : RegexSearch) (text : List Char) :
    Option (List Char × List Char) :=
  if 4 > text.length ∨ 16 < text.length then none
  else
    match search regexPattern text with
    | some matchResults =>
      if 2 > matchResults.length then none
      else some (group matchResults 1, group matchResults 2)
    | none => none

def statusOf (status : List Char) : Option AuxillaryStatuses :=
  if status = ['O', 'N'] then some .on
  else if status = ['O', 'F', 'F'] then some .off
  else if status = ['E', 'N', 'A'] then some .enabled
  else if status = ['*', '*', '*'] then some .pending
  else none

def convertStringToStatus (search : RegexSearch) (converter : AuxillaryStateStringConverter)
    (text : List Char) : AuxillaryStateStringConverter :=
  let converter := { converter with errorOccurred := none }
  match validateAndExtractData search text with
  | some (name, status) =>
    let converter := { converter with label := trimWhitespace name }
    match statusOf status with
    | some state => { converter with state }
    | none => { converter with errorOccurred := some .malformedInput }
  | none => { converter with errorOccurred := some .malformedInput }

def construct (search : RegexSearch) (text : List Char) : AuxillaryStateStringConverter :=
  convertStringToStatus search {} text

def results (converter : AuxillaryStateStringConverter) :
    Except StringConversionErrorCodes (List Char) ×
      Except StringConversionErrorCodes AuxillaryStatuses :=
  (resultOf converter.errorOccurred converter.label,
    resultOf converter.errorOccurred converter.state)

end AuxillaryStateStringConverter

/-! ## Assignments -/

section

variable {search : RegexSearch}

namespace TemperatureStringConverter

variable {converter : TemperatureStringConverter} {text last : List Char}
  {history : List (List Char)}

theorem errorOccurred_assign_of_malformed (h : ¬ WellFormed search text) :
    (assign search converter text).errorOccurred = some .malformedInput := by
  unfold assign convertStringToTemperature
  split
  · next area temperature units hdata =>
    cases hdegrees : fromChars temperature with
    | none => rfl
    | some degrees =>
      dsimp only
      split
      · next hunits =>
        exact absurd ⟨area, temperature, units, hdata, by simp [hdegrees], .inl hunits⟩ h
      · next hunits =>
        exact absurd ⟨area, temperature, units, hdata, by simp [hdegrees], .inr hunits⟩ h
      · rfl
  · rfl

theorem assign_of_wellFormed (h : WellFormed search text) :
    ∃ temperature area, ∀ converter, assign search converter text =
      { converter with temperature, temperatureArea := area } := by
  obtain ⟨area, number, units, hdata, hdegrees, hunits⟩ := h
  obtain ⟨degrees, hdegrees⟩ := Option.ne_none_iff_exists'.mp hdegrees
  obtain hunits | hunits := hunits
  · refine ⟨.celsius degrees, trimWhitespace area, fun converter => ?_⟩
    simp only [assign, convertStringToTemperature, hdata, hdegrees, hunits]
  · refine ⟨.fahrenheit degrees, trimWhitespace area, fun converter => ?_⟩
    simp only [assign, convertStringToTemperature, hdata, hdegrees, hunits]

theorem errorOccurred_assign (h : converter.errorOccurred = some .malformedInput) :
    (assign search converter text).errorOccurred = some .malformedInput := by
  by_cases htext : WellFormed search text
  · obtain ⟨temperature, area, hassign⟩ := assign_of_wellFormed htext
    rwa [hassign]
  · exact errorOccurred_assign_of_malformed htext

theorem errorOccurred_foldl (search : RegexSearch) (history : List (List Char)) :
    ((∀ text ∈ history, WellFormed search text) ∧
        (history.foldl (assign search) {}).errorOccurred = none) ∨
      (¬ (∀ text ∈ history, WellFormed search text) ∧
        (history.foldl (assign search) {}).errorOccurred = some .malformedInput) := by
  induction history using reverseRecOn with
  | nil => exact .inl ⟨by simp, rfl⟩
  | append_singleton history text ih =>
    rw [foldl_append, foldl_cons, foldl_nil, forall_mem_append, forall_mem_singleton]
    obtain ⟨hall, hnone⟩ | ⟨hsome, herror⟩ := ih
    · by_cases htext : WellFormed search text
      · obtain ⟨temperature, area, hassign⟩ := assign_of_wellFormed htext
        refine .inl ⟨⟨hall, htext⟩, ?_⟩
        rwa [hassign]
      · exact .inr ⟨fun h => htext h.2, errorOccurred_assign_of_malformed htext⟩
    · exact .inr ⟨fun h => hsome h.1, errorOccurred_assign herror⟩

theorem results_of_error (h : converter.errorOccurred = some .malformedInput) :
    converter.results = (.error .malformedInput, .error .malformedInput) := by
  rw [results, h]
  rfl

theorem results_foldl_iff (search : RegexSearch) (history : List (List Char)) (last : List Char) :
    (assign search (history.foldl (assign search) {}) last).results =
        (construct search last).results ↔
      ¬ WellFormed search last ∨ ∀ text ∈ history, WellFormed search text := by
  by_cases hlast : WellFormed search last
  · obtain ⟨temperature, area, hassign⟩ := assign_of_wellFormed hlast
    rw [construct, hassign, hassign]
    obtain ⟨hall, hnone⟩ | ⟨hsome, herror⟩ := errorOccurred_foldl search history
    · refine iff_of_true ?_ (.inr hall)
      simp only [results, hnone]
    · refine iff_of_false ?_ (not_or.mpr ⟨not_not.mpr hlast, hsome⟩)
      intro heq
      rw [results, herror] at heq
      cases congrArg Prod.fst heq
  · refine iff_of_true ?_ (.inl hlast)
    rw [construct, results_of_error (errorOccurred_assign_of_malformed hlast),
      results_of_error (errorOccurred_assign_of_malformed hlast)]

end TemperatureStringConverter

theorem ChemistryStringConverter.results_assign {Double Float : Type*}
    (search : RegexSearch) (reading : FloatReading Double Float)
    (converter other : ChemistryStringConverter Double Float) (text : List Char) :
    (assign search reading converter text).results =
      (assign search reading other text).results := by
  unfold assign convertStringToChemistry
  dsimp only
  cases validateAndExtractData search (trimWhitespace text) with
  | none => rfl
  | some data =>
    obtain ⟨orp, ph⟩ := data
    dsimp only
    cases reading.fromCharsDouble orp with
    | none => rfl
    | some convertedOrp => cases reading.fromCharsFloat ph <;> rfl

theorem AuxillaryStateStringConverter.results_convert (search : RegexSearch)
    (converter other : AuxillaryStateStringConverter) (text : List Char) :
    (convertStringToStatus search converter text).results =
      (convertStringToStatus search other text).results := by
  unfold convertStringToStatus
  dsimp only
  cases validateAndExtractData search text with
  | none => rfl
  | some data =>
    obtain ⟨name, status⟩ := data
    dsimp only
    cases statusOf status <;> rfl

end

/-- The converters of the chemistry and of the auxiliaries read every assigned row like a new one.
The converter of the temperature does exactly if the row is malformed itself, or none before it
was. -/
theorem reassigned_iff {Double Float : Type*} [Zero Double] [Zero Float] (search : RegexSearch)
    (reading : FloatReading Double Float) (history : List (List Char)) (last : List Char) :
    ((TemperatureStringConverter.assign search
          (history.foldl (TemperatureStringConverter.assign search) {}) last).results =
        (TemperatureStringConverter.construct search last).results ↔
      ¬ TemperatureStringConverter.WellFormed search last ∨
        ∀ text ∈ history, TemperatureStringConverter.WellFormed search text) ∧
    (∀ converter, (ChemistryStringConverter.assign search reading converter last).results =
      (ChemistryStringConverter.construct search reading last).results) ∧
    ∀ converter,
      (AuxillaryStateStringConverter.convertStringToStatus search converter last).results =
        (AuxillaryStateStringConverter.construct search last).results :=
  ⟨TemperatureStringConverter.results_foldl_iff search history last,
    fun converter => ChemistryStringConverter.results_assign search reading converter _ last,
    fun converter => AuxillaryStateStringConverter.results_convert search converter _ last⟩

/-- The match of one row of the panel, and no match of anything else. -/
def airRow : RegexSearch := fun pattern text =>
  if pattern = TemperatureStringConverter.regexPattern ∧ text = "Air  86`F".toList then
    some ["Air  86`F".toList, "Air".toList, "86".toList, "F".toList]
  else none

/-- A row of dashes, and then the air temperature. -/
theorem not_reassigned_air :
    (TemperatureStringConverter.assign airRow
        (["Air  --`F".toList].foldl (TemperatureStringConverter.assign airRow) {})
        "Air  86`F".toList).results ≠
      (TemperatureStringConverter.construct airRow "Air  86`F".toList).results := by
  intro heq
  cases congrArg Prod.fst heq

end AqualinkAutomate.Jandy
