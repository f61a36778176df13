import Mathlib.Data.List.Infix
import Mathlib.Data.String.Basic

/-!
# Segments and templates

A route is registered under a template, whose segments are literal or parameters.  What a request
has in its path is matched segment by segment, with the escapes resolved, and a segment that then
is a dot or a double dot is no name.  No template of the program has a modifier, so there are none
here.
-/

namespace AqualinkAutomate.Http

/-! ## Percent-encoding -/

def hexDigitValue (digit : Char) : Option ℕ :=
  let value := "0123456789abcdef".toList.idxOf digit.toLower
  if value < 16 then some value else none

/-- The escapes resolved.  A parsed target has no percent sign that starts no escape. -/
def pctDecode : List Char → List Char
  | '%' :: high :: low :: rest =>
    match hexDigitValue high, hexDigitValue low with
    | some highValue, some lowValue => Char.ofNat (16 * highValue + lowValue) :: pctDecode rest
    | _, _ => '%' :: pctDecode (high :: low :: rest)
  | char :: rest => char :: pctDecode rest
  | [] => []

def decodeSegment (segment : String) : String := String.ofList (pctDecode segment.toList)

def IsDotSegment (segment : String) : Prop :=
  decodeSegment segment = "." ∨ decodeSegment segment = ".."

instance (segment : String) : Decidable (IsDotSegment segment) :=
  inferInstanceAs (Decidable (_ ∨ _))

@[simp] theorem decodeSegment_eq_empty {segment : String} :
    decodeSegment segment = "" ↔ segment = "" := by
  constructor
  · intro h
    have hnil : pctDecode segment.toList = [] := by simpa [decodeSegment] using h
    cases hchars : segment.toList with
    | nil => simpa using hchars
    | cons char rest =>
      rw [hchars, pctDecode.eq_def] at hnil
      split at hnil
      · split at hnil <;> cases hnil
      · cases hnil
      · contradiction
  · rintro rfl
    rfl

/-! ## Templates -/

inductive SegmentTemplate where
  | literal (text : String)
  | parameter
  deriving DecidableEq

namespace SegmentTemplate

def isLiteral : SegmentTemplate → Bool
  | literal _ => true
  | parameter => false

def «match» : SegmentTemplate → String → Bool
  | literal text, segment => decodeSegment segment == text
  | parameter, _ => true

end SegmentTemplate

/-- An empty path is read as `./`. -/
def searchPath (segments : List String) : List String :=
  if segments = [] then [".", ""] else segments

end AqualinkAutomate.Http
