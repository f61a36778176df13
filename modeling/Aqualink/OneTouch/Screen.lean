import Aqualink.Navigation.MenuModel
import Aqualink.General.Texts

/-!
# The screen of the keypad

The controller draws the screen of a OneTouch keypad line by line.  A message either draws
(sets the text of a line, highlights, shifts a block of lines, clears) or leaves the screen
as it is; one that names a line the screen does not have is ignored.  So the screen keeps
its lines, whatever it is sent (`BusMessage.length_draw`).
-/

namespace AqualinkAutomate.Navigation

open List

namespace ScreenRow

def clearHighlight (row : ScreenRow) : ScreenRow :=
  { row with highlightState := .normal, highlightRange := none }

end ScreenRow

inductive ShiftDirection where
  | up | down
  deriving DecidableEq

namespace ScreenDataPage

abbrev clearHighlights : UInt8 := 0xFF

def clear (page : ScreenDataPage) : ScreenDataPage where
  rows := page.rows.map fun _ => {}

def setText (page : ScreenDataPage) (line : UInt8) (text : Text) : ScreenDataPage where
  rows := page.rows.modify line.toNat fun row => { row with text := text }

def highlight (page : ScreenDataPage) (line : UInt8) : ScreenDataPage :=
  if line = clearHighlights then
    { rows := page.rows.map ScreenRow.clearHighlight }
  else if page.rows.length ≤ line.toNat then
    page
  else
    { rows := (page.rows.map ScreenRow.clearHighlight).modify line.toNat fun row =>
        { row with highlightState := .highlighted } }

def highlightChars (page : ScreenDataPage) (line start stop : UInt8) : ScreenDataPage where
  rows := page.rows.modify line.toNat fun row =>
    { row with highlightState := .partiallyHighlighted, highlightRange := some (start, stop) }

/-- The block from one line to another, moved by some lines.  The lines that are pushed out
at one end come back blank at the other. -/
def shiftBlock (direction : ShiftDirection) (count : ℕ) (block : List ScreenRow) :
    List ScreenRow :=
  match direction with
  | .up => block.drop count ++ replicate count {}
  | .down => replicate count {} ++ block.take (block.length - count)

def shiftLines (page : ScreenDataPage) (direction : ShiftDirection) (first last : UInt8)
    (count : ℕ) : ScreenDataPage :=
  let span := last.toNat - first.toNat + 1
  if page.rows.length ≤ last.toNat ∨ last ≤ first ∨ count = 0 ∨ span < count then
    page
  else
    { rows := page.rows.take first.toNat ++
        shiftBlock direction count ((page.rows.drop first.toNat).take span) ++
        page.rows.drop (last.toNat + 1) }

theorem length_shiftBlock {direction : ShiftDirection} {count : ℕ} {block : List ScreenRow}
    (h : count ≤ block.length) : (shiftBlock direction count block).length = block.length := by
  cases direction with
  | up => simp only [shiftBlock, length_append, length_drop, length_replicate]; omega
  | down =>
    simp only [shiftBlock, length_append, length_take, length_replicate]
    omega

theorem length_shiftLines (page : ScreenDataPage) (direction : ShiftDirection)
    (first last : UInt8) (count : ℕ) :
    (page.shiftLines direction first last count).rows.length = page.rows.length := by
  unfold shiftLines
  extract_lets span
  split
  · rfl
  · next hinside =>
      have hlast : last.toNat < page.rows.length := by omega
      have hfirst : first.toNat < last.toNat := UInt8.lt_iff_toNat_lt.mp (by grind)
      have hblock : ((page.rows.drop first.toNat).take span).length = span := by
        rw [length_take, length_drop]
        omega
      have hshifted : (shiftBlock direction count ((page.rows.drop first.toNat).take span)).length =
          span := by
        rw [length_shiftBlock (by omega), hblock]
      simp only [length_append, length_take, length_drop, hshifted]
      omega

end ScreenDataPage

end AqualinkAutomate.Navigation

namespace AqualinkAutomate.OneTouch

open Navigation

/-- What the controller sends to the keypad. -/
inductive BusMessage where
  | messageLong (line : UInt8) (text : Text)
  | probe
  | status
  | clear
  | highlight (line : UInt8)
  | highlightChars (line start stop : UInt8)
  | shiftLines (first last : UInt8) (shift : Int8)
  | displayUpdate
  | unknown
  deriving DecidableEq

namespace BusMessage

def draw (page : ScreenDataPage) : BusMessage → ScreenDataPage
  | .messageLong line text => page.setText line text
  | .clear => page.clear
  | .highlight line => page.highlight line
  | .highlightChars line start stop => page.highlightChars line start stop
  | .shiftLines first last shift =>
    page.shiftLines (if shift < 0 then .up else .down) first last shift.toInt.natAbs
  | .probe | .status | .displayUpdate | .unknown => page

end BusMessage

/-!
## Reading the screen

What the goals on the keypad read off a screen, apart from numbers: the text of a line
without the blanks around it, and the line on which something is listed.
-/

open General

/-- Blanks and bytes that are not printed. -/
def isTrimmed (c : Char) : Bool := c.toNat < 0x20 || c.toNat = 0x7F || c = ' '

def sanitiseFunctionText (raw : Text) : Text := trimBy isTrimmed raw

def lineText (page : ScreenDataPage) (line : ℕ) : Text :=
  ((page.rows[line]?).map fun row => sanitiseFunctionText row.text).getD []

def displayedFunctionOnRow (page : ScreenDataPage) (line : ℕ) : Option Text :=
  if lineText page line = [] then none else some (lineText page line)

def ScreenRow.startsWith (label : Text) (row : ScreenRow) : Bool :=
  startsWithCaseInsensitive (sanitiseFunctionText row.text) label

/-- The row number is cut to a byte. -/
def findLineStartingWith (page : ScreenDataPage) (label : Text) : Option UInt8 :=
  (page.rows.findIdx? (ScreenRow.startsWith label)).map UInt8.ofNat

end AqualinkAutomate.OneTouch
