import Aqualink.OneTouch.Screen
import Aqualink.General.Readers

/-!
# The rows of a screen page

A page keeps its rows in a vector, and what the controller draws on it comes with line numbers
straight from the wire.  `RowCollection` models the operations on the vector with the checks that
they make themselves: an access beyond the vector is an outcome of its own.

No call has that outcome.  Each does to the rows what the page of the module on the screen does
(`PageCall.apply_eq`), so a run of calls from a new page keeps the number of its rows, and it
keeps at most one of them highlighted (`PageCall.run_eq`).
-/

namespace AqualinkAutomate.Navigation

open General List

/-- The rows of a page, as the page keeps them. -/
abbrev RowCollection : Type := List ScreenRow

namespace RowCollection

def defaultRowData : ScreenRow where
  text := []
  highlightState := .normal
  highlightRange := none

/-- The rows of a new page, added one by one. -/
def ofRowCount : ℕ → RowCollection
  | 0 => []
  | count + 1 => ofRowCount count ++ [defaultRowData]

def setText (rows : RowCollection) (index : ℕ) (text : Text) : Decoding RowCollection :=
  if index < rows.length then modifyAt (fun row => { row with text := text }) rows index
  else .error .rejected

def update (rows : RowCollection) (line : UInt8) (text : Text) : Decoding RowCollection :=
  if rows.length ≤ line.toNat then .ok rows else setText rows line.toNat text

def clear (rows : RowCollection) : RowCollection :=
  rows.map fun _ => defaultRowData

def highlight (rows : RowCollection) (line : UInt8) : Decoding RowCollection :=
  if line = ScreenDataPage.clearHighlights then
    .ok (rows.map ScreenRow.clearHighlight)
  else if rows.length ≤ line.toNat then
    .ok rows
  else do
    let rows ← modifyAt (fun row => { row with highlightState := .highlighted })
      (rows.map ScreenRow.clearHighlight) line.toNat
    modifyAt (fun row => { row with highlightRange := none }) rows line.toNat

def highlightChars (rows : RowCollection) (line start stop : UInt8) : Decoding RowCollection :=
  if rows.length ≤ line.toNat then
    .ok rows
  else do
    let rows ← modifyAt (fun row => { row with highlightState := .partiallyHighlighted })
      rows line.toNat
    modifyAt (fun row => { row with highlightRange := some (start, stop) }) rows line.toNat

def shiftLines (rows : RowCollection) (direction : ShiftDirection)
    (startId endId linesToShift : UInt8) : Decoding RowCollection :=
  if rows.length < 2 ∨ rows.length - 2 < startId.toNat then
    .ok rows
  else if rows.length - 1 < endId.toNat then
    .ok rows
  else if endId ≤ startId then
    .ok rows
  else
    let spanSize := endId.toNat - startId.toNat + 1
    if linesToShift = 0 ∨ spanSize < linesToShift.toNat then
      .ok rows
    else
      let start : ℤ := startId.toNat
      let stop : ℤ := endId.toNat + 1
      let lines : ℤ := linesToShift.toNat
      let offset := match direction with
        | .up => lines
        | .down => stop - start - lines
      do
        let rows ← rotateRange rows start (start + offset) stop
        match direction with
        | .up => fillRange defaultRowData rows (stop - lines) stop
        | .down => fillRange defaultRowData rows start (start + lines)

/-- A shift that is carried out: a span of two lines or more of the page, by at least one line and
by no more than the span has. -/
def Shifts (rows : RowCollection) (startId endId linesToShift : UInt8) : Prop :=
  startId.toNat < endId.toNat ∧ endId.toNat < rows.length ∧ 0 < linesToShift.toNat ∧
    linesToShift.toNat ≤ endId.toNat - startId.toNat + 1

/-- Line by line, what a shift leaves: the lines of the span moved, blank lines where they came
from, and the lines around the span as they were. -/
def lineAfterShift (rows : RowCollection) (direction : ShiftDirection)
    (startId endId linesToShift : UInt8) (i : ℕ) : Option ScreenRow :=
  if i < startId.toNat ∨ endId.toNat < i then rows[i]?
  else match direction with
    | .up =>
      if i + linesToShift.toNat ≤ endId.toNat then rows[i + linesToShift.toNat]?
      else some defaultRowData
    | .down =>
      if startId.toNat + linesToShift.toNat ≤ i then rows[i - linesToShift.toNat]?
      else some defaultRowData

/-- The shift as the page carries it out: the span is turned, and the lines that come around are
blanked. -/
def shifted (rows : RowCollection) (direction : ShiftDirection) (start stop lines : ℕ) :
    RowCollection :=
  match direction with
  | .up => filled defaultRowData (rotated rows start (start + lines) stop) (stop - lines) stop
  | .down => filled defaultRowData (rotated rows start (stop - lines) stop) start (start + lines)

variable {rows : RowCollection} {direction : ShiftDirection} {startId endId linesToShift : UInt8}

theorem length_ofRowCount (count : ℕ) : (ofRowCount count).length = count := by
  induction count with
  | zero => rfl
  | succ count ih => rw [ofRowCount, length_append, ih, length_singleton]

theorem eq_defaultRowData_of_mem {count : ℕ} {row : ScreenRow} (h : row ∈ ofRowCount count) :
    row = defaultRowData := by
  induction count with
  | zero => cases h
  | succ count ih =>
    rcases List.mem_append.mp h with hearlier | hlast
    · exact ih hearlier
    · exact List.mem_singleton.mp hlast

/-! ## Shifts -/

theorem shiftLines_of_not_shifts (h : ¬ Shifts rows startId endId linesToShift) :
    shiftLines rows direction startId endId linesToShift = .ok rows := by
  unfold shiftLines
  extract_lets spanSize start stop lines offset
  split_ifs with hstart hend hspan hlines
  · rfl
  · rfl
  · rfl
  · rfl
  · refine absurd ⟨?_, by omega, ?_, by omega⟩ h
    · rw [UInt8.le_iff_toNat_le] at hspan
      omega
    · rcases Nat.eq_zero_or_pos linesToShift.toNat with hzero | hpos
      · exact absurd (.inl (UInt8.toNat_inj.mp hzero)) hlines
      · exact hpos

theorem shiftLines_of_shifts (h : Shifts rows startId endId linesToShift) :
    shiftLines rows direction startId endId linesToShift =
      .ok (shifted rows direction startId.toNat (endId.toNat + 1) linesToShift.toNat) := by
  obtain ⟨hspan, hend, hpos, hlines⟩ := h
  have hnonzero : linesToShift ≠ 0 := by
    rintro rfl
    exact absurd hpos (by decide)
  unfold shiftLines
  rw [if_neg (by omega), if_neg (by omega), if_neg (by rw [UInt8.le_iff_toNat_le]; omega)]
  extract_lets spanSize start stop lines offset
  rw [if_neg (not_or.mpr ⟨hnonzero, by omega⟩)]
  cases direction with
  | up =>
    have hoffset : offset = lines := rfl
    have hmiddle : start + offset = ((startId.toNat + linesToShift.toNat : ℕ) : ℤ) := by omega
    have hblank : stop - lines = ((endId.toNat + 1 - linesToShift.toNat : ℕ) : ℤ) := by omega
    have hstop : stop = ((endId.toNat + 1 : ℕ) : ℤ) := by omega
    have hlength := @length_rotated _ rows startId.toNat (startId.toNat + linesToShift.toNat)
      (endId.toNat + 1) (by omega) (by omega) (by omega)
    rw [hmiddle, hblank, hstop, rotateRange_eq (by omega) (by omega) (by omega)]
    exact fillRange_eq _ (by omega) (by omega)
  | down =>
    have hoffset : offset = stop - start - lines := rfl
    have hmiddle : start + offset = ((endId.toNat + 1 - linesToShift.toNat : ℕ) : ℤ) := by omega
    have hblank : start + lines = ((startId.toNat + linesToShift.toNat : ℕ) : ℤ) := by omega
    have hstop : stop = ((endId.toNat + 1 : ℕ) : ℤ) := by omega
    have hlength := @length_rotated _ rows startId.toNat (endId.toNat + 1 - linesToShift.toNat)
      (endId.toNat + 1) (by omega) (by omega) (by omega)
    rw [hmiddle, hblank, hstop, rotateRange_eq (by omega) (by omega) (by omega)]
    exact fillRange_eq _ (by omega) (by omega)

theorem getElem?_shifted (h : Shifts rows startId endId linesToShift) (i : ℕ) :
    (shifted rows direction startId.toNat (endId.toNat + 1) linesToShift.toNat)[i]? =
      lineAfterShift rows direction startId endId linesToShift i := by
  obtain ⟨hspan, hend, hpos, hlines⟩ := h
  cases direction with
  | up =>
    have hlength := @length_rotated _ rows startId.toNat (startId.toNat + linesToShift.toNat)
      (endId.toNat + 1) (by omega) (by omega) (by omega)
    rw [shifted, getElem?_filled _ (by omega) (by omega),
      getElem?_rotated (by omega) (by omega) (by omega), lineAfterShift]
    grind
  | down =>
    have hlength := @length_rotated _ rows startId.toNat (endId.toNat + 1 - linesToShift.toNat)
      (endId.toNat + 1) (by omega) (by omega) (by omega)
    rw [shifted, getElem?_filled _ (by omega) (by omega),
      getElem?_rotated (by omega) (by omega) (by omega), lineAfterShift]
    grind

theorem getElem?_shiftBlock {count : ℕ} {block : List ScreenRow} (h : count ≤ block.length)
    (i : ℕ) :
    (ScreenDataPage.shiftBlock direction count block)[i]? =
      if block.length ≤ i then none
      else match direction with
        | .up => if i + count < block.length then block[i + count]? else some defaultRowData
        | .down => if count ≤ i then block[i - count]? else some defaultRowData := by
  cases direction with
  | up =>
    simp only [ScreenDataPage.shiftBlock, getElem?_append, length_drop,
      getElem?_drop, getElem?_replicate, defaultRowData]
    grind
  | down =>
    simp only [ScreenDataPage.shiftBlock, getElem?_append, length_replicate,
      getElem?_take, getElem?_replicate, defaultRowData]
    grind

theorem getElem?_pageShiftLines (h : Shifts rows startId endId linesToShift) (i : ℕ) :
    ((ScreenDataPage.mk rows).shiftLines direction startId endId linesToShift.toNat).rows[i]? =
      lineAfterShift rows direction startId endId linesToShift i := by
  obtain ⟨hspan, hend, hpos, hlines⟩ := h
  have hblock : ((rows.drop startId.toNat).take (endId.toNat - startId.toNat + 1)).length =
      endId.toNat - startId.toNat + 1 := by
    rw [length_take, length_drop]
    omega
  have hinside : ¬ (rows.length ≤ endId.toNat ∨ endId ≤ startId ∨ linesToShift.toNat = 0 ∨
      endId.toNat - startId.toNat + 1 < linesToShift.toNat) := by
    rw [UInt8.le_iff_toNat_le]
    omega
  rw [ScreenDataPage.shiftLines, if_neg hinside]
  simp only [append_assoc, getElem?_append, length_take,
    ScreenDataPage.length_shiftBlock (hlines.trans_eq hblock.symm),
    getElem?_shiftBlock (hlines.trans_eq hblock.symm), hblock, getElem?_take,
    getElem?_drop, lineAfterShift]
  grind

theorem pageShiftLines_of_not_shifts (h : ¬ Shifts rows startId endId linesToShift) :
    (ScreenDataPage.mk rows).shiftLines direction startId endId linesToShift.toNat = ⟨rows⟩ := by
  refine if_pos (?_ : rows.length ≤ endId.toNat ∨ endId ≤ startId ∨ linesToShift.toNat = 0 ∨
    endId.toNat - startId.toNat + 1 < linesToShift.toNat)
  by_contra hinside
  rw [UInt8.le_iff_toNat_le] at hinside
  exact h ⟨by omega, by omega, by omega, by omega⟩

theorem pageShiftLines_rows (h : Shifts rows startId endId linesToShift) :
    ((ScreenDataPage.mk rows).shiftLines direction startId endId linesToShift.toNat).rows =
      shifted rows direction startId.toNat (endId.toNat + 1) linesToShift.toNat :=
  ext_getElem? fun i => by rw [getElem?_shifted h, getElem?_pageShiftLines h]

section

variable (rows : RowCollection)

theorem shiftLines_eq (direction : ShiftDirection) (startId endId linesToShift : UInt8) :
    shiftLines rows direction startId endId linesToShift =
      .ok ((ScreenDataPage.mk rows).shiftLines direction startId endId
        linesToShift.toNat).rows := by
  by_cases h : Shifts rows startId endId linesToShift
  · rw [shiftLines_of_shifts h, pageShiftLines_rows h]
  · rw [shiftLines_of_not_shifts h, pageShiftLines_of_not_shifts h]

/-! ## Highlights -/

theorem highlight_eq (line : UInt8) :
    highlight rows line = .ok ((ScreenDataPage.mk rows).highlight line).rows := by
  rw [highlight, ScreenDataPage.highlight]
  split_ifs with hclear hline
  · rfl
  · rfl
  · have hmap : line.toNat < (rows.map ScreenRow.clearHighlight).length := by
      rw [length_map]
      omega
    rw [modifyAt_eq _ hmap]
    change modifyAt _ _ _ = _
    rw [modifyAt_eq _ (by rwa [length_modify]), modify_modify_eq]
    congr 1
    refine ext_getElem? fun i => ?_
    -- the row has lost its range before it is highlighted
    simp only [getElem?_modify, getElem?_map]
    cases rows[i]? with
    | none => rfl
    | some row => split_ifs <;> rfl

theorem highlightChars_eq (line start stop : UInt8) :
    highlightChars rows line start stop =
      .ok ((ScreenDataPage.mk rows).highlightChars line start stop).rows := by
  rw [highlightChars, ScreenDataPage.highlightChars]
  split_ifs with hline
  · rw [modify_eq_self hline]
  · rw [modifyAt_eq _ (by omega)]
    change modifyAt _ _ _ = _
    rw [modifyAt_eq _ (by rw [length_modify]; omega), modify_modify_eq]
    rfl

theorem update_eq (line : UInt8) (text : Text) :
    update rows line text = .ok ((ScreenDataPage.mk rows).setText line text).rows := by
  rw [update, ScreenDataPage.setText]
  split_ifs with hline
  · rw [modify_eq_self hline]
  · rw [setText, if_pos (by omega), modifyAt_eq _ (by omega)]

end

end RowCollection

/-! ## Runs of calls -/

/-- What is called on a page: the updater of the page writes to a line of the screen, and whoever
has the page can write to one by its index. -/
inductive PageCall where
  | clear
  | highlight (line : UInt8)
  | highlightChars (line start stop : UInt8)
  | shiftLines (direction : ShiftDirection) (startId endId linesToShift : UInt8)
  | update (line : UInt8) (text : Text)
  | setText (index : ℕ) (text : Text)
  deriving DecidableEq

namespace PageCall

def apply (rows : RowCollection) : PageCall → Decoding RowCollection
  | .clear => .ok (RowCollection.clear rows)
  | .highlight line => RowCollection.highlight rows line
  | .highlightChars line start stop => RowCollection.highlightChars rows line start stop
  | .shiftLines direction startId endId linesToShift =>
    RowCollection.shiftLines rows direction startId endId linesToShift
  | .update line text => RowCollection.update rows line text
  | .setText index text => RowCollection.setText rows index text

/-- A call that throws leaves the rows as they were. -/
def perform (rows : RowCollection) (call : PageCall) : Decoding RowCollection :=
  match call.apply rows with
  | .error .rejected => .ok rows
  | outcome => outcome

def run (rows : RowCollection) (calls : List PageCall) : Decoding RowCollection :=
  calls.foldlM perform rows

/-- The call on the page whose operations ask for no checks. -/
def draw (page : ScreenDataPage) : PageCall → ScreenDataPage
  | .clear => page.clear
  | .highlight line => page.highlight line
  | .highlightChars line start stop => page.highlightChars line start stop
  | .shiftLines direction startId endId linesToShift =>
    page.shiftLines direction startId endId linesToShift.toNat
  | .update line text => page.setText line text
  | .setText index text => { rows := page.rows.modify index fun row => { row with text := text } }

theorem perform_eq (rows : RowCollection) (call : PageCall) :
    call.perform rows = .ok (call.draw ⟨rows⟩).rows := by
  cases call with
  | clear => rfl
  | highlight line => rw [perform, apply, RowCollection.highlight_eq]; rfl
  | highlightChars line start stop => rw [perform, apply, RowCollection.highlightChars_eq]; rfl
  | shiftLines direction startId endId linesToShift =>
    rw [perform, apply, RowCollection.shiftLines_eq]
    rfl
  | update line text => rw [perform, apply, RowCollection.update_eq]; rfl
  | setText index text =>
    rw [perform, apply, RowCollection.setText, draw]
    split_ifs with hindex
    · rw [modifyAt_eq _ hindex]
    · rw [modify_eq_self (show rows.length ≤ index by omega)]

theorem run_eq (rows : RowCollection) (calls : List PageCall) :
    run rows calls = .ok (calls.foldl draw ⟨rows⟩).rows := by
  induction calls generalizing rows with
  | nil => rfl
  | cons call calls ih =>
    rw [run, foldlM_cons, perform_eq]
    exact ih _

theorem length_draw (page : ScreenDataPage) (call : PageCall) :
    (call.draw page).rows.length = page.rows.length := by
  cases call with
  | highlight line =>
    rw [draw, ScreenDataPage.highlight]
    split_ifs <;> simp
  | shiftLines direction startId endId linesToShift =>
    exact page.length_shiftLines direction startId endId _
  | clear | highlightChars | update | setText =>
    simp [draw, ScreenDataPage.setText, ScreenDataPage.clear, ScreenDataPage.highlightChars]

end PageCall

/-! ## The highlighted row -/

def ScreenRow.isHighlighted (row : ScreenRow) : Bool := row.highlightState = .highlighted

section

variable {rows : List ScreenRow}

theorem RowCollection.countP_shifted_le {direction : ShiftDirection}
    {startId endId linesToShift : UInt8} (h : Shifts rows startId endId linesToShift) :
    (shifted rows direction startId.toNat (endId.toNat + 1) linesToShift.toNat).countP
      ScreenRow.isHighlighted ≤ rows.countP ScreenRow.isHighlighted := by
  obtain ⟨hspan, hend, hpos, hlines⟩ := h
  have hblank : defaultRowData.isHighlighted = false := rfl
  cases direction with
  | up =>
    refine (countP_filled_le hblank (by omega)).trans_eq ?_
    exact (rotated_perm (by omega) (by omega)).countP_eq _
  | down =>
    refine (countP_filled_le hblank (by omega)).trans_eq ?_
    exact (rotated_perm (by omega) (by omega)).countP_eq _

section

variable {f : ScreenRow → ScreenRow}
  (hf : ∀ row : ScreenRow, (f row).isHighlighted → row.isHighlighted)

include hf

theorem countP_isHighlighted_map_le :
    (rows.map f).countP ScreenRow.isHighlighted ≤ rows.countP ScreenRow.isHighlighted := by
  rw [countP_map]
  exact countP_mono_left fun row _ => hf row

theorem countP_isHighlighted_modify_le (i : ℕ) :
    (rows.modify i f).countP ScreenRow.isHighlighted ≤ rows.countP ScreenRow.isHighlighted := by
  induction rows generalizing i with
  | nil => cases i <;> exact le_rfl
  | cons row rows ih =>
    cases i with
    | zero =>
      rw [modify_zero_cons, countP_cons, countP_cons]
      have := hf row
      grind
    | succ i =>
      rw [modify_succ_cons, countP_cons, countP_cons]
      exact Nat.add_le_add_right (ih i) _

end

theorem countP_isHighlighted_clearHighlight :
    (rows.map ScreenRow.clearHighlight).countP ScreenRow.isHighlighted = 0 := by
  rw [countP_map]
  exact List.countP_eq_zero.mpr fun _ _ => Bool.false_ne_true

theorem countP_isHighlighted_modify_le_one (f : ScreenRow → ScreenRow) (i : ℕ) :
    ((rows.map ScreenRow.clearHighlight).modify i f).countP ScreenRow.isHighlighted ≤ 1 := by
  have hnone := @countP_isHighlighted_clearHighlight
  induction rows generalizing i with
  | nil => cases i <;> exact Nat.zero_le 1
  | cons row rows ih =>
    cases i with
    | zero =>
      rw [map_cons, modify_zero_cons, countP_cons, hnone]
      split_ifs <;> omega
    | succ i =>
      rw [map_cons, modify_succ_cons, countP_cons]
      exact ih i

end

namespace PageCall

theorem countP_draw_le_one {page : ScreenDataPage}
    (h : page.rows.countP ScreenRow.isHighlighted ≤ 1) (call : PageCall) :
    (call.draw page).rows.countP ScreenRow.isHighlighted ≤ 1 := by
  cases call with
  | clear => exact (countP_isHighlighted_map_le fun _ hrow => absurd hrow (by decide)).trans h
  | highlight line =>
    rw [draw, ScreenDataPage.highlight]
    split_ifs
    · exact countP_isHighlighted_clearHighlight.trans_le (Nat.zero_le 1)
    · exact h
    · exact countP_isHighlighted_modify_le_one _ _
  | highlightChars line start stop =>
    refine le_trans ?_ h
    exact countP_isHighlighted_modify_le (fun _ hrow => absurd hrow (of_decide_eq_false rfl)) _
  | shiftLines direction startId endId linesToShift =>
    refine le_trans ?_ h
    by_cases hshifts : RowCollection.Shifts page.rows startId endId linesToShift
    · rw [draw, RowCollection.pageShiftLines_rows hshifts]
      exact RowCollection.countP_shifted_le hshifts
    · rw [draw, RowCollection.pageShiftLines_of_not_shifts hshifts]
  | update line text =>
    refine le_trans ?_ h
    apply countP_isHighlighted_modify_le
    intro row hrow
    exact hrow
  | setText index text =>
    refine le_trans ?_ h
    apply countP_isHighlighted_modify_le
    intro row hrow
    exact hrow

theorem foldl_draw (page : ScreenDataPage) (calls : List PageCall)
    (h : page.rows.countP ScreenRow.isHighlighted ≤ 1) :
    (calls.foldl draw page).rows.length = page.rows.length ∧
      (calls.foldl draw page).rows.countP ScreenRow.isHighlighted ≤ 1 := by
  induction calls generalizing page with
  | nil => exact ⟨rfl, h⟩
  | cons call calls ih =>
    obtain ⟨hlength, hcount⟩ := ih (call.draw page) (countP_draw_le_one h call)
    exact ⟨hlength.trans (length_draw page call), hcount⟩

/-- Whatever is called on a new page, it ends within the rows: these are as many as they were, at
most one is highlighted, and a shift is then either refused or moves the lines of its span. -/
theorem run_withinRows (count : ℕ) (calls : List PageCall) :
    ∃ rows : RowCollection, run (RowCollection.ofRowCount count) calls = .ok rows ∧
      rows.length = count ∧ rows.countP ScreenRow.isHighlighted ≤ 1 ∧
      ∀ (direction : ShiftDirection) (startId endId linesToShift : UInt8),
        ∃ after : RowCollection,
          RowCollection.shiftLines rows direction startId endId linesToShift = .ok after ∧
          (RowCollection.Shifts rows startId endId linesToShift →
            ∀ i, after[i]? =
              RowCollection.lineAfterShift rows direction startId endId linesToShift i) ∧
          (¬ RowCollection.Shifts rows startId endId linesToShift → after = rows) := by
  have hnone : (RowCollection.ofRowCount count).countP ScreenRow.isHighlighted = 0 :=
    List.countP_eq_zero.mpr fun row hrow => by
      rw [RowCollection.eq_defaultRowData_of_mem hrow]
      exact Bool.false_ne_true
  obtain ⟨hlength, hcount⟩ := foldl_draw ⟨RowCollection.ofRowCount count⟩ calls
    (hnone.trans_le (Nat.zero_le 1))
  refine ⟨_, run_eq _ calls, hlength.trans (RowCollection.length_ofRowCount count), hcount,
    fun direction startId endId linesToShift => ?_⟩
  by_cases h : RowCollection.Shifts (calls.foldl draw ⟨RowCollection.ofRowCount count⟩).rows
      startId endId linesToShift
  · exact ⟨_, RowCollection.shiftLines_of_shifts h, fun _ => RowCollection.getElem?_shifted h,
      fun hnot => absurd h hnot⟩
  · exact ⟨_, RowCollection.shiftLines_of_not_shifts h, fun hshifts => absurd hshifts h,
      fun _ => rfl⟩

end PageCall

end AqualinkAutomate.Navigation
