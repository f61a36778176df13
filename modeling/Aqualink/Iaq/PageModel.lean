import Aqualink.Equipment.Actuation
import Aqualink.General.ByteTable
import Aqualink.General.Runs

/-!
# The page of the touch panel

The AqualinkTouch shows one page at a time, which the controller sends piece by piece: it
starts a page, names its buttons, fills the rows of its tables, and ends it.  The page model
is what the device has put together from these pieces.

A page that starts takes the title and two of the tables with it, while the buttons and the
rows of the spa-switch picker stay until they are replaced one by one.
-/

namespace AqualinkAutomate.Iaq

open General Navigation

inductive ButtonStatuses where
  | off | on | enabled | enabledStandby | unknown
  deriving DecidableEq

structure PageButtonInfo where
  name : Text
  status : ButtonStatuses := .unknown
  deriving DecidableEq

def PageButtonInfo.matchesLabel (label : Text) (info : PageButtonInfo) : Bool :=
  (trimWhitespace label).isPrefixOf (trimWhitespace info.name)

structure PageModel where
  pageId : UInt8 := 0x00
  title : Text := []
  buttons : ByteTable PageButtonInfo := .empty
  scheduleRows : ByteTable Text := .empty
  devicePickerRows : ByteTable Text := .empty
  spaSwitchPickerRows : ByteTable Text := .empty

namespace PageModel

abbrev schedulePageId : UInt8 := 0x28
abbrev devicePickerPageId : UInt8 := 0x38

def setTitle (page : PageModel) (title : Text) : PageModel := { page with title := title }

def upsertButton (page : PageModel) (index : UInt8) (name : Text) (status : ButtonStatuses) :
    PageModel :=
  { page with buttons := page.buttons.insert index ⟨name, status⟩ }

def eraseButton (page : PageModel) (index : UInt8) : PageModel :=
  { page with buttons := page.buttons.erase index }

def findButtonByLabel (page : PageModel) (label : Text) : Option UInt8 :=
  if trimWhitespace label = [] then none
  else page.buttons.find? (PageButtonInfo.matchesLabel label)

def setScheduleRow (page : PageModel) (attr : UInt8) (text : Text) : PageModel :=
  { page with scheduleRows := page.scheduleRows.insert attr text }

def setDevicePickerRow (page : PageModel) (attr : UInt8) (label : Text) : PageModel :=
  { page with devicePickerRows := page.devicePickerRows.insert attr label }

def setSpaSwitchPickerRow (page : PageModel) (slot : UInt8) (function : Text) : PageModel :=
  { page with spaSwitchPickerRows := page.spaSwitchPickerRows.insert slot function }

def clearSpaSwitchPickerRows (page : PageModel) : PageModel :=
  { page with spaSwitchPickerRows := .empty }

def onPageStart (page : PageModel) (id : UInt8) : PageModel :=
  { page with
    pageId := id
    title := []
    scheduleRows := .empty
    devicePickerRows := .empty }

end PageModel

/-! ## The pieces of a page -/

inductive PageMessage where
  | pageStart (id : UInt8)
  | pageButton (index : UInt8) (name : Text) (status : ButtonStatuses)
  | titleMessage (title : Text)
  | tableMessage (line attr : UInt8) (text : Text)
  | pageEnd
  deriving DecidableEq

/-- The text of a picker row up to the terminator, which arrives as a question mark. -/
def pickerFunction (text : Text) : Text := trimWhitespace (text.takeWhile (· ≠ '?'))

namespace PageModel

/-- A row of the schedule list and one of the device picker count on their page only.  A row
of the spa-switch picker counts on every page, and its header row clears the picker. -/
def takeTableRow (page : PageModel) (line attr : UInt8) (text : Text) : PageModel :=
  let page := if page.pageId = schedulePageId then page.setScheduleRow attr text else page
  let page :=
    if page.pageId = devicePickerPageId ∧ line = 0x00 ∧ attr ≠ 0x00 then
      page.setDevicePickerRow attr text
    else page
  if line = 0x01 then
    if attr = 0x00 then page.clearSpaSwitchPickerRows
    else page.setSpaSwitchPickerRow attr (pickerFunction text)
  else page

/-- A button without a name is taken off the page. -/
def take (page : PageModel) : PageMessage → PageModel
  | .pageStart id => page.onPageStart id
  | .pageButton index name status =>
    if trimWhitespace name = [] then page.eraseButton index
    else page.upsertButton index name status
  | .titleMessage title => page.setTitle title
  | .tableMessage line attr text => page.takeTableRow line attr text
  | .pageEnd => page

/-! ### What a message leaves alone -/

theorem takeTableRow_frame (page : PageModel) (line attr : UInt8) (text : Text) :
    (page.takeTableRow line attr text).pageId = page.pageId ∧
      (page.takeTableRow line attr text).buttons = page.buttons := by
  unfold takeTableRow
  dsimp only
  split_ifs <;> exact ⟨rfl, rfl⟩

theorem pageId_take (page : PageModel) (message : PageMessage) :
    (page.take message).pageId =
      match message with
      | .pageStart id => id
      | _ => page.pageId := by
  cases message with
  | pageButton index name status =>
    simp only [take]
    split_ifs <;> rfl
  | tableMessage line attr text => exact (page.takeTableRow_frame line attr text).1
  | pageStart | titleMessage | pageEnd => rfl

theorem scheduleRows_take (page : PageModel) (message : PageMessage) :
    (page.take message).scheduleRows =
      match message with
      | .pageStart _ => .empty
      | .tableMessage _ attr text =>
        if page.pageId = schedulePageId then page.scheduleRows.insert attr text
        else page.scheduleRows
      | _ => page.scheduleRows := by
  cases message with
  | pageButton index name status =>
    simp only [take]
    split_ifs <;> rfl
  | tableMessage line attr text =>
    simp only [take, takeTableRow]
    split_ifs <;> rfl
  | pageStart | titleMessage | pageEnd => rfl

end PageModel

/-!
## What a writer gives to the command channel

Three writers work on the touch panel: one for the chlorinator, one for the spa switches, one
for the programs.  A writer that has a goal takes a step with each poll of the controller.
The step sees the page and issues at most one command, which the device sends with its answer
to the poll; it may also arm a value, which the device sends when the controller asks for it.
-/

open Equipment

structure ResolvedButton where
  index : UInt8
  name : Text
  deriving DecidableEq

def PageModel.buttonAt (page : PageModel) (index : UInt8) : Option ResolvedButton :=
  (page.buttons index).map fun info => ⟨index, info.name⟩

/-- What a step gives to the channel.  `press` notes which button a command presses, if it
presses one that was looked up; the controller sees the command only. -/
structure SinkCalls where
  command : Option UInt8 := none
  controlValue : Option Text := none
  press : Option ResolvedButton := none
  deriving DecidableEq

/-- A step of a writer.  `finished` is what it reports of its goal when the goal ends. -/
structure WriterStep (ω : Type*) where
  writer : ω
  calls : SinkCalls := {}
  finished : Option Bool := none

/-- The command that lets a poll pass. -/
abbrev cmdDwell : UInt8 := 0x00

/-- The menu key of the panel, which is its back key as well. -/
abbrev cmdBack : UInt8 := 0x02

abbrev cmdPageButtonBase : UInt8 := 0x11
abbrev cmdSubmitValue : UInt8 := 0x80

abbrev pageHome : UInt8 := 0x01
abbrev pageMenu : UInt8 := 0x0F

def pressCommandFor (index : UInt8) : UInt8 := cmdPageButtonBase + index

namespace SinkCalls

def issue (command : UInt8) : SinkCalls := { command := some command }

def pressButton (page : PageModel) (index : UInt8) : SinkCalls :=
  { command := some (pressCommandFor index), press := page.buttonAt index }

end SinkCalls

namespace WriterStep

variable {ω : Type*}

def dwell (writer : ω) : WriterStep ω := { writer := writer, calls := .issue cmdDwell }

/-- Nothing is issued, so what waits in the channel is left there. -/
def rest (writer : ω) : WriterStep ω := { writer := writer }

/-! ### What the steps of a writer have in common -/

variable {hasGoal : ω → Bool} {writer : ω} {calls : SinkCalls}

/-- A step that a writer takes for its goal.  The writer keeps the goal until it reports it,
which it does in a poll that it lets pass, and it arms a value only with the submit. -/
structure Regular (hasGoal : ω → Bool) (step : WriterStep ω) : Prop where
  goal : hasGoal step.writer = step.finished.isNone
  dwells : step.finished.isSome → step.calls = .issue cmdDwell
  submits : step.calls.controlValue.isSome → step.calls.command = some cmdSubmitValue

theorem regular_of_working (hgoal : hasGoal writer) (hvalue : calls.controlValue = none) :
    (WriterStep.mk writer calls none).Regular hasGoal where
  goal := hgoal
  dwells h := by cases h
  submits h := by rw [hvalue] at h; cases h

theorem regular_of_submit {value : Text} (hgoal : hasGoal writer) :
    (WriterStep.mk writer { command := some cmdSubmitValue, controlValue := some value }
      none).Regular hasGoal where
  goal := hgoal
  dwells h := by cases h
  submits _ := rfl

theorem regular_of_finish {ok : Bool} (hgoal : hasGoal writer = false) :
    (WriterStep.mk writer (.issue cmdDwell) (some ok)).Regular hasGoal where
  goal := hgoal
  dwells _ := rfl
  submits h := by cases h

end WriterStep

/-- What the answer of a writer to a request says: one that accepts it was free, and takes the
goal; one that refuses it stays as it is. -/
structure Queued {ω : Type*} (hasGoal : ω → Bool) (writer : ω) (allowed busy : Bool)
    (queued : ω × ActuationResult) : Prop where
  refused : queued.2 ≠ .accepted → queued.1 = writer
  accepted : queued.2 = .accepted → allowed ∧ busy = false ∧ hasGoal queued.1

theorem queued_of_refused {ω : Type*} {hasGoal : ω → Bool} {writer : ω} {allowed busy : Bool}
    {result : ActuationResult} (h : result ≠ .accepted) :
    Queued hasGoal writer allowed busy (writer, result) where
  refused _ := rfl
  accepted haccepted := absurd haccepted h

def decimal (n : ℕ) : Text := Nat.toDigits 10 n

end AqualinkAutomate.Iaq
