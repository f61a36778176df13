import Aqualink.Iaq.Channel

/-!
# Pressing the buttons of the page that is shown

The buttons of a page outlive it: a page that starts does not take the table of buttons with
it, and a command presses whatever has the index on the page that is shown by then.  So the
notes follow which buttons were advertised since the last page started, and which of them was
looked up for the command that is pending.

`PressLaw` says that every press that goes out is one of a button that was advertised since
then.  It holds in every run in which each lookup finds an advertised button first, the
chlorinator's entry in a menu is looked up there and not remembered, and no page starts
between a lookup and its press (`pressLaw_of_fresh`).
-/

namespace AqualinkAutomate.Iaq

open General Navigation Equipment List

structure PressRecord where
  button : ResolvedButton
  advertised : Bool
  deriving DecidableEq

structure PressNotes where
  advertised : List ResolvedButton := []
  /-- The button that was looked up for the pending command. -/
  waiting : Option ResolvedButton := none
  pressed : List PressRecord := []

namespace PressNotes

/-- What the controller shows. -/
def see (notes : PressNotes) : IaqEvent → PressNotes
  | .message (.page (.pageStart _)) => { notes with advertised := [] }
  | .message (.page (.pageButton index name _)) =>
    if trimWhitespace name = [] then notes
    else { notes with advertised := notes.advertised ++ [⟨index, name⟩] }
  | _ => notes

def note (notes : PressNotes) : Effect → PressNotes
  | .pressed _ button _ => { notes with waiting := button }
  | .served _ calls _ =>
    match calls.command with
    | some _ => { notes with waiting := calls.press }
    | none => notes
  | .sentPending _ =>
    { notes with
      waiting := none
      pressed := notes.pressed ++ notes.waiting.toList.map fun button =>
        ⟨button, decide (button ∈ notes.advertised)⟩ }
  | _ => notes

end PressNotes

structure PressWatch where
  device : IaqDevice
  notes : PressNotes := {}

namespace PressWatch

def start (emulated : Bool) : PressWatch where
  device := { emulated := emulated }

def step (watch : PressWatch) (event : IaqEvent) : PressWatch where
  device := (watch.device.react event).1
  notes := (watch.device.react event).2.foldl PressNotes.note (watch.notes.see event)

end PressWatch

/-- Every press that went out was one of a button of the page. -/
def PressLaw (notes : PressNotes) : Prop := ∀ press ∈ notes.pressed, press.advertised = true

/-! ## What makes a lookup safe -/

namespace PressNotes

/-- A button that an earlier page left in the table and that a lookup would take stands behind
one that was advertised since and that it would take, too. -/
def Unspoilt (notes : PressNotes) (page : PageModel) (p : PageButtonInfo → Bool) : Prop :=
  ∀ index info, page.buttons index = some info → p info = true →
    ⟨index, info.name⟩ ∉ notes.advertised →
    ∃ lower < index, ∃ info', page.buttons lower = some info' ∧ p info' = true ∧
      ⟨lower, info'.name⟩ ∈ notes.advertised

theorem Unspoilt.advertised {notes : PressNotes} {page : PageModel} {p : PageButtonInfo → Bool}
    (h : notes.Unspoilt page p) {index : UInt8} (hfound : page.buttons.find? p = some index)
    {button : ResolvedButton} (hbutton : page.buttonAt index = some button) :
    button ∈ notes.advertised := by
  obtain ⟨⟨info, hinfo, hp⟩, hlower⟩ := ByteTable.find?_eq_some_iff.mp hfound
  obtain rfl : ⟨index, info.name⟩ = button := by
    rw [PageModel.buttonAt, hinfo] at hbutton
    exact Option.some_inj.mp hbutton
  by_contra hleft
  obtain ⟨lower, hlt, info', hinfo', hp', -⟩ := h index info hinfo hp hleft
  rw [hlower lower hlt info' hinfo'] at hp'
  cases hp'

end PressNotes

def menuLabelFound (page : PageModel) : Option Text :=
  AquaPureWriter.menuLabels.find? fun label => (page.findButtonContaining label).isSome

structure SafeToPoll (device : IaqDevice) (notes : PressNotes) : Prop where
  spaRemotes : device.hasPendingGoal .spaSwitch → device.spaSwitchWriter.settleCount = 0 →
    device.spaSwitchWriter.phase = .navigate →
    device.pageModel.pageId = SpaSwitchWriter.pageSetup →
    notes.Unspoilt device.pageModel (PageButtonInfo.matchesLabel "Spa Remotes".toList)
  field : ∀ goal ∈ device.aquaPureWriter.pending, device.aquaPureWriter.settleCount = 0 →
    device.aquaPureWriter.phase = .selectField →
    device.pageModel.pageId = AquaPureWriter.pageSetSwg →
    notes.Unspoilt device.pageModel
      (PageButtonInfo.nameContains (AquaPureWriter.fieldLabel goal))
  menu : device.hasPendingGoal .aquaPure → device.aquaPureWriter.settleCount = 0 →
    device.aquaPureWriter.phase = .navigate → device.pageModel.pageId = pageMenu →
    (∀ label ∈ menuLabelFound device.pageModel,
        notes.Unspoilt device.pageModel (PageButtonInfo.nameContains label)) ∧
      (device.pageModel.buttons.isEmpty → device.aquaPureWriter.menuAquaPureIndex = none)

def PressWatch.Fresh (watch : PressWatch) : IaqEvent → Prop
  | .message (.page (.pageStart _)) =>
    watch.device.pendingCommand = 0x00 ∨ watch.notes.waiting = none
  | .message .poll => SafeToPoll watch.device watch.notes
  | .request (.actuateDevice (some traits) _) =>
    watch.device.isEmulationActive = true → watch.notes.Unspoilt watch.device.pageModel
      (PageButtonInfo.matchesLabel (trimWhitespace (traits.label.getD [])))
  | _ => True

/-! ## Every button that is looked up is shown -/

def Effect.Shown (notes : PressNotes) : Effect → Prop
  | .pressed _ button _ => ∀ found ∈ button, found ∈ notes.advertised
  | .served _ calls _ => ∀ found ∈ calls.press, found ∈ notes.advertised
  | _ => True

section

variable {device : IaqDevice} {notes : PressNotes}

theorem menuEntry_eq (page : PageModel) :
    AquaPureWriter.menuEntry page = (menuLabelFound page).bind page.findButtonContaining := by
  unfold AquaPureWriter.menuEntry menuLabelFound
  induction AquaPureWriter.menuLabels with
  | nil => rfl
  | cons label labels ih =>
    cases hfound : page.findButtonContaining label with
    | none => rw [findSome?_cons, hfound, find?_cons_of_neg (by simp [hfound]), ih]
    | some index =>
      rw [findSome?_cons, hfound, find?_cons_of_pos (by simp [hfound]), Option.bind_some, hfound]

theorem SafeToPoll.menuEntry (h : SafeToPoll device notes)
    (hgoal : device.hasPendingGoal .aquaPure)
    (hsettled : device.aquaPureWriter.settleCount = 0)
    (hphase : device.aquaPureWriter.phase = .navigate)
    (hmenu : device.pageModel.pageId = pageMenu) {entry : ResolvedButton}
    (hentry : (device.aquaPureWriter.observeMenuPage device.pageModel).menuAquaPureIndex =
      some entry) : entry ∈ notes.advertised := by
  obtain ⟨hlabels, hempty⟩ := h.menu hgoal hsettled hphase hmenu
  unfold AquaPureWriter.observeMenuPage at hentry
  split at hentry
  · next hblank =>
      have hblank := hblank.resolve_left (not_not.mpr hmenu)
      rw [hempty hblank] at hentry
      cases hentry
  · rw [menuEntry_eq] at hentry
    cases hlabel : menuLabelFound device.pageModel with
    | none =>
      rw [hlabel] at hentry
      cases hentry
    | some label =>
      rw [hlabel, Option.bind_some] at hentry
      cases hindex : device.pageModel.findButtonContaining label with
      | none =>
        rw [hindex] at hentry
        cases hentry
      | some index =>
        rw [hindex] at hentry
        exact (hlabels label hlabel).advertised hindex hentry

theorem SafeToPoll.shown (h : SafeToPoll device notes) {name : WriterName}
    (hgoal : device.hasPendingGoal name) {found : ResolvedButton}
    (hfound : (device.pollCalls name).press = some found) : found ∈ notes.advertised := by
  cases name with
  | spaSwitch =>
    obtain ⟨-, hsettled, hphase, hpage, index, hindex, hbutton⟩ :=
      SpaSwitchWriter.press_processStep hfound
    rw [PageModel.findButtonByLabel] at hindex
    split at hindex
    · cases hindex
    · exact (h.spaRemotes hgoal hsettled hphase hpage).advertised hindex hbutton
  | aquaPure =>
    obtain ⟨goal, hpending, hsettled, hpress⟩ := AquaPureWriter.press_processStep hfound
    obtain ⟨hsame, hsamePhase, hsameCount⟩ :=
      device.aquaPureWriter.observeMenuPage_frame device.pageModel
    rw [hsame] at hpending
    rw [hsameCount] at hsettled
    rw [hsamePhase, AquaPureWriter.observeMenuPage_observeMenuPage] at hpress
    rcases hpress with ⟨hphase, hmenu, hentry⟩ | ⟨hphase, hpage, index, hindex, hbutton⟩
    · exact h.menuEntry hgoal hsettled hphase hmenu hentry
    · exact (h.field goal hpending hsettled hphase hpage).advertised hindex hbutton
  | schedule =>
    have hnone := device.scheduleWriter.press_processStep device.pageModel device.statusPage
    cases hnone.symm.trans hfound

theorem shown_queueSetpoint (field temperature : UInt8) :
    ∀ effect ∈ (device.queueSetpoint field temperature).1.2, effect.Shown notes := by
  intro effect heffect
  unfold IaqDevice.queueSetpoint at heffect
  split at heffect
  · cases heffect
  · obtain rfl := List.mem_singleton.mp heffect
    trivial

theorem shown_takeGoal (name : WriterName) (result : ActuationResult) :
    ∀ effect ∈ (IaqDevice.takeGoal name device result).1.2, effect.Shown notes := by
  intro effect heffect
  simp only [IaqDevice.takeGoal] at heffect
  split at heffect
  · obtain rfl := List.mem_singleton.mp heffect
    trivial
  · cases heffect

theorem shown_actuateDevice (target : Option AuxillaryTraits) (action : ActuationAction)
    (h : ∀ traits ∈ target, device.isEmulationActive →
      notes.Unspoilt device.pageModel
        (PageButtonInfo.matchesLabel (trimWhitespace (traits.label.getD [])))) :
    ∀ effect ∈ (device.actuateDevice target action).1.2, effect.Shown notes := by
  intro effect heffect
  rcases device.actuateDevice_cases target action with
    heq | ⟨traits, label, index, htarget, rfl, hactive, hindex, -, heq⟩
  · rw [heq] at heffect
    cases heffect
  · rw [heq] at heffect
    obtain rfl := List.mem_singleton.mp heffect
    intro found hfound
    rw [PageModel.findButtonByLabel] at hindex
    split at hindex
    · cases hindex
    · exact (h traits htarget hactive).advertised hindex hfound

end

/-! ## The law in every run -/

/-- What holds besides the law between two events. -/
structure PressInvariant (channel : Channel) (notes : PressNotes) : Prop where
  law : PressLaw notes
  waiting_shown : channel.pending ≠ 0x00 → ∀ found ∈ notes.waiting, found ∈ notes.advertised

namespace PressInvariant

variable {channel : Channel} {notes : PressNotes}

/-- The answer to a poll. -/
theorem send (h : PressInvariant channel notes) :
    PressInvariant channel.send (channel.sending.foldl PressNotes.note notes) := by
  unfold Channel.send Channel.sending
  cases hqueue : channel.queue with
  | cons command rest =>
    have hwaits : PressInvariant { channel with queue := rest } notes := ⟨h.law, h.waiting_shown⟩
    dsimp only
    split
    · exact hwaits
    · exact hwaits
  | nil =>
    dsimp only
    have hsent : ∀ notes : PressNotes, PressLaw notes →
        PressInvariant { channel with queue := [], pending := 0x00 } notes :=
      fun notes hlaw => ⟨hlaw, fun hne => absurd rfl hne⟩
    split
    · exact hsent notes h.law
    · split
      · exact hsent notes h.law
      · next hpending =>
          refine hsent _ fun press hpress => ?_
          rcases List.mem_append.mp hpress with hold | hnew
          · exact h.law press hold
          · obtain ⟨found, hfound, rfl⟩ := List.mem_map.mp hnew
            exact decide_eq_true (h.waiting_shown hpending found (Option.mem_toList.mp hfound))

theorem step {channel' : Channel} {effects : List Effect} (h : PressInvariant channel notes)
    (hstep : ChannelStep channel effects channel')
    (hshown : ∀ effect ∈ effects, effect.Shown notes) :
    PressInvariant channel' (effects.foldl PressNotes.note notes) := by
  cases hstep with
  | press command button wish =>
    exact ⟨h.law, fun _ => hshown _ (mem_singleton_self _)⟩
  | poll => exact h.send
  | pollServing name calls finished =>
    have hpress : ∀ found ∈ calls.press, found ∈ notes.advertised :=
      hshown (.served name calls finished) (mem_cons_of_mem _ mem_cons_self)
    have hserved : PressInvariant (channel.serve name calls finished)
        (notes.note (.served name calls finished)) := by
      cases hcommand : calls.command with
      | none =>
        refine ⟨?_, ?_⟩
        · rw [PressNotes.note, hcommand]
          exact h.law
        · rw [PressNotes.note, Channel.serve, hcommand]
          exact h.waiting_shown
      | some command =>
        refine ⟨?_, ?_⟩
        · rw [PressNotes.note, hcommand]
          exact h.law
        · rw [PressNotes.note, hcommand]
          exact fun _ => hpress
    exact hserved.send
  | answer value hawaiting => split <;> exact ⟨h.law, h.waiting_shown⟩
  | quiet | setpoint | survey | takeGoal | suppress => exact ⟨h.law, h.waiting_shown⟩

end PressInvariant

namespace PressWatch

variable {watch : PressWatch} {event : IaqEvent}

theorem see (h : PressInvariant watch.device.channel watch.notes) (hfresh : watch.Fresh event) :
    PressInvariant watch.device.channel (watch.notes.see event) := by
  unfold PressNotes.see
  split
  · refine ⟨h.law, fun hpending found hfound => ?_⟩
    rcases hfresh with hnothing | hnone
    · exact absurd hnothing hpending
    · cases hnone.symm.trans hfound
  · split
    · exact h
    · exact ⟨h.law, fun hpending found hfound =>
        mem_append_left _ (h.waiting_shown hpending found hfound)⟩
  · exact h

theorem shown (hfresh : watch.Fresh event) :
    ∀ effect ∈ (watch.device.react event).2, effect.Shown (watch.notes.see event) := by
  intro effect heffect
  cases event with
  | message message =>
    by_cases hpoll : message = .poll
    · subst hpoll
      rcases IaqDevice.mem_receive_poll heffect with
        rfl | ⟨name, finished, hgoal, rfl⟩ | ⟨command, rfl | rfl⟩
      · trivial
      · exact fun found hfound => SafeToPoll.shown hfresh hgoal hfound
      · trivial
      · trivial
    · rcases IaqDevice.mem_receive_of_ne_poll hpoll heffect with ⟨commands, rfl⟩ | ⟨value, rfl⟩
      · trivial
      · trivial
  | request request =>
    cases request with
    | actuateDevice target action =>
      refine shown_actuateDevice target action (fun traits htraits => ?_) effect heffect
      obtain rfl := htraits
      exact hfresh
    | poolSetpoint | spaSetpoint => exact shown_queueSetpoint _ _ effect heffect
    | actuatePageButton index =>
      obtain rfl := List.mem_singleton.mp heffect
      intro found hfound
      cases hfound
    | _ => exact shown_takeGoal _ _ effect heffect
  | enablePageSurvey registry => cases heffect
  | suppressEmulation =>
    obtain rfl := List.mem_singleton.mp heffect
    trivial

/-- What holds between two events. -/
def Invariant (watch : PressWatch) : Prop :=
  PressInvariant watch.device.channel watch.notes ∧ watch.device.channel.OneGoal

theorem Invariant.step (h : watch.Invariant) (hfresh : watch.Fresh event) :
    (watch.step event).Invariant := by
  have hstep := IaqDevice.channelStep_react h.2 event
  exact ⟨(see h.1 hfresh).step hstep (shown hfresh), hstep.oneGoal h.2⟩

end PressWatch

/-- In a run in which no press can go astray, none does. -/
theorem pressLaw_of_fresh (emulated : Bool) (events : List IaqEvent)
    (h : EachStep PressWatch.step PressWatch.Fresh (PressWatch.start emulated) events) :
    EachState PressWatch.step (fun watch => PressLaw watch.notes) (PressWatch.start emulated)
      events := by
  have hstart : (PressWatch.start emulated).Invariant := by
    refine ⟨⟨fun _ h => (not_mem_nil h).elim, fun h => absurd rfl h⟩, ?_⟩
    intro name _ h
    cases name <;> cases h
  have hrun := h.eachState_of_step (fun _ _ hinv hfresh => hinv.step hfresh) hstart
  exact hrun.mono fun _ hinv => hinv.1.law

/-- A light is switched on whose button is on the page. -/
theorem pressLaw_of_light :
    EachState PressWatch.step (fun watch => PressLaw watch.notes) (PressWatch.start true)
      [.message (.page (.pageStart pageHome)),
        .message (.page (.pageButton 4 "Pool Light".toList .off)),
        .request (.actuateDevice (some { label := some "Pool Light".toList }) .on),
        .message .poll] := by
  refine pressLaw_of_fresh true _ ⟨.inl rfl, trivial, fun _ => ?_, ?_, trivial⟩
  · intro index info hinfo _ hleft
    change ByteTable.empty.insert 4 ⟨"Pool Light".toList, .off⟩ index = some info at hinfo
    rw [ByteTable.insert_apply] at hinfo
    split at hinfo
    · next hindex =>
        cases hinfo
        rw [hindex] at hleft
        exact absurd (by decide) hleft
    · cases hinfo
  · refine ⟨fun hgoal => ?_, fun goal hgoal => ?_, fun hgoal => ?_⟩
    · exact absurd hgoal (by decide +kernel)
    · exact absurd (Option.isSome_iff_exists.mpr ⟨goal, hgoal⟩) (by decide +kernel)
    · exact absurd hgoal (by decide +kernel)

/-- A light is switched on whose button was on the page before. -/
theorem not_pressLaw_of_light_of_page_before :
    ¬ EachState PressWatch.step (fun watch => PressLaw watch.notes) (PressWatch.start true)
      [.message (.page (.pageStart pageHome)),
        .message (.page (.pageButton 4 "Pool Light".toList .off)),
        .message (.page (.pageStart pageMenu)),
        .request (.actuateDevice (some { label := some "Pool Light".toList }) .on),
        .message .poll] := by
  intro h
  have hlaw := h.last
  revert hlaw
  unfold PressLaw
  decide +kernel

end AqualinkAutomate.Iaq
